import PlantAssistant.Panel.AuthState
import PlantAssistant.Transition.Since

/-! # Sessions over runs

Who is logged in is decided by the last registration or login that succeeded,
unless a logout came after it.
-/

namespace PlantAssistant.Panel

open Transition

/-- A call after which the session is as before it. -/
def KeepsSession (data : AuthData) (call : AuthCall) : Prop :=
  call ≠ .logoutUser ∧ ∀ phone password, ¬ Opens data call phone password

/-- The last successful session operation of a run was a registration or login
with this phone and password, and no logout followed it. -/
def SessionOpened (calls : List AuthCall) (phone password : Text) : Prop :=
  authSystem.Since (fun data call => Opens data call phone password) KeepsSession calls

/-! ## What a run leaves behind -/

/-- A stored password stays. -/
def KeepsPasswords (data next : AuthData) : Prop :=
  ∀ phone password, data.storedPassword phone = some password →
    next.storedPassword phone = some password

theorem KeepsPasswords.of_accounts {data next : AuthData}
    (haccounts : next.accounts = data.accounts) : KeepsPasswords data next := by
  intro phone password hstored
  rwa [AuthData.storedPassword, haccounts]

theorem OpensWith.keepsPasswords {data opened : AuthData} {phone password : Text}
    (hopens : OpensWith data opened phone password) : KeepsPasswords data opened := by
  rcases hopens.accounts with hsame | ⟨-, hadded⟩
  · exact KeepsPasswords.of_accounts hsame
  · intro other stored hstored
    obtain ⟨account, haccount, rfl⟩ := Option.map_eq_some_iff.mp hstored
    rw [AuthData.storedPassword, hadded, List.lookup_append, haccount]
    rfl

theorem call_keepsPasswords (data : AuthData) (call : AuthCall) :
    KeepsPasswords data (data.call call).1 := by
  rcases call_cases data call with ⟨phone, password, -, hopens⟩ | rfl | ⟨hsame, -⟩
  · exact hopens.keepsPasswords
  · exact KeepsPasswords.of_accounts rfl
  · rw [hsame]
    exact fun _ _ hstored => hstored

theorem runFrom_keepsPasswords (data : AuthData) (calls : List AuthCall) :
    KeepsPasswords data (authSystem.runFrom data calls) := by
  induction calls generalizing data with
  | nil => exact fun _ _ hstored => hstored
  | cons call calls ih =>
      intro phone password hstored
      exact ih _ phone password (call_keepsPasswords data call phone password hstored)

/-- Accounts are kept under phone numbers that are not empty. -/
def NamedAccounts (data : AuthData) : Prop := data.hasAccount [] = false

theorem namedAccounts_invariant : authSystem.Invariant NamedAccounts where
  init := rfl
  step data call hnamed := by
    rw [authSystem_step]
    rcases call_cases data call with ⟨phone, password, -, hopens⟩ | rfl | ⟨hsame, -⟩
    · rcases hopens.accounts with haccounts | ⟨hfresh, haccounts⟩
      · rwa [NamedAccounts, AuthData.hasAccount, haccounts]
      · have hphone : strip phone ≠ [] := by
          rcases hopens.nonempty with hphone | hregistered
          · exact hphone
          · rw [hasAccount_eq, hfresh] at hregistered
            cases hregistered
        have hother : List.lookup [] [(strip phone, Account.mk password)] = none := by
          simpa using Ne.symm hphone
        rw [NamedAccounts, AuthData.hasAccount] at *
        rw [haccounts, List.lookup_append, Option.isSome_or, hnamed, hother]
        rfl
    · exact hnamed
    · rwa [hsame]

/-- The session of a run as the calls describe it. -/
structure TracksSession (calls : List AuthCall) : Prop where
  opened : ∀ phone password, SessionOpened calls phone password →
    (authSystem.run calls).activeUser = some (strip phone) ∧
      (authSystem.run calls).sessionLoggedIn = true ∧
      (authSystem.run calls).storedPassword (strip phone) = some password
  closed : (¬ ∃ phone password, SessionOpened calls phone password) →
    (authSystem.run calls).sessionLoggedIn = false

theorem Opens.unique {data : AuthData} {call : AuthCall} {phone password phone' password' : Text}
    (hfirst : Opens data call phone password) (hsecond : Opens data call phone' password') :
    phone = phone' ∧ password = password' := by
  rcases hfirst.call_eq with rfl | rfl
  · rcases hsecond.call_eq with hcall | hcall
    · cases hcall
      exact ⟨rfl, rfl⟩
    · cases hcall
  · rcases hsecond.call_eq with hcall | hcall
    · cases hcall
    · cases hcall
      exact ⟨rfl, rfl⟩

theorem tracks_opened {calls : List AuthCall} {call : AuthCall} {phone password : Text}
    (hopens : Opens (authSystem.run calls) call phone password)
    (hwith : OpensWith (authSystem.run calls) ((authSystem.run calls).call call).1 phone password) :
    TracksSession (calls ++ [call]) where
  opened phone' password' hopened := by
    rw [SessionOpened, System.since_concat] at hopened
    rw [System.run_concat, authSystem_step]
    rcases hopened with hopens' | ⟨-, -, hnot⟩
    · obtain ⟨rfl, rfl⟩ := hopens.unique hopens'
      exact ⟨hwith.activeUser, hwith.sessionLoggedIn, hwith.storedPassword⟩
    · exact absurd hopens (hnot phone password)
  closed hclosed := by
    have hopened : SessionOpened (calls ++ [call]) phone password :=
      (System.since_concat calls call).mpr (Or.inl hopens)
    exact absurd ⟨phone, password, hopened⟩ hclosed

theorem tracks_logout (calls : List AuthCall) : TracksSession (calls ++ [.logoutUser]) where
  opened phone password hopened := by
    rw [SessionOpened, System.since_concat] at hopened
    rcases hopened with ⟨hcall | hcall, -⟩ | ⟨-, hnot, -⟩
    · cases hcall
    · cases hcall
    · exact absurd rfl hnot
  closed _ := by
    rw [System.run_concat]
    rfl

/-- A call that fails leaves the session as it was. -/
theorem TracksSession.failed {calls : List AuthCall} (htracks : TracksSession calls)
    {call : AuthCall} {text : String}
    (hsame : ((authSystem.run calls).call call).1 = authSystem.run calls)
    (hfails : ((authSystem.run calls).call call).2 = some (false, text)) :
    TracksSession (calls ++ [call]) := by
  have hnot : ∀ phone password, ¬ Opens (authSystem.run calls) call phone password := by
    rintro phone password ⟨-, text', hsucceeds⟩
    rw [hfails] at hsucceeds
    cases hsucceeds
  have hkeeps : KeepsSession (authSystem.run calls) call := by
    refine ⟨?_, hnot⟩
    rintro rfl
    cases hfails
  have hopened (phone password : Text) :
      SessionOpened (calls ++ [call]) phone password ↔ SessionOpened calls phone password := by
    rw [SessionOpened, System.since_concat]
    constructor
    · rintro (hopens | ⟨hopened, -⟩)
      · exact absurd hopens (hnot phone password)
      · exact hopened
    · exact fun hopened => Or.inr ⟨hopened, hkeeps⟩
  have hrun : authSystem.run (calls ++ [call]) = authSystem.run calls := by
    rw [System.run_concat, authSystem_step, hsame]
  constructor
  · intro phone password hsession
    rw [hrun]
    exact htracks.opened phone password ((hopened phone password).mp hsession)
  · intro hclosed
    simp only [hopened] at hclosed
    rw [hrun]
    exact htracks.closed hclosed

theorem tracksSession (calls : List AuthCall) : TracksSession calls := by
  induction calls using List.reverseRecOn with
  | nil =>
      refine ⟨?_, fun _ => rfl⟩
      intro phone password hopened
      exact absurd hopened System.not_since_nil
  | append_singleton calls call ih =>
      rcases call_cases (authSystem.run calls) call with
        ⟨phone, password, hopens, hwith⟩ | rfl | ⟨hsame, text, hfails⟩
      · exact tracks_opened hopens hwith
      · exact tracks_logout calls
      · exact ih.failed hsame hfails

theorem hasLoggedInSession_iff (calls : List AuthCall) :
    (authSystem.run calls).hasLoggedInSession = true ↔
      ∃ phone password, SessionOpened calls phone password := by
  have htracks := tracksSession calls
  constructor
  · intro hsession
    by_contra hclosed
    rw [AuthData.hasLoggedInSession, htracks.closed hclosed] at hsession
    cases hsession
  · rintro ⟨phone, password, hopened⟩
    obtain ⟨hactive, hlogged, hstored⟩ := htracks.opened phone password hopened
    have hnamed := namedAccounts_invariant.run calls
    have hphone : strip phone ≠ [] := by
      intro hempty
      rw [NamedAccounts, hasAccount_eq, ← hempty, hstored] at hnamed
      cases hnamed
    rw [AuthData.hasLoggedInSession, hlogged, hactive]
    simpa using hphone

/-- A call that returns `False` leaves the data as they are. -/
def FailsUnchanged (data : AuthData) (call : AuthCall) : Prop :=
  ∀ text, (data.call call).2 = some (false, text) → (data.call call).1 = data

theorem failsUnchanged (data : AuthData) (call : AuthCall) : FailsUnchanged data call := by
  intro text hfails
  rcases call_cases data call with ⟨phone, password, ⟨-, text', hsucceeds⟩, -⟩ | rfl | ⟨hsame, -⟩
  · rw [hsucceeds] at hfails
    cases hfails
  · cases hfails
  · exact hsame

theorem session_sound (calls : List AuthCall) :
    ((authSystem.run calls).hasLoggedInSession = true ↔
        ∃ phone password, SessionOpened calls phone password) ∧
      (∀ phone password, SessionOpened calls phone password →
        (authSystem.run calls).activeUser = some (strip phone) ∧
          (authSystem.run calls).hasAccount (strip phone) = true ∧
          (authSystem.run calls).storedPassword (strip phone) = some password) ∧
      (∀ before after, calls = before ++ after →
        KeepsPasswords (authSystem.run before) (authSystem.run calls)) ∧
      ∀ call, FailsUnchanged (authSystem.run calls) call := by
  refine ⟨hasLoggedInSession_iff calls, ?_, ?_, ?_⟩
  · intro phone password hopened
    obtain ⟨hactive, -, hstored⟩ := (tracksSession calls).opened phone password hopened
    refine ⟨hactive, ?_, hstored⟩
    rw [hasAccount_eq, hstored]
    rfl
  · rintro before after rfl
    rw [System.run_append]
    exact runFrom_keepsPasswords _ after
  · exact failsUnchanged _

end PlantAssistant.Panel
