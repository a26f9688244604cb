import PlantAssistant.Panel.Pages
import PlantAssistant.Transition.Since

/-! # What the login page leaves behind

The fields of the login page are never cleared, so that they go on spelling the
credentials of the session they opened. The port is opened from the dashboard
only, and stays open when the user leaves.
-/

namespace PlantAssistant.Panel

open Transition

/-! ## Stored passwords -/

/-- Every stored password has at least four characters. -/
def LongPasswords (data : AuthData) : Prop :=
  ∀ phone password, data.storedPassword phone = some password → 4 ≤ password.length

theorem LongPasswords.of_accounts {data next : AuthData} (hlong : LongPasswords data)
    (haccounts : next.accounts = data.accounts) : LongPasswords next := by
  intro phone password hstored
  rw [AuthData.storedPassword, haccounts] at hstored
  exact hlong phone password hstored

theorem LongPasswords.registerUser {data : AuthData} (hlong : LongPasswords data)
    (phone password : Text) : LongPasswords (data.registerUser phone password).1 := by
  unfold AuthData.registerUser
  dsimp only
  split_ifs with hdigits hshort hknown
  · exact hlong
  · exact hlong
  · exact hlong
  · intro other stored hstored
    obtain ⟨account, haccount, rfl⟩ := Option.map_eq_some_iff.mp hstored
    rw [List.lookup_append, Option.or_eq_some_iff] at haccount
    rcases haccount with hold | ⟨-, hnew⟩
    · exact hlong other account.password (congrArg (Option.map Account.password) hold)
    · obtain rfl : account = ⟨password⟩ := by
        rw [List.lookup_cons] at hnew
        split at hnew
        · exact (Option.some.inj hnew).symm
        · cases hnew
      exact not_lt.mp hshort

theorem longPasswords_invariant : authSystem.Invariant LongPasswords where
  init phone password hstored := by cases hstored
  step data call hlong := by
    rw [authSystem_step]
    cases call with
    | registerUser phone password => exact hlong.registerUser phone password
    | loginUser phone password =>
        apply hlong.of_accounts
        change (data.loginUser phone password).1.accounts = data.accounts
        unfold AuthData.loginUser
        dsimp only
        split
        · rfl
        · split <;> rfl
    | logoutUser => exact hlong.of_accounts rfl

/-! ## The fields -/

/-- A login with the fields as they are opens the session there is. -/
structure SpellsSession (w : Window) : Prop where
  activeUser : w.auth.activeUser = some (strip (strip w.phoneEdit))
  sessionLoggedIn : w.auth.sessionLoggedIn = true
  storedPassword : w.auth.storedPassword (strip (strip w.phoneEdit)) = some w.passwordEdit

theorem spellsSession_answered {w : Window} (hlogin : w.page = .login) {out : AuthData × Answer}
    (hanswers : Answers w.auth out (strip w.phoneEdit) w.passwordEdit)
    (hpage : (w.answered out).page ≠ .login) : SpellsSession (w.answered out) := by
  rcases hanswers with ⟨text, rfl⟩ | ⟨⟨text, hsucceeds⟩, hopens⟩
  · exact absurd hlogin hpage
  · unfold Window.answered
    dsimp only
    rw [hsucceeds, if_pos rfl]
    exact ⟨hopens.activeUser, hopens.sessionLoggedIn, hopens.storedPassword⟩

/-- An event other than a restart leads beyond the login page only by opening a
session with the fields, and changes neither them nor the accounts there. -/
theorem step_beyond_login (port : SerialPort) (w : Window) {event : WindowEvent}
    (hevent : event ≠ .restart) (hpage : (w.step port event).page ≠ .login) :
    w.page = .login ∧ SpellsSession (w.step port event) ∨
      w.page ≠ .login ∧ (w.step port event).auth = w.auth ∧
        (w.step port event).phoneEdit = w.phoneEdit ∧
        (w.step port event).passwordEdit = w.passwordEdit := by
  cases event with
  | phoneEdited | passwordEdited | confirmEdited =>
      unfold Window.step at hpage ⊢
      dsimp only at hpage ⊢
      split at hpage
      next hlogin => exact absurd hlogin hpage
      next hother => exact .inr (by simp [hother])
  | registerClicked =>
      unfold Window.step Window.register at hpage ⊢
      dsimp only at hpage ⊢
      by_cases hlogin : w.page = .login
      · rw [if_pos hlogin] at hpage ⊢
        split_ifs at hpage ⊢
        · exact absurd hlogin hpage
        · exact .inl ⟨hlogin, spellsSession_answered hlogin (answers_registerUser _ _ _) hpage⟩
      · rw [if_neg hlogin]
        exact .inr ⟨hlogin, rfl, rfl, rfl⟩
  | loginClicked =>
      unfold Window.step Window.login at hpage ⊢
      dsimp only at hpage ⊢
      by_cases hlogin : w.page = .login
      · rw [if_pos hlogin] at hpage ⊢
        exact .inl ⟨hlogin, spellsSession_answered hlogin (answers_loginUser _ _ _) hpage⟩
      · rw [if_neg hlogin]
        exact .inr ⟨hlogin, rfl, rfl, rfl⟩
  | wakeClicked =>
      unfold Window.step at hpage ⊢
      dsimp only at hpage ⊢
      split
      next hwake => exact .inr ⟨by rw [hwake]; decide, rfl, rfl, rfl⟩
      next hother =>
        rw [if_neg hother] at hpage
        exact .inr ⟨hpage, rfl, rfl, rfl⟩
  | logoutClicked confirmed =>
      unfold Window.step Window.logout at hpage ⊢
      dsimp only at hpage ⊢
      split_ifs at hpage ⊢
      · exact absurd rfl hpage
      · exact .inr ⟨hpage, rfl, rfl, rfl⟩
      · exact .inr ⟨hpage, rfl, rfl, rfl⟩
  | onDashboard event =>
      unfold Window.step at hpage ⊢
      dsimp only at hpage ⊢
      split at hpage
      next hadmits =>
        rw [if_pos hadmits]
        unfold Window.onDashboard at hpage ⊢
        dsimp only at hpage ⊢
        split at hpage
        next hrefreshes =>
          rw [if_pos hrefreshes]
          exact .inr ⟨hpage, rfl, rfl, rfl⟩
        next hother =>
          rw [if_neg hother]
          exact .inr ⟨hpage, rfl, rfl, rfl⟩
      next hother =>
        rw [if_neg hother]
        exact .inr ⟨hpage, rfl, rfl, rfl⟩
  | disconnected => exact .inr ⟨hpage, rfl, rfl, rfl⟩
  | restart => exact absurd rfl hevent

/-! ## Coming back -/

/-- The login page is left, and not shown again nor the program restarted. -/
def LeavesLogin (port : SerialPort) (w : Window) (event : WindowEvent) : Prop :=
  w.page = .login ∧ (w.step port event).page ≠ .login

def StaysBeyond (port : SerialPort) (w : Window) (event : WindowEvent) : Prop :=
  (w.step port event).page ≠ .login ∧ event ≠ .restart

theorem not_spellsSession_start {auth : AuthData} (hlong : LongPasswords auth) :
    ¬ SpellsSession (Window.start auth) := by
  rintro ⟨-, -, hstored⟩
  have hempty : (Window.start auth).passwordEdit = [] := by
    unfold Window.start
    dsimp only
    split <;> rfl
  rw [Window.auth_start, hempty] at hstored
  have hlength := hlong _ _ hstored
  exact absurd hlength (by decide)

theorem spellsSession_step {w : Window} (hrouted : Routed w) (hlong : LongPasswords w.auth)
    (port : SerialPort) (event : WindowEvent) :
    ((w.step port event).page ≠ .login ∧ SpellsSession (w.step port event)) ↔
      LeavesLogin port w event ∨
        (w.page ≠ .login ∧ SpellsSession w) ∧ StaysBeyond port w event := by
  by_cases hevent : event = .restart
  · subst hevent
    refine iff_of_false (fun hboth => not_spellsSession_start hlong hboth.2) ?_
    rintro (⟨hlogin, hleaves⟩ | ⟨-, -, hother⟩)
    · -- without a session a restart leads back to the login page
      have hsession := hrouted.page.mp hlogin
      refine hleaves ((routed_start w.auth).page.mpr ?_)
      rwa [Window.auth_start]
    · exact hother rfl
  · constructor
    · rintro ⟨hpage, hspells⟩
      rcases step_beyond_login port w hevent hpage with
        ⟨hlogin, -⟩ | ⟨hbeyond, hauth, hphone, hpassword⟩
      · exact .inl ⟨hlogin, hpage⟩
      · obtain ⟨hactive, hlogged, hstored⟩ := hspells
        rw [hauth, hphone] at hactive
        rw [hauth] at hlogged
        rw [hauth, hphone, hpassword] at hstored
        exact .inr ⟨⟨hbeyond, hactive, hlogged, hstored⟩, hpage, hevent⟩
    · rintro (⟨hlogin, hpage⟩ | ⟨⟨hbeyond, hactive, hlogged, hstored⟩, hpage, -⟩)
      · rcases step_beyond_login port w hevent hpage with ⟨-, hspells⟩ | ⟨hbeyond, -⟩
        · exact ⟨hpage, hspells⟩
        · exact absurd hlogin hbeyond
      · rcases step_beyond_login port w hevent hpage with
          ⟨-, hspells⟩ | ⟨-, hauth, hphone, hpassword⟩
        · exact ⟨hpage, hspells⟩
        · refine ⟨hpage, ?_, ?_, ?_⟩
          · rwa [hauth, hphone]
          · rwa [hauth]
          · rwa [hauth, hphone, hpassword]

/-- The user confirms the logout and clicks on the login button. -/
def leaveAndLogin (port : SerialPort) (w : Window) : Window :=
  (w.step port (.logoutClicked true)).step port .loginClicked

theorem leaveAndLogin_eq (port : SerialPort) {w : Window} (hpage : w.page = .dashboard) :
    leaveAndLogin port w =
      { w with auth := w.auth.logoutUser, page := .login }.answered
        (w.auth.logoutUser.loginUser (strip w.phoneEdit) w.passwordEdit) := by
  have hleft : w.step port (.logoutClicked true) =
      { w with auth := w.auth.logoutUser, page := .login } := by
    change (if w.page = .dashboard then w.logout true else w) = _
    rw [if_pos hpage]
    rfl
  rw [leaveAndLogin, hleft]
  rfl

theorem leaveAndLogin_iff (port : SerialPort) {w : Window} (hpage : w.page = .dashboard) :
    (leaveAndLogin port w).page = .wake ∧ (leaveAndLogin port w).auth = w.auth ↔
      SpellsSession w := by
  rw [leaveAndLogin_eq port hpage, Window.auth_answered]
  constructor
  · rintro ⟨hwake, hauth⟩
    rcases answers_loginUser w.auth.logoutUser (strip w.phoneEdit) w.passwordEdit with
      ⟨text, hout⟩ | ⟨-, hopens⟩
    · rw [hout] at hwake
      cases hwake
    · rw [hauth] at hopens
      exact ⟨hopens.activeUser, hopens.sessionLoggedIn, hopens.storedPassword⟩
  · rintro ⟨hactive, hlogged, hstored⟩
    obtain ⟨account, haccount, hpassword⟩ := Option.map_eq_some_iff.mp hstored
    have hout : w.auth.logoutUser.loginUser (strip w.phoneEdit) w.passwordEdit =
        (w.auth, true, "登录成功。") := by
      have hlookup : w.auth.logoutUser.accounts.lookup (strip (strip w.phoneEdit)) = some account :=
        haccount
      unfold AuthData.loginUser
      dsimp only
      rw [hlookup]
      dsimp only
      rw [if_neg (not_not.mpr hpassword), ← hactive, ← hlogged]
      rfl
    rw [hout]
    exact ⟨rfl, rfl⟩

theorem loginFields_invariant (port : SerialPort) :
    (windowSystem port).Invariant fun w =>
      (NamedAccounts w.auth ∧ Routed w) ∧ LongPasswords w.auth where
  init := ⟨(routed_invariant port).init, longPasswords_invariant.init⟩
  step w event hinv := by
    refine ⟨(routed_invariant port).step w event hinv.1, ?_⟩
    change LongPasswords (w.step port event).auth
    rw [w.auth_step port event]
    exact longPasswords_invariant.runFrom hinv.2 _

/-- Who leaves the dashboard is logged in again by one click on the login button,
exactly if the program was not restarted since the login page was left. -/
theorem relogin_iff (port : SerialPort) (events : List WindowEvent)
    (hpage : ((windowSystem port).run events).page = .dashboard) :
    let w := (windowSystem port).run events
    (leaveAndLogin port w).page = .wake ∧ (leaveAndLogin port w).auth = w.auth ↔
      (windowSystem port).Since (LeavesLogin port) (StaysBeyond port) events := by
  intro w
  have hsince := (loginFields_invariant port).since_iff
    (fun w => w.page ≠ .login ∧ SpellsSession w) (fun hinit => hinit.1 rfl)
    (fun w event hinv => spellsSession_step hinv.1.2 hinv.2 port event) events
  have hbeyond : w.page ≠ .login := by
    rw [hpage]
    decide
  rw [leaveAndLogin_iff port hpage, ← hsince]
  exact (and_iff_right hbeyond).symm

/-- Registering, waking the system, leaving and clicking on the login button. -/
theorem relogin_after_registration :
    let events : List WindowEvent :=
      [.phoneEdited "13800000000".toList, .passwordEdited "abcd".toList,
        .confirmEdited "abcd".toList, .registerClicked, .wakeClicked]
    let w := (windowSystem fun _ => true).run events
    w.page = .dashboard ∧
      ((leaveAndLogin (fun _ => true) w).page = .wake ∧
          (leaveAndLogin (fun _ => true) w).auth = w.auth ↔
        (windowSystem fun _ => true).Since (LeavesLogin fun _ => true)
          (StaysBeyond fun _ => true) events) :=
  ⟨by decide +kernel, relogin_iff _ _ (by decide +kernel)⟩

/-! ## The port -/

/-- Nobody has touched the dashboard. -/
structure Untouched (w : Window) : Prop where
  page : w.page ≠ .dashboard
  connected : w.connected = false
  sent : w.dashboard.sent = []
  pumpManualOverride : w.dashboard.pumpManualOverride = false

/-- A user who is logged in wakes the system. -/
def Wakes (w : Window) (event : WindowEvent) : Prop :=
  event = .wakeClicked ∧ w.page = .wake ∧ w.auth.hasLoggedInSession = true

theorem untouched_start (auth : AuthData) : Untouched (Window.start auth) := by
  unfold Window.start
  dsimp only
  split
  · exact ⟨by simp [Window.showWakePage], rfl, rfl, rfl⟩
  · exact ⟨by simp, rfl, rfl, rfl⟩

theorem Untouched.answered {w : Window} (huntouched : Untouched w) (out : AuthData × Answer) :
    Untouched (w.answered out) := by
  obtain ⟨hpage, hclosed, hsent, hoverride⟩ := huntouched
  unfold Window.answered
  dsimp only
  split
  · exact ⟨by simp [Window.showWakePage], hclosed, hsent, hoverride⟩
  · exact ⟨hpage, hclosed, hsent, hoverride⟩

theorem Untouched.step {w : Window} (huntouched : Untouched w) (hrouted : Routed w)
    (port : SerialPort) {event : WindowEvent} (hasleep : ¬ Wakes w event) :
    Untouched (w.step port event) := by
  obtain ⟨hpage, hclosed, hsent, hoverride⟩ := huntouched
  cases event with
  | phoneEdited | passwordEdited | confirmEdited =>
      unfold Window.step
      dsimp only
      split
      · exact ⟨hpage, hclosed, hsent, hoverride⟩
      · exact ⟨hpage, hclosed, hsent, hoverride⟩
  | registerClicked =>
      unfold Window.step Window.register
      dsimp only
      split_ifs
      · exact ⟨hpage, hclosed, hsent, hoverride⟩
      · exact Untouched.answered ⟨hpage, hclosed, hsent, hoverride⟩ _
      · exact ⟨hpage, hclosed, hsent, hoverride⟩
  | loginClicked =>
      unfold Window.step Window.login
      dsimp only
      split
      · exact Untouched.answered ⟨hpage, hclosed, hsent, hoverride⟩ _
      · exact ⟨hpage, hclosed, hsent, hoverride⟩
  | wakeClicked =>
      have hother : w.page ≠ .wake := by
        intro hwake
        have hsession : w.auth.hasLoggedInSession ≠ false :=
          hrouted.page.not.mp (by rw [hwake]; decide)
        exact hasleep ⟨rfl, hwake, Bool.eq_true_of_not_eq_false hsession⟩
      unfold Window.step
      dsimp only
      rw [if_neg hother]
      exact ⟨hpage, hclosed, hsent, hoverride⟩
  | logoutClicked confirmed =>
      unfold Window.step
      dsimp only
      rw [if_neg hpage]
      exact ⟨hpage, hclosed, hsent, hoverride⟩
  | onDashboard event =>
      unfold Window.step
      dsimp only
      split
      next hadmits =>
        -- only the timer of the manual override runs now, and does nothing
        have hevent : event = .overrideExpired := by
          cases event <;> simp_all [Window.admits]
        subst hevent
        have hkept (port : SerialPort) : w.dashboard.step port .overrideExpired = w.dashboard := by
          simp [Dashboard.step, Dashboard.clearManualPumpOverride, hoverride]
        unfold Window.onDashboard
        simp only [Window.refreshes, hkept, hclosed]
        exact ⟨hpage, rfl, hsent, hoverride⟩
      next => exact ⟨hpage, hclosed, hsent, hoverride⟩
  | disconnected => exact ⟨hpage, rfl, hsent, hoverride⟩
  | restart => exact untouched_start w.auth

/-- Until a user who is logged in wakes the system, and again after a restart, the
port is closed and nothing is sent. -/
theorem port_used_only_awake (port : SerialPort) (events : List WindowEvent) :
    (windowSystem port).Since Wakes (fun _ event => event ≠ .restart) events ∨
      ((windowSystem port).run events).connected = false ∧
        ((windowSystem port).run events).dashboard.sent = [] := by
  have huntouched : ¬ (windowSystem port).Since Wakes (fun _ event => event ≠ .restart) events →
      Untouched ((windowSystem port).run events) := by
    induction events using List.reverseRecOn with
    | nil => exact fun _ => untouched_start AuthData.defaultData
    | append_singleton events event ih =>
        intro hasleep
        rw [System.since_concat, not_or, not_and_or, not_not] at hasleep
        rw [System.run_concat]
        obtain ⟨hevent, hbefore | rfl⟩ := hasleep
        · exact (ih hbefore).step ((routed_invariant port).run events).2 port hevent
        · exact untouched_start _
  by_cases hawake : (windowSystem port).Since Wakes (fun _ event => event ≠ .restart) events
  · exact .inl hawake
  · exact .inr ⟨(huntouched hawake).connected, (huntouched hawake).sent⟩

end PlantAssistant.Panel
