import PlantAssistant.Panel.Session
import PlantAssistant.Panel.Window
import PlantAssistant.Transition.Simulation

/-! # Pages and sessions

Which page is shown follows the session, across restarts as well, and the label
names the user who opened it.
-/

namespace PlantAssistant.Panel

open Transition

namespace Window

/-! ## The calls of the account manager -/

/-- The calls that an event makes. -/
def authCalls (w : Window) : WindowEvent → List AuthCall
  | .registerClicked =>
      if w.page = .login ∧ w.passwordEdit = w.confirmEdit then
        [.registerUser (strip w.phoneEdit) w.passwordEdit]
      else []
  | .loginClicked =>
      if w.page = .login then [.loginUser (strip w.phoneEdit) w.passwordEdit] else []
  | .logoutClicked confirmed => if w.page = .dashboard ∧ confirmed then [.logoutUser] else []
  | _ => []

@[simp] theorem auth_start (auth : AuthData) : (start auth).auth = auth := by
  unfold start
  dsimp only
  split <;> rfl

@[simp] theorem auth_answered (out : AuthData × Answer) (w : Window) :
    (w.answered out).auth = out.1 := by
  unfold answered
  dsimp only
  split <;> rfl

@[simp] theorem auth_onDashboard (port : SerialPort) (event : PanelEvent) (w : Window) :
    (w.onDashboard port event).auth = w.auth := by
  unfold onDashboard
  dsimp only
  split <;> rfl

theorem auth_step (port : SerialPort) (w : Window) (event : WindowEvent) :
    (w.step port event).auth = authSystem.runFrom w.auth (w.authCalls event) := by
  cases event with
  | phoneEdited | passwordEdited | confirmEdited | wakeClicked =>
      unfold step
      dsimp only
      split <;> rfl
  | registerClicked =>
      unfold step authCalls register
      dsimp only
      by_cases hpage : w.page = .login
      · by_cases hconfirm : w.passwordEdit = w.confirmEdit
        · rw [if_pos hpage, if_neg (not_not.mpr hconfirm), if_pos ⟨hpage, hconfirm⟩, auth_answered]
          rfl
        · rw [if_pos hpage, if_pos hconfirm, if_neg fun hboth => hconfirm hboth.2]
          rfl
      · rw [if_neg hpage, if_neg fun hboth => hpage hboth.1]
        rfl
  | loginClicked =>
      unfold step authCalls login
      dsimp only
      split
      · rw [auth_answered]
        rfl
      · rfl
  | logoutClicked confirmed =>
      unfold step authCalls logout
      dsimp only
      by_cases hpage : w.page = .dashboard
      · cases confirmed <;> simp [hpage, authSystem, AuthData.call]
      · simp [hpage]
  | onDashboard event =>
      unfold step
      dsimp only
      split
      · exact auth_onDashboard port event w
      · rfl
  | disconnected => rfl
  | restart => exact auth_start w.auth

end Window

/-- The account manager in the window. -/
def authSimulation (port : SerialPort) : Simulation (windowSystem port) authSystem where
  related w data := w.auth = data
  events := Window.authCalls
  init := Window.auth_start _
  step := by
    rintro w _ event rfl
    exact w.auth_step port event

/-! ## The page -/

/-- What a registration or a login with these credentials returns: the data as
they were and a refusal, or an opened session. -/
def Answers (data : AuthData) (out : AuthData × Answer) (phone password : Text) : Prop :=
  (∃ text, out = (data, false, text)) ∨
    (∃ text, out.2 = (true, text)) ∧ OpensWith data out.1 phone password

theorem answers_registerUser (data : AuthData) (phone password : Text) :
    Answers data (data.registerUser phone password) phone password :=
  (registerUser_cases data phone password).imp_right fun hopens => ⟨⟨_, hopens.1⟩, hopens.2⟩

theorem answers_loginUser (data : AuthData) (phone password : Text) :
    Answers data (data.loginUser phone password) phone password :=
  (loginUser_cases data phone password).imp_right fun hopens => ⟨⟨_, hopens.1⟩, hopens.2⟩

theorem OpensWith.hasLoggedInSession {data opened : AuthData} {phone password : Text}
    (hopens : OpensWith data opened phone password) (hnamed : NamedAccounts data) :
    opened.hasLoggedInSession = true := by
  have hphone : strip phone ≠ [] := by
    rcases hopens.nonempty with hphone | haccount
    · exact hphone
    · intro hempty
      rw [hempty, hnamed] at haccount
      cases haccount
  rw [AuthData.hasLoggedInSession, hopens.sessionLoggedIn, hopens.activeUser]
  simpa using hphone

/-- The login page is shown while there is no session, and the other pages belong
to the user on the label. -/
structure Routed (w : Window) : Prop where
  page : w.page = .login ↔ w.auth.hasLoggedInSession = false
  label : w.page ≠ .login → w.userIdLabel = userIdText w.auth.activeUser

theorem routed_start (auth : AuthData) : Routed (Window.start auth) := by
  unfold Window.start
  dsimp only
  split
  next hsession =>
    refine ⟨?_, fun _ => rfl⟩
    change Page.wake = .login ↔ auth.hasLoggedInSession = false
    simp [hsession]
  next hsession => exact ⟨by simpa using hsession, fun _ => rfl⟩

theorem Routed.answered {w : Window} (hrouted : Routed w)
    (hnamed : NamedAccounts w.auth) {out : AuthData × Answer} {phone password : Text}
    (hanswers : Answers w.auth out phone password) : Routed (w.answered out) := by
  rcases hanswers with ⟨text, rfl⟩ | ⟨⟨text, hsucceeds⟩, hopens⟩
  · exact ⟨hrouted.page, hrouted.label⟩
  · have hsession := hopens.hasLoggedInSession hnamed
    unfold Window.answered
    dsimp only
    rw [hsucceeds, if_pos rfl]
    refine ⟨?_, fun _ => rfl⟩
    change Page.wake = .login ↔ out.1.hasLoggedInSession = false
    simp [hsession]

theorem Routed.onDashboard {w : Window} (hrouted : Routed w) (port : SerialPort)
    (event : PanelEvent) : Routed (w.onDashboard port event) := by
  unfold Window.onDashboard
  dsimp only
  split
  · exact ⟨hrouted.page, fun _ => rfl⟩
  · exact ⟨hrouted.page, hrouted.label⟩

theorem Routed.step {w : Window} (hrouted : Routed w) (hnamed : NamedAccounts w.auth)
    (port : SerialPort) (event : WindowEvent) : Routed (w.step port event) := by
  cases event with
  | phoneEdited | passwordEdited | confirmEdited =>
      unfold Window.step
      dsimp only
      split
      · exact ⟨hrouted.page, hrouted.label⟩
      · exact hrouted
  | registerClicked =>
      unfold Window.step Window.register
      dsimp only
      split_ifs
      · exact ⟨hrouted.page, hrouted.label⟩
      · exact hrouted.answered hnamed (answers_registerUser _ _ _)
      · exact hrouted
  | loginClicked =>
      unfold Window.step Window.login
      dsimp only
      split
      · exact hrouted.answered hnamed (answers_loginUser _ _ _)
      · exact hrouted
  | wakeClicked =>
      unfold Window.step
      dsimp only
      split
      next hwake =>
        have hsession : w.auth.hasLoggedInSession ≠ false :=
          hrouted.page.not.mp (by rw [hwake]; decide)
        refine ⟨iff_of_false ?_ hsession, fun _ => rfl⟩
        change Page.dashboard ≠ .login
        decide
      next => exact hrouted
  | logoutClicked confirmed =>
      unfold Window.step Window.logout
      dsimp only
      split_ifs
      · exact ⟨iff_of_true rfl rfl, fun hpage => absurd rfl hpage⟩
      · exact hrouted
      · exact hrouted
  | onDashboard event =>
      unfold Window.step
      dsimp only
      split
      · exact hrouted.onDashboard port event
      · exact hrouted
  | disconnected => exact ⟨hrouted.page, hrouted.label⟩
  | restart => exact routed_start w.auth

theorem routed_invariant (port : SerialPort) :
    (windowSystem port).Invariant fun w => NamedAccounts w.auth ∧ Routed w where
  init := ⟨rfl, routed_start AuthData.defaultData⟩
  step w event hinv := by
    obtain ⟨hnamed, hrouted⟩ := hinv
    refine ⟨?_, hrouted.step hnamed port event⟩
    change NamedAccounts (w.step port event).auth
    rw [w.auth_step port event]
    exact namedAccounts_invariant.runFrom hnamed _

/-- The window is past the login page exactly while the last registration or login
that succeeded was not followed by a logout, and then shows its user. -/
theorem page_follows_session (port : SerialPort) (events : List WindowEvent) :
    let w := (windowSystem port).run events
    let calls := (authSimulation port).trace events
    (w.page ≠ .login ↔ ∃ phone password, SessionOpened calls phone password) ∧
      ∀ phone password, SessionOpened calls phone password →
        w.userIdLabel = "用户ID：".toList ++ strip phone := by
  intro w calls
  obtain ⟨-, hrouted⟩ := (routed_invariant port).run events
  have hauth : w.auth = authSystem.run calls := (authSimulation port).run events
  have hpage : w.page ≠ .login ↔ ∃ phone password, SessionOpened calls phone password := by
    rw [← hasLoggedInSession_iff, ← hauth, ← Bool.not_eq_false]
    exact hrouted.page.not
  refine ⟨hpage, ?_⟩
  intro phone password hopened
  have hsession := hpage.mpr ⟨phone, password, hopened⟩
  obtain ⟨hactive, -⟩ := (tracksSession calls).opened phone password hopened
  have hnonempty : (strip phone).isEmpty = false := by
    have hlogged := (hasLoggedInSession_iff calls).mpr ⟨phone, password, hopened⟩
    rw [AuthData.hasLoggedInSession, hactive, Bool.and_eq_true] at hlogged
    simpa using hlogged.2
  rw [hrouted.label hsession, hauth, hactive, userIdText]
  simp [Option.filter, hnonempty]

end PlantAssistant.Panel
