import PlantAssistant.Panel.AuthState
import PlantAssistant.Panel.Dashboard

/-! # The window of the panel

Three pages share one window: the login page, the page that wakes the system and
the dashboard. What is typed or clicked reaches the page that is shown; packets
and timers reach the dashboard whether it is shown or not.
-/

namespace PlantAssistant.Panel

open Transition

inductive Page where
  | login
  | wake
  | dashboard
deriving DecidableEq, Repr

structure Window where
  auth : AuthData
  page : Page
  phoneEdit : Text
  passwordEdit : Text
  confirmEdit : Text
  tipLabel : String
  dashboard : Dashboard
  /-- `is_connected()` of the serial panel. -/
  connected : Bool
  userIdLabel : Text
deriving DecidableEq, Repr

/-- The text of the label for `get_active_user()`. -/
def userIdText (activeUser : Option Text) : Text :=
  let userId := (activeUser.filter (!·.isEmpty)).getD "未登录".toList
  "用户ID：".toList ++ userId

/-- What happens to the window. An event of the dashboard may come from its
controls, from the port or from a timer; a restart closes the window and runs the
program again. -/
inductive WindowEvent where
  | phoneEdited (text : Text)
  | passwordEdited (text : Text)
  | confirmEdited (text : Text)
  | registerClicked
  | loginClicked
  | wakeClicked
  | logoutClicked (confirmed : Bool)
  | onDashboard (event : PanelEvent)
  | disconnected
  | restart

namespace Window

/-- `_refresh_dashboard`, as far as it shows the user. -/
def refreshDashboard (w : Window) : Window :=
  { w with userIdLabel := userIdText w.auth.activeUser }

/-- `_show_wake_page`. -/
def showWakePage (w : Window) : Window :=
  { w.refreshDashboard with page := .wake }

/-- `_show_dashboard_page`. The button for the search for light is set back
without a command to the car. -/
def showDashboardPage (w : Window) : Window :=
  { w.refreshDashboard with
    dashboard := { w.dashboard with autoSeekMode := 0 }
    page := .dashboard }

/-- `PlantAssistantMainWindow.__init__`, with these data in the file. -/
def start (auth : AuthData) : Window :=
  let w : Window :=
    { auth := auth
      page := .login
      phoneEdit := []
      passwordEdit := []
      confirmEdit := []
      tipLabel := ""
      dashboard := .initial
      connected := false
      userIdLabel := userIdText auth.activeUser }
  if auth.hasLoggedInSession then w.showWakePage else w

/-- What `_register` and `_login` do with the answer to their call. -/
def answered (out : AuthData × Answer) (w : Window) : Window :=
  let w := { w with auth := out.1, tipLabel := out.2.2 }
  if out.2.1 then w.showWakePage else w

/-- `LoginPage._register`. -/
def register (w : Window) : Window :=
  if w.passwordEdit ≠ w.confirmEdit then { w with tipLabel := "两次密码输入不一致。" }
  else w.answered (w.auth.registerUser (strip w.phoneEdit) w.passwordEdit)

/-- `LoginPage._login`. -/
def login (w : Window) : Window :=
  w.answered (w.auth.loginUser (strip w.phoneEdit) w.passwordEdit)

/-- `_logout`, with the answer to its question. -/
def logout (confirmed : Bool) (w : Window) : Window :=
  if confirmed then { w with auth := w.auth.logoutUser, page := .login } else w

/-- The event can happen: its control is shown, or its port is open. The connect
button does nothing while the port is open. -/
def admits (w : Window) : PanelEvent → Bool
  | .sensorPacket _ | .timestamp _ => w.connected
  | .overrideExpired => true
  | .connected => w.page = .dashboard && !w.connected
  | _ => w.page = .dashboard

/-- The handler of the event ends with `_refresh_dashboard`. -/
def refreshes (d : Dashboard) : PanelEvent → Bool
  | .sensorPacket _ => true
  | .guardSelected index => index ≠ d.guardIndex
  | _ => false

variable (port : SerialPort)

/-- An event of the dashboard. Nothing can be written while the port is closed. -/
def onDashboard (event : PanelEvent) (w : Window) : Window :=
  let connected := w.connected || event matches .connected
  let next :=
    { w with
      connected := connected
      dashboard := w.dashboard.step (fun n => connected && port n) event }
  if refreshes w.dashboard event then next.refreshDashboard else next

def step (w : Window) : WindowEvent → Window
  | .phoneEdited text => if w.page = .login then { w with phoneEdit := text } else w
  | .passwordEdited text => if w.page = .login then { w with passwordEdit := text } else w
  | .confirmEdited text => if w.page = .login then { w with confirmEdit := text } else w
  | .registerClicked => if w.page = .login then w.register else w
  | .loginClicked => if w.page = .login then w.login else w
  | .wakeClicked => if w.page = .wake then w.showDashboardPage else w
  | .logoutClicked confirmed => if w.page = .dashboard then w.logout confirmed else w
  | .onDashboard event => if w.admits event then w.onDashboard port event else w
  | .disconnected => { w with connected := false }
  | .restart => start w.auth

end Window

/-- A program started without a file. -/
def windowSystem (port : SerialPort) : System Window WindowEvent where
  init := Window.start AuthData.defaultData
  step := Window.step port

end PlantAssistant.Panel
