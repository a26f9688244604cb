import PlantAssistant.Panel.Hex
import PlantAssistant.Transition.Run

/-! # The accounts of the panel

`auth_state.py` keeps the registered accounts and the session in one dictionary
and writes it to a file after every change. Every write is taken to succeed.
-/

namespace PlantAssistant.Panel

open Transition

/-- The code points `str.isdigit` accepts, as ranges. -/
def digitRanges : List (ℕ × ℕ) :=
  [(0x30, 0x39), (0xb2, 0xb3), (0xb9, 0xb9), (0x660, 0x669), (0x6f0, 0x6f9), (0x7c0, 0x7c9),
    (0x966, 0x96f), (0x9e6, 0x9ef), (0xa66, 0xa6f), (0xae6, 0xaef), (0xb66, 0xb6f), (0xbe6, 0xbef),
    (0xc66, 0xc6f), (0xce6, 0xcef), (0xd66, 0xd6f), (0xde6, 0xdef), (0xe50, 0xe59), (0xed0, 0xed9),
    (0xf20, 0xf29), (0x1040, 0x1049), (0x1090, 0x1099), (0x1369, 0x1371), (0x17e0, 0x17e9),
    (0x1810, 0x1819), (0x1946, 0x194f), (0x19d0, 0x19da), (0x1a80, 0x1a89), (0x1a90, 0x1a99),
    (0x1b50, 0x1b59), (0x1bb0, 0x1bb9), (0x1c40, 0x1c49), (0x1c50, 0x1c59), (0x2070, 0x2070),
    (0x2074, 0x2079), (0x2080, 0x2089), (0x2460, 0x2468), (0x2474, 0x247c), (0x2488, 0x2490),
    (0x24ea, 0x24ea), (0x24f5, 0x24fd), (0x24ff, 0x24ff), (0x2776, 0x277e), (0x2780, 0x2788),
    (0x278a, 0x2792), (0xa620, 0xa629), (0xa8d0, 0xa8d9), (0xa900, 0xa909), (0xa9d0, 0xa9d9),
    (0xa9f0, 0xa9f9), (0xaa50, 0xaa59), (0xabf0, 0xabf9), (0xff10, 0xff19), (0x104a0, 0x104a9),
    (0x10a40, 0x10a43), (0x10d30, 0x10d39), (0x10e60, 0x10e68), (0x11052, 0x1105a),
    (0x11066, 0x1106f), (0x110f0, 0x110f9), (0x11136, 0x1113f), (0x111d0, 0x111d9),
    (0x112f0, 0x112f9), (0x11450, 0x11459), (0x114d0, 0x114d9), (0x11650, 0x11659),
    (0x116c0, 0x116c9), (0x11730, 0x11739), (0x118e0, 0x118e9), (0x11950, 0x11959),
    (0x11c50, 0x11c59), (0x11d50, 0x11d59), (0x11da0, 0x11da9), (0x16a60, 0x16a69),
    (0x16ac0, 0x16ac9), (0x16b50, 0x16b59), (0x1d7ce, 0x1d7ff), (0x1e140, 0x1e149),
    (0x1e2f0, 0x1e2f9), (0x1e950, 0x1e959), (0x1f100, 0x1f10a), (0x1fbf0, 0x1fbf9)]

/-- `str.isdigit`. -/
def isDigitText (text : Text) : Bool :=
  !text.isEmpty && text.all fun c =>
    digitRanges.any fun range => range.1 ≤ c.toNat && c.toNat ≤ range.2

structure Account where
  password : Text
deriving DecidableEq, Repr

/-- `_data`. The accounts are a dictionary from phone numbers. -/
structure AuthData where
  accounts : List (Text × Account)
  activeUser : Option Text
  sessionLoggedIn : Bool
deriving DecidableEq, Repr

/-- `_default_data`. -/
def AuthData.defaultData : AuthData where
  accounts := []
  activeUser := none
  sessionLoggedIn := false

def AuthData.hasLoggedInSession (data : AuthData) : Bool :=
  data.sessionLoggedIn && data.activeUser.any (!·.isEmpty)

def AuthData.hasAccount (data : AuthData) (phone : Text) : Bool :=
  (data.accounts.lookup phone).isSome

/-- What a call returns: whether it succeeded, and a text for the user. -/
abbrev Answer := Bool × String

def AuthData.registerUser (data : AuthData) (phone password : Text) : AuthData × Answer :=
  let phone := strip phone
  if !isDigitText phone || phone.length ≠ 11 then (data, false, "手机号需为 11 位数字。")
  else if password.length < 4 then (data, false, "密码长度至少为 4 位。")
  else if data.hasAccount phone then (data, false, "该手机号已注册，请直接登录。")
  else
    ({ accounts := data.accounts ++ [(phone, ⟨password⟩)]
       activeUser := some phone
       sessionLoggedIn := true }, true, "注册成功。")

def AuthData.loginUser (data : AuthData) (phone password : Text) : AuthData × Answer :=
  let phone := strip phone
  match data.accounts.lookup phone with
  | none => (data, false, "账号不存在，请先注册。")
  | some account =>
      if account.password ≠ password then (data, false, "密码错误，请重新输入。")
      else ({ data with activeUser := some phone, sessionLoggedIn := true }, true, "登录成功。")

def AuthData.logoutUser (data : AuthData) : AuthData :=
  { data with activeUser := none, sessionLoggedIn := false }

/-- A call of one of the three operations. -/
inductive AuthCall where
  | registerUser (phone password : Text)
  | loginUser (phone password : Text)
  | logoutUser
deriving DecidableEq, Repr

/-- The data after a call and what it returns; `logout_user` returns nothing. -/
def AuthData.call (data : AuthData) : AuthCall → AuthData × Option Answer
  | .registerUser phone password => (data.registerUser phone password).map id some
  | .loginUser phone password => (data.loginUser phone password).map id some
  | .logoutUser => (data.logoutUser, none)

/-- An `AuthStateManager` started without a file. -/
def authSystem : System AuthData AuthCall where
  init := AuthData.defaultData
  step data call := (data.call call).1

theorem authSystem_step (data : AuthData) (call : AuthCall) :
    authSystem.step data call = (data.call call).1 := rfl

/-! ## What a call does -/

/-- The password stored for a phone number. -/
def AuthData.storedPassword (data : AuthData) (phone : Text) : Option Text :=
  (data.accounts.lookup phone).map Account.password

/-- A registration or a login that succeeds. -/
structure Opens (data : AuthData) (call : AuthCall) (phone password : Text) : Prop where
  call_eq : call = .registerUser phone password ∨ call = .loginUser phone password
  succeeds : ∃ text, (data.call call).2 = some (true, text)

/-- What a successful registration or login leaves behind. -/
structure OpensWith (data opened : AuthData) (phone password : Text) : Prop where
  activeUser : opened.activeUser = some (strip phone)
  sessionLoggedIn : opened.sessionLoggedIn = true
  storedPassword : opened.storedPassword (strip phone) = some password
  nonempty : strip phone ≠ [] ∨ data.hasAccount (strip phone) = true
  accounts : opened.accounts = data.accounts ∨
    data.storedPassword (strip phone) = none ∧
      opened.accounts = data.accounts ++ [(strip phone, ⟨password⟩)]

theorem hasAccount_eq (data : AuthData) (phone : Text) :
    data.hasAccount phone = (data.storedPassword phone).isSome := by
  rw [AuthData.hasAccount, AuthData.storedPassword, Option.isSome_map]

/-- A registration fails and changes nothing, or opens a session. -/
theorem registerUser_cases (data : AuthData) (phone password : Text) :
    (∃ text, data.registerUser phone password = (data, false, text)) ∨
      (data.registerUser phone password).2 = (true, "注册成功。") ∧
        OpensWith data (data.registerUser phone password).1 phone password := by
  unfold AuthData.registerUser
  dsimp only
  split
  next => exact Or.inl ⟨_, rfl⟩
  next hdigits =>
    split
    next => exact Or.inl ⟨_, rfl⟩
    next =>
      split
      next => exact Or.inl ⟨_, rfl⟩
      next hfresh =>
        have hnone : data.accounts.lookup (strip phone) = none :=
          Option.not_isSome_iff_eq_none.mp hfresh
        refine Or.inr ⟨rfl, rfl, rfl, ?_, Or.inl ?_, Or.inr ⟨?_, rfl⟩⟩
        · rw [AuthData.storedPassword, List.lookup_append, hnone, Option.none_or,
            List.lookup_cons_self]
          rfl
        · rintro hempty
          rw [hempty] at hdigits
          exact hdigits rfl
        · rw [AuthData.storedPassword, hnone]
          rfl

/-- So does a login. -/
theorem loginUser_cases (data : AuthData) (phone password : Text) :
    (∃ text, data.loginUser phone password = (data, false, text)) ∨
      (data.loginUser phone password).2 = (true, "登录成功。") ∧
        OpensWith data (data.loginUser phone password).1 phone password := by
  unfold AuthData.loginUser
  dsimp only
  split
  next => exact Or.inl ⟨_, rfl⟩
  next account haccount =>
    split
    next => exact Or.inl ⟨_, rfl⟩
    next hpassword =>
      obtain rfl : account.password = password := not_not.mp hpassword
      refine Or.inr ⟨rfl, rfl, rfl, ?_, Or.inr ?_, Or.inl rfl⟩
      · rw [AuthData.storedPassword, haccount]
        rfl
      · rw [AuthData.hasAccount, haccount]
        rfl

/-- A call opens a session, is a logout, or fails and changes nothing. -/
theorem call_cases (data : AuthData) (call : AuthCall) :
    (∃ phone password, Opens data call phone password ∧
        OpensWith data (data.call call).1 phone password) ∨
      call = .logoutUser ∨
      (data.call call).1 = data ∧ ∃ text, (data.call call).2 = some (false, text) := by
  cases call with
  | registerUser phone password =>
      rcases registerUser_cases data phone password with ⟨text, hfails⟩ | ⟨hsucceeds, hopens⟩
      · refine Or.inr (Or.inr ?_)
        rw [AuthData.call, hfails]
        exact ⟨rfl, text, rfl⟩
      · refine Or.inl ⟨phone, password, ⟨Or.inl rfl, "注册成功。", ?_⟩, hopens⟩
        exact congrArg some hsucceeds
  | loginUser phone password =>
      rcases loginUser_cases data phone password with ⟨text, hfails⟩ | ⟨hsucceeds, hopens⟩
      · refine Or.inr (Or.inr ?_)
        rw [AuthData.call, hfails]
        exact ⟨rfl, text, rfl⟩
      · refine Or.inl ⟨phone, password, ⟨Or.inr rfl, "登录成功。", ?_⟩, hopens⟩
        exact congrArg some hsucceeds
  | logoutUser => exact Or.inr (Or.inl rfl)

end PlantAssistant.Panel
