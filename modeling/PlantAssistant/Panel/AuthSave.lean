import PlantAssistant.Panel.Session

/-! # Saving the accounts

Every operation changes the dictionary key by key and then writes all of it to the
file. Writing may raise, which the memory does not show. A dictionary that was
loaded need not have every key.
-/

namespace PlantAssistant.Panel

open Transition

structure StoredAccount where
  password : Option Text
deriving DecidableEq, Repr

/-- `_data`, as any file may have it. -/
structure AuthStore where
  accounts : Option (List (Text × StoredAccount))
  activeUser : Option (Option Text)
  sessionLoggedIn : Option Bool
deriving DecidableEq, Repr

namespace AuthStore

/-- `_data.get("accounts", {})`. -/
def knownAccounts (store : AuthStore) : List (Text × StoredAccount) :=
  store.accounts.getD []

def hasLoggedInSession (store : AuthStore) : Bool :=
  store.sessionLoggedIn.getD false && (store.activeUser.getD none).any (!·.isEmpty)

section Operations

variable {ε : Type} (write : AuthStore → Except ε Unit)

/-- `_save`. -/
def save : EStateM ε AuthStore Unit := do
  match write (← get) with
  | .ok () => return
  | .error e => throw e

def registerUser (phone password : Text) : EStateM ε AuthStore Answer := do
  let phone := strip phone
  if !isDigitText phone || phone.length ≠ 11 then
    return (false, "手机号需为 11 位数字。")
  if password.length < 4 then
    return (false, "密码长度至少为 4 位。")
  modify fun store => { store with accounts := some store.knownAccounts }
  if ((← get).knownAccounts.lookup phone).isSome then
    return (false, "该手机号已注册，请直接登录。")
  modify fun store =>
    { store with accounts := some (store.knownAccounts ++ [(phone, ⟨some password⟩)]) }
  modify fun store => { store with activeUser := some (some phone) }
  modify fun store => { store with sessionLoggedIn := some true }
  save write
  return (true, "注册成功。")

def loginUser (phone password : Text) : EStateM ε AuthStore Answer := do
  let phone := strip phone
  match (← get).knownAccounts.lookup phone with
  | none => return (false, "账号不存在，请先注册。")
  | some account =>
      if account.password ≠ some password then
        return (false, "密码错误，请重新输入。")
      modify fun store => { store with activeUser := some (some phone) }
      modify fun store => { store with sessionLoggedIn := some true }
      save write
      return (true, "登录成功。")

def logoutUser : EStateM ε AuthStore Unit := do
  modify fun store => { store with sessionLoggedIn := some false }
  modify fun store => { store with activeUser := some none }
  save write

/-- A call, and what it returns. -/
def call : AuthCall → EStateM ε AuthStore (Option Answer)
  | .registerUser phone password => do
      return some (← registerUser write phone password)
  | .loginUser phone password => do
      return some (← loginUser write phone password)
  | .logoutUser => do
      logoutUser write
      return none

end Operations

/-! ## What a call leaves in memory -/

section Results

variable {ε α : Type} {write : AuthStore → Except ε Unit} {store : AuthStore}

/-- How an operation ends that writes this content at last. -/
def saved (write : AuthStore → Except ε Unit) (answer : α) (content : AuthStore) :
    EStateM.Result ε AuthStore α :=
  match write content with
  | .ok () => .ok answer content
  | .error e => .error e content

theorem run_save : (save write).run store = saved write () store := by
  rw [save, EStateM.run_bind, EStateM.run_get]
  dsimp only
  unfold saved
  cases write store with
  | ok _ => rfl
  | error e => rfl

theorem bind_ok {β : Type} (f : α → β) {operation : EStateM ε AuthStore α} {answer : α}
    {left : AuthStore} (hrun : operation.run store = .ok answer left) :
    EStateM.run (do return f (← operation)) store = .ok (f answer) left := by
  rw [EStateM.run_bind, hrun]
  rfl

theorem bind_saved {β : Type} (f : α → β) {operation : EStateM ε AuthStore α} {answer : α}
    {content : AuthStore} (hrun : operation.run store = saved write answer content) :
    EStateM.run (do return f (← operation)) store = saved write (f answer) content := by
  unfold saved at *
  rw [EStateM.run_bind, hrun]
  cases write content with
  | ok _ => rfl
  | error e => rfl

theorem run_save_bind (answer : α) :
    EStateM.run (do save write; return answer) store = saved write answer store :=
  bind_saved (fun _ => answer) run_save

/-- The content that a call writes unless it is refused. -/
def committed (store : AuthStore) : AuthCall → AuthStore
  | .registerUser phone password =>
      { accounts := some (store.knownAccounts ++ [(strip phone, ⟨some password⟩)])
        activeUser := some (some (strip phone))
        sessionLoggedIn := some true }
  | .loginUser phone _ =>
      { store with activeUser := some (some (strip phone)), sessionLoggedIn := some true }
  | .logoutUser => { store with activeUser := some none, sessionLoggedIn := some false }

@[simp] theorem knownAccounts_some (accounts : List (Text × StoredAccount))
    (activeUser : Option (Option Text)) (sessionLoggedIn : Option Bool) :
    (AuthStore.mk (some accounts) activeUser sessionLoggedIn).knownAccounts = accounts := rfl

/-- An account that is there is under a key that is there. -/
theorem accounts_of_isSome {phone : Text}
    (hknown : (store.knownAccounts.lookup phone).isSome) :
    { store with accounts := some store.knownAccounts } = store := by
  obtain ⟨accounts, activeUser, sessionLoggedIn⟩ := store
  cases accounts with
  | none => cases hknown
  | some accounts => rfl

variable (write store) in
theorem run_registerUser (phone password : Text) :
    (registerUser write phone password).run store =
      if !isDigitText (strip phone) || (strip phone).length ≠ 11 then
        .ok (false, "手机号需为 11 位数字。") store
      else if password.length < 4 then .ok (false, "密码长度至少为 4 位。") store
      else if (store.knownAccounts.lookup (strip phone)).isSome then
        .ok (false, "该手机号已注册，请直接登录。") store
      else saved write (true, "注册成功。") (store.committed (.registerUser phone password)) := by
  unfold registerUser
  dsimp only
  split
  next => rfl
  next =>
    split
    next => rfl
    next =>
      rw [EStateM.run_bind, EStateM.run_modify]
      dsimp only
      rw [EStateM.run_bind, EStateM.run_get]
      dsimp only
      by_cases hknown : (store.knownAccounts.lookup (strip phone)).isSome
      · rw [accounts_of_isSome hknown, if_pos hknown, if_pos hknown]
        rfl
      · rw [knownAccounts_some, if_neg hknown, if_neg hknown]
        exact run_save_bind _

variable (write store) in
theorem run_loginUser (phone password : Text) :
    (loginUser write phone password).run store =
      match store.knownAccounts.lookup (strip phone) with
      | none => .ok (false, "账号不存在，请先注册。") store
      | some account =>
          if account.password ≠ some password then
            .ok (false, "密码错误，请重新输入。") store
          else saved write (true, "登录成功。") (store.committed (.loginUser phone password)) := by
  unfold loginUser
  dsimp only
  rw [EStateM.run_bind, EStateM.run_get]
  dsimp only
  split
  next => rfl
  next account haccount =>
    split
    next => rfl
    next => exact run_save_bind _

variable (write store) in
theorem run_logoutUser :
    (logoutUser write).run store = saved write () (store.committed .logoutUser) :=
  run_save

end Results

/-! ## Failed writes -/

section Calls

variable {ε : Type}

/-- A call is refused and leaves the memory as it was, or ends with the write of what it
has made of the memory. -/
theorem run_call_cases (store : AuthStore) (c : AuthCall) :
    (∃ text, ∀ write : AuthStore → Except ε Unit,
        (call write c).run store = .ok (some (false, text)) store) ∨
      ∃ answer, ∀ write : AuthStore → Except ε Unit,
        (call write c).run store = saved write answer (store.committed c) := by
  cases c with
  | registerUser phone password =>
      have hrun := fun write : AuthStore → Except ε Unit =>
        run_registerUser write store phone password
      split_ifs at hrun
      case neg => exact .inr ⟨_, fun write => bind_saved some (hrun write)⟩
      all_goals exact .inl ⟨_, fun write => bind_ok some (hrun write)⟩
  | loginUser phone password =>
      have hrun := fun write : AuthStore → Except ε Unit =>
        run_loginUser write store phone password
      split at hrun
      next => exact .inl ⟨_, fun write => bind_ok some (hrun write)⟩
      next account haccount =>
        split_ifs at hrun
        · exact .inl ⟨_, fun write => bind_ok some (hrun write)⟩
        · exact .inr ⟨_, fun write => bind_saved some (hrun write)⟩
  | logoutUser =>
      exact .inr ⟨none, fun write => bind_saved (fun _ => none) (run_logoutUser write store)⟩

/-- The call would make of the memory what it is already. -/
def NothingToChange (store : AuthStore) : AuthCall → Prop
  | .registerUser _ _ => False
  | .loginUser phone _ =>
      store.activeUser = some (some (strip phone)) ∧ store.sessionLoggedIn = some true
  | .logoutUser => store.activeUser = some none ∧ store.sessionLoggedIn = some false

/-- A registration always adds an account. -/
theorem committed_eq_iff (store : AuthStore) (c : AuthCall) :
    store.committed c = store ↔ NothingToChange store c := by
  obtain ⟨accounts, activeUser, sessionLoggedIn⟩ := store
  cases c with
  | registerUser phone password =>
      constructor
      · intro hsame
        have hlength := congrArg (fun store => store.knownAccounts.length) hsame
        simp [committed] at hlength
      · exact False.elim
  | loginUser phone password =>
      simp only [committed, NothingToChange, AuthStore.mk.injEq, true_and]
      exact and_congr eq_comm eq_comm
  | logoutUser =>
      simp only [committed, NothingToChange, AuthStore.mk.injEq, true_and]
      exact and_congr eq_comm eq_comm

/-- After a write that raised, the memory is as the same call leaves it when the write
succeeds, and so as before only if the call had nothing to change. -/
theorem failed_save_keeps_change {write : AuthStore → Except ε Unit} {store left : AuthStore}
    {c : AuthCall} {e : ε} (hraised : (call write c).run store = .error e left) :
    (∃ answer, ∀ {write : AuthStore → Except ε Unit}, write left = .ok () →
        (call write c).run store = .ok answer left) ∧
      (left = store ↔ NothingToChange store c) := by
  rcases run_call_cases store c with ⟨text, hrefused⟩ | ⟨answer, hsaved⟩
  · rw [hrefused write] at hraised
    cases hraised
  · rw [hsaved write, saved] at hraised
    split at hraised
    next => cases hraised
    next =>
      obtain ⟨-, rfl⟩ := EStateM.Result.error.inj hraised
      refine ⟨⟨answer, ?_⟩, committed_eq_iff store c⟩
      intro write hwritten
      rw [hsaved write, saved, hwritten]

/-- `_data` without a file. -/
def noAccounts : AuthStore := ⟨some [], some none, some false⟩

def registration : AuthCall := .registerUser "13800000000".toList "abcd".toList

theorem raises_registration :
    (call (fun _ => Except.error ()) registration).run noAccounts =
      .error () (noAccounts.committed registration) := rfl

theorem failed_save_keeps_change_registration :
    (∃ answer, ∀ {write : AuthStore → Except Unit Unit},
        write (noAccounts.committed registration) = .ok () →
        (call write registration).run noAccounts =
          .ok answer (noAccounts.committed registration)) ∧
      (noAccounts.committed registration = noAccounts ↔
        NothingToChange noAccounts registration) :=
  failed_save_keeps_change raises_registration

/-- A registration that could not be written leaves its user logged in. -/
theorem failed_save_leaves_trace :
    ¬ ∀ (write : AuthStore → Except Unit Unit) (store left : AuthStore) (c : AuthCall) (e : Unit),
      (call write c).run store = .error e left → left = store := by
  intro hall
  have hsame := hall _ _ _ _ _ raises_registration
  exact absurd (congrArg AuthStore.sessionLoggedIn hsame) (by decide)

end Calls

end AuthStore

/-! ## Files that `_save` has written -/

/-- `_data` with every key there. -/
def AuthData.stored (data : AuthData) : AuthStore where
  accounts := some (data.accounts.map fun account => (account.1, ⟨some account.2.password⟩))
  activeUser := some data.activeUser
  sessionLoggedIn := some data.sessionLoggedIn

theorem knownAccounts_stored (data : AuthData) :
    data.stored.knownAccounts =
      data.accounts.map fun account => (account.1, ⟨some account.2.password⟩) := rfl

theorem lookup_stored (accounts : List (Text × Account)) (phone : Text) :
    (accounts.map fun account => (account.1, StoredAccount.mk (some account.2.password))).lookup
        phone =
      (accounts.lookup phone).map fun account => ⟨some account.password⟩ := by
  induction accounts with
  | nil => rfl
  | cons account accounts ih =>
      obtain ⟨key, account⟩ := account
      rw [List.map_cons, List.lookup_cons, List.lookup_cons]
      cases phone == key with
      | true => rfl
      | false => exact ih

section Written

variable {ε : Type} {write : AuthStore → Except ε Unit} (hwrite : ∀ store, write store = .ok ())
  (data : AuthData)

include hwrite

theorem saved_of_ok {α : Type} (answer : α) (content : AuthStore) :
    AuthStore.saved write answer content = .ok answer content := by
  rw [AuthStore.saved, hwrite]

theorem run_registerUser_stored (phone password : Text) :
    (AuthStore.registerUser write phone password).run data.stored =
      .ok (data.registerUser phone password).2 (data.registerUser phone password).1.stored := by
  rw [AuthStore.run_registerUser, saved_of_ok hwrite, knownAccounts_stored, lookup_stored,
    Option.isSome_map]
  unfold AuthData.registerUser AuthData.hasAccount
  dsimp only
  split_ifs
  case neg =>
    rw [AuthStore.committed, knownAccounts_stored, AuthData.stored, List.map_append]
    rfl
  all_goals rfl

theorem run_loginUser_stored (phone password : Text) :
    (AuthStore.loginUser write phone password).run data.stored =
      .ok (data.loginUser phone password).2 (data.loginUser phone password).1.stored := by
  rw [AuthStore.run_loginUser, saved_of_ok hwrite, knownAccounts_stored, lookup_stored]
  unfold AuthData.loginUser
  dsimp only
  cases data.accounts.lookup (strip phone) with
  | none => rfl
  | some account =>
      simp only [Option.map_some, ne_eq, Option.some.injEq]
      split_ifs
      · rfl
      · rfl

/-- While no write raises, the calls do on these files what they do on the data. -/
theorem run_call_stored (c : AuthCall) :
    (AuthStore.call write c).run data.stored = .ok (data.call c).2 (data.call c).1.stored := by
  cases c with
  | registerUser phone password =>
      exact AuthStore.bind_ok some (run_registerUser_stored hwrite data phone password)
  | loginUser phone password =>
      exact AuthStore.bind_ok some (run_loginUser_stored hwrite data phone password)
  | logoutUser =>
      apply AuthStore.bind_ok fun _ => none
      rw [AuthStore.run_logoutUser, saved_of_ok hwrite]
      rfl

end Written

/-! ## Runs in which writes raise -/

section Attempts

variable {ε : Type}

/-- `_data` after a call, returned or raised. -/
def remaining {α : Type} : EStateM.Result ε AuthStore α → AuthStore
  | .ok _ store => store
  | .error _ store => store

/-- A call, and what writing the file does in it. -/
structure Attempt (ε : Type) where
  call : AuthCall
  write : AuthStore → Except ε Unit

variable (ε) in
/-- An `AuthStateManager` whose callers go on when a call has raised. -/
def attemptSystem : System AuthStore (Attempt ε) where
  init := AuthData.defaultData.stored
  step store attempt := remaining ((AuthStore.call attempt.write attempt.call).run store)

theorem remaining_saved {α : Type} (write : AuthStore → Except ε Unit) (answer : α)
    (content : AuthStore) : remaining (AuthStore.saved write answer content) = content := by
  unfold AuthStore.saved
  split <;> rfl

/-- A call leaves in memory what it leaves when the write succeeds. -/
theorem attempt_stored (data : AuthData) (attempt : Attempt ε) :
    (attemptSystem ε).step data.stored attempt = (authSystem.step data attempt.call).stored := by
  have hwrite (store : AuthStore) :
      (fun _ => .ok () : AuthStore → Except ε Unit) store = .ok () := rfl
  have hwritten := run_call_stored hwrite data attempt.call
  change remaining _ = (data.call attempt.call).1.stored
  rcases AuthStore.run_call_cases data.stored attempt.call with
    ⟨text, hrefused⟩ | ⟨answer, hsaved⟩
  · rw [hrefused] at hwritten ⊢
    exact congrArg remaining hwritten
  · rw [hsaved] at hwritten
    rw [hsaved, remaining_saved]
    exact (remaining_saved _ answer _).symm.trans (congrArg remaining hwritten)

theorem runFrom_stored (data : AuthData) (attempts : List (Attempt ε)) :
    (attemptSystem ε).runFrom data.stored attempts =
      (authSystem.runFrom data (attempts.map Attempt.call)).stored := by
  induction attempts generalizing data with
  | nil => rfl
  | cons attempt attempts ih =>
      rw [System.runFrom_cons, List.map_cons, System.runFrom_cons, attempt_stored]
      exact ih _

/-- Writes that raise leave no trace in memory: after any calls it is what the calls
make of it, and the session is the one that they have opened and not closed. -/
theorem memory_follows_session (attempts : List (Attempt ε)) :
    (attemptSystem ε).run attempts = (authSystem.run (attempts.map Attempt.call)).stored ∧
      (((attemptSystem ε).run attempts).hasLoggedInSession = true ↔
        ∃ phone password, SessionOpened (attempts.map Attempt.call) phone password) := by
  have hstored : (attemptSystem ε).run attempts = _ := runFrom_stored AuthData.defaultData attempts
  refine ⟨hstored, ?_⟩
  rw [hstored, ← hasLoggedInSession_iff]
  rfl

end Attempts

end PlantAssistant.Panel
