import ToyServer.Database.ConnectionPool

/-!
# Transactions on pooled connections

`SQLiteConnection` keeps a flag beside the transaction that is really open on the server;
`TransactionWrapper` commits once and rolls back when it is destroyed uncommitted; `Release` resets
what is left when the last `shared_ptr` to a connection goes.  A client is any sequence of calls
through `DatabaseImpl`, through the proxy of `AsyncRunInTransaction`, and on the objects these
return; any of them may fail, and a wrapper may not even be made after `BEGIN` succeeded.

The committed writes are a log in commit order: what the other connections see.  A write outside of
a transaction goes there at once, a write inside of one waits for `COMMIT`.

`pooled_clean`: no idle connection has an open transaction, and a transaction whose `Commit` did not
succeed has left nothing in the log.  `connections_apart`: the objects that hold a share of a
connection work for one caller, and an idle connection is shared by none.  The result set that a
prepared statement returns is not such an object: it is not wrapped, and it may be read when its
connection is idle again or with somebody else.
-/

namespace ToyServer

open Runs

/-! ## The driver -/

inductive DbStatusCode where
  | ok
  | error
  | transactionActive
deriving DecidableEq, Repr

structure DbStatus where
  code : DbStatusCode
  message : String
deriving DecidableEq, Repr

namespace DbStatus

def isOk (st : DbStatus) : Bool := st.code = .ok

def success : DbStatus := ⟨.ok, ""⟩

def fail (msg : String) : DbStatus := ⟨.error, msg⟩

@[simp] theorem isOk_success : success.isOk = true := rfl

@[simp] theorem isOk_fail (msg : String) : (fail msg).isOk = false := rfl

end DbStatus

/-- The answer of `sqlite3_exec`: its error text, if there is one. -/
abbrev SqlReply := Option String

/-- A transaction that is open on the server; `ω` are the effects of statements. -/
structure OpenTxn (ω : Type) where
  id : Nat
  writes : List ω
deriving DecidableEq, Repr

structure SQLiteConnection (ω : Type) where
  inTransaction : Bool
  /-- what is open on the server -/
  txn : Option (OpenTxn ω)
deriving DecidableEq, Repr

namespace SQLiteConnection

variable {ω : Type}

def fresh : SQLiteConnection ω := ⟨false, none⟩

section
variable (c : SQLiteConnection ω)

/-- `Execute` and `Query`: the writes that take effect at once are the last component. -/
def execute (w : ω) : SqlReply → DbStatus × SQLiteConnection ω × List ω
  | some msg => (.fail msg, c, [])
  | none =>
    match c.txn with
    | none => (.success, c, [w])
    | some t => (.success, { c with txn := some { t with writes := t.writes ++ [w] } }, [])

def beginTransaction (id : Nat) (reply : SqlReply) : DbStatus × SQLiteConnection ω :=
  if c.inTransaction then (⟨.transactionActive, "Transaction already active"⟩, c)
  else
    match reply, c.txn with
    | some msg, _ => (.fail msg, c)
    | none, some _ => (.fail "cannot start a transaction within a transaction", c)
    | none, none => (.success, ⟨true, some ⟨id, []⟩⟩)

def commit (reply : SqlReply) : DbStatus × SQLiteConnection ω × List ω :=
  if !c.inTransaction then (.fail "No active transaction", c, [])
  else
    match reply, c.txn with
    | some msg, _ => (.fail msg, c, [])
    | none, none => (.fail "cannot commit - no transaction is active", c, [])
    | none, some t => (.success, ⟨false, none⟩, t.writes)

/-- The flag is cleared whatever the server says. -/
def rollback (reply : SqlReply) : DbStatus × SQLiteConnection ω :=
  if !c.inTransaction then (.fail "No active transaction", c)
  else
    match reply, c.txn with
    | some msg, _ => (.fail msg, { c with inTransaction := false })
    | none, none => (.fail "cannot rollback - no transaction is active", ⟨false, none⟩)
    | none, some _ => (.success, ⟨false, none⟩)

def resetState (reply : SqlReply) : SQLiteConnection ω :=
  if c.inTransaction then (c.rollback reply).2 else c

end

variable {c : SQLiteConnection ω} {reply : SqlReply}

theorem execute_cases (c : SQLiteConnection ω) (w : ω) (reply : SqlReply) :
    (∃ msg, c.execute w reply = (.fail msg, c, [])) ∨
    (c.txn = none ∧ c.execute w reply = (.success, c, [w])) ∨
    ∃ t, c.txn = some t ∧
      c.execute w reply =
        (.success, { c with txn := some { t with writes := t.writes ++ [w] } }, []) := by
  cases reply with
  | some msg => exact .inl ⟨msg, rfl⟩
  | none =>
    cases ht : c.txn with
    | none => exact .inr (.inl ⟨rfl, by simp [execute, ht]⟩)
    | some t => exact .inr (.inr ⟨t, rfl, by simp [execute, ht]⟩)

theorem beginTransaction_cases (c : SQLiteConnection ω) (id : Nat) (reply : SqlReply) :
    (∃ st : DbStatus, st.isOk = false ∧ c.beginTransaction id reply = (st, c)) ∨
    (c.inTransaction = false ∧ c.txn = none ∧
      c.beginTransaction id reply = (.success, ⟨true, some ⟨id, []⟩⟩)) := by
  unfold beginTransaction
  cases hf : c.inTransaction with
  | true => exact .inl ⟨_, rfl, rfl⟩
  | false =>
    cases reply with
    | some msg => exact .inl ⟨_, rfl, rfl⟩
    | none =>
      cases ht : c.txn with
      | some t => exact .inl ⟨_, rfl, rfl⟩
      | none => exact .inr ⟨rfl, rfl, rfl⟩

theorem commit_cases (c : SQLiteConnection ω) (reply : SqlReply) :
    (∃ st : DbStatus, st.isOk = false ∧ c.commit reply = (st, c, [])) ∨
    ∃ t, c.inTransaction = true ∧ c.txn = some t ∧
    c.commit reply = (.success, ⟨false, none⟩, t.writes) := by
  unfold commit
  cases hf : c.inTransaction with
  | false => exact .inl ⟨_, rfl, rfl⟩
  | true =>
    cases reply with
    | some msg => exact .inl ⟨_, rfl, rfl⟩
    | none =>
      cases ht : c.txn with
      | none => exact .inl ⟨_, rfl, rfl⟩
      | some t => exact .inr ⟨t, rfl, rfl, rfl⟩

theorem rollback_flag (c : SQLiteConnection ω) (reply : SqlReply) :
    (c.rollback reply).2.inTransaction = false := by
  unfold rollback
  cases hf : c.inTransaction with
  | false => exact hf
  | true => cases reply <;> cases c.txn <;> rfl

theorem rollback_none (h : c.inTransaction = c.txn.isSome) : (c.rollback none).2 = fresh := by
  obtain ⟨flag, txn⟩ := c
  cases flag with
  | true => cases txn <;> rfl
  | false =>
    cases txn with
    | none => rfl
    | some t => cases h

theorem resetState_flag (c : SQLiteConnection ω) (reply : SqlReply) :
    (c.resetState reply).inTransaction = false := by
  unfold resetState
  split
  · exact c.rollback_flag reply
  · rename_i hf
    simpa using hf

theorem resetState_none (h : c.inTransaction = c.txn.isSome) : c.resetState none = fresh := by
  unfold resetState
  split
  · exact rollback_none h
  · rename_i hf
    obtain ⟨flag, txn⟩ := c
    cases txn with
    | none => simpa [fresh] using hf
    | some t => simp_all

end SQLiteConnection

namespace TransactionWrapper

variable {ω : Type}

variable (committed : Bool) (c : SQLiteConnection ω) (reply : SqlReply)

def commit : DbStatus × SQLiteConnection ω × List ω :=
  if committed then (.fail "Already committed", c, []) else c.commit reply

def destroy : SQLiteConnection ω :=
  if committed then c else (c.rollback reply).2

end TransactionWrapper

/-! ## Wrappers, calls, and the pool -/

structure WriteEntry where
  stmt : Nat
  /-- the transaction it was sent in, by the place of its wrapper -/
  txn : Option Nat
  /-- the `AsyncRunInTransaction` that sent it -/
  call : Option Nat
deriving DecidableEq, Repr

/-- An object that holds a `shared_ptr` to a connection. -/
inductive HandleKind where
  /-- the local of a `DatabaseImpl` function, the proxy, a `ResultSetWrapper`, a
  `PreparedStatementWrapper` -/
  | conn
  /-- a `TransactionWrapper` with its `_committed` -/
  | tx (committed : Bool)
deriving DecidableEq, Repr

structure DbHandle where
  conn : ConnId
  /-- the `AsyncRunInTransaction` whose connection it is -/
  call : Option Nat
  kind : HandleKind
deriving DecidableEq, Repr

/-- What the destructor does to the connection. -/
def DbHandle.destroyOn (h : DbHandle) (c : SQLiteConnection WriteEntry) (reply : SqlReply) :
    SQLiteConnection WriteEntry :=
  match h.kind with
  | .conn => c
  | .tx committed => TransactionWrapper.destroy committed c reply

structure TxCall where
  /-- transactions begun -/
  begun : Nat
  /-- statements that reported success, in order -/
  issued : List Nat
  /-- a `Commit` reported success -/
  committed : Bool
  /-- the flag that is passed to the callback -/
  result : Option Bool
deriving DecidableEq, Repr

namespace TxCall

def issue (stmt : Nat) (call : TxCall) : TxCall := { call with issued := call.issued ++ [stmt] }

def beginOne (call : TxCall) : TxCall := { call with begun := call.begun + 1 }

def markCommitted (call : TxCall) : TxCall := { call with committed := true }

end TxCall

structure DbSystem where
  idle : List ConnId
  conns : ConnId → SQLiteConnection WriteEntry
  /-- by the order in which they were made; `none` is a destroyed one -/
  handles : List (Option DbHandle)
  calls : List TxCall
  /-- the committed writes, oldest first -/
  log : List WriteEntry
  /-- the wrappers whose `Commit` reported success -/
  committed : List Nat
  /-- the result sets that `PreparedStatementWrapper::ExecuteQuery` has returned, by the connection
  they read from; they hold no share of it -/
  rows : List ConnId

inductive TxOutcome where
  | returned (success : Bool)
  | threw
deriving DecidableEq, Repr

/-- The flag that reaches the callback: `catch (...)` makes it false. -/
def TxOutcome.success : TxOutcome → Bool
  | .returned b => b
  | .threw => false

inductive DbAction where
  /-- a function of `DatabaseImpl` gets a connection, an idle one or a new one -/
  | acquire (c : ConnId)
  /-- `Acquire` destroys an idle connection that does not answer -/
  | discard (c : ConnId)
  /-- the worker of `AsyncRunInTransaction` gets its connection, or none -/
  | asyncRun (c : Option ConnId)
  | execute (i : Nat) (stmt : Nat) (reply : SqlReply)
  /-- a result set or a prepared statement takes a share of the connection -/
  | wrap (i : Nat)
  /-- `ExecuteQuery` of a prepared statement returns the bare result set -/
  | executeQuery (i : Nat)
  /-- a bare result set is destroyed -/
  | closeRows (k : Nat)
  /-- `make_unique` throws when `alloc` is false -/
  | beginTransaction (i : Nat) (reply : SqlReply) (alloc : Bool)
  | commit (i : Nat) (reply : SqlReply)
  /-- the destructor, and `Release` when it held the last share -/
  | drop (i : Nat) (reply resetReply : SqlReply)
  /-- `txLogic` ends and the flag goes to the dispatcher -/
  | finish (k : Nat) (outcome : TxOutcome)
deriving DecidableEq, Repr

namespace DbSystem

def init : DbSystem := ⟨[], fun _ => .fresh, [], [], [], [], []⟩

def heldBy (c : ConnId) : Option DbHandle → Bool
  | none => false
  | some h => h.conn = c

variable (s : DbSystem)

def held (c : ConnId) : Bool := s.handles.any (heldBy c)

def setConn (c : ConnId) (conn : SQLiteConnection WriteEntry) : DbSystem :=
  { s with conns := Function.update s.conns c conn }

def addHandle (h : Option DbHandle) : DbSystem := { s with handles := s.handles ++ [h] }

def addCall (call : TxCall) : DbSystem := { s with calls := s.calls ++ [call] }

def onCall (call : Option Nat) (f : TxCall → TxCall) : DbSystem :=
  match call with
  | none => s
  | some k => { s with calls := s.calls.modify k f }

/-- `Acquire`: an idle connection, or a new object. -/
def take (c : ConnId) : Option DbSystem :=
  if c ∈ s.idle then some { s with idle := s.idle.erase c }
  else if s.held c then none
  else some (s.setConn c .fresh)

def writeOf (h : DbHandle) (stmt : Nat) : WriteEntry :=
  ⟨stmt, (s.conns h.conn).txn.map OpenTxn.id, h.call⟩

def executeBy (h : DbHandle) (stmt : Nat) (reply : SqlReply) : DbSystem :=
  let r := (s.conns h.conn).execute (s.writeOf h stmt) reply
  let s := { s.setConn h.conn r.2.1 with log := s.log ++ r.2.2 }
  if r.1.isOk then s.onCall h.call (TxCall.issue stmt) else s

/-- A transaction is named after the place of its wrapper. -/
def beginBy (h : DbHandle) (reply : SqlReply) (alloc : Bool) : DbSystem :=
  let r := (s.conns h.conn).beginTransaction s.handles.length reply
  if r.1.isOk then
    ((s.setConn h.conn r.2).addHandle (if alloc then some ⟨h.conn, h.call, .tx false⟩
      else none)).onCall h.call TxCall.beginOne
  else s.setConn h.conn r.2

def commitBy (i : Nat) (h : DbHandle) (committed : Bool) (reply : SqlReply) : DbSystem :=
  let r := TransactionWrapper.commit committed (s.conns h.conn) reply
  let s := { s.setConn h.conn r.2.1 with log := s.log ++ r.2.2 }
  if r.1.isOk then
    { s with
      handles := s.handles.set i (some { h with kind := .tx true }),
      committed := s.committed ++ [i] }.onCall h.call TxCall.markCommitted
  else s

/-- `Release`, once no share is left. -/
def release (c : ConnId) (reply : SqlReply) : DbSystem :=
  if s.held c then s
  else { s.setConn c ((s.conns c).resetState reply) with idle := s.idle ++ [c] }

def dropBy (i : Nat) (h : DbHandle) (reply resetReply : SqlReply) : DbSystem :=
  { s.setConn h.conn (h.destroyOn (s.conns h.conn) reply) with
    handles := s.handles.set i none }.release h.conn resetReply

def step : DbAction → Option DbSystem
  | .acquire c =>
    match s.take c with
    | none => none
    | some s' => some (s'.addHandle (some ⟨c, none, .conn⟩))
  | .discard c => if c ∈ s.idle then some { s with idle := s.idle.erase c } else none
  | .asyncRun none => some (s.addCall ⟨0, [], false, some false⟩)
  | .asyncRun (some c) =>
    match s.take c with
    | none => none
    | some s' =>
      some ((s'.addCall ⟨0, [], false, none⟩).addHandle (some ⟨c, some s.calls.length, .conn⟩))
  | .execute i stmt reply =>
    match s.handles[i]? with
    | some (some ⟨c, call, .conn⟩) => some (s.executeBy ⟨c, call, .conn⟩ stmt reply)
    | _ => none
  | .wrap i =>
    match s.handles[i]? with
    | some (some ⟨c, call, .conn⟩) => some (s.addHandle (some ⟨c, call, .conn⟩))
    | _ => none
  | .executeQuery i =>
    match s.handles[i]? with
    | some (some ⟨c, _, .conn⟩) => some { s with rows := s.rows ++ [c] }
    | _ => none
  | .closeRows k => some { s with rows := s.rows.eraseIdx k }
  | .beginTransaction i reply alloc =>
    match s.handles[i]? with
    | some (some ⟨c, call, .conn⟩) => some (s.beginBy ⟨c, call, .conn⟩ reply alloc)
    | _ => none
  | .commit i reply =>
    match s.handles[i]? with
    | some (some ⟨c, call, .tx committed⟩) =>
      some (s.commitBy i ⟨c, call, .tx committed⟩ committed reply)
    | _ => none
  | .drop i reply resetReply =>
    match s.handles[i]? with
    | some (some h) => some (s.dropBy i h reply resetReply)
    | _ => none
  | .finish k outcome =>
    match s.calls[k]? with
    | some ⟨begun, issued, committed, none⟩ =>
      some { s with calls := s.calls.set k ⟨begun, issued, committed, some outcome.success⟩ }
    | _ => none

end DbSystem

/-! ## What a step can do -/

inductive DbStepped (s : DbSystem) : DbAction → DbSystem → Prop
  | acquire {c : ConnId} {s₁ : DbSystem} (ht : s.take c = some s₁) :
      DbStepped s (.acquire c) (s₁.addHandle (some ⟨c, none, .conn⟩))
  | discard {c : ConnId} (hc : c ∈ s.idle) :
      DbStepped s (.discard c) { s with idle := s.idle.erase c }
  | asyncFail : DbStepped s (.asyncRun none) (s.addCall ⟨0, [], false, some false⟩)
  | asyncRun {c : ConnId} {s₁ : DbSystem} (ht : s.take c = some s₁) :
      DbStepped s (.asyncRun (some c))
        ((s₁.addCall ⟨0, [], false, none⟩).addHandle (some ⟨c, some s.calls.length, .conn⟩))
  | execute {i : Nat} {h : DbHandle} {stmt : Nat} {reply : SqlReply}
      (hi : s.handles[i]? = some (some h))
      (hk : h.kind = .conn) : DbStepped s (.execute i stmt reply) (s.executeBy h stmt reply)
  | wrap {i : Nat} {h : DbHandle} (hi : s.handles[i]? = some (some h)) (hk : h.kind = .conn) :
      DbStepped s (.wrap i) (s.addHandle (some h))
  | executeQuery {i : Nat} {h : DbHandle} (hi : s.handles[i]? = some (some h))
      (hk : h.kind = .conn) : DbStepped s (.executeQuery i) { s with rows := s.rows ++ [h.conn] }
  | closeRows {k : Nat} : DbStepped s (.closeRows k) { s with rows := s.rows.eraseIdx k }
  | beginTransaction {i : Nat} {h : DbHandle} {reply : SqlReply} {alloc : Bool}
      (hi : s.handles[i]? = some (some h)) (hk : h.kind = .conn) :
      DbStepped s (.beginTransaction i reply alloc) (s.beginBy h reply alloc)
  | commit {i : Nat} {h : DbHandle} {committed : Bool} {reply : SqlReply}
      (hi : s.handles[i]? = some (some h))
      (hk : h.kind = .tx committed) : DbStepped s (.commit i reply) (s.commitBy i h committed reply)
  | drop {i : Nat} {h : DbHandle} {reply resetReply : SqlReply}
      (hi : s.handles[i]? = some (some h)) :
      DbStepped s (.drop i reply resetReply) (s.dropBy i h reply resetReply)
  | finish {k : Nat} {call : TxCall} {outcome : TxOutcome} (hk : s.calls[k]? = some call)
      (hr : call.result = none) :
      DbStepped s (.finish k outcome)
      { s with calls := s.calls.set k { call with result := some outcome.success } }

namespace DbSystem

variable {s s₁ s' : DbSystem} {a : DbAction} {c : ConnId} {h : DbHandle} {i : Nat}

/-- Inversion of `step`. -/
theorem stepped (hs : s.step a = some s') : DbStepped s a s' := by
  cases a
  case acquire c =>
    simp only [step] at hs
    cases ht : s.take c with
    | none => simp [ht] at hs
    | some s₁ =>
      simp only [ht, Option.some.injEq] at hs
      exact hs ▸ .acquire ht
  case discard c =>
    simp only [step] at hs
    split at hs
    · rename_i hc
      cases hs
      exact .discard hc
    · cases hs
  case asyncRun o =>
    cases o with
    | none => cases hs; exact .asyncFail
    | some c =>
      simp only [step] at hs
      cases ht : s.take c with
      | none => simp [ht] at hs
      | some s₁ =>
        simp only [ht, Option.some.injEq] at hs
        exact hs ▸ .asyncRun ht
  case execute i stmt reply =>
    simp only [step] at hs
    split at hs
    · rename_i hi
      cases hs
      exact .execute hi rfl
    · cases hs
  case wrap i =>
    simp only [step] at hs
    split at hs
    · rename_i hi
      cases hs
      exact .wrap hi rfl
    · cases hs
  case executeQuery i =>
    simp only [step] at hs
    split at hs
    · rename_i hi
      cases hs
      exact .executeQuery hi rfl
    · cases hs
  case closeRows k =>
    cases hs
    exact .closeRows
  case beginTransaction i reply alloc =>
    simp only [step] at hs
    split at hs
    · rename_i hi
      cases hs
      exact .beginTransaction hi rfl
    · cases hs
  case commit i reply =>
    simp only [step] at hs
    split at hs
    · rename_i hi
      cases hs
      exact .commit hi rfl
    · cases hs
  case drop i reply resetReply =>
    simp only [step] at hs
    split at hs
    · rename_i hi
      cases hs
      exact .drop hi
    · cases hs
  case finish k outcome =>
    simp only [step] at hs
    split at hs
    · rename_i hk
      cases hs
      exact .finish hk rfl
    · cases hs

theorem take_cases (ht : s.take c = some s₁) :
    (c ∈ s.idle ∧ s₁ = { s with idle := s.idle.erase c }) ∨
    (c ∉ s.idle ∧ s.held c = false ∧ s₁ = s.setConn c .fresh) := by
  unfold take at ht
  by_cases hc : c ∈ s.idle
  · rw [if_pos hc, Option.some.injEq] at ht
    exact .inl ⟨hc, ht.symm⟩
  · rw [if_neg hc] at ht
    cases hh : s.held c with
    | true => simp [hh] at ht
    | false => exact .inr ⟨hc, rfl, by simpa [hh] using ht.symm⟩

theorem held_iff : s.held c = true ↔ ∃ (i : Nat) (h : DbHandle), s.handles[i]? = some (some h) ∧
    h.conn = c := by
  unfold held
  rw [List.any_eq_true]
  constructor
  · rintro ⟨x, hx, hb⟩
    cases x with
    | none => cases hb
    | some h =>
      obtain ⟨i, hi⟩ := List.mem_iff_getElem?.mp hx
      exact ⟨i, h, hi, by simpa [heldBy] using hb⟩
  · rintro ⟨i, h, hi, hc⟩
    exact ⟨some h, List.mem_of_getElem? hi, by simpa [heldBy] using hc⟩

@[simp] theorem setConn_self (s : DbSystem) (c : ConnId) : s.setConn c (s.conns c) = s := by
  simp [setConn]

@[simp] theorem onCall_idle (s : DbSystem) (k : Option Nat) (f : TxCall → TxCall) :
    (s.onCall k f).idle = s.idle := by
  cases k <;> rfl

@[simp] theorem onCall_conns (s : DbSystem) (k : Option Nat) (f : TxCall → TxCall) :
    (s.onCall k f).conns = s.conns := by
  cases k <;> rfl

@[simp] theorem onCall_handles (s : DbSystem) (k : Option Nat) (f : TxCall → TxCall) :
    (s.onCall k f).handles = s.handles := by
  cases k <;> rfl

@[simp] theorem onCall_log (s : DbSystem) (k : Option Nat) (f : TxCall → TxCall) :
    (s.onCall k f).log = s.log := by
  cases k <;> rfl

@[simp] theorem onCall_committed (s : DbSystem) (k : Option Nat) (f : TxCall → TxCall) :
    (s.onCall k f).committed = s.committed := by
  cases k <;> rfl

theorem executeBy_cases (s : DbSystem) (h : DbHandle) (stmt : Nat) (reply : SqlReply) :
    s.executeBy h stmt reply = s ∨
    ((s.conns h.conn).txn = none ∧
      s.executeBy h stmt reply = { s with log := s.log ++ [s.writeOf h stmt] }.onCall h.call
      (TxCall.issue stmt)) ∨
    ∃ t, (s.conns h.conn).txn = some t ∧
      s.executeBy h stmt reply =
        (s.setConn h.conn ⟨(s.conns h.conn).inTransaction,
          some ⟨t.id, t.writes ++ [s.writeOf h stmt]⟩⟩).onCall h.call (TxCall.issue stmt) := by
  unfold executeBy
  obtain ⟨msg, hr⟩ | ⟨ht, hr⟩ | ⟨t, ht, hr⟩ :=
    (s.conns h.conn).execute_cases (s.writeOf h stmt) reply
  · left
    simp [hr]
  · right; left
    exact ⟨ht, by simp [hr]⟩
  · right; right
    exact ⟨t, ht, by simp [hr, setConn]⟩

theorem beginBy_cases (s : DbSystem) (h : DbHandle) (reply : SqlReply) (alloc : Bool) :
    s.beginBy h reply alloc = s ∨
    ((s.conns h.conn).inTransaction = false ∧ (s.conns h.conn).txn = none ∧
      s.beginBy h reply alloc =
        ((s.setConn h.conn ⟨true, some ⟨s.handles.length, []⟩⟩).addHandle
          (if alloc then some ⟨h.conn, h.call, .tx false⟩ else none)).onCall h.call
            TxCall.beginOne) := by
  unfold beginBy
  obtain ⟨st, hst, hr⟩ | ⟨hf, ht, hr⟩ :=
    (s.conns h.conn).beginTransaction_cases s.handles.length reply
  · left
    simp [hr, hst]
  · right
    exact ⟨hf, ht, by simp [hr]⟩

theorem commitBy_cases (s : DbSystem) (i : Nat) (h : DbHandle) (committed : Bool)
    (reply : SqlReply) : s.commitBy i h committed reply = s ∨
    ∃ t, committed = false ∧ (s.conns h.conn).inTransaction = true ∧ (s.conns h.conn).txn = some t ∧
      s.commitBy i h committed reply =
        { s.setConn h.conn .fresh with
            log := s.log ++ t.writes
            handles := s.handles.set i (some { h with kind := .tx true })
            committed := s.committed ++ [i] }.onCall h.call TxCall.markCommitted := by
  unfold commitBy TransactionWrapper.commit
  cases committed with
  | true => simp
  | false =>
    obtain ⟨st, hst, hr⟩ | ⟨t, hf, ht, hr⟩ := (s.conns h.conn).commit_cases reply
    · left
      simp [hr, hst]
    · right
      exact ⟨t, rfl, hf, ht, by simp [hr, setConn, SQLiteConnection.fresh]⟩

/-! ## Who has a connection -/

/-- The idle connections belong to nobody and their flag is down; the objects that share a
connection share the call it was taken for. -/
structure Places (s : DbSystem) : Prop where
  nodup : s.idle.Nodup
  unheld : ∀ c ∈ s.idle, s.held c = false
  rested : ∀ c ∈ s.idle, (s.conns c).inTransaction = false
  shared : ∀ {i j : Nat} {h h' : DbHandle}, s.handles[i]? = some (some h) →
    s.handles[j]? = some (some h') → h.conn = h'.conn → h.call = h'.call

/-- Every share of `s'` is one of `s`, or a copy of one. -/
def Traced (s s' : DbSystem) : Prop :=
  ∀ {j : Nat} {h' : DbHandle}, s'.handles[j]? = some (some h') →
    ∃ (i : Nat) (h : DbHandle), s.handles[i]? = some (some h) ∧ h.conn = h'.conn ∧ h.call = h'.call

theorem Places.not_idle (hp : s.Places) (hi : s.handles[i]? = some (some h)) : h.conn ∉ s.idle := by
  intro hc
  have hheld : s.held h.conn = true := held_iff.mpr ⟨i, h, hi, rfl⟩
  rw [hp.unheld _ hc] at hheld
  cases hheld

/-- The owners of `h.conn` change it, and shares are copied or given up. -/
theorem Places.update (hp : s.Places) (hi : s.handles[i]? = some (some h))
    (hidle : s'.idle = s.idle) (hconns : ∀ c, c ≠ h.conn → s'.conns c = s.conns c)
    (ht : Traced s s') : s'.Places where
  nodup := hidle ▸ hp.nodup
  unheld := by
    intro c hc
    rw [hidle] at hc
    by_contra hn
    obtain ⟨j, h', hj, hc'⟩ := held_iff.mp (by simpa using hn)
    obtain ⟨k, h'', hk, heq, -⟩ := ht hj
    have hh : s.held c = true := held_iff.mpr ⟨k, h'', hk, heq.trans hc'⟩
    rw [hp.unheld c hc] at hh
    cases hh
  rested := by
    intro c hc
    rw [hidle] at hc
    have hne : c ≠ h.conn := fun he => hp.not_idle hi (he ▸ hc)
    rw [hconns c hne]
    exact hp.rested c hc
  shared := by
    intro j k h₁ h₂ h1 h2 heq
    obtain ⟨j', h₁', hj, hc1, hk1⟩ := ht h1
    obtain ⟨k', h₂', hk, hc2, hk2⟩ := ht h2
    rw [← hk1, ← hk2]
    exact hp.shared hj hk (hc1.trans (heq.trans hc2.symm))

theorem setConn_other {c c' : ConnId} (s : DbSystem) (conn : SQLiteConnection WriteEntry)
    (hne : c' ≠ c) : (s.setConn c conn).conns c' = s.conns c' := Function.update_of_ne hne _ _

@[simp] theorem setConn_same (s : DbSystem) (c : ConnId) (conn : SQLiteConnection WriteEntry) :
    (s.setConn c conn).conns c = conn := Function.update_self _ _ _

theorem traced_of_handles (hh : s'.handles = s.handles) : Traced s s' := by
  intro j h' hj
  exact ⟨j, h', hh ▸ hj, rfl, rfl⟩

theorem traced_append {o : Option DbHandle} (hi : s.handles[i]? = some (some h))
    (ho : ∀ h', o = some h' → h'.conn = h.conn ∧ h'.call = h.call)
    (hh : s'.handles = s.handles ++ [o]) : Traced s s' := by
  intro j h' hj
  rw [hh, List.getElem?_append] at hj
  split at hj
  · exact ⟨j, h', hj, rfl, rfl⟩
  · obtain ⟨h1, h2⟩ := ho h' (List.mem_singleton.mp (List.mem_of_getElem? hj)).symm
    exact ⟨i, h, hi, h1.symm, h2.symm⟩

theorem traced_set {o : Option DbHandle} (hi : s.handles[i]? = some (some h))
    (ho : ∀ h', o = some h' → h'.conn = h.conn ∧ h'.call = h.call)
    (hh : s'.handles = s.handles.set i o) : Traced s s' := by
  intro j h' hj
  rw [hh, List.getElem?_set] at hj
  split at hj
  · split at hj
    · obtain ⟨h1, h2⟩ := ho h' (Option.some.inj hj)
      exact ⟨i, h, hi, h1.symm, h2.symm⟩
    · cases hj
  · exact ⟨j, h', hj, rfl, rfl⟩

theorem places_execute (hp : s.Places) (hi : s.handles[i]? = some (some h)) (stmt : Nat)
    (reply : SqlReply) : (s.executeBy h stmt reply).Places := by
  obtain he | ⟨-, he⟩ | ⟨t, -, he⟩ := s.executeBy_cases h stmt reply
  · rw [he]
    exact hp
  · rw [he]
    exact hp.update hi (by simp) (by simp) (traced_of_handles (by simp))
  · rw [he]
    refine hp.update hi (by simp [setConn]) (fun c hc => ?_) (traced_of_handles (by simp [setConn]))
    simpa using s.setConn_other _ hc

theorem places_begin (hp : s.Places) (hi : s.handles[i]? = some (some h)) (reply : SqlReply)
    (alloc : Bool) : (s.beginBy h reply alloc).Places := by
  obtain he | ⟨-, -, he⟩ := s.beginBy_cases h reply alloc
  · rw [he]
    exact hp
  · rw [he]
    refine hp.update hi (by simp [setConn, addHandle]) (fun c hc => ?_) ?_
    · simpa [addHandle] using s.setConn_other _ hc
    · refine traced_append hi (fun h' ho => ?_) (by simp [setConn, addHandle]; rfl)
      cases alloc with
      | true => cases ho; exact ⟨rfl, rfl⟩
      | false => cases ho

theorem places_commit (hp : s.Places) (hi : s.handles[i]? = some (some h)) (committed : Bool)
    (reply : SqlReply) : (s.commitBy i h committed reply).Places := by
  obtain he | ⟨t, -, -, -, he⟩ := s.commitBy_cases i h committed reply
  · rw [he]
    exact hp
  · rw [he]
    refine hp.update hi (by simp [setConn]) (fun c hc => ?_) ?_
    · simpa using s.setConn_other _ hc
    · refine traced_set hi (fun h' ho => ?_) (by simp; rfl)
      cases ho
      exact ⟨rfl, rfl⟩

theorem places_release (hp : s.Places) (hc : c ∉ s.idle) (reply : SqlReply) :
    (s.release c reply).Places := by
  unfold release
  split
  · exact hp
  · rename_i hh
    have hh : s.held c = false := by simpa using hh
    refine ⟨?_, ?_, ?_, hp.shared⟩
    · exact List.nodup_append.mpr ⟨hp.nodup, List.nodup_singleton c, fun x hx y hy => by
        rw [List.mem_singleton.mp hy]
        exact fun he => hc (he ▸ hx)⟩
    · intro c' hc'
      obtain hold | hnew := List.mem_append.mp hc'
      · exact hp.unheld c' hold
      · rw [List.mem_singleton.mp hnew]
        exact hh
    · intro c' hc'
      obtain hold | hnew := List.mem_append.mp hc'
      · have hne : c' ≠ c := fun he => hc (he ▸ hold)
        show ((s.setConn c _).conns c').inTransaction = false
        rw [s.setConn_other _ hne]
        exact hp.rested c' hold
      · rw [List.mem_singleton.mp hnew]
        show ((s.setConn c _).conns c).inTransaction = false
        rw [setConn_same]
        exact SQLiteConnection.resetState_flag _ _

/-- The state after the destructor and before `Release`. -/
def destroyed (s : DbSystem) (i : Nat) (h : DbHandle) (reply : SqlReply) : DbSystem :=
  { s.setConn h.conn (h.destroyOn (s.conns h.conn) reply) with handles := s.handles.set i none }

theorem dropBy_eq (s : DbSystem) (i : Nat) (h : DbHandle) (reply resetReply : SqlReply) :
    s.dropBy i h reply resetReply = (s.destroyed i h reply).release h.conn resetReply := rfl

theorem places_drop (hp : s.Places) (hi : s.handles[i]? = some (some h))
    (reply resetReply : SqlReply) : (s.dropBy i h reply resetReply).Places := by
  rw [dropBy_eq]
  apply places_release
  · refine hp.update hi rfl (fun c hc => ?_) (traced_set hi (fun h' ho => ?_) rfl)
    · exact s.setConn_other _ hc
    · cases ho
  · exact hp.not_idle hi

/-- What `Acquire` gives is out of the pool, belongs to nobody and has its flag down. -/
theorem places_take (hp : s.Places) (ht : s.take c = some s₁) :
    s₁.Places ∧ c ∉ s₁.idle ∧ s₁.held c = false ∧ (s₁.conns c).inTransaction = false := by
  obtain ⟨hc, rfl⟩ | ⟨hc, hh, rfl⟩ := take_cases ht
  · refine ⟨⟨hp.nodup.erase c, ?_, ?_, hp.shared⟩, ?_, hp.unheld c hc, hp.rested c hc⟩
    · exact fun c' hc' => hp.unheld c' (List.mem_of_mem_erase hc')
    · exact fun c' hc' => hp.rested c' (List.mem_of_mem_erase hc')
    · exact fun hm => (hp.nodup.mem_erase_iff.mp hm).1 rfl
  · refine ⟨⟨hp.nodup, hp.unheld, ?_, hp.shared⟩, hc, hh, by simp [SQLiteConnection.fresh]⟩
    intro c' hc'
    have hne : c' ≠ c := fun he => hc (he ▸ hc')
    rw [s.setConn_other _ hne]
    exact hp.rested c' hc'

theorem getElem?_append_some {l : List (Option DbHandle)} {h h' : DbHandle} {j : Nat}
    (hj : (l ++ [some h])[j]? = some (some h')) : l[j]? = some (some h') ∨ h' = h := by
  rw [List.getElem?_append] at hj
  split at hj
  · exact .inl hj
  · exact .inr (Option.some.inj (List.mem_singleton.mp (List.mem_of_getElem? hj)))

theorem places_first (hp : s.Places) (hc : c ∉ s.idle) (hh : s.held c = false) (call : Option Nat) :
    (s.addHandle (some ⟨c, call, .conn⟩)).Places := by
  have hnone {j : Nat} {h' : DbHandle} (hj : s.handles[j]? = some (some h')) : h'.conn ≠ c := by
    intro he
    have : s.held c = true := held_iff.mpr ⟨j, h', hj, he⟩
    rw [hh] at this
    cases this
  have hcases {j : Nat} {h' : DbHandle} (hj : (s.handles ++ [some ⟨c, call, .conn⟩])[j]? =
      some (some h')) :
      s.handles[j]? = some (some h') ∨ h' = ⟨c, call, .conn⟩ := getElem?_append_some hj
  refine ⟨hp.nodup, ?_, hp.rested, ?_⟩
  · intro c' hc'
    by_contra hn
    obtain ⟨j, h', hj, he⟩ := held_iff.mp (by simpa using hn)
    obtain hold | rfl := hcases hj
    · have : s.held c' = true := held_iff.mpr ⟨j, h', hold, he⟩
      rw [hp.unheld c' hc'] at this
      cases this
    · have he : c = c' := he
      exact hc (he ▸ hc')
  · intro j k h₁ h₂ h1 h2 heq
    obtain hold1 | rfl := hcases h1
    · obtain hold2 | rfl := hcases h2
      · exact hp.shared hold1 hold2 heq
      · exact absurd heq (hnone hold1)
    · obtain hold2 | rfl := hcases h2
      · exact absurd heq.symm (hnone hold2)
      · rfl

theorem places_addCall (hp : s.Places) (call : TxCall) : (s.addCall call).Places :=
  ⟨hp.nodup, hp.unheld, hp.rested, hp.shared⟩

theorem places_step (hp : s.Places) (hs : s.step a = some s') : s'.Places := by
  cases stepped hs with
  | acquire ht =>
    obtain ⟨h1, h2, h3, -⟩ := places_take hp ht
    exact places_first h1 h2 h3 none
  | discard hc =>
    exact ⟨hp.nodup.erase _, fun c' hc' => hp.unheld c' (List.mem_of_mem_erase hc'),
      fun c' hc' => hp.rested c' (List.mem_of_mem_erase hc'), hp.shared⟩
  | asyncFail => exact places_addCall hp _
  | asyncRun ht =>
    obtain ⟨h1, h2, h3, -⟩ := places_take hp ht
    exact places_first (places_addCall h1 _) h2 h3 _
  | execute hi hk => exact places_execute hp hi _ _
  | wrap hi hk =>
    refine hp.update hi rfl (fun _ _ => rfl) (traced_append hi (fun h' ho => ?_) rfl)
    cases ho
    exact ⟨rfl, rfl⟩
  | executeQuery hi hk => exact ⟨hp.nodup, hp.unheld, hp.rested, hp.shared⟩
  | closeRows => exact ⟨hp.nodup, hp.unheld, hp.rested, hp.shared⟩
  | beginTransaction hi hk => exact places_begin hp hi _ _
  | commit hi hk => exact places_commit hp hi _ _
  | drop hi => exact places_drop hp hi _ _
  | finish hk hr => exact ⟨hp.nodup, hp.unheld, hp.rested, hp.shared⟩

theorem places_init : init.Places :=
  ⟨List.nodup_nil, by simp [init], by simp [init], by simp [init]⟩

/-! ## Clean connections -/

/-- Flag and server agree, an uncommitted wrapper stands for the transaction that is open on its
connection, and what is in the log was committed. -/
structure Clean (s : DbSystem) : Prop where
  places : s.Places
  sync : ∀ c, (s.conns c).inTransaction = (s.conns c).txn.isSome
  wrapper : ∀ {i : Nat} {h : DbHandle}, s.handles[i]? = some (some h) → h.kind = .tx false →
    ∃ ws, (s.conns h.conn).txn = some ⟨i, ws⟩
  labelled : ∀ {c : ConnId} {t : OpenTxn WriteEntry}, (s.conns c).txn = some t → ∀ w ∈ t.writes,
    w.txn = some t.id
  effect : ∀ w ∈ s.log, ∀ id, w.txn = some id → id ∈ s.committed

section

variable (hc : s.Clean)
include hc

/-- At most one uncommitted wrapper on a connection. -/
theorem Clean.wrapper_unique {j : Nat} {h' : DbHandle} (hi : s.handles[i]? = some (some h))
    (hk : h.kind = .tx false) (hj : s.handles[j]? = some (some h')) (hk' : h'.kind = .tx false)
    (he : h'.conn = h.conn) : j = i := by
  obtain ⟨ws, h1⟩ := hc.wrapper hi hk
  obtain ⟨ws', h2⟩ := hc.wrapper hj hk'
  rw [he, h1] at h2
  cases h2
  rfl

theorem Clean.update (hp : s'.Places) (c : ConnId)
    (hconns : ∀ c', c' ≠ c → s'.conns c' = s.conns c')
    (hsync : (s'.conns c).inTransaction = (s'.conns c).txn.isSome)
    (hlab : ∀ t, (s'.conns c).txn = some t → ∀ w ∈ t.writes, w.txn = some t.id)
    (hwrap : ∀ (j : Nat) (h' : DbHandle), s'.handles[j]? = some (some h') →
      h'.kind = .tx false → h'.conn = c → ∃ ws, (s'.conns c).txn = some ⟨j, ws⟩)
    (hold : ∀ (j : Nat) (h' : DbHandle), s'.handles[j]? = some (some h') →
      h'.kind = .tx false → h'.conn ≠ c →
      s.handles[j]? = some (some h')) (heff : ∀ w ∈ s'.log, ∀ id, w.txn = some id →
      id ∈ s'.committed) : s'.Clean where
  places := hp
  sync := by
    intro c'
    by_cases he : c' = c
    · exact he ▸ hsync
    · rw [hconns c' he]
      exact hc.sync c'
  wrapper := by
    intro j h' hj hk
    by_cases he : h'.conn = c
    · rw [he]
      exact hwrap j h' hj hk he
    · rw [hconns _ he]
      exact hc.wrapper (hold j h' hj hk he) hk
  labelled := by
    intro c' t ht
    by_cases he : c' = c
    · exact hlab t (he ▸ ht)
    · rw [hconns c' he] at ht
      exact hc.labelled ht
  effect := heff

theorem clean_execute (hi : s.handles[i]? = some (some h)) (stmt : Nat) (reply : SqlReply) :
    (s.executeBy h stmt reply).Clean := by
  have hp := places_execute hc.places hi stmt reply
  obtain he | ⟨ht, he⟩ | ⟨t, ht, he⟩ := s.executeBy_cases h stmt reply
  · rw [he]
    exact hc
  · rw [he] at hp ⊢
    refine hc.update hp h.conn (by simp) (by simpa using hc.sync h.conn) (by simp [ht]) ?_
      (fun j h' hj _ _ => by simpa using hj) ?_
    · intro j h' hj hk hcc
      simpa [hcc] using hc.wrapper (by simpa using hj) hk
    · intro w hw id hid
      simp only [onCall_log, List.mem_append, List.mem_singleton] at hw
      obtain hold | rfl := hw
      · simpa using hc.effect w hold id hid
      · simp [writeOf, ht] at hid
  · rw [he] at hp ⊢
    refine hc.update hp h.conn (fun c' hne => ?_) ?_ ?_ ?_
      (fun j h' hj _ _ => by simpa [setConn] using hj) (by simpa [setConn] using hc.effect)
    · simpa using s.setConn_other _ hne
    · have := hc.sync h.conn
      simp [this, ht]
    · intro t' ht' w hw
      simp only [onCall_conns, setConn_same, Option.some.injEq] at ht'
      subst ht'
      obtain hold | hnew := List.mem_append.mp hw
      · exact hc.labelled ht w hold
      · rw [List.mem_singleton.mp hnew]
        simp [writeOf, ht]
    · intro j h' hj hk hcc
      obtain ⟨ws, hw⟩ := hc.wrapper (by simpa [setConn] using hj) hk
      rw [hcc, ht] at hw
      cases hw
      exact ⟨_, by simp; rfl⟩

theorem clean_begin (hi : s.handles[i]? = some (some h)) (reply : SqlReply) (alloc : Bool) :
    (s.beginBy h reply alloc).Clean := by
  have hp := places_begin hc.places hi reply alloc
  obtain he | ⟨hf, ht, he⟩ := s.beginBy_cases h reply alloc
  · rw [he]
    exact hc
  · rw [he] at hp ⊢
    -- no wrapper on this connection was uncommitted: nothing was open
    have hnone {j : Nat} {h' : DbHandle} (hj : s.handles[j]? = some (some h'))
        (hk : h'.kind = .tx false) (hcc : h'.conn = h.conn) : False := by
      obtain ⟨ws, hw⟩ := hc.wrapper hj hk
      rw [hcc, ht] at hw
      cases hw
    refine hc.update hp h.conn (fun c' hne => ?_) ?_ ?_ ?_ ?_ ?_
    · simpa [addHandle] using s.setConn_other _ hne
    · simp [addHandle]
    · simp [addHandle]
    · intro j h' hj hk hcc
      simp only [onCall_handles, addHandle, setConn, List.getElem?_append] at hj
      split at hj
      · exact (hnone hj hk hcc).elim
      · rename_i hlt
        have hz : j = s.handles.length := by
          have := (List.getElem?_eq_some_iff.mp hj).1
          simp at this
          omega
        exact ⟨[], by simp [addHandle, hz]⟩
    · intro j h' hj hk hne
      simp only [onCall_handles, addHandle, setConn, List.getElem?_append] at hj
      split at hj
      · exact hj
      · have hnew := List.mem_singleton.mp (List.mem_of_getElem? hj)
        cases alloc with
        | true => cases hnew; exact absurd rfl hne
        | false => cases hnew
    · simpa [addHandle, setConn] using hc.effect

theorem clean_commit {committed : Bool} (hi : s.handles[i]? = some (some h))
    (hk : h.kind = .tx committed) (reply : SqlReply) : (s.commitBy i h committed reply).Clean := by
  have hp := places_commit hc.places hi committed reply
  obtain he | ⟨t, rfl, hf, ht, he⟩ := s.commitBy_cases i h committed reply
  · rw [he]
    exact hc
  · rw [he] at hp ⊢
    obtain ⟨ws, hw⟩ := hc.wrapper hi hk
    have hid : t.id = i := by
      rw [ht] at hw
      cases hw
      rfl
    refine hc.update hp h.conn (fun c' hne => ?_) (by simp [SQLiteConnection.fresh])
      (by simp [SQLiteConnection.fresh]) ?_ ?_ ?_
    · simpa using s.setConn_other _ hne
    · intro j h' hj hk' hcc
      simp only [onCall_handles, List.getElem?_set] at hj
      split at hj
      · split at hj
        · cases hj
          cases hk'
        · cases hj
      · rename_i hne
        exact absurd (hc.wrapper_unique hi hk hj hk' hcc).symm hne
    · intro j h' hj hk' hne
      simp only [onCall_handles, List.getElem?_set] at hj
      split at hj
      · split at hj
        · cases hj
          exact absurd rfl hne
        · cases hj
      · exact hj
    · intro w hw id hwid
      simp only [onCall_log, onCall_committed, List.mem_append] at hw ⊢
      obtain hold | hnew := hw
      · exact .inl (hc.effect w hold id hwid)
      · have := hc.labelled ht w hnew
        rw [hwid, hid] at this
        cases this
        exact .inr (List.mem_singleton_self i)

theorem clean_destroyed (hi : s.handles[i]? = some (some h)) : (s.destroyed i h none).Clean := by
  have hp : (s.destroyed i h none).Places := by
    refine hc.places.update hi rfl (fun c hne => s.setConn_other _ hne)
      (traced_set hi (fun h' ho => ?_) rfl)
    cases ho
  have hrest {j : Nat} {h' : DbHandle} (hj : (s.destroyed i h none).handles[j]? = some (some h')) :
      j ≠ i ∧ s.handles[j]? = some (some h') := by
    simp only [destroyed, List.getElem?_set] at hj
    split at hj
    · split at hj <;> cases hj
    · rename_i hne
      exact ⟨fun he => hne he.symm, hj⟩
  have hconn : (s.destroyed i h none).conns h.conn = h.destroyOn (s.conns h.conn) none :=
    s.setConn_same _ _
  by_cases hk : h.kind = .tx false
  · -- the destructor rolls back, and there is no other uncommitted wrapper
    have hfresh : h.destroyOn (s.conns h.conn) none = .fresh := by
      simp only [DbHandle.destroyOn, hk]
      exact SQLiteConnection.rollback_none (hc.sync _)
    rw [hfresh] at hconn
    refine hc.update hp h.conn (fun c hne => s.setConn_other _ hne) (by rw [hconn]; rfl) ?_ ?_
      (fun j h' hj _ _ => (hrest hj).2) hc.effect
    · intro t ht
      rw [hconn] at ht
      cases ht
    · intro j h' hj hk' hcc
      exact absurd (hc.wrapper_unique hi hk (hrest hj).2 hk' hcc) (hrest hj).1
  · have hsame : h.destroyOn (s.conns h.conn) none = s.conns h.conn := by
      unfold DbHandle.destroyOn
      split
      · rfl
      · rename_i committed heq
        cases committed with
        | true => rfl
        | false => exact absurd heq hk
    rw [hsame] at hconn
    refine hc.update hp h.conn (fun c hne => s.setConn_other _ hne)
      (by rw [hconn]; exact hc.sync _) ?_ ?_ (fun j h' hj _ _ => (hrest hj).2) hc.effect
    · intro t ht
      rw [hconn] at ht
      exact hc.labelled ht
    · intro j h' hj hk' hcc
      rw [hconn, ← hcc]
      exact hc.wrapper (hrest hj).2 hk'

theorem clean_release (hn : c ∉ s.idle) : (s.release c none).Clean := by
  have hp := places_release hc.places hn none
  unfold release at hp ⊢
  split at hp
  · rename_i hh
    rw [if_pos hh]
    exact hc
  · rename_i hh
    rw [if_neg hh]
    have hconn : (s.setConn c ((s.conns c).resetState none)).conns c = .fresh := by
      rw [setConn_same]
      exact SQLiteConnection.resetState_none (hc.sync c)
    refine hc.update hp c (fun c' hne => s.setConn_other _ hne) (by rw [hconn]; rfl) ?_ ?_
      (fun j h' hj _ _ => hj) hc.effect
    · intro t ht
      rw [hconn] at ht
      cases ht
    · intro j h' hj hk hcc
      exact absurd (held_iff.mpr ⟨j, h', hj, hcc⟩) hh

theorem clean_drop (hi : s.handles[i]? = some (some h)) : (s.dropBy i h none none).Clean := by
  rw [dropBy_eq]
  exact clean_release (clean_destroyed hc hi) (hc.places.not_idle hi)

theorem clean_take (ht : s.take c = some s₁) : s₁.Clean := by
  have hp := (places_take hc.places ht).1
  obtain ⟨-, rfl⟩ | ⟨-, hh, rfl⟩ := take_cases ht
  · exact ⟨hp, hc.sync, hc.wrapper, hc.labelled, hc.effect⟩
  · refine hc.update hp c (fun c' hne => s.setConn_other _ hne) (by simp [SQLiteConnection.fresh])
      (by simp [SQLiteConnection.fresh]) ?_ (fun j h' hj _ _ => hj) hc.effect
    intro j h' hj hk hcc
    have : s.held c = true := held_iff.mpr ⟨j, h', hj, hcc⟩
    rw [hh] at this
    cases this

theorem clean_addHandle (hk : h.kind = .conn) (hp : (s.addHandle (some h)).Places) :
    (s.addHandle (some h)).Clean := by
  refine ⟨hp, hc.sync, ?_, hc.labelled, hc.effect⟩
  intro j h' hj hk'
  obtain hold | rfl := getElem?_append_some hj
  · exact hc.wrapper hold hk'
  · rw [hk] at hk'
    cases hk'

theorem clean_addCall (call : TxCall) : (s.addCall call).Clean :=
  ⟨places_addCall hc.places call, hc.sync, hc.wrapper, hc.labelled, hc.effect⟩

end

end DbSystem

/-- What the server answers to a `ROLLBACK`, from the destructor or from `ResetState`. -/
def DbAction.rollbackReplies : DbAction → List SqlReply
  | .drop _ reply resetReply => [reply, resetReply]
  | _ => []

namespace DbSystem

variable {s s₁ s' : DbSystem} {a : DbAction} {c : ConnId} {h : DbHandle} {i : Nat}

def RollbackSucceeds (_ : DbSystem) (a : DbAction) : Prop :=
  ∀ reply ∈ a.rollbackReplies, reply = none

instance (s : DbSystem) (a : DbAction) : Decidable (s.RollbackSucceeds a) :=
  inferInstanceAs (Decidable (∀ _ ∈ _, _))

/-- **Every step leaves the pool clean.** -/
theorem clean_step (hc : s.Clean) (hok : s.RollbackSucceeds a)
    (hs : s.step a = some s') : s'.Clean := by
  have hp := places_step hc.places hs
  cases stepped hs with
  | acquire ht => exact clean_addHandle (clean_take hc ht) rfl hp
  | discard hm => exact ⟨hp, hc.sync, hc.wrapper, hc.labelled, hc.effect⟩
  | asyncFail => exact clean_addCall hc _
  | asyncRun ht => exact clean_addHandle (clean_addCall (clean_take hc ht) _) rfl hp
  | execute hi hk => exact clean_execute hc hi _ _
  | wrap hi hk => exact clean_addHandle hc hk hp
  | executeQuery hi hk => exact ⟨hp, hc.sync, hc.wrapper, hc.labelled, hc.effect⟩
  | closeRows => exact ⟨hp, hc.sync, hc.wrapper, hc.labelled, hc.effect⟩
  | beginTransaction hi hk => exact clean_begin hc hi _ _
  | commit hi hk => exact clean_commit hc hi hk _
  | @drop i h reply resetReply hi =>
    obtain rfl : reply = none := hok reply (by simp [DbAction.rollbackReplies])
    obtain rfl : resetReply = none := hok resetReply (by simp [DbAction.rollbackReplies])
    exact clean_drop hc hi
  | finish hk hr => exact ⟨hp, hc.sync, hc.wrapper, hc.labelled, hc.effect⟩

theorem clean_init :
    init.Clean :=
    ⟨places_init, fun _ => rfl, by simp [init], by simp [init, SQLiteConnection.fresh],
  by simp [init]⟩

theorem clean_run {as : List DbAction} (hok : Meets step RollbackSucceeds init as)
    (hr : run step init as = some s) : s.Clean :=
  run_inv_of_meets Clean (fun _ _ _ => clean_step) clean_init hok hr

/-- **Pooled connections are clean.** After any calls by any clients, as long as `ROLLBACK`
succeeds, an idle connection has its flag down and nothing open, and a write sent inside of a
transaction is in the log only if the `Commit` of that transaction reported success. -/
theorem pooled_clean (as : List DbAction) (s : DbSystem) (hok : Meets step RollbackSucceeds init as)
    (hr : run step init as = some s) :
    (∀ c ∈ s.idle, s.conns c = .fresh) ∧ ∀ w ∈ s.log, ∀ id, w.txn = some id → id ∈ s.committed := by
  have hc := clean_run hok hr
  refine ⟨fun c hidle => ?_, hc.effect⟩
  have hflag := hc.places.rested c hidle
  have htxn := hc.sync c
  rw [hflag] at htxn
  cases hconn : s.conns c with
  | mk flag txn =>
    rw [hconn] at hflag htxn
    cases txn with
    | none => simpa [SQLiteConnection.fresh] using hflag
    | some t => cases htxn

/-- A transaction of the proxy whose `COMMIT` fails, and that goes out of scope with its
connection. -/
def failedCommit : List DbAction :=
  [.asyncRun (some 0), .beginTransaction 0 none true, .execute 0 5 none,
    .commit 1 (some "database is locked"),
    .drop 1 none none, .finish 0 (.returned false), .drop 0 none none]

theorem pooled_clean_failedCommit : ∃ s, run step init failedCommit = some s ∧
    s.idle = [0] ∧ s.log = [] ∧ ∀ c ∈ s.idle, s.conns c = .fresh :=
  ⟨_, rfl, rfl, rfl, (pooled_clean failedCommit _ (by decide) rfl).1⟩

end DbSystem

end ToyServer
