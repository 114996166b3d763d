import ToyServer.Lib.RefCount
import ToyServer.Lib.Runs

/-!
# `DatabaseImpl::Acquire` and `Release`: the connection pool

The steps are the atomic ones of the two functions: one call of the queue, one access of an atomic,
one operation of the mutex or of the condition variable, one call of the driver.  A call of
`Acquire` stays in the list of calls while its caller holds the connection, and its deleter is the
call of `Release`; so one entry is the whole life of one lease.

What the queue, the driver and the scheduler decide is in the action: which idle connection the
queue gives, or that it gives none (`try_dequeue` of the lock-free queue may miss one that is
there), whether a connection still answers, whether a weak exchange fails, whether a connection can
be made, whom a notification wakes, how much time has passed, when a waiter wakes by itself.  A
driver that throws is outside of the model.

`pool_accounting` is the result: `_currentSize` counts exactly the connections that are idle,
checked out, being validated or being made, the limit holds, and no connection has two owners.
-/

namespace ToyServer

open RefCount Runs

/-! ## The state -/

abbrev ConnId := Nat

/-- How the wait section is left: `continue`, `break` with a connection, or `return nullptr`. -/
inductive WaitExit where
  | retry
  | handOut (conn : ConnId)
  | giveUp
deriving DecidableEq, Repr

/-- Where a call of `Acquire`, and later of `Release`, is.  `locked` says that the connection came
from the wait section, where it is validated under `_waitMutex`; `last` says that the predicate is
evaluated once more after the timeout. -/
inductive AcquirePc where
  /-- at the head of the loop, before `try_dequeue` -/
  | loop
  | validating (locked : Bool) (conn : ConnId)
  /-- the connection is deleted, `_currentSize--` is next -/
  | discarding (locked : Bool)
  /-- nothing dequeued, before `_currentSize.load()` -/
  | load
  | exchange (current : Int)
  | creating
  /-- creation failed, `_currentSize--` is next -/
  | createFailed
  /-- before `notify_one`, in `Acquire` and in `Release` -/
  | notifying
  /-- before the test of `timeoutMs == 0` -/
  | full
  | locking
  /-- has the mutex, before `_waitingThreads++` -/
  | entering
  /-- before `remaining` is computed -/
  | deciding
  | predDequeue (last : Bool)
  | predLoad (last : Bool)
  /-- the predicate was false, the thread is not blocked yet -/
  | toBlock
  | blocked
  /-- woken, before it has the mutex again -/
  | relocking (last : Bool)
  /-- before `_waitingThreads--` -/
  | leaving (exit : WaitExit)
  | unlocking (exit : WaitExit)
  /-- the caller has the `shared_ptr` -/
  | held (conn : ConnId)
  /-- in `Release`, before `_pool.enqueue` -/
  | releasing (conn : ConnId)
  /-- in `Release`, before the test of `_waitingThreads` -/
  | testing
  | returned
deriving DecidableEq, Repr

structure AcquireCall where
  timeoutMs : Int
  pc : AcquirePc
deriving DecidableEq, Repr

structure ConnectionPool where
  poolMax : Int
  /-- `_pool`: the idle connections -/
  pool : List ConnId
  currentSize : Int
  waitingThreads : Int
  /-- the call that has `_waitMutex` -/
  waitMutex : Option Nat
  calls : List AcquireCall
deriving DecidableEq, Repr

/-- What is decided outside of the code at a step. -/
inductive PoolChoice where
  | go
  /-- the idle connection that `try_dequeue` gives, by its place, or none -/
  | take (k : Option Nat)
  /-- `IsConnected() && Ping()` -/
  | alive (ok : Bool)
  /-- `compare_exchange_weak` does not fail spuriously -/
  | strong (ok : Bool)
  /-- `CreateConnection` and `Connect` -/
  | made (conn : Option ConnId)
  /-- the thread that `notify_one` wakes -/
  | woken (j : Option Nat)
  | elapsed (ms : Nat)
  | wake
  | timeout
deriving DecidableEq, Repr

inductive ConnPoolAction where
  | acquire (timeoutMs : Int)
  | act (i : Nat) (c : PoolChoice)
deriving DecidableEq, Repr

namespace AcquirePc

def conn : AcquirePc → Option ConnId
  | .validating _ c | .leaving (.handOut c) | .unlocking (.handOut c) | .held c | .releasing c =>
    some c
  | _ => none

/-- The call has a validated or fresh connection that is not back in the pool. -/
def checkedOut : AcquirePc → Nat
  | .leaving (.handOut _) | .unlocking (.handOut _) | .held _ | .releasing _ => 1
  | _ => 0

/-- The call is validating a connection or making one, up to the matching `_currentSize--`. -/
def inMaking : AcquirePc → Nat
  | .validating _ _ | .discarding _ | .creating | .createFailed => 1
  | _ => 0

/-- The call is counted in `_waitingThreads`. -/
def inWait : AcquirePc → Nat
  | .deciding | .predDequeue _ | .predLoad _ | .toBlock | .blocked | .relocking _
  | .validating true _ | .discarding true | .leaving _ => 1
  | _ => 0

def owns (c : ConnId) (pc : AcquirePc) : Nat := if pc.conn = some c then 1 else 0

/-- What follows once `waiter` and `lock` are destroyed. -/
def afterWait : WaitExit → AcquirePc
  | .retry => .loop
  | .handOut c => .held c
  | .giveUp => .returned

end AcquirePc

namespace ConnectionPool

def init (poolMax : Int) : ConnectionPool := ⟨poolMax, [], 0, 0, none, []⟩

variable (s : ConnectionPool)

def goto (i : Nat) (pc : AcquirePc) : ConnectionPool :=
  { s with calls := s.calls.modify i fun call => { call with pc } }

/-- A new object has an address that no living connection has. -/
def unused (c : ConnId) : Bool :=
  !s.pool.contains c && s.calls.all fun call => call.pc.conn != some c

/-- `try_dequeue`; it may find nothing even when the queue is not empty. -/
def tryDequeue (k : Option Nat) : Option (Option ConnId × ConnectionPool) :=
  match k with
  | none => some (none, s)
  | some k =>
    match s.pool[k]? with
    | none => none
    | some c => some (some c, { s with pool := s.pool.eraseIdx k })

/-- `notify_one`: one of the blocked threads, if there is one. -/
def notifyOne (j : Option Nat) : Option ConnectionPool :=
  match j with
  | none => if s.calls.all fun call => call.pc != .blocked then some s else none
  | some j =>
    match s.calls[j]? with
    | some ⟨_, .blocked⟩ => some (s.goto j (.relocking false))
    | _ => none

def stepCall (i : Nat) (timeoutMs : Int) : AcquirePc → PoolChoice → Option ConnectionPool
  | .loop, .take k =>
    match s.tryDequeue k with
    | none => none
    | some (none, s') => some (s'.goto i .load)
    | some (some c, s') => some (s'.goto i (.validating false c))
  | .validating false c, .alive ok => some (s.goto i (if ok then .held c else .discarding false))
  | .validating true c, .alive ok =>
    some (s.goto i (if ok then .leaving (.handOut c) else .discarding true))
  | .discarding locked, .go =>
    some ({ s with currentSize := s.currentSize - 1 }.goto i
      (if locked then .leaving .retry else .loop))
  | .load, .go =>
    some (s.goto i (if s.currentSize < s.poolMax then .exchange s.currentSize else .full))
  | .exchange current, .strong ok =>
    if s.currentSize = current ∧ ok then
      some ({ s with currentSize := current + 1 }.goto i .creating)
    else some (s.goto i .loop)
  | .creating, .made none => some (s.goto i .createFailed)
  | .creating, .made (some c) => if s.unused c then some (s.goto i (.held c)) else none
  | .createFailed, .go => some ({ s with currentSize := s.currentSize - 1 }.goto i .notifying)
  | .notifying, .woken j =>
    match s.notifyOne j with
    | none => none
    | some s' => some (s'.goto i .returned)
  | .full, .go => some (s.goto i (if timeoutMs = 0 then .returned else .locking))
  | .locking, .go =>
    if s.waitMutex = none then some ({ s with waitMutex := some i }.goto i .entering) else none
  | .entering, .go => some ({ s with waitingThreads := s.waitingThreads + 1 }.goto i .deciding)
  | .deciding, .elapsed ms =>
    -- `useInfiniteWait` skips the test of the remaining time
    some (s.goto i (if timeoutMs = -1 ∨ 0 < timeoutMs - ms then .predDequeue false
      else .leaving .giveUp))
  | .predDequeue last, .take k =>
    match s.tryDequeue k with
    | none => none
    | some (none, s') => some (s'.goto i (.predLoad last))
    | some (some c, s') => some (s'.goto i (.validating true c))
  | .predLoad last, .go =>
    some (s.goto i (if s.currentSize < s.poolMax then .leaving .retry
      else if last then .leaving .giveUp else .toBlock))
  | .toBlock, .go => some ({ s with waitMutex := none }.goto i .blocked)
  | .blocked, .wake => some (s.goto i (.relocking false))
  | .blocked, .timeout => if timeoutMs = -1 then none else some (s.goto i (.relocking true))
  | .relocking last, .go =>
    if s.waitMutex = none then some ({ s with waitMutex := some i }.goto i (.predDequeue last))
    else none
  | .leaving exit, .go =>
    some ({ s with waitingThreads := s.waitingThreads - 1 }.goto i (.unlocking exit))
  | .unlocking exit, .go => some ({ s with waitMutex := none }.goto i (AcquirePc.afterWait exit))
  -- the last `shared_ptr` goes: `Release` resets the state of the connection first
  | .held c, .go => some (s.goto i (.releasing c))
  | .releasing c, .go => some ({ s with pool := s.pool ++ [c] }.goto i .testing)
  | .testing, .go => some (s.goto i (if 0 < s.waitingThreads then .notifying else .returned))
  | _, _ => none

def step : ConnPoolAction → Option ConnectionPool
  | .acquire timeoutMs => some { s with calls := s.calls ++ [⟨timeoutMs, .loop⟩] }
  | .act i c =>
    match s.calls[i]? with
    | none => none
    | some call => s.stepCall i call.timeoutMs call.pc c

end ConnectionPool

/-! ## What a step can do -/

/-- The steps of one call: the shared part of the state afterwards and where the call goes.  Only a
notification that is heard moves a second call. -/
inductive PoolMove (s : ConnectionPool) (timeoutMs : Int) :
    AcquirePc → ConnectionPool → AcquirePc → Prop
  | dequeue {k : Nat} {c : ConnId} (hk : s.pool[k]? = some c) :
      PoolMove s timeoutMs .loop { s with pool := s.pool.eraseIdx k } (.validating false c)
  | nothing : PoolMove s timeoutMs .loop s .load
  | alive (c : ConnId) : PoolMove s timeoutMs (.validating false c) s (.held c)
  | aliveLocked (c : ConnId) : PoolMove s timeoutMs (.validating true c) s (.leaving (.handOut c))
  | dead (locked : Bool) (c : ConnId) :
      PoolMove s timeoutMs (.validating locked c) s (.discarding locked)
  | discard :
      PoolMove s timeoutMs (.discarding false) { s with currentSize := s.currentSize - 1 } .loop
  | discardLocked :
      PoolMove s timeoutMs (.discarding true) { s with currentSize := s.currentSize - 1 }
      (.leaving .retry)
  | space (h : s.currentSize < s.poolMax) : PoolMove s timeoutMs .load s (.exchange s.currentSize)
  | noSpace (h : s.poolMax ≤ s.currentSize) : PoolMove s timeoutMs .load s .full
  | exchanged :
      PoolMove s timeoutMs (.exchange s.currentSize)
      { s with currentSize := s.currentSize + 1 } .creating
  | again (current : Int) : PoolMove s timeoutMs (.exchange current) s .loop
  | create {c : ConnId} (hc : s.unused c = true) : PoolMove s timeoutMs .creating s (.held c)
  | createFail : PoolMove s timeoutMs .creating s .createFailed
  | undo : PoolMove s timeoutMs .createFailed { s with currentSize := s.currentSize - 1 } .notifying
  | unheard (h : ∀ call ∈ s.calls, call.pc ≠ .blocked) : PoolMove s timeoutMs .notifying s .returned
  | nonBlocking : PoolMove s timeoutMs .full s .returned
  | toLock : PoolMove s timeoutMs .full s .locking
  | lock {i : Nat} (h : s.waitMutex = none) :
      PoolMove s timeoutMs .locking { s with waitMutex := some i } .entering
  | enter : PoolMove s timeoutMs .entering { s with
        waitingThreads := s.waitingThreads + 1 } .deciding
  | wait : PoolMove s timeoutMs .deciding s (.predDequeue false)
  | tooLate : PoolMove s timeoutMs .deciding s (.leaving .giveUp)
  | predDequeue {k : Nat} {c : ConnId} (last : Bool) (hk : s.pool[k]? = some c) :
      PoolMove s timeoutMs (.predDequeue last) { s with pool := s.pool.eraseIdx k }
      (.validating true c)
  | predNothing (last : Bool) : PoolMove s timeoutMs (.predDequeue last) s (.predLoad last)
  | predSpace (last : Bool) (h : s.currentSize < s.poolMax) :
      PoolMove s timeoutMs (.predLoad last) s (.leaving .retry)
  | predLast (h : s.poolMax ≤ s.currentSize) :
      PoolMove s timeoutMs (.predLoad true) s (.leaving .giveUp)
  | predFalse (h : s.poolMax ≤ s.currentSize) : PoolMove s timeoutMs (.predLoad false) s .toBlock
  | block : PoolMove s timeoutMs .toBlock { s with waitMutex := none } .blocked
  | spurious : PoolMove s timeoutMs .blocked s (.relocking false)
  | timeout : PoolMove s timeoutMs .blocked s (.relocking true)
  | relock {i : Nat} (last : Bool) (h : s.waitMutex = none) :
      PoolMove s timeoutMs (.relocking last) { s with waitMutex := some i } (.predDequeue last)
  | leave (exit : WaitExit) :
      PoolMove s timeoutMs (.leaving exit) { s with waitingThreads := s.waitingThreads - 1 }
      (.unlocking exit)
  | unlock (exit : WaitExit) :
      PoolMove s timeoutMs (.unlocking exit) { s with waitMutex := none } (AcquirePc.afterWait exit)
  | release (c : ConnId) : PoolMove s timeoutMs (.held c) s (.releasing c)
  | enqueue (c : ConnId) :
      PoolMove s timeoutMs (.releasing c) { s with pool := s.pool ++ [c] } .testing
  | test (h : 0 < s.waitingThreads) : PoolMove s timeoutMs .testing s .notifying
  | nobody (h : ¬ 0 < s.waitingThreads) : PoolMove s timeoutMs .testing s .returned

variable {i : Nat} {call : AcquireCall}

inductive ConnPoolStepped (s : ConnectionPool) : ConnPoolAction → ConnectionPool → Prop
  | acquire (timeoutMs : Int) :
      ConnPoolStepped s (.acquire timeoutMs) { s with calls := s.calls ++ [⟨timeoutMs, .loop⟩] }
  | move {i : Nat} {call : AcquireCall} {c : PoolChoice} {s₁ : ConnectionPool} {pc : AcquirePc}
      (hi : s.calls[i]? = some call) (hm : PoolMove s call.timeoutMs call.pc s₁ pc)
      (hc : call.pc = .notifying → c = .woken none) (hq : pc = .predLoad false → c = .take none) :
      ConnPoolStepped s (.act i c) (s₁.goto i pc)
  | heard {i j : Nat} {ti tj : Int} (hi : s.calls[i]? = some ⟨ti, .notifying⟩)
      (hj : s.calls[j]? = some ⟨tj, .blocked⟩) :
      ConnPoolStepped s (.act i (.woken (some j))) ((s.goto j (.relocking false)).goto i .returned)

namespace ConnectionPool

variable {s s' : ConnectionPool} {a : ConnPoolAction}

theorem tryDequeue_cases {k : Option Nat} {r : Option ConnId × ConnectionPool}
    (h : s.tryDequeue k = some r) : (k = none ∧ r = (none, s)) ∨
    ∃ j c, s.pool[j]? = some c ∧ r = (some c, { s with pool := s.pool.eraseIdx j }) := by
  unfold tryDequeue at h
  cases k with
  | none => exact .inl ⟨rfl, by simpa using h.symm⟩
  | some k =>
    cases hk : s.pool[k]? with
    | none => simp [hk] at h
    | some c => exact .inr ⟨k, c, hk, by simpa [hk] using h.symm⟩

theorem notifyOne_cases {j : Option Nat} (h : s.notifyOne j = some s') :
    (j = none ∧ (∀ call ∈ s.calls, call.pc ≠ .blocked) ∧ s' = s) ∨
    ∃ k t, j = some k ∧ s.calls[k]? = some ⟨t, .blocked⟩ ∧ s' = s.goto k (.relocking false) := by
  unfold notifyOne at h
  cases j with
  | none =>
    by_cases hb : (s.calls.all fun call => call.pc != .blocked) = true
    · refine .inl ⟨rfl, ?_, by simpa [hb] using h.symm⟩
      intro call hcall
      simpa using List.all_eq_true.mp hb call hcall
    · simp [hb] at h
  | some j =>
    dsimp only at h
    split at h
    · rename_i t heq
      exact .inr ⟨j, t, rfl, heq, by simpa using h.symm⟩
    · cases h

theorem stepped_move {t : Int} {pc pc' : AcquirePc} {c : PoolChoice} {s₁ : ConnectionPool}
    (hi : s.calls[i]? = some ⟨t, pc⟩) (hm : PoolMove s t pc s₁ pc')
    (h : some (s₁.goto i pc') = some s') (hpc : pc ≠ .notifying := by nofun)
    (hpc' : pc' ≠ .predLoad false := by nofun) : ConnPoolStepped s (.act i c) s' := by
  cases h
  exact .move hi hm (fun hn => absurd hn hpc) fun hn => absurd hn hpc'

theorem stepCall_stepped {t : Int} {pc : AcquirePc} {c : PoolChoice}
    (hi : s.calls[i]? = some ⟨t, pc⟩) (h : s.stepCall i t pc c = some s') :
    ConnPoolStepped s (.act i c) s' := by
  unfold stepCall at h
  split at h
  case h_1 k =>
    cases hd : s.tryDequeue k with
    | none => rw [hd] at h; cases h
    | some r =>
      rw [hd] at h
      obtain ⟨-, rfl⟩ | ⟨j, c, hk, rfl⟩ := tryDequeue_cases hd
      · exact stepped_move hi .nothing h
      · exact stepped_move hi (.dequeue hk) h
  case h_2 c ok =>
    cases ok with
    | true => exact stepped_move hi (.alive c) h
    | false => exact stepped_move hi (.dead false c) h
  case h_3 c ok =>
    cases ok with
    | true => exact stepped_move hi (.aliveLocked c) h
    | false => exact stepped_move hi (.dead true c) h
  case h_4 locked =>
    cases locked with
    | true => exact stepped_move hi .discardLocked h
    | false => exact stepped_move hi .discard h
  case h_5 =>
    by_cases hs : s.currentSize < s.poolMax
    · rw [if_pos hs] at h
      exact stepped_move hi (.space hs) h
    · rw [if_neg hs] at h
      exact stepped_move hi (.noSpace (by omega)) h
  case h_6 current ok =>
    split at h
    · rename_i hcas
      obtain ⟨rfl, -⟩ := hcas
      exact stepped_move hi .exchanged h
    · exact stepped_move hi (.again current) h
  case h_7 => exact stepped_move hi .createFail h
  case h_8 c =>
    split at h
    · rename_i hc
      exact stepped_move hi (.create hc) h
    · cases h
  case h_9 => exact stepped_move hi .undo h
  case h_10 j =>
    cases hn : s.notifyOne j with
    | none => rw [hn] at h; cases h
    | some s₁ =>
      rw [hn] at h
      cases h
      obtain ⟨rfl, hb, rfl⟩ | ⟨k, tk, rfl, hk, rfl⟩ := notifyOne_cases hn
      · exact .move hi (.unheard hb) (fun _ => rfl) nofun
      · exact .heard hi hk
  case h_11 =>
    split at h
    · exact stepped_move hi .nonBlocking h
    · exact stepped_move hi .toLock h
  case h_12 =>
    split at h
    · rename_i hm
      exact stepped_move hi (.lock hm) h
    · cases h
  case h_13 => exact stepped_move hi .enter h
  case h_14 ms =>
    split at h
    · exact stepped_move hi .wait h
    · exact stepped_move hi .tooLate h
  case h_15 last k =>
    cases hd : s.tryDequeue k with
    | none => rw [hd] at h; cases h
    | some r =>
      rw [hd] at h
      obtain ⟨rfl, rfl⟩ | ⟨j, c, hk, rfl⟩ := tryDequeue_cases hd
      · cases h
        exact .move hi (.predNothing last) nofun fun _ => rfl
      · exact stepped_move hi (.predDequeue last hk) h
  case h_16 last =>
    by_cases hs : s.currentSize < s.poolMax
    · rw [if_pos hs] at h
      exact stepped_move hi (.predSpace last hs) h
    · rw [if_neg hs] at h
      cases last with
      | true => exact stepped_move hi (.predLast (by omega)) h
      | false => exact stepped_move hi (.predFalse (by omega)) h
  case h_17 => exact stepped_move hi .block h
  case h_18 => exact stepped_move hi .spurious h
  case h_19 =>
    split at h
    · cases h
    · exact stepped_move hi .timeout h
  case h_20 last =>
    split at h
    · rename_i hm
      exact stepped_move hi (.relock last hm) h
    · cases h
  case h_21 exit => exact stepped_move hi (.leave exit) h
  case h_22 exit => exact stepped_move hi (.unlock exit) h nofun (by cases exit <;> nofun)
  case h_23 c => exact stepped_move hi (.release c) h
  case h_24 c => exact stepped_move hi (.enqueue c) h
  case h_25 =>
    split at h
    · rename_i hw
      exact stepped_move hi (.test hw) h
    · rename_i hw
      exact stepped_move hi (.nobody hw) h
  case h_26 => cases h

/-- Inversion of `step`. -/
theorem stepped (h : s.step a = some s') : ConnPoolStepped s a s' := by
  cases a with
  | acquire timeoutMs =>
    cases h
    exact .acquire timeoutMs
  | act i c =>
    unfold step at h
    cases hi : s.calls[i]? with
    | none => simp [hi] at h
    | some call => exact stepCall_stepped hi (by simpa [hi] using h)

/-! ## Counting calls -/

def count (s : ConnectionPool) (f : AcquirePc → Nat) : Nat := tally (fun call => f call.pc) s.calls

theorem goto_calls (s : ConnectionPool) (hi : s.calls[i]? = some call) (pc : AcquirePc) :
    (s.goto i pc).calls = s.calls.set i ⟨call.timeoutMs, pc⟩ := by
  unfold goto
  rw [List.modify_eq_set_getElem?, hi]
  rfl

theorem count_goto (f : AcquirePc → Nat) (hi : s.calls[i]? = some call) (pc : AcquirePc) :
    (s.goto i pc).count f + f call.pc = s.count f + f pc := by
  unfold count
  rw [s.goto_calls hi]
  exact tally_set _ hi _

theorem one_le_count {f : AcquirePc → Nat} (hcall : call ∈ s.calls)
    (hf : f call.pc = 1) : 1 ≤ s.count f := by
  exact one_le_tally _ hcall hf

end ConnectionPool

namespace PoolMove

variable {s s₁ : ConnectionPool} {t : Int} {pc pc' : AcquirePc}

section

variable (h : PoolMove s t pc s₁ pc')
include h

theorem calls : s₁.calls = s.calls := by cases h <;> rfl

theorem poolMax : s₁.poolMax = s.poolMax := by cases h <;> rfl

theorem count (f : AcquirePc → Nat) (hi : s.calls[i]? = some ⟨t, pc⟩) :
    (s₁.goto i pc').count f + f pc = s.count f + f pc' := by
  have hc : (s₁.goto i pc').count f + f pc = s₁.count f + f pc' :=
    ConnectionPool.count_goto f (h.calls ▸ hi : s₁.calls[i]? = some ⟨t, pc⟩) pc'
  have hs : s₁.count f = s.count f := by unfold ConnectionPool.count; rw [h.calls]
  omega

/-- What leaves the idle pool is in the hands of the call, and `_currentSize` changes with what it
has. -/
theorem size :
    s₁.currentSize + s.pool.length + pc.checkedOut + pc.inMaking =
      s.currentSize + s₁.pool.length + pc'.checkedOut + pc'.inMaking := by
  cases h
  case dequeue k c hk =>
    have hl := List.getElem?_eq_some_iff.mp hk |>.1
    simp [AcquirePc.checkedOut, AcquirePc.inMaking, List.length_eraseIdx_of_lt hl]
    omega
  case predDequeue k c last hk =>
    have hl := List.getElem?_eq_some_iff.mp hk |>.1
    simp [AcquirePc.checkedOut, AcquirePc.inMaking, List.length_eraseIdx_of_lt hl]
    omega
  case leave exit => cases exit <;> simp [AcquirePc.checkedOut, AcquirePc.inMaking]
  case unlock exit =>
    cases exit <;> simp [AcquirePc.checkedOut, AcquirePc.inMaking, AcquirePc.afterWait]
  all_goals simp [AcquirePc.checkedOut, AcquirePc.inMaking] <;> omega

theorem waiting : s₁.waitingThreads + pc.inWait = s.waitingThreads + pc'.inWait := by
  cases h
  case dead locked c => cases locked <;> simp [AcquirePc.inWait]
  case leave exit => cases exit <;> simp [AcquirePc.inWait]
  case unlock exit => cases exit <;> simp [AcquirePc.inWait, AcquirePc.afterWait]
  all_goals simp [AcquirePc.inWait]

/-- A connection is handed on, or dropped, or made where there was none. -/
theorem owner (c : ConnId) :
    tally (single c) s₁.pool + pc'.owns c ≤ tally (single c) s.pool + pc.owns c ∨
      s₁.pool = s.pool ∧ s.unused c = true := by
  cases h
  case dequeue k c' hk =>
    have := tally_eraseIdx (single c) hk
    simp [AcquirePc.owns, AcquirePc.conn, single] at this ⊢
    omega
  case predDequeue k c' last hk =>
    have := tally_eraseIdx (single c) hk
    simp [AcquirePc.owns, AcquirePc.conn, single] at this ⊢
    omega
  case create c' hc =>
    by_cases hcc : c' = c
    · exact .inr ⟨rfl, hcc ▸ hc⟩
    · simp [AcquirePc.owns, AcquirePc.conn, hcc]
  case leave exit => cases exit <;> simp [AcquirePc.owns, AcquirePc.conn]
  case unlock exit => cases exit <;> simp [AcquirePc.owns, AcquirePc.conn, AcquirePc.afterWait]
  all_goals simp [AcquirePc.owns, AcquirePc.conn, single]

theorem expected {n : Int} (hn : pc' = .exchange n) : n < s.poolMax := by
  cases h
  case space hs => cases hn; exact hs
  case unlock exit => cases exit <;> cases hn
  all_goals cases hn

theorem grows : s₁.currentSize ≤ s.currentSize ∨
    pc = .exchange s.currentSize ∧ s₁.currentSize = s.currentSize + 1 := by
  cases h
  case exchanged => exact .inr ⟨rfl, rfl⟩
  all_goals simp

end

end PoolMove

/-! ## The invariant -/

structure PoolInv (s : ConnectionPool) : Prop where
  accounted : s.currentSize = s.pool.length + s.count AcquirePc.checkedOut +
    s.count AcquirePc.inMaking
  limit : s.currentSize ≤ max 0 s.poolMax
  expected : ∀ call ∈ s.calls, ∀ n, call.pc = .exchange n → n < s.poolMax
  waits : s.waitingThreads = s.count AcquirePc.inWait
  single : ∀ c, tally (RefCount.single c) s.pool + s.count (AcquirePc.owns c) ≤ 1

namespace ConnectionPool

variable {s s₁ s' : ConnectionPool} {a : ConnPoolAction}

theorem inv_init (poolMax : Int) : PoolInv (init poolMax) where
  accounted := rfl
  limit := le_max_left _ _
  expected := by simp [init]
  waits := rfl
  single := by simp [init, count]

theorem owners_of_unused {c : ConnId} (h : s.unused c = true) :
    tally (single c) s.pool = 0 ∧ s.count (AcquirePc.owns c) = 0 := by
  simp only [unused, Bool.and_eq_true, Bool.not_eq_true', List.all_eq_true, bne_iff_ne] at h
  constructor
  · apply tally_eq_zero
    intro x hx
    have hne : x ≠ c := by
      rintro rfl
      simp [hx] at h
    simp [single, hne]
  · apply tally_eq_zero
    intro call hcall
    simp [AcquirePc.owns, h.2 call hcall]

theorem inv_move {pc : AcquirePc} (hi : s.calls[i]? = some call)
    (hm : PoolMove s call.timeoutMs call.pc s₁ pc) (hs : PoolInv s) : PoolInv (s₁.goto i pc) where
  accounted := by
    have h1 := hm.size
    have h2 := hm.count AcquirePc.checkedOut hi
    have h3 := hm.count AcquirePc.inMaking hi
    have h4 := hs.accounted
    simp only [goto] at h2 h3 ⊢
    omega
  limit := by
    have hl := hs.limit
    show s₁.currentSize ≤ max 0 s₁.poolMax
    rw [hm.poolMax]
    obtain hle | ⟨hpc, heq⟩ := hm.grows
    · omega
    · have := hs.expected call (List.mem_of_getElem? hi) _ hpc
      omega
  expected := by
    intro call' hmem n hn
    show n < s₁.poolMax
    rw [hm.poolMax]
    rw [s₁.goto_calls (hm.calls ▸ hi), hm.calls] at hmem
    obtain hold | rfl := List.mem_or_eq_of_mem_set hmem
    · exact hs.expected call' hold n hn
    · exact hm.expected hn
  waits := by
    have h1 := hm.waiting
    have h2 := hm.count AcquirePc.inWait hi
    have h3 := hs.waits
    simp only [goto] at h2 ⊢
    omega
  single := by
    intro c
    have h1 := hm.count (AcquirePc.owns c) hi
    have h2 := hs.single c
    obtain hle | ⟨hp, hu⟩ := hm.owner c
    · simp only [goto] at h1 ⊢
      omega
    · obtain ⟨hz1, hz2⟩ := owners_of_unused hu
      have h3 : pc.owns c ≤ 1 := by unfold AcquirePc.owns; split <;> omega
      simp only [goto, hp] at h1 ⊢
      omega

theorem inv_acquire (timeoutMs : Int) (hs : PoolInv s) :
    PoolInv { s with calls := s.calls ++ [⟨timeoutMs, .loop⟩] } where
  accounted := by simpa [count, AcquirePc.checkedOut, AcquirePc.inMaking] using hs.accounted
  limit := hs.limit
  expected := by
    intro call hmem n hn
    obtain hold | hnew := List.mem_append.mp hmem
    · exact hs.expected call hold n hn
    · rw [List.mem_singleton.mp hnew] at hn
      cases hn
  waits := by simpa [count, AcquirePc.inWait] using hs.waits
  single := by
    intro c
    simpa [count, AcquirePc.owns, AcquirePc.conn] using hs.single c

theorem heard_calls {j : Nat} {ti tj : Int} (hi : s.calls[i]? = some ⟨ti, .notifying⟩)
    (hj : s.calls[j]? = some ⟨tj, .blocked⟩) :
    (s.goto j (.relocking false)).calls[i]? = some ⟨ti, .notifying⟩ := by
  have hne : j ≠ i := by
    rintro rfl
    rw [hi] at hj
    cases hj
  rw [s.goto_calls hj, List.getElem?_set_ne hne, hi]

theorem count_heard (f : AcquirePc → Nat) {j : Nat} {ti tj : Int}
    (hi : s.calls[i]? = some ⟨ti, .notifying⟩) (hj : s.calls[j]? = some ⟨tj, .blocked⟩) :
    ((s.goto j (.relocking false)).goto i .returned).count f + f .notifying + f .blocked =
      s.count f + f (.relocking false) + f .returned := by
  have h1 : (s.goto j (.relocking false)).count f + f .blocked = s.count f + f (.relocking false) :=
    count_goto f hj _
  have h2 : ((s.goto j (.relocking false)).goto i .returned).count f + f .notifying =
      (s.goto j (.relocking false)).count f + f .returned := count_goto f (heard_calls hi hj) _
  omega

theorem inv_heard {j : Nat} {ti tj : Int} (hi : s.calls[i]? = some ⟨ti, .notifying⟩)
    (hj : s.calls[j]? = some ⟨tj, .blocked⟩) (hs : PoolInv s) :
    PoolInv ((s.goto j (.relocking false)).goto i .returned) where
  accounted := by
    have h1 := count_heard AcquirePc.checkedOut hi hj
    have h2 := count_heard AcquirePc.inMaking hi hj
    have h3 := hs.accounted
    simp only [AcquirePc.checkedOut, AcquirePc.inMaking] at h1 h2
    show s.currentSize = s.pool.length + _ + _
    omega
  limit := hs.limit
  expected := by
    intro call hmem n hn
    rw [goto_calls _ (heard_calls hi hj), goto_calls _ hj] at hmem
    obtain hmem | rfl := List.mem_or_eq_of_mem_set hmem
    · obtain hold | rfl := List.mem_or_eq_of_mem_set hmem
      · exact hs.expected call hold n hn
      · cases hn
    · cases hn
  waits := by
    have h1 := count_heard AcquirePc.inWait hi hj
    have h2 := hs.waits
    simp only [AcquirePc.inWait] at h1
    show s.waitingThreads = _
    omega
  single := by
    intro c
    have h1 := count_heard (AcquirePc.owns c) hi hj
    have h2 := hs.single c
    simp only [AcquirePc.owns, AcquirePc.conn, reduceCtorEq, if_false] at h1
    show tally (RefCount.single c) s.pool + _ ≤ 1
    omega

/-- **Every step keeps the books of the pool.** -/
theorem inv_step (hs : PoolInv s) (h : s.step a = some s') : PoolInv s' := by
  cases stepped h with
  | acquire timeoutMs => exact inv_acquire timeoutMs hs
  | move hi hm hc hq => exact inv_move hi hm hs
  | heard hi hj => exact inv_heard hi hj hs

theorem inv_run {poolMax : Int} {as : List ConnPoolAction}
    (h : run step (init poolMax) as = some s) : PoolInv s :=
  run_inv PoolInv (fun _ _ _ => inv_step) (inv_init poolMax) h

theorem poolMax_step (h : s.step a = some s') : s'.poolMax = s.poolMax := by
  cases stepped h with
  | acquire timeoutMs => rfl
  | move hi hm hc hq => exact hm.poolMax
  | heard hi hj => rfl

theorem poolMax_run {poolMax : Int} {as : List ConnPoolAction}
    (h : run step (init poolMax) as = some s) : s.poolMax = poolMax :=
  run_inv (fun s => s.poolMax = poolMax) (fun _ _ _ hs h => (poolMax_step h).trans hs) rfl h

theorem owns_of_conn {c : ConnId} {pc : AcquirePc} (h : pc.conn = some c) : pc.owns c = 1 :=
  if_pos h

/-- **The pool's books.**  After any run, `_currentSize` is the number of connections that are idle,
checked out, being validated or being made; it is within the limit; and a connection is in one place
only: once in the idle queue, or with one call. -/
theorem pool_accounting (poolMax : Int) (as : List ConnPoolAction) (s : ConnectionPool)
    (h : run step (init poolMax) as = some s) :
    s.currentSize = s.pool.length + s.count AcquirePc.checkedOut + s.count AcquirePc.inMaking ∧
    s.currentSize ≤ max 0 poolMax ∧
    (∀ (i j : Nat) (call call' : AcquireCall) (c : ConnId), s.calls[i]? = some call →
      s.calls[j]? = some call' → call.pc.conn = some c → call'.pc.conn = some c → i = j) ∧
    (∀ call ∈ s.calls, ∀ c ∈ s.pool, call.pc.conn ≠ some c) ∧ s.pool.Nodup := by
  have hinv := inv_run h
  refine ⟨hinv.accounted, poolMax_run h ▸ hinv.limit, ?_, ?_, ?_⟩
  · intro i j call call' c hi hj hc hc'
    have hle := hinv.single c
    refine eq_of_tally_le_one (fun call => call.pc.owns c) hi hj (owns_of_conn hc).ge
      (owns_of_conn hc').ge ?_
    show s.count (AcquirePc.owns c) ≤ 1
    omega
  · intro call hcall c hp hc
    have hle := hinv.single c
    have h1 : 1 ≤ s.count (AcquirePc.owns c) := one_le_count hcall (owns_of_conn hc)
    have h2 : 1 ≤ tally (RefCount.single c) s.pool := one_le_tally _ hp (if_pos rfl)
    omega
  · rw [List.nodup_iff_getElem?_ne_getElem?]
    intro i j hij hj heq
    have hle := hinv.single s.pool[j]
    have hsame := eq_of_tally_le_one (RefCount.single s.pool[j])
      (heq.trans (List.getElem?_eq_getElem hj))
      (List.getElem?_eq_getElem hj) (if_pos rfl).ge (if_pos rfl).ge (by omega)
    omega

/-- A connection is made, given back, and taken by a second caller. -/
def leaseTwice : List ConnPoolAction :=
  [.acquire 0, .act 0 (.take none), .act 0 .go, .act 0 (.strong true),
    .act 0 (.made (some 7)), .act 0 .go,
    .act 0 .go, .act 0 .go, .acquire 0, .act 1 (.take (some 0)), .act 1 (.alive true)]

theorem pool_accounting_leaseTwice : ∃ s, run step (init 1) leaseTwice = some s ∧
    s.calls[1]? = some ⟨0, .held 7⟩ ∧
    s.currentSize = s.pool.length + s.count AcquirePc.checkedOut + s.count AcquirePc.inMaking :=
  ⟨_, rfl, rfl, (pool_accounting 1 leaseTwice _ rfl).1⟩

end ConnectionPool

end ToyServer
