import Mathlib.Tactic

/-!
# `Strand`: tasks one after another on a thread pool

`Post` pushes a task under the lock; whoever then turns `_isScheduled` from false to true puts one
`Run` into the pool.  `Run` takes tasks until it finds the queue empty under the lock, and gives
the flag back there.  The steps are those of the critical sections, the atomics and the calls of
`ThreadPool`, taken by any number of threads; `strandStepped` lists them.
-/

namespace ToyServer

/-! ## The strand and its pool -/

abbrev WorkerId := Nat

/-- A posted `std::function`; an empty one is taken and not called. -/
structure StrandTask where
  id : Nat
  callable : Bool
deriving DecidableEq, Repr

/-- The pool, as far as one strand sees it. -/
structure Pool where
  stop : Bool
  /-- the framework's `shared_ptr` -/
  owned : Bool
  /-- threads in `Schedule` that have locked the `weak_ptr` -/
  holders : Nat
  /-- closures of the strand in `_tasks` -/
  tasks : Nat
deriving DecidableEq, Repr

namespace Pool

/-- The pool takes work and runs it. -/
def live (p : Pool) : Bool := p.owned && !p.stop

def lockable (p : Pool) : Bool := p.owned || 0 < p.holders

/-- The destructor stops the pool when the last pointer goes. -/
def dropped (p : Pool) : Pool := if p.lockable then p else { p with stop := true }

end Pool

inductive PostPc where
  | idle
  /-- the task is pushed, the flag not tried -/
  | schedule
  /-- the flag is won -/
  | lock
  /-- in `Enqueue`, before the test of `_stop` -/
  | enqueue
  /-- in `Enqueue`, after it -/
  | submit
deriving DecidableEq, Repr

inductive RunPc where
  | idle
  /-- past the test of `_stop` in the worker loop -/
  | ready
  /-- at the head of the loop of `Run` -/
  | loop
  | fetched (task : StrandTask)
  | executing (task : StrandTask)
deriving DecidableEq, Repr

/-- Won the flag and has not handed it to the pool. -/
def PostPc.holds : PostPc → Bool
  | .lock | .enqueue | .submit => true
  | .idle | .schedule => false

def RunPc.active : RunPc → Bool
  | .loop | .fetched _ | .executing _ => true
  | .idle | .ready => false

/-- A task may call `Post` while it runs; elsewhere `Run` and the worker loop do not. -/
def RunPc.mayPost : RunPc → Bool
  | .idle | .executing _ => true
  | .ready | .loop | .fetched _ => false

structure StrandState where
  queue : List StrandTask
  isScheduled : Bool
  pool : Pool
  post : WorkerId → PostPc
  run : WorkerId → RunPc
  /-- tasks in the order of their critical sections -/
  posted : List StrandTask
  /-- tasks in the order in which they were called -/
  started : List StrandTask

inductive StrandAction where
  /-- `Post`: the critical section -/
  | post (t : WorkerId) (callable : Bool)
  /-- the next step of `Schedule` and `Enqueue` -/
  | schedule (t : WorkerId)
  /-- a worker gets past the semaphore and the test of `_stop` -/
  | acquire (t : WorkerId)
  | dequeue (t : WorkerId)
  /-- the critical section of `Run` -/
  | fetch (t : WorkerId)
  /-- `if (task) task();` up to its first step -/
  | call (t : WorkerId)
  | finish (t : WorkerId)
  | throw (t : WorkerId)
  | stop
  /-- the framework lets go of the pool -/
  | release
deriving DecidableEq, Repr

namespace StrandState

def init : StrandState := ⟨[], false, ⟨false, true, 0, 0⟩, fun _ => .idle, fun _ => .idle, [], []⟩

variable (s : StrandState)

def push (task : StrandTask) : StrandState :=
  { s with queue := s.queue ++ [task], posted := s.posted ++ [task] }

def postTo (t : WorkerId) (c : PostPc) : StrandState :=
  { s with post := Function.update s.post t c }

def runTo (t : WorkerId) (c : RunPc) : StrandState := { s with run := Function.update s.run t c }

def stepPost (t : WorkerId) : Option StrandState :=
  match s.post t with
  | .idle => none
  | .schedule =>
    if s.isScheduled then some (s.postTo t .idle)
    else some ({ s with isScheduled := true }.postTo t .lock)
  | .lock =>
    if s.pool.lockable then
      some ({ s with pool := { s.pool with holders := s.pool.holders + 1 } }.postTo t .enqueue)
    else some (s.postTo t .idle)
  | .enqueue =>
    if s.pool.stop then
      some ({ s with pool := { s.pool with holders := s.pool.holders - 1 }.dropped }.postTo t .idle)
    else some (s.postTo t .submit)
  | .submit =>
    some ({ s with
      pool :=
        { s.pool with holders := s.pool.holders - 1, tasks := s.pool.tasks + 1 }.dropped }.postTo t
          .idle)

def step : StrandAction → Option StrandState
  | .post t callable =>
    if s.post t = .idle ∧ (s.run t).mayPost = true then
      some ((s.push ⟨s.posted.length, callable⟩).postTo t .schedule)
    else none
  | .schedule t => s.stepPost t
  | .acquire t =>
    if s.run t = .idle ∧ s.post t = .idle ∧ s.pool.stop = false then some (s.runTo t .ready)
    else none
  | .dequeue t =>
    if s.run t = .ready then
      if 0 < s.pool.tasks then
        some ({ s with pool := { s.pool with tasks := s.pool.tasks - 1 } }.runTo t .loop)
      else some (s.runTo t .idle)
    else none
  | .fetch t =>
    if s.run t = .loop then
      match s.queue with
      | [] => some ({ s with isScheduled := false }.runTo t .idle)
      | task :: queue => some ({ s with queue := queue }.runTo t (.fetched task))
    else none
  | .call t =>
    match s.run t with
    | .fetched task =>
      if task.callable then
        some ({ s with started := s.started ++ [task] }.runTo t (.executing task))
      else some (s.runTo t .loop)
    | _ => none
  | .finish t =>
    match s.run t with
    | .executing _ => if s.post t = .idle then some (s.runTo t .loop) else none
    | _ => none
  | .throw t =>
    match s.run t with
    | .executing _ => if s.post t = .idle then some (s.runTo t .idle) else none
    | _ => none
  | .stop => some { s with pool := { s.pool with stop := true } }
  | .release => some { s with pool := { s.pool with owned := false }.dropped }

end StrandState

section
variable (s : StrandState)

theorem postTo_post_self (t : WorkerId) (c : PostPc) : (s.postTo t c).post t = c := by
  simp [StrandState.postTo]

theorem postTo_post_of_ne {t t' : WorkerId} (c : PostPc) (h : t' ≠ t) :
    (s.postTo t c).post t' = s.post t' := by simp [StrandState.postTo, h]

theorem runTo_run_self (t : WorkerId) (c : RunPc) : (s.runTo t c).run t = c := by
  simp [StrandState.runTo]

theorem runTo_run_of_ne {t t' : WorkerId} (c : RunPc) (h : t' ≠ t) :
    (s.runTo t c).run t' = s.run t' := by simp [StrandState.runTo, h]

end

/-! ## What a step does -/

variable {s s' : StrandState} {a : StrandAction} {t : WorkerId}

inductive StrandStepped (s : StrandState) : StrandAction → StrandState → Prop
  | posted {t : WorkerId} {callable : Bool} (hpost : s.post t = .idle)
      (hrun : (s.run t).mayPost = true) : StrandStepped s (.post t callable)
        ((s.push ⟨s.posted.length, callable⟩).postTo t .schedule)
  | lost {t : WorkerId} (hpost : s.post t = .schedule) (hflag : s.isScheduled = true) :
      StrandStepped s (.schedule t) (s.postTo t .idle)
  | won {t : WorkerId} (hpost : s.post t = .schedule) (hflag : s.isScheduled = false) :
      StrandStepped s (.schedule t) ({ s with isScheduled := true }.postTo t .lock)
  | locked {t : WorkerId} (hpost : s.post t = .lock) :
      StrandStepped s (.schedule t)
        ({ s with pool := { s.pool with holders := s.pool.holders + 1 } }.postTo t .enqueue)
  | gone {t : WorkerId} (hpost : s.post t = .lock) (hpool : s.pool.lockable = false) :
      StrandStepped s (.schedule t) (s.postTo t .idle)
  | rejected {t : WorkerId} (hpost : s.post t = .enqueue) (hstop : s.pool.stop = true) :
      StrandStepped s (.schedule t)
        ({ s with pool := { s.pool with holders := s.pool.holders - 1 }.dropped }.postTo t .idle)
  | accepted {t : WorkerId} (hpost : s.post t = .enqueue) :
      StrandStepped s (.schedule t) (s.postTo t .submit)
  | submitted {t : WorkerId} (hpost : s.post t = .submit) :
      StrandStepped s (.schedule t)
        ({ s with
          pool := { s.pool with
          holders := s.pool.holders - 1, tasks := s.pool.tasks + 1 }.dropped }.postTo t .idle)
  | acquired {t : WorkerId} (hrun : s.run t = .idle) :
      StrandStepped s (.acquire t) (s.runTo t .ready)
  | dequeued {t : WorkerId} (hrun : s.run t = .ready) (htasks : 0 < s.pool.tasks) :
      StrandStepped s (.dequeue t)
      ({ s with pool := { s.pool with tasks := s.pool.tasks - 1 } }.runTo t .loop)
  | missed {t : WorkerId} (hrun : s.run t = .ready) : StrandStepped s (.dequeue t) (s.runTo t .idle)
  | emptied {t : WorkerId} (hrun : s.run t = .loop) (hqueue : s.queue = []) :
      StrandStepped s (.fetch t) ({ s with isScheduled := false }.runTo t .idle)
  | fetched {t : WorkerId} {task : StrandTask} {queue : List StrandTask} (hrun : s.run t = .loop)
      (hqueue : s.queue = task :: queue) :
      StrandStepped s (.fetch t) ({ s with queue := queue }.runTo t (.fetched task))
  | called {t : WorkerId} {task : StrandTask} (hrun : s.run t = .fetched task)
      (hcall : task.callable = true) : StrandStepped s (.call t)
      ({ s with started := s.started ++ [task] }.runTo t (.executing task))
  | skipped {t : WorkerId} {task : StrandTask} (hrun : s.run t = .fetched task)
      (hcall : task.callable = false) : StrandStepped s (.call t) (s.runTo t .loop)
  | finished {t : WorkerId} {task : StrandTask} (hrun : s.run t = .executing task) :
      StrandStepped s (.finish t) (s.runTo t .loop)
  | thrown {t : WorkerId} {task : StrandTask} (hrun : s.run t = .executing task) :
      StrandStepped s (.throw t) (s.runTo t .idle)
  | stopped : StrandStepped s .stop { s with pool := { s.pool with stop := true } }
  | released : StrandStepped s .release { s with pool := { s.pool with owned := false }.dropped }

theorem stepPost_stepped (h : s.stepPost t = some s') : StrandStepped s (.schedule t) s' := by
  unfold StrandState.stepPost at h
  split at h
  · cases h
  · next hpost =>
    split at h
    · next hflag => cases h; exact .lost hpost hflag
    · next hflag => cases h; exact .won hpost (Bool.eq_false_iff.mpr hflag)
  · next hpost =>
    split at h
    · cases h; exact .locked hpost
    · next hpool => cases h; exact .gone hpost (Bool.eq_false_iff.mpr hpool)
  · next hpost =>
    split at h
    · next hstop => cases h; exact .rejected hpost hstop
    · cases h; exact .accepted hpost
  · next hpost => cases h; exact .submitted hpost

theorem strandStepped (h : s.step a = some s') : StrandStepped s a s' := by
  cases a with
  | post t callable =>
    simp only [StrandState.step, Option.ite_none_right_eq_some, Option.some.injEq] at h
    obtain ⟨⟨hpost, hrun⟩, rfl⟩ := h
    exact .posted hpost hrun
  | schedule t => exact stepPost_stepped h
  | acquire t =>
    simp only [StrandState.step, Option.ite_none_right_eq_some, Option.some.injEq] at h
    obtain ⟨⟨hrun, -⟩, rfl⟩ := h
    exact .acquired hrun
  | dequeue t =>
    simp only [StrandState.step, Option.ite_none_right_eq_some] at h
    obtain ⟨hrun, h⟩ := h
    split at h
    · next htasks => cases h; exact .dequeued hrun htasks
    · cases h; exact .missed hrun
  | fetch t =>
    simp only [StrandState.step, Option.ite_none_right_eq_some] at h
    obtain ⟨hrun, h⟩ := h
    split at h
    · next hqueue => cases h; exact .emptied hrun hqueue
    · next hqueue => cases h; exact .fetched hrun hqueue
  | call t =>
    simp only [StrandState.step] at h
    split at h
    · next hrun =>
      split at h
      · next hcall => cases h; exact .called hrun hcall
      · next hcall => cases h; exact .skipped hrun (Bool.eq_false_iff.mpr hcall)
    · cases h
  | finish t =>
    simp only [StrandState.step] at h
    split at h
    · next hrun =>
      rw [Option.ite_none_right_eq_some, Option.some.injEq] at h
      obtain ⟨-, rfl⟩ := h
      exact .finished hrun
    · cases h
  | throw t =>
    simp only [StrandState.step] at h
    split at h
    · next hrun =>
      rw [Option.ite_none_right_eq_some, Option.some.injEq] at h
      obtain ⟨-, rfl⟩ := h
      exact .thrown hrun
    · cases h
  | stop => cases h; exact .stopped
  | release => cases h; exact .released

end ToyServer
