import ToyServer.Memory.RefPtr

/-!
# The caps of a pool under concurrency

`Pop` and `Push` as the atomic steps they are made of, for any number of threads.  `ObjectPool` and
`LockFreeObjectPool` take the same steps.

The counters run behind: `_allocCount` is ahead of the objects that are alive (`Books.alloc`), and
`_poolCount` lacks what was enqueued and not counted yet (`Books.pool`).  So a test of a cap says
something about the objects only if a place is left for everybody between a test and the update that
follows it, and an object that is taken before its `Push` has counted it takes `_poolCount` below
zero.
-/

namespace ToyServer.Memory

open RefCount Runs

inductive Pc where
  | idle
  /-- before `try_dequeue` -/
  | popStart
  /-- it has an object from the queue -/
  | popGot
  /-- the queue gave nothing -/
  | popEmpty
  /-- `currentAlloc` is loaded -/
  | popLoaded (currentAlloc : Nat)
  /-- the test of `_allocLimit` is passed -/
  | popAdd
  | popNew
  /-- before the load of `_poolCount` -/
  | pushStart
  | pushLoaded (currentPool : Nat)
  /-- the test of `_poolLimit` is passed -/
  | pushEnqueue
  | pushAdd
  | pushDelete
  | pushSub
deriving DecidableEq, Repr

namespace Pc

def is (p q : Pc) : Nat := if q = p then 1 else 0

/-- One where the thread has an object. -/
def holding : Pc → Nat
  | popGot => 1
  | pushStart => 1
  | pushLoaded _ => 1
  | pushEnqueue => 1
  | pushDelete => 1
  | _ => 0

end Pc

structure PoolState where
  /-- an `std::atomic<size_t>` is this number modulo `2 ^ 64` -/
  poolCount : Int
  allocCount : Int
  /-- the objects in the queue -/
  queued : Nat
  /-- the objects that are allocated -/
  alive : Nat
  /-- the objects that callers have -/
  inUse : Nat
  threads : List Pc
deriving DecidableEq, Repr

inductive PoolAct where
  | callPop (i : Nat)
  | callPush (i : Nat)
  /-- `try_dequeue`; it may miss an object that is just being enqueued -/
  | dequeue (i : Nat) (found : Bool)
  /-- the next atomic step of a thread -/
  | advance (i : Nat)
deriving DecidableEq, Repr

def PoolAct.thread : PoolAct → Nat
  | callPop i => i
  | callPush i => i
  | dequeue i _ => i
  | advance i => i

namespace PoolState

def start (threads : Nat) : PoolState := ⟨0, 0, 0, 0, 0, List.replicate threads .idle⟩

def load (counter : Int) : Nat := (counter % 2 ^ 64).toNat

def goto (s : PoolState) (i : Nat) (pc : Pc) : PoolState := { s with threads := s.threads.set i pc }

def next (lim : PoolLimits) (s : PoolState) : Pc → Option (PoolState × Pc)
  | .idle => none
  | .popStart => none
  | .popGot => some ({ s with poolCount := s.poolCount - 1, inUse := s.inUse + 1 }, .idle)
  | .popEmpty => some (s, .popLoaded (load s.allocCount))
  -- the limits are stored before the first call, so their load and the test are one step
  | .popLoaded currentAlloc =>
    some (s, if 0 < lim.allocLimit ∧ lim.allocLimit ≤ currentAlloc then .idle else .popAdd)
  | .popAdd => some ({ s with allocCount := s.allocCount + 1 }, .popNew)
  | .popNew => some ({ s with alive := s.alive + 1, inUse := s.inUse + 1 }, .idle)
  | .pushStart => some (s, .pushLoaded (load s.poolCount))
  | .pushLoaded currentPool =>
    some (s, if currentPool < lim.poolLimit then .pushEnqueue else .pushDelete)
  | .pushEnqueue => some ({ s with queued := s.queued + 1 }, .pushAdd)
  | .pushAdd => some ({ s with poolCount := s.poolCount + 1 }, .idle)
  | .pushDelete => some ({ s with alive := s.alive - 1 }, .pushSub)
  | .pushSub => some ({ s with allocCount := s.allocCount - 1 }, .idle)

def step (lim : PoolLimits) (s : PoolState) : PoolAct → Option PoolState
  | .callPop i => if s.threads[i]? = some .idle then some (s.goto i .popStart) else none
  | .callPush i =>
    if s.threads[i]? = some .idle ∧ 0 < s.inUse then
      some ({ s with inUse := s.inUse - 1 }.goto i .pushStart) else none
  | .dequeue i found =>
    if s.threads[i]? = some .popStart then
      if found then
        if 0 < s.queued then some ({ s with queued := s.queued - 1 }.goto i .popGot) else none
      else some (s.goto i .popEmpty)
    else none
  | .advance i =>
    match s.threads[i]? with
    | none => none
    | some pc => (s.next lim pc).map fun res => res.1.goto i res.2

def threadsAt (s : PoolState) (p : Pc) : Nat := tally (Pc.is p) s.threads

def held (s : PoolState) : Nat := tally Pc.holding s.threads

/-! ## What a step can do -/

/-- A thread goes from one place to another and changes the numbers. -/
inductive Moves (lim : PoolLimits) (s : PoolState) : Pc → PoolState → Pc → Prop where
  | callPop : Moves lim s .idle s .popStart
  | callPush : 0 < s.inUse → Moves lim s .idle { s with inUse := s.inUse - 1 } .pushStart
  | found : 0 < s.queued → Moves lim s .popStart { s with queued := s.queued - 1 } .popGot
  | missed : Moves lim s .popStart s .popEmpty
  | takeOut : Moves lim s .popGot { s with
        poolCount := s.poolCount - 1, inUse := s.inUse + 1 } .idle
  | loadAlloc : Moves lim s .popEmpty s (.popLoaded (load s.allocCount))
  | refused {c : Nat} : Moves lim s (.popLoaded c) s .idle
  | allowed {c : Nat} : (0 < lim.allocLimit → c < lim.allocLimit) →
      Moves lim s (.popLoaded c) s .popAdd
  | countAlloc : Moves lim s .popAdd { s with allocCount := s.allocCount + 1 } .popNew
  | create : Moves lim s .popNew { s with alive := s.alive + 1, inUse := s.inUse + 1 } .idle
  | loadPool : Moves lim s .pushStart s (.pushLoaded (load s.poolCount))
  | keep {c : Nat} : c < lim.poolLimit → Moves lim s (.pushLoaded c) s .pushEnqueue
  | full {c : Nat} : Moves lim s (.pushLoaded c) s .pushDelete
  | enqueue : Moves lim s .pushEnqueue { s with queued := s.queued + 1 } .pushAdd
  | countIdle : Moves lim s .pushAdd { s with poolCount := s.poolCount + 1 } .idle
  | delete : Moves lim s .pushDelete { s with alive := s.alive - 1 } .pushSub
  | countGone : Moves lim s .pushSub { s with allocCount := s.allocCount - 1 } .idle

variable {lim : PoolLimits} {s s' s₀ : PoolState} {i : Nat} {pc pc' : Pc}

theorem next_moves (h : s.next lim pc = some (s₀, pc')) :
    Moves lim s pc s₀ pc' ∧ pc' ≠ .popGot := by
  cases pc with
  | idle => cases h
  | popStart => cases h
  | popGot => cases h; exact ⟨.takeOut, by decide⟩
  | popEmpty => cases h; exact ⟨.loadAlloc, by simp⟩
  | popLoaded c =>
    simp only [next, Option.some.injEq, Prod.mk.injEq] at h
    obtain ⟨rfl, rfl⟩ := h
    split
    · exact ⟨.refused, by decide⟩
    · next hpass => exact ⟨.allowed fun hpos => by omega, by decide⟩
  | popAdd => cases h; exact ⟨.countAlloc, by decide⟩
  | popNew => cases h; exact ⟨.create, by decide⟩
  | pushStart => cases h; exact ⟨.loadPool, by simp⟩
  | pushLoaded c =>
    simp only [next, Option.some.injEq, Prod.mk.injEq] at h
    obtain ⟨rfl, rfl⟩ := h
    split
    · next hlt => exact ⟨.keep hlt, by decide⟩
    · exact ⟨.full, by decide⟩
  | pushEnqueue => cases h; exact ⟨.enqueue, by decide⟩
  | pushAdd => cases h; exact ⟨.countIdle, by decide⟩
  | pushDelete => cases h; exact ⟨.delete, by decide⟩
  | pushSub => cases h; exact ⟨.countGone, by decide⟩

/-- A step is a move of one thread; an object is found by a `try_dequeue` that says so. -/
theorem step_moves {a : PoolAct} (h : s.step lim a = some s') :
    ∃ pc s₀ pc', s.threads[a.thread]? = some pc ∧ Moves lim s pc s₀ pc' ∧
      s' = s₀.goto a.thread pc' ∧ (pc' = .popGot → a = .dequeue a.thread true) := by
  cases a with
  | callPop i =>
    unfold step at h
    dsimp only at h
    split at h
    · next hi =>
      cases h
      exact ⟨_, _, _, hi, .callPop, rfl, fun hc => by cases hc⟩
    · cases h
  | callPush i =>
    unfold step at h
    dsimp only at h
    split at h
    · next hi =>
      cases h
      exact ⟨_, _, _, hi.1, .callPush hi.2, rfl, fun hc => by cases hc⟩
    · cases h
  | dequeue i found =>
    unfold step at h
    dsimp only at h
    split at h
    · next hi =>
      cases found with
      | true =>
        rw [if_pos rfl] at h
        split at h
        · next hq =>
          cases h
          exact ⟨_, _, _, hi, .found hq, rfl, fun _ => rfl⟩
        · cases h
      | false =>
        cases h
        exact ⟨_, _, _, hi, .missed, rfl, fun hc => by cases hc⟩
    · cases h
  | advance i =>
    unfold step at h
    dsimp only at h
    split at h
    · cases h
    · next pc hi =>
      obtain ⟨⟨s₀, pc'⟩, hres, rfl⟩ := Option.map_eq_some_iff.mp h
      obtain ⟨hm, hne⟩ := next_moves hres
      exact ⟨pc, s₀, pc', hi, hm, rfl, fun hc => absurd hc hne⟩

theorem Moves.threads (h : Moves lim s pc s₀ pc') : s₀.threads = s.threads := by
  cases h <;> rfl

theorem threadsAt_goto (hi : s.threads[i]? = some pc) (h : Moves lim s pc s₀ pc') (p : Pc) :
    (s₀.goto i pc').threadsAt p + Pc.is p pc = s.threadsAt p + Pc.is p pc' := by
  unfold threadsAt goto
  rw [h.threads]
  exact tally_set (Pc.is p) hi pc'

theorem held_goto (hi : s.threads[i]? = some pc) (h : Moves lim s pc s₀ pc') :
    (s₀.goto i pc').held + pc.holding = s.held + pc'.holding := by
  unfold held goto
  rw [h.threads]
  exact tally_set Pc.holding hi pc'

/-- What a move does to objects and counters, with the place of the thread before and after it. -/
theorem Moves.balance (h : Moves lim s pc s₀ pc') (hpos : pc.holding ≤ s.alive) :
    s₀.alive + (s.queued + s.inUse + pc.holding) = s.alive + (s₀.queued + s₀.inUse + pc'.holding) ∧
      s₀.allocCount + (s.alive + Pc.is .popNew pc + Pc.is .pushSub pc) =
        s.allocCount + (s₀.alive + Pc.is .popNew pc' + Pc.is .pushSub pc') ∧
      s₀.poolCount + (s.queued - Pc.is .pushAdd pc + Pc.is .popGot pc) =
        s.poolCount + (s₀.queued - Pc.is .pushAdd pc' + Pc.is .popGot pc') := by
  cases h <;> simp [Pc.is, Pc.holding] at hpos ⊢ <;> omega

/-! ## The books -/

/-- What the counters are, whatever the order of the steps. -/
structure Books (s : PoolState) : Prop where
  objects : s.alive = s.queued + s.inUse + s.held
  alloc : s.allocCount = s.alive + s.threadsAt .popNew + s.threadsAt .pushSub
  pool : s.poolCount = s.queued - s.threadsAt .pushAdd + s.threadsAt .popGot

theorem threadsAt_start (n : Nat) {p : Pc} (hp : p ≠ .idle) : (start n).threadsAt p = 0 :=
  tally_eq_zero _ fun q hq => by
    rw [List.eq_of_mem_replicate hq]
    exact if_neg (Ne.symm hp)

theorem books_start (n : Nat) : (start n).Books := by
  have hheld : (start n).held = 0 := tally_eq_zero _ fun q hq => by
    rw [List.eq_of_mem_replicate hq]
    rfl
  refine ⟨?_, ?_, ?_⟩
  · rw [hheld]
    rfl
  · rw [threadsAt_start n (by decide), threadsAt_start n (by decide)]
    rfl
  · rw [threadsAt_start n (by decide), threadsAt_start n (by decide)]
    rfl

/-- **The books are kept** by every step. -/
theorem Books.step {a : PoolAct} (hb : s.Books) (h : s.step lim a = some s') : s'.Books := by
  obtain ⟨pc, s₀, pc', hi, hm, rfl, -⟩ := step_moves h
  obtain ⟨hobj, halloc, hpool⟩ := hb
  have hsome : pc.holding ≤ s.held := le_tally Pc.holding hi
  obtain ⟨hobj', halloc', hpool'⟩ := hm.balance (by omega)
  have hnew := threadsAt_goto hi hm .popNew
  have hsub := threadsAt_goto hi hm .pushSub
  have hadd := threadsAt_goto hi hm .pushAdd
  have hgot := threadsAt_goto hi hm .popGot
  have hheld := held_goto hi hm
  refine ⟨?_, ?_, ?_⟩
  · show s₀.alive = s₀.queued + s₀.inUse + (s₀.goto a.thread pc').held
    omega
  · show s₀.allocCount = s₀.alive + (s₀.goto a.thread pc').threadsAt .popNew +
      (s₀.goto a.thread pc').threadsAt .pushSub
    omega
  · show s₀.poolCount = s₀.queued - (s₀.goto a.thread pc').threadsAt .pushAdd +
      (s₀.goto a.thread pc').threadsAt .popGot
    omega

/-! ## The caps -/

/-- When a thread passes a test there is still a free place below the limit, those counted in that
others are about to take: of the allocations, or in the queue. -/
def TestOk (lim : PoolLimits) (s : PoolState) : Pc → Prop
  | .popLoaded currentAlloc =>
    currentAlloc < lim.allocLimit → s.allocCount + s.threadsAt .popAdd < lim.allocLimit
  | .pushLoaded currentPool =>
    currentPool < lim.poolLimit → s.queued + s.threadsAt .pushEnqueue < lim.poolLimit
  | _ => True

instance decidableTestOk (lim : PoolLimits) (s : PoolState) : ∀ pc, Decidable (s.TestOk lim pc)
  | .popLoaded _ => inferInstanceAs (Decidable (_ → _))
  | .pushLoaded _ => inferInstanceAs (Decidable (_ → _))
  | .idle | .popStart | .popGot | .popEmpty | .popAdd | .popNew | .pushStart | .pushEnqueue
  | .pushAdd | .pushDelete | .pushSub => isTrue trivial

/-- A test that is passed has a place left, and an object that is taken has been counted. -/
def Unraced (lim : PoolLimits) (s : PoolState) (a : PoolAct) : Prop :=
  (∀ pc ∈ s.threads[a.thread]?, s.TestOk lim pc) ∧
    (a = .dequeue a.thread true → s.threadsAt .pushAdd < s.queued)

instance (lim : PoolLimits) (s : PoolState) (a : PoolAct) : Decidable (s.Unraced lim a) :=
  inferInstanceAs (Decidable ((∀ pc ∈ s.threads[a.thread]?, s.TestOk lim pc) ∧ (_ → _)))

/-- The caps with those that are about to use them, and what was enqueued and not counted is still
there. -/
structure Capped (lim : PoolLimits) (s : PoolState) : Prop where
  alloc : 0 < lim.allocLimit → s.allocCount + s.threadsAt .popAdd ≤ lim.allocLimit
  idle : s.queued + s.threadsAt .pushEnqueue ≤ lim.poolLimit
  counted : s.threadsAt .pushAdd ≤ s.queued

theorem capped_start (lim : PoolLimits) (n : Nat) : (start n).Capped lim := by
  refine ⟨fun _ => ?_, ?_, ?_⟩
  · rw [threadsAt_start n (by decide)]
    exact Int.natCast_nonneg lim.allocLimit
  · rw [threadsAt_start n (by decide)]
    exact Nat.zero_le _
  · rw [threadsAt_start n (by decide)]
    exact Nat.le_refl 0

theorem Moves.alloc_le (h : Moves lim s pc s₀ pc') (htest : s.TestOk lim pc)
    (hpos : 0 < lim.allocLimit) :
    s₀.allocCount + Pc.is .popAdd pc' ≤ s.allocCount + Pc.is .popAdd pc ∨
      s₀.allocCount + s.threadsAt .popAdd + Pc.is .popAdd pc' ≤ lim.allocLimit ∧
      Pc.is .popAdd pc = 0 := by
  cases h with
  | @allowed c hpass =>
    have hroom := htest (hpass hpos)
    refine .inr ⟨?_, rfl⟩
    show s.allocCount + s.threadsAt .popAdd + 1 ≤ lim.allocLimit
    omega
  | _ =>
    left
    simp [Pc.is]

theorem Moves.queued_le (h : Moves lim s pc s₀ pc') (htest : s.TestOk lim pc) :
    s₀.queued + Pc.is .pushEnqueue pc' ≤ s.queued + Pc.is .pushEnqueue pc ∨
      s₀.queued + s.threadsAt .pushEnqueue + Pc.is .pushEnqueue pc' ≤ lim.poolLimit ∧
      Pc.is .pushEnqueue pc = 0 := by
  cases h with
  | @keep c hlt =>
    have hroom := htest hlt
    refine .inr ⟨?_, rfl⟩
    show s.queued + s.threadsAt .pushEnqueue + 1 ≤ lim.poolLimit
    omega
  | _ =>
    left
    simp [Pc.is]

theorem Moves.queued_ge (h : Moves lim s pc s₀ pc') :
    s.queued + Pc.is .pushAdd pc' ≤ s₀.queued + Pc.is .pushAdd pc ∨
      pc' = .popGot ∧ s₀.queued + 1 = s.queued ∧ Pc.is .pushAdd pc = 0 := by
  cases h with
  | found hq =>
    refine .inr ⟨rfl, ?_, rfl⟩
    show s.queued - 1 + 1 = s.queued
    omega
  | _ =>
    left
    simp [Pc.is]

/-- **Every step keeps the caps** if nobody races for the last place. -/
theorem Capped.step {a : PoolAct} (hc : s.Capped lim) (hok : s.Unraced lim a)
    (h : s.step lim a = some s') : s'.Capped lim := by
  obtain ⟨pc, s₀, pc', hi, hm, rfl, hfound⟩ := step_moves h
  obtain ⟨halloc, hidle, hcounted⟩ := hc
  have htest := hok.1 pc hi
  have hadd := threadsAt_goto hi hm .popAdd
  have henq := threadsAt_goto hi hm .pushEnqueue
  have hpush := threadsAt_goto hi hm .pushAdd
  refine ⟨fun hpos => ?_, ?_, ?_⟩
  · have hle := halloc hpos
    show s₀.allocCount + (s₀.goto a.thread pc').threadsAt .popAdd ≤ lim.allocLimit
    rcases hm.alloc_le htest hpos with hless | ⟨hroom, hzero⟩
    · omega
    · omega
  · show s₀.queued + (s₀.goto a.thread pc').threadsAt .pushEnqueue ≤ lim.poolLimit
    rcases hm.queued_le htest with hless | ⟨hroom, hzero⟩
    · omega
    · omega
  · show (s₀.goto a.thread pc').threadsAt .pushAdd ≤ s₀.queued
    rcases hm.queued_ge with hmore | ⟨rfl, hone, hzero⟩
    · omega
    · have hlt := hok.2 (hfound rfl)
      have hplace : Pc.is .pushAdd .popGot = 0 := rfl
      omega

/-- **The caps hold** over any interleaving of any number of threads, if a place is left for whoever
passes a test and no object is taken before it is counted; `_allocCount` is never below zero in any
case. -/
theorem caps_hold (lim : PoolLimits) (threads : Nat) (as : List PoolAct) (s : PoolState)
    (hok : Meets (step lim) (Unraced lim) (start threads) as)
    (h : run (step lim) (start threads) as = some s) :
    (0 < lim.allocLimit → s.alive ≤ lim.allocLimit) ∧ s.queued ≤ lim.poolLimit ∧ 0 ≤ s.poolCount ∧
      0 ≤ s.allocCount := by
  have hbooks : s.Books := run_inv Books (fun _ _ _ hb hs => hb.step hs) (books_start threads) h
  have hcapped : s.Capped lim :=
    run_inv_of_meets (Capped lim) (fun _ _ _ hc hok hs => hc.step hok hs)
      (capped_start lim threads) hok h
  obtain ⟨-, halloc, hpool⟩ := hbooks
  obtain ⟨hcap, hidle, hcounted⟩ := hcapped
  refine ⟨fun hpos => ?_, ?_, ?_, ?_⟩
  · have := hcap hpos
    omega
  · omega
  · omega
  · omega

/-- `Pop` of a new object, to its end. -/
def popAlone (i : Nat) : List PoolAct :=
  [.callPop i, .dequeue i false, .advance i, .advance i, .advance i, .advance i]

/-- `Push` to the queue, to its end. -/
def pushAlone (i : Nat) : List PoolAct :=
  [.callPush i, .advance i, .advance i, .advance i, .advance i]

/-- Two threads that pop at once where two objects are allowed; then they push one after the other,
and one pops again. -/
def twoPops : List PoolAct :=
  [.callPop 0, .callPop 1, .dequeue 0 false, .dequeue 1 false, .advance 0, .advance 1, .advance 0,
    .advance 1, .advance 0, .advance 1, .advance 0, .advance 1] ++ pushAlone 0 ++ pushAlone 1 ++
      [.callPop 0, .dequeue 0 true, .advance 0]

theorem caps_hold_twoPops :
    ∃ s, run (step ⟨2, 2⟩) (start 2) twoPops = some s ∧ s.alive = 2 ∧ s.alive ≤ 2 ∧ s.queued ≤ 2 ∧
      0 ≤ s.poolCount ∧ 0 ≤ s.allocCount := by
  refine exists_run_and (by decide +kernel) fun s hrun => ?_
  have h := caps_hold ⟨2, 2⟩ 2 twoPops s (by decide +kernel) hrun
  exact ⟨h.1 Nat.two_pos, h.2⟩

/-- Two threads that pass the same test: there are two objects where one is allowed, and two in the
queue; and an object that is taken before it is counted takes the counter below zero. -/
theorem caps_raced :
    (∃ s, run (step ⟨1, 1⟩) (start 2)
        [.callPop 0, .callPop 1, .dequeue 0 false, .dequeue 1 false, .advance 0, .advance 1,
          .advance 0, .advance 1, .advance 0, .advance 1, .advance 0, .advance 1] = some s ∧
        s.alive = 2) ∧
    (∃ s, run (step ⟨2, 1⟩) (start 2)
        (popAlone 0 ++ popAlone 0 ++ [.callPush 0, .callPush 1, .advance 0, .advance 1, .advance 0,
          .advance 1, .advance 0, .advance 1]) = some s ∧ s.queued = 2) ∧
    ∃ s, run (step ⟨1, 1⟩) (start 2)
        (popAlone 0 ++ [.callPush 0, .advance 0, .advance 0, .advance 0, .callPop 1,
          .dequeue 1 true, .advance 1]) = some s ∧ s.poolCount = -1 := by
  exact ⟨by decide +kernel, by decide +kernel, by decide +kernel⟩

/-! ## Without the condition -/

/-- **The counters are exact at rest**, whatever the threads did before. -/
theorem counters_at_rest (lim : PoolLimits) (threads : Nat) (as : List PoolAct) (s : PoolState)
    (h : run (step lim) (start threads) as = some s) (hrest : ∀ pc ∈ s.threads, pc = .idle) :
    s.allocCount = s.alive ∧ s.poolCount = s.queued ∧ s.alive = s.queued + s.inUse := by
  obtain ⟨hobj, halloc, hpool⟩ : s.Books :=
    run_inv Books (fun _ _ _ hb hs => hb.step hs) (books_start threads) h
  have hnone : ∀ p : Pc, p ≠ .idle → s.threadsAt p = 0 := fun p hp =>
    tally_eq_zero _ fun q hq => if_neg (hrest q hq ▸ hp.symm)
  have hheld : s.held = 0 := tally_eq_zero _ fun q hq => hrest q hq ▸ rfl
  rw [hnone .popNew nofun, hnone .pushSub nofun] at halloc
  rw [hnone .pushAdd nofun, hnone .popGot nofun] at hpool
  omega

theorem counters_at_rest_alone :
    ∃ s, run (step ⟨1, 1⟩) (start 2) (popAlone 0 ++ pushAlone 1) = some s ∧ s.queued = 1 ∧
    s.poolCount = s.queued :=
  ⟨_, rfl, rfl, (counters_at_rest ⟨1, 1⟩ 2 (popAlone 0 ++ pushAlone 1) _ rfl (by decide)).2.1⟩

/-- One where the thread is going to count an allocation. -/
def allocating (lim : PoolLimits) : Pc → Nat
  | .popLoaded currentAlloc => if currentAlloc < lim.allocLimit then 1 else 0
  | .popAdd => 1
  | _ => 0

/-- Each thread but one may be past a test that the count does not show. -/
def Overshot (lim : PoolLimits) (s : PoolState) : Prop :=
  s.allocCount + tally (allocating lim) s.threads < lim.allocLimit + s.threads.length

theorem Moves.allocating_le (h : Moves lim s pc s₀ pc') (hpos : 0 < lim.allocLimit) :
    s₀.allocCount + allocating lim pc' ≤ s.allocCount + allocating lim pc ∨
      s₀.allocCount = s.allocCount ∧ allocating lim pc = 0 ∧ allocating lim pc' = 1 ∧
      load s.allocCount < lim.allocLimit := by
  cases h with
  | loadAlloc =>
    by_cases hfit : load s.allocCount < lim.allocLimit
    · exact .inr ⟨rfl, rfl, if_pos hfit, hfit⟩
    · simp [allocating, hfit]
  | allowed hpass => simp [allocating, hpass hpos]
  | refused => exact .inl (Int.add_le_add_left (Int.natCast_nonneg _) _)
  | _ => simp [allocating]

theorem Overshot.step {a : PoolAct} (ho : s.Overshot lim) (hb : s.Books) (hpos : 0 < lim.allocLimit)
    (hsize : lim.allocLimit + s.threads.length ≤ 2 ^ 64) (h : s.step lim a = some s') :
    s'.Overshot lim ∧ s'.threads.length = s.threads.length := by
  obtain ⟨pc, s₀, pc', hi, hm, rfl, -⟩ := step_moves h
  have hset := tally_set (allocating lim) hi pc'
  have hbook := hb.alloc
  unfold Overshot goto at *
  dsimp only
  rw [hm.threads, List.length_set]
  refine ⟨?_, rfl⟩
  rcases hm.allocating_le hpos with hless | ⟨hsame, hzero, hnew, hfit⟩
  · omega
  · have hlt :=
      tally_lt_length _ (fun q => by cases q <;> simp [allocating]; split <;> omega) hi hzero
    unfold load at hfit
    omega

/-- **The cap of the allocations is passed by less than the number of threads.** -/
theorem caps_overshoot (lim : PoolLimits) (threads : Nat) (as : List PoolAct) (s : PoolState)
    (hpos : 0 < lim.allocLimit) (hsize : lim.allocLimit + threads ≤ 2 ^ 64)
    (h : run (step lim) (start threads) as = some s) : s.alive < lim.allocLimit + threads := by
  obtain ⟨hb, ho, rfl⟩ : s.Books ∧ s.Overshot lim ∧ s.threads.length = threads := by
    refine run_inv (fun s => s.Books ∧ s.Overshot lim ∧ s.threads.length = threads) ?_
      ⟨books_start threads, ?_, List.length_replicate⟩ h
    · rintro s a s' ⟨hb, ho, rfl⟩ hs
      exact ⟨hb.step hs, ho.step hb hpos hsize hs⟩
    · simp [Overshot, start, tally, allocating]
      omega
  have hbook := hb.alloc
  unfold Overshot at ho
  omega

theorem caps_overshoot_alone :
    ∃ s, run (step ⟨1, 1⟩) (start 2) (popAlone 0) = some s ∧ s.alive = 1 ∧ s.alive < 1 + 2 :=
  ⟨_, rfl, rfl, caps_overshoot ⟨1, 1⟩ 2 (popAlone 0) _ Nat.one_pos (by decide) rfl⟩

end PoolState

end ToyServer.Memory
