import ToyServer.Memory.PoolCaps
import ToyServer.Entity.Recycle

/-!
# The models of `LockFreeObjectPool`

`SimpleGame.LockFreeObjectPool` is the pool with its objects, and the heap of `RefPtr` has the same
one with the numbers of the objects (`asPool_push`, `asPool_pop`).  `PoolState` has the counters and
goes by atomic steps: a call that nobody interrupts changes them as the whole call does
(`pop_alone`, `push_alone`).
-/

namespace ToyServer.Memory

open Runs SimpleGame PoolState

section
variable {lim : PoolLimits} {h h' : Heap}

/-- The pool of the heap; its objects are their numbers. -/
def Heap.asPool (lim : PoolLimits) (h : Heap) : LockFreeObjectPool Nat :=
  ⟨h.pool, h.allocCount, h.pool.length, lim.allocLimit, lim.poolLimit⟩

theorem Heap.asPool_push (x : Nat) : (h.push lim x).asPool lim = (h.asPool lim).push x := by
  unfold Heap.push LockFreeObjectPool.push Heap.asPool
  dsimp only
  split
  · simp
  · rfl

/-- `Pop` where the queue gives its oldest object. -/
theorem Heap.asPool_pop (hp : h.pop lim 0 = some h') :
    h'.asPool lim = ((h.asPool lim).pop h.next id).2 := by
  unfold Heap.pop at hp
  unfold LockFreeObjectPool.pop Heap.asPool
  cases hpool : h.pool with
  | cons x rest =>
    simp only [hpool, List.getElem?_cons_zero, Option.some.injEq] at hp
    subst hp
    simp [Heap.bind, Heap.addRef]
  | nil =>
    simp only [hpool, List.getElem?_nil, ne_eq, not_true_eq_false, if_false] at hp
    dsimp only
    split at hp <;> rename_i hlim <;> cases hp
    · rw [if_pos hlim]
      simp [Heap.bind, hpool]
    · rw [if_neg hlim]
      simp [Heap.bind, Heap.addRef]

end

section
variable {T : Type} (p : LockFreeObjectPool T) {s : PoolState} {i : Nat}

/-- The counters of a state are those of the pool. -/
structure Counts (p : LockFreeObjectPool T) (s : PoolState) : Prop where
  pool : s.poolCount = p.poolCount
  alloc : s.allocCount = p.allocCount
  queued : s.queued = p.pool.length

theorem load_natCast {n : Nat} (hn : n < 2 ^ 64) : load n = n := by
  unfold load
  omega

/-- `Pop` of a thread that nobody interrupts. -/
theorem pop_alone (new : T) (reset : T → T) (hi : s.threads[i]? = some .idle) (hs : Counts p s)
    (hpool : p.poolCount = p.pool.length) (halloc : p.allocCount < 2 ^ 64) :
    ∃ as s', (∀ a ∈ as, a.thread = i) ∧
      run (step ⟨p.allocLimit, p.poolLimit⟩) s as = some s' ∧
      s'.threads[i]? = some .idle ∧ Counts (p.pop new reset).2 s' := by
  obtain ⟨hlt, hget⟩ := List.getElem?_eq_some_iff.mp hi
  have hload : load s.allocCount = p.allocCount := hs.alloc ▸ load_natCast halloc
  unfold LockFreeObjectPool.pop
  cases hq : p.pool with
  | cons x rest =>
    have hpos : 0 < s.queued := by rw [hs.queued, hq]; exact Nat.succ_pos _
    refine ⟨[.callPop i, .dequeue i true, .advance i], _, by simp [PoolAct.thread],
      by simp [run, step, goto, next, hget, hlt, hpos]; rfl, ?_, ?_⟩
    · simp [hlt]
    · refine ⟨?_, hs.alloc, ?_⟩
      · show s.poolCount - 1 = ((p.poolCount - 1 : Nat) : Int)
        rw [hs.pool, hpool, hq]
        simp
      · show s.queued - 1 = rest.length
        rw [hs.queued, hq]
        rfl
  | nil =>
    dsimp only
    split
    · next hlim =>
      refine ⟨[.callPop i, .dequeue i false, .advance i, .advance i], _, by simp [PoolAct.thread],
        by simp [run, step, goto, next, hget, hlt, hload, hlim]; rfl,
        ?_, ?_⟩
      · simp [hlt]
      · exact ⟨hs.pool, hs.alloc, hs.queued⟩
    · next hlim =>
      refine ⟨popAlone i, _, by simp [popAlone, PoolAct.thread],
        by simp [popAlone, run, step, goto, next, hget, hlt, hload, hlim]; rfl, ?_, ?_⟩
      · simp [hlt]
      · exact ⟨hs.pool, by simp [hs.alloc], by simp [hs.queued, hq]⟩

/-- `Push` of a thread that nobody interrupts. -/
theorem push_alone (x : T) (hi : s.threads[i]? = some .idle) (hs : Counts p s) (huse : 0 < s.inUse)
    (hpool : p.poolCount < 2 ^ 64) (halloc : 0 < p.allocCount) :
    ∃ as s', (∀ a ∈ as, a.thread = i) ∧
      run (step ⟨p.allocLimit, p.poolLimit⟩) s as = some s' ∧
      s'.threads[i]? = some .idle ∧ Counts (p.push x) s' := by
  obtain ⟨hlt, hget⟩ := List.getElem?_eq_some_iff.mp hi
  have hload : load s.poolCount = p.poolCount := hs.pool ▸ load_natCast hpool
  unfold LockFreeObjectPool.push
  split
  · next hlim =>
    refine ⟨pushAlone i, _, by simp [pushAlone, PoolAct.thread],
      by simp [pushAlone, run, step, goto, next, hget, hlt, hload, hlim, huse]; rfl, ?_, ?_⟩
    · simp [hlt]
    · exact ⟨by simp [hs.pool], hs.alloc, by simp [hs.queued]⟩
  · next hlim =>
    refine ⟨pushAlone i, _, by simp [pushAlone, PoolAct.thread],
      by simp [pushAlone, run, step, goto, next, hget, hlt, hload, hlim, huse]; rfl, ?_, ?_⟩
    · simp [hlt]
    · refine ⟨hs.pool, ?_, hs.queued⟩
      show s.allocCount - 1 = ((p.allocCount - 1 : Nat) : Int)
      rw [hs.alloc]
      omega

end

end ToyServer.Memory
