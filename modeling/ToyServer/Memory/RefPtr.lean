import ToyServer.Lib.RefCount
import ToyServer.Lib.Runs

/-!
# `RefPtr`, `RefCounted` and the pool

`RefPtr` values live in slots.  A constructor makes a new slot, and the assignments are what the
class makes of them: a temporary, a swap and the destructor of the temporary (`Op.compile`).  The
last reference calls `ReturnToPool`, which pushes the object to its `LockFreeObjectPool` or deletes
it.

Every step of the class keeps `Exact`: the count of an object is the number of slots that hold it,
and nobody holds what is in the pool.  Only the constructors from a raw pointer can break it, since
they take any pointer and may be told not to count.
-/

namespace ToyServer.Memory

open RefCount Runs

/-- A `RefPtr` with its pointer, or one that was destroyed.  Objects are numbered as they are
allocated. -/
inductive Slot where
  | dead
  | live (ptr : Option Nat)
deriving DecidableEq, Repr

namespace Slot

def holds (x : Nat) : Slot → Nat
  | live (some y) => single y x
  | _ => 0

def alive : Slot → Nat
  | dead => 0
  | live _ => 1

theorem holds_le_alive (x : Nat) (s : Slot) : s.holds x ≤ s.alive := by
  match s with
  | dead => exact Nat.le_refl 0
  | live none => exact Nat.zero_le 1
  | live (some y) =>
    show single y x ≤ 1
    unfold single
    split <;> omega

end Slot

/-- Zero is no limit for `allocLimit`. -/
structure PoolLimits where
  allocLimit : Nat
  poolLimit : Nat

/-- The objects with their counts, the slots and the pool. -/
structure Heap where
  /-- `m_refCount`, an `uint32_t` -/
  count : Nat → Nat
  slots : List Slot
  next : Nat
  allocCount : Nat
  pool : List Nat
  deleted : List Nat
  returned : List Nat

namespace Heap

def empty : Heap := ⟨fun _ => 0, [], 0, 0, [], [], []⟩

/-- The slots that hold the object. -/
def holders (h : Heap) (x : Nat) : Nat := tally (Slot.holds x) h.slots

/-- The slots that are not destroyed. -/
def live (h : Heap) : Nat := tally Slot.alive h.slots

/-! ## Counting -/

/-- The count wraps at `2 ^ 32`. -/
def addRef (h : Heap) : Option Nat → Heap
  | none => h
  | some x => { h with count := Function.update h.count x ((h.count x + 1) % 2 ^ 32) }

variable (lim : PoolLimits)

/-- A full pool deletes the object. -/
def push (h : Heap) (x : Nat) : Heap :=
  if h.pool.length < lim.poolLimit then { h with pool := h.pool ++ [x] }
  else { h with deleted := h.deleted ++ [x], allocCount := h.allocCount - 1 }

/-- The last reference gives the object back. -/
def release (h : Heap) : Option Nat → Heap
  | none => h
  | some x =>
    let h' := { h with count := Function.update h.count x ((h.count x + (2 ^ 32 - 1)) % 2 ^ 32) }
    if h.count x = 1 then { h' with returned := h.returned ++ [x] }.push lim x else h'

def bind (h : Heap) (ptr : Option Nat) : Heap := { h with slots := h.slots ++ [.live ptr] }

/-- The pointer of a slot that is not destroyed. -/
def ptr? (h : Heap) (i : Nat) : Option (Option Nat) :=
  match h.slots[i]? with
  | some (.live ptr) => some ptr
  | _ => none

def setPtr (h : Heap) (i : Nat) (ptr : Option Nat) : Heap :=
  { h with slots := h.slots.set i (.live ptr) }

/-- `LockFreeObjectPool::Pop`; `k` is the object that the queue gives. -/
def pop (h : Heap) (k : Nat) : Option Heap :=
  match h.pool[k]? with
  | some x => some (({ h with pool := h.pool.eraseIdx k }.addRef (some x)).bind (some x))
  | none =>
    if h.pool ≠ [] then none
    else if 0 < lim.allocLimit ∧ lim.allocLimit ≤ h.allocCount then some (h.bind none)
    else
      let new :=
        { h with
          next := h.next + 1, allocCount := h.allocCount + 1,
          count := Function.update h.count h.next 0 }
      some ((new.addRef (some h.next)).bind (some h.next))

/-- What the class does in one go. -/
inductive Micro where
  /-- `RefPtr(ptr, add_ref)` -/
  | make (ptr : Option Nat) (addRef : Bool)
  /-- `_ptr(other._ptr)` and `AddRef` -/
  | copy (j : Nat)
  /-- `_ptr(other._ptr)` and `other._ptr = nullptr` -/
  | steal (j : Nat)
  | swap (i j : Nat)
  | destroy (i : Nat)
  | pop (k : Nat)
deriving DecidableEq, Repr

/-- A raw pointer names an object that was allocated at some time. -/
def step (h : Heap) : Micro → Option Heap
  | .make ptr addRef =>
    if ∀ x ∈ ptr, x < h.next then some ((if addRef then h.addRef ptr else h).bind ptr) else none
  | .copy j => (h.ptr? j).map fun ptr => (h.addRef ptr).bind ptr
  | .steal j => (h.ptr? j).map fun ptr => (h.setPtr j none).bind ptr
  | .swap i j =>
    match h.ptr? i, h.ptr? j with
    | some p, some q => some ((h.setPtr i q).setPtr j p)
    | _, _ => none
  | .destroy i => (h.ptr? i).map fun ptr => { h with slots := h.slots.set i .dead }.release lim ptr
  | .pop k => h.pop lim k

end Heap

open Heap

/-! ## The operations of the class -/

/-- What a program can do with `RefPtr` values. -/
inductive Op where
  | default
  | raw (ptr : Option Nat)
  /-- the constructor with `add_ref` -/
  | rawWith (ptr : Option Nat) (addRef : Bool)
  | copy (j : Nat)
  | move (j : Nat)
  /-- from a `RefPtr` to a derived class -/
  | convertCopy (j : Nat)
  | convertMove (j : Nat)
  | copyAssign (i j : Nat)
  | moveAssign (i j : Nat)
  | rawAssign (i : Nat) (ptr : Option Nat)
  | swap (i j : Nat)
  | reset (i : Nat)
  | resetTo (i : Nat) (ptr : Option Nat) (addRef : Bool)
  | destroy (i : Nat)
  | pop (k : Nat)
deriving DecidableEq, Repr

/-- `RefPtr(…).swap(*this)`: the temporary is the slot `n`. -/
def viaTemporary (n i : Nat) (construct : Micro) : List Micro := [construct, .swap n i, .destroy n]

/-- The steps of an operation where there are `n` slots. -/
def Op.compile (n : Nat) : Op → List Micro
  | default => [.make none true]
  | raw ptr => [.make ptr true]
  | rawWith ptr addRef => [.make ptr addRef]
  | copy j => [.copy j]
  | move j => [.steal j]
  | convertCopy j => [.copy j]
  | convertMove j => [.steal j]
  | copyAssign i j => viaTemporary n i (.copy j)
  | moveAssign i j => viaTemporary n i (.steal j)
  | rawAssign i ptr => viaTemporary n i (.make ptr true)
  | swap i j => [.swap i j]
  | reset i => viaTemporary n i (.make none true)
  | resetTo i ptr addRef => viaTemporary n i (.make ptr addRef)
  | destroy i => [.destroy i]
  | pop k => [.pop k]

/-- The heap, and how often the holders of an object have become none. -/
structure Watched where
  heap : Heap
  falls : Nat → Nat

namespace Watched

def start : Watched := ⟨.empty, fun _ => 0⟩

/-- One more where someone held the object and nobody does any more. -/
def fallen (h h' : Heap) (x : Nat) : Nat := if 0 < h.holders x ∧ h'.holders x = 0 then 1 else 0

def micro (lim : PoolLimits) (w : Watched) (m : Micro) : Option Watched :=
  (w.heap.step lim m).map fun h => ⟨h, fun x => w.falls x + fallen w.heap h x⟩

def step (lim : PoolLimits) (w : Watched) (op : Op) : Option Watched :=
  run (micro lim) w (op.compile w.heap.slots.length)

end Watched

variable {i : Nat} {h' : Heap}

/-! ## What the class keeps -/

namespace Heap

structure Exact (h : Heap) : Prop where
  count : ∀ x, h.count x = h.holders x
  idle : ∀ x ∈ h.pool, h.holders x = 0
  gone : ∀ x ∈ h.deleted, h.holders x = 0
  nodup : h.pool.Nodup
  apart : ∀ x ∈ h.pool, x ∉ h.deleted
  allocated : ∀ x, 0 < h.holders x ∨ x ∈ h.pool ∨ x ∈ h.deleted → x < h.next

theorem exact_empty : Heap.empty.Exact where
  count _ := rfl
  idle _ hx := absurd hx List.not_mem_nil
  gone _ hx := absurd hx List.not_mem_nil
  nodup := List.nodup_nil
  apart _ hx := absurd hx List.not_mem_nil
  allocated x hx := by
    rcases hx with hx | hx | hx
    · exact absurd hx (Nat.lt_irrefl 0)
    · exact absurd hx List.not_mem_nil
    · exact absurd hx List.not_mem_nil

variable {h : Heap} {lim : PoolLimits}

theorem holders_le_live (h : Heap) (x : Nat) : h.holders x ≤ h.live :=
  tally_mono (Slot.holds_le_alive x) h.slots

theorem holders_bind (h : Heap) (ptr : Option Nat) (x : Nat) :
    (h.bind ptr).holders x = h.holders x + (Slot.live ptr).holds x := by
  simp [holders, bind]

theorem slot_of_ptr {ptr : Option Nat} (hp : h.ptr? i = some ptr) :
    h.slots[i]? = some (.live ptr) := by
  unfold ptr? at hp
  split at hp
  · next p hs =>
    cases hp
    exact hs
  · cases hp

theorem Exact.of_holders {slots : List Slot} (he : h.Exact)
    (hs : ∀ x, tally (Slot.holds x) slots = h.holders x) : { h with slots }.Exact where
  count x := (he.count x).trans (hs x).symm
  idle x hx := (hs x).trans (he.idle x hx)
  gone x hx := (hs x).trans (he.gone x hx)
  nodup := he.nodup
  apart := he.apart
  allocated x hx := by
    refine he.allocated x ?_
    rw [← hs x]
    exact hx

theorem Exact.bind_none (he : h.Exact) : (h.bind none).Exact :=
  he.of_holders fun x => by simp [Slot.holds, holders]

variable {x : Nat}

theorem Exact.acquire (he : h.Exact) (hx : x < h.next) (hpool : x ∉ h.pool) (hdel : x ∉ h.deleted)
    (hlive : h.live + 1 < 2 ^ 32) : ((h.addRef (some x)).bind (some x)).Exact := by
  have hhold : ∀ y, ((h.addRef (some x)).bind (some x)).holders y = h.holders y + single x y :=
    holders_bind (h.addRef (some x)) (some x)
  have hother : ∀ y, y ≠ x → ((h.addRef (some x)).bind (some x)).holders y = h.holders y := by
    intro y hy
    rw [hhold, single, if_neg hy]
    rfl
  refine ⟨fun y => ?_, fun y hy => ?_, fun y hy => ?_, he.nodup, he.apart, fun y hy => ?_⟩
  · show Function.update h.count x ((h.count x + 1) % 2 ^ 32) y = _
    by_cases hyx : y = x
    · subst hyx
      have hle := holders_le_live h y
      rw [Function.update_self, hhold, single, if_pos rfl, he.count y, Nat.mod_eq_of_lt (by omega)]
    · rw [Function.update_of_ne hyx, hother y hyx, he.count y]
  · rw [hother y (fun hyx => hpool (hyx ▸ hy))]
    exact he.idle y hy
  · rw [hother y (fun hyx => hdel (hyx ▸ hy))]
    exact he.gone y hy
  · by_cases hyx : y = x
    · exact hyx ▸ hx
    · rw [hother y hyx] at hy
      exact he.allocated y hy

theorem Exact.held (he : h.Exact) (hpos : 0 < h.holders x) :
    x < h.next ∧ x ∉ h.pool ∧ x ∉ h.deleted := by
  refine ⟨he.allocated x (.inl hpos), fun hx => ?_, fun hx => ?_⟩
  · rw [he.idle x hx] at hpos
    exact absurd hpos (Nat.lt_irrefl 0)
  · rw [he.gone x hx] at hpos
    exact absurd hpos (Nat.lt_irrefl 0)

theorem held_of_ptr (hp : h.ptr? i = some (some x)) : 0 < h.holders x := by
  have hle := le_tally (Slot.holds x) (slot_of_ptr hp)
  have hone : (Slot.live (some x)).holds x = 1 := if_pos rfl
  unfold holders
  omega

/-! ### Destruction -/

theorem Exact.push (he : h.Exact) (hx : x < h.next) (hzero : h.holders x = 0) (hpool : x ∉ h.pool)
    (hdel : x ∉ h.deleted) : (h.push lim x).Exact := by
  unfold Heap.push
  split
  · refine ⟨he.count, forall_mem_concat he.idle hzero, he.gone, ?_, forall_mem_concat he.apart hdel,
      fun y hy => ?_⟩
    · show (h.pool ++ [x]).Nodup
      rw [List.nodup_append_comm, List.singleton_append, List.nodup_cons]
      exact ⟨hpool, he.nodup⟩
    · rcases hy with hy | hy | hy
      · exact he.allocated y (.inl hy)
      · rcases mem_concat.mp hy with hy | rfl
        · exact he.allocated y (.inr (.inl hy))
        · exact hx
      · exact he.allocated y (.inr (.inr hy))
  · refine ⟨he.count, he.idle, forall_mem_concat he.gone hzero, he.nodup, fun y hy hmem => ?_,
      fun y hy => ?_⟩
    · rcases mem_concat.mp hmem with hmem | hmem
      · exact he.apart y hy hmem
      · exact hpool (hmem ▸ hy)
    · rcases hy with hy | hy | hy
      · exact he.allocated y (.inl hy)
      · exact he.allocated y (.inr (.inl hy))
      · rcases mem_concat.mp hy with hy | rfl
        · exact he.allocated y (.inr (.inr hy))
        · exact hx

@[simp] theorem push_returned (h : Heap) (x : Nat) : (h.push lim x).returned = h.returned := by
  unfold Heap.push
  split <;> rfl

@[simp] theorem push_slots (h : Heap) (x : Nat) : (h.push lim x).slots = h.slots := by
  unfold Heap.push
  split <;> rfl

/-- The slot is gone, the count is one less, and the object is as it was. -/
def dropped (h : Heap) (i x : Nat) : Heap :=
  { h with
    slots := h.slots.set i .dead,
    count := Function.update h.count x ((h.count x + (2 ^ 32 - 1)) % 2 ^ 32) }

theorem holders_dropped (hp : h.ptr? i = some (some x)) (y : Nat) :
    (h.dropped i x).holders y + single x y = h.holders y := by
  have hset := tally_set (Slot.holds y) (slot_of_ptr hp) .dead
  have hzero : Slot.dead.holds y = 0 := rfl
  have hone : (Slot.live (some x)).holds y = single x y := rfl
  rw [hzero, hone] at hset
  exact hset

theorem Exact.dropped (he : h.Exact) (hp : h.ptr? i = some (some x)) (hlive : h.live < 2 ^ 32) :
    (h.dropped i x).Exact := by
  have hhold := holders_dropped hp
  have hle : ∀ y, (h.dropped i x).holders y ≤ h.holders y := fun y => by
    have := hhold y
    omega
  refine ⟨fun y => ?_, fun y hy => ?_, fun y hy => ?_, he.nodup, he.apart, fun y hy => ?_⟩
  · have hy := hhold y
    show Function.update h.count x ((h.count x + (2 ^ 32 - 1)) % 2 ^ 32) y = _
    by_cases hyx : y = x
    · subst hyx
      have hbound := holders_le_live h y
      rw [single, if_pos rfl] at hy
      rw [Function.update_self, he.count y]
      omega
    · rw [single, if_neg hyx] at hy
      rw [Function.update_of_ne hyx, he.count y]
      omega
  · have := he.idle y hy
    have := hle y
    omega
  · have := he.gone y hy
    have := hle y
    omega
  · refine he.allocated y (hy.imp_left fun hpos => ?_)
    have := hle y
    omega

theorem step_destroy (hs : h.step lim (.destroy i) = some h') :
    (h.ptr? i = some none ∧ h' = { h with slots := h.slots.set i .dead }) ∨
      ∃ x, h.ptr? i = some (some x) ∧
        h' = if h.count x = 1 then
          ({ h.dropped i x with returned := h.returned ++ [x] } : Heap).push lim x
          else h.dropped i x := by
  obtain ⟨ptr, hp, rfl⟩ := Option.map_eq_some_iff.mp hs
  cases ptr with
  | none => exact .inl ⟨hp, rfl⟩
  | some x => exact .inr ⟨x, hp, rfl⟩

theorem Exact.returned (he : h.Exact) (l : List Nat) : { h with returned := l }.Exact :=
  ⟨he.count, he.idle, he.gone, he.nodup, he.apart, he.allocated⟩

theorem Exact.destroy (he : h.Exact) (hlive : h.live < 2 ^ 32)
    (hs : h.step lim (.destroy i) = some h') : h'.Exact := by
  rcases step_destroy hs with ⟨hp, rfl⟩ | ⟨x, hp, rfl⟩
  · refine he.of_holders fun y => ?_
    have hset := tally_set (Slot.holds y) (slot_of_ptr hp) .dead
    exact hset
  · have hdrop := he.dropped hp hlive
    split
    · next hlast =>
      obtain ⟨hx, hpool, hdel⟩ := he.held (held_of_ptr hp)
      refine (hdrop.returned _).push hx ?_ hpool hdel
      have hhold := holders_dropped hp x
      rw [single, if_pos rfl, ← he.count x, hlast] at hhold
      exact Nat.succ_injective hhold
    · exact hdrop

/-! ### The queue and the other constructors -/

theorem step_pop {k : Nat} (hs : h.step lim (.pop k) = some h') :
    (∃ x, h.pool[k]? = some x ∧
        h' = ({ h with pool := h.pool.eraseIdx k }.addRef (some x)).bind (some x)) ∨
      h' = h.bind none ∨
      h' = ({ h with
              next := h.next + 1, allocCount := h.allocCount + 1,
              count := Function.update h.count h.next 0 }.addRef (some h.next)).bind
            (some h.next) := by
  change h.pop lim k = some h' at hs
  unfold Heap.pop at hs
  split at hs
  · next x hx =>
    cases hs
    exact .inl ⟨x, hx, rfl⟩
  · split at hs
    · cases hs
    · split at hs
      · cases hs
        exact .inr (.inl rfl)
      · cases hs
        exact .inr (.inr rfl)

theorem Exact.dequeue (he : h.Exact) {k : Nat} (hx : h.pool[k]? = some x) :
    { h with pool := h.pool.eraseIdx k }.Exact ∧ x < h.next ∧
    x ∉ h.pool.eraseIdx k ∧ x ∉ h.deleted := by
  have hmem : x ∈ h.pool := List.mem_of_getElem? hx
  have hsub : ∀ {y}, y ∈ h.pool.eraseIdx k → y ∈ h.pool := fun hy => List.mem_of_mem_eraseIdx hy
  refine ⟨⟨he.count, fun y hy => he.idle y (hsub hy), he.gone,
    he.nodup.sublist (List.eraseIdx_sublist h.pool k),
    fun y hy => he.apart y (hsub hy), fun y hy => he.allocated y ?_⟩,
      he.allocated x (.inr (.inl hmem)), ?_,
    he.apart x hmem⟩
  · exact hy.imp_right fun hy => hy.imp_left hsub
  · obtain ⟨hk, rfl⟩ := List.getElem?_eq_some_iff.mp hx
    rw [← he.nodup.erase_getElem k hk]
    exact he.nodup.not_mem_erase

theorem Exact.allocate (he : h.Exact) : { h with
    next := h.next + 1, allocCount := h.allocCount + 1,
      count := Function.update h.count h.next 0 }.Exact ∧ h.next ∉ h.pool ∧ h.next ∉ h.deleted := by
  have hnew : ∀ y, 0 < h.holders y ∨ y ∈ h.pool ∨ y ∈ h.deleted → y < h.next + 1 := fun y hy =>
    Nat.lt_succ_of_lt (he.allocated y hy)
  refine ⟨⟨fun y => ?_, he.idle, he.gone, he.nodup, he.apart, hnew⟩, fun hmem => ?_, fun hmem => ?_⟩
  · show Function.update h.count h.next 0 y = h.holders y
    by_cases hy : y = h.next
    · subst hy
      rw [Function.update_self]
      by_contra hne
      exact absurd (he.allocated h.next (.inl (Nat.pos_of_ne_zero (Ne.symm hne)))) (Nat.lt_irrefl _)
    · rw [Function.update_of_ne hy]
      exact he.count y
  · exact absurd (he.allocated h.next (.inr (.inl hmem))) (Nat.lt_irrefl _)
  · exact absurd (he.allocated h.next (.inr (.inr hmem))) (Nat.lt_irrefl _)

theorem Exact.pop (he : h.Exact) (hlive : h.live + 1 < 2 ^ 32) {k : Nat}
    (hs : h.step lim (.pop k) = some h') : h'.Exact := by
  rcases step_pop hs with ⟨x, hx, rfl⟩ | rfl | rfl
  · obtain ⟨he', hlt, hpool, hdel⟩ := he.dequeue hx
    exact he'.acquire hlt hpool hdel hlive
  · exact he.bind_none
  · obtain ⟨he', hpool, hdel⟩ := he.allocate
    exact he'.acquire (Nat.lt_succ_self _) hpool hdel hlive

/-- What a raw constructor may be given: a pointer to count, to an object that is in use.  There are
fewer slots than a count can count. -/
def MicroOk (h : Heap) : Micro → Prop
  | .make ptr addRef => h.live + 1 < 2 ^ 32 ∧ ∀ x ∈ ptr, addRef = true ∧ x ∉ h.pool ∧ x ∉ h.deleted
  | .copy _ => h.live + 1 < 2 ^ 32
  | .steal _ => h.live + 1 < 2 ^ 32
  | .pop _ => h.live + 1 < 2 ^ 32
  | .swap _ _ => True
  | .destroy _ => True

instance decidableMicroOk (h : Heap) : ∀ m, Decidable (h.MicroOk m)
  | .make none _ => inferInstanceAs (Decidable (_ ∧ ∀ x ∈ (none : Option Nat), _))
  | .make (some _) _ => inferInstanceAs (Decidable (_ ∧ ∀ x ∈ (some _ : Option Nat), _))
  | .copy _ => inferInstanceAs (Decidable (_ < _))
  | .steal _ => inferInstanceAs (Decidable (_ < _))
  | .pop _ => inferInstanceAs (Decidable (_ < _))
  | .swap _ _ => isTrue trivial
  | .destroy _ => isTrue trivial

/-! ### All steps -/

theorem tally_bind (f : Slot → Nat) (h : Heap) (ptr : Option Nat) :
    tally f (h.bind ptr).slots = tally f h.slots + f (.live ptr) := by
  simp [bind]

theorem tally_steal (f : Slot → Nat) {j : Nat} {ptr : Option Nat} (hp : h.ptr? j = some ptr) :
    tally f ((h.setPtr j none).bind ptr).slots = tally f h.slots + f (.live none) := by
  have hset := tally_set f (slot_of_ptr hp) (.live none)
  rw [tally_bind]
  exact hset

theorem tally_swap (f : Slot → Nat) {j : Nat} {p q : Option Nat} (hi : h.ptr? i = some p)
    (hj : h.ptr? j = some q) : tally f ((h.setPtr i q).setPtr j p).slots = tally f h.slots := by
  have hslot := slot_of_ptr hj
  have hset := tally_set f (slot_of_ptr hi) (.live q)
  have hmid : (h.setPtr i q).slots[j]? = some (.live q) := by
    show (h.slots.set i (.live q))[j]? = some (.live q)
    by_cases hij : i = j
    · subst hij
      exact List.getElem?_set_self (List.getElem?_eq_some_iff.mp hslot).1
    · rw [List.getElem?_set_ne hij]
      exact hslot
  have hset' := tally_set f hmid (.live p)
  have hfirst : (h.setPtr i q).slots = h.slots.set i (.live q) := rfl
  rw [hfirst] at hset'
  show tally f ((h.slots.set i (.live q)).set j (.live p)) = _
  omega

/-- A step that loses no holder and returns nothing. -/
def Gains (h h' : Heap) : Prop :=
  (∀ x, h.holders x ≤ h'.holders x) ∧ h'.returned = h.returned ∧ h'.live ≤ h.live + 1

theorem gains_bind {h₀ : Heap} (hslots : h₀.slots = h.slots) (hret : h₀.returned = h.returned)
    (ptr : Option Nat) : Gains h (h₀.bind ptr) := by
  refine ⟨fun x => ?_, hret, ?_⟩
  · unfold holders
    rw [tally_bind, hslots]
    exact Nat.le_add_right _ _
  · unfold live
    rw [tally_bind, hslots]
    exact Nat.le_refl _

theorem addRef_slots (h : Heap) (ptr : Option Nat) :
    (h.addRef ptr).slots = h.slots ∧ (h.addRef ptr).returned = h.returned := by
  cases ptr with
  | none => exact ⟨rfl, rfl⟩
  | some x => exact ⟨rfl, rfl⟩

/-- Every step but a destructor, within its condition. -/
theorem Exact.gains (he : h.Exact) {m : Micro} (hok : h.MicroOk m) (hs : h.step lim m = some h')
    (hm : ∀ i, m ≠ .destroy i) :
    h'.Exact ∧ Gains h h' ∧ (h'.live = h.live ∨ h.live + 1 < 2 ^ 32) := by
  cases m with
  | make ptr addRef =>
    obtain ⟨hlive, hraw⟩ := hok
    unfold Heap.step at hs
    dsimp only at hs
    split at hs
    · next hlt =>
      cases hs
      cases ptr with
      | none =>
        have hsame : (if addRef = true then h.addRef none else h) = h := by cases addRef <;> rfl
        rw [hsame]
        exact ⟨he.bind_none, gains_bind rfl rfl none, Or.inr hlive⟩
      | some x =>
        obtain ⟨rfl, hpool, hdel⟩ := hraw x rfl
        exact ⟨he.acquire (hlt x rfl) hpool hdel hlive, gains_bind rfl rfl (some x), Or.inr hlive⟩
    · cases hs
  | copy j =>
    obtain ⟨ptr, hp, rfl⟩ := Option.map_eq_some_iff.mp hs
    refine ⟨?_, gains_bind (addRef_slots h ptr).1 (addRef_slots h ptr).2 ptr, Or.inr hok⟩
    cases ptr with
    | none => exact he.bind_none
    | some x =>
      obtain ⟨hx, hpool, hdel⟩ := he.held (held_of_ptr hp)
      exact he.acquire hx hpool hdel hok
  | steal j =>
    obtain ⟨ptr, hp, rfl⟩ := Option.map_eq_some_iff.mp hs
    have hsame : ∀ x, tally (Slot.holds x) ((h.setPtr j none).bind ptr).slots = h.holders x :=
      fun x =>
      tally_steal (Slot.holds x) hp
    exact ⟨he.of_holders hsame, ⟨fun x => (hsame x).ge, rfl, (tally_steal Slot.alive hp).le⟩,
      Or.inr hok⟩
  | swap i j =>
    unfold Heap.step at hs
    dsimp only at hs
    split at hs
    · next p q hi hj =>
      cases hs
      have hsame : ∀ x, tally (Slot.holds x) ((h.setPtr i q).setPtr j p).slots = h.holders x :=
        fun x =>
        tally_swap (Slot.holds x) hi hj
      have hlive : ((h.setPtr i q).setPtr j p).live = h.live := tally_swap Slot.alive hi hj
      exact ⟨he.of_holders hsame, ⟨fun x => (hsame x).ge, rfl, hlive.le.trans (Nat.le_succ _)⟩,
        Or.inl hlive⟩
    · cases hs
  | destroy i => exact absurd rfl (hm i)
  | pop k =>
    refine ⟨he.pop hok hs, ?_, Or.inr hok⟩
    rcases step_pop hs with ⟨x, hx, rfl⟩ | rfl | rfl
    · exact gains_bind rfl rfl (some x)
    · exact gains_bind rfl rfl none
    · exact gains_bind rfl rfl (some h.next)

theorem destroy_slots (hs : h.step lim (.destroy i) = some h') :
    h'.slots = h.slots.set i .dead := by
  rcases step_destroy hs with ⟨-, rfl⟩ | ⟨x, -, rfl⟩
  · rfl
  · split
    · exact push_slots _ x
    · rfl

end Heap

/-! ## Operations and runs -/

namespace Watched

/-- Counts are exact, and objects were returned whenever the last holder went. -/
structure Kept (w : Watched) : Prop where
  exact : w.heap.Exact
  bounded : w.heap.live < 2 ^ 32
  returned : ∀ x, w.heap.returned.count x = w.falls x

variable {w w' : Watched} {lim : PoolLimits}

theorem kept_start : start.Kept := ⟨exact_empty, by decide, fun _ => rfl⟩

/-- The destructor returns exactly the object that loses its last holder. -/
theorem returned_destroy {h : Heap} (he : h.Exact)
    (hs : h.step lim (.destroy i) = some h') (x : Nat) :
    h'.returned.count x = h.returned.count x + fallen h h' x := by
  have hslots := destroy_slots hs
  unfold fallen
  rcases step_destroy hs with ⟨hp, rfl⟩ | ⟨y, hp, heq⟩
  · have hset : tally (Slot.holds x) (h.slots.set i .dead) = h.holders x :=
      tally_set (Slot.holds x) (slot_of_ptr hp) .dead
    have hnot : ¬(0 < h.holders x ∧
        ({ h with slots := h.slots.set i .dead } : Heap).holders x = 0) := by
      rintro ⟨hpos, hzero⟩
      have : tally (Slot.holds x) (h.slots.set i .dead) = 0 := hzero
      omega
    rw [if_neg hnot]
    rfl
  · have hhold := holders_dropped hp x
    have hsame : h'.holders x = (h.dropped i y).holders x := by
      unfold holders
      rw [hslots]
      rfl
    have hcount := he.count y
    have hy := held_of_ptr hp
    rw [hsame]
    by_cases hxy : x = y
    · subst hxy
      rw [single, if_pos rfl] at hhold
      by_cases hlast : h.count x = 1
      · rw [if_pos ⟨hy, by omega⟩, heq, if_pos hlast, push_returned, List.count_append,
          List.count_singleton_self]
      · rw [if_neg (by omega), heq, if_neg hlast]
        rfl
    · rw [single, if_neg hxy] at hhold
      rw [if_neg (by omega), heq]
      split
      · rw [push_returned, List.count_append, List.count_singleton,
          if_neg (by simpa using fun h => hxy h.symm)]
      · rfl

theorem Kept.micro {m : Micro} (hk : w.Kept) (hok : w.heap.MicroOk m)
    (hs : w.micro lim m = some w') : w'.Kept := by
  obtain ⟨h', hstep, rfl⟩ := Option.map_eq_some_iff.mp hs
  by_cases hm : ∃ i, m = .destroy i
  · obtain ⟨i, rfl⟩ := hm
    refine ⟨hk.exact.destroy hk.bounded hstep, ?_, fun x => ?_⟩
    · obtain ⟨ptr, hp, -⟩ := Option.map_eq_some_iff.mp hstep
      have hset := tally_set Slot.alive (slot_of_ptr hp) .dead
      have hlive : h'.live = tally Slot.alive (w.heap.slots.set i .dead) :=
        congrArg _ (destroy_slots hstep)
      have hbound := hk.bounded
      have hdead : Slot.dead.alive = 0 := rfl
      show h'.live < 2 ^ 32
      unfold live at hbound
      omega
    · rw [returned_destroy hk.exact hstep x, hk.returned x]
  · obtain ⟨hexact, ⟨hle, hret, hlive⟩, hbound⟩ := hk.exact.gains hok hstep (not_exists.mp hm)
    refine ⟨hexact, ?_, fun x => ?_⟩
    · have := hk.bounded
      show h'.live < 2 ^ 32
      omega
    · have hnot : ¬(0 < w.heap.holders x ∧ h'.holders x = 0) := by
        have := hle x
        omega
      show h'.returned.count x = w.falls x + fallen w.heap h' x
      rw [hret, fallen, if_neg hnot]
      exact hk.returned x

/-- The condition of an operation is the one of the constructor that it begins with. -/
def OpOk (w : Watched) (op : Op) : Prop :=
  ∀ m ∈ (op.compile w.heap.slots.length).head?, w.heap.MicroOk m

instance (w : Watched) (op : Op) : Decidable (w.OpOk op) :=
  inferInstanceAs (Decidable (∀ m ∈ (op.compile w.heap.slots.length).head?, w.heap.MicroOk m))

theorem meets_viaTemporary {n : Nat} {c : Micro} (h : w.heap.MicroOk c) :
    Meets (micro lim) (fun w m => w.heap.MicroOk m) w (viaTemporary n i c) :=
  ⟨h, fun _ _ => ⟨trivial, fun _ _ => ⟨trivial, fun _ _ => trivial⟩⟩⟩

theorem meets_compile {op : Op} (h : w.OpOk op) :
    Meets (micro lim) (fun w m => w.heap.MicroOk m) w (op.compile w.heap.slots.length) := by
  have hone : ∀ m, w.heap.MicroOk m → Meets (micro lim) (fun w m => w.heap.MicroOk m) w [m] :=
    fun m hm =>
    ⟨hm, fun _ _ => trivial⟩
  cases op with
  | copyAssign i j => exact meets_viaTemporary (h _ rfl)
  | moveAssign i j => exact meets_viaTemporary (h _ rfl)
  | rawAssign i ptr => exact meets_viaTemporary (h _ rfl)
  | reset i => exact meets_viaTemporary (h _ rfl)
  | resetTo i ptr addRef => exact meets_viaTemporary (h _ rfl)
  | _ => exact hone _ (h _ rfl)

theorem Kept.step {op : Op} (hk : w.Kept) (hok : w.OpOk op) (hs : w.step lim op = some w') :
    w'.Kept :=
  run_inv_of_meets Kept (fun _ _ _ hk hok hs => hk.micro hok hs) hk (meets_compile hok) hs

/-- **Counting is exact**: over any operations, if raw constructors are given pointers to objects in
use, to be counted, the count of an object is the number of `RefPtr` values that hold it,
`ReturnToPool` was called once for each time that they became none, and nobody holds an object in
the pool. -/
theorem counting_exact (lim : PoolLimits) (ops : List Op) (w : Watched)
    (hok : Meets (Watched.step lim) OpOk start ops)
    (h : run (Watched.step lim) start ops = some w) :
    (∀ x, w.heap.count x = w.heap.holders x) ∧ (∀ x, w.heap.returned.count x = w.falls x) ∧
      ∀ x ∈ w.heap.pool, w.heap.holders x = 0 := by
  have hk : w.Kept := run_inv_of_meets Kept (fun _ _ _ hk hok hs => hk.step hok hs) kept_start hok h
  exact ⟨hk.exact.count, hk.returned, hk.exact.idle⟩

def small : PoolLimits := ⟨2, 1⟩

/-- Two objects, assignments to itself, and the pool that has room for one. -/
def tour : List Op :=
  [.pop 0, .copy 0, .copyAssign 0 0, .moveAssign 1 1, .pop 0, .raw (some 0), .moveAssign 4 5,
    .swap 0 1, .reset 0, .rawAssign 1 (some 0), .destroy 1, .destroy 4, .pop 0, .convertMove 9]

theorem counting_exact_tour :
    ∃ w, run (Watched.step small) start tour = some w ∧ w.falls 0 = 1 ∧ w.falls 1 = 1 ∧
      w.heap.returned.count 0 = w.falls 0 ∧ w.heap.count 0 = w.heap.holders 0 := by
  obtain ⟨w, hrun, h0, h1⟩ : ∃ w, run (Watched.step small) start tour = some w ∧
      w.falls 0 = 1 ∧ w.falls 1 = 1 := by
    decide +kernel
  have h := counting_exact small tour w (by decide +kernel) hrun
  exact ⟨w, hrun, h0, h1, h.2.1 0, h.1 0⟩

/-- A raw pointer that is kept until the object is in the pool, and one that is taken over without
counting. -/
theorem counting_not_exact :
    (∃ w, run (Watched.step small) start [.pop 0, .reset 0, .raw (some 0)] = some w ∧
      0 ∈ w.heap.pool ∧ w.heap.holders 0 = 1) ∧
    ∃ w, run (Watched.step small) start [.pop 0, .rawWith (some 0) false] = some w ∧
      w.heap.count 0 = 1 ∧ w.heap.holders 0 = 2 := by
  constructor
  · decide +kernel
  · decide +kernel

end Watched

end ToyServer.Memory
