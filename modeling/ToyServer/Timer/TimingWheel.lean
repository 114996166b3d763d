import ToyServer.Lib.Radix

/-!
# `TimingWheel`: the five-level wheel of `System/Timer/TimingWheel.h`

The wheel holds shared pointers; a node is read and changed through them by the
wheel and by `TimerImpl` alike, so the model keeps the nodes apart
(`nodes : NodeRef → Node`) and the wheel holds references.

`Placed nodes w τ due` ties a wheel to the mathematical clock: `due r` is the
tick (a `Nat`, never wrapped) at which the node of `r` is to come out, and on
level `l` every node sits in slot `due / block % slots`, ahead of the time `τ l`.
Then (`advance_placed`, `advance_out`, `advance_holds`)

    advance nodes w (N + 1)  hands out exactly the nodes with due = N + 1,

whatever the delays and however often the 32-bit counter has wrapped.
-/

namespace ToyServer

open Radix

abbrev NodeRef := Nat

abbrev TimerId := Nat

/-- An `ITimerListener` object; a nullable pointer to one is an `Option`. -/
abbrev ListenerId := Nat

structure Node where
  id : TimerId
  logicTimerId : UInt32
  pParam : Nat
  /-- absolute tick -/
  expiryTick : UInt32
  /-- 0 if one-shot -/
  intervalTick : UInt32
  rawListener : Option ListenerId
  weakListener : Option ListenerId
  useWeak : Bool
  cancelled : Bool
deriving DecidableEq, Repr, Inhabited

/-- The five arrays `_tv1 … _tv5`. -/
inductive Level where
  | tv1 | tv2 | tv3 | tv4 | tv5
deriving DecidableEq, Repr

structure TimingWheel where
  currentTick : UInt32
  /-- the lists of nodes, by level and slot -/
  tv : Level → Nat → List NodeRef

/-! ## Algorithm -/

def TVR_BITS : UInt32 := 8
def TVN_BITS : UInt32 := 6
def TVR_SIZE : UInt32 := 1 <<< TVR_BITS
def TVR_MASK : UInt32 := TVR_SIZE - 1
def TVN_MASK : UInt32 := (1 <<< TVN_BITS) - 1

/-- Bits of the tick below the level's slot number. -/
def Level.shift : Level → UInt32
  | .tv1 => 0
  | .tv2 => TVR_BITS
  | .tv3 => TVR_BITS + TVN_BITS
  | .tv4 => TVR_BITS + 2 * TVN_BITS
  | .tv5 => TVR_BITS + 3 * TVN_BITS

def Level.mask : Level → UInt32
  | .tv1 => TVR_MASK
  | _ => TVN_MASK

/-- `(tick >> shift) & mask`. -/
def Level.index (l : Level) (tick : UInt32) : Nat := ((tick >>> l.shift) &&& l.mask).toNat

namespace TimingWheel

def empty : TimingWheel := ⟨0, fun _ _ => []⟩

def setSlot (w : TimingWheel) (l : Level) (i : Nat) (xs : List NodeRef) : TimingWheel :=
  { w with tv := fun l' i' => if l' = l ∧ i' = i then xs else w.tv l' i' }

def pushBack (w : TimingWheel) (l : Level) (i : Nat) (r : NodeRef) : TimingWheel :=
  w.setSlot l i (w.tv l i ++ [r])

def add (nodes : NodeRef → Node) (w : TimingWheel) (r : NodeRef) : TimingWheel :=
  let expires := (nodes r).expiryTick
  let idx := expires - w.currentTick
  if idx < TVR_SIZE then w.pushBack .tv1 (Level.tv1.index expires) r
  else if idx < 1 <<< (TVR_BITS + TVN_BITS) then w.pushBack .tv2 (Level.tv2.index expires) r
  else if idx < 1 <<< (TVR_BITS + 2 * TVN_BITS) then w.pushBack .tv3 (Level.tv3.index expires) r
  else if idx < 1 <<< (TVR_BITS + 3 * TVN_BITS) then w.pushBack .tv4 (Level.tv4.index expires) r
  -- `(int64_t)idx < 0`: the cast zero-extends, so this branch is dead
  else if (idx.toNat : Int) < 0 then w.pushBack .tv1 (Level.tv1.index (w.currentTick + 1)) r
  else w.pushBack .tv5 (Level.tv5.index expires) r

/-- The loop of `Cascade`: `Add(*it); it = list.erase(it)` on the front node.
The C++ loop ends when the list is empty; `cascadeLoop_spec` shows that this is so
after as many rounds as there were nodes, the fuel `cascade` gives. -/
def cascadeLoop (nodes : NodeRef → Node) (l : Level) (i : Nat) : Nat → TimingWheel → TimingWheel
  | 0, w => w
  | fuel + 1, w =>
    match w.tv l i with
    | [] => w
    | r :: _ =>
      let w' := w.add nodes r
      cascadeLoop nodes l i fuel (w'.setSlot l i (w'.tv l i).tail)

def cascade (nodes : NodeRef → Node) (w : TimingWheel) (l : Level) (i : Nat) : TimingWheel :=
  cascadeLoop nodes l i (w.tv l i).length w

/-- The nested cascades of `Advance` (`_currentTick` is set already). -/
def cascades (nodes : NodeRef → Node) (w : TimingWheel) : TimingWheel :=
  let t := w.currentTick
  if Level.tv1.index t = 0 then
    let w := w.cascade nodes .tv2 (Level.tv2.index t)
    if Level.tv2.index t = 0 then
      let w := w.cascade nodes .tv3 (Level.tv3.index t)
      if Level.tv3.index t = 0 then
        let w := w.cascade nodes .tv4 (Level.tv4.index t)
        if Level.tv4.index t = 0 then w.cascade nodes .tv5 (Level.tv5.index t)
        else w
      else w
    else w
  else w

def advance (nodes : NodeRef → Node) (w : TimingWheel) (currentTick : UInt32) :
    TimingWheel × List NodeRef :=
  let w := cascades nodes { w with currentTick := currentTick }
  let index := Level.tv1.index currentTick
  (w.setSlot .tv1 index [], (w.tv .tv1 index).filter fun r => !(nodes r).cancelled)

end TimingWheel

/-! ## A level as blocks of ticks -/

/-- Ticks covered by one slot. -/
def Level.block : Level → Nat
  | .tv1 => 1
  | .tv2 => 256
  | .tv3 => 16384
  | .tv4 => 1048576
  | .tv5 => 67108864

def Level.slots : Level → Nat
  | .tv1 => 256
  | _ => 64

section
variable (l : Level)

/-- The slot of a due tick. -/
def Level.slot (due : Nat) : Nat := due / l.block % l.slots

theorem Level.index_eq (t : UInt32) : l.index t = l.slot t.toNat := by
  have h255 : ∀ n : Nat, n &&& 255 = n % 256 := fun n => Nat.and_two_pow_sub_one_eq_mod n 8
  have h63 : ∀ n : Nat, n &&& 63 = n % 64 := fun n => Nat.and_two_pow_sub_one_eq_mod n 6
  have m1 : TVR_MASK.toNat = 255 := by decide
  have m2 : TVN_MASK.toNat = 63 := by decide
  cases l <;> simp [Level.index, Level.slot, Level.shift, Level.mask, Level.block, Level.slots,
    TVR_BITS, TVN_BITS, UInt32.toNat_and, UInt32.toNat_shiftRight, Nat.shiftRight_eq_div_pow,
    m1, m2, h255, h63]

theorem Level.block_pos : 0 < l.block := by cases l <;> decide

theorem Level.slots_pos : 0 < l.slots := by cases l <;> decide

theorem Level.turn_dvd : l.block * l.slots ∣ 2 ^ 32 := by
  cases l <;> decide

theorem Level.slot_mod (due : Nat) : l.slot (due % 2 ^ 32) = l.slot due :=
  mod_div_mod l.turn_dvd

end

/-- The level `Add` chooses for a node at distance `d`. -/
def levelAt (d : Nat) : Level :=
  if d < 256 then .tv1
  else if d < 16384 then .tv2
  else if d < 1048576 then .tv3
  else if d < 67108864 then .tv4
  else .tv5

theorem levelAt_block_le {d : Nat} (h : levelAt d ≠ .tv1) : (levelAt d).block ≤ d := by
  unfold levelAt at *
  split_ifs at * <;> simp_all [Level.block]

theorem levelAt_lt_turn {d : Nat} (h : d < 2 ^ 32) : d < (levelAt d).block * (levelAt d).slots := by
  unfold levelAt
  split_ifs <;> simp_all [Level.block, Level.slots]

variable {l : Level} {r : NodeRef}

theorem levelAt_block_lt {d : Nat} (hl : l ≠ .tv1) (h : d < l.block) :
    (levelAt d).block < l.block := by
  cases l <;>
    simp only [Level.block, ne_eq, reduceCtorEq, not_false_eq_true, not_true_eq_false] at * <;>
    unfold levelAt <;> split_ifs <;> first | omega | decide

theorem toNat_sub_of_wrap {a b : UInt32} {N due : Nat} (ha : a.toNat = due % 2 ^ 32)
    (hb : b.toNat = N % 2 ^ 32) (h1 : N ≤ due) (h2 : due < N + 2 ^ 32) :
    (a - b).toNat = due - N := by
  rw [UInt32.toNat_sub, ha, hb]
  omega

namespace TimingWheel

variable (w : TimingWheel)

@[simp] theorem setSlot_self (l : Level) (i : Nat) (xs : List NodeRef) :
    (w.setSlot l i xs).tv l i = xs := by
  simp [setSlot]

theorem setSlot_of_ne {l' : Level} {i i' : Nat} (xs : List NodeRef)
    (h : ¬ (l' = l ∧ i' = i)) : (w.setSlot l i xs).tv l' i' = w.tv l' i' := by
  simp [setSlot, h]

@[simp] theorem pushBack_currentTick (l : Level) (i : Nat) (r : NodeRef) :
    (w.pushBack l i r).currentTick = w.currentTick := rfl

theorem mem_pushBack {w : TimingWheel} {l' : Level} {i i' : Nat} {r' : NodeRef} :
    r' ∈ (w.pushBack l i r).tv l' i' ↔ r' ∈ w.tv l' i' ∨ (r' = r ∧ l' = l ∧ i' = i) := by
  unfold pushBack
  by_cases h : l' = l ∧ i' = i
  · obtain ⟨rfl, rfl⟩ := h
    simp
  · rw [setSlot_of_ne _ _ h]
    simp [h]

theorem pushBack_setSlot_comm {l' : Level} (i i' : Nat) (r : NodeRef) (xs : List NodeRef)
    (h : l' ≠ l) : (w.pushBack l' i' r).setSlot l i xs = (w.setSlot l i xs).pushBack l' i' r := by
  have h' : ¬ (l' = l ∧ i' = i) := fun e => h e.1
  simp only [pushBack, setSlot, mk.injEq, true_and]
  funext l₁ i₁
  by_cases e1 : l₁ = l ∧ i₁ = i
  · have e2 : ¬ (l₁ = l' ∧ i₁ = i') := fun e => h (e.1.symm.trans e1.1)
    rw [if_pos e1, if_neg e2, if_pos e1]
  · rw [if_neg e1, if_neg e1, if_neg h']

/-- **`Add` by distance.**  With the tick `N` and the due tick given modulo `2^32`. -/
theorem add_eq {nodes : NodeRef → Node} {w : TimingWheel} {N due : Nat}
    (hw : w.currentTick.toNat = N % 2 ^ 32) (he : (nodes r).expiryTick.toNat = due % 2 ^ 32)
    (h1 : N ≤ due) (h2 : due < N + 2 ^ 32) :
    w.add nodes r = w.pushBack (levelAt (due - N)) ((levelAt (due - N)).slot due) r := by
  have hd := toNat_sub_of_wrap he hw h1 h2
  have hslot : ∀ l : Level, l.index (nodes r).expiryTick = l.slot due := by
    intro l
    rw [Level.index_eq, he, Level.slot_mod]
  have c1 : (TVR_SIZE).toNat = 256 := by decide
  have c2 : (1 <<< (TVR_BITS + TVN_BITS) : UInt32).toNat = 16384 := by decide
  have c3 : (1 <<< (TVR_BITS + 2 * TVN_BITS) : UInt32).toNat = 1048576 := by decide
  have c4 : (1 <<< (TVR_BITS + 3 * TVN_BITS) : UInt32).toNat = 67108864 := by decide
  unfold add levelAt
  simp only [UInt32.lt_iff_toNat_lt, hd, c1, c2, c3, c4, hslot]
  have hneg : ¬ (((due - N : Nat) : Int) < 0) := by omega
  split_ifs <;> rfl

def Holds (w : TimingWheel) (r : NodeRef) : Prop := ∃ l i, r ∈ w.tv l i

end TimingWheel

/-- Every node sits in the slot of its due tick and ahead of its level's time, once. -/
structure Placed (nodes : NodeRef → Node) (w : TimingWheel) (τ : Level → Nat)
    (due : NodeRef → Nat) : Prop where
  expiry : ∀ l i r, r ∈ w.tv l i → (nodes r).expiryTick.toNat = due r % 2 ^ 32
  slot : ∀ l i r, r ∈ w.tv l i → i = l.slot (due r)
  ahead : ∀ l i r, r ∈ w.tv l i → Ahead l.block l.slots (τ l) (due r)
  nodup : ∀ l i, (w.tv l i).Nodup
  once : ∀ l i l' i' r, r ∈ w.tv l i → r ∈ w.tv l' i' → l = l'

section Placement

open TimingWheel

variable {nodes : NodeRef → Node} {w w' : TimingWheel} {τ τ' : Level → Nat} {due : NodeRef → Nat}

theorem Placed.retime (h : Placed nodes w τ due)
    (ht : ∀ l d, Ahead l.block l.slots (τ l) d → Ahead l.block l.slots (τ' l) d) :
    Placed nodes w τ' due :=
  { h with ahead := fun l i r hr => ht l _ (h.ahead l i r hr) }

theorem Placed.sublist (h : Placed nodes w τ due)
    (hs : ∀ l i, (w'.tv l i).Sublist (w.tv l i)) : Placed nodes w' τ due where
  expiry l i r hr := h.expiry l i r ((hs l i).subset hr)
  slot l i r hr := h.slot l i r ((hs l i).subset hr)
  ahead l i r hr := h.ahead l i r ((hs l i).subset hr)
  nodup l i := (hs l i).nodup (h.nodup l i)
  once l i l' i' r hr hr' := h.once l i l' i' r ((hs l i).subset hr) ((hs l' i').subset hr')

theorem Placed.pushBack (h : Placed nodes w τ due) (hr : ¬ w.Holds r)
    (he : (nodes r).expiryTick.toNat = due r % 2 ^ 32) (ha : Ahead l.block l.slots (τ l) (due r)) :
    Placed nodes (w.pushBack l (l.slot (due r)) r) τ due where
  expiry l' i' r' hm := by
    rcases mem_pushBack.mp hm with hm | ⟨rfl, -, -⟩
    · exact h.expiry l' i' r' hm
    · exact he
  slot l' i' r' hm := by
    rcases mem_pushBack.mp hm with hm | ⟨rfl, rfl, rfl⟩
    · exact h.slot l' i' r' hm
    · rfl
  ahead l' i' r' hm := by
    rcases mem_pushBack.mp hm with hm | ⟨rfl, rfl, -⟩
    · exact h.ahead l' i' r' hm
    · exact ha
  nodup l' i' := by
    unfold TimingWheel.pushBack
    by_cases hl : l' = l ∧ i' = l.slot (due r)
    · obtain ⟨rfl, rfl⟩ := hl
      rw [setSlot_self]
      exact List.nodup_append.mpr ⟨h.nodup _ _, by simp, fun a ha b hb => by
        rw [List.mem_singleton] at hb
        rintro rfl
        exact hr ⟨_, _, hb ▸ ha⟩⟩
    · rw [setSlot_of_ne _ _ hl]
      exact h.nodup l' i'
  once l₁ i₁ l₂ i₂ r' h₁ h₂ := by
    rcases mem_pushBack.mp h₁ with h₁ | ⟨rfl, rfl, -⟩ <;>
      rcases mem_pushBack.mp h₂ with h₂ | ⟨h₂, h₃, -⟩
    · exact h.once l₁ i₁ l₂ i₂ r' h₁ h₂
    · exact absurd ⟨_, _, h₂ ▸ h₁⟩ hr
    · exact absurd ⟨_, _, h₂⟩ hr
    · exact h₃.symm

theorem holds_pushBack {i : Nat} {r' : NodeRef} :
    (w.pushBack l i r).Holds r' ↔ w.Holds r' ∨ r' = r := by
  constructor
  · rintro ⟨l', i', hm⟩
    rcases mem_pushBack.mp hm with hm | ⟨rfl, -, -⟩
    · exact .inl ⟨l', i', hm⟩
    · exact .inr rfl
  · rintro (⟨l', i', hm⟩ | rfl)
    · exact ⟨l', i', mem_pushBack.mpr (.inl hm)⟩
    · exact ⟨l, i, mem_pushBack.mpr (.inr ⟨rfl, rfl, rfl⟩)⟩

theorem add_placed {N : Nat} (h : Placed nodes w (fun _ => N) due)
    (hw : w.currentTick.toNat = N % 2 ^ 32) (hr : ¬ w.Holds r)
    (he : (nodes r).expiryTick.toNat = due r % 2 ^ 32) (h1 : N < due r) (h2 : due r < N + 2 ^ 32) :
    Placed nodes (w.add nodes r) (fun _ => N) due := by
  rw [add_eq hw he h1.le h2]
  apply h.pushBack hr he
  have hturn := levelAt_lt_turn (d := due r - N) (by omega)
  by_cases hl : levelAt (due r - N) = .tv1
  · rw [hl] at hturn ⊢
    simp only [Level.block, Level.slots, Ahead, Nat.div_one] at hturn ⊢
    omega
  · exact ahead_of_dist (Level.block_pos _) (by have := levelAt_block_le hl; omega) (by omega)

theorem holds_add {N : Nat} {r' : NodeRef} {d : Nat} (hw : w.currentTick.toNat = N % 2 ^ 32)
    (he : (nodes r).expiryTick.toNat = d % 2 ^ 32) (h1 : N ≤ d) (h2 : d < N + 2 ^ 32) :
    (w.add nodes r).Holds r' ↔ w.Holds r' ∨ r' = r := by
  rw [add_eq hw he h1 h2, holds_pushBack]

/-! ## Cascades -/

/-- What a cascade of level `l` at the start of tick `N + 1` relies on: a block of
`l` starts there, `l` and `_tv1` are as the last tick left them, and the levels
between were cascaded before. -/
structure Cascading (l : Level) (N : Nat) (τ : Level → Nat) : Prop where
  upper : l ≠ .tv1
  starts : l.block ∣ N + 1
  self : τ l = N
  first : τ .tv1 = N
  between : ∀ l', l' ≠ .tv1 → l'.block < l.block → τ l' = N + 1

section
variable {N : Nat}

/-- Due ticks of the slot a cascade empties: inside the block that starts. -/
theorem Cascading.due_window (c : Cascading l N τ) (h : Placed nodes w τ due)
    (hr : r ∈ w.tv l (l.slot (N + 1))) : N + 1 ≤ due r ∧ due r < N + 1 + l.block := by
  have ha := h.ahead _ _ _ hr
  rw [c.self] at ha
  have hs := h.slot _ _ _ hr
  exact dist_of_div_eq l.block_pos c.starts (div_eq_of_slot l.slots_pos c.starts ha hs.symm)

/-- A node that leaves the cascaded slot for the level of its distance is placed there. -/
theorem Cascading.ahead {N d : Nat} (c : Cascading l N τ) (h1 : N + 1 ≤ d)
    (h2 : d < N + 1 + l.block) : levelAt (d - (N + 1)) ≠ l ∧
      Ahead (levelAt (d - (N + 1))).block (levelAt (d - (N + 1))).slots
      (τ (levelAt (d - (N + 1)))) d := by
  have hb : l.block ≤ 67108864 := by cases l <;> decide
  have hlow := levelAt_block_lt (d := d - (N + 1)) c.upper (by omega)
  have hturn := levelAt_lt_turn (d := d - (N + 1)) (by omega)
  refine ⟨fun e => by rw [e] at hlow; exact Nat.lt_irrefl _ hlow, ?_⟩
  by_cases hl : levelAt (d - (N + 1)) = .tv1
  · rw [hl] at hturn ⊢
    simp only [Level.block, Level.slots, Ahead, Nat.div_one, c.first] at hturn ⊢
    omega
  · rw [c.between _ hl hlow]
    exact ahead_of_dist (Level.block_pos _) (by have := levelAt_block_le hl; omega) (by omega)

theorem cascade_round {rest : List NodeRef} (c : Cascading l N τ) (h : Placed nodes w τ due)
    (hw : w.currentTick.toNat = (N + 1) % 2 ^ 32) (hl : w.tv l (l.slot (N + 1)) = r :: rest) :
    ∃ w', (w.add nodes r).setSlot l (l.slot (N + 1))
      ((w.add nodes r).tv l (l.slot (N + 1))).tail = w' ∧
      Placed nodes w' τ due ∧ w'.currentTick = w.currentTick ∧ w'.tv l (l.slot (N + 1)) = rest ∧
      ∀ r', w'.Holds r' ↔ w.Holds r' := by
  have hr : r ∈ w.tv l (l.slot (N + 1)) := by rw [hl]; exact List.mem_cons_self
  have hnd : r ∉ rest := by
    have := h.nodup l (l.slot (N + 1))
    rw [hl] at this
    exact (List.nodup_cons.mp this).1
  obtain ⟨h1, h2⟩ := c.due_window h hr
  obtain ⟨hne, ha⟩ := c.ahead h1 h2
  have hb : l.block ≤ 67108864 := by cases l <;> decide
  have he := h.expiry _ _ _ hr
  -- erasing the front first and adding afterwards gives the same wheel
  let w₀ := w.setSlot l (l.slot (N + 1)) rest
  let l' := levelAt (due r - (N + 1))
  have hslot : (w.add nodes r).tv l (l.slot (N + 1)) = r :: rest := by
    rw [add_eq hw he h1 (by omega)]
    unfold TimingWheel.pushBack
    rw [setSlot_of_ne _ _ (fun e => hne e.1.symm), hl]
  have hcomm : (w.add nodes r).setSlot l (l.slot (N + 1)) rest =
      w₀.pushBack l' (l'.slot (due r)) r := by
    rw [add_eq hw he h1 (by omega)]
    exact pushBack_setSlot_comm w _ _ r rest hne
  have hsub : ∀ l₁ i₁, (w₀.tv l₁ i₁).Sublist (w.tv l₁ i₁) := by
    intro l₁ i₁
    by_cases e : l₁ = l ∧ i₁ = l.slot (N + 1)
    · obtain ⟨rfl, rfl⟩ := e
      rw [hl]
      simp only [w₀, setSlot_self]
      exact List.sublist_cons_self r rest
    · simp only [w₀]
      rw [setSlot_of_ne _ _ e]
  have hnot : ¬ w₀.Holds r := by
    rintro ⟨l₁, i₁, hm⟩
    have hm' := (hsub l₁ i₁).subset hm
    obtain rfl := h.once _ _ _ _ _ hm' hr
    have hi : i₁ = l₁.slot (N + 1) := (h.slot _ _ _ hm').trans (h.slot _ _ _ hr).symm
    rw [hi] at hm
    simp only [w₀, setSlot_self] at hm
    exact hnd hm
  refine ⟨_, rfl, ?_⟩
  rw [hslot, List.tail_cons, hcomm]
  refine ⟨(h.sublist hsub).pushBack hnot he ha, rfl, ?_, ?_⟩
  · unfold TimingWheel.pushBack
    rw [setSlot_of_ne _ _ (fun e => hne e.1.symm)]
    exact setSlot_self _ _ _ _
  · intro r'
    rw [holds_pushBack]
    constructor
    · rintro (⟨l₁, i₁, hm⟩ | rfl)
      · exact ⟨l₁, i₁, (hsub l₁ i₁).subset hm⟩
      · exact ⟨_, _, hr⟩
    · rintro ⟨l₁, i₁, hm⟩
      by_cases e : l₁ = l ∧ i₁ = l.slot (N + 1)
      · rw [e.1, e.2, hl] at hm
        rcases List.mem_cons.mp hm with rfl | hm
        · exact .inr rfl
        · exact .inl ⟨l, l.slot (N + 1), by simpa only [w₀, setSlot_self] using hm⟩
      · exact .inl ⟨l₁, i₁, by simp only [w₀]; rwa [setSlot_of_ne _ _ e]⟩

theorem cascadeLoop_spec (c : Cascading l N τ) (fuel : Nat) :
    ∀ w : TimingWheel, Placed nodes w τ due → w.currentTick.toNat = (N + 1) % 2 ^ 32 →
      (w.tv l (l.slot (N + 1))).length = fuel →
      Placed nodes (cascadeLoop nodes l (l.slot (N + 1)) fuel w) τ due ∧
        (cascadeLoop nodes l (l.slot (N + 1)) fuel w).currentTick = w.currentTick ∧
        (cascadeLoop nodes l (l.slot (N + 1)) fuel w).tv l (l.slot (N + 1)) = [] ∧
        ∀ r, (cascadeLoop nodes l (l.slot (N + 1)) fuel w).Holds r ↔ w.Holds r := by
  induction fuel with
  | zero =>
    intro w h _ hlen
    exact ⟨h, rfl, List.length_eq_zero_iff.mp hlen, fun _ => Iff.rfl⟩
  | succ fuel ih =>
    intro w h hw hlen
    cases hl : w.tv l (l.slot (N + 1)) with
    | nil => rw [hl] at hlen; cases hlen
    | cons r rest =>
      obtain ⟨w', he, h', hw', hl', hh'⟩ := cascade_round c h hw hl
      simp only [cascadeLoop, hl, he]
      rw [hl, List.length_cons, Nat.add_right_cancel_iff] at hlen
      obtain ⟨i1, i2, i3, i4⟩ := ih w' h' (by rw [hw']; exact hw) (by rw [hl']; exact hlen)
      exact ⟨i1, i2.trans hw', i3, fun r' => (i4 r').trans (hh' r')⟩

/-- **`Cascade`.**  The slot is empty afterwards, no node is lost, and the level
is placed for the new tick. -/
theorem cascade_spec (c : Cascading l N τ) (h : Placed nodes w τ due)
    (hw : w.currentTick.toNat = (N + 1) % 2 ^ 32) :
    Placed nodes (w.cascade nodes l (l.slot (N + 1))) (Function.update τ l (N + 1)) due ∧
      (w.cascade nodes l (l.slot (N + 1))).currentTick = w.currentTick ∧
      ∀ r, (w.cascade nodes l (l.slot (N + 1))).Holds r ↔ w.Holds r := by
  obtain ⟨h1, h2, h3, h4⟩ := cascadeLoop_spec c _ w h hw rfl
  refine ⟨{ h1 with ahead := ?_ }, h2, h4⟩
  intro l' i r hr
  have ha := h1.ahead l' i r hr
  by_cases e : l' = l
  · subst e
    rw [Function.update_self]
    rw [c.self] at ha
    refine ahead_succ_of_slot_ne c.starts ha (fun hs => ?_)
    have hi : i = l'.slot (N + 1) := (h1.slot _ _ _ hr).trans hs
    rw [hi] at hr
    exact absurd (h3 ▸ hr) (List.not_mem_nil)
  · rw [Function.update_of_ne e]
    exact ha

theorem tv1_slot_eq_zero {n : Nat} : Level.tv1.slot n = 0 ↔ Level.tv2.block ∣ n := by
  simp only [Level.slot, Level.block, Level.slots]
  omega

theorem tv2_slot_eq_zero {n : Nat} (h : Level.tv2.block ∣ n) :
    Level.tv2.slot n = 0 ↔ Level.tv3.block ∣ n := by
  simp only [Level.slot, Level.block, Level.slots] at *
  omega

theorem tv3_slot_eq_zero {n : Nat} (h : Level.tv3.block ∣ n) :
    Level.tv3.slot n = 0 ↔ Level.tv4.block ∣ n := by
  simp only [Level.slot, Level.block, Level.slots] at *
  omega

theorem tv4_slot_eq_zero {n : Nat} (h : Level.tv4.block ∣ n) :
    Level.tv4.slot n = 0 ↔ Level.tv5.block ∣ n := by
  simp only [Level.slot, Level.block, Level.slots] at *
  omega

/-- The times of the levels once the cascades of tick `N + 1` are done. -/
def cascaded (N : Nat) : Level → Nat
  | .tv1 => N
  | _ => N + 1

theorem Placed.cascaded (h : Placed nodes w τ due) (h1 : τ .tv1 = N)
    (h2 : ∀ l, l ≠ .tv1 → τ l = N + 1 ∨ (τ l = N ∧ ¬ l.block ∣ N + 1)) :
    Placed nodes w (cascaded N) due := by
  apply h.retime
  intro l d ha
  by_cases hl : l = .tv1
  · subst hl
    rwa [h1] at ha
  · have hc : ToyServer.cascaded N l = N + 1 := by cases l <;> simp_all [ToyServer.cascaded]
    rw [hc]
    rcases h2 l hl with e | ⟨e, hd⟩
    · rwa [e] at ha
    · rw [e] at ha
      exact ahead_succ_of_not_dvd hd ha

theorem cascades_spec (h : Placed nodes w (fun _ => N) due)
    (hw : w.currentTick.toNat = (N + 1) % 2 ^ 32) :
    Placed nodes (cascades nodes w) (cascaded N) due ∧
      (cascades nodes w).currentTick = w.currentTick ∧
      ∀ r, (cascades nodes w).Holds r ↔ w.Holds r := by
  have hidx : ∀ l : Level, l.index w.currentTick = l.slot (N + 1) := by
    intro l
    rw [Level.index_eq, hw, Level.slot_mod]
  unfold cascades
  simp only [hidx]
  have d23 : Level.tv2.block ∣ Level.tv3.block := by decide
  have d34 : Level.tv3.block ∣ Level.tv4.block := by decide
  have d45 : Level.tv4.block ∣ Level.tv5.block := by decide
  -- one level after the other; where a block does not start, neither do the larger ones
  by_cases b2 : Level.tv2.block ∣ N + 1
  case neg =>
    rw [if_neg (mt tv1_slot_eq_zero.mp b2)]
    refine ⟨h.cascaded rfl (fun l hl => Or.inr ⟨rfl, ?_⟩), rfl, fun _ => Iff.rfl⟩
    cases l with
    | tv1 => exact absurd rfl hl
    | tv2 => exact b2
    | tv3 => exact fun b3 => b2 (d23.trans b3)
    | tv4 => exact fun b4 => b2 (d23.trans (d34.trans b4))
    | tv5 => exact fun b5 => b2 (d23.trans (d34.trans (d45.trans b5)))
  rw [if_pos (tv1_slot_eq_zero.mpr b2)]
  obtain ⟨p2, t2, s2⟩ := cascade_spec (l := .tv2) ⟨by decide, b2, rfl, rfl, fun l' h1 h2 => by
    cases l' <;> simp [Level.block] at h1 h2⟩ h hw
  by_cases b3 : Level.tv3.block ∣ N + 1
  case neg =>
    rw [if_neg (mt (tv2_slot_eq_zero b2).mp b3)]
    refine ⟨p2.cascaded (by simp) (fun l hl => ?_), t2, s2⟩
    cases l with
    | tv1 => exact absurd rfl hl
    | tv2 => exact .inl (by simp)
    | tv3 => exact .inr ⟨by simp, b3⟩
    | tv4 => exact .inr ⟨by simp, fun b4 => b3 (d34.trans b4)⟩
    | tv5 => exact .inr ⟨by simp, fun b5 => b3 (d34.trans (d45.trans b5))⟩
  rw [if_pos ((tv2_slot_eq_zero b2).mpr b3)]
  obtain ⟨p3, t3, s3⟩ :=
    cascade_spec (l := .tv3) ⟨by decide, b3, by simp, by simp,
      fun l' h1 h2 => by cases l' <;> simp [Level.block] at h1 h2 ⊢⟩ p2 (by rw [t2]; exact hw)
  by_cases b4 : Level.tv4.block ∣ N + 1
  case neg =>
    rw [if_neg (mt (tv3_slot_eq_zero b3).mp b4)]
    refine ⟨p3.cascaded (by simp) (fun l hl => ?_), t3.trans t2, fun r => (s3 r).trans (s2 r)⟩
    cases l with
    | tv1 => exact absurd rfl hl
    | tv2 => exact .inl (by simp)
    | tv3 => exact .inl (by simp)
    | tv4 => exact .inr ⟨by simp, b4⟩
    | tv5 => exact .inr ⟨by simp, fun b5 => b4 (d45.trans b5)⟩
  rw [if_pos ((tv3_slot_eq_zero b3).mpr b4)]
  obtain ⟨p4, t4, s4⟩ :=
    cascade_spec (l := .tv4) ⟨by decide, b4, by simp, by simp,
      fun l' h1 h2 => by cases l' <;> simp [Level.block] at h1 h2 ⊢⟩ p3 (by rw [t3, t2]; exact hw)
  by_cases b5 : Level.tv5.block ∣ N + 1
  case neg =>
    rw [if_neg (mt (tv4_slot_eq_zero b4).mp b5)]
    refine ⟨p4.cascaded (by simp) (fun l hl => ?_), t4.trans (t3.trans t2),
      fun r => (s4 r).trans ((s3 r).trans (s2 r))⟩
    cases l with
    | tv1 => exact absurd rfl hl
    | tv5 => exact .inr ⟨by simp, b5⟩
    | _ => exact .inl (by simp)
  rw [if_pos ((tv4_slot_eq_zero b4).mpr b5)]
  obtain ⟨p5, t5, s5⟩ :=
    cascade_spec (l := .tv5) ⟨by decide, b5, by simp, by simp,
      fun l' h1 h2 => by cases l' <;> simp [Level.block] at h1 h2 ⊢⟩ p4
      (by rw [t4, t3, t2]; exact hw)
  refine ⟨p5.cascaded (by simp) (fun l hl => ?_), t5.trans (t4.trans (t3.trans t2)),
    fun r => (s5 r).trans ((s4 r).trans ((s3 r).trans (s2 r)))⟩
  cases l with
  | tv1 => exact absurd rfl hl
  | _ => exact .inl (by simp)

/-! ## `Advance` -/

/-- After the cascades the current slot of `_tv1` holds exactly the nodes that are due. -/
theorem mem_current_slot (h : Placed nodes w (cascaded N) due) :
    r ∈ w.tv .tv1 (Level.tv1.slot (N + 1)) ↔ w.Holds r ∧ due r = N + 1 := by
  have hone : ∀ n : Nat, Level.tv1.block ∣ n := fun n => Nat.one_dvd n
  constructor
  · intro hr
    refine ⟨⟨_, _, hr⟩, ?_⟩
    have := div_eq_of_slot Level.tv1.slots_pos (hone _) (h.ahead _ _ _ hr) (h.slot _ _ _ hr).symm
    simpa only [Level.block, Nat.div_one, cascaded] using this
  · rintro ⟨⟨l, i, hr⟩, hd⟩
    have ha := (h.ahead _ _ _ hr).lt
    have hl : l = .tv1 := by
      cases l with
      | tv1 => rfl
      | _ => exact absurd hd (Nat.ne_of_gt ha)
    subst hl
    have hi := h.slot _ _ _ hr
    rw [hd] at hi
    exact hi ▸ hr

end

section Advance

variable {N : Nat} {tick : UInt32} (h : Placed nodes w (fun _ => N) due)
  (ht : tick.toNat = (N + 1) % 2 ^ 32)

include h ht

theorem advance_cascaded :
    Placed nodes (cascades nodes { w with currentTick := tick }) (cascaded N) due ∧
    (cascades nodes { w with currentTick := tick }).currentTick = tick ∧
    (∀ r, (cascades nodes { w with currentTick := tick }).Holds r ↔ w.Holds r) ∧
    Level.tv1.index tick = Level.tv1.slot (N + 1) := by
  have h0 : Placed nodes { w with currentTick := tick } (fun _ => N) due :=
    ⟨h.expiry, h.slot, h.ahead, h.nodup, h.once⟩
  obtain ⟨c1, c2, c3⟩ := cascades_spec h0 ht
  refine ⟨c1, c2, c3, ?_⟩
  rw [Level.index_eq, ht, Level.slot_mod]

/-- **`Advance` hands out what is due**, cancelled nodes apart, each once. -/
theorem advance_out :
    (w.advance nodes tick).2.Nodup ∧
      ∀ r, r ∈ (w.advance nodes tick).2 ↔ w.Holds r ∧ due r = N + 1 ∧
      (nodes r).cancelled = false := by
  obtain ⟨c1, c2, c3, hidx⟩ := advance_cascaded h ht
  simp only [advance, hidx]
  refine ⟨(c1.nodup _ _).filter _, fun r => ?_⟩
  rw [List.mem_filter, mem_current_slot c1, c3, Bool.not_eq_true', and_assoc]

theorem advance_currentTick : (w.advance nodes tick).1.currentTick = tick := by
  obtain ⟨-, c2, -, -⟩ := advance_cascaded h ht
  exact c2

theorem advance_holds (r : NodeRef) : (w.advance nodes tick).1.Holds r ↔
    w.Holds r ∧ due r ≠ N + 1 := by
  obtain ⟨c1, c2, c3, hidx⟩ := advance_cascaded h ht
  simp only [advance, hidx]
  rw [← c3]
  constructor
  · rintro ⟨l, i, hr⟩
    by_cases e : l = .tv1 ∧ i = Level.tv1.slot (N + 1)
    · rw [e.1, e.2, setSlot_self] at hr
      exact absurd hr List.not_mem_nil
    · rw [setSlot_of_ne _ _ e] at hr
      refine ⟨⟨l, i, hr⟩, fun hd => e ?_⟩
      have hcur := (mem_current_slot c1).mpr ⟨⟨l, i, hr⟩, hd⟩
      obtain rfl := c1.once _ _ _ _ _ hr hcur
      exact ⟨rfl, (c1.slot _ _ _ hr).trans (c1.slot _ _ _ hcur).symm⟩
  · rintro ⟨⟨l, i, hr⟩, hd⟩
    refine ⟨l, i, ?_⟩
    rw [setSlot_of_ne]
    · exact hr
    · rintro ⟨rfl, rfl⟩
      exact hd ((mem_current_slot c1).mp hr).2

theorem advance_placed : Placed nodes (w.advance nodes tick).1 (fun _ => N + 1) due := by
  obtain ⟨c1, c2, c3, hidx⟩ := advance_cascaded h ht
  simp only [advance, hidx]
  have hsub : ∀ l i, (((cascades nodes { w with currentTick := tick }).setSlot .tv1
      (Level.tv1.slot (N + 1)) []).tv l i).Sublist
        ((cascades nodes { w with currentTick := tick }).tv l i) := by
    intro l i
    by_cases e : l = .tv1 ∧ i = Level.tv1.slot (N + 1)
    · rw [e.1, e.2, setSlot_self]
      exact List.nil_sublist _
    · rw [setSlot_of_ne _ _ e]
  have hp := c1.sublist hsub
  refine { hp with ahead := fun l i r hr => ?_ }
  have ha := hp.ahead l i r hr
  cases l with
  | tv1 =>
    refine ahead_succ_of_slot_ne (Nat.one_dvd _) ha (fun hs => ?_)
    have hi : i = Level.tv1.slot (N + 1) := (hp.slot _ _ _ hr).trans hs
    rw [hi, setSlot_self] at hr
    exact absurd hr List.not_mem_nil
  | _ => exact ha

end Advance

end Placement

end ToyServer
