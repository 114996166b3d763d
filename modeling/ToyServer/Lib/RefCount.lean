import Mathlib.Tactic

/-!
# Reference counts

`tally f l` adds up what the elements of a list hold.  A `Ledger` is a table of counts with the log
of the objects released, changed by `make`, `addRef` and `free` only; it is `Balanced` against the
references there really are when each count is the number of references, and an object is released
once exactly when there are none left.
-/

namespace RefCount

/-! ## Tallies -/

section
variable {α : Type} (f : α → Nat)

def tally (l : List α) : Nat := (l.map f).sum

@[simp] theorem tally_nil : tally f [] = 0 := rfl

@[simp] theorem tally_cons (x : α) (l : List α) : tally f (x :: l) = f x + tally f l := by
  rw [tally, List.map_cons, List.sum_cons, tally]

@[simp] theorem tally_append (l l' : List α) : tally f (l ++ l') = tally f l + tally f l' := by
  rw [tally, List.map_append, List.sum_append, tally, tally]

section
variable {l : List α} {i : Nat} {x : α}

theorem tally_eraseIdx (h : l[i]? = some x) : tally f (l.eraseIdx i) + f x = tally f l := by
  obtain ⟨hi, rfl⟩ := List.getElem?_eq_some_iff.mp h
  rw [List.eraseIdx_eq_take_drop_succ, tally_append]
  conv_rhs =>
    rw [← List.take_append_drop i l, tally_append, List.drop_eq_getElem_cons hi, tally_cons]
  omega

theorem tally_set (h : l[i]? = some x) (y : α) : tally f (l.set i y) + f x = tally f l + f y := by
  obtain ⟨hi, -⟩ := List.getElem?_eq_some_iff.mp h
  have hold := tally_eraseIdx f h
  have hnew := tally_eraseIdx f (List.getElem?_set_self (a := y) hi)
  rw [List.eraseIdx_set_eq] at hnew
  omega

theorem tally_filter {p : α → Bool} (hf : ∀ a, p a = false → f a = 0) (l : List α) :
    tally f (l.filter p) = tally f l := by
  induction l with
  | nil => rfl
  | cons a l ih =>
    cases hp : p a with
    | true => rw [List.filter_cons_of_pos hp, tally_cons, tally_cons, ih]
    | false => rw [List.filter_cons_of_neg (by simp [hp]), tally_cons, ih, hf a hp, Nat.zero_add]

theorem tally_eq_zero {l : List α} (h : ∀ a ∈ l, f a = 0) : tally f l = 0 := by
  induction l with
  | nil => rfl
  | cons a l ih =>
    rw [tally_cons, h a List.mem_cons_self, ih fun b hb => h b (List.mem_cons_of_mem _ hb)]

theorem tally_mono {f g : α → Nat} (h : ∀ a, f a ≤ g a) (l : List α) : tally f l ≤ tally g l :=
  List.sum_le_sum fun a _ => h a

theorem le_tally (h : l[i]? = some x) : f x ≤ tally f l := by
  have := tally_eraseIdx f h
  omega

theorem tally_lt_length (hf : ∀ a, f a ≤ 1) (h : l[i]? = some x) (hx : f x = 0) :
    tally f l < l.length := by
  have hlt := List.sum_lt_sum f (fun _ => 1) (fun a _ => hf a) ⟨x, List.mem_of_getElem? h, by omega⟩
  simpa [tally] using hlt

end

theorem eq_of_tally_le_one {l : List α} {i j : Nat} {x y : α} (hi : l[i]? = some x)
    (hj : l[j]? = some y) (hx : 1 ≤ f x) (hy : 1 ≤ f y) (h : tally f l ≤ 1) : i = j := by
  induction l generalizing i j with
  | nil => cases hi
  | cons z l ih =>
    rw [tally_cons] at h
    cases i with
    | zero =>
      cases j with
      | zero => rfl
      | succ j =>
        rw [List.getElem?_cons_zero, Option.some.injEq] at hi
        have := le_tally f (List.getElem?_cons_succ ▸ hj)
        subst hi
        omega
    | succ i =>
      cases j with
      | zero =>
        rw [List.getElem?_cons_zero, Option.some.injEq] at hj
        have := le_tally f (List.getElem?_cons_succ ▸ hi)
        subst hj
        omega
      | succ j =>
        rw [List.getElem?_cons_succ] at hi hj
        rw [ih hi hj (by omega)]

theorem one_le_tally {l : List α} {a : α} (h : a ∈ l) (hf : f a = 1) : 1 ≤ tally f l := by
  obtain ⟨i, hi⟩ := List.mem_iff_getElem?.mp h
  exact hf ▸ le_tally f hi

end

/-! ## Ledgers -/

variable {μ : Type} [DecidableEq μ]

structure Ledger (μ : Type) where
  count : μ → Int
  made : List μ
  released : List μ

def single (m x : μ) : Nat := if x = m then 1 else 0

namespace Ledger

def empty : Ledger μ := ⟨fun _ => 0, [], []⟩

variable (L : Ledger μ) (m : μ)

def make : Ledger μ := { L with count := Function.update L.count m 1, made := m :: L.made }

def addRef : Ledger μ := { L with count := Function.update L.count m (L.count m + 1) }

/-- One reference less; the last one releases the object. -/
def free : Ledger μ :=
  { L with
    count := Function.update L.count m (L.count m - 1)
    released := if L.count m = 1 then L.released ++ [m] else L.released }

end Ledger

/-- The counts are those of the references, and objects are released exactly when there are none
left. -/
structure Balanced (L : Ledger μ) (refs : μ → Nat) : Prop where
  count : ∀ m, L.count m = refs m
  once : ∀ m ∈ L.made, L.released.count m = if refs m = 0 then 1 else 0
  fresh : ∀ m, m ∉ L.made → refs m = 0 ∧ L.released.count m = 0

variable {L : Ledger μ} {refs refs' : μ → Nat} {m : μ}

theorem balanced_empty (h : ∀ m, refs m = 0) : Balanced (Ledger.empty : Ledger μ) refs where
  count x := by rw [h x]; rfl
  once _ hx := absurd hx List.not_mem_nil
  fresh x _ := ⟨h x, rfl⟩

theorem Balanced.congr (h : Balanced L refs) (heq : ∀ x, refs' x = refs x) : Balanced L refs' := by
  rwa [funext heq]

theorem Balanced.made (h : Balanced L refs) (hpos : 0 < refs m) : m ∈ L.made := by
  by_contra hm
  have := (h.fresh m hm).1
  omega

theorem Balanced.addRef (h : Balanced L refs) (hpos : 0 < refs m)
    (heq : ∀ x, refs' x = refs x + single m x) : Balanced (L.addRef m) refs' := by
  refine ⟨fun x => ?_, fun x hx => ?_, fun x hx => ?_⟩
  · have hc := h.count x
    simp only [Ledger.addRef, Function.update_apply, heq, single]
    split
    · next hxm =>
      subst hxm
      push_cast
      omega
    · simpa using hc
  · have hone := h.once x hx
    rw [heq, single]
    split
    · next hxm =>
      subst hxm
      rw [if_neg (by omega)] at hone
      rw [if_neg (by omega)]
      exact hone
    · exact hone
  · have hx' := h.fresh x hx
    have hne : x ≠ m := by
      rintro rfl
      exact hx (h.made hpos)
    rw [heq, single, if_neg hne]
    exact hx'

theorem Balanced.free (h : Balanced L refs) (heq : ∀ x, refs x = refs' x + single m x) :
    Balanced (L.free m) refs' := by
  have hpos : 0 < refs m := by
    rw [heq, single, if_pos rfl]
    omega
  have hcm := h.count m
  have hm := heq m
  rw [single, if_pos rfl] at hm
  refine ⟨fun x => ?_, fun x hx => ?_, fun x hx => ?_⟩
  · have hc := h.count x
    have hx := heq x
    simp only [Ledger.free, Function.update_apply]
    split
    · next hxm =>
      subst hxm
      omega
    · next hne =>
      rw [single, if_neg hne] at hx
      rw [hc, hx]
      rfl
  · have hone := h.once x hx
    by_cases hxm : x = m
    · subst hxm
      rw [if_neg (by omega)] at hone
      simp only [Ledger.free]
      by_cases hlast : L.count x = 1
      · rw [if_pos hlast, List.count_append, hone, List.count_singleton_self, if_pos (by omega)]
      · rw [if_neg hlast, hone, if_neg (by omega)]
    · have hx' := heq x
      rw [single, if_neg hxm] at hx'
      simp only [Ledger.free]
      split
      · rw [List.count_append, List.count_singleton, if_neg (by simpa using fun h => hxm h.symm),
          hone, hx']
        rfl
      · rw [hone, hx']
        rfl
  · have hne : x ≠ m := by
      rintro rfl
      exact hx (h.made hpos)
    have hfresh := h.fresh x hx
    have hx' := heq x
    rw [single, if_neg hne] at hx'
    refine ⟨by omega, ?_⟩
    simp only [Ledger.free]
    split
    · rw [List.count_append, List.count_singleton, if_neg (by simpa using fun h => hne h.symm),
        hfresh.2]
    · exact hfresh.2

theorem Balanced.make (h : Balanced L refs) (hm : m ∉ L.made)
    (heq : ∀ x, refs' x = refs x + single m x) : Balanced (L.make m) refs' := by
  have hfresh := h.fresh m hm
  refine ⟨fun x => ?_, fun x hx => ?_, fun x hx => ?_⟩
  · have hc := h.count x
    simp only [Ledger.make, Function.update_apply, heq, single]
    split
    · next hxm =>
      subst hxm
      rw [hfresh.1]
      rfl
    · simpa using hc
  · rw [heq, single]
    by_cases hxm : x = m
    · subst hxm
      rw [if_pos rfl, if_neg (by omega)]
      exact hfresh.2
    · rw [if_neg hxm]
      exact h.once x ((List.mem_cons.mp hx).resolve_left hxm)
  · have hne : x ≠ m := fun hxm => hx (hxm ▸ List.mem_cons_self)
    rw [heq, single, if_neg hne]
    exact h.fresh x fun hmem => hx (List.mem_cons_of_mem _ hmem)

end RefCount
