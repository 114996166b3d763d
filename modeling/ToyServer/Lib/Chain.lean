import Mathlib.Logic.Relation
import Mathlib.Tactic

/-!
# Chains of labelled changes

A state changes in small ways, `change t s s'` with a label `t` for the way.  `Reach change ok` are
the chains of changes whose labels are all `ok`.  An operation is described once, by the chain it is
made of and the labels in it; what each change keeps is then kept by the operation (`Reach.inv`),
and loops are chains of their rounds (`reach_foldl`).
-/

namespace Chain

variable {σ ρ τ α : Type} {change : τ → σ → σ → Prop} {ok ok' : τ → Prop} {s s' s'' : σ}

/-- Chains of changes with labels that are `ok`. -/
def Reach (change : τ → σ → σ → Prop) (ok : τ → Prop) : σ → σ → Prop :=
  Relation.ReflTransGen fun s s' => ∃ t, ok t ∧ change t s s'

theorem Reach.refl (s : σ) : Reach change ok s s := Relation.ReflTransGen.refl

theorem Reach.one {t : τ} (ht : ok t) (h : change t s s') : Reach change ok s s' :=
  Relation.ReflTransGen.single ⟨t, ht, h⟩

theorem Reach.trans (h : Reach change ok s s') (h' : Reach change ok s' s'') :
    Reach change ok s s'' :=
  Relation.ReflTransGen.trans h h'

theorem Reach.mono (hok : ∀ t, ok t → ok' t) (h : Reach change ok s s') :
    Reach change ok' s s' := by
  induction h with
  | refl => exact Reach.refl s
  | tail _ hstep ih =>
    obtain ⟨t, ht, hc⟩ := hstep
    exact ih.trans (Reach.one (hok t ht) hc)

/-- **Invariant rule for chains.** -/
theorem Reach.inv (inv : σ → Prop) (hkeep : ∀ t s s', ok t → change t s s' → inv s → inv s')
    (h : Reach change ok s s') (h0 : inv s) : inv s' := by
  induction h with
  | refl => exact h0
  | tail _ hstep ih =>
    obtain ⟨t, ht, hc⟩ := hstep
    exact hkeep t _ _ ht hc ih

theorem Reach.lift {change' : τ → ρ → ρ → Prop} (f : σ → ρ)
    (hf : ∀ t s s', change t s s' → change' t (f s) (f s')) (h : Reach change ok s s') :
    Reach change' ok (f s) (f s') := by
  induction h with
  | refl => exact Reach.refl _
  | tail _ hstep ih =>
    obtain ⟨t, ht, hc⟩ := hstep
    exact ih.trans (Reach.one ht (hf t _ _ hc))

variable (π : ρ → σ) {f : ρ → α → ρ}

/-- **A loop is a chain** if each round is one from a state with the invariant; the loop may carry
more than the state. -/
theorem reach_foldl_proj (inv : σ → Prop)
    (hinv : ∀ s s', inv s → Reach change ok s s' → inv s') {xs : List α} {r : ρ}
    (hf : ∀ r, ∀ x ∈ xs, inv (π r) → Reach change ok (π r) (π (f r x))) (h0 : inv (π r)) :
    Reach change ok (π r) (π (xs.foldl f r)) := by
  induction xs generalizing r with
  | nil => exact Reach.refl (π r)
  | cons x xs ih =>
    have hround := hf r x List.mem_cons_self h0
    exact hround.trans (ih (fun r y hy => hf r y (List.mem_cons_of_mem _ hy)) (hinv _ _ h0 hround))

theorem reach_foldl {f : σ → α → σ} (inv : σ → Prop)
    (hinv : ∀ s s', inv s → Reach change ok s s' → inv s') {xs : List α}
    (hf : ∀ s, ∀ x ∈ xs, inv s → Reach change ok s (f s x)) (h0 : inv s) :
    Reach change ok s (xs.foldl f s) :=
  reach_foldl_proj (fun s => s) inv hinv hf h0

theorem reach_foldl_of_all (hf : ∀ r x, Reach change ok (π r) (π (f r x))) (xs : List α)
    (r : ρ) : Reach change ok (π r) (π (xs.foldl f r)) :=
  reach_foldl_proj π (fun _ => True) (fun _ _ _ _ => trivial) (fun r x _ _ => hf r x) trivial

end Chain
