import Mathlib.Tactic

/-!
# A queue that is first-in first-out per producer

The entries stand in the order they were enqueued, each with its producer.  A
dequeue may take the oldest entry of any producer: nothing orders the entries
of two producers, and the entries of one producer come out in order.
-/

namespace ProducerQueue

variable {π α : Type} [DecidableEq π]

def dequeue (p : π) : List (π × α) → Option (α × List (π × α))
  | [] => none
  | (q, a) :: rest =>
    if q = p then some (a, rest)
    else (dequeue p rest).map fun r => (r.1, (q, a) :: r.2)

theorem dequeue_eq_some {p : π} {a : α} {es es' : List (π × α)} (h : dequeue p es = some (a, es')) :
    ∃ l₁ l₂, es = l₁ ++ (p, a) :: l₂ ∧ es' = l₁ ++ l₂ ∧ ∀ e ∈ l₁, e.1 ≠ p := by
  induction es generalizing es' with
  | nil => cases h
  | cons e es ih =>
    obtain ⟨q, b⟩ := e
    unfold dequeue at h
    split at h
    · next hq =>
      subst hq
      simp only [Option.some.injEq, Prod.mk.injEq] at h
      obtain ⟨rfl, rfl⟩ := h
      exact ⟨[], es, rfl, rfl, by simp⟩
    · next hq =>
      rw [Option.map_eq_some_iff] at h
      obtain ⟨⟨a', r⟩, hr, he⟩ := h
      simp only [Prod.mk.injEq] at he
      obtain ⟨rfl, rfl⟩ := he
      obtain ⟨l₁, l₂, h1, h2, h3⟩ := ih hr
      refine ⟨(q, b) :: l₁, l₂, by simp [h1], by simp [h2], ?_⟩
      intro e he
      rcases List.mem_cons.mp he with rfl | he
      · exact hq
      · exact h3 e he

theorem dequeue_mem {p : π} {a : α} {es es' : List (π × α)} (h : dequeue p es = some (a, es')) :
    (p, a) ∈ es ∧ ∀ e ∈ es', e ∈ es := by
  obtain ⟨l₁, l₂, rfl, rfl, -⟩ := dequeue_eq_some h
  refine ⟨by simp, fun e he => ?_⟩
  rcases List.mem_append.mp he with he | he
  · exact List.mem_append_left _ he
  · exact List.mem_append_right _ (List.mem_cons_of_mem _ he)

/-- Entries that stay behind came later, or came earlier from another producer. -/
theorem dequeue_pairwise {R : π × α → π × α → Prop} {p : π} {a : α} {es es' : List (π × α)}
    (h : dequeue p es = some (a, es')) (hes : es.Pairwise R) :
    es'.Pairwise R ∧ ∀ e ∈ es', R (p, a) e ∨ e.1 ≠ p ∧ R e (p, a) := by
  obtain ⟨l₁, l₂, rfl, rfl, hne⟩ := dequeue_eq_some h
  obtain ⟨h₁, h₂, h₁₂⟩ := List.pairwise_append.mp hes
  obtain ⟨hhead, htail⟩ := List.pairwise_cons.mp h₂
  refine ⟨List.pairwise_append.mpr ⟨h₁, htail,
    fun x hx y hy => h₁₂ x hx y (List.mem_cons_of_mem _ hy)⟩, ?_⟩
  intro e he
  rcases List.mem_append.mp he with he | he
  · exact .inr ⟨hne e he, h₁₂ e he _ List.mem_cons_self⟩
  · exact .inl (hhead e he)

end ProducerQueue
