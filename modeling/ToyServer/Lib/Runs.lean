import Mathlib.Tactic

/-!
# Runs of a guarded step function

A system is a step function `step : σ → α → Option σ`; `none` says that the
action is not enabled in that state.  `run` takes a list of actions.  Two rules
carry every proof about whole runs:

* `run_inv`: what holds at the start and is kept by every step holds at the end;
* `run_inv_of_meets`: the same when the step lemma needs a condition on the
  state before the step and every step of the run meets it (`Meets`).

`run_iff_meets` says when the condition is exact: what is true at the end is true
just because every step met it.
-/

namespace Runs

variable {σ α : Type}

/-- Take the actions in order; `none` as soon as one is not enabled. -/
def run (step : σ → α → Option σ) : σ → List α → Option σ
  | s, [] => some s
  | s, a :: as =>
    match step s a with
    | none => none
    | some s' => run step s' as

/-- Every step of the run meets `ok` in the state it is taken from. -/
def Meets (step : σ → α → Option σ) (ok : σ → α → Prop) : σ → List α → Prop
  | _, [] => True
  | s, a :: as => ok s a ∧ ∀ s', step s a = some s' → Meets step ok s' as

variable {step : σ → α → Option σ}

@[simp] theorem run_nil (s : σ) : run step s [] = some s := rfl

theorem run_cons_eq_some {s t : σ} {a : α} {as : List α} :
    run step s (a :: as) = some t ↔ ∃ s', step s a = some s' ∧ run step s' as = some t := by
  simp only [run]
  cases step s a with
  | none => simp
  | some s' => simp

theorem run_append_eq_some {s t : σ} {as bs : List α} :
    run step s (as ++ bs) = some t ↔ ∃ m, run step s as = some m ∧ run step m bs = some t := by
  induction as generalizing s with
  | nil => simp
  | cons a as ih =>
    rw [List.cons_append, run_cons_eq_some]
    constructor
    · rintro ⟨s', hs, hr⟩
      obtain ⟨m, h1, h2⟩ := ih.mp hr
      exact ⟨m, run_cons_eq_some.mpr ⟨s', hs, h1⟩, h2⟩
    · rintro ⟨m, h1, h2⟩
      obtain ⟨s', hs, h3⟩ := run_cons_eq_some.mp h1
      exact ⟨s', hs, ih.mpr ⟨m, h3, h2⟩⟩

section
variable {ok : σ → α → Prop}

theorem meets_cons {s s' : σ} {a : α} {as : List α} (hok : ok s a)
    (h : step s a = some s') (hm : Meets step ok s' as) : Meets step ok s (a :: as) := by
  refine ⟨hok, fun t ht => ?_⟩
  rw [h, Option.some.injEq] at ht
  exact ht ▸ hm

theorem meets_mono {ok ok' : σ → α → Prop} (hok : ∀ s a, ok s a → ok' s a) {s : σ} {as : List α}
    (h : Meets step ok s as) : Meets step ok' s as := by
  induction as generalizing s with
  | nil => trivial
  | cons a as ih => exact ⟨hok s a h.1, fun s' hs => ih (h.2 s' hs)⟩

/-- On a given run the condition can be checked. -/
instance decidableMeets [∀ s a, Decidable (ok s a)] : ∀ s as, Decidable (Meets step ok s as)
  | _, [] => isTrue trivial
  | s, a :: as =>
    match h : step s a with
    | none => decidable_of_iff (ok s a) ⟨fun hok => ⟨hok, by simp [h]⟩, And.left⟩
    | some s' =>
      have : Decidable (Meets step ok s' as) := decidableMeets s' as
      decidable_of_iff (ok s a ∧ Meets step ok s' as)
        ⟨fun hm => meets_cons hm.1 h hm.2, fun hm => ⟨hm.1, hm.2 s' h⟩⟩

/-- So can what it comes to. -/
instance decidableExistsSome {o : Option σ} {P : σ → Prop} [DecidablePred P] :
    Decidable (∃ t, o = some t ∧ P t) :=
  match o with
  | none => isFalse fun ⟨t, h, _⟩ => Option.some_ne_none t h.symm
  | some t =>
    decidable_of_iff (P t) ⟨fun h => ⟨t, rfl, h⟩, fun ⟨_, h, hp⟩ => Option.some.inj h ▸ hp⟩

theorem exists_run_and {P Q : σ → Prop} {s : σ} {as : List α}
    (h : ∃ t, run step s as = some t ∧ P t) (hq : ∀ t, run step s as = some t → Q t) :
    ∃ t, run step s as = some t ∧ P t ∧ Q t := by
  obtain ⟨t, ht, hp⟩ := h
  exact ⟨t, ht, hp, hq t ht⟩

theorem meets_append {s t : σ} {as bs : List α} (h : run step s as = some t)
    (hm : Meets step ok s (as ++ bs)) : Meets step ok s as ∧ Meets step ok t bs := by
  induction as generalizing s with
  | nil =>
    rw [run_nil, Option.some.injEq] at h
    exact ⟨trivial, h ▸ hm⟩
  | cons a as ih =>
    obtain ⟨s', hs, hr⟩ := run_cons_eq_some.mp h
    obtain ⟨h1, h2⟩ := ih hr (hm.2 s' hs)
    exact ⟨meets_cons hm.1 hs h1, h2⟩

/-- **Invariant rule.** -/
theorem run_inv (inv : σ → Prop) (hstep : ∀ s a s', inv s → step s a = some s' → inv s')
    {s t : σ} {as : List α} (h0 : inv s) (h : run step s as = some t) : inv t := by
  induction as generalizing s with
  | nil => simp only [run_nil, Option.some.injEq] at h; exact h ▸ h0
  | cons a as ih =>
    obtain ⟨s', hs, hr⟩ := run_cons_eq_some.mp h
    exact ih (hstep s a s' h0 hs) hr

/-- **Invariant rule under a step condition.** -/
theorem run_inv_of_meets (inv : σ → Prop)
    (hstep : ∀ s a s', inv s → ok s a → step s a = some s' → inv s') {s t : σ}
    {as : List α} (h0 : inv s) (hok : Meets step ok s as) (h : run step s as = some t) : inv t := by
  induction as generalizing s with
  | nil => simp only [run_nil, Option.some.injEq] at h; exact h ▸ h0
  | cons a as ih =>
    obtain ⟨s', hs, hr⟩ := run_cons_eq_some.mp h
    exact ih (hstep s a s' h0 hok.1 hs) (hok.2 s' hs) hr

/-- **A run exactly meets its condition** when each step keeps `P` exactly under the condition. -/
theorem run_iff_meets (inv P : σ → Prop) (hinv : ∀ s a s', inv s → step s a = some s' → inv s')
    (hstep : ∀ s a s', inv s → step s a = some s' → (P s' ↔ P s ∧ ok s a)) {s t : σ}
    {as : List α} (h0 : inv s) (h : run step s as = some t) : P t ↔ P s ∧ Meets step ok s as := by
  induction as generalizing s with
  | nil =>
    rw [run_nil, Option.some.injEq] at h
    subst h
    exact ⟨fun hp => ⟨hp, trivial⟩, And.left⟩
  | cons a as ih =>
    obtain ⟨s', hs, hr⟩ := run_cons_eq_some.mp h
    rw [ih (hinv s a s' h0 hs) hr, hstep s a s' h0 hs]
    constructor
    · rintro ⟨⟨hp, hok⟩, hm⟩
      exact ⟨hp, meets_cons hok hs hm⟩
    · rintro ⟨hp, hok, hm⟩
      exact ⟨⟨hp, hok⟩, hm s' hs⟩

end

/-! ## Lists that grow at the end -/

theorem mem_concat {β : Type} {l : List β} {x y : β} : y ∈ l ++ [x] ↔ y ∈ l ∨ y = x := by
  rw [List.mem_append, List.mem_singleton]

theorem forall_mem_concat {β : Type} {P : β → Prop} {l : List β} {x : β}
    (h : ∀ y ∈ l, P y) (hx : P x) : ∀ y ∈ l ++ [x], P y := by
  intro y hy
  rcases mem_concat.mp hy with hy | rfl
  · exact h y hy
  · exact hx

end Runs
