import Mathlib.Data.List.Nodup
import Mathlib.Logic.Function.Basic
import Mathlib.Tactic

/-!
# A table of buckets

Values are put into the bucket that an index function gives, and gathered again from a list of
buckets: what is gathered is what was put into one of them (`mem_gather`), once if no bucket is
visited twice (`nodup_gather`).
-/

namespace Buckets

variable {α β ι : Type} [DecidableEq ι]

def push (cells : ι → List β) (i : ι) (b : β) : ι → List β :=
  Function.update cells i (cells i ++ [b])

def fill (idx : α → ι) (val : α → β) (cells : ι → List β) (xs : List α) : ι → List β :=
  xs.foldl (fun cells a => push cells (idx a) (val a)) cells

def gather (cells : ι → List β) (is : List ι) : List β := is.flatMap cells

variable {idx : α → ι} {val : α → β} {xs : List α} {is : List ι}

theorem push_apply (cells : ι → List β) (i j : ι) (b : β) :
    push cells i b j = if i = j then cells j ++ [b] else cells j := by
  unfold push
  by_cases h : i = j
  · subst h
    simp
  · rw [if_neg h, Function.update_of_ne (Ne.symm h)]

theorem fill_apply (cells : ι → List β) (xs : List α) (i : ι) :
    fill idx val cells xs i = cells i ++ (xs.filter fun a => idx a = i).map val := by
  induction xs generalizing cells with
  | nil => simp [fill]
  | cons a xs ih =>
    show fill idx val (push cells (idx a) (val a)) xs i = _
    rw [ih, push_apply]
    by_cases h : idx a = i
    · simp [h]
    · simp [h]

theorem mem_gather {b : β} : b ∈ gather (fill idx val (fun _ => []) xs) is ↔
    ∃ a ∈ xs, idx a ∈ is ∧ val a = b := by
  unfold gather
  rw [List.mem_flatMap]
  constructor
  · rintro ⟨i, hi, hb⟩
    rw [fill_apply, List.nil_append, List.mem_map] at hb
    obtain ⟨a, ha, rfl⟩ := hb
    obtain ⟨hmem, hidx⟩ := List.mem_filter.mp ha
    exact ⟨a, hmem, of_decide_eq_true hidx ▸ hi, rfl⟩
  · rintro ⟨a, ha, hi, rfl⟩
    refine ⟨idx a, hi, ?_⟩
    rw [fill_apply, List.nil_append]
    exact List.mem_map_of_mem (List.mem_filter.mpr ⟨ha, by simp⟩)

theorem nodup_gather (his : is.Nodup) (hxs : (xs.map val).Nodup) :
    (gather (fill idx val (fun _ => []) xs) is).Nodup := by
  have hinj := List.inj_on_of_nodup_map hxs
  unfold gather
  rw [List.nodup_flatMap]
  refine ⟨fun i _ => ?_, his.imp fun {i j} hij b hbi hbj => ?_⟩
  · rw [fill_apply, List.nil_append]
    exact hxs.sublist (List.filter_sublist.map val)
  · -- a value in two buckets comes from one element, which has one index
    rw [fill_apply, List.nil_append, List.mem_map] at hbi hbj
    obtain ⟨a, ha, rfl⟩ := hbi
    obtain ⟨a', ha', hval⟩ := hbj
    obtain ⟨hmem, hidx⟩ := List.mem_filter.mp ha
    obtain ⟨hmem', hidx'⟩ := List.mem_filter.mp ha'
    have heq : a' = a := hinj hmem' hmem hval
    subst heq
    exact hij ((of_decide_eq_true hidx).symm.trans (of_decide_eq_true hidx'))

end Buckets
