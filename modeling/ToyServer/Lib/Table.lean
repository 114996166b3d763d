import Mathlib.Data.List.AList
import Mathlib.Tactic

/-!
# Tables: what `insert` and `erase` leave to find

`AList` is a finite map with one entry a key.  The first lemmas say by cases what a
lookup gives after a change, so that a proof about a map can split on the key.
-/

namespace Table

variable {α β : Type} [DecidableEq α]

section
variable (s : AList fun _ : α => β)

theorem lookup_insert_ite (a a' : α) (b : β) :
    (s.insert a b).lookup a' = if a' = a then some b else s.lookup a' := by
  split
  · next h => rw [h, AList.lookup_insert]
  · next h => exact AList.lookup_insert_ne h

theorem lookup_erase_ite (a a' : α) :
    (s.erase a).lookup a' = if a' = a then none else s.lookup a' := by
  split
  · next h => rw [h, AList.lookup_erase]
  · next h => exact AList.lookup_erase_ne h

theorem of_lookup_insert {s : AList fun _ : α => β} {a a' : α} {b b' : β}
    (h : (s.insert a b).lookup a' = some b') :
    (a' = a ∧ b' = b) ∨ (a' ≠ a ∧ s.lookup a' = some b') := by
  rw [lookup_insert_ite] at h
  split at h
  · next ha => exact .inl ⟨ha, (Option.some.inj h).symm⟩
  · next ha => exact .inr ⟨ha, h⟩

theorem of_lookup_erase {s : AList fun _ : α => β} {a a' : α} {b : β}
    (h : (s.erase a).lookup a' = some b) : a' ≠ a ∧ s.lookup a' = some b := by
  rw [lookup_erase_ite] at h
  split at h
  · cases h
  · next ha => exact ⟨ha, h⟩

theorem mem_entries_iff {s : AList fun _ : α => β} {a : α} {b : β} :
    ⟨a, b⟩ ∈ s.entries ↔ s.lookup a = some b :=
  AList.mem_lookup_iff.symm

/-! ## Counting -/

def count (p : β → Bool) (s : AList fun _ : α => β) : Nat := s.entries.countP fun e => p e.2

/-- One if there is something and it has the property. -/
def weight (p : β → Bool) : Option β → Nat
  | none => 0
  | some b => if p b then 1 else 0

theorem countP_kerase (p : β → Bool) (a : α) (l : List (Sigma fun _ : α => β)) :
    (l.kerase a).countP (fun e => p e.2) + weight p (l.dlookup a) = l.countP fun e => p e.2 := by
  induction l with
  | nil => rfl
  | cons e l ih =>
    by_cases h : a = e.1
    · have hlook : List.dlookup a (e :: l) = some e.2 := by
        obtain ⟨k, b⟩ := e
        subst h
        exact List.dlookup_cons_eq (β := fun _ : α => β) l a b
      rw [List.kerase_cons_eq h, hlook, List.countP_cons]
      rfl
    · rw [List.kerase_cons_ne h, List.dlookup_cons_ne l e h, List.countP_cons,
        List.countP_cons, ← ih]
      omega

theorem count_erase (p : β → Bool) (s : AList fun _ : α => β) (a : α) :
    count p (s.erase a) + weight p (s.lookup a) = count p s :=
  countP_kerase p a s.entries

theorem count_insert (p : β → Bool) (s : AList fun _ : α => β) (a : α) (b : β) :
    count p (s.insert a b) + weight p (s.lookup a) = count p s + weight p (some b) := by
  have hins : count p (s.insert a b) = count p (s.erase a) + weight p (some b) := by
    unfold count
    rw [AList.entries_insert, List.countP_cons]
    rfl
  have her := count_erase p s a
  omega

def size : Nat := count (fun _ => true) s

omit [DecidableEq α] in
theorem size_eq_keys : size s = s.keys.length := by
  unfold size count
  rw [List.countP_true]
  exact (List.length_map _).symm

end

theorem length_le_size {s : AList fun _ : α => β} {ks : List α} (hnodup : ks.Nodup)
    (hmem : ∀ k ∈ ks, (s.lookup k).isSome) : ks.length ≤ size s := by
  rw [size_eq_keys]
  exact (hnodup.subperm fun k hk =>
    AList.mem_keys.mp (AList.lookup_isSome.mp (hmem k hk))).length_le

end Table
