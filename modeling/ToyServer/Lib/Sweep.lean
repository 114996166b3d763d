import ToyServer.Lib.Table

/-!
# Passes over a table

`change s k f` puts another value for the key `k`, or takes the entry away, as `f` says for the
value that is there.  A pass does so for every key of a list, one after the other.  Each key is met
once, so what is found afterwards is `f` of what was found before:

    ((ks.foldl (change · · f) s).lookup k) = (s.lookup k).bind f   for k in ks   (lookup_pass)
-/

namespace Sweep

variable {α β : Type} [DecidableEq α]

/-- Another value for a key, or none. -/
def change (f : β → Option β) (s : AList fun _ : α => β) (k : α) : AList fun _ : α => β :=
  match s.lookup k with
  | none => s
  | some b =>
    match f b with
    | none => s.erase k
    | some b' => s.insert k b'

/-- One key after the other. -/
def pass (f : β → Option β) (s : AList fun _ : α => β) (ks : List α) : AList fun _ : α => β :=
  ks.foldl (change f) s

variable (f : β → Option β)

theorem lookup_change (s : AList fun _ : α => β) (k k' : α) :
    (change f s k).lookup k' = if k' = k then (s.lookup k').bind f else s.lookup k' := by
  unfold change
  by_cases hk : k' = k
  · subst hk
    rw [if_pos rfl]
    cases hl : s.lookup k' with
    | none => exact hl
    | some b =>
      dsimp only
      cases hf : f b with
      | none =>
        rw [Option.bind_some, hf]
        exact AList.lookup_erase k' s
      | some b' =>
        rw [Option.bind_some, hf]
        exact AList.lookup_insert s
  · rw [if_neg hk]
    split
    · rfl
    · split
      · exact AList.lookup_erase_ne hk
      · exact AList.lookup_insert_ne hk

theorem lookup_pass {ks : List α} (hnodup : ks.Nodup) (s : AList fun _ : α => β) (k : α) :
    (pass f s ks).lookup k = if k ∈ ks then (s.lookup k).bind f else s.lookup k := by
  unfold pass
  induction ks generalizing s with
  | nil => rfl
  | cons x ks ih =>
    obtain ⟨hx, hks⟩ := List.nodup_cons.mp hnodup
    rw [List.foldl_cons, ih hks, lookup_change]
    by_cases hk : k = x
    · subst hk
      simp [hx]
    · simp [hk]

theorem lookup_pass_keys {ks : List α} {s : AList fun _ : α => β} (hperm : ks.Perm s.keys) (k : α) :
    (pass f s ks).lookup k = (s.lookup k).bind f := by
  rw [lookup_pass f (hperm.nodup_iff.mpr s.keys_nodup)]
  by_cases hk : k ∈ ks
  · exact if_pos hk
  · have hnone : s.lookup k = none := by
      rw [AList.lookup_eq_none, AList.mem_keys, ← hperm.mem_iff]
      exact hk
    rw [if_neg hk, hnone]
    rfl

end Sweep
