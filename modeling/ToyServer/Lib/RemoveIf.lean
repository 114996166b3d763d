import Mathlib.Data.List.Basic

/-!
# `std::remove_if`

The loop moves what it keeps to the front and returns the new end.  What stands behind the new end
is not what was removed: a kept element is copied over the place of an earlier one and stays at its
own place too, so the tail is the end of the list as it was before (`removeIf_eq`).
-/

namespace ToyServer.RemoveIf

variable {α : Type*} (p : α → Bool)

/-- The state of the loop: `kept` is written, `gap` are the places up to the one that is read
next. -/
def loop (kept gap : List α) : List α → List α × List α
  | [] => (kept, gap)
  | y :: rest =>
    if p y then loop kept (gap ++ [y]) rest
    -- `y` goes to the first place of the gap and is still there at its own place, the last of the
    -- new gap
    else loop (kept ++ [y]) (gap ++ [y]).tail rest

/-- What is kept, and what stands behind it. -/
def removeIf (xs : List α) : List α × List α := loop p [] [] xs

theorem loop_eq (xs kept gap : List α) :
    loop p kept gap xs =
      (kept ++ xs.filter (fun y => !p y), (gap ++ xs).drop (xs.filter (fun y => !p y)).length) := by
  induction xs generalizing kept gap with
  | nil => simp [loop]
  | cons y rest ih =>
    unfold loop
    split
    · next hy =>
      rw [ih]
      simp [hy]
    · next hy =>
      have hshift : (gap ++ [y]).tail ++ rest = (gap ++ y :: rest).drop 1 := by
        cases gap <;> simp
      rw [ih, hshift, List.drop_drop]
      simp [hy, Nat.add_comm]

/-- The tail is the end of the old list, as long as the number of elements removed. -/
theorem removeIf_eq (xs : List α) :
    removeIf p xs = (xs.filter (fun y => !p y), xs.drop (xs.filter (fun y => !p y)).length) := by
  have h := loop_eq p xs [] []
  simpa [removeIf] using h

theorem mem_kept {xs : List α} {x : α} : x ∈ (removeIf p xs).1 ↔ x ∈ xs ∧ p x = false := by
  rw [removeIf_eq, List.mem_filter]
  simp

end ToyServer.RemoveIf
