import Mathlib.Tactic

/-!
# Memory as a function, slices and block writes

A memory is a function from addresses to cells.  `slice m off len` reads `len`
cells, `write m off bs` stores a list of them; `memcpy` and `memmove` are
writes of slices.  The lemmas say what a slice is after a write that covers
it or starts after it, and that writes side by side are one write.
-/

namespace Mem

variable {β : Type}

def slice (m : Nat → β) (off len : Nat) : List β := (List.range len).map fun i => m (off + i)

def write (m : Nat → β) (off : Nat) (bs : List β) : Nat → β := fun a =>
  if off ≤ a then bs[a - off]?.getD (m a) else m a

@[simp] theorem slice_length (m : Nat → β) (off len : Nat) : (slice m off len).length = len := by
  simp [slice]

variable {off len : Nat}

theorem getElem?_slice (m : Nat → β) {i : Nat} (h : i < len) :
    (slice m off len)[i]? = some (m (off + i)) := by
  simp [slice, h]

theorem slice_congr {m m' : Nat → β} {off' : Nat} (h : ∀ i, i < len → m (off + i) = m' (off' + i)) :
    slice m off len = slice m' off' len := by
  unfold slice
  exact List.map_congr_left fun i hi => h i (List.mem_range.mp hi)

section

variable (m : Nat → β)

theorem slice_add (off a b : Nat) : slice m off (a + b) = slice m off a ++ slice m (off + a) b := by
  unfold slice
  rw [List.range_add, List.map_append, List.map_map]
  congr 1
  refine List.map_congr_left fun i _ => ?_
  show m (off + (a + i)) = m (off + a + i)
  rw [Nat.add_assoc]

theorem take_slice {n : Nat} (h : n ≤ len) : (slice m off len).take n = slice m off n := by
  obtain ⟨k, rfl⟩ := Nat.exists_eq_add_of_le h
  rw [slice_add, List.take_left' (slice_length m off n)]

theorem drop_slice {n : Nat} (h : n ≤ len) :
    (slice m off len).drop n = slice m (off + n) (len - n) := by
  obtain ⟨k, rfl⟩ := Nat.exists_eq_add_of_le h
  rw [slice_add, List.drop_left' (slice_length m off n)]
  congr 1
  omega

theorem write_of_lt {a : Nat} (bs : List β) (h : a < off) : write m off bs a = m a := by
  unfold write
  rw [if_neg (by omega)]

theorem write_add (off : Nat) {bs : List β} {i : Nat} (h : i < bs.length) :
    write m off bs (off + i) = bs[i] := by
  unfold write
  rw [if_pos (by omega), show off + i - off = i by omega, List.getElem?_eq_getElem h]
  rfl

theorem slice_write_self (off : Nat) (bs : List β) : slice (write m off bs) off bs.length = bs := by
  apply List.ext_getElem
  · simp
  · intro i h1 h2
    simp only [slice, List.getElem_map, List.getElem_range]
    exact write_add m off h2

theorem slice_write_before {off' : Nat} (bs : List β) (h : off' + len ≤ off) :
    slice (write m off bs) off' len = slice m off' len :=
  slice_congr fun i hi => write_of_lt m bs (by omega)

theorem slice_write_take (off : Nat) {bs : List β} {n : Nat} (h : n ≤ bs.length) :
    slice (write m off bs) off n = bs.take n := by
  rw [← take_slice (write m off bs) h, slice_write_self]

theorem write_append (off : Nat) (as bs : List β) :
    write (write m off as) (off + as.length) bs = write m off (as ++ bs) := by
  funext a
  by_cases ha : a < off + as.length
  · rw [write_of_lt _ bs ha]
    unfold write
    by_cases hoff : off ≤ a
    · rw [if_pos hoff, if_pos hoff, List.getElem?_append_left (by omega)]
    · rw [if_neg hoff, if_neg hoff]
  · have hoff : off ≤ a := by omega
    unfold write
    rw [if_pos (by omega), if_pos hoff, if_pos hoff, List.getElem?_append_right (by omega),
      List.getElem?_eq_none (l := as) (by omega), show a - (off + as.length) =
        a - off - as.length by omega]
    rfl

end

end Mem
