import Mathlib.Tactic

/-!
# Sizes on the wire

How many bytes a message takes in the proto3 format: varints in groups of seven bits, fields with a
tag in front, fields with the default value left out, and lists as one packed field or as one field
for each message.  A negative number is extended to 64 bits and takes ten bytes.

The rules bound a field by its type, whatever its value is (`intField_le`, `floatField_le`,
`packed_le`, …), and say that a list of messages takes at least two bytes for each
(`two_mul_length_le_messages`).
-/

namespace Wire

def varintSize (n : Nat) : Nat := n.log2 / 7 + 1

section
variable (field : Nat)

/-- The wire type is in the three low bits. -/
def tagSize : Nat := varintSize (8 * field)

def varintField (field n : Nat) : Nat := if n = 0 then 0 else tagSize field + varintSize n

/-- A value of type `int32` or `int64`, a negative one as 64 bits. -/
def intSize (v : Int) : Nat := varintSize (v % 2 ^ 64).toNat

def intField (v : Int) : Nat := if v = 0 then 0 else tagSize field + intSize v

def boolField (b : Bool) : Nat := if b then tagSize field + 1 else 0

def floatField (v : ℚ) : Nat := if v = 0 then 0 else tagSize field + 4

def bytesField (field n : Nat) : Nat := tagSize field + varintSize n + n

/-- A repeated field of messages with these sizes. -/
def messages (sizes : List Nat) : Nat := (sizes.map (bytesField field)).sum

/-- A packed field of numbers with these sizes. -/
def packed (sizes : List Nat) : Nat := if sizes = [] then 0 else bytesField field sizes.sum

end

theorem varintSize_le {n k : Nat} (hk : 0 < k) (h : n < 2 ^ (7 * k)) : varintSize n ≤ k := by
  unfold varintSize
  by_cases h0 : n = 0
  · subst h0
    exact hk
  · have hlog : n.log2 < 7 * k := (Nat.log2_lt h0).mpr h
    omega

theorem varintSize_pos (n : Nat) : 1 ≤ varintSize n := Nat.le_add_left 1 _

theorem tagSize_of_lt {field : Nat} (h : field < 16) : tagSize field = 1 :=
  le_antisymm (varintSize_le Nat.one_pos (by omega)) (varintSize_pos _)

theorem intSize_le (v : Int) : intSize v ≤ 10 := by
  have hlt := Int.emod_lt_of_pos v (show (0 : Int) < 2 ^ 64 by decide)
  exact varintSize_le (by decide) (by omega)

section
variable (field : Nat) (hf : field < 16)
include hf

theorem varintField_le {n k : Nat} (hk : 0 < k) (h : n < 2 ^ (7 * k)) :
    varintField field n ≤ k + 1 := by
  have hsize := varintSize_le hk h
  have htag := tagSize_of_lt hf
  unfold varintField
  split <;> omega

theorem intField_le (v : Int) : intField field v ≤ 11 := by
  have hsize := intSize_le v
  have htag := tagSize_of_lt hf
  unfold intField
  split <;> omega

theorem boolField_le (b : Bool) : boolField field b ≤ 2 := by
  have htag := tagSize_of_lt hf
  unfold boolField
  split <;> omega

theorem floatField_le (v : ℚ) : floatField field v ≤ 5 := by
  have htag := tagSize_of_lt hf
  unfold floatField
  split <;> omega

theorem messages_le {sizes : List Nat} {n : Nat} (hn : n < 128) (h : ∀ size ∈ sizes, size ≤ n) :
    messages field sizes ≤ (n + 2) * sizes.length := by
  unfold messages
  induction sizes with
  | nil => simp
  | cons size sizes ih =>
    have hsize := h size List.mem_cons_self
    have hlen : varintSize size ≤ 1 := varintSize_le Nat.one_pos (by omega)
    have htag := tagSize_of_lt hf
    have ih := ih fun m hm => h m (List.mem_cons_of_mem _ hm)
    simp only [List.map_cons, List.sum_cons, List.length_cons, Nat.mul_add, Nat.mul_one, bytesField]
    omega

theorem packed_le {sizes : List Nat} {n : Nat} (h : ∀ size ∈ sizes, size ≤ n)
    (hlen : n * sizes.length < 2 ^ 21) : packed field sizes ≤ n * sizes.length + 4 := by
  have hsum : sizes.sum ≤ n * sizes.length := by
    have := List.sum_le_card_nsmul sizes n h
    rwa [smul_eq_mul, Nat.mul_comm] at this
  have hsize : varintSize sizes.sum ≤ 3 := varintSize_le (by decide) (by omega)
  have htag := tagSize_of_lt hf
  unfold packed bytesField
  split <;> omega

end

theorem two_mul_length_le_messages (field : Nat) (sizes : List Nat) :
    2 * sizes.length ≤ messages field sizes := by
  unfold messages
  induction sizes with
  | nil => simp
  | cons size sizes ih =>
    have htag : 1 ≤ tagSize field := varintSize_pos _
    have hlen := varintSize_pos size
    simp only [List.map_cons, List.sum_cons, List.length_cons, bytesField]
    omega

end Wire
