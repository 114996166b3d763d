import ToyServer.Lib.Mem

/-!
# `RecvBuffer` (`System/Network/RecvBuffer.h`, `RecvBuffer.cpp`)

A linear buffer with a read and a write position.  `clean` resets the positions when the
buffer is empty and moves the unread bytes to the front when less than 10 KB are left.
`data` is what the buffer holds; each operation has one lemma that says what it does to `data`:

* `clean_data`: nothing;
* `arrive_data`: the bytes the socket wrote and `MoveWritePos` counted come behind;
* `moveReadPos_data`: the bytes consumed go from the front.
-/

namespace ToyServer

open Mem

/-- The positions are `int32_t`; nothing says here that they are in order. -/
structure RecvBuffer where
  capacity : Int
  readPos : Int
  writePos : Int
  buffer : Nat → UInt8

namespace RecvBuffer

def DEFAULT_CAPACITY : Int := 64 * 1024

def COMPACT_THRESHOLD : Int := 10 * 1024

/-- A new buffer; what its memory holds does not matter. -/
def make (buffer : Nat → UInt8) : RecvBuffer := ⟨DEFAULT_CAPACITY, 0, 0, buffer⟩

section
variable (b : RecvBuffer)

def dataSize : Int := b.writePos - b.readPos

def freeSize : Int := b.capacity - b.writePos

def reset : RecvBuffer := { b with readPos := 0, writePos := 0 }

def clean : RecvBuffer :=
  let dataSize := b.dataSize
  if dataSize = 0 then { b with readPos := 0, writePos := 0 }
  else if b.freeSize < COMPACT_THRESHOLD then
    -- std::memmove
    { b with
      buffer := write b.buffer 0 (slice b.buffer b.readPos.toNat dataSize.toNat)
      readPos := 0
      writePos := dataSize }
  else b

def moveReadPos (numOfBytes : Int) : RecvBuffer × Bool :=
  if numOfBytes > b.dataSize then (b, false)
  else ({ b with readPos := b.readPos + numOfBytes }, true)

def moveWritePos (numOfBytes : Int) : RecvBuffer × Bool :=
  if numOfBytes > b.freeSize then (b, false)
  else ({ b with writePos := b.writePos + numOfBytes }, true)

/-- The socket writes what it read at `WritePos()`. -/
def fill (bytes : List UInt8) : RecvBuffer :=
  { b with buffer := write b.buffer b.writePos.toNat bytes }

def data : List UInt8 := slice b.buffer b.readPos.toNat b.dataSize.toNat

end

/-- `0 ≤ readPos ≤ writePos ≤ capacity`. -/
structure Ok (b : RecvBuffer) : Prop where
  read_nonneg : 0 ≤ b.readPos
  read_le_write : b.readPos ≤ b.writePos
  write_le : b.writePos ≤ b.capacity

variable {b : RecvBuffer}

theorem make_ok (m : Nat → UInt8) : (make m).Ok :=
  ⟨le_refl _, le_refl _, by show (0 : Int) ≤ DEFAULT_CAPACITY; decide⟩

theorem reset_ok (h : b.Ok) : b.reset.Ok :=
  ⟨le_refl _, le_refl _, le_trans (le_trans h.read_nonneg h.read_le_write) h.write_le⟩

theorem Ok.dataSize_eq (h : b.Ok) : b.dataSize = b.data.length := by
  have := h.read_le_write
  unfold data dataSize
  rw [slice_length]
  omega

theorem data_take {n : Nat} (h : n ≤ b.data.length) :
    b.data.take n = slice b.buffer b.readPos.toNat n := by
  unfold data at h ⊢
  rw [slice_length] at h
  exact take_slice b.buffer h

theorem data_getD {i : Nat} (h : i < b.data.length) :
    b.data.getD i 0 = b.buffer (b.readPos.toNat + i) := by
  unfold data at h ⊢
  rw [slice_length] at h
  rw [List.getD_eq_getElem?_getD, getElem?_slice _ h]
  rfl

/-! ## `Clean` -/

theorem clean_ok (h : b.Ok) : b.clean.Ok := by
  obtain ⟨h1, h2, h3⟩ := h
  unfold clean dataSize
  dsimp only
  split
  · exact ⟨le_refl _, le_refl _, by show (0 : Int) ≤ b.capacity; omega⟩
  · split
    · exact ⟨le_refl _, by show (0 : Int) ≤ b.writePos - b.readPos; omega,
        by show b.writePos - b.readPos ≤ b.capacity; omega⟩
    · exact ⟨h1, h2, h3⟩

theorem clean_capacity (b : RecvBuffer) : b.clean.capacity = b.capacity := by
  unfold clean
  dsimp only
  split
  · rfl
  · split <;> rfl

theorem clean_data (b : RecvBuffer) : b.clean.data = b.data := by
  unfold clean
  dsimp only
  split
  · next h =>
    unfold data
    rw [h]
    rfl
  · split
    · show slice (write b.buffer 0 _) 0 (b.dataSize - 0).toNat = b.data
      have hlen : (b.dataSize - 0).toNat = b.data.length := by simp [data]
      rw [hlen]
      exact slice_write_self b.buffer 0 b.data
    · rfl

theorem clean_freeSize_pos (h : b.Ok) (hd : b.dataSize < b.capacity) : 0 < b.clean.freeSize := by
  have h1 := h.read_nonneg
  unfold clean
  dsimp only
  split
  · next h0 =>
    show 0 < b.capacity - 0
    omega
  · split
    · show 0 < b.capacity - b.dataSize
      omega
    · next hfree =>
      have hthr : COMPACT_THRESHOLD = 10240 := by decide
      omega

/-! ## Reading and writing -/

theorem moveReadPos_of_le {n : Int} (h : n ≤ b.dataSize) :
    b.moveReadPos n = ({ b with readPos := b.readPos + n }, true) := by
  unfold moveReadPos
  rw [if_neg (by omega)]

theorem moveWritePos_of_le {n : Int} (h : n ≤ b.freeSize) :
    b.moveWritePos n = ({ b with writePos := b.writePos + n }, true) := by
  unfold moveWritePos
  rw [if_neg (by omega)]

theorem moveWritePos_capacity (b : RecvBuffer) (n : Int) :
    (b.moveWritePos n).1.capacity = b.capacity := by
  unfold moveWritePos
  split <;> rfl

theorem moveReadPos_capacity (b : RecvBuffer) (n : Int) :
    (b.moveReadPos n).1.capacity = b.capacity := by
  unfold moveReadPos
  split <;> rfl

theorem moveReadPos_ok (h : b.Ok) {n : Nat} (hn : (n : Int) ≤ b.dataSize) :
    (b.moveReadPos n).1.Ok := by
  obtain ⟨h1, h2, h3⟩ := h
  rw [moveReadPos_of_le hn]
  unfold dataSize at hn
  exact ⟨by show 0 ≤ b.readPos + n; omega, by show b.readPos + n ≤ b.writePos; omega, h3⟩

theorem moveReadPos_data (h : b.Ok) {n : Nat} (hn : n ≤ b.data.length) :
    (b.moveReadPos n).1.data = b.data.drop n := by
  have hsize := h.dataSize_eq
  have h1 := h.read_nonneg
  rw [moveReadPos_of_le (by omega)]
  unfold data at hn ⊢
  rw [slice_length] at hn
  rw [drop_slice _ hn]
  unfold dataSize at hn hsize ⊢
  dsimp only
  congr 1 <;> omega

theorem arrive_ok (h : b.Ok) {bytes : List UInt8} (hlen : (bytes.length : Int) ≤ b.freeSize) :
    ((b.fill bytes).moveWritePos bytes.length).1.Ok := by
  obtain ⟨h1, h2, h3⟩ := h
  have hfree : (b.fill bytes).freeSize = b.freeSize := rfl
  rw [moveWritePos_of_le (by rw [hfree]; exact hlen)]
  unfold freeSize at hlen
  exact ⟨h1, by show b.readPos ≤ b.writePos + bytes.length; omega,
    by show b.writePos + bytes.length ≤ b.capacity; omega⟩

theorem arrive_data (h : b.Ok) {bytes : List UInt8} (hlen : (bytes.length : Int) ≤ b.freeSize) :
    ((b.fill bytes).moveWritePos bytes.length).1.data = b.data ++ bytes := by
  obtain ⟨h1, h2, h3⟩ := h
  have hfree : (b.fill bytes).freeSize = b.freeSize := rfl
  rw [moveWritePos_of_le (by rw [hfree]; exact hlen)]
  have hsize : (b.writePos + bytes.length - b.readPos).toNat = b.dataSize.toNat + bytes.length := by
    unfold dataSize; omega
  have hend : b.readPos.toNat + b.dataSize.toNat = b.writePos.toNat := by unfold dataSize; omega
  show slice (write b.buffer b.writePos.toNat bytes) b.readPos.toNat
    (b.writePos + bytes.length - b.readPos).toNat = _
  rw [hsize, slice_add, hend, slice_write_before _ _ (le_of_eq hend), slice_write_self]
  rfl

end RecvBuffer

end ToyServer
