import ToyServer.Game.PacketSize

/-!
# Position sync

`SyncNetwork` goes through a snapshot of the objects, leaves out the dead and those with a number
that is not finite, and sends a batch whenever it has 300 entries.  Positions and velocities are
binary32 words here, so that there are such numbers; in a room without them the batches are those of
`Room.chunks` (`chunks_eq_fill`).

    (syncNetwork objects).flatten = objects.filterMap entry                  (position_sync)
-/

namespace ToyServer.SimpleGame

open Wire

/-! ## Filling batches -/

section Fill

variable {ε : Type}

/-- Batches of `limit` entries, `batch` being the one that is filled. -/
def fill (limit : Nat) (batch : List ε) : List ε → List (List ε)
  | [] => if batch.isEmpty then [] else [batch]
  | x :: rest =>
    if limit ≤ (batch ++ [x]).length then (batch ++ [x]) :: fill limit [] rest
    else fill limit (batch ++ [x]) rest

variable {limit : Nat} {batch xs : List ε}

theorem flatten_fill (limit : Nat) (batch xs : List ε) :
    (fill limit batch xs).flatten = batch ++ xs := by
  induction xs generalizing batch with
  | nil =>
    unfold fill
    cases batch <;> simp
  | cons x xs ih =>
    unfold fill
    split
    · rw [List.flatten_cons, ih, List.nil_append, List.append_assoc]
      rfl
    · rw [ih, List.append_assoc]
      rfl

theorem length_of_mem_fill (hlimit : 0 < limit) (h : batch.length < limit) {b : List ε}
    (hb : b ∈ fill limit batch xs) : 1 ≤ b.length ∧ b.length ≤ limit := by
  induction xs generalizing batch with
  | nil =>
    unfold fill at hb
    split at hb
    · cases hb
    · next hne =>
      rw [List.mem_singleton.mp hb]
      exact ⟨List.length_pos_of_ne_nil fun hnil => hne (List.isEmpty_iff.mpr hnil), h.le⟩
  | cons x xs ih =>
    have hlen : (batch ++ [x]).length = batch.length + 1 := List.length_append
    unfold fill at hb
    split at hb
    · rcases List.mem_cons.mp hb with rfl | hb
      · omega
      · exact ih (show ([] : List ε).length < limit from hlimit) hb
    · exact ih (by omega) hb

theorem length_of_mem_dropLast_fill (hlimit : 0 < limit) (h : batch.length < limit) {b : List ε}
    (hb : b ∈ (fill limit batch xs).dropLast) : b.length = limit := by
  induction xs generalizing batch with
  | nil =>
    unfold fill at hb
    split at hb <;> cases hb
  | cons x xs ih =>
    have hlen : (batch ++ [x]).length = batch.length + 1 := List.length_append
    unfold fill at hb
    split at hb
    · cases hrest : fill limit ([] : List ε) xs with
      | nil =>
        rw [hrest] at hb
        cases hb
      | cons c rest =>
        rw [hrest, List.dropLast_cons_of_ne_nil (List.cons_ne_nil c rest), ← hrest] at hb
        rcases List.mem_cons.mp hb with rfl | hb
        · omega
        · exact ih (show ([] : List ε).length < limit from hlimit) hb
    · exact ih (by omega) hb

end Fill

theorem Room.chunks_eq_fill (batch moves : List ObjectPos) :
    Room.chunks batch moves = fill Room.chunkSize batch moves := by
  induction moves generalizing batch with
  | nil =>
    unfold Room.chunks fill
    cases batch <;> rfl
  | cons pos moves ih =>
    unfold Room.chunks fill
    rw [ih, ih]

/-! ## The loop -/

/-- `std::isfinite` of a binary32 word: the exponent is not all ones. -/
def isFinite (bits : UInt32) : Bool := bits.toNat / 2 ^ 23 % 256 != 255

structure SyncObject where
  id : Int
  isDead : Bool
  x : UInt32
  y : UInt32
  vx : UInt32
  vy : UInt32
  state : ObjectState
  lookLeft : Bool
deriving DecidableEq

structure MoveEntry where
  objectId : Int
  x : UInt32
  y : UInt32
  vx : UInt32
  vy : UInt32
  state : ObjectState
  lookLeft : Bool
deriving DecidableEq

namespace SyncObject

def finite (o : SyncObject) : Bool := isFinite o.x && isFinite o.y && isFinite o.vx && isFinite o.vy

def entry (o : SyncObject) : Option MoveEntry :=
  if o.isDead || !o.finite then none else some ⟨o.id, o.x, o.y, o.vx, o.vy, o.state, o.lookLeft⟩

end SyncObject

structure SyncLoop where
  sent : List (List MoveEntry)
  moveBatch : List MoveEntry
  countInPacket : Nat

def SyncLoop.next (l : SyncLoop) (obj : SyncObject) : SyncLoop :=
  if obj.isDead then l
  else if !obj.finite then l
  else
    let moveBatch :=
      l.moveBatch ++ [⟨obj.id, obj.x, obj.y, obj.vx, obj.vy, obj.state, obj.lookLeft⟩]
    if Room.chunkSize ≤ l.countInPacket + 1 then ⟨l.sent ++ [moveBatch], [], 0⟩
    else ⟨l.sent, moveBatch, l.countInPacket + 1⟩

/-- What is sent in all, the rest of the last batch included. -/
def SyncLoop.finish (l : SyncLoop) : List (List MoveEntry) :=
  if 0 < l.moveBatch.length then l.sent ++ [l.moveBatch] else l.sent

def syncNetwork (objects : List SyncObject) : List (List MoveEntry) :=
  if objects.isEmpty then [] else (objects.foldl SyncLoop.next ⟨[], [], 0⟩).finish

/-- A float field is left out if all its bits are 0. -/
def floatBitsField (field : Nat) (bits : UInt32) : Nat := if bits = 0 then 0 else tagSize field + 4

def MoveEntry.byteSize (e : MoveEntry) : Nat :=
  intField 1 e.objectId + floatBitsField 2 e.x + floatBitsField 3 e.y + floatBitsField 4 e.vx +
    floatBitsField 5 e.vy + varintField 6 e.state.number + boolField 7 e.lookLeft

def batchSize (serverTick : Nat) (moves : List MoveEntry) : Nat :=
  headerSize + (messages 1 (moves.map (·.byteSize)) + varintField 2 (serverTick % 2 ^ 32))

variable (objects : List SyncObject)

/-! ## What is sent -/

section Loop

variable {l : SyncLoop} {o : SyncObject} {e : MoveEntry}

theorem next_of_none (h : o.entry = none) : l.next o = l := by
  unfold SyncLoop.next
  split
  · rfl
  · next halive =>
    split
    · rfl
    · next hfinite =>
      unfold SyncObject.entry at h
      simp [halive, hfinite] at h

theorem next_of_some (hcount : l.countInPacket = l.moveBatch.length) (h : o.entry = some e) :
    l.next o = if Room.chunkSize ≤ (l.moveBatch ++ [e]).length then
      ⟨l.sent ++ [l.moveBatch ++ [e]], [], 0⟩
      else ⟨l.sent, l.moveBatch ++ [e], (l.moveBatch ++ [e]).length⟩ := by
  unfold SyncObject.entry at h
  split at h
  · cases h
  · next hlisted =>
    cases h
    simp only [Bool.or_eq_true, not_or] at hlisted
    unfold SyncLoop.next
    rw [if_neg hlisted.1, if_neg hlisted.2, hcount, List.length_append]
    rfl

theorem finish_foldl (hcount : l.countInPacket = l.moveBatch.length) :
    (objects.foldl SyncLoop.next l).finish =
      l.sent ++ fill Room.chunkSize l.moveBatch (objects.filterMap SyncObject.entry) := by
  induction objects generalizing l with
  | nil =>
    show l.finish = l.sent ++ if l.moveBatch.isEmpty then [] else [l.moveBatch]
    unfold SyncLoop.finish
    cases l.moveBatch <;> simp
  | cons o objects ih =>
    rw [List.foldl_cons]
    cases hentry : o.entry with
    | none =>
      rw [next_of_none hentry, List.filterMap_cons_none hentry]
      exact ih hcount
    | some e =>
      rw [next_of_some hcount hentry, List.filterMap_cons_some hentry, fill]
      split
      · rw [ih rfl]
        simp only [List.append_assoc, List.cons_append, List.nil_append]
      · exact ih rfl

end Loop

theorem syncNetwork_eq_fill : syncNetwork objects = fill Room.chunkSize
    [] (objects.filterMap SyncObject.entry) := by
  unfold syncNetwork
  split
  · next hempty =>
    rw [List.isEmpty_iff.mp hempty]
    rfl
  · exact finish_foldl objects rfl

theorem floatBitsField_le (field : Nat) (hf : field < 16) (bits : UInt32) :
    floatBitsField field bits ≤ 5 := by
  have htag := tagSize_of_lt hf
  unfold floatBitsField
  split <;> omega

theorem MoveEntry.byteSize_le (e : MoveEntry) : e.byteSize ≤ 35 := by
  have hid := intField_le 1 (by decide) e.objectId
  have hx := floatBitsField_le 2 (by decide) e.x
  have hy := floatBitsField_le 3 (by decide) e.y
  have hvx := floatBitsField_le 4 (by decide) e.vx
  have hvy := floatBitsField_le 5 (by decide) e.vy
  have hstate := varintField_le 6 (by decide) (by decide) e.state.number_lt
  have hlook := boolField_le 7 (by decide) e.lookLeft
  unfold byteSize
  omega

theorem batchSize_lt (serverTick : Nat) {moves : List MoveEntry} (h : moves.length ≤ 300) :
    batchSize serverTick moves < 65535 := by
  have hle := batch_le (by decide) MoveEntry.byteSize_le moves serverTick
  show 4 + (messages 1 (moves.map MoveEntry.byteSize) + varintField 2 (serverTick % 2 ^ 32)) < 65535
  omega

/-- **Position sync is complete and bounded**, for every snapshot of the objects. -/
theorem position_sync (serverTick : Nat) :
    (syncNetwork objects).flatten = objects.filterMap SyncObject.entry ∧
      (∀ b ∈ syncNetwork objects, 1 ≤ b.length ∧ b.length ≤ 300 ∧ batchSize serverTick b < 65535) ∧
      ∀ b ∈ (syncNetwork objects).dropLast, b.length = 300 := by
  rw [syncNetwork_eq_fill]
  refine ⟨flatten_fill _ _ _, fun b hb => ?_, fun b hb => ?_⟩
  · obtain ⟨hpos, hle⟩ := length_of_mem_fill (by decide) (by decide) hb
    exact ⟨hpos, hle, batchSize_lt serverTick hle⟩
  · exact length_of_mem_dropLast_fill (by decide) (by decide) hb

end ToyServer.SimpleGame
