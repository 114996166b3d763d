import Mathlib.Data.List.Basic
import Mathlib.Tactic

/-!
# `MessagePool`: blocks of three sizes

Every thread has a cache of free blocks for each size; behind the caches stand three shared queues.
`PopBlock` takes from the cache, refills it from the queue, or asks the heap; `PushBlock` puts a
block into the cache and moves half of a full cache to the queue.

A message does not know the list its block came from.  `Free` works it out from the type and the
length the message has by then, and `FreeRaw` takes it to be the medium one.
-/

namespace ToyServer

/-! ## Messages -/

inductive MessageType where
  | networkConnect | networkDisconnect | networkData | logicJob | lambdaJob
  | logicTimerExpired | logicTimerAdd | logicTimerCancel | logicTimerTick | packet
deriving DecidableEq, Repr

/-- The classes of messages that are made in pool blocks. -/
inductive MessageKind where
  | packet | event | timerExpired | timerAdd | timerCancel | timerTick
deriving DecidableEq, Repr

inductive SizeLevel where
  | small | medium | large
deriving DecidableEq, Repr

structure PoolBlock where
  addr : Nat
  size : Nat
deriving DecidableEq, Repr

structure PoolMessage where
  block : PoolBlock
  kind : MessageKind
  type : MessageType
  /-- of a `PacketMessage` -/
  length : UInt16
  refCount : Int
  isPooled : Bool
  /-- the list the block was taken from, which the code does not keep -/
  level : Option SizeLevel
deriving DecidableEq, Repr

namespace MessagePool

def SMALL_BODY_SIZE : Nat := 1024

def MEDIUM_BODY_SIZE : Nat := 4096

def LARGE_BODY_SIZE : Nat := 16384

def L1_CACHE_SIZE : Nat := 1000

def BULK_TRANSFER_COUNT : Nat := 500

def bodyOf : SizeLevel → Nat
  | .small => SMALL_BODY_SIZE
  | .medium => MEDIUM_BODY_SIZE
  | .large => LARGE_BODY_SIZE

/-- `BLOCK_SIZE_SMALL`, `_MEDIUM` and `_LARGE`; `header` is `sizeof(PacketMessage)`. -/
def blockSize (header : Nat) (level : SizeLevel) : Nat := header + bodyOf level

end MessagePool

/-! ## The pool -/

structure MessagePool where
  /-- `t_l1` of each thread; the last element is the back of the vector -/
  cache : Nat → SizeLevel → List PoolBlock
  pool : SizeLevel → List PoolBlock
  poolSize : Int
  /-- the next address of the heap -/
  next : Nat

namespace MessagePool

def empty : MessagePool := ⟨fun _ _ => [], fun _ => [], 0, 0⟩

section
variable (p : MessagePool)

def setCache (t : Nat) (level : SizeLevel) (blocks : List PoolBlock) : MessagePool :=
  { p with cache := Function.update p.cache t (Function.update (p.cache t) level blocks) }

def setPool (level : SizeLevel) (blocks : List PoolBlock) : MessagePool :=
  { p with pool := Function.update p.pool level blocks }

def operatorNew (size : Nat) : MessagePool × PoolBlock :=
  ({ p with next := p.next + 1 }, ⟨p.next, size⟩)

/-- `PopBlock`; `bulk` is what `try_dequeue_bulk` finds, any blocks of the queue in any order. -/
def popBlock (header : Nat) (p : MessagePool) (t : Nat) (level : SizeLevel)
    (bulk : List PoolBlock) : Option (MessagePool × PoolBlock) :=
  match (p.cache t level).getLast? with
  | some block => some (p.setCache t level (p.cache t level).dropLast, block)
  | none =>
    if bulk.length ≤ BULK_TRANSFER_COUNT ∧ bulk.Subperm (p.pool level) then
      match bulk with
      | [] => some (p.operatorNew (blockSize header level))
      | block :: rest =>
        some ({ (p.setPool level ((p.pool level).diff bulk)).setCache t level rest with
          poolSize := p.poolSize - bulk.length }, block)
    else none

def pushBlock (t : Nat) (block : PoolBlock) (level : SizeLevel) : MessagePool :=
  let cache := p.cache t level
  if cache.length < L1_CACHE_SIZE then p.setCache t level (cache ++ [block])
  else
    let bulk := cache.reverse.take BULK_TRANSFER_COUNT
    let kept := cache.take (cache.length - BULK_TRANSFER_COUNT)
    { (p.setPool level (p.pool level ++ bulk)).setCache t level (kept ++ [block]) with
      poolSize := p.poolSize + BULK_TRANSFER_COUNT }

/-- The level a body of this size is served from; `none` is the heap. -/
def sizeLevel (bodySize : UInt16) : Option SizeLevel :=
  if bodySize.toNat ≤ SMALL_BODY_SIZE then some .small
  else if bodySize.toNat ≤ MEDIUM_BODY_SIZE then some .medium
  else if bodySize.toNat ≤ LARGE_BODY_SIZE then some .large
  else none

def allocatePacket (header : Nat) (p : MessagePool) (t : Nat) (bodySize : UInt16)
    (bulk : List PoolBlock) : Option (MessagePool × PoolMessage) :=
  match sizeLevel bodySize with
  | none =>
    let (p, block) := p.operatorNew (header + bodySize.toNat)
    some (p, ⟨block, .packet, .packet, bodySize, 1, false, none⟩)
  | some level =>
    (p.popBlock header t level bulk).map fun (p, block) =>
      (p, ⟨block, .packet, .packet, bodySize, 1, true, some level⟩)

/-- The type the constructor or the allocator gives. -/
def initialType : MessageKind → MessageType
  | .packet => .packet
  | .event => .logicJob
  | .timerExpired => .logicTimerExpired
  | .timerAdd => .logicTimerAdd
  | .timerCancel => .logicTimerCancel
  | .timerTick => .logicTimerTick

/-- The allocators of small messages. -/
def allocateSmall (header : Nat) (kind : MessageKind) (p : MessagePool) (t : Nat)
    (bulk : List PoolBlock) : Option (MessagePool × PoolMessage) :=
  (p.popBlock header t .small bulk).map fun (p, block) =>
    (p, ⟨block, kind, initialType kind, 0, 1, true, some .small⟩)

def allocateEvent (header : Nat) := allocateSmall header .event

def allocateTimerExpired (header : Nat) := allocateSmall header .timerExpired

def allocateTimerAdd (header : Nat) := allocateSmall header .timerAdd

def allocateTimerCancel (header : Nat) := allocateSmall header .timerCancel

def allocateTimerTick (header : Nat) := allocateSmall header .timerTick

/-- The level `Free` works out. -/
def freeLevel (msg : PoolMessage) : SizeLevel :=
  if msg.type = .packet then
    if msg.length.toNat ≤ SMALL_BODY_SIZE then .small
    else if msg.length.toNat ≤ MEDIUM_BODY_SIZE then .medium
    else .large
  else .small

/-- `Free`: what is left of the message, and the level its block went to. -/
def free (t : Nat) (msg : PoolMessage) : MessagePool × Option PoolMessage × Option SizeLevel :=
  if msg.refCount = 1 then
    if msg.isPooled then (p.pushBlock t msg.block (freeLevel msg), none, some (freeLevel msg))
    else (p, none, none)
  else (p, some { msg with refCount := msg.refCount - 1 }, none)

def freeRaw (t : Nat) (block : PoolBlock) : MessagePool := p.pushBlock t block .medium

def prepareLevel (header : Nat) (p : MessagePool) (level : SizeLevel) (count : Nat) : MessagePool :=
  { p.setPool level (p.pool level ++ (List.range count).map fun i =>
    ⟨p.next + i, blockSize header level⟩) with
    poolSize := p.poolSize + count
    next := p.next + count }

def prepare (header : Nat) (p : MessagePool) (smallCount mediumCount largeCount : Nat) :
    MessagePool :=
  ((p.prepareLevel header .small smallCount).prepareLevel header .medium mediumCount).prepareLevel
    header .large largeCount

/-- `Clear`: the queues, not the caches of the threads. -/
def clear : MessagePool := { p with pool := fun _ => [] }

end

/-! ## Blocks in the lists -/

/-- Every free block is as large as its list says. -/
structure Sized (header : Nat) (p : MessagePool) : Prop where
  cache : ∀ t level, ∀ block ∈ p.cache t level, blockSize header level ≤ block.size
  pool : ∀ level, ∀ block ∈ p.pool level, blockSize header level ≤ block.size

variable {header : Nat} {p p' : MessagePool} {t : Nat} {level : SizeLevel} {block : PoolBlock}

section

variable (h : Sized header p)
include h

theorem Sized.setCache {blocks : List PoolBlock}
    (hb : ∀ block ∈ blocks, blockSize header level ≤ block.size) :
    Sized header (p.setCache t level blocks) := by
  refine ⟨fun t' level' block hmem => ?_, h.pool⟩
  simp only [MessagePool.setCache, Function.update_apply] at hmem
  split at hmem
  · next ht =>
    rw [Function.update_apply] at hmem
    split at hmem
    · next hl => exact hl ▸ hb block hmem
    · exact h.cache t level' block hmem
  · exact h.cache t' level' block hmem

theorem Sized.setPool {blocks : List PoolBlock}
    (hb : ∀ block ∈ blocks, blockSize header level ≤ block.size) :
    Sized header (p.setPool level blocks) := by
  refine ⟨h.cache, fun level' block hmem => ?_⟩
  simp only [MessagePool.setPool, Function.update_apply] at hmem
  split at hmem
  · next hl => exact hl ▸ hb block hmem
  · exact h.pool level' block hmem

theorem Sized.setBoth {inPool inCache : List PoolBlock} {poolSize : Int}
    (hp : ∀ block ∈ inPool, blockSize header level ≤ block.size)
    (hb : ∀ block ∈ inCache, blockSize header level ≤ block.size) :
    Sized header
      { (p.setPool level inPool).setCache t level inCache with poolSize := poolSize } := by
  have hset : Sized header ((p.setPool level inPool).setCache t level inCache) :=
    (h.setPool hp).setCache hb
  exact ⟨hset.cache, hset.pool⟩

theorem popBlock_sized {bulk : List PoolBlock}
    (hp : p.popBlock header t level bulk = some (p', block)) :
    Sized header p' ∧ blockSize header level ≤ block.size := by
  unfold popBlock at hp
  split at hp
  · next last hlast =>
    cases hp
    refine ⟨h.setCache fun b hmem => h.cache t level b (List.mem_of_mem_dropLast hmem), ?_⟩
    exact h.cache t level block (List.mem_of_getLast? hlast)
  · rw [Option.ite_none_right_eq_some] at hp
    obtain ⟨⟨-, hsub⟩, hp⟩ := hp
    split at hp
    · cases hp
      exact ⟨⟨h.cache, h.pool⟩, le_rfl⟩
    · cases hp
      have hbulk : ∀ b ∈ p.pool level, blockSize header level ≤ b.size := h.pool level
      refine ⟨h.setBoth (fun b hmem => hbulk b (List.diff_subset _ _ hmem)) fun b hmem => ?_, ?_⟩
      · exact hbulk b (hsub.subset (List.mem_cons_of_mem _ hmem))
      · exact hbulk block (hsub.subset List.mem_cons_self)

theorem pushBlock_sized (hb : blockSize header level ≤ block.size) :
    Sized header (p.pushBlock t block level) := by
  have happend : ∀ blocks : List PoolBlock, (∀ b ∈ blocks, b ∈ p.cache t level) →
      ∀ b ∈ blocks ++ [block], blockSize header level ≤ b.size := by
    intro blocks hsub b hmem
    rcases List.mem_append.mp hmem with hmem | hmem
    · exact h.cache t level b (hsub b hmem)
    · exact List.mem_singleton.mp hmem ▸ hb
  unfold pushBlock
  dsimp only
  split
  · exact h.setCache (happend _ fun _ hmem => hmem)
  · refine h.setBoth (fun b hmem => ?_) (happend _ fun _ hmem => List.mem_of_mem_take hmem)
    rcases List.mem_append.mp hmem with hmem | hmem
    · exact h.pool level b hmem
    · exact h.cache t level b (List.mem_reverse.mp (List.mem_of_mem_take hmem))

theorem prepareLevel_sized (count : Nat) : Sized header (p.prepareLevel header level count) := by
  have hblocks : ∀ b ∈ p.pool level ++ (List.range count).map fun i =>
        (⟨p.next + i, blockSize header level⟩ : PoolBlock),
      blockSize header level ≤ b.size := by
    intro b hmem
    rcases List.mem_append.mp hmem with hmem | hmem
    · exact h.pool level b hmem
    · obtain ⟨i, -, rfl⟩ := List.mem_map.mp hmem
      exact le_rfl
  have hset := h.setPool hblocks
  exact ⟨hset.cache, hset.pool⟩

theorem prepare_sized (smallCount mediumCount largeCount : Nat) :
    Sized header (p.prepare header smallCount mediumCount largeCount) :=
  prepareLevel_sized (prepareLevel_sized (prepareLevel_sized h _) _) _

theorem clear_sized : Sized header p.clear :=
  ⟨h.cache, fun _ _ hmem => absurd hmem List.not_mem_nil⟩

end

end MessagePool

end ToyServer
