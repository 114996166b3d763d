import ToyServer.Dispatcher.MessagePool
import ToyServer.Lib.Runs

/-!
# Do blocks go back to the list they came from?

Sessions overwrite the type of a packet they received with `NETWORK_DATA`, and `Free` looks at the
length only of a `PACKET`: a received packet of more than 1024 bytes goes to the small list.
`FreeRaw` puts every block into the medium list, so a small block is handed out as a medium one.

* `size_classes_iff`: in a run every block goes back to its own list, and is large enough when it is
handed out, exactly if every block freed still has the type `PACKET` or is a small one, and every
block freed raw is a medium one (`KeepsClass`).
-/

namespace ToyServer

open Runs MessagePool

/-! ## Calls -/

structure PoolState where
  pool : MessagePool
  live : Nat → Option PoolMessage
  /-- the lists a block was taken from and went to, for every block that was given back -/
  returned : List (SizeLevel × SizeLevel)
  /-- level and true size of the blocks handed out -/
  handed : List (SizeLevel × Nat)

inductive PoolAction where
  | allocatePacket (t : Nat) (bodySize : UInt16) (bulk : List PoolBlock)
  /-- the event and timer allocators -/
  | allocateSmall (t : Nat) (kind : MessageKind) (bulk : List PoolBlock)
  | setType (addr : Nat) (type : MessageType)
  | addRef (addr : Nat)
  | free (t : Nat) (addr : Nat)
  | freeRaw (t : Nat) (addr : Nat)
  | prepare (smallCount mediumCount largeCount : Nat)
  | clear
deriving DecidableEq, Repr

/-- What the sessions make of a message: received packets are data, events are connects and
disconnects. -/
def sessionType : MessageKind → MessageType → Bool
  | .packet, .networkData => true
  | .event, .networkConnect | .event, .networkDisconnect => true
  | _, _ => false

namespace PoolState

def init : PoolState := ⟨.empty, fun _ => none, [], []⟩

def hand (s : PoolState) (made : MessagePool × PoolMessage) : PoolState :=
  { s with
    pool := made.1
    live := Function.update s.live made.2.block.addr (some made.2)
    handed := s.handed ++ (made.2.level.map fun level => (level, made.2.block.size)).toList }

/-- The end of a message, or one reference less; `dest` is the list its block went to. -/
def giveBack (s : PoolState) (pool : MessagePool) (msg : PoolMessage) (left : Option PoolMessage)
    (dest : Option SizeLevel) : PoolState :=
  { s with
    pool := pool
    live := Function.update s.live msg.block.addr left
    returned := s.returned ++ (Option.map₂ Prod.mk msg.level dest).toList }

def step (header : Nat) (s : PoolState) : PoolAction → Option PoolState
  | .allocatePacket t bodySize bulk => (s.pool.allocatePacket header t bodySize bulk).map s.hand
  | .allocateSmall t kind bulk =>
    if kind = .packet then none else (s.pool.allocateSmall header kind t bulk).map s.hand
  | .setType addr type =>
    match s.live addr with
    | none => none
    | some msg =>
      if sessionType msg.kind type then
        some { s with live := Function.update s.live addr (some { msg with type := type }) }
      else none
  | .addRef addr =>
    match s.live addr with
    | none => none
    | some msg =>
      some { s with
        live := Function.update s.live addr (some { msg with refCount := msg.refCount + 1 }) }
  | .free t addr =>
    match s.live addr with
    | none => none
    | some msg =>
      let freed := s.pool.free t msg
      some (s.giveBack freed.1 msg freed.2.1 freed.2.2)
  | .freeRaw t addr =>
    match s.live addr with
    | none => none
    | some msg => some (s.giveBack (s.pool.freeRaw t msg.block) msg none (some .medium))
  | .prepare smallCount mediumCount largeCount =>
    some { s with pool := s.pool.prepare header smallCount mediumCount largeCount }
  | .clear => some { s with pool := s.pool.clear }

end PoolState

/-- Blocks go back where they came from, and are large enough when they are handed out. -/
structure ClassesRespected (header : Nat) (s : PoolState) : Prop where
  own : ∀ r ∈ s.returned, r.2 = r.1
  fits : ∀ h ∈ s.handed, blockSize header h.1 ≤ h.2

/-- A block that is freed is that of a `PACKET` or a small one; a block that is freed raw is a
medium one. -/
def KeepsClass (s : PoolState) : PoolAction → Prop
  | .free _ addr =>
      ∀ msg level, s.live addr = some msg → msg.refCount = 1 → msg.level = some level →
      msg.type = .packet ∨ level = .small
  | .freeRaw _ addr =>
    ∀ msg level, s.live addr = some msg → msg.level = some level → level = .medium
  | .allocatePacket _ _ _ | .allocateSmall _ _ _ | .setType _ _ | .addRef _ | .prepare _ _ _
  | .clear => True

variable {header : Nat} {s s' : PoolState} {a : PoolAction} {msg : PoolMessage}

/-! ## What a call does -/

inductive PoolStepped (header : Nat) (s : PoolState) : PoolAction → PoolState → Prop
  | packet {t : Nat} {bodySize : UInt16} {bulk : List PoolBlock} {made : MessagePool × PoolMessage}
      (hmade : s.pool.allocatePacket header t bodySize bulk = some made) :
      PoolStepped header s (.allocatePacket t bodySize bulk) (s.hand made)
  | small {t : Nat} {kind : MessageKind} {bulk : List PoolBlock} {made : MessagePool × PoolMessage}
      (hkind : kind ≠ .packet) (hmade : s.pool.allocateSmall header kind t bulk = some made) :
      PoolStepped header s (.allocateSmall t kind bulk) (s.hand made)
  | retyped {addr : Nat} {type : MessageType} {msg : PoolMessage} (hmsg : s.live addr = some msg)
      (htype : sessionType msg.kind type = true) :
      PoolStepped header s (.setType addr type)
        { s with live := Function.update s.live addr (some { msg with type := type }) }
  | counted {addr : Nat} {msg : PoolMessage} (hmsg : s.live addr = some msg) :
      PoolStepped header s (.addRef addr)
        { s with
          live := Function.update s.live addr (some { msg with refCount := msg.refCount + 1 }) }
  | freed {t addr : Nat} {msg : PoolMessage} (hmsg : s.live addr = some msg) :
      PoolStepped header s (.free t addr)
        (s.giveBack (s.pool.free t msg).1 msg (s.pool.free t msg).2.1 (s.pool.free t msg).2.2)
  | raw {t addr : Nat} {msg : PoolMessage} (hmsg : s.live addr = some msg) :
      PoolStepped header s (.freeRaw t addr)
      (s.giveBack (s.pool.freeRaw t msg.block) msg none (some .medium))
  | prepared {smallCount mediumCount largeCount : Nat} :
      PoolStepped header s (.prepare smallCount mediumCount largeCount)
        { s with pool := s.pool.prepare header smallCount mediumCount largeCount }
  | cleared : PoolStepped header s .clear { s with pool := s.pool.clear }

theorem poolStepped (hs : s.step header a = some s') : PoolStepped header s a s' := by
  cases a with
  | allocatePacket t bodySize bulk =>
    obtain ⟨made, hmade, rfl⟩ := Option.map_eq_some_iff.mp hs
    exact .packet hmade
  | allocateSmall t kind bulk =>
    simp only [PoolState.step, Option.ite_none_left_eq_some] at hs
    obtain ⟨made, hmade, rfl⟩ := Option.map_eq_some_iff.mp hs.2
    exact .small hs.1 hmade
  | setType addr type =>
    simp only [PoolState.step] at hs
    split at hs
    · cases hs
    · next msg hmsg =>
      rw [Option.ite_none_right_eq_some, Option.some.injEq] at hs
      obtain ⟨htype, rfl⟩ := hs
      exact .retyped hmsg htype
  | addRef addr =>
    simp only [PoolState.step] at hs
    split at hs
    · cases hs
    · next hmsg => cases hs; exact .counted hmsg
  | free t addr =>
    simp only [PoolState.step] at hs
    split at hs
    · cases hs
    · next hmsg => cases hs; exact .freed hmsg
  | freeRaw t addr =>
    simp only [PoolState.step] at hs
    split at hs
    · cases hs
    · next hmsg => cases hs; exact .raw hmsg
  | prepare smallCount mediumCount largeCount => cases hs; exact .prepared
  | clear => cases hs; exact .cleared

/-! ## Messages -/

/-- What stays true of a message whatever its type is by now. -/
structure MessageOk (header : Nat) (msg : PoolMessage) : Prop where
  pooled : msg.isPooled = msg.level.isSome
  packet : msg.kind = .packet → msg.level = sizeLevel msg.length
  other : msg.kind ≠ .packet → msg.level = some .small ∧ msg.type ≠ .packet
  heap : msg.level = none → header + LARGE_BODY_SIZE ≤ msg.block.size

def MessagesOk (header : Nat) (s : PoolState) : Prop :=
  ∀ addr msg, s.live addr = some msg → msg.block.addr = addr ∧ MessageOk header msg

variable {left : Option PoolMessage} {t : Nat} {bulk : List PoolBlock}
  {made : MessagePool × PoolMessage} {p : MessagePool} {level : SizeLevel}

theorem MessagesOk.update (h : MessagesOk header s) {addr : Nat}
    (hleft : ∀ msg, left = some msg → msg.block.addr = addr ∧ MessageOk header msg) :
    ∀ addr' msg, Function.update s.live addr left addr' = some msg → msg.block.addr = addr' ∧
    MessageOk header msg := by
  intro addr' msg hmsg
  rw [Function.update_apply] at hmsg
  split at hmsg
  · next heq => exact heq ▸ hleft msg hmsg
  · exact h addr' msg hmsg

theorem sizeLevel_none {bodySize : UInt16} (h : sizeLevel bodySize = none) :
    LARGE_BODY_SIZE ≤ bodySize.toNat := by
  unfold sizeLevel at h
  split at h
  · cases h
  · split at h
    · cases h
    · split at h
      · cases h
      · omega

theorem allocatePacket_ok {bodySize : UInt16}
    (h : s.pool.allocatePacket header t bodySize bulk = some made) : MessageOk header made.2 := by
  unfold allocatePacket at h
  split at h
  · next hlevel =>
    cases h
    exact ⟨rfl, fun _ => hlevel.symm, fun hkind => absurd rfl hkind,
      fun _ => Nat.add_le_add_left (sizeLevel_none hlevel) header⟩
  · next level hlevel =>
    obtain ⟨⟨pool, block⟩, -, rfl⟩ := Option.map_eq_some_iff.mp h
    exact ⟨rfl, fun _ => hlevel.symm, fun hkind => absurd rfl hkind, nofun⟩

theorem allocateSmall_ok {kind : MessageKind}
    (hkind : kind ≠ .packet) (h : s.pool.allocateSmall header kind t bulk = some made) :
    MessageOk header made.2 := by
  obtain ⟨⟨pool, block⟩, -, rfl⟩ := Option.map_eq_some_iff.mp h
  refine ⟨rfl, fun hk => absurd hk hkind, fun _ => ⟨rfl, ?_⟩, nofun⟩
  cases kind with
  | packet => exact absurd rfl hkind
  | event | timerExpired | timerAdd | timerCancel | timerTick => nofun

theorem MessageOk.setType (h : MessageOk header msg) {type : MessageType}
    (htype : sessionType msg.kind type = true) : MessageOk header { msg with type := type } := by
  refine ⟨h.pooled, h.packet, fun hkind => ⟨(h.other hkind).1, ?_⟩, h.heap⟩
  rintro rfl
  unfold sessionType at htype
  split at htype
  · next heq => cases heq
  · next heq => cases heq
  · next heq => cases heq
  · cases htype

theorem MessageOk.recount (h : MessageOk header msg) (refCount : Int) :
    MessageOk header { msg with refCount := refCount } :=
  ⟨h.pooled, h.packet, h.other, h.heap⟩

theorem free_left {left : PoolMessage} (h : (p.free t msg).2.1 = some left) :
    left = { msg with refCount := msg.refCount - 1 } := by
  unfold MessagePool.free at h
  split at h
  · split at h
    · cases h
    · cases h
  · exact (Option.some.inj h).symm

theorem messagesOk_init : MessagesOk header .init := by
  intro _ _ h
  cases h

theorem MessagesOk.hand (h : MessagesOk header s) (hok : MessageOk header made.2) :
    MessagesOk header (s.hand made) :=
  h.update fun msg hmsg => by
    cases hmsg
    exact ⟨rfl, hok⟩

theorem messagesOk_step (h : MessagesOk header s) (hs : PoolStepped header s a s') :
    MessagesOk header s' := by
  cases hs with
  | packet hmade => exact h.hand (allocatePacket_ok hmade)
  | small hkind hmade => exact h.hand (allocateSmall_ok hkind hmade)
  | @retyped addr _ msg hmsg htype =>
    refine h.update fun msg' heq => ?_
    cases heq
    exact ⟨(h addr msg hmsg).1, (h addr msg hmsg).2.setType htype⟩
  | @counted addr msg hmsg =>
    refine h.update fun msg' heq => ?_
    cases heq
    exact ⟨(h addr msg hmsg).1, (h addr msg hmsg).2.recount _⟩
  | @freed _ addr msg hmsg =>
    refine h.update fun left heq => ?_
    cases free_left heq
    exact ⟨rfl, (h addr msg hmsg).2.recount _⟩
  | raw _ =>
    refine h.update fun msg' heq => ?_
    cases heq
  | prepared => exact h
  | cleared => exact h

/-! ## Where blocks go -/

theorem freeLevel_packet (htype : msg.type = .packet) (hlevel : sizeLevel msg.length = some level) :
    freeLevel msg = level := by
  unfold sizeLevel at hlevel
  unfold freeLevel
  rw [if_pos htype]
  split at hlevel
  · next h => rw [if_pos h]; exact Option.some.inj hlevel
  · next h =>
    rw [if_neg h]
    split at hlevel
    · next h => rw [if_pos h]; exact Option.some.inj hlevel
    · next h =>
      rw [if_neg h]
      split at hlevel
      · exact Option.some.inj hlevel
      · cases hlevel

theorem freeLevel_other (htype : msg.type ≠ .packet) : freeLevel msg = .small := if_neg htype

/-- **The level is worked out right** exactly for a `PACKET` and for a small block. -/
theorem freeLevel_eq_iff (h : MessageOk header msg) (hlevel : msg.level = some level) :
    freeLevel msg = level ↔ msg.type = .packet ∨ level = .small := by
  by_cases htype : msg.type = .packet
  · have hkind : msg.kind = .packet := by
      by_contra hkind
      exact (h.other hkind).2 htype
    exact ⟨fun _ => .inl htype,
      fun _ => freeLevel_packet htype ((h.packet hkind).symm.trans hlevel)⟩
  · rw [freeLevel_other htype]
    exact ⟨fun heq => .inr heq.symm, fun hor => (hor.resolve_left htype).symm⟩

theorem freeLevel_le (h : MessageOk header msg) (hlevel : msg.level = some level) :
    blockSize header (freeLevel msg) ≤ blockSize header level := by
  by_cases htype : msg.type = .packet
  · rw [(freeLevel_eq_iff h hlevel).mpr (.inl htype)]
  · rw [freeLevel_other htype]
    cases level <;> simp [blockSize, bodyOf, SMALL_BODY_SIZE, MEDIUM_BODY_SIZE, LARGE_BODY_SIZE]

def OwnLists (s : PoolState) : Prop := ∀ r ∈ s.returned, r.2 = r.1

theorem ownLists_giveBack {pool : MessagePool} {dest : Option SizeLevel} :
    OwnLists (s.giveBack pool msg left dest) ↔
      OwnLists s ∧ ∀ level level', msg.level = some level → dest = some level' →
      level' = level := by
  simp only [OwnLists, PoolState.giveBack, List.forall_mem_append]
  refine and_congr_right fun _ => ?_
  cases hlevel : msg.level with
  | none => simp
  | some level =>
    cases dest with
    | none => simp
    | some level' => simp

theorem free_dest (h : MessageOk header msg) (hlevel : msg.level = some level) :
    (p.free t msg).2.2 = if msg.refCount = 1 then some (freeLevel msg) else none := by
  have hpooled : msg.isPooled = true := by rw [h.pooled, hlevel]; rfl
  unfold MessagePool.free
  rw [if_pos hpooled]
  split <;> rfl

theorem ownLists_step (h : MessagesOk header s) (hs : PoolStepped header s a s') :
    OwnLists s' ↔ OwnLists s ∧ KeepsClass s a := by
  cases hs with
  | @freed t addr msg hmsg =>
    have hok := (h addr msg hmsg).2
    rw [ownLists_giveBack]
    refine and_congr_right fun _ =>
      ⟨fun hall msg' level heq hone hlevel => ?_, fun hkeeps level level' hlevel hdest => ?_⟩
    · cases hmsg.symm.trans heq
      refine (freeLevel_eq_iff hok hlevel).mp (hall level _ hlevel ?_)
      rw [free_dest hok hlevel, if_pos hone]
    · rw [free_dest hok hlevel] at hdest
      split at hdest
      · next hone =>
        cases hdest
        exact (freeLevel_eq_iff hok hlevel).mpr (hkeeps msg level hmsg hone hlevel)
      · cases hdest
  | @raw t addr msg hmsg =>
    rw [ownLists_giveBack]
    refine and_congr_right fun _ =>
      ⟨fun hall msg' level heq hlevel => ?_, fun hkeeps level level' hlevel hdest => ?_⟩
    · cases hmsg.symm.trans heq
      exact (hall level _ hlevel rfl).symm
    · cases hdest
      exact (hkeeps msg level hmsg hlevel).symm
  | packet _ | small _ _ | retyped _ _ | counted _ | prepared | cleared =>
    exact (and_iff_left trivial).symm

/-! ## Sizes -/

/-- Blocks are as large as their level says, in the lists and in use. -/
structure PoolFits (header : Nat) (s : PoolState) : Prop where
  lists : Sized header s.pool
  live : ∀ addr msg level, s.live addr = some msg → msg.level = some level →
    blockSize header level ≤ msg.block.size
  handed : ∀ h ∈ s.handed, blockSize header h.1 ≤ h.2

theorem allocatePacket_sized (h : Sized header p) {bodySize : UInt16}
    (hmade : p.allocatePacket header t bodySize bulk = some made) :
    Sized header made.1 ∧ ∀ level, made.2.level = some level →
    blockSize header level ≤ made.2.block.size := by
  unfold allocatePacket at hmade
  split at hmade
  · cases hmade
    exact ⟨⟨h.cache, h.pool⟩, nofun⟩
  · obtain ⟨⟨pool, block⟩, hpop, rfl⟩ := Option.map_eq_some_iff.mp hmade
    obtain ⟨hsized, hsize⟩ := popBlock_sized h hpop
    refine ⟨hsized, fun level hlevel => ?_⟩
    cases hlevel
    exact hsize

theorem allocateSmall_sized (h : Sized header p) {kind : MessageKind}
    (hmade : p.allocateSmall header kind t bulk = some made) :
    Sized header made.1 ∧ ∀ level, made.2.level = some level →
    blockSize header level ≤ made.2.block.size := by
  obtain ⟨⟨pool, block⟩, hpop, rfl⟩ := Option.map_eq_some_iff.mp hmade
  obtain ⟨hsized, hsize⟩ := popBlock_sized h hpop
  refine ⟨hsized, fun level hlevel => ?_⟩
  cases hlevel
  exact hsize

section

variable (h : PoolFits header s)
include h

theorem PoolFits.hand (hsized : Sized header made.1)
    (hsize : ∀ level, made.2.level = some level → blockSize header level ≤ made.2.block.size) :
    PoolFits header (s.hand made) := by
  refine ⟨hsized, fun addr msg level hmsg hlevel => ?_, fun entry hmem => ?_⟩
  · simp only [PoolState.hand, Function.update_apply] at hmsg
    split at hmsg
    · cases hmsg
      exact hsize level hlevel
    · exact h.live addr msg level hmsg hlevel
  · rcases List.mem_append.mp hmem with hmem | hmem
    · exact h.handed entry hmem
    · rw [Option.mem_toList, Option.map_eq_some_iff] at hmem
      obtain ⟨level, hlevel, rfl⟩ := hmem
      exact hsize level hlevel

/-- A message changes, its block and its level do not; or it goes. -/
theorem PoolFits.update {pool : MessagePool} (hpool : Sized header pool) {addr addr' : Nat}
    {returned : List (SizeLevel × SizeLevel)} (hmsg : s.live addr' = some msg)
    (hleft : ∀ msg', left = some msg' → msg'.block = msg.block ∧ msg'.level = msg.level) :
    PoolFits header ⟨pool, Function.update s.live addr left, returned, s.handed⟩ := by
  refine ⟨hpool, fun addr₁ msg' level hl hlevel => ?_, h.handed⟩
  simp only [Function.update_apply] at hl
  split at hl
  · obtain ⟨hblock, hsame⟩ := hleft msg' hl
    rw [hblock]
    exact h.live addr' msg level hmsg (hsame.symm.trans hlevel)
  · exact h.live addr₁ msg' level hl hlevel

theorem free_sized (hok : MessageOk header msg) {addr : Nat} (hmsg : s.live addr = some msg) :
    Sized header (s.pool.free t msg).1 := by
  unfold MessagePool.free
  split
  · split
    · next hpooled =>
      rw [hok.pooled, Option.isSome_iff_exists] at hpooled
      obtain ⟨level, hlevel⟩ := hpooled
      exact pushBlock_sized h.lists
        ((freeLevel_le hok hlevel).trans (h.live addr msg level hmsg hlevel))
    · exact h.lists
  · exact h.lists

theorem freeRaw_sized (hok : MessageOk header msg) {addr : Nat} (hmsg : s.live addr = some msg)
    (hlevel : msg.level ≠ some .small) : Sized header (s.pool.freeRaw t msg.block) := by
  refine pushBlock_sized h.lists ?_
  have hle : ∀ level, level ≠ .small → blockSize header .medium ≤ blockSize header level := by
    intro level hne
    cases level with
    | small => exact absurd rfl hne
    | medium => exact le_rfl
    | large => simp [blockSize, bodyOf, MEDIUM_BODY_SIZE, LARGE_BODY_SIZE]
  cases hl : msg.level with
  | none => exact (hle .large nofun).trans (hok.heap hl)
  | some level =>
    exact (hle level fun heq => hlevel (heq ▸ hl)).trans (h.live addr msg level hmsg hl)

/-- Sizes are lost only when a small block is freed raw. -/
theorem poolFits_step (hok : MessagesOk header s)
    (hraw : ∀ t addr msg, a = .freeRaw t addr → s.live addr = some msg → msg.level ≠ some .small)
    (hs : PoolStepped header s a s') : PoolFits header s' := by
  cases hs with
  | packet hmade =>
    obtain ⟨hsized, hsize⟩ := allocatePacket_sized h.lists hmade
    exact h.hand hsized hsize
  | small _ hmade =>
    obtain ⟨hsized, hsize⟩ := allocateSmall_sized h.lists hmade
    exact h.hand hsized hsize
  | retyped hmsg _ => exact h.update h.lists hmsg fun msg' heq => by cases heq; exact ⟨rfl, rfl⟩
  | counted hmsg => exact h.update h.lists hmsg fun msg' heq => by cases heq; exact ⟨rfl, rfl⟩
  | @freed _ addr msg hmsg =>
    exact h.update (free_sized h (hok addr msg hmsg).2 hmsg) hmsg fun msg' heq => by
      cases free_left heq
      exact ⟨rfl, rfl⟩
  | @raw t addr msg hmsg =>
    refine h.update (freeRaw_sized h (hok addr msg hmsg).2 hmsg (hraw t addr msg rfl hmsg)) hmsg
      fun msg' heq => ?_
    cases heq
  | prepared => exact ⟨prepare_sized h.lists _ _ _, h.live, h.handed⟩
  | cleared => exact ⟨clear_sized h.lists, h.live, h.handed⟩

end

theorem poolFits_init : PoolFits header .init where
  lists :=
    ⟨fun _ _ _ hmem => absurd hmem List.not_mem_nil, fun _ _ hmem => absurd hmem List.not_mem_nil⟩
  live _ _ _ h := by cases h
  handed _ hmem := absurd hmem List.not_mem_nil

theorem poolFits_run {as : List PoolAction}
    (hok : Meets (PoolState.step header) KeepsClass .init as)
    (h : run (PoolState.step header) .init as = some s) : PoolFits header s := by
  have hinv : MessagesOk header s ∧ PoolFits header s := by
    refine run_inv_of_meets (fun s => MessagesOk header s ∧ PoolFits header s) ?_ ⟨messagesOk_init,
      poolFits_init⟩ hok h
    rintro s a s' ⟨hmsgs, hfits⟩ hkeeps hs
    refine ⟨messagesOk_step hmsgs (poolStepped hs), poolFits_step hfits hmsgs ?_ (poolStepped hs)⟩
    rintro t addr msg rfl hmsg hlevel
    cases hkeeps msg .small hmsg hlevel
  exact hinv.2

/-- **Size classes** are respected in a run exactly if every block is freed as what it is. -/
theorem size_classes_iff (header : Nat) (as : List PoolAction) {s : PoolState}
    (h : run (PoolState.step header) .init as = some s) :
    ClassesRespected header s ↔ Meets (PoolState.step header) KeepsClass .init as := by
  have hiff : OwnLists s ↔ OwnLists .init ∧ Meets (PoolState.step header) KeepsClass .init as :=
    run_iff_meets (MessagesOk header) OwnLists
      (fun _ _ _ hmsgs hs => messagesOk_step hmsgs (poolStepped hs))
      (fun _ _ _ hmsgs hs => ownLists_step hmsgs (poolStepped hs)) messagesOk_init h
  constructor
  · intro hresp
    exact (hiff.mp hresp.own).2
  · intro hmeets
    have hnone : OwnLists .init := fun _ hmem => absurd hmem List.not_mem_nil
    exact ⟨hiff.mpr ⟨hnone, hmeets⟩, (poolFits_run hmeets h).handed⟩

/-- A medium packet sent and freed, an event posted as a connect and freed; 48 is
`sizeof(PacketMessage)`. -/
theorem size_classes_packet_event :
    ∃ s, run (PoolState.step 48) .init
        [.allocatePacket 0 2000 [], .allocateSmall 0 .event [], .setType 1 .networkConnect,
          .free 0 0, .free 1 1] =
        some s ∧
      s.returned.length = 2 ∧ ClassesRespected 48 s := by
  refine exists_run_and ⟨_, rfl, by decide⟩ fun s hs => (size_classes_iff 48 _ hs).mpr ?_
  refine meets_cons trivial rfl (meets_cons trivial rfl (meets_cons trivial rfl (meets_cons ?_ rfl
    (meets_cons ?_ rfl trivial))))
  · intro msg level hmsg _ _
    cases hmsg
    exact .inl rfl
  · intro msg level hmsg _ hlevel
    cases hmsg
    cases hlevel
    exact .inr rfl

/-- **Size classes are mixed up.** A received packet of 2000 bytes goes to the small list.  A small
block that is freed raw is handed out for a body of 4096 bytes. -/
theorem size_classes_mixed :
    (∃ s, run (PoolState.step 48) .init
        [.allocatePacket 0 2000 [], .setType 0 .networkData, .free 0 0] = some s ∧
      s.returned = [(.medium, .small)] ∧ ¬ ClassesRespected 48 s) ∧
    ∃ s, run (PoolState.step 48) .init
        [.allocatePacket 0 100 [], .freeRaw 0 0, .allocatePacket 0 4096 []] = some s ∧
      s.handed = [(.small, 1072), (.medium, 1072)] ∧ blockSize 48 .medium = 4144 ∧
      ¬ ClassesRespected 48 s := by
  refine ⟨⟨_, rfl, by decide, fun h => ?_⟩, ⟨_, rfl, by decide, by decide, fun h => ?_⟩⟩
  · exact absurd (h.own (.medium, .small) (by decide)) nofun
  · exact absurd (h.fits (.medium, 1072) (by decide)) (by decide)

end ToyServer
