import ToyServer.Game.ObjectIdentity
import ToyServer.Lib.Wire

/-!
# How large packets get

`CalculateSafeSize` aborts the process on a packet of more than 65535 bytes.  The lists in the
packets of a room grow with its objects, of which there can be any number: nobody counts the players
that join, and gems stay until someone takes them.  The first packet for a player that is ready has
all objects in it at once.

A packet whose lists have at most 910 entries fits (`fits_of_width`).  The packets of a tick, a task
or a command have lists no longer than the table of objects at that moment, but for the hits of
projectiles, so `packets_fit` is about rooms that never have more objects than that.
-/

namespace ToyServer.SimpleGame

open Chain Runs

/-! ## Sizes -/

def ObjectType.number : ObjectType → Nat
  | unknown => 0
  | player => 1
  | monster => 2
  | projectile => 3
  | item => 4

def ObjectState.number : ObjectState → Nat
  | idle => 0
  | moving => 1
  | attacking => 2
  | dead => 3
  | downed => 4
  | knockback => 5
  | stunned => 6

open Wire

/-- Field 9, the owner, is never set. -/
def ObjectInfo.byteSize (o : ObjectInfo) : Nat :=
  intField 1 o.objectId + varintField 2 o.type.number + intField 3 o.typeId + floatField 4 o.x +
    floatField 5 o.y +
    intField 6 o.hp + intField 7 o.maxHp + varintField 8 o.state.number + floatField 10 o.vx +
      floatField 11 o.vy +
    boolField 12 o.lookLeft

def ObjectPos.byteSize (o : ObjectPos) : Nat :=
  intField 1 o.objectId + floatField 2 o.x + floatField 3 o.y + floatField 4 o.vx +
    floatField 5 o.vy + varintField 6 o.state.number + boolField 7 o.lookLeft

def Packet.byteSize : Packet → Nat
  | spawnObject objects serverTick =>
    messages 1 (objects.map (·.byteSize)) + varintField 2 (serverTick % 2 ^ 32)
  | despawnObject objectIds pickerIds =>
    packed 1 (objectIds.map intSize) + packed 2 (pickerIds.map intSize)
  | moveObjectBatch moves serverTick =>
    messages 1 (moves.map (·.byteSize)) + varintField 2 (serverTick % 2 ^ 32)
  | damageEffect skillId targetIds damageValues isCritical =>
    intField 1 skillId + packed 2 (targetIds.map intSize) + packed 3 (damageValues.map intSize) +
      packed 4 (isCritical.map fun _ => 1)
  | gameOver survivedTime isWin => intField 1 (truncate (survivedTime * 1000)) + boolField 2 isWin

def headerSize : Nat := 4

def maxPacketSize : Nat := 65535

/-- `CalculateSafeSize` does not abort. -/
def Packet.Fits (pkt : Packet) : Prop := headerSize + pkt.byteSize ≤ maxPacketSize

instance (pkt : Packet) : Decidable pkt.Fits := inferInstanceAs (Decidable (_ ≤ _))

theorem ObjectState.number_lt (state : ObjectState) : state.number < 2 ^ (7 * 1) := by
  cases state <;> decide

theorem ObjectInfo.byteSize_le (o : ObjectInfo) : o.byteSize ≤ 70 := by
  have hid := intField_le 1 (by decide) o.objectId
  have htype : varintField 2 o.type.number ≤ 2 := by
    refine varintField_le 2 (by decide) (k := 1) (by decide) ?_
    cases o.type <;> decide
  have htypeId := intField_le 3 (by decide) o.typeId
  have hx := floatField_le 4 (by decide) o.x
  have hy := floatField_le 5 (by decide) o.y
  have hhp := intField_le 6 (by decide) o.hp
  have hmaxHp := intField_le 7 (by decide) o.maxHp
  have hstate := varintField_le 8 (by decide) (by decide) o.state.number_lt
  have hvx := floatField_le 10 (by decide) o.vx
  have hvy := floatField_le 11 (by decide) o.vy
  have hlook := boolField_le 12 (by decide) o.lookLeft
  unfold byteSize
  omega

theorem ObjectPos.byteSize_le (o : ObjectPos) : o.byteSize ≤ 35 := by
  have hid := intField_le 1 (by decide) o.objectId
  have hx := floatField_le 2 (by decide) o.x
  have hy := floatField_le 3 (by decide) o.y
  have hvx := floatField_le 4 (by decide) o.vx
  have hvy := floatField_le 5 (by decide) o.vy
  have hstate := varintField_le 6 (by decide) (by decide) o.state.number_lt
  have hlook := boolField_le 7 (by decide) o.lookLeft
  unfold byteSize
  omega

theorem batch_le {ε : Type} {size : ε → Nat} {n : Nat} (hn : n < 128)
    (h : ∀ e, size e ≤ n) (es : List ε) (serverTick : Nat) :
    messages 1 (es.map size) + varintField 2 (serverTick % 2 ^ 32) ≤ (n + 2) * es.length + 6 := by
  have hsizes : ∀ m ∈ es.map size, m ≤ n := by
    intro m hmem
    obtain ⟨e, -, rfl⟩ := List.mem_map.mp hmem
    exact h e
  have hle := messages_le 1 (by decide) hn hsizes
  have htick :=
    varintField_le 2 (by decide) (k := 5) (by decide) (show serverTick % 2 ^ 32 <
      2 ^ (7 * 5) by omega)
  rw [List.length_map] at hle
  exact Nat.add_le_add hle htick

/-- How many objects a room may have. -/
def maxObjects : Nat := 910

/-- How often the projectiles of a tick may hit. -/
def maxHits : Nat := 3119

theorem packed_ints_le (field : Nat) (hf : field < 16) (vs : List Int) (h : vs.length ≤ maxHits) :
    packed field (vs.map intSize) ≤ 10 * vs.length + 4 := by
  have hsizes : ∀ size ∈ vs.map intSize, size ≤ 10 := by
    intro size hmem
    obtain ⟨v, -, rfl⟩ := List.mem_map.mp hmem
    exact intSize_le v
  unfold maxHits at h
  have hle := packed_le field hf hsizes (by rw [List.length_map]; omega)
  rwa [List.length_map] at hle

theorem packed_flags_le (field : Nat) (hf : field < 16) (flags : List Bool)
    (h : flags.length ≤ maxHits) : packed field (flags.map fun _ => 1) ≤ flags.length + 4 := by
  have hsizes : ∀ size ∈ flags.map (fun _ => 1), size ≤ 1 := by
    intro size hmem
    obtain ⟨_, -, rfl⟩ := List.mem_map.mp hmem
    exact le_refl 1
  unfold maxHits at h
  have hle := packed_le field hf hsizes (by rw [List.length_map]; omega)
  rwa [List.length_map, Nat.one_mul] at hle

theorem fits_damageEffect {skillId : Int} {targetIds damageValues : List Int}
    {isCritical : List Bool}
    (h : (Packet.damageEffect skillId targetIds damageValues isCritical).width ≤ maxHits) :
    (Packet.damageEffect skillId targetIds damageValues isCritical).Fits := by
  obtain ⟨hids, hrest⟩ := max_le_iff.mp h
  obtain ⟨hvalues, hflags⟩ := max_le_iff.mp hrest
  have hskill := intField_le 1 (by decide) skillId
  have hids' := packed_ints_le 2 (by decide) targetIds hids
  have hvalues' := packed_ints_le 3 (by decide) damageValues hvalues
  have hflags' := packed_flags_le 4 (by decide) isCritical hflags
  show 4 +
    (intField 1 skillId + packed 2 (targetIds.map intSize) + packed 3 (damageValues.map intSize) +
    packed 4 (isCritical.map fun _ => 1)) ≤ 65535
  unfold maxHits at hids hvalues hflags
  omega

/-- **Short lists fit.** -/
theorem fits_of_width {pkt : Packet} (h : pkt.width ≤ maxObjects) : pkt.Fits := by
  cases pkt with
  | spawnObject objects serverTick =>
    have hle := batch_le (by decide) ObjectInfo.byteSize_le objects serverTick
    change objects.length ≤ 910 at h
    show 4 +
      (messages 1 (objects.map ObjectInfo.byteSize) + varintField 2 (serverTick % 2 ^ 32)) ≤ 65535
    omega
  | despawnObject objectIds pickerIds =>
    obtain ⟨hids, hpickers⟩ := max_le_iff.mp h
    change objectIds.length ≤ 910 at hids
    change pickerIds.length ≤ 910 at hpickers
    have hids' := packed_ints_le 1 (by decide) objectIds (hids.trans (by decide))
    have hpickers' := packed_ints_le 2 (by decide) pickerIds (hpickers.trans (by decide))
    show 4 + (packed 1 (objectIds.map intSize) + packed 2 (pickerIds.map intSize)) ≤ 65535
    omega
  | moveObjectBatch moves serverTick =>
    have hle := batch_le (by decide) ObjectPos.byteSize_le moves serverTick
    change moves.length ≤ 910 at h
    show 4 +
      (messages 1 (moves.map ObjectPos.byteSize) + varintField 2 (serverTick % 2 ^ 32)) ≤ 65535
    omega
  | damageEffect skillId targetIds damageValues isCritical =>
    exact fits_damageEffect (h.trans (by decide))
  | gameOver survivedTime isWin =>
    have htime := intField_le 1 (by decide) (truncate (survivedTime * 1000))
    have hwin := boolField_le 2 (by decide) isWin
    show 4 + (intField 1 (truncate (survivedTime * 1000)) + boolField 2 isWin) ≤ 65535
    omega

/-! ## Chains of changes -/

/-- Changes that send nothing longer than the table, and put no player in it. -/
def Narrow (t : Tag) : Prop := t ∉ [Tag.wide, .enlist]

instance (t : Tag) : Decidable (Narrow t) := inferInstanceAs (Decidable (¬_))

theorem Quiet.narrow : ∀ t, Quiet t → Narrow t := by
  intro t
  cases t <;> decide

theorem Calm.narrow : ∀ t, Calm t → Narrow t := by
  intro t
  cases t <;> decide

theorem Bloodless.narrow : ∀ t, Bloodless t → Narrow t := by
  intro t
  cases t <;> decide

theorem Mild.narrow : ∀ t, Mild t → Narrow t := by
  intro t
  cases t <;> decide

variable (lm : Libm) (data : DataManager)

theorem Scene.Change.size_le_generated {t : Tag} {s s' : Scene} (h : Scene.Change t s s') :
    s'.size + s.objMgr.generated ≤ s.size + s'.objMgr.generated := by
  have hput : ∀ (s : Scene) (id : Int) (e e' : Entity), s.objMgr.objects.lookup id = some e →
      (s.put id e').size = s.size := by
    intro s id e e' he
    have hcount := Table.count_insert (fun _ => true) s.objMgr.objects id e'
    rw [he] at hcount
    exact Nat.add_right_cancel hcount
  cases h with
  | @monster s id m m' hm => rw [hput s id _ _ (ObjectManager.getMonster_eq_some.mp hm)]; rfl
  | @modifiers s id m m' hm => rw [hput s id _ _ (ObjectManager.getMonster_eq_some.mp hm)]; rfl
  | @thing s id e e' he => rw [hput s id e e' he]; rfl
  | @create s e =>
    have hcount := Table.count_insert (fun _ => true) s.objMgr.objects e.id e
    change Table.size (s.objMgr.objects.insert e.id e) + s.objMgr.generated ≤
      Table.size s.objMgr.objects + (s.objMgr.generated + 1)
    unfold Table.size
    simp only [Table.weight, if_true] at hcount
    omega
  | @drop s id e he =>
    unfold Scene.drop Scene.size ObjectManager.removeObject
    dsimp only
    split
    · exact le_refl _
    · have hcount := Table.count_erase (fun _ => true) s.objMgr.objects e.id
      unfold Table.size
      dsimp only
      omega
  | send => exact le_refl _
  | wide => exact le_refl _

namespace Room

def AllFit (r : Room) : Prop := ∀ pkt ∈ r.sent, pkt.Fits

instance (r : Room) : Decidable r.AllFit := inferInstanceAs (Decidable (∀ pkt ∈ _, _))

/-- In a room that had `n` objects when `g` ids were given: it has no more than the ids given since
can explain, and as long as not more than `last` are given, all packets fit. -/
structure Within (n g last : Nat) (r : Room) : Prop where
  since : g ≤ r.objMgr.generated
  size : r.size + g ≤ n + r.objMgr.generated
  fit : r.objMgr.generated ≤ last → r.AllFit

theorem within_start {r : Room} (h : r.AllFit) (last : Nat) :
    r.Within r.size r.objMgr.generated last :=
  ⟨le_refl _, le_refl _, fun _ => h⟩

section
variable {n g last : Nat} {r r' : Room}

theorem Within.send (h : r.Within n g last) {pkt : Packet}
    (hpkt : r.objMgr.generated ≤ last → pkt.Fits) :
    (r.modScene fun s => s.send pkt).Within n g last := by
  exact ⟨h.since, h.size, fun hlast => forall_mem_concat (h.fit hlast) (hpkt hlast)⟩

theorem Within.congr (h : r.Within n g last) (hscene : r'.toScene = r.toScene) :
    r'.Within n g last := by
  obtain ⟨hsince, hsize, hfit⟩ := h
  refine ⟨?_, ?_, ?_⟩
  · rw [hscene]
    exact hsince
  · rw [hscene]
    exact hsize
  · unfold AllFit
    rw [hscene]
    exact hfit

theorem Within.size_le (h : r.Within n g last) (hroom : n + last ≤ maxObjects + g)
    (hlast : r.objMgr.generated ≤ last) : r.size ≤ maxObjects := by
  have hsize := h.size
  omega

theorem Change.within {t : Tag} (hroom : n + last ≤ maxObjects + g) (ht : Narrow t)
    (hc : Change t r r') (h : r.Within n g last) : r'.Within n g last := by
  cases hc with
  | @scene _ _ s hs =>
    have hle := hs.generated_le
    have hsize := hs.size_le_generated
    refine ⟨h.since.trans hle, ?_, fun hlast => ?_⟩
    · have hold := h.size
      show s.size + g ≤ n + s.objMgr.generated
      change s.size + r.objMgr.generated ≤ r.size + s.objMgr.generated at hsize
      omega
    · have hold : r.AllFit := h.fit (hle.trans hlast)
      cases hs with
      | @send _ pkt _ hwidth =>
        have hwide : pkt.width ≤ maxObjects :=
          hwidth.trans (max_le (by decide) (h.size_le hroom (hle.trans hlast)))
        exact (Within.send ⟨h.since, h.size, fun _ => hold⟩ fun _ => fits_of_width hwide).fit hlast
      | wide => exact absurd ht (by decide)
      | drop =>
        exact hold
      | _ => exact hold
  | enlist => exact absurd ht (by decide)
  | _ => exact h.congr rfl

theorem Within.reach (h : r.Within n g last) (hroom : n + last ≤ maxObjects + g)
    (hr : Reach Change Narrow r r') : r'.Within n g last :=
  hr.inv (Within n g last) (fun _ _ _ ht hc hw => hc.within hroom ht hw) h

/-! ## The tick -/

theorem length_cleanUps (ids : List Int) (acc : Room × List Int × List Int) :
    (ids.foldl cleanUp acc).2.1.length ≤ acc.2.1.length + ids.length ∧
      (ids.foldl cleanUp acc).2.2.length ≤ acc.2.2.length + ids.length := by
  induction ids generalizing acc with
  | nil => exact ⟨le_refl _, le_refl _⟩
  | cons id ids ih =>
    have hround : (cleanUp acc id).2.1.length ≤ acc.2.1.length + 1 ∧
        (cleanUp acc id).2.2.length ≤ acc.2.2.length + 1 := by
      unfold cleanUp
      split
      · exact ⟨Nat.le_succ _, Nat.le_succ _⟩
      · split
        · exact ⟨Nat.le_succ _, Nat.le_succ _⟩
        · simp
    obtain ⟨h1, h2⟩ := ih (cleanUp acc id)
    simp only [List.foldl_cons, List.length_cons]
    omega

theorem Within.cleanup (h : r.Within n g last) (hroom : n + last ≤ maxObjects + g)
    (ch : TickChoice) : (r.resolveCleanup ch).Within n g last := by
  have hreach := reach_cleanUps r (r.allIds ch)
  have hloop := h.reach hroom (hreach.mono fun t ht => by subst ht; decide)
  have hgen := generated_le_of_reach hreach
  obtain ⟨hids, hpickers⟩ := length_cleanUps (r.allIds ch) (r, [], [])
  rw [length_allIds] at hids hpickers
  unfold resolveCleanup
  dsimp only
  split
  · exact hloop
  · refine hloop.send fun hlast => fits_of_width ?_
    have hsize := h.size_le hroom (hgen.trans hlast)
    simp only [List.length_nil, Nat.zero_add] at hids hpickers
    exact max_le (hids.trans hsize) (hpickers.trans hsize)

theorem Within.projectiles (h : r.Within n g last) (hroom : n + last ≤ maxObjects + g)
    (ch : TickChoice) (hhits : (r.projectileHits ch).2.length ≤ maxHits) :
    (r.resolveProjectileCollisions ch).Within n g last := by
  have hloop := h.reach hroom ((reach_projectileHits ch r).mono Quiet.narrow)
  unfold resolveProjectileCollisions
  dsimp only
  split
  · exact hloop
  · refine hloop.send fun _ => fits_damageEffect ?_
    exact (Scene.width_damagePacket 0 (r.projectileHits ch).2).le.trans hhits

/-- The room when projectiles are about to hit. -/
def aimed (lm : Libm) (data : DataManager) (ch : TickChoice) (r : Room) : Room :=
  (r.advance data ch).updateObjects lm data ch

/-- **A tick sends packets that fit** in a room with few enough objects and hits. -/
theorem Within.tick (ch : TickChoice) (ht : r.Tidy) (hactive : r.inactive = false)
    (h : r.Within n g last) (hroom : n + last ≤ maxObjects + g)
    (hhits : ((r.aimed lm data ch).projectileHits ch).2.length ≤ maxHits) :
    (r.executeUpdate lm data ch).1.Within n g last := by
  have hprep : (r.prepared data ch).Tidy := ⟨ht.keyed, ht.tame⟩
  have hprepared : (r.prepared data ch).Within n g last := ⟨h.since, h.size, h.fit⟩
  have hadvance := reach_advance data ch r
  have hturned := reach_turned lm data ch (tidy_of_reach hprep hadvance)
  have haimed : (r.aimed lm data ch).Within n g last :=
    ((hprepared.reach hroom (hadvance.mono Calm.narrow)).reach hroom
      (hturned.mono Bloodless.narrow)).reach hroom ((reach_moved lm data ch _).mono Quiet.narrow)
  have hstruck := haimed.projectiles hroom ch hhits
  have hbodies := hstruck.reach hroom ((reach_bodyCollisions ch _).mono Calm.narrow)
  have hitems := hbodies.reach hroom ((reach_itemCollisions lm data ch _).mono Quiet.narrow)
  have hclean := hitems.cleanup hroom ch
  have hsync := hclean.reach hroom ((reach_sync ch _).mono Quiet.narrow)
  unfold executeUpdate
  rw [hactive]
  exact hsync

/-! ## Tasks -/

theorem allFit_of_reach (hfit : r.AllFit) (hr : Reach Change Narrow r r')
    (hroom : r.size + r'.objMgr.generated ≤ maxObjects + r.objMgr.generated) : r'.AllFit :=
  ((within_start hfit r'.objMgr.generated).reach hroom hr).fit (le_refl _)

theorem Change.sent_eq {t : Tag} (ht : Enlisting t) (hc : Change t r r') : r'.sent = r.sent := by
  cases hc with
  | scene hs =>
    cases hs with
    | _ => exact absurd ht (by decide)
  | player => rfl
  | enlist => rfl
  | _ => exact absurd ht (by decide)

theorem sent_of_reach (hr : Reach Change Enlisting r r') : r'.sent = r.sent :=
  hr.inv (fun x => x.sent = r.sent) (fun _ _ _ ht hc hx => (hc.sent_eq ht).trans hx) rfl

theorem allFit_append (hfit : r.AllFit) (pkts : List Packet)
    (h : ∀ pkt ∈ pkts, pkt.width ≤ maxObjects) (hsent : r'.sent = r.sent ++ pkts) : r'.AllFit := by
  intro pkt hpkt
  rw [hsent] at hpkt
  rcases List.mem_append.mp hpkt with hold | hnew
  · exact hfit pkt hold
  · exact fits_of_width (h pkt hnew)

theorem readied_scene (r : Room) (ref : Nat) : (r.readied data ref).toScene = r.toScene :=
  (startGame_same data (r.modPlayer ref fun p => { p with isReady := true })).2.2

theorem width_readyPackets (ch : TickChoice) (r : Room) (ref : Nat) {pkt : Packet}
    (h : pkt ∈ r.readyPackets ch ref) : pkt.width ≤ max 1 r.size := by
  rcases mem_concat.mp h with hall | rfl
  · split at hall
    · cases hall
    · rw [List.mem_singleton.mp hall]
      refine le_max_of_le_right ?_
      show (((r.allIds ch).filterMap r.objMgr.objects.lookup).map r.infoOf).length ≤ r.size
      rw [List.length_map, ← length_allIds ch r]
      exact List.length_filterMap_le _ _
  · exact Nat.le_max_left 1 _

theorem Ran.allFit {lm : Libm} {data : DataManager} {ch : TickChoice} {task : Task}
    {res : Room × Effects} (h : Ran lm data ch r task res) (ht : r.Tidy) (hfit : r.AllFit)
    (hroom : r.size + res.1.objMgr.generated ≤ maxObjects + r.objMgr.generated)
    (hhits : task = .update → ((r.aimed lm data ch).projectileHits ch).2.length ≤ maxHits) :
    res.1.AllFit := by
  cases h with
  | quiet _ hreach => exact allFit_of_reach hfit (hreach.mono Quiet.narrow) hroom
  | mild hreach => exact allFit_of_reach hfit (hreach.mono Mild.narrow) hroom
  | select =>
    exact allFit_of_reach hfit ((reach_selectLevelUp data r _ _).mono Bloodless.narrow) hroom
  | enter hreach =>
    intro pkt hpkt
    rw [sent_of_reach hreach] at hpkt
    exact hfit pkt hpkt
  | loaded hreach =>
    intro pkt hpkt
    rw [sent_of_reach hreach] at hpkt
    exact hfit pkt hpkt
  | start =>
    obtain ⟨-, -, hscene⟩ := startGame_same data r
    exact (Within.congr (within_start hfit r.objMgr.generated) hscene).fit (by rw [hscene])
  | tick hact =>
    exact (Within.tick lm data ch ht hact (within_start hfit _) hroom (hhits rfl)).fit (le_refl _)
  | @gameOver isWin =>
    refine allFit_append hfit [.gameOver r.totalRunTime isWin] (fun pkt hpkt => ?_) rfl
    rw [List.mem_singleton.mp hpkt]
    exact Nat.zero_le _
  | @left sid ref =>
    refine allFit_append hfit [.despawnObject [(r.heap ref).id] []] (fun pkt hpkt => ?_) rfl
    rw [List.mem_singleton.mp hpkt]
    show max 1 0 ≤ 910
    decide
  | @last sid ref =>
    refine allFit_append hfit [.despawnObject [(r.heap ref).id] []] (fun pkt hpkt => ?_) rfl
    rw [List.mem_singleton.mp hpkt]
    show max 1 0 ≤ 910
    decide
  | @ready sid ref =>
    have hscene := readied_scene data r ref
    refine allFit_append hfit ((r.readied data ref).readyPackets ch ref) (fun pkt hpkt => ?_) ?_
    · refine (width_readyPackets ch _ ref hpkt).trans (max_le (by decide) ?_)
      change r.size + (r.readied data ref).objMgr.generated ≤
        maxObjects + r.objMgr.generated at hroom
      rw [hscene] at hroom ⊢
      omega
    · show (r.readied data ref).sent ++ _ = _
      rw [hscene]
  | _ => exact hfit

end

end Room

/-! ## Runs -/

namespace Arena

/-- How often the projectiles hit if the action is a tick. -/
def tickHits (lm : Libm) (data : DataManager) (s : Arena) : ArenaAction → Nat
  | .run ch =>
    if s.queue.head? = some .update then ((s.room.aimed lm data ch).projectileHits ch).2.length
  else 0
  | _ => 0

/-- The condition on a step: with what it creates, the room has at most `maxObjects` objects, and
the projectiles of a tick hit at most `maxHits` times. -/
def Uncrowded (lm : Libm) (data : DataManager) (s : Arena) (a : ArenaAction) : Prop :=
  (∀ t ∈ s.step lm data a, s.room.size + t.room.objMgr.generated ≤
    maxObjects + s.room.objMgr.generated) ∧ s.tickHits lm data a ≤ maxHits

instance (lm : Libm) (data : DataManager) (s : Arena) (a : ArenaAction) :
    Decidable (Uncrowded lm data s a) :=
  inferInstanceAs (Decidable (_ ∧ _))

/-- **Every packet of a step fits.** -/
theorem allFit_step {lm : Libm} {data : DataManager} {s s' : Arena} {a : ArenaAction}
    (ht : s.room.Tidy) (hfit : s.room.AllFit) (hok : Uncrowded lm data s a)
    (hs : s.step lm data a = some s') : s'.room.AllFit := by
  obtain ⟨hroom, hhits⟩ := hok
  have hroom := hroom s' hs
  cases step_of_eq hs with
  | command ch ref c =>
    exact Room.allFit_of_reach hfit ((Room.reach_command lm data ch s.room ref c).mono Mild.narrow)
      hroom
  | run ch task rest res hq hran =>
    refine hran.allFit ht hfit hroom fun hupdate => ?_
    have hhead : s.queue.head? = some .update := by rw [hq, hupdate]; rfl
    change (if s.queue.head? = some .update then
      ((s.room.aimed lm data ch).projectileHits ch).2.length else 0) ≤ maxHits at hhits
    rwa [if_pos hhead] at hhits
  | _ => exact hfit

/-- **No packet is too large** in a run in which the room never gets crowded. -/
theorem packets_fit (lm : Libm) (data : DataManager) (roomId : Int) (hasUserDB : Bool)
    (as : List ArenaAction) (t : Arena)
    (hok : Meets (step lm data) (Uncrowded lm data) (make roomId hasUserDB) as)
    (h : run (step lm data) (make roomId hasUserDB) as = some t) :
    ∀ pkt ∈ t.room.sent, headerSize + pkt.byteSize ≤ maxPacketSize := by
  have hinv : t.room.Tidy ∧ t.room.AllFit := by
    refine run_inv_of_meets (fun s => s.room.Tidy ∧ s.room.AllFit)
      (fun s a s' hs hok hstep => ?_) ?_ hok h
    · exact ⟨tidy_step hs.1 (step_of_eq hstep), allFit_step hs.1 hs.2 hok hstep⟩
    · refine ⟨tidy_make roomId hasUserDB, fun pkt hpkt => ?_⟩
      cases hpkt
  exact hinv.2

theorem packets_fit_oneGame :
    ∃ t, run (step stillLibm smallData) (make 2 false) oneGame = some t ∧ t.room.sent.length = 10 ∧
      ∀ pkt ∈ t.room.sent, headerSize + pkt.byteSize ≤ maxPacketSize := by
  exact exists_run_and (by decide +kernel) fun t =>
    packets_fit stillLibm smallData 2 false oneGame t (by decide +kernel)

/-! ## A crowd -/

/-- `n` sessions join, the first of them is ready, and the strand runs their tasks. -/
def crowd (n : Nat) : List ArenaAction :=
  (List.range n).map (fun i => .join (i + 1)) ++ .post (.playerReady 1) :: List.replicate
    (n + 1) (.run .idle)

/-- The players `i` of the sessions `i + 1`. -/
def Sessions (n : Nat) (r : Room) : Prop :=
  ∀ i < n, (r.heap i).id = Int.bmod (i + 1) (2 ^ 32) ∧ (r.heap i).sessionId = i + 1

theorem run_joins (n : Nat) :
    ∃ s, run (step lm data) (make 2 false) ((List.range n).map fun i => .join (i + 1)) = some s ∧
      s.queue = (List.range n).map .enter ∧ s.made = n ∧ s.room.objMgr = .empty ∧
      s.room.hasUserDB = false ∧
      Sessions n s.room := by
  induction n with
  | zero => exact ⟨_, rfl, rfl, rfl, rfl, rfl, fun i hi => absurd hi (Nat.not_lt_zero i)⟩
  | succ n ih =>
    obtain ⟨s, hrun, hqueue, hmade, hobj, hdb, hsessions⟩ := ih
    refine ⟨{ s with
      room := s.room.setPlayer s.made (Player.create data (n + 1))
      queue := s.queue ++ [.enter s.made], made := s.made + 1 }, ?_, ?_, ?_, hobj, hdb, ?_⟩
    · rw [List.range_succ, List.map_append]
      exact run_append_eq_some.mpr ⟨s, hrun, rfl⟩
    · rw [List.range_succ, List.map_append]
      show s.queue ++ [.enter s.made] = _
      rw [hqueue, hmade]
      rfl
    · show s.made + 1 = n + 1
      rw [hmade]
    · intro i hi
      show (Function.update s.room.heap s.made _ i).id = _ ∧
        (Function.update s.room.heap s.made _ i).sessionId = _
      rw [hmade]
      by_cases heq : i = n
      · subst heq
        rw [Function.update_self]
        exact ⟨by rw [Room.create_id]; push_cast; rfl, (Room.create_same data (i + 1)).1⟩
      · rw [Function.update_of_ne heq]
        exact hsessions i (by omega)

/-- The first `k` of the `n` players are in the table. -/
structure Admitted (n k : Nat) (s : Arena) : Prop where
  queue : ∃ starts, s.queue = (List.range' k (n - k)).map .enter ++ .playerReady 1 :: starts
  noDb : s.room.hasUserDB = false
  sessions : Sessions n s.room
  first : 0 < k → s.room.players.lookup 1 = some 0
  below : ∀ id, (s.room.objMgr.objects.lookup id).isSome = true → id ≤ k
  size : s.room.size = k

theorem enter_of_noDb {r : Room} (h : r.hasUserDB = false) (ref : Nat) :
    (r.executeEnter data ref).1.hasUserDB = false ∧
      (r.executeEnter data ref).1.objMgr = r.objMgr.addObject (.player ref (r.heap ref).id) := by
  have hid : ∀ p : Player, (Room.defaultSkills data p).id = p.id :=
    fun p => (Room.defaultSkills_kept data p).1.id
  unfold Room.executeEnter
  rw [if_neg (by simp [Room.modPlayer, Room.setPlayer, h])]
  refine ⟨h, ?_⟩
  show r.objMgr.addObject (.player ref _) = _
  rw [Room.modPlayer_heap_self, hid, Room.modPlayer_heap_self]

theorem admitted_step {n k : Nat} {s : Arena} (hn : n < 2 ^ 31) (hk : k < n)
    (h : s.Admitted n k) : ∃ s', s.step lm data (.run .idle) = some s' ∧ s'.Admitted n (k + 1) := by
  obtain ⟨starts, hq⟩ := h.queue
  have hrange : List.range' k (n - k) = k :: List.range' (k + 1) (n - (k + 1)) := by
    rw [show n - k = n - (k + 1) + 1 by omega, List.range'_succ]
  rw [hrange, List.map_cons, List.cons_append] at hq
  refine ⟨s.perform lm data .idle (.enter k)
    ((List.range' (k + 1) (n - (k + 1))).map .enter ++ .playerReady 1 :: starts), ?_, ?_⟩
  · unfold step
    rw [hq]
  · obtain ⟨hdb, hobj⟩ := enter_of_noDb data h.noDb k
    have hreach := Room.reach_enter data s.room k
    have hsame := Room.sameIds_of_reach hreach
    have hplayers := Room.players_of_reach hreach
    obtain ⟨hid, hsession⟩ := h.sessions k hk
    have hkey : Int.bmod (k + 1) (2 ^ 32) = k + 1 := Int.bmod_eq_of_le (by omega) (by omega)
    refine ⟨⟨starts ++ (s.room.executeEnter data k).2.2, ?_⟩, hdb, fun i hi => ?_, fun _ => ?_,
      fun id hsome => ?_, ?_⟩
    · show (List.range' (k + 1) (n - (k + 1))).map .enter ++ .playerReady 1 :: starts ++
        (s.room.executeEnter data k).2.2 = _
      rw [List.append_assoc, List.cons_append]
    · exact ⟨(hsame i).1.trans (h.sessions i hi).1, (hsame i).2.trans (h.sessions i hi).2⟩
    · show (s.room.executeEnter data k).1.players.lookup 1 = some 0
      rw [hplayers]
      show (s.room.players.insert (s.room.heap k).sessionId k).lookup 1 = some 0
      rw [hsession, Table.lookup_insert_ite]
      split
      · next heq => rw [show k = 0 by omega]
      · next hne => exact h.first (by omega)
    · change ((s.room.executeEnter data k).1.objMgr.objects.lookup id).isSome = true at hsome
      rw [hobj] at hsome
      change ((s.room.objMgr.objects.insert (s.room.heap k).id _).lookup id).isSome = true at hsome
      rw [Table.lookup_insert_ite, hid, hkey] at hsome
      split at hsome
      · next heq =>
        push_cast
        omega
      · have := h.below id hsome
        push_cast
        omega
    · show Table.size (s.room.executeEnter data k).1.objMgr.objects = k + 1
      rw [hobj]
      have hnew : s.room.objMgr.objects.lookup (s.room.heap k).id = none := by
        rw [hid, hkey]
        cases hlook : s.room.objMgr.objects.lookup ((k : Int) + 1) with
        | none => rfl
        | some e =>
          have := h.below _ (by rw [hlook]; rfl)
          omega
      have hcount := Table.count_insert (fun _ => true) s.room.objMgr.objects (s.room.heap k).id
        (.player k (s.room.heap k).id)
      rw [hnew] at hcount
      have hsize : Table.count (fun _ => true) s.room.objMgr.objects = k := h.size
      rw [hsize] at hcount
      exact hcount

theorem run_enters {n : Nat} {s : Arena} (hn : n < 2 ^ 31) (h : s.Admitted n 0) {k : Nat}
    (hk : k ≤ n) : ∃ t, run (step lm data) s (List.replicate k (.run .idle)) = some t ∧
    t.Admitted n k := by
  induction k with
  | zero => exact ⟨s, rfl, h⟩
  | succ k ih =>
    obtain ⟨t, hrun, ht⟩ := ih (by omega)
    obtain ⟨t', hstep, ht'⟩ := admitted_step lm data hn hk ht
    refine ⟨t', ?_, ht'⟩
    rw [List.replicate_succ']
    exact run_append_eq_some.mpr ⟨t, hrun, run_cons_eq_some.mpr ⟨t', hstep, rfl⟩⟩

theorem length_infos (ch : TickChoice) (r : Room) :
    (((r.allIds ch).filterMap r.objMgr.objects.lookup).map r.infoOf).length = r.size := by
  rw [List.length_map, ← Room.length_allIds ch r]
  refine List.filterMap_length_eq_length.mpr fun id hid => ?_
  have hkey : id ∈ r.objMgr.objects.keys := (ch.objects.perm _).mem_iff.mp hid
  exact AList.lookup_isSome.mpr (AList.mem_keys.mpr hkey)

/-- The ready player gets one packet with everybody in it. -/
theorem run_crowd {n : Nat} (hn : n < 2 ^ 31) (hpos : 0 < n) :
    ∃ t, run (step lm data) (make 2 false) (crowd n) = some t ∧
      ∃ objects tick, objects.length = n ∧ Packet.spawnObject objects tick ∈ t.room.sent := by
  obtain ⟨s, hjoins, hqueue, -, hobj, hdb, hsessions⟩ := run_joins lm data n
  have hstart : ({ s with queue := s.queue ++ [.playerReady 1] } : Arena).Admitted n 0 := by
    refine ⟨⟨[], ?_⟩, hdb, hsessions, fun h => absurd h (lt_irrefl 0), fun id hsome => ?_, ?_⟩
    · show s.queue ++ [.playerReady 1] = _
      rw [hqueue, List.range_eq_range']
      rfl
    · change (s.room.objMgr.objects.lookup id).isSome = true at hsome
      rw [hobj] at hsome
      cases hsome
    · show Table.size s.room.objMgr.objects = 0
      rw [hobj]
      rfl
  obtain ⟨t, henters, ht⟩ := run_enters lm data hn hstart (le_refl n)
  obtain ⟨starts, hq⟩ := ht.queue
  rw [Nat.sub_self] at hq
  have hready : t.step lm data (.run .idle) =
      some (t.perform lm data .idle (.playerReady 1) starts) := by
    unfold step
    rw [hq]
    rfl
  refine ⟨t.perform lm data .idle (.playerReady 1) starts, ?_, ?_⟩
  · refine run_append_eq_some.mpr ⟨s, hjoins, run_cons_eq_some.mpr ⟨_, rfl, ?_⟩⟩
    rw [List.replicate_succ']
    exact run_append_eq_some.mpr ⟨t, henters, run_cons_eq_some.mpr ⟨_, hready, rfl⟩⟩
  · show ∃ objects tick, objects.length = n ∧
      Packet.spawnObject objects tick ∈ (t.room.executeOnPlayerReady data .idle 1).sent
    rw [Room.ready_of_some data .idle (ht.first hpos)]
    have hlen := length_infos .idle (t.room.readied data 0)
    have hsize : (t.room.readied data 0).size = n := by
      rw [Room.readied_scene]
      exact ht.size
    rw [hsize] at hlen
    refine ⟨_, (t.room.readied data 0).serverTick, hlen, List.mem_append_right _ ?_⟩
    unfold Room.readyPackets
    dsimp only
    rw [if_neg]
    · exact List.mem_append_left _ (List.mem_singleton_self _)
    · intro hnil
      rw [hnil] at hlen
      exact absurd hlen (by simp; omega)

/-- 32768 players: two bytes for each are too many. -/
theorem packet_too_large :
    ∃ t, run (step stillLibm smallData) (make 2 false) (crowd 32768) = some t ∧
      ∃ pkt ∈ t.room.sent, maxPacketSize < headerSize + pkt.byteSize := by
  obtain ⟨t, hrun, objects, tick, hlen, hsent⟩ :=
    run_crowd stillLibm smallData (n := 32768) (by decide) (by decide)
  refine ⟨t, hrun, _, hsent, ?_⟩
  have hbytes := two_mul_length_le_messages 1 (objects.map (·.byteSize))
  rw [List.length_map, hlen] at hbytes
  show 65535 < 4 + (messages 1 (objects.map (·.byteSize)) + varintField 2 (tick % 2 ^ 32))
  omega

end Arena

end ToyServer.SimpleGame
