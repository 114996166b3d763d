import ToyServer.Game.Roster

/-!
# Object identity

Players are stored under the low 32 bits of their session id, everything else under ids from 1001
on.  Nothing keeps the two apart: session 1001 takes the place of the first monster, which leaves
`_aliveMonsterCount` one too high.

`object_identity` holds for runs in which a player enters under an id that is not above 1000 and
that nobody in the room has, and the ids of the room have not reached the end of `int32_t`.
-/

namespace ToyServer.SimpleGame

open Chain Runs

/-- The call did what the caller meant: it took nobody's place, or removed the object in
question. -/
def TableCall.Right : TableCall → Prop
  | add obj found => found = none ∨ found = some obj
  | remove meant found => found = none ∨ found = some meant

/-! ## The table -/

namespace ObjectManager

/-- Ids from 1001 on were generated here, and the counter counts. -/
structure Sound (o : ObjectManager) : Prop where
  keyed : o.Keyed
  generated : ∀ id e, o.objects.lookup id = some e → e.isPlayer = false → 1001 ≤ id ∧
    id < 1001 + o.generated
  players : ∀ id e, o.objects.lookup id = some e → e.isPlayer = true → id ≤ 1000
  counted : o.aliveMonsterCount = Table.count Entity.isMonster o.objects
  right : ∀ c ∈ o.calls, c.Right

/-- The ids that are left before `int32_t` ends. -/
def maxGenerated : Nat := 2 ^ 31 - 1001

variable {o : ObjectManager}

theorem nextId_eq (h : o.generated < maxGenerated) : o.nextId = 1001 + o.generated := by
  unfold maxGenerated at h
  unfold nextId
  exact Int.bmod_eq_of_le (by omega) (by omega)

theorem nextId_free (hs : o.Sound) (h : o.generated < maxGenerated) :
    o.objects.lookup o.nextId = none := by
  rw [nextId_eq h]
  cases he : o.objects.lookup (1001 + o.generated : Int) with
  | none => rfl
  | some e =>
    cases hp : e.isPlayer with
    | true =>
      have := hs.players _ e he hp
      omega
    | false =>
      have := (hs.generated _ e he hp).2
      omega

theorem Sound.put (hs : o.Sound) {id : Int} {e e' : Entity} (he : o.objects.lookup id = some e)
    (hid : e'.id = e.id) (hp : e'.isPlayer = e.isPlayer) (hm : e'.isMonster = e.isMonster) :
    Sound { o with objects := o.objects.insert id e' } := by
  have hmem : ∀ {id' x}, (o.objects.insert id e').lookup id' = some x →
      ∃ y, o.objects.lookup id' = some y ∧ x.id = y.id ∧ x.isPlayer = y.isPlayer := by
    intro id' x hx
    rcases Table.of_lookup_insert hx with ⟨rfl, rfl⟩ | ⟨-, hold⟩
    · exact ⟨e, he, hid, hp⟩
    · exact ⟨x, hold, rfl, rfl⟩
  refine ⟨fun id' x hx => ?_, fun id' x hx hnp => ?_, fun id' x hx hpl => ?_, ?_, hs.right⟩
  · obtain ⟨y, hy, hxy, -⟩ := hmem hx
    exact hxy.trans (hs.keyed id' y hy)
  · obtain ⟨y, hy, -, hxy⟩ := hmem hx
    exact hs.generated id' y hy (hxy ▸ hnp)
  · obtain ⟨y, hy, -, hxy⟩ := hmem hx
    exact hs.players id' y hy (hxy ▸ hpl)
  · have hcount := Table.count_insert Entity.isMonster o.objects id e'
    have hw : Table.weight Entity.isMonster (some e') = Table.weight Entity.isMonster (some e) := by
      simp only [Table.weight, hm]
    rw [he, hw] at hcount
    have hsum := hs.counted
    show o.aliveMonsterCount = (Table.count Entity.isMonster (o.objects.insert id e') : Int)
    omega

theorem Sound.addObject (hs : o.Sound) {e : Entity}
    (hfree : o.objects.lookup e.id = none ∨ (o.objects.lookup e.id = some e ∧ e.isMonster = false))
    (hid : if e.isPlayer then e.id ≤ 1000 else 1001 ≤ e.id ∧ e.id < 1001 + o.generated) :
    (o.addObject e).Sound := by
  have hcases : ∀ {id x}, (o.addObject e).objects.lookup id = some x →
      (id = e.id ∧ x = e) ∨ o.objects.lookup id = some x :=
        fun hx => (Table.of_lookup_insert hx).imp_right And.right
  refine ⟨hs.keyed.addObject e, fun id x hx hnp => ?_, fun id x hx hpl => ?_, ?_, ?_⟩
  · rcases hcases hx with ⟨rfl, rfl⟩ | hx
    · rw [hnp] at hid
      exact hid
    · exact hs.generated id x hx hnp
  · rcases hcases hx with ⟨rfl, rfl⟩ | hx
    · rw [hpl] at hid
      exact hid
    · exact hs.players id x hx hpl
  · have hcount := Table.count_insert Entity.isMonster o.objects e.id e
    have hold : Table.weight Entity.isMonster (o.objects.lookup e.id) = 0 := by
      rcases hfree with h | ⟨h, hm⟩
      · rw [h]
        rfl
      · simp only [h, Table.weight, hm, Bool.false_eq_true, if_false]
    have hsum := hs.counted
    have hnew : Table.weight Entity.isMonster (some e) = if e.isMonster then 1 else 0 := rfl
    rw [hold, hnew] at hcount
    simp only [ObjectManager.addObject]
    cases hm : e.isMonster <;>
      simp only [hm, Bool.false_eq_true, if_false, if_true] at hcount ⊢ <;> omega
  · refine forall_mem_concat hs.right ?_
    rcases hfree with h | ⟨h, -⟩
    · exact .inl h
    · exact .inr h

theorem Sound.removeObject (hs : o.Sound) {e : Entity}
    (hmeant : o.objects.lookup e.id = none ∨ o.objects.lookup e.id = some e) :
    (o.removeObject e).Sound := by
  have hright : ∀ c ∈ (o.removeObject e).calls, c.Right := by
    have hcalls : (o.removeObject e).calls = o.calls ++ [.remove e (o.objects.lookup e.id)] := by
      unfold ObjectManager.removeObject
      dsimp only
      split <;> rfl
    rw [hcalls]
    exact forall_mem_concat hs.right hmeant
  rcases hmeant with h | h
  · refine ⟨hs.keyed.removeObject e, ?_, ?_, ?_, hright⟩ <;>
      simp only [ObjectManager.removeObject, h]
    · exact hs.generated
    · exact hs.players
    · exact hs.counted
  · have hlook : ∀ {id x}, (o.objects.erase e.id).lookup id = some x →
        o.objects.lookup id = some x :=
      fun hx => (Table.of_lookup_erase hx).2
    refine ⟨hs.keyed.removeObject e, ?_, ?_, ?_, hright⟩ <;>
      simp only [ObjectManager.removeObject, h]
    · exact fun id x hx => hs.generated id x (hlook hx)
    · exact fun id x hx => hs.players id x (hlook hx)
    · -- a monster that stands there has been counted
      have hcount := Table.count_erase Entity.isMonster o.objects e.id
      have hsum := hs.counted
      rw [h] at hcount
      simp only [Table.weight] at hcount
      cases hm : e.isMonster with
      | false =>
        simp only [hm, Bool.false_eq_true, if_false, false_and] at hcount ⊢
        omega
      | true =>
        simp only [hm, if_true, true_and] at hcount ⊢
        rw [if_pos (by omega)]
        omega

theorem Sound.generateId (hs : o.Sound) : o.generateId.2.Sound where
  keyed := hs.keyed
  generated := by
    intro id e he hp
    have hold := hs.generated id e he hp
    simp only [ObjectManager.generateId]
    omega
  players := hs.players
  counted := hs.counted
  right := hs.right

theorem sound_clear (hs : o.Sound) : o.clear.Sound where
  keyed := Room.keyed_clear o
  generated := by
    intro id e h
    cases h
  players := by
    intro id e h
    cases h
  counted := rfl
  right := hs.right

end ObjectManager

/-! ## Changes -/

namespace Scene

theorem Change.player_of {t : Tag} {s s' : Scene} (h : Change t s s') {id : Int} {e : Entity}
    (he : s'.objMgr.objects.lookup id = some e) (hp : e.isPlayer = true) :
    s.objMgr.objects.lookup id = some e := by
  have hins : ∀ {o : AList fun _ : Int => Entity} {id' : Int} {e' : Entity}, e'.isPlayer = false →
      (o.insert id' e').lookup id = some e → o.lookup id = some e := by
    intro o id' e' hnp hl
    rcases Table.of_lookup_insert hl with ⟨-, rfl⟩ | ⟨-, hold⟩
    · rw [hnp] at hp
      cases hp
    · exact hold
  cases h with
  | monster => exact hins rfl he
  | modifiers => exact hins rfl he
  | thing _ _ _ _ _ hnp => exact hins hnp he
  | create _ hnp _ => exact hins hnp he
  | @drop s id' e' =>
    simp only [Scene.drop, ObjectManager.removeObject] at he
    split at he
    · exact he
    · exact (Table.of_lookup_erase he).2
  | send => exact he
  | wide => exact he

theorem Change.sound {t : Tag} {s s' : Scene} (h : Change t s s')
    (hmax : s'.objMgr.generated ≤ ObjectManager.maxGenerated) (hs : s.objMgr.Sound) :
    s'.objMgr.Sound := by
  cases h with
  | monster hm hid _ => exact hs.put (ObjectManager.getMonster_eq_some.mp hm) hid rfl rfl
  | modifiers hm hid => exact hs.put (ObjectManager.getMonster_eq_some.mp hm) hid rfl rfl
  | thing he hid hm hp hm' hp' => exact hs.put he hid (hp'.trans hp.symm) (hm'.trans hm.symm)
  | @create s e hid hnp _ =>
    have hlt : s.objMgr.generated < ObjectManager.maxGenerated := hmax
    have hfree := ObjectManager.nextId_free hs hlt
    rw [← hid] at hfree
    refine hs.generateId.addObject (.inl hfree) ?_
    rw [hnp, if_neg (by decide), hid, ObjectManager.nextId_eq hlt]
    simp only [ObjectManager.generateId]
    omega
  | @drop s id e he _ =>
    refine hs.removeObject (.inr ?_)
    rw [hs.keyed id e he]
    exact he
  | send => exact hs
  | wide => exact hs

end Scene

/-! ## The room -/

namespace Room

/-- Players in the room have small and different ids, and the table has no others. -/
structure Placed (r : Room) : Prop where
  sound : r.objMgr.Sound
  stored : ∀ id ref pid, r.objMgr.objects.lookup id = some (.player ref pid) →
    r.InRoom ref ∧ (r.heap ref).id = id
  low : ∀ sid ref, r.players.lookup sid = some ref → (r.heap ref).id ≤ 1000
  apart : ∀ sid ref sid' ref', r.players.lookup sid = some ref → r.players.lookup sid' = some ref' →
    (r.heap ref).id = (r.heap ref').id → ref = ref'
  lowBits : ∀ ref, (r.heap ref).id = Int.bmod (r.heap ref).sessionId (2 ^ 32)

variable {r : Room} {ref : Nat}

theorem Placed.keep {r' : Room} (h : r.Placed) (hs : r'.objMgr.Sound) (hpl : r'.players = r.players)
    (hids : SameIds r r')
      (hstored : ∀ id ref pid, r'.objMgr.objects.lookup id = some (.player ref pid) →
      r.objMgr.objects.lookup id = some (.player ref pid)) : r'.Placed where
  sound := hs
  stored := by
    intro id ref pid he
    rw [hids.inRoom hpl, (hids ref).1]
    exact h.stored id ref pid (hstored id ref pid he)
  low := by
    intro sid ref hl
    rw [(hids ref).1]
    exact h.low sid ref (hpl ▸ hl)
  apart := by
    intro sid ref sid' ref' hl hl' heq
    rw [(hids ref).1, (hids ref').1] at heq
    exact h.apart sid ref sid' ref' (hpl ▸ hl) (hpl ▸ hl') heq
  lowBits := by
    intro ref
    rw [(hids ref).1, (hids ref).2]
    exact h.lowBits ref

/-! ### Entering and leaving -/

/-- The player `ref` may enter: its id is not above 1000 and nobody in the room has it. -/
def MayEnter (r : Room) (ref : Nat) : Prop :=
  (r.heap ref).id ≤ 1000 ∧ ∀ e ∈ r.players.entries, (r.heap e.2).id ≠ (r.heap ref).id

instance (r : Room) (ref : Nat) : Decidable (r.MayEnter ref) := inferInstanceAs (Decidable (_ ∧ _))

theorem MayEnter.ne (h : r.MayEnter ref) {sid ref' : Nat} (hl : r.players.lookup sid = some ref') :
    (r.heap ref').id ≠ (r.heap ref).id :=
  h.2 ⟨sid, ref'⟩ (AList.mem_lookup_iff.mp hl)

theorem Placed.enter (h : r.Placed) (hmay : r.MayEnter ref) :
    Placed { r with players := r.players.insert (r.heap ref).sessionId ref } where
  sound := h.sound
  stored := by
    intro id ref' pid he
    obtain ⟨hl, hid⟩ := h.stored id ref' pid he
    refine ⟨?_, hid⟩
    unfold InRoom
    rw [Table.lookup_insert_ite]
    split
    · next heq =>
      -- the session of the newcomer is not in the room
      refine absurd ?_ (hmay.ne hl)
      rw [h.lowBits ref', h.lowBits ref, heq]
    · exact hl
  low := by
    intro sid ref' hl
    rcases Table.of_lookup_insert hl with ⟨-, rfl⟩ | ⟨-, hold⟩
    · exact hmay.1
    · exact h.low sid ref' hold
  apart := by
    intro sid ref₁ sid' ref₂ hl hl' heq
    rw [Table.lookup_insert_ite] at hl hl'
    split at hl
    · cases hl
      split at hl'
      · cases hl'
        rfl
      · exact absurd heq.symm (hmay.ne hl')
    · split at hl'
      · cases hl'
        exact absurd heq (hmay.ne hl)
      · exact h.apart sid ref₁ sid' ref₂ hl hl' heq
  lowBits := h.lowBits

/-- Under the id of a player in the room stands that player, or nothing. -/
theorem Placed.found (h : r.Placed) {sid : Nat} (hl : r.players.lookup sid = some ref) :
    r.objMgr.objects.lookup (r.heap ref).id = none ∨
      r.objMgr.objects.lookup (r.heap ref).id = some (.player ref (r.heap ref).id) := by
  cases he : r.objMgr.objects.lookup (r.heap ref).id with
  | none => exact .inl rfl
  | some e =>
    refine .inr ?_
    have hlow := h.low sid ref hl
    have hkey := h.sound.keyed _ e he
    cases e with
    | player ref' pid =>
      obtain ⟨hl', hid⟩ := h.stored _ ref' pid he
      rw [h.apart _ ref' _ ref hl' hl hid]
      exact congrArg (fun i => some (Entity.player ref i)) hkey
    | monster m =>
      have := (h.sound.generated _ _ he rfl).1
      omega
    | projectile p =>
      have := (h.sound.generated _ _ he rfl).1
      omega
    | item g =>
      have := (h.sound.generated _ _ he rfl).1
      omega

theorem Placed.addPlayerObject (h : r.Placed) (hl : r.InRoom ref) :
    (r.addPlayerObject ref).Placed where
  sound := by
    refine h.sound.addObject ?_ (h.low _ ref hl)
    exact (h.found hl).imp_right fun he => ⟨he, rfl⟩
  stored := by
    intro id ref' pid he
    rcases Table.of_lookup_insert he with ⟨rfl, hnew⟩ | ⟨-, hold⟩
    · cases hnew
      exact ⟨hl, rfl⟩
    · exact h.stored id ref' pid hold
  low := h.low
  apart := h.apart
  lowBits := h.lowBits

theorem Placed.modPlayer (h : r.Placed) (ref : Nat) {f : Player → Player}
    (hid : ∀ p, (f p).id = p.id) (hsession : ∀ p, (f p).sessionId = p.sessionId) :
    (r.modPlayer ref f).Placed :=
  h.keep h.sound rfl (SameIds.setPlayer (hid _) (hsession _)) fun _ _ _ he => he

theorem Placed.removePlayer (h : r.Placed) {sid : Nat} (hl : r.players.lookup sid = some ref) :
    Placed { r with
      players := r.players.erase sid
      objMgr := r.objMgr.removeObject (.player ref (r.heap ref).id) } := by
  have hother : ∀ {sid' ref'}, (r.players.erase sid).lookup sid' = some ref' →
      r.players.lookup sid' = some ref' :=
    fun hl' => (Table.of_lookup_erase hl').2
  have hstay : ∀ {id e},
      (r.objMgr.removeObject (.player ref (r.heap ref).id)).objects.lookup id = some e →
      id ≠ (r.heap ref).id ∧ r.objMgr.objects.lookup id = some e := by
    intro id e he
    unfold ObjectManager.removeObject at he
    rcases h.found hl with hf | hf
    · simp only [Entity.id, hf] at he
      refine ⟨fun heq => ?_, he⟩
      rw [heq, hf] at he
      cases he
    · simp only [Entity.id, hf] at he
      exact Table.of_lookup_erase he
  constructor
  · exact h.sound.removeObject (h.found hl)
  · intro id ref' pid he
    obtain ⟨hne, he⟩ := hstay he
    obtain ⟨hl', hid⟩ := h.stored id ref' pid he
    refine ⟨?_, hid⟩
    unfold InRoom at hl' ⊢
    rw [Table.lookup_erase_ite]
    split
    · next heq =>
      rw [heq, hl] at hl'
      cases hl'
      exact absurd hid.symm hne
    · exact hl'
  · exact fun sid' ref' hl' => h.low sid' ref' (hother hl')
  · exact fun sid' ref' sid'' ref'' hl' hl'' =>
      h.apart sid' ref' sid'' ref'' (hother hl') (hother hl'')
  · exact h.lowBits

theorem Placed.clear {r' : Room} (h : r.Placed) (hobj : r'.objMgr = r.objMgr.clear)
    (hpl : r'.players = r.players) (hheap : r'.heap = r.heap) : r'.Placed := by
  refine h.keep (hobj ▸ ObjectManager.sound_clear h.sound) hpl (fun ref => hheap ▸ ⟨rfl, rfl⟩) ?_
  intro id ref pid he
  rw [hobj] at he
  cases he

theorem Change.placed {t : Tag} {r' : Room} (h : Change t r r')
    (hmax : r'.objMgr.generated ≤ ObjectManager.maxGenerated) (hr : r.Placed) : r'.Placed := by
  have hplayer : r'.toScene = r.toScene → r'.Placed := by
    intro hscene
    refine hr.keep (hscene ▸ hr.sound) h.players_eq h.sameIds fun id ref pid he => ?_
    rw [hscene] at he
    exact he
  cases h with
  | scene hs =>
    exact hr.keep (hs.sound hmax hr.sound) rfl (SameIds.refl r) fun id ref pid he =>
      hs.player_of he rfl
  | enlist hin => exact hr.addPlayerObject hin
  | _ => exact hplayer rfl

theorem placed_of_reach {ok : Tag → Prop} {r' : Room} (h : Reach Change ok r r') (hr : r.Placed)
    (hmax : r'.objMgr.generated ≤ ObjectManager.maxGenerated) : r'.Placed := by
  have hinv := h.inv (fun x => x.objMgr.generated ≤ ObjectManager.maxGenerated → x.Placed)
    (fun t x x' _ hc hx hmax' => hc.placed hmax' (hx (hc.generated_le.trans hmax'))) (fun _ => hr)
  exact hinv hmax

/-! ### Tasks -/

theorem Placed.left (h : r.Placed) {sid : Nat} (hl : r.players.lookup sid = some ref) :
    (r.left sid ref).Placed := by
  have hgone := (h.removePlayer hl).modPlayer ref (f := fun p => { p with currentRoomId := 0 })
    (fun _ => rfl) fun _ => rfl
  exact hgone.keep hgone.sound rfl (SameIds.refl _) fun _ _ _ he => he

theorem placed_startGame (data : DataManager) (h : r.Placed) :
    (r.executeStartGame data).Placed := by
  unfold executeStartGame
  split
  · exact h
  · exact h.keep h.sound rfl (SameIds.refl r) fun _ _ _ he => he

theorem Placed.stop (h : r.Placed) : r.internalClear.Placed := by
  refine ⟨ObjectManager.sound_clear h.sound, ?_, ?_, ?_, h.lowBits⟩
  · intro id ref pid he
    cases he
  · intro sid ref hl
    cases hl
  · intro sid ref sid' ref' hl
    cases hl

/-- What a task needs to keep the ids apart. -/
def TaskApart (r : Room) : Task → Prop
  | .enter ref => r.MayEnter ref
  | _ => True

instance (r : Room) : ∀ task, Decidable (r.TaskApart task)
  | .enter ref => inferInstanceAs (Decidable (r.MayEnter ref))
  | .skillsLoaded .. | .startGame | .update | .handleGameOver _ | .leave _ | .stop | .reset
  | .playerReady _ | .selectLevelUp .. | .moveInput .. | .addExpToAll _ | .debugSpawn ..
  | .toggleGodMode | .setMonsterStrategy _ =>
    isTrue trivial

theorem Ran.placed {lm : Libm} {data : DataManager} {ch : TickChoice} {task : Task}
    {res : Room × Effects} (hran : Ran lm data ch r task res) (ht : r.Tidy) (h : r.Placed)
    (hapart : r.TaskApart task) (hmax : res.1.objMgr.generated ≤ ObjectManager.maxGenerated) :
    res.1.Placed := by
  cases hran with
  | nothing => exact h
  | quiet _ hreach => exact placed_of_reach hreach h hmax
  | mild hreach => exact placed_of_reach hreach h hmax
  | select => exact placed_of_reach (reach_selectLevelUp data r _ _) h hmax
  | enter hreach => exact placed_of_reach hreach (h.enter hapart) hmax
  | loaded hreach => exact placed_of_reach hreach h hmax
  | start => exact placed_startGame data h
  | tick hact =>
    have hprep : (r.prepared data ch).Placed :=
      h.keep h.sound rfl (SameIds.refl r) fun _ _ _ he => he
    exact placed_of_reach (reach_tick lm data ch ht hact) hprep hmax
  | gameOver => exact h.keep h.sound rfl (SameIds.refl r) fun _ _ _ he => he
  | left hl => exact h.left hl
  | last hl => exact (h.left hl).clear rfl rfl rfl
  | stop => exact h.stop
  | reset => exact h.clear rfl rfl rfl
  | @ready sid ref =>
    have hready :=
      h.modPlayer ref (f := fun p => { p with isReady := true }) (fun _ => rfl) fun _ => rfl
    have hstart := placed_startGame data hready
    exact hstart.keep hstart.sound rfl (SameIds.refl _) fun _ _ _ he => he

end Room

/-! ## Runs -/

namespace Arena

structure Identified (s : Arena) : Prop where
  enrolled : s.Enrolled
  placed : s.room.Placed

section
variable (lm : Libm) (data : DataManager)

/-- The condition on a step: who enters has an id of its own up to 1000, and ids have not run
out. -/
def IdsApart (s : Arena) (a : ArenaAction) : Prop :=
  (∀ task ∈ s.next a, s.room.TaskApart task) ∧
    ∀ t ∈ s.step lm data a, t.room.objMgr.generated ≤ ObjectManager.maxGenerated

instance (s : Arena) (a : ArenaAction) : Decidable (IdsApart lm data s a) :=
  inferInstanceAs (Decidable (_ ∧ _))

theorem identified_make (roomId : Int) (hasUserDB : Bool) : (make roomId hasUserDB).Identified := by
  have hobj : (make roomId hasUserDB).room.objMgr.Sound := by
    refine ⟨?_, ?_, ?_, rfl, ?_⟩
    · intro id e he
      cases he
    · intro id e he
      cases he
    · intro id e he
      cases he
    · intro c hc
      cases hc
  have hbits : (0 : Int) = Int.bmod (0 : Nat) (2 ^ 32) := by rw [Nat.cast_zero, Int.zero_bmod]
  refine ⟨enrolled_make roomId hasUserDB, ⟨hobj, ?_, ?_, ?_, fun ref => hbits⟩⟩
  · intro id ref pid he
    cases he
  · intro sid ref hl
    cases hl
  · intro sid ref sid' ref' hl
    cases hl

theorem placed_join (data : DataManager) {s : Arena} (h : s.Identified) (sessionId : Nat) :
    (s.room.setPlayer s.made (Player.create data sessionId)).Placed := by
  have hin : ∀ {sid ref}, s.room.players.lookup sid = some ref →
      (s.room.setPlayer s.made (Player.create data sessionId)).heap ref = s.room.heap ref :=
    fun hl => h.enrolled.heap_join hl _
  refine ⟨h.placed.sound, ?_, ?_, ?_, ?_⟩
  · intro id ref pid he
    have hstored := h.placed.stored id ref pid he
    unfold Room.InRoom
    rw [hin hstored.1]
    exact hstored
  · intro sid ref hl
    rw [hin hl]
    exact h.placed.low sid ref hl
  · intro sid ref sid' ref' hl hl' heq
    rw [hin hl, hin hl'] at heq
    exact h.placed.apart sid ref sid' ref' hl hl' heq
  · intro ref
    simp only [Room.setPlayer, Function.update_apply]
    split
    · rw [Room.create_id, (Room.create_same data sessionId).1]
    · exact h.placed.lowBits ref

/-- **Every step keeps ids apart.** -/
theorem identified_step {lm : Libm} {data : DataManager} {s s' : Arena} {a : ArenaAction}
    (h : s.Identified) (hok : s.IdsApart lm data a) (hstep : s.step lm data a = some s') :
    s'.Identified := by
  have hs := step_of_eq hstep
  have hmax : s'.room.objMgr.generated ≤ ObjectManager.maxGenerated := hok.2 s' hstep
  refine ⟨h.enrolled.step hs, ?_⟩
  cases hs with
  | join sessionId => exact placed_join data h sessionId
  | stop => exact h.placed.keep h.placed.sound rfl (Room.SameIds.refl _) fun _ _ _ he => he
  | command ch ref c =>
    exact Room.placed_of_reach (Room.reach_command lm data ch s.room ref c) h.placed hmax
  | run ch task rest res hq hran =>
    have hapart : s.room.TaskApart task := hok.1 task (by simp [next, hq])
    exact hran.placed h.enrolled.tidy h.placed hapart hmax
  | _ => exact h.placed

/-- **Object identity.** As long as ids do not meet, no call of `AddObject` replaces another object,
every `RemoveObject` removes what was meant, and the counter is the number of monsters stored. -/
theorem object_identity (roomId : Int) (hasUserDB : Bool) (as : List ArenaAction)
    (t : Arena) (hok : Meets (step lm data) (IdsApart lm data) (make roomId hasUserDB) as)
    (h : run (step lm data) (make roomId hasUserDB) as = some t) :
    (∀ c ∈ t.room.objMgr.calls, c.Right) ∧
      t.room.objMgr.aliveMonsterCount = Table.count Entity.isMonster t.room.objMgr.objects := by
  have hinv := run_inv_of_meets Identified (fun s a s' hs hok hstep => identified_step hs hok hstep)
    (identified_make roomId hasUserDB) hok h
  exact ⟨hinv.placed.sound.right, hinv.placed.sound.counted⟩

end

/-- Every player's weapon hits the monster 1001. -/
def strikeTick : TickChoice :=
  { TickChoice.idle with firings := fun _ =>
    [.strike 70 [⟨1001, 100, false, none⟩] (List.nodup_singleton _)] }

/-- A player enters, two monsters are spawned, one dies and drops a gem, and the player leaves. -/
def oneGame : List ArenaAction :=
  [.join 5, .run .idle, .run .idle, .post (.playerReady 5), .run .idle,
    .post (.debugSpawn 1 2), .run .idle,
    .post .update, .run strikeTick, .post .update, .run .idle, .post (.leave 5), .run .idle]

theorem object_identity_oneGame :
    ∃ t, run (step stillLibm smallData) (make 2 false) oneGame = some t ∧
      t.room.objMgr.calls.length = 6 ∧ (∀ c ∈ t.room.objMgr.calls, c.Right) ∧
      t.room.objMgr.aliveMonsterCount = Table.count Entity.isMonster t.room.objMgr.objects := by
  exact exists_run_and (by decide +kernel) fun t =>
    object_identity stillLibm smallData 2 false oneGame t (by decide +kernel)

def tookMonster : TableCall → Bool
  | .add (.player _ _) (some (.monster _)) => true
  | _ => false

theorem tookMonster_wrong {c : TableCall} (h : tookMonster c = true) : ¬c.Right := by
  unfold tookMonster at h
  split at h
  · rintro (hr | hr) <;> cases hr
  · cases h

/-- Session 1001 enters a game in which a monster was spawned. -/
def collision : List ArenaAction :=
  [.join 5, .run .idle, .run .idle, .post (.debugSpawn 1 1), .run .idle, .join 1001, .run .idle]

/-- The monster is replaced, and the counter still has it. -/
theorem object_identity_lost :
    ∃ t, run (step stillLibm smallData) (make 1 false) collision = some t ∧
      (∃ c ∈ t.room.objMgr.calls, ¬c.Right) ∧
      t.room.objMgr.aliveMonsterCount = 1 ∧
      Table.count Entity.isMonster t.room.objMgr.objects = 0 := by
  refine ⟨_, rfl, ?_, by decide +kernel, by decide +kernel⟩
  have hany : ∀ t : Arena, t.room.objMgr.calls.any tookMonster = true →
      ∃ c ∈ t.room.objMgr.calls, ¬c.Right := by
    intro t h
    obtain ⟨c, hc, hwrong⟩ := List.any_eq_true.mp h
    exact ⟨c, hc, tookMonster_wrong hwrong⟩
  exact hany _ (by decide +kernel)

end Arena

end ToyServer.SimpleGame
