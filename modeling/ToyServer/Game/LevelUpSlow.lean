import ToyServer.Game.SlowedMonsters

/-!
# The slow of a level-up

A monster carries one slow for all players, so two players that level up beside it take it from each
other, and a player that leaves takes its set along but not the slows.

`levelup_slow_agrees` says when a monster is slowed just if a player in the room that levels up
remembers it: no monster is beside two level-ups, nobody leaves or is replaced while holding one,
and no slow runs out.
-/

namespace ToyServer.SimpleGame

variable (data : DataManager)

open Chain Runs

namespace Room

/-! ## Tasks -/

variable {r : Room}

theorem SlowsKept.modPlayer (h : r.SlowsKept) (ref : Nat) {f : Player → Player}
    (hid : ∀ p, (f p).id = p.id) (hsession : ∀ p, (f p).sessionId = p.sessionId)
    (hsl : ∀ p, (f p).slowedMonsterIds = p.slowedMonsterIds) : (r.modPlayer ref f).SlowsKept := by
  have hids : SameIds r (r.modPlayer ref f) := SameIds.setPlayer (hid _) (hsession _)
  have hin : ∀ {ref'}, (r.modPlayer ref f).InRoom ref' ↔ r.InRoom ref' := hids.inRoom rfl
  have hholds : ∀ ref' id, (r.modPlayer ref f).Holds ref' id ↔ r.Holds ref' id := by
    intro ref' id
    simp only [Holds, Room.modPlayer, setPlayer, Function.update_apply]
    split
    · next heq => rw [hsl, heq]
    · rfl
  refine h.keep (fun id m hm => Or.inl ⟨m, hm, rfl⟩) (le_refl _)
    (fun ref' id => (hholds ref' id).mp)
    (fun id m ref' _ hh hroom => ⟨(hholds ref' id).mpr hh, hin.mpr hroom⟩) fun id ref' pid he => ?_
  rw [hin, (hids ref').1]
  exact h.stored id ref' pid he

theorem SlowsKept.enter (h : r.SlowsKept) {ref : Nat}
    (hfree : r.players.lookup (r.heap ref).sessionId = none) :
    SlowsKept { r with players := r.players.insert (r.heap ref).sessionId ref } := by
  have hin : ∀ {ref'}, r.InRoom ref' →
      InRoom { r with players := r.players.insert (r.heap ref).sessionId ref } ref' := by
    intro ref' hroom
    unfold InRoom at hroom ⊢
    rw [Table.lookup_insert_ite]
    split
    · next heq =>
      rw [heq, hfree] at hroom
      cases hroom
    · exact hroom
  refine h.keep (fun id m hm => Or.inl ⟨m, hm, rfl⟩) (le_refl _) (fun _ _ hh => hh)
    (fun id m ref' _ hh hroom => ⟨hh, hin hroom⟩) fun id ref' pid he => ?_
  exact ⟨hin (h.stored id ref' pid he).1, (h.stored id ref' pid he).2⟩

theorem SlowsKept.clear {r' : Room} (h : r.SlowsKept) (hobj : r'.objMgr.objects = ∅)
    (hgen : r'.objMgr.generated = r.objMgr.generated)
    (hsl : ∀ ref, (r'.heap ref).slowedMonsterIds = (r.heap ref).slowedMonsterIds) :
    r'.SlowsKept := by
  have hnone : ∀ {id e}, ¬r'.objMgr.objects.lookup id = some e := by
    intro id e he
    rw [hobj] at he
    cases he
  have hempty : ∀ {id m}, ¬r'.getMonster id = some m :=
    fun hm => hnone (Scene.lookup_of_getMonster hm)
  refine h.keep (fun id m hm => absurd hm hempty) hgen.ge (fun ref id hh => ?_)
    (fun id m ref hm => absurd hm hempty) fun id ref pid he => absurd he hnone
  unfold Holds at hh ⊢
  rwa [hsl] at hh

/-- The player holds no monster that is there. -/
def HandsFree (r : Room) (ref : Nat) : Prop :=
  ∀ id ∈ (r.heap ref).slowedMonsterIds, (r.getMonster id).isNone = true

instance (r : Room) (ref : Nat) : Decidable (r.HandsFree ref) :=
  inferInstanceAs (Decidable (∀ _ ∈ _, _))

theorem removeObject_generated (o : ObjectManager) (e : Entity) :
    (o.removeObject e).generated = o.generated := by
  unfold ObjectManager.removeObject
  dsimp only
  split <;> rfl

theorem SlowsKept.left (h : r.SlowsKept) {sid ref : Nat}
    (hl : r.players.lookup sid = some ref) (hfree : r.HandsFree ref) :
    (r.left sid ref).SlowsKept := by
  have hids : SameIds r (r.left sid ref) := sameIds_left r sid ref
  have hstay : ∀ {id e}, (r.left sid ref).objMgr.objects.lookup id = some e →
      id ≠ (r.heap ref).id ∧ r.objMgr.objects.lookup id = some e := by
    intro id e he
    have he : (r.objMgr.removeObject (.player ref (r.heap ref).id)).objects.lookup id = some e := he
    simp only [ObjectManager.removeObject, Entity.id] at he
    split at he
    · next hnone =>
      refine ⟨fun heq => ?_, he⟩
      rw [heq, hnone] at he
      cases he
    · exact Table.of_lookup_erase he
  have hin : ∀ {ref'}, ref' ≠ ref → r.InRoom ref' → (r.left sid ref).InRoom ref' := by
    intro ref' hne hroom
    unfold InRoom at hroom ⊢
    rw [(hids ref').2]
    show (r.players.erase sid).lookup _ = _
    rw [Table.lookup_erase_ite]
    split
    · next heq =>
      rw [heq, hl] at hroom
      exact absurd (Option.some.inj hroom).symm hne
    · exact hroom
  have hholds : ∀ ref' id, (r.left sid ref).Holds ref' id ↔ r.Holds ref' id := by
    intro ref' id
    simp only [Holds, Room.left, modScene, Room.modPlayer, setPlayer, Function.update_apply]
    split
    · next heq => rw [heq]
    · rfl
  have hmon : ∀ {id m}, (r.left sid ref).getMonster id = some m → r.getMonster id = some m :=
    fun hm => ObjectManager.getMonster_eq_some.mpr (hstay (Scene.lookup_of_getMonster hm)).2
  refine h.keep (fun id m hm => Or.inl ⟨m, hmon hm, rfl⟩) (removeObject_generated _ _).ge
    (fun ref' id => (hholds ref' id).mp) (fun id m ref' hm hh hroom => ?_) fun id ref' pid he => ?_
  · refine ⟨(hholds ref' id).mpr hh, hin (fun heq => ?_) hroom⟩
    -- the one that leaves holds no monster that is there
    have hgone := hfree id (heq ▸ hh)
    rw [hmon hm] at hgone
    cases hgone
  · obtain ⟨hne, he⟩ := hstay he
    obtain ⟨hroom, hid⟩ := h.stored id ref' pid he
    refine ⟨hin (fun heq => ?_) hroom, (hids ref').1.trans hid⟩
    exact hne (heq ▸ hid).symm

/-- The last one may hold what it likes: the monsters go. -/
theorem SlowsKept.last (h : r.SlowsKept) (sid ref : Nat) :
    ((r.left sid ref).executeReset data).SlowsKept := by
  refine h.clear rfl (removeObject_generated _ _) fun ref' => ?_
  simp only [executeReset, Room.left, modScene, Room.modPlayer, setPlayer, Function.update_apply]
  split
  · next heq => rw [heq]
  · rfl

theorem slowsKept_startGame (h : r.SlowsKept) : (r.executeStartGame data).SlowsKept := by
  unfold executeStartGame
  split
  · exact h
  · exact ⟨h.issued, h.past, h.holder, h.single, h.slowed, h.stored⟩

/-- A player's choice ends its level-up, and nobody else's. -/
theorem slowsKept_selectLevelUp (h : r.SlowsKept) (ref : Nat) (optionIndex : Int) :
    (r.onPlayer ref fun p s => SimpleGame.selectLevelUp data p optionIndex s).SlowsKept := by
  obtain ⟨hkept, hscene⟩ := selectLevelUp_kept data (r.heap ref) optionIndex r.toScene
  have hexit := h.exit ref hkept rfl
  show (r.acted ref (SimpleGame.selectLevelUp data (r.heap ref) optionIndex r.toScene).1
    (SimpleGame.selectLevelUp data (r.heap ref) optionIndex r.toScene).2).SlowsKept
  rw [hscene]
  exact hexit

/-! ## The condition -/

/-- Two players that level up neither hold a monster in common nor have one around them in
common. -/
def MonstersApart (ch : TickChoice) (r : Room) : Prop :=
  ∀ e ∈ r.players.entries, ∀ e' ∈ r.players.entries, (r.heap e.2).isLevelingUp = true →
    (r.heap e'.2).isLevelingUp = true → e.2 ≠ e'.2 → ∀ id ∈ r.touched ch e.2, id ∉ r.touched ch e'.2

instance (ch : TickChoice) (r : Room) : Decidable (r.MonstersApart ch) :=
  inferInstanceAs (Decidable (∀ _ ∈ _, ∀ _ ∈ _, _))

theorem MonstersApart.noneShared {ch : TickChoice} (h : r.MonstersApart ch) : r.NoneShared ch :=
  fun ref ref' hr hr' hl hl' =>
    h ⟨_, ref⟩ (AList.mem_lookup_iff.mp hr) ⟨_, ref'⟩ (AList.mem_lookup_iff.mp hr') hl hl'

def slowEnds (now : ℚ) : Entity → Bool
  | .monster m => m.levelUpSlows.any (ModifierContainer.expired now)
  | _ => false

theorem unexpired_prepared (ch : TickChoice)
    (h : ∀ e ∈ r.objMgr.objects.entries,
      slowEnds (r.totalRunTime + GameConfig.tickIntervalSec) e.2 = false) :
    (r.prepared data ch).Unexpired := by
  intro id m hm x hx
  have hends := h ⟨id, .monster m⟩ (AList.mem_lookup_iff.mp (Scene.lookup_of_getMonster hm))
  exact Bool.eq_false_iff.mpr (List.any_eq_false.mp hends x hx)

/-- What a task needs to keep the slows with their players. -/
def SlowsApart (ch : TickChoice) (r : Room) : Task → Prop
  | .enter ref => r.players.lookup (r.heap ref).sessionId = none
  | .leave sid => ∀ ref ∈ r.players.lookup sid, r.HandsFree ref ∨ (r.players.erase sid).keys = []
  | .update => r.inactive = false → r.MonstersApart ch ∧
      ∀ e ∈ r.objMgr.objects.entries,
      slowEnds (r.totalRunTime + GameConfig.tickIntervalSec) e.2 = false
  | _ => True

instance (ch : TickChoice) (r : Room) : ∀ task, Decidable (r.SlowsApart ch task)
  | .enter _ => inferInstanceAs (Decidable (_ = _))
  | .leave _ => inferInstanceAs (Decidable (∀ _ ∈ _, _))
  | .update => inferInstanceAs (Decidable (_ → _))
  | .skillsLoaded .. | .startGame | .handleGameOver _ | .stop | .reset | .playerReady _
  | .selectLevelUp .. | .moveInput .. | .addExpToAll _ | .debugSpawn .. | .toggleGodMode
  | .setMonsterStrategy _ => isTrue trivial

theorem Ran.slowsKept {lm : Libm} {data : DataManager} {ch : TickChoice} {task : Task}
    {res : Room × Effects} (hran : Ran lm data ch r task res) (ht : r.Tidy) (h : r.SlowsKept)
    (hapart : r.SlowsApart ch task) (hmax : res.1.objMgr.generated ≤ ObjectManager.maxGenerated) :
    res.1.SlowsKept := by
  cases hran with
  | nothing => exact h
  | quiet _ hreach => exact slowsKept_of_reach hreach Quiet.still h hmax
  | mild hreach => exact slowsKept_of_reach hreach Mild.still h hmax
  | select => exact slowsKept_selectLevelUp data h _ _
  | enter hreach => exact slowsKept_of_reach hreach Enlisting.still (h.enter hapart) hmax
  | loaded hreach => exact slowsKept_of_reach hreach Enlisting.still h hmax
  | start => exact slowsKept_startGame data h
  | tick hact =>
    obtain ⟨hone, hends⟩ := hapart hact
    exact slowsKept_update lm data ch ht h hone.noneShared
      (unexpired_prepared data ch hends) hact hmax
  | gameOver => exact ⟨h.issued, h.past, h.holder, h.single, h.slowed, h.stored⟩
  | @left sid ref hl hmore => exact h.left hl ((hapart ref hl).resolve_right hmore)
  | @last sid ref => exact h.last data sid ref
  | stop => exact h.clear rfl rfl fun _ => rfl
  | reset => exact h.clear rfl rfl fun _ => rfl
  | @ready sid ref =>
    have hready :=
      h.modPlayer ref (f := fun p => { p with isReady := true }) (fun _ => rfl)
        (fun _ => rfl) fun _ => rfl
    have hstart : (r.readied data ref).SlowsKept := slowsKept_startGame data hready
    exact ⟨hstart.issued, hstart.past, hstart.holder, hstart.single, hstart.slowed, hstart.stored⟩

/-- The monster is slowed just if a player in the room that is levelling up remembers it. -/
def SlowAgrees (r : Room) (id : Int) (m : Monster) : Prop :=
  m.slowedUp = true ↔
    ∃ e ∈ r.players.entries, (r.heap e.2).isLevelingUp = true ∧ id ∈ (r.heap e.2).slowedMonsterIds

instance (r : Room) (id : Int) (m : Monster) : Decidable (r.SlowAgrees id m) :=
  inferInstanceAs (Decidable (_ ↔ _))

theorem SlowsKept.agrees (h : r.SlowsKept) (ht : r.Tidy) {id : Int} {m : Monster}
    (hm : r.getMonster id = some m) : r.SlowAgrees id m := by
  unfold SlowAgrees
  rw [h.slowed id m hm]
  constructor
  · rintro ⟨ref, hh⟩
    refine ⟨⟨_, ref⟩, AList.mem_lookup_iff.mp (h.holder id m ref hm hh), ?_, hh⟩
    -- who is not levelling up remembers nothing
    by_contra hlev
    have hempty := (ht.tame ref).idle (by simpa using hlev)
    unfold Holds at hh
    rw [hempty] at hh
    cases hh
  · rintro ⟨e, -, -, hh⟩
    exact ⟨e.2, hh⟩

end Room

/-! ## Runs -/

def ArenaAction.choice : ArenaAction → Option TickChoice
  | .run ch => some ch
  | _ => none

namespace Arena

/-- No monster is touched by two level-ups, nobody leaves or is replaced with a slowed monster in
hand, and ids have not run out. -/
def LevelUpsApart (lm : Libm) (data : DataManager) (s : Arena) (a : ArenaAction) : Prop :=
  (∀ task ∈ s.next a, ∀ ch ∈ a.choice, s.room.SlowsApart ch task) ∧
    ∀ t ∈ s.step lm data a, t.room.objMgr.generated ≤ ObjectManager.maxGenerated

instance (lm : Libm) (data : DataManager) (s : Arena) (a : ArenaAction) :
    Decidable (LevelUpsApart lm data s a) :=
  inferInstanceAs (Decidable (_ ∧ _))

theorem slowsKept_make (roomId : Int) (hasUserDB : Bool) :
    (make roomId hasUserDB).room.SlowsKept := by
  constructor
  · intro id m hm
    cases hm
  · intro ref id hh
    cases hh
  · intro id m ref hm
    cases hm
  · intro id m ref ref' hm
    cases hm
  · intro id m hm
    cases hm
  · intro id ref pid he
    cases he

/-- The player object that a join makes holds nothing, and what it replaces was not in the room. -/
theorem slowsKept_join {s : Arena} (he : s.Enrolled) (h : s.room.SlowsKept) (sessionId : Nat) :
    (s.room.setPlayer s.made (Player.create data sessionId)).SlowsKept := by
  have hsame : ∀ {ref}, s.room.InRoom ref →
      (s.room.setPlayer s.made (Player.create data sessionId)).heap ref = s.room.heap ref :=
    fun hroom => he.heap_join hroom _
  have hin : ∀ {ref}, s.room.InRoom ref →
      (s.room.setPlayer s.made (Player.create data sessionId)).InRoom ref := by
    intro ref hroom
    unfold Room.InRoom
    rw [hsame hroom]
    exact hroom
  refine h.keep (fun id m hm => Or.inl ⟨m, hm, rfl⟩) (le_refl _) (fun ref id hh => ?_)
    (fun id m ref _ hh hroom => ⟨?_, hin hroom⟩) fun id ref pid hlook => ?_
  · unfold Room.Holds at hh ⊢
    simp only [Room.setPlayer, Function.update_apply] at hh
    split at hh
    · rw [(Room.create_same data sessionId).2.2.1] at hh
      cases hh
    · exact hh
  · unfold Room.Holds
    rw [hsame hroom]
    exact hh
  · obtain ⟨hroom, hid⟩ := h.stored id ref pid hlook
    exact ⟨hin hroom, by rw [hsame hroom, hid]⟩

/-- **Every step keeps slows and sets in agreement.** -/
theorem slowsKept_step {lm : Libm} {data : DataManager} {s s' : Arena} {a : ArenaAction}
    (he : s.Enrolled) (h : s.room.SlowsKept) (hok : s.LevelUpsApart lm data a)
    (hstep : s.step lm data a = some s') : s'.room.SlowsKept := by
  have hmax : s'.room.objMgr.generated ≤ ObjectManager.maxGenerated := hok.2 s' hstep
  cases step_of_eq hstep with
  | join sessionId => exact slowsKept_join data he h sessionId
  | stop => exact ⟨h.issued, h.past, h.holder, h.single, h.slowed, h.stored⟩
  | command ch ref c =>
    exact Room.slowsKept_of_reach (Room.reach_command lm data ch s.room ref c) Mild.still h hmax
  | run ch task rest res hq hran =>
    have hapart : s.room.SlowsApart ch task := hok.1 task (by simp [next, hq]) ch rfl
    exact hran.slowsKept he.tidy h hapart hmax
  | _ => exact h

/-- **The slows agree with the level-ups.** -/
theorem levelup_slow_agrees (lm : Libm) (data : DataManager) (roomId : Int) (hasUserDB : Bool)
    (as : List ArenaAction) (t : Arena)
    (hok : Meets (step lm data) (LevelUpsApart lm data) (make roomId hasUserDB) as)
    (h : run (step lm data) (make roomId hasUserDB) as = some t) (id : Int) (m : Monster)
    (hm : t.room.getMonster id = some m) : t.room.SlowAgrees id m := by
  have hinv := run_inv_of_meets (fun s => s.Enrolled ∧ s.room.SlowsKept)
    (fun s a s' hs hok hstep => ⟨hs.1.step (step_of_eq hstep), slowsKept_step hs.1 hs.2 hok hstep⟩)
    ⟨enrolled_make roomId hasUserDB, slowsKept_make roomId hasUserDB⟩ hok h
  exact hinv.2.agrees hinv.1.tidy hm

/-- Monsters appear at (3, 0), and every player has the first two near. -/
def besideTick : TickChoice :=
  { TickChoice.idle with
    spawning := ⟨fun _ => (3, 0), fun _ => none⟩
    near := fun _ => [1001, 1002]
    near_nodup := fun _ => by decide }

/-- Player 5 starts a game with two monsters beside it. -/
def besideGame : List ArenaAction :=
  [.join 5, .run .idle, .run .idle, .post (.playerReady 5), .run .idle, .post (.debugSpawn 1 2),
    .run besideTick]

def levelUpTick (ref : Nat) : List ArenaAction :=
  [.command besideTick ref (.levelUp 100), .post .update, .run besideTick]

def sixJoins : List ArenaAction := [.join 6, .run .idle]

/-- The grid has one monster around player 5 and the other one around the rest. -/
def apartTick : TickChoice :=
  { besideTick with
    near := fun id => if id = 5 then [1001] else [1002]
    near_nodup := fun id => by split <;> decide }

/-- Both players level up, each beside its own monster, and then player 5 chooses. -/
def sideBySide : List ArenaAction :=
  besideGame ++ sixJoins ++ [.command apartTick 0 (.levelUp 100),
    .command apartTick 1 (.levelUp 100), .post .update,
    .run apartTick, .post (.selectLevelUp 0 0), .run .idle]

theorem levelup_slow_agrees_sideBySide :
    ∃ t m m', run (step stillLibm smallData) (make 1 false) sideBySide = some t ∧
      (t.room.getMonster 1001 = some m ∧ m.slowedUp = false ∧ t.room.SlowAgrees 1001 m) ∧
      t.room.getMonster 1002 = some m' ∧ m'.slowedUp = true ∧ t.room.SlowAgrees 1002 m' := by
  obtain ⟨t, ht, ⟨m, hm, hfree⟩, m', hm', hslow⟩ : ∃ t,
      run (step stillLibm smallData) (make 1 false) sideBySide = some t ∧
        (∃ m, t.room.getMonster 1001 = some m ∧ m.slowedUp = false) ∧
        ∃ m, t.room.getMonster 1002 = some m ∧ m.slowedUp = true := by decide +kernel
  have h := levelup_slow_agrees stillLibm smallData 1 false sideBySide t (by decide +kernel) ht
  exact ⟨t, m, m', ht, ⟨hm, hfree, h 1001 m hm⟩, hm', hslow, h 1002 m' hm'⟩

/-- Both players level up beside the same monsters, then the first one chooses. -/
def bothTogether : List ArenaAction :=
  besideGame ++ sixJoins ++ [.command besideTick 0 (.levelUp 100)] ++ levelUpTick 1 ++
    [.post (.selectLevelUp 0 0), .run .idle]

/-- A player leaves in the middle of its level-up. -/
def leavesLeveling : List ArenaAction :=
  besideGame ++ sixJoins ++ levelUpTick 0 ++ [.post (.leave 5), .run .idle]

/-- The choice of one player takes the slow from a monster that the other still holds; a slow stays
when its player has left. -/
theorem levelup_slow_disagrees :
    (∃ t m, run (step stillLibm smallData) (make 1 false) bothTogether = some t ∧
      t.room.getMonster 1001 = some m ∧ m.isDead = false ∧ m.slowedUp = false ∧
      ¬t.room.SlowAgrees 1001 m) ∧
    ∃ t m, run (step stillLibm smallData) (make 1 false) leavesLeveling = some t ∧
      t.room.getMonster 1001 = some m ∧ m.isDead = false ∧ m.slowedUp = true ∧
      ¬t.room.SlowAgrees 1001 m := by
  simp only [exists_and_left]
  constructor
  · decide +kernel
  · decide +kernel

end Arena

end ToyServer.SimpleGame
