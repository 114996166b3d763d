import ToyServer.Game.RoomTasks
import ToyServer.Lib.Chain

/-!
# What the functions of a scene do, in small changes

Every function that runs in a tick is a chain of a few kinds of changes: a monster, a projectile or
a gem is changed in its place, an object is added under a new id, one that is finished is removed, a
packet is built whose lists are not longer than the table, a player is changed.  `Scene.Change` are
those of the table and the packets.  The kinds matter for what comes later:

* `Quiet` functions hurt no player, touch neither level-up slows nor a player's slowed monsters, and
remove nothing;
* `Calm` functions may hurt players, `Bloodless` functions may touch the slows and slowed monsters;
* `Harmless` functions may remove objects, and may build packets of any length;
* `Mild` functions are quiet but may bring a dead player back;
* `Still` functions leave the slows and slowed monsters alone, whatever else they do;
* `Enlisting` functions put a player in the table.
-/

namespace ToyServer.SimpleGame

open Chain

/-- The modifiers that come from level-up auras. -/
def Monster.levelUpSlows (m : Monster) : List StatModifier :=
  m.modifiers.modifiers.filter (·.sourceId == levelUpSlowSourceId)

def Monster.slowedUp (m : Monster) : Bool := !m.levelUpSlows.isEmpty

def Entity.isPlayer : Entity → Bool
  | player _ _ => true
  | _ => false

def Entity.clean : Entity → Bool
  | monster m => m.levelUpSlows.isEmpty
  | _ => true

/-- The length of the longest list. -/
def Packet.width : Packet → Nat
  | spawnObject objects _ => objects.length
  | despawnObject objectIds pickerIds => max objectIds.length pickerIds.length
  | moveObjectBatch moves _ => moves.length
  | damageEffect _ targetIds damageValues isCritical =>
    max targetIds.length (max damageValues.length isCritical.length)
  | gameOver _ _ => 0

def Packet.isOver : Packet → Bool
  | gameOver _ _ => true
  | _ => false

inductive Tag where
  /-- a monster, not its level-up slow -/
  | monster
  /-- a monster, perhaps its level-up slow -/
  | modifiers
  /-- a projectile or a gem -/
  | thing
  | create
  | drop
  | send
  /-- a packet of any length -/
  | wide
  /-- a player, not its slowed monsters -/
  | player
  /-- a player, perhaps its slowed monsters -/
  | aura
  /-- damage to a player -/
  | hurt
  /-- a player that may be dead starts a level-up -/
  | revive
  /-- a player in the room is put in the table -/
  | enlist
deriving DecidableEq

section
variable (t : Tag)

def Quiet : Prop := t ∉ [Tag.modifiers, .aura, .hurt, .revive, .drop, .wide, .enlist]

def Calm : Prop := t ∉ [Tag.modifiers, .aura, .revive, .drop, .wide, .enlist]

def Bloodless : Prop := t ∉ [Tag.hurt, .revive, .drop, .wide, .enlist]

def Harmless : Prop := t ∉ [Tag.modifiers, .aura, .hurt, .revive, .enlist]

def Mild : Prop := t ∉ [Tag.modifiers, .aura, .hurt, .drop, .wide, .enlist]

def Still : Prop := t ∉ [Tag.modifiers, .aura]

/-- What getting into the table is made of. -/
def Enlisting : Prop := t ∈ [Tag.player, .enlist]

instance  : Decidable (Quiet t) := inferInstanceAs (Decidable (¬_))

instance  : Decidable (Calm t) := inferInstanceAs (Decidable (¬_))

instance  : Decidable (Bloodless t) := inferInstanceAs (Decidable (¬_))

instance  : Decidable (Harmless t) := inferInstanceAs (Decidable (¬_))

instance  : Decidable (Mild t) := inferInstanceAs (Decidable (¬_))

instance  : Decidable (Still t) := inferInstanceAs (Decidable (¬_))

instance  : Decidable (Enlisting t) := inferInstanceAs (Decidable (_ ∈ _))

end

theorem Quiet.calm : ∀ t, Quiet t → Calm t := by
  intro t
  cases t <;> decide

theorem Quiet.bloodless : ∀ t, Quiet t → Bloodless t := by
  intro t
  cases t <;> decide

theorem Quiet.mild : ∀ t, Quiet t → Mild t := by
  intro t
  cases t <;> decide

theorem Quiet.still : ∀ t, Quiet t → Still t := by
  intro t
  cases t <;> decide

theorem Calm.still : ∀ t, Calm t → Still t := by
  intro t
  cases t <;> decide

theorem Harmless.still : ∀ t, Harmless t → Still t := by
  intro t
  cases t <;> decide

theorem Mild.still : ∀ t, Mild t → Still t := by
  intro t
  cases t <;> decide

theorem Enlisting.still : ∀ t, Enlisting t → Still t := by
  intro t
  cases t <;> decide

variable (data : DataManager) (s : Scene) {m : Monster} {s' : Scene}

theorem Quiet.harmless : ∀ t, Quiet t → Harmless t := by
  intro t
  cases t <;> decide

namespace ObjectManager

variable {o : ObjectManager}

theorem getMonster_eq_some {id : Int} :
    o.getMonster id = some m ↔ o.objects.lookup id = some (.monster m) := by
  unfold getMonster
  split
  · next m' h => simp [h]
  · next h =>
    constructor
    · intro hc
      cases hc
    · intro hc
      exact absurd hc (h m)

theorem getProjectile_eq_some {id : Int} {p : Projectile} :
    o.getProjectile id = some p ↔ o.objects.lookup id = some (.projectile p) := by
  unfold getProjectile
  split
  · next p' h => simp [h]
  · next h =>
    constructor
    · intro hc
      cases hc
    · intro hc
      exact absurd hc (h p)

theorem getItem_eq_some {id : Int} {g : ExpGem} :
    o.getItem id = some g ↔ o.objects.lookup id = some (.item g) := by
  unfold getItem
  split
  · next g' h => simp [h]
  · next h =>
    constructor
    · intro hc
      cases hc
    · intro hc
      exact absurd hc (h g)

def Keyed (o : ObjectManager) : Prop := ∀ id e, o.objects.lookup id = some e → e.id = id

theorem Keyed.addObject (h : o.Keyed) (e : Entity) : (o.addObject e).Keyed := by
  intro id x hx
  rcases Table.of_lookup_insert hx with ⟨heq, rfl⟩ | ⟨-, hold⟩
  · exact heq.symm
  · exact h id x hold

theorem Keyed.removeObject (h : o.Keyed) (e : Entity) : (o.removeObject e).Keyed := by
  intro id x hx
  unfold ObjectManager.removeObject at hx
  dsimp only at hx
  split at hx
  · exact h id x hx
  · exact h id x (Table.of_lookup_erase hx).2

end ObjectManager

/-! ## Changes of a scene -/

namespace Scene

def put (s : Scene) (id : Int) (e : Entity) : Scene :=
  { s with objMgr := { s.objMgr with objects := s.objMgr.objects.insert id e } }

def create (s : Scene) (e : Entity) : Scene :=
  { s with objMgr := s.objMgr.generateId.2.addObject e }

def drop (s : Scene) (e : Entity) : Scene := { s with objMgr := s.objMgr.removeObject e }

def size (s : Scene) : Nat := Table.size s.objMgr.objects

inductive Change : Tag → Scene → Scene → Prop
  | monster {s : Scene} {id : Int} {m m' : Monster} : s.getMonster id = some m → m'.id = m.id →
      m'.levelUpSlows = m.levelUpSlows → Change .monster s (s.put id (.monster m'))
  | modifiers {s : Scene} {id : Int} {m m' : Monster} : s.getMonster id = some m → m'.id = m.id →
      Change .modifiers s (s.put id (.monster m'))
  | thing {s : Scene} {id : Int} {e e' : Entity} :
      s.objMgr.objects.lookup id = some e → e'.id = e.id →
      e.isMonster = false → e.isPlayer = false → e'.isMonster = false → e'.isPlayer = false →
      Change .thing s (s.put id e')
  | create {s : Scene} {e : Entity} : e.id = s.objMgr.nextId → e.isPlayer = false → e.clean = true →
      Change .create s (s.create e)
  | drop {s : Scene} {id : Int} {e : Entity} :
      s.objMgr.objects.lookup id = some e → e.isPlayer = false → Change .drop s (s.drop e)
  | send {s : Scene} {pkt : Packet} : pkt.isOver = false → pkt.width ≤ max 1 s.size →
      Change .send s (s.send pkt)
  | wide {s : Scene} {pkt : Packet} : pkt.isOver = false → Change .wide s (s.send pkt)

theorem Change.keyed {t : Tag} {s : Scene} (h : Change t s s') (hk : s.objMgr.Keyed) :
    s'.objMgr.Keyed := by
  have hput : ∀ {s : Scene} {id : Int} {e e' : Entity}, s.objMgr.Keyed →
      s.objMgr.objects.lookup id = some e → e'.id = e.id → (s.put id e').objMgr.Keyed := by
    intro s id e e' hk he hid id' x hx
    rcases Table.of_lookup_insert hx with ⟨heq, rfl⟩ | ⟨-, hold⟩
    · rw [heq, hid, hk id e he]
    · exact hk id' x hold
  cases h with
  | monster hm hid _ => exact hput hk (ObjectManager.getMonster_eq_some.mp hm) hid
  | modifiers hm hid => exact hput hk (ObjectManager.getMonster_eq_some.mp hm) hid
  | thing he hid => exact hput hk he hid
  | @create s e => exact ObjectManager.Keyed.addObject (o := s.objMgr.generateId.2) hk e
  | @drop s id e => exact hk.removeObject e
  | send => exact hk
  | wide => exact hk

theorem keyed_of_reach {ok : Tag → Prop} {s : Scene} (h : Reach Change ok s s')
    (hk : s.objMgr.Keyed) : s'.objMgr.Keyed :=
  h.inv (fun s => s.objMgr.Keyed) (fun _ _ _ _ hc => hc.keyed) hk

theorem Change.generated_le {t : Tag} {s : Scene} (h : Change t s s') :
    s.objMgr.generated ≤ s'.objMgr.generated := by
  cases h with
  | create => exact Nat.le_succ _
  | @drop s id e =>
    simp only [Scene.drop, ObjectManager.removeObject]
    split <;> exact le_refl _
  | _ => exact le_refl _

/-! ### Monsters -/

theorem modMonster_of_some {s : Scene} {id : Int} (h : s.getMonster id = some m)
    (f : Monster → Monster) : s.modMonster id f = s.put id (.monster (f m)) := by
  have hget : s.objMgr.getMonster id = some m := h
  simp only [modMonster, ObjectManager.modMonster, hget, put]

theorem modMonster_of_none {s : Scene} {id : Int} (h : s.getMonster id = none)
    (f : Monster → Monster) : s.modMonster id f = s := by
  have hget : s.objMgr.getMonster id = none := h
  simp only [modMonster, ObjectManager.modMonster, hget]

theorem reach_modMonster (id : Int) {f : Monster → Monster} (hid : ∀ m, (f m).id = m.id)
    (hslow : ∀ m, (f m).levelUpSlows = m.levelUpSlows) :
    Reach Change Quiet s (s.modMonster id f) := by
  cases h : s.getMonster id with
  | none =>
    rw [modMonster_of_none h]
    exact Reach.refl s
  | some m =>
    rw [modMonster_of_some h]
    exact Reach.one (by decide) (.monster h (hid m) (hslow m))

theorem reach_modifiers (id : Int) {f : Monster → Monster} (hid : ∀ m, (f m).id = m.id) :
    Reach Change (· = Tag.modifiers) s (s.modMonster id f) := by
  cases h : s.getMonster id with
  | none =>
    rw [modMonster_of_none h]
    exact Reach.refl s
  | some m =>
    rw [modMonster_of_some h]
    exact Reach.one rfl (.modifiers h (hid m))

theorem reach_modProjectile (id : Int) {f : Projectile → Projectile} (hid : ∀ p, (f p).id = p.id) :
    Reach Change Quiet s { s with objMgr := s.objMgr.modProjectile id f } := by
  unfold ObjectManager.modProjectile
  cases h : s.objMgr.getProjectile id with
  | none => exact Reach.refl s
  | some p =>
    have hlook := ObjectManager.getProjectile_eq_some.mp h
    have hput : Change .thing s (s.put id (.projectile (f p))) :=
      .thing hlook (hid p) rfl rfl rfl rfl
    exact Reach.one (by decide) hput

theorem reach_modItem (id : Int) {f : ExpGem → ExpGem} (hid : ∀ g, (f g).id = g.id) :
    Reach Change Quiet s { s with objMgr := s.objMgr.modItem id f } := by
  unfold ObjectManager.modItem
  cases h : s.objMgr.getItem id with
  | none => exact Reach.refl s
  | some g =>
    have hlook := ObjectManager.getItem_eq_some.mp h
    have hput : Change .thing s (s.put id (.item (f g))) := .thing hlook (hid g) rfl rfl rfl rfl
    exact Reach.one (by decide) hput

theorem reach_send {pkt : Packet} (hover : pkt.isOver = false) (h : pkt.width ≤ max 1 s.size) :
    Reach Change Quiet s (s.send pkt) :=
  Reach.one (by decide) (.send hover h)

theorem reach_announce {e : Entity} (hid : e.id = s.objMgr.nextId) (hp : e.isPlayer = false)
    (hc : e.clean = true) (info : ObjectInfo) (tick : Nat) :
    Reach Change Quiet s ((s.create e).send (.spawnObject [info] tick)) :=
  (Reach.one (by decide) (.create hid hp hc)).trans (reach_send _ rfl (Nat.le_max_left 1 _))

theorem gem_id (id : Int) (x y : ℚ) (exp : Int) : (Entity.item (ExpGem.make id x y exp)).id = id :=
  rfl

theorem reach_dropGem (x y : ℚ) : Reach Change Quiet s (s.dropGem x y) :=
  reach_announce s (gem_id s.objMgr.nextId x y 10) rfl rfl _ _

theorem takeDamage_same (m : Monster) (damage : Int) :
    (m.takeDamage damage).id = m.id ∧ (m.takeDamage damage).modifiers = m.modifiers := by
  unfold Monster.takeDamage
  split
  · exact ⟨rfl, rfl⟩
  · split <;> exact ⟨rfl, rfl⟩

theorem levelUpSlows_congr {m' : Monster} (h : m'.modifiers = m.modifiers) :
    m'.levelUpSlows = m.levelUpSlows := by
  unfold Monster.levelUpSlows
  rw [h]

theorem reach_damageMonster (id damage : Int) :
    Reach Change Quiet s (s.damageMonster id damage) := by
  unfold damageMonster
  cases s.getMonster id with
  | none => exact Reach.refl s
  | some m =>
    have hhurt := reach_modMonster s id (f := fun m => m.takeDamage damage)
      (fun m => (takeDamage_same m damage).1)
      (fun m => levelUpSlows_congr (takeDamage_same m damage).2)
    dsimp only
    split
    · exact hhurt.trans (reach_dropGem _ m.x m.y)
    · exact hhurt

/-- The slow of a weapon has another source than the one of a level-up. -/
theorem levelUpSlows_addStatusEffect (m : Monster) (slow : Bool) (value duration now : ℚ) :
    (m.addStatusEffect slow value duration now).levelUpSlows = m.levelUpSlows := by
  unfold Monster.addStatusEffect
  split
  · unfold Monster.levelUpSlows
    simp only [ModifierContainer.addModifier, ModifierContainer.setDirty, RemoveIf.removeIf_eq,
      Bool.false_eq_true, if_false, List.filter_append, List.filter_filter]
    have hnew : List.filter (·.sourceId == levelUpSlowSourceId)
        [(⟨.speed, .percentMult, value, 2000, now + duration, false⟩ : StatModifier)] = [] := rfl
    rw [hnew, List.append_nil]
    refine List.filter_congr fun x _ => ?_
    -- a modifier of source 1000 does not have source 2000
    by_cases hsrc : x.sourceId = levelUpSlowSourceId
    · simp [ModifierContainer.replaces, hsrc, levelUpSlowSourceId]
    · simp [hsrc]
  · rfl

/-! ### Spawning -/

theorem spawn_id (m : Monster) (tmpl : MonsterInfo) (id typeId : Int) (x y : ℚ) (hp : Int) :
    (Entity.monster (m.spawn tmpl ⟨id, typeId, x, y, hp⟩)).id = id := rfl

variable (ch : Spawning)

theorem spawn_clean (n : Nat) (tmpl : MonsterInfo) (args : MonsterArgs) :
    (Entity.monster ((ch.pop n).spawn tmpl args)).clean = true := by
  unfold Spawning.pop
  cases ch.recycled n with
  | none => rfl
  | some m => rfl

theorem reach_spawnMonster (typeId : Int) (hpMultiplier : ℚ) (s : Scene) :
    Reach Change Quiet s (s.spawnMonster data ch typeId hpMultiplier) := by
  unfold spawnMonster
  split
  · exact Reach.refl s
  · split
    · exact Reach.refl s
    · exact reach_announce s (spawn_id _ _ s.objMgr.nextId _ _ _ _) rfl (spawn_clean ch _ _ _) _ _

theorem reach_spawnMonsters (typeId : Int) (hpMultiplier : ℚ) (count : Int)
    (s : Scene) : Reach Change Quiet s (s.spawnMonsters data ch typeId hpMultiplier count) :=
  reach_foldl_of_all (fun s => s) (fun s _ => reach_spawnMonster data ch typeId hpMultiplier s) _ s

theorem reach_spawnBatch (clusters : List (List (ℚ × ℚ))) (sp : PeriodicSpawner)
    (s : Scene) : Reach Change Quiet s (WaveManager.spawnBatch data ch clusters sp s) := by
  unfold WaveManager.spawnBatch
  dsimp only
  split
  · refine reach_foldl_of_all (fun acc : Int × Scene => acc.2) (fun acc c => ?_) clusters (_, s)
    unfold WaveManager.spawnFor
    split
    · exact Reach.refl _
    · exact reach_spawnMonsters data ch _ _ _ _
  · exact Reach.refl s

theorem reach_waves (players : List (ℚ × ℚ)) (dt : ℚ) (w : WaveManager)
    (s : Scene) : Reach Change Quiet s (w.update data ch players dt s).2 := by
  refine reach_foldl_of_all (fun acc : List PeriodicSpawner × Scene => acc.2)
    (fun acc sp => ?_) _ ([], s)
  simp only [WaveManager.updateSpawner]
  split
  · split
    · exact Reach.refl _
    · exact reach_spawnBatch data ch _ _ _
  · exact Reach.refl _

/-! ### Emitters -/

theorem reach_strikeOne (hit : Strike) : Reach Change Quiet s (Room.strikeOne s hit) := by
  have hhurt := reach_damageMonster s hit.id hit.damage
  unfold Room.strikeOne
  split
  · exact hhurt
  · refine hhurt.trans (reach_modMonster _ _ (fun m => ?_) fun m =>
      levelUpSlows_addStatusEffect m _ _ _ _)
    unfold Monster.addStatusEffect
    split <;> rfl

theorem Change.size_le {t : Tag} {s : Scene} (ht : Quiet t) (h : Change t s s') :
    s.size ≤ s'.size := by
  have hput : ∀ (s : Scene) (id : Int) (e : Entity), s.size ≤ (s.put id e).size := by
    intro s id e
    have hcount := Table.count_insert (fun _ => true) s.objMgr.objects id e
    have hold : Table.weight (fun _ => true) (s.objMgr.objects.lookup id) ≤ 1 := by
      cases s.objMgr.objects.lookup id <;> simp [Table.weight]
    have hnew : Table.weight (fun _ => true) (some e) = 1 := rfl
    show Table.size s.objMgr.objects ≤ Table.size (s.objMgr.objects.insert id e)
    unfold Table.size
    omega
  cases h with
  | monster => exact hput s _ _
  | modifiers => exact absurd ht (by decide)
  | thing => exact hput s _ _
  | @create s e => exact hput s e.id e
  | drop => exact absurd ht (by decide)
  | send => exact le_refl _
  | wide => exact le_refl _

theorem size_le_of_reach {s : Scene} (h : Reach Change Quiet s s') : s.size ≤ s'.size :=
  h.inv (fun x => s.size ≤ x.size) (fun _ _ _ ht hc hle => hle.trans (hc.size_le ht)) (le_refl _)

theorem length_victims_le {hits : List Strike} (hd : (hits.map (·.id)).Nodup) :
    (Room.victims s hits).length ≤ s.size := by
  have hsub : ((Room.victims s hits).map (·.id)).Nodup := (List.filter_sublist.map _).nodup hd
  rw [← List.length_map (f := fun h : Strike => h.id)]
  refine Table.length_le_size hsub fun id hid => ?_
  obtain ⟨h, hh, rfl⟩ := List.mem_map.mp hid
  have hkept := (List.mem_filter.mp hh).2
  split at hkept
  · cases hkept
  · next m hm => rw [ObjectManager.getMonster_eq_some.mp hm]; rfl

theorem width_damagePacket (skillId : Int) (hits : List Strike) :
    (Room.damagePacket skillId hits).width = hits.length := by
  simp [Room.damagePacket, Packet.width]

theorem shot_id (shot : Shot) (id ownerId skillId : Int) :
    (Entity.projectile (Room.newProjectile shot id ownerId skillId)).id = id := by
  unfold Room.newProjectile
  cases shot.orbit with
  | none => rfl
  | some o => rfl

theorem reach_fire (ownerId : Int) (s : Scene) (f : Firing) :
    Reach Change Quiet s (Room.fire ownerId s f) := by
  cases f with
  | strike skillId hits hd =>
    have hstruck : Reach Change Quiet s ((Room.victims s hits).foldl Room.strikeOne s) :=
      reach_foldl_of_all (fun s => s) (fun s h => reach_strikeOne s h) _ s
    unfold Room.fire
    dsimp only
    split
    · exact hstruck
    · refine hstruck.trans (reach_send _ rfl ?_)
      rw [width_damagePacket]
      exact le_max_of_le_right ((length_victims_le s hd).trans (size_le_of_reach hstruck))
  | shoot skillId shots =>
    refine reach_foldl_of_all (fun s => s) (fun s shot => ?_) shots s
    exact reach_announce s (shot_id shot s.objMgr.nextId ownerId skillId) rfl rfl _ _

end Scene

/-! ## The level-up state -/

theorem Bloodless.of_modifiers (t : Tag) (h : t = .modifiers) : Bloodless t := by
  subst h
  decide

theorem Scene.isSome_of_reach {s : Scene} (h : Reach Scene.Change (· = Tag.modifiers) s s')
    {id : Int} (hid : (s.objMgr.objects.lookup id).isSome) :
    (s'.objMgr.objects.lookup id).isSome := by
  refine h.inv (fun s => (s.objMgr.objects.lookup id).isSome = true) (fun t a b ht hc ha => ?_) hid
  subst ht
  cases hc with
  | modifiers _ _ =>
    simp only [Scene.put, Table.lookup_insert_ite]
    split
    · rfl
    · exact ha

namespace Player

theorem reach_enterLevelUpState (lm : Libm) (p : Player) (near : List Int) (s : Scene) :
    Reach Scene.Change Quiet s (p.enterLevelUpState lm near s).2 := by
  refine reach_foldl_of_all (fun s => s) (fun s m => ?_) _ s
  exact Scene.reach_modMonster s m.id (fun m => rfl) fun m => Scene.levelUpSlows_congr rfl

variable (p : Player)

theorem reach_exitLevelUpState (s : Scene) :
    Reach Scene.Change (· = Tag.modifiers) s (p.exitLevelUpState data s).2 :=
  reach_foldl_of_all (fun s => s)
    (fun s id => Scene.reach_modifiers s id (f := Monster.removeLevelUpSlow) fun _ => rfl)
    p.slowedMonsterIds s

/-! ### The aura -/

theorem getMonster_isSome {s : Scene} {id : Int} (h : s.getMonster id = some m) :
    (s.objMgr.objects.lookup id).isSome := by
  rw [ObjectManager.getMonster_eq_some.mp h]
  rfl

theorem id_of_getMonster {s : Scene} (hk : s.objMgr.Keyed) {id : Int}
    (h : s.getMonster id = some m) : m.id = id :=
  hk id (.monster m) (ObjectManager.getMonster_eq_some.mp h)

theorem inRange_ids {s : Scene} (hk : s.objMgr.Keyed) (near : List Int) (x y radius : ℚ) :
    ((s.getMonstersInRange near x y radius).map (·.id)).Sublist near := by
  induction near with
  | nil => exact List.Sublist.refl _
  | cons id near ih =>
    unfold Scene.getMonstersInRange at ih ⊢
    rw [List.filterMap_cons]
    split
    · exact ih.cons id
    · next m hm =>
      have hid : m.id = id := by
        split at hm
        · cases hm
        · next m' hm' =>
          split at hm
          · cases hm
            exact id_of_getMonster hk hm'
          · cases hm
      rw [List.map_cons, hid]
      exact ih.cons_cons id

theorem inRange_getMonster {s : Scene} (hk : s.objMgr.Keyed) {near : List Int} {x y radius : ℚ}
    (h : m ∈ s.getMonstersInRange near x y radius) : s.getMonster m.id = some m := by
  obtain ⟨id, -, hm⟩ := List.mem_filterMap.mp h
  split at hm
  · cases hm
  · next m' hm' =>
    split at hm
    · cases hm
      rw [id_of_getMonster hk hm']
      exact hm'
    · cases hm

/-- What a part of the aura's loop has done: `ids` are the monsters it has told of. -/
structure Aura.Went (a a' : Aura) (ids : List Int) : Prop where
  scene : Reach Scene.Change (· = Tag.modifiers) a.scene a'.scene
  moves : a'.moves.map (·.objectId) = a.moves.map (·.objectId) ++ ids
  nodup : a.slowed.Nodup → a'.slowed.Nodup

theorem Aura.Went.trans {a a' a'' : Aura} {ids ids' : List Int} (h : a.Went a' ids)
    (h' : a'.Went a'' ids') : a.Went a'' (ids ++ ids') :=
  ⟨h.scene.trans
    h'.scene, by rw [h'.moves, h.moves, List.append_assoc], fun hn => h'.nodup (h.nodup hn)⟩

theorem Aura.Went.refl (a : Aura) : a.Went a [] := ⟨Reach.refl _, (List.append_nil _).symm, id⟩

theorem went_reach (ms : List Monster) (a : Aura) :
    ∃ ids, ids.Sublist (ms.map (·.id)) ∧ a.Went (ms.foldl Aura.reach a) ids := by
  induction ms generalizing a with
  | nil => exact ⟨[], List.Sublist.refl _, Aura.Went.refl a⟩
  | cons m ms ih =>
    rw [List.foldl_cons, List.map_cons]
    by_cases hm : a.slowed.contains m.id = true
    · obtain ⟨ids, hsub, hwent⟩ := ih a
      rw [show a.reach m = a from if_pos hm]
      exact ⟨ids, hsub.cons _, hwent⟩
    · obtain ⟨ids, hsub, hwent⟩ := ih (a.reach m)
      have hone : a.Went (a.reach m) [m.id] := by
        unfold Aura.reach
        rw [if_neg hm]
        refine ⟨Scene.reach_modifiers _ _ fun _ => rfl, by simp [GameObject.auraPos], fun hn => ?_⟩
        refine List.nodup_append.mpr ⟨hn, List.nodup_singleton _, fun x hx y hy hxy => ?_⟩
        rw [List.mem_singleton.mp hy] at hxy
        subst hxy
        exact hm (List.contains_iff_mem.mpr hx)
      exact ⟨m.id :: ids, hsub.cons_cons _, hone.trans hwent⟩

theorem went_release (inRange ids : List Int) (a : Aura) (hk : a.scene.objMgr.Keyed) :
    ∃ told, told.Sublist (ids.filter (!inRange.contains ·)) ∧
      (∀ id ∈ told, (a.scene.objMgr.objects.lookup id).isSome) ∧
      a.Went (ids.foldl (Aura.release inRange) a) told := by
  induction ids generalizing a with
  | nil => exact ⟨[], List.Sublist.refl _, fun id h => absurd h List.not_mem_nil, Aura.Went.refl a⟩
  | cons id ids ih =>
    rw [List.foldl_cons]
    by_cases hin : inRange.contains id = true
    · obtain ⟨told, hsub, hfound, hwent⟩ := ih a hk
      rw [show a.release inRange id = a from if_pos hin,
        List.filter_cons_of_neg (by simpa using hin)]
      exact ⟨told, hsub, hfound, hwent⟩
    · rw [List.filter_cons_of_pos (by simpa using hin)]
      unfold Aura.release
      rw [if_neg hin]
      cases hm : a.scene.getMonster id with
      | none =>
        obtain ⟨told, hsub, hfound, hwent⟩ := ih { a with slowed := a.slowed.erase id } hk
        have hone : a.Went { a with slowed := a.slowed.erase id } [] :=
          ⟨Reach.refl _, (List.append_nil _).symm, fun hn => hn.erase id⟩
        exact ⟨told, hsub.cons _, hfound, hone.trans hwent⟩
      | some m =>
        have hone : a.Went ⟨a.scene.modMonster id Monster.removeLevelUpSlow, a.slowed.erase id,
            a.moves ++ [m.auraPos]⟩ [id] := by
          refine ⟨Scene.reach_modifiers _ _ fun _ => rfl, ?_, fun hn => hn.erase id⟩
          simp [GameObject.auraPos, id_of_getMonster hk hm]
        obtain ⟨told, hsub, hfound, hwent⟩ := ih _ (Scene.keyed_of_reach hone.scene hk)
        refine ⟨id :: told, hsub.cons_cons _, fun id' hid' => ?_, hone.trans hwent⟩
        rcases List.mem_cons.mp hid' with rfl | hid'
        · exact getMonster_isSome hm
        · have hsome := hfound id' hid'
          rw [Scene.modMonster_of_some hm] at hsome
          simp only [Scene.put, Table.lookup_insert_ite] at hsome
          split at hsome
          · next heq => exact heq ▸ getMonster_isSome hm
          · exact hsome

/-- The aura changes monsters in their place and tells of each at most once. -/
theorem reach_aura {p : Player} {near : List Int} {s : Scene} (hk : s.objMgr.Keyed)
    (hnear : near.Nodup) (hslowed : p.slowedMonsterIds.Nodup) :
    Reach Scene.Change Bloodless s (p.aura near s).2 ∧
    (p.aura near s).1.slowedMonsterIds.Nodup := by
  obtain ⟨ids, hsub, hreach⟩ :=
    went_reach (s.getMonstersInRange near p.x p.y 10) ⟨s, p.slowedMonsterIds, []⟩
  set inRange := s.getMonstersInRange near p.x p.y 10 with hrange
  set a := inRange.foldl Aura.reach ⟨s, p.slowedMonsterIds, []⟩ with ha
  obtain ⟨told, hsub', hfound, hrelease⟩ :=
    went_release (inRange.map (·.id)) a.slowed a (Scene.keyed_of_reach hreach.scene hk)
  set b := a.slowed.foldl (Aura.release (inRange.map (·.id))) a with hb
  have hall := hreach.trans hrelease
  have hscene : Reach Scene.Change Bloodless s b.scene := hall.scene.mono Bloodless.of_modifiers
  -- those told of first are in range, the others are not
  have hnodup : (ids ++ told).Nodup := by
    refine List.nodup_append.mpr ⟨hsub.nodup ((inRange_ids hk near p.x p.y 10).nodup hnear), ?_, ?_⟩
    · exact hsub'.nodup ((hreach.nodup hslowed).filter _)
    · intro x hx y hy hxy
      have hout := (List.mem_filter.mp (hsub'.subset hy)).2
      rw [← hxy] at hout
      simp [hsub.subset hx] at hout
  have hwidth : b.moves.length ≤ b.scene.size := by
    have hlen : b.moves.length = (ids ++ told).length := by
      rw [← List.length_map (f := fun m : ObjectPos => m.objectId), hall.moves]
      rfl
    rw [hlen]
    refine Table.length_le_size hnodup fun id hid => Scene.isSome_of_reach hrelease.scene ?_
    rcases List.mem_append.mp hid with hid | hid
    · obtain ⟨m, hm, rfl⟩ := List.mem_map.mp (hsub.subset hid)
      exact Scene.isSome_of_reach hreach.scene (getMonster_isSome (inRange_getMonster hk hm))
    · exact hfound id hid
  refine ⟨?_, hall.nodup hslowed⟩
  show Reach Scene.Change Bloodless s
    (if b.moves = [] then b.scene else b.scene.send (.moveObjectBatch b.moves b.scene.serverTick))
  split
  · exact hscene
  · have hsend : Reach Scene.Change Quiet b.scene
        (b.scene.send (.moveObjectBatch b.moves b.scene.serverTick)) :=
      Scene.reach_send _ rfl (le_max_of_le_right hwidth)
    exact hscene.trans (hsend.mono Quiet.bloodless)

structure Kept (p q : Player) : Prop where
  id : q.id = p.id
  sessionId : q.sessionId = p.sessionId
  isDead : q.isDead = p.isDead

theorem Kept.trans {p q u : Player} (h : Kept p q) (h' : Kept q u) : Kept p u :=
  ⟨h'.id.trans h.id, h'.sessionId.trans h.sessionId, h'.isDead.trans h.isDead⟩

theorem Kept.refl : Kept p p := ⟨rfl, rfl, rfl⟩

/-- A player that is not levelling up has slowed nobody, and the slowed monsters are a set. -/
structure Tame (p : Player) : Prop where
  nodup : p.slowedMonsterIds.Nodup
  idle : p.isLevelingUp = false → p.slowedMonsterIds = []

theorem Tame.congr {p q : Player} (h : p.Tame)
    (hsl : q.slowedMonsterIds = p.slowedMonsterIds)
    (hlev : q.isLevelingUp = false → p.isLevelingUp = false) : q.Tame :=
  ⟨hsl ▸ h.nodup, fun hoff => hsl.trans (h.idle (hlev hoff))⟩

theorem tame_exit (s : Scene) : (p.exitLevelUpState data s).1.Tame :=
  ⟨List.nodup_nil, fun _ => rfl⟩

theorem reach_updateLevelUp {p : Player} {near : List Int} {s : Scene} (hk : s.objMgr.Keyed)
    (hnear : near.Nodup) (hp : p.Tame) :
    Reach Scene.Change Bloodless s (p.updateLevelUp data near s).2 ∧
      (p.updateLevelUp data near s).1.Tame ∧ Kept p (p.updateLevelUp data near s).1 := by
  unfold updateLevelUp
  split
  · next hlev =>
    obtain ⟨hreach, hnodup⟩ := reach_aura hk hnear hp.nodup
    dsimp only
    split
    · have hexit :=
        (reach_exitLevelUpState data (p.aura near s).1 (p.aura near s).2).mono
          Bloodless.of_modifiers
      exact ⟨hreach.trans hexit, tame_exit data (p.aura near s).1 (p.aura near s).2, rfl, rfl, rfl⟩
    · refine ⟨hreach, ⟨hnodup, fun hoff => ?_⟩, rfl, rfl, rfl⟩
      exact absurd (hlev.symm.trans hoff) (by decide)
  · exact ⟨Reach.refl s, hp, Kept.refl p⟩

/-- What experience does: the player may enter the level-up state, which also wakes up a dead
one. -/
structure Gained (p q : Player) (s s' : Scene) : Prop where
  scene : Reach Scene.Change Quiet s s'
  id : q.id = p.id
  sessionId : q.sessionId = p.sessionId
  slowed : q.slowedMonsterIds = p.slowedMonsterIds
  leveling : q.isLevelingUp = false → p.isLevelingUp = false
  dead : q.isDead = true → p.isDead = true
  alive : p.isDead = false → q.isDead = false

theorem gained_addExp (lm : Libm) (data : DataManager) (rnd : Nat → Nat) (p : Player) (amount : Int)
    (near : List Int) (s : Scene) :
    Gained p (p.addExp lm data rnd amount near s).1 s (p.addExp lm data rnd amount near s).2 := by
  obtain ⟨e, mx, l, hg⟩ := gainExp_same p amount
  unfold addExp
  split
  · exact ⟨Reach.refl s, rfl, rfl, rfl, fun h => h, fun h => h, fun h => h⟩
  · next hlev =>
    dsimp only
    have hoff : p.isLevelingUp = false := by simpa using hlev
    have hexp : Gained p (p.gainExp amount).1 s s := by
      rw [hg]
      exact ⟨Reach.refl s, rfl, rfl, rfl, fun h => h, fun h => h, fun h => h⟩
    split
    · split
      · exact hexp
      · refine ⟨reach_enterLevelUpState lm _ near s, hexp.id, hexp.sessionId, hexp.slowed,
          fun _ => hoff, ?_, ?_⟩
        · intro hd
          cases hd
        · exact fun _ => rfl
    · exact hexp

end Player

end ToyServer.SimpleGame
