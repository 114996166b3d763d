import ToyServer.Game.Health
import ToyServer.Game.SceneChanges

/-!
# What the functions of a room do, in small changes

`Room.Change` has the changes of the scene and those of a player.  The phases of a tick, the plain
tasks and the commands are chains of them (`reach_tick`, `reach_plain`, `reach_command`); the other
tasks are few and change the players in the room or its flags.  A first use: every object stands
under its own id and every player is `Tame`, in every run (`Arena.tidy_step`).
-/

namespace ToyServer.SimpleGame

open Chain

variable (lm : Libm) (data : DataManager) (p : Player) (ch : TickChoice) (r : Room) (ref : Nat)
  {f : Player → Player}

/-! ## Changes of a room -/

namespace Room

/-- The player object is the one of its session in the room. -/
def InRoom (r : Room) (ref : Nat) : Prop := r.players.lookup (r.heap ref).sessionId = some ref

instance (r : Room) (ref : Nat) : Decidable (r.InRoom ref) := inferInstanceAs (Decidable (_ = _))

inductive Change : Tag → Room → Room → Prop
  | scene {t : Tag} {r : Room} {s : Scene} :
      Scene.Change t r.toScene s → Change t r { r with toScene := s }
  | player {r : Room} {ref : Nat} {p : Player} : Player.Kept (r.heap ref) p →
      p.slowedMonsterIds = (r.heap ref).slowedMonsterIds →
      (p.isLevelingUp = false → (r.heap ref).isLevelingUp = false) →
      Change .player r (r.setPlayer ref p)
  | aura {r : Room} {ref : Nat} {p : Player} : Player.Kept (r.heap ref) p → p.Tame →
      Change .aura r (r.setPlayer ref p)
  | hurt {r : Room} {ref : Nat} {damage : Int} {now : ℚ} :
      Change .hurt r (r.modPlayer ref fun p => p.takeDamage damage now)
  | revive {r : Room} {ref : Nat} {p : Player} :
      p.id = (r.heap ref).id → p.sessionId = (r.heap ref).sessionId →
      p.slowedMonsterIds = (r.heap ref).slowedMonsterIds →
      (p.isLevelingUp = false → (r.heap ref).isLevelingUp = false) →
      (p.isDead = true → (r.heap ref).isDead = true) → Change .revive r (r.setPlayer ref p)
  | enlist {r : Room} {ref : Nat} : r.InRoom ref → Change .enlist r (r.addPlayerObject ref)

/-- Objects stand under their ids and players are tame. -/
structure Tidy (r : Room) : Prop where
  keyed : r.objMgr.Keyed
  tame : ∀ ref, (r.heap ref).Tame

theorem takeDamage_kept (damage : Int) (now : ℚ) :
    (p.takeDamage damage now).id = p.id ∧ (p.takeDamage damage now).sessionId = p.sessionId ∧
      (p.takeDamage damage now).slowedMonsterIds = p.slowedMonsterIds ∧
      (p.takeDamage damage now).isLevelingUp = p.isLevelingUp := by
  unfold Player.takeDamage
  split
  · exact ⟨rfl, rfl, rfl, rfl⟩
  · dsimp only
    split <;> exact ⟨rfl, rfl, rfl, rfl⟩

@[simp] theorem modPlayer_heap_self (f : Player → Player) :
    (r.modPlayer ref f).heap ref = f (r.heap ref) := Function.update_self ref _ _

theorem tame_setPlayer {r : Room} (h : ∀ ref, (r.heap ref).Tame) {ref : Nat} {p : Player}
    (hp : p.Tame) : ∀ ref', ((r.setPlayer ref p).heap ref').Tame := by
  intro ref'
  simp only [setPlayer, Function.update_apply]
  split
  · exact hp
  · exact h ref'

variable {r' : Room} {ok : Tag → Prop}

theorem Change.tidy {t : Tag} {r : Room} (h : Change t r r') (ht : r.Tidy) : r'.Tidy := by
  cases h with
  | scene hs => exact ⟨hs.keyed ht.keyed, ht.tame⟩
  | @player _ ref p _ hsl hlev =>
    exact ⟨ht.keyed, tame_setPlayer ht.tame ((ht.tame ref).congr hsl hlev)⟩
  | aura _ hp => exact ⟨ht.keyed, tame_setPlayer ht.tame hp⟩
  | @hurt _ ref damage now =>
    obtain ⟨-, -, hsl, hlev⟩ := takeDamage_kept (r.heap ref) damage now
    exact ⟨ht.keyed, tame_setPlayer ht.tame ((ht.tame ref).congr hsl fun hoff => hlev ▸ hoff)⟩
  | @revive _ ref p _ _ hsl hlev _ =>
    exact ⟨ht.keyed, tame_setPlayer ht.tame ((ht.tame ref).congr hsl hlev)⟩
  | enlist => exact ⟨ht.keyed.addObject _, ht.tame⟩

theorem tidy_of_reach {r : Room} (ht : r.Tidy) (h : Reach Change ok r r') : r'.Tidy :=
  h.inv Tidy (fun _ _ _ _ hc => hc.tidy) ht

/-- The same player objects, by what identifies them. -/
def SameIds (r r' : Room) : Prop :=
  ∀ ref, (r'.heap ref).id = (r.heap ref).id ∧ (r'.heap ref).sessionId = (r.heap ref).sessionId

theorem SameIds.refl : SameIds r r := fun _ => ⟨rfl, rfl⟩

theorem SameIds.trans {r r'' : Room} (h : SameIds r r') (h' : SameIds r' r'') : SameIds r r'' :=
  fun ref => ⟨(h' ref).1.trans (h ref).1, (h' ref).2.trans (h ref).2⟩

theorem SameIds.setPlayer {r : Room} {ref : Nat} {p : Player} (hid : p.id = (r.heap ref).id)
    (hsession : p.sessionId = (r.heap ref).sessionId) : SameIds r (r.setPlayer ref p) := by
  intro ref'
  simp only [Room.setPlayer, Function.update_apply]
  split
  · next heq => exact heq ▸ ⟨hid, hsession⟩
  · exact ⟨rfl, rfl⟩

theorem Change.players_eq {t : Tag} {r : Room} (h : Change t r r') : r'.players = r.players := by
  cases h with
  | _ => rfl

theorem Change.sameIds {t : Tag} {r : Room} (h : Change t r r') : SameIds r r' := by
  cases h with
  | scene => exact SameIds.refl r
  | player hkept => exact SameIds.setPlayer hkept.id hkept.sessionId
  | aura hkept => exact SameIds.setPlayer hkept.id hkept.sessionId
  | @hurt _ ref damage now =>
    obtain ⟨hid, hsession, -, -⟩ := takeDamage_kept (r.heap ref) damage now
    exact SameIds.setPlayer hid hsession
  | revive hid hsession => exact SameIds.setPlayer hid hsession
  | enlist => exact SameIds.refl r

theorem Change.generated_le {t : Tag} {r : Room} (h : Change t r r') :
    r.objMgr.generated ≤ r'.objMgr.generated := by
  cases h with
  | scene hs => exact hs.generated_le
  | _ => exact le_refl _

theorem players_of_reach {r : Room} (h : Reach Change ok r r') : r'.players = r.players :=
  h.inv (fun x => x.players = r.players) (fun _ _ _ _ hc hx => hc.players_eq.trans hx) rfl

theorem sameIds_of_reach {r : Room} (h : Reach Change ok r r') : SameIds r r' :=
  h.inv (SameIds r) (fun _ _ _ _ hc hx => hx.trans hc.sameIds) (SameIds.refl r)

theorem generated_le_of_reach {r : Room} (h : Reach Change ok r r') :
    r.objMgr.generated ≤ r'.objMgr.generated :=
  h.inv (fun x => r.objMgr.generated ≤ x.objMgr.generated)
    (fun _ _ _ _ hc hx => hx.trans hc.generated_le) (le_refl _)

theorem reach_modScene {f : Scene → Scene}
    (h : Reach Scene.Change ok r.toScene (f r.toScene)) : Reach Change ok r (r.modScene f) := by
  refine h.lift (fun s => { r with toScene := s }) (fun t s s' hc => ?_)
  exact Change.scene (r := { r with toScene := s }) hc

theorem reach_onPlayer {f : Player → Scene → Player × Scene}
    (hs : Reach Scene.Change ok r.toScene (f (r.heap ref) r.toScene).2)
    (hp : Reach Change ok (r.modScene fun _ => (f (r.heap ref) r.toScene).2)
      ((r.modScene fun _ => (f (r.heap ref) r.toScene).2).setPlayer ref
        (f (r.heap ref) r.toScene).1)) :
    Reach Change ok r (r.onPlayer ref f) :=
  (reach_modScene r (f := fun _ => (f (r.heap ref) r.toScene).2) hs).trans hp

/-! ### Objects -/

theorem update_id (p : Projectile) (dt : ℚ) (owner : Option GameObject) :
    (p.update lm dt owner).id = p.id := by
  have hage : ∀ q : Projectile, (q.age dt).id = q.id := by
    intro q
    unfold Projectile.age
    dsimp only
    split <;> rfl
  unfold Projectile.update
  split
  · rfl
  · split
    · rw [hage]
      unfold Projectile.updateOrbit
      split
      · rfl
      · split <;> rfl
    · rw [hage]
      unfold Projectile.updateLinear
      dsimp only
      split <;> rfl

theorem updateMonster_id (dt now : ℚ) (m : Monster) : (updateMonster ch dt now m).id = m.id := by
  have hupd : (m.update dt now).id = m.id := by
    unfold Monster.update GameObject.updateStateExpiry
    split <;> rfl
  unfold updateMonster
  dsimp only
  split
  · exact hupd
  · exact hupd

theorem moved_same (dt : ℚ) (o : GameObject) :
    (moved ch dt o).id = o.id ∧ (moved ch dt o).modifiers = o.modifiers ∧
    (moved ch dt o).isDead = o.isDead := by
  unfold moved
  split
  · exact ⟨rfl, rfl, rfl⟩
  · split <;> exact ⟨rfl, rfl, rfl⟩

theorem reach_updatePlayer {p : Player} {s : Scene} (hk : s.objMgr.Keyed) (hp : p.Tame) :
    Reach Scene.Change Bloodless s (updatePlayer data ch p s).2 ∧
      (updatePlayer data ch p s).1.Tame ∧ Player.Kept p (updatePlayer data ch p s).1 := by
  obtain ⟨hreach, htame, hkept⟩ := Player.reach_updateLevelUp data hk (ch.near_nodup p.id) hp
  unfold updatePlayer
  dsimp only
  split
  · refine ⟨hreach.trans ?_, ⟨htame.nodup, htame.idle⟩, hkept.trans ⟨rfl, rfl, rfl⟩⟩
    exact (reach_foldl_of_all (fun s => s) (fun s f => Scene.reach_fire _ s f) _ _).mono
      Quiet.bloodless
  · exact ⟨hreach, htame, hkept⟩

theorem reach_updateObject {r : Room} (ht : r.Tidy) (id : Int) :
    Reach Change Bloodless r (updateObject lm data ch r id) := by
  unfold updateObject
  split
  · exact Reach.refl r
  · next ref _ _ =>
    split
    · exact Reach.refl r
    · obtain ⟨hreach, htame, hkept⟩ := reach_updatePlayer data ch ht.keyed (ht.tame ref)
      exact reach_onPlayer r ref hreach (Reach.one (by decide) (Change.aura hkept htame))
  · split
    · exact Reach.refl r
    · exact reach_modScene r
        ((Scene.reach_modifiers _ id (updateMonster_id ch _ _)).mono Bloodless.of_modifiers)
  · split
    · exact Reach.refl r
    · exact reach_modScene r
        ((Scene.reach_modProjectile _ id fun p => update_id lm p _ _).mono Quiet.bloodless)
  · exact Reach.refl r

theorem reach_moveObject (id : Int) : Reach Change Quiet r (moveObject ch r id) := by
  unfold moveObject
  split
  · exact Reach.refl r
  · next ref _ _ =>
    obtain ⟨hid, -, hdead⟩ := moved_same ch GameConfig.tickIntervalSec (r.heap ref).toGameObject
    exact Reach.one (by decide) (Change.player ⟨hid, rfl, hdead⟩ rfl fun hoff => hoff)
  · refine reach_modScene r
      (Scene.reach_modMonster _ id (fun m => (moved_same ch _ _).1) fun m => ?_)
    exact Scene.levelUpSlows_congr (moved_same ch _ _).2.1
  · exact reach_modScene r (Scene.reach_modProjectile _ id fun p => (moved_same ch _ _).1)
  · exact reach_modScene r (Scene.reach_modItem _ id fun g => (moved_same ch _ _).1)

theorem reach_dot (d : Int × Int) : Reach Change Calm r (dot r d) := by
  unfold dot
  split
  · exact Reach.one (by decide) Change.hurt
  · exact (reach_modScene r (Scene.reach_damageMonster _ d.1 d.2)).mono Quiet.calm
  · exact Reach.refl r

/-! ### Combat -/

theorem reach_hit (projectileId : Int) (roll : Strike) (monsterId : Int) :
    Reach Change Quiet r (r.hit projectileId roll monsterId) := by
  have hdamage : ∀ r : Room,
      Reach Change Quiet r (r.modScene fun s => s.damageMonster monsterId roll.damage) :=
    fun r => reach_modScene r (Scene.reach_damageMonster _ _ _)
  have hspend : ∀ r : Room, Reach Change Quiet r (r.modScene fun s =>
      { s with objMgr := s.objMgr.modProjectile projectileId fun p =>
        ((p.addHit monsterId).onHit).2 }) := by
    intro r
    refine reach_modScene r (Scene.reach_modProjectile _ _ fun p => ?_)
    unfold Projectile.onHit
    split <;> rfl
  unfold hit
  split
  · exact (hdamage r).trans (hspend _)
  · refine Reach.trans (reach_modScene r (Scene.reach_modMonster _ _ (fun m => ?_) fun m =>
      Scene.levelUpSlows_addStatusEffect m _ _ _ _)) ((hdamage _).trans (hspend _))
    unfold Monster.addStatusEffect
    split <;> rfl

theorem reach_projectileHits : Reach Change Quiet r (r.projectileHits ch).1 := by
  refine reach_foldl_of_all (fun acc : Room × List Strike => acc.1) (fun acc id => ?_)
    (r.allIds ch) (r, [])
  refine reach_foldl_of_all (fun acc : Room × List Strike => acc.1) (fun acc target => ?_)
    (ch.near id) acc
  unfold projectileTarget
  split
  · split
    · exact Reach.refl _
    · exact reach_hit acc.1 id _ target
  · exact Reach.refl _

theorem reach_projectileCollisions :
    Reach Change Harmless r (r.resolveProjectileCollisions ch) := by
  have hhits := (reach_projectileHits ch r).mono Quiet.harmless
  unfold resolveProjectileCollisions
  dsimp only
  split
  · exact hhits
  · exact hhits.trans (reach_modScene _ (Reach.one (by decide) (.wide rfl)))

theorem reach_attackEvent (evt : AttackEvent) :
    Reach Change Calm r (r.executeAttackEvent evt).1 := by
  unfold executeAttackEvent
  split
  · exact Reach.refl r
  · split
    · exact Reach.refl r
    · have hcooldown : ∀ r : Room, Reach Change Quiet r
          (r.modScene fun s => s.modMonster evt.monsterId fun m =>
            m.resetAttackCooldown r.totalRunTime) :=
        fun r =>
          reach_modScene r (Scene.reach_modMonster _ _ (fun m => rfl) fun m =>
            Scene.levelUpSlows_congr rfl)
      exact (Reach.one (by decide) Change.hurt).trans ((hcooldown _).mono Quiet.calm)

theorem reach_bodyCollisions : Reach Change Calm r (r.resolveBodyCollisions ch).1 :=
  reach_foldl_of_all (fun acc : Room × Nat => acc.1) (fun acc evt => reach_attackEvent acc.1 evt) _
    (r, 0)

theorem nearest_alive {ch : TickChoice} {r : Room} {x y : ℚ} {ref : Nat}
    (h : r.nearestPlayer ch x y = some ref) : (r.heap ref).isDead = false := by
  revert h
  refine List.foldlRecOn (motive := fun best => best = some ref → (r.heap ref).isDead = false)
    (r.playerRefs ch) _ ?_ ?_
  · intro h
    cases h
  · intro best ih ref' _ h
    dsimp only at h
    split at h
    · exact ih h
    · next halive =>
      have hthis : ref' = ref → (r.heap ref).isDead = false :=
        fun heq => heq ▸ by simpa using halive
      split at h
      · exact hthis (Option.some.inj h)
      · split at h
        · exact hthis (Option.some.inj h)
        · exact ih h

theorem reach_item (id : Int) : Reach Change Quiet r (resolveItem lm data ch r id) := by
  have hitem : ∀ (r : Room) (f : ExpGem → ExpGem), (∀ g, (f g).id = g.id) →
      Reach Change Quiet r (r.modScene fun s => { s with objMgr := s.objMgr.modItem id f }) :=
    fun r f hf => reach_modScene r (Scene.reach_modItem _ id hf)
  unfold resolveItem
  split
  · exact Reach.refl r
  · next g _ =>
    dsimp only
    split
    · exact Reach.refl r
    · split
      · exact hitem r _ fun _ => rfl
      · next ref hnear =>
        split
        · have hgain :=
            Player.gained_addExp lm data ch.rnd (r.heap ref) g.expAmount
              (ch.near (r.heap ref).id) r.toScene
          have halive := nearest_alive hnear
          have hkept : Player.Kept (r.heap ref) _ :=
            ⟨hgain.id, hgain.sessionId, (hgain.alive halive).trans halive.symm⟩
          refine Reach.trans ?_ (hitem _ _ fun _ => rfl)
          exact reach_onPlayer r ref hgain.scene
            (Reach.one (by decide) (Change.player hkept hgain.slowed hgain.leveling))
        · split
          · split
            · exact hitem r _ fun _ => rfl
            · exact Reach.refl r
          · exact hitem r _ fun _ => rfl

theorem reach_itemCollisions : Reach Change Quiet r (r.resolveItemCollisions lm data ch) :=
  reach_foldl_of_all (fun r => r) (fun r id => reach_item lm data ch r id) _ r

theorem not_isPlayer_of_finished {e : Entity} {picker : Int} (h : finished e = some picker) :
    e.isPlayer = false := by
  cases e with
  | player ref id => cases h
  | _ => rfl

theorem reach_cleanUp (acc : Room × List Int × List Int) (id : Int) :
    Reach Change (· = .drop) acc.1 (cleanUp acc id).1 := by
  unfold cleanUp
  split
  · exact Reach.refl _
  · next e he =>
    split
    · exact Reach.refl _
    · next picker hfin =>
      have hdrop : Reach Scene.Change (· = .drop) acc.1.toScene (acc.1.toScene.drop e) :=
        Reach.one rfl (.drop he (not_isPlayer_of_finished hfin))
      exact reach_modScene acc.1 (f := fun s => s.drop e) hdrop

theorem reach_cleanUps (ids : List Int) :
    Reach Change (· = .drop) r (ids.foldl cleanUp (r, [], [])).1 :=
  reach_foldl_of_all (fun acc : Room × List Int × List Int => acc.1)
    (fun acc id => reach_cleanUp acc id) ids (r, [], [])

theorem reach_cleanup : Reach Change Harmless r (r.resolveCleanup ch) := by
  have hloop : Reach Change Harmless r ((r.allIds ch).foldl cleanUp (r, [], [])).1 := by
    refine (reach_cleanUps r (r.allIds ch)).mono fun t ht => ?_
    subst ht
    decide
  unfold resolveCleanup
  dsimp only
  split
  · exact hloop
  · exact hloop.trans (reach_modScene _ (Reach.one (by decide) (.wide rfl)))

/-! ### The tick -/

theorem length_allIds : (r.allIds ch).length = r.size := by
  rw [Scene.size, Table.size_eq_keys]
  exact (ch.objects.perm _).length_eq

theorem length_chunk_le {batch xs c : List ObjectPos} (h : c ∈ chunks batch xs) :
    c.length ≤ batch.length + xs.length := by
  induction xs generalizing batch with
  | nil =>
    simp only [chunks] at h
    split at h
    · cases h
    · rw [List.mem_singleton.mp h]
      exact Nat.le_add_right _ _
  | cons pos rest ih =>
    simp only [chunks] at h
    split at h
    · rcases List.mem_cons.mp h with rfl | h
      · simp
      · have := ih h
        simp only [List.length_nil, List.length_cons] at this ⊢
        omega
    · have := ih h
      simp only [List.length_append, List.length_cons, List.length_nil] at this ⊢
      omega

theorem reach_sync : Reach Change Quiet r (r.syncNetwork ch) := by
  have hpos : (r.positions ch).length ≤ r.size :=
    (List.length_filterMap_le _ _).trans (length_allIds ch r).le
  refine reach_modScene r ?_
  refine reach_foldl (fun s => r.size ≤ s.size)
    (fun s s' hs h => hs.trans (Scene.size_le_of_reach h)) ?_ (le_refl _)
  intro s c hc hs
  refine Scene.reach_send s rfl (le_max_of_le_right ?_)
  have hle := length_chunk_le hc
  simp only [List.length_nil, Nat.zero_add] at hle
  exact hle.trans (hpos.trans hs)

/-- The room when the clock of a tick has gone on and the waves have decided, before anything is
done. -/
def prepared (data : DataManager) (ch : TickChoice) (r : Room) : Room :=
  let dt := GameConfig.tickIntervalSec
  let r := r.modScene fun s =>
    { s with totalRunTime := s.totalRunTime + dt, serverTick := (s.serverTick + 1) % 2 ^ 32 }
  { r with waveMgr := (r.waveMgr.update data ch.spawning (r.livingPlaces ch) dt r.toScene).1 }

theorem reach_advance : Reach Change Calm (r.prepared data ch) (r.advance data ch) := by
  have hwaves : Reach Change Quiet (r.prepared data ch) { r.prepared data ch with
      toScene := (WaveManager.update data ch.spawning (r.livingPlaces ch)
        GameConfig.tickIntervalSec r.waveMgr (r.prepared data ch).toScene).2 } := by
    refine (Scene.reach_waves data ch.spawning _ GameConfig.tickIntervalSec _ _).lift
      (fun s => { r.prepared data ch with toScene := s }) fun t s s' hc => ?_
    exact Change.scene (r := { r.prepared data ch with toScene := s }) hc
  exact (hwaves.mono Quiet.calm).trans
    (reach_foldl_of_all (fun r => r) (fun r d => reach_dot r d) ch.dots _)

/-- The objects have had their turn and have not moved yet. -/
def turned (lm : Libm) (data : DataManager) (ch : TickChoice) (r : Room) : Room :=
  (r.allIds ch).foldl (updateObject lm data ch) r

theorem reach_turned {r : Room} (ht : r.Tidy) : Reach Change Bloodless r (r.turned lm data ch) :=
  reach_foldl Tidy (fun _ _ => tidy_of_reach)
    (fun _ id _ ht => reach_updateObject lm data ch ht id) ht

theorem reach_moved : Reach Change Quiet (r.turned lm data ch) (r.updateObjects lm data ch) :=
  reach_foldl_of_all (fun r => r) (fun r id => reach_moveObject ch r id) _ _

/-! ### Other tasks -/

theorem reach_addExp (exp : Int) (r : Room) (ref : Nat) :
    Reach Change Mild r (r.addExp lm data ch exp ref) := by
  have hgain :=
    Player.gained_addExp lm data ch.rnd (r.heap ref) exp (ch.near (r.heap ref).id) r.toScene
  refine reach_onPlayer r ref (hgain.scene.mono Quiet.mild)
    (Reach.one (t := .revive) (by decide) ?_)
  exact Change.revive hgain.id hgain.sessionId hgain.slowed hgain.leveling hgain.dead

theorem reach_modPlayer (hkept : ∀ p, Player.Kept p (f p))
    (hsl : ∀ p, (f p).slowedMonsterIds = p.slowedMonsterIds)
    (hlev : ∀ p, (f p).isLevelingUp = p.isLevelingUp) : Reach Change Quiet r (r.modPlayer ref f) :=
  Reach.one (by decide) (Change.player (hkept _) (hsl _) fun hoff => (hlev _).symm.trans hoff)

theorem applyInput_kept (clientTick : Nat) (dx dy : Int) :
    Player.Kept p (p.applyInput lm data clientTick dx dy) ∧
      (p.applyInput lm data clientTick dx dy).slowedMonsterIds = p.slowedMonsterIds ∧
      (p.applyInput lm data clientTick dx dy).isLevelingUp = p.isLevelingUp := by
  have hdead := (Player.applyInput_same lm data p clientTick dx dy).2.2
  have hrest : (p.applyInput lm data clientTick dx dy).id = p.id ∧
      (p.applyInput lm data clientTick dx dy).sessionId = p.sessionId ∧
      (p.applyInput lm data clientTick dx dy).slowedMonsterIds = p.slowedMonsterIds ∧
      (p.applyInput lm data clientTick dx dy).isLevelingUp = p.isLevelingUp := by
    unfold Player.applyInput
    dsimp only
    split
    · exact ⟨rfl, rfl, rfl, rfl⟩
    · split <;> exact ⟨rfl, rfl, rfl, rfl⟩
  exact ⟨⟨hrest.1, hrest.2.1, hdead⟩, hrest.2.2⟩

theorem selectLevelUp_kept (optionIndex : Int) (s : Scene) :
    Player.Kept p (SimpleGame.selectLevelUp data p optionIndex s).1 ∧
      (SimpleGame.selectLevelUp data p optionIndex s).2 = (p.exitLevelUpState data s).2 := by
  have hsel : ∀ q : Player, Player.Kept p q ∧ q.slowedMonsterIds = p.slowedMonsterIds →
      Player.Kept p (q.checkWeaponEvolutions data) ∧
        (q.checkWeaponEvolutions data).slowedMonsterIds = p.slowedMonsterIds := by
    intro q hq
    unfold Player.checkWeaponEvolutions
    split
    · exact hq
    · exact ⟨⟨hq.1.id, hq.1.sessionId, hq.1.isDead⟩, hq.2⟩
  have happly : Player.Kept p (LevelUpManager.applySelection data p optionIndex).2 ∧
      (LevelUpManager.applySelection data p optionIndex).2.slowedMonsterIds =
        p.slowedMonsterIds := by
    unfold LevelUpManager.applySelection
    split
    · exact ⟨Player.Kept.refl p, rfl⟩
    · dsimp only
      split <;> exact ⟨⟨rfl, rfl, rfl⟩, rfl⟩
  obtain ⟨hkept, hsl⟩ := hsel _ happly
  refine ⟨⟨hkept.id, hkept.sessionId, hkept.isDead⟩, ?_⟩
  unfold SimpleGame.selectLevelUp Player.exitLevelUpState
  rw [hsl]

theorem reach_selectLevelUp (optionIndex : Int) :
    Reach Change Bloodless r
      (r.onPlayer ref fun p s => SimpleGame.selectLevelUp data p optionIndex s) := by
  obtain ⟨hkept, hscene⟩ := selectLevelUp_kept data (r.heap ref) optionIndex r.toScene
  refine reach_onPlayer r ref ?_
    (Reach.one (by decide) (Change.aura hkept (Player.tame_exit data _ _)))
  rw [hscene]
  exact (Player.reach_exitLevelUpState data _ _).mono Bloodless.of_modifiers

theorem addExpNoRoom_kept (exp : Int) (p : Player) :
    Player.Kept p (p.addExpNoRoom exp) ∧ (p.addExpNoRoom exp).slowedMonsterIds =
      p.slowedMonsterIds ∧ (p.addExpNoRoom exp).isLevelingUp = p.isLevelingUp := by
  obtain ⟨e, mx, l, hg⟩ := Player.gainExp_same p exp
  unfold Player.addExpNoRoom
  split
  · exact ⟨Player.Kept.refl p, rfl, rfl⟩
  · rw [hg]
    exact ⟨⟨rfl, rfl, rfl⟩, rfl, rfl⟩

theorem reach_inventoryCommand {c : Command}
    (h : ∀ exp, c ≠ .levelUp exp) : Reach Change Quiet r (r.command lm data ch ref c) := by
  have hitem : ∀ inventory, Reach Change Quiet r (r.modPlayer ref fun p =>
      let p := { p with inventory }
      if (r.heap ref).currentRoomId = r.roomId then p.refreshInventoryEffects data else p) := by
    intro inventory
    refine reach_modPlayer r ref (fun p => ?_) (fun p => ?_) fun p => ?_
    · split <;> exact ⟨rfl, rfl, rfl⟩
    · split <;> rfl
    · split <;> rfl
  unfold command
  cases c with
  | levelUp exp => exact absurd rfl (h exp)
  | god =>
    exact reach_modPlayer r ref (f := fun p => { p with godMode := !p.godMode })
      (fun p => ⟨rfl, rfl, rfl⟩) (fun p => rfl) fun p => rfl
  | addWeapon | removeWeapon | addPassive | removePassive =>
    dsimp only
    split
    · exact Reach.refl r
    · exact hitem _

theorem reach_command (c : Command) : Reach Change Mild r (r.command lm data ch ref c) := by
  by_cases h : ∃ exp, c = .levelUp exp
  · obtain ⟨exp, rfl⟩ := h
    unfold command
    dsimp only
    split
    · exact reach_addExp lm data ch exp r ref
    · have hexp := addExpNoRoom_kept exp
      exact (reach_modPlayer r ref (fun p => (hexp p).1) (fun p => (hexp p).2.1) fun p =>
        (hexp p).2.2).mono Quiet.mild
  · exact (reach_inventoryCommand lm data ch r ref fun exp heq => h ⟨exp, heq⟩).mono Quiet.mild

theorem reach_addExpToAll (exp : Int) :
    Reach Change Mild r (r.execute lm data ch (.addExpToAll exp)).1 :=
  reach_foldl_of_all (fun r => r) (fun r ref => reach_addExp lm data ch exp r ref) _ r

end Room

/-- Tasks that change players and monsters and neither the flags of the room nor who is in it. -/
def Task.plain : Task → Bool
  | moveInput .. | debugSpawn .. | toggleGodMode | setMonsterStrategy _ => true
  | _ => false

theorem Room.reach_plain {task : Task} (h : task.plain = true) :
    Reach Room.Change Quiet r (r.execute lm data ch task).1 ∧
    (r.execute lm data ch task).2 = ⟨none, []⟩ := by
  cases task with
  | moveInput ref clientTick dx dy =>
    have hin := fun p => Room.applyInput_kept lm data p clientTick dx dy
    exact ⟨Room.reach_modPlayer r ref (fun p => (hin p).1) (fun p => (hin p).2.1) fun p =>
      (hin p).2.2, rfl⟩
  | debugSpawn typeId count =>
    exact ⟨Room.reach_modScene r (Scene.reach_spawnMonsters data ch.spawning typeId 1 count _), rfl⟩
  | toggleGodMode =>
    refine ⟨reach_foldl_of_all (fun r => r) (fun r ref => ?_) _ r, rfl⟩
    exact Room.reach_modPlayer r ref (fun p => ⟨rfl, rfl, rfl⟩) (fun p => rfl) fun p => rfl
  | setMonsterStrategy strategy =>
    refine ⟨reach_foldl_of_all (fun r => r) (fun r id => ?_) _ r, rfl⟩
    exact Room.reach_modScene r (Scene.reach_modMonster _ _ (fun m => rfl) fun m =>
      Scene.levelUpSlows_congr rfl)
  | _ => cases h

/-! ## Whole ticks and runs -/

namespace Room

theorem reach_rest {r : Room} (hactive : r.inactive = false) :
    Reach Change Still ((r.advance data ch).turned lm data ch) (r.executeUpdate lm data ch).1 := by
  have hmoved := (reach_moved lm data ch (r.advance data ch)).mono Quiet.still
  have hprojectiles := fun r => (reach_projectileCollisions ch r).mono Harmless.still
  have hbodies := fun r => (reach_bodyCollisions ch r).mono Calm.still
  have hitems := fun r => (reach_itemCollisions lm data ch r).mono Quiet.still
  have hcleanup := fun r => (reach_cleanup ch r).mono Harmless.still
  have hsync := fun r => (reach_sync ch r).mono Quiet.still
  unfold executeUpdate
  rw [hactive]
  exact hmoved.trans
    ((hprojectiles _).trans ((hbodies _).trans ((hitems _).trans ((hcleanup _).trans (hsync _)))))

/-- **A tick is a chain** once the clock has gone on. -/
theorem reach_tick {r : Room} (ht : r.Tidy) (hactive : r.inactive = false) :
    Reach Change (fun _ => True) (r.prepared data ch) (r.executeUpdate lm data ch).1 := by
  have hprep : (r.prepared data ch).Tidy := ⟨ht.keyed, ht.tame⟩
  have hadvance := reach_advance data ch r
  have hturned := reach_turned lm data ch (tidy_of_reach hprep hadvance)
  exact (hadvance.mono fun _ _ => trivial).trans
    ((hturned.mono fun _ _ => trivial).trans
      ((reach_rest lm data ch hactive).mono fun _ _ => trivial))

/-! ### Tidiness -/

theorem tame_modPlayer {r : Room} (h : ∀ ref, (r.heap ref).Tame) (ref : Nat)
    (hf : ∀ p : Player, p.Tame → (f p).Tame) : ∀ ref', ((r.modPlayer ref f).heap ref').Tame :=
  tame_setPlayer h (hf _ (h ref))

theorem create_id (sessionId : Nat) :
    (Player.create data sessionId).id = Int.bmod sessionId (2 ^ 32) := by
  unfold Player.create
  generalize Int.bmod sessionId (2 ^ 32) = gameId
  split <;> rfl

theorem create_same (sessionId : Nat) :
    (Player.create data sessionId).sessionId = sessionId ∧
      (Player.create data sessionId).isDead = false ∧
      (Player.create data sessionId).slowedMonsterIds = [] ∧
      (Player.create data sessionId).isLevelingUp = false := by
  unfold Player.create
  split <;> exact ⟨rfl, rfl, rfl, rfl⟩

theorem keyed_clear (o : ObjectManager) : o.clear.Keyed := by
  intro id e h
  cases h

/-! ### Leaving and getting ready -/

/-- The room when a player has gone, before it is looked at whether it is empty. -/
def left (r : Room) (sid ref : Nat) : Room :=
  let id := (r.heap ref).id
  let r := (r.modPlayer ref fun p => { p with currentRoomId := 0 }).modScene fun s =>
    { s with objMgr := s.objMgr.removeObject (.player ref id) }.send (.despawnObject [id] [])
  { r with players := r.players.erase sid }

theorem leave_of_none {r : Room} {sid : Nat} (hl : r.players.lookup sid = none) :
    r.executeLeave data sid = r := by
  unfold executeLeave
  rw [hl]

/-- An empty room is reset; one that is dynamic drops what it has first, which is nothing more. -/
theorem leave_of_some {r : Room} {sid ref : Nat} (hl : r.players.lookup sid = some ref) :
    r.executeLeave data sid =
      if (r.players.erase sid).keys = [] then (r.left sid ref).executeReset data
      else r.left sid ref := by
  have hempty : (r.players.erase sid).keys = [] → r.players.erase sid = ∅ :=
    fun h => AList.ext (List.map_eq_nil_iff.mp h)
  have hclear : (r.players.erase sid).keys = [] →
      ((r.left sid ref).internalClear).executeReset data = (r.left sid ref).executeReset data := by
    intro h
    have hpl : (r.left sid ref).players = ∅ := hempty h
    simp only [internalClear, executeReset, modScene, hpl]
    rfl
  unfold executeLeave
  rw [hl]
  show (if (r.players.erase sid).keys = [] then
      (if r.roomId ≠ 1 then (r.left sid ref).internalClear.executeReset data
        else (r.left sid ref).executeReset data)
    else r.left sid ref) = _
  split
  · next h =>
    rw [hclear h, ite_self]
  · rfl

/-- The packets for a player that is ready, and for the others about it. -/
def readyPackets (ch : TickChoice) (r : Room) (ref : Nat) : List Packet :=
  let infos := ((r.allIds ch).filterMap r.objMgr.objects.lookup).map r.infoOf
  (if infos = [] then [] else [.spawnObject infos r.serverTick]) ++
    [.spawnObject [newPlayerInfo (r.heap ref)] r.serverTick]

theorem ready_of_none {r : Room} {sid : Nat}
    (hl : r.players.lookup sid = none) : r.executeOnPlayerReady data ch sid = r := by
  unfold executeOnPlayerReady
  rw [hl]

def readied (data : DataManager) (r : Room) (ref : Nat) : Room :=
  (r.modPlayer ref fun p => { p with isReady := true }).executeStartGame data

theorem ready_of_some {r : Room} {sid ref : Nat} (hl : r.players.lookup sid = some ref) :
    r.executeOnPlayerReady data ch sid =
      (r.readied data ref).modScene fun s =>
        { s with sent := s.sent ++ (r.readied data ref).readyPackets ch ref } := by
  have hsend : ∀ q : Room,
      (let infos := ((q.allIds ch).filterMap q.objMgr.objects.lookup).map q.infoOf
      let q :=
        if infos = [] then q else q.modScene fun s => s.send (.spawnObject infos s.serverTick)
      q.modScene fun s => s.send (.spawnObject [newPlayerInfo (q.heap ref)] s.serverTick)) =
      q.modScene fun s => { s with sent := s.sent ++ q.readyPackets ch ref } := by
    intro q
    unfold readyPackets
    dsimp only
    split
    · rw [List.nil_append]
      rfl
    · simp only [modScene, Scene.send, List.append_assoc]
  unfold executeOnPlayerReady
  rw [hl]
  exact hsend (r.readied data ref)

theorem startGame_same :
    (r.executeStartGame data).heap = r.heap ∧ (r.executeStartGame data).players = r.players ∧
      (r.executeStartGame data).toScene = r.toScene := by
  unfold executeStartGame
  split <;> exact ⟨rfl, rfl, rfl⟩

/-! ### What a task did -/

theorem reach_enlist {r : Room} {ref : Nat} (hin : r.InRoom ref)
    (hf : ∀ p : Player, Player.Kept p (f p) ∧ (f p).slowedMonsterIds = p.slowedMonsterIds ∧
      (f p).isLevelingUp = p.isLevelingUp) : Reach Change Enlisting r
        ((r.modPlayer ref f).addPlayerObject ref) := by
  have hplayer : Change .player r (r.modPlayer ref f) :=
    Change.player (hf _).1 (hf _).2.1 fun hoff => (hf _).2.2.symm.trans hoff
  refine (Reach.one (by decide) hplayer).trans (Reach.one (by decide) (Change.enlist ?_))
  unfold InRoom
  rw [modPlayer_heap_self, (hf _).1.sessionId]
  exact hin

theorem defaultSkills_kept :
    Player.Kept p (defaultSkills data p) ∧ (defaultSkills data p).slowedMonsterIds =
      p.slowedMonsterIds ∧ (defaultSkills data p).isLevelingUp = p.isLevelingUp := by
  unfold defaultSkills
  split
  · exact ⟨Player.Kept.refl p, rfl, rfl⟩
  · split <;> exact ⟨⟨rfl, rfl, rfl⟩, rfl, rfl⟩

theorem applySkills_kept (skills : List (Int × Int)) (p : Player) :
    Player.Kept p (p.applySkills skills) ∧ (p.applySkills skills).slowedMonsterIds =
      p.slowedMonsterIds ∧ (p.applySkills skills).isLevelingUp = p.isLevelingUp := by
  refine List.foldlRecOn (motive := fun q : Player => Player.Kept p q ∧
    q.slowedMonsterIds = p.slowedMonsterIds ∧
    q.isLevelingUp = p.isLevelingUp) skills _ ⟨Player.Kept.refl p, rfl, rfl⟩ ?_
  intro q hq skill _
  unfold Player.applySkill
  split
  · exact ⟨⟨hq.1.id, hq.1.sessionId, hq.1.isDead⟩, hq.2⟩
  · exact hq

theorem reach_enter :
    Reach Change Enlisting { r with players := r.players.insert (r.heap ref).sessionId ref }
      (r.executeEnter data ref).1 := by
  set q : Room := { r with players := r.players.insert (r.heap ref).sessionId ref } with hq
  have hroom : Change .player q (q.modPlayer ref fun p => { p with currentRoomId := r.roomId }) :=
    Change.player ⟨rfl, rfl, rfl⟩ rfl fun hoff => hoff
  have hin : (q.modPlayer ref fun p => { p with currentRoomId := r.roomId }).InRoom ref := by
    unfold InRoom
    rw [modPlayer_heap_self]
    exact AList.lookup_insert r.players
  unfold executeEnter
  dsimp only
  split
  · exact Reach.one (by decide) hroom
  · exact (Reach.one (by decide) hroom).trans (reach_enlist hin (defaultSkills_kept data))

theorem reach_skillsLoaded (skills : List (Int × Int)) :
    Reach Change Enlisting r (r.executeSkillsLoaded data ref skills).1 := by
  have hdef := defaultSkills_kept data
  unfold executeSkillsLoaded
  split
  · next hin =>
    refine (reach_enlist hin (applySkills_kept skills)).trans
      (Reach.one (by decide) (Change.player ?_ ?_ ?_))
    · exact (hdef _).1
    · exact (hdef _).2.1
    · exact fun hoff => (hdef _).2.2.symm.trans hoff
  · exact Reach.refl r

def noop (r : Room) : Task → Bool
  | .update => r.inactive
  | .handleGameOver _ => r.isGameOver
  | .leave sid | .playerReady sid => (r.players.lookup sid).isNone
  | _ => false

/-- What running a task comes to: the room, and what is left to others. -/
inductive Ran (lm : Libm) (data : DataManager) (ch : TickChoice) (r : Room) :
    Task → Room × Effects → Prop
  | nothing {task : Task} : r.noop task = true → Ran lm data ch r task (r, ⟨none, []⟩)
  | quiet {task : Task} {r' : Room} : task.plain = true → Reach Change Quiet r r' →
      Ran lm data ch r task (r', ⟨none, []⟩)
  | mild {exp : Int} {r' : Room} :
      Reach Change Mild r r' → Ran lm data ch r (.addExpToAll exp) (r', ⟨none, []⟩)
  | select {ref : Nat} {optionIndex : Int} : Ran lm data ch r (.selectLevelUp ref optionIndex)
      (r.onPlayer ref fun p s => SimpleGame.selectLevelUp data p optionIndex s, ⟨none, []⟩)
  | enter {ref : Nat} {r' : Room} {load : Option Nat} {posted : List Task} :
      Reach Change Enlisting { r with players := r.players.insert (r.heap ref).sessionId ref } r' →
      (∀ task ∈ posted, task = .startGame) → Ran lm data ch r (.enter ref) (r', ⟨load, posted⟩)
  | loaded {ref : Nat} {skills : List (Int × Int)} {r' : Room} {posted : List Task} :
      Reach Change Enlisting r r' → (∀ task ∈ posted, task = .startGame) →
      Ran lm data ch r (.skillsLoaded ref skills) (r', ⟨none, posted⟩)
  | start : Ran lm data ch r .startGame (r.executeStartGame data, ⟨none, []⟩)
  | tick : r.inactive = false → Ran lm data ch r .update
      ((r.executeUpdate lm data ch).1,
        ⟨none, List.replicate (r.executeUpdate lm data ch).2 (.handleGameOver false)⟩)
  | gameOver {isWin : Bool} : r.isGameOver = false → Ran lm data ch r (.handleGameOver isWin)
      ({ r with isGameOver := true }.modScene fun s => s.send (.gameOver s.totalRunTime isWin),
        ⟨none, []⟩)
  | left {sid ref : Nat} : r.players.lookup sid = some ref → (r.players.erase sid).keys ≠ [] →
      Ran lm data ch r (.leave sid) (r.left sid ref, ⟨none, []⟩)
  | last {sid ref : Nat} : r.players.lookup sid = some ref → (r.players.erase sid).keys = [] →
      Ran lm data ch r (.leave sid) ((r.left sid ref).executeReset data, ⟨none, []⟩)
  | stop : Ran lm data ch r .stop (r.internalClear, ⟨none, []⟩)
  | reset : Ran lm data ch r .reset (r.executeReset data, ⟨none, []⟩)
  | ready {sid ref : Nat} : r.players.lookup sid = some ref → Ran lm data ch r (.playerReady sid)
      ((r.readied data ref).modScene fun s =>
        { s with sent := s.sent ++ (r.readied data ref).readyPackets ch ref }, ⟨none, []⟩)

theorem mem_askStart {r : Room} {task : Task} (h : task ∈ r.askStart) : task = .startGame := by
  unfold askStart at h
  split at h
  · cases h
  · exact List.mem_singleton.mp h

/-- **Inversion of `execute`.** -/
theorem ran (task : Task) : Ran lm data ch r task (r.execute lm data ch task) := by
  have hplain : ∀ {task : Task}, task.plain = true →
      Ran lm data ch r task (r.execute lm data ch task) := by
    intro task h
    obtain ⟨hreach, heff⟩ := reach_plain lm data ch r h
    rw [← Prod.mk.eta (p := r.execute lm data ch task), heff]
    exact .quiet h hreach
  cases task with
  | enter ref =>
    refine .enter (reach_enter data r ref) fun task ht => ?_
    unfold executeEnter at ht
    dsimp only at ht
    split at ht
    · cases ht
    · exact mem_askStart ht
  | skillsLoaded ref skills =>
    refine .loaded (reach_skillsLoaded data r ref skills) fun task ht => ?_
    unfold executeSkillsLoaded at ht
    split at ht
    · exact mem_askStart ht
    · cases ht
  | startGame => exact .start
  | update =>
    cases hact : r.inactive with
    | true =>
      have hsame : r.execute lm data ch .update = (r, ⟨none, []⟩) := by
        simp only [execute, executeUpdate, hact, if_true]
        rfl
      rw [hsame]
      exact .nothing hact
    | false => exact .tick hact
  | handleGameOver isWin =>
    cases hover : r.isGameOver with
    | true =>
      have hsame : r.execute lm data ch (.handleGameOver isWin) = (r, ⟨none, []⟩) := by
        simp only [execute, executeHandleGameOver, hover, if_true]
      rw [hsame]
      exact .nothing hover
    | false =>
      have hsend : r.execute lm data ch (.handleGameOver isWin) =
          ({ r with isGameOver := true }.modScene fun s => s.send (.gameOver s.totalRunTime isWin),
            ⟨none, []⟩) := by
        simp only [execute, executeHandleGameOver, hover, Bool.false_eq_true, if_false]
      rw [hsend]
      exact .gameOver hover
  | leave sid =>
    show Ran lm data ch r (.leave sid) (r.executeLeave data sid, ⟨none, []⟩)
    cases hl : r.players.lookup sid with
    | none =>
      rw [leave_of_none data hl]
      exact .nothing (by simp [noop, hl])
    | some ref =>
      rw [leave_of_some data hl]
      split
      · next hempty => exact .last hl hempty
      · next hmore => exact .left hl hmore
  | stop => exact .stop
  | reset => exact .reset
  | playerReady sid =>
    show Ran lm data ch r (.playerReady sid) (r.executeOnPlayerReady data ch sid, ⟨none, []⟩)
    cases hl : r.players.lookup sid with
    | none =>
      rw [ready_of_none data ch hl]
      exact .nothing (by simp [noop, hl])
    | some ref =>
      rw [ready_of_some data ch hl]
      exact .ready hl
  | selectLevelUp ref optionIndex => exact .select
  | addExpToAll exp => exact .mild (reach_addExpToAll lm data ch r exp)
  | _ => exact hplain rfl

/-! ### Tidiness -/

theorem tidy_startGame {r : Room} (ht : r.Tidy) : (r.executeStartGame data).Tidy := by
  obtain ⟨hheap, -, hscene⟩ := startGame_same data r
  exact ⟨hscene ▸ ht.keyed, hheap ▸ ht.tame⟩

theorem tidy_left {r : Room} (ht : r.Tidy) (sid ref : Nat) : (r.left sid ref).Tidy :=
  ⟨ht.keyed.removeObject _, tame_modPlayer (f := fun p => { p with currentRoomId := 0 }) ht.tame ref
    fun _ hp => ⟨hp.nodup, hp.idle⟩⟩

/-- **Every task keeps the room tidy.** -/
theorem Ran.tidy {lm : Libm} {data : DataManager} {ch : TickChoice} {r : Room} {task : Task}
    {res : Room × Effects} (h : Ran lm data ch r task res) (ht : r.Tidy) : res.1.Tidy := by
  cases h with
  | nothing => exact ht
  | quiet _ hreach => exact tidy_of_reach ht hreach
  | mild hreach => exact tidy_of_reach ht hreach
  | select => exact tidy_of_reach ht (reach_selectLevelUp data r _ _)
  | @enter ref _ _ _ hreach =>
    have hin : Tidy { r with players := r.players.insert (r.heap ref).sessionId ref } :=
      ⟨ht.keyed, ht.tame⟩
    exact tidy_of_reach hin hreach
  | loaded hreach => exact tidy_of_reach ht hreach
  | start => exact tidy_startGame data ht
  | tick hact =>
    have hprep : (r.prepared data ch).Tidy := ⟨ht.keyed, ht.tame⟩
    exact tidy_of_reach hprep (reach_tick lm data ch ht hact)
  | gameOver => exact ⟨ht.keyed, ht.tame⟩
  | left => exact tidy_left ht _ _
  | @last sid ref => exact ⟨keyed_clear _, (tidy_left ht sid ref).tame⟩
  | stop => exact ⟨keyed_clear _, ht.tame⟩
  | reset => exact ⟨keyed_clear _, ht.tame⟩
  | @ready sid ref =>
    have hready : (r.modPlayer ref fun p => { p with isReady := true }).Tidy :=
      ⟨ht.keyed, tame_modPlayer ht.tame ref fun p hp => ⟨hp.nodup, hp.idle⟩⟩
    have hstart := tidy_startGame data hready
    exact ⟨hstart.keyed, hstart.tame⟩

end Room

namespace Arena

theorem tidy_make (roomId : Int) (hasUserDB : Bool) : (make roomId hasUserDB).room.Tidy := by
  refine ⟨?_, fun ref => ⟨List.nodup_nil, fun _ => rfl⟩⟩
  intro id e h
  cases h

def next (s : Arena) : ArenaAction → Option Task
  | .run _ => s.queue.head?
  | _ => none

inductive Step (lm : Libm) (data : DataManager) (s : Arena) : ArenaAction → Arena → Prop
  | join (sessionId : Nat) : Step lm data s (.join sessionId)
      { s with
        room := s.room.setPlayer s.made (Player.create data sessionId)
        queue := s.queue ++ [.enter s.made], made := s.made + 1 }
  | post (task : Task) : task.external = true → Step lm data s (.post task) { s with
        queue := s.queue ++ [task] }
  | stop : s.room.isStopping = false → Step lm data s .stop
      { s with room := { s.room with isStopping := true }, queue := s.queue ++ [.stop] }
  | stopped : s.room.isStopping = true → Step lm data s .stop s
  | loaded (i : Nat) (skills : List (Int × Int)) (ref : Nat) : s.loading[i]? = some ref →
      Step lm data s (.loaded i skills)
        { s with loading := s.loading.eraseIdx i, queue := s.queue ++ [.skillsLoaded ref skills] }
  | command (ch : TickChoice) (ref : Nat) (c : Command) : Step lm data s (.command ch ref c)
      { s with room := s.room.command lm data ch ref c }
  | run (ch : TickChoice) (task : Task) (rest : List Task) (res : Room × Room.Effects) :
      s.queue = task :: rest → Room.Ran lm data ch s.room task res → Step lm data s (.run ch)
        { s with
          room := res.1, queue := rest ++ res.2.posted, loading := s.loading ++ res.2.load.toList }

theorem step_of_eq {lm : Libm} {data : DataManager} {s s' : Arena} {a : ArenaAction}
    (h : s.step lm data a = some s') : Step lm data s a s' := by
  cases a with
  | join sessionId =>
    cases h
    exact .join sessionId
  | post task =>
    simp only [step, Option.ite_none_right_eq_some, Option.some.injEq] at h
    obtain ⟨hext, rfl⟩ := h
    exact .post task hext
  | stop =>
    simp only [step] at h
    split at h
    · next hstop =>
      cases h
      exact .stopped hstop
    · next hstop =>
      cases h
      exact .stop (by simpa using hstop)
  | loaded i skills =>
    simp only [step] at h
    split at h
    · cases h
    · next ref href =>
      cases h
      exact .loaded i skills ref href
  | command ch ref c =>
    cases h
    exact .command ch ref c
  | run ch =>
    simp only [step] at h
    split at h
    · cases h
    · next task rest hq =>
      cases h
      exact .run ch task rest _ hq (Room.ran lm data ch s.room task)

theorem tidy_step {lm : Libm} {data : DataManager} {s s' : Arena} {a : ArenaAction}
    (ht : s.room.Tidy) (h : Step lm data s a s') : s'.room.Tidy := by
  cases h with
  | join sessionId =>
    obtain ⟨-, -, hsl, -⟩ := Room.create_same data sessionId
    exact ⟨ht.keyed, Room.tame_setPlayer ht.tame ⟨hsl ▸ List.nodup_nil, fun _ => hsl⟩⟩
  | stop => exact ⟨ht.keyed, ht.tame⟩
  | command ch ref c => exact Room.tidy_of_reach ht (Room.reach_command lm data ch _ ref c)
  | run ch task rest res _ hran => exact hran.tidy ht
  | _ => exact ht

end Arena

end ToyServer.SimpleGame
