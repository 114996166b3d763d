import ToyServer.Entity.PlayerInventory
import ToyServer.Game.ObjectManager

/-!
# `Player`

The members of a player and its functions: input, damage, skills, experience, the level-up state
with its slow aura, and what the inventory does to hp and emitters.  What an emitter does to
monsters is not here.
-/

namespace ToyServer.SimpleGame

/-- A `DamageEmitter`: the skill it fires, the weapon it stands for (0 for none) and that weapon's
level. -/
structure DamageEmitter where
  skillId : Int
  weaponId : Int
  level : Int
deriving DecidableEq, Repr

inductive LevelUpOptionType where
  | weapon | passive
deriving DecidableEq, Repr

/-- What a player may choose when it levels up. -/
structure LevelUpOption where
  optionId : Int
  type : LevelUpOptionType
  itemId : Int
  name : String
  desc : String
  isNew : Bool
deriving DecidableEq, Repr

/-- A player object; `slowedMonsterIds` are the monsters it holds slowed. -/
structure Player extends GameObject where
  sessionId : Nat
  currentRoomId : Int
  speed : ℚ
  lastInputTick : Nat
  facingDirX : ℚ
  facingDirY : ℚ
  baseMaxHp : Int
  exp : Int
  maxExp : Int
  level : Int
  invincibleUntil : ℚ
  isLevelingUp : Bool
  levelUpStartedAt : ℚ
  emitters : List DamageEmitter
  inventory : PlayerInventory
  pendingLevelUpOptions : List LevelUpOption
  /-- a set; ids that the aura has slowed -/
  slowedMonsterIds : List Int
  isReady : Bool
  godMode : Bool

namespace GameConfig

def tickIntervalSec : ℚ := 1 / 25
def playerInvincibleDuration : ℚ := 1 / 2
def expBase : Int := 100
def expPerLevelIncrement : Int := 50
def levelUpTimeoutSec : ℚ := 30
def defaultPlayerHp : Int := 100
def defaultPlayerSpeed : ℚ := 5
def maxMonstersPerRoom : Int := 500
def skillIdMaxHpBonus : Int := 101

end GameConfig

/-- `static_cast<int32_t>` of a `double`: towards zero. -/
def truncate (q : ℚ) : Int := if 0 ≤ q then q.floor else q.ceil

/-- What an `int32_t` keeps of a number, on a machine that wraps around. -/
def int32 (n : Int) : Int := Int.bmod n (2 ^ 32)

/-- Zero where the vector is too short. -/
def normalize (lm : Libm) (x y : ℚ) : ℚ × ℚ :=
  let mag := lm.sqrt (x * x + y * y)
  if 1 / 1000000 < mag then (x / mag, y / mag) else (0, 0)

namespace Player

def make : Player :=
  { GameObject.make 0 .player with
    sessionId := 0, currentRoomId := 0, speed := 5, lastInputTick := 0,
    facingDirX := 1, facingDirY := 0,
    baseMaxHp := 100, exp := 0, maxExp := 100, level := 1,
    invincibleUntil := 0, isLevelingUp := false,
    levelUpStartedAt := 0, emitters := [], inventory := .empty,
    pendingLevelUpOptions := [], slowedMonsterIds := [], isReady := false, godMode := false }

section
variable (p : Player)

def init (gameId : Int) (sessionId : Nat) (hp : Int) (speed : ℚ) : Player :=
  { p with
    id := gameId, sessionId, baseMaxHp := hp, maxHp := hp, hp, radius := 1 / 2, speed,
    vx := 0, vy := 0, x := 0, y := 0,
    lastInputTick := 0, exp := 0, maxExp := 100, level := 1,
    invincibleUntil := 0, isLevelingUp := false,
    pendingLevelUpOptions := [], slowedMonsterIds := [] }

/-- `CreatePlayer` in `JoinRoomHandler`: the pool of players has no limit and nothing is ever pushed
to it. -/
def create (data : DataManager) (sessionId : Nat) : Player :=
  let gameId := Int.bmod sessionId (2 ^ 32)
  match data.player with
  | none => make.init gameId sessionId GameConfig.defaultPlayerHp GameConfig.defaultPlayerSpeed
  | some (hp, speed, _) => make.init gameId sessionId hp speed

/-! ## Input and damage -/

/-- The last input counts; in control is who is not levelling up. -/
def applyInput (lm : Libm) (data : DataManager) (p : Player) (clientTick : Nat)
    (dx dy : Int) : Player :=
  let p := { p with lastInputTick := clientTick }
  if p.isControlDisabled || p.isLevelingUp then p
  else if dx = 0 ∧ dy = 0 then
    { p with toGameObject := (p.toGameObject.setVelocity 0 0).setState .idle 0 }
  else
    let dir := normalize lm dx dy
    let finalSpeed := p.speed * p.inventory.getMovementSpeedMultiplier data
    { p with
      toGameObject :=
        (p.toGameObject.setVelocity (dir.1 * finalSpeed) (dir.2 * finalSpeed)).setState .moving 0
      facingDirX := dir.1, facingDirY := dir.2 }

/-- For a while after damage was taken. -/
def isInvincible (currentTime : ℚ) : Bool := decide (currentTime < p.invincibleUntil)

/-- Nothing happens to a player that is dead, levels up, is invincible or in god mode. -/
def takeDamage (damage : Int) (totalRunTime : ℚ) : Player :=
  if p.isDead || p.isLevelingUp || p.isInvincible totalRunTime || p.godMode then p
  else
    let p :=
      { p with
        invincibleUntil := totalRunTime + GameConfig.playerInvincibleDuration, hp := p.hp - damage }
    if p.hp ≤ 0 then { p with hp := 0, state := .dead, stateExpiresAt := 0 } else p

/-- One skill with its level: 101 adds to the maximum and heals, no other does anything. -/
def applySkill (skill : Int × Int) : Player :=
  if skill.1 = GameConfig.skillIdMaxHpBonus then
    let maxHp := int32 (p.maxHp + int32 (10 * skill.2))
    { p with maxHp, hp := maxHp }
  else p

/-- The skills of the account, one after the other. -/
def applySkills (skills : List (Int × Int)) : Player := skills.foldl applySkill p

/-! ## Inventory -/

/-- `SetLevel` on the first emitter of a weapon. -/
def setLevelOf (weaponId level : Int) : List DamageEmitter → List DamageEmitter
  | [] => []
  | e :: rest =>
    if e.weaponId = weaponId then { e with level } :: rest else e :: setLevelOf weaponId level rest

/-- The emitter for a weapon that has none yet, if the tables have that level of it. -/
def newEmitter (data : DataManager) (weaponId level : Int) : Option DamageEmitter :=
  match data.weapons.lookup weaponId with
  | none => none
  | some tmpl => (levelRow tmpl.levels level).map fun row => ⟨row.skillId, weaponId, level⟩

/-- The emitters after `RefreshInventoryEffects` has come to one owned weapon. -/
def equip (data : DataManager) (inv : PlayerInventory) (emitters : List DamageEmitter)
    (weaponId : Int) : List DamageEmitter :=
  let level := inv.getWeaponLevel weaponId
  if emitters.any (·.weaponId == weaponId) then setLevelOf weaponId level emitters
  else emitters ++ (newEmitter data weaponId level).toList

/-- The maximum that base and passives give: a product of `double`s, cut to an integer. -/
def refreshedMaxHp (data : DataManager) (p : Player) : Int :=
  truncate (binary64 (p.baseMaxHp * p.inventory.getMaxHpMultiplier data))

/-- A higher maximum heals by the difference, a lower one cuts. -/
def refreshedHp (oldMaxHp maxHp hp : Int) : Int :=
  if oldMaxHp < maxHp ∧ 0 < oldMaxHp then hp + (maxHp - oldMaxHp)
  else if maxHp < hp then maxHp else hp

/-- Emitters of weapons that are gone go, and each owned weapon has one. -/
def refreshedEmitters (data : DataManager) (p : Player) : List DamageEmitter :=
  let owned := p.inventory.getOwnedWeaponIds
  owned.foldl (equip data p.inventory) (p.emitters.filter fun e => e.weaponId ==
    0 || owned.contains e.weaponId)

/-- Maximum health and emitters follow the inventory. -/
def refreshInventoryEffects (data : DataManager) (p : Player) : Player :=
  let maxHp := p.refreshedMaxHp data
  { p with maxHp, hp := refreshedHp p.maxHp maxHp p.hp, emitters := p.refreshedEmitters data }

/-- The weapon is at its maximum and the passive it evolves with is there. -/
def evolutionDue (data : DataManager) (inv : PlayerInventory) (weaponId : Int) : Option Int :=
  match data.weapons.lookup weaponId with
  | none => none
  | some info =>
    if 0 < info.evolutionId ∧ 0 < info.evolutionPassiveId ∧
        info.maxLevel ≤ inv.getWeaponLevel weaponId ∧
        inv.hasPassive info.evolutionPassiveId then some info.evolutionId
    else none

/-- The first weapon whose evolution is due, in the order of the table, and what it evolves into. -/
def firstDue (data : DataManager) (inv : PlayerInventory) : Option (Int × Int) :=
  inv.getOwnedWeaponIds.findSome? fun id => (evolutionDue data inv id).map (id, ·)

/-- The weapon goes with its emitters, and `AddOrUpgradeWeapon` is asked for the evolution. -/
def evolve (data : DataManager) (p : Player) (weaponId evolutionId : Int) : Player :=
  let inventory := ((p.inventory.removeWeapon weaponId).addOrUpgradeWeapon data evolutionId).2
  { p with inventory, emitters := p.emitters.filter fun e => e.weaponId !=
    weaponId }.refreshInventoryEffects data

/-- `CheckWeaponEvolutions`: the first weapon that is due. -/
def checkWeaponEvolutions (data : DataManager) (p : Player) : Player :=
  match firstDue data p.inventory with
  | none => p
  | some (weaponId, evolutionId) => p.evolve data weaponId evolutionId

/-- The weapons that every player has. -/
def addDefaultSkills (data : DataManager) (p : Player) (skillIds : List Int) : Player :=
  let inventory := skillIds.foldl (fun inv id => (inv.addOrUpgradeWeapon data id).2) p.inventory
  { p with inventory }.refreshInventoryEffects data

/-! ## The level-up state -/

/-- A monster that is pushed away from the player. -/
def knockBack (lm : Libm) (p : Player) (now : ℚ) (m : Monster) : Monster :=
  let dx := m.x - p.x
  let dy := m.y - p.y
  let dir :=
    if |dx| < 1 / 1000000 ∧ |dy| < 1 / 1000000 then normalize lm 1 0 else normalize lm dx dy
  { m with
    toGameObject :=
    (m.toGameObject.setVelocity (dir.1 * 10) (dir.2 * 10)).setState .knockback (now + 3 / 10) }

/-- `EnterLevelUpState`; `near` is what the grid has around the player. -/
def enterLevelUpState (lm : Libm) (p : Player) (near : List Int) (s : Scene) : Player × Scene :=
  let now := s.totalRunTime
  let p := { p with
    toGameObject := (p.toGameObject.setVelocity 0 0).setState .idle 0
    isLevelingUp := true, levelUpStartedAt := now, invincibleUntil := now + 999 }
  (p, (s.getMonstersInRange near p.x p.y 15).foldl
    (fun s m => s.modMonster m.id (p.knockBack lm now)) s)

/-- The monsters that the player holds are released. -/
def exitLevelUpState (data : DataManager) (p : Player) (s : Scene) : Player × Scene :=
  let s := p.slowedMonsterIds.foldl (fun s id => s.modMonster id Monster.removeLevelUpSlow) s
  ({ p with
    isLevelingUp := false, slowedMonsterIds := [],
    invincibleUntil := 0 }.refreshInventoryEffects data, s)

/-- What the aura has done so far in a tick. -/
structure Aura where
  scene : Scene
  slowed : List Int
  moves : List ObjectPos

/-- A monster in range is slowed unless it is already. -/
def Aura.reach (a : Aura) (m : Monster) : Aura :=
  if a.slowed.contains m.id then a
  else
    ⟨a.scene.modMonster m.id fun m => m.addLevelUpSlow a.scene.totalRunTime 999, a.slowed ++ [m.id],
      a.moves ++ [m.auraPos]⟩

/-- A slowed monster that is not in range any more is let go. -/
def Aura.release (inRange : List Int) (a : Aura) (id : Int) : Aura :=
  if inRange.contains id then a
  else
    match a.scene.getMonster id with
    | none => { a with slowed := a.slowed.erase id }
    | some m =>
      ⟨a.scene.modMonster id Monster.removeLevelUpSlow, a.slowed.erase id, a.moves ++ [m.auraPos]⟩

/-- Monsters within 10 units are slowed, and those that left are released. -/
def aura (near : List Int) (s : Scene) : Player × Scene :=
  let inRange := s.getMonstersInRange near p.x p.y 10
  let a := inRange.foldl Aura.reach ⟨s, p.slowedMonsterIds, []⟩
  let a := a.slowed.foldl (Aura.release (inRange.map (·.id))) a
  let s :=
    if a.moves = [] then a.scene else a.scene.send (.moveObjectBatch a.moves a.scene.serverTick)
  ({ p with slowedMonsterIds := a.slowed }, s)

end

/-- The part of `Update` for the level-up state, with the forced end after the timeout. -/
def updateLevelUp (data : DataManager) (p : Player) (near : List Int) (s : Scene) :
    Player × Scene :=
  if p.isLevelingUp then
    let res := p.aura near s
    if GameConfig.levelUpTimeoutSec + 2 < res.2.totalRunTime - res.1.levelUpStartedAt then
      res.1.exitLevelUpState data res.2
    else res
  else (p, s)

/-! ## Experience -/

/-- `while (_exp >= _maxExp)`; `true` if a level was gained. -/
def levelLoop : Nat → Player → Player × Bool
  | 0, p => (p, false)
  | fuel + 1, p =>
    if p.maxExp ≤ p.exp then
      let level := p.level + 1
      let p := { p with
        exp := p.exp - p.maxExp, level,
        maxExp := GameConfig.expBase + (level - 1) * GameConfig.expPerLevelIncrement }
      ((levelLoop fuel p).1, true)
    else (p, false)

/-- The experience itself, and whether a level was gained; the maximum is positive, so the loop
ends. -/
def gainExp (p : Player) (amount : Int) : Player × Bool :=
  let p := { p with exp := p.exp + amount }
  levelLoop (p.exp.toNat + 1) p

end Player

end ToyServer.SimpleGame
