import ToyServer.Game.LevelUpManager
import ToyServer.Game.WaveManager

/-!
# `Room` with its objects, and `CombatManager`

A room has the scene, the players by session and the `Player` objects themselves, which the table of
objects and `_players` only point to.  `CombatManager` then resolves collisions of projectiles,
contacts of monsters and players, and gems, and cleans up.

What the order of an `std::unordered_map`, the grid, the dice and the emitters decide in a tick is a
`TickChoice`.
-/

namespace ToyServer.SimpleGame

/-! ## What is chosen in a tick -/

/-- The order in which an `std::unordered_map` is traversed. -/
structure Order (α : Type) where
  sort : List α → List α
  perm : ∀ keys, (sort keys).Perm keys

/-- What a monster's AI comes to. -/
structure Thought where
  vx : ℚ
  vy : ℚ
  stuckTimer : ℚ

/-- A monster that is hit: the damage, whether it is critical, and value and duration of a slow. -/
structure Strike where
  id : Int
  damage : Int
  isCritical : Bool
  slow : Option (ℚ × ℚ)
deriving DecidableEq, Repr

/-- A projectile that an emitter makes. -/
structure Shot where
  typeId : Int
  x : ℚ
  y : ℚ
  vx : ℚ
  vy : ℚ
  damage : Int
  lifetime : ℚ
  radius : ℚ
  pierceCount : Int
  /-- radius, speed and first angle -/
  orbit : Option (ℚ × ℚ × ℚ)
  /-- an object that was used before, or `none` for a new one -/
  recycled : Option Projectile

/-- What an emitter does when it fires.  A query of the grid has a monster once. -/
inductive Firing where
  | strike (skillId : Int) (hits : List Strike) (distinct : (hits.map (·.id)).Nodup)
  | shoot (skillId : Int) (shots : List Shot)

def Firing.skillId : Firing → Int
  | strike skillId _ _ => skillId
  | shoot skillId _ => skillId

/-- What a tick takes from tables without order, from random numbers and from the grid. -/
structure TickChoice where
  objects : Order Int
  sessions : Order Nat
  spawning : Spawning
  dots : List (Int × Int)
  think : Int → Thought
  /-- the monsters that the grid has around an object -/
  near : Int → List Int
  near_nodup : ∀ id, (near id).Nodup
  firings : Int → List Firing
  emitterExpired : Int → DamageEmitter → Bool
  /-- where an object ends up that hits a wall -/
  slide : GameObject → Option (ℚ × ℚ)
  /-- a projectile and a monster -/
  roll : Int → Int → Strike
  rnd : Nat → Nat

/-- Nothing near, nobody fires, and tables are traversed as they are. -/
def TickChoice.idle : TickChoice where
  objects := ⟨id, List.Perm.refl⟩
  sessions := ⟨id, List.Perm.refl⟩
  spawning := ⟨fun _ => (20, 0), fun _ => none⟩
  dots := []
  think := fun _ => ⟨0, 0, 0⟩
  near := fun _ => []
  near_nodup := fun _ => List.nodup_nil
  firings := fun _ => []
  emitterExpired := fun _ _ => false
  slide := fun _ => none
  roll := fun _ monsterId => ⟨monsterId, 10, false, none⟩
  rnd := id

/-! ## The room -/

/-- `Room` with its objects; `players` has the player object of a session. -/
structure Room extends Scene where
  roomId : Int
  hasUserDB : Bool
  players : AList fun _ : Nat => Nat
  /-- the `Player` objects -/
  heap : Nat → Player
  gameStarted : Bool
  isGameOver : Bool
  isStopping : Bool
  waveMgr : WaveManager

namespace Room

def make (roomId : Int) (hasUserDB : Bool) : Room where
  totalRunTime := 0
  serverTick := 0
  objMgr := .empty
  sent := []
  roomId := roomId
  hasUserDB := hasUserDB
  players := ∅
  heap := fun _ => Player.make
  gameStarted := false
  isGameOver := false
  isStopping := false
  waveMgr := .make

section
variable (r : Room)

/-- A change of the objects only. -/
def modScene (f : Scene → Scene) : Room := { r with toScene := f r.toScene }

/-- The player object changes, whoever refers to it. -/
def setPlayer (ref : Nat) (p : Player) : Room := { r with heap := Function.update r.heap ref p }

def modPlayer (ref : Nat) (f : Player → Player) : Room := r.setPlayer ref (f (r.heap ref))

/-- A member function of a player that reaches into the room. -/
def onPlayer (ref : Nat) (f : Player → Scene → Player × Scene) : Room :=
  let res := f (r.heap ref) r.toScene
  { r.setPlayer ref res.1 with toScene := res.2 }

/-- The part that all objects have. -/
def object : Entity → GameObject
  | .player ref _ => (r.heap ref).toGameObject
  | .monster m => m.toGameObject
  | .projectile p => p.toGameObject
  | .item g => g.toGameObject

def getObject (id : Int) : Option GameObject := (r.objMgr.objects.lookup id).map r.object

/-- `GetAllObjects`: the keys of a copy of the table. -/
def allIds (ch : TickChoice) : List Int := ch.objects.sort r.objMgr.objects.keys

/-- `_players` in the order of the hash table. -/
def sessionIds (ch : TickChoice) : List Nat := ch.sessions.sort r.players.keys

/-- The player objects in the room, by session. -/
def playerRefs (ch : TickChoice) : List Nat := (r.sessionIds ch).filterMap r.players.lookup

/-! ## Projectiles -/

/-- A projectile hits a monster: slow, damage, and the projectile has one target more. -/
def hit (projectileId : Int) (roll : Strike) (monsterId : Int) : Room :=
  let r := match roll.slow with
    | none => r
    | some (value, duration) =>
      r.modScene fun s => s.modMonster monsterId fun m =>
        m.addStatusEffect true value duration s.totalRunTime
  let r := r.modScene fun s => s.damageMonster monsterId roll.damage
  r.modScene fun s =>
    { s with objMgr := s.objMgr.modProjectile projectileId fun p => ((p.addHit monsterId).onHit).2 }

/-- The test of `ResolveProjectileCollisions` for one target. -/
def strikes (p : Projectile) (m : Monster) : Bool :=
  let dx := p.x - m.x
  let dy := p.y - m.y
  let reach := p.radius + m.radius + 1 / 10
  decide (dx * dx + dy * dy ≤ reach * reach) && !m.isDead && !p.hitTargets.contains m.id

/-- One target; a projectile that is spent hits nobody any more. -/
def projectileTarget (ch : TickChoice) (projectileId : Int) (acc : Room × List Strike)
    (targetId : Int) : Room × List Strike :=
  match acc.1.objMgr.getProjectile projectileId, acc.1.objMgr.getMonster targetId with
  | some p, some m =>
    if p.isExpired || !strikes p m then acc
    else
      let roll := { ch.roll projectileId targetId with id := targetId }
      (acc.1.hit projectileId roll targetId, acc.2 ++ [roll])
  | _, _ => acc

/-- The monsters that the grid has around a projectile, one after the other. -/
def projectileTargets (ch : TickChoice) (acc : Room × List Strike) (projectileId : Int) :
    Room × List Strike :=
  (ch.near projectileId).foldl (projectileTarget ch projectileId) acc

/-- The hits of a tick in the order they are found. -/
def projectileHits (ch : TickChoice) (r : Room) : Room × List Strike :=
  (r.allIds ch).foldl (projectileTargets ch) (r, [])

/-- One packet for all hits. -/
def damagePacket (skillId : Int) (hits : List Strike) : Packet :=
  .damageEffect skillId (hits.map (·.id)) (hits.map (·.damage)) (hits.map (·.isCritical))

/-- The hits of all projectiles go out as one packet. -/
def resolveProjectileCollisions (ch : TickChoice) (r : Room) : Room :=
  let res := r.projectileHits ch
  if res.2 = [] then res.1 else res.1.modScene fun s => s.send (damagePacket 0 res.2)

/-! ## Monsters and players -/

/-- A monster that touches a player and may attack. -/
structure AttackEvent where
  monsterId : Int
  playerId : Int
  damage : Int
deriving DecidableEq, Repr

/-- Bodies touch within a fifth of a unit. -/
def touches (m : Monster) (p : Player) : Bool :=
  let dx := m.x - p.x
  let dy := m.y - p.y
  let sumRad := m.radius + p.radius + 1 / 5
  decide (dx * dx + dy * dy ≤ sumRad * sumRad)

/-- Collected before any of them is executed. -/
def attackEvents (ch : TickChoice) (r : Room) : List AttackEvent :=
  (r.allIds ch).flatMap fun id =>
    match r.objMgr.getMonster id with
    | none => []
    | some m =>
      (r.playerRefs ch).filterMap fun ref =>
        let p := r.heap ref
        if !m.isDead && !p.isDead && touches m p && m.canAttack r.totalRunTime then
          some ⟨m.id, p.id, m.damageOnContact⟩
        else none

/-- Nobody in the room is alive. -/
def allDead : Bool := r.players.entries.all fun e => (r.heap e.2).isDead

/-- `_players.find(evt.playerId)`: an `int32_t` as a `uint64_t`. -/
def sessionOf (playerId : Int) : Nat := (playerId % 2 ^ 64).toNat

/-- One event; `true` for a call of `HandleGameOver(false)`. -/
def executeAttackEvent (evt : AttackEvent) : Room × Bool :=
  match r.players.lookup (sessionOf evt.playerId) with
  | none => (r, false)
  | some ref =>
    if (r.heap ref).isDead then (r, false)
    else
      let now := r.totalRunTime
      let r := r.modPlayer ref fun p => p.takeDamage evt.damage now
      let r := r.modScene fun s => s.modMonster evt.monsterId fun m => m.resetAttackCooldown now
      (r, (r.heap ref).isDead && r.allDead)

end

/-- The room after the events, and how often the game was found to be over. -/
def executeAttackEvents (events : List AttackEvent) (r : Room) : Room × Nat :=
  events.foldl
    (fun acc evt =>
      let res := acc.1.executeAttackEvent evt
      (res.1, if res.2 then acc.2 + 1 else acc.2))
    (r, 0)

section
variable (ch : TickChoice) (r : Room)

/-- With how often the game was found to be over. -/
def resolveBodyCollisions : Room × Nat := r.executeAttackEvents (r.attackEvents ch)

/-! ## Gems -/

def distSq (x y x' y' : ℚ) : ℚ := (x - x') * (x - x') + (y - y') * (y - y')

/-- `GetNearestPlayer`: the first of the nearest living players. -/
def nearestPlayer (x y : ℚ) : Option Nat :=
  (r.playerRefs ch).foldl
    (fun best ref =>
      let p := r.heap ref
      if p.isDead then best
      else
        match best with
        | none => some ref
        | some b =>
          if distSq p.x p.y x y < distSq (r.heap b).x (r.heap b).y x y then some ref else best)
    none

/-- A gem of `ResolveItemCollisions`. -/
def resolveItem (lm : Libm) (data : DataManager) (ch : TickChoice) (r : Room) (id : Int) : Room :=
  match r.objMgr.getItem id with
  | none => r
  | some g =>
    let stop := r.modScene fun s =>
      { s with objMgr := s.objMgr.modItem id fun g =>
        { g with toGameObject := g.toGameObject.setVelocity 0 0 } }
    if g.isPickedUp then r
    else
      match r.nearestPlayer ch g.x g.y with
      | none => stop
      | some ref =>
        let p := r.heap ref
        let d := distSq p.x p.y g.x g.y
        let dist := lm.sqrt d
        if d ≤ 1 / 4 then
          (r.onPlayer ref fun p s =>
            p.addExp lm data ch.rnd g.expAmount (ch.near p.id) s).modScene fun s =>
              { s with objMgr := s.objMgr.modItem id fun g =>
                { g with pickerId := p.id, isPickedUp := true } }
        else if d ≤ 25 then
          if 1 / 1000 < dist then
            r.modScene fun s =>
              { s with objMgr := s.objMgr.modItem id fun g =>
                { g with
                  toGameObject :=
                    g.toGameObject.setVelocity ((p.x - g.x) / dist * 15)
                      ((p.y - g.y) / dist * 15) } }
          else r
        else stop

/-- Items are picked up or drawn to a player. -/
def resolveItemCollisions (lm : Libm) (data : DataManager) (ch : TickChoice) (r : Room) : Room :=
  (r.allIds ch).foldl (resolveItem lm data ch) r

/-! ## Cleanup -/

/-- What goes at the end of a tick, with the picker of a gem. -/
def finished : Entity → Option Int
  | .player _ _ => none
  | .monster m => if m.isDead then some 0 else none
  | .projectile p => if p.isExpired then some 0 else none
  | .item g => if g.isPickedUp then some g.pickerId else none

/-- The room and the two lists of the despawn message. -/
def cleanUp (acc : Room × List Int × List Int) (id : Int) : Room × List Int × List Int :=
  match acc.1.objMgr.objects.lookup id with
  | none => acc
  | some e =>
    match finished e with
    | none => acc
    | some picker =>
      (acc.1.modScene fun s => { s with objMgr := s.objMgr.removeObject e }, acc.2.1 ++ [e.id],
        acc.2.2 ++ [picker])

/-- What is finished goes, and the players are told. -/
def resolveCleanup : Room :=
  let res := (r.allIds ch).foldl cleanUp (r, [], [])
  if res.2.1 = [] then res.1 else res.1.modScene fun s => s.send (.despawnObject res.2.1 res.2.2)

end

/-- The collisions of a tick, in the order of the source. -/
def combat (lm : Libm) (data : DataManager) (ch : TickChoice) (r : Room) : Room × Nat :=
  let res := (r.resolveProjectileCollisions ch).resolveBodyCollisions ch
  ((res.1.resolveItemCollisions lm data ch).resolveCleanup ch, res.2)

end Room

end ToyServer.SimpleGame
