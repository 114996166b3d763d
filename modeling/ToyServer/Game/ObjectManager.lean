import ToyServer.Entity.Recycle
import ToyServer.Lib.Table

/-!
# `ObjectManager`, and what an object's functions reach of its room

The table of a room by object id, the ids it gives to monsters, projectiles and gems, and the
counter of monsters.  `Scene` is the part of a `Room` that the functions of players, monsters and
emitters use: the clock, the table and the packets they send.
-/

namespace ToyServer.SimpleGame

/-! ## The table -/

/-- What `_objects` points to.  A player is an object of its own, known by `ref`; the others are the
room's. -/
inductive Entity where
  | player (ref : Nat) (id : Int)
  | monster (m : Monster)
  | projectile (p : Projectile)
  | item (g : ExpGem)

namespace Entity

def id : Entity → Int
  | player _ id => id
  | monster m => m.id
  | projectile p => p.id
  | item g => g.id

def isMonster : Entity → Bool
  | monster _ => true
  | _ => false

end Entity

/-- A call of `AddObject` or `RemoveObject` with what stood under the id. -/
inductive TableCall where
  | add (obj : Entity) (found : Option Entity)
  /-- `meant` is the object whose id the caller passed -/
  | remove (meant : Entity) (found : Option Entity)

/-- The objects of a room by id. -/
structure ObjectManager where
  /-- how many ids were given; `_nextId` is 1000 more, as an `int32_t` -/
  generated : Nat
  objects : AList fun _ : Int => Entity
  aliveMonsterCount : Int
  calls : List TableCall

namespace ObjectManager

def empty : ObjectManager := ⟨0, ∅, 0, []⟩

variable (o : ObjectManager)

/-- Ids go on after they wrap. -/
def nextId : Int := Int.bmod (1001 + o.generated) (2 ^ 32)

def generateId : Int × ObjectManager := (o.nextId, { o with generated := o.generated + 1 })

/-- An object with a known id replaces the other one. -/
def addObject (obj : Entity) : ObjectManager :=
  { o with
    objects := o.objects.insert obj.id obj
    aliveMonsterCount := if obj.isMonster then o.aliveMonsterCount + 1 else o.aliveMonsterCount
    calls := o.calls ++ [.add obj (o.objects.lookup obj.id)] }

/-- `RemoveObject(id)` for the object `meant`. -/
def removeObject (meant : Entity) : ObjectManager :=
  let o := { o with calls := o.calls ++ [TableCall.remove meant (o.objects.lookup meant.id)] }
  match o.objects.lookup meant.id with
  | none => o
  | some obj =>
    { o with
      objects := o.objects.erase meant.id
      aliveMonsterCount :=
        if obj.isMonster ∧ 0 < o.aliveMonsterCount then o.aliveMonsterCount - 1
        else o.aliveMonsterCount }

def clear : ObjectManager := { o with objects := ∅, aliveMonsterCount := 0 }

/-- `none` also where the id is that of another object. -/
def getMonster (id : Int) : Option Monster :=
  match o.objects.lookup id with
  | some (.monster m) => some m
  | _ => none

/-- What a caller does to a monster it has found in the table. -/
def modMonster (id : Int) (f : Monster → Monster) : ObjectManager :=
  match o.getMonster id with
  | none => o
  | some m => { o with objects := o.objects.insert id (.monster (f m)) }

def getProjectile (id : Int) : Option Projectile :=
  match o.objects.lookup id with
  | some (.projectile p) => some p
  | _ => none

def modProjectile (id : Int) (f : Projectile → Projectile) : ObjectManager :=
  match o.getProjectile id with
  | none => o
  | some p => { o with objects := o.objects.insert id (.projectile (f p)) }

def getItem (id : Int) : Option ExpGem :=
  match o.objects.lookup id with
  | some (.item g) => some g
  | _ => none

def modItem (id : Int) (f : ExpGem → ExpGem) : ObjectManager :=
  match o.getItem id with
  | none => o
  | some g => { o with objects := o.objects.insert id (.item (f g)) }

end ObjectManager

/-! ## Packets whose length depends on the room -/

/-- An entry of `S_SpawnObject`. -/
structure ObjectInfo where
  objectId : Int
  type : ObjectType
  typeId : Int
  x : ℚ
  y : ℚ
  hp : Int
  maxHp : Int
  state : ObjectState
  vx : ℚ
  vy : ℚ
  lookLeft : Bool
deriving DecidableEq, Repr

/-- An entry of `S_MoveObjectBatch`. -/
structure ObjectPos where
  objectId : Int
  x : ℚ
  y : ℚ
  vx : ℚ
  vy : ℚ
  state : ObjectState
  lookLeft : Bool
deriving DecidableEq, Repr

/-- The packets with lists in them, and the one that ends a game. -/
inductive Packet where
  | spawnObject (objects : List ObjectInfo) (serverTick : Nat)
  | despawnObject (objectIds pickerIds : List Int)
  | moveObjectBatch (moves : List ObjectPos) (serverTick : Nat)
  | damageEffect (skillId : Int) (targetIds damageValues : List Int) (isCritical : List Bool)
  | gameOver (survivedTime : ℚ) (isWin : Bool)
deriving DecidableEq, Repr

def GameObject.info (o : GameObject) (typeId : Int) : ObjectInfo :=
  ⟨o.id, o.type, typeId, o.x, o.y, o.hp, o.maxHp, o.state, o.vx, o.vy, o.lookLeft⟩

/-- An entry of `SyncNetwork`. -/
def GameObject.pos (o : GameObject) : ObjectPos := ⟨o.id, o.x, o.y, o.vx, o.vy, o.state, o.lookLeft⟩

/-- An entry of the slow aura, which leaves the last two fields at their defaults. -/
def GameObject.auraPos (o : GameObject) : ObjectPos := ⟨o.id, o.x, o.y, o.vx, o.vy, .idle, false⟩

/-! ## The scene -/

/-- What the objects of a room act on: clock, table and packets. -/
structure Scene where
  totalRunTime : ℚ
  serverTick : Nat
  objMgr : ObjectManager
  /-- the packets built so far, for all players or for one -/
  sent : List Packet

namespace Scene

variable (s : Scene)

/-- A packet is built. -/
def send (pkt : Packet) : Scene := { s with sent := s.sent ++ [pkt] }

def getMonster (id : Int) : Option Monster := s.objMgr.getMonster id

def modMonster (id : Int) (f : Monster → Monster) : Scene :=
  { s with objMgr := s.objMgr.modMonster id f }

/-- `GetMonstersInRange`: `near` are the ids that the grid has for the cells around the place. -/
def getMonstersInRange (near : List Int) (x y radius : ℚ) : List Monster :=
  near.filterMap fun id =>
    match s.getMonster id with
    | none => none
    | some m =>
      if (m.x - x) * (m.x - x) + (m.y - y) * (m.y - y) ≤ radius * radius ∧ m.isDead = false then
        some m else none

/-- A gem of 10 falls where a monster died, and all are told. -/
def dropGem (x y : ℚ) : Scene :=
  let (id, objMgr) := s.objMgr.generateId
  let gem := ExpGem.make id x y 10
  { s with objMgr := objMgr.addObject (.item gem) }.send (.spawnObject [gem.info 0] s.serverTick)

/-- `monster->TakeDamage(damage, room)` -/
def damageMonster (id damage : Int) : Scene :=
  match s.getMonster id with
  | none => s
  | some m =>
    let s := s.modMonster id fun m => m.takeDamage damage
    if m.isDead = false ∧ (m.takeDamage damage).isDead then s.dropGem m.x m.y else s

end Scene

end ToyServer.SimpleGame
