import ToyServer.Game.CombatManager

/-!
# The tick of a room, and the tasks of its strand

`executeUpdate` is the tick of `Room_Update.cpp`, phase by phase.  Then come the other tasks that
run on the strand of a room, and the system `Arena`: a room with its queue, players that join under
any session id, calls from outside in any order, answers of the database and the strand that runs
one task after another.
-/

namespace ToyServer.SimpleGame

namespace Room

/-! ## Emitters -/

/-- One hit of an emitter: the damage, then the slow that the skill has. -/
def strikeOne (s : Scene) (hit : Strike) : Scene :=
  let s := s.damageMonster hit.id hit.damage
  match hit.slow with
  | none => s
  | some (value, duration) =>
    s.modMonster hit.id fun m => m.addStatusEffect true value duration s.totalRunTime

/-- The monsters that are there and alive when the emitter looks. -/
def victims (s : Scene) (hits : List Strike) : List Strike :=
  hits.filter fun h => match s.getMonster h.id with
    | none => false
    | some m => !m.isDead

/-- `ProjectileFactory` on an object from the pool or a new one. -/
def newProjectile (shot : Shot) (id ownerId skillId : Int) : Projectile :=
  let p := match shot.recycled with
    | none => Projectile.make
    | some p => p.reset
  let p :=
    p.spawn ⟨id, ownerId, skillId, shot.typeId, shot.x, shot.y, shot.vx, shot.vy, shot.damage,
      shot.lifetime⟩
  let p := { p with radius := shot.radius, pierceCount := shot.pierceCount }
  match shot.orbit with
  | none => p
  | some (radius, speed, angle) => p.setOrbit radius speed angle

/-- A shot gets an id, stands in the room and is told to the players. -/
def shootOne (ownerId skillId : Int) (s : Scene) (shot : Shot) : Scene :=
  let (id, objMgr) := s.objMgr.generateId
  let p := newProjectile shot id ownerId skillId
  { s with objMgr := objMgr.addObject (.projectile p) }.send
    (.spawnObject [p.toGameObject.info p.typeId] s.serverTick)

/-- What an emitter does when its time has come. -/
def fire (ownerId : Int) (s : Scene) : Firing → Scene
  | .strike skillId hits _ =>
    let hits := victims s hits
    let s := hits.foldl strikeOne s
    if hits = [] then s else s.send (damagePacket skillId hits)
  | .shoot skillId shots => shots.foldl (shootOne ownerId skillId) s

section
variable (ch : TickChoice)

/-- The emitters that a player has fire, and those whose time is over go. -/
def updateEmitters (p : Player) (s : Scene) : Player × Scene :=
  let firings := (ch.firings p.id).filter fun f => p.emitters.any (·.skillId == f.skillId)
  ({ p with emitters := p.emitters.filter fun e => !ch.emitterExpired p.id e },
    firings.foldl (fire p.id) s)

/-! ## Objects -/

/-- `Player::Update`: emitters fire only for a player that is ready. -/
def updatePlayer (data : DataManager) (ch : TickChoice) (p : Player) (s : Scene) : Player × Scene :=
  let res := p.updateLevelUp data (ch.near p.id) s
  if res.1.isReady then updateEmitters ch res.1 res.2 else res

/-- `Monster::Update`; the AI sets the velocity. -/
def updateMonster (dt now : ℚ) (m : Monster) : Monster :=
  let m := m.update dt now
  if m.ai = none ∨ m.isDead ∨ m.isControlDisabled then m
  else
    let t := ch.think m.id
    { m with toGameObject := m.toGameObject.setVelocity t.vx t.vy, stuckTimer := t.stuckTimer }

/-- `obj->Update(deltaTime, this)` for an object that is not dead. -/
def updateObject (lm : Libm) (data : DataManager) (ch : TickChoice) (r : Room) (id : Int) : Room :=
  let dt := GameConfig.tickIntervalSec
  match r.objMgr.objects.lookup id with
  | none => r
  | some (.player ref _) => if (r.heap ref).isDead then r else r.onPlayer ref (updatePlayer data ch)
  | some (.monster m) =>
    if m.isDead then r else r.modScene fun s => s.modMonster id (updateMonster ch dt s.totalRunTime)
  | some (.projectile p) =>
    let owner := r.getObject p.ownerId
    if p.isDead then r
    else r.modScene fun s =>
      { s with objMgr := s.objMgr.modProjectile id fun p => p.update lm dt owner }
  | some (.item _) => r

/-- A step of `UpdatePhysics`. -/
def moved (dt : ℚ) (o : GameObject) : GameObject :=
  if o.isDead || (decide (o.vx * dt = 0) && decide (o.vy * dt = 0)) then o
  else
    match ch.slide o with
    | some (x, y) => o.setPos x y
    | none => o.setPos (o.x + o.vx * dt) (o.y + o.vy * dt)

/-- The second loop of a tick, for one object. -/
def moveObject (r : Room) (id : Int) : Room :=
  let dt := GameConfig.tickIntervalSec
  match r.objMgr.objects.lookup id with
  | none => r
  | some (.player ref _) =>
    r.modPlayer ref fun p => { p with toGameObject := moved ch dt p.toGameObject }
  | some (.monster _) =>
    r.modScene fun s => s.modMonster id fun m =>
      { m with toGameObject := moved ch dt m.toGameObject }
  | some (.projectile _) =>
    r.modScene fun s =>
      { s with objMgr := s.objMgr.modProjectile id fun p =>
        { p with toGameObject := moved ch dt p.toGameObject } }
  | some (.item _) =>
    r.modScene fun s =>
      { s with objMgr := s.objMgr.modItem id fun g =>
        { g with toGameObject := moved ch dt g.toGameObject } }

/-- `obj->TakeDamage` of an effect over time, whatever the object is. -/
def dot (r : Room) (d : Int × Int) : Room :=
  match r.objMgr.objects.lookup d.1 with
  | some (.player ref _) => r.modPlayer ref fun p => p.takeDamage d.2 r.totalRunTime
  | some (.monster _) => r.modScene fun s => s.damageMonster d.1 d.2
  | _ => r

/-! ## Network -/

/-- The entries of `SyncNetwork`. -/
def positions (r : Room) : List ObjectPos :=
  (r.allIds ch).filterMap fun id =>
    match r.getObject id with
    | none => none
    | some o => if o.isDead then none else some o.pos

/-- The objects of one `S_MoveObjectBatch`. -/
def chunkSize : Nat := 300

/-- The batches of the loop, `batch` being the one that is filled. -/
def chunks (batch : List ObjectPos) : List ObjectPos → List (List ObjectPos)
  | [] => if batch = [] then [] else [batch]
  | pos :: rest =>
    if chunkSize ≤ (batch ++ [pos]).length then (batch ++ [pos]) :: chunks [] rest
    else chunks (batch ++ [pos]) rest

/-- Every batch is a packet of its own. -/
def syncNetwork (r : Room) : Room :=
  r.modScene fun s =>
    (chunks [] (r.positions ch)).foldl
      (fun s moves => s.send (.moveObjectBatch moves s.serverTick)) s

/-! ## The tick -/

/-- A tick does nothing in a room that is not started, over, stopping or empty. -/
def inactive (r : Room) : Bool :=
  !r.gameStarted || r.isGameOver || r.isStopping || r.players.keys.isEmpty

/-- Where waves may spawn: around players that are alive. -/
def livingPlaces (r : Room) : List (ℚ × ℚ) :=
  (r.allIds ch).filterMap fun id =>
    match r.objMgr.objects.lookup id with
    | some (.player ref _) =>
      if (r.heap ref).isDead then none else some ((r.heap ref).x, (r.heap ref).y)
    | _ => none

end

/-- The clock, the waves and the effects over time. -/
def advance (data : DataManager) (ch : TickChoice) (r : Room) : Room :=
  let dt := GameConfig.tickIntervalSec
  let r := r.modScene fun s =>
    { s with totalRunTime := s.totalRunTime + dt, serverTick := (s.serverTick + 1) % 2 ^ 32 }
  let res := r.waveMgr.update data ch.spawning (r.livingPlaces ch) dt r.toScene
  ch.dots.foldl dot { r with toScene := res.2, waveMgr := res.1 }

variable (lm : Libm) (data : DataManager) (ch : TickChoice) (r : Room)

/-- The objects think and fire, then they move. -/
def updateObjects : Room :=
  let currentObjects := r.allIds ch
  currentObjects.foldl (moveObject ch) (currentObjects.foldl (updateObject lm data ch) r)

/-- `ExecuteUpdate`, with the number of calls of `HandleGameOver(false)`. -/
def executeUpdate : Room × Nat :=
  if r.inactive then (r, 0)
  else
    let res := ((r.advance data ch).updateObjects lm data ch).combat lm data ch
    (res.1.syncNetwork ch, res.2)

end Room

/-! ## Tasks -/

/-- What the strand of a room runs. -/
inductive Task where
  | enter (ref : Nat)
  /-- the callback of `GetUserSkills`, posted back to the strand -/
  | skillsLoaded (ref : Nat) (skills : List (Int × Int))
  | startGame
  | update
  | handleGameOver (isWin : Bool)
  | leave (sessionId : Nat)
  | stop
  | reset
  | playerReady (sessionId : Nat)
  /-- of `SelectLevelUpHandler` -/
  | selectLevelUp (ref : Nat) (optionIndex : Int)
  /-- of `MoveInputHandler` -/
  | moveInput (ref : Nat) (clientTick : Nat) (dx dy : Int)
  | addExpToAll (exp : Int)
  | debugSpawn (monsterTypeId count : Int)
  | toggleGodMode
  | setMonsterStrategy (strategy : MovementStrategy)
deriving DecidableEq, Repr

/-- The tasks that calls from outside of the room post. -/
def Task.external : Task → Bool
  | enter _ | skillsLoaded .. | handleGameOver _ | stop => false
  | _ => true

namespace Room

section
variable (r : Room)

/-- The player becomes an object of the room. -/
def addPlayerObject (ref : Nat) : Room :=
  r.modScene fun s => { s with objMgr := s.objMgr.addObject (.player ref (r.heap ref).id) }

/-- The skills of the player table, unless there are none. -/
def defaultSkills (data : DataManager) (p : Player) : Player :=
  match data.player with
  | none => p
  | some (_, _, skills) => if skills = [] then p else p.addDefaultSkills data skills

/-- The first player to enter starts the game. -/
def askStart : List Task := if r.gameStarted then [] else [.startGame]

/-- `ExecuteEnter`; the request to the database, and the tasks posted. -/
def executeEnter (data : DataManager) (r : Room) (ref : Nat) : Room × Option Nat × List Task :=
  let r := { r with players := r.players.insert (r.heap ref).sessionId ref }
  let r := r.modPlayer ref fun p => { p with currentRoomId := r.roomId }
  if r.hasUserDB then (r, some ref, [])
  else
    let r := r.modPlayer ref (defaultSkills data)
    (r.addPlayerObject ref, none, r.askStart)

/-- The second half of `ExecuteEnter`, with the answer of the database. -/
def executeSkillsLoaded (data : DataManager) (r : Room) (ref : Nat) (skills : List (Int × Int)) :
    Room × List Task :=
  -- the player may have left, or another object may stand for the session
  if r.players.lookup (r.heap ref).sessionId = some ref then
    let r := r.modPlayer ref fun p => p.applySkills skills
    let r := r.addPlayerObject ref
    (r.modPlayer ref (defaultSkills data), r.askStart)
  else (r, [])

/-- The second call does nothing. -/
def executeStartGame (data : DataManager) (r : Room) : Room :=
  if r.gameStarted then r else { r with gameStarted := true, waveMgr := r.waveMgr.start data }

/-- `Stop`: players and objects go, the flags stay. -/
def internalClear : Room :=
  { r with players := ∅ }.modScene fun s => { s with objMgr := s.objMgr.clear }

/-- A room for the next game; `_players` is left as it is. -/
def executeReset (data : DataManager) (r : Room) : Room :=
  { r with
    waveMgr := .reset data, gameStarted := false, isGameOver := false,
    isStopping := false }.modScene fun s =>
    { s with objMgr := s.objMgr.clear, totalRunTime := 0, serverTick := 0 }

/-- The last player to leave resets the room; one that is dynamic is cleared first. -/
def executeLeave (data : DataManager) (r : Room) (sessionId : Nat) : Room :=
  match r.players.lookup sessionId with
  | none => r
  | some ref =>
    let id := (r.heap ref).id
    let r := r.modPlayer ref fun p => { p with currentRoomId := 0 }
    let r := r.modScene fun s =>
      { s with objMgr := s.objMgr.removeObject (.player ref id) }.send (.despawnObject [id] [])
    let r : Room := { r with players := r.players.erase sessionId }
    if r.players.keys = [] then
      if r.roomId ≠ 1 then r.internalClear.executeReset data else r.executeReset data
    else r

/-- The game ends once. -/
def executeHandleGameOver (isWin : Bool) : Room :=
  if r.isGameOver then r
  else { r with isGameOver := true }.modScene fun s => s.send (.gameOver s.totalRunTime isWin)

/-- All waves are through and no monster is alive. -/
def checkWinCondition : Bool := r.waveMgr.isAllWavesComplete && r.objMgr.aliveMonsterCount == 0

/-- An entry of the spawn list for a player that is ready. -/
def infoOf : Entity → ObjectInfo
  | .player ref _ => (r.heap ref).toGameObject.info 0
  | .monster m => m.toGameObject.info m.monsterTypeId
  | .projectile p => p.toGameObject.info p.typeId
  | .item g => g.toGameObject.info 0

end

/-- The message about a new player has no velocity and no side in it. -/
def newPlayerInfo (p : Player) : ObjectInfo :=
  { p.toGameObject.info 0 with
    type := .player, state := .idle, vx := 0, vy := 0, lookLeft := false }

/-- The player gets every object, the others get the player. -/
def executeOnPlayerReady (data : DataManager) (ch : TickChoice) (r : Room)
    (sessionId : Nat) : Room :=
  match r.players.lookup sessionId with
  | none => r
  | some ref =>
    let r := r.modPlayer ref fun p => { p with isReady := true }
    let r := r.executeStartGame data
    let infos := ((r.allIds ch).filterMap r.objMgr.objects.lookup).map r.infoOf
    let r := if infos = [] then r else r.modScene fun s => s.send (.spawnObject infos s.serverTick)
    r.modScene fun s => s.send (.spawnObject [newPlayerInfo (r.heap ref)] s.serverTick)

variable (lm : Libm) (data : DataManager) (ch : TickChoice)

/-- `AddExp` of a player with the scene of its room. -/
def addExp (exp : Int) (r : Room) (ref : Nat) : Room :=
  r.onPlayer ref fun p s => p.addExp lm data ch.rnd exp (ch.near p.id) s

/-- The command that switches how a monster moves. -/
def setStrategy (strategy : MovementStrategy) (r : Room) (id : Int) : Room :=
  r.modScene fun s => s.modMonster id fun m => { m with movementStrategy := strategy }

/-- What a task leaves to others: requests to the database and tasks. -/
structure Effects where
  load : Option Nat
  posted : List Task

/-- One task of the strand. -/
def execute (r : Room) : Task → Room × Effects
  | .enter ref =>
    let res := r.executeEnter data ref
    (res.1, ⟨res.2.1, res.2.2⟩)
  | .skillsLoaded ref skills =>
    let res := r.executeSkillsLoaded data ref skills
    (res.1, ⟨none, res.2⟩)
  | .startGame => (r.executeStartGame data, ⟨none, []⟩)
  | .update =>
    let res := r.executeUpdate lm data ch
    (res.1, ⟨none, List.replicate res.2 (.handleGameOver false)⟩)
  | .handleGameOver isWin => (r.executeHandleGameOver isWin, ⟨none, []⟩)
  | .leave sessionId => (r.executeLeave data sessionId, ⟨none, []⟩)
  | .stop => (r.internalClear, ⟨none, []⟩)
  | .reset => (r.executeReset data, ⟨none, []⟩)
  | .playerReady sessionId => (r.executeOnPlayerReady data ch sessionId, ⟨none, []⟩)
  | .selectLevelUp ref optionIndex =>
    (r.onPlayer ref fun p s => SimpleGame.selectLevelUp data p optionIndex s, ⟨none, []⟩)
  | .moveInput ref clientTick dx dy =>
    (r.modPlayer ref fun p => p.applyInput lm data clientTick dx dy, ⟨none, []⟩)
  | .addExpToAll exp => ((r.playerRefs ch).foldl (addExp lm data ch exp) r, ⟨none, []⟩)
  | .debugSpawn monsterTypeId count =>
    (r.modScene fun s => WaveManager.debugSpawn data ch.spawning monsterTypeId count s, ⟨none, []⟩)
  | .toggleGodMode =>
    ((r.playerRefs ch).foldl
      (fun r ref => r.modPlayer ref fun p => { p with godMode := !p.godMode }) r, ⟨none, []⟩)
  | .setMonsterStrategy strategy => ((r.allIds ch).foldl (setStrategy strategy) r, ⟨none, []⟩)

end Room

/-! ## Commands -/

/-- The chat commands of a player about itself; they do not go through the strand. -/
inductive Command where
  | levelUp (exp : Int)
  | god
  | addWeapon (id : Int)
  | removeWeapon (id : Int)
  | addPassive (id : Int)
  | removePassive (id : Int)
deriving DecidableEq, Repr

/-- The inventory after a command, if the command changes it. -/
def Command.inventory (data : DataManager) (inv : PlayerInventory) :
    Command → Option PlayerInventory
  | levelUp _ | god => none
  | addWeapon id =>
    let res := inv.addOrUpgradeWeapon data id
    if res.1 then some res.2 else none
  | removeWeapon id => some (inv.removeWeapon id)
  | addPassive id =>
    let res := inv.addOrUpgradePassive data id
    if res.1 then some res.2 else none
  | removePassive id => some (inv.removePassive id)

namespace Room

/-- A command of a player; `GetRoom` finds the room only if the player is in one. -/
def command (lm : Libm) (data : DataManager) (ch : TickChoice) (r : Room) (ref : Nat)
    (c : Command) : Room :=
  let inRoom := (r.heap ref).currentRoomId = r.roomId
  match c with
  | .levelUp exp =>
    if inRoom then r.addExp lm data ch exp ref else r.modPlayer ref fun p => p.addExpNoRoom exp
  | .god => r.modPlayer ref fun p => { p with godMode := !p.godMode }
  | c =>
    match c.inventory data (r.heap ref).inventory with
    | none => r
    | some inventory =>
      r.modPlayer ref fun p =>
        let p := { p with inventory }
        if inRoom then p.refreshInventoryEffects data else p

end Room

/-! ## The room and its strand -/

/-- A room, its queue, the requests to the database and the number of player objects made. -/
structure Arena where
  room : Room
  queue : List Task
  loading : List Nat
  made : Nat

/-- What can happen to a room from outside. -/
inductive ArenaAction where
  /-- `JoinRoomHandler`, for any session -/
  | join (sessionId : Nat)
  | post (task : Task)
  | stop
  /-- the database answers request `i` -/
  | loaded (i : Nat) (skills : List (Int × Int))
  | command (ch : TickChoice) (ref : Nat) (c : Command)
  /-- the strand runs its next task -/
  | run (ch : TickChoice)

namespace Arena

/-- `CreateRoom`. -/
def make (roomId : Int) (hasUserDB : Bool) : Arena := ⟨Room.make roomId hasUserDB, [], [], 0⟩

/-- The strand runs the first task of its queue. -/
def perform (lm : Libm) (data : DataManager) (ch : TickChoice) (s : Arena) (task : Task)
    (rest : List Task) : Arena :=
  let res := s.room.execute lm data ch task
  { s with room := res.1, queue := rest ++ res.2.posted, loading := s.loading ++ res.2.load.toList }

/-- A task from outside is posted; only the strand runs it. -/
def step (lm : Libm) (data : DataManager) (s : Arena) : ArenaAction → Option Arena
  | .join sessionId =>
    some { s with
      room := s.room.setPlayer s.made (Player.create data sessionId)
      queue := s.queue ++ [.enter s.made], made := s.made + 1 }
  | .post task => if task.external then some { s with queue := s.queue ++ [task] } else none
  | .stop =>
    if s.room.isStopping then some s
    else some { s with room := { s.room with isStopping := true }, queue := s.queue ++ [.stop] }
  | .loaded i skills =>
    match s.loading[i]? with
    | none => none
    | some ref =>
      some { s with
        loading := s.loading.eraseIdx i, queue := s.queue ++ [.skillsLoaded ref skills] }
  | .command ch ref c => some { s with room := s.room.command lm data ch ref c }
  | .run ch =>
    match s.queue with
    | [] => none
    | task :: rest => some (s.perform lm data ch task rest)

end Arena

end ToyServer.SimpleGame
