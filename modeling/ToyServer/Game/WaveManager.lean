import ToyServer.Entity.Player

/-!
# `WaveManager`

Spawners start with their waves, and each spawns a batch of monsters around the groups of living
players until its time is over.  Where exactly a monster appears, and which object the pool hands
out for it, is chosen (`Spawning`).
-/

namespace ToyServer.SimpleGame

/-- What is decided outside for the monster that gets the n-th id of the room. -/
structure Spawning where
  /-- `GetAngularGapSpawnPos` -/
  spot : Nat → ℚ × ℚ
  /-- an object that was used before, or `none` for a new one -/
  recycled : Nat → Option Monster

namespace Spawning

def pop (ch : Spawning) (n : Nat) : Monster :=
  match ch.recycled n with
  | none => Monster.make
  | some m => m.reset

end Spawning

inductive WaveState where
  | notStarted | inProgress | completed
deriving DecidableEq, Repr

structure PeriodicSpawner where
  monsterTypeId : Int
  batchCount : Int
  hpMultiplier : ℚ
  interval : ℚ
  timer : ℚ
  remainingDuration : ℚ
deriving DecidableEq, Repr

structure WaveManager where
  state : WaveState
  currentTime : ℚ
  waves : List WaveInfo
  currentWaveIndex : Nat
  activeSpawners : List PeriodicSpawner
deriving DecidableEq, Repr

namespace Scene

/-- The message of `SpawnMonster` has no velocity and no side in it. -/
def spawnInfo (m : Monster) : ObjectInfo :=
  { m.toGameObject.info m.monsterTypeId with
    type := .monster, state := .idle, vx := 0, vy := 0, lookLeft := false }

variable (data : DataManager) (ch : Spawning) (monsterTypeId : Int) (hpMultiplier : ℚ)

/-- `SpawnMonster`, with the limit for the room. -/
def spawnMonster (s : Scene) : Scene :=
  if GameConfig.maxMonstersPerRoom ≤ s.objMgr.aliveMonsterCount then s
  else
    match data.monsters monsterTypeId with
    | none => s
    | some tmpl =>
      let (id, objMgr) := s.objMgr.generateId
      let (x, y) := ch.spot s.objMgr.generated
      let m :=
        (ch.pop s.objMgr.generated).spawn tmpl ⟨id, monsterTypeId, x, y,
          truncate (tmpl.hp * hpMultiplier)⟩
      { s with objMgr := objMgr.addObject (.monster m) }.send
        (.spawnObject [spawnInfo m] s.serverTick)

/-- `for (int i = 0; i < count; ++i)` -/
def spawnMonsters (count : Int) (s : Scene) : Scene :=
  (List.range count.toNat).foldl (fun s _ => s.spawnMonster data ch monsterTypeId hpMultiplier) s

end Scene

namespace WaveManager

def make : WaveManager := ⟨.notStarted, 0, [], 0, []⟩

variable (data : DataManager)

/-- `Start` leaves the spawners of an earlier game. -/
def start (w : WaveManager) : WaveManager :=
  { w with state := .inProgress, currentTime := 0, currentWaveIndex := 0, waves := data.waves }

def reset : WaveManager := { make with waves := data.waves }

def isAllWavesComplete (w : WaveManager) : Bool := w.state == .completed

def spawnerOf (wave : WaveInfo) : PeriodicSpawner :=
  ⟨wave.monsterTypeId, wave.count, wave.hpMultiplier, wave.interval, 0, wave.duration⟩

/-- The waves that are due from the current one on. -/
def due (w : WaveManager) : List WaveInfo :=
  (w.waves.drop w.currentWaveIndex).takeWhile fun wave => decide (wave.startTime ≤ w.currentTime)

def startDue (w : WaveManager) : WaveManager :=
  { w with
    currentWaveIndex := w.currentWaveIndex + w.due.length
    activeSpawners := w.activeSpawners ++ w.due.map spawnerOf }

/-! ## Groups of players -/

def near (p q : ℚ × ℚ) : Bool :=
  decide ((p.1 - q.1) * (p.1 - q.1) + (p.2 - q.2) * (p.2 - q.2) ≤ 20 * 20)

/-- A player joins the first group that has somebody near. -/
def joinCluster (p : ℚ × ℚ) : List (List (ℚ × ℚ)) → List (List (ℚ × ℚ))
  | [] => [[p]]
  | c :: rest => if c.any (near p) then (c ++ [p]) :: rest else c :: joinCluster p rest

/-- `BuildClusters`, from the places of the living players. -/
def buildClusters (players : List (ℚ × ℚ)) : List (List (ℚ × ℚ)) :=
  players.foldl (fun cs p => joinCluster p cs) []

/-! ## The spawners -/

/-- What one group gets of a batch, and what is left of it. -/
def spawnFor (ch : Spawning) (sp : PeriodicSpawner) (totalPlayers actualBatch : Int)
    (acc : Int × Scene) (cluster : List (ℚ × ℚ)) : Int × Scene :=
  if acc.1 ≤ 0 then acc
  else
    let share := truncate ((cluster.length : ℚ) / totalPlayers * actualBatch)
    let share := if share = 0 then 1 else share
    let share := if acc.1 < share then acc.1 else share
    (acc.1 - share, acc.2.spawnMonsters data ch sp.monsterTypeId sp.hpMultiplier share)

/-- The batch of a spawner whose timer has run out. -/
def spawnBatch (ch : Spawning) (clusters : List (List (ℚ × ℚ))) (sp : PeriodicSpawner)
    (s : Scene) : Scene :=
  let totalPlayers : Int := (clusters.map fun c => (c.length : Int)).sum
  if 0 < totalPlayers then
    let actualBatch :=
      min sp.batchCount (GameConfig.maxMonstersPerRoom - s.objMgr.aliveMonsterCount)
    (clusters.foldl (spawnFor data ch sp totalPlayers actualBatch) (actualBatch, s)).2
  else s

/-- One round of the loop over the spawners: the spawner if it stays. -/
def updateSpawner (ch : Spawning) (clusters : List (List (ℚ × ℚ))) (dt : ℚ)
    (sp : PeriodicSpawner) (s : Scene) : Option PeriodicSpawner × Scene :=
  let sp := { sp with timer := sp.timer - dt, remainingDuration := sp.remainingDuration - dt }
  if sp.timer ≤ 0 then
    if GameConfig.maxMonstersPerRoom ≤ s.objMgr.aliveMonsterCount then
      -- no room for more: the spawner stays even if its time is over
      (some { sp with timer := sp.interval }, s)
    else
      let s := spawnBatch data ch clusters sp s
      (if sp.remainingDuration ≤ 0 then none else some { sp with timer := sp.interval }, s)
  else (if sp.remainingDuration ≤ 0 then none else some sp, s)

def updateSpawners (ch : Spawning) (clusters : List (List (ℚ × ℚ))) (dt : ℚ)
    (spawners : List PeriodicSpawner) (s : Scene) : List PeriodicSpawner × Scene :=
  spawners.foldl
    (fun acc sp =>
      let res := updateSpawner data ch clusters dt sp acc.2
      (acc.1 ++ res.1.toList, res.2))
    ([], s)

def update (ch : Spawning) (players : List (ℚ × ℚ)) (dt : ℚ) (w : WaveManager) (s : Scene) :
    WaveManager × Scene :=
  let w := { w with currentTime := w.currentTime + dt }.startDue
  let res := updateSpawners data ch (buildClusters players) dt w.activeSpawners s
  let w := { w with activeSpawners := res.1 }
  let complete :=
    w.state = .inProgress ∧ w.waves.length ≤ w.currentWaveIndex ∧ w.activeSpawners = []
  ({ w with state := if complete then .completed else w.state }, res.2)

/-- `DebugSpawn`; the group is chosen with the spot. -/
def debugSpawn (ch : Spawning) (monsterTypeId count : Int) (s : Scene) : Scene :=
  s.spawnMonsters data ch monsterTypeId 1 count

end WaveManager

end ToyServer.SimpleGame
