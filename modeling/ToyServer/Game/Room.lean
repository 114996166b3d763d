import ToyServer.Lib.Runs
import ToyServer.Lib.Table

/-!
# `Room`: the tasks of a room's strand

The public functions of a room post a task to its strand, and the tasks run one after another.  Here
is what each task does to the room, and the system of one room: any calls of the public functions,
the answers of the database, and the strand that runs the queue.

What a tick does to monsters and projectiles is left open: `Update` removes and adds objects and may
find that all players are dead.

`player_count_exact` is the result about the counter that `GetPlayerCount` reports outside of the
strand.
-/

namespace ToyServer

open Runs

/-! ## The room -/

/-- A `Player` object: its identity and the session it was made for. -/
structure Player where
  id : Nat
  sessionId : Nat
deriving DecidableEq, Repr

/-- An entry of the table of objects. -/
inductive RoomObject where
  | player (p : Player)
  /-- a monster, a projectile or an item -/
  | other (id : Int)
deriving DecidableEq, Repr

/-- `GetId()`; the id of a player is `(int32_t)sessionId`. -/
def Player.objectId (p : Player) : Int := Int.bmod p.sessionId (2 ^ 32)

/-- What the other parts of the server know of a room. -/
structure Room where
  roomId : Int
  /-- there is a `UserDB` to load skills from -/
  hasUserDB : Bool
  players : AList fun _ : Nat => Player
  /-- the table of `_objMgr` -/
  objects : AList fun _ : Int => RoomObject
  /-- `std::atomic<size_t>` -/
  playerCount : Nat
  gameStarted : Bool
  isGameOver : Bool
  isStopping : Bool
  isUpdating : Bool
  wavesRunning : Bool
  serverTick : Nat
  timerHandle : Nat
  /-- the timers of this room that are set and not cancelled -/
  armed : List Nat
deriving DecidableEq

/-- What the strand of a room runs. -/
inductive RoomTask where
  | enter (p : Player)
  /-- the callback of `GetUserSkills`, posted back to the strand -/
  | skillsLoaded (p : Player)
  | startGame
  | update
  | handleGameOver (isWin : Bool)
  | leave (sessionId : Nat)
  | stop
  | reset
  | playerReady (sessionId : Nat)
deriving DecidableEq, Repr

/-- What is decided outside of the room while a task runs. -/
structure RoomChoice where
  /-- what `SetInterval` returns is never zero -/
  handle : Nat
  /-- objects that a tick adds, and those it cleans up -/
  spawned : List Int
  removed : List Int
  /-- a tick that finds all players dead calls `HandleGameOver` -/
  gameOvers : List Bool
deriving DecidableEq, Repr

/-- What a task leaves to others. -/
structure RoomEffects where
  /-- tasks posted to the strand -/
  posted : List RoomTask
  /-- `GetUserSkills` -/
  load : Option Player
  /-- `SetRoomId` -/
  moved : Option (Player × Int)
deriving DecidableEq, Repr

namespace RoomEffects

def none : RoomEffects := ⟨[], Option.none, Option.none⟩

def post (tasks : List RoomTask) : RoomEffects := { none with posted := tasks }

end RoomEffects

namespace Room

def wrap64 : Nat := 2 ^ 64

def make (roomId : Int) (hasUserDB : Bool) : Room :=
  { roomId, hasUserDB, players := ∅, objects := ∅, playerCount := 0, gameStarted := false,
    isGameOver := false, isStopping := false, isUpdating := false, wavesRunning := false,
    serverTick := 0, timerHandle := 0, armed := [] }

variable (r : Room)

/-- `Start`: the timer of the room is armed. -/
def start (handle : Nat) : Room :=
  { r with timerHandle := handle + 1, armed := r.armed ++ [handle + 1] }

/-- The timer that `_timerHandle` names is cancelled, players and objects go. -/
def internalClear : Room :=
  { r with
    timerHandle := 0
    armed := if r.timerHandle = 0 then r.armed else r.armed.erase r.timerHandle
    players := ∅
    objects := ∅ }

def executeStop : Room := r.internalClear

/-- The second call does nothing; the timer is armed if there is none. -/
def executeStartGame (handle : Nat) : Room :=
  if r.gameStarted then r
  else
    let r := { r with gameStarted := true }
    let r := if r.timerHandle = 0 then r.start handle else r
    { r with wavesRunning := true }

/-- A room for the next game; the counter is set to zero whoever is there. -/
def executeReset : Room :=
  { r with
    objects := ∅
    wavesRunning := false
    gameStarted := false
    isGameOver := false
    isStopping := false
    serverTick := 0
    isUpdating := false
    playerCount := 0 }

/-- The player becomes an object of the room. -/
def addPlayerObject (p : Player) : Room :=
  { r with objects := r.objects.insert p.objectId (.player p) }

/-- The first player to enter starts the game. -/
def askStart : List RoomTask := if r.gameStarted then [] else [.startGame]

/-- The entry of `_players` and the counter. -/
def addPlayer (p : Player) : Room :=
  { r with players := r.players.insert p.sessionId p, playerCount := (r.playerCount + 1) % wrap64 }

/-- The player is in the room at once, and an object of it when its skills are there. -/
def executeEnter (p : Player) : Room × RoomEffects :=
  let moved := some (p, r.roomId)
  if r.hasUserDB then (r.addPlayer p, ⟨[], some p, moved⟩)
  else ((r.addPlayer p).addPlayerObject p, ⟨r.askStart, none, moved⟩)

/-- The answer of the database. -/
def executeSkillsLoaded (p : Player) : Room × RoomEffects :=
  -- the player may have left, or another object may stand for the session
  if r.players.lookup p.sessionId = some p then (r.addPlayerObject p, .post r.askStart)
  else (r, .none)

def executeOnPlayerReady (sessionId handle : Nat) : Room :=
  match r.players.lookup sessionId with
  | none => r
  | some _ => r.executeStartGame handle

/-- Object, entry and counter. -/
def removePlayer (sessionId : Nat) (p : Player) : Room :=
  { r with
    objects := r.objects.erase p.objectId
    players := r.players.erase sessionId
    playerCount := (r.playerCount + (wrap64 - 1)) % wrap64 }

/-- What the last player leaves behind; room 1 keeps its timer. -/
def vacate : Room := if r.roomId ≠ 1 then r.executeStop.executeReset else r.executeReset

/-- The last player to leave resets the room. -/
def executeLeave (sessionId : Nat) : Room × RoomEffects :=
  match r.players.lookup sessionId with
  | none => (r, .none)
  | some p =>
    let r := r.removePlayer sessionId p
    (if r.players.keys = [] then r.vacate else r, ⟨[], none, some (p, 0)⟩)

def executeHandleGameOver : Room := if r.isGameOver then r else { r with isGameOver := true }

/-- A tick does nothing in a room that is not started, over, stopping or empty. -/
def inactive : Bool := !r.gameStarted || r.isGameOver || r.isStopping || r.players.keys.isEmpty

/-- `RemoveObject` in the cleanup of a tick; players are not cleaned up. -/
def cleanUp (objects : AList fun _ : Int => RoomObject) (id : Int) :
    AList fun _ : Int => RoomObject :=
  match objects.lookup id with
  | some (.other _) => objects.erase id
  | _ => objects

/-- A tick, as far as the table of objects goes. -/
def executeUpdate (ch : RoomChoice) : Room × RoomEffects :=
  if r.inactive then (r, .none)
  else
    let objects := ch.spawned.foldl (fun t id => t.insert id (.other id)) r.objects
    -- what is dead, expired or picked up goes at the end of the tick
    let objects := ch.removed.foldl cleanUp objects
    ({ r with serverTick := (r.serverTick + 1) % 2 ^ 32, objects },
      .post (ch.gameOvers.map .handleGameOver))

/-- The flag of the timer is cleared after the tick, whatever it did. -/
def update (ch : RoomChoice) : Room × RoomEffects :=
  let res := r.executeUpdate ch
  ({ res.1 with isUpdating := false }, res.2)

/-- One task of the strand. -/
def execute (ch : RoomChoice) : RoomTask → Room × RoomEffects
  | .enter p => r.executeEnter p
  | .skillsLoaded p => r.executeSkillsLoaded p
  | .startGame => (r.executeStartGame ch.handle, .none)
  | .update => r.update ch
  | .handleGameOver _ => (r.executeHandleGameOver, .none)
  | .leave sessionId => r.executeLeave sessionId
  | .stop => (r.executeStop, .none)
  | .reset => (r.executeReset, .none)
  | .playerReady sessionId => (r.executeOnPlayerReady sessionId ch.handle, .none)

end Room

/-! ## The strand -/

/-- A room, its queue and the requests to the database. -/
structure RoomStrand where
  room : Room
  queue : List RoomTask
  loading : List Player
  /-- players that have left -/
  left : Nat
deriving DecidableEq

/-- The public functions of a room, the database and the strand. -/
inductive RoomAction where
  | enter (p : Player)
  | leave (sessionId : Nat)
  | startGame
  | reset
  | handleGameOver (isWin : Bool)
  | onPlayerReady (sessionId : Nat)
  | stop
  | onTimer
  /-- the database answers request `i` -/
  | loaded (i : Nat)
  /-- the strand runs its next task -/
  | run (ch : RoomChoice)
deriving DecidableEq, Repr

namespace RoomStrand

/-- `CreateRoom`: the room is made and started. -/
def make (roomId : Int) (hasUserDB : Bool) (handle : Nat) : RoomStrand :=
  ⟨(Room.make roomId hasUserDB).start handle, [], [], 0⟩

variable (s : RoomStrand)

def post (task : RoomTask) : RoomStrand := { s with queue := s.queue ++ [task] }

/-- `Stop`: the second call does nothing. -/
def stop : RoomStrand :=
  if s.room.isStopping then s else { s with room := { s.room with isStopping := true } }.post .stop

/-- `OnTimer`: one tick at a time. -/
def onTimer : RoomStrand :=
  if s.room.isUpdating then s
  else { s with room := { s.room with isUpdating := true } }.post .update

/-- One if the task is the `Leave` of a player who is in the room. -/
def leaves (r : Room) : RoomTask → Nat
  | .leave sessionId => if (r.players.lookup sessionId).isSome then 1 else 0
  | _ => 0

/-- The strand runs `task`, the first of its queue. -/
def perform (ch : RoomChoice) (task : RoomTask) (rest : List RoomTask) : RoomStrand × RoomEffects :=
  let res := s.room.execute ch task
  (⟨res.1, rest ++ res.2.posted, s.loading ++ res.2.load.toList, s.left + leaves s.room task⟩,
    res.2)

/-- The public functions post, the strand runs. -/
def step : RoomAction → Option RoomStrand
  | .enter p => some (s.post (.enter p))
  | .leave sessionId => some (s.post (.leave sessionId))
  | .startGame => some (s.post .startGame)
  | .reset => some (s.post .reset)
  | .handleGameOver isWin => some (s.post (.handleGameOver isWin))
  | .onPlayerReady sessionId => some (s.post (.playerReady sessionId))
  | .stop => some s.stop
  | .onTimer => some s.onTimer
  | .loaded i =>
    match s.loading[i]? with
    | none => none
    | some p => some ({ s with loading := s.loading.eraseIdx i }.post (.skillsLoaded p))
  | .run ch =>
    match s.queue with
    | [] => none
    | task :: rest => some (s.perform ch task rest).1

end RoomStrand

/-! ## What a task can do -/

namespace Room

/-- The outcomes of a task, with what decides between them. -/
inductive Done (r : Room) (ch : RoomChoice) : RoomTask → Room → RoomEffects → Prop
  | enterLoading (p : Player) : r.hasUserDB = true →
      Done r ch (.enter p) (r.addPlayer p) ⟨[], some p, some (p, r.roomId)⟩
  | enterAtOnce (p : Player) : r.hasUserDB = false →
      Done r ch (.enter p) ((r.addPlayer p).addPlayerObject p) ⟨r.askStart, none,
        some (p, r.roomId)⟩
  | appear (p : Player) : r.players.lookup p.sessionId = some p →
      Done r ch (.skillsLoaded p) (r.addPlayerObject p) (.post r.askStart)
  | loadedInVain (p : Player) :
      r.players.lookup p.sessionId ≠ some p → Done r ch (.skillsLoaded p) r .none
  | startGame : Done r ch .startGame (r.executeStartGame ch.handle) .none
  | tick :
      r.inactive = false →
      Done r ch .update (r.update ch).1 (.post (ch.gameOvers.map .handleGameOver))
  | idleTick : r.inactive = true → Done r ch .update { r with isUpdating := false } .none
  | gameOver (isWin : Bool) : Done r ch (.handleGameOver isWin) { r with isGameOver := true } .none
  | leaveOthers (sessionId : Nat) (p : Player) : r.players.lookup sessionId = some p →
      (r.removePlayer sessionId p).players.keys ≠ [] →
      Done r ch (.leave sessionId) (r.removePlayer sessionId p) ⟨[], none, some (p, 0)⟩
  | leaveEmpty (sessionId : Nat) (p : Player) : r.players.lookup sessionId = some p →
      (r.removePlayer sessionId p).players.keys = [] →
      Done r ch (.leave sessionId) (r.removePlayer sessionId p).vacate ⟨[], none, some (p, 0)⟩
  | leaveAbsent (sessionId : Nat) :
      r.players.lookup sessionId = none → Done r ch (.leave sessionId) r .none
  | stop : Done r ch .stop r.executeStop .none
  | reset : Done r ch .reset r.executeReset .none
  | ready (sessionId : Nat) (p : Player) : r.players.lookup sessionId = some p →
      Done r ch (.playerReady sessionId) (r.executeStartGame ch.handle) .none
  | readyAbsent (sessionId : Nat) :
      r.players.lookup sessionId = none → Done r ch (.playerReady sessionId) r .none

variable (r : Room) (ch : RoomChoice)

theorem execute_done (task : RoomTask) :
    Done r ch task (r.execute ch task).1 (r.execute ch task).2 := by
  cases task with
  | enter p =>
    simp only [execute, executeEnter]
    split
    · next h => exact .enterLoading p h
    · next h => exact .enterAtOnce p (by simpa using h)
  | skillsLoaded p =>
    simp only [execute, executeSkillsLoaded]
    split
    · next h => exact .appear p h
    · next h => exact .loadedInVain p h
  | startGame => exact .startGame
  | update =>
    by_cases h : r.inactive = true
    · simp only [execute, update, executeUpdate, h, if_true]
      exact .idleTick h
    · have hact : r.inactive = false := by simpa using h
      have hfx : (r.update ch).2 = .post (ch.gameOvers.map .handleGameOver) := by
        simp [update, executeUpdate, hact]
      show Done r ch .update (r.update ch).1 (r.update ch).2
      rw [hfx]
      exact .tick hact
  | handleGameOver isWin =>
    have hover : r.executeHandleGameOver = { r with isGameOver := true } := by
      unfold executeHandleGameOver
      split
      · next h => rw [← h]
      · rfl
    show Done r ch (.handleGameOver isWin) r.executeHandleGameOver .none
    rw [hover]
    exact .gameOver isWin
  | leave sessionId =>
    simp only [execute, executeLeave]
    split
    · next h => exact .leaveAbsent sessionId h
    · next p h =>
      dsimp only
      split
      · next he => exact .leaveEmpty sessionId p h he
      · next he => exact .leaveOthers sessionId p h he
  | stop => exact .stop
  | reset => exact .reset
  | playerReady sessionId =>
    simp only [execute, executeOnPlayerReady]
    split
    · next h => exact .readyAbsent sessionId h
    · next p h => exact .ready sessionId p h

theorem executeStartGame_frame (handle : Nat) : ∃ gameStarted timerHandle armed wavesRunning,
    r.executeStartGame handle = { r with gameStarted, timerHandle, armed, wavesRunning } := by
  unfold executeStartGame start
  split
  · exact ⟨r.gameStarted, r.timerHandle, r.armed, r.wavesRunning, rfl⟩
  · dsimp only
    split
    · exact ⟨_, _, _, _, rfl⟩
    · exact ⟨_, _, _, _, rfl⟩

theorem update_frame : ∃ serverTick objects,
    (r.update ch).1 = { r with serverTick, objects, isUpdating := false } := by
  unfold update executeUpdate
  dsimp only
  split
  · exact ⟨r.serverTick, r.objects, rfl⟩
  · exact ⟨_, _, rfl⟩

@[simp] theorem executeStartGame_players (handle : Nat) :
    (r.executeStartGame handle).players = r.players := by
  obtain ⟨_, _, _, _, he⟩ := executeStartGame_frame r handle
  rw [he]

@[simp] theorem executeStartGame_playerCount (handle : Nat) :
    (r.executeStartGame handle).playerCount = r.playerCount := by
  obtain ⟨_, _, _, _, he⟩ := executeStartGame_frame r handle
  rw [he]

@[simp] theorem update_players : (r.update ch).1.players = r.players := by
  obtain ⟨_, _, he⟩ := update_frame r ch
  rw [he]

@[simp] theorem update_playerCount : (r.update ch).1.playerCount = r.playerCount := by
  obtain ⟨_, _, he⟩ := update_frame r ch
  rw [he]

@[simp] theorem vacate_playerCount : r.vacate.playerCount = 0 := by
  unfold vacate
  split <;> rfl

/-! ## The counter -/

/-- The counter is the number of players, as a `size_t`. -/
def Exact (r : Room) : Prop := r.playerCount = r.players.keys.length % wrap64

/-- What the counter needs of the task that runs: `Enter` for a session that is not there yet,
`Reset` and `Stop` of a room without players. -/
def Counted (r : Room) : RoomTask → Prop
  | .enter p => p.sessionId ∉ r.players
  | .reset => r.players.keys = []
  | .stop => r.players.keys = []
  | _ => True

instance (r : Room) (task : RoomTask) : Decidable (r.Counted task) :=
  match task with
  | .enter p => inferInstanceAs (Decidable (p.sessionId ∉ r.players))
  | .reset => inferInstanceAs (Decidable (r.players.keys = []))
  | .stop => inferInstanceAs (Decidable (r.players.keys = []))
  | .skillsLoaded _ | .startGame | .update | .handleGameOver _ | .leave _ | .playerReady _ =>
    isTrue trivial

theorem exact_addPlayer {r : Room} {p : Player} (h : r.Exact) (hp : p.sessionId ∉ r.players) :
    (r.addPlayer p).Exact := by
  have hkeys : (r.players.insert p.sessionId p).keys.length = r.players.keys.length + 1 := by
    rw [AList.keys_insert, List.length_cons, List.erase_of_not_mem hp]
  unfold Exact addPlayer at *
  dsimp only
  rw [hkeys, h]
  unfold wrap64
  omega

theorem mem_keys_of_lookup {r : Room} {sessionId : Nat} {p : Player}
    (h : r.players.lookup sessionId = some p) : sessionId ∈ r.players.keys :=
  AList.lookup_isSome.mp (by rw [h]; rfl)

theorem exact_removePlayer {r : Room} {sessionId : Nat} {p : Player} (h : r.Exact)
    (hp : r.players.lookup sessionId = some p) : (r.removePlayer sessionId p).Exact := by
  have hmem := mem_keys_of_lookup hp
  have hpos : 0 < r.players.keys.length := List.length_pos_of_mem hmem
  have hkeys : (r.players.erase sessionId).keys.length = r.players.keys.length - 1 := by
    rw [AList.keys_erase, List.length_erase_of_mem hmem]
  unfold Exact removePlayer at *
  dsimp only
  rw [hkeys, h]
  unfold wrap64
  omega

theorem exact_execute {r : Room} {ch : RoomChoice} {task : RoomTask} (h : r.Exact)
    (hc : r.Counted task) : (r.execute ch task).1.Exact := by
  have hdone := execute_done r ch task
  generalize (r.execute ch task).1 = r', (r.execute ch task).2 = fx at hdone
  cases hdone with
  | enterLoading p _ => exact exact_addPlayer h hc
  | enterAtOnce p _ => exact exact_addPlayer h hc
  | startGame => simpa [Exact] using h
  | tick _ => simpa [Exact] using h
  | leaveOthers sessionId p hp _ => exact exact_removePlayer h hp
  | leaveEmpty sessionId p hp hempty =>
    have hplayers : (r.removePlayer sessionId p).vacate.players.keys = [] := by
      unfold vacate
      split
      · rfl
      · exact hempty
    simp [Exact, hplayers]
  | stop =>
    -- the counter stays, so it has to be zero before
    have hzero : r.playerCount = 0 := by simpa [Exact, show r.players.keys = [] from hc] using h
    simpa [Exact, executeStop, internalClear] using hzero
  | reset => simp [Exact, executeReset, show r.players.keys = [] from hc]
  | ready _ _ _ => simpa [Exact] using h
  | _ => exact h

end Room

namespace RoomStrand

/-! ## What a step of the strand can do -/

/-- The task that a call posts and that is all the call does. -/
def request : RoomAction → Option RoomTask
  | .enter p => some (.enter p)
  | .leave sessionId => some (.leave sessionId)
  | .startGame => some .startGame
  | .reset => some .reset
  | .handleGameOver isWin => some (.handleGameOver isWin)
  | .onPlayerReady sessionId => some (.playerReady sessionId)
  | .stop | .onTimer | .loaded _ | .run _ => none

/-- The outcomes of a step, with what decides between them. -/
inductive Stepped (s : RoomStrand) : RoomAction → RoomStrand → Prop
  | posted (a : RoomAction) (task : RoomTask) : request a = some task → Stepped s a (s.post task)
  | stopping :
      s.room.isStopping = false →
      Stepped s .stop ({ s with room := { s.room with isStopping := true } }.post .stop)
  | stoppedBefore : s.room.isStopping = true → Stepped s .stop s
  | ticking : s.room.isUpdating = false →
      Stepped s .onTimer ({ s with room := { s.room with isUpdating := true } }.post .update)
  | tickSkipped : s.room.isUpdating = true → Stepped s .onTimer s
  | loaded (i : Nat) (p : Player) : s.loading[i]? = some p →
      Stepped s (.loaded i) ({ s with loading := s.loading.eraseIdx i }.post (.skillsLoaded p))
  | ran (ch : RoomChoice) (task : RoomTask) (rest : List RoomTask) : s.queue = task :: rest →
      Stepped s (.run ch) (s.perform ch task rest).1

/-- Inversion of `step`. -/
theorem stepped_of_step {s s' : RoomStrand} {a : RoomAction} (h : s.step a = some s') :
    Stepped s a s' := by
  cases a with
  | stop =>
    cases h
    unfold stop
    split
    · next hs => exact .stoppedBefore hs
    · next hs => exact .stopping (by simpa using hs)
  | onTimer =>
    cases h
    unfold onTimer
    split
    · next hu => exact .tickSkipped hu
    · next hu => exact .ticking (by simpa using hu)
  | loaded i =>
    simp only [step] at h
    split at h
    · cases h
    · next p hp => cases h; exact .loaded i p hp
  | run ch =>
    simp only [step] at h
    split at h
    · cases h
    · next task rest hq => cases h; exact .ran ch task rest hq
  | _ => cases h; exact .posted _ _ rfl

/-! ## The counter over whole runs -/

/-- The strand runs only tasks that the counter can follow. -/
def TaskCounted (s : RoomStrand) : RoomAction → Prop
  | .run _ => ∀ task ∈ s.queue.head?, s.room.Counted task
  | _ => True

instance (s : RoomStrand) (a : RoomAction) : Decidable (s.TaskCounted a) :=
  match a with
  | .run _ => inferInstanceAs (Decidable (∀ task ∈ s.queue.head?, s.room.Counted task))
  | .enter _ | .leave _ | .startGame | .reset | .handleGameOver _ | .onPlayerReady _ | .stop
  | .onTimer | .loaded _ =>
    isTrue trivial

/-- **Every step keeps the counter exact.** -/
theorem exact_step {s s' : RoomStrand} {a : RoomAction} (h : s.room.Exact) (hc : s.TaskCounted a)
    (hs : s.step a = some s') : s'.room.Exact := by
  cases stepped_of_step hs with
  | ran ch task rest hq =>
    have htask : s.room.Counted task := hc task (by rw [hq]; rfl)
    exact Room.exact_execute h htask
  | _ => exact h

/-- **The player count is exact** on every run in which `Enter` runs only for sessions that are not
in the room and `Reset` and `Stop` only when nobody is: outside of the strand it reads as the number
of entries, and a player who leaves finds it above zero. -/
theorem player_count_exact (roomId : Int) (hasUserDB : Bool) (handle : Nat) (as : List RoomAction)
    (t : RoomStrand) (hok : Meets step TaskCounted (make roomId hasUserDB handle) as)
    (hrun : run step (make roomId hasUserDB handle) as = some t) :
    t.room.playerCount = t.room.players.keys.length % 2 ^ 64 ∧
      ∀ sessionId, (t.room.players.lookup sessionId).isSome → t.room.players.keys.length < 2 ^ 64 →
        0 < t.room.playerCount := by
  have hexact : t.room.Exact :=
    run_inv_of_meets (fun s => s.room.Exact) (fun s a s' h hc hs => exact_step h hc hs) rfl hok hrun
  refine ⟨hexact, fun sessionId hsome hlt => ?_⟩
  have hpos : 0 < t.room.players.keys.length :=
    List.length_pos_of_mem (AList.lookup_isSome.mp hsome)
  rw [hexact, Room.wrap64, Nat.mod_eq_of_lt hlt]
  exact hpos

def noChoice : RoomChoice := ⟨0, [], [], []⟩

def enterTwoLeaveOne : List RoomAction :=
  [.enter ⟨0, 7⟩, .enter ⟨1, 8⟩, .run noChoice, .run noChoice, .leave 7, .run noChoice]

theorem player_count_exact_enterTwoLeaveOne :
    ∃ t, run step (make 2 true 0) enterTwoLeaveOne = some t ∧
    t.room.playerCount = t.room.players.keys.length % 2 ^ 64 ∧
      ∀ sessionId, (t.room.players.lookup sessionId).isSome → t.room.players.keys.length < 2 ^ 64 →
        0 < t.room.playerCount :=
  ⟨_, rfl, player_count_exact 2 true 0 enterTwoLeaveOne _ (by decide) rfl⟩

def enterAgain : List RoomAction := [.enter ⟨0, 7⟩, .enter ⟨1, 7⟩, .run noChoice, .run noChoice]

/-- `Reset` while two players are in the room, and one of them leaves. -/
def resetUnderPlayers : List RoomAction :=
  [.enter ⟨0, 7⟩, .enter ⟨1, 8⟩, .run noChoice, .run noChoice, .reset, .run noChoice, .leave 7,
    .run noChoice]

def stopUnderPlayer : List RoomAction := [.enter ⟨0, 7⟩, .run noChoice, .stop, .run noChoice]

/-- The counter counts a repeated `Enter` twice, wraps after `Reset`, and stays when `Stop` clears
the players. -/
theorem player_count_drifts :
    (∃ t, run step (make 1 true 0) enterAgain = some t ∧ t.room.players.keys.length = 1 ∧
      t.room.playerCount = 2) ∧
    (∃ t, run step (make 1 true 0) resetUnderPlayers = some t ∧ t.room.players.keys.length = 1 ∧
      t.room.playerCount = 2 ^ 64 - 1) ∧
    ∃ t, run step (make 1 true 0) stopUnderPlayer = some t ∧ t.room.players.keys.length = 0 ∧
    t.room.playerCount = 1 :=
  ⟨⟨_, rfl, rfl, rfl⟩, ⟨_, rfl, rfl, rfl⟩, ⟨_, rfl, rfl, rfl⟩⟩

end RoomStrand

end ToyServer
