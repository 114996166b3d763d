import ToyServer.Dispatcher.Lifecycle
import ToyServer.Game.Room

/-!
# The game server: packet handlers, `RoomManager` and the rooms

A packet is handled on the dispatcher's thread.  A handler changes the lobby and the registry of
players, posts tasks to the strand of a room, and publishes events; an event is a lambda behind what
the dispatcher has already pushed, so its handler runs later.  The strands of the rooms and the
database run at the same time.

* `JoinRoomHandler` makes a `Player` when the registry has none for the session, posts `Enter`, and
publishes `RoomJoined`; the player is registered when that lambda runs.
* `HandleRoomLeft` and `HandleSessionDisconnected` post `Leave` to the room that the registered
player is in by its own account (`GetRoomId`), which `ExecuteEnter` sets.

The callback of a login runs on the dispatcher when the database has answered; a login is pending
until then.
-/

namespace ToyServer

open Runs

/-- The packets that move a session between lobby and rooms. -/
inductive ClientPacket where
  | login
  | enterLobby
  | joinRoom (roomId : Int)
  | leaveRoom
  | createRoom
  | gameReady
  | ping
deriving DecidableEq, Repr

/-- A message of the dispatcher's queue: from the network, or a lambda that `Publish` pushed. -/
inductive GameMessage where
  | packet (sessionId : SessionId) (packet : ClientPacket)
  | networkDisconnect (sessionId : SessionId)
  | loginRequest (sessionId : SessionId)
  | roomJoined (sessionId : SessionId) (player : Player)
  | roomLeft (sessionId : SessionId)
  | sessionDisconnected (sessionId : SessionId)
deriving DecidableEq, Repr

/-- The rooms, the lobby, the registry and the queue of the dispatcher. -/
structure GameServer where
  hasUserDB : Bool
  rooms : AList fun _ : Int => RoomStrand
  /-- `RoomManager::_players` -/
  registry : AList fun _ : SessionId => Player
  lobbySessions : List SessionId
  /-- `_currentRoomId` of a player -/
  roomOf : Player → Int
  nextPlayer : Nat
  nextRoomId : Int
  queue : List (ThreadId × GameMessage)
  /-- logins whose callback has not run -/
  logins : List SessionId
  /-- sessions that are not connected any more -/
  closed : List SessionId
  /-- sessions with a successful login -/
  loggedIn : List SessionId
  /-- sessions whose `SessionDisconnected` has been handled -/
  departed : List SessionId

/-- What the threads of the server do. -/
inductive GameAction where
  /-- a network thread posts a packet -/
  | packet (thread : ThreadId) (sessionId : SessionId) (packet : ClientPacket)
  /-- a network thread closes a session -/
  | close (thread : ThreadId) (sessionId : SessionId)
  /-- the dispatcher handles the oldest message of a thread; `handle` is for the timer of a new
  room -/
  | process (thread : ThreadId) (handle : Nat)
  /-- the callback of login `i` runs -/
  | loginDone (i : Nat) (success : Bool)
  | roomTimer (roomId : Int)
  /-- the skills of request `i` of the room are loaded -/
  | skillsLoaded (roomId : Int) (i : Nat)
  /-- the strand of the room runs its next task -/
  | runTask (roomId : Int) (ch : RoomChoice)
deriving DecidableEq, Repr

namespace GameServer

/-! ## RoomManager -/

/-- Room 1 is made at the start. -/
def init (hasUserDB : Bool) (handle : Nat) : GameServer :=
  { hasUserDB, rooms := AList.singleton 1 (RoomStrand.make 1 hasUserDB handle), registry := ∅,
    lobbySessions := [], roomOf := fun _ => 0, nextPlayer := 0, nextRoomId := 2, queue := [],
    logins := [], closed := [], loggedIn := [], departed := [] }

section
variable (s : GameServer)

def createRoom (roomId : Int) (handle : Nat) : GameServer :=
  { s with rooms := s.rooms.insert roomId (RoomStrand.make roomId s.hasUserDB handle) }

section
variable (sessionId : SessionId)

/-- The player object of a session is replaced, if there is one. -/
def registerPlayer (p : Player) : GameServer :=
  { s with registry := s.registry.insert sessionId p }

def unregisterPlayer : GameServer :=
  { s with registry := s.registry.erase sessionId }

/-- What the registry knows, which need not be what a room knows. -/
def getPlayer : Option Player := s.registry.lookup sessionId

def isInLobby : Bool := s.lobbySessions.contains sessionId

def enterLobby : GameServer :=
  { s with lobbySessions := if s.isInLobby sessionId then s.lobbySessions
    else s.lobbySessions ++ [sessionId] }

def leaveLobby : GameServer :=
  { s with lobbySessions := s.lobbySessions.filter (· ≠ sessionId) }

/-- A room that does not exist gets nothing. -/
def postTask (roomId : Int) (task : RoomTask) : GameServer :=
  { s with
    rooms :=
      match s.rooms.lookup roomId with
      | none => s.rooms
      | some st => s.rooms.insert roomId (st.post task) }

/-- `Publish`: the dispatcher pushes to its own queue. -/
def publish (m : GameMessage) : GameServer := { s with queue := s.queue ++ [(dispatcherThread, m)] }

/-- `Close`: only the first call posts the disconnect. -/
def close (thread : ThreadId) (sessionId : SessionId) : GameServer :=
  if sessionId ∈ s.closed then s
  else { s with
    closed := sessionId :: s.closed, queue := s.queue ++ [(thread, .networkDisconnect sessionId)] }

/-- `Leave` in the room the registered player is in, and the player is not registered any more. -/
def leaveRegistered : GameServer :=
  match s.getPlayer sessionId with
  | none => s
  | some p => (s.postTask (s.roomOf p) (.leave sessionId)).unregisterPlayer sessionId

/-- The session leaves the lobby and the room that the registry has for it. -/
def handleSessionDisconnected : GameServer :=
  let s := if s.isInLobby sessionId then s.leaveLobby sessionId else s
  { s.leaveRegistered sessionId with departed := sessionId :: s.departed }

/-- The registry learns of the player when the message comes up, not before. -/
def handleRoomJoined (p : Player) : GameServer :=
  (s.leaveLobby sessionId).registerPlayer sessionId p

/-- Back to the lobby. -/
def handleRoomLeft : GameServer :=
  (s.leaveRegistered sessionId).enterLobby sessionId

/-! ## Packet handlers -/

def loginHandler : GameServer := s.publish (.loginRequest sessionId)

def enterLobbyHandler : GameServer := s.enterLobby sessionId

/-- `CreatePlayer`, `Enter` and the event. -/
def enterNewPlayer (roomId : Int) : GameServer :=
  let p : Player := ⟨s.nextPlayer, sessionId⟩
  ({ s with nextPlayer := s.nextPlayer + 1 }.postTask roomId (.enter p)).publish
    (.roomJoined sessionId p)

/-- A session that the registry has a player for is refused. -/
def joinRoomHandler (roomId : Int) : GameServer :=
  if (s.rooms.lookup roomId).isSome then
    -- already in a room, as far as the registry knows
    if (s.getPlayer sessionId).isSome then s else s.enterNewPlayer sessionId roomId
  else s

/-- The room is left when the message comes up. -/
def leaveRoomHandler : GameServer := s.publish (.roomLeft sessionId)

def createRoomHandler (handle : Nat) : GameServer :=
  { s with nextRoomId := s.nextRoomId + 1 }.createRoom s.nextRoomId handle

/-- `C_GameReady` goes to the room that the player is in. -/
def gameReadyHandler : GameServer :=
  match s.getPlayer sessionId with
  | none => s
  | some p => s.postTask (s.roomOf p) (.playerReady sessionId)

/-- A session that is neither in a room nor in the lobby is not logged in. -/
def pingHandler : GameServer :=
  if (s.getPlayer sessionId).isSome || s.isInLobby sessionId then s
  else s.close dispatcherThread sessionId

/-- The handler of a packet. -/
def handlePacket (handle : Nat) : ClientPacket → GameServer
  | .login => s.loginHandler sessionId
  | .enterLobby => s.enterLobbyHandler sessionId
  | .joinRoom roomId => s.joinRoomHandler sessionId roomId
  | .leaveRoom => s.leaveRoomHandler sessionId
  | .createRoom => s.createRoomHandler handle
  | .gameReady => s.gameReadyHandler sessionId
  | .ping => s.pingHandler sessionId

/-! ## The dispatcher -/

def onLogin : GameServer := { s with logins := s.logins ++ [sessionId] }

end

/-- What the dispatcher does with a message. -/
def handleMessage (handle : Nat) : GameMessage → GameServer
  | .packet sessionId packet =>
    -- `IsConnected`
    if sessionId ∈ s.closed then s else s.handlePacket sessionId handle packet
  | .networkDisconnect sessionId => s.publish (.sessionDisconnected sessionId)
  | .loginRequest sessionId => s.onLogin sessionId
  | .roomJoined sessionId p => s.handleRoomJoined sessionId p
  | .roomLeft sessionId => s.handleRoomLeft sessionId
  | .sessionDisconnected sessionId => s.handleSessionDisconnected sessionId

/-- A login that succeeds enters the lobby. -/
def loginCallback (sessionId : SessionId) (success : Bool) : GameServer :=
  if success then { s.enterLobby sessionId with loggedIn := sessionId :: s.loggedIn } else s

/-! ## Steps -/

def setRoom (roomId : Int) (st : RoomStrand) : GameServer :=
  { s with rooms := s.rooms.insert roomId st }

/-- `SetRoomId` of the task that ran. -/
def move : Option (Player × Int) → GameServer
  | none => s
  | some (p, roomId) => { s with roomOf := Function.update s.roomOf p roomId }

/-- One step of one thread. -/
def step : GameAction → Option GameServer
  | .packet thread sessionId packet =>
    if thread = dispatcherThread then none
    else some { s with queue := s.queue ++ [(thread, .packet sessionId packet)] }
  | .close thread sessionId =>
    if thread = dispatcherThread then none else some (s.close thread sessionId)
  | .process thread handle =>
    match ProducerQueue.dequeue thread s.queue with
    | none => none
    | some (m, rest) => some ({ s with queue := rest }.handleMessage handle m)
  | .loginDone i success =>
    match s.logins[i]? with
    | none => none
    | some sessionId =>
      some ({ s with logins := s.logins.eraseIdx i }.loginCallback sessionId success)
  | .roomTimer roomId =>
    match s.rooms.lookup roomId with
    | none => none
    | some st => some (s.setRoom roomId st.onTimer)
  | .skillsLoaded roomId i =>
    match s.rooms.lookup roomId with
    | none => none
    | some st =>
      match st.step (.loaded i) with
      | none => none
      | some st' => some (s.setRoom roomId st')
  | .runTask roomId ch =>
    match s.rooms.lookup roomId with
    | none => none
    | some st =>
      match st.queue with
      | [] => none
      | task :: rest =>
        let res := st.perform ch task rest
        some ((s.setRoom roomId res.1).move res.2.moved)

end

/-- The outcomes of a step, with what decides between them. -/
inductive Stepped (s : GameServer) : GameAction → GameServer → Prop
  | arrived (thread : ThreadId) (sessionId : SessionId) (packet : ClientPacket) :
      thread ≠ dispatcherThread → Stepped s (.packet thread sessionId packet)
      { s with queue := s.queue ++ [(thread, .packet sessionId packet)] }
  | closed (thread : ThreadId) (sessionId : SessionId) : thread ≠ dispatcherThread →
      Stepped s (.close thread sessionId) (s.close thread sessionId)
  | processed (thread : ThreadId) (handle : Nat) (m : GameMessage)
      (rest : List (ThreadId × GameMessage)) :
      ProducerQueue.dequeue thread s.queue = some (m, rest) →
      Stepped s (.process thread handle) ({ s with queue := rest }.handleMessage handle m)
  | loginDone (i : Nat) (sessionId : SessionId) (success : Bool) : s.logins[i]? = some sessionId →
      Stepped s (.loginDone i success)
      ({ s with logins := s.logins.eraseIdx i }.loginCallback sessionId success)
  | ticked (roomId : Int) (st : RoomStrand) : s.rooms.lookup roomId = some st →
      Stepped s (.roomTimer roomId) (s.setRoom roomId st.onTimer)
  | skillsLoaded (roomId : Int) (i : Nat) (st : RoomStrand) (p : Player) :
      s.rooms.lookup roomId = some st → st.loading[i]? = some p → Stepped s (.skillsLoaded roomId i)
        (s.setRoom roomId ({ st with loading := st.loading.eraseIdx i }.post (.skillsLoaded p)))
  | ran (roomId : Int) (ch : RoomChoice) (st : RoomStrand) (task : RoomTask)
      (rest : List RoomTask) : s.rooms.lookup roomId = some st → st.queue = task :: rest →
      Stepped s (.runTask roomId ch)
        ((s.setRoom roomId (st.perform ch task rest).1).move (st.perform ch task rest).2.moved)

/-- Inversion of `step`. -/
theorem stepped_of_step {s s' : GameServer} {a : GameAction} (h : s.step a = some s') :
    Stepped s a s' := by
  cases a with
  | packet thread sessionId packet =>
    simp only [step] at h
    split at h
    · cases h
    · next ht => cases h; exact .arrived thread sessionId packet ht
  | close thread sessionId =>
    simp only [step] at h
    split at h
    · cases h
    · next ht => cases h; exact .closed thread sessionId ht
  | process thread handle =>
    simp only [step] at h
    split at h
    · cases h
    · next m rest hd => cases h; exact .processed thread handle m rest hd
  | loginDone i success =>
    simp only [step] at h
    split at h
    · cases h
    · next sessionId hi => cases h; exact .loginDone i sessionId success hi
  | roomTimer roomId =>
    simp only [step] at h
    split at h
    · cases h
    · next st hst => cases h; exact .ticked roomId st hst
  | skillsLoaded roomId i =>
    simp only [step] at h
    split at h
    · cases h
    · next st hst =>
      split at h
      · cases h
      · next st' hload =>
        cases h
        cases RoomStrand.stepped_of_step hload with
        | posted _ _ hr => cases hr
        | loaded _ p hp => exact .skillsLoaded roomId i st p hst hp
  | runTask roomId ch =>
    simp only [step] at h
    split at h
    · cases h
    · next st hst =>
      split at h
      · cases h
      · next task rest hq => cases h; exact .ran roomId ch st task rest hst hq

/-- What the handler of a packet of session `x` can do. -/
inductive Handled (s : GameServer) (x : SessionId) : ClientPacket → GameServer → Prop
  | unchanged (packet : ClientPacket) : Handled s x packet s
  | login : Handled s x .login (s.publish (.loginRequest x))
  | enterLobby : Handled s x .enterLobby (s.enterLobby x)
  | joinRoom (roomId : Int) : (s.rooms.lookup roomId).isSome → s.registry.lookup x = none →
      Handled s x (.joinRoom roomId) (s.enterNewPlayer x roomId)
  | leaveRoom : Handled s x .leaveRoom (s.publish (.roomLeft x))
  | createRoom (handle : Nat) : Handled s x .createRoom (s.createRoomHandler handle)
  | gameReady (p : Player) : s.registry.lookup x = some p →
      Handled s x .gameReady (s.postTask (s.roomOf p) (.playerReady x))
  | ping : Handled s x .ping (s.close dispatcherThread x)

variable (s : GameServer)

theorem handled_handlePacket (x : SessionId) (handle : Nat) (packet : ClientPacket) :
    Handled s x packet (s.handlePacket x handle packet) := by
  cases packet with
  | login => exact .login
  | enterLobby => exact .enterLobby
  | joinRoom roomId =>
    show Handled s x _ (s.joinRoomHandler x roomId)
    unfold joinRoomHandler
    by_cases hroom : (s.rooms.lookup roomId).isSome
    · rw [if_pos hroom]
      by_cases hreg : (s.getPlayer x).isSome
      · rw [if_pos hreg]
        exact .unchanged _
      · rw [if_neg hreg]
        exact .joinRoom roomId hroom (by simpa [getPlayer] using hreg)
    · rw [if_neg hroom]
      exact .unchanged _
  | leaveRoom => exact .leaveRoom
  | createRoom => exact .createRoom handle
  | gameReady =>
    simp only [handlePacket, gameReadyHandler, getPlayer]
    split
    · exact .unchanged _
    · next p hp => exact .gameReady p hp
  | ping =>
    simp only [handlePacket, pingHandler]
    split
    · exact .unchanged _
    · exact .ping

theorem leaveLobby_of_not_in {s : GameServer} {x : SessionId} (h : ¬ s.isInLobby x = true) :
    s.leaveLobby x = s := by
  have hfilter : s.lobbySessions.filter (· ≠ x) = s.lobbySessions := by
    rw [List.filter_eq_self]
    intro y hy
    have hne : y ≠ x := fun he => h (by simpa [isInLobby] using he ▸ hy)
    simpa using hne
  unfold leaveLobby
  rw [hfilter]

theorem handleSessionDisconnected_eq (x : SessionId) :
    s.handleSessionDisconnected x =
      leaveRegistered { s.leaveLobby x with departed := x :: s.departed } x := by
  have hlobby : (if s.isInLobby x then s.leaveLobby x else s) = s.leaveLobby x := by
    by_cases h : s.isInLobby x = true
    · rw [if_pos h]
    · rw [if_neg h, leaveLobby_of_not_in h]
  unfold handleSessionDisconnected
  rw [hlobby]
  unfold leaveRegistered getPlayer
  dsimp only [leaveLobby]
  cases s.registry.lookup x with
  | none => rfl
  | some p => rfl

theorem leaveRegistered_frame (sessionId : SessionId) : ∃ rooms registry,
    s.leaveRegistered sessionId = { s with rooms := rooms, registry := registry } := by
  unfold leaveRegistered
  split
  · exact ⟨s.rooms, s.registry, rfl⟩
  · exact ⟨_, _, rfl⟩

theorem leaveRegistered_lookup (x y : SessionId) :
    (s.leaveRegistered x).registry.lookup y = if y = x then none else s.registry.lookup y := by
  unfold leaveRegistered getPlayer
  split
  · next hnone =>
    split
    · next hy => rw [hy, hnone]
    · rfl
  · exact Table.lookup_erase_ite _ _ _

/-! ## What is where -/

/-- The room has the player object for the session. -/
def InRoom (s : GameServer) (roomId : Int) (sessionId : SessionId) (p : Player) : Prop :=
  ∃ st, s.rooms.lookup roomId = some st ∧ st.room.players.lookup sessionId = some p

/-- The task is in the queue of the room. -/
def Waits (s : GameServer) (roomId : Int) (task : RoomTask) : Prop :=
  ∃ st, s.rooms.lookup roomId = some st ∧ task ∈ st.queue

/-- The message is in the queue of the dispatcher. -/
def Queued (s : GameServer) (m : GameMessage) : Prop := ∃ thread, (thread, m) ∈ s.queue

/-- The message that the dispatcher gets from a thread next. -/
def next (s : GameServer) (thread : ThreadId) : Option GameMessage :=
  (ProducerQueue.dequeue thread s.queue).map Prod.fst

theorem mem_next {s : GameServer} {thread : ThreadId} {m : GameMessage}
    {rest : List (ThreadId × GameMessage)}
    (h : ProducerQueue.dequeue thread s.queue = some (m, rest)) : m ∈ s.next thread := by
  rw [next, h]
  rfl

end GameServer

end ToyServer
