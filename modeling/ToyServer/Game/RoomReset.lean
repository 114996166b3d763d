import ToyServer.Game.Room

/-!
# What the last player leaves behind

`ExecuteLeave` of the last player resets the room.  The reset is the last word only if nothing that
was posted before comes after it: `StartGame`, posted by a player who had just loaded, and
`HandleGameOver`, posted by a tick, run whether or not somebody is still in the room.  And `Stop`
clears a room without resetting it.

`emptied_room_fresh` is the result when these do not happen: the room is as it was made, and the
next player who enters gets a game that runs.  `emptied_room_stale` are the two orders that leave
the room started or over.
-/

namespace ToyServer

variable {ch : RoomChoice} {task : RoomTask}

open Runs

namespace Room

/-- Nothing is left of the last game. -/
structure Vacant (r : Room) : Prop where
  notStarted : r.gameStarted = false
  notOver : r.isGameOver = false
  noObjects : r.objects.keys = []
  noCount : r.playerCount = 0
  noTick : r.serverTick = 0
  noTimer : r.roomId ≠ 1 → r.armed = []

/-- A game that runs and has just begun, with `p` alone in it. -/
structure Running (r : Room) (p : Player) : Prop where
  started : r.gameStarted = true
  notOver : r.isGameOver = false
  notStopping : r.isStopping = false
  waves : r.wavesRunning = true
  firstTick : r.serverTick = 0
  timer : r.armed = [r.timerHandle]
  players : r.players.keys = [p.sessionId]
  player : r.players.lookup p.sessionId = some p
  objects : r.objects.keys = [p.objectId]
  count : r.playerCount = 1

/-- The only timer that is set is the one whose handle the room keeps. -/
def OneTimer (r : Room) : Prop := r.armed = if r.timerHandle = 0 then [] else [r.timerHandle]

variable {r : Room}

section

variable (h : r.OneTimer)
include h

theorem oneTimer_start (h0 : r.timerHandle = 0) (handle : Nat) : (r.start handle).OneTimer := by
  have harmed : r.armed = [] := by rw [h, if_pos h0]
  simp [OneTimer, start, harmed]

theorem oneTimer_executeStartGame (handle : Nat) : (r.executeStartGame handle).OneTimer := by
  unfold executeStartGame
  split
  · exact h
  · dsimp only
    split
    · next h0 => exact oneTimer_start (r := { r with gameStarted := true }) h h0 handle
    · exact h

theorem internalClear_armed : r.internalClear.armed = [] := by
  unfold OneTimer at h
  simp only [internalClear]
  split
  · next h0 => rw [h, if_pos h0]
  · next h0 => rw [h, if_neg h0, List.erase_cons_head]

theorem oneTimer_internalClear : r.internalClear.OneTimer :=
  internalClear_armed h

theorem oneTimer_vacate : r.vacate.OneTimer := by
  unfold vacate
  split
  · exact oneTimer_internalClear h
  · exact h

theorem oneTimer_update (ch : RoomChoice) : (r.update ch).1.OneTimer := by
  obtain ⟨_, _, he⟩ := update_frame r ch
  rw [he]
  exact h

theorem oneTimer_execute : (r.execute ch task).1.OneTimer := by
  have hdone := execute_done r ch task
  generalize (r.execute ch task).1 = r', (r.execute ch task).2 = fx at hdone
  cases hdone with
  | startGame => exact oneTimer_executeStartGame h _
  | ready _ _ _ => exact oneTimer_executeStartGame h _
  | tick _ => exact oneTimer_update h ch
  | leaveEmpty sessionId p _ _ => exact oneTimer_vacate (r := r.removePlayer sessionId p) h
  | stop => exact oneTimer_internalClear h
  | _ => exact h

end

@[simp] theorem executeStartGame_isStopping (r : Room) (handle : Nat) :
    (r.executeStartGame handle).isStopping = r.isStopping := by
  obtain ⟨_, _, _, _, he⟩ := executeStartGame_frame r handle
  rw [he]

@[simp] theorem update_isStopping (r : Room) (ch : RoomChoice) :
    (r.update ch).1.isStopping = r.isStopping := by
  obtain ⟨_, _, he⟩ := update_frame r ch
  rw [he]

@[simp] theorem vacate_isStopping (r : Room) : r.vacate.isStopping = false := by
  unfold vacate
  split <;> rfl

theorem execute_isStopping (h : r.isStopping = false) :
    (r.execute ch task).1.isStopping = false := by
  have hdone := execute_done r ch task
  generalize (r.execute ch task).1 = r', (r.execute ch task).2 = fx at hdone
  cases hdone with
  | startGame => simpa using h
  | ready _ _ _ => simpa using h
  | tick _ => simpa using h
  | leaveEmpty _ _ _ _ => simp
  | reset => rfl
  | _ => exact h

theorem stop_not_posted : RoomTask.stop ∉ (r.execute ch task).2.posted := by
  have hask : RoomTask.stop ∉ r.askStart := by
    unfold askStart
    split <;> simp
  have hdone := execute_done r ch task
  generalize (r.execute ch task).1 = r', (r.execute ch task).2 = fx at hdone
  cases hdone <;> simp [RoomEffects.none, RoomEffects.post, hask]

theorem vacant_executeReset (h : r.roomId ≠ 1 → r.armed = []) : r.executeReset.Vacant :=
  ⟨rfl, rfl, rfl, rfl, rfl, h⟩

theorem vacant_vacate (h : r.OneTimer) : r.vacate.Vacant := by
  unfold vacate
  split
  · exact vacant_executeReset fun _ => internalClear_armed h
  · next h1 => exact vacant_executeReset fun hne => absurd hne h1

/-- What would disturb a room that nobody is in. -/
def Disturbs : RoomTask → Prop
  | .startGame => True
  | .handleGameOver _ => True
  | .stop => True
  | _ => False

instance (task : RoomTask) : Decidable (Disturbs task) :=
  match task with
  | .startGame | .handleGameOver _ | .stop => isTrue trivial
  | .enter _ | .skillsLoaded _ | .update | .leave _ | .reset | .playerReady _ => isFalse id

theorem keys_insert_ne_nil (t : AList fun _ : Nat => Player) (a : Nat) (p : Player) :
    (t.insert a p).keys ≠ [] := by
  rw [AList.keys_insert]
  exact List.cons_ne_nil _ _

theorem lookup_of_no_players (h : r.players.keys = []) (sessionId : Nat) :
    r.players.lookup sessionId = none := by
  rw [AList.lookup_eq_none, AList.mem_keys, h]
  exact List.not_mem_nil

/-- Step: a room that is without players after a task was vacant before, or its last player left. -/
theorem vacant_execute (htimer : r.OneTimer) (hok : r.players.keys = [] → ¬ Disturbs task)
    (hstop : task ≠ .stop) (hbefore : RoomStrand.leaves r task = 0 → r.players.keys = [] → r.Vacant)
    (hempty : (r.execute ch task).1.players.keys = []) : (r.execute ch task).1.Vacant := by
  have hdone := execute_done r ch task
  generalize (r.execute ch task).1 = r', (r.execute ch task).2 = fx at hdone hempty
  cases hdone with
  | enterLoading p _ => exact absurd hempty (keys_insert_ne_nil _ _ _)
  | enterAtOnce p _ => exact absurd hempty (keys_insert_ne_nil _ _ _)
  | appear p hp =>
    have hnone : r.players.lookup p.sessionId = none := lookup_of_no_players hempty _
    rw [hnone] at hp
    cases hp
  | loadedInVain p _ => exact hbefore rfl hempty
  | startGame =>
    rw [executeStartGame_players] at hempty
    exact absurd trivial (hok hempty)
  | tick hact =>
    -- a tick is idle in a room without players
    rw [update_players] at hempty
    simp [inactive, hempty] at hact
  | idleTick _ =>
    have hv := hbefore rfl hempty
    exact ⟨hv.notStarted, hv.notOver, hv.noObjects, hv.noCount, hv.noTick, hv.noTimer⟩
  | gameOver _ => exact absurd trivial (hok hempty)
  | leaveOthers sessionId p _ hne => exact absurd hempty hne
  | leaveEmpty sessionId p _ _ => exact vacant_vacate (r := r.removePlayer sessionId p) htimer
  | leaveAbsent sessionId hnone =>
    have hleaves : RoomStrand.leaves r (.leave sessionId) = 0 := by simp [RoomStrand.leaves, hnone]
    exact hbefore hleaves hempty
  | stop => exact absurd rfl hstop
  | reset => exact vacant_executeReset (hbefore rfl hempty).noTimer
  | ready sessionId p hp =>
    rw [executeStartGame_players] at hempty
    rw [lookup_of_no_players hempty] at hp
    cases hp
  | readyAbsent _ _ => exact hbefore rfl hempty

theorem executeStartGame_started (h : r.gameStarted = false) (handle : Nat) :
    (r.executeStartGame handle).gameStarted = true ∧
      (r.executeStartGame handle).wavesRunning = true ∧
      (r.executeStartGame handle).timerHandle ≠ 0 := by
  unfold executeStartGame start
  rw [h, if_neg Bool.false_ne_true]
  dsimp only
  split
  · exact ⟨rfl, rfl, Nat.succ_ne_zero _⟩
  · next h0 => exact ⟨rfl, rfl, h0⟩

theorem running_of_vacant (hv : r.Vacant) (htimer : r.OneTimer) (hstop : r.isStopping = false)
    (hempty : r.players.keys = []) (p : Player) (handle : Nat) :
    (((r.addPlayer p).addPlayerObject p).executeStartGame handle).Running p := by
  have hone := oneTimer_executeStartGame (r := (r.addPlayer p).addPlayerObject p) htimer handle
  have hstart : ((r.addPlayer p).addPlayerObject p).gameStarted = false := hv.notStarted
  obtain ⟨hstarted, hwaves, hhandle⟩ := executeStartGame_started hstart handle
  have hplayers : (r.players.insert p.sessionId p).keys = [p.sessionId] := by
    rw [AList.keys_insert, hempty, List.erase_nil]
  have hobjects : (r.objects.insert p.objectId (.player p)).keys = [p.objectId] := by
    rw [AList.keys_insert, hv.noObjects, List.erase_nil]
  have hcount : (r.playerCount + 1) % wrap64 = 1 := by
    rw [hv.noCount]
    rfl
  have harmed := hone
  rw [OneTimer, if_neg hhandle] at harmed
  -- the other fields are those of the vacant room with the player in it
  obtain ⟨_, _, _, _, he⟩ := executeStartGame_frame ((r.addPlayer p).addPlayerObject p) handle
  rw [he] at hstarted hwaves harmed ⊢
  exact ⟨hstarted, hv.notOver, hstop, hwaves, hv.noTick, harmed, hplayers, AList.lookup_insert _,
    hobjects, hcount⟩

end Room

namespace RoomStrand

/-! ## Whole runs -/

/-- `Stop` is not called, and what starts or ends a game finds a player in the room. -/
def Undisturbed (s : RoomStrand) : RoomAction → Prop
  | .stop => False
  | .run _ => ∀ task ∈ s.queue.head?, s.room.players.keys = [] → ¬ Room.Disturbs task
  | _ => True

instance (s : RoomStrand) (a : RoomAction) : Decidable (s.Undisturbed a) :=
  match a with
  | .stop => isFalse id
  | .run _ =>
    inferInstanceAs
      (Decidable (∀ task ∈ s.queue.head?, s.room.players.keys = [] → ¬ Room.Disturbs task))
  | .enter _ | .leave _ | .startGame | .reset | .handleGameOver _ | .onPlayerReady _ | .onTimer
  | .loaded _ =>
    isTrue trivial

structure ResetInv (s : RoomStrand) : Prop where
  timer : s.room.OneTimer
  notStopping : s.room.isStopping = false
  noStop : RoomTask.stop ∉ s.queue
  vacant : 0 < s.left → s.room.players.keys = [] → s.room.Vacant

theorem resetInv_make (roomId : Int) (hasUserDB : Bool) (handle : Nat) :
    ResetInv (make roomId hasUserDB handle) where
  timer := Room.oneTimer_start (r := Room.make roomId hasUserDB) rfl rfl handle
  notStopping := rfl
  noStop := List.not_mem_nil
  vacant := fun h => absurd h (Nat.lt_irrefl 0)

variable {s : RoomStrand}

theorem ResetInv.post (h : ResetInv s) (hne : task ≠ .stop) : ResetInv (s.post task) where
  timer := h.timer
  notStopping := h.notStopping
  noStop := by
    simp only [RoomStrand.post, List.mem_append, List.mem_singleton]
    rintro (hq | rfl)
    · exact h.noStop hq
    · exact hne rfl
  vacant := h.vacant

theorem request_ne_stop {a : RoomAction} (h : request a = some task) : task ≠ .stop := by
  rintro rfl
  cases a <;> cases h

theorem ResetInv.perform {rest : List RoomTask} (h : ResetInv s) (hq : s.queue = task :: rest)
    (hok : s.room.players.keys = [] → ¬ Room.Disturbs task) :
    ResetInv (s.perform ch task rest).1 := by
  have hnoStop := h.noStop
  rw [hq, List.mem_cons, not_or] at hnoStop
  refine ⟨Room.oneTimer_execute h.timer, Room.execute_isStopping h.notStopping, ?_, ?_⟩
  · simp only [RoomStrand.perform, List.mem_append, not_or]
    exact ⟨hnoStop.2, Room.stop_not_posted⟩
  · intro hleft hempty
    refine Room.vacant_execute h.timer hok (Ne.symm hnoStop.1) (fun hstay hbefore => ?_) hempty
    -- nobody leaves with this task, so somebody has left before
    have hleft' : 0 < s.left + leaves s.room task := hleft
    rw [hstay] at hleft'
    exact h.vacant hleft' hbefore

theorem ResetInv.step {s' : RoomStrand} {a : RoomAction} (h : ResetInv s) (hok : s.Undisturbed a)
    (hs : s.step a = some s') : ResetInv s' := by
  cases stepped_of_step hs with
  | posted _ task hr => exact h.post (request_ne_stop hr)
  | stopping _ => exact hok.elim
  | stoppedBefore _ => exact h
  | ticking _ =>
    have hflag : ResetInv { s with room := { s.room with isUpdating := true } } := by
      refine ⟨h.timer, h.notStopping, h.noStop, fun hleft hempty => ?_⟩
      have hv := h.vacant hleft hempty
      exact ⟨hv.notStarted, hv.notOver, hv.noObjects, hv.noCount, hv.noTick, hv.noTimer⟩
    exact hflag.post (by simp)
  | tickSkipped _ => exact h
  | loaded i p _ =>
    have hloading : ResetInv { s with loading := s.loading.eraseIdx i } :=
      ⟨h.timer, h.notStopping, h.noStop, h.vacant⟩
    exact hloading.post (by simp)
  | ran ch task rest hq => exact h.perform hq (hok task (by rw [hq]; rfl))

/-! ## The next game -/

/-- A player enters, the skills are loaded if there is a database, and the game is started. -/
def entering (s : RoomStrand) (p : Player) (ch : RoomChoice) : List RoomAction :=
  if s.room.hasUserDB then [.enter p, .run ch, .loaded s.loading.length, .run ch, .run ch]
  else [.enter p, .run ch, .run ch]

theorem run_entering (hq : s.queue = []) (hstart : s.room.gameStarted = false) (p : Player)
    (ch : RoomChoice) : ∃ t, run step s (s.entering p ch) = some t ∧ t.queue = [] ∧
      t.room = ((s.room.addPlayer p).addPlayerObject p).executeStartGame ch.handle := by
  have hask : ∀ q : Room, q.gameStarted = false → q.askStart = [.startGame] :=
    fun q hq => by simp [Room.askStart, hq]
  have hlookup : (s.room.addPlayer p).players.lookup p.sessionId = some p := AList.lookup_insert _
  unfold entering
  split
  · next hdb =>
    simp [run, step, post, perform, hq, Room.execute, Room.executeEnter, hdb,
      Room.executeSkillsLoaded, hlookup,
      hask _ (show (s.room.addPlayer p).gameStarted = false from hstart), RoomEffects.post,
      RoomEffects.none]
  · next hdb =>
    simp [run, step, post, perform, hq, Room.execute, Room.executeEnter, hdb, hask _ hstart,
      RoomEffects.none]

/-- **An emptied room is reset** on every run in which `Stop` is not called and no `StartGame` or
`HandleGameOver` runs in a room without players: nothing is left of the game, and the next player to
enter gets a new one that runs. -/
theorem emptied_room_fresh (roomId : Int) (hasUserDB : Bool) (handle : Nat) (as : List RoomAction)
    (t : RoomStrand) (hok : Meets step Undisturbed (make roomId hasUserDB handle) as)
    (hrun : run step (make roomId hasUserDB handle) as = some t) (hempty : t.room.players.keys = [])
    (hqueue : t.queue = []) (hleft : 0 < t.left) :
    t.room.Vacant ∧ ∀ p ch, ∃ u, run step t (t.entering p ch) = some u ∧ u.queue = [] ∧
    u.room.Running p := by
  have hinv : ResetInv t :=
    run_inv_of_meets ResetInv (fun s a s' h ha hs => h.step ha hs)
      (resetInv_make roomId hasUserDB handle) hok hrun
  have hvacant := hinv.vacant hleft hempty
  refine ⟨hvacant, fun p ch => ?_⟩
  obtain ⟨u, hu, huq, huroom⟩ := run_entering hqueue hvacant.notStarted p ch
  refine ⟨u, hu, huq, ?_⟩
  rw [huroom]
  exact Room.running_of_vacant hvacant hinv.timer hinv.notStopping hempty p ch.handle

/-- A player plays one tick in room 2 and leaves. -/
def playAndLeave : List RoomAction :=
  [.enter ⟨0, 7⟩, .run noChoice, .loaded 0, .run noChoice, .run noChoice, .onTimer,
    .run ⟨0, [1001], [], []⟩, .leave 7, .run noChoice]

theorem emptied_room_fresh_playAndLeave : ∃ t, run step (make 2 true 0) playAndLeave = some t ∧
    t.room.Vacant ∧ ∀ p ch, ∃ u, run step t (t.entering p ch) = some u ∧ u.queue = [] ∧
    u.room.Running p :=
  ⟨_, rfl, emptied_room_fresh 2 true 0 playAndLeave _ (by decide) rfl rfl rfl (by decide)⟩

/-- The player leaves between the answer of the database and the `StartGame` it posts. -/
def leaveBeforeStart : List RoomAction :=
  [.enter ⟨0, 7⟩, .run noChoice, .loaded 0, .leave 7, .run noChoice, .run noChoice,
    .run ⟨1, [], [], []⟩]

/-- The player leaves between the tick that kills them and the `HandleGameOver` it posts. -/
def leaveBeforeGameOver : List RoomAction :=
  [.enter ⟨0, 7⟩, .run noChoice, .loaded 0, .run noChoice, .run noChoice, .onTimer, .leave 7,
    .run ⟨0, [1001], [], [false]⟩, .run noChoice, .run noChoice]

/-- Room 2 ends without players, its last player gone and its queue empty, and is started with a
timer set, or over. -/
theorem emptied_room_stale :
    (∃ t, run step (make 2 true 0) leaveBeforeStart = some t ∧ t.room.players.keys = [] ∧
      t.queue = [] ∧ 0 < t.left ∧ t.room.gameStarted = true ∧ t.room.armed = [2]) ∧
    ∃ t, run step (make 2 true 0) leaveBeforeGameOver = some t ∧ t.room.players.keys = [] ∧
      t.queue = [] ∧ 0 < t.left ∧ t.room.isGameOver = true :=
  ⟨⟨_, rfl, rfl, rfl, by decide, rfl, rfl⟩, ⟨_, rfl, rfl, rfl, by decide, rfl⟩⟩

end RoomStrand

end ToyServer
