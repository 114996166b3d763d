import ToyServer.Game.Room
import ToyServer.Game.RoomChanges

/-!
# The two models of a room

`ToyServer.Room` has what a room shares with the server and leaves the tick open, `SimpleGame.Room`
has the tick.  `same_execute` connects them: a task that both have does the same to the players and
the flags of both and posts the same tasks, where the tick of one is a choice of the other; the
tasks that only `SimpleGame.Room` has leave all of this alone.
-/

namespace ToyServer.SimpleGame.Room

open Chain

/-- A player object as the other model has it. -/
def outlined (r : Room) (ref : Nat) : ToyServer.Player := ⟨ref, (r.heap ref).sessionId⟩

/-- The task of the other model, if it has one. -/
def outline (r : Room) : Task → Option RoomTask
  | .enter ref => some (.enter (r.outlined ref))
  | .skillsLoaded ref _ => some (.skillsLoaded (r.outlined ref))
  | .startGame => some .startGame
  | .update => some .update
  | .handleGameOver isWin => some (.handleGameOver isWin)
  | .leave sessionId => some (.leave sessionId)
  | .stop => some .stop
  | .reset => some .reset
  | .playerReady sessionId => some (.playerReady sessionId)
  | _ => none

/-- A task that the other model does not have changes nothing there. -/
def carryOut (a : ToyServer.Room) (c : RoomChoice) : Option RoomTask → ToyServer.Room × RoomEffects
  | none => (a, .none)
  | some task => a.execute c task

/-- What the models have in common besides the players. -/
def flags (r : Room) : Int × Bool × Bool × Bool × Bool :=
  (r.roomId, r.hasUserDB, r.gameStarted, r.isGameOver, r.isStopping)

structure Same (a : ToyServer.Room) (r : Room) : Prop where
  flags : (a.roomId, a.hasUserDB, a.gameStarted, a.isGameOver, a.isStopping) = r.flags
  players : ∀ sid, a.players.lookup sid = (r.players.lookup sid).map r.outlined

variable {a : ToyServer.Room} {r r' : Room}

theorem flags_of_reach {ok : Tag → Prop} (h : Reach Change ok r r') : r'.flags = r.flags := by
  refine h.inv (fun x => x.flags = r.flags) (fun t x x' _ hc hx => ?_) rfl
  cases hc with
  | _ => exact hx

theorem Same.keep (h : Same a r) (hflags : r'.flags = r.flags) (hpl : r'.players = r.players)
    (hids : SameIds r r') : Same a r' := by
  refine ⟨h.flags.trans hflags.symm, fun sid => ?_⟩
  have hout : r'.outlined = r.outlined := funext fun ref => by rw [outlined, outlined, (hids ref).2]
  rw [h.players, hpl, hout]

theorem Same.reach {ok : Tag → Prop} (h : Same a r) (hr : Reach Change ok r r') : Same a r' :=
  h.keep (flags_of_reach hr) (players_of_reach hr) (sameIds_of_reach hr)

theorem Same.keys_nil (h : Same a r) : a.players.keys = [] ↔ r.players.keys = [] := by
  have hnil : ∀ {β : Type} (t : AList fun _ : Nat => β), t.keys = [] ↔ ∀ k, t.lookup k = none := by
    intro β t
    simp only [List.eq_nil_iff_forall_not_mem, ← AList.mem_keys, AList.lookup_eq_none]
  rw [hnil, hnil]
  exact forall_congr' fun sid => by rw [h.players, Option.map_eq_none_iff]

theorem same_make (roomId : Int) (hasUserDB : Bool) :
    Same (ToyServer.Room.make roomId hasUserDB) (make roomId hasUserDB) := ⟨rfl, fun _ => rfl⟩

section
variable (h : Same a r)
include h

theorem Same.isGameOver : a.isGameOver = r.isGameOver := congrArg (·.2.2.2.1) h.flags

theorem Same.gameStarted : a.gameStarted = r.gameStarted := congrArg (·.2.2.1) h.flags

theorem Same.inactive : a.inactive = r.inactive := by
  have hempty : a.players.keys.isEmpty = r.players.keys.isEmpty := by
    rw [Bool.eq_iff_iff, List.isEmpty_iff, List.isEmpty_iff, h.keys_nil]
  have hstop : a.isStopping = r.isStopping := congrArg (·.2.2.2.2) h.flags
  simp only [ToyServer.Room.inactive, Room.inactive, h.gameStarted, h.isGameOver, hstop, hempty]

theorem Same.askStart : a.askStart = r.askStart.filterMap r.outline := by
  unfold ToyServer.Room.askStart Room.askStart
  rw [h.gameStarted]
  split <;> rfl

theorem Same.startGame (data : DataManager) (handle : Nat) :
    Same (a.executeStartGame handle) (r.executeStartGame data) := by
  unfold ToyServer.Room.executeStartGame Room.executeStartGame
  rw [h.gameStarted]
  split
  · exact h
  · dsimp only
    have hflags : (a.roomId, a.hasUserDB, true, a.isGameOver, a.isStopping) =
        (r.roomId, r.hasUserDB, true, r.isGameOver, r.isStopping) :=
      congrArg (fun f => (f.1, f.2.1, true, f.2.2.2)) h.flags
    split <;> exact ⟨hflags, h.players⟩

theorem Same.reset (data : DataManager) : Same a.executeReset (r.executeReset data) :=
  ⟨congrArg (fun f => (f.1, f.2.1, false, false, false)) h.flags, h.players⟩

theorem Same.gameOver (isWin : Bool) :
    Same a.executeHandleGameOver (r.executeHandleGameOver isWin) := by
  unfold ToyServer.Room.executeHandleGameOver Room.executeHandleGameOver
  rw [h.isGameOver]
  split
  · exact h
  · exact ⟨congrArg (fun f => (f.1, f.2.1, f.2.2.1, true, f.2.2.2.2)) h.flags, h.players⟩

theorem Same.clear : Same a.internalClear r.internalClear := ⟨h.flags, fun _ => rfl⟩

theorem Same.enter (ref : Nat) : Same (a.addPlayer (r.outlined ref))
    { r with players := r.players.insert (r.heap ref).sessionId ref } := by
  refine ⟨h.flags, fun sid => ?_⟩
  show (a.players.insert (r.heap ref).sessionId _).lookup sid = _
  rw [Table.lookup_insert_ite, Table.lookup_insert_ite, h.players]
  split <;> rfl

theorem Same.left (sid ref : Nat) :
    Same (a.removePlayer sid (r.outlined ref)) (r.left sid ref) := by
  have hgone : Same (a.removePlayer sid (r.outlined ref))
      { r with players := r.players.erase sid } := by
    refine ⟨h.flags, fun sid' => ?_⟩
    show (a.players.erase sid).lookup sid' = _
    rw [Table.lookup_erase_ite, Table.lookup_erase_ite, h.players]
    split <;> rfl
  exact hgone.keep rfl rfl (SameIds.setPlayer rfl rfl)

end

/-- What a task comes to in the two models: the room, the tasks posted and what is asked of the
database. -/
def Agree (r : Room) (x : ToyServer.Room × RoomEffects) (y : Room × Effects) : Prop :=
  Same x.1 y.1 ∧ x.2.posted = y.2.posted.filterMap r.outline ∧ x.2.load = y.2.load.map r.outlined

section
variable (lm : Libm) (data : DataManager) (ch : TickChoice)

theorem agree_enter (h : Same a r) (ref : Nat) :
    r.Agree (a.executeEnter (r.outlined ref)) (r.execute lm data ch (.enter ref)) := by
  have hin := (h.enter ref).reach (reach_enter data r ref)
  have hdb : a.hasUserDB = r.hasUserDB := congrArg (·.2.1) h.flags
  unfold ToyServer.Room.executeEnter
  rw [hdb]
  split
  · next hyes =>
    refine ⟨hin, ?_⟩
    simp [execute, executeEnter, hyes, modPlayer, setPlayer]
  · next hno =>
    have hout : (r.executeEnter data ref).2 = (none, r.askStart) := by
      simp only [executeEnter, modPlayer, setPlayer, hno]
      rfl
    refine ⟨⟨hin.flags, hin.players⟩, ?_, ?_⟩
    · exact h.askStart.trans (congrArg (·.2.filterMap r.outline) hout.symm)
    · exact congrArg (·.1.map r.outlined) hout.symm

theorem agree_skillsLoaded (h : Same a r) (ref : Nat) (skills : List (Int × Int)) :
    r.Agree (a.executeSkillsLoaded (r.outlined ref))
      (r.execute lm data ch (.skillsLoaded ref skills)) := by
  have hin := h.reach (reach_skillsLoaded data r ref skills)
  have hiff : a.players.lookup (r.outlined ref).sessionId = some (r.outlined ref) ↔
      r.players.lookup (r.heap ref).sessionId = some ref := by
    rw [h.players, Option.map_eq_some_iff]
    refine ⟨fun ⟨x, hx, heq⟩ => ?_, fun hx => ⟨ref, hx, rfl⟩⟩
    cases (congrArg ToyServer.Player.id heq : x = ref)
    exact hx
  unfold ToyServer.Room.executeSkillsLoaded
  simp only [hiff]
  split
  · next hyes =>
    refine ⟨⟨hin.flags, hin.players⟩, ?_, rfl⟩
    simp only [execute, executeSkillsLoaded, hyes, if_true]
    exact h.askStart
  · next hno => exact ⟨hin, by simp [execute, executeSkillsLoaded, hno, RoomEffects.none], rfl⟩

theorem agree_update (h : Same a r) (ht : r.Tidy) {c : RoomChoice}
    (hc : c.gameOvers = List.replicate (r.executeUpdate lm data ch).2 false) :
    r.Agree (a.update c) (r.execute lm data ch .update) := by
  unfold ToyServer.Room.update ToyServer.Room.executeUpdate
  rw [h.inactive]
  cases hact : r.inactive with
  | true =>
    have hsame : Same { a with isUpdating := false } r := ⟨h.flags, h.players⟩
    simpa [Agree, execute, executeUpdate, hact, RoomEffects.none] using hsame
  | false =>
    have htick : Same a (r.prepared data ch) := h.keep rfl rfl (SameIds.refl r)
    have hdone := htick.reach (reach_tick lm data ch ht hact)
    refine ⟨⟨hdone.flags, hdone.players⟩, ?_, rfl⟩
    show c.gameOvers.map RoomTask.handleGameOver =
      (List.replicate _ (.handleGameOver false)).filterMap r.outline
    rw [hc, List.map_replicate, List.filterMap_replicate, outline]

theorem agree_leave (h : Same a r) (sid : Nat) :
    r.Agree (a.executeLeave sid) (r.execute lm data ch (.leave sid)) := by
  show r.Agree _ (r.executeLeave data sid, ⟨none, []⟩)
  unfold ToyServer.Room.executeLeave executeLeave
  rw [h.players]
  cases r.players.lookup sid with
  | none => exact ⟨h, rfl, rfl⟩
  | some ref =>
    have hleft := h.left sid ref
    have hroom : (a.removePlayer sid (r.outlined ref)).roomId = r.roomId := congrArg (·.1) h.flags
    refine ⟨?_, rfl, rfl⟩
    show Same (if (a.removePlayer sid (r.outlined ref)).players.keys = [] then _ else _)
      (if (r.left sid ref).players.keys = [] then
        if r.roomId ≠ 1 then (r.left sid ref).internalClear.executeReset data
        else (r.left sid ref).executeReset data
      else r.left sid ref)
    simp only [hleft.keys_nil, ToyServer.Room.vacate, hroom]
    split
    · split
      · exact hleft.clear.reset data
      · exact hleft.reset data
    · exact hleft

theorem agree_ready (h : Same a r) (sid handle : Nat) :
    Same (a.executeOnPlayerReady sid handle) (r.executeOnPlayerReady data ch sid) := by
  unfold ToyServer.Room.executeOnPlayerReady
  cases hl : r.players.lookup sid with
  | none =>
    rw [ready_of_none data ch hl, h.players, hl]
    exact h
  | some ref =>
    rw [ready_of_some data ch hl, h.players, hl]
    have hready : Same a (r.modPlayer ref fun p => { p with isReady := true }) :=
      h.keep rfl rfl (SameIds.setPlayer rfl rfl)
    have hstart := hready.startGame data handle
    exact ⟨hstart.flags, hstart.players⟩

end

/-- **A task does the same in both models**, if a tick of one finds the game over as often as the
tick of the other does. -/
theorem same_execute (lm : Libm) (data : DataManager) (ch : TickChoice) (c : RoomChoice)
    (h : Same a r) (ht : r.Tidy) (task : Task)
    (hc : c.gameOvers = List.replicate (r.executeUpdate lm data ch).2 false) :
    r.Agree (carryOut a c (r.outline task)) (r.execute lm data ch task) := by
  have hplain : ∀ {task : Task}, task.plain = true →
      r.Agree (a, .none) (r.execute lm data ch task) := by
    intro task hp
    obtain ⟨hreach, heff⟩ := reach_plain lm data ch r hp
    rw [Agree, heff]
    exact ⟨h.reach hreach, rfl, rfl⟩
  cases task with
  | enter ref => exact agree_enter lm data ch h ref
  | skillsLoaded ref skills => exact agree_skillsLoaded lm data ch h ref skills
  | startGame => exact ⟨h.startGame data c.handle, rfl, rfl⟩
  | update => exact agree_update lm data ch h ht hc
  | handleGameOver isWin => exact ⟨h.gameOver isWin, rfl, rfl⟩
  | leave sid => exact agree_leave lm data ch h sid
  | stop => exact ⟨h.clear, rfl, rfl⟩
  | reset => exact ⟨h.reset data, rfl, rfl⟩
  | playerReady sid => exact ⟨agree_ready data ch h sid c.handle, rfl, rfl⟩
  | selectLevelUp ref i => exact ⟨h.reach (reach_selectLevelUp data r ref i), rfl, rfl⟩
  | addExpToAll exp => exact ⟨h.reach (reach_addExpToAll lm data ch r exp), rfl, rfl⟩
  | _ => exact hplain rfl

end ToyServer.SimpleGame.Room
