import ToyServer.Game.GameServer

/-!
# What the steps of the game server do to rooms and messages

Who is in a room and which tasks wait there, after a task is posted, a room is made or a strand
runs; which messages are in the dispatcher's queue after one is taken or pushed.  Two facts hold on
every run:

* what every room has when it is made and every task keeps, every room has (`everyRoom_step`);
* a session whose disconnect is on its way is not connected (`Sound`).
-/

namespace ToyServer

open Runs

variable {x : SessionId} {p : Player} {t : RoomTask} {thread : ThreadId} {m : GameMessage}

/-! ## What a task does to the players -/

namespace Room

variable {r : Room} {ch : RoomChoice} {task : RoomTask}

theorem vacate_lookup {x : Nat} {q : Player} (h : r.vacate.players.lookup x = some q) :
    r.players.lookup x = some q := by
  unfold vacate at h
  split at h
  · cases h
  · exact h

theorem removePlayer_lookup {sessionId x : Nat} {q : Player}
    (h : (r.removePlayer sessionId p).players.lookup x = some q) :
    x ≠ sessionId ∧ r.players.lookup x = some q :=
  Table.of_lookup_erase h

theorem execute_lookup {x : Nat} {q : Player}
    (h : (r.execute ch task).1.players.lookup x = some q) :
    r.players.lookup x = some q ∨ task = .enter q ∧ q.sessionId = x := by
  have hadd : ∀ p : Player, (r.players.insert p.sessionId p).lookup x = some q →
      r.players.lookup x = some q ∨ RoomTask.enter p = .enter q ∧ q.sessionId = x := by
    intro p hp
    rcases Table.of_lookup_insert hp with ⟨hx, rfl⟩ | ⟨-, hold⟩
    · exact .inr ⟨rfl, hx.symm⟩
    · exact .inl hold
  have hdone := execute_done r ch task
  generalize (r.execute ch task).1 = r', (r.execute ch task).2 = fx at hdone h
  cases hdone with
  | enterLoading p _ => exact hadd p h
  | enterAtOnce p _ => exact hadd p h
  | startGame => exact .inl (by simpa using h)
  | ready _ _ _ => exact .inl (by simpa using h)
  | tick _ => exact .inl (by simpa using h)
  | leaveOthers sessionId p _ _ => exact .inl (removePlayer_lookup h).2
  | leaveEmpty sessionId p _ _ => exact .inl (removePlayer_lookup (vacate_lookup h)).2
  | stop => cases h
  | _ => exact .inl h

theorem execute_leave_lookup (r : Room) (ch : RoomChoice) (x : Nat) :
    (r.execute ch (.leave x)).1.players.lookup x = none := by
  have hdone := execute_done r ch (.leave x)
  generalize (r.execute ch (.leave x)).1 = r', (r.execute ch (.leave x)).2 = fx at hdone
  cases hr : r'.players.lookup x with
  | none => rfl
  | some q =>
    cases hdone with
    | leaveOthers _ p _ _ => exact absurd rfl (removePlayer_lookup hr).1
    | leaveEmpty _ p _ _ => exact absurd rfl (removePlayer_lookup (vacate_lookup hr)).1
    | leaveAbsent _ hnone =>
      rw [hnone] at hr
      cases hr

theorem execute_roomId : (r.execute ch task).1.roomId = r.roomId := by
  have hdone := execute_done r ch task
  generalize (r.execute ch task).1 = r', (r.execute ch task).2 = fx at hdone
  cases hdone with
  | startGame =>
    obtain ⟨_, _, _, _, he⟩ := executeStartGame_frame r ch.handle
    rw [he]
  | ready _ _ _ =>
    obtain ⟨_, _, _, _, he⟩ := executeStartGame_frame r ch.handle
    rw [he]
  | tick _ =>
    obtain ⟨_, _, he⟩ := update_frame r ch
    rw [he]
  | leaveEmpty sessionId p _ _ =>
    unfold vacate
    split <;> rfl
  | _ => rfl

theorem posted_cases (h : t ∈ (r.execute ch task).2.posted) :
    t = .startGame ∨ ∃ isWin, t = .handleGameOver isWin := by
  have hask : t ∈ r.askStart → t = .startGame := by
    unfold askStart
    split <;> simp
  have hdone := execute_done r ch task
  generalize (r.execute ch task).1 = r', (r.execute ch task).2 = fx at hdone h
  cases hdone with
  | enterAtOnce _ _ => exact .inl (hask h)
  | appear _ _ => exact .inl (hask h)
  | tick _ =>
    obtain ⟨isWin, _, hw⟩ := List.mem_map.mp h
    exact .inr ⟨isWin, hw.symm⟩
  | _ => cases h

/-- `SetRoomId` is called by `Enter` and by the `Leave` of a player who is there. -/
inductive Moves (r : Room) : RoomTask → Option (Player × Int) → Prop
  | enter (p : Player) : Moves r (.enter p) (some (p, r.roomId))
  | leave (x : Nat) (p : Player) : r.players.lookup x = some p → Moves r (.leave x) (some (p, 0))
  | other (task : RoomTask) : (∀ p, task ≠ .enter p) → Moves r task none

theorem execute_moves (r : Room) (ch : RoomChoice) (task : RoomTask) :
    Moves r task (r.execute ch task).2.moved := by
  have hdone := execute_done r ch task
  generalize (r.execute ch task).1 = r', (r.execute ch task).2 = fx at hdone
  cases hdone with
  | enterLoading p _ => exact .enter p
  | enterAtOnce p _ => exact .enter p
  | leaveOthers x p hp _ => exact .leave x p hp
  | leaveEmpty x p hp _ => exact .leave x p hp
  | _ => exact .other _ (by simp)

end Room

namespace GameServer

variable {s : GameServer}

/-! ## The rooms after a change -/

variable {j : Int} {m' : GameMessage}

theorem inRoom_setRoom {k : Int} {st : RoomStrand} :
    (s.setRoom k st).InRoom j x p ↔ (j = k ∧ st.room.players.lookup x = some p) ∨
    (j ≠ k ∧ s.InRoom j x p) := by
  unfold InRoom setRoom
  dsimp only
  rw [Table.lookup_insert_ite]
  split
  · next h => simp [h]
  · next h => simp [h]

theorem waits_setRoom {k : Int} {st : RoomStrand} :
    (s.setRoom k st).Waits j t ↔ (j = k ∧ t ∈ st.queue) ∨ (j ≠ k ∧ s.Waits j t) := by
  unfold Waits setRoom
  dsimp only
  rw [Table.lookup_insert_ite]
  split
  · next h => simp [h]
  · next h => simp [h]

theorem postTask_eq (s : GameServer) (k : Int) (task : RoomTask) :
    (s.rooms.lookup k = none ∧ s.postTask k task = s) ∨
      ∃ st, s.rooms.lookup k = some st ∧ s.postTask k task = s.setRoom k (st.post task) := by
  unfold postTask
  split
  · next h => exact .inl ⟨h, rfl⟩
  · next st h => exact .inr ⟨st, h, rfl⟩

theorem inRoom_postTask {k : Int} {task : RoomTask} : (s.postTask k task).InRoom j x p ↔
    s.InRoom j x p := by
  rcases postTask_eq s k task with ⟨_, he⟩ | ⟨st, hst, he⟩
  · rw [he]
  · rw [he, inRoom_setRoom]
    constructor
    · rintro (⟨rfl, hp⟩ | ⟨_, h⟩)
      · exact ⟨st, hst, hp⟩
      · exact h
    · intro h
      by_cases hj : j = k
      · obtain ⟨st', hst', hp⟩ := h
        subst hj
        rw [hst] at hst'
        cases hst'
        exact .inl ⟨rfl, hp⟩
      · exact .inr ⟨hj, h⟩

theorem waits_postTask {k : Int} {task : RoomTask} :
    (s.postTask k task).Waits j t ↔ s.Waits j t ∨
    (j = k ∧ t = task ∧ (s.rooms.lookup k).isSome) := by
  rcases postTask_eq s k task with ⟨hnone, he⟩ | ⟨st, hst, he⟩
  · rw [he, hnone]
    simp
  · rw [he, waits_setRoom, hst]
    constructor
    · rintro (⟨rfl, ht⟩ | ⟨_, h⟩)
      · rcases mem_concat.mp ht with hold | hnew
        · exact .inl ⟨st, hst, hold⟩
        · exact .inr ⟨rfl, hnew, rfl⟩
      · exact .inl h
    · rintro (h | ⟨rfl, rfl, _⟩)
      · by_cases hj : j = k
        · obtain ⟨st', hst', ht⟩ := h
          subst hj
          rw [hst] at hst'
          cases hst'
          exact .inl ⟨rfl, List.mem_append_left _ ht⟩
        · exact .inr ⟨hj, h⟩
      · exact .inl ⟨rfl, List.mem_append_right _ List.mem_cons_self⟩

theorem inRoom_leaveRegistered {y : SessionId} : (s.leaveRegistered x).InRoom j y p ↔
    s.InRoom j y p := by
  unfold leaveRegistered
  split
  · exact Iff.rfl
  · next p₀ _ =>
    have hposted : (s.postTask (s.roomOf p₀) (.leave x)).InRoom j y p ↔ s.InRoom j y p :=
      inRoom_postTask
    exact hposted

theorem waits_leaveRegistered :
    (s.leaveRegistered x).Waits j t ↔
      s.Waits j t ∨ t = .leave x ∧ (∃ p, s.registry.lookup x = some p ∧ s.roomOf p = j) ∧
      (s.rooms.lookup j).isSome := by
  unfold leaveRegistered getPlayer
  split
  · next hnone =>
    constructor
    · exact .inl
    · rintro (hold | ⟨_, ⟨p, hp, _⟩, _⟩)
      · exact hold
      · rw [hnone] at hp
        cases hp
  · next p₀ hp₀ =>
    have hposted : (s.postTask (s.roomOf p₀) (.leave x)).Waits j t ↔
        s.Waits j t ∨ (j = s.roomOf p₀ ∧ t = .leave x ∧ (s.rooms.lookup (s.roomOf p₀)).isSome) :=
          waits_postTask
    refine hposted.trans (or_congr_right ⟨?_, ?_⟩)
    · rintro ⟨hj, ht, hroom⟩
      exact ⟨ht, ⟨p₀, hp₀, hj.symm⟩, hj ▸ hroom⟩
    · rintro ⟨ht, ⟨p, hp, hj⟩, hroom⟩
      rw [hp₀] at hp
      cases hp
      exact ⟨hj.symm, ht, hj ▸ hroom⟩

theorem queued_rest {rest : List (ThreadId × GameMessage)}
    (hd : ProducerQueue.dequeue thread s.queue = some (m, rest)) (h : s.Queued m') :
    m' = m ∨ { s with queue := rest }.Queued m' := by
  obtain ⟨l₁, l₂, hq, hrest, -⟩ := ProducerQueue.dequeue_eq_some hd
  obtain ⟨th, hm⟩ := h
  rw [hq, List.mem_append, List.mem_cons] at hm
  rcases hm with h1 | h1 | h2
  · exact .inr ⟨th, by rw [hrest]; exact List.mem_append_left _ h1⟩
  · exact .inl (by injection h1)
  · exact .inr ⟨th, by rw [hrest]; exact List.mem_append_right _ h2⟩

theorem queued_of_rest {rest : List (ThreadId × GameMessage)}
    (hd : ProducerQueue.dequeue thread s.queue = some (m, rest))
    (h : { s with queue := rest }.Queued m') : s.Queued m' := by
  obtain ⟨th, hm⟩ := h
  exact ⟨th, (ProducerQueue.dequeue_mem hd).2 _ hm⟩

theorem queued_push : { s with queue := s.queue ++ [(thread, m)] }.Queued m' ↔
    s.Queued m' ∨ m' = m := by
  constructor
  · rintro ⟨th, h⟩
    rcases mem_concat.mp h with hold | hnew
    · exact .inl ⟨th, hold⟩
    · exact .inr (by injection hnew)
  · rintro (⟨th, h⟩ | rfl)
    · exact ⟨th, List.mem_append_left _ h⟩
    · exact ⟨thread, List.mem_append_right _ List.mem_cons_self⟩

theorem queued_publish : (s.publish m).Queued m' ↔ s.Queued m' ∨ m' = m := queued_push

theorem close_frame (s : GameServer) (thread : ThreadId) (x : SessionId) : ∃ closed queue,
    s.close thread x = { s with closed := closed, queue := queue } ∧
    ∀ y ∈ s.closed, y ∈ closed := by
  unfold close
  split
  · exact ⟨s.closed, s.queue, rfl, fun _ h => h⟩
  · exact ⟨_, _, rfl, fun _ h => List.mem_cons_of_mem _ h⟩

def Minor (task : RoomTask) : Prop := (∀ p, task ≠ .enter p) ∧ ∀ x, task ≠ .leave x

/-! ## The strand of a room runs a task -/

/-- The server after the strand of room `k` ran the first task of its queue. -/
def ranTask (s : GameServer) (k : Int) (st : RoomStrand) (ch : RoomChoice) (task : RoomTask)
    (rest : List RoomTask) : GameServer :=
  (s.setRoom k (st.perform ch task rest).1).move (st.perform ch task rest).2.moved

theorem move_frame (s : GameServer) (moved : Option (Player × Int)) :
    ∃ roomOf, s.move moved = { s with roomOf := roomOf } := by
  cases moved with
  | none => exact ⟨s.roomOf, rfl⟩
  | some _ => exact ⟨_, rfl⟩

section RanTask

variable {k : Int} {st : RoomStrand} {ch : RoomChoice} {task : RoomTask} {rest : List RoomTask}

theorem inRoom_ranTask :
    (s.ranTask k st ch task rest).InRoom j x p ↔
    (s.setRoom k (st.perform ch task rest).1).InRoom j x p := by
  obtain ⟨roomOf, he⟩ :=
    move_frame (s.setRoom k (st.perform ch task rest).1) (st.perform ch task rest).2.moved
  unfold ranTask
  rw [he]
  exact Iff.rfl

theorem waits_ranTask :
    (s.ranTask k st ch task rest).Waits j t ↔
    (s.setRoom k (st.perform ch task rest).1).Waits j t := by
  obtain ⟨roomOf, he⟩ :=
    move_frame (s.setRoom k (st.perform ch task rest).1) (st.perform ch task rest).2.moved
  unfold ranTask
  rw [he]
  exact Iff.rfl

variable (s k st ch task rest) in
theorem ranTask_frame : ∃ roomOf, s.ranTask k st ch task rest =
    { s with rooms := s.rooms.insert k (st.perform ch task rest).1, roomOf := roomOf } := by
  obtain ⟨roomOf, he⟩ :=
    move_frame (s.setRoom k (st.perform ch task rest).1) (st.perform ch task rest).2.moved
  exact ⟨roomOf, he⟩

theorem queued_ranTask : (s.ranTask k st ch task rest).Queued m ↔ s.Queued m := by
  obtain ⟨roomOf, he⟩ := ranTask_frame s k st ch task rest
  rw [he]
  exact Iff.rfl

variable (hst : s.rooms.lookup k = some st) (hq : st.queue = task :: rest)

include hst in
theorem ranTask_inRoom (h : (s.ranTask k st ch task rest).InRoom j x p) :
    s.InRoom j x p ∨ j = k ∧ task = .enter p ∧ p.sessionId = x := by
  rcases inRoom_setRoom.mp (inRoom_ranTask.mp h) with ⟨hj, hp⟩ | ⟨_, hp⟩
  · subst hj
    exact (Room.execute_lookup hp).imp (fun hold => ⟨st, hst, hold⟩) fun hnew => ⟨rfl, hnew⟩
  · exact .inl hp

theorem ranTask_leave_gone : ¬ (s.ranTask k st ch (.leave x) rest).InRoom k x p := by
  intro h
  rcases inRoom_setRoom.mp (inRoom_ranTask.mp h) with ⟨_, hp⟩ | ⟨hne, _⟩
  · change (st.room.execute ch (.leave x)).1.players.lookup x = some p at hp
    rw [Room.execute_leave_lookup] at hp
    cases hp
  · exact hne rfl

include hst hq

theorem waits_head : s.Waits k task := ⟨st, hst, by rw [hq]; exact List.mem_cons_self⟩

theorem ranTask_waits (ht : ¬ Minor t) (h : (s.ranTask k st ch task rest).Waits j t) :
    s.Waits j t := by
  rcases waits_setRoom.mp (waits_ranTask.mp h) with ⟨hj, hmem⟩ | ⟨_, hw⟩
  · subst hj
    rcases List.mem_append.mp hmem with hrest | hposted
    · exact ⟨st, hst, by rw [hq]; exact List.mem_cons_of_mem _ hrest⟩
    · rcases Room.posted_cases hposted with rfl | ⟨isWin, rfl⟩
      · exact absurd ⟨by simp, by simp⟩ ht
      · exact absurd ⟨by simp, by simp⟩ ht
  · exact hw

theorem ranTask_enter (h : (s.ranTask k st ch task rest).Waits j (.enter p)) :
    s.Waits j (.enter p) :=
  ranTask_waits hst hq (fun hm => hm.1 p rfl) h

theorem ranTask_leave (h : (s.ranTask k st ch task rest).Waits j (.leave x)) :
    s.Waits j (.leave x) :=
  ranTask_waits hst hq (fun hm => hm.2 x rfl) h

theorem ranTask_stays (ch : RoomChoice) (h : s.Waits j t) :
    j = k ∧ t = task ∨ (s.ranTask k st ch task rest).Waits j t := by
  by_cases hj : j = k
  · subst hj
    obtain ⟨st₀, hst₀, ht⟩ := h
    rw [hst] at hst₀
    cases hst₀
    rw [hq, List.mem_cons] at ht
    rcases ht with htask | hrest
    · exact .inl ⟨rfl, htask⟩
    · exact .inr (waits_ranTask.mpr (waits_setRoom.mpr (.inl ⟨rfl, List.mem_append_left _ hrest⟩)))
  · exact .inr (waits_ranTask.mpr (waits_setRoom.mpr (.inr ⟨hj, h⟩)))

end RanTask

end GameServer

/-- The session that a message takes away. -/
def GameMessage.parts : GameMessage → Option SessionId
  | .networkDisconnect x => some x
  | .sessionDisconnected x => some x
  | .packet _ _ | .loginRequest _ | .roomJoined _ _ | .roomLeft _ => none

namespace GameServer

variable {s s' : GameServer}

/-! ## What holds of every room -/

theorem lookup_init {hasUserDB : Bool} {handle : Nat} {k : Int} {st : RoomStrand}
    (h : (init hasUserDB handle).rooms.lookup k = some st) :
    k = 1 ∧ st = RoomStrand.make 1 hasUserDB handle := by
  have hmem : (⟨k, st⟩ : Sigma fun _ : Int => RoomStrand) ∈
      [⟨1, RoomStrand.make 1 hasUserDB handle⟩] :=
    AList.mem_lookup_iff.mp h
  cases List.mem_singleton.mp hmem
  exact ⟨rfl, rfl⟩

def EveryRoom (P : Int → Room → Prop) (s : GameServer) : Prop :=
  ∀ k st, s.rooms.lookup k = some st → P k st.room

section EveryRoom

variable {P : Int → Room → Prop}

theorem everyRoom_setRoom {k : Int} {st : RoomStrand} (h : EveryRoom P s) (hst : P k st.room) :
    EveryRoom P (s.setRoom k st) := by
  intro j st' hj
  rcases Table.of_lookup_insert hj with ⟨rfl, rfl⟩ | ⟨-, hold⟩
  · exact hst
  · exact h j st' hold

theorem everyRoom_postTask {k : Int} {task : RoomTask} (h : EveryRoom P s) :
    EveryRoom P (s.postTask k task) := by
  rcases postTask_eq s k task with ⟨_, he⟩ | ⟨st, hst, he⟩
  · rw [he]
    exact h
  · rw [he]
    exact everyRoom_setRoom h (h k st hst)

theorem everyRoom_leaveRegistered (h : EveryRoom P s) : EveryRoom P (s.leaveRegistered x) := by
  unfold leaveRegistered
  split
  · exact h
  · next p _ =>
    have hposted : EveryRoom P (s.postTask (s.roomOf p) (.leave x)) := everyRoom_postTask h
    exact hposted

variable (hmake : ∀ k hasUserDB handle, P k (RoomStrand.make k hasUserDB handle).room)
  (htick : ∀ k r, P k r → P k { r with isUpdating := true })
  (hexec : ∀ k r ch task, P k r → P k (Room.execute r ch task).1)

include hmake in
theorem everyRoom_init (hasUserDB : Bool) (handle : Nat) : EveryRoom P (init hasUserDB handle) := by
  intro k st hst
  obtain ⟨rfl, rfl⟩ := lookup_init hst
  exact hmake 1 hasUserDB handle

include hmake in
theorem everyRoom_handleMessage {handle : Nat} (h : EveryRoom P s) :
    EveryRoom P (s.handleMessage handle m) := by
  cases m with
  | packet x packet =>
    show EveryRoom P (if x ∈ s.closed then s else s.handlePacket x handle packet)
    split
    · exact h
    · have hdone := handled_handlePacket s x handle packet
      generalize s.handlePacket x handle packet = s₁ at hdone
      cases hdone with
      | joinRoom k _ _ =>
        have hnext : EveryRoom P { s with nextPlayer := s.nextPlayer + 1 } := h
        have hposted :
            EveryRoom P
            ({ s with nextPlayer := s.nextPlayer + 1 }.postTask k (.enter ⟨s.nextPlayer, x⟩)) :=
          everyRoom_postTask hnext
        exact hposted
      | createRoom handle => exact everyRoom_setRoom h (hmake s.nextRoomId s.hasUserDB handle)
      | gameReady p _ => exact everyRoom_postTask h
      | ping =>
        obtain ⟨closed, queue, he, -⟩ := close_frame s dispatcherThread x
        rw [he]
        exact h
      | _ => exact h
  | roomLeft x =>
    have hleft : EveryRoom P (s.leaveRegistered x) := everyRoom_leaveRegistered h
    exact hleft
  | sessionDisconnected x =>
    show EveryRoom P (s.handleSessionDisconnected x)
    rw [handleSessionDisconnected_eq]
    exact everyRoom_leaveRegistered h
  | _ => exact h

include hmake htick hexec

/-- **What every room has when it is made and every task keeps, every room has.** -/
theorem everyRoom_step {a : GameAction} (h : EveryRoom P s) (hs : s.step a = some s') :
    EveryRoom P s' := by
  cases stepped_of_step hs with
  | arrived thread x packet _ => exact h
  | closed thread x _ =>
    obtain ⟨closed, queue, he, -⟩ := close_frame s thread x
    rw [he]
    exact h
  | processed thread handle m rest hd =>
    have htaken : EveryRoom P { s with queue := rest } := h
    exact everyRoom_handleMessage hmake htaken
  | loginDone i x success _ =>
    unfold loginCallback
    split
    · exact h
    · exact h
  | ticked k st hst =>
    refine everyRoom_setRoom h ?_
    unfold RoomStrand.onTimer
    split
    · exact h k st hst
    · exact htick k st.room (h k st hst)
  | skillsLoaded k i st p hst _ => exact everyRoom_setRoom h (h k st hst)
  | ran k ch st task rest hst _ =>
    have hran : EveryRoom P (s.setRoom k (st.perform ch task rest).1) :=
      everyRoom_setRoom h (hexec k st.room ch task (h k st hst))
    obtain ⟨roomOf, he⟩ :=
      move_frame (s.setRoom k (st.perform ch task rest).1) (st.perform ch task rest).2.moved
    rw [he]
    exact hran

end EveryRoom

def RoomIds : GameServer → Prop := EveryRoom fun k r => r.roomId = k

theorem RoomIds.step {a : GameAction} (h : RoomIds s) (hs : s.step a = some s') : RoomIds s' :=
  everyRoom_step (fun _ _ _ => rfl) (fun _ _ hr => hr)
    (fun _ _ _ _ hr => Room.execute_roomId.trans hr) h hs

/-! ## Sessions that are parting -/

/-- A session whose disconnect is on its way or has been handled is not connected. -/
structure Sound (s : GameServer) : Prop where
  departed : ∀ x ∈ s.departed, x ∈ s.closed
  parting : ∀ m x, s.Queued m → m.parts = some x → x ∈ s.closed

namespace Sound

theorem frame (h : Sound s) (hdep : s'.departed = s.departed) (hclosed : s'.closed = s.closed)
    (hqueue : ∀ m, s'.Queued m → s.Queued m ∨ ∀ x, m.parts = some x → x ∈ s.closed) : Sound s' where
  departed := fun x hx => by
    rw [hclosed]
    exact h.departed x (hdep ▸ hx)
  parting := fun m x hm hp => by
    rw [hclosed]
    rcases hqueue m hm with hold | hnew
    · exact h.parting m x hold hp
    · exact hnew x hp

theorem push (h : Sound s) (hm : ∀ x, m.parts = some x → x ∈ s.closed) :
    Sound { s with queue := s.queue ++ [(thread, m)] } :=
  h.frame rfl rfl fun m' hm' => by
    rcases queued_push.mp hm' with hold | rfl
    · exact .inl hold
    · exact .inr hm

theorem close (h : Sound s) : Sound (s.close thread x) := by
  unfold GameServer.close
  split
  · exact h
  · have hclosed : Sound { s with closed := x :: s.closed } :=
      ⟨fun y hy => List.mem_cons_of_mem _ (h.departed y hy),
        fun m y hm hp => List.mem_cons_of_mem _ (h.parting m y hm hp)⟩
    refine hclosed.push fun y hy => ?_
    cases hy
    exact List.mem_cons_self

theorem leaveRegistered (h : Sound s) : Sound (s.leaveRegistered x) := by
  obtain ⟨rooms, registry, he⟩ := leaveRegistered_frame s x
  rw [he]
  exact h.frame rfl rfl fun _ hm => Or.inl hm

theorem handlePacket {handle : Nat} {packet : ClientPacket} (h : Sound s) :
    Sound (s.handlePacket x handle packet) := by
  have hdone := handled_handlePacket s x handle packet
  generalize s.handlePacket x handle packet = s₁ at hdone
  cases hdone with
  | unchanged _ => exact h
  | login => exact h.push (by simp [GameMessage.parts])
  | joinRoom k _ _ =>
    have hposted :
        Sound ({ s with nextPlayer := s.nextPlayer + 1 }.postTask k (.enter ⟨s.nextPlayer, x⟩)) :=
      h.frame rfl rfl fun _ hm => Or.inl hm
    exact hposted.push (by simp [GameMessage.parts])
  | leaveRoom => exact h.push (by simp [GameMessage.parts])
  | ping => exact h.close
  | _ => exact h.frame rfl rfl fun _ hm => Or.inl hm

theorem take {rest : List (ThreadId × GameMessage)} (h : Sound s)
    (hd : ProducerQueue.dequeue thread s.queue = some (m, rest)) : Sound { s with queue := rest } :=
  h.frame rfl rfl fun _ hm => Or.inl (queued_of_rest hd hm)

theorem step {a : GameAction} (h : Sound s) (hs : s.step a = some s') : Sound s' := by
  cases stepped_of_step hs with
  | arrived thread x packet _ => exact h.push (by simp [GameMessage.parts])
  | closed thread x _ => exact h.close
  | processed thread handle m rest hd =>
    have htaken := h.take hd
    have hm : ∀ x, m.parts = some x → x ∈ s.closed := fun x hx =>
      h.parting m x ⟨thread, (ProducerQueue.dequeue_mem hd).1⟩ hx
    cases m with
    | packet x packet =>
      show Sound (if x ∈ s.closed then _ else _)
      split
      · exact htaken
      · exact htaken.handlePacket
    | networkDisconnect x => exact htaken.push hm
    | loginRequest x => exact htaken.frame rfl rfl fun _ hm => Or.inl hm
    | roomJoined x p => exact htaken.frame rfl rfl fun _ hm => Or.inl hm
    | roomLeft x =>
      have hleft : Sound (GameServer.leaveRegistered { s with queue := rest } x) :=
        htaken.leaveRegistered
      exact hleft.frame rfl rfl fun _ hm => Or.inl hm
    | sessionDisconnected x =>
      show Sound (handleSessionDisconnected { s with queue := rest } x)
      rw [handleSessionDisconnected_eq]
      refine leaveRegistered ⟨fun y hy => ?_, htaken.parting⟩
      rcases List.mem_cons.mp hy with rfl | hy
      · exact hm y rfl
      · exact h.departed y hy
  | loginDone i x success _ =>
    unfold loginCallback
    split
    · exact h.frame rfl rfl fun _ hm => Or.inl hm
    · exact h.frame rfl rfl fun _ hm => Or.inl hm
  | ticked k st hst => exact h.frame rfl rfl fun _ hm => Or.inl hm
  | skillsLoaded k i st p hst _ => exact h.frame rfl rfl fun _ hm => Or.inl hm
  | ran k ch st task rest hst _ =>
    obtain ⟨roomOf, he⟩ := ranTask_frame s k st ch task rest
    show Sound (s.ranTask k st ch task rest)
    rw [he]
    exact h.frame rfl rfl fun _ hm => Or.inl hm

end Sound

theorem sound_init (hasUserDB : Bool) (handle : Nat) : Sound (init hasUserDB handle) where
  departed := fun _ hx => absurd hx List.not_mem_nil
  parting := fun _ _ hm _ => by
    obtain ⟨_, hm⟩ := hm
    cases hm

end GameServer

end ToyServer
