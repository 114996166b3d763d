import ToyServer.Game.Whereabouts

/-!
# A session is in one room, with one `Player`

The registry is what keeps a session from joining twice, but it lags behind: a player is registered
when the `RoomJoined` lambda runs, and not registered any more before the `Leave` task has run.  And
a `RoomLeft` that is handled before the room has run `Enter` finds a player that is in no room yet,
posts no `Leave`, and drops the player from the registry.

So a session can join again too early.  If its `C_JoinRoom` comes after the `RoomJoined` and the
`Leave` of before, and `RoomLeft` after `Enter` (`Paced`), each session is in at most one room, and
all that names a player of the session names the same one: `one_room_per_session`.  `two_rooms`
shows the three ways to be in two.
-/

namespace ToyServer

open Runs

/-- The session that a `RoomJoined` is about. -/
def GameMessage.joins : GameMessage → Option SessionId
  | .roomJoined x _ => some x
  | .packet _ _ | .networkDisconnect _ | .loginRequest _ | .roomLeft _ | .sessionDisconnected _ =>
    none

/-- The session that an `Enter` is about. -/
def RoomTask.enters : RoomTask → Option SessionId
  | .enter p => some p.sessionId
  | .skillsLoaded _ | .startGame | .update | .handleGameOver _ | .leave _ | .stop | .reset
  | .playerReady _ => none

namespace GameServer

variable {s s' : GameServer}

/-! ## The condition -/

/-- No `RoomJoined` and no `Leave` of the session is on its way. -/
def Settled (s : GameServer) (x : SessionId) : Prop :=
  (∀ e ∈ s.queue, e.2.joins ≠ some x) ∧ ∀ e ∈ s.rooms.entries, RoomTask.leave x ∉ e.2.queue

/-- No `Enter` of the session is on its way. -/
def Entered (s : GameServer) (x : SessionId) : Prop :=
  ∀ e ∈ s.rooms.entries, ∀ t ∈ e.2.queue, t.enters ≠ some x

instance (s : GameServer) (x : SessionId) : Decidable (s.Settled x) :=
  inferInstanceAs (Decidable (_ ∧ _))

instance (s : GameServer) (x : SessionId) : Decidable (s.Entered x) :=
  inferInstanceAs (Decidable (∀ _ ∈ _, _))

def PacedPacket (s : GameServer) (x : SessionId) : ClientPacket → Prop
  | .joinRoom _ => x ∉ s.closed → s.registry.lookup x = none → s.Settled x
  | _ => True

def PacedMessage (s : GameServer) : GameMessage → Prop
  | .packet x packet => s.PacedPacket x packet
  | .roomLeft x => (s.registry.lookup x).isSome → s.Entered x
  | _ => True

/-- A session that is not registered joins when nothing of its last stay is on its way, and a
registered one leaves when it has entered. -/
def Paced (s : GameServer) : GameAction → Prop
  | .process thread _ => ∀ m ∈ s.next thread, s.PacedMessage m
  | _ => True

instance (s : GameServer) (x : SessionId) (packet : ClientPacket) :
    Decidable (s.PacedPacket x packet) :=
  match packet with
  | .joinRoom _ =>
    inferInstanceAs (Decidable (x ∉ s.closed → s.registry.lookup x = none → s.Settled x))
  | .login | .enterLobby | .leaveRoom | .createRoom | .gameReady | .ping => isTrue trivial

instance (s : GameServer) (m : GameMessage) : Decidable (s.PacedMessage m) :=
  match m with
  | .packet x packet => inferInstanceAs (Decidable (s.PacedPacket x packet))
  | .roomLeft x => inferInstanceAs (Decidable ((s.registry.lookup x).isSome → s.Entered x))
  | .networkDisconnect _ | .loginRequest _ | .roomJoined _ _ | .sessionDisconnected _ =>
    isTrue trivial

instance (s : GameServer) (a : GameAction) : Decidable (s.Paced a) :=
  match a with
  | .process thread _ => inferInstanceAs (Decidable (∀ m ∈ s.next thread, s.PacedMessage m))
  | .packet _ _ _ | .close _ _ | .loginDone _ _ | .roomTimer _ | .skillsLoaded _ _ | .runTask _ _ =>
    isTrue trivial

theorem mem_entries {k : Int} {st : RoomStrand} (h : s.rooms.lookup k = some st) :
    ⟨k, st⟩ ∈ s.rooms.entries :=
  AList.mem_lookup_iff.mp h

variable {x : SessionId} {thread : ThreadId}

theorem Settled.noLeave (h : s.Settled x) (k : Int) : ¬ s.Waits k (.leave x) := by
  rintro ⟨st, hst, ht⟩
  exact h.2 _ (mem_entries hst) ht

theorem Settled.noJoin (h : s.Settled x) (p : Player) : ¬ s.Queued (.roomJoined x p) := by
  rintro ⟨thread, hm⟩
  exact h.1 _ hm rfl

theorem Entered.noEnter (h : s.Entered x) : s.NoEnter x := by
  rintro k p hp ⟨st, hst, ht⟩
  exact h _ (mem_entries hst) _ ht (congrArg some hp)

/-! ## Steps -/

theorem Whereabouts.take (h : Whereabouts s) {m : GameMessage}
    {rest : List (ThreadId × GameMessage)}
    (hd : ProducerQueue.dequeue thread s.queue = some (m, rest))
    (hm : ∀ x p, m ≠ .roomJoined x p) : Whereabouts { s with queue := rest } := by
  refine h.frame (calm_of_rooms rfl) rfl rfl (fun _ hx => hx) fun x p =>
    ⟨queued_of_rest hd, fun hq => ?_⟩
  rcases queued_rest hd hq with he | hrest
  · exact absurd he.symm (hm x p)
  · exact hrest

theorem Whereabouts.push (h : Whereabouts s) {m : GameMessage} (hm : ∀ x p, m ≠ .roomJoined x p) :
    Whereabouts { s with queue := s.queue ++ [(thread, m)] } := by
  refine h.frame (calm_of_rooms rfl) rfl rfl (fun _ hx => hx) fun x p => ?_
  rw [queued_push]
  exact ⟨fun hq => hq.elim id fun he => absurd he.symm (hm x p), Or.inl⟩

theorem Whereabouts.close (h : Whereabouts s) : Whereabouts (s.close thread x) := by
  unfold GameServer.close
  split
  · exact h
  · have hpushed : Whereabouts { s with queue := s.queue ++ [(thread, .networkDisconnect x)] } :=
      h.push (by simp)
    exact hpushed.of_eq rfl rfl rfl rfl rfl

theorem Whereabouts.handlePacket (h : Whereabouts s) (hsound : Sound s) {handle : Nat}
    {packet : ClientPacket} (hopen : x ∉ s.closed) (hok : s.PacedPacket x packet) :
    Whereabouts (s.handlePacket x handle packet) := by
  have hdone := handled_handlePacket s x handle packet
  generalize s.handlePacket x handle packet = s₁ at hdone
  cases hdone with
  | unchanged _ => exact h
  | login => exact h.push (by simp)
  | enterLobby => exact h.of_eq rfl rfl rfl rfl rfl
  | joinRoom k _ hreg =>
    have hsettled : s.Settled x := hok hopen hreg
    exact h.enterNewPlayer (fun hd => hopen (hsound.departed x hd)) hreg hsettled.noJoin
      hsettled.noLeave
  | leaveRoom => exact h.push (by simp)
  | createRoom handle =>
    have hmade :
        Whereabouts (s.setRoom s.nextRoomId (RoomStrand.make s.nextRoomId s.hasUserDB handle)) :=
      h.frame (calm_newRoom rfl rfl) rfl rfl (fun _ hx => hx) fun _ _ => Iff.rfl
    exact hmade.of_eq rfl rfl rfl rfl rfl
  | gameReady p _ =>
    exact h.frame (calm_postTask ⟨by simp, by simp⟩) rfl rfl (fun _ hx => hx) fun _ _ => Iff.rfl
  | ping => exact h.close

theorem Whereabouts.handleMessage (h : Whereabouts s) (hsound : Sound s) {handle : Nat}
    {m : GameMessage} {rest : List (ThreadId × GameMessage)}
    (hd : ProducerQueue.dequeue thread s.queue = some (m, rest))
    (hok : s.PacedMessage m) : Whereabouts ({ s with queue := rest }.handleMessage handle m) := by
  cases m with
  | packet x packet =>
    have htaken := h.take hd (by simp)
    show Whereabouts (if x ∈ s.closed then _ else _)
    split
    · exact htaken
    · next hopen =>
      refine htaken.handlePacket (hsound.take hd) hopen ?_
      cases packet with
      | joinRoom k =>
        intro hclosed hreg
        have hsettled : s.Settled x := hok hclosed hreg
        exact ⟨fun e he => hsettled.1 e ((ProducerQueue.dequeue_mem hd).2 e he), hsettled.2⟩
      | _ => trivial
  | networkDisconnect x => exact (h.take hd (by simp)).push (by simp)
  | loginRequest x =>
    exact (h.take hd (by simp)).of_eq rfl rfl rfl rfl rfl
  | roomJoined x p => exact h.handleRoomJoined hd
  | roomLeft x =>
    have htaken := h.take hd (by simp)
    have hleft : Whereabouts (GameServer.leaveRegistered { s with queue := rest } x) := by
      cases hreg : s.registry.lookup x with
      | none =>
        have hsame : GameServer.leaveRegistered { s with queue := rest } x =
            { s with queue := rest } := by
          unfold GameServer.leaveRegistered getPlayer
          rw [hreg]
        rw [hsame]
        exact htaken
      | some p =>
        have hentered : s.Entered x := hok (by rw [hreg]; rfl)
        exact htaken.leaveRegistered (.inr hentered.noEnter)
    exact hleft.of_eq rfl rfl rfl rfl rfl
  | sessionDisconnected x =>
    show Whereabouts (handleSessionDisconnected { s with queue := rest } x)
    rw [handleSessionDisconnected_eq]
    have hdeparted :
        Whereabouts { leaveLobby { s with queue := rest } x with departed := x :: s.departed } :=
      (h.take hd (by simp)).frame (calm_of_rooms rfl) rfl rfl
        (fun _ hx => List.mem_cons_of_mem _ hx) fun _ _ => Iff.rfl
    exact hdeparted.leaveRegistered (.inl List.mem_cons_self)

/-- **Every step leaves a player in one place.** -/
theorem Whereabouts.step {a : GameAction} (h : Whereabouts s) (hsound : Sound s) (hids : RoomIds s)
    (hok : s.Paced a) (hs : s.step a = some s') : Whereabouts s' := by
  cases stepped_of_step hs with
  | arrived thread x packet _ => exact h.push (by simp)
  | closed thread x _ => exact h.close
  | processed thread handle m rest hd => exact h.handleMessage hsound hd (hok m (mem_next hd))
  | loginDone i x success _ =>
    unfold loginCallback
    split
    · exact h.of_eq rfl rfl rfl rfl rfl
    · exact h.of_eq rfl rfl rfl rfl rfl
  | ticked k st hst => exact h.frame (calm_onTimer hst) rfl rfl (fun _ hx => hx) fun _ _ => Iff.rfl
  | skillsLoaded k i st p hst _ =>
    exact h.frame (calm_skillsLoaded hst) rfl rfl (fun _ hx => hx) fun _ _ => Iff.rfl
  | ran k ch st task rest hst hq => exact Whereabouts.ranTask hst hq h hids

/-! ## Whole runs -/

theorem whereabouts_init (hasUserDB : Bool) (handle : Nat) :
    Whereabouts (init hasUserDB handle) := by
  have hin : ∀ k x p, ¬ (init hasUserDB handle).InRoom k x p := by
    rintro k x p ⟨st, hst, hp⟩
    obtain ⟨_, rfl⟩ := lookup_init hst
    cases hp
  have hwait : ∀ k t, ¬ (init hasUserDB handle).Waits k t := by
    rintro k t ⟨st, hst, ht⟩
    obtain ⟨_, rfl⟩ := lookup_init hst
    cases ht
  have hpresent : ∀ k x p, ¬ (init hasUserDB handle).Present k x p := fun k x p hp =>
    hp.elim (hin k x p) fun hw => hwait k _ hw.2
  exact ⟨fun k x p hp => absurd hp (hin k x p), fun k _ x p _ hp => absurd hp (hpresent k x p),
    fun k x p _ _ hp => absurd hp (hpresent k x p), fun k x p _ _ hp => absurd hp (hpresent k x p),
    fun k x p hp => absurd hp (hin k x p), fun k x p hp => absurd hp (hpresent k x p),
    fun k x hl => absurd hl (hwait k _)⟩

/-- The server has a player for the session: in a room, on its way into one, or as the one it
registers. -/
def Names (s : GameServer) (x : SessionId) (p : Player) : Prop :=
  (∃ k, s.Present k x p) ∨ s.Queued (.roomJoined x p) ∨ s.registry.lookup x = some p

/-- **One room per session** on every run in which sessions join and leave at the pace of the rooms:
a session is a key of at most one room's players, and while its player is in a room there is no
other. -/
theorem one_room_per_session (hasUserDB : Bool) (handle : Nat) (as : List GameAction)
    (t : GameServer) (hok : Meets step Paced (init hasUserDB handle) as)
    (hrun : run step (init hasUserDB handle) as = some t) :
    (∀ x k k' p p', t.InRoom k x p → t.InRoom k' x p' → k = k') ∧
      ∀ x k p, t.InRoom k x p → ∀ q, t.Names x q → q = p := by
  have hinv : Sound t ∧ RoomIds t ∧ Whereabouts t :=
    run_inv_of_meets (fun s => Sound s ∧ RoomIds s ∧ Whereabouts s)
      (fun s a s' h ha hs => ⟨h.1.step hs, h.2.1.step hs, h.2.2.step h.1 h.2.1 ha hs⟩)
      ⟨sound_init hasUserDB handle, everyRoom_init (fun _ _ _ => rfl) hasUserDB handle,
        whereabouts_init hasUserDB handle⟩
      hok hrun
  obtain ⟨-, -, hinv⟩ := hinv
  refine ⟨fun x k k' p p' hp hp' => ?_, fun x k p hp q hq => ?_⟩
  · exact (hinv.unique k k' x p p' (.inl hp) (.inl hp')).1
  · rcases hq with ⟨k', hq⟩ | hq | hq
    · exact (hinv.unique k' k x q p hq (.inl hp)).2
    · exact hinv.joined k x p q hq (.inl hp)
    · exact hinv.registered k x p q hq (.inl hp)

/-- Session 7 joins room 1, leaves it, and joins room 2. -/
def joinLeaveJoin : List GameAction :=
  [.packet 1 7 .createRoom, .process 1 0, .packet 1 7 (.joinRoom 1), .process 1 0, .process 0 0,
    .runTask 1 RoomStrand.noChoice, .packet 1 7 .leaveRoom, .process 1 0, .process 0 0,
    .runTask 1 RoomStrand.noChoice, .packet 1 7 (.joinRoom 2), .process 1 0,
    .runTask 2 RoomStrand.noChoice]

theorem one_room_per_session_joinLeaveJoin : ∃ t, run step (init true 0) joinLeaveJoin = some t ∧
    t.InRoom 2 7 ⟨1, 7⟩ ∧ (∀ x k k' p p', t.InRoom k x p → t.InRoom k' x p' → k = k') ∧
      ∀ x k p, t.InRoom k x p → ∀ q, t.Names x q → q = p :=
  ⟨_, rfl, ⟨_, rfl, rfl⟩, one_room_per_session true 0 joinLeaveJoin _ (by decide) rfl⟩

/-- Two `C_JoinRoom` are in the queue before the first `RoomJoined` is. -/
def joinTwice : List GameAction :=
  [.packet 1 7 .createRoom, .process 1 0, .packet 1 7 (.joinRoom 1), .packet 1 7 (.joinRoom 2),
    .process 1 0, .process 1 0, .runTask 1 RoomStrand.noChoice, .runTask 2 RoomStrand.noChoice]

/-- `RoomLeft` is handled before room 1 runs `Enter`. -/
def leaveBeforeEnter : List GameAction :=
  [.packet 1 7 .createRoom, .process 1 0, .packet 1 7 (.joinRoom 1), .process 1 0, .process 0 0,
    .packet 1 7 .leaveRoom,
    .process 1 0, .process 0 0, .runTask 1 RoomStrand.noChoice,
    .packet 1 7 (.joinRoom 2), .process 1 0,
    .runTask 2 RoomStrand.noChoice]

/-- Session 7 joins room 2 before room 1 runs `Leave`. -/
def joinBeforeLeave : List GameAction :=
  [.packet 1 7 .createRoom, .process 1 0, .packet 1 7 (.joinRoom 1), .process 1 0, .process 0 0,
    .runTask 1 RoomStrand.noChoice, .packet 1 7 .leaveRoom, .process 1 0, .process 0 0,
    .packet 1 7 (.joinRoom 2), .process 1 0, .runTask 2 RoomStrand.noChoice]

/-- Each time session 7 is in rooms 1 and 2, with two players. -/
theorem two_rooms :
    (∃ t, run step (init true 0) joinTwice = some t ∧ t.InRoom 1 7 ⟨0, 7⟩ ∧ t.InRoom 2 7 ⟨1, 7⟩) ∧
    (∃ t, run step (init true 0) leaveBeforeEnter = some t ∧ t.InRoom 1 7 ⟨0, 7⟩ ∧
      t.InRoom 2 7 ⟨1, 7⟩) ∧
    ∃ t, run step (init true 0) joinBeforeLeave = some t ∧ t.InRoom 1 7 ⟨0, 7⟩ ∧
    t.InRoom 2 7 ⟨1, 7⟩ :=
  ⟨⟨_, rfl, ⟨_, rfl, rfl⟩, ⟨_, rfl, rfl⟩⟩, ⟨_, rfl, ⟨_, rfl, rfl⟩, ⟨_, rfl, rfl⟩⟩,
    ⟨_, rfl, ⟨_, rfl, rfl⟩, ⟨_, rfl, rfl⟩⟩⟩

end GameServer

end ToyServer
