import ToyServer.Game.Membership
import ToyServer.Game.OneRoom

/-!
# What a disconnected session leaves behind

`HandleSessionDisconnected` takes the session out of the lobby and the registry and posts `Leave` to
one room, the one the registered player is in by its own account.  Nothing that the dispatcher has
published of the session comes after it (`Lined`), and no packet of the session is handled any more.
But three things can be under way elsewhere:

* a login at the database, whose callback puts the session into the lobby;
* an `Enter` at a room, which no `Leave` follows, because the player is in no room yet by its own
account;
* a second room with the session in it.

`no_ghost_after_disconnect` is the result when none of these is (`Parted`), and `ghosts` shows each
of them.
-/

namespace ToyServer

open Runs

variable {p : Player}

/-! ## The objects of a room -/

namespace Room

/-- The objects of players belong to players of the room, and are stored under their ids. -/
structure Shown (r : Room) : Prop where
  own : ∀ x p, r.players.lookup x = some p → p.sessionId = x
  objects : ∀ i p, r.objects.lookup i = some (.player p) → i = p.objectId ∧
    (r.players.lookup p.sessionId).isSome

variable {r : Room}

section
variable {ids : List Int} {objects : AList fun _ : Int => RoomObject} {i : Int}

theorem lookup_spawned
    (h : (ids.foldl (fun t id => t.insert id (.other id)) objects).lookup i = some (.player p)) :
    objects.lookup i = some (.player p) := by
  induction ids generalizing objects with
  | nil => exact h
  | cons id ids ih =>
    have hinsert : (objects.insert id (.other id)).lookup i = some (.player p) := ih h
    exact ((Table.of_lookup_insert hinsert).resolve_left (by simp)).2

theorem lookup_cleanedUp
    (h : (ids.foldl cleanUp objects).lookup i = some (.player p)) :
    objects.lookup i = some (.player p) := by
  induction ids generalizing objects with
  | nil => exact h
  | cons id ids ih =>
    have hclean : (cleanUp objects id).lookup i = some (.player p) := ih h
    unfold cleanUp at hclean
    split at hclean
    · exact (Table.of_lookup_erase hclean).2
    · exact hclean

end

theorem update_lookup {ch : RoomChoice} {i : Int}
    (h : (r.update ch).1.objects.lookup i = some (.player p)) :
    r.objects.lookup i = some (.player p) := by
  unfold update executeUpdate at h
  split at h
  · exact h
  · exact lookup_spawned (lookup_cleanedUp h)

namespace Shown

theorem make (roomId : Int) (hasUserDB : Bool) (handle : Nat) :
    (RoomStrand.make roomId hasUserDB handle).room.Shown := by
  refine ⟨fun _ _ hp => ?_, fun _ _ hp => ?_⟩
  · cases hp
  · cases hp

theorem addPlayer (h : r.Shown) (p : Player) : (r.addPlayer p).Shown := by
  have hlookup : ∀ x, (r.addPlayer p).players.lookup x = if x = p.sessionId then
      some p else r.players.lookup x :=
    fun x => Table.lookup_insert_ite _ _ _ _
  refine ⟨fun x q hq => ?_, fun i q hq => ⟨(h.objects i q hq).1, ?_⟩⟩
  · rw [hlookup] at hq
    split at hq
    · next hx =>
      cases hq
      exact hx.symm
    · exact h.own x q hq
  · rw [hlookup]
    split
    · rfl
    · exact (h.objects i q hq).2

theorem addPlayerObject (h : r.Shown) (hp : (r.players.lookup p.sessionId).isSome) :
    (r.addPlayerObject p).Shown := by
  refine ⟨h.own, fun i q hq => ?_⟩
  rcases Table.of_lookup_insert hq with ⟨hi, he⟩ | ⟨-, hold⟩
  · cases he
    exact ⟨hi, hp⟩
  · exact h.objects i q hold

theorem removePlayer (h : r.Shown) {x : Nat} (hp : r.players.lookup x = some p) :
    (r.removePlayer x p).Shown := by
  refine ⟨fun y q hq => h.own y q (removePlayer_lookup hq).2, fun i q hq => ?_⟩
  obtain ⟨hi, hq⟩ := Table.of_lookup_erase hq
  obtain ⟨hid, hin⟩ := h.objects i q hq
  -- an object of the session that leaves would be stored under the id that was removed
  have hne : q.sessionId ≠ x := by
    intro he
    have hsession : q.sessionId = p.sessionId := he.trans (h.own x p hp).symm
    exact hi (hid.trans (congrArg (fun n : Nat => Int.bmod n (2 ^ 32)) hsession))
  refine ⟨hid, ?_⟩
  show ((r.players.erase x).lookup q.sessionId).isSome
  rw [Table.lookup_erase_ite, if_neg hne]
  exact hin

theorem vacate (h : r.Shown) : r.vacate.Shown := by
  refine ⟨fun x p hp => h.own x p (vacate_lookup hp), fun i p hp => ?_⟩
  unfold Room.vacate at hp
  split at hp
  · cases hp
  · cases hp

theorem executeStartGame (h : r.Shown) (handle : Nat) : (r.executeStartGame handle).Shown := by
  obtain ⟨_, _, _, _, he⟩ := executeStartGame_frame r handle
  rw [he]
  exact ⟨h.own, h.objects⟩

theorem execute (h : r.Shown) (ch : RoomChoice) (task : RoomTask) :
    (r.execute ch task).1.Shown := by
  have hdone := execute_done r ch task
  generalize (r.execute ch task).1 = r', (r.execute ch task).2 = fx at hdone
  cases hdone with
  | enterLoading p _ => exact h.addPlayer p
  | enterAtOnce p _ =>
    have hin : ((r.addPlayer p).players.lookup p.sessionId).isSome := by
      show ((r.players.insert p.sessionId p).lookup p.sessionId).isSome
      rw [AList.lookup_insert]
      rfl
    exact (h.addPlayer p).addPlayerObject hin
  | appear p hp => exact h.addPlayerObject (by rw [hp]; rfl)
  | startGame => exact h.executeStartGame ch.handle
  | ready _ _ _ => exact h.executeStartGame ch.handle
  | tick _ =>
    refine ⟨by simpa using h.own, fun i p hp => ?_⟩
    rw [update_players]
    exact h.objects i p (update_lookup hp)
  | leaveOthers x p hp _ => exact h.removePlayer hp
  | leaveEmpty x p hp _ => exact (h.removePlayer hp).vacate
  | stop =>
    refine ⟨fun _ _ hp => ?_, fun _ _ hp => ?_⟩
    · cases hp
    · cases hp
  | reset =>
    refine ⟨h.own, fun _ _ hp => ?_⟩
    cases hp
  | idleTick _ => exact ⟨h.own, h.objects⟩
  | gameOver _ => exact ⟨h.own, h.objects⟩
  | _ => exact h

end Shown

end Room

/-! ## The order of the dispatcher's own messages -/

/-- The session whose place in the lobby, the registry or the database an event will change. -/
def GameMessage.about : GameMessage → Option SessionId
  | .loginRequest x => some x
  | .roomJoined x _ => some x
  | .roomLeft x => some x
  | .packet _ _ | .networkDisconnect _ | .sessionDisconnected _ => none

namespace GameServer

variable {s s' : GameServer}

/-- Events are pushed by the dispatcher, and none of a session is behind its
`SessionDisconnected`. -/
structure Lined (queue : List (ThreadId × GameMessage)) : Prop where
  source : ∀ e ∈ queue, e.2.about ≠ none ∨ (∃ x, e.2 = .sessionDisconnected x) →
    e.1 = dispatcherThread
  order : queue.Pairwise fun e e' => ∀ x, e.2 = .sessionDisconnected x → e'.2.about ≠ some x

namespace Lined

variable {queue rest : List (ThreadId × GameMessage)} {thread : ThreadId} {m : GameMessage}

section

variable (h : Lined queue)
include h

theorem push
    (hsource : m.about ≠ none ∨ (∃ x, m = .sessionDisconnected x) → thread = dispatcherThread)
    (horder : ∀ x, m.about = some x → ∀ e ∈ queue, e.2 ≠ .sessionDisconnected x) :
    Lined (queue ++ [(thread, m)]) where
  source := forall_mem_concat h.source hsource
  order := by
    refine List.pairwise_append.mpr ⟨h.order, List.pairwise_singleton _ _,
      fun e he e' he' x hx hm => ?_⟩
    rw [List.mem_singleton.mp he'] at hm
    exact horder x hm e he hx

theorem push_other (hm : m.about = none) (hd : ∀ x, m ≠ .sessionDisconnected x) :
    Lined (queue ++ [(thread, m)]) := by
  apply h.push
  · rintro (hne | ⟨x, hx⟩)
    · exact absurd hm hne
    · exact absurd hx (hd x)
  · intro x hx
    rw [hm] at hx
    cases hx

theorem take (hd : ProducerQueue.dequeue thread queue = some (m, rest)) : Lined rest :=
  ⟨fun e he => h.source e ((ProducerQueue.dequeue_mem hd).2 e he),
    (ProducerQueue.dequeue_pairwise hd h.order).1⟩

/-- When `SessionDisconnected` is taken, no event of the session stays behind. -/
theorem first {x : SessionId}
    (hd : ProducerQueue.dequeue thread queue = some (.sessionDisconnected x, rest)) :
    ∀ e ∈ rest, e.2.about ≠ some x := by
  intro e he habout
  obtain ⟨hmem, hrest⟩ := ProducerQueue.dequeue_mem hd
  have hthread : thread = dispatcherThread := h.source _ hmem (.inr ⟨x, rfl⟩)
  have hsame : e.1 = dispatcherThread := h.source e (hrest e he) (.inl (by rw [habout]; simp))
  rcases (ProducerQueue.dequeue_pairwise hd h.order).2 e he with hbehind | ⟨hother, _⟩
  · exact hbehind x rfl habout
  · exact hother (hsame.trans hthread.symm)

end

end Lined

theorem lined_close (h : Lined s.queue) {thread : ThreadId} {x : SessionId} :
    Lined (s.close thread x).queue := by
  unfold close
  split
  · exact h
  · exact h.push_other rfl (by simp)

theorem lined_publish (h : Lined s.queue) (hsound : Sound s) {m : GameMessage}
    (hm : ∀ x, m.about = some x → x ∉ s.closed) : Lined (s.publish m).queue :=
  h.push (fun _ => rfl) fun x hx e he hdisc =>
    hm x hx (hsound.parting e.2 x ⟨e.1, he⟩ (by rw [hdisc]; rfl))

theorem lined_handlePacket (h : Lined s.queue) (hsound : Sound s) {x : SessionId} {handle : Nat}
    {packet : ClientPacket} (hopen : x ∉ s.closed) :
    Lined (s.handlePacket x handle packet).queue := by
  have hown : ∀ y, some x = some y → y ∉ s.closed := fun y hy => by
    cases hy
    exact hopen
  have hdone := handled_handlePacket s x handle packet
  generalize s.handlePacket x handle packet = s₁ at hdone
  cases hdone with
  | login => exact lined_publish h hsound hown
  | joinRoom k _ _ =>
    have hjoined : Lined (s.publish (.roomJoined x ⟨s.nextPlayer, x⟩)).queue :=
      lined_publish h hsound hown
    exact hjoined
  | leaveRoom => exact lined_publish h hsound hown
  | ping => exact lined_close h
  | _ => exact h

theorem leaveRegistered_queue (s : GameServer) (x : SessionId) :
    (s.leaveRegistered x).queue = s.queue := by
  obtain ⟨rooms, registry, he⟩ := leaveRegistered_frame s x
  rw [he]

variable {a : GameAction}

theorem lined_step (h : Lined s.queue) (hsound : Sound s) (hs : s.step a = some s') :
    Lined s'.queue := by
  cases stepped_of_step hs with
  | arrived thread x packet _ => exact h.push_other rfl (by simp)
  | closed thread x _ => exact lined_close h
  | processed thread handle m rest hd =>
    have htaken : Lined rest := h.take hd
    cases m with
    | packet x packet =>
      show Lined (GameServer.queue (if x ∈ s.closed then _ else _))
      split
      · exact htaken
      · next hopen => exact lined_handlePacket htaken (hsound.take hd) hopen
    | networkDisconnect x => exact htaken.push (fun _ => rfl) fun y hy => by cases hy
    | loginRequest x => exact htaken
    | roomJoined x p => exact htaken
    | roomLeft x =>
      show Lined (GameServer.leaveRegistered { s with queue := rest } x).queue
      rw [leaveRegistered_queue]
      exact htaken
    | sessionDisconnected x =>
      show Lined (handleSessionDisconnected { s with queue := rest } x).queue
      rw [handleSessionDisconnected_eq, leaveRegistered_queue]
      exact htaken
  | loginDone i x success _ =>
    unfold loginCallback
    split
    · exact h
    · exact h
  | ticked k st hst => exact h
  | skillsLoaded k i st p hst _ => exact h
  | ran k ch st task rest hst _ =>
    obtain ⟨roomOf, he⟩ := ranTask_frame s k st ch task rest
    show Lined (s.ranTask k st ch task rest).queue
    rw [he]
    exact h

/-! ## A session that is gone -/

/-- Nothing brings the session back, and where it still is in a room a `Leave` waits. -/
structure Gone (s : GameServer) (x : SessionId) : Prop where
  lobby : x ∉ s.lobbySessions
  registry : s.registry.lookup x = none
  events : ∀ e ∈ s.queue, e.2.about ≠ some x
  logins : x ∉ s.logins
  noEnter : s.NoEnter x
  leaving : ∀ k p, s.InRoom k x p → s.Waits k (.leave x)

/-- A change that brings the session into no room and loses no `Leave` of it. -/
structure Spares (s s' : GameServer) (x : SessionId) : Prop where
  inRoom : ∀ k p, s'.InRoom k x p → s.InRoom k x p
  enter : s.NoEnter x → s'.NoEnter x
  leave : ∀ k p, s'.InRoom k x p → s.Waits k (.leave x) → s'.Waits k (.leave x)

theorem Calm.spares (h : Calm s s') (x : SessionId) : Spares s s' x where
  inRoom := fun k p => h.inRoom k x p
  enter := fun hno k p hp hw => hno k p hp (h.enter k p hw)
  leave := fun k p hp => h.keeps k x p (.inl hp)

theorem spares_postTask {x : SessionId} {k : Int} {task : RoomTask}
    (h : ∀ p, task = .enter p → p.sessionId ≠ x) : Spares s (s.postTask k task) x where
  inRoom := fun _ _ => inRoom_postTask.mp
  enter := fun hno j p hp hw => by
    rcases waits_postTask.mp hw with hold | ⟨_, he, _⟩
    · exact hno j p hp hold
    · exact h p he.symm hp
  leave := fun _ _ _ hw => waits_postTask.mpr (.inl hw)

namespace Gone

variable {x : SessionId}

theorem frame (h : Gone s x) (hsp : Spares s s' x)
    (hlobby : x ∈ s'.lobbySessions → x ∈ s.lobbySessions)
    (hreg : s'.registry.lookup x = s.registry.lookup x)
    (hqueue : ∀ e ∈ s'.queue, e ∈ s.queue ∨ e.2.about ≠ some x)
    (hlogins : x ∈ s'.logins → x ∈ s.logins) : Gone s' x where
  lobby := fun hx => h.lobby (hlobby hx)
  registry := hreg.trans h.registry
  events := fun e he => (hqueue e he).elim (h.events e) id
  logins := fun hx => h.logins (hlogins hx)
  noEnter := hsp.enter h.noEnter
  leaving := fun k p hp => hsp.leave k p hp (h.leaving k p (hsp.inRoom k p hp))

theorem frame_of_rooms (h : Gone s x) (hrooms : s'.rooms = s.rooms)
    (hlobby : x ∈ s'.lobbySessions → x ∈ s.lobbySessions)
    (hreg : s'.registry.lookup x = s.registry.lookup x)
    (hqueue : ∀ e ∈ s'.queue, e ∈ s.queue ∨ e.2.about ≠ some x)
    (hlogins : x ∈ s'.logins → x ∈ s.logins) : Gone s' x :=
  h.frame ((calm_of_rooms hrooms).spares x) hlobby hreg hqueue hlogins

theorem of_eq (h : Gone s x) (hrooms : s'.rooms = s.rooms)
    (hlobby : s'.lobbySessions = s.lobbySessions) (hreg : s'.registry = s.registry)
    (hqueue : s'.queue = s.queue) (hlogins : s'.logins = s.logins) : Gone s' x :=
  h.frame_of_rooms hrooms (fun hx => hlobby ▸ hx) (by rw [hreg]) (fun _ he => Or.inl (hqueue ▸ he))
    fun hx => hlogins ▸ hx

variable {thread : ThreadId} {y : SessionId}

theorem push (h : Gone s x) {m : GameMessage} (hm : m.about ≠ some x) :
    Gone { s with queue := s.queue ++ [(thread, m)] } x :=
  h.frame_of_rooms rfl id rfl (forall_mem_concat (fun _ he => .inl he) (.inr hm)) id

theorem take (h : Gone s x) {m : GameMessage} {rest : List (ThreadId × GameMessage)}
    (hd : ProducerQueue.dequeue thread s.queue = some (m, rest)) :
    Gone { s with queue := rest } x :=
  h.frame_of_rooms rfl id rfl (fun e he => Or.inl ((ProducerQueue.dequeue_mem hd).2 e he)) id

theorem close (h : Gone s x) : Gone (s.close thread y) x := by
  unfold GameServer.close
  split
  · exact h
  · have hpushed : Gone { s with queue := s.queue ++ [(thread, .networkDisconnect y)] } x :=
      h.push (by simp [GameMessage.about])
    exact hpushed.of_eq rfl rfl rfl rfl rfl

theorem enterLobby (h : Gone s x) (hne : x ≠ y) : Gone (s.enterLobby y) x := by
  refine h.frame_of_rooms rfl (fun hx => ?_) rfl (fun _ he => Or.inl he) id
  rcases mem_enterLobby.mp hx with hold | hnew
  · exact hold
  · exact absurd hnew hne

theorem leaveRegistered (h : Gone s x) : Gone (s.leaveRegistered y) x := by
  have hspares : Spares s (s.leaveRegistered y) x := by
    refine ⟨fun _ _ => inRoom_leaveRegistered.mp, fun hno k p hp hw => ?_, fun k p _ hw => ?_⟩
    · rcases waits_leaveRegistered.mp hw with hold | ⟨hleave, _⟩
      · exact hno k p hp hold
      · cases hleave
    · exact waits_leaveRegistered.mpr (.inl hw)
  obtain ⟨rooms, registry, he⟩ := leaveRegistered_frame s y
  refine h.frame hspares ?_ ?_ ?_ ?_
  · rw [he]
    exact id
  · rw [leaveRegistered_lookup]
    split
    · exact h.registry.symm
    · rfl
  · rw [he]
    exact fun _ hq => Or.inl hq
  · rw [he]
    exact id

theorem handlePacket (h : Gone s x) (hne : x ≠ y) {handle : Nat} {packet : ClientPacket} :
    Gone (s.handlePacket y handle packet) x := by
  have hother : some y ≠ some x := fun he => hne (by injection he with he; exact he.symm)
  have hdone := handled_handlePacket s y handle packet
  generalize s.handlePacket y handle packet = s₁ at hdone
  cases hdone with
  | unchanged _ => exact h
  | login => exact h.push hother
  | enterLobby => exact h.enterLobby hne
  | joinRoom k _ _ =>
    have hnext : Gone { s with nextPlayer := s.nextPlayer + 1 } x :=
      h.of_eq rfl rfl rfl rfl rfl
    have hposted :
        Gone ({ s with nextPlayer := s.nextPlayer + 1 }.postTask k (.enter ⟨s.nextPlayer, y⟩))
        x := by
      refine hnext.frame (spares_postTask fun p hp => ?_) id rfl (fun _ he => Or.inl he) id
      cases hp
      exact Ne.symm hne
    exact hposted.push hother
  | leaveRoom => exact h.push hother
  | createRoom handle =>
    have hnext : Gone { s with nextRoomId := s.nextRoomId + 1 } x :=
      h.of_eq rfl rfl rfl rfl rfl
    exact hnext.frame ((calm_newRoom rfl rfl).spares x) id rfl (fun _ he => Or.inl he) id
  | gameReady p _ => exact h.frame (spares_postTask (by simp)) id rfl (fun _ he => Or.inl he) id
  | ping => exact h.close

theorem handleMessage (h : Gone s x) (hclosed : x ∈ s.closed) {handle : Nat} {m : GameMessage}
    {rest : List (ThreadId × GameMessage)}
    (hd : ProducerQueue.dequeue thread s.queue = some (m, rest)) :
    Gone ({ s with queue := rest }.handleMessage handle m) x := by
  have htaken := h.take hd
  have hevent : m.about ≠ some x := h.events _ (ProducerQueue.dequeue_mem hd).1
  cases m with
  | packet y packet =>
    show Gone (if y ∈ s.closed then _ else _) x
    split
    · exact htaken
    · next hopen =>
      have hne : x ≠ y := fun he => hopen (he ▸ hclosed)
      exact htaken.handlePacket hne
  | networkDisconnect y => exact htaken.push (by simp [GameMessage.about])
  | loginRequest y =>
    have hne : x ≠ y := fun he => hevent (he ▸ rfl)
    refine htaken.frame_of_rooms rfl id rfl (fun _ he => Or.inl he) fun hx => ?_
    rcases mem_concat.mp hx with hold | hnew
    · exact hold
    · exact absurd hnew hne
  | roomJoined y p =>
    have hne : x ≠ y := fun he => hevent (he ▸ rfl)
    refine htaken.frame_of_rooms rfl (fun hx => (mem_leaveLobby.mp hx).1) ?_
      (fun _ he => Or.inl he) id
    show (s.registry.insert y p).lookup x = s.registry.lookup x
    rw [Table.lookup_insert_ite, if_neg hne]
  | roomLeft y =>
    have hne : x ≠ y := fun he => hevent (he ▸ rfl)
    exact htaken.leaveRegistered.enterLobby hne
  | sessionDisconnected y =>
    show Gone (handleSessionDisconnected { s with queue := rest } y) x
    rw [handleSessionDisconnected_eq]
    have hdeparted :
        Gone { leaveLobby { s with queue := rest } y with departed := y :: s.departed } x :=
      htaken.frame_of_rooms rfl (fun hx => (mem_leaveLobby.mp hx).1) rfl (fun _ he => Or.inl he) id
    exact hdeparted.leaveRegistered

theorem loginDone (h : Gone s x) {i : Nat} {success : Bool} (hi : s.logins[i]? = some y) :
    Gone ({ s with logins := s.logins.eraseIdx i }.loginCallback y success) x := by
  have hne : x ≠ y := fun he => h.logins (he ▸ List.mem_of_getElem? hi)
  have htaken : Gone { s with logins := s.logins.eraseIdx i } x :=
    h.frame_of_rooms rfl id rfl (fun _ he => Or.inl he) List.mem_of_mem_eraseIdx
  unfold loginCallback
  split
  · exact (htaken.enterLobby hne).of_eq rfl rfl rfl rfl rfl
  · exact htaken

theorem ranTask (h : Gone s x) {k : Int} {st : RoomStrand} {ch : RoomChoice} {task : RoomTask}
    {rest : List RoomTask} (hst : s.rooms.lookup k = some st) (hq : st.queue = task :: rest) :
    Gone (s.ranTask k st ch task rest) x := by
  have hold : ∀ j p, (s.ranTask k st ch task rest).InRoom j x p → s.InRoom j x p := by
    intro j p hp
    rcases ranTask_inRoom hst hp with hold | ⟨hj, htask, hx⟩
    · exact hold
    · subst hj htask
      exact absurd (waits_head hst hq) (h.noEnter j p hx)
  have hspares : Spares s (s.ranTask k st ch task rest) x := by
    refine ⟨hold, fun hno j p hp hw => hno j p hp (ranTask_enter hst hq hw), fun j p hp hl => ?_⟩
    rcases ranTask_stays hst hq ch hl with ⟨hj, htask⟩ | hstays
    · subst hj htask
      exact absurd hp ranTask_leave_gone
    · exact hstays
  obtain ⟨roomOf, he⟩ := ranTask_frame s k st ch task rest
  refine h.frame hspares ?_ ?_ ?_ ?_
  · rw [he]
    exact id
  · rw [he]
  · rw [he]
    exact fun _ he => Or.inl he
  · rw [he]
    exact id

theorem step (h : Gone s x) (hclosed : x ∈ s.closed) (hs : s.step a = some s') : Gone s' x := by
  cases stepped_of_step hs with
  | arrived thread y packet _ => exact h.push (by simp [GameMessage.about])
  | closed thread y _ => exact h.close
  | processed thread handle m rest hd => exact h.handleMessage hclosed hd
  | loginDone i y success hi => exact h.loginDone hi
  | ticked k st hst => exact h.frame ((calm_onTimer hst).spares x) id rfl (fun _ he => Or.inl he) id
  | skillsLoaded k i st p hst _ =>
    exact h.frame ((calm_skillsLoaded hst).spares x) id rfl (fun _ he => Or.inl he) id
  | ran k ch st task rest hst hq => exact h.ranTask hst hq

end Gone

/-! ## The condition -/

/-- Every room with the session in it has a `Leave` waiting or is the room of the registered
player. -/
def Reached (s : GameServer) (x : SessionId) : Prop :=
  ∀ e ∈ s.rooms.entries, x ∈ e.2.room.players →
    RoomTask.leave x ∈ e.2.queue ∨ (s.registry.lookup x).map s.roomOf = some e.1

instance (s : GameServer) (x : SessionId) : Decidable (s.Reached x) :=
  inferInstanceAs (Decidable (∀ _ ∈ _, _))

def PartedMessage (s : GameServer) : GameMessage → Prop
  | .sessionDisconnected x => x ∉ s.logins ∧ s.Entered x ∧ s.Reached x
  | _ => True

/-- `SessionDisconnected` is handled when no login of the session is pending, no `Enter` of it
waits, and its `Leave` reaches every room that it is in. -/
def Parted (s : GameServer) : GameAction → Prop
  | .process thread _ => ∀ m ∈ s.next thread, s.PartedMessage m
  | _ => True

instance (s : GameServer) (m : GameMessage) : Decidable (s.PartedMessage m) :=
  match m with
  | .sessionDisconnected _ => inferInstanceAs (Decidable (_ ∧ _ ∧ _))
  | .packet _ _ | .networkDisconnect _ | .loginRequest _ | .roomJoined _ _ | .roomLeft _ =>
    isTrue trivial

instance (s : GameServer) (a : GameAction) : Decidable (s.Parted a) :=
  match a with
  | .process thread _ => inferInstanceAs (Decidable (∀ m ∈ s.next thread, s.PartedMessage m))
  | .packet _ _ _ | .close _ _ | .loginDone _ _ | .roomTimer _ | .skillsLoaded _ _ | .runTask _ _ =>
    isTrue trivial

theorem Reached.inRoom {x : SessionId} (h : s.Reached x) {k : Int} (hp : s.InRoom k x p) :
    s.Waits k (.leave x) ∨ ∃ q, s.registry.lookup x = some q ∧ s.roomOf q = k := by
  obtain ⟨st, hst, hp⟩ := hp
  have hmem : x ∈ st.room.players := AList.lookup_isSome.mp (by rw [hp]; rfl)
  rcases h _ (mem_entries hst) hmem with hwait | hreg
  · exact .inl ⟨st, hst, hwait⟩
  · exact .inr (Option.map_eq_some_iff.mp hreg)

theorem gone_of_disconnected {x : SessionId} (hline : ∀ e ∈ s.queue, e.2.about ≠ some x)
    (hlogin : x ∉ s.logins) (hentered : s.Entered x) (hreached : s.Reached x) :
    Gone (s.handleSessionDisconnected x) x := by
  rw [handleSessionDisconnected_eq]
  -- out of the lobby first; rooms, registry and queue are those of `s`
  let s₁ : GameServer := { s.leaveLobby x with departed := x :: s.departed }
  have hlobby : x ∉ s₁.lobbySessions := fun hx => (mem_leaveLobby.mp hx).2 rfl
  obtain ⟨rooms, registry, he⟩ := leaveRegistered_frame s₁ x
  show Gone (s₁.leaveRegistered x) x
  refine ⟨?_, ?_, ?_, ?_, fun k p hp hw => ?_, fun k p hp => ?_⟩
  · rw [he]
    exact hlobby
  · rw [leaveRegistered_lookup, if_pos rfl]
  · rw [he]
    exact hline
  · rw [he]
    exact hlogin
  · rcases waits_leaveRegistered.mp hw with hold | ⟨hleave, _⟩
    · exact hentered.noEnter k p hp hold
    · cases hleave
  · have hroom : s₁.InRoom k x p := inRoom_leaveRegistered.mp hp
    have hold : s.InRoom k x p := hroom
    rcases hreached.inRoom hold with hwait | hnamed
    · exact waits_leaveRegistered.mpr (.inl hwait)
    · obtain ⟨st, hst, _⟩ := hold
      have hsome : (s.rooms.lookup k).isSome := by rw [hst]; rfl
      exact waits_leaveRegistered.mpr (.inr ⟨rfl, hnamed, hsome⟩)

/-! ## Whole runs -/

structure GhostInv (s : GameServer) : Prop where
  sound : Sound s
  lined : Lined s.queue
  shown : EveryRoom (fun _ r => r.Shown) s
  gone : ∀ x ∈ s.departed, Gone s x

theorem ghostInv_init (hasUserDB : Bool) (handle : Nat) : GhostInv (init hasUserDB handle) where
  sound := sound_init hasUserDB handle
  lined := ⟨fun _ he => absurd he List.not_mem_nil, List.Pairwise.nil⟩
  shown := everyRoom_init Room.Shown.make hasUserDB handle
  gone := fun _ hx => absurd hx List.not_mem_nil

/-- Only `HandleSessionDisconnected` adds to the sessions that have departed. -/
theorem departed_step (hs : s.step a = some s') {x : SessionId} (hx : x ∈ s'.departed) :
    x ∈ s.departed ∨ ∃ thread handle rest, a = .process thread handle ∧
      ProducerQueue.dequeue thread s.queue = some (.sessionDisconnected x, rest) ∧
      s' = handleSessionDisconnected { s with queue := rest } x := by
  cases stepped_of_step hs with
  | processed thread handle m rest hd =>
    cases m with
    | packet y packet =>
      refine .inl ?_
      change x ∈ GameServer.departed (if y ∈ s.closed then _ else _) at hx
      split at hx
      · exact hx
      · have hdone := handled_handlePacket { s with queue := rest } y handle packet
        generalize GameServer.handlePacket { s with queue := rest } y handle packet = s₁ at hdone hx
        cases hdone with
        | ping =>
          obtain ⟨closed, queue, he, -⟩ := close_frame { s with queue := rest } dispatcherThread y
          rw [he] at hx
          exact hx
        | _ => exact hx
    | roomLeft y =>
      obtain ⟨rooms, registry, he⟩ := leaveRegistered_frame { s with queue := rest } y
      change x ∈ (GameServer.leaveRegistered { s with queue := rest } y).departed at hx
      rw [he] at hx
      exact .inl hx
    | sessionDisconnected y =>
      have hdep : (handleSessionDisconnected { s with queue := rest } y).departed =
          y :: s.departed := by
        obtain ⟨rooms, registry, he⟩ :=
          leaveRegistered_frame { leaveLobby { s with queue := rest } y with departed :=
            y :: s.departed } y
        rw [handleSessionDisconnected_eq, he]
      change x ∈ (handleSessionDisconnected { s with queue := rest } y).departed at hx
      rw [hdep] at hx
      rcases List.mem_cons.mp hx with rfl | hold
      · exact .inr ⟨thread, handle, rest, rfl, hd, rfl⟩
      · exact .inl hold
    | _ => exact .inl hx
  | closed thread y _ =>
    obtain ⟨closed, queue, he, -⟩ := close_frame s thread y
    rw [he] at hx
    exact .inl hx
  | loginDone i y success _ =>
    unfold loginCallback at hx
    split at hx
    · exact .inl hx
    · exact .inl hx
  | ran k ch st task rest _ _ =>
    obtain ⟨roomOf, he⟩ := ranTask_frame s k st ch task rest
    change x ∈ (s.ranTask k st ch task rest).departed at hx
    rw [he] at hx
    exact .inl hx
  | _ => exact .inl hx

/-- **No step brings a session back that has gone.** -/
theorem GhostInv.step (h : GhostInv s) (hok : s.Parted a) (hs : s.step a = some s') :
    GhostInv s' where
  sound := h.sound.step hs
  lined := lined_step h.lined h.sound hs
  shown := everyRoom_step Room.Shown.make
    (fun _ _ hr => ⟨hr.own, hr.objects⟩) (fun _ _ ch task hr => hr.execute ch task) h.shown hs
  gone := fun x hx => by
    rcases departed_step hs hx with hold | ⟨thread, handle, rest, rfl, hd, rfl⟩
    · exact (h.gone x hold).step (h.sound.departed x hold) hs
    · obtain ⟨hlogin, hentered, hreached⟩ := hok _ (mem_next hd)
      have hline : ∀ e ∈ rest, e.2.about ≠ some x := h.lined.first hd
      exact gone_of_disconnected hline hlogin hentered hreached

/-- All queues are empty and the database has answered. -/
def Drained (s : GameServer) : Prop :=
  s.queue = [] ∧ s.logins = [] ∧ ∀ e ∈ s.rooms.entries, e.2.queue = [] ∧ e.2.loading = []

instance (s : GameServer) : Decidable s.Drained := inferInstanceAs (Decidable (_ ∧ _ ∧ _))

/-- **No ghost after disconnect** on every run in which `SessionDisconnected` finds no login of the
session pending, no `Enter` of it waiting and no room with it that its `Leave` does not reach: once
all has drained, the session is in no lobby, in no registry, and in no room, neither as a player nor
as an object. -/
theorem no_ghost_after_disconnect (hasUserDB : Bool) (handle : Nat) (as : List GameAction)
    (t : GameServer) (hok : Meets step Parted (init hasUserDB handle) as)
    (hrun : run step (init hasUserDB handle) as = some t) (hdrained : t.Drained) :
    ∀ x ∈ t.departed, t.isInLobby x = false ∧ t.getPlayer x = none ∧
      ∀ k st, t.rooms.lookup k = some st → st.room.players.lookup x = none ∧
        ∀ i p, st.room.objects.lookup i = some (.player p) → p.sessionId ≠ x := by
  have hinv : GhostInv t :=
    run_inv_of_meets GhostInv (fun s a s' h ha hs => h.step ha hs)
      (ghostInv_init hasUserDB handle) hok hrun
  intro x hx
  have hgone := hinv.gone x hx
  refine ⟨by simpa [isInLobby] using hgone.lobby, hgone.registry, fun k st hst => ?_⟩
  have hnobody : st.room.players.lookup x = none := by
    cases hp : st.room.players.lookup x with
    | none => rfl
    | some p =>
      -- a `Leave` would still wait
      obtain ⟨st', hst', hwait⟩ := hgone.leaving k p ⟨st, hst, hp⟩
      rw [hst] at hst'
      cases hst'
      have hempty : st.queue = [] := (hdrained.2.2 _ (mem_entries hst)).1
      rw [hempty] at hwait
      cases hwait
  refine ⟨hnobody, fun i p hp hpx => ?_⟩
  have hin := ((hinv.shown k st hst).objects i p hp).2
  rw [hpx, hnobody] at hin
  cases hin

/-- Session 7 logs in, joins room 1, plays, and disconnects. -/
def playAndDisconnect : List GameAction :=
  [.packet 1 7 .login, .process 1 0, .process 0 0, .loginDone 0 true, .packet 1 7 (.joinRoom 1),
    .process 1 0, .process 0 0,
    .runTask 1 RoomStrand.noChoice, .skillsLoaded 1 0, .runTask 1 RoomStrand.noChoice,
    .runTask 1 RoomStrand.noChoice, .close 1 7, .process 1 0, .process 0 0,
    .runTask 1 RoomStrand.noChoice]

theorem no_ghost_after_disconnect_playAndDisconnect :
    ∃ t, run step (init true 0) playAndDisconnect = some t ∧
    t.departed = [7] ∧ ∀ x ∈ t.departed, t.isInLobby x = false ∧ t.getPlayer x = none ∧
      ∀ k st, t.rooms.lookup k = some st → st.room.players.lookup x = none ∧
        ∀ i p, st.room.objects.lookup i = some (.player p) → p.sessionId ≠ x :=
  ⟨_, rfl, rfl, no_ghost_after_disconnect true 0 playAndDisconnect _ (by decide) rfl (by decide)⟩

/-- Session 7 disconnects while the database checks its login. -/
def disconnectInLogin : List GameAction :=
  [.packet 1 7 .login, .process 1 0, .process 0 0, .close 1 7, .process 1 0, .process 0 0,
    .loginDone 0 true]

/-- `SessionDisconnected` is handled before room 1 runs `Enter`. -/
def disconnectBeforeEnter : List GameAction :=
  [.packet 1 7 (.joinRoom 1), .process 1 0, .process 0 0, .close 1 7, .process 1 0, .process 0 0,
    .runTask 1 RoomStrand.noChoice, .skillsLoaded 1 0, .runTask 1 RoomStrand.noChoice,
    .runTask 1 RoomStrand.noChoice]

/-- Session 7 joins rooms 1 and 2 at once and disconnects: the registered player is that of room
2. -/
def disconnectFromTwo : List GameAction :=
  [.packet 1 7 .createRoom, .process 1 0, .packet 1 7 (.joinRoom 1), .packet 1 7 (.joinRoom 2),
    .process 1 0, .process 1 0,
    .process 0 0, .process 0 0, .runTask 1 RoomStrand.noChoice, .runTask 2 RoomStrand.noChoice,
    .skillsLoaded 1 0,
    .skillsLoaded 2 0, .runTask 1 RoomStrand.noChoice, .runTask 1 RoomStrand.noChoice,
    .runTask 2 RoomStrand.noChoice,
    .runTask 2 RoomStrand.noChoice, .close 1 7, .process 1 0, .process 0 0,
    .runTask 2 RoomStrand.noChoice]

/-- All has drained, and session 7, long disconnected, is in the lobby, or in room 1 as a player and
an object. -/
theorem ghosts :
    (∃ t, run step (init true 0) disconnectInLogin = some t ∧ t.Drained ∧ 7 ∈ t.departed ∧
      t.isInLobby 7 = true) ∧
    (∃ t, run step (init true 0) disconnectBeforeEnter = some t ∧ t.Drained ∧ 7 ∈ t.departed ∧
      t.InRoom 1 7 ⟨0, 7⟩ ∧
      ∃ st, t.rooms.lookup 1 = some st ∧ st.room.objects.lookup 7 = some (.player ⟨0, 7⟩)) ∧
    ∃ t, run step (init true 0) disconnectFromTwo = some t ∧ t.Drained ∧ 7 ∈ t.departed ∧
      t.InRoom 1 7 ⟨0, 7⟩ ∧
      ∃ st, t.rooms.lookup 1 = some st ∧ st.room.objects.lookup 7 = some (.player ⟨0, 7⟩) :=
  ⟨⟨_, rfl, by decide, by decide, rfl⟩,
    ⟨_, rfl, by decide, by decide, ⟨_, rfl, rfl⟩, ⟨_, rfl, rfl⟩⟩,
    ⟨_, rfl, by decide, by decide, ⟨_, rfl, rfl⟩, ⟨_, rfl, rfl⟩⟩⟩

end GameServer

end ToyServer
