import ToyServer.Game.GameServer

/-!
# Who is in the lobby and who is registered

`PingHandler` takes a session that is in the lobby or in the registry for one that is logged in.  No
handler checks that: `EnterLobbyHandler` adds any session that asks, a `C_LeaveRoom` puts its sender
into the lobby, and a `C_JoinRoom` registers its sender.  Nor does `EnterLobby` look into the
registry.

`membership_authenticated` is the result for runs in which the clients keep to the order themselves,
and `membership_unchecked` shows a client that does not.
-/

namespace ToyServer

open Runs

/-- The session that an event will put into the lobby or the registry. -/
def GameMessage.admits : GameMessage → Option SessionId
  | .roomJoined sessionId _ => some sessionId
  | .roomLeft sessionId => some sessionId
  | .packet _ _ | .networkDisconnect _ | .loginRequest _ | .sessionDisconnected _ => none

namespace GameServer

section
variable (s : GameServer)

/-- A client asks for the lobby or a room only when logged in, and for the lobby only when not
registered. -/
def OrderlyPacket (sessionId : SessionId) : ClientPacket → Prop
  | .enterLobby => sessionId ∈ s.loggedIn ∧ s.registry.lookup sessionId = none
  | .joinRoom _ => sessionId ∈ s.loggedIn
  | .leaveRoom => sessionId ∈ s.loggedIn
  | _ => True

def OrderlyMessage : GameMessage → Prop
  | .packet sessionId packet => sessionId ∉ s.closed → s.OrderlyPacket sessionId packet
  | _ => True

/-- The condition on a step; a login succeeds only for a session that is not registered. -/
def Orderly : GameAction → Prop
  | .process thread _ => ∀ m ∈ s.next thread, s.OrderlyMessage m
  | .loginDone i success =>
    success = true → ∀ sessionId ∈ s.logins[i]?, s.registry.lookup sessionId = none
  | _ => True

instance (sessionId : SessionId) (packet : ClientPacket) :
    Decidable (s.OrderlyPacket sessionId packet) :=
  match packet with
  | .enterLobby => inferInstanceAs (Decidable (_ ∧ _))
  | .joinRoom _ | .leaveRoom => inferInstanceAs (Decidable (sessionId ∈ s.loggedIn))
  | .login | .createRoom | .gameReady | .ping => isTrue trivial

instance (m : GameMessage) : Decidable (s.OrderlyMessage m) :=
  match m with
  | .packet sessionId packet =>
    inferInstanceAs (Decidable (sessionId ∉ s.closed → s.OrderlyPacket sessionId packet))
  | .networkDisconnect _ | .loginRequest _ | .roomJoined _ _ | .roomLeft _
  | .sessionDisconnected _ => isTrue trivial

instance (a : GameAction) : Decidable (s.Orderly a) :=
  match a with
  | .process thread _ => inferInstanceAs (Decidable (∀ m ∈ s.next thread, s.OrderlyMessage m))
  | .loginDone i success =>
    inferInstanceAs
      (Decidable (success = true → ∀ sessionId ∈ s.logins[i]?, s.registry.lookup sessionId = none))
  | .packet _ _ _ | .close _ _ | .roomTimer _ | .skillsLoaded _ _ | .runTask _ _ => isTrue trivial

end

structure Membership (s : GameServer) : Prop where
  exclusive : ∀ sessionId ∈ s.lobbySessions, s.registry.lookup sessionId = none
  lobby : ∀ sessionId ∈ s.lobbySessions, sessionId ∈ s.loggedIn
  registered : ∀ sessionId p, s.registry.lookup sessionId = some p → sessionId ∈ s.loggedIn
  events : ∀ e ∈ s.queue, ∀ sessionId ∈ e.2.admits, sessionId ∈ s.loggedIn

variable {sessionId : SessionId}

theorem mem_enterLobby {s : GameServer} {other : SessionId} :
    other ∈ (s.enterLobby sessionId).lobbySessions ↔ other ∈ s.lobbySessions ∨
    other = sessionId := by
  simp only [enterLobby]
  split
  · next h =>
    have hmem : sessionId ∈ s.lobbySessions := by simpa [isInLobby] using h
    exact ⟨Or.inl, fun ho => ho.elim id fun he => he ▸ hmem⟩
  · rw [List.mem_append, List.mem_singleton]

theorem mem_leaveLobby {s : GameServer} {other : SessionId} :
    other ∈ (s.leaveLobby sessionId).lobbySessions ↔ other ∈ s.lobbySessions ∧
    other ≠ sessionId := by
  simp [leaveLobby, List.mem_filter]

namespace Membership

variable {s : GameServer}

theorem frame {s' : GameServer} (h : Membership s)
    (hlobby : ∀ x ∈ s'.lobbySessions, x ∈ s.lobbySessions)
    (hreg : ∀ x p, s'.registry.lookup x = some p → s.registry.lookup x = some p)
    (hlog : s'.loggedIn = s.loggedIn) (hqueue : ∀ e ∈ s'.queue, e ∈ s.queue ∨ e.2.admits = none) :
    Membership s' where
  exclusive := fun x hx => by
    cases hr : s'.registry.lookup x with
    | none => rfl
    | some p =>
      have hnone := h.exclusive x (hlobby x hx)
      rw [hreg x p hr] at hnone
      cases hnone
  lobby := fun x hx => hlog ▸ h.lobby x (hlobby x hx)
  registered := fun x p hx => hlog ▸ h.registered x p (hreg x p hx)
  events := fun e he x hx => by
    rw [hlog]
    rcases hqueue e he with hold | hnone
    · exact h.events e hold x hx
    · rw [hnone] at hx
      cases hx

theorem of_eq {s' : GameServer} (h : Membership s) (hlobby : s'.lobbySessions = s.lobbySessions)
    (hreg : s'.registry = s.registry) (hlog : s'.loggedIn = s.loggedIn)
    (hqueue : s'.queue = s.queue) : Membership s' :=
  h.frame (fun _ hx => hlobby ▸ hx) (fun _ _ hx => hreg ▸ hx) hlog fun _ he => Or.inl (hqueue ▸ he)

theorem push {thread : ThreadId} {m : GameMessage} (h : Membership s)
    (hm : ∀ x ∈ m.admits, x ∈ s.loggedIn) :
    Membership { s with queue := s.queue ++ [(thread, m)] } where
  exclusive := h.exclusive
  lobby := h.lobby
  registered := h.registered
  events := forall_mem_concat h.events hm

theorem enterLobby (h : Membership s) (hlog : sessionId ∈ s.loggedIn)
    (hreg : s.registry.lookup sessionId = none) : Membership (s.enterLobby sessionId) where
  exclusive := fun x hx => by
    rcases mem_enterLobby.mp hx with hold | rfl
    · exact h.exclusive x hold
    · exact hreg
  lobby := fun x hx => by
    rcases mem_enterLobby.mp hx with hold | rfl
    · exact h.lobby x hold
    · exact hlog
  registered := h.registered
  events := h.events

theorem handleRoomJoined {p : Player} (h : Membership s) (hlog : sessionId ∈ s.loggedIn) :
    Membership (s.handleRoomJoined sessionId p) where
  exclusive := fun x hx => by
    obtain ⟨hold, hne⟩ := mem_leaveLobby.mp hx
    show (s.registry.insert sessionId p).lookup x = none
    rw [Table.lookup_insert_ite, if_neg hne]
    exact h.exclusive x hold
  lobby := fun x hx => h.lobby x (mem_leaveLobby.mp hx).1
  registered := fun x q hx => by
    rcases Table.of_lookup_insert hx with ⟨rfl, -⟩ | ⟨-, hold⟩
    · exact hlog
    · exact h.registered x q hold
  events := h.events

theorem leaveRegistered (h : Membership s) : Membership (s.leaveRegistered sessionId) := by
  obtain ⟨rooms, registry, he⟩ := leaveRegistered_frame s sessionId
  refine h.frame ?_ (fun x p hx => ?_) ?_ ?_
  · rw [he]
    exact fun x hx => hx
  · rw [leaveRegistered_lookup] at hx
    split at hx
    · cases hx
    · exact hx
  · rw [he]
  · rw [he]
    exact fun e hx => Or.inl hx

theorem handleRoomLeft (h : Membership s) (hlog : sessionId ∈ s.loggedIn) :
    Membership (s.handleRoomLeft sessionId) := by
  obtain ⟨rooms, registry, he⟩ := leaveRegistered_frame s sessionId
  have hlog' : sessionId ∈ (s.leaveRegistered sessionId).loggedIn := by
    rw [he]
    exact hlog
  have hreg : (s.leaveRegistered sessionId).registry.lookup sessionId = none := by
    rw [leaveRegistered_lookup, if_pos rfl]
  exact h.leaveRegistered.enterLobby hlog' hreg

theorem handleSessionDisconnected (h : Membership s) :
    Membership (s.handleSessionDisconnected sessionId) := by
  have hlobby : Membership { s.leaveLobby sessionId with departed := sessionId :: s.departed } :=
    h.frame (fun x hx => (mem_leaveLobby.mp hx).1) (fun _ _ hx => hx) rfl (fun _ he => Or.inl he)
  rw [handleSessionDisconnected_eq]
  exact hlobby.leaveRegistered

theorem close {thread : ThreadId} (h : Membership s) : Membership (s.close thread sessionId) := by
  unfold GameServer.close
  split
  · exact h
  · refine h.frame (fun _ hx => hx) (fun _ _ hx => hx) rfl ?_
    exact forall_mem_concat (fun _ he => .inl he) (.inr rfl)

theorem handlePacket {handle : Nat} {packet : ClientPacket} (h : Membership s)
    (hok : s.OrderlyPacket sessionId packet) :
    Membership (s.handlePacket sessionId handle packet) := by
  -- handlers that change the rooms only
  have hrooms : ∀ rooms nextPlayer nextRoomId,
      Membership { s with rooms := rooms, nextPlayer := nextPlayer, nextRoomId := nextRoomId } :=
        fun _ _ _ =>
    h.of_eq rfl rfl rfl rfl
  have hdone := handled_handlePacket s sessionId handle packet
  generalize s.handlePacket sessionId handle packet = s' at hdone
  cases hdone with
  | unchanged _ => exact h
  | login => exact h.push (m := .loginRequest sessionId) (by simp [GameMessage.admits])
  | enterLobby => exact h.enterLobby hok.1 hok.2
  | joinRoom roomId _ _ =>
    refine (hrooms _ (s.nextPlayer + 1) s.nextRoomId).push (m := .roomJoined sessionId _)
      fun x hx => ?_
    cases hx
    exact hok
  | leaveRoom =>
    refine h.push (m := .roomLeft sessionId) fun x hx => ?_
    cases hx
    exact hok
  | createRoom _ => exact hrooms _ s.nextPlayer _
  | gameReady _ _ => exact hrooms _ s.nextPlayer s.nextRoomId
  | ping => exact h.close

theorem handleMessage {thread : ThreadId} {handle : Nat} {m : GameMessage}
    {rest : List (ThreadId × GameMessage)} (h : Membership s)
    (hd : ProducerQueue.dequeue thread s.queue = some (m, rest)) (hok : s.OrderlyMessage m) :
    Membership ({ s with queue := rest }.handleMessage handle m) := by
  obtain ⟨hmem, hrest⟩ := ProducerQueue.dequeue_mem hd
  have htaken : Membership { s with queue := rest } :=
    h.frame (fun _ hx => hx) (fun _ _ hx => hx) rfl (fun e he => Or.inl (hrest e he))
  cases m with
  | packet sessionId packet =>
    show Membership (if sessionId ∈ s.closed then _ else _)
    split
    · exact htaken
    · next hopen => exact htaken.handlePacket (hok hopen)
  | networkDisconnect sessionId =>
    exact htaken.push (m := .sessionDisconnected sessionId) (by simp [GameMessage.admits])
  | loginRequest sessionId => exact htaken.of_eq rfl rfl rfl rfl
  | roomJoined sessionId p => exact htaken.handleRoomJoined (h.events _ hmem sessionId rfl)
  | roomLeft sessionId => exact htaken.handleRoomLeft (h.events _ hmem sessionId rfl)
  | sessionDisconnected sessionId => exact htaken.handleSessionDisconnected

theorem loginCallback {success : Bool} (h : Membership s)
    (hreg : success = true → s.registry.lookup sessionId = none) :
    Membership (s.loginCallback sessionId success) := by
  unfold GameServer.loginCallback
  split
  · next hs =>
    -- the session counts as logged in from here on
    have hlogged : Membership { s with loggedIn := sessionId :: s.loggedIn } :=
      ⟨h.exclusive, fun x hx => List.mem_cons_of_mem _ (h.lobby x hx),
        fun x p hx => List.mem_cons_of_mem _ (h.registered x p hx),
        fun e he x hx => List.mem_cons_of_mem _ (h.events e he x hx)⟩
    exact hlogged.enterLobby List.mem_cons_self (hreg hs)
  · exact h

theorem step {s' : GameServer} {a : GameAction} (h : Membership s) (hok : s.Orderly a)
    (hs : s.step a = some s') : Membership s' := by
  cases stepped_of_step hs with
  | arrived thread sessionId packet _ => exact h.push (by simp [GameMessage.admits])
  | closed thread sessionId _ => exact h.close
  | processed thread handle m rest hd => exact h.handleMessage hd (hok m (mem_next hd))
  | loginDone i sessionId success hi =>
    have htaken : Membership { s with logins := s.logins.eraseIdx i } :=
      h.of_eq rfl rfl rfl rfl
    exact htaken.loginCallback fun hsucc => hok hsucc sessionId hi
  | ticked _ _ _ => exact h.of_eq rfl rfl rfl rfl
  | skillsLoaded _ _ _ _ _ _ => exact h.of_eq rfl rfl rfl rfl
  | ran roomId ch st task rest _ _ =>
    cases (st.perform ch task rest).2.moved with
    | none => exact h.of_eq rfl rfl rfl rfl
    | some moved => exact h.of_eq rfl rfl rfl rfl

end Membership

theorem membership_init (hasUserDB : Bool) (handle : Nat) : Membership (init hasUserDB handle) where
  exclusive := fun _ hx => absurd hx List.not_mem_nil
  lobby := fun _ hx => absurd hx List.not_mem_nil
  registered := fun _ _ hx => by cases hx
  events := fun _ he => absurd he List.not_mem_nil

/-- **Lobby and registry are exclusive and authenticated** on every run in which clients ask for the
lobby or a room only when logged in, for the lobby only when not registered, and no login succeeds
for a registered session. -/
theorem membership_authenticated (hasUserDB : Bool) (handle : Nat) (as : List GameAction)
    (t : GameServer) (hok : Meets step Orderly (init hasUserDB handle) as)
    (hrun : run step (init hasUserDB handle) as = some t) :
    ∀ sessionId, ¬ (t.isInLobby sessionId = true ∧ (t.getPlayer sessionId).isSome) ∧
      (t.isInLobby sessionId = true ∨ (t.getPlayer sessionId).isSome → sessionId ∈ t.loggedIn) := by
  have hinv : Membership t :=
    run_inv_of_meets Membership (fun s a s' h ha hs => h.step ha hs)
      (membership_init hasUserDB handle) hok hrun
  intro sessionId
  have hlobby : t.isInLobby sessionId = true → sessionId ∈ t.lobbySessions :=
    fun h => by simpa [isInLobby] using h
  constructor
  · rintro ⟨hin, hreg⟩
    rw [getPlayer, hinv.exclusive sessionId (hlobby hin)] at hreg
    cases hreg
  · rintro (hin | hreg)
    · exact hinv.lobby sessionId (hlobby hin)
    · obtain ⟨p, hp⟩ := Option.isSome_iff_exists.mp hreg
      exact hinv.registered sessionId p hp

/-- Session 7 logs in, joins room 1, and leaves it. -/
def loginJoinLeave : List GameAction :=
  [.packet 1 7 .login, .process 1 0, .process 0 0, .loginDone 0 true,
    .packet 1 7 (.joinRoom 1), .process 1 0,
    .process 0 0, .runTask 1 RoomStrand.noChoice, .packet 1 7 .leaveRoom,
    .process 1 0, .process 0 0]

theorem membership_authenticated_loginJoinLeave :
    ∃ t, run step (init true 0) loginJoinLeave = some t ∧
    ∀ sessionId, ¬ (t.isInLobby sessionId = true ∧ (t.getPlayer sessionId).isSome) ∧
      (t.isInLobby sessionId = true ∨ (t.getPlayer sessionId).isSome → sessionId ∈ t.loggedIn) :=
  ⟨_, rfl, membership_authenticated true 0 loginJoinLeave _ (by decide) rfl⟩

/-- Without a login, session 7 asks for the lobby and session 8 for a room. -/
def unauthenticated : List GameAction :=
  [.packet 1 7 .enterLobby, .process 1 0, .packet 1 8 (.joinRoom 1), .process 1 0, .process 0 0]

/-- Session 7 logs in, joins room 1, and asks for the lobby from there. -/
def lobbyFromRoom : List GameAction :=
  [.packet 1 7 .login, .process 1 0, .process 0 0, .loginDone 0 true,
    .packet 1 7 (.joinRoom 1), .process 1 0, .process 0 0, .packet 1 7 .enterLobby, .process 1 0]

/-- With the dispatcher idle, sessions that never logged in are in the lobby and in the registry,
and one that did is in both. -/
theorem membership_unchecked :
    (∃ t, run step (init true 0) unauthenticated = some t ∧ t.queue = [] ∧ t.logins = [] ∧
      t.loggedIn = [] ∧ t.isInLobby 7 = true ∧ (t.getPlayer 8).isSome) ∧
    ∃ t, run step (init true 0) lobbyFromRoom = some t ∧ t.queue = [] ∧ t.logins = [] ∧
      t.isInLobby 7 = true ∧ (t.getPlayer 7).isSome :=
  ⟨⟨_, rfl, rfl, rfl, rfl, rfl, rfl⟩, ⟨_, rfl, rfl, rfl, rfl, rfl⟩⟩

end GameServer

end ToyServer
