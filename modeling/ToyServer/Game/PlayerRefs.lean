import ToyServer.Game.LevelUpManager
import ToyServer.Game.NoGhost

/-!
# Who keeps a player alive

A `Player` is referred to from the registry, from the rooms and from queued tasks
(`GameServer.named`), and from its own emitters, each of which has a `RefPtr` to its owner.  The
emitters go when the player is reset, which happens when it is taken from the pool; and
`PlayerFactory::Release`, which the last reference calls, puts nothing into the pool.

So a player that nobody refers to any more stays allocated (`Leaks.leaked_run`), with one reference
for each emitter it had, and `not_leaked_iff` says that the account of the pool is right exactly as
long as there is no such player.
-/

namespace ToyServer

open Runs

/-! ## References -/

def RoomTask.player : RoomTask → Option Player
  | enter p => some p
  | skillsLoaded p => some p
  | _ => none

def GameMessage.player : GameMessage → Option Player
  | roomJoined _ p => some p
  | _ => none

def RoomObject.asPlayer : RoomObject → Option Player
  | player p => some p
  | other _ => none

/-- The references of `_players` and of the table of objects. -/
def Room.named (r : Room) : List Player :=
  r.players.entries.map (·.2) ++ r.objects.entries.filterMap (·.2.asPlayer)

/-- Those and the ones of tasks and of requests to the database. -/
def RoomStrand.named (st : RoomStrand) : List Player :=
  st.room.named ++ st.queue.filterMap (·.player) ++ st.loading

/-- The references to players outside of the players. -/
def GameServer.named (s : GameServer) : List Player :=
  s.registry.entries.map (·.2) ++ s.rooms.entries.flatMap (·.2.named) ++
    s.queue.filterMap (·.2.player)

/-- How many there are to the player with that number. -/
def GameServer.refs (s : GameServer) (k : Nat) : Nat := s.named.countP (·.id == k)

/-! ## Players with their emitters -/

structure Leaks where
  server : GameServer
  /-- the objects, by number -/
  body : Nat → SimpleGame.Player
  /-- the pool of `PlayerFactory` -/
  pool : List Nat

inductive LeakAction where
  | server (a : GameAction)
  /-- a weapon that a player in a room gets -/
  | acquire (k : Nat) (weaponId : Int)
  /-- emitters whose time is over -/
  | expire (k : Nat) (expired : SimpleGame.DamageEmitter → Bool)

namespace Leaks

def start (hasUserDB : Bool) (handle : Nat) : Leaks := ⟨.init hasUserDB handle, fun _ => .make, []⟩

variable (s : Leaks)

/-- The reference count of a player: a reference from outside, or from the owner of an emitter. -/
def count (k : Nat) : Nat := s.server.refs k + (s.body k).emitters.length

def release (pool : List Nat) (_ : Nat) : List Nat := pool

/-- The players that lose their last reference call `ReturnToPool`. -/
def settle (s s' : Leaks) : Leaks :=
  let gone := (List.range s.server.nextPlayer).filter fun k => 0 < s.count k ∧ s'.count k = 0
  { s' with pool := gone.foldl release s'.pool }

/-- A player changes in a room. -/
def change (k : Nat) (f : SimpleGame.Player → SimpleGame.Player) : Option Leaks :=
  if 0 < s.server.refs k then some { s with body := Function.update s.body k (f (s.body k)) }
  else none

/-- A weapon and the emitters that `RefreshInventoryEffects` makes. -/
def acquireWeapon (data : SimpleGame.DataManager) (weaponId : Int) (p : SimpleGame.Player) :
    SimpleGame.Player :=
  { p with inventory := (p.inventory.addOrUpgradeWeapon data weaponId).2 }.refreshInventoryEffects
    data

/-- The emitters that `Player::Update` erases. -/
def eraseExpired (expired : SimpleGame.DamageEmitter → Bool) (p : SimpleGame.Player) :
    SimpleGame.Player :=
  { p with emitters := p.emitters.filter fun e => !expired e }

def act (data : SimpleGame.DataManager) (s : Leaks) : LeakAction → Option Leaks
  | .server a => (s.server.step a).map fun server => { s with server }
  | .acquire k weaponId => s.change k (acquireWeapon data weaponId)
  | .expire k expired => s.change k (eraseExpired expired)

def step (data : SimpleGame.DataManager) (s : Leaks) (a : LeakAction) : Option Leaks :=
  (s.act data a).map s.settle

def made : List Nat := List.range s.server.nextPlayer

/-- The account of the pool: a player that nobody refers to has no references left and is in the
pool, and the players are those in the pool and those that are referred to. -/
def NotLeaked : Prop :=
  (∀ k ∈ s.made, s.server.refs k = 0 → s.count k = 0 ∧ k ∈ s.pool) ∧
    s.made.length = s.pool.length + (s.made.filter fun k => 0 < s.server.refs k).length

instance  : Decidable s.NotLeaked := inferInstanceAs (Decidable (_ ∧ _))

end Leaks

variable {st : RoomStrand}

/-! ## References come from references -/

section
variable {P : Player → Prop}

structure Room.AllNamed (P : Player → Prop) (r : Room) : Prop where
  players : ∀ x p, r.players.lookup x = some p → P p
  objects : ∀ i p, r.objects.lookup i = some (.player p) → P p

structure RoomStrand.AllNamed (P : Player → Prop) (st : RoomStrand) : Prop where
  room : st.room.AllNamed P
  queue : ∀ t ∈ st.queue, t.player.elim True P
  loading : ∀ p ∈ st.loading, P p

structure GameServer.AllNamed (P : Player → Prop) (s : GameServer) : Prop where
  registry : ∀ x p, s.registry.lookup x = some p → P p
  rooms : ∀ k st, s.rooms.lookup k = some st → st.AllNamed P
  queue : ∀ e ∈ s.queue, e.2.player.elim True P

theorem elim_true_iff {o : Option Player} : o.elim True P ↔ ∀ p, o = some p → P p := by
  cases o with
  | none => simp
  | some q => simp

theorem Room.allNamed_iff {r : Room} : r.AllNamed P ↔ ∀ p ∈ r.named, P p := by
  simp only [Room.named, List.forall_mem_append, List.forall_mem_map, List.mem_filterMap]
  constructor
  · rintro ⟨hplayers, hobjects⟩
    refine ⟨fun e he => hplayers _ _ (Table.mem_entries_iff.mp he), ?_⟩
    rintro p ⟨⟨i, q | id⟩, he, ⟨⟩⟩
    exact hobjects i p (Table.mem_entries_iff.mp he)
  · rintro ⟨hplayers, hobjects⟩
    exact ⟨fun x p hx => hplayers ⟨x, p⟩ (Table.mem_entries_iff.mpr hx),
      fun i p hi => hobjects p ⟨⟨i, .player p⟩, Table.mem_entries_iff.mpr hi, rfl⟩⟩

theorem RoomStrand.allNamed_iff {st : RoomStrand} : st.AllNamed P ↔ ∀ p ∈ st.named, P p := by
  simp only [RoomStrand.named, List.forall_mem_append, List.mem_filterMap, ← Room.allNamed_iff]
  constructor
  · rintro ⟨hroom, hqueue, hloading⟩
    exact ⟨⟨hroom, fun p ⟨t, ht, hp⟩ => elim_true_iff.mp (hqueue t ht) p hp⟩, hloading⟩
  · rintro ⟨⟨hroom, hqueue⟩, hloading⟩
    exact ⟨hroom, fun t ht => elim_true_iff.mpr fun p hp => hqueue p ⟨t, ht, hp⟩, hloading⟩

theorem GameServer.allNamed_iff {s : GameServer} : s.AllNamed P ↔ ∀ p ∈ s.named, P p := by
  simp only [GameServer.named, List.forall_mem_append, List.forall_mem_map, List.forall_mem_flatMap,
    List.mem_filterMap, ← RoomStrand.allNamed_iff]
  constructor
  · rintro ⟨hreg, hrooms, hqueue⟩
    exact ⟨⟨fun e he => hreg _ _ (Table.mem_entries_iff.mp he),
      fun e he => hrooms _ _ (Table.mem_entries_iff.mp he)⟩,
      fun p ⟨e, he, hp⟩ => elim_true_iff.mp (hqueue e he) p hp⟩
  · rintro ⟨⟨hreg, hrooms⟩, hqueue⟩
    exact ⟨fun x p hx => hreg ⟨x, p⟩ (Table.mem_entries_iff.mpr hx),
      fun k st hk => hrooms ⟨k, st⟩ (Table.mem_entries_iff.mpr hk),
      fun e he => elim_true_iff.mpr fun p hp => hqueue p ⟨e, he, hp⟩⟩

theorem RoomStrand.AllNamed.post (h : st.AllNamed P) (t : RoomTask) (ht : t.player.elim True P) :
    (st.post t).AllNamed P :=
  ⟨h.room, List.forall_mem_append.mpr ⟨h.queue, List.forall_mem_singleton.mpr ht⟩, h.loading⟩

theorem allNamed_make (roomId : Int) (hasUserDB : Bool) (handle : Nat) :
    (RoomStrand.make roomId hasUserDB handle).AllNamed P := by
  refine ⟨⟨fun x p h => ?_, fun i p h => ?_⟩, fun t h => ?_, fun p h => ?_⟩
  all_goals cases h

variable {r : Room} {ch : RoomChoice} {task : RoomTask}

theorem Room.AllNamed.executeStartGame (h : r.AllNamed P) (handle : Nat) :
    (r.executeStartGame handle).AllNamed P := by
  obtain ⟨_, _, _, _, he⟩ := executeStartGame_frame r handle
  rw [he]
  exact ⟨h.players, h.objects⟩

/-- Only `Enter` and the loaded skills add an object of a player, and it is the player they name. -/
theorem Room.AllNamed.execute (h : r.AllNamed P) (ht : task.player.elim True P) :
    (r.execute ch task).1.AllNamed P := by
  refine ⟨fun x p hx => ?_, ?_⟩
  · rcases execute_lookup hx with hold | ⟨rfl, -⟩
    · exact h.players x p hold
    · exact ht
  have hadd : ∀ q, P q → ∀ i p, (r.objects.insert q.objectId (.player q)).lookup i =
      some (.player p) → P p := by
    intro q hq i p hp
    rcases Table.of_lookup_insert hp with ⟨-, he⟩ | ⟨-, hold⟩
    · cases he
      exact hq
    · exact h.objects i p hold
  have hdone := execute_done r ch task
  generalize (r.execute ch task).1 = r', (r.execute ch task).2 = fx at hdone
  cases hdone with
  | enterAtOnce q _ => exact hadd q ht
  | appear q _ => exact hadd q ht
  | startGame => exact (h.executeStartGame ch.handle).objects
  | ready _ _ _ => exact (h.executeStartGame ch.handle).objects
  | tick _ => exact fun i p hp => h.objects i p (update_lookup hp)
  | leaveOthers x q _ _ => exact fun i p hp => h.objects i p (Table.of_lookup_erase hp).2
  | leaveEmpty x q _ _ =>
    intro i p hp
    unfold vacate at hp
    split at hp <;> cases hp
  | stop => nofun
  | reset => nofun
  | _ => exact h.objects

theorem Room.execute_load {p : Player} (h : (r.execute ch task).2.load = some p) :
    task.player = some p := by
  have hdone := execute_done r ch task
  generalize (r.execute ch task).1 = r', (r.execute ch task).2 = fx at hdone h
  cases hdone with
  | enterLoading q _ => exact h
  | _ => cases h

theorem RoomStrand.AllNamed.perform (h : st.AllNamed P) (ch : RoomChoice) {rest : List RoomTask}
    (hq : st.queue = task :: rest) : (st.perform ch task rest).1.AllNamed P := by
  obtain ⟨ht, hrest⟩ := List.forall_mem_cons.mp (hq ▸ h.queue)
  refine ⟨h.room.execute ht, List.forall_mem_append.mpr ⟨hrest, fun t hposted => ?_⟩,
    List.forall_mem_append.mpr ⟨h.loading, fun p hp => ?_⟩⟩
  · rcases Room.posted_cases hposted with rfl | ⟨isWin, rfl⟩ <;> trivial
  · exact elim_true_iff.mp ht p (Room.execute_load (Option.mem_toList.mp hp))

end

namespace GameServer

variable {P : Player → Prop} {s s' : GameServer} {x : SessionId}

namespace AllNamed

theorem setRoom (h : s.AllNamed P) (hst : st.AllNamed P) (k : Int) :
    (s.setRoom k st).AllNamed P := by
  refine ⟨h.registry, fun j st' hst' => ?_, h.queue⟩
  rcases Table.of_lookup_insert hst' with ⟨-, rfl⟩ | ⟨-, hold⟩
  · exact hst
  · exact h.rooms j st' hold

theorem postTask (h : s.AllNamed P) (k : Int) (task : RoomTask) (ht : task.player.elim True P) :
    (s.postTask k task).AllNamed P := by
  rcases postTask_eq s k task with ⟨-, he⟩ | ⟨st, hst, he⟩
  · rwa [he]
  · rw [he]
    exact h.setRoom ((h.rooms k st hst).post task ht) k

theorem push (h : s.AllNamed P) (thread : ThreadId) (m : GameMessage) (hm : m.player.elim True P) :
    { s with queue := s.queue ++ [(thread, m)] }.AllNamed P :=
  ⟨h.registry, h.rooms, List.forall_mem_append.mpr ⟨h.queue, List.forall_mem_singleton.mpr hm⟩⟩

theorem close (h : s.AllNamed P) (thread : ThreadId) : (s.close thread x).AllNamed P := by
  unfold GameServer.close
  split
  · exact h
  · obtain ⟨hreg, hrooms, hqueue⟩ := h.push thread (.networkDisconnect x) trivial
    exact ⟨hreg, hrooms, hqueue⟩

theorem leaveRegistered (h : s.AllNamed P) : (s.leaveRegistered x).AllNamed P := by
  unfold GameServer.leaveRegistered
  split
  · exact h
  · next q hq =>
    obtain ⟨hreg, hrooms, hqueue⟩ := h.postTask (s.roomOf q) (.leave x) trivial
    exact ⟨fun y p hy => hreg y p (Table.of_lookup_erase hy).2, hrooms, hqueue⟩

/-- A packet refers to nobody new, but for the player that it makes. -/
theorem handled {packet : ClientPacket} (h : s.AllNamed P) (hh : Handled s x packet s')
    (hnew : P ⟨s.nextPlayer, x⟩) : s'.AllNamed P := by
  cases hh with
  | unchanged => exact h
  | login => exact h.push dispatcherThread (.loginRequest x) trivial
  | enterLobby => exact ⟨h.registry, h.rooms, h.queue⟩
  | joinRoom roomId _ _ =>
    have hnext : { s with nextPlayer := s.nextPlayer + 1 }.AllNamed P :=
      ⟨h.registry, h.rooms, h.queue⟩
    exact (hnext.postTask roomId (.enter _) hnew).push dispatcherThread (.roomJoined x _) hnew
  | leaveRoom => exact h.push dispatcherThread (.roomLeft x) trivial
  | createRoom handle =>
    have hnext : { s with nextRoomId := s.nextRoomId + 1 }.AllNamed P :=
      ⟨h.registry, h.rooms, h.queue⟩
    exact hnext.setRoom (allNamed_make ..) s.nextRoomId
  | gameReady q _ => exact h.postTask (s.roomOf q) _ trivial
  | ping => exact h.close dispatcherThread

theorem handleMessage (h : s.AllNamed P) (hnew : ∀ p, p.id = s.nextPlayer → P p) {thread : ThreadId}
    {handle : Nat} {m : GameMessage} {rest : List (ThreadId × GameMessage)}
    (hd : ProducerQueue.dequeue thread s.queue = some (m, rest)) :
    ({ s with queue := rest }.handleMessage handle m).AllNamed P := by
  obtain ⟨hmem, hrest⟩ := ProducerQueue.dequeue_mem hd
  have htaken : { s with queue := rest }.AllNamed P :=
    ⟨h.registry, h.rooms, fun e he => h.queue e (hrest e he)⟩
  cases m with
  | packet x packet =>
    unfold GameServer.handleMessage
    dsimp only
    split
    · exact htaken
    · exact htaken.handled (handled_handlePacket _ x handle packet) (hnew _ rfl)
  | networkDisconnect x => exact htaken.push dispatcherThread (.sessionDisconnected x) trivial
  | loginRequest x => exact ⟨htaken.registry, htaken.rooms, htaken.queue⟩
  | roomJoined x q =>
    refine ⟨fun y p hy => ?_, htaken.rooms, htaken.queue⟩
    rcases Table.of_lookup_insert hy with ⟨-, rfl⟩ | ⟨-, hold⟩
    · -- the message named the player
      exact h.queue _ hmem
    · exact h.registry y p hold
  | roomLeft x =>
    obtain ⟨hreg, hrooms, hqueue⟩ := htaken.leaveRegistered (x := x)
    exact ⟨hreg, hrooms, hqueue⟩
  | sessionDisconnected x =>
    show (handleSessionDisconnected { s with queue := rest } x).AllNamed P
    rw [handleSessionDisconnected_eq]
    exact leaveRegistered ⟨htaken.registry, htaken.rooms, htaken.queue⟩

theorem step (h : s.AllNamed P) (hnew : ∀ p, p.id = s.nextPlayer → P p) {a : GameAction}
    (hs : s.step a = some s') : s'.AllNamed P := by
  cases stepped_of_step hs with
  | arrived thread x packet _ => exact h.push thread (.packet x packet) trivial
  | closed thread x _ => exact h.close thread
  | processed thread handle m rest hd => exact h.handleMessage hnew hd
  | loginDone i x success _ =>
    unfold loginCallback
    split
    · exact ⟨h.registry, h.rooms, h.queue⟩
    · exact ⟨h.registry, h.rooms, h.queue⟩
  | ticked roomId st hst =>
    refine h.setRoom ?_ roomId
    have hroom := h.rooms roomId st hst
    unfold RoomStrand.onTimer
    split
    · exact hroom
    · have hset : { st with room := { st.room with isUpdating := true } }.AllNamed P :=
        ⟨⟨hroom.room.players, hroom.room.objects⟩, hroom.queue, hroom.loading⟩
      exact hset.post .update trivial
  | skillsLoaded roomId i st q hst hi =>
    have hroom := h.rooms roomId st hst
    have hless : { st with loading := st.loading.eraseIdx i }.AllNamed P :=
      ⟨hroom.room, hroom.queue, fun p hp => hroom.loading p (List.mem_of_mem_eraseIdx hp)⟩
    -- the answer of the database names a player that was waited for
    exact h.setRoom (hless.post (.skillsLoaded q) (hroom.loading q (List.mem_of_getElem? hi)))
      roomId
  | ran roomId ch st task rest hst hq =>
    have hran := h.setRoom ((h.rooms roomId st hst).perform ch hq) roomId
    obtain ⟨_, he⟩ :=
      move_frame (s.setRoom roomId (st.perform ch task rest).1) (st.perform ch task rest).2.moved
    rw [he]
    exact ⟨hran.registry, hran.rooms, hran.queue⟩

end AllNamed

theorem nextPlayer_handled {packet : ClientPacket} (hh : Handled s x packet s') :
    s.nextPlayer ≤ s'.nextPlayer := by
  cases hh with
  | joinRoom roomId _ _ => exact Nat.le_succ _
  | ping =>
    obtain ⟨_, _, he, -⟩ := close_frame s dispatcherThread x
    rw [he]
  | _ => exact Nat.le_refl _

theorem nextPlayer_leaveRegistered (s : GameServer) (x : SessionId) :
    (s.leaveRegistered x).nextPlayer = s.nextPlayer := by
  obtain ⟨_, _, he⟩ := leaveRegistered_frame s x
  rw [he]

theorem nextPlayer_handleMessage (s : GameServer) (handle : Nat) (m : GameMessage) :
    s.nextPlayer ≤ (s.handleMessage handle m).nextPlayer := by
  cases m with
  | packet x packet =>
    unfold handleMessage
    dsimp only
    split
    · exact Nat.le_refl _
    · exact nextPlayer_handled (handled_handlePacket s x handle packet)
  | roomLeft x => exact (nextPlayer_leaveRegistered s x).ge
  | sessionDisconnected x =>
    show s.nextPlayer ≤ (s.handleSessionDisconnected x).nextPlayer
    rw [handleSessionDisconnected_eq, nextPlayer_leaveRegistered]
    exact Nat.le_refl _
  | _ => exact Nat.le_refl _

theorem nextPlayer_step {a : GameAction} (hs : s.step a = some s') :
    s.nextPlayer ≤ s'.nextPlayer := by
  cases stepped_of_step hs with
  | closed thread x _ =>
    obtain ⟨_, _, he, -⟩ := close_frame s thread x
    rw [he]
  | processed thread handle m rest hd =>
    exact nextPlayer_handleMessage { s with queue := rest } handle m
  | loginDone i x success _ =>
    unfold loginCallback
    split <;> exact Nat.le_refl _
  | ran roomId ch st task rest hst hq =>
    obtain ⟨_, he⟩ :=
      move_frame (s.setRoom roomId (st.perform ch task rest).1) (st.perform ch task rest).2.moved
    rw [he]
    exact Nat.le_refl _
  | _ => exact Nat.le_refl _

/-- **References come from references**: a step refers to nobody but who was referred to, and new
players. -/
theorem named_step {a : GameAction} (hs : s.step a = some s') :
    s.nextPlayer ≤ s'.nextPlayer ∧ ∀ p ∈ s'.named, p ∈ s.named ∨ p.id = s.nextPlayer := by
  have hold : s.AllNamed fun p => p ∈ s.named ∨ p.id = s.nextPlayer :=
    allNamed_iff.mpr fun p hp => .inl hp
  exact ⟨nextPlayer_step hs, allNamed_iff.mp (hold.step (fun p hp => .inr hp) hs)⟩

theorem refs_eq_zero {k : Nat} : s.refs k = 0 ↔ ∀ p ∈ s.named, p.id ≠ k := by
  unfold refs
  simp [List.countP_eq_zero]

/-- **What nobody refers to stays so.** -/
theorem refs_step {a : GameAction} (hs : s.step a = some s') {k : Nat} (hk : k < s.nextPlayer)
    (h : s.refs k = 0) : s'.refs k = 0 := by
  rw [refs_eq_zero] at h ⊢
  intro p hp
  rcases (named_step hs).2 p hp with hold | hnew
  · exact h p hold
  · omega

end GameServer

/-! ## The account -/

namespace Leaks

variable {data : SimpleGame.DataManager} {s s' : Leaks}

theorem settle_pool (s s' : Leaks) : (s.settle s').pool = s'.pool := by
  have hfold : ∀ (gone pool : List Nat), gone.foldl release pool = pool := by
    intro gone
    induction gone with
    | nil => exact fun pool => rfl
    | cons k gone ih => exact fun pool => ih (release pool k)
  exact hfold _ _

/-- What a step can do: something happens to the server, or to the emitters of a player that is
referred to.  The pool stays as it is. -/
theorem step_cases {a : LeakAction} (h : s.step data a = some s') :
    (∃ b, s.server.step b = some s'.server ∧ s'.body = s.body ∧ s'.pool = s.pool) ∨
      ∃ (k : Nat) (f : SimpleGame.Player → SimpleGame.Player), 0 < s.server.refs k ∧
        s'.server = s.server ∧
        s'.body = Function.update s.body k (f (s.body k)) ∧ s'.pool = s.pool := by
  obtain ⟨t, ht, rfl⟩ := Option.map_eq_some_iff.mp h
  have hchange : ∀ k f, s.change k f = some t → 0 < s.server.refs k ∧
      t = { s with body := Function.update s.body k (f (s.body k)) } := by
    intro k f hc
    unfold change at hc
    split at hc
    · next hpos =>
      cases hc
      exact ⟨hpos, rfl⟩
    · cases hc
  cases a with
  | server b =>
    obtain ⟨server, hb, rfl⟩ := Option.map_eq_some_iff.mp ht
    exact .inl ⟨b, hb, rfl, settle_pool _ _⟩
  | acquire k weaponId =>
    obtain ⟨hpos, rfl⟩ := hchange k _ ht
    exact .inr ⟨k, _, hpos, rfl, rfl, settle_pool _ _⟩
  | expire k expired =>
    obtain ⟨hpos, rfl⟩ := hchange k _ ht
    exact .inr ⟨k, _, hpos, rfl, rfl, settle_pool _ _⟩

/-- The player was made and nobody refers to it, but for its `n` emitters. -/
def Leaked (k n : Nat) (s : Leaks) : Prop :=
  k < s.server.nextPlayer ∧ s.server.refs k = 0 ∧ (s.body k).emitters.length = n

theorem Leaked.step {k n : Nat} {a : LeakAction} (hl : s.Leaked k n) (h : s.step data a = some s') :
    s'.Leaked k n := by
  obtain ⟨hk, hzero, hlen⟩ := hl
  rcases step_cases h with ⟨b, hb, hbody, -⟩ | ⟨j, f, hpos, hserver, hbody, -⟩
  · exact ⟨hk.trans_le (GameServer.named_step hb).1,
      GameServer.refs_step hb hk hzero, by rw [hbody]; exact hlen⟩
  · have hne : k ≠ j := by
      rintro rfl
      omega
    refine ⟨hserver ▸ hk, hserver ▸ hzero, ?_⟩
    rw [hbody, Function.update_of_ne hne]
    exact hlen

/-- **A leaked player stays leaked**, with a reference from each of its emitters. -/
theorem leaked_run {k n : Nat} {as : List LeakAction} {s t : Leaks} (hl : s.Leaked k n)
    (h : run (step data) s as = some t) : t.Leaked k n ∧ t.count k = n := by
  have ht : t.Leaked k n := run_inv (Leaked k n) (fun _ _ _ hl hs => hl.step hs) hl h
  refine ⟨ht, ?_⟩
  unfold count
  rw [ht.2.1, ht.2.2, Nat.zero_add]

theorem pool_run {hasUserDB : Bool} {handle : Nat} {as : List LeakAction}
    (h : run (step data) (start hasUserDB handle) as = some s) : s.pool = [] := by
  refine run_inv (fun s => s.pool = []) (fun s a s' hs hstep => ?_) rfl h
  rcases step_cases hstep with ⟨-, -, -, hpool⟩ | ⟨-, -, -, -, -, hpool⟩
  · exact hpool.trans hs
  · exact hpool.trans hs

/-- **Players are not leaked** exactly as long as every player that was made is still referred to
from a room, the registry or a queued task. -/
theorem not_leaked_iff (data : SimpleGame.DataManager) (hasUserDB : Bool) (handle : Nat)
    (as : List LeakAction) (s : Leaks) (h : run (step data) (start hasUserDB handle) as = some s) :
    s.NotLeaked ↔ ∀ k < s.server.nextPlayer, 0 < s.server.refs k := by
  have hpool := pool_run h
  constructor
  · rintro ⟨hback, -⟩ k hk
    by_contra hzero
    have hmem := (hback k (List.mem_range.mpr hk) (Nat.eq_zero_of_not_pos hzero)).2
    rw [hpool] at hmem
    exact absurd hmem List.not_mem_nil
  · intro hall
    refine ⟨fun k hk hzero => ?_, ?_⟩
    · have := hall k (List.mem_range.mp hk)
      omega
    · have hsame : (s.made.filter fun k => 0 < s.server.refs k) = s.made :=
        List.filter_eq_self.mpr fun k hk => decide_eq_true (hall k (List.mem_range.mp hk))
      rw [hsame, hpool, List.length_nil, Nat.zero_add]

/-- A player joins the first room and is in it when its message has been processed. -/
def joined : List LeakAction :=
  [.packet 1 7 (.joinRoom 1), .process 1 0, .process 0 0,
    .runTask 1 RoomStrand.noChoice].map .server

/-- It leaves, and the tasks that are left in the room run: the start of the game and its
departure. -/
def left : List LeakAction :=
  [.packet 1 7 .leaveRoom, .process 1 0, .process 0 0, .runTask 1 RoomStrand.noChoice,
    .runTask 1 RoomStrand.noChoice].map .server

theorem not_leaked_iff_joined :
    ∃ t, run (step SimpleGame.smallData) (start false 0) (joined ++ [.acquire 0 7]) = some t ∧
      t.count 0 = 4 ∧
      (t.NotLeaked ↔ ∀ k < t.server.nextPlayer, 0 < t.server.refs k) ∧ t.NotLeaked := by
  obtain ⟨t, ht, hcount, hnot⟩ : ∃ t,
      run (step SimpleGame.smallData) (start false 0) (joined ++ [.acquire 0 7]) = some t ∧
      t.count 0 = 4 ∧ t.NotLeaked := by decide +kernel
  exact ⟨t, ht, hcount, not_leaked_iff SimpleGame.smallData false 0 _ t ht, hnot⟩

theorem leaked_run_rejoined :
    ∃ s, run (step SimpleGame.smallData) (start false 0) (joined ++ .acquire 0 7 :: left) = some s ∧
      ∃ t, run (step SimpleGame.smallData) s joined = some t ∧ t.count 0 = 1 := by
  obtain ⟨s, hs, hl, t, ht, -⟩ :
      ∃ s, run (step SimpleGame.smallData) (start false 0)
        (joined ++ .acquire 0 7 :: left) = some s ∧
        (0 < s.server.nextPlayer ∧ s.server.refs 0 = 0 ∧ (s.body 0).emitters.length = 1) ∧
          ∃ t, run (step SimpleGame.smallData) s joined = some t ∧ t.server.nextPlayer = 2 := by
    decide +kernel
  exact ⟨s, hs, t, ht, (leaked_run hl ht).2⟩

/-- **A player that left is lost**: without a weapon its count reaches zero and it is not in the
pool; with one, the emitter and the player keep each other. -/
theorem left_and_lost :
    (∃ t, run (step SimpleGame.smallData) (start false 0) (joined ++ left) = some t ∧ t.made = [0] ∧
      t.server.refs 0 = 0 ∧ t.count 0 = 0 ∧ 0 ∉ t.pool ∧ ¬ t.NotLeaked) ∧
    ∃ t, run (step SimpleGame.smallData) (start false 0) (joined ++ .acquire 0 7 :: left) = some t ∧
      t.made = [0] ∧ t.server.refs 0 = 0 ∧ t.count 0 = 1 ∧ 0 ∉ t.pool ∧ ¬ t.NotLeaked := by
  constructor
  · decide +kernel
  · decide +kernel

end Leaks

end ToyServer
