import ToyServer.Game.GameRuns

/-!
# Where the player of a session can be

A `Player` is made when its session joins a room.  From then on it is named in several places: the
`Enter` task, the `RoomJoined` lambda, the registry, `_players` of the room, and in the end a
`Leave` task names its session.  `Whereabouts` says how these hang together; it is what the results
about membership in rooms rest on.  Each change of the server keeps it, two of them under a
condition:

* a session that joins is nowhere yet (`Whereabouts.enterNewPlayer`);
* a player is told to leave when no `Enter` of the session waits (`Whereabouts.leaveRegistered`).
-/

namespace ToyServer

open Runs

namespace GameServer

variable {s s' : GameServer}

/-! ## Where a player of a session can be -/

/-- The player is in the room, or will be when its `Enter` runs. -/
def Present (s : GameServer) (k : Int) (x : SessionId) (p : Player) : Prop :=
  s.InRoom k x p ∨ p.sessionId = x ∧ s.Waits k (.enter p)

/-- No `Enter` of the session waits at a room. -/
def NoEnter (s : GameServer) (x : SessionId) : Prop :=
  ∀ k p, p.sessionId = x → ¬ s.Waits k (.enter p)

/-- All that is said of a session's players is said of one player, and it is in one room.  Unless
the session has departed, the server still knows of it: by the registry, a `RoomJoined`, or a
`Leave`. -/
structure Whereabouts (s : GameServer) : Prop where
  own : ∀ k x p, s.InRoom k x p → p.sessionId = x
  unique : ∀ k k' x p p', s.Present k x p → s.Present k' x p' → k = k' ∧ p = p'
  joined : ∀ k x p q, s.Queued (.roomJoined x q) → s.Present k x p → q = p
  registered : ∀ k x p q, s.registry.lookup x = some q → s.Present k x p → q = p
  moved : ∀ k x p, s.InRoom k x p → s.roomOf p = k
  accounted : ∀ k x p, s.Present k x p → x ∈ s.departed ∨ s.registry.lookup x = some p ∨
    s.Queued (.roomJoined x p) ∨ s.Waits k (.leave x)
  noEnter : ∀ k x, s.Waits k (.leave x) → x ∈ s.departed ∨ s.NoEnter x

/-- A change that brings nobody into a room and neither posts nor loses a `Leave` that somebody
needs. -/
structure Calm (s s' : GameServer) : Prop where
  inRoom : ∀ k x p, s'.InRoom k x p → s.InRoom k x p
  enter : ∀ k p, s'.Waits k (.enter p) → s.Waits k (.enter p)
  leave : ∀ k x, s'.Waits k (.leave x) → s.Waits k (.leave x)
  keeps : ∀ k x p, s'.Present k x p → s.Waits k (.leave x) → s'.Waits k (.leave x)

variable {x : SessionId}

theorem Calm.present (h : Calm s s') {k : Int} {p : Player} (hp : s'.Present k x p) :
    s.Present k x p :=
  hp.imp (h.inRoom k x p) fun hw => ⟨hw.1, h.enter k p hw.2⟩

theorem calm_of_rooms (h : s'.rooms = s.rooms) : Calm s s' := by
  have hin : ∀ k x p, s'.InRoom k x p ↔ s.InRoom k x p := fun k x p => by unfold InRoom; rw [h]
  have hwait : ∀ k t, s'.Waits k t ↔ s.Waits k t := fun k t => by unfold Waits; rw [h]
  exact ⟨fun k x p => (hin k x p).mp, fun k p => (hwait k _).mp, fun k x => (hwait k _).mp,
    fun k x _ _ => (hwait k _).mpr⟩

theorem calm_postTask {k : Int} {task : RoomTask} (h : Minor task) :
    Calm s (s.postTask k task) where
  inRoom := fun _ _ _ => inRoom_postTask.mp
  enter := fun j p hw => by
    rcases waits_postTask.mp hw with hold | ⟨_, he, _⟩
    · exact hold
    · exact absurd he.symm (h.1 p)
  leave := fun j x hw => by
    rcases waits_postTask.mp hw with hold | ⟨_, he, _⟩
    · exact hold
    · exact absurd he.symm (h.2 x)
  keeps := fun _ _ _ _ hw => waits_postTask.mpr (.inl hw)

theorem calm_setRoom {k : Int} {st st' : RoomStrand} (hst : s.rooms.lookup k = some st)
    (hplayers : st'.room.players = st.room.players)
    (hqueue : st'.queue = st.queue ∨ ∃ task, Minor task ∧ st'.queue = st.queue ++ [task]) :
    Calm s (s.setRoom k st') := by
  have hold : ∀ t ∈ st.queue, t ∈ st'.queue := by
    intro t ht
    rcases hqueue with he | ⟨task, _, he⟩
    · rw [he]
      exact ht
    · rw [he]
      exact List.mem_append_left _ ht
  have hnew : ∀ t ∈ st'.queue, t ∈ st.queue ∨ Minor t := by
    intro t ht
    rcases hqueue with he | ⟨task, hminor, he⟩
    · exact .inl (he ▸ ht)
    · rw [he] at ht
      rcases mem_concat.mp ht with hq | hq
      · exact .inl hq
      · exact .inr (hq ▸ hminor)
  refine ⟨fun j x p hin => ?_, fun j p hw => ?_, fun j x hw => ?_, fun j x p _ hw => ?_⟩
  · rcases inRoom_setRoom.mp hin with ⟨rfl, hp⟩ | ⟨_, h⟩
    · exact ⟨st, hst, hplayers ▸ hp⟩
    · exact h
  · rcases waits_setRoom.mp hw with ⟨rfl, ht⟩ | ⟨_, h⟩
    · rcases hnew _ ht with hq | hminor
      · exact ⟨st, hst, hq⟩
      · exact absurd rfl (hminor.1 p)
    · exact h
  · rcases waits_setRoom.mp hw with ⟨rfl, ht⟩ | ⟨_, h⟩
    · rcases hnew _ ht with hq | hminor
      · exact ⟨st, hst, hq⟩
      · exact absurd rfl (hminor.2 x)
    · exact h
  · refine waits_setRoom.mpr ?_
    by_cases hj : j = k
    · obtain ⟨st₀, hst₀, ht⟩ := hw
      subst hj
      rw [hst] at hst₀
      cases hst₀
      exact .inl ⟨rfl, hold _ ht⟩
    · exact .inr ⟨hj, hw⟩

section
variable {k : Int} {st : RoomStrand}

theorem calm_onTimer (hst : s.rooms.lookup k = some st) : Calm s (s.setRoom k st.onTimer) := by
  unfold RoomStrand.onTimer
  split
  · exact calm_setRoom hst rfl (.inl rfl)
  · exact calm_setRoom hst rfl (.inr ⟨.update, ⟨by simp, by simp⟩, rfl⟩)

theorem calm_skillsLoaded (hst : s.rooms.lookup k = some st) {i : Nat} {p : Player} :
    Calm s (s.setRoom k ({ st with loading := st.loading.eraseIdx i }.post (.skillsLoaded p))) :=
  calm_setRoom hst rfl (.inr ⟨.skillsLoaded p, ⟨by simp, by simp⟩, rfl⟩)

theorem calm_newRoom (hplayers : st.room.players = ∅) (hqueue : st.queue = []) :
    Calm s (s.setRoom k st) := by
  have hin : ∀ j x p, (s.setRoom k st).InRoom j x p → j ≠ k ∧ s.InRoom j x p := by
    intro j x p h
    rcases inRoom_setRoom.mp h with ⟨_, hp⟩ | h
    · rw [hplayers] at hp
      cases hp
    · exact h
  have hwait : ∀ j t, (s.setRoom k st).Waits j t → j ≠ k ∧ s.Waits j t := by
    intro j t h
    rcases waits_setRoom.mp h with ⟨_, ht⟩ | h
    · rw [hqueue] at ht
      cases ht
    · exact h
  refine ⟨fun j x p h => (hin j x p h).2, fun j p h => (hwait j _ h).2,
    fun j x h => (hwait j _ h).2, fun j x p hp hw => waits_setRoom.mpr (.inr ⟨?_, hw⟩)⟩
  rcases hp with h | ⟨_, h⟩
  · exact (hin j x p h).1
  · exact (hwait j _ h).1

end

namespace Whereabouts

section

variable (h : Whereabouts s)
include h

theorem frame (hc : Calm s s') (hreg : s'.registry = s.registry) (hof : s'.roomOf = s.roomOf)
    (hdep : ∀ x ∈ s.departed, x ∈ s'.departed)
    (hqueue : ∀ x p, s'.Queued (.roomJoined x p) ↔ s.Queued (.roomJoined x p)) :
    Whereabouts s' where
  own := fun k x p hp => h.own k x p (hc.inRoom k x p hp)
  unique := fun k k' x p p' hp hp' => h.unique k k' x p p' (hc.present hp) (hc.present hp')
  joined := fun k x p q hq hp => h.joined k x p q ((hqueue x q).mp hq) (hc.present hp)
  registered := fun k x p q hr hp => h.registered k x p q (hreg ▸ hr) (hc.present hp)
  moved := fun k x p hp => by
    rw [hof]
    exact h.moved k x p (hc.inRoom k x p hp)
  accounted := fun k x p hp => by
    rw [hreg, hqueue]
    rcases h.accounted k x p (hc.present hp) with hd | hr | hq | hl
    · exact .inl (hdep x hd)
    · exact .inr (.inl hr)
    · exact .inr (.inr (.inl hq))
    · exact .inr (.inr (.inr (hc.keeps k x p hp hl)))
  noEnter := fun k x hl => by
    rcases h.noEnter k x (hc.leave k x hl) with hd | hn
    · exact .inl (hdep x hd)
    · exact .inr fun j p hp hw => hn j p hp (hc.enter j p hw)

theorem of_eq (hrooms : s'.rooms = s.rooms) (hreg : s'.registry = s.registry)
    (hof : s'.roomOf = s.roomOf) (hdep : s'.departed = s.departed) (hqueue : s'.queue = s.queue) :
    Whereabouts s' :=
  h.frame (calm_of_rooms hrooms) hreg hof (fun _ hx => hdep ▸ hx) fun _ _ => by
    unfold Queued
    rw [hqueue]

theorem absent (hdep : x ∉ s.departed) (hreg : s.registry.lookup x = none)
    (hjoin : ∀ p, ¬ s.Queued (.roomJoined x p)) (hleave : ∀ k, ¬ s.Waits k (.leave x)) (k : Int)
    (p : Player) : ¬ s.Present k x p := by
  intro hp
  rcases h.accounted k x p hp with hd | hr | hq | hl
  · exact hdep hd
  · rw [hreg] at hr
    cases hr
  · exact hjoin p hq
  · exact hleave k hl

theorem enterNewPlayer {k : Int} (hdep : x ∉ s.departed)
    (hreg : s.registry.lookup x = none) (hjoin : ∀ p, ¬ s.Queued (.roomJoined x p))
    (hleave : ∀ k, ¬ s.Waits k (.leave x)) : Whereabouts (s.enterNewPlayer x k) := by
  let p₀ : Player := ⟨s.nextPlayer, x⟩
  have habsent := h.absent hdep hreg hjoin hleave
  let s₁ : GameServer := { s with nextPlayer := s.nextPlayer + 1 }
  have hin : ∀ j y p, (s.enterNewPlayer x k).InRoom j y p ↔ s.InRoom j y p := fun j y p => by
    have hposted : (s₁.postTask k (.enter p₀)).InRoom j y p ↔ s₁.InRoom j y p := inRoom_postTask
    exact hposted
  have hposted : ∀ j t, (s₁.postTask k (.enter p₀)).Waits j t ↔
      s₁.Waits j t ∨ (j = k ∧ t = .enter p₀ ∧ (s₁.rooms.lookup k).isSome) :=
        fun j t => waits_postTask
  have hwait : ∀ j t, (s.enterNewPlayer x k).Waits j t → s.Waits j t ∨ j = k ∧ t = .enter p₀ :=
    fun j t hw =>
    ((hposted j t).mp hw).imp id fun hn => ⟨hn.1, hn.2.1⟩
  have hwaitOld : ∀ j t, s.Waits j t → (s.enterNewPlayer x k).Waits j t :=
    fun j t hw => (hposted j t).mpr (.inl hw)
  have hqueued : ∀ m, (s.enterNewPlayer x k).Queued m ↔ s.Queued m ∨ m = .roomJoined x p₀ :=
    fun m => queued_publish
  have hpresent : ∀ j y p, (s.enterNewPlayer x k).Present j y p → s.Present j y p ∨ j = k ∧
      y = x ∧ p = p₀ := by
    rintro j y p (hp | ⟨hy, hw⟩)
    · exact .inl (.inl ((hin j y p).mp hp))
    · rcases hwait j _ hw with hold | ⟨hj, he⟩
      · exact .inl (.inr ⟨hy, hold⟩)
      · cases he
        exact .inr ⟨hj, hy.symm, rfl⟩
  refine ⟨fun j y p hp => h.own j y p ((hin j y p).mp hp), fun j j' y p p' hp hp' => ?_,
    fun j y p q hq hp => ?_,
    fun j y p q hr hp => ?_, fun j y p hp => h.moved j y p ((hin j y p).mp hp), fun j y p hp =>
      ?_, fun j y hl => ?_⟩
  · rcases hpresent j y p hp with h1 | ⟨rfl, rfl, rfl⟩
    · rcases hpresent j' y p' hp' with h2 | ⟨_, rfl, _⟩
      · exact h.unique j j' y p p' h1 h2
      · exact absurd h1 (habsent j p)
    · rcases hpresent j' _ p' hp' with h2 | ⟨rfl, _, rfl⟩
      · exact absurd h2 (habsent j' p')
      · exact ⟨rfl, rfl⟩
  · rcases hpresent j y p hp with h1 | ⟨_, rfl, rfl⟩
    · rcases (hqueued _).mp hq with hold | hnew
      · exact h.joined j y p q hold h1
      · cases hnew
        exact absurd h1 (habsent j p)
    · rcases (hqueued _).mp hq with hold | hnew
      · exact absurd hold (hjoin q)
      · injection hnew
  · rcases hpresent j y p hp with h1 | ⟨_, rfl, _⟩
    · exact h.registered j y p q hr h1
    · have hr' : s.registry.lookup y = some q := hr
      rw [hreg] at hr'
      cases hr'
  · rcases hpresent j y p hp with h1 | ⟨_, rfl, rfl⟩
    · rcases h.accounted j y p h1 with hd | hr | hq | hl
      · exact .inl hd
      · exact .inr (.inl hr)
      · exact .inr (.inr (.inl ((hqueued _).mpr (.inl hq))))
      · exact .inr (.inr (.inr (hwaitOld j _ hl)))
    · exact .inr (.inr (.inl ((hqueued _).mpr (.inr rfl))))
  · rcases hwait j _ hl with hold | ⟨_, he⟩
    · refine (h.noEnter j y hold).imp id fun hn i p hp hw => ?_
      rcases hwait i _ hw with hw | ⟨_, he⟩
      · exact hn i p hp hw
      · -- the session that joins has no `Leave`
        cases he
        subst hp
        exact hleave j hold
    · cases he

theorem handleRoomJoined {thread : ThreadId} {p₀ : Player}
    {rest : List (ThreadId × GameMessage)}
    (hd : ProducerQueue.dequeue thread s.queue = some (.roomJoined x p₀, rest)) :
    Whereabouts ({ s with queue := rest }.handleRoomJoined x p₀) := by
  have hmsg : s.Queued (.roomJoined x p₀) := ⟨thread, (ProducerQueue.dequeue_mem hd).1⟩
  have hlookup : ∀ y, ({ s with queue := rest }.handleRoomJoined x p₀).registry.lookup y =
      if y = x then some p₀ else s.registry.lookup y := fun y => Table.lookup_insert_ite _ _ _ _
  refine ⟨h.own, h.unique, fun k y p q hq hp => h.joined k y p q (queued_of_rest hd hq) hp,
    fun k y p q hr hp => ?_, h.moved, fun k y p hp => ?_, h.noEnter⟩
  · rw [hlookup] at hr
    split at hr
    · next hy =>
      cases hr
      subst hy
      exact h.joined k y p _ hmsg hp
    · exact h.registered k y p q hr hp
  · rw [hlookup]
    by_cases hy : y = x
    · subst hy
      rw [if_pos rfl, h.joined k y p p₀ hmsg hp]
      exact .inr (.inl rfl)
    · rw [if_neg hy]
      refine (h.accounted k y p hp).imp id (Or.imp id (Or.imp (fun hq => ?_) id))
      rcases queued_rest hd hq with he | hrest
      · cases he
        exact absurd rfl hy
      · exact hrest

/-- The registered player is told to leave the room it is in, if it is in one already. -/
theorem leaveRegistered (hx : x ∈ s.departed ∨ s.NoEnter x) :
    Whereabouts (s.leaveRegistered x) := by
  obtain ⟨rooms, registry, he⟩ := leaveRegistered_frame s x
  have hof : (s.leaveRegistered x).roomOf = s.roomOf := by rw [he]
  have hdep : (s.leaveRegistered x).departed = s.departed := by rw [he]
  have hqueued : ∀ m, (s.leaveRegistered x).Queued m ↔ s.Queued m := fun m => by
    rw [he]
    exact Iff.rfl
  have henter : ∀ j p, (s.leaveRegistered x).Waits j (.enter p) → s.Waits j (.enter p) := by
    intro j p hw
    rcases waits_leaveRegistered.mp hw with hold | ⟨hleave, _⟩
    · exact hold
    · cases hleave
  have hpresent : ∀ j y p, (s.leaveRegistered x).Present j y p → s.Present j y p := fun j y p hp =>
    hp.imp inRoom_leaveRegistered.mp fun hw => ⟨hw.1, henter j p hw.2⟩
  refine ⟨fun j y p hp => h.own j y p (inRoom_leaveRegistered.mp hp),
    fun j j' y p p' hp hp' => h.unique j j' y p p' (hpresent j y p hp) (hpresent j' y p' hp'),
    fun j y p q hq hp => h.joined j y p q ((hqueued _).mp hq) (hpresent j y p hp),
    fun j y p q hr hp => ?_,
    fun j y p hp => ?_, fun j y p hp => ?_, fun j y hl => ?_⟩
  · rw [leaveRegistered_lookup] at hr
    split at hr
    · cases hr
    · exact h.registered j y p q hr (hpresent j y p hp)
  · rw [hof]
    exact h.moved j y p (inRoom_leaveRegistered.mp hp)
  · rw [hdep, hqueued, leaveRegistered_lookup]
    have hp' := hpresent j y p hp
    rcases h.accounted j y p hp' with hd | hr | hq | hl
    · exact .inl hd
    · by_cases hy : y = x
      · subst hy
        rcases hx with hd | hno
        · exact .inl hd
        · -- no `Enter` waits, so the player is in the room that it names
          rcases hp' with hroom | ⟨hown, hw⟩
          · have hmoved := h.moved j y p hroom
            obtain ⟨st, hst, _⟩ := hroom
            have hsome : (s.rooms.lookup j).isSome := by rw [hst]; rfl
            exact .inr
              (.inr (.inr (waits_leaveRegistered.mpr (.inr ⟨rfl, ⟨p, hr, hmoved⟩, hsome⟩))))
          · exact absurd hw (hno j p hown)
      · rw [if_neg hy]
        exact .inr (.inl hr)
    · exact .inr (.inr (.inl hq))
    · exact .inr (.inr (.inr (waits_leaveRegistered.mpr (.inl hl))))
  · rw [hdep]
    have hcase : y ∈ s.departed ∨ s.NoEnter y := by
      rcases waits_leaveRegistered.mp hl with hold | ⟨hleave, _⟩
      · exact h.noEnter j y hold
      · cases hleave
        exact hx
    exact hcase.imp id fun hn i p hp hw => hn i p hp (henter i p hw)

end

end Whereabouts

/-! ## The strand of a room runs a task -/

section RanTask

variable {k : Int} {st : RoomStrand} {ch : RoomChoice} {task : RoomTask} {rest : List RoomTask}
  (hst : s.rooms.lookup k = some st) (hq : st.queue = task :: rest)

include hst hq

/-- `Enter` takes its player from the queue into the room, so nobody is new. -/
theorem ranTask_present {j : Int} {p : Player} (h : (s.ranTask k st ch task rest).Present j x p) :
    s.Present j x p := by
  rcases h with hp | ⟨hx, hw⟩
  · rcases ranTask_inRoom hst hp with hold | ⟨hj, htask, hx⟩
    · exact .inl hold
    · subst hj htask
      exact .inr ⟨hx, waits_head hst hq⟩
  · exact .inr ⟨hx, ranTask_enter hst hq hw⟩

theorem ranTask_moved (h : Whereabouts s) (hids : RoomIds s) {j : Int} {p : Player}
    (hp : (s.ranTask k st ch task rest).InRoom j x p) :
    (s.ranTask k st ch task rest).roomOf p = j := by
  have hbefore := ranTask_present hst hq (.inl hp)
  have hin := ranTask_inRoom hst hp
  have hmoves : st.room.Moves task (st.perform ch task rest).2.moved :=
    Room.execute_moves st.room ch task
  unfold ranTask
  generalize (st.perform ch task rest).2.moved = moved at hmoves
  cases hmoves with
  | enter p₀ =>
    show Function.update s.roomOf p₀ st.room.roomId p = j
    by_cases he : p = p₀
    · subst he
      have hown : p.sessionId = x := by
        rcases hin with hold | ⟨_, _, hx⟩
        · exact h.own j x p hold
        · exact hx
      rw [Function.update_self, hids k st hst]
      exact (h.unique k j x p p (.inr ⟨hown, waits_head hst hq⟩) hbefore).1
    · rw [Function.update_of_ne he]
      rcases hin with hold | ⟨_, htask, _⟩
      · exact h.moved j x p hold
      · cases htask
        exact absurd rfl he
  | leave y p₀ hy =>
    show Function.update s.roomOf p₀ 0 p = j
    have hold : s.InRoom j x p := by
      rcases hin with hold | ⟨_, htask, _⟩
      · exact hold
      · cases htask
    -- the player who left was in this room only
    have hne : p ≠ p₀ := by
      intro he
      subst he
      have hroom : s.InRoom k y p := ⟨st, hst, hy⟩
      have hxy : x = y := (h.own j x p hold).symm.trans (h.own k y p hroom)
      subst hxy
      have hjk : j = k := (h.unique j k x p p (.inl hold) (.inl hroom)).1
      subst hjk
      exact ranTask_leave_gone hp
    rw [Function.update_of_ne hne]
    exact h.moved j x p hold
  | other _ hne =>
    rcases hin with hold | ⟨_, htask, _⟩
    · exact h.moved j x p hold
    · exact absurd htask (hne p)

theorem Whereabouts.ranTask (h : Whereabouts s) (hids : RoomIds s) :
    Whereabouts (s.ranTask k st ch task rest) := by
  obtain ⟨roomOf, he⟩ := ranTask_frame s k st ch task rest
  have hreg : (s.ranTask k st ch task rest).registry = s.registry := by rw [he]
  have hdep : (s.ranTask k st ch task rest).departed = s.departed := by rw [he]
  refine ⟨fun j x p hp => ?_, fun j j' x p p' hp hp' => ?_, fun j x p q hm hp => ?_,
    fun j x p q hr hp => ?_,
    fun j x p hp => ranTask_moved hst hq h hids hp, fun j x p hp => ?_, fun j x hl => ?_⟩
  · rcases ranTask_inRoom hst hp with hold | ⟨_, _, hx⟩
    · exact h.own j x p hold
    · exact hx
  · exact h.unique j j' x p p' (ranTask_present hst hq hp) (ranTask_present hst hq hp')
  · exact h.joined j x p q (queued_ranTask.mp hm) (ranTask_present hst hq hp)
  · exact h.registered j x p q (hreg ▸ hr) (ranTask_present hst hq hp)
  · rw [hreg, hdep, queued_ranTask]
    rcases h.accounted j x p (ranTask_present hst hq hp) with hd | hr | hm | hl
    · exact .inl hd
    · exact .inr (.inl hr)
    · exact .inr (.inr (.inl hm))
    · rcases ranTask_stays hst hq ch hl with ⟨hj, htask⟩ | hstays
      · -- the `Leave` has run: the player is gone, and no `Enter` was behind it
        subst hj htask
        rcases hp with hroom | ⟨hx, hw⟩
        · exact absurd hroom ranTask_leave_gone
        · rcases h.noEnter j x hl with hd | hno
          · exact .inl hd
          · exact absurd (ranTask_enter hst hq hw) (hno j p hx)
      · exact .inr (.inr (.inr hstays))
  · rw [hdep]
    rcases h.noEnter j x (ranTask_leave hst hq hl) with hd | hno
    · exact .inl hd
    · exact .inr fun i p hp hw => hno i p hp (ranTask_enter hst hq hw)

end RanTask

end GameServer

end ToyServer
