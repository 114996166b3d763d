import ToyServer.Game.Room

/-!
# `OnTimer` and `Update`: one tick at a time

`OnTimer` runs on the dispatcher's thread and is two steps, the exchange of `_isUpdating` and the
`Post`; `Update` is a while on the strand and clears the flag when it returns.  `TickStrand` is the
system of a room with these steps taken apart, so that calls and tasks interleave between them.

A tick is pending while it is posted, queued or running.  The flag says so exactly (`Exact`) as long
as no `Reset` overtakes a tick: `ExecuteReset` clears the flag too.
-/

namespace ToyServer

open Runs
open RoomStrand (noChoice)

structure TickStrand where
  strand : RoomStrand
  /-- `OnTimer` has set the flag and not posted yet -/
  posting : Bool
  /-- the strand is in `Update` -/
  running : Bool
deriving DecidableEq

inductive TickAction where
  /-- `compare_exchange_strong` in `OnTimer` -/
  | exchange
  /-- `Post` in `OnTimer` -/
  | post
  /-- the strand takes an `Update` from its queue -/
  | enterUpdate
  | leaveUpdate (ch : RoomChoice)
  /-- any other call or task -/
  | other (a : RoomAction)
deriving DecidableEq, Repr

namespace TickStrand

def make (roomId : Int) (hasUserDB : Bool) (handle : Nat) : TickStrand :=
  ⟨.make roomId hasUserDB handle, false, false⟩

/-- The strand runs a task that is not an `Update`. -/
def runOther (s : TickStrand) (ch : RoomChoice) : Option TickStrand :=
  match s.strand.queue with
  | [] => none
  | .update :: _ => none
  | task :: rest => some { s with strand := (s.strand.perform ch task rest).1 }

def step (s : TickStrand) : TickAction → Option TickStrand
  | .exchange =>
    -- one thread calls `OnTimer`, so the last call has returned
    if s.posting then none
    else if s.strand.room.isUpdating then some s
    else some { s with
      strand := { s.strand with room := { s.strand.room with isUpdating := true } },
      posting := true }
  | .post =>
    if s.posting then some { s with strand := s.strand.post .update, posting := false } else none
  | .enterUpdate =>
    match s.running, s.strand.queue with
    | false, .update :: rest =>
      some { s with strand := { s.strand with queue := rest }, running := true }
    | _, _ => none
  | .leaveUpdate ch =>
    if s.running then some { s with
      strand := (s.strand.perform ch .update s.strand.queue).1, running := false } else none
  | .other .onTimer => none
  | .other (.run ch) => if s.running then none else s.runOther ch
  | .other a => (s.strand.step a).map fun strand => { s with strand }

/-- Ticks that are posted, queued or running. -/
def pending (s : TickStrand) : Nat :=
  s.strand.queue.count .update + s.posting.toNat + s.running.toNat

end TickStrand

/-! ## The flag in one task -/

namespace Room

variable (r : Room)

/-- The task resets the room: `Reset`, or the `Leave` of the last player. -/
def resets : RoomTask → Bool
  | .reset => true
  | .leave sessionId =>
    (r.players.lookup sessionId).isSome && decide ((r.players.erase sessionId).keys = [])
  | _ => false

theorem vacate_isUpdating : r.vacate.isUpdating = false := by
  unfold vacate
  split <;> rfl

theorem executeStartGame_isUpdating (handle : Nat) :
    (r.executeStartGame handle).isUpdating = r.isUpdating := by
  obtain ⟨_, _, _, _, he⟩ := executeStartGame_frame r handle
  rw [he]

theorem execute_isUpdating (ch : RoomChoice) {task : RoomTask} (ht : task ≠ .update) :
    (r.execute ch task).1.isUpdating = if r.resets task then false else r.isUpdating := by
  have hdone := execute_done r ch task
  generalize (r.execute ch task).1 = r', (r.execute ch task).2 = fx at hdone
  cases hdone with
  | startGame => exact executeStartGame_isUpdating r ch.handle
  | tick _ => exact absurd rfl ht
  | idleTick _ => exact absurd rfl ht
  | leaveOthers sessionId p hp hothers =>
    have hkeep : r.resets (.leave sessionId) = false := by
      simp only [resets, hp, Option.isSome_some, Bool.true_and, decide_eq_false_iff_not]
      exact hothers
    rw [hkeep]
    rfl
  | leaveEmpty sessionId p hp hempty =>
    have hreset : r.resets (.leave sessionId) = true := by
      simp only [resets, hp, Option.isSome_some, Bool.true_and, decide_eq_true_eq]
      exact hempty
    rw [hreset, if_pos rfl]
    exact vacate_isUpdating _
  | leaveAbsent sessionId hp =>
    have hkeep : r.resets (.leave sessionId) = false := by simp [resets, hp]
    rw [hkeep]
    rfl
  | ready sessionId p _ => exact executeStartGame_isUpdating r ch.handle
  | _ => rfl

theorem update_not_posted (ch : RoomChoice) (task : RoomTask) :
    RoomTask.update ∉ (r.execute ch task).2.posted := by
  have hask : RoomTask.update ∉ r.askStart := by
    unfold askStart
    split <;> simp
  have hdone := execute_done r ch task
  generalize (r.execute ch task).1 = r', (r.execute ch task).2 = fx at hdone
  cases hdone with
  | enterAtOnce p _ => exact hask
  | appear p _ => exact hask
  | tick _ => simp [RoomEffects.post]
  | enterLoading _ _ | loadedInVain _ _ | startGame | idleTick _ | gameOver _ | leaveOthers _ _ _ _
  | leaveEmpty _ _ _ _ | leaveAbsent _ _ | stop | reset | ready _ _ _ | readyAbsent _ _ =>
    exact List.not_mem_nil

theorem execute_update_isUpdating (ch : RoomChoice) :
    (r.execute ch .update).1.isUpdating = false := by
  obtain ⟨_, _, he⟩ := update_frame r ch
  show (r.update ch).1.isUpdating = false
  rw [he]

end Room

/-! ## What a step does to the flag and to the pending ticks -/

namespace TickStrand

/-- The flag and the number of pending ticks before and after a step. -/
inductive Moved (s : TickStrand) : TickAction → TickStrand → Prop
  /-- a call, a task that leaves the flag alone, the second half of `OnTimer` or the start of an
  `Update` -/
  | same (a : TickAction) (s' : TickStrand) : s'.strand.room.isUpdating = s.strand.room.isUpdating →
      s'.pending = s.pending → Moved s a s'
  /-- `OnTimer` wins the flag -/
  | began (s' : TickStrand) : s.strand.room.isUpdating = false → s'.strand.room.isUpdating = true →
      s'.pending = s.pending + 1 → Moved s .exchange s'
  | ended (ch : RoomChoice) (s' : TickStrand) :
      s'.strand.room.isUpdating = false → s.pending = s'.pending + 1 → Moved s (.leaveUpdate ch) s'
  | cleared (ch : RoomChoice) (task : RoomTask) (s' : TickStrand) : task ∈ s.strand.queue.head? →
      s.strand.room.resets task = true → s'.strand.room.isUpdating = false →
      s'.pending = s.pending →
      Moved s (.other (.run ch)) s'

theorem count_perform (s : RoomStrand) (ch : RoomChoice) (task : RoomTask) (rest : List RoomTask) :
    (s.perform ch task rest).1.queue.count .update = rest.count .update := by
  show (rest ++ (s.room.execute ch task).2.posted).count .update = _
  rw [List.count_append, List.count_eq_zero_of_not_mem (Room.update_not_posted s.room ch task)]
  rfl

variable {s : TickStrand}

theorem moved_runOther {s' : TickStrand} {ch : RoomChoice} (h : s.runOther ch = some s') :
    Moved s (.other (.run ch)) s' := by
  unfold runOther at h
  split at h
  · cases h
  · cases h
  · next task rest hne hq =>
    cases h
    have hnot : task ≠ .update := hne
    have hflag := Room.execute_isUpdating s.strand.room ch hnot
    have hpending : pending { s with strand := (s.strand.perform ch task rest).1 } = s.pending := by
      unfold pending
      rw [count_perform, hq, List.count_cons_of_ne hnot]
    cases hr : s.strand.room.resets task with
    | true =>
      rw [hr, if_pos rfl] at hflag
      exact .cleared ch task _ (by rw [hq]; rfl) hr hflag hpending
    | false =>
      rw [hr, if_neg (by simp)] at hflag
      exact .same _ _ hflag hpending

theorem moved_call {strand : RoomStrand} {a : RoomAction} (htimer : a ≠ .onTimer)
    (hrun : ∀ ch, a ≠ .run ch) (h : s.strand.step a = some strand) :
    Moved s (.other a) { s with strand } := by
  have hpost : ∀ {r : RoomStrand} {task : RoomTask}, task ≠ .update →
      (r.post task).queue.count .update = r.queue.count .update := by
    intro r task ht
    show (r.queue ++ [task]).count .update = _
    rw [List.count_append, List.count_cons_of_ne ht]
    rfl
  have hsame : ∀ (strand : RoomStrand) (a : TickAction), strand.room.isUpdating =
      s.strand.room.isUpdating →
      strand.queue.count .update = s.strand.queue.count .update → Moved s a { s with strand } := by
    intro strand a hflag hcount
    refine .same _ _ hflag ?_
    unfold pending
    rw [hcount]
  cases RoomStrand.stepped_of_step h with
  | posted a task ha =>
    have ht : task ≠ .update := by
      rintro rfl
      cases a <;> cases ha
    exact hsame (s.strand.post task) _ rfl (hpost ht)
  | stopping _ =>
    refine hsame _ _ ?_ (hpost (by simp))
    rfl
  | stoppedBefore _ => exact hsame s.strand _ rfl rfl
  | ticking _ => exact absurd rfl htimer
  | tickSkipped _ => exact absurd rfl htimer
  | loaded i p _ =>
    refine hsame _ _ ?_ (hpost (by simp))
    rfl
  | ran ch _ _ _ => exact absurd rfl (hrun ch)

theorem moved_of_step {s' : TickStrand} {a : TickAction}
    (h : s.step a = some s') : Moved s a s' := by
  cases a with
  | exchange =>
    simp only [step] at h
    split at h
    · cases h
    · next hposting =>
      split at h
      · cases h
        exact .same _ _ rfl rfl
      · next hflag =>
        cases h
        refine .began _ (by simpa using hflag) rfl ?_
        simp only [pending, Bool.not_eq_true] at hposting ⊢
        simp [hposting]
        omega
  | post =>
    simp only [step] at h
    split at h
    · next hposting =>
      cases h
      refine .same _ _ rfl ?_
      simp [pending, RoomStrand.post, hposting]
    · cases h
  | enterUpdate =>
    simp only [step] at h
    split at h
    · next rest hrunning hq =>
      cases h
      refine .same _ _ rfl ?_
      simp [pending, hq, hrunning]
      omega
    · cases h
  | leaveUpdate ch =>
    simp only [step] at h
    split at h
    · next hrunning =>
      cases h
      refine .ended ch _ (Room.execute_update_isUpdating s.strand.room ch) ?_
      unfold pending
      rw [count_perform]
      simp [hrunning]
    · cases h
  | other a =>
    cases a with
    | onTimer => cases h
    | run ch =>
      simp only [step] at h
      split at h
      · cases h
      · exact moved_runOther h
    | enter p | leave sessionId | startGame | reset | handleGameOver isWin
    | onPlayerReady sessionId | stop | loaded i =>
      simp only [step] at h
      obtain ⟨strand, hstep, rfl⟩ := Option.map_eq_some_iff.mp h
      exact moved_call (by simp) (by simp) hstep

/-! ## The steps of the strand taken whole -/

/-- A step of `RoomStrand` in the finer steps. -/
def whole (s : RoomStrand) : RoomAction → List TickAction
  | .onTimer => if s.room.isUpdating then [.exchange] else [.exchange, .post]
  | .run ch =>
    if s.queue.head? = some .update then [.enterUpdate, .leaveUpdate ch] else [.other (.run ch)]
  | a => [.other a]

theorem run_whole {s s' : RoomStrand} {a : RoomAction} (h : s.step a = some s') :
    run step ⟨s, false, false⟩ (whole s a) = some ⟨s', false, false⟩ := by
  cases RoomStrand.stepped_of_step h with
  | posted a task ha =>
    cases a with
    | enter _ | leave _ | startGame | reset | handleGameOver _ | onPlayerReady _ => cases ha; rfl
    | stop | onTimer | loaded _ | run _ => cases ha
  | stopping hs => simp [whole, run, step, RoomStrand.step, RoomStrand.stop, hs]
  | stoppedBefore hs => simp [whole, run, step, RoomStrand.step, RoomStrand.stop, hs]
  | ticking hu => simp [whole, run, step, hu, RoomStrand.post]
  | tickSkipped hu => simp [whole, run, step, hu]
  | loaded i p hp => simp [whole, run, step, RoomStrand.step, hp]
  | ran ch task rest hq =>
    by_cases ht : task = .update
    · subst ht
      simp [whole, run, step, hq, RoomStrand.perform]
    · have hother : runOther ⟨s, false, false⟩ ch =
          some ⟨(s.perform ch task rest).1, false, false⟩ := by
        unfold runOther
        rw [hq]
        cases task with
        | update => exact absurd rfl ht
        | enter _ | skillsLoaded _ | startGame | handleGameOver _ | leave _ | stop | reset
        | playerReady _ => rfl
      simp [whole, run, step, hq, ht, hother]

/-- Every run of the strand is one of the finer machine. -/
theorem run_of_strand_run {s t : RoomStrand} {as : List RoomAction}
    (h : run RoomStrand.step s as = some t) :
    ∃ bs, run step ⟨s, false, false⟩ bs = some ⟨t, false, false⟩ := by
  induction as generalizing s with
  | nil =>
    cases h
    exact ⟨[], rfl⟩
  | cons a rest ih =>
    obtain ⟨s', hs, hrest⟩ := run_cons_eq_some.mp h
    obtain ⟨bs, hbs⟩ := ih hrest
    exact ⟨whole s a ++ bs, run_append_eq_some.mpr ⟨_, run_whole hs, hbs⟩⟩

/-! ## Whole runs -/

/-- A set flag is a pending tick: whoever finds the flag set may leave the tick to another. -/
theorem pending_of_isUpdating {t : TickStrand} {as : List TickAction}
    (h0 : s.strand.room.isUpdating = true → 0 < s.pending) (hrun : run step s as = some t) :
    t.strand.room.isUpdating = true → 0 < t.pending := by
  refine run_inv (fun s => s.strand.room.isUpdating = true → 0 < s.pending)
    (fun s a s' h hs => ?_) h0 hrun
  intro hflag
  cases moved_of_step hs with
  | same _ _ hsame hp =>
    rw [hp]
    exact h (hsame.symm.trans hflag)
  | began _ _ _ hp => omega
  | ended _ _ hclear _ =>
    rw [hclear] at hflag
    cases hflag
  | cleared _ _ _ _ _ hclear _ =>
    rw [hclear] at hflag
    cases hflag

/-- The flag is set while just one tick is pending. -/
def Exact (s : TickStrand) : Prop := s.pending = s.strand.room.isUpdating.toNat

/-- The strand resets the room only when no tick is pending. -/
def ResetsIdle (s : TickStrand) : TickAction → Prop
  | .other (.run _) =>
    ∀ task ∈ s.strand.queue.head?, s.strand.room.resets task = true → s.pending = 0
  | _ => True

instance (s : TickStrand) (a : TickAction) : Decidable (s.ResetsIdle a) :=
  match a with
  | .other (.run _) =>
    inferInstanceAs
      (Decidable (∀ task ∈ s.strand.queue.head?, s.strand.room.resets task = true → s.pending = 0))
  | .exchange | .post | .enterUpdate | .leaveUpdate _ | .other .onTimer | .other (.enter _)
  | .other (.leave _) | .other .startGame | .other .reset | .other (.handleGameOver _)
  | .other (.onPlayerReady _) | .other .stop | .other (.loaded _) => isTrue trivial

/-- **Every step keeps one tick pending at most.** -/
theorem exact_step {s' : TickStrand} {a : TickAction} (h : s.Exact) (hok : s.ResetsIdle a)
    (hs : s.step a = some s') : s'.Exact := by
  unfold Exact at *
  cases moved_of_step hs with
  | same _ _ hflag hp => rw [hp, hflag, h]
  | began _ hbefore hafter hp =>
    rw [hp, h, hbefore, hafter]
    rfl
  | ended ch _ hclear hp =>
    have hle : s.pending ≤ 1 := by
      rw [h]
      exact Bool.toNat_le _
    rw [hclear]
    show s'.pending = 0
    omega
  | cleared ch task _ hhead hresets hclear hp =>
    rw [hp, hclear]
    exact hok task hhead hresets

/-- **At most one pending tick** on every run in which the strand resets the room only when no tick
is pending: the queue holds at most one `Update`, none while one runs, and when none is pending the
flag is clear and the next `OnTimer` posts one. -/
theorem one_pending_tick (roomId : Int) (hasUserDB : Bool) (handle : Nat) (as : List TickAction)
    (t : TickStrand) (hok : Meets step ResetsIdle (make roomId hasUserDB handle) as)
    (hrun : run step (make roomId hasUserDB handle) as = some t) :
    t.strand.queue.count .update + t.running.toNat + t.posting.toNat ≤ 1 ∧
      (t.strand.queue.count .update = 0 → t.running = false → t.posting = false →
        t.strand.room.isUpdating = false) := by
  have hmake : (make roomId hasUserDB handle).Exact := rfl
  have hexact : t.Exact :=
    run_inv_of_meets Exact (fun s a s' h hc hs => exact_step h hc hs) hmake hok hrun
  unfold Exact pending at hexact
  refine ⟨?_, ?_⟩
  · have hle := Bool.toNat_le t.strand.room.isUpdating
    omega
  · intro hqueue hrunning hposting
    have hclear : (make roomId hasUserDB handle).strand.room.isUpdating = false := rfl
    have hset : t.strand.room.isUpdating = true → 0 < t.pending :=
      pending_of_isUpdating (fun hflag => absurd (hclear.symm.trans hflag) (by simp)) hrun
    have hnone : t.pending = 0 := by simp [pending, hqueue, hrunning, hposting]
    rw [hnone] at hset
    exact Bool.eq_false_iff.mpr fun hflag => Nat.lt_irrefl 0 (hset hflag)

/-- A player enters, a tick runs, the player leaves and the next tick is posted. -/
def ticksAroundLeave : List TickAction :=
  [.other (.enter ⟨0, 7⟩), .other (.run noChoice), .exchange, .post, .enterUpdate, .exchange,
    .leaveUpdate noChoice, .other (.leave 7), .other (.run noChoice), .exchange, .post]

theorem one_pending_tick_ticksAroundLeave :
    ∃ t, run step (make 1 true 0) ticksAroundLeave = some t ∧
    t.strand.queue.count .update + t.running.toNat + t.posting.toNat ≤ 1 ∧
    t.strand.queue = [.update] :=
  ⟨_, rfl, (one_pending_tick 1 true 0 ticksAroundLeave _ (by decide) rfl).1, rfl⟩

/-- The last player of room 1 leaves while a tick is queued behind the `Leave`. -/
def leaveBeforeTick : List TickAction :=
  [.other (.enter ⟨0, 7⟩), .other (.run noChoice), .other (.leave 7), .exchange, .post,
    .other (.run noChoice), .exchange, .post]

/-- The `Reset` clears the flag under the queued tick, the timer of room 1 goes on, and a second one
is queued. -/
theorem two_pending_ticks : ∃ t, run step (make 1 true 0) leaveBeforeTick = some t ∧
    t.strand.queue = [.update, .update] ∧ t.strand.room.armed ≠ [] :=
  ⟨_, rfl, rfl, by decide⟩

end TickStrand

end ToyServer
