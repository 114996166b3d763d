import ToyServer.Lib.Runs
import ToyServer.Lib.Token
import ToyServer.Thread.Strand

/-!
# What a strand promises

Tasks start in the order of their `Post`s, one at a time, each once.  The right to run is a token
that is in one place at a time: with a poster that won the flag, in the pool, or in `Run`.

A task that throws takes `Run` with it: the pool's `packaged_task` swallows the exception, the flag
stays set, and nobody schedules the strand again.  A pool that is stopped or gone takes no `Run`.

* `strand_discipline`: order, one at a time, nothing lost and nothing stranded, in every run in
  which no task throws and nothing is left to a dead pool (`KeepsServing`).
-/

namespace ToyServer

open Runs Exclusion

variable {s s' : StrandState} {a : StrandAction} {t : WorkerId}

/-! ## The token -/

/-- Where the right to run the strand can be. -/
inductive StrandPlace where
  | poster (t : WorkerId)
  | pool
  | runner (t : WorkerId)

def StrandState.places (s : StrandState) : Set StrandPlace
  | .poster t => (s.post t).holds = true
  | .pool => 0 < s.pool.tasks
  | .runner t => (s.run t).active = true

theorem mem_poster : .poster t ∈ s.places ↔ (s.post t).holds = true := Iff.rfl

theorem mem_pool : .pool ∈ s.places ↔ 0 < s.pool.tasks := Iff.rfl

theorem mem_runner : .runner t ∈ s.places ↔ (s.run t).active = true := Iff.rfl

@[simp] theorem dropped_tasks (p : Pool) : p.dropped.tasks = p.tasks := by
  unfold Pool.dropped
  split <;> rfl

@[simp] theorem dropped_live (p : Pool) : p.dropped.live = p.live := by
  unfold Pool.dropped
  split
  · rfl
  · next h =>
    have howned : p.owned = false := by
      rw [Pool.lockable, Bool.or_eq_true, not_or] at h
      exact Bool.eq_false_iff.mpr h.1
    simp [Pool.live, howned]

variable {c : RunPc} {q : StrandPlace} {task : StrandTask}

theorem places_postTo {c : PostPc} (hq : q ∈ (s.postTo t c).places) :
    q = .poster t ∧ c.holds = true ∨ q ≠ .poster t ∧ q ∈ s.places := by
  cases q with
  | poster t' =>
    rw [mem_poster] at hq
    by_cases htt : t' = t
    · rw [htt, postTo_post_self] at hq
      exact .inl ⟨htt ▸ rfl, hq⟩
    · rw [postTo_post_of_ne _ _ htt] at hq
      exact .inr ⟨fun h => htt (StrandPlace.poster.inj h), hq⟩
  | pool => exact .inr ⟨nofun, hq⟩
  | runner t' => exact .inr ⟨nofun, hq⟩

theorem places_runTo (hq : q ∈ (s.runTo t c).places) :
    q = .runner t ∧ c.active = true ∨ q ≠ .runner t ∧ q ∈ s.places := by
  cases q with
  | poster t' => exact .inr ⟨nofun, hq⟩
  | pool => exact .inr ⟨nofun, hq⟩
  | runner t' =>
    rw [mem_runner] at hq
    by_cases htt : t' = t
    · rw [htt, runTo_run_self] at hq
      exact .inl ⟨htt ▸ rfl, hq⟩
    · rw [runTo_run_of_ne _ _ htt] at hq
      exact .inr ⟨fun h => htt (StrandPlace.runner.inj h), hq⟩

theorem postTo_sub {c : PostPc} (hc : c.holds = true → (s.post t).holds = true) :
    (s.postTo t c).places ⊆ s.places := by
  intro q hq
  rcases places_postTo hq with ⟨rfl, hholds⟩ | ⟨-, hq⟩
  · exact mem_poster.mpr (hc hholds)
  · exact hq

theorem runTo_sub (hc : c.active = true → (s.run t).active = true) :
    (s.runTo t c).places ⊆ s.places := by
  intro q hq
  rcases places_runTo hq with ⟨rfl, hactive⟩ | ⟨-, hq⟩
  · exact mem_runner.mpr (hc hactive)
  · exact hq

theorem pool_sub {p : Pool} (htasks : p.tasks ≤ s.pool.tasks) :
    { s with pool := p }.places ⊆ s.places := by
  intro q hq
  cases q with
  | poster t => exact hq
  | pool => exact Nat.lt_of_lt_of_le (mem_pool.mp hq) htasks
  | runner t => exact hq

/-- The token of the strand; the pool has it at most once. -/
structure Scheduled (s : StrandState) : Prop where
  token : Token s.isScheduled s.places
  tasks : s.pool.tasks ≤ 1

theorem Scheduled.no_tasks (h : Scheduled s) (hq : q ∈ s.places) (hne : q ≠ .pool) :
    s.pool.tasks = 0 := by
  by_contra hpos
  exact hne (h.token.one hq (mem_pool.mpr (Nat.pos_of_ne_zero hpos)))

theorem scheduled_init : Scheduled .init := by
  refine ⟨Token.free fun q hq => ?_, Nat.zero_le _⟩
  cases q with
  | poster t => exact absurd hq Bool.false_ne_true
  | pool => exact absurd hq (Nat.lt_irrefl 0)
  | runner t => exact absurd hq Bool.false_ne_true

theorem Scheduled.submit (h : Scheduled s) (hpost : s.post t = .submit) {p : Pool}
    (hp : p.tasks = s.pool.tasks + 1) : Scheduled ({ s with pool := p }.postTo t .idle) := by
  have hin : .poster t ∈ s.places := by rw [mem_poster, hpost]; rfl
  have htasks : p.tasks = 1 := by rw [hp, h.no_tasks hin nofun]
  refine ⟨?_, htasks.le⟩
  show Token s.isScheduled _
  rw [h.token.flagged _ hin]
  refine Token.at .pool fun q hq => ?_
  rcases places_postTo hq with ⟨-, hc⟩ | ⟨hne, hq⟩
  · cases hc
  · cases q with
    | poster t' => exact absurd (h.token.one (show .poster t' ∈ s.places from hq) hin) hne
    | pool => rfl
    | runner t' => cases h.token.one (show .runner t' ∈ s.places from hq) hin

theorem Scheduled.dequeue (h : Scheduled s) (htasks : 0 < s.pool.tasks) :
    Scheduled ({ s with pool := { s.pool with tasks := s.pool.tasks - 1 } }.runTo t .loop) := by
  have hin : .pool ∈ s.places := mem_pool.mpr htasks
  have hone := h.tasks
  refine ⟨?_, (Nat.sub_le _ _).trans hone⟩
  show Token s.isScheduled _
  rw [h.token.flagged _ hin]
  refine Token.at (.runner t) fun q hq => ?_
  rcases places_runTo hq with ⟨rfl, -⟩ | ⟨-, hq⟩
  · rfl
  · cases q with
    | poster t' => cases h.token.one (show .poster t' ∈ s.places from hq) hin
    | pool =>
      have hleft : 0 < s.pool.tasks - 1 := hq
      omega
    | runner t' => cases h.token.one (show .runner t' ∈ s.places from hq) hin

theorem Scheduled.giveBack (h : Scheduled s) (hrun : s.run t = .loop) :
    Scheduled ({ s with isScheduled := false }.runTo t .idle) := by
  have hin : .runner t ∈ s.places := by rw [mem_runner, hrun]; rfl
  refine ⟨Token.free fun q hq => ?_, h.tasks⟩
  rcases places_runTo hq with ⟨-, hc⟩ | ⟨hne, hq⟩
  · cases hc
  · exact absurd (h.token.one (show q ∈ s.places from hq) hin) hne

/-- **Every step leaves one run of the strand.** -/
theorem scheduled_step (h : Scheduled s) (hs : StrandStepped s a s') : Scheduled s' := by
  cases hs with
  | posted _ _ => exact ⟨h.token.keep (postTo_sub nofun), h.tasks⟩
  | lost _ _ => exact ⟨h.token.keep (postTo_sub nofun), h.tasks⟩
  | @won t _ hflag =>
    refine ⟨Token.at (.poster t) fun q hq => ?_, h.tasks⟩
    rcases places_postTo hq with ⟨rfl, -⟩ | ⟨-, hq⟩
    · rfl
    · -- the flag was free, so nobody had the token
      rw [h.token.flagged q hq] at hflag
      cases hflag
  | locked hpost =>
    exact ⟨h.token.keep ((postTo_sub fun _ => congrArg PostPc.holds hpost).trans (pool_sub le_rfl)),
      h.tasks⟩
  | gone _ _ => exact ⟨h.token.keep (postTo_sub nofun), h.tasks⟩
  | rejected _ _ =>
    have htasks := (dropped_tasks { s.pool with holders := s.pool.holders - 1 }).le
    exact ⟨h.token.keep ((postTo_sub (c := .idle) nofun).trans (pool_sub htasks)),
      htasks.trans h.tasks⟩
  | accepted hpost =>
    exact ⟨h.token.keep (postTo_sub fun _ => congrArg PostPc.holds hpost), h.tasks⟩
  | submitted hpost => exact h.submit hpost (dropped_tasks _)
  | acquired _ => exact ⟨h.token.keep (runTo_sub nofun), h.tasks⟩
  | dequeued _ htasks => exact h.dequeue htasks
  | missed _ => exact ⟨h.token.keep (runTo_sub nofun), h.tasks⟩
  | emptied hrun _ => exact h.giveBack hrun
  | fetched hrun _ => exact ⟨h.token.keep (runTo_sub fun _ => congrArg RunPc.active hrun), h.tasks⟩
  | called hrun _ => exact ⟨h.token.keep (runTo_sub fun _ => congrArg RunPc.active hrun), h.tasks⟩
  | skipped hrun _ => exact ⟨h.token.keep (runTo_sub fun _ => congrArg RunPc.active hrun), h.tasks⟩
  | finished hrun => exact ⟨h.token.keep (runTo_sub fun _ => congrArg RunPc.active hrun), h.tasks⟩
  | thrown _ => exact ⟨h.token.keep (runTo_sub nofun), h.tasks⟩
  | stopped => exact ⟨h.token.keep (pool_sub le_rfl), h.tasks⟩
  | released =>
    have htasks := (dropped_tasks { s.pool with owned := false }).le
    exact ⟨h.token.keep (pool_sub htasks), htasks.trans h.tasks⟩

/-! ## Order -/

theorem Scheduled.single (h : Scheduled s) {t t' : WorkerId} (ht : (s.run t).active = true)
    (ht' : (s.run t').active = true) : t = t' :=
  StrandPlace.runner.inj (h.token.one (mem_runner.mpr ht) (mem_runner.mpr ht'))

/-- What was posted is what was started, what a worker has in hand, and the queue. -/
structure InOrder (s : StrandState) : Prop where
  ids : s.posted.map (·.id) = List.range s.posted.length
  hand : ∀ t task, s.run t = .fetched task →
    s.posted.filter (·.callable) = s.started ++ (task :: s.queue).filter (·.callable)
  noHand : (∀ t task, s.run t ≠ .fetched task) →
    s.posted.filter (·.callable) = s.started ++ s.queue.filter (·.callable)

theorem inOrder_init : InOrder .init where
  ids := rfl
  hand _ _ h := by cases h
  noHand _ := rfl

theorem InOrder.push (h : InOrder s) (callable : Bool) :
    InOrder (s.push ⟨s.posted.length, callable⟩) := by
  refine ⟨?_, fun t task ht => ?_, fun hnone => ?_⟩
  · show (s.posted ++ [_]).map _ = List.range (s.posted ++ [_]).length
    rw [List.map_append, h.ids, List.length_append, List.length_singleton, List.range_succ]
    rfl
  · show (s.posted ++ [_]).filter _ = s.started ++ (task :: (s.queue ++ [_])).filter _
    rw [← List.cons_append, List.filter_append, List.filter_append, h.hand t task ht,
      List.append_assoc]
  · show (s.posted ++ [_]).filter _ = s.started ++ (s.queue ++ [_]).filter _
    rw [List.filter_append, List.filter_append, h.noHand hnone, List.append_assoc]

theorem InOrder.runTo (h : InOrder s) (hold : ∀ task, s.run t ≠ .fetched task)
    (hnew : ∀ task, c ≠ .fetched task) : InOrder (s.runTo t c) := by
  refine ⟨h.ids, fun t' task ht => ?_, fun hnone => h.noHand fun t' task ht => ?_⟩
  · by_cases htt : t' = t
    · rw [htt, runTo_run_self] at ht
      exact absurd ht (hnew task)
    · rw [runTo_run_of_ne _ _ htt] at ht
      exact h.hand t' task ht
  · by_cases htt : t' = t
    · exact hold task (htt ▸ ht)
    · exact hnone t' task ((runTo_run_of_ne _ _ htt).trans ht)

theorem Scheduled.only_hand (h : Scheduled s) (hactive : (s.run t).active = true) {t' : WorkerId}
    (ht : s.run t' = .fetched task) : t' = t :=
  h.single (by rw [ht]; rfl) hactive

theorem InOrder.fetch (h : InOrder s) (hs : Scheduled s) {queue : List StrandTask}
    (hrun : s.run t = .loop) (hqueue : s.queue = task :: queue) :
    InOrder ({ s with queue := queue }.runTo t (.fetched task)) := by
  have hactive : (s.run t).active = true := congrArg RunPc.active hrun
  have hnone : ∀ t' task', s.run t' ≠ .fetched task' := by
    intro t' task' ht
    rw [hs.only_hand hactive ht, hrun] at ht
    cases ht
  have heq := h.noHand hnone
  rw [hqueue] at heq
  refine ⟨h.ids, fun t' task' ht => ?_, fun hno => ?_⟩
  · by_cases htt : t' = t
    · rw [htt, runTo_run_self, RunPc.fetched.injEq] at ht
      subst ht
      exact heq
    · rw [runTo_run_of_ne _ _ htt] at ht
      exact absurd ht (hnone t' task')
  · exact absurd (runTo_run_self _ _ _) (hno t task)

theorem InOrder.call (h : InOrder s) (hs : Scheduled s) {started : List StrandTask}
    (hrun : s.run t = .fetched task) (hnew : ∀ task', c ≠ .fetched task')
    (hstarted : s.started ++ (task :: s.queue).filter (·.callable) =
      started ++ s.queue.filter (·.callable)) :
    InOrder ({ s with started := started }.runTo t c) := by
  have hactive : (s.run t).active = true := congrArg RunPc.active hrun
  refine ⟨h.ids, fun t' task' ht => ?_, fun _ => (h.hand t task hrun).trans hstarted⟩
  by_cases htt : t' = t
  · rw [htt, runTo_run_self] at ht
    exact absurd ht (hnew task')
  · rw [runTo_run_of_ne _ _ htt] at ht
    exact absurd (hs.only_hand hactive ht) htt

/-- **Every step keeps the order of the tasks.** -/
theorem inOrder_step (h : InOrder s) (hsch : Scheduled s)
    (hs : StrandStepped s a s') : InOrder s' := by
  cases hs with
  | @posted t callable _ _ =>
    have hpush := h.push callable
    exact ⟨hpush.ids, hpush.hand, hpush.noHand⟩
  | acquired hrun => exact h.runTo (fun _ => hrun ▸ nofun) nofun
  | dequeued hrun _ =>
    have hsame : InOrder { s with pool := { s.pool with tasks := s.pool.tasks - 1 } } :=
      ⟨h.ids, h.hand, h.noHand⟩
    exact hsame.runTo (fun _ => hrun ▸ nofun) nofun
  | missed hrun => exact h.runTo (fun _ => hrun ▸ nofun) nofun
  | emptied hrun _ =>
    have hsame : InOrder { s with isScheduled := false } := ⟨h.ids, h.hand, h.noHand⟩
    exact hsame.runTo (fun _ => hrun ▸ nofun) nofun
  | fetched hrun hqueue => exact h.fetch hsch hrun hqueue
  | called hrun hcall =>
    refine h.call hsch hrun nofun ?_
    rw [List.filter_cons_of_pos hcall, List.append_assoc]
    rfl
  | skipped hrun hcall =>
    refine h.call hsch hrun nofun ?_
    rw [List.filter_cons_of_neg (by rw [hcall]; exact Bool.false_ne_true)]
  | finished hrun => exact h.runTo (fun _ => hrun ▸ nofun) nofun
  | thrown hrun => exact h.runTo (fun _ => hrun ▸ nofun) nofun
  | lost _ _ | won _ _ | locked _ | gone _ _ | rejected _ _ | accepted _ | submitted _ | stopped
  | released =>
    exact ⟨h.ids, h.hand, h.noHand⟩

/-! ## Somebody serves the queue -/

/-- A worker is inside `Run`, or the pool lives and has a `Run` or a thread in `Post` that may bring
one. -/
def Serves (s : StrandState) : Prop :=
  (∃ t, (s.run t).active = true) ∨ s.pool.live = true ∧ (0 < s.pool.tasks ∨ ∃ t, s.post t ≠ .idle)

/-- No task throws; the pool is stopped or let go only with nothing left to it, and what is posted
after that is posted during a `Run`. -/
def KeepsServing (s : StrandState) : StrandAction → Prop
  | .post _ _ => s.pool.live = true ∨ ∃ t, (s.run t).active = true
  | .throw _ => False
  | .stop | .release => s.queue = [] ∨ ∃ t, (s.run t).active = true
  | .schedule _ | .acquire _ | .dequeue _ | .fetch _ | .call _ | .finish _ => True

/-- The flag stands for somebody while the pool lives, and the queue is served. -/
structure Served (s : StrandState) : Prop where
  backed : s.isScheduled = true → s.pool.live = true → s.places.Nonempty
  served : s.queue ≠ [] → Serves s

theorem serves_of_place (hq : q ∈ s.places) (hlive : s.pool.live = true) : Serves s := by
  cases q with
  | poster t =>
    refine .inr ⟨hlive, .inr ⟨t, fun hidle => ?_⟩⟩
    rw [mem_poster, hidle] at hq
    cases hq
  | pool => exact .inr ⟨hlive, .inl hq⟩
  | runner t => exact .inl ⟨t, hq⟩

theorem served_of_active (hactive : (s.run t).active = true) : Served s :=
  ⟨fun _ _ => ⟨.runner t, hactive⟩, fun _ => .inl ⟨t, hactive⟩⟩

theorem served_of_dead (hlive : s.pool.live = false)
    (h : s.queue ≠ [] → ∃ t, (s.run t).active = true) : Served s :=
  ⟨fun _ hl => absurd (hl.symm.trans hlive) nofun, fun hq => .inl (h hq)⟩

theorem Served.active_of_dead (h : Served s) (hlive : s.pool.live = false) (hqueue : s.queue ≠ []) :
    ∃ t, (s.run t).active = true := by
  rcases h.served hqueue with hactive | ⟨hl, -⟩
  · exact hactive
  · rw [hlive] at hl
    cases hl

/-- A thread in `Post` with the token serves the queue. -/
theorem Served.postTo (h : Served s) {s₁ : StrandState} {c : PostPc} (hrun : s₁.run = s.run)
    (hqueue : s₁.queue = s.queue) (hlive : s₁.pool.live = s.pool.live) (hc : c.holds = true) :
    Served (s₁.postTo t c) := by
  have hin : .poster t ∈ (s₁.postTo t c).places := by rw [mem_poster, postTo_post_self, hc]
  refine ⟨fun _ _ => ⟨_, hin⟩, fun hne => ?_⟩
  rcases h.served (hqueue ▸ hne) with ⟨t', ht'⟩ | ⟨hl, -⟩
  · exact .inl ⟨t', by rw [← hrun] at ht'; exact ht'⟩
  · exact serves_of_place hin (hlive.trans hl)

theorem Served.keep (h : Served s) (hflag : s'.isScheduled = s.isScheduled)
    (hpool : s'.pool = s.pool) (hqueue : s'.queue = s.queue) (hsub : s.places ⊆ s'.places)
    (hpost : s'.post = s.post) : Served s' := by
  refine ⟨fun hf hl => ?_, fun hne => ?_⟩
  · obtain ⟨q, hq⟩ := h.backed (hflag ▸ hf) (hpool ▸ hl)
    exact ⟨q, hsub hq⟩
  · rcases h.served (hqueue ▸ hne) with ⟨t, ht⟩ | ⟨hl, hrest⟩
    · exact .inl ⟨t, hsub (mem_runner.mpr ht)⟩
    · exact .inr ⟨hpool ▸ hl, by rw [hpool, hpost]; exact hrest⟩

theorem postTo_sup {c : PostPc} (hc : (s.post t).holds = true → c.holds = true) :
    s.places ⊆ (s.postTo t c).places := by
  intro q hq
  cases q with
  | poster t' =>
    rw [mem_poster]
    by_cases htt : t' = t
    · rw [htt, postTo_post_self]
      exact hc (htt ▸ hq)
    · rw [postTo_post_of_ne _ _ htt]
      exact hq
  | pool => exact hq
  | runner t' => exact hq

theorem runTo_sup (hc : (s.run t).active = true → c.active = true) :
    s.places ⊆ (s.runTo t c).places := by
  intro q hq
  cases q with
  | poster t' => exact hq
  | pool => exact hq
  | runner t' =>
    rw [mem_runner]
    by_cases htt : t' = t
    · rw [htt, runTo_run_self]
      exact hc (htt ▸ hq)
    · rw [runTo_run_of_ne _ _ htt]
      exact hq

theorem runTo_active (s : StrandState) (t : WorkerId) (hc : c.active = true) :
    ((s.runTo t c).run t).active = true := by rw [runTo_run_self, hc]

/-- A task is pushed while the pool lives or `Run` is at work. -/
theorem Served.post (h : Served s) (task : StrandTask) (hpost : s.post t = .idle)
    (hok : s.pool.live = true ∨ ∃ t, (s.run t).active = true) :
    Served ((s.push task).postTo t .schedule) := by
  have hsup : s.places ⊆ ((s.push task).postTo t .schedule).places :=
    postTo_sup (s := s.push task) fun hh => by
      rw [show (s.push task).post t = .idle from hpost] at hh
      cases hh
  refine ⟨fun hf hl => ?_, fun _ => ?_⟩
  · obtain ⟨q, hq⟩ := h.backed hf hl
    exact ⟨q, hsup hq⟩
  · rcases hok with hl | ⟨t', ht'⟩
    · refine .inr ⟨hl, .inr ⟨t, ?_⟩⟩
      rw [postTo_post_self]
      nofun
    · exact .inl ⟨t', ht'⟩

/-- The flag is taken: whoever has it serves the queue as well. -/
theorem Served.lose (h : Served s) (hpost : s.post t = .schedule) (hflag : s.isScheduled = true) :
    Served (s.postTo t .idle) := by
  have hsup : s.places ⊆ (s.postTo t .idle).places := postTo_sup fun hh => by
    rw [hpost] at hh
    cases hh
  refine ⟨fun hf hl => ?_, fun hne => ?_⟩
  · obtain ⟨q, hq⟩ := h.backed hf hl
    exact ⟨q, hsup hq⟩
  · rcases h.served hne with ⟨t', ht'⟩ | ⟨hl, -⟩
    · exact .inl ⟨t', ht'⟩
    · obtain ⟨q, hq⟩ := h.backed hflag hl
      exact serves_of_place (hsup hq) hl

theorem live_of_lockable {p : Pool} (h : p.lockable = false) : p.live = false := by
  rw [Pool.lockable, Bool.or_eq_false_iff] at h
  rw [Pool.live, h.1, Bool.false_and]

theorem live_of_stop {p : Pool} (h : p.stop = true) : p.live = false := by
  rw [Pool.live, h, Bool.not_true, Bool.and_false]

theorem served_step (h : Served s) (hok : KeepsServing s a)
    (hs : StrandStepped s a s') : Served s' := by
  cases hs with
  | posted hpost _ => exact h.post _ hpost hok
  | lost hpost hflag => exact h.lose hpost hflag
  | won _ _ => exact h.postTo rfl rfl rfl rfl
  | locked _ => exact h.postTo rfl rfl rfl rfl
  | accepted _ => exact h.postTo rfl rfl rfl rfl
  | gone _ hpool =>
    have hlive := live_of_lockable hpool
    exact served_of_dead hlive (h.active_of_dead hlive)
  | rejected _ hstop =>
    have hlive : s.pool.live = false := live_of_stop hstop
    exact served_of_dead ((dropped_live _).trans hlive) (h.active_of_dead hlive)
  | submitted _ =>
    have htasks : 0 <
        ({ s.pool with
          holders := s.pool.holders - 1, tasks := s.pool.tasks + 1 } : Pool).dropped.tasks := by
      rw [dropped_tasks]
      exact Nat.succ_pos _
    refine ⟨fun _ _ => ⟨.pool, htasks⟩, fun hne => ?_⟩
    rcases h.served hne with hactive | ⟨hl, -⟩
    · exact .inl hactive
    · exact .inr ⟨(dropped_live _).trans hl, .inl htasks⟩
  | acquired hrun => exact h.keep rfl rfl rfl (runTo_sup fun hh => by rw [hrun] at hh; cases hh) rfl
  | missed hrun => exact h.keep rfl rfl rfl (runTo_sup fun hh => by rw [hrun] at hh; cases hh) rfl
  | emptied _ hqueue => exact ⟨fun hf => absurd hf Bool.false_ne_true, fun hne => absurd hqueue hne⟩
  | thrown _ => exact hok.elim
  | stopped =>
    refine served_of_dead (live_of_stop rfl) fun hne => ?_
    exact hok.resolve_left hne
  | released =>
    refine served_of_dead ((dropped_live _).trans (Bool.false_and _)) fun hne => ?_
    exact hok.resolve_left hne
  | _ => exact served_of_active (runTo_active _ _ rfl)

/-! ## The promise -/

/-- Order, one at a time, exactly once, and nobody stranded. -/
structure Disciplined (s : StrandState) : Prop where
  /-- tasks are told apart by the number of their `Post` -/
  distinct : s.posted.Nodup
  order : s.started <+: s.posted.filter (·.callable)
  kept : ∀ task ∈ s.posted, task.callable = true →
    task ∈ s.started ∨ task ∈ s.queue ∨ ∃ t, s.run t = .fetched task
  single : ∀ t t', (s.run t).active = true → (s.run t').active = true → t = t'
  scheduled : s.pool.tasks ≤ 1 ∧ (0 < s.pool.tasks → ∀ t, (s.run t).active = false)
  /-- a thread between its push and the end of `Post` may still have to schedule -/
  served : s.queue ≠ [] → (∃ t, (s.run t).active = true) ∨
    s.pool.live = true ∧ (s.pool.tasks = 1 ∨ ∃ t, s.post t ≠ .idle)

theorem InOrder.kept (h : InOrder s) (hmem : task ∈ s.posted) (hcall : task.callable = true) :
    task ∈ s.started ∨ task ∈ s.queue ∨ ∃ t, s.run t = .fetched task := by
  have hin : task ∈ s.posted.filter (·.callable) := List.mem_filter.mpr ⟨hmem, hcall⟩
  by_cases hhand : ∃ t task', s.run t = .fetched task'
  · obtain ⟨t, task', ht⟩ := hhand
    rw [h.hand t task' ht, List.mem_append] at hin
    rcases hin with hin | hin
    · exact .inl hin
    · rcases List.mem_cons.mp (List.mem_of_mem_filter hin) with rfl | hq
      · exact .inr (.inr ⟨t, ht⟩)
      · exact .inr (.inl hq)
  · rw [h.noHand fun t task' ht => hhand ⟨t, task', ht⟩, List.mem_append] at hin
    exact hin.imp id fun hq => .inl (List.mem_of_mem_filter hq)

theorem InOrder.started_prefix (h : InOrder s) : s.started <+: s.posted.filter (·.callable) := by
  by_cases hhand : ∃ t task, s.run t = .fetched task
  · obtain ⟨t, task, ht⟩ := hhand
    exact ⟨_, (h.hand t task ht).symm⟩
  · exact ⟨_, (h.noHand fun t task ht => hhand ⟨t, task, ht⟩).symm⟩

theorem InOrder.distinct (h : InOrder s) : s.posted.Nodup :=
  List.Nodup.of_map _ (h.ids ▸ List.nodup_range)

theorem disciplined (hsch : Scheduled s) (hord : InOrder s) (hsrv : Served s) : Disciplined s := by
  refine ⟨hord.distinct, hord.started_prefix, fun _ => hord.kept, fun t t' => hsch.single,
    ⟨hsch.tasks, ?_⟩, ?_⟩
  · intro hpos t
    by_contra hactive
    rw [Bool.not_eq_false] at hactive
    cases hsch.token.one (mem_pool.mpr hpos) (mem_runner.mpr hactive)
  · intro hne
    rcases hsrv.served hne with hactive | ⟨hl, hpos | hpost⟩
    · exact .inl hactive
    · exact .inr ⟨hl, .inl (Nat.le_antisymm hsch.tasks hpos)⟩
    · exact .inr ⟨hl, .inr hpost⟩

/-- **Strand discipline** in every state of every run that keeps serving. -/
theorem strand_discipline (as : List StrandAction) {s : StrandState}
    (hok : Meets StrandState.step KeepsServing .init as)
    (h : run StrandState.step .init as = some s) : Disciplined s := by
  have hinv : Scheduled s ∧ InOrder s ∧ Served s := by
    refine run_inv_of_meets (fun s => Scheduled s ∧ InOrder s ∧ Served s) ?_ ?_ hok h
    · rintro s a s' ⟨hsch, hord, hsrv⟩ hok hs
      have hstep := strandStepped hs
      exact ⟨scheduled_step hsch hstep, inOrder_step hord hsch hstep, served_step hsrv hok hstep⟩
    · exact ⟨scheduled_init, inOrder_init,
        ⟨fun hf => absurd hf Bool.false_ne_true, fun hne => absurd rfl hne⟩⟩
  exact disciplined hinv.1 hinv.2.1 hinv.2.2

/-- Two tasks, the second posted by the first. -/
theorem strand_discipline_two_tasks :
    ∃ s, run StrandState.step .init
        [.post 0 true, .schedule 0, .schedule 0, .schedule 0, .schedule 0, .acquire 1, .dequeue 1,
          .fetch 1, .call 1, .post 1 true, .schedule 1, .finish 1, .fetch 1, .call 1] = some s ∧
      s.started = [⟨0, true⟩, ⟨1, true⟩] ∧ Disciplined s := by
  refine exists_run_and ⟨_, rfl, by decide⟩ fun s => strand_discipline _ ?_
  refine meets_cons (.inl rfl) rfl
    (meets_cons trivial rfl (meets_cons trivial rfl (meets_cons trivial rfl
    (meets_cons trivial rfl (meets_cons trivial rfl (meets_cons trivial rfl (meets_cons trivial rfl
    (meets_cons trivial rfl (meets_cons (.inl rfl) rfl ?_)))))))))
  exact meets_cons trivial rfl
    (meets_cons trivial rfl (meets_cons trivial rfl (meets_cons trivial rfl trivial)))

/-- **Strand order** in every run, also when tasks throw or the pool dies: no task is started twice,
out of order or beside another one, and none is dropped. -/
theorem strand_order (as : List StrandAction) {s : StrandState}
    (h : run StrandState.step .init as = some s) :
    s.posted.Nodup ∧ s.started <+: s.posted.filter (·.callable) ∧
      (∀ task ∈ s.posted, task.callable = true → task ∈ s.started ∨ task ∈ s.queue ∨
        ∃ t, s.run t = .fetched task) ∧
      (∀ t t', (s.run t).active = true → (s.run t').active = true → t = t') ∧ s.pool.tasks ≤ 1 := by
  obtain ⟨hsch, hord⟩ : Scheduled s ∧ InOrder s := by
    refine run_inv (fun s => Scheduled s ∧ InOrder s) ?_ ⟨scheduled_init, inOrder_init⟩ h
    rintro s a s' ⟨hsch, hord⟩ hs
    have hstep := strandStepped hs
    exact ⟨scheduled_step hsch hstep, inOrder_step hord hsch hstep⟩
  exact ⟨hord.distinct, hord.started_prefix, fun _ => hord.kept, fun _ _ => hsch.single, hsch.tasks⟩

theorem strand_order_thrown :
    ∃ s, run StrandState.step .init
        [.post 0 true, .schedule 0, .schedule 0, .schedule 0, .schedule 0, .acquire 1, .dequeue 1,
          .fetch 1, .call 1, .throw 1, .post 0 true] = some s ∧
      s.started = [⟨0, true⟩] ∧ s.started <+: s.posted.filter (·.callable) :=
  exists_run_and ⟨_, rfl, rfl⟩ fun _ h => (strand_order _ h).2.1

/-- **A task is stranded.** The first task throws, and the next one is posted: the flag is still
set, so nobody schedules a `Run`.  Likewise when the pool is stopped between the push and
`Enqueue`. -/
theorem task_stranded :
    (∃ s, run StrandState.step .init
        [.post 0 true, .schedule 0, .schedule 0, .schedule 0, .schedule 0, .acquire 1, .dequeue 1,
          .fetch 1, .call 1, .throw 1, .post 0 true, .schedule 0] = some s ∧
      s.queue = [⟨1, true⟩] ∧ s.pool.live = true ∧ ¬ Disciplined s) ∧
    ∃ s, run StrandState.step .init
      [.post 0 true, .schedule 0, .schedule 0, .stop, .schedule 0] = some s ∧
      s.queue = [⟨0, true⟩] ∧ ¬ Disciplined s := by
  refine ⟨⟨_, rfl, rfl, rfl, fun h => ?_⟩, ⟨_, rfl, rfl, fun h => ?_⟩⟩
  · rcases h.served (List.cons_ne_nil _ _) with ⟨t, ht⟩ | ⟨-, ht | ⟨t, ht⟩⟩
    · simp [StrandState.runTo, StrandState.postTo, StrandState.push, StrandState.init,
        RunPc.active] at ht
    · cases ht
    · simp [StrandState.runTo, StrandState.postTo, StrandState.push, StrandState.init] at ht
  · rcases h.served (List.cons_ne_nil _ _) with ⟨t, ht⟩ | ⟨ht, -⟩
    · cases ht
    · cases ht

end ToyServer
