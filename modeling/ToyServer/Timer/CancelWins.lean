import ToyServer.Timer.Dispatch

/-!
# A cancel and the timer it was posted for

Once an Add and a cancel posted after it have both been processed, the timer should be
out of the tables for good.  `OnTimerCancel` ignores an id it does not know and leaves no
mark, so this fails when the cancel, posted by another thread, is dequeued first: the Add
then registers a timer that nobody cancels any more (`cancel_overtakes_add`).  `Unregister`
also misses a timer set through a `weak_ptr` that was dead already, whose Add carries a
null pointer.

`cancel_wins`: over every run in which each cancel is processed after the Adds it is
about (`InTime`), cancels win.
-/

namespace ToyServer

open Runs ProducerQueue TimerImpl

/-- The cancel is about the timer: it names its handle, or the listener it was set with. -/
def TimerCancelMessage.Covers (c : TimerCancelMessage) (m : TimerAddMessage) : Prop :=
  (c.timerId ≠ 0 ∧ c.timerId = m.timerId) ∨
    (c.timerId = 0 ∧ c.listener ≠ none ∧ (c.listener = m.listener ∨ c.listener = m.weakListener))

/-- The pairs of an Add `i` and a cancel `j` posted after it that are both processed. -/
structure TimerSystem.Cancelled (s : TimerSystem) (i j : Nat) (m : TimerAddMessage)
    (c : TimerCancelMessage) : Prop where
  order : i < j
  set : s.Set i m
  cancel : s.messages[j]? = some (.cancel c)
  covers : c.Covers m
  added : i ∈ s.processed
  done : j ∈ s.processed

/-- When the dispatcher comes to a cancel, every Add posted before it that it is about has been
processed; if the cancel is an `Unregister`, that Add carries the listener or is over. -/
def TimerSystem.InTime (s : TimerSystem) : SystemAction → Prop
  | .process p _ =>
      ∀ j queue c, dequeue p s.queue = some (j, queue) → s.messages[j]? = some (.cancel c) →
      ∀ i m, i < j → s.Set i m → c.Covers m →
        i ∈ s.processed ∧
          (c.timerId ≠ 0 ∨ c.listener = m.listener ∨ s.loop.timer.timers m.timerId = none)
  | _ => True

variable {s s' : TimerSystem} {a : SystemAction}

/-! ## A timer that is out stays out -/

/-- The Add `i` is processed and its timer is not registered any more. -/
structure TimerSystem.Over (s : TimerSystem) (i : Nat) (m : TimerAddMessage) : Prop where
  set : s.Set i m
  added : i ∈ s.processed
  out : s.loop.timer.timers m.timerId = none

theorem getElem?_post_of_some {p : Producer} {msg x : TimerMessage} {i : Nat}
    (h : s.messages[i]? = some x) : (s.post p msg).messages[i]? = some x :=
  getElem?_post.mpr (.inl h)

variable {m : TimerAddMessage}

theorem over_step {i : Nat} (h : SystemInv s) (ho : s.Over i m) (hs : s.step a = some s') :
    s'.Over i m ∧ firesOf m.timerId s'.loop.log = firesOf m.timerId s.loop.log := by
  obtain ⟨hset, hadd, hout⟩ := ho
  obtain ⟨due, hg⟩ := h.good
  cases systemStepped hs with
  | takeId p hp => exact ⟨⟨hset, hadd, hout⟩, rfl⟩
  | postAdd a p id hp msg hid hlock => exact ⟨⟨getElem?_post_of_some hset, hadd, hout⟩, rfl⟩
  | postOther a p msg hm => exact ⟨⟨getElem?_post_of_some hset, hadd, hout⟩, rfl⟩
  | process p dying t l₁ l₂ hd hq msg hm loop hl =>
    have ht : t ∉ s.processed := h.not_processed (e := (p, t)) (by rw [hq]; simp)
    have hid : m.timerId ∉ addIds [msg.action dying] := fun hmem =>
      (h.action_fresh dying ht hm hmem).1 i m hset hadd rfl
    obtain ⟨g1, g2⟩ := (stepped hg hl).gone hg hid hout
    exact ⟨⟨hset, List.mem_append_left _ hadd, g1⟩, g2⟩
  | loop a b hb loop hl =>
    obtain ⟨g1, g2⟩ := (stepped hg hl).gone hg (by rw [hb.1]; exact List.not_mem_nil) hout
    exact ⟨⟨hset, hadd, g1⟩, g2⟩

theorem over_run {i : Nat} {as : List SystemAction} (h : SystemInv s)
    (ho : s.Over i m) (hs : run TimerSystem.step s as = some s') :
    s'.Over i m ∧ firesOf m.timerId s'.loop.log = firesOf m.timerId s.loop.log := by
  have key := run_inv (fun x => SystemInv x ∧ x.Over i m ∧
    firesOf m.timerId x.loop.log = firesOf m.timerId s.loop.log) ?_ ⟨h, ho, rfl⟩ hs
  · exact key.2
  · rintro x b x' ⟨hx, hox, hlog⟩ hstep
    obtain ⟨h1, h2⟩ := over_step hx hox hstep
    exact ⟨system_step hx hstep, h1, h2.trans hlog⟩

/-! ## Cancels in time -/

/-- Every Add that a processed cancel is about is over. -/
def TimerSystem.CancelInv (s : TimerSystem) : Prop :=
  ∀ i j m c, i < j → s.Set i m → s.messages[j]? = some (.cancel c) → c.Covers m → j ∈ s.processed →
    s.Over i m

theorem cancelInv_init : TimerSystem.CancelInv .init := by
  intro i j m c _ _ _ _ hj
  exact absurd hj List.not_mem_nil

theorem cancelInv_post {p : Producer} {msg : TimerMessage}
    (h : ∀ t ∈ s.processed, t < s.messages.length) (hc : s.CancelInv) :
    (s.post p msg).CancelInv := by
  intro i j m c hij hset hcan hcov hj
  have hlt := h j hj
  have hset' : s.Set i m := by
    rcases getElem?_post.mp hset with e | ⟨e, -⟩
    · exact e
    · omega
  have hcan' : s.messages[j]? = some (.cancel c) := by
    rcases getElem?_post.mp hcan with e | ⟨e, -⟩
    · exact e
    · omega
  obtain ⟨-, h2, h3⟩ := hc i j m c hij hset' hcan' hcov hj
  exact ⟨hset, h2, h3⟩

theorem SystemInv.rawListener (h : SystemInv s) {i : Nat} (hset : s.Set i m) {r : NodeRef}
    (hr : s.loop.timer.timers m.timerId = some r) :
    (s.loop.timer.nodes r).rawListener = m.listener := by
  obtain ⟨due, hg⟩ := h.good
  obtain ⟨i', -, m', hset', d, d', tick, e, c, hn⟩ := h.made r (hg.reg_lt _ _ hr)
  have hid : m'.timerId = m.timerId := by
    have := hg.reg_id _ _ hr
    rw [hn] at this
    exact this
  have hi := h.ids_inj i' i m' m hset' hset hid
  subst hi
  rw [TimerSystem.Set, hset, Option.some.injEq, TimerMessage.add.injEq] at hset'
  rw [hn, hset']
  rfl

theorem cancel_out (h : SystemInv s) {i : Nat} {c : TimerCancelMessage} (hset : s.Set i m)
    (hcov : c.Covers m)
    (hin : c.timerId ≠ 0 ∨ c.listener = m.listener ∨ s.loop.timer.timers m.timerId = none) :
    (s.loop.timer.onTimerCancel c).timers m.timerId = none := by
  obtain ⟨due, hg⟩ := h.good
  cases hr : (s.loop.timer.onTimerCancel c).timers m.timerId with
  | none => rfl
  | some r =>
    obtain ⟨hr', hnot⟩ := (onTimerCancel_timers hg c m.timerId r).mp hr
    rw [h.rawListener hset hr'] at hnot
    refine absurd ?_ hnot
    rcases hcov with ⟨h0, he⟩ | ⟨h0, hne, -⟩
    · exact .inl ⟨h0, he⟩
    · rcases hin with hin | hin | hin
      · exact absurd h0 hin
      · exact .inr ⟨h0, hne, hin⟩
      · rw [hin] at hr'
        cases hr'

theorem cancelInv_step (h : SystemInv s) (hc : s.CancelInv) (hok : s.InTime a)
    (hs : s.step a = some s') : s'.CancelInv := by
  have hover : ∀ {i m}, s.Over i m → s'.Over i m := fun ho => (over_step h ho hs).1
  cases systemStepped hs with
  | takeId p hp =>
    exact fun i j m c hij hset hcan hcov hj => hover (hc i j m c hij hset hcan hcov hj)
  | postAdd a p id hp msg hid hlock =>
    have hc' : TimerSystem.CancelInv { s with taken := Function.update s.taken p none } := by
      intro i j m c hij hset hcan hcov hj
      obtain ⟨h1, h2, h3⟩ := hc i j m c hij hset hcan hcov hj
      exact ⟨h1, h2, h3⟩
    exact cancelInv_post h.processed_lt hc'
  | postOther a p msg hm => exact cancelInv_post h.processed_lt hc
  | process p dying t l₁ l₂ hd hq msg hm loop hl =>
    intro i j m c hij hset hcan hcov hj
    rcases List.mem_append.mp hj with hj | hj
    · exact hover (hc i j m c hij hset hcan hcov hj)
    · have hjt := List.mem_singleton.mp hj
      subst hjt
      obtain ⟨hi, hin⟩ := hok j _ c hd hcan i m hij hset hcov
      refine ⟨hset, List.mem_append_left _ hi, ?_⟩
      rw [hcan, Option.some.injEq] at hm
      subst hm
      simp only [TimerMessage.action, TimerLoop.step, Option.ite_none_right_eq_some,
        Option.some.injEq] at hl
      obtain ⟨-, rfl⟩ := hl
      exact cancel_out h hset hcov hin
  | loop a b hb loop hl =>
    exact fun i j m c hij hset hcan hcov hj => hover (hc i j m c hij hset hcan hcov hj)

/-- Between `s` and any later state `s'`: the timers whose Add and cancel are both processed
in `s` are not registered in `s'` and have not been called since. -/
def CancelWins (s s' : TimerSystem) : Prop :=
  ∀ i j m c, s.Cancelled i j m c →
    s'.loop.timer.timers m.timerId = none ∧
      firesOf m.timerId s'.loop.log = firesOf m.timerId s.loop.log

/-- **Cancel wins** in every run whose cancels are processed in time, from any state of it on. -/
theorem cancel_wins (as bs : List SystemAction) {s s' : TimerSystem}
    (hok : Meets TimerSystem.step TimerSystem.InTime .init as)
    (h1 : run TimerSystem.step .init as = some s) (h2 : run TimerSystem.step s bs = some s') :
    CancelWins s s' := by
  have hinv := run_inv_of_meets (fun x => SystemInv x ∧ x.CancelInv)
    (fun _ _ _ hx hok hs => ⟨system_step hx.1 hs, cancelInv_step hx.1 hx.2 hok hs⟩)
    ⟨systemInv_init, cancelInv_init⟩ hok h1
  intro i j m c hc
  have hover := hinv.2 i j m c hc.order hc.set hc.cancel hc.covers hc.done
  obtain ⟨ho, hlog⟩ := over_run hinv.1 hover h2
  exact ⟨ho.out, hlog⟩

/-- The room's timer, set by one worker, cancelled by another after the Add was processed. -/
theorem cancel_wins_room :
    ∃ s s', run TimerSystem.step .init [.takeId 0, .setInterval 0 1 40 (some 7) 0, .process 0 [],
        .cancelTimer 1 1, .process 1 []] = some s ∧
      run TimerSystem.step s [.postTick 2, .process 2 []] = some s' ∧ CancelWins s s' := by
  refine ⟨_, _, rfl, rfl, cancel_wins [.takeId 0, .setInterval 0 1 40 (some 7) 0, .process 0 [],
    .cancelTimer 1 1, .process 1 []] [.postTick 2, .process 2 []] ?_ rfl rfl⟩
  refine meets_cons trivial rfl (meets_cons trivial rfl (meets_cons ?_ rfl (meets_cons trivial rfl
    (meets_cons ?_ rfl trivial))))
  · intro j queue c hd hc
    cases hd
    cases hc
  · intro j queue c hd hc i m hi hset hcov
    cases hd
    cases hc
    have hi0 : i < 1 := hi
    have hi1 : i = 0 := by omega
    subst hi1
    exact ⟨by decide, Or.inl (by decide)⟩

/-- **A cancel that overtakes its Add is lost.**  One worker sets the room's interval timer, another
cancels it by its handle; the dispatcher dequeues the cancel first.  Both are processed, the timer
is registered and it is called four ticks later. -/
theorem cancel_overtakes_add :
    ∃ s s', run TimerSystem.step .init [.takeId 0, .setInterval 0 1 40 (some 7) 0, .cancelTimer 1 1,
        .process 1 [], .process 0 []] = some s ∧
      run TimerSystem.step s [.postTick 2, .process 2 [], .postTick 2, .process 2 [], .postTick 2,
        .process 2 [], .postTick 2, .process 2 [], .expire] = some s' ∧
      ¬ CancelWins s s' ∧ s.loop.timer.timers 1 = some 0 ∧ firesOf 1 s'.loop.log ≠ [] := by
  refine ⟨_, _, rfl, rfl, ?_, rfl, by decide⟩
  intro h
  have := (h 0 1 ⟨1, 1, 40, true, some 7, none, 0⟩ ⟨1, none⟩
    ⟨by decide, rfl, rfl, Or.inl (by decide), by decide, by decide⟩).1
  cases this

end ToyServer
