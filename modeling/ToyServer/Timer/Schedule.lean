import ToyServer.Timer.TimerRun

/-!
# Timers fire on schedule

`fires_on_schedule`: over every run in which each Add message has an id of its own,
a timer added after `T` ticks with a delay of `n` ticks is called exactly in the ticks
`T + n` (one-shot) or `T + n, T + 2n, …` (interval) that come before its cancellation,
once in each.

The proof follows one timer: between two steps it is armed, with its next due tick
`T + (k + 1) n` and the first `k` calls in the log, or it was a one-shot and is done.
-/

namespace ToyServer

open Runs TimerImpl

variable {s s' : TimerLoop} {a : TimerAction} {due : NodeRef → Nat}

/-! ## Following one timer -/

/-- Calls made for a timer: the call, the tick (unwrapped) and the tick counter. -/
def history (id : TimerId) (log : List Fired) : List (OnTimerCall × Nat × Nat) :=
  (firesOf id log).map fun f => (f.call, f.ticks, f.tick.toNat)

/-- The first `k` calls of a timer of period `n` added after `T` ticks. -/
def firstCalls (c : OnTimerCall) (T n k : Nat) : List (OnTimerCall × Nat × Nat) :=
  (List.range k).map fun j => (c, T + (j + 1) * n, (T + (j + 1) * n) % 2 ^ 32)

theorem firstCalls_succ (c : OnTimerCall) (T n k : Nat) :
    firstCalls c T n (k + 1) =
      firstCalls c T n k ++ [(c, T + (k + 1) * n, (T + (k + 1) * n) % 2 ^ 32)] := by
  simp [firstCalls, List.range_succ]

/-- Where the timer of `node` (added after `T` ticks with delay `n`) stands. -/
inductive Tracked (node : Node) (T n : Nat) (c : OnTimerCall) (s : TimerLoop)
    (due : NodeRef → Nat) : Prop where
  | armed (r : NodeRef) (k : Nat) (hr : s.timer.timers node.id = some r)
      (hn : s.timer.nodes r = { node with expiryTick := (s.timer.nodes r).expiryTick })
      (hd : due r = T + (k + 1) * n) (hk : node.intervalTick = 0 → k = 0)
      (hh : history node.id s.log = firstCalls c T n k) (ht : T + k * n ≤ s.ticks)
  | done (hi : node.intervalTick = 0) (hr : s.timer.timers node.id = none)
      (hh : history node.id s.log = firstCalls c T n 1) (ht : T + n ≤ s.ticks)

section Tracking

variable {node : Node} {T n : Nat} {c : OnTimerCall}

theorem history_call (s : TimerLoop) {node : Node} (hc : callee s.destroyed node = some c) :
    history node.id (s.log ++ (callee s.destroyed node).toList.map s.fired) =
      history node.id s.log ++ [(c, s.ticks, s.timer.currentTick.toNat)] := by
  have := callee_id hc
  simp [history, firesOf, hc, TimerLoop.fired, this]

theorem history_of_firesOf {id : TimerId} {log log' : List Fired}
    (h : firesOf id log' = firesOf id log) : history id log' = history id log := by
  unfold history
  rw [h]

/-- The timer comes out of the wheel: it is called and goes back in, or it is done. -/
theorem tracked_call {r : NodeRef} {rest : List NodeRef} {k : Nat}
    (hg : Good s.timer (r :: rest) s.ticks due)
    (hiv : 0 < node.intervalTick → node.intervalTick.toNat = n)
    (hcall : callee s.destroyed node = some c) (hr : s.timer.timers node.id = some r)
    (hn : s.timer.nodes r = { node with expiryTick := (s.timer.nodes r).expiryTick })
    (hd : due r = T + (k + 1) * n) (hk : node.intervalTick = 0 → k = 0)
    (hh : history node.id s.log = firstCalls c T n k) : Tracked node T n c
      { s with
        timer := s.timer.reschedule r (s.timer.nodes r).id
        expired := rest
        log := s.log ++ (callee s.destroyed (s.timer.nodes r)).toList.map s.fired }
      (rearmDue due s.timer r) := by
  have hid : (s.timer.nodes r).id = node.id := by rw [hn]
  have hint : (s.timer.nodes r).intervalTick = node.intervalTick := by rw [hn]
  have hcallee : callee s.destroyed (s.timer.nodes r) = callee s.destroyed node := by rw [hn]; rfl
  have hnow : due r = s.ticks := hg.out_due r List.mem_cons_self
  have hhist :
      history node.id (s.log ++ (callee s.destroyed (s.timer.nodes r)).toList.map s.fired) =
      firstCalls c T n (k + 1) := by
    rw [hcallee, history_call s hcall, hh, firstCalls_succ, hg.clock, ← hnow, hd]
  by_cases hi : node.intervalTick = 0
  · have hk0 := hk hi
    subst hk0
    refine .done hi ?_ (by simpa using hhist) ?_
    · simp [reschedule, hint, hi, forget, hid]
    · show T + n ≤ s.ticks
      omega
  · have hpos : 0 < node.intervalTick := by
      rw [UInt32.lt_iff_toNat_lt]
      have : node.intervalTick.toNat ≠ 0 := fun e => hi (UInt32.toNat_inj.mp e)
      exact Nat.pos_of_ne_zero this
    have hgt : (s.timer.nodes r).intervalTick > 0 := by rw [hint]; exact hpos
    refine .armed r (k + 1) ?_ ?_ ?_ (fun e => absurd e hi) hhist ?_
    · simpa [reschedule, if_pos hgt] using hr
    · have e1 := (reschedule_nodes s.timer r r (s.timer.nodes r).id).1
      refine e1.trans ?_
      simp only [Node.mk.injEq, hint, hid, true_and]
      rw [hn]
      simp
    · rw [rearmDue, if_pos hgt, Function.update_self, hint, hiv hpos, hd]
      ring
    · show T + (k + 1) * n ≤ s.ticks
      omega

theorem Stepped.tracked (hs : Stepped s a s') (hg : Good s.timer s.expired s.ticks due)
    (htr : Tracked node T n c s due) (hadd : node.id ∉ addIds [a])
    (hf : ∀ id ∈ addIds [a], ∀ r, r < s.timer.nextRef → (s.timer.nodes r).id ≠ id)
    (hcancel : ∀ msg, a = .cancel msg → ¬ msg.Drops node.id node.rawListener)
    (hiv : 0 < node.intervalTick → node.intervalTick.toNat = n)
    (hcall : callee s.destroyed node = some c) :
    ∃ due', Good s'.timer s'.expired s'.ticks due' ∧ Tracked node T n c s' due' := by
  cases htr with
  | done hi hr hh ht =>
    obtain ⟨due', hg'⟩ := hs.good hg hf
    obtain ⟨g1, g2⟩ := hs.gone hg hadd hr
    have hle : s.ticks ≤ s'.ticks := by cases hs <;> simp
    exact ⟨due', hg', .done hi g1 ((history_of_firesOf g2).trans hh) (ht.trans hle)⟩
  | armed r k hr hn hd hk hh ht =>
    have hcallee : callee s.destroyed (s.timer.nodes r) = some c := by rw [hn]; exact hcall
    have hid : (s.timer.nodes r).id = node.id := by rw [hn]
    have hle : s.ticks ≤ s'.ticks := by cases hs <;> simp
    obtain ⟨due', hg', hfate⟩ := hs.fate hg hr hadd hf
    refine ⟨due', hg', ?_⟩
    cases hfate with
    | kept hr' hd' hn' hlog =>
      exact .armed r k hr' (by rw [hn']; exact hn) (hd'.trans hd) hk
        ((history_of_firesOf hlog).trans hh) (ht.trans hle)
    | dropped msg ha hm hr' =>
      have hraw : (s.timer.nodes r).rawListener = node.rawListener := by rw [hn]
      exact absurd (hraw ▸ hm) (hcancel msg ha)
    | dead hw hl hr' => simp [callee, hw, hl] at hcallee
    | called rest he hw hd' hs' =>
      subst hd' hs'
      rw [he] at hg
      have := tracked_call hg hiv hcall hr hn hd hk hh
      rwa [hid] at this

theorem callee_of_subset {d d' : List ListenerId} (hd : d ⊆ d') (h : callee d' node = some c) :
    callee d node = some c := by
  unfold callee at h ⊢
  cases hw : node.useWeak with
  | false => simpa [hw] using h
  | true =>
    simp only [hw, if_true, Option.map_eq_some_iff] at h ⊢
    obtain ⟨l, hl, hc⟩ := h
    obtain ⟨hp, hn⟩ := lock_eq_some.mp hl
    exact ⟨l, lock_eq_some.mpr ⟨hp, fun hm => hn (hd hm)⟩, hc⟩

theorem tracked_run {U : List TimerId} {as : List TimerAction}
    (hg : Good s.timer s.expired s.ticks due)
    (hu : ∀ r, r < s.timer.nextRef → (s.timer.nodes r).id ∈ U) (htr : Tracked node T n c s due)
    (hf : FreshFrom U as) (hid : node.id ∈ U)
    (hkeep : ∀ msg, .cancel msg ∈ as → ¬ msg.Drops node.id node.rawListener)
    (hiv : 0 < node.intervalTick → node.intervalTick.toNat = n)
    (hs : run TimerLoop.step s as = some s') (hcall : callee s'.destroyed node = some c) :
    ∃ due', Good s'.timer s'.expired s'.ticks due' ∧ Tracked node T n c s' due' := by
  induction as generalizing s U due with
  | nil =>
    rw [run_nil, Option.some.injEq] at hs
    subst hs
    exact ⟨due, hg, htr⟩
  | cons a as ih =>
    obtain ⟨m, hm, hr⟩ := run_cons_eq_some.mp hs
    obtain ⟨hf1, hf2⟩ := hf.cons
    have hst := stepped hg hm
    have hnow : callee s.destroyed node = some c := callee_of_subset (run_destroyed hs) hcall
    obtain ⟨due', hg', htr'⟩ := hst.tracked hg htr (fun h => hf1 _ h hid)
      (fun id h r hr e => hf1 id h (e ▸ hu r hr))
      (fun msg e => hkeep msg (e ▸ List.mem_cons_self)) hiv hnow
    exact ih hg' (fun r hr => hst.ids_mem hu hr) htr' hf2 (List.mem_append_right _ hid)
      (fun msg h => hkeep msg (List.mem_cons_of_mem a h)) hr

/-- Between two messages the calls made are those the clock has reached. -/
theorem Tracked.idle (htr : Tracked node T n c s due) (hg : Good s.timer s.expired s.ticks due)
    (he : s.expired = []) (hn : 0 < n) :
    history node.id s.log =
      firstCalls c T n (if node.intervalTick = 0 then min 1 ((s.ticks - T) / n)
        else (s.ticks - T) / n) := by
  cases htr with
  | armed r k hr hnode hd hk hh ht =>
    have hheld : s.timer.wheel.Holds r := by
      rcases hg.reg_kept _ _ hr with h | h
      · exact h
      · rw [he] at h
        exact absurd h List.not_mem_nil
    obtain ⟨l, i, hmem⟩ := hheld
    have hlt : s.ticks < T + (k + 1) * n := hd ▸ (hg.placed.ahead l i r hmem).lt
    have hdiv : (s.ticks - T) / n = k := by
      refine Nat.div_eq_of_lt_le ?_ ?_ <;> omega
    rw [hh, hdiv]
    by_cases hi : node.intervalTick = 0
    · rw [if_pos hi, hk hi]
      rfl
    · rw [if_neg hi]
  | done hi hr hh ht =>
    have hdiv : 1 ≤ (s.ticks - T) / n := (Nat.one_le_div_iff hn).mpr (by omega)
    rw [hh, if_pos hi, Nat.min_eq_left hdiv]

end Tracking

/-! ## The schedule -/

/-- The calls of a timer up to tick `N`: one at most, or one every `n` ticks. -/
def scheduled (c : OnTimerCall) (isInterval : Bool) (T n N : Nat) :
    List (OnTimerCall × Nat × Nat) :=
  firstCalls c T n (if isInterval then (N - T) / n else min 1 ((N - T) / n))

theorem tracked_add (due : NodeRef → Nat) {m : TimerAddMessage} {dying : List ListenerId}
    {c : OnTimerCall} (hlog : firesOf m.timerId s.log = []) :
    Tracked (makeNode s.destroyed (dying ++ s.destroyed) s.timer.currentTick m) s.ticks
      (delayTicks m.intervalMs).toNat c
      { s with
        timer := s.timer.onTimerAdd s.destroyed (dying ++ s.destroyed) m
        destroyed := dying ++ s.destroyed }
      (addDue due s.timer s.ticks m) := by
  refine .armed s.timer.nextRef 0 ?_ ?_ ?_ (fun _ => rfl) ?_ (by simp)
  · simp [onTimerAdd]
  · simp [onTimerAdd]
  · simp [addDue]
  · show history m.timerId s.log = _
    simp [history, hlog, firstCalls]

theorem makeNode_callee {d d₀ d₁ : List ListenerId} (tick : UInt32) {m : TimerAddMessage}
    {l : ListenerId} (hd : d ⊆ d₁)
    (hl : (if weakExpired d₀ m.weakListener then m.listener else lock d₁ m.weakListener) = some l) :
    callee d₁ (makeNode d₀ d tick m) = some ⟨m.timerId, l, m.logicTimerId, m.pParam⟩ := by
  unfold callee makeNode
  cases hw : weakExpired d₀ m.weakListener with
  | true =>
    rw [hw, if_pos rfl] at hl
    simp [hl]
  | false =>
    rw [hw, if_neg Bool.false_ne_true] at hl
    obtain ⟨hp, hn⟩ := lock_eq_some.mp hl
    have h1 : lock d m.weakListener = some l := lock_eq_some.mpr ⟨hp, fun hm => hn (hd hm)⟩
    have h2 : lock d₁ (some l) = some l := lock_eq_some.mpr ⟨rfl, hn⟩
    simp [h1, h2]

theorem makeNode_intervalTick (d d' : List ListenerId) (tick : UInt32) (m : TimerAddMessage) :
    ((makeNode d d' tick m).intervalTick = 0 ↔ m.isInterval = false) ∧
      (0 < (makeNode d d' tick m).intervalTick →
        (makeNode d d' tick m).intervalTick.toNat = (delayTicks m.intervalMs).toNat) := by
  have hpos := delayTicks_pos m.intervalMs
  unfold makeNode
  cases m.isInterval with
  | false => simp
  | true =>
    simp only [if_true, implies_true, and_true, reduceCtorEq, iff_false]
    intro e
    rw [e] at hpos
    exact absurd hpos (by decide)

theorem Tracked.cancelled {node : Node} {T n : Nat} {c : OnTimerCall}
    (htr : Tracked node T n c s due) (hg : Good s.timer s.expired s.ticks due)
    {msg : TimerCancelMessage} (hm : msg.Drops node.id node.rawListener) :
    (s.timer.onTimerCancel msg).timers node.id = none := by
  cases h : (s.timer.onTimerCancel msg).timers node.id with
  | none => rfl
  | some r' =>
    obtain ⟨hr', hnot⟩ := (onTimerCancel_timers hg msg node.id r').mp h
    cases htr with
    | done hi hr hh ht =>
      rw [hr] at hr'
      cases hr'
    | armed r k hr hn hd hk hh ht =>
      rw [hr, Option.some.injEq] at hr'
      subst hr'
      have hraw : (s.timer.nodes r).rawListener = node.rawListener := by rw [hn]
      rw [hraw] at hnot
      exact absurd hm hnot

theorem tracked_of_add {U : List TimerId} {mid : List TimerAction} {m : TimerAddMessage}
    {dying : List ListenerId} {l : ListenerId} (h : Sound s U)
    (hf : FreshFrom U (.add m dying :: mid)) (hlog : firesOf m.timerId s.log = [])
    (hs : run TimerLoop.step s (.add m dying :: mid) = some s')
    (hkeep : ∀ msg, .cancel msg ∈ mid → ¬ msg.Drops m.timerId m.listener)
    (hl : (if weakExpired s.destroyed m.weakListener then m.listener
      else lock s'.destroyed m.weakListener) = some l) :
    ∃ due, Good s'.timer s'.expired s'.ticks due ∧
      Tracked (makeNode s.destroyed (dying ++ s.destroyed) s.timer.currentTick m) s.ticks
        (delayTicks m.intervalMs).toNat ⟨m.timerId, l, m.logicTimerId, m.pParam⟩ s' due := by
  obtain ⟨due, hg, hu⟩ := h
  obtain ⟨sa, ha, hmid⟩ := run_cons_eq_some.mp hs
  obtain ⟨hf1, hf2⟩ := hf.cons
  have hst := stepped hg ha
  have hua := fun r hr => hst.ids_mem hu (r := r) hr
  have hiv := (makeNode_intervalTick s.destroyed (dying ++ s.destroyed) s.timer.currentTick m).2
  cases hst with
  | add _ _ he =>
    have hcall := makeNode_callee s.timer.currentTick (run_destroyed hmid) hl
    have hga := onTimerAdd_good (he ▸ hg) s.destroyed (dying ++ s.destroyed) m
      (fun r hr e => hf1 _ (by simp [addIds]) (e ▸ hu r hr))
    refine tracked_run ?_ hua (tracked_add due hlog) hf2 ?_ hkeep hiv
      hmid hcall
    · simp only [he]
      exact hga
    · simp [addIds, makeNode]

/-- **Timers fire on schedule.**  `m` is added after a run `pre`, and nothing in `mid` cancels
it; then the run ends or goes on with a cancel of it.  Its listener `l` lives until then.
The calls made for it are exactly those of its schedule that come before the end of `mid`. -/
theorem fires_on_schedule (pre mid rest : List TimerAction) (m : TimerAddMessage)
    (dying : List ListenerId) {l : ListenerId} {s₀ s₁ s₂ : TimerLoop}
    (hids : (addIds (pre ++ .add m dying :: mid ++ rest)).Nodup)
    (h0 : run TimerLoop.step .init pre = some s₀)
    (h1 : run TimerLoop.step s₀ (.add m dying :: mid) = some s₁)
    (h2 : run TimerLoop.step s₁ rest = some s₂) (hidle : s₁.expired = [])
    (hkeep : ∀ msg, .cancel msg ∈ mid → ¬ msg.Drops m.timerId m.listener)
    (hend : rest = [] ∨ ∃ msg rest', rest = .cancel msg :: rest' ∧ msg.Drops m.timerId m.listener)
    (hl : (if weakExpired s₀.destroyed m.weakListener then m.listener
      else lock s₁.destroyed m.weakListener) = some l) :
    history m.timerId s₂.log =
      scheduled ⟨m.timerId, l, m.logicTimerId, m.pParam⟩ m.isInterval s₀.ticks
        (max 1 (m.intervalMs.toNat / 10)) s₁.ticks := by
  have hfresh : FreshFrom [] (pre ++ (.add m dying :: mid ++ rest)) :=
    ⟨by simpa [List.append_assoc] using hids, fun _ _ => List.not_mem_nil⟩
  obtain ⟨hf0, hf⟩ := hfresh.append
  obtain ⟨U, hs0, hU⟩ := run_sound sound_init hf0 h0
  obtain ⟨hf1, hf2⟩ := (hf U hU).append
  have hnew : m.timerId ∉ addIds pre := fun h => hf1.2 _ (by simp [addIds]) ((hU _).mpr (.inl h))
  have hlog := (gone_run sound_init hf0 hnew rfl h0).2
  obtain ⟨due, hg1, htr⟩ := tracked_of_add hs0 hf1 hlog h1 hkeep hl
  have hdelay := delayTicks_toNat m.intervalMs
  have hi := (makeNode_intervalTick s₀.destroyed (dying ++ s₀.destroyed) s₀.timer.currentTick m).1
  have hs1 : history m.timerId s₁.log =
      scheduled ⟨m.timerId, l, m.logicTimerId, m.pParam⟩ m.isInterval s₀.ticks
        (max 1 (m.intervalMs.toNat / 10)) s₁.ticks := by
    refine (htr.idle hg1 hidle (delayTicks_pos _)).trans ?_
    rw [hdelay]
    unfold scheduled
    cases hint : m.isInterval with
    | false => rw [if_pos (hi.mpr hint)]; rfl
    | true => rw [if_neg (fun e => by rw [hi.mp e] at hint; cases hint)]; rfl
  rcases hend with rfl | ⟨msg, rest', rfl, hdrop⟩
  · rw [run_nil, Option.some.injEq] at h2
    exact h2 ▸ hs1
  · -- the cancel takes it out of the tables, and an id that is out stays out
    obtain ⟨U', hs1', hU'⟩ := run_sound hs0 hf1 h1
    obtain ⟨sc, hc, hrest⟩ := run_cons_eq_some.mp h2
    obtain ⟨hf3, hf4⟩ := (hf2 U' hU').cons
    have hsc := step_sound hs1' hf3 hc
    have hout : m.timerId ∉ addIds rest' := fun h => by
      refine hf4.2 _ h (List.mem_append_right _ ((hU' _).mpr (.inl ?_)))
      simp [addIds]
    have hgone : sc.timer.timers m.timerId = none ∧ sc.log = s₁.log := by
      cases stepped hg1 hc with
      | cancel _ he => exact ⟨htr.cancelled hg1 hdrop, rfl⟩
    rw [history_of_firesOf (gone_run hsc hf4 hout hgone.1 hrest).2, hgone.2]
    exact hs1

/-- A repeating timer of 25 ms, cancelled after five ticks. -/
theorem fires_on_schedule_repeating :
    ∃ s, run TimerLoop.step .init
        [.tick, .add ⟨1, 9, 25, true, some 7, none, 0⟩ [], .tick, .tick, .expire, .tick, .tick,
          .expire, .tick, .cancel ⟨1, none⟩, .tick, .tick] = some s ∧
      history 1 s.log = [(⟨1, 7, 9, 0⟩, 3, 3), (⟨1, 7, 9, 0⟩, 5, 5)] := by
  refine ⟨_, rfl, ?_⟩
  refine fires_on_schedule [.tick] [.tick, .tick, .expire, .tick, .tick, .expire, .tick]
    [.cancel ⟨1, none⟩, .tick, .tick] ⟨1, 9, 25, true, some 7, none, 0⟩ [] (l := 7) (by decide)
    rfl rfl rfl rfl ?_ (.inr ⟨_, _, rfl, Or.inl (by decide)⟩) rfl
  intro msg hm
  simp at hm

end ToyServer
