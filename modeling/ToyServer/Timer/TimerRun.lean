import ToyServer.Timer.TimerGood

/-!
# Runs of the timer loop

`Stepped` says once what each step of `TimerLoop.step` does, with the three ways a
round of the loop can go; every proof about runs goes by cases on it.  Over every run
in which each Add message has an id of its own:

* `run_sound`: the tables stay `Good`;
* `gone_run`: an id that is not registered is never registered or called again.
-/

namespace ToyServer

open Runs TimerImpl

/-! ## What a step does -/

/-- The log entry of a call made in state `s`. -/
def TimerLoop.fired (s : TimerLoop) (c : OnTimerCall) : Fired :=
  ⟨c, s.ticks, s.timer.currentTick, decide (c.listener ∈ s.destroyed)⟩

/-- The steps of the dispatcher, with the three ways a round of the loop can go. -/
inductive Stepped (s : TimerLoop) : TimerAction → TimerLoop → Prop where
  | add (msg : TimerAddMessage) (dying : List ListenerId) (he : s.expired = []) :
      Stepped s (.add msg dying) { s with
        timer := s.timer.onTimerAdd s.destroyed (dying ++ s.destroyed) msg
        destroyed := dying ++ s.destroyed }
  | cancel (msg : TimerCancelMessage) (he : s.expired = []) :
      Stepped s (.cancel msg) { s with timer := s.timer.onTimerCancel msg }
  | tick (he : s.expired = []) :
      Stepped s .tick { s with
        timer := s.timer.beginTick.1, expired := s.timer.beginTick.2, ticks := s.ticks + 1 }
  | zombie (r : NodeRef) (rest : List NodeRef) (he : s.expired = r :: rest)
      (hr : s.timer.timers (s.timer.nodes r).id = none) :
      Stepped s .expire { s with expired := rest }
  | dead (r : NodeRef) (rest : List NodeRef) (he : s.expired = r :: rest)
      (hr : s.timer.timers (s.timer.nodes r).id = some r) (hw : (s.timer.nodes r).useWeak = true)
      (hl : lock s.destroyed (s.timer.nodes r).weakListener = none) :
      Stepped s .expire { s with
        timer := (s.timer.setCancelled r).forget (s.timer.nodes r).rawListener (s.timer.nodes r).id
        expired := rest }
  | call (r : NodeRef) (rest : List NodeRef) (he : s.expired = r :: rest)
      (hr : s.timer.timers (s.timer.nodes r).id = some r)
      (hw : (s.timer.nodes r).useWeak = true →
        lock s.destroyed (s.timer.nodes r).weakListener ≠ none) :
      Stepped s .expire { s with
        timer := s.timer.reschedule r (s.timer.nodes r).id
        expired := rest
        log := s.log ++ (callee s.destroyed (s.timer.nodes r)).toList.map s.fired }
  | destroy (l : ListenerId) : Stepped s (.destroy l) { s with destroyed := l :: s.destroyed }

variable {s s' : TimerLoop} {a : TimerAction} {due : NodeRef → Nat}

/-- Inversion of `step`. -/
theorem stepped (h : Good s.timer s.expired s.ticks due) (hs : s.step a = some s') :
    Stepped s a s' := by
  cases a with
  | add msg dying =>
    simp only [TimerLoop.step, Option.ite_none_right_eq_some, Option.some.injEq] at hs
    obtain ⟨he, rfl⟩ := hs
    exact .add msg dying he
  | cancel msg =>
    simp only [TimerLoop.step, Option.ite_none_right_eq_some, Option.some.injEq] at hs
    obtain ⟨he, rfl⟩ := hs
    exact .cancel msg he
  | tick =>
    simp only [TimerLoop.step, Option.ite_none_right_eq_some, Option.some.injEq] at hs
    obtain ⟨he, rfl⟩ := hs
    exact .tick he
  | expire =>
    cases he : s.expired with
    | nil => simp [TimerLoop.step, he] at hs
    | cons r rest =>
      simp only [TimerLoop.step, he, Option.some.injEq] at hs
      subst hs
      rw [he] at h
      rcases onTimerExpired_cases h s.destroyed with ⟨hr, e⟩ | ⟨hr, hw, hl, e⟩ | ⟨hr, hw, e⟩
      · rw [e]
        simpa using Stepped.zombie r rest he hr
      · rw [e]
        simpa using Stepped.dead r rest he hr hw hl
      · rw [e]
        exact .call r rest he hr hw
  | destroy l =>
    simp only [TimerLoop.step, Option.some.injEq] at hs
    subst hs
    exact .destroy l

theorem reschedule_nodes (t : TimerImpl) (r r' : NodeRef) (id : TimerId) :
    (t.reschedule r id).nodes r' =
        { t.nodes r' with expiryTick := ((t.reschedule r id).nodes r').expiryTick } ∧
      (r' ≠ r → (t.reschedule r id).nodes r' = t.nodes r') ∧
      (t.reschedule r id).nextRef = t.nextRef := by
  unfold reschedule
  dsimp only
  split
  · refine ⟨?_, fun e => by simp [Function.update_of_ne e], rfl⟩
    by_cases e : r' = r
    · subst e; simp
    · simp [Function.update_of_ne e]
  · exact ⟨rfl, fun _ => rfl, rfl⟩

/-! ## Runs with fresh ids -/

/-- Ids of the Add messages of a run. -/
def addIds : List TimerAction → List TimerId
  | [] => []
  | .add msg _ :: as => msg.timerId :: addIds as
  | _ :: as => addIds as

theorem addIds_append (as bs : List TimerAction) : addIds (as ++ bs) = addIds as ++ addIds bs := by
  induction as with
  | nil => rfl
  | cons a as ih => cases a <;> simp [addIds, ih]

/-- The tables are good, and every node has one of the ids `U`. -/
def Sound (s : TimerLoop) (U : List TimerId) : Prop :=
  ∃ due, Good s.timer s.expired s.ticks due ∧ ∀ r, r < s.timer.nextRef → (s.timer.nodes r).id ∈ U

theorem sound_init : Sound .init [] :=
  ⟨_, good_init, fun r hr => absurd hr (Nat.not_lt_zero r)⟩

theorem Stepped.node (hs : Stepped s a s') {r : NodeRef} (hr : r < s'.timer.nextRef) :
    (r < s.timer.nextRef ∧
      ∃ e c, s'.timer.nodes r = { s.timer.nodes r with expiryTick := e, cancelled := c }) ∨
    ∃ msg dying, a = .add msg dying ∧ r = s.timer.nextRef ∧
      s'.timer.nodes r = makeNode s.destroyed (dying ++ s.destroyed) s.timer.currentTick msg := by
  cases hs with
  | add msg dying he =>
    rcases Nat.lt_succ_iff_lt_or_eq.mp hr with hr | rfl
    · refine .inl ⟨hr, (s.timer.nodes r).expiryTick, (s.timer.nodes r).cancelled, ?_⟩
      simp [onTimerAdd, Function.update_of_ne (Nat.ne_of_lt hr)]
    · exact .inr ⟨msg, dying, rfl, rfl, by simp [onTimerAdd]⟩
  | cancel msg he =>
    obtain ⟨-, hn, -, hnodes⟩ := onTimerCancel_frame s.timer msg
    change r < (s.timer.onTimerCancel msg).nextRef at hr
    rw [hn] at hr
    rcases hnodes r with e | ⟨-, -, e⟩
    · exact .inl ⟨hr, (s.timer.nodes r).expiryTick, (s.timer.nodes r).cancelled, e⟩
    · exact .inl ⟨hr, (s.timer.nodes r).expiryTick, true, e⟩
  | dead r₀ rest he hr₀ hw hl =>
    refine .inl ⟨hr, (s.timer.nodes r).expiryTick, ?_⟩
    by_cases er : r = r₀
    · subst er
      exact ⟨true, by simp [forget, setCancelled]⟩
    · exact ⟨(s.timer.nodes r).cancelled, by simp [forget, setCancelled, Function.update_of_ne er]⟩
  | call r₀ rest he hr₀ hw =>
    obtain ⟨e1, -, e3⟩ := reschedule_nodes s.timer r₀ r (s.timer.nodes r₀).id
    change r < (s.timer.reschedule r₀ _).nextRef at hr
    rw [e3] at hr
    exact .inl ⟨hr, _, (s.timer.nodes r).cancelled, e1⟩
  | _ => exact .inl ⟨hr, _, _, rfl⟩

variable {U : List TimerId} {as : List TimerAction}

theorem Stepped.ids_mem (hs : Stepped s a s')
    (hu : ∀ r, r < s.timer.nextRef → (s.timer.nodes r).id ∈ U) {r : NodeRef}
    (hr : r < s'.timer.nextRef) : (s'.timer.nodes r).id ∈ addIds [a] ++ U := by
  rcases hs.node hr with ⟨hr', e, c, hn⟩ | ⟨msg, dying, rfl, -, hn⟩
  · rw [hn]
    exact List.mem_append_right _ (hu r hr')
  · rw [hn]
    exact List.mem_append_left _ (by simp [addIds, makeNode])

theorem Stepped.good (hs : Stepped s a s') (h : Good s.timer s.expired s.ticks due)
    (hf : ∀ id ∈ addIds [a], ∀ r, r < s.timer.nextRef → (s.timer.nodes r).id ≠ id) :
    ∃ due', Good s'.timer s'.expired s'.ticks due' := by
  cases hs with
  | add msg dying he =>
    rw [he] at h
    refine ⟨addDue due s.timer s.ticks msg, ?_⟩
    simp only [he]
    exact onTimerAdd_good h _ _ msg (hf _ (by simp [addIds]))
  | cancel msg he => exact ⟨due, onTimerCancel_good h msg⟩
  | tick he =>
    rw [he] at h
    exact ⟨due, beginTick_good h⟩
  | zombie r rest he hr =>
    rw [he] at h
    exact ⟨due, h.skip fun id hid => by
      rw [h.reg_id _ _ hid, hid] at hr
      cases hr⟩
  | dead r rest he hr hw hl =>
    rw [he] at h
    exact ⟨due, forget_skip_good h hr true⟩
  | call r rest he hr hw =>
    rw [he] at h
    exact ⟨_, reschedule_good h hr⟩
  | destroy l => exact ⟨due, h⟩

theorem step_sound (h : Sound s U) (hf : ∀ id ∈ addIds [a], id ∉ U)
    (hs : s.step a = some s') : Sound s' (addIds [a] ++ U) := by
  obtain ⟨due, hg, hu⟩ := h
  have hst := stepped hg hs
  obtain ⟨due', hg'⟩ := hst.good hg (fun id hid r hr e => hf id hid (e ▸ hu r hr))
  exact ⟨due', hg', fun r hr => hst.ids_mem hu hr⟩

/-- Ids that are fresh for a run from a state with ids `U`. -/
def FreshFrom (U : List TimerId) (as : List TimerAction) : Prop :=
  (addIds as).Nodup ∧ ∀ id ∈ addIds as, id ∉ U

theorem FreshFrom.cons {a : TimerAction} (h : FreshFrom U (a :: as)) :
    (∀ id ∈ addIds [a], id ∉ U) ∧ FreshFrom (addIds [a] ++ U) as := by
  obtain ⟨h1, h2⟩ := h
  have hap : addIds (a :: as) = addIds [a] ++ addIds as := addIds_append [a] as
  rw [hap] at h1 h2
  obtain ⟨-, h3, h4⟩ := List.nodup_append.mp h1
  refine ⟨fun id hid => h2 id (List.mem_append_left _ hid), h3, fun id hid hm => ?_⟩
  rcases List.mem_append.mp hm with hm | hm
  · exact h4 id hm id hid rfl
  · exact h2 id (List.mem_append_right _ hid) hm

theorem FreshFrom.append {bs : List TimerAction} (h : FreshFrom U (as ++ bs)) :
    FreshFrom U as ∧ ∀ U', (∀ id, id ∈ U' ↔ id ∈ addIds as ∨ id ∈ U) → FreshFrom U' bs := by
  obtain ⟨h1, h2⟩ := h
  rw [addIds_append] at h1 h2
  obtain ⟨h3, h4, h5⟩ := List.nodup_append.mp h1
  refine ⟨⟨h3, fun id hid => h2 id (List.mem_append_left _ hid)⟩,
    fun U' hU' => ⟨h4, fun id hid hm => ?_⟩⟩
  rcases (hU' id).mp hm with hm | hm
  · exact h5 id hm id hid rfl
  · exact h2 id (List.mem_append_right _ hid) hm

theorem run_sound (h : Sound s U) (hf : FreshFrom U as) (hs : run TimerLoop.step s as = some s') :
    ∃ U', Sound s' U' ∧ ∀ id, id ∈ U' ↔ id ∈ addIds as ∨ id ∈ U := by
  induction as generalizing s U with
  | nil =>
    rw [run_nil, Option.some.injEq] at hs
    subst hs
    exact ⟨U, h, fun id => by simp [addIds]⟩
  | cons a as ih =>
    obtain ⟨m, hm, hr⟩ := run_cons_eq_some.mp hs
    obtain ⟨hf1, hf2⟩ := hf.cons
    obtain ⟨U', hs', hU'⟩ := ih (step_sound h hf1 hm) hf2 hr
    refine ⟨U', hs', fun id => ?_⟩
    rw [hU', List.mem_append, show a :: as = [a] ++ as from rfl, addIds_append, List.mem_append]
    tauto

/-! ## Ids that are gone -/

/-- The calls made for a timer, oldest first. -/
def firesOf (id : TimerId) (log : List Fired) : List Fired := log.filter fun f => f.call.id == id

theorem callee_id {destroyed : List ListenerId} {node : Node} {c : OnTimerCall}
    (h : callee destroyed node = some c) : c.id = node.id := by
  unfold callee at h
  rw [Option.map_eq_some_iff] at h
  obtain ⟨l, -, rfl⟩ := h
  rfl

theorem firesOf_call_of_ne (s : TimerLoop) {id : TimerId} {node : Node} (h : node.id ≠ id) :
    firesOf id (s.log ++ (callee s.destroyed node).toList.map s.fired) = firesOf id s.log := by
  unfold firesOf
  rw [List.filter_append]
  cases hc : callee s.destroyed node with
  | none => simp
  | some c =>
    have := callee_id hc
    simp [TimerLoop.fired, this, h]

theorem reschedule_timers_of_ne (t : TimerImpl) (r : NodeRef) {id id' : TimerId} (h : id ≠ id') :
    (t.reschedule r id').timers id = t.timers id := by
  unfold reschedule
  dsimp only
  split
  · rfl
  · simp [forget, Function.update_of_ne h]

/-- An id that is not registered stays out of the tables and is not called. -/
theorem Stepped.gone (hs : Stepped s a s') (h : Good s.timer s.expired s.ticks due) {id : TimerId}
    (hid : id ∉ addIds [a]) (hr : s.timer.timers id = none) :
    s'.timer.timers id = none ∧ firesOf id s'.log = firesOf id s.log := by
  cases hs with
  | add msg dying he =>
    have hne : id ≠ msg.timerId := by simpa [addIds] using hid
    exact ⟨by simpa [onTimerAdd, makeNode, Function.update_of_ne hne] using hr, rfl⟩
  | cancel msg he =>
    refine ⟨?_, rfl⟩
    cases hc : (s.timer.onTimerCancel msg).timers id with
    | none => rfl
    | some r =>
      rw [((onTimerCancel_timers h msg id r).mp hc).1] at hr
      cases hr
  | dead r rest he hr₀ hw hl =>
    have hne : id ≠ (s.timer.nodes r).id := by rintro rfl; rw [hr₀] at hr; cases hr
    exact ⟨by simpa [forget, setCancelled, Function.update_of_ne hne] using hr, rfl⟩
  | call r rest he hr₀ hw =>
    have hne : id ≠ (s.timer.nodes r).id := by rintro rfl; rw [hr₀] at hr; cases hr
    exact ⟨(reschedule_timers_of_ne s.timer r hne).trans hr, firesOf_call_of_ne s hne.symm⟩
  | _ => exact ⟨hr, rfl⟩

theorem gone_run (h : Sound s U) (hf : FreshFrom U as) {id : TimerId} (hid : id ∉ addIds as)
    (hr : s.timer.timers id = none) (hs : run TimerLoop.step s as = some s') :
    s'.timer.timers id = none ∧ firesOf id s'.log = firesOf id s.log := by
  induction as generalizing s U with
  | nil =>
    rw [run_nil, Option.some.injEq] at hs
    subst hs
    exact ⟨hr, rfl⟩
  | cons a as ih =>
    obtain ⟨m, hm, hrun⟩ := run_cons_eq_some.mp hs
    obtain ⟨hf1, hf2⟩ := hf.cons
    have hap : addIds (a :: as) = addIds [a] ++ addIds as := addIds_append [a] as
    rw [hap, List.mem_append, not_or] at hid
    have hg := h
    obtain ⟨due, hg, -⟩ := hg
    obtain ⟨g1, g2⟩ := (stepped hg hm).gone hg hid.1 hr
    obtain ⟨i1, i2⟩ := ih (step_sound h hf1 hm) hf2 hid.2 g1 hrun
    exact ⟨i1, i2.trans g2⟩

/-! ## A registered timer -/

/-- What a step can do to the registered timer `id` with node `r`. -/
inductive Fate (s : TimerLoop) (a : TimerAction) (id : TimerId) (r : NodeRef) (due : NodeRef → Nat)
    (s' : TimerLoop) (due' : NodeRef → Nat) : Prop where
  | kept (hr : s'.timer.timers id = some r) (hd : due' r = due r)
      (hn : s'.timer.nodes r = s.timer.nodes r) (hlog : firesOf id s'.log = firesOf id s.log)
  | dropped (msg : TimerCancelMessage) (ha : a = .cancel msg)
      (hm : msg.Drops id (s.timer.nodes r).rawListener) (hr : s'.timer.timers id = none)
  | dead (hw : (s.timer.nodes r).useWeak = true)
      (hl : lock s.destroyed (s.timer.nodes r).weakListener = none) (hr : s'.timer.timers id = none)
  | called (rest : List NodeRef) (he : s.expired = r :: rest)
      (hw : (s.timer.nodes r).useWeak = true →
        lock s.destroyed (s.timer.nodes r).weakListener ≠ none)
      (hd : due' = rearmDue due s.timer r)
      (hs : s' = { s with
        timer := s.timer.reschedule r id
        expired := rest
        log := s.log ++ (callee s.destroyed (s.timer.nodes r)).toList.map s.fired })

theorem Stepped.fate (hs : Stepped s a s') (hg : Good s.timer s.expired s.ticks due)
    {id : TimerId} {r : NodeRef} (hr : s.timer.timers id = some r) (hadd : id ∉ addIds [a])
    (hf : ∀ id ∈ addIds [a], ∀ r, r < s.timer.nextRef → (s.timer.nodes r).id ≠ id) :
    ∃ due', Good s'.timer s'.expired s'.ticks due' ∧ Fate s a id r due s' due' := by
  have hid := hg.reg_id _ _ hr
  have hlt := hg.reg_lt _ _ hr
  -- two registered timers have two ids
  have hother : ∀ r₀, s.timer.timers (s.timer.nodes r₀).id = some r₀ → r ≠ r₀ →
      id ≠ (s.timer.nodes r₀).id := by
    rintro r₀ hr₀ hne rfl
    rw [hr₀, Option.some.injEq] at hr
    exact hne hr.symm
  cases hs with
  | add msg dying he =>
    have hne : id ≠ msg.timerId := by simpa [addIds] using hadd
    rw [he] at hg
    refine ⟨addDue due s.timer s.ticks msg, ?_, .kept ?_ ?_ ?_ rfl⟩
    · simp only [he]
      exact onTimerAdd_good hg _ _ msg (hf _ (by simp [addIds]))
    · simpa [onTimerAdd, makeNode, Function.update_of_ne hne] using hr
    · rw [addDue, Function.update_of_ne (Nat.ne_of_lt hlt)]
    · simp [onTimerAdd, Function.update_of_ne (Nat.ne_of_lt hlt)]
  | cancel msg he =>
    refine ⟨due, onTimerCancel_good hg msg, ?_⟩
    by_cases hm : msg.Drops id (s.timer.nodes r).rawListener
    · refine .dropped msg rfl hm ?_
      cases h : (s.timer.onTimerCancel msg).timers id with
      | none => rfl
      | some r' =>
        obtain ⟨hr', hnot⟩ := (onTimerCancel_timers hg msg id r').mp h
        rw [hr, Option.some.injEq] at hr'
        exact absurd (hr' ▸ hm) hnot
    · refine .kept ((onTimerCancel_timers hg msg _ r).mpr ⟨hr, hm⟩) rfl ?_ rfl
      rcases (onTimerCancel_frame s.timer msg).2.2.2 r with e | ⟨h0, hreg, -⟩
      · exact e
      · exact absurd (.inl ⟨h0, by rw [← hg.reg_id _ _ hreg, hid]⟩) hm
  | tick he =>
    rw [he] at hg
    exact ⟨due, beginTick_good hg, .kept hr rfl rfl rfl⟩
  | zombie r₀ rest he hr₀ =>
    rw [he] at hg
    refine ⟨due, hg.skip fun id hid => ?_, .kept hr rfl rfl rfl⟩
    rw [hg.reg_id _ _ hid, hid] at hr₀
    cases hr₀
  | dead r₀ rest he hr₀ hw hl =>
    rw [he] at hg
    refine ⟨due, forget_skip_good hg hr₀ true, ?_⟩
    by_cases hne : r = r₀
    · subst hne
      refine .dead hw hl ?_
      simp [forget, setCancelled, hid]
    · refine .kept ?_ rfl ?_ rfl
      · simpa [forget, setCancelled, Function.update_of_ne (hother r₀ hr₀ hne)] using hr
      · simp [forget, setCancelled, Function.update_of_ne hne]
  | call r₀ rest he hr₀ hw =>
    rw [he] at hg
    refine ⟨_, reschedule_good hg hr₀, ?_⟩
    by_cases hne : r = r₀
    · subst hne
      rw [hid]
      exact .called rest he hw rfl rfl
    · refine .kept ?_ ?_ ?_ ?_
      · exact (reschedule_timers_of_ne s.timer r₀ (hother r₀ hr₀ hne)).trans hr
      · unfold rearmDue
        split
        · rw [Function.update_of_ne hne]
        · rfl
      · exact (reschedule_nodes s.timer r₀ r _).2.1 hne
      · exact firesOf_call_of_ne s (hother r₀ hr₀ hne).symm
  | destroy l => exact ⟨due, hg, .kept hr rfl rfl rfl⟩

/-! ## Destroyed listeners -/

theorem step_destroyed (hs : s.step a = some s') : s.destroyed ⊆ s'.destroyed := by
  cases a with
  | expire =>
    cases he : s.expired with
    | nil => simp [TimerLoop.step, he] at hs
    | cons r rest =>
      simp only [TimerLoop.step, he, Option.some.injEq] at hs
      subst hs
      exact fun _ h => h
  | destroy l =>
    simp only [TimerLoop.step, Option.some.injEq] at hs
    subst hs
    exact List.subset_cons_self _ _
  | _ =>
    simp only [TimerLoop.step, Option.ite_none_right_eq_some, Option.some.injEq] at hs
    obtain ⟨-, rfl⟩ := hs
    simp

theorem run_destroyed (hs : run TimerLoop.step s as = some s') : s.destroyed ⊆ s'.destroyed :=
  run_inv (fun x => s.destroyed ⊆ x.destroyed)
    (fun _ _ _ h hst => List.Subset.trans h (step_destroyed hst)) (List.Subset.refl _) hs

theorem lock_eq_some {destroyed : List ListenerId} {p : Option ListenerId} {l : ListenerId} :
    lock destroyed p = some l ↔ p = some l ∧ l ∉ destroyed := by
  cases p with
  | none => simp [lock]
  | some l' =>
    simp only [lock, Option.ite_none_left_eq_some, Option.some.injEq]
    constructor
    · rintro ⟨h, rfl⟩
      exact ⟨rfl, h⟩
    · rintro ⟨rfl, h⟩
      exact ⟨h, rfl⟩

end ToyServer
