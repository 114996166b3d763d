import ToyServer.Timer.Dispatch

/-!
# Timers set through a `weak_ptr`

`ITimer.h` promises for them "Safe, Auto Cancel on Destroy".  `OnTimerAdd` keeps the weak
pointer only if it is not expired when the Add is processed; else it falls back on the raw
pointer that `SetTimer` read, and

* a listener that died between `SetTimer` and `OnTimerAdd` is called through a dangling pointer
  (`weak_listener_called_dead`);
* an interval timer whose listener was dead at `SetInterval` has a null raw pointer and goes round
  in the wheel for ever.

`weak_safe`: over every run in which no such Add is processed (`InLife`), no timer set through a
`weak_ptr` calls a destroyed listener, and once its listener is destroyed it leaves the tables
at its next expiry.
-/

namespace ToyServer

open Runs ProducerQueue TimerImpl

/-- When the dispatcher comes to the Add of a `weak_ptr` timer, the listener is alive; or it
was dead at `SetTimer` (the raw pointer is null) and the timer is a one-shot. -/
def TimerSystem.InLife (s : TimerSystem) : SystemAction → Prop
  | .process p _ => ∀ i queue m l, dequeue p s.queue = some (i, queue) → s.Set i m →
      m.weakListener = some l → l ∉ s.loop.destroyed ∨ (m.listener = none ∧ m.isInterval = false)
  | _ => True

/-- Between `s` and any later state `s'`, for the timers set through a `weak_ptr` to `l`. -/
structure WeakSafe (s s' : TimerSystem) : Prop where
  /-- no call is made on a destroyed listener -/
  calls : ∀ f ∈ s'.loop.log, ∀ i m l, s'.Set i m → m.weakListener = some l → f.call.id = m.timerId →
    f.dead = false
  /-- a timer registered in `s` with its listener destroyed is out of the tables once the tick of
  its next expiry is over -/
  removed : ∀ i m l r, s.Set i m → m.weakListener = some l → l ∈ s.loop.destroyed →
    s.loop.timer.timers m.timerId = some r → s'.loop.expired = [] →
    s.loop.ticks + ((s.loop.timer.nodes r).expiryTick - s.loop.timer.currentTick).toNat ≤
      s'.loop.ticks →
    s'.loop.timer.timers m.timerId = none ∧ ∀ x, (x, m.timerId) ∉ s'.loop.timer.listenerMap

variable {s s' : TimerSystem} {a : SystemAction}

/-! ## The nodes of `weak_ptr` timers -/

/-- A node that cannot call a dead `l`, and is not rescheduled when `l` is dead. -/
def SafeNode (l : ListenerId) (node : Node) : Prop :=
  (node.useWeak = true ∧ (node.weakListener = none ∨ node.weakListener = some l)) ∨
    (node.useWeak = false ∧ node.rawListener = none ∧ node.intervalTick = 0)

variable {l : ListenerId}

theorem makeNode_safe {d d' : List ListenerId} (tick : UInt32) {m : TimerAddMessage}
    (hm : m.weakListener = some l) (h : l ∉ d ∨ (m.listener = none ∧ m.isInterval = false)) :
    SafeNode l (makeNode d d' tick m) := by
  by_cases hd : l ∈ d
  · obtain ⟨hl, hi⟩ := h.resolve_left (fun hn => hn hd)
    right
    simp [makeNode, weakExpired, lock, hm, hd, hl, hi]
  · left
    refine ⟨by simp [makeNode, weakExpired, lock, hm, hd], ?_⟩
    by_cases hd' : l ∈ d'
    · left
      simp [makeNode, lock, hm, hd']
    · right
      simp [makeNode, weakExpired, lock, hm, hd, hd']

theorem SafeNode.callee {node : Node} {d : List ListenerId} {c : OnTimerCall}
    (h : SafeNode l node) (hc : callee d node = some c) : c.listener ∉ d := by
  unfold ToyServer.callee at hc
  rw [Option.map_eq_some_iff] at hc
  obtain ⟨x, hx, rfl⟩ := hc
  rcases h with ⟨hw, -⟩ | ⟨hw, hr, -⟩
  · rw [if_pos hw] at hx
    exact (lock_eq_some.mp hx).2
  · rw [if_neg (by simp [hw]), hr] at hx
    cases hx

theorem SafeNode.of_dead {node : Node} {d : List ListenerId} (h : SafeNode l node) (hl : l ∈ d) :
    (node.useWeak = true ∧ lock d node.weakListener = none) ∨ node.intervalTick = 0 := by
  rcases h with ⟨hw, hn | hn⟩ | ⟨-, -, hi⟩
  · exact .inl ⟨hw, by simp [hn, lock]⟩
  · exact .inl ⟨hw, by simp [hn, lock, hl]⟩
  · exact .inr hi

/-! ## The invariant -/

/-- Every node of a `weak_ptr` timer is safe, and so was every call made for one. -/
structure TimerSystem.LifeInv (s : TimerSystem) : Prop where
  nodes : ∀ r, r < s.loop.timer.nextRef → ∃ i ∈ s.processed, ∃ m, s.Set i m ∧
    (s.loop.timer.nodes r).id = m.timerId ∧
    ∀ l, m.weakListener = some l → SafeNode l (s.loop.timer.nodes r)
  log : ∀ f ∈ s.loop.log, ∃ i ∈ s.processed, ∃ m, s.Set i m ∧ f.call.id = m.timerId ∧
    ∀ l, m.weakListener = some l → f.dead = false

theorem lifeInv_init : TimerSystem.LifeInv .init where
  nodes r hr := absurd hr (Nat.not_lt_zero r)
  log _ hf := absurd hf List.not_mem_nil

theorem LifeInv.post {p : Producer} {msg : TimerMessage} (h : s.LifeInv) :
    (s.post p msg).LifeInv where
  nodes r hr := by
    obtain ⟨i, hi, m, hm, hn⟩ := h.nodes r hr
    exact ⟨i, hi, m, getElem?_post.mpr (.inl hm), hn⟩
  log f hf := by
    obtain ⟨i, hi, m, hm, hn⟩ := h.log f hf
    exact ⟨i, hi, m, getElem?_post.mpr (.inl hm), hn⟩

theorem LifeInv.loop (h : SystemInv s) (hl : s.LifeInv) {b : TimerAction} {loop : TimerLoop}
    {processed : List Nat} (hs : s.loop.step b = some loop) (hsub : s.processed ⊆ processed)
    (hadd : ∀ m dying, b = .add m dying → ∃ t ∈ processed, s.Set t m ∧
      ∀ l, m.weakListener = some l →
        l ∉ s.loop.destroyed ∨ (m.listener = none ∧ m.isInterval = false))
          (queue : List (Producer × Nat)) :
    TimerSystem.LifeInv { s with loop := loop, queue := queue, processed := processed } := by
  obtain ⟨due, hg⟩ := h.good
  have hst := stepped hg hs
  constructor
  · intro r hr
    rcases hst.node hr with ⟨hr', x, c, hn⟩ | ⟨msg, dying, rfl, -, hn⟩
    · obtain ⟨i, hi, m, hm, hid, hsafe⟩ := hl.nodes r hr'
      refine ⟨i, hsub hi, m, hm, ?_, fun l hw => ?_⟩
      · simp only [hn]
        exact hid
      · have := hsafe l hw
        simp only [hn]
        exact this
    · obtain ⟨t, ht, hset, hlife⟩ := hadd msg dying rfl
      refine ⟨t, ht, msg, hset, by simp only [hn]; rfl, fun l hw => ?_⟩
      simp only [hn]
      exact makeNode_safe _ hw (hlife l hw)
  · have hold : ∀ f ∈ s.loop.log, ∃ i ∈ processed, ∃ m, s.Set i m ∧ f.call.id = m.timerId ∧
        ∀ l, m.weakListener = some l → f.dead = false := by
      intro f hf
      obtain ⟨i, hi, hrest⟩ := hl.log f hf
      exact ⟨i, hsub hi, hrest⟩
    cases hst with
    | call r rest he hr hw =>
      intro f hf
      rcases List.mem_append.mp hf with hf | hf
      · exact hold f hf
      · obtain ⟨c, hc, rfl⟩ := List.mem_map.mp hf
        have hc : callee s.loop.destroyed (s.loop.timer.nodes r) = some c := by simpa using hc
        obtain ⟨i, hi, m, hm, hid, hsafe⟩ := hl.nodes r (hg.reg_lt _ _ hr)
        refine ⟨i, hsub hi, m, hm, (callee_id hc).trans hid, fun l hwl => ?_⟩
        simpa [TimerLoop.fired] using (hsafe l hwl).callee hc
    | _ => exact hold

/-- **No step calls a listener that is gone.** -/
theorem lifeInv_step (h : SystemInv s) (hl : s.LifeInv) (hok : s.InLife a)
    (hs : s.step a = some s') : s'.LifeInv := by
  cases systemStepped hs with
  | takeId p hp => exact ⟨hl.nodes, hl.log⟩
  | postAdd a p id hp msg hid hlock =>
    have hl' : TimerSystem.LifeInv { s with taken := Function.update s.taken p none } :=
      ⟨hl.nodes, hl.log⟩
    exact LifeInv.post hl'
  | postOther a p msg hm => exact LifeInv.post hl
  | process p dying t l₁ l₂ hd hq msg hm loop hstep =>
    refine LifeInv.loop h hl hstep (List.subset_append_left _ _) (fun m d e => ?_) _
    cases msg with
    | add m' =>
      cases e
      exact ⟨t, by simp, hm, fun l hw => hok t _ m l hd hm hw⟩
    | cancel c => cases e
    | tick => cases e
  | loop a b hb loop hstep =>
    refine LifeInv.loop h hl hstep (List.Subset.refl _) (fun m d e => ?_) _
    rw [e] at hb
    simp [addIds] at hb

/-! ## Removal -/

/-- The timer `id` is out, or still has the due tick `D`. -/
def OutOrDue (t : TimerLoop) (id : TimerId) (r : NodeRef) (D : Nat) : Prop :=
  ∃ due, Good t.timer t.expired t.ticks due ∧
    (t.timer.timers id = none ∨ (t.timer.timers id = some r ∧ due r = D))

theorem outOrDue_step {t t' : TimerLoop} {b : TimerAction} {id : TimerId} {r : NodeRef} {D : Nat}
    (h : OutOrDue t id r D) (hs : t.step b = some t') (hadd : id ∉ addIds [b])
    (hf : ∀ id ∈ addIds [b], ∀ r, r < t.timer.nextRef → (t.timer.nodes r).id ≠ id)
    (hsafe : t.timer.timers id = some r → SafeNode l (t.timer.nodes r)) (hl : l ∈ t.destroyed) :
    OutOrDue t' id r D := by
  obtain ⟨due, hg, hr | ⟨hr, hd⟩⟩ := h
  · have hst := stepped hg hs
    obtain ⟨due', hg'⟩ := hst.good hg hf
    exact ⟨due', hg', Or.inl (hst.gone hg hadd hr).1⟩
  · obtain ⟨due', hg', hfate⟩ := (stepped hg hs).fate hg hr hadd hf
    refine ⟨due', hg', ?_⟩
    cases hfate with
    | kept hr' hd' hn hlog => exact .inr ⟨hr', hd'.trans hd⟩
    | dropped msg ha hm hr' => exact .inl hr'
    | dead hw hlk hr' => exact .inl hr'
    | called rest he hw hd' hs' =>
      subst hs'
      rcases (hsafe hr).of_dead hl with ⟨hu, hn⟩ | hi
      · exact absurd hn (hw hu)
      · exact .inl (by simp [reschedule, hi, forget])

theorem OutOrDue.idle {t : TimerLoop} {id : TimerId} {r : NodeRef} {D : Nat} (h : OutOrDue t id r D)
    (he : t.expired = []) (hD : D ≤ t.ticks) :
    t.timer.timers id = none ∧ ∀ x, (x, id) ∉ t.timer.listenerMap := by
  obtain ⟨due, hg, hr⟩ := h
  have hout : t.timer.timers id = none := by
    refine hr.resolve_right fun ⟨hr, hd⟩ => ?_
    rcases hg.reg_kept _ _ hr with ⟨l, i, hm⟩ | hm
    · have := (hg.placed.ahead l i r hm).lt
      omega
    · rw [he] at hm
      exact List.not_mem_nil hm
  refine ⟨hout, fun x hx => ?_⟩
  obtain ⟨r', hr', -⟩ := (hg.listeners x id).mp hx
  rw [hout] at hr'
  cases hr'

/-- The Add `i` of `m` is processed, its listener `l` is dead, and `OutOrDue` holds. -/
structure TimerSystem.Doomed (s : TimerSystem) (i : Nat) (m : TimerAddMessage) (l : ListenerId)
    (r : NodeRef) (D : Nat) : Prop where
  set : s.Set i m
  added : i ∈ s.processed
  dead : l ∈ s.loop.destroyed
  due : OutOrDue s.loop m.timerId r D

theorem LifeInv.safe (h : SystemInv s) (hl : s.LifeInv) {i : Nat}
    {m : TimerAddMessage} {r : NodeRef} (hset : s.Set i m) (hm : m.weakListener = some l)
    (hr : s.loop.timer.timers m.timerId = some r) :
    i ∈ s.processed ∧ SafeNode l (s.loop.timer.nodes r) := by
  obtain ⟨due, hg⟩ := h.good
  obtain ⟨i', hi', m', hset', hid, hsafe⟩ := hl.nodes r (hg.reg_lt _ _ hr)
  have hi := h.ids_inj i' i m' m hset' hset (hid.symm.trans (hg.reg_id _ _ hr))
  subst hi
  rw [TimerSystem.Set, hset, Option.some.injEq, TimerMessage.add.injEq] at hset'
  subst hset'
  exact ⟨hi', hsafe l hm⟩

theorem doomed_step {i : Nat} {m : TimerAddMessage} {r : NodeRef} {D : Nat} (h : SystemInv s)
    (hl : s.LifeInv) (hm : m.weakListener = some l) (hd : s.Doomed i m l r D)
    (hs : s.step a = some s') : s'.Doomed i m l r D := by
  obtain ⟨hset, hadd, hdead, hdue⟩ := hd
  have hsafe := fun hr => (LifeInv.safe h hl (r := r) hset hm hr).2
  cases systemStepped hs with
  | takeId p hp => exact ⟨hset, hadd, hdead, hdue⟩
  | postAdd a p id hp msg hid hlock => exact ⟨getElem?_post.mpr (.inl hset), hadd, hdead, hdue⟩
  | postOther a p msg hm' => exact ⟨getElem?_post.mpr (.inl hset), hadd, hdead, hdue⟩
  | process p dying t l₁ l₂ hdq hq msg hmsg loop hstep =>
    have ht : t ∉ s.processed := h.not_processed (e := (p, t)) (by rw [hq]; simp)
    refine ⟨hset, List.mem_append_left _ hadd, step_destroyed hstep hdead,
      outOrDue_step hdue hstep ?_ ?_ hsafe hdead⟩
    · exact fun hmem => (h.action_fresh dying ht hmsg hmem).1 i m hset hadd rfl
    · exact fun id hid => (h.action_fresh dying ht hmsg hid).2
  | loop a b hb loop hstep =>
    refine ⟨hset, hadd, step_destroyed hstep hdead, outOrDue_step hdue hstep ?_ ?_ hsafe hdead⟩
    · rw [hb.1]
      exact List.not_mem_nil
    · rw [hb.1]
      exact fun id hid => absurd hid List.not_mem_nil

/-- **Weak listeners are safe** in every run whose `weak_ptr` Adds are processed in their
listener's life. -/
theorem weak_safe (as bs : List SystemAction) {s s' : TimerSystem}
    (hok : Meets TimerSystem.step TimerSystem.InLife .init (as ++ bs))
    (h1 : run TimerSystem.step .init as = some s) (h2 : run TimerSystem.step s bs = some s') :
    WeakSafe s s' := by
  have hstep : ∀ x b x', SystemInv x ∧ x.LifeInv → x.InLife b → x.step b = some x' →
      SystemInv x' ∧ x'.LifeInv := fun x b x' hx hok hs =>
    ⟨system_step hx.1 hs, lifeInv_step hx.1 hx.2 hok hs⟩
  obtain ⟨hok1, hok2⟩ := meets_append h1 hok
  obtain ⟨hs, hl⟩ := run_inv_of_meets _ hstep ⟨systemInv_init, lifeInv_init⟩ hok1 h1
  obtain ⟨hs', hl'⟩ := run_inv_of_meets _ hstep ⟨hs, hl⟩ hok2 h2
  constructor
  · intro f hf i m l hset hm hid
    obtain ⟨i', -, m', hset', hid', hdead⟩ := hl'.log f hf
    have hi := hs'.ids_inj i' i m' m hset' hset (hid'.symm.trans hid)
    subst hi
    rw [TimerSystem.Set, hset, Option.some.injEq, TimerMessage.add.injEq] at hset'
    subst hset'
    exact hdead l hm
  · intro i m l r hset hm hl₀ hr hidle hle
    obtain ⟨due, hg⟩ := hs.good
    have hdoom : s.Doomed i m l r (due r) :=
      ⟨hset, (LifeInv.safe hs hl hset hm hr).1, hl₀, due, hg, Or.inr ⟨hr, rfl⟩⟩
    have hend := run_inv_of_meets (fun x => (SystemInv x ∧ x.LifeInv) ∧ x.Doomed i m l r (due r))
      (fun x b x' hx hok hs => ⟨hstep x b x' hx.1 hok hs, doomed_step hx.1.1 hx.1.2 hm hx.2 hs⟩)
      ⟨⟨hs, hl⟩, hdoom⟩ hok2 h2
    exact hend.2.due.idle hidle (hg.due_eq hr ▸ hle)

/-- An interval timer whose listener dies after the Add: the next tick removes it without a call. -/
theorem weak_safe_interval :
    ∃ s s', run TimerSystem.step .init
        [.takeId 0, .setIntervalWeak 0 5 10 (some 7) 0, .process 0 [], .destroy 7] = some s ∧
      run TimerSystem.step s [.postTick 1, .process 1 [], .expire] = some s' ∧ WeakSafe s s' := by
  refine ⟨_, _, rfl, rfl, weak_safe [.takeId 0, .setIntervalWeak 0 5 10 (some 7) 0, .process 0 [],
    .destroy 7] [.postTick 1, .process 1 [], .expire] ?_ rfl rfl⟩
  refine meets_cons trivial rfl (meets_cons trivial rfl (meets_cons ?_ rfl (meets_cons trivial rfl
    (meets_cons trivial rfl (meets_cons ?_ rfl (meets_cons trivial rfl trivial))))))
  · intro i queue m l _ _ _
    exact .inl List.not_mem_nil
  · intro i queue m l hd hset _
    cases hd
    cases hset

/-- **A `weak_ptr` timer can call a dead listener, and can stay for ever.** In the first run the
listener dies after `SetTimer` and before its Add is processed; the tick calls it.  In the second it
was dead at `SetInterval`; its expiry at the next tick is over and it is registered still. -/
theorem weak_listener_called_dead :
    (∃ s, run TimerSystem.step .init [.takeId 0, .setTimerWeak 0 5 10 (some 7) 0, .destroy 7,
        .process 0 [], .postTick 1, .process 1 [], .expire] = some s ∧ ¬ WeakSafe s s) ∧
    ∃ s s', run TimerSystem.step .init [.destroy 7, .takeId 0, .setIntervalWeak 0 5 10 (some 7) 0,
        .process 0 []] = some s ∧
      run TimerSystem.step s [.postTick 1, .process 1 [], .expire] = some s' ∧ ¬ WeakSafe s s' := by
  refine ⟨⟨_, rfl, fun h => ?_⟩, _, _, rfl, rfl, fun h => ?_⟩
  · have :=
      h.calls ⟨⟨1, 7, 5, 0⟩, 1, 1, true⟩ (by decide) 0 ⟨1, 5, 10, false, some 7, some 7,
        0⟩ 7 rfl rfl rfl
    cases this
  · have :=
      (h.removed 0 ⟨1, 5, 10, true, none, some 7, 0⟩ 7 0 rfl rfl (by decide) rfl rfl (by decide)).1
    cases this

end ToyServer
