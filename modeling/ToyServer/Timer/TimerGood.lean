import ToyServer.Timer.TimerImpl

/-!
# The invariant of the timer tables

`Good t expired N due` is what holds between any two steps of a run in which every
Add message carries an id of its own: `N` ticks have been counted, `expired` is what
the loop of `OnTick` still has to call, and `due r` is the (unwrapped) tick of the node `r`.

* the wheel is `Placed` for `N`, and the nodes of `expired` are due now and are in
  no slot;
* two nodes never share an id, so looking an id up finds the node that came out;
* a registered id has its node, not cancelled, in the wheel or in `expired`;
* `_listenerMap` has exactly the pairs (listener, id) of the registered timers.

Each handler keeps it: `onTimerAdd_good`, `onTimerCancel_good`, `beginTick_good`, and for
the three ways a round of the loop can go (`onTimerExpired_cases`) `Good.skip`,
`forget_skip_good` and `reschedule_good`.
-/

namespace ToyServer

open TimingWheel TimerImpl

structure Good (t : TimerImpl) (expired : List NodeRef) (N : Nat) (due : NodeRef → Nat) : Prop where
  clock : t.currentTick.toNat = N % 2 ^ 32
  wheelClock : t.wheel.currentTick = t.currentTick
  placed : Placed t.nodes t.wheel (fun _ => N) due
  held_lt : ∀ r, t.wheel.Holds r → r < t.nextRef
  held_near : ∀ r, t.wheel.Holds r → due r < N + 2 ^ 32
  out_lt : ∀ r ∈ expired, r < t.nextRef
  out_due : ∀ r ∈ expired, due r = N
  out_expiry : ∀ r ∈ expired, (t.nodes r).expiryTick.toNat = due r % 2 ^ 32
  out_free : ∀ r ∈ expired, ¬ t.wheel.Holds r
  out_nodup : expired.Nodup
  id_inj : ∀ r r', r < t.nextRef → r' < t.nextRef → (t.nodes r).id = (t.nodes r').id → r = r'
  reg_lt : ∀ id r, t.timers id = some r → r < t.nextRef
  reg_id : ∀ id r, t.timers id = some r → (t.nodes r).id = id
  reg_live : ∀ id r, t.timers id = some r → (t.nodes r).cancelled = false
  reg_kept : ∀ id r, t.timers id = some r → t.wheel.Holds r ∨ r ∈ expired
  listeners : ∀ l id, (l, id) ∈ t.listenerMap ↔
    ∃ r, t.timers id = some r ∧ (t.nodes r).rawListener = l
  listeners_nodup : t.listenerMap.Nodup

theorem good_init : Good .init [] 0 (fun _ => 0) where
  clock := rfl
  wheelClock := rfl
  placed := by
    constructor <;> simp [TimerImpl.init, TimingWheel.empty]
  held_lt r h := by
    obtain ⟨l, i, hm⟩ := h
    simp [TimerImpl.init, TimingWheel.empty] at hm
  held_near r h := Nat.two_pow_pos 32
  out_lt r hr := absurd hr List.not_mem_nil
  out_due r hr := absurd hr List.not_mem_nil
  out_expiry r hr := absurd hr List.not_mem_nil
  out_free r hr := absurd hr List.not_mem_nil
  out_nodup := List.nodup_nil
  id_inj r r' hr := absurd hr (Nat.not_lt_zero r)
  reg_lt id r h := by simp [TimerImpl.init] at h
  reg_id id r h := by simp [TimerImpl.init] at h
  reg_live id r h := by simp [TimerImpl.init] at h
  reg_kept id r h := by simp [TimerImpl.init] at h
  listeners l id := by simp [TimerImpl.init]
  listeners_nodup := List.nodup_nil

variable {t : TimerImpl} {expired : List NodeRef} {N : Nat} {due : NodeRef → Nat}

theorem Good.wheel_tick (h : Good t expired N due) : t.wheel.currentTick.toNat = N % 2 ^ 32 := by
  rw [h.wheelClock]
  exact h.clock

theorem Good.due_eq (h : Good t expired N due) {id : TimerId} {r : NodeRef}
    (hr : t.timers id = some r) : due r = N + ((t.nodes r).expiryTick - t.currentTick).toNat := by
  rcases h.reg_kept id r hr with hk | hk
  · have hnear := h.held_near r hk
    obtain ⟨l, i, hm⟩ := hk
    have hlt := (h.placed.ahead l i r hm).lt
    rw [toNat_sub_of_wrap (h.placed.expiry l i r hm) h.clock hlt.le hnear]
    omega
  · have hnow := h.out_due r hk
    rw [toNat_sub_of_wrap (h.out_expiry r hk) h.clock (by omega) (by omega)]
    omega

variable {nodes : NodeRef → Node}

theorem Placed.congr {nodes' : NodeRef → Node} {w : TimingWheel} {τ : Level → Nat}
    {due' : NodeRef → Nat} (h : Placed nodes w τ due)
    (hn : ∀ r, w.Holds r → (nodes' r).expiryTick = (nodes r).expiryTick ∧ due' r = due r) :
    Placed nodes' w τ due' where
  expiry l i r hr := by
    obtain ⟨e1, e2⟩ := hn r ⟨l, i, hr⟩
    rw [e1, e2]
    exact h.expiry l i r hr
  slot l i r hr := by
    rw [(hn r ⟨l, i, hr⟩).2]
    exact h.slot l i r hr
  ahead l i r hr := by
    rw [(hn r ⟨l, i, hr⟩).2]
    exact h.ahead l i r hr
  nodup := h.nodup
  once := h.once

/-! ## `OnTimerAdd` -/

theorem delayTicks_pos (ms : UInt32) : 0 < (delayTicks ms).toNat := by
  unfold delayTicks
  dsimp only
  split
  · decide
  · next h =>
    have : (ms / TICK_INTERVAL_MS).toNat ≠ 0 := fun e => h (UInt32.toNat_inj.mp (by simpa using e))
    omega

theorem delayTicks_toNat (ms : UInt32) : (delayTicks ms).toNat = max 1 (ms.toNat / 10) := by
  have hd : (ms / TICK_INTERVAL_MS).toNat = ms.toNat / 10 := by
    rw [UInt32.toNat_div]
    rfl
  unfold delayTicks
  dsimp only
  split
  · next h =>
    rw [← UInt32.toNat_inj, hd] at h
    have h1 : (1 : UInt32).toNat = 1 := rfl
    have h0 : (0 : UInt32).toNat = 0 := rfl
    omega
  · next h =>
    rw [← UInt32.toNat_inj, hd] at h
    have h0 : (0 : UInt32).toNat = 0 := rfl
    omega

theorem toNat_add_wrap {a b : UInt32} {x : Nat} (h : a.toNat = x % 2 ^ 32) :
    (a + b).toNat = (x + b.toNat) % 2 ^ 32 := by
  rw [UInt32.toNat_add, h, Nat.mod_add_mod]

/-- The due tick of a node added now. -/
def addDue (due : NodeRef → Nat) (t : TimerImpl) (N : Nat)
    (msg : TimerAddMessage) : NodeRef → Nat :=
  Function.update due t.nextRef (N + (delayTicks msg.intervalMs).toNat)

/-- What `Add` of a node outside the wheel does: it is held from now on, and the others stay where
they are. -/
structure WheelAdded (t : TimerImpl) (N : Nat) (nodes : NodeRef → Node) (r : NodeRef)
    (due : NodeRef → Nat) : Prop where
  tick : (t.wheel.add nodes r).currentTick = t.wheel.currentTick
  placed : Placed nodes (t.wheel.add nodes r) (fun _ => N) due
  holds : ∀ r', (t.wheel.add nodes r).Holds r' ↔ t.wheel.Holds r' ∨ r' = r
  near : ∀ r', (t.wheel.add nodes r).Holds r' → due r' < N + 2 ^ 32

theorem Good.add (h : Good t expired N due) {r : NodeRef} {due' : NodeRef → Nat}
    (hfree : ¬ t.wheel.Holds r)
    (hsame : ∀ r', t.wheel.Holds r' → (nodes r').expiryTick = (t.nodes r').expiryTick ∧
      due' r' = due r')
    (hexp : (nodes r).expiryTick.toNat = due' r % 2 ^ 32) (hlater : N < due' r)
    (hnear : due' r < N + 2 ^ 32) : WheelAdded t N nodes r due' := by
  have hholds : ∀ r', (t.wheel.add nodes r).Holds r' ↔ t.wheel.Holds r' ∨ r' = r := fun r' =>
    holds_add h.wheel_tick hexp hlater.le hnear
  refine ⟨?_, add_placed (h.placed.congr hsame) h.wheel_tick hfree hexp hlater hnear, hholds,
    fun r' hr' => ?_⟩
  · rw [add_eq h.wheel_tick hexp hlater.le hnear, pushBack_currentTick]
  · rcases (hholds r').mp hr' with hr' | rfl
    · rw [(hsame r' hr').2]
      exact h.held_near r' hr'
    · exact hnear

theorem onTimerAdd_timers {destroyed destroyed' : List ListenerId} {msg : TimerAddMessage}
    {id : TimerId} {r : NodeRef} (hr : (t.onTimerAdd destroyed destroyed' msg).timers id = some r) :
    id = msg.timerId ∧ r = t.nextRef ∨ t.timers id = some r := by
  by_cases hid : id = msg.timerId
  · subst hid
    simp only [onTimerAdd, makeNode, Function.update_self, Option.some.injEq] at hr
    exact .inl ⟨rfl, hr.symm⟩
  · simp only [onTimerAdd, makeNode, Function.update_of_ne hid] at hr
    exact .inr hr

theorem onTimerAdd_added (h : Good t [] N due) (destroyed destroyed' : List ListenerId)
    (msg : TimerAddMessage) :
    WheelAdded t N (t.onTimerAdd destroyed destroyed' msg).nodes t.nextRef
      (addDue due t N msg) := by
  have hpos := delayTicks_pos msg.intervalMs
  have hlt := (delayTicks msg.intervalMs).toNat_lt
  have hdue : addDue due t N msg t.nextRef = N + (delayTicks msg.intervalMs).toNat :=
    Function.update_self _ _ _
  refine h.add (fun hh => Nat.lt_irrefl _ (h.held_lt _ hh)) (fun r hr => ?_) ?_
    (by omega) (by omega)
  · have hne := Nat.ne_of_lt (h.held_lt r hr)
    exact ⟨congrArg Node.expiryTick (Function.update_of_ne hne _ _), Function.update_of_ne hne _ _⟩
  · have hself : (t.onTimerAdd destroyed destroyed' msg).nodes t.nextRef =
        makeNode destroyed destroyed' t.currentTick msg :=
      Function.update_self _ _ _
    rw [hdue, hself]
    exact toNat_add_wrap h.clock

theorem onTimerAdd_good (h : Good t [] N due) (destroyed destroyed' : List ListenerId)
    (msg : TimerAddMessage) (hfresh : ∀ r, r < t.nextRef → (t.nodes r).id ≠ msg.timerId) :
    Good (t.onTimerAdd destroyed destroyed' msg) [] N (addDue due t N msg) := by
  let node := makeNode destroyed destroyed' t.currentTick msg
  let nodes := Function.update t.nodes t.nextRef node
  have hself : nodes t.nextRef = node := Function.update_self _ _ _
  have hold : ∀ r, r < t.nextRef → nodes r = t.nodes r := fun r hr =>
    Function.update_of_ne (Nat.ne_of_lt hr) _ _
  have hunreg : ∀ id r, t.timers id = some r → id ≠ msg.timerId := by
    rintro id r hr rfl
    exact hfresh r (h.reg_lt _ _ hr) (h.reg_id _ _ hr)
  have hadd : WheelAdded t N nodes t.nextRef (addDue due t N msg) :=
    onTimerAdd_added h destroyed destroyed' msg
  constructor
  · exact h.clock
  · exact hadd.tick.trans h.wheelClock
  · exact hadd.placed
  · intro r hr
    rcases (hadd.holds r).mp hr with hr | rfl
    · exact Nat.lt_succ_of_lt (h.held_lt r hr)
    · exact Nat.lt_succ_self _
  · exact hadd.near
  · intro r hr; exact absurd hr List.not_mem_nil
  · intro r hr; exact absurd hr List.not_mem_nil
  · intro r hr; exact absurd hr List.not_mem_nil
  · intro r hr; exact absurd hr List.not_mem_nil
  · exact List.nodup_nil
  · intro r r' hr hr' he
    change (nodes r).id = (nodes r').id at he
    rcases Nat.lt_succ_iff_lt_or_eq.mp hr with hr | rfl <;>
      rcases Nat.lt_succ_iff_lt_or_eq.mp hr' with hr' | rfl
    · rw [hold r hr, hold r' hr'] at he
      exact h.id_inj r r' hr hr' he
    · rw [hold r hr, hself] at he
      exact absurd he (hfresh r hr)
    · rw [hold r' hr', hself] at he
      exact absurd he.symm (hfresh r' hr')
    · rfl
  · intro id r hr
    rcases onTimerAdd_timers hr with ⟨-, rfl⟩ | hr
    · exact Nat.lt_succ_self _
    · exact Nat.lt_succ_of_lt (h.reg_lt id r hr)
  · intro id r hr
    show (nodes r).id = id
    rcases onTimerAdd_timers hr with ⟨rfl, rfl⟩ | hr
    · rw [hself]
      rfl
    · rw [hold r (h.reg_lt id r hr)]
      exact h.reg_id id r hr
  · intro id r hr
    show (nodes r).cancelled = false
    rcases onTimerAdd_timers hr with ⟨-, rfl⟩ | hr
    · rw [hself]
      rfl
    · rw [hold r (h.reg_lt id r hr)]
      exact h.reg_live id r hr
  · intro id r hr
    refine .inl ((hadd.holds r).mpr ?_)
    rcases onTimerAdd_timers hr with ⟨-, rfl⟩ | hr
    · exact .inr rfl
    · exact .inl ((h.reg_kept id r hr).resolve_right List.not_mem_nil)
  · intro l id
    show (l, id) ∈ (msg.listener, msg.timerId) :: t.listenerMap ↔
      ∃ r, Function.update t.timers msg.timerId (some t.nextRef) id = some r ∧
      (nodes r).rawListener = l
    by_cases hid : id = msg.timerId
    · subst hid
      have hno : (l, msg.timerId) ∉ t.listenerMap := fun hm => by
        obtain ⟨r, hr, -⟩ := (h.listeners _ _).mp hm
        exact hunreg _ r hr rfl
      simp only [List.mem_cons, hno, or_false, Function.update_self, Option.some.injEq,
        Prod.mk.injEq, and_true, exists_eq_left', hself]
      exact eq_comm
    · simp only [List.mem_cons, Prod.mk.injEq, hid, and_false, false_or, Function.update_of_ne hid]
      rw [h.listeners]
      constructor
      · rintro ⟨r, hr, hl⟩
        exact ⟨r, hr, by rw [hold r (h.reg_lt _ _ hr)]; exact hl⟩
      · rintro ⟨r, hr, hl⟩
        exact ⟨r, hr, by rw [← hold r (h.reg_lt _ _ hr)]; exact hl⟩
  · show ((msg.listener, msg.timerId) :: t.listenerMap).Nodup
    refine List.nodup_cons.mpr ⟨fun hm => ?_, h.listeners_nodup⟩
    obtain ⟨r, hr, -⟩ := (h.listeners _ _).mp hm
    exact hunreg _ r hr rfl

/-! ## `OnTimerCancel` -/

/-- Dropping registrations (and flagging their nodes) keeps the invariant: the
nodes left in the wheel are zombies that no id leads to. -/
theorem Good.drop (h : Good t expired N due) {timers : TimerId → Option NodeRef}
    {listenerMap : List (Option ListenerId × TimerId)}
    (hn : ∀ r, (nodes r).id = (t.nodes r).id ∧ (nodes r).expiryTick = (t.nodes r).expiryTick ∧
      (nodes r).rawListener = (t.nodes r).rawListener)
    (ht : ∀ id r, timers id = some r → t.timers id = some r ∧
      (nodes r).cancelled = (t.nodes r).cancelled)
    (hl : ∀ l id, (l, id) ∈ listenerMap ↔ (l, id) ∈ t.listenerMap ∧ timers id = t.timers id)
    (hnd : listenerMap.Nodup) :
    Good { t with nodes := nodes, timers := timers, listenerMap := listenerMap } expired N due where
  clock := h.clock
  wheelClock := h.wheelClock
  placed := h.placed.congr fun r _ => ⟨(hn r).2.1, rfl⟩
  held_lt := h.held_lt
  held_near := h.held_near
  out_lt := h.out_lt
  out_due := h.out_due
  out_expiry r hr := by
    show (nodes r).expiryTick.toNat = _
    rw [(hn r).2.1]
    exact h.out_expiry r hr
  out_free := h.out_free
  out_nodup := h.out_nodup
  id_inj r r' hr hr' he := by
    change (nodes r).id = (nodes r').id at he
    rw [(hn r).1, (hn r').1] at he
    exact h.id_inj r r' hr hr' he
  reg_lt id r hr := h.reg_lt id r (ht id r hr).1
  reg_id id r hr := by
    show (nodes r).id = id
    rw [(hn r).1]
    exact h.reg_id id r (ht id r hr).1
  reg_live id r hr := by
    show (nodes r).cancelled = false
    rw [(ht id r hr).2]
    exact h.reg_live id r (ht id r hr).1
  reg_kept id r hr := h.reg_kept id r (ht id r hr).1
  listeners l id := by
    show (l, id) ∈ listenerMap ↔ ∃ r, timers id = some r ∧ (nodes r).rawListener = l
    rw [hl, h.listeners]
    constructor
    · rintro ⟨⟨r, hr, hraw⟩, he⟩
      exact ⟨r, he.trans hr, by rw [(hn r).2.2]; exact hraw⟩
    · rintro ⟨r, hr, hraw⟩
      have hr' := (ht id r hr).1
      exact ⟨⟨r, hr', by rw [← (hn r).2.2]; exact hraw⟩, hr.trans hr'.symm⟩
  listeners_nodup := hnd

theorem forget_good (h : Good t expired N due) {id : TimerId} {r : NodeRef}
    (hr : t.timers id = some r) (c : Bool) : Good (TimerImpl.forget { t with
      nodes :=
        Function.update t.nodes r { t.nodes r with cancelled := c } } (t.nodes r).rawListener id)
      expired N due := by
  apply h.drop
  · intro r'
    by_cases e : r' = r
    · subst e
      simp
    · simp [Function.update_of_ne e]
  · intro id' r' hr'
    by_cases e : id' = id
    · subst e
      simp at hr'
    · simp only [Function.update_of_ne e] at hr'
      have hne : r' ≠ r := by
        rintro rfl
        exact e ((h.reg_id _ _ hr').symm.trans (h.reg_id _ _ hr))
      exact ⟨hr', by simp only [Function.update_of_ne hne]⟩
  · intro l id'
    rw [List.mem_filter]
    simp only [Bool.not_eq_true', Bool.and_eq_false_imp, beq_iff_eq, beq_eq_false_iff_ne]
    refine and_congr_right fun hm => ?_
    by_cases e : id' = id
    · subst e
      obtain ⟨r', hr', hraw⟩ := (h.listeners _ _).mp hm
      rw [hr, Option.some.injEq] at hr'
      subst hr'
      simp [hraw, hr]
    · simp [e]
  · exact h.listeners_nodup.filter _

theorem eraseIds_apply (timers : TimerId → Option NodeRef) (ids : List TimerId) (id : TimerId) :
    eraseIds timers ids id = if id ∈ ids then none else timers id := by
  unfold eraseIds
  induction ids generalizing timers with
  | nil => simp
  | cons a ids ih =>
    rw [List.foldl_cons, ih]
    by_cases h1 : id ∈ ids
    · simp [h1]
    · by_cases h2 : id = a
      · subst h2; simp [h1]
      · simp [h1, h2]

/-- The ids a cancel message drops from the tables. -/
def TimerCancelMessage.Drops (msg : TimerCancelMessage) (id : TimerId)
    (l : Option ListenerId) : Prop :=
  (msg.timerId ≠ 0 ∧ msg.timerId = id) ∨ (msg.timerId = 0 ∧ msg.listener ≠ none ∧ msg.listener = l)

theorem onTimerCancel_good (h : Good t expired N due) (msg : TimerCancelMessage) :
    Good (t.onTimerCancel msg) expired N due := by
  unfold onTimerCancel
  split
  · cases hr : t.timers msg.timerId with
    | none => exact h
    | some r => exact forget_good h hr true
  · cases hl : msg.listener with
    | none => exact h
    | some target =>
      have hmem : ∀ id, id ∈ (t.listenerMap.filter fun e => e.1 == some target).map (·.2) ↔
          (some target, id) ∈ t.listenerMap := by
        intro id
        simp
      apply h.drop
      · exact fun r => ⟨rfl, rfl, rfl⟩
      · intro id r hr
        rw [eraseIds_apply] at hr
        split at hr
        · cases hr
        · exact ⟨hr, rfl⟩
      · intro l id
        rw [List.mem_filter, eraseIds_apply]
        simp only [Bool.not_eq_true', beq_eq_false_iff_ne]
        refine and_congr_right fun hm => ?_
        obtain ⟨r, hr, hraw⟩ := (h.listeners _ _).mp hm
        simp only [hmem, h.listeners, hr, Option.some.injEq, exists_eq_left', hraw]
        by_cases e : l = some target
        · simp [e]
        · simp [e]
      · exact h.listeners_nodup.filter _

theorem onTimerCancel_timers (h : Good t expired N due) (msg : TimerCancelMessage) (id : TimerId)
    (r : NodeRef) :
    (t.onTimerCancel msg).timers id = some r ↔ t.timers id = some r ∧
    ¬ msg.Drops id (t.nodes r).rawListener := by
  unfold onTimerCancel TimerCancelMessage.Drops
  split
  · next h0 =>
    cases hm : t.timers msg.timerId with
    | none =>
      simp only [h0, ne_eq, not_false_eq_true, true_and, false_and, or_false]
      refine ⟨fun hr => ⟨hr, ?_⟩, fun hr => hr.1⟩
      rintro rfl
      rw [hm] at hr
      cases hr
    | some r₀ =>
      simp only [forget, setCancelled, h0, ne_eq, not_false_eq_true, true_and, false_and, or_false]
      by_cases e : msg.timerId = id
      · subst e
        simp
      · simp [Function.update_of_ne (Ne.symm e), e]
  · next h0 =>
    have h0' : msg.timerId = 0 := not_not.mp h0
    cases hl : msg.listener with
    | none => simp [h0']
    | some target =>
      have hmem : id ∈ (t.listenerMap.filter fun e => e.1 == some target).map (·.2) ↔
          (some target, id) ∈ t.listenerMap := by simp
      simp only [eraseIds_apply, hmem, h.listeners, h0', ne_eq, not_true_eq_false,
        false_and, false_or, reduceCtorEq, not_false_eq_true, true_and]
      split
      · next hx =>
        obtain ⟨r', hr', hraw⟩ := hx
        simp only [reduceCtorEq, false_iff, not_and, not_not]
        intro hr
        rw [hr, Option.some.injEq] at hr'
        rw [hr', hraw]
      · next hx =>
        refine ⟨fun hr => ⟨hr, fun e => hx ⟨r, hr, e.symm⟩⟩, fun hr => hr.1⟩

theorem onTimerCancel_frame (t : TimerImpl) (msg : TimerCancelMessage) :
    (t.onTimerCancel msg).wheel = t.wheel ∧ (t.onTimerCancel msg).nextRef = t.nextRef ∧
      (t.onTimerCancel msg).currentTick = t.currentTick ∧
      ∀ r, (t.onTimerCancel msg).nodes r = t.nodes r ∨
        (msg.timerId ≠ 0 ∧ t.timers msg.timerId = some r ∧
          (t.onTimerCancel msg).nodes r = { t.nodes r with cancelled := true }) := by
  unfold onTimerCancel
  split
  · next h0 =>
    cases hm : t.timers msg.timerId with
    | none => exact ⟨rfl, rfl, rfl, fun r => Or.inl rfl⟩
    | some r₀ =>
      refine ⟨rfl, rfl, rfl, fun r => ?_⟩
      by_cases e : r = r₀
      · subst e
        exact .inr ⟨h0, rfl, by simp [forget, setCancelled]⟩
      · exact .inl (by simp [forget, setCancelled, Function.update_of_ne e])
  · cases msg.listener with
    | none => exact ⟨rfl, rfl, rfl, fun r => Or.inl rfl⟩
    | some target => exact ⟨rfl, rfl, rfl, fun r => Or.inl rfl⟩

/-! ## `OnTick` -/

theorem beginTick_mem (h : Good t [] N due) (r : NodeRef) :
    r ∈ t.beginTick.2 ↔ t.wheel.Holds r ∧ due r = N + 1 ∧ (t.nodes r).cancelled = false :=
  (advance_out h.placed (toNat_add_wrap h.clock)).2 r

theorem beginTick_holds (h : Good t [] N due) (r : NodeRef) :
    t.beginTick.1.wheel.Holds r ↔ t.wheel.Holds r ∧ due r ≠ N + 1 :=
  advance_holds h.placed (toNat_add_wrap h.clock) r

theorem beginTick_good (h : Good t [] N due) : Good t.beginTick.1 t.beginTick.2 (N + 1) due where
  clock := toNat_add_wrap h.clock
  wheelClock := advance_currentTick h.placed (toNat_add_wrap h.clock)
  placed := advance_placed h.placed (toNat_add_wrap h.clock)
  held_lt r hr := h.held_lt r ((beginTick_holds h r).mp hr).1
  held_near r hr := by
    have := h.held_near r ((beginTick_holds h r).mp hr).1
    omega
  out_lt r hr := h.held_lt r ((beginTick_mem h r).mp hr).1
  out_due r hr := ((beginTick_mem h r).mp hr).2.1
  out_expiry r hr := by
    obtain ⟨l, i, hm⟩ := ((beginTick_mem h r).mp hr).1
    exact h.placed.expiry l i r hm
  out_free r hr hh := ((beginTick_holds h r).mp hh).2 ((beginTick_mem h r).mp hr).2.1
  out_nodup := (advance_out h.placed (toNat_add_wrap h.clock)).1
  id_inj := h.id_inj
  reg_lt := h.reg_lt
  reg_id := h.reg_id
  reg_live := h.reg_live
  reg_kept id r hr := by
    have hk : t.wheel.Holds r := (h.reg_kept id r hr).resolve_right List.not_mem_nil
    by_cases hd : due r = N + 1
    · exact .inr ((beginTick_mem h r).mpr ⟨hk, hd, h.reg_live id r hr⟩)
    · exact .inl ((beginTick_holds h r).mpr ⟨hk, hd⟩)
  listeners := h.listeners
  listeners_nodup := h.listeners_nodup

/-- The call `OnTimerExpired` makes for a node it does not find dead. -/
def callee (destroyed : List ListenerId) (node : Node) : Option OnTimerCall :=
  (if node.useWeak then lock destroyed node.weakListener else node.rawListener).map fun l =>
    ⟨node.id, l, node.logicTimerId, node.pParam⟩

section Expired

variable {r : NodeRef} {rest : List NodeRef}

section

variable (h : Good t (r :: rest) N due)
include h

/-- The id that came out leads to its node or to nothing. -/
theorem Good.lookup :
    t.timers (t.nodes r).id = none ∨ t.timers (t.nodes r).id = some r := by
  cases hr : t.timers (t.nodes r).id with
  | none => exact .inl rfl
  | some r' =>
    have := h.id_inj r' r (h.reg_lt _ _ hr) (h.out_lt r List.mem_cons_self) (h.reg_id _ _ hr)
    exact .inr (by rw [this])

/-- **What one round of the loop does**: nothing for a zombie, clean up for a dead
listener, else call and reschedule. -/
theorem onTimerExpired_cases (destroyed : List ListenerId) :
    (t.timers (t.nodes r).id = none ∧ t.onTimerExpired destroyed (t.nodes r).id = (t, none)) ∨
    (t.timers (t.nodes r).id = some r ∧ (t.nodes r).useWeak = true ∧
      lock destroyed (t.nodes r).weakListener = none ∧
      t.onTimerExpired destroyed (t.nodes r).id =
        ((t.setCancelled r).forget (t.nodes r).rawListener (t.nodes r).id, none)) ∨
    (t.timers (t.nodes r).id = some r ∧
      ((t.nodes r).useWeak = true → lock destroyed (t.nodes r).weakListener ≠ none) ∧
      t.onTimerExpired destroyed (t.nodes r).id =
        (t.reschedule r (t.nodes r).id, callee destroyed (t.nodes r))) := by
  rcases h.lookup with hr | hr
  · exact .inl ⟨hr, by simp only [onTimerExpired, hr]⟩
  · right
    have hlive := h.reg_live _ _ hr
    cases hw : (t.nodes r).useWeak with
    | false =>
      right
      refine ⟨hr, by simp, ?_⟩
      simp [onTimerExpired, hr, hlive, hw, callee]
    | true =>
      cases hl : lock destroyed (t.nodes r).weakListener with
      | none =>
        left
        refine ⟨hr, rfl, rfl, ?_⟩
        simp [onTimerExpired, hr, hlive, hw, hl]
      | some l =>
        right
        refine ⟨hr, by simp, ?_⟩
        simp [onTimerExpired, hr, hlive, hw, hl, callee]

theorem Good.skip (hno : ∀ id, t.timers id ≠ some r) : Good t rest N due :=
  { h with
    out_lt := fun r' hr' => h.out_lt r' (List.mem_cons_of_mem r hr')
    out_due := fun r' hr' => h.out_due r' (List.mem_cons_of_mem r hr')
    out_expiry := fun r' hr' => h.out_expiry r' (List.mem_cons_of_mem r hr')
    out_free := fun r' hr' => h.out_free r' (List.mem_cons_of_mem r hr')
    out_nodup := (List.nodup_cons.mp h.out_nodup).2
    reg_kept := fun id r' hr' => by
      rcases h.reg_kept id r' hr' with hk | hk
      · exact .inl hk
      · rcases List.mem_cons.mp hk with rfl | hk
        · exact absurd hr' (hno id)
        · exact .inr hk }

theorem forget_skip_good (hr : t.timers (t.nodes r).id = some r) (c : Bool) :
    Good (TimerImpl.forget { t with
      nodes := Function.update t.nodes r { t.nodes r with cancelled := c } } (t.nodes r).rawListener
        (t.nodes r).id) rest N due := by
  refine (forget_good h hr c).skip fun id => ?_
  by_cases e : id = (t.nodes r).id
  · subst e
    simp [forget]
  · simp only [forget, Function.update_of_ne e]
    exact fun hr' => e (h.reg_id _ _ hr').symm

end

/-- The due ticks after an interval timer went back into the wheel. -/
def rearmDue (due : NodeRef → Nat) (t : TimerImpl) (r : NodeRef) : NodeRef → Nat :=
  if (t.nodes r).intervalTick > 0 then
    Function.update due r (due r + (t.nodes r).intervalTick.toNat)
  else due

/-- The nodes after an interval timer was moved on. -/
def rearmNodes (t : TimerImpl) (r : NodeRef) : NodeRef → Node :=
  Function.update t.nodes r
    { t.nodes r with expiryTick := (t.nodes r).expiryTick + (t.nodes r).intervalTick }

theorem reschedule_interval (hi : (t.nodes r).intervalTick > 0) (id : TimerId) :
    t.reschedule r id =
      { t with nodes := rearmNodes t r, wheel := t.wheel.add (rearmNodes t r) r } := by
  simp only [reschedule, if_pos hi, rearmNodes]

theorem rearm_added (h : Good t (r :: rest) N due) (hi : (t.nodes r).intervalTick > 0) :
    WheelAdded t N (rearmNodes t r) r (rearmDue due t r) := by
  have hN := h.out_due r List.mem_cons_self
  have hfree := h.out_free r List.mem_cons_self
  have hlt := (t.nodes r).intervalTick.toNat_lt
  have hpos : 0 < (t.nodes r).intervalTick.toNat := UInt32.lt_iff_toNat_lt.mp hi
  have hd : rearmDue due t r = Function.update due r (due r + (t.nodes r).intervalTick.toNat) :=
    if_pos hi
  have hdr : rearmDue due t r r = due r + (t.nodes r).intervalTick.toNat := by
    rw [hd, Function.update_self]
  refine h.add hfree (fun r' hr' => ?_) ?_ (by omega) (by omega)
  · have hne : r' ≠ r := by rintro rfl; exact hfree hr'
    rw [hd]
    simp [rearmNodes, Function.update_of_ne hne]
  · rw [hdr, rearmNodes, Function.update_self]
    exact toNat_add_wrap (h.out_expiry r List.mem_cons_self)

theorem reschedule_good (h : Good t (r :: rest) N due) (hr : t.timers (t.nodes r).id = some r) :
    Good (t.reschedule r (t.nodes r).id) rest N (rearmDue due t r) := by
  by_cases hi : (t.nodes r).intervalTick > 0
  · have hadd := rearm_added h hi
    have hd : rearmDue due t r = Function.update due r (due r + (t.nodes r).intervalTick.toNat) :=
      if_pos hi
    have hid : ∀ r', (rearmNodes t r r').id = (t.nodes r').id ∧
        (rearmNodes t r r').cancelled = (t.nodes r').cancelled ∧
        (rearmNodes t r r').rawListener = (t.nodes r').rawListener := by
      intro r'
      by_cases e : r' = r
      · subst e; simp [rearmNodes]
      · simp [rearmNodes, Function.update_of_ne e]
    have hne : ∀ r' ∈ rest, r' ≠ r := by
      rintro r' hr' rfl
      exact (List.nodup_cons.mp h.out_nodup).1 hr'
    rw [reschedule_interval hi]
    constructor
    · exact h.clock
    · exact hadd.tick.trans h.wheelClock
    · exact hadd.placed
    · intro r' hr'
      rcases (hadd.holds r').mp hr' with hr' | rfl
      · exact h.held_lt r' hr'
      · exact h.out_lt r' List.mem_cons_self
    · exact hadd.near
    · exact fun r' hr' => h.out_lt r' (List.mem_cons_of_mem r hr')
    · intro r' hr'
      rw [hd, Function.update_of_ne (hne r' hr')]
      exact h.out_due r' (List.mem_cons_of_mem r hr')
    · intro r' hr'
      show (rearmNodes t r r').expiryTick.toNat = _
      rw [hd, Function.update_of_ne (hne r' hr'), rearmNodes, Function.update_of_ne (hne r' hr')]
      exact h.out_expiry r' (List.mem_cons_of_mem r hr')
    · intro r' hr' hh
      rcases (hadd.holds r').mp hh with hh | hh
      · exact h.out_free r' (List.mem_cons_of_mem r hr') hh
      · exact hne r' hr' hh
    · exact (List.nodup_cons.mp h.out_nodup).2
    · intro r₁ r₂ h₁ h₂ he
      change (rearmNodes t r r₁).id = (rearmNodes t r r₂).id at he
      rw [(hid r₁).1, (hid r₂).1] at he
      exact h.id_inj r₁ r₂ h₁ h₂ he
    · exact h.reg_lt
    · intro id r' hr'
      show (rearmNodes t r r').id = id
      rw [(hid r').1]
      exact h.reg_id id r' hr'
    · intro id r' hr'
      show (rearmNodes t r r').cancelled = false
      rw [(hid r').2.1]
      exact h.reg_live id r' hr'
    · intro id r' hr'
      rcases h.reg_kept id r' hr' with hk | hk
      · exact .inl ((hadd.holds r').mpr (.inl hk))
      · rcases List.mem_cons.mp hk with e | hk
        · exact .inl ((hadd.holds r').mpr (.inr e))
        · exact .inr hk
    · intro l id
      show (l, id) ∈ t.listenerMap ↔ ∃ r', t.timers id = some r' ∧
        (rearmNodes t r r').rawListener = l
      rw [h.listeners]
      refine exists_congr fun r' => and_congr_right fun _ => ?_
      rw [(hid r').2.2]
    · exact h.listeners_nodup
  · have hs : t.reschedule r (t.nodes r).id = t.forget (t.nodes r).rawListener (t.nodes r).id := by
      simp only [reschedule, if_neg hi]
    have hd : rearmDue due t r = due := if_neg hi
    rw [hs, hd]
    have := forget_skip_good h hr (t.nodes r).cancelled
    rwa [show ({ t.nodes r with cancelled := (t.nodes r).cancelled } : Node) = t.nodes r from rfl,
      Function.update_eq_self] at this

end Expired

end ToyServer
