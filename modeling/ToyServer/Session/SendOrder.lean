import ToyServer.Session.SendQueue

/-!
# The order of a thread's packets on the wire

The send queue keeps the order of each producer, and one owner of `_isSending` at a time hands
packets over, so the packets of a thread go out in the order it sent them, except for the straggler.
A straggler leaves the queue while later packets of its sender may be behind it, and comes back
as a packet of the thread that found it, which nothing orders with them any more.

`Lanes` is what the order depends on: the queue, the stragglers in hand, what is being handed over
and what has been.  `sender_order` says that the packets stay in order in every run in which a
straggler is the only packet its sender has queued, and a thread sends nothing while a packet of its
own is displaced.
-/

namespace ToyServer

open Runs ProducerQueue

/-! ## Lanes -/

/-- The straggler a thread has in hand. -/
def SendPc.held : SendPc → Option Sent
  | .straggler msg | .reflush msg | .putBack msg => some msg
  | _ => none

/-- The packets a thread is about to hand over. -/
def SendPc.hand : SendPc → List Sent
  | .batch tempItems => tempItems
  | .asyncSend msg => [msg]
  | _ => []

structure Lanes where
  queue : List (ThreadId × Sent)
  held : ThreadId → Option Sent
  hand : ThreadId → List Sent
  wire : List Sent
  sent : ThreadId → Nat

def SendState.lanes (s : SendState) : Lanes :=
  ⟨s.sendQueue, fun t => (s.pc t).held, fun t => (s.pc t).hand, s.wire, s.sent⟩

/-- Of two packets of one sender, the first was sent first. -/
def Before (a b : Sent) : Prop := a.sender = b.sender → a.seq < b.seq

/-- Two packets of one sender in the queue: both are queued by the sender, in order. -/
def InLane (e f : ThreadId × Sent) : Prop :=
  e.2.sender = f.2.sender → e.1 = e.2.sender ∧ f.1 = f.2.sender ∧ e.2.seq < f.2.seq

/-- Sent and not on its way to the wire yet. -/
def Lanes.Pending (v : Lanes) (msg : Sent) : Prop :=
  (∃ p, (p, msg) ∈ v.queue) ∨ ∃ t, v.held t = some msg

/-- A displaced packet (a straggler in hand, or one queued by another thread) is the only pending
packet of its sender; the others are in order, and what is handed over was sent before what is
pending. -/
structure Ordered (v : Lanes) : Prop where
  queue : v.queue.Pairwise InLane
  held_queue : ∀ t msg, v.held t = some msg → ∀ e ∈ v.queue, e.2.sender ≠ msg.sender
  held_held : ∀ t t' msg msg', v.held t = some msg → v.held t' = some msg' →
    msg.sender = msg'.sender → t = t'
  handed : ∀ t, (v.wire ++ v.hand t).Pairwise Before
  ahead : ∀ t, ∀ a ∈ v.wire ++ v.hand t, ∀ b, v.Pending b → Before a b
  fresh_pending : ∀ b, v.Pending b → b.seq < v.sent b.sender
  fresh_handed : ∀ t, ∀ a ∈ v.wire ++ v.hand t, a.seq < v.sent a.sender

/-- A straggler is taken only when nothing else of its sender is queued, and a thread sends only
when none of its packets is displaced. -/
def OrderedStep (s : SendState) : SendAction → Prop
  | .send t =>
    (∀ e ∈ s.sendQueue, e.2.sender = t → e.1 = t) ∧ ∀ t' msg, (s.pc t').held = some msg →
    msg.sender ≠ t
  | .take t p =>
    s.pc t = .recheck → ∀ msg rest, dequeue p s.sendQueue = some (msg, rest) →
      ∀ e ∈ rest, e.2.sender ≠ msg.sender
  | _ => True

variable {kind : SessionKind} {s s' : SendState} {a : SendAction} {t p : ThreadId}
  {v : Lanes} {msg : Sent} {rest : List (ThreadId × Sent)}

/-! ## What a step does to the lanes -/

variable {c c' : SendPc}

theorem ordered_goto (s : SendState) {s₁ : SendState} (hpc : s₁.pc = s.pc)
    (h : Ordered ⟨s₁.sendQueue, Function.update s.lanes.held t c.held,
      Function.update s.lanes.hand t c.hand, s₁.wire, s₁.sent⟩) : Ordered (s₁.goto t c).lanes := by
  have hheld : (s₁.goto t c).lanes.held = Function.update s.lanes.held t c.held := by
    funext t'
    show ((s₁.goto t c).pc t').held = _
    rw [goto_pc, Function.update_apply, hpc]
    split <;> rfl
  have hhand : (s₁.goto t c).lanes.hand = Function.update s.lanes.hand t c.hand := by
    funext t'
    show ((s₁.goto t c).pc t').hand = _
    rw [goto_pc, Function.update_apply, hpc]
    split <;> rfl
  rw [← hheld, ← hhand] at h
  exact h

theorem update_held_self (s : SendState) (t : ThreadId) :
    Function.update s.lanes.held t (s.pc t).held = s.lanes.held :=
  Function.update_eq_self t s.lanes.held

theorem update_hand_self (s : SendState) (t : ThreadId) :
    Function.update s.lanes.hand t (s.pc t).hand = s.lanes.hand :=
  Function.update_eq_self t s.lanes.hand

theorem ordered_goto_same (s : SendState) {s₁ : SendState} (hpc : s₁.pc = s.pc)
    (hlanes : c.held = (s.pc t).held ∧ c.hand = (s.pc t).hand) (h : Ordered s₁.lanes) :
    Ordered (s₁.goto t c).lanes := by
  rw [← hpc] at hlanes
  refine ordered_goto s₁ rfl ?_
  rw [hlanes.1, hlanes.2, update_held_self, update_hand_self]
  exact h

theorem Move.lanes (h : Move kind s c c') : c'.held = c.held ∧ c'.hand = c.hand := by
  cases h <;> exact ⟨rfl, rfl⟩

theorem Acquire.lanes (h : Acquire c c') : c'.held = c.held ∧ c'.hand = c.hand := by
  cases h <;> exact ⟨rfl, rfl⟩

theorem Release.lanes (h : Release c c') : c'.held = c.held ∧ c'.hand = c.hand := by
  cases h <;> exact ⟨rfl, rfl⟩

theorem Put.lanes (h : Put c msg c') : c.held = some msg ∧ c'.held = none ∧ c'.hand = c.hand := by
  cases h <;> exact ⟨rfl, rfl, rfl⟩

/-- Where a packet from the queue goes: into the hand of the owner, to the straggler's finder, or
away. -/
theorem taken_lanes (h : SendState.taken c msg = some c') :
    (c'.held = c.held ∧ c'.hand = c.hand ++ [msg]) ∨
    (c = .recheck ∧ c'.held = some msg ∧ c'.hand = c.hand) ∨
    (c'.held = c.held ∧ c'.hand = c.hand) := by
  cases c with
  | bulk => cases h; exact .inl ⟨rfl, rfl⟩
  | batch tempItems =>
    simp only [SendState.taken, Option.ite_none_right_eq_some, Option.some.injEq] at h
    obtain ⟨-, rfl⟩ := h
    exact .inl ⟨rfl, rfl⟩
  | discard => cases h; exact .inr (.inr ⟨rfl, rfl⟩)
  | drain => cases h; exact .inl ⟨rfl, rfl⟩
  | recheck => cases h; exact .inr (.inl ⟨rfl, rfl, rfl⟩)
  | _ => cases h

theorem holds_of_hand (h : c.hand ≠ []) : c.holds = true := by
  cases c <;> first | rfl | exact absurd rfl h

theorem Exclusive.hand_eq_nil (h : Exclusive s) (ht : (s.pc t).holds = true) {t' : ThreadId}
    (hne : t' ≠ t) : s.lanes.hand t' = [] := by
  by_contra hhand
  exact hne (h.unique t' t (holds_of_hand hhand) ht)

/-! ## The lanes stay in order -/

theorem Ordered.dequeue (h : Ordered v)
    (hdeq : ProducerQueue.dequeue p v.queue = some (msg, rest)) :
    Ordered { v with queue := rest } := by
  obtain ⟨-, hsub⟩ := dequeue_mem hdeq
  have hpend : ∀ b, Lanes.Pending { v with queue := rest } b → v.Pending b := by
    rintro b (⟨q, hq⟩ | hheld)
    · exact .inl ⟨q, hsub _ hq⟩
    · exact .inr hheld
  exact ⟨(dequeue_pairwise hdeq h.queue).1, fun t m hm e he => h.held_queue t m hm e (hsub e he),
    h.held_held,
    h.handed, fun t a ha b hb => h.ahead t a ha b (hpend b hb), fun b hb =>
      h.fresh_pending b (hpend b hb),
    h.fresh_handed⟩

/-- The packet that leaves the queue was sent before every pending packet of its sender. -/
theorem Ordered.first (h : Ordered v) (hdeq : ProducerQueue.dequeue p v.queue = some (msg, rest))
    {b : Sent} (hb : Lanes.Pending { v with queue := rest } b) : Before msg b := by
  intro hsender
  obtain ⟨hmem, -⟩ := dequeue_mem hdeq
  rcases hb with ⟨q, hq⟩ | ⟨t, ht⟩
  · rcases (dequeue_pairwise hdeq h.queue).2 _ hq with hlane | ⟨hne, hlane⟩
    · exact (hlane hsender).2.2
    · obtain ⟨hown, hown', -⟩ := hlane hsender.symm
      exact absurd (hown.trans (hsender.symm.trans hown'.symm)) hne
  · exact absurd hsender (h.held_queue t b ht _ hmem)

theorem Ordered.enqueueNew (h : Ordered v) (hown : ∀ e ∈ v.queue, e.2.sender = t → e.1 = t)
    (hheld : ∀ t' msg, v.held t' = some msg → msg.sender ≠ t) :
    Ordered { v with
      queue := v.queue ++ [(t, ⟨t, v.sent t⟩)],
      sent := Function.update v.sent t (v.sent t + 1) } := by
  have hpend : ∀ b, Lanes.Pending { v with
      queue := v.queue ++ [(t, ⟨t, v.sent t⟩)],
      sent := Function.update v.sent t (v.sent t + 1) } b →
      v.Pending b ∨ b = ⟨t, v.sent t⟩ := by
    rintro b (⟨q, hq⟩ | hb)
    · rcases mem_concat.mp hq with hq | hq
      · exact .inl (.inl ⟨q, hq⟩)
      · exact .inr (congrArg Prod.snd hq)
    · exact .inl (.inr hb)
  have hsent : ∀ t', v.sent t' ≤ Function.update v.sent t (v.sent t + 1) t' := by
    intro t'
    rw [Function.update_apply]
    split
    · next heq => rw [heq]; exact Nat.le_succ _
    · exact Nat.le_refl _
  constructor
  · refine List.pairwise_append.mpr ⟨h.queue, List.pairwise_singleton _ _, ?_⟩
    intro e he f hf hsender
    rw [List.mem_singleton.mp hf] at hsender ⊢
    have hseq := h.fresh_pending e.2 (.inl ⟨e.1, he⟩)
    rw [hsender] at hseq ⊢
    exact ⟨hown e he hsender, rfl, hseq⟩
  · exact fun t' m hm => forall_mem_concat (h.held_queue t' m hm) (hheld t' m hm).symm
  · exact h.held_held
  · exact h.handed
  · intro t' a ha b hb
    rcases hpend b hb with hb | rfl
    · exact h.ahead t' a ha b hb
    · intro hsender
      have hseq := h.fresh_handed t' a ha
      rw [show a.sender = t from hsender] at hseq
      exact hseq
  · intro b hb
    rcases hpend b hb with hb | rfl
    · exact Nat.lt_of_lt_of_le (h.fresh_pending b hb) (hsent _)
    · show v.sent t < Function.update v.sent t (v.sent t + 1) t
      rw [Function.update_self]
      exact Nat.lt_succ_self _
  · exact fun t' a ha => Nat.lt_of_lt_of_le (h.fresh_handed t' a ha) (hsent _)

theorem update_held {f : ThreadId → Option Sent} {o : Option Sent} {t' : ThreadId}
    (h : Function.update f t o t' = some msg) : t' = t ∧ o = some msg ∨ t' ≠ t ∧
    f t' = some msg := by
  rw [Function.update_apply] at h
  split at h
  · next htt => exact .inl ⟨htt, h⟩
  · next htt => exact .inr ⟨htt, h⟩

theorem Ordered.putBack (h : Ordered v) (hheld : v.held t = some msg) :
    Ordered { v with queue := v.queue ++ [(t, msg)], held := Function.update v.held t none } := by
  have hother : ∀ {t' m}, Function.update v.held t none t' = some m → t' ≠ t ∧
      v.held t' = some m := by
    intro t' m hm
    rcases update_held hm with ⟨-, hnone⟩ | hother
    · cases hnone
    · exact hother
  have hpend : ∀ b, Lanes.Pending { v with
      queue := v.queue ++ [(t, msg)], held := Function.update v.held t none } b → v.Pending b := by
    rintro b (⟨q, hq⟩ | ⟨t', ht'⟩)
    · rcases mem_concat.mp hq with hq | hq
      · exact .inl ⟨q, hq⟩
      · cases hq
        exact .inr ⟨t, hheld⟩
    · exact .inr ⟨t', (hother ht').2⟩
  constructor
  · refine List.pairwise_append.mpr ⟨h.queue, List.pairwise_singleton _ _, ?_⟩
    intro e he f hf hsender
    rw [List.mem_singleton.mp hf] at hsender
    exact absurd hsender (h.held_queue t msg hheld e he)
  · intro t' m hm
    obtain ⟨hne, hm⟩ := hother hm
    exact forall_mem_concat (h.held_queue t' m hm) fun hsender =>
      hne (h.held_held t' t m msg hm hheld hsender.symm)
  · exact fun t₁ t₂ m₁ m₂ h₁ h₂ => h.held_held t₁ t₂ m₁ m₂ (hother h₁).2 (hother h₂).2
  · exact h.handed
  · exact fun t' a ha b hb => h.ahead t' a ha b (hpend b hb)
  · exact fun b hb => h.fresh_pending b (hpend b hb)
  · exact h.fresh_handed

theorem Ordered.takeHeld (h : Ordered v) (hdeq : ProducerQueue.dequeue p v.queue = some (msg, rest))
    (halone : ∀ e ∈ rest, e.2.sender ≠ msg.sender) :
    Ordered { v with queue := rest, held := Function.update v.held t (some msg) } := by
  have h' := h.dequeue hdeq
  obtain ⟨hmem, -⟩ := dequeue_mem hdeq
  have hmsg : v.Pending msg := Or.inl ⟨p, hmem⟩
  have hpend : ∀ b, Lanes.Pending { v with
      queue := rest, held := Function.update v.held t (some msg) } b →
      Lanes.Pending { v with queue := rest } b ∨ b = msg := by
    rintro b (hb | ⟨t', ht'⟩)
    · exact .inl (.inl hb)
    · rcases update_held ht' with ⟨-, hb⟩ | ⟨-, hb⟩
      · exact .inr (Option.some.inj hb).symm
      · exact .inl (.inr ⟨t', hb⟩)
  constructor
  · exact h'.queue
  · intro t' m hm e he
    rcases update_held hm with ⟨-, hm⟩ | ⟨-, hm⟩
    · cases hm
      exact halone e he
    · exact h'.held_queue t' m hm e he
  · intro t₁ t₂ m₁ m₂ h₁ h₂ hsender
    rcases update_held h₁ with ⟨rfl, hm₁⟩ | ⟨-, hm₁⟩ <;>
      rcases update_held h₂ with ⟨rfl, hm₂⟩ | ⟨-, hm₂⟩
    · rfl
    · cases hm₁
      exact absurd hsender (h.held_queue t₂ m₂ hm₂ _ hmem)
    · cases hm₂
      exact absurd hsender.symm (h.held_queue t₁ m₁ hm₁ _ hmem)
    · exact h.held_held t₁ t₂ m₁ m₂ hm₁ hm₂ hsender
  · exact h.handed
  · intro t' a ha b hb
    rcases hpend b hb with hb | rfl
    · exact h'.ahead t' a ha b hb
    · exact h.ahead t' a ha b hmsg
  · intro b hb
    rcases hpend b hb with hb | rfl
    · exact h'.fresh_pending b hb
    · exact h.fresh_pending b hmsg
  · exact h.fresh_handed

theorem Ordered.takeHand (h : Ordered v)
    (hdeq : ProducerQueue.dequeue p v.queue = some (msg, rest)) :
    Ordered { v with queue := rest, hand := Function.update v.hand t (v.hand t ++ [msg]) } := by
  have h' := h.dequeue hdeq
  obtain ⟨hmem, -⟩ := dequeue_mem hdeq
  have hmsg : v.Pending msg := Or.inl ⟨p, hmem⟩
  have hhand : ∀ t' a, a ∈ v.wire ++ Function.update v.hand t (v.hand t ++ [msg]) t' →
      (∃ t'', a ∈ v.wire ++ v.hand t'') ∨ a = msg := by
    intro t' a ha
    rw [Function.update_apply] at ha
    split at ha
    · rw [← List.append_assoc] at ha
      rcases mem_concat.mp ha with ha | ha
      · exact .inl ⟨t, ha⟩
      · exact .inr ha
    · exact .inl ⟨t', ha⟩
  constructor
  · exact h'.queue
  · exact h'.held_queue
  · exact h'.held_held
  · intro t'
    show (v.wire ++ Function.update v.hand t (v.hand t ++ [msg]) t').Pairwise Before
    rw [Function.update_apply]
    split
    · rw [← List.append_assoc]
      refine List.pairwise_append.mpr ⟨h.handed t, List.pairwise_singleton _ _, fun a ha b hb => ?_⟩
      rw [List.mem_singleton.mp hb]
      exact h.ahead t a ha msg hmsg
    · exact h.handed t'
  · intro t' a ha b hb
    rcases hhand t' a ha with ⟨t'', ha⟩ | rfl
    · exact h'.ahead t'' a ha b hb
    · exact h.first hdeq hb
  · exact h'.fresh_pending
  · intro t' a ha
    rcases hhand t' a ha with ⟨t'', ha⟩ | rfl
    · exact h.fresh_handed t'' a ha
    · exact h.fresh_pending _ hmsg

theorem Ordered.handOver (h : Ordered v) (hothers : ∀ t', t' ≠ t → v.hand t' = []) :
    Ordered { v with wire := v.wire ++ v.hand t, hand := Function.update v.hand t [] } := by
  have hhand : ∀ t', Function.update v.hand t [] t' = [] := by
    intro t'
    rw [Function.update_apply]
    split
    · rfl
    · next hne => exact hothers t' hne
  have hmem : ∀ t' a, a ∈ v.wire ++ v.hand t ++ Function.update v.hand t [] t' →
      a ∈ v.wire ++ v.hand t := by
    intro t' a ha
    rwa [hhand, List.append_nil] at ha
  refine ⟨h.queue, h.held_queue, h.held_held, fun t' => ?_,
    fun t' a ha => h.ahead t a (hmem t' a ha),
    h.fresh_pending, fun t' a ha => h.fresh_handed t a (hmem t' a ha)⟩
  show (v.wire ++ v.hand t ++ Function.update v.hand t [] t').Pairwise Before
  rw [hhand, List.append_nil]
  exact h.handed t

theorem ordered_handOver (h : Ordered s.lanes) (hex : Exclusive s) (hold : (s.pc t).holds = true)
    {s₁ : SendState} (hpc : s₁.pc = s.pc) (hqueue : s₁.sendQueue = s.sendQueue)
    (hsent : s₁.sent = s.sent) (hwire : s₁.wire = s.wire ++ (s.pc t).hand)
    (hheld : c.held = (s.pc t).held) (hhand : c.hand = []) : Ordered (s₁.goto t c).lanes := by
  refine ordered_goto s hpc ?_
  rw [hqueue, hsent, hwire, hheld, hhand, update_held_self]
  exact h.handOver fun t' hne => hex.hand_eq_nil hold hne

/-! ## Runs -/

theorem ordered_init : Ordered SendState.init.lanes where
  queue := .nil
  held_queue _ _ h := by cases h
  held_held _ _ _ _ h := by cases h
  handed _ := .nil
  ahead _ _ h := by cases h
  fresh_pending _ h := by
    rcases h with ⟨_, h⟩ | ⟨_, h⟩ <;> cases h
  fresh_handed _ _ h := by cases h

/-- **Every step keeps the order of each sender.** -/
theorem ordered_step (h : Exclusive s ∧ Ordered s.lanes) (hok : OrderedStep s a)
    (hs : s.step kind a = some s') : Exclusive s' ∧ Ordered s'.lanes := by
  obtain ⟨hex, h⟩ := h
  refine ⟨exclusive_step hex hs, ?_⟩
  cases sendStepped hs with
  | send t hpc =>
    refine ordered_goto_same s ?_ ?_ ?_
    · rfl
    · rw [hpc]
      exact ⟨rfl, rfl⟩
    · exact h.enqueueNew hok.1 hok.2
  | move t pc hm => exact ordered_goto_same s rfl hm.lanes h
  | acquire t pc ha hflag =>
    refine ordered_goto_same s ?_ ha.lanes ?_
    · rfl
    · exact h
  | release t pc hr =>
    refine ordered_goto_same s ?_ hr.lanes ?_
    · rfl
    · exact h
  | put t msg pc hp =>
    obtain ⟨hheld, hnone, hhand⟩ := hp.lanes
    refine ordered_goto s ?_ ?_
    · rfl
    · rw [hnone, hhand, update_hand_self]
      exact h.putBack hheld
  | write t tempItems hpc =>
    refine ordered_handOver h hex (by rw [hpc]; rfl) ?_ ?_ ?_ ?_ ?_ ?_
    · rfl
    · rfl
    · rfl
    · rw [hpc]
      rfl
    · rw [hpc]
      rfl
    · rfl
  | asyncSend t msg hpc =>
    refine ordered_handOver h hex (by rw [hpc]; rfl) ?_ ?_ ?_ ?_ ?_ ?_
    · rfl
    · rfl
    · rfl
    · rw [hpc]
      rfl
    · rw [hpc]
      rfl
    · rfl
  | take t p msg sendQueue pc hdeq ht =>
    refine ordered_goto s ?_ ?_
    · rfl
    · rcases taken_lanes ht with ⟨hheld, hhand⟩ | ⟨hpc, hheld, hhand⟩ | ⟨hheld, hhand⟩
      · rw [hheld, hhand, update_held_self]
        exact h.takeHand hdeq
      · rw [hheld, hhand, update_hand_self]
        exact h.takeHeld hdeq (hok hpc msg sendQueue hdeq)
      · rw [hheld, hhand, update_held_self, update_hand_self]
        exact h.dequeue hdeq
  | complete t hpc hwriting =>
    refine ordered_goto_same s ?_ ?_ ?_
    · rfl
    · rw [hpc]
      exact ⟨rfl, rfl⟩
    · exact h
  | _ => exact h

/-- **Per-sender order on the wire.** In every run in which a straggler is the only packet its
sender has queued and a thread sends nothing while a packet of its own is displaced: of two packets
of one sender that were handed over, the one sent first was handed over first. -/
theorem sender_order (kind : SessionKind) (as : List SendAction) {s : SendState}
    (hok : Meets (SendState.step kind) OrderedStep .init as)
    (hs : run (SendState.step kind) .init as = some s) : s.wire.Pairwise Before := by
  obtain ⟨-, h⟩ := run_inv_of_meets (fun s => Exclusive s ∧ Ordered s.lanes)
    (fun _ _ _ => ordered_step) ⟨exclusive_init, ordered_init⟩ hok hs
  exact (List.pairwise_append.mp (h.handed 0)).1

/-- A send while no thread has a straggler in hand and the queue is empty. -/
theorem orderedStep_send (hqueue : s.sendQueue = []) (hheld : ∀ t', (s.pc t').held = none) :
    OrderedStep s (.send t) := by
  refine ⟨fun e he => ?_, fun t' msg hm => ?_⟩
  · rw [hqueue] at he
    cases he
  · rw [hheld t'] at hm
    cases hm

/-- Thread 0 takes the first packet of thread 1 as a straggler and sends it; thread 1 sends a second
one after that. -/
theorem sender_order_straggler :
    ∃ s, run (SendState.step .gateway) .init
        [.send 0, .step 0, .step 0, .take 0 0, .step 0, .complete 0, .step 0, .step 0, .step 0,
          .send 1, .take 0 1, .step 0, .step 0, .step 0, .take 0 0, .step 0,
          .step 1, .send 1, .complete 0, .step 0, .take 0 1, .step 0] = some s ∧
      s.wire = [⟨0, 0⟩, ⟨1, 0⟩, ⟨1, 1⟩] ∧ s.wire.Pairwise Before := by
  refine exists_run_and ⟨_, rfl, rfl⟩ fun s => sender_order .gateway _ ?_
  refine meets_cons (orderedStep_send rfl ?_) rfl (meets_cons trivial rfl (meets_cons trivial rfl
    (meets_cons ?_ rfl (meets_cons trivial rfl (meets_cons trivial rfl (meets_cons trivial rfl
    (meets_cons trivial rfl
      (meets_cons trivial rfl (meets_cons (orderedStep_send rfl ?_) rfl (meets_cons ?_ rfl
    (meets_cons trivial rfl (meets_cons trivial rfl (meets_cons trivial rfl (meets_cons ?_ rfl
    (meets_cons trivial rfl (meets_cons trivial rfl (meets_cons (orderedStep_send rfl ?_) rfl
    (meets_cons trivial rfl (meets_cons trivial rfl (meets_cons ?_ rfl
    (meets_cons trivial rfl trivial)))))))))))))))))))))
  · exact fun _ => rfl
  · exact nofun
  · exact fun t' => match t' with
      | 0 => rfl
      | _ + 1 => rfl
  · intro _ msg rest hdeq
    cases hdeq
    exact fun _ he => absurd he List.not_mem_nil
  · exact nofun
  · exact fun t' => match t' with
      | 0 => rfl
      | 1 => rfl
      | _ + 2 => rfl
  · exact nofun

/-- Thread 0 holds the first packet of thread 1 as a straggler while thread 1 sends its second one;
put back, the first one is a packet of thread 0, and the second one is taken before it. -/
theorem straggler_overtaken :
    (∃ s, run (SendState.step .gateway) .init
        [.send 0, .step 0, .step 0, .take 0 0, .step 0, .complete 0, .step 0, .step 0, .step 0,
          .send 1, .take 0 1, .step 1, .step 1, .step 1, .step 1, .step 1, .send 1, .step 1,
          .step 0, .step 0, .step 1, .take 1 1, .take 1 0, .step 1] = some s ∧
      s.wire = [⟨0, 0⟩, ⟨1, 1⟩, ⟨1, 0⟩]) ∧
    (∃ s, run (SendState.step .backend) .init
        [.send 0, .step 0, .step 0, .take 0 0, .step 0, .complete 0, .step 0, .step 0, .step 0,
          .send 1, .take 0 1, .step 1, .step 1, .step 1, .step 1, .step 1, .send 1, .step 1,
          .step 0, .step 0, .step 1, .take 1 1, .take 1 0, .step 1] = some s ∧
      s.wire = [⟨0, 0⟩, ⟨1, 1⟩, ⟨1, 0⟩]) ∧
    (∃ s, run (SendState.step .udp) .init
        [.setNetwork, .send 0, .step 0, .step 0, .take 0 0, .step 0, .step 0, .step 0,
          .send 1, .take 0 1, .step 1, .step 1, .step 1, .step 1, .step 1, .send 1,
          .step 0, .step 0, .take 0 1, .step 0, .take 0 0, .step 0] = some s ∧
      s.wire = [⟨0, 0⟩, ⟨1, 1⟩, ⟨1, 0⟩]) ∧
    ¬ ([⟨0, 0⟩, ⟨1, 1⟩, ⟨1, 0⟩] : List Sent).Pairwise Before := by
  refine ⟨⟨_, rfl, rfl⟩, ⟨_, rfl, rfl⟩, ⟨_, rfl, rfl⟩, ?_⟩
  simp [Before]

end ToyServer
