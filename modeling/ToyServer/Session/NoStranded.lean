import ToyServer.Session.SendQueue

/-!
# Packets left behind in the send queue

When no thread is inside `EnqueueSend` or `Flush` and no write is outstanding, an open session
should have an empty queue and `_isSending` false.  Two paths leave it otherwise.  A TCP `Flush`
that finds a straggler and sees the flag taken puts the straggler back only after that, when the
new owner may already have looked at the queue and gone.  A UDP `Flush` without a network frees the
queue and returns with the flag still set.

`no_stranded_packet` says that nothing else goes wrong, as long as the last dequeue of a `Flush`
does not miss what is there: in every such run that avoids the two, whoever leaves a packet in the
queue leaves it to an owner of the flag or to a thread that will look at the queue again
(`Watched`).
-/

namespace ToyServer

open Runs ProducerQueue

/-- The thread will look at the flag or the queue again before it goes away. -/
def SendPc.looks : SendPc → Bool
  | .exchange | .recheck | .straggler _ | .cas => true
  | _ => false

/-- Nobody is at work on the session. -/
structure Quiet (s : SendState) : Prop where
  threads : ∀ t, s.pc t = .idle
  writes : s.writing = 0

/-- A straggler is put back only while the flag is set or some thread is going to look again, a UDP
`Flush` starts only with a network, and the look for a straggler finds nothing only in the empty
queue. -/
def WatchedStep (kind : SessionKind) (s : SendState) : SendAction → Prop
  | .step t =>
    (∀ msg, s.pc t = .putBack msg → s.isSending = true ∨ ∃ t', (s.pc t').looks = true) ∧
    (s.pc t = .flush → kind = .udp → s.network = true) ∧
    (s.pc t = .recheck → s.sendQueue = [])
  | _ => True

/-- What is in the queue of an open session is watched, and the flag is set for an owner. -/
structure Watched (s : SendState) : Prop extends Exclusive s where
  watched : s.sendQueue ≠ [] → s.isOpen = true → s.isSending = true ∨ ∃ t, (s.pc t).looks = true
  owned : s.isSending = true → s.isOpen = true → (∃ t, (s.pc t).holds = true) ∨ 0 < s.writing
  closing : ∀ t, s.pc t = .storeClosed → s.isOpen = false
  attached : ∀ t, s.pc t ≠ .discard

variable {kind : SessionKind} {s s' : SendState} {a : SendAction} {t : ThreadId}

/-! ## Lemmas -/

variable {c c' : SendPc}

/-- A thread stops looking when the flag is set or its last look finds nothing. -/
theorem Move.looks (h : Move kind s c c') (hc : c.looks = true) :
    s.isSending = true ∨ c = .recheck := by
  cases h with
  | lost hflag => exact .inl hflag
  | recheckNothing => exact .inr rfl
  | stragglerLost msg hflag => exact .inl hflag
  | casLost hflag => exact .inl hflag
  | flushOpen | flushClosed | flushNetwork | flushNull | bulkNothing | discardNothing
  | drainNothing => cases hc

/-- An owner that moves on stays the owner, unless it was discarding. -/
theorem Move.keeps (h : Move kind s c c') (hd : c ≠ .discard) (hc : c.holds = true) :
    c'.holds = true := by
  cases h <;> first | rfl | exact absurd rfl hd | cases hc

theorem Move.closing (h : Move kind s c .storeClosed) : s.isOpen = false := by
  cases h with
  | flushClosed _ hopen => exact hopen

theorem Move.attached (h : Move kind s c c') (hnet : c = .flush → kind = .udp → s.network = true) :
    c' ≠ .discard := by
  cases h with
  | flushNull hkind hoff =>
    rw [hnet rfl hkind] at hoff
    cases hoff
  | _ => simp

theorem Acquire.places (h : Acquire c c') : c' ≠ .storeClosed ∧ c' ≠ .discard := by
  cases h <;> simp

theorem Put.keeps {msg : Sent} (h : Put c msg c') (hc : c.holds = true) : c'.holds = true := by
  cases h <;> first | rfl | cases hc

theorem Put.places {msg : Sent} (h : Put c msg c') : c' ≠ .storeClosed ∧ c' ≠ .discard := by
  cases h <;> simp

/-- Whoever takes a packet owns the flag, or holds a straggler and will look again. -/
theorem taken_watched {msg : Sent} (h : SendState.taken c msg = some c') :
    (c.holds = true ∨ c'.looks = true) ∧ (c.holds = true → c'.holds = true) ∧ c' ≠ .storeClosed ∧
      (c ≠ .discard → c' ≠ .discard) := by
  cases c with
  | bulk => cases h; exact ⟨Or.inl rfl, fun _ => rfl, by simp, by simp⟩
  | batch tempItems =>
    simp only [SendState.taken, Option.ite_none_right_eq_some, Option.some.injEq] at h
    obtain ⟨-, rfl⟩ := h
    exact ⟨Or.inl rfl, fun _ => rfl, by simp, by simp⟩
  | discard => cases h; exact ⟨Or.inl rfl, fun _ => rfl, by simp, id⟩
  | drain => cases h; exact ⟨Or.inl rfl, fun _ => rfl, by simp, by simp⟩
  | recheck => cases h; exact ⟨Or.inr rfl, fun hc => absurd hc Bool.false_ne_true, by simp, by simp⟩
  | _ => cases h

theorem exists_goto (s : SendState) (P : SendPc → Bool) {s₁ : SendState} (hpc : s₁.pc = s.pc)
    (h : ∃ t', P (s.pc t') = true) (hc : P (s.pc t) = true → P c = true) :
    ∃ t', P ((s₁.goto t c).pc t') = true := by
  obtain ⟨t', ht'⟩ := h
  by_cases htt : t' = t
  · refine ⟨t, ?_⟩
    rw [goto_pc_self]
    exact hc (htt ▸ ht')
  · refine ⟨t', ?_⟩
    rw [goto_pc_of_ne _ _ htt, hpc]
    exact ht'

theorem exists_self (P : SendPc → Bool) (s₁ : SendState) (hc : P c = true) :
    ∃ t', P ((s₁.goto t c).pc t') = true := ⟨t, by rw [goto_pc_self]; exact hc⟩

/-- What is asked of a step of `t` to `c`; the queue, the flag and the socket come from `s₁`. -/
theorem Watched.goto (h : Watched s) {s₁ : SendState} (hex : Exclusive (s₁.goto t c))
    (hpc : s₁.pc = s.pc) (hopen : s₁.isOpen = s.isOpen)
    (hwatched : s₁.sendQueue ≠ [] → s₁.isOpen = true → s₁.isSending = true ∨
      ∃ t', ((s₁.goto t c).pc t').looks = true)
    (howned : s₁.isSending = true → s₁.isOpen = true → (∃ t', ((s₁.goto t c).pc t').holds = true) ∨
      0 < s₁.writing)
    (hclosing : c = .storeClosed → s.isOpen = false) (hattached : c ≠ .discard) :
    Watched (s₁.goto t c) := by
  refine ⟨hex, hwatched, howned, fun t' ht' => ?_, fun t' => ?_⟩
  · show s₁.isOpen = false
    rw [hopen]
    by_cases htt : t' = t
    · rw [htt, goto_pc_self] at ht'
      exact hclosing ht'
    · rw [goto_pc_of_ne _ _ htt, hpc] at ht'
      exact h.closing t' ht'
  · by_cases htt : t' = t
    · rw [htt, goto_pc_self]
      exact hattached
    · rw [goto_pc_of_ne _ _ htt, hpc]
      exact h.attached t'

/-! ## The invariant -/

/-- **Every step leaves somebody to send what is queued.** -/
theorem watched_step (h : Watched s) (hok : WatchedStep kind s a) (hs : s.step kind a = some s') :
    Watched s' := by
  have hex := exclusive_step h.toExclusive hs
  cases sendStepped hs with
  | send t hpc =>
    refine h.goto hex ?_ ?_ (fun _ _ => ?_) (fun hflag ho => ?_) (by simp) (by simp)
    · rfl
    · rfl
    · exact .inr (exists_self SendPc.looks _ rfl)
    · refine (h.owned hflag ho).imp_left fun hold => exists_goto s SendPc.holds rfl hold fun hc =>
        ?_
      rw [hpc] at hc
      cases hc
  | move t pc hm =>
    refine h.goto hex rfl rfl (fun hq ho => ?_) (fun hflag ho => ?_) (fun hpc => (hpc ▸ hm).closing)
      (hm.attached hok.2.1)
    · rcases h.watched hq ho with hflag | hlook
      · exact .inl hflag
      · by_cases ht : (s.pc t).looks = true
        · exact .inl ((hm.looks ht).resolve_right fun hpc => hq (hok.2.2 hpc))
        · exact .inr (exists_goto s SendPc.looks rfl hlook fun hc => absurd hc ht)
    · exact (h.owned hflag ho).imp_left fun hold =>
        exists_goto s SendPc.holds rfl hold (hm.keeps (h.attached t))
  | acquire t pc ha hflag =>
    refine h.goto hex ?_ ?_ (fun _ _ => Or.inl rfl) (fun _ _ => ?_)
      (fun hpc => absurd hpc ha.places.1) ha.places.2
    · rfl
    · rfl
    · exact .inl (exists_self SendPc.holds _ ha.holds.2)
  | release t pc hr =>
    generalize hc : s.pc t = c at hr
    cases hr with
    | closed =>
      -- the socket was closed before the flag was given back
      have hclosed := h.closing t hc
      refine h.goto hex ?_ ?_ (fun _ ho => ?_) (fun hflag => ?_) (by simp) (by simp)
      · rfl
      · rfl
      · rw [show s.isOpen = true from ho] at hclosed
        cases hclosed
      · cases hflag
    | empty =>
      refine h.goto hex ?_ ?_ (fun _ _ => ?_) (fun hflag => ?_) (by simp) (by simp)
      · rfl
      · rfl
      · exact .inr (exists_self SendPc.looks _ rfl)
      · cases hflag
  | put t msg pc hp =>
    refine h.goto hex ?_ ?_ (fun _ _ => ?_) (fun hflag ho => ?_)
      (fun hpc => absurd hpc hp.places.1) hp.places.2
    · rfl
    · rfl
    · generalize hc : s.pc t = c at hp
      cases hp with
      | udp => exact .inr (exists_self SendPc.looks _ rfl)
      | reflush => exact .inl (h.flag_thread t (by rw [hc]; rfl))
      | putBack =>
        refine (hok.1 msg hc).imp_right fun hlook => exists_goto s SendPc.looks rfl hlook fun ht =>
          ?_
        rw [hc] at ht
        cases ht
    · exact (h.owned hflag ho).imp_left fun hold => exists_goto s SendPc.holds rfl hold hp.keeps
  | write t tempItems hpc =>
    refine h.goto hex ?_ ?_ (fun _ _ => ?_) (fun _ _ => Or.inr (Nat.succ_pos _)) (by simp) (by simp)
    · rfl
    · rfl
    · exact .inl (h.flag_thread t (by rw [hpc]; rfl))
  | asyncSend t msg hpc =>
    refine h.goto hex ?_ ?_ (fun _ _ => ?_) (fun _ _ => ?_) (by simp) (by simp)
    · rfl
    · rfl
    · exact .inl (h.flag_thread t (by rw [hpc]; rfl))
    · exact .inl (exists_self SendPc.holds _ rfl)
  | take t p msg sendQueue pc hdeq ht =>
    obtain ⟨hwho, hkeeps, hclosed, hattached⟩ := taken_watched ht
    refine h.goto hex ?_ ?_ (fun _ _ => ?_) (fun hflag ho => ?_) (fun hpc => absurd hpc hclosed)
      (hattached (h.attached t))
    · rfl
    · rfl
    · exact hwho.imp (h.flag_thread t) fun hlook => exists_self SendPc.looks _ hlook
    · exact (h.owned hflag ho).imp_left fun hold => exists_goto s SendPc.holds rfl hold hkeeps
  | complete t hpc hwriting =>
    refine h.goto hex ?_ ?_ (fun _ _ => ?_) (fun _ _ => ?_) (by simp) (by simp)
    · rfl
    · rfl
    · exact .inl (h.flag_write hwriting)
    · exact .inl (exists_self SendPc.holds _ rfl)
  | fail hwriting =>
    exact ⟨hex, fun _ ho => absurd ho Bool.false_ne_true, fun _ ho => absurd ho Bool.false_ne_true,
      fun _ _ => rfl, h.attached⟩
  | close =>
    exact ⟨hex, fun _ ho => absurd ho Bool.false_ne_true, fun _ ho => absurd ho Bool.false_ne_true,
      fun _ _ => rfl, h.attached⟩
  | setNetwork => exact ⟨hex, h.watched, h.owned, h.closing, h.attached⟩

theorem watched_init : Watched .init where
  toExclusive := exclusive_init
  watched h := absurd rfl h
  owned h := absurd h Bool.false_ne_true
  closing _ h := by cases h
  attached _ h := by cases h

theorem Watched.quiet (h : Watched s) (hq : Quiet s) (ho : s.isOpen = true) :
    s.sendQueue = [] ∧ s.isSending = false := by
  have hhold : ¬ ∃ t, (s.pc t).holds = true := by
    rintro ⟨t, ht⟩
    rw [hq.threads t] at ht
    cases ht
  have hflag : s.isSending = false := by
    rw [← Bool.not_eq_true]
    intro hflag
    rcases h.owned hflag ho with hold | hw
    · exact hhold hold
    · exact absurd hq.writes (Nat.ne_of_gt hw)
  refine ⟨?_, hflag⟩
  by_contra hne
  rcases h.watched hne ho with hset | ⟨t, ht⟩
  · rw [hflag] at hset
    cases hset
  · rw [hq.threads t] at ht
    cases ht

/-- **No stranded packet.** In every run in which stragglers are put back under watch, a UDP `Flush`
has its network and the last look of a `Flush` misses nothing: whenever nobody is at work on the
session and it is open, the queue is empty and the flag is down. -/
theorem no_stranded_packet (kind : SessionKind) (as : List SendAction) {s : SendState}
    (hok : Meets (SendState.step kind) (WatchedStep kind) .init as)
    (hs : run (SendState.step kind) .init as = some s) (hquiet : Quiet s)
    (hopen : s.isOpen = true) : s.sendQueue = [] ∧ s.isSending = false :=
  (run_inv_of_meets Watched (fun _ _ _ => watched_step) watched_init hok hs).quiet hquiet hopen

/-- A step of a TCP thread that has no straggler to put back. -/
theorem watchedStep_of_pc (c : SendPc) (hkind : kind ≠ .udp) (hpc : s.pc t = c)
    (hc : ∀ msg, c ≠ .putBack msg) (hempty : c = .recheck → s.sendQueue = []) :
    WatchedStep kind s (.step t) :=
  ⟨fun msg h => absurd (hpc.symm.trans h) (hc msg), fun _ h => absurd h hkind,
    fun h => hempty (hpc.symm.trans h)⟩

/-- Thread 0 sends one packet; the write completes on thread 1, which finds nothing more. -/
theorem no_stranded_one_packet :
    ∃ s, run (SendState.step .gateway) .init
        [.send 0, .step 0, .step 0, .take 0 0, .step 0, .complete 1, .step 1, .step 1, .step 1,
          .step 1] = some s ∧
      s.wire = [⟨0, 0⟩] ∧ s.sendQueue = [] ∧ s.isSending = false := by
  refine exists_run_and ⟨_, rfl, rfl⟩ fun s hs => no_stranded_packet .gateway _ ?_ hs ?_ ?_
  · refine meets_cons trivial rfl (meets_cons (watchedStep_of_pc .exchange ?_ rfl ?_ ?_) rfl
      (meets_cons (watchedStep_of_pc .flush ?_ rfl ?_ ?_) rfl (meets_cons trivial rfl
      (meets_cons (watchedStep_of_pc (.batch [⟨0, 0⟩]) ?_ rfl ?_ ?_) rfl (meets_cons trivial rfl
      (meets_cons (watchedStep_of_pc .flush ?_ rfl ?_ ?_) rfl
        (meets_cons (watchedStep_of_pc .bulk ?_ rfl ?_ ?_) rfl
      (meets_cons (watchedStep_of_pc .storeFalse ?_ rfl ?_ ?_) rfl
      (meets_cons (watchedStep_of_pc .recheck ?_ rfl ?_ fun _ => rfl) rfl trivial))))))))) <;> simp
  · cases hs
    refine ⟨fun t => ?_, rfl⟩
    match t with
    | 0 => rfl
    | 1 => rfl
    | _ + 2 => rfl
  · cases hs
    rfl

/-- The race that strands a packet of thread 1: thread 0 takes it as a straggler; thread 1 gets the
flag, finds the queue empty and goes; thread 0, which saw the flag set, puts the packet back and
goes too. -/
def strandingRace : List SendAction :=
  [.send 0, .step 0, .step 0, .take 0 0, .step 0, .complete 0, .step 0, .step 0, .step 0,
    .send 1, .take 0 1, .step 1, .step 0, .step 1, .step 1, .step 1, .step 1, .step 0]

theorem packet_stranded :
    (∃ s, run (SendState.step .gateway) .init strandingRace = some s ∧ Quiet s ∧ s.isOpen = true ∧
      s.sendQueue = [(0, ⟨1, 0⟩)] ∧ s.isSending = false) ∧
    (∃ s, run (SendState.step .backend) .init strandingRace = some s ∧ Quiet s ∧ s.isOpen = true ∧
      s.sendQueue = [(0, ⟨1, 0⟩)] ∧ s.isSending = false) ∧
    (∃ s, run (SendState.step .udp) .init [.send 0, .step 0, .step 0, .take 0 0, .step 0, .send 1,
      .step 1] = some s ∧
      Quiet s ∧ s.isOpen = true ∧ s.sendQueue = [(1, ⟨1, 0⟩)] ∧ s.isSending = true) := by
  refine ⟨⟨_, rfl, ⟨fun t => ?_, rfl⟩, rfl, rfl, rfl⟩, ⟨_, rfl, ⟨fun t => ?_, rfl⟩, rfl, rfl, rfl⟩,
    ⟨_, rfl, ⟨fun t => ?_, rfl⟩, rfl, rfl, rfl⟩⟩ <;>
    exact match t with
      | 0 => rfl
      | 1 => rfl
      | _ + 2 => rfl

end ToyServer
