import ToyServer.Packet.PacketRefs

/-!
# Packets are released exactly once

Every step of the machine keeps the references, takes one away together with a count (`Free`), adds
one that is counted (`AddRef`, with a reference already there), or makes a packet with one reference
(`RefStep`).  So the count of a packet is the number of its references, and the packet is given back
when the last one goes.

* `released_once`: the count is the number of `PacketPtr`s, queue entries and packets in the hands
of a `Flush`, and a packet that was made has been released once if that number is zero and not at
all if it is not.
-/

namespace ToyServer

open Runs RefCount

/-! ## References -/

/-- One, if the pointer points to the packet. -/
def points (m : MsgId) (p : Option MsgId) : Nat := if p = some m then 1 else 0

namespace PacketState

variable (s : PacketState) (m : MsgId)

/-- `PacketPtr`s to the packet, those in `_sendingPackets` among them. -/
def holders : Nat :=
  tally (points m) s.ptrs + tally (fun x => x.sendingPackets.count m) s.sessions

def queued : Nat := tally (fun x => x.sendQueue.count m) s.sessions

/-- Copies taken out of a queue, or on the way into one, by a thread that is at it; and those in the
hands of `AsyncSend`. -/
def flushing : Nat := tally (fun f => f.items.count m) s.frames + s.contexts.count m

def refs : Nat := s.holders m + s.queued m + s.flushing m

end PacketState

/-- What a step does to the references and the counts. -/
inductive RefStep (s s' : PacketState) : Prop
  | keep (hledger : s'.ledger = s.ledger) (hnext : s'.next = s.next)
      (hrefs : ∀ m, s'.refs m = s.refs m)
  | free (m : MsgId) (hledger : s'.ledger = s.ledger.free m) (hnext : s'.next = s.next)
      (hrefs : ∀ x, s.refs x = s'.refs x + single m x)
  | addRef (m : MsgId) (hledger : s'.ledger = s.ledger.addRef m) (hnext : s'.next = s.next)
      (hpos : 0 < s.refs m) (hrefs : ∀ x, s'.refs x = s.refs x + single m x)
  | make (hledger : s'.ledger = s.ledger.make s.next) (hnext : s'.next = s.next + 1)
      (hrefs : ∀ x, s'.refs x = s.refs x + single s.next x)

variable {s s' : PacketState} {a : PacketAction} {i v : Nat} {f f' : Frame}
  {x x' : PacketSession} {m : MsgId}

theorem points_some (m n : MsgId) : points n (some m) = single m n := by
  unfold points single
  by_cases h : n = m
  · rw [if_pos h, if_pos (h ▸ rfl)]
  · rw [if_neg h, if_neg fun heq => h (Option.some.inj heq).symm]

variable (n : MsgId)

theorem points_none : points n none = 0 := if_neg nofun

theorem count_singleton_eq (m n : MsgId) : [m].count n = single m n := by
  rw [List.count_singleton, single]
  by_cases h : n = m
  · rw [if_pos h, if_pos (by simpa using h.symm)]
  · rw [if_neg h, if_neg (by simpa using fun heq => h heq.symm)]

theorem count_cons_eq (m n : MsgId) (l : List MsgId) :
    (m :: l).count n = l.count n + single m n := by
  rw [← List.singleton_append, List.count_append, count_singleton_eq, Nat.add_comm]

/-! ## Pointers, frames and sessions -/

theorem refs_setPtr {p : Option MsgId} (hv : s.ptrs[v]? = some p) (p' : Option MsgId) (n : MsgId) :
    (s.setPtr v p').refs n + points n p = s.refs n + points n p' := by
  have hset := tally_set (points n) hv p'
  simp only [PacketState.refs, PacketState.holders, PacketState.queued, PacketState.flushing,
    PacketState.setPtr]
  omega

theorem refs_newPtr (p : Option MsgId) (n : MsgId) :
    (s.newPtr p).refs n = s.refs n + points n p := by
  simp only [PacketState.refs, PacketState.holders, PacketState.queued, PacketState.flushing,
    PacketState.newPtr, tally_append, tally_cons, tally_nil]
  omega

theorem refs_addFrame (f : Frame) (n : MsgId) :
    (s.addFrame f).refs n = s.refs n + f.items.count n := by
  simp only [PacketState.refs, PacketState.holders, PacketState.queued, PacketState.flushing,
    PacketState.addFrame, tally_append, tally_cons, tally_nil]
  omega

theorem refs_setSession {j : Nat} (hx : s.sessions[j]? = some x) (x' : PacketSession) (n : MsgId) :
    ({ s with sessions := s.sessions.set j x' } : PacketState).refs n + x.sendQueue.count n +
      x.sendingPackets.count n = s.refs n + x'.sendQueue.count n + x'.sendingPackets.count n := by
  have hqueue := tally_set (fun x => x.sendQueue.count n) hx x'
  have hsending := tally_set (fun x => x.sendingPackets.count n) hx x'
  simp only [PacketState.refs, PacketState.holders, PacketState.queued, PacketState.flushing] at *
  omega

theorem refs_pos (hv : s.ptrs[v]? = some (some m)) : 0 < s.refs m := by
  have hle := le_tally (points m) hv
  rw [points_some, single, if_pos rfl] at hle
  simp only [PacketState.refs, PacketState.holders]
  omega

/-! ## Frames -/

/-- The packets of a frame and its session. -/
def together (f : Frame) (x : PacketSession) (n : MsgId) : Nat :=
  f.items.count n + x.sendQueue.count n + x.sendingPackets.count n

section Frames

variable (hf : s.frames[i]? = some f) (hx : s.sessions[f.session]? = some x)
include hf hx

section

variable (hsame : f'.session = f.session)
include hsame

theorem refs_update (x' : PacketSession) (n : MsgId) :
    (s.update i f' x').refs n + together f x n = s.refs n + together f' x' n := by
  have hframes := tally_set (fun f => f.items.count n) hf f'
  have hqueue := tally_set (fun x => x.sendQueue.count n) hx x'
  have hsending := tally_set (fun x => x.sendingPackets.count n) hx x'
  simp only [PacketState.refs, PacketState.holders, PacketState.queued, PacketState.flushing,
    PacketState.update, together, hsame] at *
  omega

theorem update_keeps (heq : ∀ n, together f' x' n = together f x n) :
    RefStep s (s.update i f' x') := by
  refine .keep rfl rfl fun n => ?_
  have hrefs := refs_update hf hx hsame x' n
  rw [heq n] at hrefs
  omega

theorem update_frees (heq : ∀ n, together f x n = together f' x' n + single m n) :
    RefStep s ((s.free m).update i f' x') := by
  refine .free m rfl rfl fun n => ?_
  have hrefs : ((s.free m).update i f' x').refs n + together f x n = s.refs n + together f' x' n :=
    refs_update (s := s.free m) hf hx hsame x' n
  rw [heq n] at hrefs
  omega

theorem update_sends (heq : ∀ n, together f x n = together f' x' n + single m n) :
    RefStep s ({ s with contexts := s.contexts ++ [m] }.update i f' x') := by
  refine .keep rfl rfl fun n => ?_
  have hrefs := refs_update (s := { s with contexts := s.contexts ++ [m] }) hf hx hsame x' n
  have hctx : ({ s with contexts := s.contexts ++ [m] } : PacketState).refs n =
      s.refs n + single m n := by
    simp only [PacketState.refs, PacketState.holders, PacketState.queued, PacketState.flushing,
      List.count_append, count_singleton_eq]
    omega
  rw [heq n] at hrefs
  omega

theorem update_enqueues (hitems : f'.items = []) :
    RefStep s (s.update i f' { x with sendQueue := x.sendQueue ++ f.items }) := by
  refine update_keeps hf hx hsame fun n => ?_
  simp only [together, hitems, List.count_nil, List.count_append]
  omega

end

theorem update_frees_item {items : List MsgId} (hitems : f.items = m :: items) :
    RefStep s ((s.free m).update i { f with items := items } x) := by
  refine update_frees hf hx (by rfl) fun n => ?_
  simp only [together, hitems, count_cons_eq]
  omega

theorem update_clears {packets : List MsgId} (hpackets : x.sendingPackets = m :: packets) :
    RefStep s ((s.free m).update i f { x with sendingPackets := packets }) := by
  refine update_frees hf hx rfl fun n => ?_
  simp only [together, hpackets, count_cons_eq]
  omega

theorem stepFrame_refStep (h : s.stepFrame i f x = some s') : RefStep s s' := by
  have move : ∀ (pc : FramePc) (isSending : Bool) (writing : Nat),
      RefStep s
      (s.update i { f with pc := pc } { x with isSending := isSending, writing := writing }) :=
    fun _ _ _ => update_keeps hf hx (by rfl) fun _ => rfl
  unfold PacketState.stepFrame at h
  split at h
  · -- enqueue
    cases h; exact update_enqueues hf hx (by rfl) (by rfl)
  · -- exchange
    split at h
    · cases h; exact move .done x.isSending x.writing
    · cases h; exact move .flush true x.writing
  · -- flush
    split at h
    · cases h; exact move _ x.isSending x.writing
    · cases h; exact move _ x.isSending x.writing
    · cases h; exact move _ x.isSending x.writing
  · cases h; exact move .done false x.writing
  · -- bulk
    cases h; exact move .storeFalse x.isSending x.writing
  · cases h; exact move _ x.isSending x.writing
  · -- linearize
    next hitems => cases h; exact update_frees_item hf hx hitems
  · cases h; exact move .done x.isSending (x.writing + 1)
  · -- clearSending
    split at h
    · next hpackets => cases h; exact update_clears hf hx hpackets
    · cases h; exact move .gather x.isSending x.writing
  · -- gather
    next hitems =>
    cases h
    refine update_keeps hf hx (by rfl) fun n => ?_
    simp only [together, hitems, count_cons_eq, List.count_append, List.count_nil]
    omega
  · cases h; exact move .done x.isSending (x.writing + 1)
  · -- discard
    cases h; exact move .done x.isSending x.writing
  · next hitems => cases h; exact update_frees_item hf hx hitems
  · cases h; exact move .discard x.isSending x.writing
  · -- drain
    cases h; exact move .storeFalse x.isSending x.writing
  · -- asyncSend
    next hitems =>
    cases h
    refine update_sends hf hx (by rfl) fun n => ?_
    simp only [together, hitems, count_cons_eq]
    omega
  · cases h; exact move .drain x.isSending x.writing
  · -- storeFalse
    cases h; exact move .recheck false x.writing
  · cases h; exact move .done x.isSending x.writing
  · -- straggler
    split at h
    · split at h
      · cases h; exact move .putBack x.isSending x.writing
      · cases h; exact move .reflush true x.writing
    · split at h
      · cases h; exact move .putBack x.isSending x.writing
      · cases h; exact move .reflush true x.writing
    · cases h; exact update_enqueues hf hx (by rfl) (by rfl)
  · cases h; exact update_enqueues hf hx (by rfl) (by rfl)
  · cases h; exact update_enqueues hf hx (by rfl) (by rfl)
  · -- cas
    split at h
    · cases h; exact move .done x.isSending x.writing
    · cases h; exact move .drain true x.writing
  · -- completed
    split at h
    · next hpackets => cases h; exact update_clears hf hx hpackets
    · cases h; exact move _ x.isSending x.writing
  · -- reset
    cases h; exact move .done x.isSending x.writing
  · next hitems => cases h; exact update_frees_item hf hx hitems
  · cases h; exact move .reset x.isSending x.writing
  · -- clear
    split at h
    · next hpackets => cases h; exact update_clears hf hx hpackets
    · cases h; exact move .done x.isSending x.writing
  · cases h

end Frames

/-! ## Steps -/

theorem count_eraseIdx_eq {l : List MsgId} {k : Nat} (h : l[k]? = some m) (n : MsgId) :
    l.count n = (l.eraseIdx k).count n + single m n := by
  obtain ⟨hk, rfl⟩ := List.getElem?_eq_some_iff.mp h
  rw [← (List.getElem_cons_eraseIdx_perm hk).count_eq, count_cons_eq]

theorem frameAt_eq (h : s.frameAt i = some (f, x)) :
    s.frames[i]? = some f ∧ s.sessions[f.session]? = some x := by
  unfold PacketState.frameAt at h
  split at h
  · cases h
  · next hf =>
    obtain ⟨x', hx, heq⟩ := Option.map_eq_some_iff.mp h
    cases heq
    exact ⟨hf, hx⟩

theorem session_keeps {j : Nat} (hx : s.sessions[j]? = some x) (hqueue : x'.sendQueue = x.sendQueue)
    (hpackets : x'.sendingPackets = x.sendingPackets) :
    ∀ n, ({ s with sessions := s.sessions.set j x' } : PacketState).refs n = s.refs n := by
  intro n
  have hrefs := refs_setSession hx x' n
  rw [hqueue, hpackets] at hrefs
  omega

theorem start_keeps {j : Nat} (hx : s.sessions[j]? = some x) (hqueue : x'.sendQueue = x.sendQueue)
    (hpackets : x'.sendingPackets = x.sendingPackets) (hitems : f.items = []) :
    RefStep s (({ s with sessions := s.sessions.set j x' } : PacketState).addFrame f) := by
  refine .keep rfl rfl fun n => ?_
  rw [refs_addFrame, session_keeps hx hqueue hpackets, hitems, List.count_nil, Nat.add_zero]

theorem setPtr_adds (hv : s.ptrs[v]? = some none) (hpos : 0 < s.refs m) :
    RefStep s ((s.addRef m).setPtr v (some m)) := by
  refine .addRef m rfl rfl hpos fun n => ?_
  have hrefs : ((s.addRef m).setPtr v (some m)).refs n + points n none =
      s.refs n + points n (some m) :=
    refs_setPtr (s := s.addRef m) hv (some m) n
  rw [points_none, points_some] at hrefs
  exact hrefs

theorem setPtr_frees (hv : s.ptrs[v]? = some (some m)) : RefStep s ((s.free m).setPtr v none) := by
  refine .free m rfl rfl fun n => ?_
  have hrefs : ((s.free m).setPtr v none).refs n + points n (some m) = s.refs n + points n none :=
    refs_setPtr (s := s.free m) hv none n
  rw [points_none, points_some] at hrefs
  omega

theorem setPtr_moves {p : Option MsgId} {w : Nat} (hv : s.ptrs[v]? = some none)
    (hw : s.ptrs[w]? = some p) (hne : v ≠ w) : RefStep s ((s.setPtr w none).setPtr v p) := by
  refine .keep rfl rfl fun n => ?_
  have hv' : (s.setPtr w none).ptrs[v]? = some none := by
    rw [PacketState.setPtr, List.getElem?_set_ne hne.symm]
    exact hv
  have h₁ := refs_setPtr hw none n
  have h₂ := refs_setPtr hv' p n
  rw [points_none] at h₁ h₂
  omega

theorem refStep (h : s.step a = some s') : RefStep s s' := by
  cases a with
  | build =>
    cases h
    refine .make rfl rfl fun n => ?_
    rw [refs_newPtr, points_some]
    rfl
  | copy v =>
    simp only [PacketState.step] at h
    split at h
    · cases h
    · cases h
      refine .keep rfl rfl fun n => ?_
      rw [refs_newPtr, points_none, Nat.add_zero]
    · next m hv =>
      cases h
      refine .addRef m rfl rfl (refs_pos hv) fun n => ?_
      rw [refs_newPtr, points_some]
      rfl
  | move v =>
    simp only [PacketState.step] at h
    split at h
    · cases h
    · next p hv =>
      cases h
      refine .keep rfl rfl fun n => ?_
      have hrefs := refs_setPtr hv none n
      rw [points_none, Nat.add_zero] at hrefs
      rw [refs_newPtr]
      exact hrefs
  | resetPtr v =>
    simp only [PacketState.step] at h
    split at h
    · cases h
    · cases h; exact .keep rfl rfl fun _ => rfl
    · next m hv => cases h; exact setPtr_frees hv
  | assign v w =>
    simp only [PacketState.step] at h
    split at h
    · next hv hw => cases h; exact setPtr_adds hv (refs_pos hw)
    · cases h; exact .keep rfl rfl fun _ => rfl
    · cases h
  | moveAssign v w =>
    simp only [PacketState.step] at h
    split at h
    · next hv hw =>
      rw [Option.ite_none_left_eq_some, Option.some.injEq] at h
      obtain ⟨hne, rfl⟩ := h
      exact setPtr_moves hv hw hne
    · cases h
  | sendPacket v session =>
    simp only [PacketState.step] at h
    split at h
    · next m x hv hx =>
      split at h
      · cases h
        refine .keep rfl rfl fun n => ?_
        have hrefs := refs_setPtr hv none n
        rw [points_none, points_some, Nat.add_zero] at hrefs
        rw [PacketState.enqueueSend, refs_addFrame, count_singleton_eq]
        exact hrefs
      · cases h; exact setPtr_frees hv
    · cases h; exact .keep rfl rfl fun _ => rfl
    · cases h
  | sendPreSerialized v session =>
    simp only [PacketState.step] at h
    split at h
    · next m x hv hx =>
      split at h
      · cases h
        refine .addRef m rfl rfl (refs_pos hv) fun n => ?_
        rw [PacketState.enqueueSend, refs_addFrame, count_singleton_eq]
        rfl
      · cases h; exact .keep rfl rfl fun _ => rfl
    · cases h; exact .keep rfl rfl fun _ => rfl
    · cases h
  | sendNew session =>
    simp only [PacketState.step] at h
    split at h
    · cases h
    · split at h
      · cases h
        refine .make rfl rfl fun n => ?_
        rw [PacketState.enqueueSend, refs_addFrame, count_singleton_eq]
        rfl
      · cases h; exact .keep rfl rfl fun _ => rfl
  | step i =>
    simp only [PacketState.step] at h
    split at h
    · cases h
    · next f x hat => exact stepFrame_refStep (frameAt_eq hat).1 (frameAt_eq hat).2 h
  | take i k =>
    simp only [PacketState.step] at h
    split at h
    · cases h
    · next f x hat =>
      split at h
      · next m pc hk hpc =>
        cases h
        refine update_keeps (frameAt_eq hat).1 (frameAt_eq hat).2 (by rfl) fun n => ?_
        have hcount := count_eraseIdx_eq hk n
        simp only [together, List.count_append, count_singleton_eq]
        omega
      · cases h
  | refuse i =>
    simp only [PacketState.step] at h
    split at h
    · cases h
    · next f x hat =>
      split at h
      · next hitems => cases h; exact update_frees_item (frameAt_eq hat).1 (frameAt_eq hat).2 hitems
      · cases h
  | contextDone k =>
    simp only [PacketState.step] at h
    split at h
    · cases h
    · next m hk =>
      cases h
      refine .free m rfl rfl fun n => ?_
      have hcount := count_eraseIdx_eq hk n
      simp only [PacketState.refs, PacketState.holders, PacketState.queued, PacketState.flushing,
        PacketState.free]
      omega
  | complete session ok =>
    simp only [PacketState.step] at h
    split at h
    · cases h
    · next x hx =>
      rw [Option.ite_none_right_eq_some, Option.some.injEq] at h
      obtain ⟨-, rfl⟩ := h
      exact start_keeps hx rfl rfl rfl
  | resetSession session =>
    simp only [PacketState.step] at h
    split at h
    · cases h
    · next x hx => cases h; exact start_keeps hx rfl rfl rfl
  | recycle session =>
    simp only [PacketState.step] at h
    split at h
    · cases h
    · next x hx => cases h; exact start_keeps hx rfl rfl rfl
  | clearSession session =>
    cases h
    exact .keep rfl rfl fun n => refs_addFrame _ n
  | newSession kind =>
    cases h
    refine .keep rfl rfl fun n => ?_
    simp only [PacketState.refs, PacketState.holders, PacketState.queued, PacketState.flushing,
      tally_append, tally_cons, tally_nil, List.count_nil, Nat.add_zero]
  | setFlags session connected isOpen network =>
    simp only [PacketState.step] at h
    split at h
    · cases h
    · next x hx => cases h; exact .keep rfl rfl (session_keeps hx rfl rfl)

/-! ## Runs -/

/-- Counts and references agree, and the next packet is a new one. -/
structure Accounted (s : PacketState) : Prop where
  balanced : Balanced s.ledger s.refs
  fresh : ∀ m ∈ s.ledger.made, m < s.next

theorem Accounted.of_ledger (h : Accounted s) {ledger : Ledger MsgId} (hledger : s'.ledger = ledger)
    (hmade : ledger.made = s.ledger.made) (hnext : s'.next = s.next)
    (hbalanced : Balanced ledger s'.refs) : Accounted s' := by
  refine ⟨hledger ▸ hbalanced, ?_⟩
  rw [hledger, hmade, hnext]
  exact h.fresh

/-- **Every step keeps the count of a packet exact.** -/
theorem accounted_step (h : Accounted s) (hs : RefStep s s') : Accounted s' := by
  cases hs with
  | keep hledger hnext hrefs => exact h.of_ledger hledger rfl hnext (h.balanced.congr hrefs)
  | free m hledger hnext hrefs => exact h.of_ledger hledger rfl hnext (h.balanced.free hrefs)
  | addRef m hledger hnext hpos hrefs =>
    exact h.of_ledger hledger rfl hnext (h.balanced.addRef hpos hrefs)
  | make hledger hnext hrefs =>
    have hnew : s.next ∉ s.ledger.made := fun hmem => Nat.lt_irrefl _ (h.fresh _ hmem)
    refine ⟨?_, fun m hmem => ?_⟩
    · rw [hledger]
      exact h.balanced.make hnew hrefs
    · rw [hledger] at hmem
      rw [hnext]
      rcases List.mem_cons.mp hmem with rfl | hmem
      · exact Nat.lt_succ_self _
      · exact Nat.lt_succ_of_lt (h.fresh m hmem)

theorem accounted_init : Accounted .init :=
  ⟨balanced_empty fun _ => rfl, fun _ hmem => absurd hmem List.not_mem_nil⟩

/-- **Released exactly once**, in every state of every run: the count of a packet is the number of
`PacketPtr`s to it, of its entries in send queues and of its copies in the hands of a `Flush`; a
packet that was made has been given back once if that number is zero, and not if it is not. -/
theorem released_once (as : List PacketAction) {s : PacketState}
    (h : run PacketState.step .init as = some s) (m : MsgId) :
    s.ledger.count m = s.holders m + s.queued m + s.flushing m ∧
      s.ledger.released.count m =
        if m ∈ s.ledger.made ∧ s.holders m + s.queued m + s.flushing m = 0 then 1 else 0 := by
  have hacc : Accounted s :=
    run_inv Accounted (fun _ _ _ hinv hs => accounted_step hinv (refStep hs)) accounted_init h
  refine ⟨by exact_mod_cast hacc.balanced.count m, ?_⟩
  by_cases hmade : m ∈ s.ledger.made
  · rw [hacc.balanced.once m hmade]
    simp only [hmade, true_and]
    rfl
  · rw [(hacc.balanced.fresh m hmade).2, if_neg fun hand => hmade hand.1]

/-- A broadcast to a gateway and a backend session; both flush, and the backend's write
completes. -/
theorem released_once_broadcast :
    ∃ s, run PacketState.step .init
        [.newSession .gateway, .newSession .backend, .build, .sendPreSerialized 0 0,
          .sendPreSerialized 0 1, .resetPtr 0,
          .step 0, .step 0, .step 0, .take 0 0, .step 0, .step 0, .step 0,
          .step 1, .step 1, .step 1, .take 1 0, .step 1, .step 1, .step 1, .step 1,
          .complete 1 true, .step 2] = some s ∧
      s.ledger.released = [0] ∧ s.ledger.count 0 = s.holders 0 + s.queued 0 + s.flushing 0 := by
  exact exists_run_and ⟨_, rfl, by decide⟩ fun s hs => (released_once _ hs 0).1

end ToyServer
