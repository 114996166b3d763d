import ToyServer.Session.SendQueue

/-!
# One write at a time

`GatewaySession::Flush` copies its batch into `_linearBuffer`, `BackendSession::Flush` puts it into
`_gatherBuffers` and `_sendingPackets`; `async_write` gets a reference to the buffer, so it must
stay as it is until the write completes.  The backend's completion handler clears it before it goes
on to `Flush` or `Close`.

Here the send machine gets the buffer: `clear` and `copy` are the steps that touch it, `write` hands
it to the socket.  The other steps are those of the send machine, and every run of this machine is
one of that machine with the steps at the buffer left out (`writer_refines`).

* `single_writer`: one write at most is outstanding, its bytes stay as they were, and only the one
  owner of `_isSending` touches the buffer, while no write is outstanding.
-/

namespace ToyServer

open Runs

/-! ## The buffer -/

/-- What a thread has to do with the buffer next. -/
inductive BufferPc where
  | away
  /-- `Flush`: these packets of the batch are not in the buffer yet -/
  | filling (rest : List Sent)
  /-- completion handler of the backend: clear, then `Flush`, or `Close` after an error -/
  | clearing (ok : Bool)
deriving DecidableEq, Repr

/-- A batch has been taken out of the queue. -/
def SendPc.hasBatch : SendPc → Bool
  | .batch _ => true
  | _ => false

structure WriterState where
  send : SendState
  /-- the packets in `_linearBuffer`, or in `_gatherBuffers` and `_sendingPackets` -/
  buffer : List Sent
  place : ThreadId → BufferPc
  /-- outstanding writes, with what the buffer held when each was started -/
  inFlight : List (List Sent)

inductive WriterAction where
  /-- a step that has nothing to do with the buffer -/
  | other (a : SendAction)
  | clear (t : ThreadId)
  /-- the next packet of the batch goes into the buffer -/
  | copy (t : ThreadId)
  | write (t : ThreadId)
  /-- the completion handler starts on this thread -/
  | complete (t : ThreadId)
  /-- the same after an error -/
  | fail (t : ThreadId)
deriving DecidableEq, Repr

namespace WriterState

def init : WriterState := ⟨.init, [], fun _ => .away, []⟩

def goto (w : WriterState) (t : ThreadId) (place : BufferPc) : WriterState :=
  { w with place := Function.update w.place t place }

/-- Steps of the send machine by a thread that is not at the buffer; `async_write` and the end of a
write are not among them. -/
def free (w : WriterState) : SendAction → Bool
  | .send t | .take t _ => w.place t = .away
  | .step t => w.place t = .away && !(w.send.pc t).hasBatch
  | .complete _ | .fail => false
  | .close | .setNetwork => true

/-- `OnWriteComplete`: `Flush`, or `Close` after an error. -/
def onWriteComplete (t : ThreadId) (ok : Bool) : SendAction := if ok then .complete t else .fail

/-- The completion handler starts; the backend's is at the buffer first. -/
def handler (kind : SessionKind) (w : WriterState) (t : ThreadId) (ok : Bool) :
    Option WriterState :=
  match w.inFlight with
  | [] => none
  | _ :: inFlight =>
    if w.send.pc t = .idle ∧ w.place t = .away then
      match kind with
      | .gateway =>
        (w.send.step kind (onWriteComplete t ok)).map fun send =>
          { w with send := send, inFlight := inFlight }
      | .backend => some ({ w with inFlight := inFlight }.goto t (.clearing ok))
      | .udp => none
    else none

def step (kind : SessionKind) (w : WriterState) : WriterAction → Option WriterState
  | .other a =>
    if w.free a then (w.send.step kind a).map fun send => { w with send := send } else none
  | .clear t =>
    match w.place t with
    | .away =>
      match w.send.pc t with
      | .batch tempItems => some ({ w with buffer := [] }.goto t (.filling tempItems))
      | _ => none
    | .filling _ => none
    | .clearing ok =>
      (w.send.step kind (onWriteComplete t ok)).map fun send =>
        { w with send := send, buffer := [] }.goto t .away
  | .copy t =>
    match w.place t with
    | .filling (msg :: rest) => some ({ w with buffer := w.buffer ++ [msg] }.goto t (.filling rest))
    | _ => none
  | .write t =>
    if w.place t = .filling [] then
      (w.send.step kind (.step t)).map fun send =>
        { w with send := send, inFlight := w.inFlight ++ [w.buffer] }.goto t .away
    else none
  | .complete t => w.handler kind t true
  | .fail t => w.handler kind t false

end WriterState

/-! ## What a step does -/

inductive WriterStepped (kind : SessionKind) (w : WriterState) :
    WriterAction → WriterState → Prop where
  | other (a : SendAction) (hfree : w.free a = true) (send : SendState)
      (h : w.send.step kind a = some send) : WriterStepped kind w (.other a) { w with send := send }
  | clear (t : ThreadId) (tempItems : List Sent) (hplace : w.place t = .away)
      (hpc : w.send.pc t = .batch tempItems) :
      WriterStepped kind w (.clear t) ({ w with buffer := [] }.goto t (.filling tempItems))
  | copy (t : ThreadId) (msg : Sent) (rest : List Sent)
      (hplace : w.place t = .filling (msg :: rest)) :
      WriterStepped kind w (.copy t) ({ w with buffer := w.buffer ++ [msg] }.goto t (.filling rest))
  | write (t : ThreadId) (hplace : w.place t = .filling []) (send : SendState)
      (h : w.send.step kind (.step t) = some send) :
      WriterStepped kind w (.write t)
        ({ w with send := send, inFlight := w.inFlight ++ [w.buffer] }.goto t .away)
  /-- the handler of the gateway, whole -/
  | handled (a : WriterAction) (t : ThreadId) (ok : Bool) (ha : a = .complete t ∨ a = .fail t)
      (b : List Sent) (inFlight : List (List Sent)) (hflight : w.inFlight = b :: inFlight)
      (hplace : w.place t = .away) (send : SendState)
      (h : w.send.step kind (WriterState.onWriteComplete t ok) = some send) :
      WriterStepped kind w a { w with send := send, inFlight := inFlight }
  /-- the handler of the backend: it comes to the buffer -/
  | handler (a : WriterAction) (t : ThreadId) (ok : Bool) (ha : a = .complete t ∨ a = .fail t)
      (b : List Sent) (inFlight : List (List Sent)) (hflight : w.inFlight = b :: inFlight)
      (hpc : w.send.pc t = .idle) (hplace : w.place t = .away) :
      WriterStepped kind w a ({ w with inFlight := inFlight }.goto t (.clearing ok))
  /-- it clears and goes on -/
  | cleared (t : ThreadId) (ok : Bool) (hplace : w.place t = .clearing ok) (send : SendState)
      (h : w.send.step kind (WriterState.onWriteComplete t ok) = some send) :
      WriterStepped kind w (.clear t) ({ w with send := send, buffer := [] }.goto t .away)

variable {kind : SessionKind} {w w' : WriterState} {a : WriterAction} {t : ThreadId}

theorem handler_stepped {ok : Bool} (ha : a = .complete t ∨ a = .fail t)
    (h : w.handler kind t ok = some w') : WriterStepped kind w a w' := by
  unfold WriterState.handler at h
  split at h
  · cases h
  · next b inFlight hflight =>
    rw [Option.ite_none_right_eq_some] at h
    obtain ⟨⟨hpc, hplace⟩, h⟩ := h
    cases kind with
    | gateway =>
      obtain ⟨send, hsend, rfl⟩ := Option.map_eq_some_iff.mp h
      exact .handled a t ok ha b inFlight hflight hplace send hsend
    | backend =>
      cases h
      exact .handler a t ok ha b inFlight hflight hpc hplace
    | udp => cases h

theorem writerStepped (h : w.step kind a = some w') : WriterStepped kind w a w' := by
  cases a with
  | other a =>
    rw [WriterState.step, Option.ite_none_right_eq_some] at h
    obtain ⟨hfree, h⟩ := h
    obtain ⟨send, hsend, rfl⟩ := Option.map_eq_some_iff.mp h
    exact .other a hfree send hsend
  | clear t =>
    simp only [WriterState.step] at h
    split at h
    · next hplace =>
      split at h
      · next tempItems hpc =>
        cases h
        exact .clear t tempItems hplace hpc
      · cases h
    · cases h
    · next ok hplace =>
      obtain ⟨send, hsend, rfl⟩ := Option.map_eq_some_iff.mp h
      exact .cleared t ok hplace send hsend
  | copy t =>
    simp only [WriterState.step] at h
    split at h
    · next msg rest hplace =>
      cases h
      exact .copy t msg rest hplace
    · cases h
  | write t =>
    rw [WriterState.step, Option.ite_none_right_eq_some] at h
    obtain ⟨hplace, h⟩ := h
    obtain ⟨send, hsend, rfl⟩ := Option.map_eq_some_iff.mp h
    exact .write t hplace send hsend
  | complete t => exact handler_stepped (.inl rfl) h
  | fail t => exact handler_stepped (.inr rfl) h

/-! ## The send machine underneath -/

/-- A step is a step of the send machine, or leaves it where it is. -/
theorem writer_step_refines (h : w.step kind a = some w') :
    w'.send = w.send ∨ ∃ b, w.send.step kind b = some w'.send := by
  cases writerStepped h with
  | other a hfree send hsend => exact .inr ⟨a, hsend⟩
  | write t hplace send hsend => exact .inr ⟨.step t, hsend⟩
  | handled a t ok ha b inFlight hflight hplace send hsend => exact .inr ⟨_, hsend⟩
  | cleared t ok hplace send hsend => exact .inr ⟨_, hsend⟩
  | _ => exact .inl rfl

/-- Every run is a run of the send machine once the steps at the buffer are left out. -/
theorem writer_refines {as : List WriterAction}
    (h : run (WriterState.step kind) .init as = some w) :
    ∃ bs, run (SendState.step kind) .init bs = some w.send := by
  refine run_inv (fun w => ∃ bs, run (SendState.step kind) .init bs = some w.send) ?_ ⟨[], rfl⟩ h
  rintro w a w' ⟨bs, hbs⟩ hs
  rcases writer_step_refines hs with heq | ⟨b, hb⟩
  · exact ⟨bs, heq ▸ hbs⟩
  · exact ⟨bs ++ [b], run_append_eq_some.mpr ⟨w.send, hbs, run_cons_eq_some.mpr ⟨_, hb, rfl⟩⟩⟩

/-- A free step starts and ends no write and moves nobody who is at the buffer. -/
theorem free_keeps {a : SendAction} {send : SendState} (hfree : w.free a = true)
    (h : w.send.step kind a = some send) :
    send.writing = w.send.writing ∧ ∀ t, w.place t ≠ .away → send.pc t = w.send.pc t := by
  have hother : ∀ {t : ThreadId}, w.place t = .away → ∀ (s₁ : SendState) (c : SendPc),
      s₁.pc = w.send.pc → ∀ t', w.place t' ≠ .away → (s₁.goto t c).pc t' = w.send.pc t' := by
    intro t ht s₁ c hs₁ t' ht'
    have hne : t' ≠ t := fun heq => ht' (heq ▸ ht)
    rw [goto_pc_of_ne _ _ hne, hs₁]
  cases sendStepped h with
  | send t hpc => exact ⟨rfl, hother (of_decide_eq_true hfree) _ _ rfl⟩
  | take t p msg sendQueue pc hdeq ht => exact ⟨rfl, hother (of_decide_eq_true hfree) _ _ rfl⟩
  | write t tempItems hpc => simp [WriterState.free, hpc, SendPc.hasBatch] at hfree
  | complete t hpc hwriting => cases hfree
  | fail hwriting => cases hfree
  | close => exact ⟨rfl, fun _ _ => rfl⟩
  | setNetwork => exact ⟨rfl, fun _ _ => rfl⟩
  | move t _ _ | acquire t _ _ _ | release t _ _ | put t _ _ _ | asyncSend t _ _ =>
    simp only [WriterState.free, Bool.and_eq_true, decide_eq_true_eq] at hfree
    exact ⟨rfl, hother hfree.1 _ _ rfl⟩

theorem onWriteComplete_writing {ok : Bool} {s send : SendState}
    (h : s.step kind (WriterState.onWriteComplete t ok) = some send) :
    send.writing = s.writing - 1 ∧ ∀ t', t' ≠ t → send.pc t' = s.pc t' := by
  cases ok with
  | true =>
    cases sendStepped h with
    | complete t hpc hwriting => exact ⟨rfl, fun t' ht' => goto_pc_of_ne _ _ ht'⟩
  | false =>
    cases sendStepped h with
    | fail hwriting => exact ⟨rfl, fun _ _ => rfl⟩

/-! ## The invariant -/

/-- The thread owns `_isSending`: it has set the flag, or has got it from the write that completed,
and has not given it back or to a write. -/
def WriterState.Owns (w : WriterState) (t : ThreadId) : Prop :=
  (w.send.pc t).holds = true ∨ ∃ ok, w.place t = .clearing ok

structure WriterInv (w : WriterState) : Prop where
  exclusive : Exclusive w.send
  filling : ∀ t rest, w.place t = .filling rest → ∃ tempItems, w.send.pc t = .batch tempItems
  clearing : ∀ t ok, w.place t = .clearing ok → w.inFlight = [] ∧ 0 < w.send.writing
  clearing_one : ∀ t t' ok ok', w.place t = .clearing ok → w.place t' = .clearing ok' → t = t'
  writes : w.inFlight.length ≤ w.send.writing
  intact : ∀ b ∈ w.inFlight, w.buffer = b

theorem place_goto_self (w : WriterState) (t : ThreadId) (c : BufferPc) :
    (w.goto t c).place t = c := by
  simp [WriterState.goto]

theorem place_goto_of_ne (w : WriterState) {t t' : ThreadId} (c : BufferPc) (h : t' ≠ t) :
    (w.goto t c).place t' = w.place t' := by
  simp [WriterState.goto, h]

theorem place_goto_ne_clearing {c : BufferPc} (hc : ∀ ok, c ≠ .clearing ok)
    (hnone : ∀ t' ok, t' ≠ t → w.place t' ≠ .clearing ok) (t' : ThreadId) (ok : Bool) :
    (w.goto t c).place t' ≠ .clearing ok := by
  by_cases htt : t' = t
  · rw [htt, place_goto_self]
    exact hc ok
  · rw [place_goto_of_ne _ _ htt]
    exact hnone t' ok htt

/-- While a thread holds the flag nothing is outstanding and no handler is at the buffer. -/
theorem WriterInv.alone (h : WriterInv w) (ht : (w.send.pc t).holds = true) :
    w.send.writing = 0 ∧ w.inFlight = [] ∧ ∀ t' ok, w.place t' ≠ .clearing ok := by
  have hzero := h.exclusive.no_write ht
  have hwrites := h.writes
  refine ⟨hzero, List.length_eq_zero_iff.mp (by omega), fun t' ok hplace => ?_⟩
  have hpos := (h.clearing t' ok hplace).2
  omega

/-- A write that is outstanding is the only one, and no handler is at the buffer. -/
theorem WriterInv.last_write (h : WriterInv w) {b : List Sent} {inFlight : List (List Sent)}
    (hflight : w.inFlight = b :: inFlight) :
    inFlight = [] ∧ 0 < w.send.writing ∧ ∀ t' ok, w.place t' ≠ .clearing ok := by
  have hone := h.exclusive.write_one
  have hlen := h.writes
  rw [hflight, List.length_cons] at hlen
  refine ⟨List.length_eq_zero_iff.mp (by omega), by omega, fun t' ok hc => ?_⟩
  rw [(h.clearing t' ok hc).1] at hflight
  cases hflight

theorem WriterInv.filling_holds (h : WriterInv w) {rest : List Sent}
    (ht : w.place t = .filling rest) : (w.send.pc t).holds = true := by
  obtain ⟨tempItems, hpc⟩ := h.filling t rest ht
  rw [hpc]
  rfl

/-- The owner goes to `c` at the buffer, with the send machine left where it is. -/
theorem WriterInv.fill (h : WriterInv w) {tempItems : List Sent}
    (hpc : w.send.pc t = .batch tempItems) (buffer rest : List Sent) :
    WriterInv ({ w with buffer := buffer }.goto t (.filling rest)) := by
  have hold : (w.send.pc t).holds = true := by rw [hpc]; rfl
  obtain ⟨-, hflight, hnone⟩ := h.alone hold
  have hclear : ∀ t' ok,
      ({ w with buffer := buffer }.goto t (.filling rest)).place t' ≠ .clearing ok :=
    place_goto_ne_clearing (fun _ => BufferPc.noConfusion) fun t' ok _ => hnone t' ok
  refine ⟨h.exclusive, fun t' rest' hplace => ?_, fun t' ok hplace => absurd hplace (hclear t' ok),
    fun t' _ ok _ hplace => absurd hplace (hclear t' ok), h.writes, fun b hb => ?_⟩
  · by_cases htt : t' = t
    · exact ⟨tempItems, htt ▸ hpc⟩
    · rw [place_goto_of_ne _ _ htt] at hplace
      exact h.filling t' rest' hplace
  · have hb' : b ∈ w.inFlight := hb
    rw [hflight] at hb'
    cases hb'

theorem WriterInv.left (h : WriterInv w) {send : SendState} (hex : Exclusive send)
    (hpc : ∀ t', t' ≠ t → send.pc t' = w.send.pc t') {buffer : List Sent}
    {inFlight : List (List Sent)} (hnone : ∀ t' ok, t' ≠ t → w.place t' ≠ .clearing ok)
    (hwrites : inFlight.length ≤ send.writing) (hintact : ∀ b ∈ inFlight, buffer = b) :
    WriterInv (WriterState.goto ⟨send, buffer, w.place, inFlight⟩ t .away) := by
  have hclear : ∀ t' ok,
      (WriterState.goto ⟨send, buffer, w.place, inFlight⟩ t .away).place t' ≠ .clearing ok :=
    place_goto_ne_clearing (fun _ => BufferPc.noConfusion) hnone
  refine ⟨hex, fun t' rest' hplace => ?_, fun t' ok hplace => absurd hplace (hclear t' ok),
    fun t' _ ok _ hplace => absurd hplace (hclear t' ok), hwrites, hintact⟩
  by_cases htt : t' = t
  · rw [htt, place_goto_self] at hplace
    cases hplace
  · rw [place_goto_of_ne _ _ htt] at hplace
    obtain ⟨tempItems, hb⟩ := h.filling t' rest' hplace
    exact ⟨tempItems, (hpc t' htt).trans hb⟩

/-- **Every step keeps the buffer to its owner.** -/
theorem writerInv_step (h : WriterInv w) (hs : w.step kind a = some w') : WriterInv w' := by
  have hex : Exclusive w'.send := by
    rcases writer_step_refines hs with heq | ⟨b, hb⟩
    · rw [heq]
      exact h.exclusive
    · exact exclusive_step h.exclusive hb
  cases writerStepped hs with
  | other a hfree send hsend =>
    obtain ⟨hwriting, hpc⟩ := free_keeps hfree hsend
    refine ⟨hex, fun t rest hplace => ?_, fun t ok hplace => ?_, h.clearing_one, ?_, h.intact⟩
    · obtain ⟨tempItems, hb⟩ := h.filling t rest hplace
      have hne : w.place t ≠ .away :=
        fun haway => by rw [show w.place t = _ from hplace] at haway; cases haway
      exact ⟨tempItems, (hpc t hne).trans hb⟩
    · obtain ⟨hflight, hpos⟩ := h.clearing t ok hplace
      exact ⟨hflight, hwriting ▸ hpos⟩
    · exact hwriting ▸ h.writes
  | clear t tempItems hplace hpc => exact h.fill hpc [] tempItems
  | copy t msg rest hplace =>
    obtain ⟨tempItems, hpc⟩ := h.filling t _ hplace
    exact h.fill hpc (w.buffer ++ [msg]) rest
  | write t hplace send hsend =>
    obtain ⟨tempItems, hpc⟩ := h.filling t _ hplace
    obtain ⟨hzero, hflight, hnone⟩ := h.alone (h.filling_holds hplace)
    simp only [SendState.step, SendState.stepThread, hpc] at hsend
    cases hsend
    refine h.left hex ?_ (fun t' ok _ => hnone t' ok) ?_ ?_
    · exact fun t' ht' => goto_pc_of_ne _ _ ht'
    · rw [hflight]
      show 1 ≤ w.send.writing + 1
      omega
    · intro b hb
      rw [hflight, List.nil_append, List.mem_singleton] at hb
      exact hb.symm
  | handled a t ok ha b inFlight hflight hplace send hsend =>
    obtain ⟨hwriting, hpc⟩ := onWriteComplete_writing hsend
    obtain ⟨hnil, -, hnone⟩ := h.last_write hflight
    have hsame : WriterState.goto ⟨send, w.buffer, w.place, inFlight⟩ t .away =
        { w with send := send, inFlight := inFlight } := by
      simp [WriterState.goto, ← hplace]
    rw [← hsame]
    refine h.left hex hpc (fun t' ok _ => hnone t' ok) ?_ ?_
    · rw [hnil]
      exact Nat.zero_le _
    · intro b hb
      rw [hnil] at hb
      cases hb
  | handler a t ok ha b inFlight hflight hpc hplace =>
    obtain ⟨hnil, hpos, hnone⟩ := h.last_write hflight
    have hwho : ∀ t' ok', ({ w with inFlight := inFlight }.goto t (.clearing ok)).place t' =
        .clearing ok' → t' = t := by
      intro t' ok' hc
      by_contra hne
      rw [place_goto_of_ne _ _ hne] at hc
      exact hnone t' ok' hc
    refine ⟨hex, fun t' rest hc => ?_, fun t' ok' hc => ⟨hnil, hpos⟩,
      fun t₁ t₂ ok₁ ok₂ h₁ h₂ => ?_, ?_, ?_⟩
    · by_cases htt : t' = t
      · rw [htt, place_goto_self] at hc
        cases hc
      · rw [place_goto_of_ne _ _ htt] at hc
        exact h.filling t' rest hc
    · exact (hwho t₁ ok₁ h₁).trans (hwho t₂ ok₂ h₂).symm
    · show inFlight.length ≤ _
      rw [hnil]
      exact Nat.zero_le _
    · intro b hb
      have hb' : b ∈ inFlight := hb
      rw [hnil] at hb'
      cases hb'
  | cleared t ok hplace send hsend =>
    obtain ⟨hwriting, hpc⟩ := onWriteComplete_writing hsend
    obtain ⟨hflight, hpos⟩ := h.clearing t ok hplace
    refine h.left hex hpc (fun t' ok' hne hc => hne (h.clearing_one t' t ok' ok hc hplace)) ?_ ?_
    · rw [hflight]
      exact Nat.zero_le _
    · intro b hb
      rw [hflight] at hb
      cases hb

theorem writerInv_init : WriterInv .init where
  exclusive := exclusive_init
  filling _ _ h := by cases h
  clearing _ _ h := by cases h
  clearing_one _ _ _ _ h := by cases h
  writes := Nat.le_refl 0
  intact _ h := by cases h

theorem writerInv_run {as : List WriterAction} (h : run (WriterState.step kind) .init as = some w) :
    WriterInv w :=
  run_inv WriterInv (fun _ _ _ => writerInv_step) writerInv_init h

/-! ## Single writer -/

theorem WriterInv.owner (h : WriterInv w) (ht : w.Owns t) :
    w.inFlight = [] ∧ w.send.isSending = true ∧ ∀ t', w.Owns t' → t' = t := by
  rcases ht with hold | ⟨ok, hplace⟩
  · obtain ⟨-, hflight, hnone⟩ := h.alone hold
    refine ⟨hflight, h.exclusive.flag_thread t hold, fun t' ht' => ?_⟩
    rcases ht' with hold' | ⟨ok', hplace'⟩
    · exact h.exclusive.unique t' t hold' hold
    · exact absurd hplace' (hnone t' ok')
  · obtain ⟨hflight, hpos⟩ := h.clearing t ok hplace
    refine ⟨hflight, h.exclusive.flag_write hpos, fun t' ht' => ?_⟩
    rcases ht' with hold' | ⟨ok', hplace'⟩
    · have hnot := h.exclusive.write_alone hpos t'
      rw [hold'] at hnot
      cases hnot
    · exact h.clearing_one t' t ok' ok hplace' hplace

/-- One write at most is outstanding and its buffer is as it was when the write started.  A step
that touches the buffer is taken while no write is outstanding, by the one thread that owns
`_isSending`. -/
structure SingleWriter (kind : SessionKind) (w : WriterState) : Prop where
  one : w.inFlight.length ≤ 1
  intact : ∀ b ∈ w.inFlight, w.buffer = b
  touched : ∀ t w', w.step kind (.clear t) = some w' ∨ w.step kind (.copy t) = some w' →
    w.inFlight = [] ∧ w.send.isSending = true ∧ w.Owns t ∧ ∀ t', w.Owns t' → t' = t
  untouched : ∀ a w', w.step kind a = some w' → w'.buffer ≠ w.buffer →
    ∃ t, a = .clear t ∨ a = .copy t

theorem WriterInv.touched (h : WriterInv w)
    (hs : w.step kind (.clear t) = some w' ∨ w.step kind (.copy t) = some w') : w.Owns t := by
  rcases hs with hs | hs
  · cases writerStepped hs with
    | clear t tempItems hplace hpc => exact .inl (by rw [hpc]; rfl)
    | cleared t ok hplace send hsend => exact .inr ⟨ok, hplace⟩
    | handled _ _ _ ha | handler _ _ _ ha => simp at ha
  · cases writerStepped hs with
    | copy t msg rest hplace => exact .inl (h.filling_holds hplace)
    | handled _ _ _ ha | handler _ _ _ ha => simp at ha

theorem buffer_untouched (hs : w.step kind a = some w') (hb : w'.buffer ≠ w.buffer) :
    ∃ t, a = .clear t ∨ a = .copy t := by
  cases writerStepped hs with
  | clear t | cleared t => exact ⟨t, Or.inl rfl⟩
  | copy t => exact ⟨t, Or.inr rfl⟩
  | other | write | handled | handler => exact absurd rfl hb

/-- **Single writer**, in every state of every run of a session's threads and completions. -/
theorem single_writer (kind : SessionKind) (as : List WriterAction) {w : WriterState}
    (h : run (WriterState.step kind) .init as = some w) : SingleWriter kind w := by
  have hinv := writerInv_run h
  refine ⟨hinv.writes.trans hinv.exclusive.write_one, hinv.intact, fun t w' hs => ?_,
    fun a w' hs hb => buffer_untouched hs hb⟩
  have hown := hinv.touched hs
  obtain ⟨hflight, hflag, hone⟩ := hinv.owner hown
  exact ⟨hflight, hflag, hown, hone⟩

/-- A backend session: thread 0 writes a packet, thread 1 sends another and leaves it to thread 2,
which completes the write and clears the gather list. -/
theorem single_writer_backend :
    ∃ w, run (WriterState.step .backend) .init
        [.other (.send 0), .other (.step 0), .other (.step 0), .other (.take 0 0), .clear 0,
          .copy 0, .write 0,
          .other (.send 1), .other (.step 1), .complete 2, .clear 2, .other (.step 2),
          .other (.take 2 1), .clear 2, .copy 2, .write 2] = some w ∧
      w.inFlight = [[⟨1, 0⟩]] ∧ w.send.wire = [⟨0, 0⟩, ⟨1, 0⟩] ∧ SingleWriter .backend w := by
  refine exists_run_and ⟨_, rfl, rfl⟩ fun w hw => ⟨?_, single_writer .backend _ hw⟩
  cases hw
  rfl

end ToyServer
