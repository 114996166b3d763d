import ToyServer.Dispatcher.LifeToken

/-!
# `_ioRef`

`_ioRef` counts the messages that name a session, in the queue or in the batch of the dispatcher,
its outstanding operations up to the end of their handlers, and the threads between an `IncRef` and
the post or the start it is for.  That `Destroy` finds none of these needs one thing the code does
not see to: `OnConnect` runs without a reference of its own, so the accepting thread has to be out
of it by the time `CanDestroy` is asked (`OnConnectReturned`).  Otherwise the session can be given
back while the thread is about to start the first read (`destroyed_with_read`).
-/

namespace ToyServer

open Runs ProducerQueue RefCount

/-! ## References -/

def SessionMessage.naming (x : SessionPtr) (m : SessionMessage) : Nat :=
  if m.session = some x then 1 else 0

namespace Server

section
variable (s : Server) (x : SessionPtr)

/-- Messages that name the session and are not released. -/
def messages : Nat :=
  tally (fun p => p.2.naming x) s.queue + tally (SessionMessage.naming x) s.dispatcher.held

/-- Outstanding operations, those whose handler is running among them. -/
def operations : Nat :=
  tally (fun op => single x op.1) s.ops + tally (onSession x SessionCall.owns) s.calls

/-- Threads between `IncRef` and the post or the start. -/
def handing : Nat := tally (onSession x SessionCall.handing) s.calls

/-- The dispatcher is about to call `SessionFactory::Destroy` on the session. -/
def Destroying : Prop := ∃ i, s.dispatcher = .destroy i ∧ s.pendingDestroy[i]? = some x

end

/-- Nothing refers to the session and no thread is in a method of it. -/
structure Quiet (s : Server) (x : SessionPtr) : Prop where
  messages : s.messages x = 0
  operations : s.operations x = 0
  calls : ∀ c ∈ s.calls, c.session ≠ x

/-- The counts are right, sessions that are given back or about to be are quiet, and the application
has contexts of live sessions only. -/
structure Counted (s : Server) : Prop where
  count : ∀ x, (s.objects x).ioRef = s.messages x + s.operations x + s.handing x
  quiet : ∀ x, ¬ s.Live x ∨ s.Destroying x → s.Quiet x
  contexts : ∀ x ∈ s.dispatcher.contexts, s.Live x
  app : ∀ c ∈ s.calls, c.origin = .app → c.thread = dispatcherThread

/-- When `CanDestroy` is true, the accepting thread has left `OnConnect` of the session. -/
def OnConnectReturned (s : Server) : ServerAction → Prop
  | .next =>
      ∀ i x, s.dispatcher = .pending i → s.pendingDestroy[i]? = some x →
      (s.objects x).canDestroy = true → ∀ c ∈ s.calls, c.session = x → c.origin ≠ .accept
  | _ => True

end Server

/-! ## One step -/

section Counted

variable {role : ServerRole} {heartbeat : Bool} {s s' : Server} {a : ServerAction}

variable {x : SessionPtr}

theorem live_of_message (h : s.Counted) {m : SessionMessage} (hm : m ∈ s.dispatcher.held)
    (hx : m.session = some x) : s.Live x := by
  by_contra hnot
  have hzero := (h.quiet x (.inl hnot)).messages
  have hpos := one_le_tally (SessionMessage.naming x) hm (if_pos hx)
  simp only [Server.messages] at hzero
  omega

theorem live_of_connected (h : s.OneLife) (hc : (s.objects x).connected = true) : s.Live x := by
  have hone := h x
  simp only [Server.life, hc, Bool.toNat_true] at hone
  refine ⟨?_, fun hpool => ?_⟩
  · by_contra hlt
    rw [if_neg hlt] at hone
    omega
  · have hin := single_pos_of_mem hpool
    split at hone <;> omega

theorem Server.Quiet.of_ne (h : s.Quiet x) (hmessages : s'.messages x = s.messages x)
    (hoperations : s'.operations x = s.operations x)
    (hcalls : ∀ c ∈ s'.calls, c ∈ s.calls ∨ c.session ≠ x) : s'.Quiet x :=
  ⟨hmessages.trans h.messages, hoperations.trans h.operations,
    fun c hc => (hcalls c hc).elim (h.calls c) id⟩

theorem counted_goto (h : s.Counted) (hcount : ∀ x, s'.objects x = s.objects x)
    (hheld : s'.dispatcher.held = s.dispatcher.held) (hqueue : s'.queue = s.queue)
    (hops : s'.ops = s.ops) (hcalls : s'.calls = s.calls) (hpool : s'.pool = s.pool)
    (hallocated : s'.allocated = s.allocated) (hcontexts : ∀ x ∈ s'.dispatcher.contexts, s.Live x)
    (hdestroying : ∀ x, s'.Destroying x → s.Quiet x) : s'.Counted := by
  have hmessages : ∀ x, s'.messages x = s.messages x :=
    fun x => by simp only [Server.messages, hheld, hqueue]
  have hoperations : ∀ x, s'.operations x = s.operations x :=
    fun x => by simp only [Server.operations, hops, hcalls]
  have hhanding : ∀ x, s'.handing x = s.handing x := fun x => by simp only [Server.handing, hcalls]
  have hlive : ∀ x, s'.Live x ↔ s.Live x := fun x => by simp only [Server.Live, hpool, hallocated]
  refine ⟨fun x => ?_, fun x hx => ?_, fun x hx => (hlive x).mpr (hcontexts x hx), hcalls ▸ h.app⟩
  · rw [hcount, hmessages, hoperations, hhanding]
    exact h.count x
  · have hquiet : s.Quiet x := by
      rcases hx with hx | hx
      · exact h.quiet x (.inl fun hl => hx ((hlive x).mpr hl))
      · exact hdestroying x hx
    exact hquiet.of_ne (hmessages x) (hoperations x) fun c hc => .inl (hcalls ▸ hc)

theorem Server.Quiet.handing (h : s.Quiet x) : s.handing x = 0 := by
  refine tally_eq_zero _ fun c hc => ?_
  rw [onSession, if_neg (h.calls c hc)]

theorem begin_handing (t : ThreadId) (x : SessionPtr) (op : AsyncOp) (failed : Bool) :
    (⟨t, x, .handler op, op.begin failed⟩ : SessionCall).handing = 0 := by
  cases op <;> cases failed <;> rfl

theorem counted_accept {t : ThreadId} {k : Nat} {y : SessionPtr} (h : s.Counted) (hl : s.OneLife)
    (hpool : s.pool[k]? = some y) : (s.accept heartbeat t k y).Counted := by
  have hmem := List.mem_of_getElem? hpool
  have hy := h.quiet y (.inl fun hlive => hlive.2 hmem)
  have hhanding :
      (⟨t, y, .accept, if heartbeat then .heartbeatInc
        else .connect⟩ : SessionCall).handing = 0 := by
    cases heartbeat <;> rfl
  have hops : ∀ x, (s.accept heartbeat t k y).operations x = s.operations x := by
    intro x
    have howns :
      (⟨t, y, .accept, if heartbeat then .heartbeatInc else .connect⟩ : SessionCall).owns = 0 := rfl
    simp only [Server.operations, Server.accept, Server.setObject, Server.addCall,
      tally_new_call _ _ _ howns]
  have hhand : ∀ x, (s.accept heartbeat t k y).handing x = s.handing x := by
    intro x
    simp only [Server.handing, Server.accept, Server.setObject, Server.addCall,
      tally_new_call _ _ _ hhanding]
  -- the object taken is live from here on, and was neither live nor about to be destroyed
  have hgone : ∀ x, ¬ (s.accept heartbeat t k y).Live x ∨ (s.accept heartbeat t k y).Destroying x →
      x ≠ y ∧ (¬ s.Live x ∨ s.Destroying x) := by
    rintro x (hx | ⟨i, hd, hp⟩)
    · refine ⟨?_, .inl fun hlive => hx ⟨hlive.1, fun hin => hlive.2 (List.mem_of_mem_eraseIdx hin)⟩⟩
      rintro rfl
      exact hx (live_accept hl hpool)
    · refine ⟨?_, .inr ⟨i, hd, hp⟩⟩
      rintro rfl
      exact (live_of_pending hl (List.mem_of_getElem? hp)).2 hmem
  refine ⟨fun x => ?_, fun x hx => ?_, fun x hx => ?_, fun c hc => ?_⟩
  · rw [hops, hhand]
    show (Function.update s.objects y _ x).ioRef = s.messages x + _ + _
    by_cases hxy : x = y
    · subst hxy
      rw [Function.update_self, hy.messages, hy.operations, hy.handing]
      rfl
    · rw [Function.update_of_ne hxy]
      exact h.count x
  · obtain ⟨hne, hold⟩ := hgone x hx
    refine (h.quiet x hold).of_ne rfl (hops x) fun c hc => ?_
    refine (List.mem_append.mp hc).imp_right fun hc => ?_
    rw [List.mem_singleton.mp hc]
    exact hne.symm
  · exact ⟨(h.contexts x hx).1, fun hin => (h.contexts x hx).2 (List.mem_of_mem_eraseIdx hin)⟩
  · rcases mem_concat.mp hc with hc | rfl
    · exact h.app c hc
    · rintro ⟨⟩

theorem counted_complete {t : ThreadId} {k : Nat} {failed : Bool} {op : SessionPtr × AsyncOp}
    (h : s.Counted) (hop : s.ops[k]? = some op) : (s.complete t k failed op).Counted := by
  have hops : ∀ x, (s.complete t k failed op).operations x = s.operations x := by
    intro x
    have herase := tally_eraseIdx (fun op : SessionPtr × AsyncOp => single x op.1) hop
    simp only [Server.operations, Server.complete, Server.addCall, tally_append, tally_cons,
      tally_nil, onSession, SessionCall.owns]
    simp only [single] at herase ⊢
    omega
  have hhand : ∀ x, (s.complete t k failed op).handing x = s.handing x := by
    intro x
    simp only [Server.handing, Server.complete, Server.addCall,
      tally_new_call _ _ _ (begin_handing _ _ _ _)]
  refine ⟨fun x => ?_, fun x hx => ?_, h.contexts, fun c hc => ?_⟩
  · rw [hops, hhand]
    exact h.count x
  · have hquiet := h.quiet x hx
    refine hquiet.of_ne rfl (hops x) fun c hc => (List.mem_append.mp hc).imp_right fun hc => ?_
    rw [List.mem_singleton.mp hc]
    rintro rfl
    have hpos :=
      one_le_tally (fun o : SessionPtr × AsyncOp => single op.1 o.1) (List.mem_of_getElem? hop)
        (single_self _)
    have hzero := hquiet.operations
    simp only [Server.operations] at hzero
    omega
  · rcases mem_concat.mp hc with hc | rfl
    · exact h.app c hc
    · rintro ⟨⟩

theorem naming_posted (x : SessionPtr) {c : SessionCall} {e : CallEffect} {o o' : SessionObject}
    {pc : Option CallPc} (hlaws : CallLaws c o o' e pc) :
    tally (fun p => p.2.naming x) (e.posted c.thread) + tally (fun op => single x op.1)
      (e.started c.session) = if c.session = x then e.refs else 0 := by
  cases e with
  | none => simp [CallEffect.posted, CallEffect.started, CallEffect.refs]
  | start op => simp [CallEffect.posted, CallEffect.started, CallEffect.refs, single]
  | post m =>
    simp [CallEffect.posted, CallEffect.started, CallEffect.refs, SessionMessage.naming,
      hlaws.names m rfl]

theorem counted_ran {i : Nat} {c : SessionCall} {o : SessionObject} {e : CallEffect}
    {pc : Option CallPc} {b : Branch} (h : s.Counted) (hc : s.calls[i]? = some c)
    (hstep : c.step (s.objects c.session) b = some (o, e, pc)) : (s.ran i c o e pc).Counted := by
  have hlaws := call_step_laws hstep
  have hmem := List.mem_of_getElem? hc
  have hrefs : ∀ x, (s.ran i c o e pc).messages x + (s.ran i c o e pc).operations x +
        (s.ran i c o e pc).handing x +
        onSession x SessionCall.owns c + onSession x SessionCall.handing c =
      s.messages x + s.operations x + s.handing x + c.after (onSession x SessionCall.owns) pc +
        c.after (onSession x SessionCall.handing) pc + if c.session = x then e.refs else 0 := by
    intro x
    have howns := tally_callsNext (onSession x SessionCall.owns) hc pc
    have hhand := tally_callsNext (onSession x SessionCall.handing) hc pc
    have hposted := naming_posted x hlaws
    simp only [Server.messages, Server.operations, Server.handing, Server.ran, tally_append]
    omega
  refine ⟨fun x => ?_, fun x hx => ?_, h.contexts, fun c' hc' => ?_⟩
  · have hx := hrefs x
    have hcount := h.count x
    show (Function.update s.objects c.session o x).ioRef = _
    by_cases heq : c.session = x
    · subst heq
      have hl := hlaws.refs
      simp only [after_onSession, onSession, if_true] at hx
      rw [Function.update_self]
      omega
    · simp only [after_onSession, onSession, heq, if_false, Nat.add_zero] at hx
      rw [Function.update_of_ne (Ne.symm heq), hcount]
      omega
  · have hquiet := h.quiet x hx
    have hne : c.session ≠ x := hquiet.calls c hmem
    have hr := hrefs x
    have hzero := hquiet.handing
    simp only [after_onSession, onSession, hne, if_false, Nat.add_zero, hquiet.messages,
      hquiet.operations, hzero] at hr
    refine ⟨by omega, by omega, fun c' hc' => ?_⟩
    rcases mem_callsNext hc' with hold | ⟨p, -, rfl⟩
    · exact hquiet.calls c' hold
    · exact hne
  · rcases mem_callsNext hc' with hold | ⟨p, -, rfl⟩
    · exact h.app c' hold
    · exact h.app c hmem

theorem counted_take {p : ThreadId} {msgs : List SessionMessage} {m : SessionMessage}
    {queue : List (ThreadId × SessionMessage)} (h : s.Counted) (hd : s.dispatcher = .fetch msgs)
    (hq : dequeue p s.queue = some (m, queue)) :
    ({ s with queue := queue }.goto (.fetch (msgs ++ [m]))).Counted := by
  have hmessages : ∀ x,
      ({ s with queue := queue }.goto (.fetch (msgs ++ [m]))).messages x = s.messages x := by
    intro x
    have hdeq := tally_dequeue (fun p : ThreadId × SessionMessage => p.2.naming x) hq
    simp only [Server.messages, Server.goto, hd, DispatcherPc.held, tally_append, tally_cons,
      tally_nil] at hdeq ⊢
    omega
  refine ⟨fun x => ?_, fun x hx => ?_, fun x hx => absurd hx List.not_mem_nil, h.app⟩
  · rw [hmessages]
    exact h.count x
  · have hgone : ¬ s.Live x ∨ s.Destroying x := by
      rcases hx with hx | ⟨i, hi, -⟩
      · exact .inl hx
      · cases hi
    exact (h.quiet x hgone).of_ne (hmessages x) rfl fun c hc => .inl hc

theorem counted_released {msg : SessionMessage} {msgs : List SessionMessage} (h : s.Counted)
    (hd : s.dispatcher = .release msg msgs) : (s.released msg msgs).Counted := by
  have hmessages : ∀ x, (s.released msg msgs).messages x + msg.naming x = s.messages x := by
    intro x
    simp only [Server.messages, Server.released, hd, DispatcherPc.held, tally_cons]
    omega
  refine ⟨fun x => ?_, fun x hx => ?_, fun x hx => absurd hx List.not_mem_nil, h.app⟩
  · have hx := hmessages x
    have hcount := h.count x
    have hrest : (s.released msg msgs).operations x = s.operations x ∧
      (s.released msg msgs).handing x = s.handing x := ⟨rfl, rfl⟩
    rw [hrest.1, hrest.2]
    by_cases hm : msg.session = some x
    · have hobj : (s.released msg msgs).objects x = (s.objects x).decRef := by
        simp only [Server.released, hm, Option.elim_some, Function.update_self]
      rw [SessionMessage.naming, if_pos hm] at hx
      rw [hobj]
      show (s.objects x).ioRef - 1 = _
      omega
    · have hobj : (s.released msg msgs).objects x = s.objects x := by
        cases hsession : msg.session with
        | none => simp only [Server.released, hsession, Option.elim_none]
        | some y =>
          rw [hsession, Option.some.injEq] at hm
          simp only [Server.released, hsession, Option.elim_some,
            Function.update_of_ne (Ne.symm hm)]
      rw [SessionMessage.naming, if_neg hm] at hx
      rw [hobj, hcount]
      omega
  · have hgone : ¬ s.Live x := by
      rcases hx with hx | ⟨i, hi, -⟩
      · exact hx
      · cases hi
    have hquiet := h.quiet x (.inl hgone)
    have hx' := hmessages x
    have hzero := hquiet.messages
    exact hquiet.of_ne (by omega) rfl fun c hc => .inl hc

/-- `CanDestroy` with the accepting thread out of `OnConnect`: nothing refers to the session any
more. -/
theorem quiet_of_canDestroy (h : s.Counted) (hcan : (s.objects x).canDestroy = true)
    (hfree : s.free dispatcherThread = true)
    (haccept : ∀ c ∈ s.calls, c.session = x → c.origin ≠ .accept) : s.Quiet x := by
  have hzero : (s.objects x).ioRef = 0 := by
    simp only [SessionObject.canDestroy, Bool.and_eq_true, beq_iff_eq] at hcan
    exact hcan.2
  have hcount := h.count x
  refine ⟨by omega, by omega, fun c hc hsession => ?_⟩
  cases horigin : c.origin with
  | accept => exact haccept c hc hsession horigin
  | handler op =>
    have hpos :=
      one_le_tally (onSession x SessionCall.owns) hc
        (by simp [onSession, hsession, SessionCall.owns, horigin])
    simp only [Server.operations] at hcount
    omega
  | app =>
    have hthread := List.all_eq_true.mp hfree c hc
    exact of_decide_eq_true hthread (h.app c hc horigin)

theorem counted_destroy {i : Nat} {y : SessionPtr} (h : s.Counted) (hl : s.OneLife)
    (hd : s.dispatcher = .destroy i) (hp : s.pendingDestroy[i]? = some y) :
    (s.destroy role i y).Counted := by
  have hy := h.quiet y (.inr ⟨i, hd, hp⟩)
  have hpos := single_pos_of_mem (List.mem_of_getElem? hp)
  have hconn := not_connected_of_pending hl (x := y) (by omega)
  have hzero : (s.objects y).ioRef = 0 := by
    rw [h.count y, hy.messages, hy.operations, hy.handing]
    rfl
  have hioRef : ((s.objects y).onRecycle role y).1.ioRef = 0 := by
    cases role <;> simp [SessionObject.onRecycle, hconn, hzero]
  have hmessages : ∀ x, (s.destroy role i y).messages x = s.messages x := by
    intro x
    simp only [Server.messages, (destroy_spec role hl hp).1, hd]
    rfl
  refine ⟨fun x => ?_, fun x hx => ?_, fun x hx => absurd hx List.not_mem_nil, h.app⟩
  · rw [hmessages]
    show (Function.update s.objects y _ x).ioRef = s.messages x + s.operations x + s.handing x
    rw [← h.count x]
    by_cases hxy : x = y
    · rw [hxy, Function.update_self, hioRef, hzero]
    · rw [Function.update_of_ne hxy]
  · have hquiet : s.Quiet x := by
      rcases hx with hx | ⟨j, hj, -⟩
      · by_cases hxy : x = y
        · exact hxy ▸ hy
        · refine h.quiet x (.inl fun hlive => hx ⟨hlive.1, fun hin => ?_⟩)
          rcases mem_concat.mp hin with hin | hin
          · exact hlive.2 hin
          · exact hxy hin
      · cases hj
    exact hquiet.of_ne (hmessages x) rfl fun c hc => .inl hc

theorem counted_call {pc : CallPc} (h : s.Counted) (hx : x ∈ s.dispatcher.contexts)
    (hpc : pc = .flush ∨ pc = .close) : (s.addCall ⟨dispatcherThread, x, .app, pc⟩).Counted := by
  have hhanding : (⟨dispatcherThread, x, .app, pc⟩ : SessionCall).handing = 0 := by
    rcases hpc with rfl | rfl <;> rfl
  have hops : ∀ z, (s.addCall ⟨dispatcherThread, x, .app, pc⟩).operations z = s.operations z := by
    intro z
    have howns : (⟨dispatcherThread, x, .app, pc⟩ : SessionCall).owns = 0 := rfl
    simp only [Server.operations, Server.addCall, tally_new_call _ _ _ howns]
  have hhand : ∀ z, (s.addCall ⟨dispatcherThread, x, .app, pc⟩).handing z = s.handing z := by
    intro z
    simp only [Server.handing, Server.addCall, tally_new_call _ _ _ hhanding]
  refine ⟨fun z => ?_, fun z hz => ?_, h.contexts, fun c hc => ?_⟩
  · rw [hops, hhand]
    exact h.count z
  · refine (h.quiet z hz).of_ne rfl (hops z) fun c hc => (List.mem_append.mp hc).imp_right fun hc =>
      ?_
    rw [List.mem_singleton.mp hc]
    rintro rfl
    rcases hz with hz | ⟨i, hd, -⟩
    · exact hz (h.contexts _ hx)
    · have hd' : s.dispatcher = .destroy i := hd
      rw [hd'] at hx
      cases hx
  · exact forall_mem_concat h.app (fun _ => rfl) c hc

theorem not_destroying {d : DispatcherPc} (hd : s'.dispatcher = d) (hne : ∀ i, d ≠ .destroy i)
    (x : SessionPtr) : s'.Destroying x → s.Quiet x := by
  rintro ⟨i, hi, -⟩
  exact absurd (hd.symm.trans hi) (hne i)

/-- **Every step keeps the counts.** -/
theorem counted_step (h : s.Counted) (hl : s.OneLife) (hok : s.OnConnectReturned a)
    (hs : ServerStepped role heartbeat s a s') : s'.Counted := by
  cases hs with
  | grow =>
    refine ⟨h.count, fun x hx => ?_, fun x hx => live_grow.mpr (h.contexts x hx), h.app⟩
    have hquiet := h.quiet x (hx.imp_left fun hnot hl => hnot (live_grow.mpr hl))
    exact ⟨hquiet.messages, hquiet.operations, hquiet.calls⟩
  | accept ht hpool => exact counted_accept h hl hpool
  | complete ht hop => exact counted_complete h hop
  | run hc hstep => exact counted_ran h hc hstep
  | push t =>
    have hmessages : ∀ x,
        Server.messages { s with queue := s.queue ++ [(t, .job)] } x = s.messages x := by
      intro x
      simp [Server.messages, SessionMessage.naming, SessionMessage.session]
    refine ⟨fun x => ?_, fun x hx => (h.quiet x hx).of_ne (hmessages x) rfl fun c hc => .inl hc,
      h.contexts, h.app⟩
    rw [hmessages]
    exact h.count x
  | take hd hq => exact counted_take h hd hq
  | move hmove =>
    refine counted_goto h (fun _ => rfl) hmove.held rfl rfl rfl rfl rfl (fun x hx => ?_)
      (not_destroying rfl hmove.alive)
    obtain ⟨m, hm, hsession⟩ := hmove.contexts x hx
    exact live_of_message h hm hsession
  | connect hd =>
    exact counted_goto h (fun _ => rfl) (by rw [hd]; rfl) rfl rfl rfl rfl rfl
      (fun x hx => absurd hx List.not_mem_nil) (not_destroying rfl fun _ hi => by cases hi)
  | @disconnecting id x msgs hd =>
    refine counted_goto h (fun _ => rfl) (by rw [hd]; rfl) rfl rfl rfl rfl rfl (fun y hy => ?_)
      (not_destroying rfl fun _ hi => by cases hi)
    rw [List.mem_singleton.mp hy]
    exact live_of_message h (m := .disconnect id x) (by rw [hd]; exact List.mem_cons_self) rfl
  | disconnected hd =>
    exact counted_goto h (fun _ => rfl) (by rw [hd]; rfl) rfl rfl rfl rfl rfl
      (fun x hx => absurd hx List.not_mem_nil) (not_destroying rfl fun _ hi => by cases hi)
  | release hd => exact counted_released h hd
  | @pass i x hd hp hcan hfree =>
    refine counted_goto h (fun _ => rfl) (by rw [hd]; rfl) rfl rfl rfl rfl rfl
      (fun x hx => absurd hx List.not_mem_nil) ?_
    rintro y ⟨j, hj, hy⟩
    cases hj
    have hxy : x = y := Option.some.inj (hp.symm.trans hy)
    exact hxy ▸ quiet_of_canDestroy h hcan hfree (hok i x hd hp hcan)
  | destroy hd hp => exact counted_destroy h hl hd hp
  | @withSession id y msg contexts msgs hd hmap hconn =>
    refine counted_goto h (fun _ => rfl) (by rw [hd]; rfl) rfl rfl rfl rfl rfl (fun x hx => ?_)
      (not_destroying rfl fun _ hi => by cases hi)
    rcases mem_concat.mp hx with hx | rfl
    · exact h.contexts x (by rw [hd]; exact hx)
    · exact live_of_connected hl hconn
  | call hmem hpc => exact counted_call h hmem hpc

theorem counted_init : Server.init.Counted where
  count _ := rfl
  quiet _ _ := ⟨rfl, rfl, fun _ hc => absurd hc List.not_mem_nil⟩
  contexts _ hx := absurd hx List.not_mem_nil
  app _ hc := absurd hc List.not_mem_nil

end Counted

/-! ## Runs -/

section
variable (role : ServerRole) (heartbeat : Bool) (as : List ServerAction)

/-- **Session lifetime**, in every state of every run in which the accepting thread has left
`OnConnect` whenever `CanDestroy` is true: `_ioRef` is the number of messages that name the session,
of its outstanding operations and of the threads about to post or start one; `Destroy` is called
once per connection at most, after the disconnect handler returned, and with no message or operation
left. -/
theorem session_lifetime {s : Server} (h : run (Server.step role heartbeat) .init as = some s)
    (hok : Meets (Server.step role heartbeat) Server.OnConnectReturned .init as) :
    (∀ x, (s.objects x).ioRef = s.messages x + s.operations x + s.handing x) ∧ s.destroyed.Nodup ∧
      (∀ id ∈ s.destroyed, id ∈ s.handled) ∧ ∀ x, s.Destroying x → s.messages x = 0 ∧
      s.operations x = 0 := by
  obtain ⟨hcounted, hlife, hids⟩ : s.Counted ∧ s.OneLife ∧ s.Ids := by
    refine run_inv_of_meets (fun s => s.Counted ∧ s.OneLife ∧ s.Ids) ?_ ⟨counted_init, oneLife_init,
      ids_init⟩ hok h
    rintro s a s' ⟨hc, hl, hi⟩ hg hs
    have hstepped := serverStepped hs
    exact ⟨counted_step hc hl hg hstepped, life_step hl hstepped, ids_step hi hl hstepped⟩
  exact ⟨hcounted.count, hids.once, hids.handled, fun x hx =>
    ⟨(hcounted.quiet x (.inr hx)).messages, (hcounted.quiet x (.inr hx)).operations⟩⟩

theorem onConnectReturned_of_calls_nil {s : Server} {a : ServerAction}
    (h : a = .next → s.calls = []) : s.OnConnectReturned a := by
  cases a with
  | next => exact fun _ _ _ _ _ c hc => absurd (h rfl ▸ hc) List.not_mem_nil
  | _ => trivial

/-- A connection whose first read fails is destroyed once, after its handler. -/
theorem session_lifetime_read_fails :
    ∃ s, run (Server.step .gateway false) .init (connectThenFail ++ processBoth) = some s ∧
      s.destroyed = [1] ∧ ∀ id ∈ s.destroyed, id ∈ s.handled := by
  have hquiet : Meets (Server.step .gateway false) (fun s a => a = .next → s.calls = []) .init
      (connectThenFail ++ processBoth) := by
    decide +kernel
  have hok := meets_mono (fun _ _ => onConnectReturned_of_calls_nil) hquiet
  exact ⟨_, rfl, rfl,
    (session_lifetime .gateway false (connectThenFail ++ processBoth) rfl hok).2.2.1⟩

/-- **One life** in every run, also when `OnConnect` is overtaken: a session object is in one place,
and a connection is destroyed once at most, after its disconnect was handled. -/
theorem one_life {s : Server} (h : run (Server.step role heartbeat) .init as = some s) :
    s.OneLife ∧ s.destroyed.Nodup ∧ ∀ id ∈ s.destroyed, id ∈ s.handled := by
  obtain ⟨hlife, hids⟩ : s.OneLife ∧ s.Ids := by
    refine run_inv (fun s => s.OneLife ∧ s.Ids) ?_ ⟨oneLife_init, ids_init⟩ h
    rintro s a s' ⟨hl, hi⟩ hs
    have hstepped := serverStepped hs
    exact ⟨life_step hl hstepped, ids_step hi hl hstepped⟩
  exact ⟨hlife, hids.once, hids.handled⟩

end

theorem one_life_read_fails :
    ∃ s, run (Server.step .gateway false) .init (connectThenFail ++ processBoth) = some s ∧
      s.destroyed = [1] ∧ s.OneLife :=
  ⟨_, rfl, rfl, (one_life .gateway false (connectThenFail ++ processBoth) rfl).1⟩

/-- The accepting thread has posted the connect and found the socket open; the application closes
the session, its disconnect is handled and `CanDestroy` is true.  Now the thread starts its read:
`Destroy` is called with the read outstanding, and the next connection on this object starts with a
count of 0. -/
theorem destroyed_with_read :
    (∃ s, run (Server.step .gateway false) .init
        [.grow, .accept 1 0, .run 0 .next, .run 0 .next, .run 0 .next, .run 0 .next,
          .process, .take 1, .next, .next, .next, .next, .next,
          .push 2, .process, .take 2, .next, .next, .withSession 1, .closeContext 0,
          .run 1 .next, .run 1 .next, .run 1 .next, .run 1 .next, .next, .next, .next, .next,
          .process, .take 0, .next, .next, .next, .next, .next, .next, .run 0 .next,
          .run 0 .next] = some s ∧
      s.Destroying 0 ∧ s.operations 0 = 1) ∧
    ∃ s, run (Server.step .gateway false) .init
        [.grow, .accept 1 0, .run 0 .next, .run 0 .next, .run 0 .next, .run 0 .next,
          .process, .take 1, .next, .next, .next, .next, .next,
          .push 2, .process, .take 2, .next, .next, .withSession 1, .closeContext 0,
          .run 1 .next, .run 1 .next, .run 1 .next, .run 1 .next, .next, .next, .next, .next,
          .process, .take 0, .next, .next, .next, .next, .next, .next, .run 0 .next, .run 0 .next,
          .next, .accept 3 0] = some s ∧
      (s.objects 0).ioRef = 0 ∧ s.operations 0 = 1 :=
  ⟨⟨_, rfl, ⟨0, rfl, rfl⟩, rfl⟩, _, rfl, rfl, rfl⟩

end ToyServer
