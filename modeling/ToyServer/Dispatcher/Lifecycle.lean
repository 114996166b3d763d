import ToyServer.Session.SendQueue

/-!
# The life of a TCP session

A session object comes from the pool, is given the next id and a socket by `CreateSession`, and is
made known to the dispatcher by `OnConnect`.  Reads, writes and the heartbeat timer run as
asynchronous operations whose handlers may come on any thread of the io pool; whoever closes the
session first posts `NETWORK_DISCONNECT`.  The dispatcher thread handles the messages in batches,
keeps `_sessions`, and gives sessions back to the pool from `_pendingDestroy` once `CanDestroy` says
so.

`_ioRef` is raised before a message that names the session is posted and before an operation is
started, and lowered after the message is handled and at the end of the handler.

A `SessionCall` is a thread inside a method of a session, one atomic step at a time: the accepting
thread, a handler, or the dispatcher thread in a call the application makes on a `SessionContext`.
The queue of the dispatcher is first-in first-out per producer only.  What is in the send queue is
not modelled here: a `Flush` may find a batch or not.

`serverStepped` says what a step can do.
-/

namespace ToyServer

open Runs ProducerQueue

/-! ## Sessions -/

abbrev SessionId := Nat

/-- The address of a session object. -/
abbrev SessionPtr := Nat

inductive ServerRole where
  | gateway
  | backend
deriving DecidableEq, Repr

structure SessionObject where
  id : SessionId
  connected : Bool
  ioRef : Int
  /-- `_socket` is set and open -/
  isOpen : Bool
deriving DecidableEq, Repr

namespace SessionObject

def new : SessionObject := ⟨0, false, 0, false⟩

variable (o : SessionObject)

def canDestroy : Bool := !o.connected && o.ioRef == 0

def incRef : SessionObject := { o with ioRef := o.ioRef + 1 }

def decRef : SessionObject := { o with ioRef := o.ioRef - 1 }

end SessionObject

inductive AsyncOp where
  | read
  | write
  | heartbeat
deriving DecidableEq, Repr

/-- A message of the dispatcher queue; a job (a lambda, a timer message) names no session. -/
inductive SessionMessage where
  | connect (id : SessionId) (session : SessionPtr)
  | data (id : SessionId) (session : SessionPtr)
  | disconnect (id : SessionId) (session : SessionPtr)
  | job
deriving DecidableEq, Repr

namespace SessionMessage

def session : SessionMessage → Option SessionPtr
  | .connect _ x | .data _ x | .disconnect _ x => some x
  | .job => none

/-- Messages that `_sessions` follows. -/
def isLink : SessionMessage → Bool
  | .connect _ _ | .disconnect _ _ => true
  | _ => false

end SessionMessage

/-- `GatewaySession::OnRecycle` and `BackendSession::OnRecycle`, with what their `Close` posts. -/
def SessionObject.onRecycle (role : ServerRole) (x : SessionPtr) (o : SessionObject) :
    SessionObject × List SessionMessage :=
  let closed : SessionObject × List SessionMessage :=
    if o.isOpen && o.connected then ({ o.incRef with connected := false }, [.disconnect o.id x])
    else (o, [])
  match role with
  | .gateway => ({ closed.1 with isOpen := false }, closed.2)
  | .backend => ({ closed.1 with isOpen := false, connected := false, ioRef := 0 }, closed.2)

/-! ## Calls -/

/-- Who is in the method: the accepting thread, the handler of an operation, or the application. -/
inductive CallOrigin where
  | accept
  | handler (op : AsyncOp)
  | app
deriving DecidableEq, Repr

/-- Where a call is, named by the step that comes next. -/
inductive CallPc where
  /-- `StartHeartbeat`: `IncRef`, `async_wait` -/
  | heartbeatInc | heartbeatWait
  /-- `OnConnect`: `_connected.store(true)`, `IncRef`, `Post` -/
  | connect | connectInc | connectPost (id : SessionId)
  /-- `StartRead`: test the socket, `IncRef`, `async_read_some` -/
  | startRead | readInc | readStart
  /-- `OnRecv`: the loop, `IncRef`, `Post` -/
  | recv | dataInc | dataPost (id : SessionId)
  /-- `Flush`: test the socket and take a batch, `IncRef`, `async_write` -/
  | flush | writeInc | writeStart
  /-- `OnHeartbeatTimer` -/
  | beat
  /-- `Close`: close the socket; `OnDisconnect`: `_connected.exchange(false)`, `IncRef`, `Post` -/
  | close | exchange | disconnectInc | disconnectPost (id : SessionId)
  /-- end of a handler -/
  | decRef
deriving DecidableEq, Repr

structure SessionCall where
  thread : ThreadId
  session : SessionPtr
  origin : CallOrigin
  pc : CallPc
deriving DecidableEq, Repr

/-- Which way a call goes where the source branches on data. -/
inductive Branch where
  | next
  /-- `OnRecv`: a whole packet, or a bad one -/
  | packet | malformed
  /-- `Flush`: there is something to write -/
  | batch
  /-- `OnHeartbeatTimer` -/
  | timeout | ping
deriving DecidableEq, Repr

/-- What a step does outside the session object. -/
inductive CallEffect where
  | none
  | post (m : SessionMessage)
  | start (op : AsyncOp)
deriving DecidableEq, Repr

namespace CallEffect

def posted (t : ThreadId) : CallEffect → List (ThreadId × SessionMessage)
  | .post m => [(t, m)]
  | _ => []

def started (x : SessionPtr) : CallEffect → List (SessionPtr × AsyncOp)
  | .start op => [(x, op)]
  | _ => []

end CallEffect

/-- The call at `i` goes on at `pc`, or returns. -/
def callsNext (calls : List SessionCall) (i : Nat) (c : SessionCall) :
    Option CallPc → List SessionCall
  | some pc => calls.set i { c with pc := pc }
  | none => calls.eraseIdx i

namespace CallOrigin

/-- Where the method returns to: a handler has its `DecRef` left. -/
def back : CallOrigin → Option CallPc
  | .handler _ => some .decRef
  | _ => none

/-- After `StartHeartbeat`: `CreateSession` goes on to `OnConnect`. -/
def beating : CallOrigin → Option CallPc
  | .accept => some .connect
  | origin => origin.back

/-- After `Flush`: `OnHeartbeatTimer` starts the timer again after the ping. -/
def flushed : CallOrigin → Option CallPc
  | .handler .heartbeat => some .heartbeatInc
  | origin => origin.back

end CallOrigin

/-- Where the handler of an operation begins. -/
def AsyncOp.begin (failed : Bool) : AsyncOp → CallPc
  | .read => if failed then .close else .recv
  | .write => if failed then .close else .flush
  | .heartbeat => if failed then .decRef else .beat

/-- One step of a call: the object after it, the effect, and where the call goes on. -/
def SessionCall.step (c : SessionCall) (o : SessionObject) (b : Branch) :
    Option (SessionObject × CallEffect × Option CallPc) :=
  match c.pc with
  | .heartbeatInc => some (o.incRef, .none, some .heartbeatWait)
  | .heartbeatWait => some (o, .start .heartbeat, c.origin.beating)
  | .connect =>
    match c.origin with
    | .accept => some ({ o with connected := true }, .none, some .connectInc)
    | _ => none
  | .connectInc => some (o.incRef, .none, some (.connectPost o.id))
  | .connectPost id => some (o, .post (.connect id c.session), some .startRead)
  | .startRead => some (o, .none, if o.isOpen then some .readInc else c.origin.back)
  | .readInc => some (o.incRef, .none, some .readStart)
  | .readStart => some (o, .start .read, c.origin.back)
  | .recv =>
    match b with
    | .packet => some (o, .none, some .dataInc)
    | .malformed => some (o, .none, some .close)
    | _ => some (o, .none, some .startRead)
  | .dataInc => some (o.incRef, .none, some (.dataPost o.id))
  | .dataPost id => some (o, .post (.data id c.session), some .recv)
  | .flush => some (o, .none, if o.isOpen ∧ b = .batch then some .writeInc else c.origin.flushed)
  | .writeInc => some (o.incRef, .none, some .writeStart)
  | .writeStart => some (o, .start .write, c.origin.flushed)
  | .beat =>
    match c.origin with
    | .handler .heartbeat =>
      if o.connected then
        match b with
        | .timeout => some (o, .none, some .close)
        | .ping => some (o, .none, some .flush)
        | _ => some (o, .none, some .heartbeatInc)
      else some (o, .none, some .decRef)
    | _ => none
  | .close => some ({ o with isOpen := false }, .none, some .exchange)
  | .exchange =>
    if o.connected then some ({ o with connected := false }, .none, some .disconnectInc)
    else some (o, .none, c.origin.back)
  | .disconnectInc => some (o.incRef, .none, some (.disconnectPost o.id))
  | .disconnectPost id => some (o, .post (.disconnect id c.session), c.origin.back)
  | .decRef =>
    match c.origin with
    | .handler _ => some (o.decRef, .none, none)
    | _ => none

/-! ### What a call carries -/

namespace SessionCall

section
variable (c : SessionCall)

/-- The call is the only one that may bring the session to be connected, or has just taken
`_connected` away. -/
def token : Nat :=
  match c.pc with
  | .disconnectInc | .disconnectPost _ => 1
  | .heartbeatInc | .heartbeatWait | .connect => if c.origin = .accept then 1 else 0
  | _ => 0

/-- The call is between an `IncRef` and the post or the start it is for. -/
def handing : Nat :=
  match c.pc with
  | .heartbeatWait | .connectPost _ | .readStart | .dataPost _ | .writeStart | .disconnectPost _ =>
    1
  | _ => 0

/-- The call is the handler of an operation and has the operation's reference. -/
def owns : Nat :=
  match c.origin with
  | .handler _ => 1
  | _ => 0

/-- The call will post the connect of its session. -/
def unposted : Nat :=
  match c.pc with
  | .heartbeatInc | .heartbeatWait => if c.origin = .accept then 1 else 0
  | .connect | .connectInc | .connectPost _ => 1
  | _ => 0

end

def after (f : SessionCall → Nat) (c : SessionCall) (pc : Option CallPc) : Nat :=
  (pc.map fun pc => f { c with pc := pc }).getD 0

end SessionCall

namespace CallEffect

def token : CallEffect → Nat
  | .post (.disconnect _ _) => 1
  | _ => 0

def refs : CallEffect → Nat
  | .none => 0
  | _ => 1

def connects : CallEffect → Nat
  | .post (.connect _ _) => 1
  | _ => 0

end CallEffect

/-- What every step of a call keeps: the token goes from the call to `_connected`, back to the call
and into the disconnect message; `_ioRef` follows the references in the call and in what it posts or
starts; the connect is posted once; and messages carry the session and its id. -/
structure CallLaws (c : SessionCall) (o o' : SessionObject) (e : CallEffect)
    (pc : Option CallPc) : Prop where
  id : o'.id = o.id
  token : o.connected.toNat + c.token ≤ 1 →
    o.connected.toNat + c.token = o'.connected.toNat + c.after SessionCall.token pc + e.token
  refs : o'.ioRef + c.handing + c.owns =
    o.ioRef + c.after SessionCall.handing pc + c.after SessionCall.owns pc + e.refs
  unposted : c.unposted = c.after SessionCall.unposted pc + e.connects
  names : ∀ m, e = .post m → m.session = some c.session
  posts : ∀ id x, (e = .post (.disconnect id x) → c.pc = .disconnectPost id) ∧
    (e = .post (.connect id x) → c.pc = .connectPost id)
  reads : ∀ id, pc = some (.disconnectPost id) ∨ pc = some (.connectPost id) → id = o.id

section CallLaws

variable {c : SessionCall} {o o' : SessionObject} {e : CallEffect} {pc : Option CallPc}

/-- Going on to `pc` the call carries nothing but the reference of its operation. -/
structure Light (c : SessionCall) (pc : Option CallPc) : Prop where
  token : c.after SessionCall.token pc = 0
  handing : c.after SessionCall.handing pc = 0
  owns : c.after SessionCall.owns pc = c.owns
  unposted : c.after SessionCall.unposted pc = 0
  reads : ∀ id, ¬ (pc = some (.disconnectPost id) ∨ pc = some (.connectPost id))

theorem light_back (c : SessionCall) : Light c c.origin.back := by
  obtain ⟨t, x, origin, p⟩ := c
  cases origin with
  | handler op => exact ⟨rfl, rfl, rfl, rfl, by simp [CallOrigin.back]⟩
  | accept => exact ⟨rfl, rfl, rfl, rfl, by simp [CallOrigin.back]⟩
  | app => exact ⟨rfl, rfl, rfl, rfl, by simp [CallOrigin.back]⟩

theorem light_flushed (c : SessionCall) : Light c c.origin.flushed := by
  obtain ⟨t, x, origin, p⟩ := c
  cases origin with
  | handler op =>
    cases op with
    | heartbeat => exact ⟨rfl, rfl, rfl, rfl, by simp [CallOrigin.flushed]⟩
    | read => exact light_back ⟨t, x, .handler .read, p⟩
    | write => exact light_back ⟨t, x, .handler .write, p⟩
  | accept => exact light_back ⟨t, x, .accept, p⟩
  | app => exact light_back ⟨t, x, .app, p⟩

theorem laws_walk (htoken : c.token = 0) (hhanding : c.handing = 0) (hunposted : c.unposted = 0)
    (hnext : Light c pc) (hid : o'.id = o.id) (hconn : o'.connected = o.connected)
    (hrefs : o'.ioRef = o.ioRef) : CallLaws c o o' .none pc where
  id := hid
  token _ := by rw [htoken, hnext.token, hconn]; rfl
  refs := by rw [hhanding, hnext.handing, hnext.owns, hrefs]; simp [CallEffect.refs]
  unposted := by rw [hunposted, hnext.unposted]; rfl
  names := by simp
  posts := by simp
  reads id hp := absurd hp (hnext.reads id)

theorem laws_incRef {p : CallPc} (hhanding : c.handing = 0) (hnext : { c with pc := p }.handing = 1)
    (htoken : { c with pc := p }.token = c.token)
    (hunposted : { c with pc := p }.unposted = c.unposted)
    (hreads : ∀ id, p = .disconnectPost id ∨ p = .connectPost id → id = o.id) :
    CallLaws c o o.incRef .none (some p) where
  id := rfl
  token _ := by
    show _ = o.connected.toNat + { c with pc := p }.token + 0
    rw [htoken]; rfl
  refs := by
    show o.ioRef + 1 + _ + _ = o.ioRef + ({ c with pc := p }.handing : Int) + c.owns + 0
    rw [hhanding, hnext]
    simp
  unposted := hunposted.symm
  names := by simp
  posts := by simp
  reads id hp := hreads id (by simpa using hp)

theorem laws_handOver (hhanding : c.handing = 1) (he : e.refs = 1)
    (htoken : c.token = c.after SessionCall.token pc + e.token)
    (hunposted : c.unposted = c.after SessionCall.unposted pc + e.connects)
    (hnext : c.after SessionCall.handing pc = 0) (howns : c.after SessionCall.owns pc = c.owns)
    (hnames : ∀ m, e = .post m → m.session = some c.session)
    (hposts : ∀ id x, (e = .post (.disconnect id x) → c.pc = .disconnectPost id) ∧
      (e = .post (.connect id x) → c.pc = .connectPost id))
    (hreads : ∀ id, ¬ (pc = some (.disconnectPost id) ∨ pc = some (.connectPost id))) :
    CallLaws c o o e pc where
  id := rfl
  token _ := by rw [htoken, Nat.add_assoc]
  refs := by rw [hhanding, hnext, howns, he]; push_cast; omega
  unposted := hunposted
  names := hnames
  posts := hposts
  reads id hp := absurd hp (hreads id)

theorem laws_start {op : AsyncOp} (hhanding : c.handing = 1) (htoken : c.token = 0)
    (hunposted : c.unposted = 0) (hnext : Light c pc) : CallLaws c o o (.start op) pc :=
  laws_handOver hhanding rfl (by rw [htoken, hnext.token]; rfl)
    (by rw [hunposted, hnext.unposted]; rfl) hnext.handing
    hnext.owns (by simp) (by simp) hnext.reads

theorem call_step_laws {b : Branch} (h : c.step o b = some (o', e, pc)) : CallLaws c o o' e pc := by
  obtain ⟨t, x, origin, p⟩ := c
  cases p with
  | heartbeatWait =>
    cases h
    cases origin with
    | accept =>
      exact laws_handOver rfl rfl rfl rfl rfl rfl (by simp) (by simp) (by simp [CallOrigin.beating])
    | handler op => exact laws_start rfl rfl rfl (light_back _)
    | app => exact laws_start rfl rfl rfl (light_back _)
  | connect =>
    cases origin with
    | accept =>
      cases h
      refine ⟨rfl, fun hone => ?_,
        by simp [SessionCall.after, SessionCall.handing, SessionCall.owns, CallEffect.refs],
        rfl, by simp, by simp, by simp⟩
      simp only [SessionCall.token, if_true] at hone ⊢
      show _ = 1 + 0 + 0
      omega
    | handler op => cases h
    | app => cases h
  | connectPost id =>
    cases h
    exact laws_handOver rfl rfl rfl rfl rfl rfl (by simp [SessionMessage.session])
      (by simp) (by simp)
  | startRead =>
    cases h
    split
    · exact laws_walk rfl rfl rfl ⟨rfl, rfl, rfl, rfl, by simp⟩ rfl rfl rfl
    · exact laws_walk rfl rfl rfl (light_back _) rfl rfl rfl
  | readStart => cases h; exact laws_start rfl rfl rfl (light_back _)
  | recv =>
    simp only [SessionCall.step] at h
    split at h <;> cases h <;> exact laws_walk rfl rfl rfl ⟨rfl, rfl, rfl, rfl, by simp⟩ rfl rfl rfl
  | dataPost id =>
    cases h
    exact laws_handOver rfl rfl rfl rfl rfl rfl (by simp [SessionMessage.session])
      (by simp) (by simp)
  | flush =>
    cases h
    split
    · exact laws_walk rfl rfl rfl ⟨rfl, rfl, rfl, rfl, by simp⟩ rfl rfl rfl
    · exact laws_walk rfl rfl rfl (light_flushed _) rfl rfl rfl
  | writeStart => cases h; exact laws_start rfl rfl rfl (light_flushed _)
  | beat =>
    simp only [SessionCall.step] at h
    split at h
    · split at h
      · split at h <;> cases h <;> exact laws_walk rfl rfl rfl ⟨rfl, rfl, rfl,
          rfl, by simp⟩ rfl rfl rfl
      · cases h
        exact laws_walk rfl rfl rfl ⟨rfl, rfl, rfl, rfl, by simp⟩ rfl rfl rfl
    · cases h
  | close => cases h; exact laws_walk rfl rfl rfl ⟨rfl, rfl, rfl, rfl, by simp⟩ rfl rfl rfl
  | exchange =>
    simp only [SessionCall.step] at h
    split at h
    · next hconn =>
      cases h
      refine ⟨rfl, fun _ => by rw [hconn]; rfl,
        by simp [SessionCall.after, SessionCall.handing, SessionCall.owns, CallEffect.refs],
        rfl, by simp, by simp, by simp⟩
    · cases h
      exact laws_walk rfl rfl rfl (light_back _) rfl rfl rfl
  | disconnectPost id =>
    cases h
    have hback := light_back ⟨t, x, origin, .disconnectPost id⟩
    exact laws_handOver rfl rfl (by rw [hback.token]; rfl) (by rw [hback.unposted]; rfl)
      hback.handing hback.owns (by simp [SessionMessage.session]) (by simp) hback.reads
  | decRef =>
    cases origin with
    | handler op =>
      cases h
      exact ⟨rfl, fun _ => rfl,
        by simp [SessionCall.after, SessionCall.handing, SessionCall.owns, CallEffect.refs,
          SessionObject.decRef],
        rfl, by simp, by simp, by simp⟩
    | accept => cases h
    | app => cases h
  | _ => cases h; exact laws_incRef rfl rfl rfl rfl (by simp)

end CallLaws

/-! ## The dispatcher -/

/-- Where the dispatcher thread is in `Process`. -/
inductive DispatcherPc where
  | idle
  /-- `try_dequeue_bulk` has these -/
  | fetch (msgs : List SessionMessage)
  /-- the loop over the rest of the batch -/
  | loop (msgs : List SessionMessage)
  /-- in the handler of a message, with the contexts the application has -/
  | app (msg : SessionMessage) (contexts : List SessionPtr) (msgs : List SessionMessage)
  /-- `DecRef` and free -/
  | release (msg : SessionMessage) (msgs : List SessionMessage)
  /-- `ProcessPendingDestroys` at index `i` -/
  | pending (i : Nat)
  /-- `CanDestroy` was true at index `i`: `SessionFactory::Destroy` -/
  | destroy (i : Nat)
deriving DecidableEq, Repr

namespace DispatcherPc

/-- The messages the dispatcher has taken and not released. -/
def held : DispatcherPc → List SessionMessage
  | .fetch msgs | .loop msgs => msgs
  | .app msg _ msgs | .release msg msgs => msg :: msgs
  | _ => []

/-- Of these, the connects and disconnects whose handling is not done. -/
def todo : DispatcherPc → List SessionMessage
  | .app (.disconnect id x) _ msgs => .disconnect id x :: msgs.filter SessionMessage.isLink
  | .fetch msgs | .loop msgs | .app _ _ msgs | .release _ msgs => msgs.filter SessionMessage.isLink
  | _ => []

def contexts : DispatcherPc → List SessionPtr
  | .app _ contexts _ => contexts
  | _ => []

end DispatcherPc

def processBatchSize : Nat := 64

/-- Swap with the last element, then pop. -/
def swapPop {α : Type} (l : List α) (i : Nat) : List α :=
  match l.getLast? with
  | none => l
  | some last => (l.set i last).dropLast

/-- A `WithSession` callback: the id asked for, and `GetId()` and `IsConnected()` of the session it
runs on. -/
structure Callback where
  asked : SessionId
  got : SessionId
  connected : Bool
deriving DecidableEq, Repr

structure Server where
  objects : SessionPtr → SessionObject
  /-- objects made so far: those below this address -/
  allocated : Nat
  nextId : SessionId
  pool : List SessionPtr
  ops : List (SessionPtr × AsyncOp)
  calls : List SessionCall
  /-- `_messageQueue`, with the producers -/
  queue : List (ThreadId × SessionMessage)
  dispatcher : DispatcherPc
  sessions : SessionId → Option SessionPtr
  pendingDestroy : List SessionPtr
  /-- ids whose connect was handled, whose disconnect was taken up, for which the disconnect handler
  returned, and for which `Destroy` was called -/
  connects : List SessionId
  disconnects : List SessionId
  handled : List SessionId
  destroyed : List SessionId
  callbacks : List Callback

inductive ServerAction where
  /-- `Grow`, one object -/
  | grow
  /-- `CreateSession` on this thread with the object at `k` of the pool -/
  | accept (t : ThreadId) (k : Nat)
  /-- the operation at `k` completes; its handler runs on this thread -/
  | complete (t : ThreadId) (k : Nat) (failed : Bool)
  /-- the next step of the call at `i` -/
  | run (i : Nat) (b : Branch)
  | push (t : ThreadId)
  | process
  /-- `try_dequeue_bulk` gets the oldest message of the producer `p` -/
  | take (p : ThreadId)
  /-- the next step of `Process`, or the return of the application's handler -/
  | next
  /-- the application: `WithSession` finds its session connected -/
  | withSession (id : SessionId)
  /-- the application sends on its context `k`, and the send gets to flush -/
  | send (k : Nat)
  /-- the application closes its context `k` -/
  | closeContext (k : Nat)
deriving DecidableEq, Repr

def dispatcherThread : ThreadId := 0

namespace Server

def init : Server :=
  { objects := fun _ => .new, allocated := 0, nextId := 1, pool := [], ops := [],
    calls := [], queue := [], dispatcher := .idle, sessions := fun _ => none, pendingDestroy := [],
    connects := [], disconnects := [], handled := [], destroyed := [], callbacks := [] }

section
variable (s : Server)

def free (t : ThreadId) : Bool := s.calls.all fun c => c.thread ≠ t

def setObject (x : SessionPtr) (o : SessionObject) : Server :=
  { s with objects := Function.update s.objects x o }

def addCall (c : SessionCall) : Server := { s with calls := s.calls ++ [c] }

def goto (d : DispatcherPc) : Server := { s with dispatcher := d }

/-- `CreateSession`: `Acquire` and `Reset`; the heartbeat is started first if it is configured. -/
def accept (heartbeat : Bool) (s : Server) (t : ThreadId) (k : Nat) (x : SessionPtr) : Server :=
  ({ s with pool := s.pool.eraseIdx k, nextId := s.nextId + 1 }.setObject x ⟨s.nextId, false, 0,
    true⟩).addCall ⟨t, x, .accept, if heartbeat then .heartbeatInc else .connect⟩

def complete (t : ThreadId) (k : Nat) (failed : Bool) (op : SessionPtr × AsyncOp) : Server :=
  { s with ops := s.ops.eraseIdx k }.addCall ⟨t, op.1, .handler op.2, op.2.begin failed⟩

def ran (i : Nat) (c : SessionCall) (o : SessionObject) (e : CallEffect)
    (pc : Option CallPc) : Server :=
  { s with
    objects := Function.update s.objects c.session o
    calls := callsNext s.calls i c pc
    queue := s.queue ++ e.posted c.thread
    ops := s.ops ++ e.started c.session }

def connected (id : SessionId) (x : SessionPtr) (msgs : List SessionMessage) : Server :=
  { s with sessions := Function.update s.sessions id (some x), connects := s.connects ++ [id] }.goto
    (.release (.connect id x) msgs)

/-- `NETWORK_DISCONNECT` up to the call of the handler. -/
def disconnecting (id : SessionId) (x : SessionPtr) (msgs : List SessionMessage) : Server :=
  { s with
    sessions := Function.update s.sessions id none, disconnects := s.disconnects ++ [id] }.goto
    (.app (.disconnect id x) [x] msgs)

/-- `NETWORK_DISCONNECT` after the handler. -/
def disconnected (id : SessionId) (x : SessionPtr) (msgs : List SessionMessage) : Server :=
  { s with pendingDestroy := s.pendingDestroy ++ [x], handled := s.handled ++ [id] }.goto
    (.release (.disconnect id x) msgs)

def released (msg : SessionMessage) (msgs : List SessionMessage) : Server :=
  { s with
    objects := msg.session.elim s.objects fun x => Function.update s.objects x (s.objects x).decRef
    dispatcher := .loop msgs }

/-- `SessionFactory::Destroy` and the swap-and-pop. -/
def destroy (role : ServerRole) (s : Server) (i : Nat) (x : SessionPtr) : Server :=
  let recycled := (s.objects x).onRecycle role x
  ({ s with
      pool := s.pool ++ [x]
      queue := s.queue ++ recycled.2.map fun m => (dispatcherThread, m)
      pendingDestroy := swapPop s.pendingDestroy i
      destroyed := s.destroyed ++ [(s.objects x).id] }.setObject x recycled.1).goto (.pending i)

def next (role : ServerRole) (s : Server) : Option Server :=
  match s.dispatcher with
  | .idle => none
  | .fetch msgs => some (s.goto (.loop msgs))
  | .loop [] => some (s.goto (.pending 0))
  | .loop (.connect id x :: msgs) => some (s.connected id x msgs)
  | .loop (.data id x :: msgs) =>
    some (s.goto (if (s.objects x).connected then .app (.data id x) [x] msgs
      else .release (.data id x) msgs))
  | .loop (.disconnect id x :: msgs) => some (s.disconnecting id x msgs)
  | .loop (.job :: msgs) => some (s.goto (.app .job [] msgs))
  | .app (.disconnect id x) _ msgs => some (s.disconnected id x msgs)
  | .app msg _ msgs => some (s.goto (.release msg msgs))
  | .release msg msgs => some (s.released msg msgs)
  | .pending i =>
    match s.pendingDestroy[i]? with
    | none => some (s.goto .idle)
    | some x => some (s.goto (if (s.objects x).canDestroy then .destroy i else .pending (i + 1)))
  | .destroy i => (s.pendingDestroy[i]?).map (s.destroy role i)

/-- `WithSession` on the dispatcher thread. -/
def withSession (id : SessionId) : Option Server :=
  match s.dispatcher, s.sessions id with
  | .app msg contexts msgs, some x =>
    if (s.objects x).connected then
      some ({ s with callbacks := s.callbacks ++ [Callback.mk id (s.objects x).id true] }.goto
        (.app msg (contexts ++ [x]) msgs))
    else none
  | _, _ => none

end

def step (role : ServerRole) (heartbeat : Bool) (s : Server) : ServerAction → Option Server
  | .grow => some { s with pool := s.pool ++ [s.allocated], allocated := s.allocated + 1 }
  | .accept t k =>
    if t ≠ dispatcherThread ∧ s.free t then (s.pool[k]?).map (s.accept heartbeat t k) else none
  | .complete t k failed =>
    if t ≠ dispatcherThread ∧ s.free t then (s.ops[k]?).map (s.complete t k failed) else none
  | .run i b =>
    match s.calls[i]? with
    | none => none
    | some c => (c.step (s.objects c.session) b).map fun r => s.ran i c r.1 r.2.1 r.2.2
  | .push t => some { s with queue := s.queue ++ [(t, .job)] }
  | .process => if s.dispatcher = .idle then some (s.goto (.fetch [])) else none
  | .take p =>
    match s.dispatcher, dequeue p s.queue with
    | .fetch msgs, some (m, queue) =>
      if msgs.length < processBatchSize then
        some ({ s with queue := queue }.goto (.fetch (msgs ++ [m]))) else none
    | _, _ => none
  | .next => if s.free dispatcherThread then s.next role else none
  | .withSession id => if s.free dispatcherThread then s.withSession id else none
  | .send k =>
    if s.free dispatcherThread then
      match s.dispatcher.contexts[k]? with
      | none => none
      | some x =>
        if (s.objects x).connected then some (s.addCall ⟨dispatcherThread, x, .app, .flush⟩)
      else none
    else none
  | .closeContext k =>
    if s.free dispatcherThread then
      (s.dispatcher.contexts[k]?).map fun x => s.addCall ⟨dispatcherThread, x, .app, .close⟩
    else none

end Server

/-! ## What a step does -/

/-- The dispatcher goes on by itself: it still holds the same messages, has handled no connect or
disconnect, and the contexts it has are from a message it holds. -/
structure DispatcherMove (d d' : DispatcherPc) : Prop where
  held : d'.held = d.held
  todo : d'.todo = d.todo
  contexts : ∀ x ∈ d'.contexts, ∃ m ∈ d.held, m.session = some x
  alive : ∀ i, d' ≠ .destroy i
  handler : ∀ id x contexts msgs, d' ≠ .app (.disconnect id x) contexts msgs

inductive ServerStepped (role : ServerRole) (heartbeat : Bool) (s : Server) :
    ServerAction → Server → Prop where
  | grow : ServerStepped role heartbeat s .grow { s with
        pool := s.pool ++ [s.allocated], allocated := s.allocated + 1 }
  | accept {t k x} (ht : t ≠ dispatcherThread) (hx : s.pool[k]? = some x) :
      ServerStepped role heartbeat s (.accept t k) (s.accept heartbeat t k x)
  | complete {t k failed op} (ht : t ≠ dispatcherThread) (hop : s.ops[k]? = some op) :
      ServerStepped role heartbeat s (.complete t k failed) (s.complete t k failed op)
  | run {i b c o e pc} (hc : s.calls[i]? = some c)
      (hstep : c.step (s.objects c.session) b = some (o, e, pc)) :
      ServerStepped role heartbeat s (.run i b) (s.ran i c o e pc)
  | push (t) : ServerStepped role heartbeat s (.push t) { s with queue := s.queue ++ [(t, .job)] }
  | take {p msgs m queue} (hd : s.dispatcher = .fetch msgs)
      (hq : dequeue p s.queue = some (m, queue)) : ServerStepped role heartbeat s (.take p)
      ({ s with queue := queue }.goto (.fetch (msgs ++ [m])))
  | move {a d} (hmove : DispatcherMove s.dispatcher d) : ServerStepped role heartbeat s a (s.goto d)
  | connect {id x msgs} (hd : s.dispatcher = .loop (.connect id x :: msgs)) :
      ServerStepped role heartbeat s .next (s.connected id x msgs)
  | disconnecting {id x msgs} (hd : s.dispatcher = .loop (.disconnect id x :: msgs)) :
      ServerStepped role heartbeat s .next (s.disconnecting id x msgs)
  | disconnected {id x contexts msgs} (hd : s.dispatcher = .app (.disconnect id x) contexts msgs) :
      ServerStepped role heartbeat s .next (s.disconnected id x msgs)
  | release {msg msgs} (hd : s.dispatcher = .release msg msgs) :
      ServerStepped role heartbeat s .next (s.released msg msgs)
  | pass {i x} (hd : s.dispatcher = .pending i) (hx : s.pendingDestroy[i]? = some x)
      (hcan : (s.objects x).canDestroy = true) (hfree : s.free dispatcherThread = true) :
      ServerStepped role heartbeat s .next (s.goto (.destroy i))
  | destroy {i x} (hd : s.dispatcher = .destroy i) (hx : s.pendingDestroy[i]? = some x) :
      ServerStepped role heartbeat s .next (s.destroy role i x)
  | withSession {id x msg contexts msgs} (hd : s.dispatcher = .app msg contexts msgs)
      (hx : s.sessions id = some x) (hc : (s.objects x).connected = true) :
      ServerStepped role heartbeat s (.withSession id)
        ({ s with callbacks := s.callbacks ++ [Callback.mk id (s.objects x).id true] }.goto
          (.app msg (contexts ++ [x]) msgs))
  | call {a x pc} (hx : x ∈ s.dispatcher.contexts) (hpc : pc = .flush ∨ pc = .close) :
      ServerStepped role heartbeat s a (s.addCall ⟨dispatcherThread, x, .app, pc⟩)

section Stepped

variable {role : ServerRole} {heartbeat : Bool} {s s' : Server}

theorem next_stepped (hfree : s.free dispatcherThread = true) (h : s.next role = some s') :
    ServerStepped role heartbeat s .next s' := by
  unfold Server.next at h
  split at h
  · cases h
  · next msgs hd =>
      cases h; exact .move
        ⟨by rw [hd]; rfl, by rw [hd]; rfl, by simp [DispatcherPc.contexts], by simp, by simp⟩
  · next hd =>
      cases h; exact .move
        ⟨by rw [hd]; rfl, by rw [hd]; rfl, by simp [DispatcherPc.contexts], by simp, by simp⟩
  · next id x msgs hd => cases h; exact .connect hd
  · next id x msgs hd =>
    cases h
    split
    · exact .move
        ⟨by rw [hd]; rfl, by rw [hd]; rfl, by simp [DispatcherPc.contexts, hd, DispatcherPc.held,
        SessionMessage.session], by simp, by simp⟩
    · exact .move
        ⟨by rw [hd]; rfl, by rw [hd]; rfl, by simp [DispatcherPc.contexts], by simp, by simp⟩
  · next id x msgs hd => cases h; exact .disconnecting hd
  · next msgs hd =>
      cases h; exact .move
        ⟨by rw [hd]; rfl, by rw [hd]; rfl, by simp [DispatcherPc.contexts], by simp, by simp⟩
  · next id x contexts msgs hd => cases h; exact .disconnected hd
  · next msg contexts msgs hne hd =>
    cases h
    refine .move ⟨by rw [hd]; rfl, ?_, by simp [DispatcherPc.contexts], by simp, by simp⟩
    rw [hd]
    cases msg with
    | disconnect id x => exact absurd rfl (hne id x)
    | _ => rfl
  · next msg msgs hd => cases h; exact .release hd
  · next i hd =>
    split at h
    · cases h; exact .move
        ⟨by rw [hd]; rfl, by rw [hd]; rfl, by simp [DispatcherPc.contexts], by simp, by simp⟩
    · next x hx =>
      cases h
      split
      · next hcan => exact .pass hd hx hcan hfree
      · exact .move
          ⟨by rw [hd]; rfl, by rw [hd]; rfl, by simp [DispatcherPc.contexts], by simp, by simp⟩
  · next i hd =>
    rw [Option.map_eq_some_iff] at h
    obtain ⟨x, hx, rfl⟩ := h
    exact .destroy hd hx

theorem serverStepped {a : ServerAction} (h : Server.step role heartbeat s a = some s') :
    ServerStepped role heartbeat s a s' := by
  cases a with
  | grow => cases h; exact .grow
  | accept t k =>
    rw [Server.step, Option.ite_none_right_eq_some, Option.map_eq_some_iff] at h
    obtain ⟨⟨ht, -⟩, x, hx, rfl⟩ := h
    exact .accept ht hx
  | complete t k failed =>
    rw [Server.step, Option.ite_none_right_eq_some, Option.map_eq_some_iff] at h
    obtain ⟨⟨ht, -⟩, op, hop, rfl⟩ := h
    exact .complete ht hop
  | run i b =>
    simp only [Server.step] at h
    split at h
    · cases h
    · next c hc =>
      rw [Option.map_eq_some_iff] at h
      obtain ⟨⟨o, e, pc⟩, hstep, rfl⟩ := h
      exact .run hc hstep
  | push t => cases h; exact .push t
  | process =>
    rw [Server.step, Option.ite_none_right_eq_some, Option.some.injEq] at h
    obtain ⟨hd, rfl⟩ := h
    exact .move
      ⟨by rw [hd]; rfl, by rw [hd]; rfl, by simp [DispatcherPc.contexts], by simp, by simp⟩
  | take p =>
    simp only [Server.step] at h
    split at h
    · next msgs m queue hd hq =>
      rw [Option.ite_none_right_eq_some, Option.some.injEq] at h
      obtain ⟨-, rfl⟩ := h
      exact .take hd hq
    · cases h
  | next =>
    rw [Server.step, Option.ite_none_right_eq_some] at h
    exact next_stepped h.1 h.2
  | withSession id =>
    rw [Server.step, Option.ite_none_right_eq_some] at h
    obtain ⟨-, h⟩ := h
    unfold Server.withSession at h
    split at h
    · next msg contexts msgs x hd hx =>
      rw [Option.ite_none_right_eq_some, Option.some.injEq] at h
      obtain ⟨hc, rfl⟩ := h
      exact .withSession hd hx hc
    · cases h
  | send k =>
    rw [Server.step, Option.ite_none_right_eq_some] at h
    obtain ⟨-, h⟩ := h
    split at h
    · cases h
    · next x hx =>
      rw [Option.ite_none_right_eq_some, Option.some.injEq] at h
      obtain ⟨-, rfl⟩ := h
      exact .call (List.mem_of_getElem? hx) (.inl rfl)
  | closeContext k =>
    rw [Server.step, Option.ite_none_right_eq_some, Option.map_eq_some_iff] at h
    obtain ⟨-, x, hx, rfl⟩ := h
    exact .call (List.mem_of_getElem? hx) (.inr rfl)

end Stepped

/-! ## A connection from accept to `Destroy` -/

/-- A connection is accepted and its first read started; the read fails and closes it. -/
def connectThenFail : List ServerAction :=
  [.grow, .accept 1 0, .run 0 .next, .run 0 .next, .run 0 .next, .run 0 .next,
    .run 0 .next, .run 0 .next,
    .complete 2 0 true, .run 0 .next, .run 0 .next, .run 0 .next, .run 0 .next, .run 0 .next]

/-- The dispatcher takes the connect and the disconnect in this order and destroys the session. -/
def processBoth : List ServerAction :=
  [.process, .take 1, .take 2, .next, .next, .next, .next, .next, .next, .next, .next, .next]

end ToyServer
