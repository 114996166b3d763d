import ToyServer.Lib.RefCount
import ToyServer.Session.SendQueue

/-!
# Who holds a packet

A packet is shared by `PacketPtr`s (copied with `AddRef`, moved without), by the send queues of any
number of sessions, and by what a `Flush` has taken out of a queue: the batch of a TCP `Flush`, the
straggler, and the packet in the hands of `AsyncSend`.  A backend session turns its batch into
`PacketPtr`s until the write completes.

The machine takes one atomic step at a time: the operations of `PacketPtr`, the entries of `Session`
(`SendPacket`, `SendPreSerialized`, `Reset`), and the frames of the threads that are inside
`EnqueueSend`, `Flush`, a completion or a `Reset`.  A dequeue may get any entry and may find
nothing.
-/

namespace ToyServer

open RefCount

/-! ## State -/

abbrev MsgId := Nat

structure PacketSession where
  kind : SessionKind
  connected : Bool
  isOpen : Bool
  /-- `network` is set (UDP) -/
  network : Bool
  isSending : Bool
  sendQueue : List MsgId
  /-- `_sendingPackets` of a backend session -/
  sendingPackets : List MsgId
  writing : Nat
deriving DecidableEq, Repr

/-- Where a thread is, named by what comes next. -/
inductive FramePc where
  | done
  | enqueue | exchange
  /-- `Flush` of a TCP session -/
  | flush | storeClosed | bulk
  /-- gateway: copy a packet and free it -/
  | linearize
  /-- backend: `_sendingPackets.clear()`, then fill it -/
  | clearSending | gather
  /-- `Flush` of a UDP session -/
  | discard | discardFree | drain | asyncSend
  /-- the end of `Flush` -/
  | storeFalse | recheck | straggler | reflush | putBack | cas
  /-- backend: the completion clears `_sendingPackets`; then `OnWriteComplete` -/
  | completed (ok : Bool)
  /-- `Session::Reset` and `UDPSession::OnRecycle` -/
  | reset | resetFree
  /-- `_sendingPackets.clear()` of `BackendSession::Reset` and `OnRecycle` -/
  | clear
deriving DecidableEq, Repr

/-- A thread at work on a session, with the packets it holds by raw pointers. -/
structure Frame where
  session : Nat
  pc : FramePc
  items : List MsgId
deriving DecidableEq, Repr

structure PacketState where
  /-- `refCount`s and the packets given back to the pool or the heap -/
  ledger : Ledger MsgId
  next : MsgId
  /-- `PacketPtr` objects, and the raw pointer `PacketBroadcast` owns -/
  ptrs : List (Option MsgId)
  sessions : List PacketSession
  frames : List Frame
  /-- payloads in the contexts of `AsyncSend` -/
  contexts : List MsgId

inductive PacketAction where
  /-- `PacketBuilder::Build` into a new pointer -/
  | build
  | copy (v : Nat)
  | move (v : Nat)
  /-- destructor, `Reset()`, the first half of an assignment, `MessagePool::Free` of the
  broadcaster -/
  | resetPtr (v : Nat)
  /-- the second half of a copy or move assignment, into an empty pointer -/
  | assign (v w : Nat)
  | moveAssign (v w : Nat)
  /-- `SendPacket(PacketPtr)`; `v` is the parameter -/
  | sendPacket (v session : Nat)
  | sendPreSerialized (v session : Nat)
  /-- `SendPacket(const IPacket &)` -/
  | sendNew (session : Nat)
  /-- the next step of a frame -/
  | step (i : Nat)
  /-- a dequeue of a frame gets this entry of the queue -/
  | take (i k : Nat)
  /-- `AsyncSend` drops the packet: too long, or no context left -/
  | refuse (i : Nat)
  /-- a context of `AsyncSend` is done, sent or not -/
  | contextDone (k : Nat)
  /-- an `async_write` completes -/
  | complete (session : Nat) (ok : Bool)
  | resetSession (session : Nat)
  | recycle (session : Nat)
  | clearSession (session : Nat)
  /-- a new session, or anything else that happens to one: connect, close, `SetNetwork` -/
  | newSession (kind : SessionKind)
  | setFlags (session : Nat) (connected isOpen network : Bool)
deriving DecidableEq, Repr

namespace PacketState

def init : PacketState := ⟨.empty, 0, [], [], [], []⟩

variable (s : PacketState)

def setPtr (v : Nat) (p : Option MsgId) : PacketState := { s with ptrs := s.ptrs.set v p }

def newPtr (p : Option MsgId) : PacketState := { s with ptrs := s.ptrs ++ [p] }

def addFrame (f : Frame) : PacketState := { s with frames := s.frames ++ [f] }

def free (m : MsgId) : PacketState := { s with ledger := s.ledger.free m }

def addRef (m : MsgId) : PacketState := { s with ledger := s.ledger.addRef m }

def allocate : PacketState := { s with ledger := s.ledger.make s.next, next := s.next + 1 }

def update (i : Nat) (f : Frame) (x : PacketSession) : PacketState :=
  { s with frames := s.frames.set i f, sessions := s.sessions.set f.session x }

/-- The next step of a frame; the dequeues here find nothing. -/
def stepFrame (i : Nat) (f : Frame) (x : PacketSession) : Option PacketState :=
  match f.pc, f.items with
  | .enqueue, items =>
    some (s.update i { f with pc := .exchange, items := [] }
      { x with sendQueue := x.sendQueue ++ items })
  | .exchange, _ =>
    if x.isSending then some (s.update i { f with pc := .done } x)
    else some (s.update i { f with pc := .flush } { x with isSending := true })
  | .flush, _ =>
    match x.kind with
    | .gateway | .backend =>
      some (s.update i { f with pc := if x.isOpen then .bulk else .storeClosed } x)
    | .udp => some (s.update i { f with pc := if x.network then .drain else .discard } x)
  | .storeClosed, _ => some (s.update i { f with pc := .done } { x with isSending := false })
  | .bulk, [] => some (s.update i { f with pc := .storeFalse } x)
  | .bulk, _ :: _ =>
    some (s.update i { f with pc := if x.kind = .backend then .clearSending else .linearize } x)
  | .linearize, m :: items => some ((s.free m).update i { f with items := items } x)
  | .linearize, [] => some (s.update i { f with pc := .done } { x with writing := x.writing + 1 })
  | .clearSending, _ =>
    match x.sendingPackets with
    | m :: packets => some ((s.free m).update i f { x with sendingPackets := packets })
    | [] => some (s.update i { f with pc := .gather } x)
  | .gather, m :: items =>
    some (s.update i { f with items := items } { x with sendingPackets := x.sendingPackets ++ [m] })
  | .gather, [] => some (s.update i { f with pc := .done } { x with writing := x.writing + 1 })
  | .discard, _ => some (s.update i { f with pc := .done } x)
  | .discardFree, m :: items => some ((s.free m).update i { f with items := items } x)
  | .discardFree, [] => some (s.update i { f with pc := .discard } x)
  | .drain, _ => some (s.update i { f with pc := .storeFalse } x)
  | .asyncSend, m :: items =>
    some ({ s with contexts := s.contexts ++ [m] }.update i { f with items := items } x)
  | .asyncSend, [] => some (s.update i { f with pc := .drain } x)
  | .storeFalse, _ => some (s.update i { f with pc := .recheck } { x with isSending := false })
  | .recheck, _ => some (s.update i { f with pc := .done } x)
  | .straggler, items =>
    match x.kind with
    | .gateway | .backend =>
      if x.isSending then some (s.update i { f with pc := .putBack } x)
      else some (s.update i { f with pc := .reflush } { x with isSending := true })
    | .udp =>
      some (s.update i { f with pc := .cas, items := [] }
        { x with sendQueue := x.sendQueue ++ items })
  | .reflush, items =>
    some (s.update i { f with pc := .flush, items := [] }
      { x with sendQueue := x.sendQueue ++ items })
  | .putBack, items =>
    some (s.update i { f with pc := .done, items := [] }
      { x with sendQueue := x.sendQueue ++ items })
  | .cas, _ =>
    if x.isSending then some (s.update i { f with pc := .done } x)
    else some (s.update i { f with pc := .drain } { x with isSending := true })
  | .completed ok, _ =>
    match x.sendingPackets with
    | m :: packets => some ((s.free m).update i f { x with sendingPackets := packets })
    | [] => some (s.update i { f with pc := if ok then .flush else .done } x)
  | .reset, _ => some (s.update i { f with pc := .done } x)
  | .resetFree, m :: items => some ((s.free m).update i { f with items := items } x)
  | .resetFree, [] => some (s.update i { f with pc := .reset } x)
  | .clear, _ =>
    match x.sendingPackets with
    | m :: packets => some ((s.free m).update i f { x with sendingPackets := packets })
    | [] => some (s.update i { f with pc := .done } x)
  | .done, _ => none

/-- Where a frame goes with an entry of the queue. -/
def takes (f : Frame) : Option FramePc :=
  match f.pc with
  | .bulk => if f.items.length < MAX_BATCH_SIZE then some .bulk else none
  | .discard => some .discardFree
  | .drain => some .asyncSend
  | .recheck => some .straggler
  | .reset => some .resetFree
  | _ => none

/-- Where the handler of a write starts. -/
def completion : SessionKind → Bool → FramePc
  | .backend, ok => .completed ok
  | _, true => .flush
  | _, false => .done

def frameAt (i : Nat) : Option (Frame × PacketSession) :=
  match s.frames[i]? with
  | none => none
  | some f => (s.sessions[f.session]?).map fun x => (f, x)

/-- A `Send` that found the session connected: `EnqueueSend`. -/
def enqueueSend (session : Nat) (m : MsgId) : PacketState := s.addFrame ⟨session, .enqueue, [m]⟩

def step : PacketAction → Option PacketState
  | .build => some (s.allocate.newPtr (some s.next))
  | .copy v =>
    match s.ptrs[v]? with
    | none => none
    | some none => some (s.newPtr none)
    | some (some m) => some ((s.addRef m).newPtr (some m))
  | .move v =>
    match s.ptrs[v]? with
    | none => none
    | some p => some ((s.setPtr v none).newPtr p)
  | .resetPtr v =>
    match s.ptrs[v]? with
    | none => none
    | some none => some s
    | some (some m) => some ((s.free m).setPtr v none)
  | .assign v w =>
    match s.ptrs[v]?, s.ptrs[w]? with
    | some none, some (some m) => some ((s.addRef m).setPtr v (some m))
    | some none, some none => some s
    | _, _ => none
  | .moveAssign v w =>
    match s.ptrs[v]?, s.ptrs[w]? with
    | some none, some p => if v = w then none else some ((s.setPtr w none).setPtr v p)
    | _, _ => none
  | .sendPacket v session =>
    match s.ptrs[v]?, s.sessions[session]? with
    | some (some m), some x =>
      if x.connected then some ((s.setPtr v none).enqueueSend session m)
      else some ((s.free m).setPtr v none)
    | some none, some _ => some s
    | _, _ => none
  | .sendPreSerialized v session =>
    match s.ptrs[v]?, s.sessions[session]? with
    | some (some m), some x =>
      if x.connected then some ((s.addRef m).enqueueSend session m) else some s
    | some none, some _ => some s
    | _, _ => none
  | .sendNew session =>
    match s.sessions[session]? with
    | none => none
    | some x => if x.connected then some (s.allocate.enqueueSend session s.next) else some s
  | .step i =>
    match s.frameAt i with
    | none => none
    | some (f, x) => s.stepFrame i f x
  | .take i k =>
    match s.frameAt i with
    | none => none
    | some (f, x) =>
      match x.sendQueue[k]?, takes f with
      | some m, some pc =>
        some (s.update i { f with pc := pc, items := f.items ++ [m] }
          { x with sendQueue := x.sendQueue.eraseIdx k })
      | _, _ => none
  | .refuse i =>
    match s.frameAt i with
    | none => none
    | some (f, x) =>
      match f.pc, f.items with
      | .asyncSend, m :: items => some ((s.free m).update i { f with items := items } x)
      | _, _ => none
  | .contextDone k =>
    match s.contexts[k]? with
    | none => none
    | some m => some { s.free m with contexts := s.contexts.eraseIdx k }
  | .complete session ok =>
    match s.sessions[session]? with
    | none => none
    | some x =>
      if 0 < x.writing then
        some ({ s with
          sessions := s.sessions.set session { x with writing := x.writing - 1 } }.addFrame
          ⟨session, completion x.kind ok, []⟩)
      else none
  | .resetSession session =>
    match s.sessions[session]? with
    | none => none
    | some x =>
      some ({ s with
        sessions := s.sessions.set session { x with
        connected := false, isSending := false } }.addFrame ⟨session, .reset, []⟩)
  | .recycle session =>
    match s.sessions[session]? with
    | none => none
    | some x =>
      some ({ s with
        sessions := s.sessions.set session { x with
        connected := false, network := false } }.addFrame ⟨session, .reset, []⟩)
  | .clearSession session => some (s.addFrame ⟨session, .clear, []⟩)
  | .newSession kind =>
    some { s with sessions := s.sessions ++ [⟨kind, true, true, true, false, [], [], 0⟩] }
  | .setFlags session connected isOpen network =>
    match s.sessions[session]? with
    | none => none
    | some x =>
      some { s with
        sessions :=
          s.sessions.set session { x with
            connected := connected, isOpen := isOpen, network := network } }

end PacketState

end ToyServer
