import ToyServer.Lib.Framing
import ToyServer.Lib.Runs
import ToyServer.Network.Encryption
import ToyServer.Network.RecvBuffer

/-!
# The receive loop of `GatewaySession` and `BackendSession`

`StartRead` cleans the buffer and offers its free space to the socket; a read completion
fills it and enters the loop of `OnRecv`, which posts complete packets, refuses a header
(`Close`) or breaks off and reads again.  One round of the loop is one step here
(`parse`), so what holds in every reachable state holds between any two rounds.  The two
sessions differ in the largest size they take and in the cipher.

* `recv_inv`: the invariant over all runs, with closes, errors and reuse of the session;
* `framing_independent`: the packets posted and the close decision are those of
  cutting the whole stream at once, however it was split, and no byte is lost;
* `recv_never_stalls`: the positions are in order, every read has room, and a
  packet that has begun can be completed.
-/

namespace ToyServer

open Mem Framing Runs

/-! ## Messages -/

/-- A message of the pool; `written` is how far the writes into its `data` went. -/
structure PacketMessage where
  length : Nat
  data : Nat → UInt8
  written : Nat

namespace PacketMessage

/-- `MessagePool::AllocatePacket`: a block with whatever it held before. -/
def allocate (length : Nat) (block : Nat → UInt8) : PacketMessage := ⟨length, block, 0⟩

def put (m : PacketMessage) (off : Nat) (bytes : List UInt8) : PacketMessage :=
  { m with data := write m.data off bytes, written := max m.written (off + bytes.length) }

def bytes (m : PacketMessage) : List UInt8 := slice m.data 0 m.length

end PacketMessage

/-- `sizeof(PacketHeader)`: `uint16_t size`, `uint16_t id`, packed. -/
def headerLen : Nat := 4

/-- `PacketHeader::size` of a header at `off` (little endian). -/
def headerSize (m : Nat → UInt8) (off : Nat) : Nat := (m off).toNat + 256 * (m (off + 1)).toNat

/-! ## The session -/

inductive TcpSession where
  | gateway (encryption : Option IPacketEncryption)
  | backend

namespace TcpSession

def maxSize : TcpSession → Nat
  | gateway _ => 65535
  | backend => 1024 * 10

def encryption : TcpSession → Option IPacketEncryption
  | gateway e => e
  | backend => none

end TcpSession

inductive RecvPc where
  /-- no read is outstanding -/
  | idle
  /-- `async_read_some` with this much room is outstanding -/
  | reading (offered : Int)
  /-- inside the loop of `OnRecv` -/
  | parsing
deriving DecidableEq

structure RecvState where
  recvBuffer : RecvBuffer
  isOpen : Bool
  pc : RecvPc
  /-- packets posted on this connection -/
  posted : List PacketMessage
  /-- blocks taken from the pool so far -/
  allocated : Nat
  /-- bytes received on this connection -/
  received : List UInt8
  /-- the pieces of the stream the posted packets were made from -/
  frames : List (List UInt8)
  /-- `OnRecv` closed the connection because of a header -/
  refused : Bool

inductive RecvAction where
  /-- `OnConnect` -/
  | start
  | receive (bytes : List UInt8)
  | fail
  /-- one round of the loop of `OnRecv` -/
  | parse
  /-- `Close` by somebody else -/
  | close
  /-- `Reset(socket, …)`: the session is used for a new connection -/
  | reset
deriving DecidableEq, Repr

namespace RecvState

def init (memory : Nat → UInt8) : RecvState := ⟨.make memory, true, .idle, [], 0, [], [], false⟩

def startRead (s : RecvState) : RecvState :=
  if s.isOpen then
    let b := s.recvBuffer.clean
    { s with recvBuffer := b, pc := .reading b.freeSize }
  else { s with pc := .idle }

/-- The message made of the packet at `ReadPos()`. -/
def readPacket (t : TcpSession) (b : RecvBuffer) (size : Nat)
    (block : Nat → UInt8) : PacketMessage :=
  let msg := PacketMessage.allocate size block
  let pos := b.readPos.toNat
  match t.encryption with
  | none => msg.put 0 (slice b.buffer pos size)
  | some e =>
    let msg := msg.put 0 (slice b.buffer pos headerLen)
    if size > headerLen then
      msg.put headerLen (e.decrypt (fun i => b.buffer (pos + headerLen + i)) (size - headerLen))
    else msg

variable (t : TcpSession) (blocks : Nat → Nat → UInt8) (s : RecvState)

/-- One round of the loop of `OnRecv`. -/
def onRecvRound : RecvState :=
  let b := s.recvBuffer
  if b.dataSize < headerLen then s.startRead
  else
    let size := headerSize b.buffer b.readPos.toNat
    if size > t.maxSize ∨ size = 0 then { s with isOpen := false, pc := .idle, refused := true }
    else if b.dataSize < size then s.startRead
    else
      { s with
        recvBuffer := (b.moveReadPos size).1
        posted := s.posted ++ [readPacket t b size (blocks s.allocated)]
        allocated := s.allocated + 1
        frames := s.frames ++ [slice b.buffer b.readPos.toNat size] }

/-- `OnReadComplete` without an error, up to the loop of `OnRecv`. -/
def onReadComplete (s : RecvState) (bytes : List UInt8) : RecvState :=
  let s := { s with received := s.received ++ bytes }
  match (s.recvBuffer.fill bytes).moveWritePos bytes.length with
  | (b, true) => { s with recvBuffer := b, pc := .parsing }
  | (b, false) => { s with recvBuffer := b, isOpen := false, pc := .idle }

/-- A step.  `blocks k` is what the `k`-th block from the pool holds. -/
def step : RecvAction → Option RecvState
  | .start => if s.pc = .idle then some s.startRead else none
  | .receive bytes =>
    match s.pc with
    | .reading offered => if bytes.length ≤ offered then some (s.onReadComplete bytes) else none
    | _ => none
  | .fail =>
    match s.pc with
    | .reading _ => some { s with isOpen := false, pc := .idle }
    | _ => none
  | .parse => if s.pc = .parsing then some (s.onRecvRound t blocks) else none
  | .close => some { s with isOpen := false }
  | .reset =>
    if s.pc = .idle then
      some { s with
        recvBuffer := s.recvBuffer.reset, isOpen := true, posted := [],
        received := [], frames := [], refused := false }
    else none

end RecvState

/-! ## Cutting the stream -/

/-- `PacketHeader::size` at the start of a stream. -/
def announced (l : List UInt8) : Nat := headerSize (fun i => l.getD i 0) 0

theorem announced_lt (l : List UInt8) : announced l < 65536 := by
  have h0 := (l.getD 0 0).toNat_lt
  have h1 := (l.getD 1 0).toNat_lt
  show (l.getD 0 0).toNat + 256 * (l.getD 1 0).toNat < 65536
  omega

variable {l : List UInt8} {maxSize : Nat} {b : RecvBuffer} {e : IPacketEncryption}

theorem announced_append (m : List UInt8) (h : headerLen ≤ l.length) :
    announced (l ++ m) = announced l := by
  have h4 : headerLen = 4 := rfl
  have hget : ∀ i, i < 4 → (l ++ m).getD i 0 = l.getD i 0 := by
    intro i hi
    rw [List.getD_eq_getElem?_getD, List.getD_eq_getElem?_getD,
      List.getElem?_append_left (by omega)]
  show ((l ++ m).getD 0 0).toNat + 256 * ((l ++ m).getD 1 0).toNat =
    (l.getD 0 0).toNat + 256 * (l.getD 1 0).toNat
  rw [hget 0 (by omega), hget 1 (by omega)]

def verdict (maxSize : Nat) (l : List UInt8) : Verdict :=
  if l.length < headerLen then .more
  else if announced l > maxSize ∨ announced l = 0 then .refuse
  else if l.length < announced l then .more
  else .frame (announced l)

theorem verdict_frame {n : Nat} :
    verdict maxSize l = .frame n ↔
      headerLen ≤ l.length ∧ announced l ≤ maxSize ∧ 0 < announced l ∧ announced l ≤ l.length ∧
        n = announced l := by
  unfold verdict
  split
  · next h => simp only [reduceCtorEq, false_iff]; omega
  · split
    · next h => simp only [reduceCtorEq, false_iff]; omega
    · split
      · next h => simp only [reduceCtorEq, false_iff]; omega
      · next h1 h2 h3 =>
        rw [Verdict.frame.injEq]
        omega

theorem verdict_refuse :
    verdict maxSize l = .refuse ↔ headerLen ≤ l.length ∧
    (announced l > maxSize ∨ announced l = 0) := by
  unfold verdict
  split
  · next h => simp only [reduceCtorEq, false_iff]; omega
  · split
    · next h1 h2 => exact ⟨fun _ => ⟨by omega, h2⟩, fun _ => rfl⟩
    · next h1 h2 =>
      split
      · exact ⟨fun h => by simp at h, fun h => absurd h.2 h2⟩
      · exact ⟨fun h => by simp at h, fun h => absurd h.2 h2⟩

theorem verdict_more :
    verdict maxSize l = .more ↔
      l.length < headerLen ∨
      (announced l ≤ maxSize ∧ 0 < announced l ∧ l.length < announced l) := by
  unfold verdict
  split
  · next h => simp [h]
  · split
    · next h => simp only [reduceCtorEq, false_iff]; omega
    · split
      · next h1 h2 h3 => exact ⟨fun _ => Or.inr (by omega), fun _ => rfl⟩
      · next h1 h2 h3 => simp only [reduceCtorEq, false_iff]; omega

/-- The framer of packets of at most `maxSize` bytes. -/
def framer (maxSize : Nat) : Framer UInt8 where
  verdict := verdict maxSize
  frame_pos h := by
    obtain ⟨-, -, h3, -, rfl⟩ := verdict_frame.mp h
    exact h3
  frame_le h := by
    obtain ⟨-, -, -, h4, rfl⟩ := verdict_frame.mp h
    exact h4
  frame_append m h := by
    obtain ⟨h1, h2, h3, h4, rfl⟩ := verdict_frame.mp h
    rw [verdict_frame, announced_append m h1, List.length_append]
    omega
  refuse_append m h := by
    obtain ⟨h1, h2⟩ := verdict_refuse.mp h
    rw [verdict_refuse, announced_append m h1, List.length_append]
    exact ⟨by omega, h2⟩

/-! ## What a step does -/

/-- The steps of the receive loop; a round of `OnRecv` goes by the verdict on the data. -/
inductive RecvStepped (t : TcpSession) (blocks : Nat → Nat → UInt8) (s : RecvState) :
    RecvAction → RecvState → Prop where
  | start (hpc : s.pc = .idle) : RecvStepped t blocks s .start s.startRead
  | receive (bytes : List UInt8) (offered : Int) (hpc : s.pc = .reading offered)
      (hlen : bytes.length ≤ offered) : RecvStepped t blocks s (.receive bytes)
      (s.onReadComplete bytes)
  | fail (offered : Int) (hpc : s.pc = .reading offered) :
      RecvStepped t blocks s .fail { s with isOpen := false, pc := .idle }
  | wait (hpc : s.pc = .parsing) (hv : verdict t.maxSize s.recvBuffer.data = .more) :
      RecvStepped t blocks s .parse s.startRead
  | refuse (hpc : s.pc = .parsing) (hv : verdict t.maxSize s.recvBuffer.data = .refuse) :
      RecvStepped t blocks s .parse { s with isOpen := false, pc := .idle, refused := true }
  | packet (n : Nat) (hpc : s.pc = .parsing) (hv : verdict t.maxSize s.recvBuffer.data = .frame n) :
      RecvStepped t blocks s .parse { s with
        recvBuffer := (s.recvBuffer.moveReadPos n).1
        posted := s.posted ++ [RecvState.readPacket t s.recvBuffer n (blocks s.allocated)]
        allocated := s.allocated + 1
        frames := s.frames ++ [s.recvBuffer.data.take n] }
  | close : RecvStepped t blocks s .close { s with isOpen := false }
  | reset (hpc : s.pc = .idle) :
      RecvStepped t blocks s .reset { s with
        recvBuffer := s.recvBuffer.reset, isOpen := true, posted := [],
        received := [], frames := [], refused := false }

variable {t : TcpSession} {blocks : Nat → Nat → UInt8} {s s' : RecvState} {a : RecvAction}

theorem headerSize_readPos (h : headerLen ≤ b.data.length) :
    headerSize b.buffer b.readPos.toNat = announced b.data := by
  have h4 : headerLen = 4 := rfl
  show (b.buffer b.readPos.toNat).toNat + 256 * (b.buffer (b.readPos.toNat + 1)).toNat =
    (b.data.getD 0 0).toNat + 256 * (b.data.getD 1 0).toNat
  rw [RecvBuffer.data_getD (by omega), RecvBuffer.data_getD (by omega)]
  rfl

theorem onRecvRound_stepped (t : TcpSession) (blocks : Nat → Nat → UInt8) (hok : s.recvBuffer.Ok)
    (hpc : s.pc = .parsing) : RecvStepped t blocks s .parse (s.onRecvRound t blocks) := by
  have hsize := hok.dataSize_eq
  unfold RecvState.onRecvRound
  dsimp only
  split
  · next h => exact .wait hpc (verdict_more.mpr (.inl (by omega)))
  · next h =>
    have hle : headerLen ≤ s.recvBuffer.data.length := by omega
    rw [headerSize_readPos hle]
    split
    · next h2 => exact .refuse hpc (verdict_refuse.mpr ⟨hle, h2⟩)
    · next h2 =>
      split
      · next h3 => exact .wait hpc (verdict_more.mpr (.inr (by omega)))
      · next h3 =>
        have hn : announced s.recvBuffer.data ≤ s.recvBuffer.data.length := by omega
        rw [← RecvBuffer.data_take hn]
        exact .packet _ hpc (verdict_frame.mpr (by omega))

theorem recvStepped (hok : s.recvBuffer.Ok) (h : s.step t blocks a = some s') :
    RecvStepped t blocks s a s' := by
  cases a with
  | start =>
    simp only [RecvState.step, Option.ite_none_right_eq_some, Option.some.injEq] at h
    obtain ⟨hpc, rfl⟩ := h
    exact .start hpc
  | receive bytes =>
    simp only [RecvState.step] at h
    split at h
    · next offered hpc =>
      simp only [Option.ite_none_right_eq_some, Option.some.injEq] at h
      obtain ⟨hlen, rfl⟩ := h
      exact .receive bytes offered hpc hlen
    · cases h
  | fail =>
    simp only [RecvState.step] at h
    split at h
    · next offered hpc =>
      rw [Option.some.injEq] at h
      subst h
      exact .fail offered hpc
    · cases h
  | parse =>
    simp only [RecvState.step, Option.ite_none_right_eq_some, Option.some.injEq] at h
    obtain ⟨hpc, rfl⟩ := h
    exact onRecvRound_stepped t blocks hok hpc
  | close =>
    simp only [RecvState.step, Option.some.injEq] at h
    subst h
    exact .close
  | reset =>
    simp only [RecvState.step, Option.ite_none_right_eq_some, Option.some.injEq] at h
    obtain ⟨hpc, rfl⟩ := h
    exact .reset hpc

/-! ## Messages and frames -/

/-- A memory that starts with `l`. -/
def memOf (l : List UInt8) : Nat → UInt8 := fun i => l.getD i 0

/-- What the message of a frame holds when the cipher keeps to the frame. -/
def openFrame (t : TcpSession) (frame : List UInt8) : List UInt8 :=
  match t.encryption with
  | none => frame
  | some e =>
    if headerLen < frame.length then
      frame.take headerLen ++ e.decrypt (memOf (frame.drop headerLen)) (frame.length - headerLen)
    else frame

/-- The message posted for a frame, and how far the writes into it went. -/
structure MadeOf (t : TcpSession) (frame : List UInt8) (msg : PacketMessage) : Prop where
  length : msg.length = frame.length
  bytes : (∀ e, t.encryption = some e → headerLen < frame.length →
    Exact e.decrypt (frame.length - headerLen)) → msg.bytes = openFrame t frame
  written_plain : t.encryption = none → msg.written = frame.length
  written_header : ∀ e, t.encryption = some e → frame.length ≤ headerLen → msg.written = headerLen
  written_body : ∀ e, t.encryption = some e → headerLen < frame.length →
    ∃ src, msg.written = headerLen + (e.decrypt src (frame.length - headerLen)).length

theorem readPacket_plain (he : t.encryption = none) (b : RecvBuffer) (n : Nat)
    (block : Nat → UInt8) :
    RecvState.readPacket t b n block =
      ⟨n, write block 0 (slice b.buffer b.readPos.toNat n), n⟩ := by
  simp [RecvState.readPacket, PacketMessage.allocate, PacketMessage.put, he]

/-- The bytes `Decrypt` writes for the packet at `ReadPos()`. -/
def decrypted (e : IPacketEncryption) (b : RecvBuffer) (n : Nat) : List UInt8 :=
  e.decrypt (fun i => b.buffer (b.readPos.toNat + headerLen + i)) (n - headerLen)

theorem readPacket_cipher (he : t.encryption = some e) (b : RecvBuffer) {n : Nat}
    (hn : headerLen < n) (block : Nat → UInt8) :
    RecvState.readPacket t b n block =
      ⟨n, write (write block 0 (slice b.buffer b.readPos.toNat headerLen)) headerLen
        (decrypted e b n), headerLen + (decrypted e b n).length⟩ := by
  simp [RecvState.readPacket, PacketMessage.allocate, PacketMessage.put, he, hn, decrypted]

theorem readPacket_header (he : t.encryption = some e) (b : RecvBuffer) {n : Nat}
    (hn : n ≤ headerLen) (block : Nat → UInt8) :
    RecvState.readPacket t b n block =
      ⟨n, write block 0 (slice b.buffer b.readPos.toNat headerLen), headerLen⟩ := by
  simp [RecvState.readPacket, PacketMessage.allocate, PacketMessage.put, he, Nat.not_lt.mpr hn]

/-- A cipher that keeps to the frame sees only the frame. -/
theorem decrypted_eq {n : Nat} (hn : n ≤ b.data.length) (hex : Exact e.decrypt (n - headerLen)) :
    decrypted e b n = e.decrypt (memOf ((b.data.take n).drop headerLen)) (n - headerLen) := by
  refine hex.reads _ _ fun i hi => ?_
  have hi' : headerLen + i < b.data.length := by omega
  unfold memOf
  rw [List.getD_eq_getElem?_getD, List.getElem?_drop, List.getElem?_take_of_lt (by omega),
    ← List.getD_eq_getElem?_getD, RecvBuffer.data_getD hi', Nat.add_assoc]

theorem slice_header_body (block : Nat → UInt8) {header : List UInt8} (body : List UInt8)
    (hh : header.length = headerLen) :
    slice (write (write block 0 header) headerLen body) 0 (headerLen + body.length) =
      header ++ body := by
  rw [slice_add, slice_write_before _ _ (by omega), Nat.zero_add, slice_write_self]
  have hs := slice_write_self block 0 header
  rw [hh] at hs
  rw [hs]

theorem readPacket_madeOf (t : TcpSession) {n : Nat} (hn : n ≤ b.data.length)
    (block : Nat → UInt8) : MadeOf t (b.data.take n) (RecvState.readPacket t b n block) := by
  have hframe := RecvBuffer.data_take hn
  have hlen : (b.data.take n).length = n := by rw [hframe, slice_length]
  cases he : t.encryption with
  | none =>
    rw [readPacket_plain he]
    have hs := slice_write_self block 0 (slice b.buffer b.readPos.toNat n)
    rw [slice_length] at hs
    refine ⟨hlen.symm, fun _ => ?_, fun _ => hlen.symm, fun e h => ?_, fun e h => ?_⟩
    · simp only [openFrame, he, hframe]
      exact hs
    · rw [he] at h
      cases h
    · rw [he] at h
      cases h
  | some e =>
    have hnone : t.encryption ≠ none := by rw [he]; exact Option.some_ne_none e
    by_cases hbig : headerLen < n
    · rw [readPacket_cipher he b hbig]
      refine ⟨hlen.symm, fun hex => ?_, fun h => absurd h hnone, fun e' _ hle => ?_,
        fun e' h _ => ?_⟩
      · have hexact := hex e he (hlen.symm ▸ hbig)
        rw [hlen] at hexact
        have hdec := decrypted_eq hn hexact
        have hw : (decrypted e b n).length = n - headerLen := hexact.writes _
        have hhead : b.data.take headerLen = slice b.buffer b.readPos.toNat headerLen :=
          RecvBuffer.data_take (by omega)
        have hs := slice_header_body block (decrypted e b n)
          (slice_length b.buffer b.readPos.toNat headerLen)
        rw [hw, show headerLen + (n - headerLen) = n by omega] at hs
        simp only [openFrame, he, hlen, if_pos hbig, ← hdec, List.take_take,
          Nat.min_eq_left (Nat.le_of_lt hbig), hhead]
        exact hs
      · rw [hlen] at hle
        omega
      · rw [he, Option.some.injEq] at h
        subst h
        rw [hlen]
        exact ⟨_, rfl⟩
    · have hsmall : ¬ headerLen < (b.data.take n).length := by rw [hlen]; exact hbig
      rw [readPacket_header he b (Nat.not_lt.mp hbig)]
      refine ⟨hlen.symm, fun _ => ?_, fun h => absurd h hnone, fun _ _ _ => rfl,
        fun _ _ hlt => absurd hlt hsmall⟩
      simp only [PacketMessage.bytes, openFrame, he, if_neg hsmall]
      rw [slice_write_take _ _ (by rw [slice_length]; omega),
        take_slice _ (Nat.not_lt.mp hbig), hframe]

/-! ## The invariant -/

structure RecvInv (t : TcpSession) (s : RecvState) : Prop where
  ok : s.recvBuffer.Ok
  capacity : s.recvBuffer.capacity = RecvBuffer.DEFAULT_CAPACITY
  cut : Cut (framer t.maxSize) s.received s.frames s.recvBuffer.data
  made : List.Forall₂ (MadeOf t) s.frames s.posted
  /-- outside the loop no packet is left in the buffer -/
  settled : s.pc ≠ .parsing →
    verdict t.maxSize s.recvBuffer.data = if s.refused then .refuse else .more
  reading : ∀ n, s.pc = .reading n → n = s.recvBuffer.freeSize ∧ 0 < n
  closed : s.refused = true → s.pc = .idle ∧ s.isOpen = false

theorem recvInv_init (t : TcpSession) (memory : Nat → UInt8) : RecvInv t (.init memory) where
  ok := RecvBuffer.make_ok memory
  capacity := rfl
  cut := .start
  made := .nil
  settled _ := by
    show verdict t.maxSize [] = .more
    exact verdict_more.mpr (.inl (by decide))
  reading n h := by cases h
  closed h := by cases h

theorem data_lt_capacity (hok : b.Ok) (hcap : b.capacity = RecvBuffer.DEFAULT_CAPACITY)
    (hv : verdict maxSize b.data = .more) : b.dataSize < b.capacity := by
  have hsize := hok.dataSize_eq
  have h4 : headerLen = 4 := rfl
  have hc : RecvBuffer.DEFAULT_CAPACITY = 65536 := by decide
  have hlt := announced_lt b.data
  rcases verdict_more.mp hv with h | ⟨-, -, h⟩
  · omega
  · omega

theorem startRead_of_open (h : s.isOpen = true) :
    s.startRead =
      { s with recvBuffer := s.recvBuffer.clean, pc := .reading s.recvBuffer.clean.freeSize } := by
  unfold RecvState.startRead
  rw [if_pos h]

theorem startRead_of_closed (h : s.isOpen = false) : s.startRead = { s with pc := .idle } := by
  unfold RecvState.startRead
  rw [if_neg (by rw [h]; exact Bool.false_ne_true)]

theorem onReadComplete_eq {bytes : List UInt8} (h : (bytes.length : Int) ≤ s.recvBuffer.freeSize) :
    s.onReadComplete bytes =
      { s with
        received := s.received ++ bytes
        recvBuffer := ((s.recvBuffer.fill bytes).moveWritePos bytes.length).1
        pc := .parsing } := by
  have hmove := RecvBuffer.moveWritePos_of_le (b := s.recvBuffer.fill bytes) (n := bytes.length) h
  unfold RecvState.onReadComplete
  simp only [hmove]

/-- The loop and an outstanding read are not refused. -/
theorem RecvInv.not_refused (h : RecvInv t s) (hpc : s.pc ≠ .idle) : s.refused = false := by
  cases hr : s.refused with
  | false => rfl
  | true => exact absurd (h.closed hr).1 hpc

theorem startRead_inv (h : RecvInv t s)
    (hv : verdict t.maxSize s.recvBuffer.data = if s.refused then .refuse else .more) :
    RecvInv t s.startRead := by
  cases ho : s.isOpen with
  | false =>
    rw [startRead_of_closed ho]
    exact { h with
      settled := fun _ => hv
      reading := fun n hn => by cases hn
      closed := fun hr => ⟨rfl, ho⟩ }
  | true =>
    rw [startRead_of_open ho]
    have href : s.refused = false := by
      cases hr : s.refused with
      | false => rfl
      | true => rw [(h.closed hr).2] at ho; cases ho
    have hmore : verdict t.maxSize s.recvBuffer.data = .more := by rw [hv, href]; rfl
    have hdata := RecvBuffer.clean_data s.recvBuffer
    constructor
    · exact RecvBuffer.clean_ok h.ok
    · exact (RecvBuffer.clean_capacity s.recvBuffer).trans h.capacity
    · show Cut (framer t.maxSize) s.received s.frames s.recvBuffer.clean.data
      rw [hdata]
      exact h.cut
    · exact h.made
    · intro _
      show verdict t.maxSize s.recvBuffer.clean.data = _
      rw [hdata]
      exact hv
    · intro n hn
      cases hn
      exact ⟨rfl, RecvBuffer.clean_freeSize_pos h.ok (data_lt_capacity h.ok h.capacity hmore)⟩
    · intro hr
      rw [show s.refused = true from hr] at href
      cases href

/-- **Every step keeps the received bytes together.** -/
theorem recvInv_step (h : RecvInv t s) (hs : s.step t blocks a = some s') : RecvInv t s' := by
  cases recvStepped h.ok hs with
  | start hpc => exact startRead_inv h (h.settled (by rw [hpc]; decide))
  | receive bytes offered hpc hlen =>
    obtain ⟨hfree, -⟩ := h.reading offered hpc
    have hroom : (bytes.length : Int) ≤ s.recvBuffer.freeSize := hfree ▸ hlen
    have hnot := h.not_refused (by rw [hpc]; simp)
    rw [onReadComplete_eq hroom]
    constructor
    · exact RecvBuffer.arrive_ok h.ok hroom
    · exact (RecvBuffer.moveWritePos_capacity _ _).trans h.capacity
    · show Cut (framer t.maxSize) (s.received ++ bytes) s.frames _
      rw [RecvBuffer.arrive_data h.ok hroom]
      exact h.cut.append bytes
    · exact h.made
    · intro hne
      exact absurd rfl hne
    · intro n hn
      cases hn
    · intro hr
      rw [show s.refused = true from hr] at hnot
      cases hnot
  | fail offered hpc =>
    exact { h with
      settled := fun _ => h.settled (by rw [hpc]; simp)
      reading := fun n hn => by cases hn
      closed := fun _ => ⟨rfl, rfl⟩ }
  | wait hpc hv =>
    refine startRead_inv h ?_
    rw [h.not_refused (by rw [hpc]; simp)]
    exact hv
  | refuse hpc hv =>
    exact { h with
      settled := fun _ => hv
      reading := fun n hn => by cases hn
      closed := fun _ => ⟨rfl, rfl⟩ }
  | packet n hpc hv =>
    obtain ⟨-, -, -, hle, hn⟩ := verdict_frame.mp hv
    have hle : n ≤ s.recvBuffer.data.length := hn ▸ hle
    have hsize : (n : Int) ≤ s.recvBuffer.dataSize := by rw [h.ok.dataSize_eq]; exact_mod_cast hle
    have hnot := h.not_refused (by rw [hpc]; simp)
    constructor
    · exact RecvBuffer.moveReadPos_ok h.ok hsize
    · exact (RecvBuffer.moveReadPos_capacity _ _).trans h.capacity
    · show Cut (framer t.maxSize) s.received (s.frames ++ [s.recvBuffer.data.take n]) _
      rw [RecvBuffer.moveReadPos_data h.ok hle]
      exact h.cut.frame hv
    · exact List.rel_append h.made (.cons (readPacket_madeOf t hle _) .nil)
    · intro hne
      exact absurd hpc hne
    · intro m hm
      rw [show s.pc = .reading m from hm] at hpc
      cases hpc
    · intro hr
      rw [show s.refused = true from hr] at hnot
      cases hnot
  | close =>
    exact { h with closed := fun hr => ⟨(h.closed hr).1, rfl⟩ }
  | reset hpc =>
    constructor
    · exact RecvBuffer.reset_ok h.ok
    · exact h.capacity
    · exact .start
    · exact .nil
    · intro _
      show verdict t.maxSize [] = .more
      exact verdict_more.mpr (.inl (by decide))
    · intro n hn
      rw [show s.pc = .reading n from hn] at hpc
      cases hpc
    · intro hr
      cases hr

theorem recv_inv {memory : Nat → UInt8} {as : List RecvAction}
    (hs : run (RecvState.step t blocks) (.init memory) as = some s) : RecvInv t s :=
  run_inv (RecvInv t) (fun _ _ _ => recvInv_step) (recvInv_init t memory) hs

/-! ## Framing does not depend on the chunks -/

/-- The loop of `OnRecv` ends: every round but the last takes a packet out of the buffer.  An open
session that refuses nothing then reads again. -/
theorem parse_ends (t : TcpSession) (blocks : Nat → Nat → UInt8) {s : RecvState} (h : RecvInv t s)
    (hpc : s.pc = .parsing) :
    ∃ k s', run (RecvState.step t blocks) s (List.replicate k .parse) = some s' ∧ s'.pc ≠ .parsing ∧
      s'.received = s.received ∧
      (s.isOpen = true → s'.refused = false → s'.isOpen = true ∧ ∃ n, s'.pc = .reading n) := by
  induction hn : s.recvBuffer.data.length using Nat.strong_induction_on generalizing s with
  | _ n ih =>
    have hstep : s.step t blocks .parse = some (s.onRecvRound t blocks) := by
      simp only [RecvState.step, hpc, if_pos]
    have hone : ∀ s', s.onRecvRound t blocks = s' →
        run (RecvState.step t blocks) s (List.replicate 1 .parse) = some s' := by
      rintro s' rfl
      exact run_cons_eq_some.mpr ⟨_, hstep, rfl⟩
    generalize hs' : s.onRecvRound t blocks = s' at hstep hone
    have hst := onRecvRound_stepped t blocks h.ok hpc
    rw [hs'] at hst
    cases hst with
    | wait _ hv =>
      refine ⟨1, _, hone _ rfl, ?_⟩
      cases ho : s.isOpen with
      | false => rw [startRead_of_closed ho]; exact ⟨by simp, rfl, fun h => by cases h⟩
      | true => rw [startRead_of_open ho]; exact ⟨by simp, rfl, fun _ _ => ⟨ho, _, rfl⟩⟩
    | refuse _ hv => exact ⟨1, _, hone _ rfl, by simp, rfl, fun _ h => by cases h⟩
    | packet m _ hv =>
      have h1 := (framer t.maxSize).frame_pos hv
      have h2 := (framer t.maxSize).frame_le hv
      have hlt : (s.recvBuffer.moveReadPos m).1.data.length < n := by
        rw [RecvBuffer.moveReadPos_data h.ok h2, List.length_drop]
        omega
      obtain ⟨k, s₂, hr, hrest⟩ := ih _ hlt (recvInv_step h hstep) hpc rfl
      refine ⟨k + 1, s₂, ?_, hrest⟩
      rw [List.replicate_succ]
      exact run_cons_eq_some.mpr ⟨_, hstep, hr⟩

theorem madeOf_opened {frames : List (List UInt8)} {posted : List PacketMessage}
    (h : List.Forall₂ (MadeOf t) frames posted)
    (hex : ∀ f ∈ frames, ∀ e, t.encryption = some e → headerLen < f.length →
      Exact e.decrypt (f.length - headerLen)) :
    posted.map (·.bytes) = frames.map (openFrame t) := by
  induction h with
  | nil => rfl
  | cons hm _ ih =>
    rw [List.map_cons, List.map_cons, hm.bytes (hex _ List.mem_cons_self),
      ih fun f hf => hex f (List.mem_cons_of_mem _ hf)]

theorem madeOf_plain (he : t.encryption = none) {frames : List (List UInt8)}
    {posted : List PacketMessage} (h : List.Forall₂ (MadeOf t) frames posted) :
    posted.map (·.bytes) = frames := by
  have hid : openFrame t = id := by
    funext f
    simp [openFrame, he]
  rw [madeOf_opened h fun f _ e h => absurd (he.symm.trans h) (Option.some_ne_none e).symm,
    hid, List.map_id]

/-- **Framing is independent of chunking.** In every state a connection can be in: the frames posted
so far followed by the bytes in the buffer are the bytes received; each posted message is made of
its frame; and between two completions the frames, the bytes left over and the decision to close are
those of cutting all the bytes received at once.  The loop of `OnRecv` gets there. -/
theorem framing_independent (t : TcpSession) (blocks : Nat → Nat → UInt8) (memory : Nat → UInt8)
    (as : List RecvAction) {s : RecvState}
    (hs : run (RecvState.step t blocks) (.init memory) as = some s) :
    s.frames.flatten ++ s.recvBuffer.data = s.received ∧
    List.Forall₂ (MadeOf t) s.frames s.posted ∧
    (t.encryption = none → s.posted.map (·.bytes) = s.frames) ∧
    (s.pc ≠ .parsing →
      parse (framer t.maxSize) s.received = ⟨s.frames, s.recvBuffer.data, s.refused⟩) ∧
    (s.refused = true → s.isOpen = false) ∧
    (s.pc = .parsing → ∃ k s', run (RecvState.step t blocks) s (List.replicate k .parse) = some s' ∧
      s'.pc ≠ .parsing ∧ s'.received = s.received) := by
  have h := recv_inv hs
  refine ⟨h.cut.flatten, h.made, fun he => madeOf_plain he h.made,
    fun hpc => h.cut.parse_end _ (h.settled hpc), fun hr => (h.closed hr).2, fun hpc => ?_⟩
  obtain ⟨k, s', hrun, hne, hrec, -⟩ := parse_ends t blocks h hpc
  exact ⟨k, s', hrun, hne, hrec⟩

/-- A packet in two pieces, with the first byte of the next one behind it. -/
theorem framing_independent_two_chunks :
    ∃ s, run (RecvState.step (.gateway none) fun _ _ => 0) (.init fun _ => 0)
        [.start, .receive [6, 0], .parse, .receive [1, 0, 65, 66, 9], .parse, .parse] = some s ∧
      s.posted.map (·.bytes) = [[6, 0, 1, 0, 65, 66]] ∧
      parse (framer 65535) [6, 0, 1, 0, 65, 66, 9] = ⟨[[6, 0, 1, 0, 65, 66]], [9], false⟩ := by
  refine exists_run_and ⟨_, rfl, by decide⟩ fun s hs => ?_
  have h := framing_independent (.gateway none) (fun _ _ => 0) (fun _ => 0) _ hs
  cases hs
  exact h.2.2.2.1 (by decide)

/-! ## The loop never stalls -/

/-- A piece of a stream that is not refused arrives, and the session comes back to reading. -/
theorem receive_chunk (blocks : Nat → Nat → UInt8) (h : RecvInv t s) {offered : Int}
    (hpc : s.pc = .reading offered) (ho : s.isOpen = true) {chunk : List UInt8}
    (hlen : chunk.length ≤ offered) (rest : List UInt8)
    (hp : (parse (framer t.maxSize) (s.received ++ chunk ++ rest)).refused = false) :
    ∃ k s', run (RecvState.step t blocks) s (.receive chunk :: List.replicate k .parse) = some s' ∧
      s'.isOpen = true ∧ (∃ n, s'.pc = .reading n) ∧ s'.received = s.received ++ chunk := by
  obtain ⟨hfree, -⟩ := h.reading offered hpc
  have hstep : s.step t blocks (.receive chunk) = some (s.onReadComplete chunk) := by
    simp only [RecvState.step, hpc]
    rw [if_pos hlen]
  have h₁ := recvInv_step h hstep
  rw [onReadComplete_eq (hfree ▸ hlen)] at hstep h₁
  obtain ⟨k, s', hrun, hne, hrec, hread⟩ := parse_ends t blocks h₁ rfl
  have h' : RecvInv t s' := run_inv (RecvInv t) (fun _ _ _ => recvInv_step) h₁ hrun
  have hnot : s'.refused = false := by
    cases hr : s'.refused with
    | false => rfl
    | true =>
      -- a refusal would stand with the rest behind it
      have hv := h'.settled hne
      rw [hr] at hv
      have hall := (h'.cut.append rest).parse_end true
        ((framer t.maxSize).refuse_append rest hv)
      rw [hrec, show _ ++ rest = s.received ++ chunk ++ rest from rfl] at hall
      rw [hall] at hp
      cases hp
  obtain ⟨ho', hreading⟩ := hread ho hnot
  exact ⟨k, s', run_cons_eq_some.mpr ⟨_, hstep, hrun⟩, ho', hreading, hrec⟩

/-- A stream that is not refused can be fed to an open session, byte by byte if need be. -/
theorem can_feed (t : TcpSession) (blocks : Nat → Nat → UInt8) (rest : List UInt8) :
    ∀ {s : RecvState} {offered : Int}, RecvInv t s → s.pc = .reading offered → s.isOpen = true →
      (parse (framer t.maxSize) (s.received ++ rest)).refused = false →
      ∃ as s', run (RecvState.step t blocks) s as = some s' ∧
        (∀ a ∈ as, a = .parse ∨ ∃ x, a = .receive [x]) ∧ s'.received = s.received ++ rest ∧
        ∃ n, s'.pc = .reading n := by
  induction rest with
  | nil =>
    intro s offered h hpc ho hp
    exact ⟨[], s, rfl, fun _ ha => absurd ha List.not_mem_nil,
      (List.append_nil _).symm, offered, hpc⟩
  | cons x rest ih =>
    intro s offered h hpc ho hp
    have hlen : (([x] : List UInt8).length : Int) ≤ offered := (h.reading offered hpc).2
    have hp₁ : (parse (framer t.maxSize) (s.received ++ [x] ++ rest)).refused = false := by
      rw [List.append_assoc]
      exact hp
    obtain ⟨k, s₁, hrun₁, ho₁, ⟨n, hpc₁⟩, hrec₁⟩ := receive_chunk blocks h hpc ho hlen rest hp₁
    have h₁ : RecvInv t s₁ := run_inv (RecvInv t) (fun _ _ _ => recvInv_step) h hrun₁
    rw [← hrec₁] at hp₁
    obtain ⟨as, s', hrun, has, hrec, hreading⟩ := ih h₁ hpc₁ ho₁ hp₁
    refine ⟨(.receive [x] :: List.replicate k .parse) ++ as, s',
      run_append_eq_some.mpr ⟨s₁, hrun₁, hrun⟩, ?_, ?_, hreading⟩
    · intro a ha
      rcases List.mem_append.mp ha with ha | ha
      · rcases List.mem_cons.mp ha with rfl | ha
        · exact .inr ⟨x, rfl⟩
        · exact .inl (List.eq_of_mem_replicate ha)
      · exact has a ha
    · rw [hrec, hrec₁]
      simp

/-- An open session that waits for the rest of a packet posts it when the rest comes, byte by byte
if need be. -/
theorem can_complete (blocks : Nat → Nat → UInt8) (h : RecvInv t s) {offered : Int}
    (hpc : s.pc = .reading offered) (ho : s.isOpen = true) {rest : List UInt8}
    (hv : verdict t.maxSize (s.recvBuffer.data ++ rest) =
      .frame (s.recvBuffer.data ++ rest).length) :
    ∃ as s', run (RecvState.step t blocks) s as = some s' ∧
      (∀ a ∈ as, a = .parse ∨ ∃ x, a = .receive [x]) ∧ s'.received = s.received ++ rest ∧
      s'.frames = s.frames ++ [s.recvBuffer.data ++ rest] := by
  have hcut := (h.cut.append rest).frame hv
  rw [List.take_length, List.drop_length] at hcut
  have hnil : verdict t.maxSize [] = .more := verdict_more.mpr (.inl (by decide))
  have hall := hcut.parse_end false hnil
  obtain ⟨as, s', hrun, has, hrec, n, hpc'⟩ := can_feed t blocks rest h hpc ho (by rw [hall])
  refine ⟨as, s', hrun, has, hrec, ?_⟩
  have h' : RecvInv t s' := run_inv (RecvInv t) (fun _ _ _ => recvInv_step) h hrun
  have hframes := h'.cut.parse_end _ (h'.settled (by rw [hpc']; simp))
  rw [hrec, hall] at hframes
  exact (congrArg Parsed.frames hframes).symm

/-- **The receive loop never stalls.**  In every reachable state the positions are in order and an
outstanding read has room; and whatever has come of a packet, the rest of it can come. -/
theorem recv_never_stalls (t : TcpSession) (blocks : Nat → Nat → UInt8) (memory : Nat → UInt8)
    (as : List RecvAction) {s : RecvState}
    (hs : run (RecvState.step t blocks) (.init memory) as = some s) :
    (0 ≤ s.recvBuffer.readPos ∧ s.recvBuffer.readPos ≤ s.recvBuffer.writePos ∧
      s.recvBuffer.writePos ≤ s.recvBuffer.capacity) ∧
    (∀ offered, s.pc = .reading offered → offered = s.recvBuffer.freeSize ∧ 0 < offered) ∧
    (∀ offered rest, s.pc = .reading offered → s.isOpen = true →
      verdict t.maxSize (s.recvBuffer.data ++ rest) = .frame (s.recvBuffer.data ++ rest).length →
      ∃ as' s', run (RecvState.step t blocks) s as' = some s' ∧
        (∀ a ∈ as', a = .parse ∨ ∃ x, a = .receive [x]) ∧ s'.received = s.received ++ rest ∧
        s'.frames = s.frames ++ [s.recvBuffer.data ++ rest]) := by
  have h := recv_inv hs
  exact ⟨⟨h.ok.read_nonneg, h.ok.read_le_write, h.ok.write_le⟩, h.reading,
    fun _ _ hpc ho hv => can_complete blocks h hpc ho hv⟩

/-- A packet of the largest size has begun; the buffer still offers room. -/
theorem recv_never_stalls_begun :
    ∃ s, run (RecvState.step .backend fun _ _ => 0) (.init fun _ => 0)
        [.start, .receive [0, 40, 1, 0, 7], .parse] = some s ∧
      s.pc = .reading 65531 ∧ (65531 : Int) = s.recvBuffer.freeSize ∧ (0 : Int) < 65531 := by
  have h := recv_never_stalls .backend (fun _ _ => 0) (fun _ => 0)
    [.start, .receive [0, 40, 1, 0, 7], .parse] rfl
  exact ⟨_, rfl, rfl, h.2.1 65531 rfl⟩

end ToyServer
