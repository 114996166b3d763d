import ToyServer.Session.WellFormed

/-!
# What `GatewaySession::Flush` writes, and what the peer makes of it

`Flush` takes a batch from the send queue and puts the packets one behind the other into
`_linearBuffer`: as they are, or with the header in plain and the body encrypted.  The buffer
is as long as the packets together, so a cipher that writes more than it is asked to writes
into the next packet's slot or past the end of the buffer; one that reads more sees what the
pool block held behind the packet.

* `roundtrip_of_carries`: with a cipher that keeps to its length and can be undone, every peer
  with the same setting posts the packets again, whatever the batches and the chunks;
* `xor_channel_roundtrip`: this holds without a cipher and with `XorEncryption`;
* `aes_channel_iff`: with `AesEncryption` it holds exactly for bodies of whole blocks.
-/

namespace ToyServer

open Mem Framing Runs

/-! ## Linearising a batch -/

/-- The place of a packet in the linear buffer, and how far the writes for it went. -/
structure Slot where
  destPtr : Nat
  pktSize : Nat
  written : Nat
deriving DecidableEq, Repr

/-- The memory at `_linearBuffer.data()`, on past the end of the vector. -/
structure LinearBuffer where
  memory : Nat → UInt8
  slots : List Slot

/-- One packet of the loop: the memory, and how many bytes were written from `destPtr` on. -/
def linearizePacket (e : Option IPacketEncryption) (memory : Nat → UInt8) (destPtr : Nat)
    (msg : PacketMessage) : (Nat → UInt8) × Nat :=
  let pktSize := msg.length
  match e with
  | none => (write memory destPtr (slice msg.data 0 pktSize), pktSize)
  | some e =>
    let memory := write memory destPtr (slice msg.data 0 headerLen)
    if pktSize > headerLen then
      let out := e.encrypt (fun i => msg.data (headerLen + i)) (pktSize - headerLen)
      (write memory (destPtr + headerLen) out, headerLen + out.length)
    else (memory, headerLen)

def linearizeLoop (e : Option IPacketEncryption) :
    List PacketMessage → Nat → LinearBuffer → LinearBuffer
  | [], _, b => b
  | msg :: tempItems, destPtr, b =>
    let (memory, written) := linearizePacket e b.memory destPtr msg
    linearizeLoop e tempItems (destPtr + msg.length) ⟨memory,
      b.slots ++ [⟨destPtr, msg.length, written⟩]⟩

def MAX_BATCH_SIZE : Nat := 1000

/-- A call of `Flush` that found packets: what `try_dequeue_bulk` gave, and what the memory
behind the linear buffer holds. -/
structure FlushCall where
  tempItems : List PacketMessage
  count_pos : 0 < tempItems.length
  count_le : tempItems.length ≤ MAX_BATCH_SIZE
  heap : Nat → UInt8

namespace FlushCall

def totalSize (call : FlushCall) : Nat := (call.tempItems.map (·.length)).sum

variable (e : Option IPacketEncryption) (call : FlushCall)

/-- `clear()`, `resize(totalSize)` and the loop. -/
def linearize : LinearBuffer :=
  linearizeLoop e call.tempItems 0 ⟨fun i => if i < call.totalSize then 0 else call.heap i, []⟩

def wire : List UInt8 :=
  slice (call.linearize e).memory 0 call.totalSize

end FlushCall

/-- The packets of some calls of `Flush`, in order. -/
def packetsOf (calls : List FlushCall) : List PacketMessage := calls.flatMap (·.tempItems)

section
variable (e : Option IPacketEncryption)

def wireOf (calls : List FlushCall) : List UInt8 := calls.flatMap (·.wire e)

/-! ## What a channel should do -/

/-- A packet whose header says how long it is. -/
structure Sendable (msg : PacketMessage) : Prop where
  header : headerLen ≤ msg.length
  size : headerSize msg.data 0 = msg.length

/-- The bytes written depend on the packets only. -/
def DependsOnPackets (call : FlushCall) : Prop :=
  ∀ call' : FlushCall, call'.tempItems.map (·.bytes) = call.tempItems.map (·.bytes) →
    call'.wire e = call.wire e

/-- No packet is written outside its slot. -/
def InsideSlots (call : FlushCall) : Prop :=
  ∀ slot ∈ (call.linearize e).slots, slot.written ≤ slot.pktSize

/-- A gateway session with the same setting that has received the bytes of these calls, and is
through its loop, has posted their packets; and it can receive those bytes. -/
def RoundTrips (calls : List FlushCall) : Prop :=
  ∀ (blocks : Nat → Nat → UInt8) (memory : Nat → UInt8),
    (∀ as s, run (RecvState.step (.gateway e) blocks) (.init memory) as = some s →
      s.received = wireOf e calls → s.pc ≠ .parsing →
      s.posted.map (·.bytes) = (packetsOf calls).map (·.bytes) ∧ s.refused = false) ∧
    ∃ as s, run (RecvState.step (.gateway e) blocks) (.init memory) as = some s ∧
      s.received = wireOf e calls ∧ s.pc ≠ .parsing

/-! ## The bytes of one packet -/

/-- A packet as it is written. -/
def sealPacket (msg : PacketMessage) : List UInt8 :=
  match e with
  | none => msg.bytes
  | some e =>
    slice msg.data 0 headerLen ++
      if msg.length > headerLen then
        e.encrypt (fun i => msg.data (headerLen + i)) (msg.length - headerLen)
      else []

/-- Copying the header and encrypting behind it is one write. -/
theorem linearizePacket_eq (memory : Nat → UInt8) (destPtr : Nat) (msg : PacketMessage) :
    linearizePacket e memory destPtr msg =
      (write memory destPtr (sealPacket e msg), (sealPacket e msg).length) := by
  cases e with
  | none => simp [linearizePacket, sealPacket, PacketMessage.bytes]
  | some e =>
    simp only [linearizePacket, sealPacket]
    split
    · have happ := write_append memory destPtr (slice msg.data 0 headerLen)
        (e.encrypt (fun i => msg.data (headerLen + i)) (msg.length - headerLen))
      rw [slice_length] at happ
      rw [happ, List.length_append, slice_length]
    · rw [List.append_nil, slice_length]

theorem linearizeLoop_slots (tempItems : List PacketMessage) (destPtr : Nat) (b : LinearBuffer) :
    (∀ slot ∈ (linearizeLoop e tempItems destPtr b).slots, slot.written ≤ slot.pktSize) ↔
      (∀ slot ∈ b.slots, slot.written ≤ slot.pktSize) ∧
        ∀ msg ∈ tempItems, (sealPacket e msg).length ≤ msg.length := by
  induction tempItems generalizing destPtr b with
  | nil => simp [linearizeLoop]
  | cons msg tempItems ih =>
    simp only [linearizeLoop, linearizePacket_eq]
    rw [ih]
    simp only [List.forall_mem_append, List.forall_mem_singleton, List.forall_mem_cons, and_assoc]

/-- Packets that keep to their slots stand one behind the other. -/
theorem linearizeLoop_memory (tempItems : List PacketMessage) (destPtr : Nat)
    (b : LinearBuffer) (h : ∀ msg ∈ tempItems, (sealPacket e msg).length = msg.length) :
    (linearizeLoop e tempItems destPtr b).memory =
      write b.memory destPtr (tempItems.flatMap (sealPacket e)) := by
  induction tempItems generalizing destPtr b with
  | nil =>
    funext a
    simp [linearizeLoop, write]
  | cons msg tempItems ih =>
    have hlen := h msg List.mem_cons_self
    simp only [linearizeLoop, linearizePacket_eq]
    rw [ih _ _ fun m hm => h m (List.mem_cons_of_mem _ hm), ← hlen, write_append, List.flatMap_cons]

end

theorem wire_eq {e : Option IPacketEncryption} {call : FlushCall}
    (h : ∀ msg ∈ call.tempItems, (sealPacket e msg).length = msg.length) :
    call.wire e = call.tempItems.flatMap (sealPacket e) := by
  have htotal : call.totalSize = (call.tempItems.flatMap (sealPacket e)).length := by
    unfold FlushCall.totalSize
    rw [List.length_flatMap]
    exact congrArg List.sum (List.map_congr_left fun msg hmsg => (h msg hmsg).symm)
  unfold FlushCall.wire FlushCall.linearize
  rw [linearizeLoop_memory e _ _ _ h, htotal, slice_write_self]

theorem wireOf_eq {e : Option IPacketEncryption} {calls : List FlushCall}
    (h : ∀ msg ∈ packetsOf calls, (sealPacket e msg).length = msg.length) :
    wireOf e calls = ((packetsOf calls).map (sealPacket e)).flatten := by
  rw [← List.flatMap_def]
  unfold wireOf packetsOf
  rw [List.flatMap_assoc]
  refine List.flatMap_congr fun call hcall => wire_eq fun msg hmsg => h msg ?_
  exact List.mem_flatMap.mpr ⟨call, hcall, hmsg⟩

/-! ## Ciphers that carry a body -/

/-- The cipher keeps to `n` bytes in both directions and can be undone. -/
structure Carries (e : IPacketEncryption) (n : Nat) : Prop where
  encrypt : Exact e.encrypt n
  decrypt : Exact e.decrypt n
  roundtrip : ∀ {src dest : Nat → UInt8}, slice dest 0 n = e.encrypt src n →
    e.decrypt dest n = slice src 0 n

/-- The setting can carry the packet. -/
structure CarriesPacket (e : Option IPacketEncryption) (msg : PacketMessage) :
    Prop extends Sendable msg where
  body : ∀ c, e = some c → Carries c (msg.length - headerLen)

theorem xor_carries (key : UInt8) (n : Nat) : Carries (xorEncryption key) n :=
  ⟨xor_encrypt_exact key n, xor_decrypt_exact key n, xor_roundtrip key⟩

theorem aes_carries (key iv : AesEncryption.Block) {n : Nat} (hn : n % 16 = 0) :
    Carries (aesEncryption key iv) n :=
  ⟨(aes_encrypt_exact key iv n).mpr hn, (aes_decrypt_exact key iv n).mpr hn,
    aes_roundtrip key iv hn⟩

variable {e : Option IPacketEncryption} {msg : PacketMessage}

section

variable (h : CarriesPacket e msg)
include h

theorem CarriesPacket.seal_length : (sealPacket e msg).length = msg.length := by
  have hheader := h.header
  cases e with
  | none => simp [sealPacket, PacketMessage.bytes]
  | some c =>
    simp only [sealPacket]
    split
    · rw [List.length_append, slice_length, (h.body c rfl).encrypt.writes]
      omega
    · rw [List.append_nil, slice_length]
      omega

theorem CarriesPacket.seal_take :
    (sealPacket e msg).take headerLen = slice msg.data 0 headerLen := by
  cases e with
  | none => exact take_slice _ h.header
  | some c => exact List.take_left' (slice_length _ _ _)

theorem CarriesPacket.announced_seal : announced (sealPacket e msg) = msg.length := by
  have happ := announced_append ((sealPacket e msg).drop headerLen)
    (l := (sealPacket e msg).take headerLen) (by rw [h.seal_take, slice_length])
  rw [List.take_append_drop, h.seal_take] at happ
  rw [happ]
  exact h.size

theorem CarriesPacket.seal_congr {msg' : PacketMessage} (hb : msg'.bytes = msg.bytes) :
    sealPacket e msg' = sealPacket e msg := by
  have hlen : msg'.length = msg.length := by
    have := congrArg List.length hb
    simpa [PacketMessage.bytes] using this
  have hdata : ∀ i, i < msg.length → msg'.data i = msg.data i := by
    intro i hi
    have hget := congrArg (·[i]?) hb
    simp only [PacketMessage.bytes, hlen, getElem?_slice _ hi, Option.some.injEq,
      Nat.zero_add] at hget
    exact hget
  cases e with
  | none => exact hb
  | some c =>
    have hheader := h.header
    have hhead : slice msg'.data 0 headerLen = slice msg.data 0 headerLen :=
      slice_congr fun i hi => hdata _ (by omega)
    simp only [sealPacket, hhead, hlen]
    split
    · rw [(h.body c rfl).encrypt.reads _ _ fun i hi => hdata _ (by omega)]
    · rfl

theorem CarriesPacket.open_seal : openFrame (.gateway e) (sealPacket e msg) = msg.bytes := by
  have hlen := h.seal_length
  have hheader := h.header
  cases e with
  | none => rfl
  | some c =>
    have hc := h.body c rfl
    simp only [openFrame, TcpSession.encryption, hlen]
    by_cases hbig : headerLen < msg.length
    · have hseal : sealPacket (some c) msg = slice msg.data 0 headerLen ++
          c.encrypt (fun i => msg.data (headerLen + i)) (msg.length - headerLen) := by
        simp only [sealPacket, gt_iff_lt, if_pos hbig]
      have hbody : (sealPacket (some c) msg).drop headerLen =
          c.encrypt (fun i => msg.data (headerLen + i)) (msg.length - headerLen) := by
        rw [hseal, List.drop_left' (slice_length _ _ _)]
      have hmem : slice (memOf ((sealPacket (some c) msg).drop headerLen)) 0
          (msg.length - headerLen) =
          c.encrypt (fun i => msg.data (headerLen + i)) (msg.length - headerLen) := by
        rw [hbody]
        have hw := hc.encrypt.writes fun i => msg.data (headerLen + i)
        refine List.ext_getElem (by rw [slice_length, hw]) fun i h1 h2 => ?_
        simp [slice, memOf, List.getElem?_eq_getElem h2]
      rw [if_pos hbig, h.seal_take, hc.roundtrip hmem]
      have hsplit : msg.length = headerLen + (msg.length - headerLen) := by omega
      unfold PacketMessage.bytes
      conv_rhs => rw [hsplit, slice_add]
      congr 1
      exact slice_congr fun i _ => by simp
    · have heq : msg.length = headerLen := by omega
      have htake : (sealPacket (some c) msg).take headerLen = sealPacket (some c) msg :=
        List.take_of_length_le (by omega)
      rw [if_neg hbig, ← htake, h.seal_take]
      unfold PacketMessage.bytes
      rw [heq]

end

/-! ## The channel -/

variable {calls : List FlushCall}

theorem CarriesPacket.verdict_seal (h : CarriesPacket e msg) :
    verdict 65535 (sealPacket e msg) = .frame (sealPacket e msg).length := by
  have hheader := h.header
  have hann := h.announced_seal
  have hlt := announced_lt (sealPacket e msg)
  have h4 : headerLen = 4 := rfl
  rw [h.seal_length, verdict_frame, h.seal_length]
  omega

theorem parse_wireOf (h : ∀ msg ∈ packetsOf calls, CarriesPacket e msg) :
    parse (framer 65535) (wireOf e calls) = ⟨(packetsOf calls).map (sealPacket e), [], false⟩ := by
  have hnil : verdict 65535 [] = .more := verdict_more.mpr (.inl (by decide))
  have hcut : Cut (framer 65535) (((packetsOf calls).map (sealPacket e)).flatten ++ [])
      ((packetsOf calls).map (sealPacket e)) [] := by
    refine Cut.of_frames _ [] fun f hf => ?_
    obtain ⟨msg, hmsg, rfl⟩ := List.mem_map.mp hf
    exact (h msg hmsg).verdict_seal
  rw [wireOf_eq fun msg hmsg => (h msg hmsg).seal_length]
  rw [List.append_nil] at hcut
  exact hcut.parse_end false hnil

/-- Packets the setting carries come out at the other end. -/
theorem roundtrip_of_carries (h : ∀ msg ∈ packetsOf calls, CarriesPacket e msg) :
    RoundTrips e calls := by
  intro blocks memory
  have hparse := parse_wireOf h
  constructor
  · intro as s hs hrec hpc
    have hinv := recv_inv hs
    have hend := hinv.cut.parse_end _ (hinv.settled hpc)
    rw [hrec] at hend
    have hall := hparse.symm.trans hend
    have hframes : (packetsOf calls).map (sealPacket e) = s.frames := congrArg Parsed.frames hall
    refine ⟨?_, (congrArg Parsed.refused hall).symm⟩
    rw [madeOf_opened hinv.made, ← hframes, List.map_map]
    · exact List.map_congr_left fun msg hmsg => (h msg hmsg).open_seal
    · intro f hf c hc hlong
      rw [← hframes] at hf
      obtain ⟨msg, hmsg, rfl⟩ := List.mem_map.mp hf
      rw [(h msg hmsg).seal_length]
      exact ((h msg hmsg).body c hc).decrypt
  · have hinit := recvInv_init (.gateway e) memory
    have hstart : (RecvState.init memory).step (.gateway e) blocks .start =
        some (RecvState.init memory).startRead := rfl
    have hp : (parse (framer 65535) ([] ++ wireOf e calls)).refused = false := by
      rw [List.nil_append, hparse]
    obtain ⟨as, s, hrun, -, hrec, n, hpc⟩ := can_feed (.gateway e) blocks (wireOf e calls)
      (recvInv_step hinit hstart) rfl rfl hp
    exact ⟨.start :: as, s, run_cons_eq_some.mpr ⟨_, hstart, hrun⟩, hrec, by rw [hpc]; simp⟩

/-- **The plain and the XOR channel.**  Packets that say how long they are come out at the other
end as they were, for every key, every grouping into calls of `Flush`, and every chunking. -/
theorem xor_channel_roundtrip (key : Option UInt8) (calls : List FlushCall)
    (h : ∀ msg ∈ packetsOf calls, Sendable msg) : RoundTrips (key.map xorEncryption) calls := by
  refine roundtrip_of_carries fun msg hmsg => ⟨h msg hmsg, fun c hc => ?_⟩
  obtain ⟨k, -, rfl⟩ := Option.map_eq_some_iff.mp hc
  exact xor_carries k _

/-- Three packets in two calls under the default key. -/
theorem xor_channel_three_packets :
    RoundTrips (some (xorEncryption 0xA5))
      [⟨[⟨5, memOf [5, 0, 7, 0, 65], 5⟩,
        ⟨4, memOf [4, 0, 8, 0], 4⟩], by decide, by decide, fun _ => 0⟩,
        ⟨[⟨6, memOf [6, 0, 7, 0, 66, 67], 6⟩], by decide, by decide, fun _ => 0⟩] := by
  refine xor_channel_roundtrip (some 0xA5) _ fun msg hmsg => ?_
  simp only [packetsOf, List.flatMap_cons, List.flatMap_nil, List.append_nil, List.cons_append,
    List.nil_append, List.mem_cons, List.not_mem_nil, or_false] at hmsg
  rcases hmsg with rfl | rfl | rfl <;> exact ⟨by decide, by decide⟩

/-! ## The AES channel -/

theorem seals_congr {msgs msgs' : List PacketMessage} (h : ∀ msg ∈ msgs, CarriesPacket e msg)
    (hb : msgs'.map (·.bytes) = msgs.map (·.bytes)) :
    msgs'.flatMap (sealPacket e) = msgs.flatMap (sealPacket e) ∧
      ∀ msg ∈ msgs', (sealPacket e msg).length = msg.length := by
  induction msgs generalizing msgs' with
  | nil =>
    rw [List.map_nil, List.map_eq_nil_iff] at hb
    subst hb
    exact ⟨rfl, fun _ hm => absurd hm List.not_mem_nil⟩
  | cons msg msgs ih =>
    obtain ⟨msg', rest', rfl, hmsg, hrest⟩ := List.map_eq_cons_iff.mp hb
    have hc := h msg List.mem_cons_self
    have hseal := hc.seal_congr hmsg
    obtain ⟨hflat, hlens⟩ := ih (fun m hm => h m (List.mem_cons_of_mem _ hm)) hrest
    refine ⟨by rw [List.flatMap_cons, List.flatMap_cons, hseal, hflat],
      List.forall_mem_cons.mpr ⟨?_, hlens⟩⟩
    have hlen := congrArg List.length hmsg
    simp only [PacketMessage.bytes, slice_length] at hlen
    rw [hseal, hc.seal_length, hlen]

theorem dependsOnPackets_of_carries {call : FlushCall}
    (h : ∀ msg ∈ call.tempItems, CarriesPacket e msg) : DependsOnPackets e call := by
  intro call' hb
  obtain ⟨hflat, hlens⟩ := seals_congr h hb
  rw [wire_eq hlens, hflat, wire_eq fun msg hmsg => (h msg hmsg).seal_length]

theorem insideSlots_iff (e : Option IPacketEncryption) (call : FlushCall) :
    InsideSlots e call ↔ ∀ msg ∈ call.tempItems, (sealPacket e msg).length ≤ msg.length := by
  unfold InsideSlots FlushCall.linearize
  rw [linearizeLoop_slots]
  simp

theorem aes_seal_length (key iv : AesEncryption.Block) (hmsg : headerLen ≤ msg.length) :
    (sealPacket (some (aesEncryption key iv)) msg).length ≤ msg.length ↔
    (msg.length - headerLen) % 16 = 0 := by
  rw [← AesEncryption.rounds_eq_iff]
  have hle := AesEncryption.le_rounds (msg.length - headerLen)
  simp only [sealPacket]
  split
  · rw [List.length_append, slice_length, aes_encrypt_length]
    omega
  · next hsmall =>
    have hzero : msg.length - headerLen = 0 := by omega
    rw [List.append_nil, slice_length, hzero]
    exact ⟨fun _ => rfl, fun _ => hmsg⟩

/-- **The AES channel.**  What a call of `Flush` writes depends on its packets only, stays inside
their slots and gives the packets back at the other end exactly when every body is a multiple
of 16 bytes. -/
theorem aes_channel_iff (key iv : AesEncryption.Block) (call : FlushCall)
    (h : ∀ msg ∈ call.tempItems, Sendable msg) :
    DependsOnPackets (some (aesEncryption key iv)) call ∧
        InsideSlots (some (aesEncryption key iv)) call ∧
        RoundTrips (some (aesEncryption key iv)) [call] ↔
      ∀ msg ∈ call.tempItems, (msg.length - headerLen) % 16 = 0 := by
  have hinside : InsideSlots (some (aesEncryption key iv)) call ↔
      ∀ msg ∈ call.tempItems, (msg.length - headerLen) % 16 = 0 := by
    rw [insideSlots_iff]
    exact forall₂_congr fun msg hmsg => aes_seal_length key iv (h msg hmsg).header
  refine ⟨fun hall => hinside.mp hall.2.1, fun hwhole => ?_⟩
  have hcarries : ∀ msg ∈ call.tempItems, CarriesPacket (some (aesEncryption key iv)) msg := by
    refine fun msg hmsg => ⟨h msg hmsg, fun c hc => ?_⟩
    cases hc
    exact aes_carries key iv (hwhole msg hmsg)
  refine ⟨dependsOnPackets_of_carries hcarries, hinside.mpr hwhole, roundtrip_of_carries ?_⟩
  simpa [packetsOf] using hcarries

/-- A packet of 20 bytes and one without a body. -/
theorem aes_channel_whole_blocks :
    RoundTrips (some (aesEncryption (Vector.replicate 16 1) (Vector.replicate 16 2)))
      [⟨[⟨20, memOf [20, 0, 7, 0, 65], 20⟩,
        ⟨4, memOf [4, 0, 8, 0], 4⟩], by decide, by decide, fun _ => 0⟩] := by
  refine ((aes_channel_iff _ _ _ ?_).mpr ?_).2.2
  · intro msg hmsg
    simp only [List.mem_cons, List.not_mem_nil, or_false] at hmsg
    rcases hmsg with rfl | rfl <;> exact ⟨by decide, by decide⟩
  · intro msg hmsg
    simp only [List.mem_cons, List.not_mem_nil, or_false] at hmsg
    rcases hmsg with rfl | rfl <;> rfl

/-- One packet with a body of one byte, in a block that holds `stale` behind it. -/
def oneByteCall (stale : UInt8) : FlushCall :=
  ⟨[⟨5, memOf [5, 0, 7, 0, 65, stale], 5⟩], Nat.one_pos, by simp [MAX_BATCH_SIZE], fun _ => 0⟩

def sampleAes : Option IPacketEncryption :=
  some (aesEncryption (Vector.replicate 16 1) (Vector.replicate 16 2))

/-- The byte on the wire changes with what is behind the packet, 20 bytes are written into a slot of
5, and the peer posts something else. -/
theorem aes_channel_broken :
    (oneByteCall 0).tempItems.map (·.bytes) = (oneByteCall 1).tempItems.map (·.bytes) ∧
    (oneByteCall 0).wire sampleAes ≠ (oneByteCall 1).wire sampleAes ∧
    ((oneByteCall 0).linearize sampleAes).slots = [⟨0, 5, 20⟩] ∧
    ∃ s, run (RecvState.step (.gateway sampleAes) fun _ _ => 0) (.init fun _ => 0)
        [.start, .receive ((oneByteCall 0).wire sampleAes), .parse, .parse] = some s ∧
      s.posted.map (·.bytes) ≠ (oneByteCall 0).tempItems.map (·.bytes) := by
  exact ⟨by decide, by decide +kernel, by decide +kernel, _, rfl, by decide +kernel⟩

end ToyServer
