import ToyServer.Network.Aes
import ToyServer.Session.Recv

/-!
# Which packets the sessions post

`OnRecv` closes the connection for an announced size of 0 and for one above the limit.  The
sizes 1 to 3 pass both checks although they cannot hold the header that announces them: the
packet is posted, with a cipher the four header bytes are copied into it all the same, and
the loop goes on in the middle of that header.  `AesEncryption::Decrypt` writes whole blocks
whatever length it is given.

`posts_wellFormed_iff` says that these are the only ways: the posted packets are well formed
exactly when the peer sent packets that hold their header and, under AES, have a body of
whole blocks.
-/

namespace ToyServer

open Mem Framing Runs

/-! ## The sessions a server has -/

/-- `encType` in `Framework::Init`, with the key and iv it puts together. -/
inductive EncType where
  | none
  | xor (key : UInt8)
  | aes (key iv : AesEncryption.Block)

/-- What the encryption factory makes. -/
def EncType.make : EncType → Option IPacketEncryption
  | .none => .none
  | .xor key => some (xorEncryption key)
  | .aes key iv => some (aesEncryption key iv)

inductive ServerSession where
  | gateway (encType : EncType)
  | backend

namespace ServerSession

def tcp : ServerSession → TcpSession
  | gateway encType => .gateway encType.make
  | backend => .backend

/-- Bodies of `n` bytes are whole blocks of the cipher. -/
def WholeBody : ServerSession → Nat → Prop
  | gateway (.aes _ _), n => n % 16 = 0
  | _, _ => True

end ServerSession

/-! ## Well-formed packets and streams -/

/-- The verdict a header deserves: one that announces less than itself is refused. -/
def strictVerdict (maxSize : Nat) (l : List UInt8) : Verdict :=
  if headerLen ≤ l.length ∧ announced l < headerLen then .refuse else verdict maxSize l

variable {maxSize : Nat} {packets : List (List UInt8)} {rest : List UInt8}

theorem strictVerdict_frame {n : Nat} {l : List UInt8} :
    strictVerdict maxSize l = .frame n ↔ verdict maxSize l = .frame n ∧ headerLen ≤ n := by
  unfold strictVerdict
  split
  · next h =>
    refine ⟨fun hv => absurd hv (by simp), fun ⟨hv, hn⟩ => ?_⟩
    obtain ⟨-, -, -, -, rfl⟩ := verdict_frame.mp hv
    omega
  · next h =>
    refine ⟨fun hv => ⟨hv, ?_⟩, And.left⟩
    obtain ⟨hlen, -, -, -, rfl⟩ := verdict_frame.mp hv
    omega

theorem strictVerdict_refuse {l : List UInt8} :
    strictVerdict maxSize l = .refuse ↔ headerLen ≤ l.length ∧
    (announced l > maxSize ∨ announced l < headerLen) := by
  have h4 : headerLen = 4 := rfl
  unfold strictVerdict
  split
  · next h => exact ⟨fun _ => ⟨h.1, Or.inr h.2⟩, fun _ => rfl⟩
  · next h =>
    rw [verdict_refuse]
    omega

theorem strictVerdict_refuse_append {l : List UInt8} (m : List UInt8)
    (h : strictVerdict maxSize l = .refuse) : strictVerdict maxSize (l ++ m) = .refuse := by
  obtain ⟨hlen, hsize⟩ := strictVerdict_refuse.mp h
  rw [strictVerdict_refuse, announced_append m hlen, List.length_append]
  exact ⟨by omega, hsize⟩

def strictFramer (maxSize : Nat) : Framer UInt8 where
  verdict := strictVerdict maxSize
  frame_pos h := (framer maxSize).frame_pos (strictVerdict_frame.mp h).1
  frame_le h := (framer maxSize).frame_le (strictVerdict_frame.mp h).1
  frame_append m h := by
    obtain ⟨hv, hn⟩ := strictVerdict_frame.mp h
    exact strictVerdict_frame.mpr ⟨(framer maxSize).frame_append m hv, hn⟩
  refuse_append m h := strictVerdict_refuse_append m h

/-- Every posted packet can hold its header and was written inside its length, and a header
that announces less than itself ended the connection. -/
structure PostsWellFormed (p : ServerSession) (s : RecvState) : Prop where
  header : ∀ msg ∈ s.posted, headerLen ≤ msg.length
  written : ∀ msg ∈ s.posted, msg.written ≤ msg.length
  closes : s.pc ≠ .parsing →
    parse (strictFramer p.tcp.maxSize) s.received = ⟨s.frames, s.recvBuffer.data, s.refused⟩

/-- Packets as the session can take them, then something that is no packet yet, or a header
that is refused. -/
structure PacketStream (p : ServerSession) (packets : List (List UInt8))
    (rest : List UInt8) : Prop where
  size : ∀ f ∈ packets, announced f = f.length ∧ f.length ≤ p.tcp.maxSize
  header : ∀ f ∈ packets, headerLen ≤ f.length
  body : ∀ f ∈ packets, p.WholeBody (f.length - headerLen)
  rest : rest.length < headerLen ∨ announced rest = 0 ∨ announced rest > p.tcp.maxSize ∨
    rest.length < announced rest

/-! ## Lemmas -/

theorem ServerSession.encryption_cases (p : ServerSession) :
    (p.tcp.encryption = none ∧ ∀ n, p.WholeBody n) ∨
    (∃ e, p.tcp.encryption = some e ∧ ∀ n src, (e.decrypt src n).length ≤ n ↔ p.WholeBody n) := by
  match p with
  | .backend => exact .inl ⟨rfl, fun _ => trivial⟩
  | .gateway .none => exact .inl ⟨rfl, fun _ => trivial⟩
  | .gateway (.xor key) =>
    refine .inr ⟨xorEncryption key, rfl, fun n src => ⟨fun _ => trivial, fun _ => ?_⟩⟩
    rw [(xor_decrypt_exact key n).writes src]
  | .gateway (.aes key iv) =>
    refine .inr ⟨aesEncryption key iv, rfl, fun n src => ?_⟩
    show _ ↔ n % 16 = 0
    rw [aes_decrypt_length, ← AesEncryption.rounds_eq_iff]
    have := AesEncryption.le_rounds n
    omega

theorem ServerSession.wholeBody_zero (p : ServerSession) : p.WholeBody 0 := by
  match p with
  | .backend => trivial
  | .gateway .none => trivial
  | .gateway (.xor _) => trivial
  | .gateway (.aes _ _) => rfl

theorem madeOf_wellFormed {p : ServerSession} {f : List UInt8} {msg : PacketMessage}
    (h : MadeOf p.tcp f msg) :
    headerLen ≤ msg.length ∧ msg.written ≤ msg.length ↔ headerLen ≤ f.length ∧
    p.WholeBody (f.length - headerLen) := by
  rw [h.length]
  refine and_congr_right fun hf => ?_
  rcases p.encryption_cases with ⟨he, hw⟩ | ⟨e, he, hw⟩
  · rw [h.written_plain he]
    exact ⟨fun _ => hw _, fun _ => Nat.le_refl _⟩
  · rcases Nat.lt_or_eq_of_le hf with hlt | heq
    · obtain ⟨src, hsrc⟩ := h.written_body e he hlt
      rw [hsrc, ← hw _ src]
      omega
    · -- a packet without a body
      rw [h.written_header e he heq.ge, ← hw _ fun _ => 0, ← heq, Nat.sub_self]
      have hnil : (e.decrypt (fun _ => 0) 0).length ≤ 0 := (hw 0 _).mpr p.wholeBody_zero
      exact ⟨fun _ => hnil, fun _ => Nat.le_refl _⟩

variable {p : ServerSession} {blocks : Nat → Nat → UInt8} {s : RecvState}

/-- The frames of packets that hold their header say how long they are. -/
theorem announced_frame {n : Nat} {d : List UInt8} (hv : verdict maxSize d = .frame n)
    (hn : headerLen ≤ n) : announced (d.take n) = n ∧ (d.take n).length = n ∧ n ≤ maxSize := by
  obtain ⟨-, hmax, -, hle, rfl⟩ := verdict_frame.mp hv
  have hlen : (d.take (announced d)).length = announced d := by
    rw [List.length_take]
    omega
  have happ := announced_append (d.drop (announced d)) (l := d.take (announced d)) (by omega)
  rw [List.take_append_drop] at happ
  exact ⟨happ.symm, hlen, hmax⟩

theorem PacketStream.verdict_packet (h : PacketStream p packets rest) {f : List UInt8}
    (hf : f ∈ packets) : verdict p.tcp.maxSize f = .frame f.length := by
  obtain ⟨hsize, hmax⟩ := h.size f hf
  have hhead := h.header f hf
  have h4 : headerLen = 4 := rfl
  rw [verdict_frame]
  omega

/-- Neither verdict cuts the rest, and they agree on it. -/
theorem PacketStream.verdict_rest (h : PacketStream p packets rest) :
    ∃ refused : Bool, verdict p.tcp.maxSize rest = (if refused then .refuse else .more) ∧
      strictVerdict p.tcp.maxSize rest = (if refused then .refuse else .more) := by
  have hrest := h.rest
  have h4 : headerLen = 4 := rfl
  by_cases href : headerLen ≤ rest.length ∧ (announced rest > p.tcp.maxSize ∨ announced rest = 0)
  · exact ⟨true, verdict_refuse.mpr href, strictVerdict_refuse.mpr (by omega)⟩
  · have hmore : verdict p.tcp.maxSize rest = .more := verdict_more.mpr (by omega)
    refine ⟨false, hmore, ?_⟩
    unfold strictVerdict
    rw [if_neg (by omega)]
    exact hmore

/-- On such a stream the session makes exactly its packets, and the strict cut agrees. -/
theorem PacketStream.parse_eq (h : PacketStream p packets rest) :
    parse (strictFramer p.tcp.maxSize) (packets.flatten ++ rest) =
        parse (framer p.tcp.maxSize) (packets.flatten ++ rest) ∧
      (parse (framer p.tcp.maxSize) (packets.flatten ++ rest)).frames = packets := by
  obtain ⟨refused, hv, hsv⟩ := h.verdict_rest
  have hcut : Cut (framer p.tcp.maxSize) (packets.flatten ++ rest) packets rest :=
    Cut.of_frames packets rest fun f hf => h.verdict_packet hf
  have hstrict : Cut (strictFramer p.tcp.maxSize) (packets.flatten ++ rest) packets rest :=
    Cut.of_frames packets rest fun f hf =>
      strictVerdict_frame.mpr ⟨h.verdict_packet hf, h.header f hf⟩
  rw [hcut.parse_end _ hv, hstrict.parse_end _ hsv]
  exact ⟨rfl, rfl⟩

theorem posted_iff_frames (h : RecvInv p.tcp s) :
    (∀ msg ∈ s.posted, headerLen ≤ msg.length ∧ msg.written ≤ msg.length) ↔
      ∀ f ∈ s.frames, headerLen ≤ f.length ∧ p.WholeBody (f.length - headerLen) := by
  have hmade := h.made
  generalize s.frames = fs at hmade
  generalize s.posted = ms at hmade
  induction hmade with
  | nil => simp
  | cons hm _ ih =>
    rw [List.forall_mem_cons, List.forall_mem_cons]
    exact and_congr (madeOf_wellFormed hm) ih

/-- A well-behaved peer: every packet posted so far is well formed, inside the loop too. -/
theorem PacketStream.posts (h : RecvInv p.tcp s) (hs : s.received = packets.flatten ++ rest)
    (hstream : PacketStream p packets rest) : PostsWellFormed p s := by
  obtain ⟨hstrict, hframes⟩ := hstream.parse_eq
  rw [← hs] at hstrict hframes
  have hsub : ∀ f ∈ s.frames, f ∈ packets := by
    intro f hf
    rw [← hframes, h.cut.parse]
    exact List.mem_append_left _ hf
  have hposted := (posted_iff_frames h).mpr fun f hf =>
    ⟨hstream.header f (hsub f hf), hstream.body f (hsub f hf)⟩
  refine ⟨fun m hm => (hposted m hm).1, fun m hm => (hposted m hm).2, fun hpc => ?_⟩
  rw [hstrict]
  exact h.cut.parse_end _ (h.settled hpc)

theorem PostsWellFormed.stream (h : RecvInv p.tcp s) (hw : PostsWellFormed p s)
    (hpc : s.pc ≠ .parsing) : PacketStream p s.frames s.recvBuffer.data := by
  have hf := (posted_iff_frames h).mp fun m hm => ⟨hw.header m hm, hw.written m hm⟩
  refine ⟨fun f hmem => ?_, fun f hmem => (hf f hmem).1, fun f hmem => (hf f hmem).2, ?_⟩
  · obtain ⟨d, n, hv, rfl⟩ := h.cut.mem hmem
    have hn : headerLen ≤ n := Nat.le_trans (hf _ hmem).1 (List.length_take_le n d)
    obtain ⟨hann, hlen, hmax⟩ := announced_frame hv hn
    rw [hlen]
    exact ⟨hann, hmax⟩
  · have hv := h.settled hpc
    cases hr : s.refused with
    | false =>
      rw [hr] at hv
      have := verdict_more.mp hv
      omega
    | true =>
      rw [hr] at hv
      have := (verdict_refuse.mp hv).2
      omega

/-- **Which streams give well-formed packets only.**  As long as the bytes received are packets
that hold their header (and under AES have whole blocks for a body), every packet posted holds
its header and was written inside its length; and between two completions the posts are well
formed and short headers closed the connection exactly for such streams. -/
theorem posts_wellFormed_iff (p : ServerSession) (blocks : Nat → Nat → UInt8) (memory : Nat → UInt8)
    (as : List RecvAction) {s : RecvState}
    (hs : run (RecvState.step p.tcp blocks) (.init memory) as = some s) :
    ((∃ packets rest, s.received = packets.flatten ++ rest ∧ PacketStream p packets rest) →
      PostsWellFormed p s) ∧
    (s.pc ≠ .parsing →
      (PostsWellFormed p s ↔
        ∃ packets rest, s.received = packets.flatten ++ rest ∧ PacketStream p packets rest)) := by
  have h := recv_inv hs
  have hposts : (∃ packets rest, s.received = packets.flatten ++ rest ∧
      PacketStream p packets rest) →
      PostsWellFormed p s := fun ⟨_, _, hrec, hstream⟩ => hstream.posts h hrec
  exact ⟨hposts, fun hpc => ⟨fun hw => ⟨_, _, h.cut.flatten.symm, hw.stream h hpc⟩, hposts⟩⟩

/-- A packet of five bytes and one of four under XOR, in two pieces. -/
theorem posts_wellFormed_xor : ∃ s, run
    (RecvState.step (ServerSession.gateway (.xor 0xA5)).tcp fun _ _ => 0) (.init fun _ => 0)
      [.start, .receive [5, 0, 7], .parse, .receive [0, 65, 4, 0, 9, 0], .parse, .parse,
        .parse] = some s ∧
      s.posted.map (fun m => (m.length, m.written)) = [(5, 5), (4, 4)] ∧
      PostsWellFormed (.gateway (.xor 0xA5)) s := by
  have h := posts_wellFormed_iff (.gateway (.xor 0xA5)) (fun _ _ => 0) (fun _ => 0)
    [.start, .receive [5, 0, 7], .parse, .receive [0, 65, 4, 0, 9, 0], .parse, .parse, .parse] rfl
  refine ⟨_, rfl, by decide, (h.2 (by decide)).mpr ⟨[[5, 0, 7, 0, 65], [4, 0, 9, 0]], [], rfl, ?_⟩⟩
  exact ⟨by decide, by decide, fun _ _ => trivial, Or.inl (by decide)⟩

/-- The header `01 00 00 00` is posted as a packet of one byte on an open connection, with four
bytes written into it under XOR; under AES a body of one byte is written as sixteen. -/
theorem short_header_posted :
    (∃ s, run (RecvState.step (ServerSession.gateway .none).tcp fun _ _ => 0) (.init fun _ => 0)
        [.start, .receive [1, 0, 0, 0], .parse, .parse] = some s ∧
      s.posted.map (·.length) = [1] ∧ s.isOpen = true ∧ s.recvBuffer.data = [0, 0, 0]) ∧
    (∃ s, run (RecvState.step (ServerSession.gateway (.xor 0xA5)).tcp fun _ _ => 0)
        (.init fun _ => 0) [.start, .receive [1, 0, 0, 0], .parse, .parse] = some s ∧
      s.posted.map (fun m => (m.length, m.written)) = [(1, 4)]) ∧
    (∃ s, run (RecvState.step (ServerSession.gateway
        (.aes (Vector.replicate 16 0) (Vector.replicate 16 0))).tcp fun _ _ => 0) (.init fun _ => 0)
        [.start, .receive [5, 0, 0, 0, 65], .parse, .parse] = some s ∧
      s.posted.map (fun m => (m.length, m.written)) = [(5, 20)]) := by
  exact ⟨⟨_, rfl, by decide, rfl, by decide⟩, ⟨_, rfl, by decide⟩, ⟨_, rfl, by decide +kernel⟩⟩

end ToyServer
