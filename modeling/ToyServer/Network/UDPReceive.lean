import ToyServer.Lib.LittleEndian
import ToyServer.Network.UDPEndpointRegistry

/-!
# `UDPNetworkImpl::HandleReceive`

A datagram starts with a header of 25 bytes (tag, session id, token).  The session is looked up by
the sender's endpoint and, only if that is unknown, by the token; the session id is not looked at.

* `authenticated_iff`: when a datagram reaches a session only with the session's own token and id,
and a wrong token in it would have made a difference.
-/

namespace ToyServer

open LittleEndian UDPEndpointRegistry

/-! ## The header -/

structure UDPTransportHeader where
  tag : UInt8
  sessionId : UInt64
  udpToken : UInt128
deriving DecidableEq, Repr

namespace UDPTransportHeader

def SIZE : Nat := 25

def TAG_RAW_UDP : UInt8 := 0x00

def TAG_KCP : UInt8 := 0x01

def isValid (h : UDPTransportHeader) : Bool := h.tag = TAG_RAW_UDP || h.tag = TAG_KCP

def isKCP (h : UDPTransportHeader) : Bool := h.tag = TAG_KCP

variable (bytes : List UInt8)

def readUInt64 (off : Nat) : UInt64 := UInt64.ofNat (ofBytes ((bytes.drop off).take 8))

/-- The packed struct at the start of the buffer; `uint128_t` holds `high` before `low`. -/
def read : UDPTransportHeader :=
  ⟨bytes.getD 0 0, readUInt64 bytes 1, ⟨readUInt64 bytes 9, readUInt64 bytes 17⟩⟩

def tokenBytes (t : UInt128) : List UInt8 := toBytes 8 t.high.toNat ++ toBytes 8 t.low.toNat

/-- A datagram with another token in it. -/
def withToken (t : UInt128) : List UInt8 := bytes.take 9 ++ tokenBytes t ++ bytes.drop SIZE

end UDPTransportHeader

/-! ## Receiving -/

structure UDPNetworkImpl where
  isStopping : Bool
  registry : Option UDPEndpointRegistry
  /-- `_dispatcher` is set -/
  dispatcher : Bool

structure HandleDataCall where
  session : UDPSessionPtr
  data : List UInt8
  isKCP : Bool
deriving DecidableEq, Repr

structure Received where
  network : UDPNetworkImpl
  call : Option HandleDataCall
  /-- `StartReceive` was called again -/
  restarted : Bool

namespace UDPNetworkImpl

/-- The session a datagram is for: by its endpoint, else by its token. -/
def lookup (r : UDPEndpointRegistry) (sender : Endpoint) (token : UInt128) : Option UDPSessionPtr :=
  match r.find sender with
  | some session => some session
  | none => r.getEndpointByToken token

/-- `HandleReceive`; `udp` is the `dynamic_cast` to `UDPSession`. -/
def handleReceive (udp : UDPSessionPtr → Bool) (n : UDPNetworkImpl) (now : Nat) (error : Bool)
    (bytes : List UInt8) (sender : Endpoint) : Received :=
  if n.isStopping then ⟨n, none, false⟩
  else if error then ⟨n, none, false⟩
  else if bytes.length > UDPTransportHeader.SIZE then
    match n.registry with
    | none => ⟨n, none, true⟩
    | some r =>
      if n.dispatcher then
        let header := UDPTransportHeader.read bytes
        if header.isValid then
          match lookup r sender header.udpToken with
          | none => ⟨n, none, true⟩
          | some session =>
            let n := { n with registry := some (r.updateActivity now sender) }
            if udp session then
              ⟨n, some ⟨session, bytes.drop UDPTransportHeader.SIZE, header.isKCP⟩, true⟩
            else ⟨n, none, true⟩
        else ⟨n, none, true⟩
      else ⟨n, none, true⟩
  else ⟨n, none, true⟩

end UDPNetworkImpl

/-! ## What is delivered -/

/-- The datagram gets as far as the lookup. -/
structure Accepted (n : UDPNetworkImpl) (r : UDPEndpointRegistry) (error : Bool)
    (bytes : List UInt8) : Prop where
  running : n.isStopping = false
  ok : error = false
  long : UDPTransportHeader.SIZE < bytes.length
  registry : n.registry = some r
  dispatcher : n.dispatcher = true
  valid : (UDPTransportHeader.read bytes).isValid = true

variable {udp : UDPSessionPtr → Bool} {n : UDPNetworkImpl} {r : UDPEndpointRegistry} {now : Nat}
  {error : Bool} {bytes : List UInt8} {sender : Endpoint}

theorem handleReceive_of_accepted (h : Accepted n r error bytes) {session : UDPSessionPtr}
    (hl : UDPNetworkImpl.lookup r sender (UDPTransportHeader.read bytes).udpToken = some session)
    (hu : udp session = true) :
    n.handleReceive udp now error bytes sender =
      ⟨{ n with registry := some (r.updateActivity now sender) },
        some ⟨session, bytes.drop UDPTransportHeader.SIZE, (UDPTransportHeader.read bytes).isKCP⟩,
        true⟩ := by
  unfold UDPNetworkImpl.handleReceive
  simp only [h.running, h.ok, h.long, h.registry, h.dispatcher, h.valid, hl, hu, if_true, if_false,
    Bool.false_eq_true]

theorem handleReceive_call {call : HandleDataCall}
    (h : (n.handleReceive udp now error bytes sender).call = some call) :
    ∃ r, Accepted n r error bytes ∧ udp call.session = true ∧
      UDPNetworkImpl.lookup r sender (UDPTransportHeader.read bytes).udpToken = some call.session ∧
      call = ⟨call.session, bytes.drop UDPTransportHeader.SIZE,
        (UDPTransportHeader.read bytes).isKCP⟩ := by
  unfold UDPNetworkImpl.handleReceive at h
  split at h
  · cases h
  · next hrun =>
    split at h
    · cases h
    · next herr =>
      split at h
      · next hlong =>
        split at h
        · cases h
        · next r hr =>
          split at h
          · next hd =>
            simp only at h
            split at h
            · next hv =>
              split at h
              · cases h
              · next session hl =>
                split at h
                · next hu =>
                  cases h
                  exact ⟨r, ⟨by simpa using hrun, by simpa using herr, hlong, hr, hd, hv⟩, hu, hl,
                    rfl⟩
                · cases h
            · cases h
          · cases h
      · cases h

/-! ## Another token in the same datagram -/

namespace UDPTransportHeader

/-- The datagrams agree on everything but the token. -/
structure SameButToken (bytes bytes' : List UInt8) : Prop where
  length : bytes'.length = bytes.length
  front : bytes'.take 9 = bytes.take 9
  payload : bytes'.drop SIZE = bytes.drop SIZE

variable {bytes bytes' : List UInt8}

theorem SameButToken.tag (h : SameButToken bytes bytes') :
    (read bytes').tag = (read bytes).tag := by
  have hfront : ∀ l : List UInt8, l.getD 0 0 = (l.take 9).getD 0 0 := by
    intro l
    cases l <;> rfl
  show bytes'.getD 0 0 = bytes.getD 0 0
  rw [hfront bytes', hfront bytes, h.front]

theorem SameButToken.isValid (h : SameButToken bytes bytes') :
    (read bytes').isValid = (read bytes).isValid := by
  rw [UDPTransportHeader.isValid, UDPTransportHeader.isValid, h.tag]

theorem SameButToken.isKCP (h : SameButToken bytes bytes') :
    (read bytes').isKCP = (read bytes).isKCP := by
  rw [UDPTransportHeader.isKCP, UDPTransportHeader.isKCP, h.tag]

theorem withToken_same (t : UInt128) (hlong : SIZE < bytes.length) :
    SameButToken bytes (withToken bytes t) := by
  have hlen : (bytes.take 9 ++ tokenBytes t).length = SIZE := by
    simp only [tokenBytes, List.length_append, List.length_take, toBytes_length, SIZE] at hlong ⊢
    omega
  refine ⟨?_, ?_, ?_⟩
  · rw [withToken, List.length_append, hlen, List.length_drop]
    omega
  · have htake : (bytes.take 9).length = 9 := by
      rw [List.length_take]
      simp only [SIZE] at hlong
      omega
    rw [withToken, List.append_assoc, List.take_append_of_le_length htake.ge,
      List.take_of_length_le htake.le]
  · rw [withToken, List.drop_append_of_le_length hlen.ge, List.drop_of_length_le hlen.le,
      List.nil_append]

theorem readUInt64_append (front back : List UInt8) (n : UInt64) :
    readUInt64 (front ++ (toBytes 8 n.toNat ++ back)) front.length = n := by
  rw [readUInt64, List.drop_left, List.take_append_of_le_length (by rw [toBytes_length]),
    List.take_of_length_le (by rw [toBytes_length]), ofBytes_toBytes 8 n.toNat n.toNat_lt,
    UInt64.ofNat_toNat]

theorem read_withToken (t : UInt128) (hlong : SIZE < bytes.length) :
    (read (withToken bytes t)).udpToken = t := by
  have htake : (bytes.take 9).length = 9 := by
    rw [List.length_take]
    simp only [SIZE] at hlong
    omega
  have hhigh : readUInt64 (withToken bytes t) 9 = t.high := by
    have h := readUInt64_append (bytes.take 9) (toBytes 8 t.low.toNat ++ bytes.drop SIZE) t.high
    rw [htake] at h
    simpa only [withToken, tokenBytes, List.append_assoc] using h
  have hlow : readUInt64 (withToken bytes t) 17 = t.low := by
    have h := readUInt64_append (bytes.take 9 ++ toBytes 8 t.high.toNat) (bytes.drop SIZE) t.low
    rw [List.length_append, htake, toBytes_length] at h
    simpa only [withToken, tokenBytes, List.append_assoc] using h
  show (⟨_, _⟩ : UInt128) = t
  rw [hhigh, hlow]

end UDPTransportHeader

/-! ## Authentication -/

def UDPEndpointRegistry.RegisteredUnder (r : UDPEndpointRegistry) (session : UDPSessionPtr)
    (t : UInt128) : Prop :=
  ∃ e info, r.sessions.lookup e = some info ∧ info.session = session ∧ info.udpToken = t

open UDPTransportHeader UDPNetworkImpl

/-- What is delivered carries a token of the session and its id, and would not have been delivered
with a token that is none of the session's. -/
def Authenticated (udp : UDPSessionPtr → Bool) (getId : UDPSessionPtr → UInt64)
    (n : UDPNetworkImpl) (now : Nat) (error : Bool) (bytes : List UInt8)
    (sender : Endpoint) : Prop :=
  ∀ r call, n.registry = some r → (n.handleReceive udp now error bytes sender).call = some call →
    r.RegisteredUnder call.session (read bytes).udpToken ∧
    getId call.session = (read bytes).sessionId ∧
    ∀ bytes', SameButToken bytes bytes' → ¬ r.RegisteredUnder call.session (read bytes').udpToken →
      (n.handleReceive udp now error bytes' sender).call ≠ some call

/-- The token decides: the session has the id of the header, the sender's endpoint is not registered
(else the token is not looked at, and no token may be wrong), and only the session's own tokens lead
to it. -/
def TokenDecides (udp : UDPSessionPtr → Bool) (getId : UDPSessionPtr → UInt64) (n : UDPNetworkImpl)
    (error : Bool) (bytes : List UInt8) (sender : Endpoint) : Prop :=
  ∀ r session, Accepted n r error bytes → lookup r sender (read bytes).udpToken = some session →
    udp session = true →
    getId session = (read bytes).sessionId ∧
    (r.find sender = none ∨ ∀ t, r.RegisteredUnder session t) ∧
    ∀ t, r.getEndpointByToken t = some session → r.RegisteredUnder session t

variable {getId : UDPSessionPtr → UInt64} {bytes' : List UInt8} {session : UDPSessionPtr}

theorem lookup_of_find_none (h : r.find sender = none) (t : UInt128) :
    lookup r sender t = r.getEndpointByToken t := by
  rw [lookup, h]

theorem lookup_of_find_some (h : r.find sender = some session) (t : UInt128) :
    lookup r sender t = some session := by
  rw [lookup, h]

theorem Accepted.of_same (h : Accepted n r error bytes) (hsame : SameButToken bytes bytes') :
    Accepted n r error bytes' where
  running := h.running
  ok := h.ok
  long := hsame.length ▸ h.long
  registry := h.registry
  dispatcher := h.dispatcher
  valid := hsame.isValid.trans h.valid

/-- The tokens that lead from the endpoint to the session are all its own. -/
theorem TokenDecides.own (h : TokenDecides udp getId n error bytes sender)
    (hacc : Accepted n r error bytes) (hl : lookup r sender (read bytes).udpToken = some session)
    (hu : udp session = true) {t : UInt128} (ht : lookup r sender t = some session) :
    r.RegisteredUnder session t := by
  obtain ⟨-, hfind, hown⟩ := h r session hacc hl hu
  rcases hfind with hnone | hall
  · exact hown t ((lookup_of_find_none hnone t).symm.trans ht)
  · exact hall t

/-- A token that leads to the session can be put into the datagram, and nobody would notice. -/
theorem Authenticated.own (h : Authenticated udp getId n now error bytes sender)
    (hacc : Accepted n r error bytes) (hl : lookup r sender (read bytes).udpToken = some session)
    (hu : udp session = true) {t : UInt128} (ht : lookup r sender t = some session) :
    r.RegisteredUnder session t := by
  by_contra hnot
  have hsame := withToken_same t hacc.long
  have hread := read_withToken t hacc.long
  obtain ⟨-, -, hdiffers⟩ :=
    h r _ hacc.registry (congrArg Received.call (handleReceive_of_accepted hacc hl hu))
  refine hdiffers (withToken bytes t) hsame (hread.symm ▸ hnot) ?_
  have ht' : lookup r sender (read (withToken bytes t)).udpToken = some session := hread.symm ▸ ht
  rw [handleReceive_of_accepted (hacc.of_same hsame) ht' hu, hsame.payload, hsame.isKCP]

/-- **Authentication.**  A delivered datagram is authenticated exactly when the token decides. -/
theorem authenticated_iff (udp : UDPSessionPtr → Bool) (getId : UDPSessionPtr → UInt64)
    (n : UDPNetworkImpl) (now : Nat) (error : Bool) (bytes : List UInt8) (sender : Endpoint) :
    Authenticated udp getId n now error bytes sender ↔
    TokenDecides udp getId n error bytes sender := by
  constructor
  · intro h r session hacc hl hu
    obtain ⟨-, hid, -⟩ :=
      h r _ hacc.registry (congrArg Received.call (handleReceive_of_accepted hacc hl hu))
    have hown : ∀ t, lookup r sender t = some session → r.RegisteredUnder session t :=
      fun t => h.own hacc hl hu
    refine ⟨hid, ?_⟩
    cases hfind : r.find sender with
    | none => exact ⟨.inl rfl, fun t ht => hown t ((lookup_of_find_none hfind t).trans ht)⟩
    | some found =>
      -- a registered endpoint: the same session whatever the token
      have hfound : found = session := Option.some.inj ((lookup_of_find_some hfind _).symm.trans hl)
      have hall : ∀ t, r.RegisteredUnder session t := fun t =>
        hown t (hfound ▸ lookup_of_find_some hfind t)
      exact ⟨.inr hall, fun t _ => hall t⟩
  · intro h r call hr hcall
    obtain ⟨r', hacc, hu, hl, -⟩ := handleReceive_call hcall
    obtain rfl : r' = r := Option.some.inj (hacc.registry.symm.trans hr)
    refine ⟨h.own hacc hl hu hl, (h r' call.session hacc hl hu).1,
      fun bytes' hsame hwrong hcall' => ?_⟩
    obtain ⟨r₂, hacc₂, -, hl', -⟩ := handleReceive_call hcall'
    obtain rfl : r₂ = r' := Option.some.inj (hacc₂.registry.symm.trans hr)
    exact hwrong (h.own hacc hl hu hl')

/-- One client, session 7 with token 5, registered at one endpoint. -/
def oneClient : UDPEndpointRegistry :=
  UDPEndpointRegistry.empty.registerWithToken 0 ⟨1, 1000⟩ 7 ⟨0, 5⟩

def oneClientNetwork : UDPNetworkImpl := ⟨false, some oneClient, true⟩

/-- A raw datagram with the payload `[1, 2]`. -/
def rawDatagram (sessionId : UInt64) (t : UInt128) : List UInt8 :=
  TAG_RAW_UDP :: (toBytes 8 sessionId.toNat ++ tokenBytes t ++ [1, 2])

theorem oneClient_registered : oneClient.RegisteredUnder 7 ⟨0, 5⟩ :=
  ⟨⟨1, 1000⟩, ⟨7, 0, ⟨0, 5⟩⟩, rfl, rfl, rfl⟩

theorem oneClient_only {t : UInt128} (h : oneClient.RegisteredUnder 7 t) : t = ⟨0, 5⟩ := by
  obtain ⟨e, info, hinfo, -, rfl⟩ := h
  rw [oneClient, registerWithToken_sessions] at hinfo
  split at hinfo
  · cases hinfo
    rfl
  · cases hinfo

/-- The client from a new endpoint, with its token and its id. -/
theorem authenticated_new_endpoint :
    (oneClientNetwork.handleReceive (fun _ => true) 10 false (rawDatagram 7 ⟨0, 5⟩)
      ⟨2, 2000⟩).call = some ⟨7, [1, 2], false⟩ ∧
    Authenticated (fun _ => true) UInt64.ofNat oneClientNetwork 10 false
      (rawDatagram 7 ⟨0, 5⟩) ⟨2, 2000⟩ := by
  refine ⟨by decide, (authenticated_iff _ _ _ _ _ _ _).mpr ?_⟩
  intro r session hacc hl _
  obtain rfl : oneClient = r := Option.some.inj hacc.registry
  obtain rfl : 7 = session := Option.some.inj (Eq.trans (by decide) hl)
  refine ⟨by decide, .inl (by decide), fun t ht => ?_⟩
  by_cases h : t = ⟨0, 5⟩
  · exact h ▸ oneClient_registered
  · have hnone : oneClient.tokens.lookup t = none := by
      rw [oneClient, registerWithToken_tokens, if_neg h]
      rfl
    rw [getEndpointByToken, hnone] at ht
    cases ht

/-- **Not authenticated.** A datagram from a registered endpoint with a wrong token and a wrong id
is delivered, and so is one from anywhere with the right token and a wrong id. -/
theorem delivered_with_wrong_token :
    ((oneClientNetwork.handleReceive (fun _ => true) 10 false (rawDatagram 99 ⟨0, 9⟩)
        ⟨1, 1000⟩).call = some ⟨7, [1, 2], false⟩ ∧
      ¬ Authenticated (fun _ => true) UInt64.ofNat oneClientNetwork 10 false
      (rawDatagram 99 ⟨0, 9⟩) ⟨1, 1000⟩) ∧
    (oneClientNetwork.handleReceive (fun _ => true) 10 false (rawDatagram 99 ⟨0, 5⟩)
        ⟨2, 2000⟩).call = some ⟨7, [1, 2], false⟩ ∧
      ¬ Authenticated (fun _ => true) UInt64.ofNat oneClientNetwork 10 false
      (rawDatagram 99 ⟨0, 5⟩) ⟨2, 2000⟩ := by
  refine ⟨⟨by decide, fun h => ?_⟩, by decide, fun h => ?_⟩
  · obtain ⟨hreg, -⟩ := h oneClient ⟨7, [1, 2], false⟩ rfl (by decide)
    exact absurd (oneClient_only hreg) (by decide)
  · obtain ⟨-, hid, -⟩ := h oneClient ⟨7, [1, 2], false⟩ rfl (by decide)
    exact absurd hid (by decide)

end ToyServer
