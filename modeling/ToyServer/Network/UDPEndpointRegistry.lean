import ToyServer.Lib.Table

/-!
# `UDPEndpointRegistry`: sessions by endpoint and by token

`_sessions` maps an endpoint to its entry (session, time of the last activity, token), `_tokens`
maps a token to an endpoint.  `RegisterWithToken` writes both maps, `CleanupTimeouts` erases from
both; `Register` and `Remove` know of `_sessions` only, and a second `RegisterWithToken` does not
look for what the endpoint or the token were bound to before.

The lemmas say what each operation leaves in the maps; `cleanupTimeouts_sessions` and
`cleanupTimeouts_tokens` are those of the loop over the entries.
-/

namespace ToyServer

open Table

/-! ## The registry -/

structure UInt128 where
  high : UInt64
  low : UInt64
deriving DecidableEq, Repr

/-- The default of `SessionInfo::udpToken`. -/
def UInt128.zero : UInt128 := ⟨0, 0⟩

structure Endpoint where
  address : Nat
  port : UInt16
deriving DecidableEq, Repr

/-- A session, by its address. -/
abbrev UDPSessionPtr := Nat

structure SessionInfo where
  session : UDPSessionPtr
  /-- in nanoseconds of the steady clock -/
  lastActivity : Nat
  udpToken : UInt128
deriving DecidableEq, Repr

structure UDPEndpointRegistry where
  sessions : AList fun _ : Endpoint => SessionInfo
  tokens : AList fun _ : UInt128 => Endpoint

namespace UDPEndpointRegistry

def empty : UDPEndpointRegistry := ⟨∅, ∅⟩

section
variable (r : UDPEndpointRegistry)

def register (now : Nat) (endpoint : Endpoint) (session : UDPSessionPtr) : UDPEndpointRegistry :=
  match r.sessions.lookup endpoint with
  | some info =>
    { r with
      sessions := r.sessions.insert endpoint { info with session := session, lastActivity := now } }
  | none => { r with sessions := r.sessions.insert endpoint ⟨session, now, .zero⟩ }

def find (endpoint : Endpoint) : Option UDPSessionPtr :=
  (r.sessions.lookup endpoint).map (·.session)

def remove (endpoint : Endpoint) : UDPEndpointRegistry :=
  { r with sessions := r.sessions.erase endpoint }

def updateActivity (now : Nat) (endpoint : Endpoint) : UDPEndpointRegistry :=
  match r.sessions.lookup endpoint with
  | some info => { r with sessions := r.sessions.insert endpoint { info with lastActivity := now } }
  | none => r

def registerWithToken (now : Nat) (endpoint : Endpoint) (session : UDPSessionPtr)
    (udpToken : UInt128) : UDPEndpointRegistry :=
  match r.sessions.lookup endpoint with
  | some info =>
    { sessions := r.sessions.insert endpoint
        { info with session := session, udpToken := udpToken, lastActivity := now }
      tokens := r.tokens.insert udpToken endpoint }
  | none =>
    { sessions := r.sessions.insert endpoint ⟨session, now, udpToken⟩
      tokens := r.tokens.insert udpToken endpoint }

def getEndpointByToken (token : UInt128) : Option UDPSessionPtr :=
  match r.tokens.lookup token with
  | none => none
  | some endpoint => (r.sessions.lookup endpoint).map (·.session)

/-- More than `timeoutMs` since the last activity, in whole milliseconds. -/
def expired (now : Nat) (timeoutMs : UInt32) (info : SessionInfo) : Bool :=
  (now - info.lastActivity) / 1000000 > timeoutMs.toNat

/-- One round of the loop of `CleanupTimeouts`, with the count of the entries removed. -/
def cleanupRound (now : Nat) (timeoutMs : UInt32) (r : UDPEndpointRegistry × Nat)
    (entry : (_ : Endpoint) × SessionInfo) : UDPEndpointRegistry × Nat :=
  if expired now timeoutMs entry.2 then
    ({ sessions := r.1.sessions.erase entry.1, tokens := r.1.tokens.erase entry.2.udpToken },
      r.2 + 1)
  else r

def cleanupTimeouts (now : Nat) (timeoutMs : UInt32) : UDPEndpointRegistry × Nat :=
  r.sessions.entries.foldl (cleanupRound now timeoutMs) (r, 0)

/-! ## What the operations leave in the maps -/

def tokenOf (endpoint : Endpoint) : UInt128 :=
  ((r.sessions.lookup endpoint).map (·.udpToken)).getD .zero

end

variable (r : UDPEndpointRegistry) (now : Nat) (e e' : Endpoint) (p : UDPSessionPtr)
  (t t' : UInt128)

theorem register_sessions :
    (r.register now e p).sessions.lookup e' = if e' = e then
      some ⟨p, now, r.tokenOf e⟩ else r.sessions.lookup e' := by
  unfold register tokenOf
  cases r.sessions.lookup e <;> exact lookup_insert_ite _ _ _ _

theorem register_tokens : (r.register now e p).tokens = r.tokens := by
  unfold register
  cases r.sessions.lookup e <;> rfl

theorem registerWithToken_sessions :
    (r.registerWithToken now e p t).sessions.lookup e' = if e' = e then
      some ⟨p, now, t⟩ else r.sessions.lookup e' := by
  unfold registerWithToken
  cases r.sessions.lookup e <;> exact lookup_insert_ite _ _ _ _

theorem registerWithToken_tokens :
    (r.registerWithToken now e p t).tokens.lookup t' = if t' = t then
      some e else r.tokens.lookup t' := by
  unfold registerWithToken
  cases r.sessions.lookup e <;> exact lookup_insert_ite _ _ _ _

theorem updateActivity_sessions :
    (r.updateActivity now e).sessions.lookup e' =
      if e' = e then (r.sessions.lookup e).map fun info => { info with lastActivity := now }
      else r.sessions.lookup e' := by
  unfold updateActivity
  cases h : r.sessions.lookup e with
  | none =>
    show r.sessions.lookup e' = _
    split
    · next he => rw [he, h]; rfl
    · rfl
  | some info => exact lookup_insert_ite _ _ _ _

theorem updateActivity_tokens : (r.updateActivity now e).tokens = r.tokens := by
  unfold updateActivity
  cases r.sessions.lookup e <;> rfl

variable {r now e p t} {timeoutMs : UInt32}

theorem cleanupRound_erases {entry : (_ : Endpoint) × SessionInfo}
    (hx : expired now timeoutMs entry.2 = true) (r : UDPEndpointRegistry × Nat) :
    (cleanupRound now timeoutMs r entry).1 =
      ⟨r.1.sessions.erase entry.1, r.1.tokens.erase entry.2.udpToken⟩ := by
  rw [cleanupRound, if_pos hx]

/-- The rounds only erase: what is gone stays gone. -/
theorem cleanup_gone (now : Nat) (timeoutMs : UInt32)
    (entries : List ((_ : Endpoint) × SessionInfo)) (r : UDPEndpointRegistry × Nat) :
    (∀ e, r.1.sessions.lookup e = none →
      (entries.foldl (cleanupRound now timeoutMs) r).1.sessions.lookup e = none) ∧
    ∀ t, r.1.tokens.lookup t = none →
      (entries.foldl (cleanupRound now timeoutMs) r).1.tokens.lookup t = none := by
  induction entries generalizing r with
  | nil => exact ⟨fun _ => id, fun _ => id⟩
  | cons entry entries ih =>
    rw [List.foldl_cons]
    obtain ⟨hs, ht⟩ := ih (cleanupRound now timeoutMs r entry)
    by_cases hx : expired now timeoutMs entry.2 = true
    · rw [cleanupRound_erases hx] at hs ht
      refine ⟨fun e he => hs e ?_, fun t h => ht t ?_⟩
      · rw [lookup_erase_ite, he, ite_self]
      · rw [lookup_erase_ite, h, ite_self]
    · rw [cleanupRound, if_neg hx] at hs ht ⊢
      exact ⟨hs, ht⟩

theorem cleanup_rounds (now : Nat) (timeoutMs : UInt32)
    (entries : List ((_ : Endpoint) × SessionInfo)) (r : UDPEndpointRegistry × Nat) :
    (∀ entry ∈ entries, expired now timeoutMs entry.2 = true →
      (entries.foldl (cleanupRound now timeoutMs) r).1.sessions.lookup entry.1 = none ∧
      (entries.foldl (cleanupRound now timeoutMs) r).1.tokens.lookup entry.2.udpToken = none) ∧
    (∀ e, (∀ entry ∈ entries, expired now timeoutMs entry.2 = true → entry.1 ≠ e) →
      (entries.foldl (cleanupRound now timeoutMs) r).1.sessions.lookup e = r.1.sessions.lookup e) ∧
    ∀ t, (∀ entry ∈ entries, expired now timeoutMs entry.2 = true → entry.2.udpToken ≠ t) →
      (entries.foldl (cleanupRound now timeoutMs) r).1.tokens.lookup t = r.1.tokens.lookup t := by
  induction entries generalizing r with
  | nil => simp
  | cons entry entries ih =>
    rw [List.foldl_cons]
    obtain ⟨hgone, hs, ht⟩ := ih (cleanupRound now timeoutMs r entry)
    by_cases hx : expired now timeoutMs entry.2 = true
    · have hr := cleanupRound_erases hx r
      refine ⟨fun x hmem hxx => ?_, fun e he => ?_, fun t h => ?_⟩
      · rcases List.mem_cons.mp hmem with rfl | hmem
        · obtain ⟨g₁, g₂⟩ := cleanup_gone now timeoutMs entries (cleanupRound now timeoutMs r x)
          rw [hr] at g₁ g₂
          exact ⟨g₁ _ (AList.lookup_erase _ _), g₂ _ (AList.lookup_erase _ _)⟩
        · exact hgone x hmem hxx
      · rw [hs e fun x hmem => he x (List.mem_cons_of_mem _ hmem), hr]
        exact AList.lookup_erase_ne (he entry List.mem_cons_self hx).symm
      · rw [ht t fun x hmem => h x (List.mem_cons_of_mem _ hmem), hr]
        exact AList.lookup_erase_ne (h entry List.mem_cons_self hx).symm
    · have hr : cleanupRound now timeoutMs r entry = r := by rw [cleanupRound, if_neg hx]
      rw [hr] at hgone hs ht ⊢
      refine ⟨fun x hmem hxx => ?_, fun e he => ?_, fun t h => ?_⟩
      · rcases List.mem_cons.mp hmem with rfl | hmem
        · exact absurd hxx hx
        · exact hgone x hmem hxx
      · exact hs e fun x hmem => he x (List.mem_cons_of_mem _ hmem)
      · exact ht t fun x hmem => h x (List.mem_cons_of_mem _ hmem)

theorem mem_entries_iff {info : SessionInfo} :
    (⟨e, info⟩ : (_ : Endpoint) × SessionInfo) ∈ r.sessions.entries ↔
    r.sessions.lookup e = some info :=
  AList.mem_lookup_iff.symm

theorem cleanupTimeouts_sessions (r : UDPEndpointRegistry) (now : Nat) (timeoutMs : UInt32)
    (e : Endpoint) : (r.cleanupTimeouts now timeoutMs).1.sessions.lookup e =
      (r.sessions.lookup e).filter fun info => !expired now timeoutMs info := by
  obtain ⟨hgone, hkeep, -⟩ := cleanup_rounds now timeoutMs r.sessions.entries (r, 0)
  cases h : r.sessions.lookup e with
  | none => exact (cleanup_gone now timeoutMs _ _).1 e h
  | some info =>
    cases hx : expired now timeoutMs info with
    | true =>
      rw [Option.filter_some, hx]
      exact (hgone ⟨e, info⟩ (mem_entries_iff.mpr h) hx).1
    | false =>
      rw [Option.filter_some, hx]
      refine (hkeep e fun entry hmem hxx he => ?_).trans h
      obtain ⟨e', info'⟩ := entry
      subst he
      have heq := h.symm.trans (mem_entries_iff.mp hmem)
      rw [Option.some.injEq] at heq
      rw [heq] at hx
      rw [hxx] at hx
      cases hx

theorem cleanupTimeouts_tokens (r : UDPEndpointRegistry) (now : Nat) (timeoutMs : UInt32)
    (t : UInt128) :
    ((∃ e info, r.sessions.lookup e = some info ∧ expired now timeoutMs info = true ∧
      info.udpToken = t) → (r.cleanupTimeouts now timeoutMs).1.tokens.lookup t = none) ∧
    ((∀ e info, r.sessions.lookup e = some info → expired now timeoutMs info = true →
      info.udpToken ≠ t) →
      (r.cleanupTimeouts now timeoutMs).1.tokens.lookup t = r.tokens.lookup t) := by
  obtain ⟨hgone, -, hkeep⟩ := cleanup_rounds now timeoutMs r.sessions.entries (r, 0)
  constructor
  · rintro ⟨e, info, h, hx, rfl⟩
    exact (hgone ⟨e, info⟩ (mem_entries_iff.mpr h) hx).2
  · intro h
    exact hkeep t fun entry hmem hx => h entry.1 entry.2 (mem_entries_iff.mp hmem) hx

end UDPEndpointRegistry

end ToyServer
