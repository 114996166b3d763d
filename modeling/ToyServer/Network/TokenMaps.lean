import ToyServer.Lib.Runs
import ToyServer.Network.UDPEndpointRegistry

/-!
# Do the two maps of the registry agree?

A token should lead to an endpoint exactly when the entry of the endpoint carries the token, and
`GetEndpointByToken` should find exactly the session that was registered with the token and still
is.  The operations keep that up only as long as nothing is bound a second time and nothing with a
token is removed: `Remove` leaves the token behind, `RegisterWithToken` leaves behind the token the
endpoint had and the entry the token led to, and `Register` puts another session under the token.

* `maps_agree`: the maps agree in every run that leaves bindings alone until they expire
  (`KeepsBinding`).
-/

namespace ToyServer

open Runs

/-! ## Calls -/

structure RegistryState where
  registry : UDPEndpointRegistry
  /-- the steady clock, in nanoseconds -/
  now : Nat
  /-- session and token of the last `RegisterWithToken` for an endpoint, while its entry stands -/
  given : Endpoint → Option (UDPSessionPtr × UInt128)

inductive RegistryAction where
  | register (endpoint : Endpoint) (session : UDPSessionPtr)
  | registerWithToken (endpoint : Endpoint) (session : UDPSessionPtr) (udpToken : UInt128)
  | remove (endpoint : Endpoint)
  | updateActivity (endpoint : Endpoint)
  | cleanupTimeouts (timeoutMs : UInt32)
  | wait (ns : Nat)
deriving DecidableEq, Repr

namespace RegistryState

def init : RegistryState := ⟨.empty, 0, fun _ => none⟩

/-- The entry of the endpoint goes with this cleanup. -/
def expires (s : RegistryState) (timeoutMs : UInt32) (e : Endpoint) : Bool :=
  (s.registry.sessions.lookup e).any (UDPEndpointRegistry.expired s.now timeoutMs)

def step (s : RegistryState) : RegistryAction → Option RegistryState
  | .register e p => some { s with registry := s.registry.register s.now e p }
  | .registerWithToken e p t =>
    some { s with
      registry := s.registry.registerWithToken s.now e p t
      given := Function.update s.given e (some (p, t)) }
  | .remove e =>
    some { s with registry := s.registry.remove e, given := Function.update s.given e none }
  | .updateActivity e => some { s with registry := s.registry.updateActivity s.now e }
  | .cleanupTimeouts timeoutMs =>
    some { s with
      registry := (s.registry.cleanupTimeouts s.now timeoutMs).1
      given := fun e => if s.expires timeoutMs e then none else s.given e }
  | .wait ns => some { s with now := s.now + ns }

end RegistryState

/-! ## Agreement -/

/-- The entry of the endpoint carries the token; an entry made by `Register` carries none. -/
def RegistryState.Carries (s : RegistryState) (e : Endpoint) (t : UInt128) : Prop :=
  ∃ info, s.registry.sessions.lookup e = some info ∧ info.udpToken = t ∧ (s.given e).isSome

/-- The session was registered with the token for the endpoint and still is. -/
def RegistryState.RegisteredWith (s : RegistryState) (e : Endpoint) (p : UDPSessionPtr)
    (t : UInt128) : Prop :=
  ∃ info, s.registry.sessions.lookup e = some info ∧ info.session = p ∧ s.given e = some (p, t)

/-- The maps are inverse to each other, and a token finds exactly the session registered with it. -/
structure MapsAgree (s : RegistryState) : Prop where
  maps : ∀ t e, s.registry.tokens.lookup t = some e ↔ s.Carries e t
  only : ∀ t p, s.registry.getEndpointByToken t = some p → ∃ e, s.RegisteredWith e p t
  finds : ∀ e p t, s.RegisteredWith e p t → s.registry.getEndpointByToken t = some p

/-- An endpoint with a token keeps its session and its token and is not removed; a token keeps its
endpoint.  `CleanupTimeouts` erases the default token along with an entry that carries none, so such
an entry expires only while no entry that stays is registered with the default token. -/
def KeepsBinding (s : RegistryState) : RegistryAction → Prop
  | .register e p => ∀ p' t, s.given e = some (p', t) → p' = p
  | .registerWithToken e _ t =>
    (∀ p' t', s.given e = some (p', t') → t' = t) ∧ ∀ e', s.registry.tokens.lookup t =
      some e' → e' = e
  | .remove e => s.given e = none
  | .cleanupTimeouts timeoutMs =>
    ∀ e, s.expires timeoutMs e = true → s.given e = none →
      ∀ e', s.registry.tokens.lookup .zero = some e' → s.expires timeoutMs e' = true
  | .updateActivity _ | .wait _ => True

/-- Every binding stands in both maps. -/
structure Bound (s : RegistryState) : Prop where
  entry : ∀ e p t, s.given e = some (p, t) →
    ∃ info, s.registry.sessions.lookup e = some info ∧ info.session = p ∧ info.udpToken = t
  plain : ∀ e info, s.registry.sessions.lookup e = some info → s.given e = none →
    info.udpToken = .zero
  tokens : ∀ t e, s.registry.tokens.lookup t = some e ↔ ∃ p, s.given e = some (p, t)

variable {s s' : RegistryState} {a : RegistryAction}

theorem Bound.agree (h : Bound s) : MapsAgree s := by
  refine ⟨fun t e => ?_, fun t p hp => ?_, fun e p t hr => ?_⟩
  · rw [h.tokens]
    constructor
    · rintro ⟨p, hp⟩
      obtain ⟨info, hinfo, -, ht⟩ := h.entry e p t hp
      exact ⟨info, hinfo, ht, by rw [hp]; rfl⟩
    · rintro ⟨info, hinfo, ht, hsome⟩
      obtain ⟨⟨p, t'⟩, hg⟩ := Option.isSome_iff_exists.mp hsome
      obtain ⟨info', hinfo', -, ht'⟩ := h.entry e p t' hg
      rw [hinfo, Option.some.injEq] at hinfo'
      subst hinfo'
      exact ⟨p, by rw [hg, ← ht', ht]⟩
  · unfold UDPEndpointRegistry.getEndpointByToken at hp
    split at hp
    · cases hp
    · next e he =>
      obtain ⟨p', hg⟩ := (h.tokens t e).mp he
      obtain ⟨info, hinfo, hsession, -⟩ := h.entry e p' t hg
      rw [hinfo, Option.map_some, Option.some.injEq] at hp
      have hpp : p' = p := hsession.symm.trans hp
      exact ⟨e, info, hinfo, hp, hpp ▸ hg⟩
  · obtain ⟨info, hinfo, hsession, hg⟩ := hr
    rw [UDPEndpointRegistry.getEndpointByToken, (h.tokens t e).mpr ⟨p, hg⟩]
    show (s.registry.sessions.lookup e).map _ = _
    rw [hinfo, Option.map_some, hsession]

/-! ## The operations keep the bindings -/

open UDPEndpointRegistry

variable {e : Endpoint}

theorem Bound.token_unique (h : Bound s) {e' : Endpoint} {p p' : UDPSessionPtr} {t : UInt128}
    (hg : s.given e = some (p, t)) (hg' : s.given e' = some (p', t)) : e = e' := by
  have h₁ := (h.tokens t e).mpr ⟨p, hg⟩
  rw [(h.tokens t e').mpr ⟨p', hg'⟩, Option.some.injEq] at h₁
  exact h₁.symm

theorem Bound.register (h : Bound s) {p : UDPSessionPtr}
    (hok : ∀ p' t, s.given e = some (p', t) → p' = p) :
    Bound { s with registry := s.registry.register s.now e p } := by
  refine ⟨fun e' p' t hg => ?_, fun e' info hinfo hg => ?_, fun t e' => ?_⟩
  · obtain ⟨info, hinfo, hsession, ht⟩ := h.entry e' p' t hg
    simp only [register_sessions]
    split
    · next he =>
      subst he
      refine ⟨_, rfl, (hok p' t hg).symm, ?_⟩
      simp only [tokenOf, hinfo, Option.map_some, Option.getD_some]
      exact ht
    · exact ⟨info, hinfo, hsession, ht⟩
  · simp only [register_sessions] at hinfo
    split at hinfo
    · next he =>
      subst he
      cases hinfo
      cases hl : s.registry.sessions.lookup e' with
      | none => simp [tokenOf, hl]
      | some old =>
        simp only [tokenOf, hl, Option.map_some, Option.getD_some]
        exact h.plain e' old hl hg
    · exact h.plain e' info hinfo hg
  · simp only [register_tokens]
    exact h.tokens t e'

theorem Bound.registerWithToken (h : Bound s) {p : UDPSessionPtr} {t : UInt128}
    (hend : ∀ p' t', s.given e = some (p', t') → t' = t)
    (htok : ∀ e', s.registry.tokens.lookup t = some e' → e' = e) : Bound { s with
      registry := s.registry.registerWithToken s.now e p t
      given := Function.update s.given e (some (p, t)) } := by
  refine ⟨fun e' p' t' hg => ?_, fun e' info hinfo hg => ?_, fun t' e' => ?_⟩
  · simp only [registerWithToken_sessions] at hg ⊢
    by_cases he : e' = e
    · subst he
      rw [Function.update_self, Option.some.injEq, Prod.mk.injEq] at hg
      obtain ⟨rfl, rfl⟩ := hg
      rw [if_pos rfl]
      exact ⟨_, rfl, rfl, rfl⟩
    · rw [Function.update_of_ne he] at hg
      rw [if_neg he]
      exact h.entry e' p' t' hg
  · simp only [registerWithToken_sessions] at hinfo hg
    by_cases he : e' = e
    · subst he
      rw [Function.update_self] at hg
      cases hg
    · rw [Function.update_of_ne he] at hg
      rw [if_neg he] at hinfo
      exact h.plain e' info hinfo hg
  · simp only [registerWithToken_tokens]
    by_cases he : e' = e
    · subst he
      rw [Function.update_self]
      by_cases ht : t' = t
      · subst ht
        rw [if_pos rfl]
        exact ⟨fun _ => ⟨p, rfl⟩, fun _ => rfl⟩
      · rw [if_neg ht]
        refine ⟨fun hl => ?_, fun ⟨p', hg⟩ => ?_⟩
        · -- the old token of the endpoint would have to be the new one
          obtain ⟨p', hg⟩ := (h.tokens t' e').mp hl
          exact absurd (hend p' t' hg) ht
        · rw [Option.some.injEq, Prod.mk.injEq] at hg
          exact absurd hg.2.symm ht
    · rw [Function.update_of_ne he]
      split
      · next ht =>
        subst ht
        refine ⟨fun hl => ?_, fun hg => ?_⟩
        · rw [Option.some.injEq] at hl
          exact absurd hl.symm he
        · exact absurd (htok e' ((h.tokens t' e').mpr hg)) he
      · exact h.tokens t' e'

theorem Bound.remove (h : Bound s) (hok : s.given e = none) :
    Bound { s with registry := s.registry.remove e, given := Function.update s.given e none } := by
  have hsame : Function.update s.given e none = s.given := by rw [← hok, Function.update_eq_self]
  rw [hsame]
  refine ⟨fun e' p t hg => ?_, fun e' info hinfo hg => ?_, h.tokens⟩
  · have hne : e' ≠ e := fun he => by rw [he, hok] at hg; cases hg
    obtain ⟨info, hinfo, hrest⟩ := h.entry e' p t hg
    exact ⟨info, (AList.lookup_erase_ne hne).trans hinfo, hrest⟩
  · by_cases he : e' = e
    · subst he
      cases (AList.lookup_erase e' s.registry.sessions).symm.trans hinfo
    · exact h.plain e' info ((AList.lookup_erase_ne he).symm.trans hinfo) hg

theorem Bound.updateActivity (h : Bound s) (e : Endpoint) :
    Bound { s with registry := s.registry.updateActivity s.now e } := by
  refine ⟨fun e' p t hg => ?_, fun e' info hinfo hg => ?_, fun t e' => ?_⟩
  · obtain ⟨info, hinfo, hrest⟩ := h.entry e' p t hg
    simp only [updateActivity_sessions]
    split
    · next he =>
      subst he
      exact ⟨{ info with lastActivity := s.now }, by rw [hinfo]; rfl, hrest⟩
    · exact ⟨info, hinfo, hrest⟩
  · simp only [updateActivity_sessions] at hinfo
    split at hinfo
    · next he =>
      subst he
      obtain ⟨old, hold, rfl⟩ := Option.map_eq_some_iff.mp hinfo
      exact h.plain e' old hold hg
    · exact h.plain e' info hinfo hg
  · simp only [updateActivity_tokens]
    exact h.tokens t e'

theorem expires_eq {timeoutMs : UInt32} {info : SessionInfo}
    (h : s.registry.sessions.lookup e = some info) :
    s.expires timeoutMs e = expired s.now timeoutMs info := by
  rw [RegistryState.expires, h]
  rfl

theorem Bound.cleanupTimeouts (h : Bound s) {timeoutMs : UInt32}
    (hok : ∀ e, s.expires timeoutMs e = true → s.given e = none →
      ∀ e', s.registry.tokens.lookup .zero = some e' → s.expires timeoutMs e' = true) :
    Bound { s with
      registry := (s.registry.cleanupTimeouts s.now timeoutMs).1
      given := fun e => if s.expires timeoutMs e then none else s.given e } := by
  have hleft : ∀ {e p t}, (if s.expires timeoutMs e then none else s.given e) = some (p, t) →
      s.expires timeoutMs e = false ∧ s.given e = some (p, t) := by
    intro e p t hg
    split at hg
    · cases hg
    · next hx => exact ⟨Bool.eq_false_iff.mpr hx, hg⟩
  refine ⟨fun e p t hg => ?_, fun e info hinfo hg => ?_,
    fun t e => ⟨fun hl => ?_, fun ⟨p, hg⟩ => ?_⟩⟩
  · obtain ⟨hx, hg⟩ := hleft hg
    obtain ⟨info, hinfo, hrest⟩ := h.entry e p t hg
    refine ⟨info, ?_, hrest⟩
    rw [expires_eq hinfo] at hx
    rw [cleanupTimeouts_sessions, hinfo, Option.filter_some, hx]
    rfl
  · rw [cleanupTimeouts_sessions, Option.filter_eq_some_iff] at hinfo
    obtain ⟨hinfo, hx⟩ := hinfo
    rw [Bool.not_eq_true'] at hx
    refine h.plain e info hinfo (Eq.trans ?_ hg)
    show s.given e = if s.expires timeoutMs e then none else s.given e
    rw [expires_eq hinfo, hx]
    rfl
  · -- a token that is still there is no token of an expired entry
    obtain ⟨hgone, hkept⟩ := cleanupTimeouts_tokens s.registry s.now timeoutMs t
    have hnot : ∀ e info, s.registry.sessions.lookup e = some info →
        expired s.now timeoutMs info = true → info.udpToken ≠ t := by
      intro e' info hinfo hx ht
      rw [hgone ⟨e', info, hinfo, hx, ht⟩] at hl
      cases hl
    rw [hkept hnot] at hl
    obtain ⟨p, hg⟩ := (h.tokens t e).mp hl
    obtain ⟨info, hinfo, -, ht⟩ := h.entry e p t hg
    have hx : ¬ s.expires timeoutMs e = true := by
      rw [expires_eq hinfo]
      exact fun hx => hnot e info hinfo hx ht
    exact ⟨p, (if_neg hx).trans hg⟩
  · obtain ⟨hx, hg⟩ := hleft hg
    have htok := (h.tokens t e).mpr ⟨p, hg⟩
    refine ((cleanupTimeouts_tokens s.registry s.now timeoutMs t).2 fun e' info hinfo hx' ht =>
      ?_).trans htok
    rw [← expires_eq hinfo] at hx'
    cases hg' : s.given e' with
    | none =>
      -- an entry without a token takes the default token along
      have hzero := h.plain e' info hinfo hg'
      rw [← ht, hzero] at htok
      rw [hok e' hx' hg' e htok] at hx
      cases hx
    | some b =>
      obtain ⟨p', t'⟩ := b
      obtain ⟨info', hinfo', -, ht'⟩ := h.entry e' p' t' hg'
      rw [hinfo, Option.some.injEq] at hinfo'
      subst hinfo'
      have hee := h.token_unique hg (show s.given e' = some (p', t) by rw [hg', ← ht', ht])
      rw [hee, hx'] at hx
      cases hx

theorem bound_step (h : Bound s) (hok : KeepsBinding s a) (hs : s.step a = some s') : Bound s' := by
  cases a with
  | register e p => cases hs; exact h.register hok
  | registerWithToken e p t => cases hs; exact h.registerWithToken hok.1 hok.2
  | remove e => cases hs; exact h.remove hok
  | updateActivity e => cases hs; exact h.updateActivity e
  | cleanupTimeouts timeoutMs => cases hs; exact h.cleanupTimeouts hok
  | wait ns => cases hs; exact ⟨h.entry, h.plain, h.tokens⟩

theorem bound_init : Bound .init where
  entry _ _ _ h := by cases h
  plain _ _ h := by cases h
  tokens t e := by
    constructor
    · intro h
      cases h
    · rintro ⟨_, h⟩
      cases h

/-- **The maps agree** after every sequence of calls that leaves the bindings alone until they
expire. -/
theorem maps_agree (as : List RegistryAction) {s : RegistryState}
    (hok : Meets RegistryState.step KeepsBinding .init as)
    (h : run RegistryState.step .init as = some s) : MapsAgree s :=
  (run_inv_of_meets Bound (fun _ _ _ => bound_step) bound_init hok h).agree

/-- Two clients with tokens, one without; the second client goes quiet and expires. -/
theorem maps_agree_two_clients :
    ∃ s, run RegistryState.step .init
        [.registerWithToken ⟨1, 1000⟩ 7 ⟨0, 5⟩, .registerWithToken ⟨2, 1000⟩ 8 ⟨0, 6⟩,
          .register ⟨3, 1000⟩ 9,
          .wait 20000000, .updateActivity ⟨1, 1000⟩, .updateActivity ⟨3, 1000⟩,
          .cleanupTimeouts 15] = some s ∧
      s.registry.getEndpointByToken ⟨0, 5⟩ = some 7 ∧ s.registry.getEndpointByToken ⟨0, 6⟩ =
        none ∧ MapsAgree s := by
  refine exists_run_and ⟨_, rfl, by decide⟩ fun s hs => ⟨by cases hs; decide, maps_agree _ ?_ hs⟩
  refine meets_cons ⟨?_, ?_⟩ rfl (meets_cons ⟨?_, ?_⟩ rfl (meets_cons ?_ rfl (meets_cons trivial rfl
    (meets_cons trivial rfl (meets_cons trivial rfl (meets_cons ?_ rfl trivial))))))
  · intro _ _ h
    cases h
  · intro _ h
    cases h
  · intro _ _ h
    cases h
  · intro _ h
    cases h
  · intro _ _ h
    cases h
  · intro _ _ _ _ h
    cases h

/-- **The maps come apart.**  An endpoint with a token is removed; it is registered with a second
token; its token is bound to another endpoint; another session is registered over it. -/
theorem maps_come_apart :
    (∃ s, run RegistryState.step .init [.registerWithToken ⟨1, 1000⟩ 7 ⟨0, 5⟩,
      .remove ⟨1, 1000⟩] = some s ∧ ¬ MapsAgree s) ∧
    (∃ s, run RegistryState.step .init
        [.registerWithToken ⟨1, 1000⟩ 7 ⟨0, 5⟩, .registerWithToken ⟨1, 1000⟩ 8 ⟨0, 6⟩] = some s ∧
      s.registry.getEndpointByToken ⟨0, 5⟩ = some 8 ∧ ¬ MapsAgree s) ∧
    (∃ s, run RegistryState.step .init
        [.registerWithToken ⟨1, 1000⟩ 7 ⟨0, 5⟩, .registerWithToken ⟨2, 1000⟩ 8 ⟨0, 5⟩] = some s ∧
        ¬ MapsAgree s) ∧
    ∃ s, run RegistryState.step .init
      [.registerWithToken ⟨1, 1000⟩ 7 ⟨0, 5⟩, .register ⟨1, 1000⟩ 8] = some s ∧
      s.registry.getEndpointByToken ⟨0, 5⟩ = some 8 ∧ ¬ MapsAgree s := by
  refine ⟨⟨_, rfl, fun h => ?_⟩, ⟨_, rfl, by decide, fun h => ?_⟩, ⟨_, rfl, fun h => ?_⟩,
    ⟨_, rfl, by decide, fun h => ?_⟩⟩
  · obtain ⟨info, hinfo, -⟩ := (h.maps ⟨0, 5⟩ ⟨1, 1000⟩).mp (by decide)
    cases hinfo
  · obtain ⟨info, hinfo, ht, -⟩ := (h.maps ⟨0, 5⟩ ⟨1, 1000⟩).mp (by decide)
    cases hinfo
    cases ht
  · have hl := (h.maps ⟨0, 5⟩ ⟨1, 1000⟩).mpr ⟨⟨7, 0, ⟨0, 5⟩⟩, by decide, rfl, by decide⟩
    cases hl
  · obtain ⟨e, info, hinfo, hsession, hg⟩ := h.only ⟨0, 5⟩ 8 (by decide)
    by_cases he : e = ⟨1, 1000⟩
    · subst he
      cases hg
    · rw [RegistryState.init] at hg
      simp [he] at hg

end ToyServer
