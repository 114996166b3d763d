import ToyServer.Lib.Runs
import ToyServer.Network.UDPReceive

/-!
# Do active UDP sessions stay registered?

`HandleReceive` stamps the entry of the sender's endpoint, `CleanupTimeouts` drops the entries whose
stamp is too old.  A client that is recognised by its token alone has no entry at the endpoint it
now sends from, so its datagrams are delivered and nothing is stamped.

* `active_stay`: a session that received a datagram in time stays registered, in every run in which
  datagrams are delivered from registered endpoints and no endpoint is taken from a session that
  keeps only older entries (`Stamped`).
-/

namespace ToyServer

open Runs UDPEndpointRegistry

def UDPEndpointRegistry.Registered (r : UDPEndpointRegistry) (session : UDPSessionPtr) : Prop :=
  ∃ e info, r.sessions.lookup e = some info ∧ info.session = session

/-! ## Registrations, datagrams, cleanups -/

structure ActivityState where
  registry : UDPEndpointRegistry
  /-- the steady clock, in nanoseconds -/
  now : Nat
  /-- when `HandleData` was last called on a session -/
  delivered : UDPSessionPtr → Option Nat

inductive ActivityAction where
  | register (endpoint : Endpoint) (session : UDPSessionPtr)
  | registerWithToken (endpoint : Endpoint) (session : UDPSessionPtr) (udpToken : UInt128)
  | datagram (error : Bool) (bytes : List UInt8) (sender : Endpoint)
  | cleanupTimeouts (timeoutMs : UInt32)
  | wait (ns : Nat)
deriving DecidableEq, Repr

namespace ActivityState

def init : ActivityState := ⟨.empty, 0, fun _ => none⟩

variable (udp : UDPSessionPtr → Bool) (s : ActivityState)

/-- `HandleReceive` on a running network. -/
def received (error : Bool) (bytes : List UInt8) (sender : Endpoint) : Received :=
  UDPNetworkImpl.handleReceive udp ⟨false, some s.registry, true⟩ s.now error bytes sender

def step : ActivityAction → Option ActivityState
  | .register e p => some { s with registry := s.registry.register s.now e p }
  | .registerWithToken e p t => some { s with registry := s.registry.registerWithToken s.now e p t }
  | .datagram error bytes sender =>
    let received := s.received udp error bytes sender
    some { s with
      registry := received.network.registry.getD s.registry
      delivered :=
        match received.call with
        | some call => Function.update s.delivered call.session (some s.now)
        | none => s.delivered }
  | .cleanupTimeouts timeoutMs =>
    some { s with registry := (s.registry.cleanupTimeouts s.now timeoutMs).1 }
  | .wait ns => some { s with now := s.now + ns }

end ActivityState

/-! ## Stamps -/

/-- If the endpoint is taken from another session, that session keeps no entry or one as recent. -/
def TakesNoRecent (s : ActivityState) (e : Endpoint) (p : UDPSessionPtr) : Prop :=
  ∀ info, s.registry.sessions.lookup e = some info → info.session ≠ p →
    ∀ e₁ info₁, e₁ ≠ e → s.registry.sessions.lookup e₁ = some info₁ → info₁.session = info.session →
      ∃ e₂ info₂, e₂ ≠ e ∧ s.registry.sessions.lookup e₂ = some info₂ ∧
        info₂.session = info.session ∧ info.lastActivity ≤ info₂.lastActivity

/-- A datagram that is delivered comes from a registered endpoint. -/
def Stamped (udp : UDPSessionPtr → Bool) (s : ActivityState) : ActivityAction → Prop
  | .register e p => TakesNoRecent s e p
  | .registerWithToken e p _ => TakesNoRecent s e p
  | .datagram error bytes sender =>
    ∀ call, (s.received udp error bytes sender).call = some call → s.registry.find sender ≠ none
  | .cleanupTimeouts _ | .wait _ => True

/-- A registered session has an entry no older than the last datagram it received. -/
structure Fresh (s : ActivityState) : Prop where
  past : ∀ p τ, s.delivered p = some τ → τ ≤ s.now
  entry : ∀ p τ, s.delivered p = some τ → s.registry.Registered p →
    ∃ e info, s.registry.sessions.lookup e = some info ∧ info.session = p ∧ τ ≤ info.lastActivity

variable {udp : UDPSessionPtr → Bool} {s s' : ActivityState} {a : ActivityAction}

/-- The entry of one endpoint is written with the present time. -/
theorem Fresh.write (h : Fresh s) {r : UDPEndpointRegistry} (e : Endpoint) (new : SessionInfo)
    (hr : ∀ e', r.sessions.lookup e' = if e' = e then some new else s.registry.sessions.lookup e')
    (hnow : new.lastActivity = s.now) (hok : TakesNoRecent s e new.session) :
    Fresh { s with registry := r } := by
  refine ⟨h.past, fun p τ hτ hreg => ?_⟩
  by_cases hp : new.session = p
  · exact ⟨e, new, by rw [hr, if_pos rfl], hp, hnow ▸ h.past p τ hτ⟩
  · -- the session is registered elsewhere, before and after
    obtain ⟨e₁, info₁, hl₁, hs₁⟩ := hreg
    have he₁ : e₁ ≠ e := by
      intro he
      rw [hr, if_pos he, Option.some.injEq] at hl₁
      exact hp (hl₁ ▸ hs₁)
    rw [hr, if_neg he₁] at hl₁
    obtain ⟨e₀, info₀, hl₀, hs₀, hτ₀⟩ := h.entry p τ hτ ⟨e₁, info₁, hl₁, hs₁⟩
    by_cases he₀ : e₀ = e
    · subst he₀
      obtain ⟨e₂, info₂, he₂, hl₂, hs₂, hle⟩ :=
        hok info₀ hl₀ (fun heq => hp (heq.symm.trans hs₀)) e₁ info₁ he₁ hl₁ (hs₁.trans hs₀.symm)
      exact ⟨e₂, info₂, by rw [hr, if_neg he₂]; exact hl₂, hs₂.trans hs₀, hτ₀.trans hle⟩
    · exact ⟨e₀, info₀, by rw [hr, if_neg he₀]; exact hl₀, hs₀, hτ₀⟩

theorem Fresh.updateActivity (h : Fresh s) (e : Endpoint) :
    Fresh { s with registry := s.registry.updateActivity s.now e } := by
  cases hl : s.registry.sessions.lookup e with
  | none =>
    rw [UDPEndpointRegistry.updateActivity, hl]
    exact h
  | some info =>
    refine h.write e { info with lastActivity := s.now } (fun e' => ?_) rfl ?_
    · rw [updateActivity_sessions, hl]
      rfl
    · intro info' hl' hne
      rw [hl, Option.some.injEq] at hl'
      exact absurd (congrArg SessionInfo.session hl'.symm) hne

/-! ## Datagrams -/

/-- A datagram leaves the registry or stamps the sender's entry; what is delivered is stamped. -/
theorem received_registry (udp : UDPSessionPtr → Bool) (s : ActivityState) (error : Bool)
    (bytes : List UInt8) (sender : Endpoint) : (s.received udp error bytes sender).call = none ∧
        (s.received udp error bytes sender).network.registry = some s.registry ∨
      (s.received udp error bytes sender).network.registry =
        some (s.registry.updateActivity s.now sender) := by
  unfold ActivityState.received UDPNetworkImpl.handleReceive
  simp only [Bool.false_eq_true, if_false, if_true]
  split
  · exact .inl ⟨rfl, rfl⟩
  · split
    · split
      · split
        · exact .inl ⟨rfl, rfl⟩
        · split
          · exact .inr rfl
          · exact .inr rfl
      · exact .inl ⟨rfl, rfl⟩
    · exact .inl ⟨rfl, rfl⟩

/-- A datagram from a registered endpoint goes to the session of its entry. -/
theorem received_call {error : Bool} {bytes : List UInt8} {sender : Endpoint}
    {call : HandleDataCall} (h : (s.received udp error bytes sender).call = some call)
    (hfind : s.registry.find sender ≠ none) :
    ∃ info, s.registry.sessions.lookup sender = some info ∧ info.session = call.session := by
  obtain ⟨r, hacc, -, hl, -⟩ := handleReceive_call h
  obtain rfl : s.registry = r := Option.some.inj hacc.registry
  obtain ⟨session, hsession⟩ := Option.ne_none_iff_exists'.mp hfind
  rw [lookup_of_find_some hsession, Option.some.injEq] at hl
  obtain ⟨info, hinfo, hi⟩ := Option.map_eq_some_iff.mp hsession
  exact ⟨info, hinfo, hi.trans hl⟩

/-- A session receives a datagram and has an entry with the present time. -/
theorem Fresh.deliver (h : Fresh s) {p : UDPSessionPtr} {e : Endpoint} {info : SessionInfo}
    (hl : s.registry.sessions.lookup e = some info) (hp : info.session = p)
    (hnow : info.lastActivity = s.now) :
    Fresh { s with delivered := Function.update s.delivered p (some s.now) } := by
  refine ⟨fun q τ hτ => ?_, fun q τ hτ hq => ?_⟩
  · simp only [Function.update_apply] at hτ
    split at hτ
    · exact (Option.some.inj hτ).ge
    · exact h.past q τ hτ
  · simp only [Function.update_apply] at hτ
    split at hτ
    · next heq => exact ⟨e, info, hl, hp.trans heq.symm, hnow ▸ (Option.some.inj hτ).ge⟩
    · exact h.entry q τ hτ hq

theorem Fresh.datagram (h : Fresh s) {error : Bool} {bytes : List UInt8} {sender : Endpoint}
    (hok : Stamped udp s (.datagram error bytes sender))
    (hs : s.step udp (.datagram error bytes sender) = some s') : Fresh s' := by
  cases hs
  rcases received_registry udp s error bytes sender with ⟨hcall, hreg⟩ | hreg
  · simp only [hcall, hreg, Option.getD_some]
    exact h
  · have hstamp := h.updateActivity sender
    simp only [hreg, Option.getD_some]
    cases hcall : (s.received udp error bytes sender).call with
    | none => exact hstamp
    | some call =>
      obtain ⟨info, hinfo, hsession⟩ := received_call hcall (hok call hcall)
      have hl : (s.registry.updateActivity s.now sender).sessions.lookup sender =
          some { info with lastActivity := s.now } := by
        rw [updateActivity_sessions, if_pos rfl, hinfo]
        rfl
      exact hstamp.deliver hl hsession rfl

/-! ## Cleanups -/

theorem expired_older {now : Nat} {timeoutMs : UInt32} {old new : SessionInfo}
    (hold : expired now timeoutMs old = true) (hnew : expired now timeoutMs new = false) :
    old.lastActivity ≤ new.lastActivity := by
  simp only [expired, decide_eq_true_eq, decide_eq_false_iff_not] at hold hnew
  omega

theorem lookup_cleanup {timeoutMs : UInt32} {e : Endpoint} {info : SessionInfo} :
    (s.registry.cleanupTimeouts s.now timeoutMs).1.sessions.lookup e = some info ↔
      s.registry.sessions.lookup e = some info ∧ expired s.now timeoutMs info = false := by
  rw [cleanupTimeouts_sessions, Option.filter_eq_some_iff, Bool.not_eq_true']

theorem Fresh.cleanupTimeouts (h : Fresh s) (timeoutMs : UInt32) :
    Fresh { s with registry := (s.registry.cleanupTimeouts s.now timeoutMs).1 } := by
  refine ⟨h.past, fun p τ hτ hreg => ?_⟩
  obtain ⟨e₁, info₁, hl₁, hs₁⟩ := hreg
  have hleft := lookup_cleanup.mp hl₁
  obtain ⟨e, info, hl, hs, hle⟩ := h.entry p τ hτ ⟨e₁, info₁, hleft.1, hs₁⟩
  cases hx : expired s.now timeoutMs info with
  | false => exact ⟨e, info, lookup_cleanup.mpr ⟨hl, hx⟩, hs, hle⟩
  | true => exact ⟨e₁, info₁, hl₁, hs₁, hle.trans (expired_older hx hleft.2)⟩

theorem fresh_init : Fresh .init := by
  constructor
  · intro _ _ h
    cases h
  · intro _ _ h
    cases h

theorem fresh_step (h : Fresh s) (hok : Stamped udp s a) (hs : s.step udp a = some s') :
    Fresh s' := by
  cases a with
  | register e p =>
    cases hs
    exact h.write e _ (register_sessions s.registry s.now e · p) rfl hok
  | registerWithToken e p t =>
    cases hs
    exact h.write e _ (registerWithToken_sessions s.registry s.now e · p t) rfl hok
  | datagram error bytes sender => exact h.datagram hok hs
  | cleanupTimeouts timeoutMs => cases hs; exact h.cleanupTimeouts timeoutMs
  | wait ns =>
    cases hs
    exact ⟨fun p τ hτ => (h.past p τ hτ).trans (Nat.le_add_right _ _), h.entry⟩

theorem not_expired {now τ : Nat} {timeoutMs : UInt32} {info : SessionInfo}
    (hτ : τ ≤ info.lastActivity) (hin : now ≤ τ + timeoutMs.toNat * 1000000) :
    expired now timeoutMs info = false := by
  simp only [expired, decide_eq_false_iff_not]
  omega

/-- **Active sessions stay.**  Whenever `CleanupTimeouts` runs, a registered session that received a
datagram at most `timeoutMs` before is still registered after it. -/
theorem active_stay (udp : UDPSessionPtr → Bool) (as : List ActivityAction) (timeoutMs : UInt32)
    {s s' : ActivityState} (hok : Meets (ActivityState.step udp) (Stamped udp) .init as)
    (h : run (ActivityState.step udp) .init as = some s)
    (hs : s.step udp (.cleanupTimeouts timeoutMs) = some s')
    {p : UDPSessionPtr} {τ : Nat} (hτ : s.delivered p = some τ) (hp : s.registry.Registered p)
    (hin : s.now ≤ τ + timeoutMs.toNat * 1000000) : s'.registry.Registered p := by
  have hfresh : Fresh s := run_inv_of_meets Fresh (fun _ _ _ => fresh_step) fresh_init hok h
  obtain ⟨e, info, hl, hsession, hle⟩ := hfresh.entry p τ hτ hp
  cases hs
  exact ⟨e, info, lookup_cleanup.mpr ⟨hl, not_expired hle hin⟩, hsession⟩

/-- A client that keeps its endpoint: registered, silent for 20 ms, then heard, then a cleanup after
15 ms. -/
theorem active_stay_same_endpoint :
    ∃ s s', run (ActivityState.step fun _ => true) .init
        [.registerWithToken ⟨1, 1000⟩ 7 ⟨0, 5⟩, .wait 20000000,
          .datagram false (rawDatagram 7 ⟨0, 5⟩) ⟨1, 1000⟩] =
        some s ∧ s.delivered 7 = some 20000000 ∧
      s.step (fun _ => true) (.cleanupTimeouts 15) = some s' ∧ s'.registry.Registered 7 := by
  refine ⟨_, _, rfl, by decide, rfl, active_stay (fun _ => true)
    [.registerWithToken ⟨1, 1000⟩ 7 ⟨0, 5⟩, .wait 20000000,
      .datagram false (rawDatagram 7 ⟨0, 5⟩) ⟨1, 1000⟩] 15
    ?_ rfl rfl (p := 7) (τ := 20000000) (by decide)
    ⟨⟨1, 1000⟩, ⟨7, 20000000, ⟨0, 5⟩⟩, by decide, rfl⟩ (by decide)⟩
  refine meets_cons ?_ rfl (meets_cons trivial rfl (meets_cons ?_ rfl trivial))
  · intro _ h
    cases h
  · intro _ _
    decide

/-- **An active session times out.** The client's address changes: its datagram, recognised by the
token, is delivered and the cleanup at the same moment drops the session.  Likewise when the
endpoint it sent from is given to another session and an older entry is all it has left. -/
theorem active_times_out :
    (∃ s s', run (ActivityState.step fun _ => true) .init
        [.registerWithToken ⟨1, 1000⟩ 7 ⟨0, 5⟩, .wait 20000000,
          .datagram false (rawDatagram 7 ⟨0, 5⟩) ⟨2, 2000⟩] =
        some s ∧ s.delivered 7 = some s.now ∧ s.registry.Registered 7 ∧
      s.step (fun _ => true) (.cleanupTimeouts 15) = some s' ∧ ¬ s'.registry.Registered 7) ∧
    ∃ s s', run (ActivityState.step fun _ => true) .init
        [.register ⟨1, 1000⟩ 7, .wait 20000000, .register ⟨2, 2000⟩ 7,
          .datagram false (rawDatagram 7 ⟨0, 5⟩) ⟨2, 2000⟩,
          .register ⟨2, 2000⟩ 8] = some s ∧ s.delivered 7 = some s.now ∧ s.registry.Registered 7 ∧
      s.step (fun _ => true) (.cleanupTimeouts 15) = some s' ∧ ¬ s'.registry.Registered 7 := by
  refine ⟨⟨_, _, rfl, by decide, ⟨⟨1, 1000⟩, ⟨7, 0, ⟨0, 5⟩⟩, by decide, rfl⟩, rfl, ?_⟩,
    ⟨_, _, rfl, by decide, ⟨⟨1, 1000⟩, ⟨7, 0, .zero⟩, by decide, rfl⟩, rfl, ?_⟩⟩
  · rintro ⟨e, info, hl, hs⟩
    have hmem := mem_entries_iff.mpr hl
    exact absurd hmem (List.not_mem_nil)
  · rintro ⟨e, info, hl, hs⟩
    have hmem : (⟨e, info⟩ : (_ : Endpoint) × SessionInfo) ∈
        [(⟨⟨2, 2000⟩, ⟨8, 20000000, .zero⟩⟩ : (_ : Endpoint) × SessionInfo)] :=
          mem_entries_iff.mpr hl
    cases List.mem_singleton.mp hmem
    exact absurd hs (by decide)

end ToyServer
