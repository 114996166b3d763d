import ToyServer.Network.UDPReceive

/-!
# Sending a datagram

`AsyncSend` takes over a payload.  It frees it at once, or attaches it to a context of the pool that
a strand task and then a completion handler own in turn; whoever ends the send frees the payload and
gives the context back.  A context stands in the model where the pointer to it is; any task of the
strand and any outstanding send may be the next to go on.
-/

namespace ToyServer

/-- `UDP_MAX_DATAGRAM_BYTES`. -/
def udpMaxDatagramBytes : Nat := 1200

/-- `UDP_TRANSPORT_HEADER_BYTES`: tag, session id and token. -/
def udpTransportHeaderBytes : Nat := 1 + 8 + 16

/-- `UDP_MAX_APP_BYTES`. -/
def udpMaxAppBytes : Nat := udpMaxDatagramBytes - udpTransportHeaderBytes

structure UDPSendContext where
  address : Nat
  header : UDPTransportHeader
  payload : Option Nat
  payloadLen : Nat
  destination : Endpoint
deriving DecidableEq

structure UDPSend where
  pool : Multiset UDPSendContext
  /-- contexts of the tasks posted to the strand -/
  tasks : Multiset UDPSendContext
  /-- contexts of the outstanding sends -/
  sends : Multiset UDPSendContext
  oversizeDrops : Nat
  /-- payloads that were passed to `AsyncSend` -/
  given : Multiset Nat
  freed : Multiset Nat
  acquired : Multiset Nat
  released : Multiset Nat

inductive SendOutcome where
  /-- the socket is closed, or the network stops -/
  | closed
  /-- `async_send_to` throws -/
  | thrown
  | started

inductive UDPSendAction where
  /-- `try_dequeue` gives the context `dequeued`, or none -/
  | asyncSend (destination : Endpoint) (header : UDPTransportHeader) (payload payloadLen : Nat)
      (dequeued : Option UDPSendContext)
  | runTask (c : UDPSendContext) (outcome : SendOutcome)
  | complete (c : UDPSendContext) (error : Bool)

namespace UDPSend

/-- After the first `Prepare`; another one returns at once. -/
def prepare (made : Nat → UDPSendContext) (poolSize : Nat) : UDPSend :=
  ⟨(Multiset.range poolSize).map fun i => { made i with
    address := i, payload := none, payloadLen := 0 }, 0, 0, 0, 0, 0, 0, 0⟩

section
variable (s : UDPSend)

def free (payload : Option Nat) : UDPSend :=
  { s with freed := payload.elim s.freed fun m => m ::ₘ s.freed }

def release (c : UDPSendContext) : UDPSend :=
  { s with
    pool := { c with payload := none, payloadLen := 0 } ::ₘ s.pool,
    released := c.address ::ₘ s.released }

/-- `Acquire`, when `try_dequeue` has given a context. -/
def acquire (c : UDPSendContext) : UDPSend :=
  { s with pool := s.pool.erase c, acquired := c.address ::ₘ s.acquired }

def asyncSend (destination : Endpoint) (header : UDPTransportHeader)
    (payload payloadLen : Nat) (dequeued : Option UDPSendContext) : UDPSend :=
  if udpMaxAppBytes < payloadLen then
    free { s with oversizeDrops := s.oversizeDrops + 1 } payload
  else
    match dequeued with
    | none => s.free payload
    | some c =>
      let s := s.acquire c
      { s with tasks := ⟨c.address, header, some payload, payloadLen, destination⟩ ::ₘ s.tasks }

def runTask (c : UDPSendContext) : SendOutcome → UDPSend
  | .started => { s with sends := c ::ₘ s.sends }
  | _ => (s.free c.payload).release c

/-- What is given is what the callers hand in, whatever becomes of it. -/
def step : UDPSendAction → UDPSend
  | .asyncSend destination header payload payloadLen dequeued =>
    if ∀ c ∈ dequeued, c ∈ s.pool then
      asyncSend { s with given := payload ::ₘ s.given } destination header payload
        payloadLen dequeued
    else s
  | .runTask c outcome =>
    if c ∈ s.tasks then runTask { s with tasks := s.tasks.erase c } c outcome else s
  | .complete c _ =>
    if c ∈ s.sends then (free { s with sends := s.sends.erase c } c.payload).release c else s

def inFlight : Multiset UDPSendContext := s.tasks + s.sends

end

/-- The books when the contexts `busy` are under way; `n` contexts were prepared. -/
structure Owned (n : Nat) (s : UDPSend) (busy : Multiset UDPSendContext) : Prop where
  contexts : (s.pool + busy).map UDPSendContext.address = Multiset.range n
  idle : ∀ c ∈ s.pool, c.payload = none
  held : ∀ c ∈ busy, c.payload ≠ none
  paid : s.given = s.freed + busy.filterMap UDPSendContext.payload
  returned : s.acquired = s.released + busy.map UDPSendContext.address

variable {n : Nat} {s : UDPSend} {busy : Multiset UDPSendContext} {c : UDPSendContext}

theorem Owned.finish (h : Owned n s (c ::ₘ busy)) :
    Owned n ((s.free c.payload).release c) busy := by
  obtain ⟨m, hm⟩ := Option.ne_none_iff_exists'.mp (h.held c (Multiset.mem_cons_self _ _))
  refine ⟨?_, fun x hx => ?_, fun x hx => h.held x (Multiset.mem_cons_of_mem hx), ?_, ?_⟩
  · rw [← h.contexts]
    simp [release, free]
  · obtain rfl | hx := Multiset.mem_cons.mp hx
    · rfl
    · exact h.idle x hx
  · refine h.paid.trans ?_
    simp [release, free, hm]
  · refine h.returned.trans ?_
    simp [release, free]

theorem Owned.drop (h : Owned n s busy) (payload oversizeDrops : Nat) :
    Owned n (free { s with given := payload ::ₘ s.given, oversizeDrops } payload) busy :=
  ⟨h.contexts, h.idle, h.held, by simp [free, h.paid], h.returned⟩

theorem Owned.post (h : Owned n s busy) (hc : c ∈ s.pool) {payload : Nat} {c' : UDPSendContext}
    (haddr : c'.address = c.address) (hp : c'.payload = some payload)
    (tasks : Multiset UDPSendContext) : Owned n
      { s with
        given := payload ::ₘ s.given, pool := s.pool.erase c,
        acquired := c.address ::ₘ s.acquired, tasks }
      (c' ::ₘ busy) where
  contexts := by
    rw [← h.contexts, ← Multiset.cons_erase hc]
    simp [haddr]
  idle := fun x hx => h.idle x (Multiset.mem_of_mem_erase hx)
  held := fun x hx => by
    obtain rfl | hx := Multiset.mem_cons.mp hx
    · rw [hp]
      exact Option.some_ne_none _
    · exact h.held x hx
  paid := by simp [h.paid, hp]
  returned := by simp [h.returned, haddr]

/-- The books do not depend on who has a context that is under way. -/
theorem Owned.move (h : Owned n s busy) (tasks sends : Multiset UDPSendContext) :
    Owned n { s with tasks, sends } busy :=
  ⟨h.contexts, h.idle, h.held, h.paid, h.returned⟩

/-- **Every step keeps each context in one place.** -/
theorem owned_step (h : Owned n s s.inFlight) (a : UDPSendAction) :
    Owned n (s.step a) (s.step a).inFlight := by
  cases a with
  | asyncSend destination header payload payloadLen dequeued =>
    unfold step asyncSend acquire
    dsimp only
    split
    · next hd =>
      split
      · exact h.drop payload _
      · cases dequeued with
        | none => exact h.drop payload _
        | some c =>
          show Owned n _ (_ ::ₘ s.tasks + s.sends)
          rw [Multiset.cons_add]
          refine h.post (hd c rfl) ?_ ?_ _ <;> rfl
    · exact h
  | runTask c outcome =>
    unfold step
    dsimp only
    split
    · next hc =>
      rw [inFlight, ← Multiset.cons_erase hc, Multiset.cons_add] at h
      cases outcome with
      | started =>
        show Owned n _ (s.tasks.erase c + c ::ₘ s.sends)
        rw [Multiset.add_cons]
        exact h.move _ _
      | _ => exact (h.move _ _).finish
    · exact h
  | complete c error =>
    unfold step
    dsimp only
    split
    · next hc =>
      rw [inFlight, ← Multiset.cons_erase hc, Multiset.add_cons] at h
      exact (h.move _ _).finish
    · exact h

theorem owned_prepare (made : Nat → UDPSendContext) (n : Nat) : Owned n (prepare made n) 0 where
  contexts := by simp [prepare]
  idle := by simp [prepare]
  held := by simp
  paid := rfl
  returned := rfl

/-! ## What ends a send -/

/-- The task finds the socket closed, the initiation throws, or the send completes. -/
def Ends (s : UDPSend) (c : UDPSendContext) : UDPSendAction → Prop
  | .asyncSend .. => False
  | .runTask c' outcome => c' = c ∧ c ∈ s.tasks ∧ outcome ≠ .started
  | .complete c' _ => c' = c ∧ c ∈ s.sends

/-- The payload is freed, and the context goes from what is under way into the pool. -/
structure Settled (s s' : UDPSend) (c : UDPSendContext) : Prop where
  freed : ∃ m, c.payload = some m ∧ s'.freed = m ::ₘ s.freed
  released : s'.released = c.address ::ₘ s.released
  pool : s'.pool = { c with payload := none, payloadLen := 0 } ::ₘ s.pool
  inFlight : s.inFlight = c ::ₘ s'.inFlight

theorem settled_of_ends (h : Owned n s s.inFlight) {a : UDPSendAction} (he : s.Ends c a) :
    Settled s (s.step a) c := by
  have hfreed (hc : c ∈ s.inFlight) :
      ∃ m, c.payload = some m ∧ c.payload.elim s.freed (· ::ₘ s.freed) = m ::ₘ s.freed := by
    obtain ⟨m, hm⟩ := Option.ne_none_iff_exists'.mp (h.held c hc)
    exact ⟨m, hm, by rw [hm]; rfl⟩
  cases a with
  | asyncSend => exact he.elim
  | runTask c' outcome =>
    obtain ⟨rfl, hc, hout⟩ := he
    have hstep : s.step (.runTask c' outcome) =
        (free { s with tasks := s.tasks.erase c' } c'.payload).release c' := by
      refine (if_pos hc).trans ?_
      cases outcome with
      | started => exact absurd rfl hout
      | closed | thrown => rfl
    rw [hstep]
    refine ⟨hfreed (Multiset.mem_add.mpr (.inl hc)), rfl, rfl, ?_⟩
    show s.tasks + s.sends = c' ::ₘ (s.tasks.erase c' + s.sends)
    rw [← Multiset.cons_add, Multiset.cons_erase hc]
  | complete c' error =>
    obtain ⟨rfl, hc⟩ := he
    have hstep : s.step (.complete c' error) =
        (free { s with sends := s.sends.erase c' } c'.payload).release c' := if_pos hc
    rw [hstep]
    refine ⟨hfreed (Multiset.mem_add.mpr (.inr hc)), rfl, rfl, ?_⟩
    show s.tasks + s.sends = c' ::ₘ (s.tasks + s.sends.erase c')
    rw [← Multiset.add_cons, Multiset.cons_erase hc]

/-- A call that gets no context, or is not asked for one, frees its payload at once. -/
def Refuses (s : UDPSend) (payload : Nat) : UDPSendAction → Prop
  | .asyncSend _ _ payload' payloadLen dequeued =>
    payload' = payload ∧ (∀ c ∈ dequeued, c ∈ s.pool) ∧
      (udpMaxAppBytes < payloadLen ∨ dequeued = none)
  | _ => False

theorem freed_of_refuses {payload : Nat} {a : UDPSendAction} (h : s.Refuses payload a) :
    (s.step a).freed = payload ::ₘ s.freed ∧ (s.step a).inFlight = s.inFlight ∧
      (s.step a).pool = s.pool := by
  cases a with
  | asyncSend destination header payload' payloadLen dequeued =>
    obtain ⟨rfl, hd, hrefused⟩ := h
    unfold step asyncSend
    dsimp only
    rw [if_pos hd]
    by_cases hsize : udpMaxAppBytes < payloadLen
    · rw [if_pos hsize]
      exact ⟨rfl, rfl, rfl⟩
    · rw [if_neg hsize, hrefused.resolve_left hsize]
      exact ⟨rfl, rfl, rfl⟩
  | runTask | complete => exact h.elim

/-- **Ownership of what is sent.**  A payload that was handed in is freed once, or it is attached
to one context that is under way; a context that was acquired was released once, or is under way;
the pool and what is under way are the prepared contexts, those in the pool without a payload.
And every outcome ends a send: a call that is refused frees its payload, and a task that fails or
a send that completes frees the payload and gives the context back. -/
theorem send_ownership (made : Nat → UDPSendContext) (n : Nat) (as : List UDPSendAction) :
    let s := as.foldl step (prepare made n)
    s.given = s.freed + s.inFlight.filterMap UDPSendContext.payload ∧
      s.acquired = s.released + s.inFlight.map UDPSendContext.address ∧
      (∀ c ∈ s.pool, c.payload = none) ∧ (∀ c ∈ s.inFlight, c.payload ≠ none) ∧
      ((s.pool + s.inFlight).map UDPSendContext.address).Nodup ∧
      s.pool.card + s.inFlight.card = n ∧
      (∀ payload a, s.Refuses payload a → (s.step a).freed = payload ::ₘ s.freed ∧
        (s.step a).inFlight = s.inFlight ∧ (s.step a).pool = s.pool) ∧
      ∀ c a, s.Ends c a → Settled s (s.step a) c := by
  intro s
  have h : Owned n s s.inFlight :=
    List.foldlRecOn (motive := fun s => Owned n s s.inFlight) as step (owned_prepare made n)
      fun _ h a _ => owned_step h a
  refine ⟨h.paid, h.returned, h.idle, h.held, h.contexts ▸ Multiset.nodup_range n, ?_,
    fun _ _ => freed_of_refuses, fun _ _ => settled_of_ends h⟩
  rw [← Multiset.card_add, ← Multiset.card_map UDPSendContext.address, h.contexts,
    Multiset.card_range]

end UDPSend

end ToyServer
