import ToyServer.Lib.Runs
import ToyServer.Network.UDPReceive

/-!
# The receive loop

`StartReceive` arms one receive; its completion runs `HandleReceive`, which arms the next.  It does
so on every path but two: when the network is stopping, and after an error, whatever the error is.

    no error while open and not stopping  →  one receive is outstanding        (receive_armed)

A single transient error leaves the open socket without a receive (`receive_silenced`).
-/

namespace ToyServer

open Runs

structure ReceiveLoop where
  network : UDPNetworkImpl
  isOpen : Bool
  /-- receives that have not completed -/
  outstanding : Nat

inductive ReceiveAction where
  | complete (now : Nat) (error : Bool) (bytes : List UInt8) (sender : Endpoint)
  /-- `SetRegistry` and `SetDispatcher`, and what sessions do to the registry -/
  | configure (registry : Option UDPEndpointRegistry) (dispatcher : Bool)
  /-- the two halves of `Stop` -/
  | setStopping
  | close

namespace ReceiveLoop

variable (s : ReceiveLoop)

def running : Bool := s.isOpen && !s.network.isStopping

def startReceive : ReceiveLoop :=
  if s.isOpen then { s with outstanding := s.outstanding + 1 } else s

def start (n : UDPNetworkImpl) : ReceiveLoop :=
  startReceive ⟨{ n with isStopping := false }, true, 0⟩

def step (udp : UDPSessionPtr → Bool) (s : ReceiveLoop) : ReceiveAction → Option ReceiveLoop
  | .complete now error bytes sender =>
    if 0 < s.outstanding then
      let received := s.network.handleReceive udp now error bytes sender
      let s := { s with network := received.network, outstanding := s.outstanding - 1 }
      some (if received.restarted then s.startReceive else s)
    else none
  | .configure registry dispatcher =>
    some { s with network := { s.network with registry, dispatcher } }
  | .setStopping => some { s with network := { s.network with isStopping := true } }
  | .close => some { s with isOpen := false }

/-- A receive does not fail as long as the socket is open and the network is not stopping. -/
def NoError : ReceiveAction → Prop
  | .complete _ error _ _ => s.running = true → error = false
  | _ => True

def Armed : Prop := s.running = true → s.outstanding = 1

end ReceiveLoop

variable {udp : UDPSessionPtr → Bool} {n : UDPNetworkImpl} {now : Nat} {bytes : List UInt8}
  {sender : Endpoint}

/-- Without an error every path of `HandleReceive` arms the next receive. -/
theorem handleReceive_restarted (h : n.isStopping = false) :
    (n.handleReceive udp now false bytes sender).restarted = true := by
  unfold UDPNetworkImpl.handleReceive
  rw [h]
  dsimp only
  repeat' split
  all_goals first | rfl | contradiction

theorem handleReceive_isStopping (error : Bool) :
    (n.handleReceive udp now error bytes sender).network.isStopping = n.isStopping := by
  unfold UDPNetworkImpl.handleReceive
  dsimp only
  repeat' split
  all_goals rfl

namespace ReceiveLoop

variable {s s' : ReceiveLoop} {a : ReceiveAction}

/-- **Every step leaves a receive armed.** -/
theorem armed_step (h : s.Armed) (hok : s.NoError a) (hs : s.step udp a = some s') : s'.Armed := by
  cases a with
  | complete now error bytes sender =>
    simp only [step, Option.ite_none_right_eq_some, Option.some.injEq] at hs
    obtain ⟨-, rfl⟩ := hs
    intro hrun
    have hrunning : s.running = true := by
      rw [← hrun]
      unfold running startReceive
      split
      · split <;> rw [handleReceive_isStopping]
      · rw [handleReceive_isStopping]
    obtain ⟨hopen, hgoing⟩ := Bool.and_eq_true_iff.mp hrunning
    obtain rfl := hok hrunning
    rw [if_pos (handleReceive_restarted (Bool.not_eq_true' _ |>.mp hgoing))]
    unfold startReceive
    rw [if_pos hopen]
    have hone := h hrunning
    show s.outstanding - 1 + 1 = 1
    omega
  | configure registry dispatcher =>
    cases hs
    exact h
  | setStopping =>
    cases hs
    intro hrun
    simp [running] at hrun
  | close =>
    cases hs
    intro hrun
    cases hrun

/-- **The receive loop stays armed** as long as no receive fails while the socket is open and the
network not stopping. -/
theorem receive_armed (udp : UDPSessionPtr → Bool) (n : UDPNetworkImpl) (as : List ReceiveAction)
    {s : ReceiveLoop} (hok : Meets (step udp) NoError (start n) as)
    (h : run (step udp) (start n) as = some s) (hopen : s.isOpen = true)
    (hgoing : s.network.isStopping = false) : s.outstanding = 1 := by
  have harmed : s.Armed :=
    run_inv_of_meets Armed (fun _ _ _ h hok hs => armed_step h hok hs) (fun _ => rfl) hok h
  exact harmed (by rw [running, hopen, hgoing]; rfl)

/-- An empty datagram, one that is delivered, and one that is for nobody. -/
def threeDatagrams : List ReceiveAction :=
  [.complete 5 false [] ⟨2, 2000⟩, .complete 10 false (rawDatagram 7 ⟨0, 5⟩) ⟨1, 1000⟩,
    .complete 15 false (rawDatagram 9 ⟨0, 9⟩) ⟨3, 3000⟩]

theorem receive_armed_threeDatagrams :
    ∃ s, run (step fun _ => true) (start oneClientNetwork) threeDatagrams = some s ∧
      s.network.registry = some (oneClient.updateActivity 10 ⟨1, 1000⟩) ∧ s.outstanding = 1 :=
  ⟨_, rfl, rfl, receive_armed (fun _ => true) oneClientNetwork threeDatagrams
    (meets_cons (fun _ => rfl) rfl
      (meets_cons (fun _ => rfl) rfl (meets_cons (fun _ => rfl) rfl trivial))) rfl rfl rfl⟩

/-- **One error silences the port**: the socket is open, nothing is stopping, no receive is
outstanding and none will be. -/
theorem receive_silenced : ∃ s, run (step fun _ => true) (start ⟨true, none, false⟩)
    [.complete 0 true [] ⟨0, 0⟩] = some s ∧
    s.isOpen = true ∧ s.network.isStopping = false ∧ s.outstanding = 0 ∧
      ∀ now error bytes sender, s.step (fun _ => true) (.complete now error bytes sender) = none :=
  ⟨_, rfl, rfl, rfl, rfl, fun _ _ _ _ => rfl⟩

end ReceiveLoop

end ToyServer
