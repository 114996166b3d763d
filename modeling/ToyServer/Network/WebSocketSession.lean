import Mathlib.Tactic

/-!
# The write queue of a `WebSocketSession`

`Send` and `SendBinary` push a string and start a write unless one is going on; the completion of a
write takes the front off and starts the next, or stops after an error.  Each of them runs under
`_writeMutex`, so a call is one step.

    queued = started ++ what is behind the string being written        (Kept)
-/

namespace ToyServer

structure WebSocketSession where
  sendQueue : List (List UInt8)
  isWriting : Bool
  /-- the strings that the writes without a completion refer to -/
  outstanding : List (List UInt8)
  /-- every string that was pushed -/
  queued : List (List UInt8)
  /-- every string that was given to `async_write` -/
  started : List (List UInt8)

inductive WebSocketAction where
  | send (message : List UInt8)
  | sendBinary (data : List UInt8)
  /-- the completion of an outstanding write -/
  | onWrite (i : Nat) (error : Bool)

namespace WebSocketSession

def init : WebSocketSession := ⟨[], false, [], [], []⟩

section
variable (s : WebSocketSession)

def doWrite : WebSocketSession :=
  match s.sendQueue with
  | [] => { s with isWriting := false }
  | front :: _ =>
    { s with
      isWriting := true, outstanding := s.outstanding ++ [front], started := s.started ++ [front] }

def send (message : List UInt8) : WebSocketSession :=
  let s := { s with sendQueue := s.sendQueue ++ [message], queued := s.queued ++ [message] }
  if s.isWriting then s else s.doWrite

/-- The bytes become a string first. -/
def sendBinary (data : List UInt8) : WebSocketSession := s.send data

def onWrite (error : Bool) : WebSocketSession :=
  let s := { s with sendQueue := s.sendQueue.tail }
  if error then { s with isWriting := false } else s.doWrite

def step : WebSocketAction → WebSocketSession
  | .send message => s.send message
  | .sendBinary data => s.sendBinary data
  | .onWrite i error =>
    if i < s.outstanding.length then
      onWrite { s with outstanding := s.outstanding.eraseIdx i } error else s

end

/-- Nothing is being written, or the front is. -/
inductive Kept (s : WebSocketSession) : Prop
  | idle : s.isWriting = false → s.outstanding = [] → s.queued = s.started ++ s.sendQueue → Kept s
  | writing (front : List UInt8) (rest : List (List UInt8)) :
      s.isWriting = true → s.sendQueue = front :: rest →
      s.outstanding = [front] → s.queued = s.started ++ rest → Kept s

variable {s : WebSocketSession}

theorem kept_doWrite (ho : s.outstanding = []) (hq : s.queued = s.started ++ s.sendQueue) :
    s.doWrite.Kept := by
  unfold doWrite
  split
  · exact .idle rfl ho hq
  · next front rest hfront =>
    refine .writing front rest rfl hfront ?_ ?_
    · rw [ho, List.nil_append]
    · rw [hq, hfront, List.append_assoc, List.singleton_append]

theorem kept_send (h : s.Kept) (message : List UInt8) : (s.send message).Kept := by
  show Kept (if s.isWriting then _ else _)
  cases h with
  | idle hw ho hq =>
    rw [if_neg (Bool.eq_false_iff.mp hw)]
    exact kept_doWrite ho (by rw [hq, List.append_assoc])
  | writing front rest hw hfront ho hq =>
    rw [if_pos hw]
    exact .writing front (rest ++ [message]) hw (by rw [hfront]; rfl) ho
      (by rw [hq, List.append_assoc])

theorem kept_step (h : s.Kept) (a : WebSocketAction) : (s.step a).Kept := by
  cases a with
  | send message => exact kept_send h message
  | sendBinary data => exact kept_send h data
  | onWrite i error =>
    unfold step
    dsimp only
    split
    · next hi =>
      cases h with
      | idle hw ho hq =>
        rw [ho] at hi
        exact absurd hi (Nat.not_lt_zero _)
      | writing front rest hw hfront ho hq =>
        -- the one write goes, and the front with it
        have hnone : s.outstanding.eraseIdx i = [] := by
          rw [ho, List.length_singleton, Nat.lt_one_iff] at hi
          rw [ho, hi]
          rfl
        have htail : s.queued = s.started ++ s.sendQueue.tail := by rw [hq, hfront, List.tail_cons]
        unfold onWrite
        cases error with
        | true => exact .idle rfl hnone htail
        | false => exact kept_doWrite hnone htail
    · exact h

/-- Nothing is taken out of the queue, and no write is dropped. -/
def Grows (s s' : WebSocketSession) : Prop :=
  s.sendQueue <+: s'.sendQueue ∧ s.outstanding <+: s'.outstanding

theorem grows_send (s : WebSocketSession) (message : List UInt8) : s.Grows (s.send message) := by
  unfold send doWrite
  dsimp only
  split
  · exact ⟨List.prefix_append _ _, List.prefix_rfl⟩
  · split
    · exact ⟨List.prefix_append _ _, List.prefix_rfl⟩
    · exact ⟨List.prefix_append _ _, List.prefix_append _ _⟩

/-- **The write queue**: at most one write is outstanding, it refers to the front of the queue, and
nothing but its completion takes the front off; `_isWriting` says whether there is one.  What was
given to `async_write` is an initial part of what was queued. -/
theorem write_queue (as : List WebSocketAction) :
    let s := as.foldl step init
    s.outstanding.length ≤ 1 ∧ (∀ item ∈ s.outstanding, s.sendQueue.head? = some item) ∧
      (s.isWriting = true ↔ s.outstanding ≠ []) ∧ s.started <+: s.queued ∧
      ∀ bytes, s.Grows (s.send bytes) ∧ s.Grows (s.sendBinary bytes) := by
  intro s
  have hk : s.Kept := List.foldlRecOn as step (.idle rfl rfl rfl) fun _ h a _ => kept_step h a
  have hgrows bytes : s.Grows (s.send bytes) ∧ s.Grows (s.sendBinary bytes) :=
    ⟨grows_send s bytes, grows_send s bytes⟩
  cases hk with
  | idle hw ho hq => exact ⟨by simp [ho], by simp [ho], by simp [hw, ho], ⟨_, hq.symm⟩, hgrows⟩
  | writing front rest hw hfront ho hq =>
    exact ⟨by simp [ho], by simp [ho, hfront], by simp [hw, ho], ⟨rest, hq.symm⟩, hgrows⟩

end WebSocketSession

end ToyServer
