import ToyServer.Database.ConnectionPool

/-!
# Wakeups of the connection pool

A connection or a free place is no use to a blocked caller unless some thread is still going to
notify, or to take it.  `Release` notifies without `_waitMutex`, so its notification can fall
between the moment a waiter found its predicate false and the moment it blocks: nobody hears it
(`lostWakeup_reached`).  And the `try_dequeue` of the predicate may miss a connection that is there.

`no_lost_wakeup` says that these are the only ways to lose one.  The invariant counts: as long as
some waiter relies on its predicate having been false, there are at least as many threads that will
notify or have been woken as there are idle connections, and with those that try the limit as many
as there are idle connections and free places.
-/

namespace ToyServer

open RefCount Runs

namespace AcquirePc

/-- Is going to notify, or to try the queue and after it the limit. -/
def serves : AcquirePc → Nat
  | .loop | .notifying | .testing | .predDequeue _ | .relocking _ | .leaving .retry
  | .unlocking .retry => 1
  | _ => 0

/-- Has to notify, or was woken and is on its way through the predicate.  Those at the head of the
loop are not counted: their `try_dequeue` may miss what is there. -/
def alerts : AcquirePc → Nat
  | .notifying | .testing | .predDequeue false | .relocking false => 1
  | _ => 0

/-- Has found nothing in the queue and is going to try the limit. -/
def servesSpace : AcquirePc → Nat
  | .load | .exchange _ | .predLoad _ => 1
  | _ => 0

/-- Has found nothing in the queue in the predicate and is going to block, or blocks. -/
def watches : AcquirePc → Nat
  | .predLoad false | .toBlock | .blocked => 1
  | _ => 0

/-- Has found the limit reached as well. -/
def settled : AcquirePc → Nat
  | .toBlock | .blocked => 1
  | _ => 0

/-- Between the predicate and the block. -/
def inWindow : AcquirePc → Bool
  | .predLoad false | .toBlock => true
  | _ => false

theorem watches_le_inWait (pc : AcquirePc) : pc.watches ≤ pc.inWait := by
  cases pc
  case predLoad last => cases last <;> simp [watches, inWait]
  all_goals simp [watches, inWait]

theorem alerts_le_serves (pc : AcquirePc) : pc.alerts ≤ pc.serves := by
  cases pc
  case predDequeue last => cases last <;> simp [alerts, serves]
  case relocking last => cases last <;> simp [alerts, serves]
  all_goals simp [alerts, serves]

theorem settled_le_watches (pc : AcquirePc) : pc.settled ≤ pc.watches := by
  cases pc <;> simp [settled, watches]

theorem watches_eq_zero {pc : AcquirePc} (hb : pc ≠ .blocked) (hw : pc.inWindow = false) :
    pc.watches = 0 := by
  cases pc
  case blocked => exact absurd rfl hb
  case predLoad last => cases last <;> simp [watches, inWindow] at hw ⊢
  all_goals simp [watches, inWindow] at hw ⊢

end AcquirePc

/-- A `notify_one` that finds nobody blocked. -/
def ConnPoolAction.wakesNobody : ConnPoolAction → Bool
  | .act _ (.woken none) => true
  | _ => false

/-- The call whose `try_dequeue` finds nothing. -/
def ConnPoolAction.misses : ConnPoolAction → Option Nat
  | .act i (.take none) => some i
  | _ => none

namespace ConnectionPool

section
variable (s : ConnectionPool)

/-- A caller is blocked, there is something for it, and no thread is going to notify or to take
it. -/
def LostWakeup : Prop :=
  (∃ call ∈ s.calls, call.pc = .blocked) ∧
  ((s.pool ≠ [] ∧ ∀ call ∈ s.calls, call.pc.serves = 0) ∨
    (s.currentSize < s.poolMax ∧ ∀ call ∈ s.calls, call.pc.serves = 0 ∧ call.pc.servesSpace = 0))

/-- A notification that wakes nobody is not sent while a waiter is on its way to block, and the
predicate of a waiter that may block finds nothing only if nothing is there. -/
def Heeded (a : ConnPoolAction) : Prop :=
  (a.wakesNobody = true → ∀ call ∈ s.calls, call.pc.inWindow = false) ∧
    ∀ i ∈ a.misses, ∀ call ∈ s.calls[i]?, call.pc = .predDequeue false → s.pool = []

instance (a : ConnPoolAction) : Decidable (s.Heeded a) :=
  inferInstanceAs (Decidable (_ ∧ _))

def free : Nat := (s.poolMax - s.currentSize).toNat

end

/-- Whoever relies on its predicate having been false is covered by threads that will serve. -/
structure Covered (s : ConnectionPool) : Prop where
  idle : 0 < s.count AcquirePc.watches → s.pool.length ≤ s.count AcquirePc.alerts
  space : 0 < s.count AcquirePc.settled →
    s.pool.length + s.free ≤ s.count AcquirePc.serves + s.count AcquirePc.servesSpace

variable {s s₁ s' : ConnectionPool} {a : ConnPoolAction}

theorem count_mono {f g : AcquirePc → Nat} (h : ∀ pc, f pc ≤ g pc) (s : ConnectionPool) :
    s.count f ≤ s.count g := by
  unfold count
  exact tally_mono (fun call => h call.pc) s.calls

/-- A notification in vain: nobody is blocked, and nobody is going to be. -/
theorem unwatched_of_unheard (hb : ∀ call ∈ s.calls, call.pc ≠ .blocked)
    (hw : ∀ call ∈ s.calls, call.pc.inWindow = false) : s.count AcquirePc.watches = 0 := by
  apply tally_eq_zero
  intro call hcall
  exact AcquirePc.watches_eq_zero (hb call hcall) (hw call hcall)

/-- `Release` skips the notification only when nobody is in the wait section. -/
theorem unwatched_of_nobody (hs : PoolInv s) (h : ¬ 0 < s.waitingThreads) :
    s.count AcquirePc.watches = 0 := by
  have hle := count_mono AcquirePc.watches_le_inWait s
  have hw := hs.waits
  omega

end ConnectionPool

namespace PoolMove

variable {s s₁ : ConnectionPool} {t : Int} {pc pc' : AcquirePc}

/-- An idle connection that appears brings a thread that alerts; such a thread goes with one, or
finds the queue empty, or has nobody to alert. -/
theorem idle_covered (h : PoolMove s t pc s₁ pc') (hs : PoolInv s)
    (hw : pc = .notifying → ∀ call ∈ s.calls, call.pc.inWindow = false)
    (hq : pc' = .predLoad false → pc = .predDequeue false → s.pool = []) :
    s₁.pool.length = 0 ∨
    (s₁.pool.length + pc.alerts ≤ s.pool.length + pc'.alerts ∧ pc'.watches ≤ pc.watches) ∨
    (s.count AcquirePc.watches = 0 ∧ pc'.watches = 0) := by
  cases h
  case dequeue k c hk =>
    have hl := List.getElem?_eq_some_iff.mp hk |>.1
    simp [AcquirePc.alerts, AcquirePc.watches, List.length_eraseIdx_of_lt hl]
  case predDequeue k c last hk =>
    have hl := List.getElem?_eq_some_iff.mp hk |>.1
    cases last with
    | true => simp [AcquirePc.alerts, AcquirePc.watches, List.length_eraseIdx_of_lt hl]
    | false =>
      simp [AcquirePc.alerts, AcquirePc.watches, List.length_eraseIdx_of_lt hl]
      omega
  case predNothing last =>
    cases last with
    | true => simp [AcquirePc.alerts, AcquirePc.watches]
    | false => exact .inl (by rw [hq rfl rfl]; rfl)
  case unheard hb => exact .inr (.inr ⟨ConnectionPool.unwatched_of_unheard hb (hw rfl), rfl⟩)
  case nobody hn => exact .inr (.inr ⟨ConnectionPool.unwatched_of_nobody hs hn, rfl⟩)
  case relock i last hm => cases last <;> simp [AcquirePc.alerts, AcquirePc.watches]
  case leave exit => cases exit <;> simp [AcquirePc.alerts, AcquirePc.watches]
  case unlock exit => cases exit <;> simp [AcquirePc.alerts, AcquirePc.watches, AcquirePc.afterWait]
  all_goals simp [AcquirePc.alerts, AcquirePc.watches]

/-- The same for free places: whoever stops serving finds the limit reached, or has nobody to
serve. -/
theorem space_covered (h : PoolMove s t pc s₁ pc') (hs : PoolInv s)
    (hw : pc = .notifying → ∀ call ∈ s.calls, call.pc.inWindow = false)
    (hx : ∀ n, pc = .exchange n → n < s.poolMax) : s₁.free = 0 ∨
    (s₁.pool.length + s₁.free + pc.serves + pc.servesSpace ≤
        s.pool.length + s.free + pc'.serves + pc'.servesSpace ∧ pc'.settled ≤ pc.settled) ∨
    (s.count AcquirePc.watches = 0 ∧ pc'.settled = 0) := by
  cases h
  case dequeue k c hk =>
    have hl := List.getElem?_eq_some_iff.mp hk |>.1
    simp [AcquirePc.serves, AcquirePc.servesSpace, AcquirePc.settled, ConnectionPool.free,
      List.length_eraseIdx_of_lt hl]
    omega
  case predDequeue k c last hk =>
    have hl := List.getElem?_eq_some_iff.mp hk |>.1
    simp [AcquirePc.serves, AcquirePc.servesSpace, AcquirePc.settled, ConnectionPool.free,
      List.length_eraseIdx_of_lt hl]
    omega
  case noSpace hn => exact .inl (by simp only [ConnectionPool.free]; omega)
  case predLast hn => exact .inl (by simp only [ConnectionPool.free]; omega)
  case predFalse hn => exact .inl (by simp only [ConnectionPool.free]; omega)
  case exchanged =>
    have := hx _ rfl
    simp [AcquirePc.serves, AcquirePc.servesSpace, AcquirePc.settled, ConnectionPool.free]
    omega
  case unheard hb => exact .inr (.inr ⟨ConnectionPool.unwatched_of_unheard hb (hw rfl), rfl⟩)
  case nobody hn => exact .inr (.inr ⟨ConnectionPool.unwatched_of_nobody hs hn, rfl⟩)
  case leave exit =>
    cases exit <;> simp [AcquirePc.serves, AcquirePc.servesSpace, AcquirePc.settled,
      ConnectionPool.free]
  case unlock exit =>
    cases exit <;>
      simp [AcquirePc.serves, AcquirePc.servesSpace, AcquirePc.settled, AcquirePc.afterWait,
        ConnectionPool.free]
  all_goals simp [AcquirePc.serves, AcquirePc.servesSpace, AcquirePc.settled,
    ConnectionPool.free] <;> omega

end PoolMove

namespace ConnectionPool

variable {s s₁ s' : ConnectionPool} {a : ConnPoolAction}

theorem covered_move {i : Nat} {call : AcquireCall} {pc : AcquirePc} (hi : s.calls[i]? = some call)
    (hm : PoolMove s call.timeoutMs call.pc s₁ pc) (hs : PoolInv s)
    (hw : call.pc = .notifying → ∀ call ∈ s.calls, call.pc.inWindow = false)
    (hq : pc = .predLoad false → call.pc = .predDequeue false → s.pool = []) (hc : Covered s) :
    Covered (s₁.goto i pc) := by
  have halerts := hm.count AcquirePc.alerts hi
  have hserves := hm.count AcquirePc.serves hi
  have hserves' := hm.count AcquirePc.servesSpace hi
  have hwatches := hm.count AcquirePc.watches hi
  have hsettled := hm.count AcquirePc.settled hi
  have hold := count_mono AcquirePc.settled_le_watches s
  have hidle : 0 < (s₁.goto i pc).count AcquirePc.watches →
      s₁.pool.length ≤ (s₁.goto i pc).count AcquirePc.alerts := by
    intro hpos
    obtain hz | ⟨hle, hwl⟩ | ⟨hz, hpc⟩ := hm.idle_covered hs hw hq
    · omega
    · have := hc.idle (by omega)
      omega
    · omega
  refine ⟨hidle, ?_⟩
  intro hpos
  have hnew := count_mono AcquirePc.settled_le_watches (s₁.goto i pc)
  have hmore := count_mono AcquirePc.alerts_le_serves (s₁.goto i pc)
  show s₁.pool.length + s₁.free ≤ _
  obtain hz | ⟨hle, hsl⟩ | ⟨hz, hpc⟩ :=
    hm.space_covered hs hw (hs.expected call (List.mem_of_getElem? hi))
  · have := hidle (by omega)
    omega
  · have := hc.space (by omega)
    omega
  · omega

/-- A notification that is heard passes the duty on. -/
theorem covered_heard {i j : Nat} {ti tj : Int} (hi : s.calls[i]? = some ⟨ti, .notifying⟩)
    (hj : s.calls[j]? = some ⟨tj, .blocked⟩) (hc : Covered s) :
    Covered ((s.goto j (.relocking false)).goto i .returned) := by
  have h0 := count_heard AcquirePc.alerts hi hj
  have h1 := count_heard AcquirePc.serves hi hj
  have h2 := count_heard AcquirePc.servesSpace hi hj
  have h3 := count_heard AcquirePc.watches hi hj
  have h4 := count_heard AcquirePc.settled hi hj
  simp only [AcquirePc.alerts, AcquirePc.serves, AcquirePc.servesSpace, AcquirePc.watches,
    AcquirePc.settled] at h0 h1 h2 h3 h4
  constructor
  · intro hpos
    have := hc.idle (by omega)
    show s.pool.length ≤ _
    omega
  · intro hpos
    have := hc.space (by omega)
    show s.pool.length + s.free ≤ _
    omega

theorem covered_acquire (timeoutMs : Int) (hc : Covered s) :
    Covered { s with calls := s.calls ++ [⟨timeoutMs, .loop⟩] } := by
  constructor
  · intro hpos
    have := hc.idle (by simpa [count, AcquirePc.watches] using hpos)
    simp only [count, tally_append, tally_cons, tally_nil, AcquirePc.alerts] at this ⊢
    omega
  · intro hpos
    have := hc.space (by simpa [count, AcquirePc.settled] using hpos)
    simp only [count, free, tally_append, tally_cons, tally_nil, AcquirePc.serves,
      AcquirePc.servesSpace] at this ⊢
    omega

/-- **A connection never lies idle beside a sleeper**, step by step. -/
theorem covered_step (hs : PoolInv s) (hc : Covered s) (hok : s.Heeded a)
    (h : s.step a = some s') : Covered s' := by
  cases stepped h with
  | acquire timeoutMs => exact covered_acquire timeoutMs hc
  | move hi hm hn hq =>
    refine covered_move hi hm hs (fun hpc => ?_) (fun hpc hpred => ?_) hc
    · have ha := hn hpc
      subst ha
      exact hok.1 rfl
    · have ha := hq hpc
      subst ha
      exact hok.2 _ rfl _ hi hpred
  | heard hi hj => exact covered_heard hi hj hc

theorem covered_run {poolMax : Int} {as : List ConnPoolAction}
    (hok : Meets step Heeded (init poolMax) as) (h : run step (init poolMax) as = some s) :
    PoolInv s ∧ Covered s := by
  refine run_inv_of_meets (fun s => PoolInv s ∧ Covered s) ?_ ⟨inv_init poolMax, ?_⟩ hok h
  · intro s a s' hs hok h
    exact ⟨inv_step hs.1 h, covered_step hs.1 hs.2 hok h⟩
  · constructor <;> intro hpos <;> simp [init, count] at hpos

/-- **No wakeup is lost** on a run in which no notification falls between the predicate and the
block of a waiter unheard, and no predicate misses an idle connection. -/
theorem no_lost_wakeup (poolMax : Int) (as : List ConnPoolAction) (s : ConnectionPool)
    (hok : Meets step Heeded (init poolMax) as) (h : run step (init poolMax) as = some s) :
    ¬ s.LostWakeup := by
  rintro ⟨⟨call, hcall, hpc⟩, hlost⟩
  have hc := (covered_run hok h).2
  have hsettled : 0 < s.count AcquirePc.settled := one_le_count hcall (by rw [hpc]; rfl)
  have hwatches := count_mono AcquirePc.settled_le_watches s
  have hmore := count_mono AcquirePc.alerts_le_serves s
  obtain ⟨hp, hnone⟩ | ⟨hlt, hnone⟩ := hlost
  · have hz : s.count AcquirePc.serves = 0 := tally_eq_zero _ hnone
    have := hc.idle (by omega)
    have := List.length_pos_of_ne_nil hp
    omega
  · have hz : s.count AcquirePc.serves = 0 := tally_eq_zero _ fun call hcall => (hnone call hcall).1
    have hz' : s.count AcquirePc.servesSpace = 0 :=
      tally_eq_zero _ fun call hcall => (hnone call hcall).2
    have := hc.space hsettled
    unfold free at this
    omega

/-- One caller has the only connection, a second one has found nothing and is about to block. -/
def secondAtBlock : List ConnPoolAction :=
  [.acquire 5000, .act 0 (.take none), .act 0 .go, .act 0 (.strong true), .act 0 (.made (some 7)),
    .acquire 5000, .act 1 (.take none), .act 1 .go, .act 1 .go, .act 1 .go, .act 1 .go,
    .act 1 (.elapsed 0), .act 1 (.take none), .act 1 .go]

/-- The second caller blocks, and the release of the first wakes it. -/
def blockThenRelease : List ConnPoolAction :=
  secondAtBlock ++
    ([.act 1 .go, .act 0 .go, .act 0 .go, .act 0 .go, .act 0 (.woken (some 1))] :
      List ConnPoolAction)

/-- The release and its notification come before the block. -/
def releaseThenBlock : List ConnPoolAction :=
  secondAtBlock ++
    ([.act 0 .go, .act 0 .go, .act 0 .go, .act 0 (.woken none), .act 1 .go] : List ConnPoolAction)

theorem no_lost_wakeup_blockThenRelease : ∃ s, run step (init 1) blockThenRelease = some s ∧
    s.calls[1]? = some ⟨5000, .relocking false⟩ ∧ ¬ s.LostWakeup :=
  ⟨_, rfl, rfl, no_lost_wakeup 1 blockThenRelease _ (by decide) rfl⟩

/-- The second caller blocks on an idle connection and the first is gone. -/
theorem lostWakeup_reached : ∃ s, run step (init 1) releaseThenBlock = some s ∧
    s.pool = [7] ∧ s.calls = [⟨5000, .returned⟩, ⟨5000, .blocked⟩] ∧ s.LostWakeup := by
  refine ⟨_, rfl, rfl, rfl, ⟨⟨5000, .blocked⟩, by decide, rfl⟩, .inl ⟨by decide, by decide⟩⟩

end ConnectionPool

end ToyServer
