import ToyServer.Lib.ProducerQueue
import ToyServer.Timer.TimerRun

/-!
# Timer messages through the dispatcher queue

`SetTimer`, `SetInterval`, `CancelTimer` and `Unregister` run on any thread: they fill a
message and `Post` it to the dispatcher's `moodycamel::ConcurrentQueue`, which keeps the
order of each producer and nothing else (`ProducerQueue`).  The dispatcher takes one
message at a time and hands it to `TimerImpl`.

`TimerSystem.step` is a step of the whole: a thread takes a timer id or posts, the
dispatcher processes a message or goes one round on in `OnTick`, a listener dies.  The
queue holds pointers into the list of all messages ever posted, so the place of a message
in that list says when it was posted.

* `system_run`: ids are unique, every message is queued or processed at most once, and the
  timer tables are `Good`, in every reachable state;
* `SystemStepped` is the inversion of `step` that the later modules use.
-/

namespace ToyServer

open Runs ProducerQueue TimerImpl

/-! ## The producers' side -/

namespace TimerImpl

/-- A message of the raw pointer overloads; `weakListener.reset()`. -/
def rawAdd (isInterval : Bool) (id : TimerId) (timerId ms : UInt32) (listener : Option ListenerId)
    (pParam : Nat) : TimerAddMessage :=
  ⟨id, timerId, ms, isInterval, listener, none, pParam⟩

/-- A message of the `weak_ptr` overloads; `listener.lock()` gives the raw pointer. -/
def weakAdd (isInterval : Bool) (destroyed : List ListenerId) (id : TimerId) (timerId ms : UInt32)
    (listener : Option ListenerId) (pParam : Nat) : TimerAddMessage :=
  ⟨id, timerId, ms, isInterval, lock destroyed listener, listener, pParam⟩

/-- `SetTimer(uint32_t, uint32_t, ITimerListener *, void *)`. -/
def setTimer := rawAdd false

/-- `SetTimer(uint32_t, uint32_t, std::weak_ptr<ITimerListener>, void *)`. -/
def setTimerWeak := weakAdd false

/-- `SetInterval(uint32_t, uint32_t, ITimerListener *, void *)`. -/
def setInterval := rawAdd true

/-- `SetInterval(uint32_t, uint32_t, std::weak_ptr<ITimerListener>, void *)`. -/
def setIntervalWeak := weakAdd true

def cancelTimer (handle : TimerId) : TimerCancelMessage := ⟨handle, none⟩

def unregister (listener : Option ListenerId) : TimerCancelMessage := ⟨0, listener⟩

end TimerImpl

/-! ## The system -/

abbrev Producer := Nat

inductive TimerMessage where
  | add (msg : TimerAddMessage)
  | cancel (msg : TimerCancelMessage)
  | tick
deriving DecidableEq, Repr

/-- What the dispatcher does with a message. -/
def TimerMessage.action (dying : List ListenerId) : TimerMessage → TimerAction
  | .add msg => .add msg dying
  | .cancel msg => .cancel msg
  | .tick => .tick

structure TimerSystem where
  loop : TimerLoop
  nextTimerId : TimerId
  /-- the id a thread inside `SetTimer` or `SetInterval` has taken -/
  taken : Producer → Option TimerId
  /-- every message posted so far, in the order of the posts -/
  messages : List TimerMessage
  /-- pointers into `messages`, with the thread that enqueued each -/
  queue : List (Producer × Nat)
  /-- the messages the dispatcher has handled, in that order -/
  processed : List Nat

inductive SystemAction where
  /-- `_nextTimerId++` at the start of `SetTimer` and `SetInterval` -/
  | takeId (p : Producer)
  | setTimer (p : Producer) (timerId delayMs : UInt32) (listener : Option ListenerId) (pParam : Nat)
  | setTimerWeak (p : Producer) (timerId delayMs : UInt32) (listener : Option ListenerId)
      (pParam : Nat)
  | setInterval (p : Producer) (timerId ms : UInt32) (listener : Option ListenerId) (pParam : Nat)
  | setIntervalWeak (p : Producer) (timerId ms : UInt32) (listener : Option ListenerId)
      (pParam : Nat)
  | cancelTimer (p : Producer) (handle : TimerId)
  | unregister (p : Producer) (listener : Option ListenerId)
  | postTick (p : Producer)
  /-- the dispatcher takes the oldest message of `p` and handles it -/
  | process (p : Producer) (dying : List ListenerId)
  /-- one round of the loop of `OnTick` -/
  | expire
  | destroy (l : ListenerId)
deriving DecidableEq, Repr

namespace TimerSystem

def init : TimerSystem := ⟨.init, 1, fun _ => none, [], [], []⟩

def post (s : TimerSystem) (p : Producer) (msg : TimerMessage) : TimerSystem :=
  { s with messages := s.messages ++ [msg], queue := s.queue ++ [(p, s.messages.length)] }

/-- The end of `SetTimer` and `SetInterval`: fill a message with the id taken and post it.  The
`weak_ptr` overloads hold their locked pointer until `Post` is over, so no listener dies in
between. -/
def postAdd (s : TimerSystem) (p : Producer) (fill : TimerId → TimerAddMessage) :
    Option TimerSystem :=
  match s.taken p with
  | none => none
  | some id => some ({ s with taken := Function.update s.taken p none }.post p (.add (fill id)))

def step (s : TimerSystem) : SystemAction → Option TimerSystem
  | .takeId p =>
    if s.taken p = none then
      some { s with
        taken := Function.update s.taken p (some s.nextTimerId), nextTimerId := s.nextTimerId + 1 }
    else none
  | .setTimer p timerId ms l pParam =>
    s.postAdd p fun id => TimerImpl.setTimer id timerId ms l pParam
  | .setTimerWeak p timerId ms l pParam =>
    s.postAdd p fun id => TimerImpl.setTimerWeak s.loop.destroyed id timerId ms l pParam
  | .setInterval p timerId ms l pParam =>
    s.postAdd p fun id => TimerImpl.setInterval id timerId ms l pParam
  | .setIntervalWeak p timerId ms l pParam =>
    s.postAdd p fun id => TimerImpl.setIntervalWeak s.loop.destroyed id timerId ms l pParam
  | .cancelTimer p handle => some (s.post p (.cancel (TimerImpl.cancelTimer handle)))
  | .unregister p l => some (s.post p (.cancel (TimerImpl.unregister l)))
  | .postTick p => some (s.post p .tick)
  | .process p dying =>
    match dequeue p s.queue with
    | none => none
    | some (t, queue) =>
      match s.messages[t]? with
      | none => none
      | some msg =>
        (s.loop.step (msg.action dying)).map fun loop =>
          { s with loop := loop, queue := queue, processed := s.processed ++ [t] }
  | .expire => (s.loop.step .expire).map fun loop => { s with loop := loop }
  | .destroy l => (s.loop.step (.destroy l)).map fun loop => { s with loop := loop }

end TimerSystem

/-! ## What a step does -/

/-- A step takes an id, posts, processes, or is one of the timer loop's own. -/
inductive SystemStepped (s : TimerSystem) : SystemAction → TimerSystem → Prop where
  | takeId (p : Producer) (hp : s.taken p = none) :
      SystemStepped s (.takeId p)
        { s with
          taken := Function.update s.taken p (some s.nextTimerId),
          nextTimerId := s.nextTimerId + 1 }
  | postAdd (a : SystemAction) (p : Producer) (id : TimerId) (hp : s.taken p = some id)
      (msg : TimerAddMessage) (hid : msg.timerId = id)
      (hlock : msg.weakListener = none ∨ msg.listener = lock s.loop.destroyed msg.weakListener) :
      SystemStepped s a ({ s with taken := Function.update s.taken p none }.post p (.add msg))
  | postOther (a : SystemAction) (p : Producer) (msg : TimerMessage) (hm : ∀ m, msg ≠ .add m) :
      SystemStepped s a (s.post p msg)
  | process (p : Producer) (dying : List ListenerId) (t : Nat) (l₁ l₂ : List (Producer × Nat))
      (hd : dequeue p s.queue = some (t, l₁ ++ l₂)) (hq : s.queue = l₁ ++ (p, t) :: l₂)
      (msg : TimerMessage) (hm : s.messages[t]? = some msg)
      (loop : TimerLoop) (hl : s.loop.step (msg.action dying) = some loop) :
      SystemStepped s (.process p dying)
        { s with loop := loop, queue := l₁ ++ l₂, processed := s.processed ++ [t] }
  | loop (a : SystemAction) (b : TimerAction) (hb : addIds [b] = [] ∧ ∀ msg, b ≠ .cancel msg)
      (loop : TimerLoop) (hl : s.loop.step b = some loop) :
      SystemStepped s a { s with loop := loop }

variable {s s' : TimerSystem} {a : SystemAction}

theorem postAdd_stepped {p : Producer} {fill : TimerId → TimerAddMessage}
    (hfill : ∀ id, (fill id).timerId = id)
    (hlock : ∀ id, (fill id).weakListener = none ∨
      (fill id).listener = lock s.loop.destroyed (fill id).weakListener)
    (h : s.postAdd p fill = some s') : SystemStepped s a s' := by
  unfold TimerSystem.postAdd at h
  cases hp : s.taken p with
  | none => simp [hp] at h
  | some id =>
    simp only [hp, Option.some.injEq] at h
    subst h
    exact .postAdd a p id hp (fill id) (hfill id) (hlock id)

theorem systemStepped (h : s.step a = some s') : SystemStepped s a s' := by
  cases a with
  | takeId p =>
    simp only [TimerSystem.step, Option.ite_none_right_eq_some, Option.some.injEq] at h
    obtain ⟨hp, rfl⟩ := h
    exact .takeId p hp
  | setTimer p timerId ms l pParam =>
    exact postAdd_stepped (fun _ => rfl) (fun _ => Or.inl rfl) h
  | setTimerWeak p timerId ms l pParam =>
    exact postAdd_stepped (fun _ => rfl) (fun _ => Or.inr rfl) h
  | setInterval p timerId ms l pParam =>
    exact postAdd_stepped (fun _ => rfl) (fun _ => Or.inl rfl) h
  | setIntervalWeak p timerId ms l pParam =>
    exact postAdd_stepped (fun _ => rfl) (fun _ => Or.inr rfl) h
  | cancelTimer p handle =>
    simp only [TimerSystem.step, Option.some.injEq] at h
    subst h
    exact .postOther _ p _ (by simp)
  | unregister p l =>
    simp only [TimerSystem.step, Option.some.injEq] at h
    subst h
    exact .postOther _ p _ (by simp)
  | postTick p =>
    simp only [TimerSystem.step, Option.some.injEq] at h
    subst h
    exact .postOther _ p _ (by simp)
  | process p dying =>
    simp only [TimerSystem.step] at h
    split at h
    · cases h
    · next t queue hq =>
      split at h
      · cases h
      · next msg hm =>
        rw [Option.map_eq_some_iff] at h
        obtain ⟨loop, hl, rfl⟩ := h
        obtain ⟨l₁, l₂, e1, rfl, -⟩ := dequeue_eq_some hq
        exact .process p dying t l₁ l₂ hq e1 msg hm loop hl
  | expire =>
    simp only [TimerSystem.step, Option.map_eq_some_iff] at h
    obtain ⟨loop, hl, rfl⟩ := h
    exact .loop _ .expire (by simp [addIds]) loop hl
  | destroy l =>
    simp only [TimerSystem.step, Option.map_eq_some_iff] at h
    obtain ⟨loop, hl, rfl⟩ := h
    exact .loop _ (.destroy l) (by simp [addIds]) loop hl

/-! ## The invariant of the system -/

/-- `node` was made for `m`; the due tick and the flag may have changed since. -/
def MadeFrom (m : TimerAddMessage) (node : Node) : Prop :=
  ∃ d d' tick e c, node = { makeNode d d' tick m with expiryTick := e, cancelled := c }

/-- The message `i` was posted by a `SetTimer` or `SetInterval`. -/
def TimerSystem.Set (s : TimerSystem) (i : Nat) (m : TimerAddMessage) : Prop :=
  s.messages[i]? = some (.add m)

structure SystemInv (s : TimerSystem) : Prop where
  next_pos : 0 < s.nextTimerId
  taken_lt : ∀ p id, s.taken p = some id → 0 < id ∧ id < s.nextTimerId
  taken_inj : ∀ p q id, s.taken p = some id → s.taken q = some id → p = q
  taken_fresh : ∀ p i m, s.Set i m → s.taken p ≠ some m.timerId
  ids_lt : ∀ i m, s.Set i m → 0 < m.timerId ∧ m.timerId < s.nextTimerId
  ids_inj : ∀ i j m m', s.Set i m → s.Set j m' → m.timerId = m'.timerId → i = j
  queued_lt : ∀ e ∈ s.queue, e.2 < s.messages.length
  processed_lt : ∀ t ∈ s.processed, t < s.messages.length
  once : (s.processed ++ s.queue.map (·.2)).Nodup
  good : ∃ due, Good s.loop.timer s.loop.expired s.loop.ticks due
  made : ∀ r, r < s.loop.timer.nextRef →
    ∃ i ∈ s.processed, ∃ m, s.Set i m ∧ MadeFrom m (s.loop.timer.nodes r)

theorem systemInv_init : SystemInv .init where
  next_pos := Nat.one_pos
  taken_lt p id h := by cases h
  taken_inj p q id h := by cases h
  taken_fresh p i m h := by simp [TimerSystem.init]
  ids_lt i m h := by simp [TimerSystem.init, TimerSystem.Set] at h
  ids_inj i j m m' h := by simp [TimerSystem.init, TimerSystem.Set] at h
  queued_lt e h := absurd h List.not_mem_nil
  processed_lt t h := absurd h List.not_mem_nil
  once := List.nodup_nil
  good := ⟨_, good_init⟩
  made r hr := absurd hr (Nat.not_lt_zero r)

theorem getElem?_post {p : Producer} {msg x : TimerMessage} {i : Nat} :
    (s.post p msg).messages[i]? = some x ↔ s.messages[i]? = some x ∨
    (i = s.messages.length ∧ msg = x) := by
  show (s.messages ++ [msg])[i]? = some x ↔ _
  rw [List.getElem?_append]
  split
  · next h => simp [Nat.ne_of_lt h]
  · next h =>
    have hle := Nat.le_of_not_lt h
    rw [List.getElem?_eq_none hle]
    by_cases he : i = s.messages.length
    · simp [he]
    · have : [msg][i - s.messages.length]? = none := List.getElem?_eq_none (by simp; omega)
      simp [he, this]

theorem SystemInv.post (h : SystemInv s) {p : Producer} {msg : TimerMessage}
    (hfresh : ∀ m, msg = .add m → 0 < m.timerId ∧ m.timerId < s.nextTimerId ∧
      (∀ p, s.taken p ≠ some m.timerId) ∧ ∀ i m', s.Set i m' → m'.timerId ≠ m.timerId) : SystemInv
        (s.post p msg) := by
  have hset : ∀ i m, (s.post p msg).Set i m ↔ s.Set i m ∨ (i = s.messages.length ∧ msg = .add m) :=
    fun i m => getElem?_post
  have hlen : (s.post p msg).messages.length = s.messages.length + 1 := by simp [TimerSystem.post]
  constructor
  · exact h.next_pos
  · exact h.taken_lt
  · exact h.taken_inj
  · intro q i m hm
    rcases (hset i m).mp hm with hm | ⟨-, hm⟩
    · exact h.taken_fresh q i m hm
    · exact (hfresh m hm).2.2.1 q
  · intro i m hm
    rcases (hset i m).mp hm with hm | ⟨-, hm⟩
    · exact h.ids_lt i m hm
    · exact ⟨(hfresh m hm).1, (hfresh m hm).2.1⟩
  · intro i j m m' hi hj he
    rcases (hset i m).mp hi with hi | ⟨hi, hm⟩ <;> rcases (hset j m').mp hj with hj | ⟨hj, hm'⟩
    · exact h.ids_inj i j m m' hi hj he
    · exact absurd he ((hfresh m' hm').2.2.2 i m hi)
    · exact absurd he.symm ((hfresh m hm).2.2.2 j m' hj)
    · rw [hi, hj]
  · intro e he
    rw [hlen]
    rcases mem_concat.mp he with he | rfl
    · exact Nat.lt_succ_of_lt (h.queued_lt e he)
    · exact Nat.lt_succ_self _
  · intro t ht
    rw [hlen]
    exact Nat.lt_succ_of_lt (h.processed_lt t ht)
  · show (s.processed ++ (s.queue ++ [(p, s.messages.length)]).map (·.2)).Nodup
    rw [List.map_append, ← List.append_assoc]
    refine List.nodup_append.mpr ⟨h.once, by simp, ?_⟩
    intro t ht t' ht' e
    have ht' : t' = s.messages.length := by simpa using ht'
    rcases List.mem_append.mp ht with ht | ht
    · have := h.processed_lt t ht
      omega
    · obtain ⟨e', he', rfl⟩ := List.mem_map.mp ht
      have := h.queued_lt e' he'
      omega
  · exact h.good
  · intro r hr
    obtain ⟨i, hi, m, hm, hmade⟩ := h.made r hr
    exact ⟨i, hi, m, (hset i m).mpr (.inl hm), hmade⟩

/-- The dispatcher's own part of a step; an Add it handles was not handled before. -/
theorem SystemInv.loop (h : SystemInv s) {b : TimerAction} {loop : TimerLoop} {processed : List Nat}
    (hl : s.loop.step b = some loop) (hsub : s.processed ⊆ processed)
    (hadd : ∀ msg dying, b = .add msg dying → ∃ t, t ∉ s.processed ∧ t ∈ processed ∧ s.Set t msg) :
    (∃ due, Good loop.timer loop.expired loop.ticks due) ∧
      ∀ r, r < loop.timer.nextRef → ∃ i ∈ processed, ∃ m, s.Set i m ∧
      MadeFrom m (loop.timer.nodes r) := by
  obtain ⟨due, hg⟩ := h.good
  have hst := stepped hg hl
  constructor
  · refine hst.good hg fun id hid r hr e => ?_
    obtain ⟨i, hi, m, hm, hmade⟩ := h.made r hr
    cases hst with
    | add msg dying he =>
      obtain ⟨t, ht, -, hset⟩ := hadd msg dying rfl
      obtain ⟨d, d', tick, x, c, hn⟩ := hmade
      have hmid : (s.loop.timer.nodes r).id = m.timerId := by rw [hn]; rfl
      have hid : id = msg.timerId := by simpa [addIds] using hid
      have := h.ids_inj i t m msg hm hset (by rw [← hmid, e, hid])
      exact ht (this ▸ hi)
    | _ => simp [addIds] at hid
  · intro r hr
    rcases hst.node hr with ⟨hr', x, c, hn⟩ | ⟨msg, dying, rfl, -, hn⟩
    · obtain ⟨i, hi, m, hm, d, d', tick, x', c', hn'⟩ := h.made r hr'
      exact ⟨i, hsub hi, m, hm, d, d', tick, x, c, by rw [hn, hn']⟩
    · obtain ⟨t, -, ht, hset⟩ := hadd msg dying rfl
      exact ⟨t, ht, msg, hset, _, _, s.loop.timer.currentTick, _, _, hn⟩

theorem SystemInv.not_processed (h : SystemInv s) {e : Producer × Nat} (he : e ∈ s.queue) :
    e.2 ∉ s.processed := fun hp =>
  (List.nodup_append.mp h.once).2.2 _ hp _ (List.mem_map_of_mem he) rfl

theorem SystemInv.action_fresh (h : SystemInv s) {t : Nat} {msg : TimerMessage}
    (dying : List ListenerId) (ht : t ∉ s.processed) (hm : s.messages[t]? = some msg) {id : TimerId}
    (hid : id ∈ addIds [msg.action dying]) : (∀ i m, s.Set i m → i ∈ s.processed → m.timerId ≠ id) ∧
      ∀ r, r < s.loop.timer.nextRef → (s.loop.timer.nodes r).id ≠ id := by
  have hset : ∀ i m, s.Set i m → i ∈ s.processed → m.timerId ≠ id := by
    intro i m hi hp e
    cases msg with
    | add m' =>
      have he : id = m'.timerId := by simpa [TimerMessage.action, addIds] using hid
      exact ht (h.ids_inj i t m m' hi hm (e.trans he) ▸ hp)
    | cancel c => simp [TimerMessage.action, addIds] at hid
    | tick => simp [TimerMessage.action, addIds] at hid
  refine ⟨hset, fun r hr e => ?_⟩
  obtain ⟨i, hi, m, hm', d, d', tick, x, c, hn⟩ := h.made r hr
  refine hset i m hm' hi ?_
  rw [← e, hn]
  rfl

/-- **Every step keeps messages and tables in agreement.** -/
theorem system_step (h : SystemInv s) (hs : s.step a = some s') : SystemInv s' := by
  cases systemStepped hs with
  | takeId p hp =>
    refine { h with
      next_pos := Nat.succ_pos _, taken_lt := ?_, taken_inj := ?_, taken_fresh := ?_, ids_lt := ?_ }
    · intro q id hq
      by_cases e : q = p
      · subst e
        simp only [Function.update_self, Option.some.injEq] at hq
        subst hq
        exact ⟨h.next_pos, Nat.lt_succ_self _⟩
      · simp only [Function.update_of_ne e] at hq
        exact ⟨(h.taken_lt q id hq).1, Nat.lt_succ_of_lt (h.taken_lt q id hq).2⟩
    · intro q q' id hq hq'
      by_cases e : q = p <;> by_cases e' : q' = p
      · rw [e, e']
      · subst e
        simp only [Function.update_self, Option.some.injEq, Function.update_of_ne e'] at hq hq'
        exact absurd hq (Nat.ne_of_gt (h.taken_lt q' id hq').2)
      · subst e'
        simp only [Function.update_self, Option.some.injEq, Function.update_of_ne e] at hq hq'
        exact absurd hq' (Nat.ne_of_gt (h.taken_lt q id hq).2)
      · simp only [Function.update_of_ne e, Function.update_of_ne e'] at hq hq'
        exact h.taken_inj q q' id hq hq'
    · intro q i m hm
      by_cases e : q = p
      · subst e
        simp only [Function.update_self, ne_eq, Option.some.injEq]
        exact fun e => Nat.lt_irrefl _ (e ▸ (h.ids_lt i m hm).2)
      · simp only [Function.update_of_ne e]
        exact h.taken_fresh q i m hm
    · intro i m hm
      exact ⟨(h.ids_lt i m hm).1, Nat.lt_succ_of_lt (h.ids_lt i m hm).2⟩
  | postAdd a p id hp msg hid hlock =>
    subst hid
    -- the id is given back first: no thread holds it any more
    have hgave : ∀ q x, Function.update s.taken p none q = some x → q ≠ p ∧ s.taken q = some x := by
      intro q x hq
      by_cases e : q = p
      · subst e
        simp at hq
      · exact ⟨e, by simpa [Function.update_of_ne e] using hq⟩
    have h' : SystemInv { s with taken := Function.update s.taken p none } :=
      { h with
        taken_lt := fun q x hq => h.taken_lt q x (hgave q x hq).2
        taken_inj := fun q q' x hq hq' => h.taken_inj q q' x (hgave q x hq).2 (hgave q' x hq').2
        taken_fresh := fun q i m hm hq => h.taken_fresh q i m hm (hgave q _ hq).2 }
    refine h'.post fun m hm => ?_
    cases hm
    refine ⟨(h.taken_lt p _ hp).1, (h.taken_lt p _ hp).2, fun q hq => ?_, fun i m' hm' e => ?_⟩
    · exact (hgave q _ hq).1 (h.taken_inj q p _ (hgave q _ hq).2 hp)
    · exact h.taken_fresh p i m' hm' (e ▸ hp)
  | postOther a p msg hm => exact h.post fun m hm' => absurd hm' (hm m)
  | process p dying t l₁ l₂ hd hq msg hm loop hl =>
    have ht : (p, t) ∈ s.queue := by rw [hq]; simp
    have hnew := h.not_processed ht
    obtain ⟨hgood, hmade⟩ := h.loop hl (List.subset_append_left s.processed [t]) fun m d e => by
      refine ⟨t, hnew, by simp, ?_⟩
      cases msg with
      | add m' => cases e; exact hm
      | cancel c => cases e
      | tick => cases e
    refine { h with queued_lt := ?_, processed_lt := ?_, once := ?_, good := hgood, made := hmade }
    · intro e he
      refine h.queued_lt e ?_
      rw [hq]
      rcases List.mem_append.mp he with he | he
      · exact List.mem_append_left _ he
      · exact List.mem_append_right _ (List.mem_cons_of_mem _ he)
    · exact forall_mem_concat h.processed_lt (h.queued_lt _ ht)
    · have hperm : (s.processed ++ [t] ++ (l₁ ++ l₂).map (·.2)).Perm
          (s.processed ++ s.queue.map (·.2)) := by
        rw [hq, List.append_assoc]
        refine List.Perm.append_left _ ?_
        simp only [List.map_append, List.map_cons, List.singleton_append]
        exact List.perm_middle.symm
      exact hperm.nodup_iff.mpr h.once
  | loop a b hb loop hl =>
    obtain ⟨hgood, hmade⟩ := h.loop hl (List.Subset.refl _) fun m d e => by
      rw [e] at hb
      simp [addIds] at hb
    exact { h with good := hgood, made := hmade }

theorem system_run {as : List SystemAction} (hs : run TimerSystem.step .init as = some s) :
    SystemInv s :=
  run_inv SystemInv (fun _ _ _ => system_step) systemInv_init hs

/-- **The timer tables agree** at every point of every run: the maps have the same timers, each
once; a registered timer has one node, in the wheel or out of it for its round; and a node in the
wheel has one place. -/
theorem timer_tables_agree (as : List SystemAction) {s : TimerSystem}
    (h : run TimerSystem.step .init as = some s) : (∀ l id, (l, id) ∈ s.loop.timer.listenerMap ↔
        ∃ r, s.loop.timer.timers id = some r ∧ (s.loop.timer.nodes r).rawListener = l) ∧
      s.loop.timer.listenerMap.Nodup ∧
      (∀ id, s.loop.timer.timers id ≠ none →
        ∃! r, (s.loop.timer.wheel.Holds r ∨ r ∈ s.loop.expired) ∧ (s.loop.timer.nodes r).id = id) ∧
      ∀ r, s.loop.timer.wheel.Holds r → ∃! p : Level × Nat, r ∈ s.loop.timer.wheel.tv p.1 p.2 := by
  obtain ⟨due, hg⟩ := (system_run h).good
  refine ⟨hg.listeners, hg.listeners_nodup, fun id hid => ?_,
    fun r ⟨l, i, hm⟩ => ⟨(l, i), hm, fun p hp => ?_⟩⟩
  · obtain ⟨r, hr⟩ := Option.ne_none_iff_exists'.mp hid
    refine ⟨r, ⟨hg.reg_kept id r hr, hg.reg_id id r hr⟩, ?_⟩
    rintro r' ⟨hkept, rfl⟩
    exact hg.id_inj r' r (hkept.elim (hg.held_lt r') (hg.out_lt r')) (hg.reg_lt _ _ hr)
      (hg.reg_id _ _ hr).symm
  · have hl : p.1 = l := hg.placed.once p.1 p.2 l i r hp hm
    refine Prod.ext hl ?_
    rw [hg.placed.slot p.1 p.2 r hp, hg.placed.slot l i r hm, hl]

theorem timer_tables_agree_set :
    ∃ s, run TimerSystem.step .init
      [.takeId 0, .setTimer 0 1 50 (some 7) 0, .process 0 []] = some s ∧
      (some 7, 1) ∈ s.loop.timer.listenerMap :=
  ⟨_, rfl,
    ((timer_tables_agree [.takeId 0, .setTimer 0 1 50 (some 7) 0, .process 0 []] rfl).1
    (some 7) 1).mpr ⟨0, rfl, rfl⟩⟩

end ToyServer
