import ToyServer.Database.Transaction

/-!
# `AsyncRunInTransaction`

The name promises a transaction; the worker only pins a connection for `txLogic` and passes its
result on.  A statement that `txLogic` sends before it has begun a transaction itself is committed
at once, whatever `txLogic` returns afterwards (`statement_outlives_failure`).

`txLogic` is any sequence of calls through the proxy and on what the proxy returns, ended by a
return or an exception, interleaved with all other clients.  `run_in_transaction_atomic`: it is
atomic as soon as it does by itself what the name promises (`Wrapped`): one transaction, every
statement inside of it, and true returned just when its `Commit` succeeded.
-/

namespace ToyServer

open Runs

namespace DbSystem

variable {s s₁ s' : DbSystem} {a : DbAction} {c : ConnId} {h : DbHandle} {i : Nat}

/-- The statements of call `k` that the other connections see. -/
def visible (s : DbSystem) (k : Nat) : List Nat :=
  (s.log.filter fun w => w.call = some k).map WriteEntry.stmt

/-- The handle at `i` and the call it works for. -/
def caller (s : DbSystem) (i : Nat) : Option (DbHandle × TxCall) :=
  match s.handles[i]? with
  | some (some h) =>
    match h.call with
    | none => none
    | some k =>
      match s.calls[k]? with
      | none => none
      | some call => some (h, call)
  | _ => none

/-- `txLogic` begins one transaction, sends its statements inside of it, commits it before it ends,
and returns true just when that succeeded. -/
def Wrapped (s : DbSystem) : DbAction → Prop
  | .beginTransaction i _ _ => ∀ p ∈ s.caller i, p.2.begun = 0
  | .execute i _ _ => ∀ p ∈ s.caller i, (s.conns p.1.conn).inTransaction = true ∧ p.2.result = none
  | .commit i _ => ∀ p ∈ s.caller i, p.2.result = none
  | .finish k outcome => ∀ call ∈ s.calls[k]?, call.issued = [] ∨ outcome.success = call.committed
  | .acquire _ | .discard _ | .asyncRun _ | .wrap _ | .executeQuery _ | .closeRows
      _ | .drop _ _ _ => True

instance (s : DbSystem) : ∀ a, Decidable (s.Wrapped a)
  | .beginTransaction _ _ _ | .execute _ _ _ | .commit _ _ | .finish _ _ =>
    inferInstanceAs (Decidable (∀ _ ∈ _, _))
  | .acquire _ | .discard _ | .asyncRun _ | .wrap _ | .executeQuery _ | .closeRows _ | .drop _ _
      _ => inferInstanceAs (Decidable True)

variable {k : Nat} {call : TxCall}

theorem caller_eq (hi : s.handles[i]? = some (some h)) (hk : h.call = some k)
    (hc : s.calls[k]? = some call) : (h, call) ∈ s.caller i := by
  simp [caller, hi, hk, hc]

/-- What is open on the connection of `h` is what its call has issued, and nothing of it is
committed. -/
def Pending (s : DbSystem) (h : DbHandle) : Prop :=
  (s.conns h.conn).inTransaction = true → ∃ t, (s.conns h.conn).txn = some t ∧
    (∀ w ∈ t.writes, w.call = h.call) ∧
    ∀ (k : Nat) (call : TxCall), h.call = some k → s.calls[k]? = some call →
      t.writes.map WriteEntry.stmt = call.issued ∧ call.committed = false ∧ 0 < call.begun

/-- All or nothing, for every call. -/
structure Atomic (s : DbSystem) : Prop where
  places : s.Places
  valid : ∀ {i k : Nat} {h : DbHandle}, s.handles[i]? = some (some h) → h.call = some k →
    k < s.calls.length
  one : ∀ {i j k : Nat} {h h' : DbHandle}, s.handles[i]? = some (some h) →
    s.handles[j]? = some (some h') → h.call = some k → h'.call = some k → h.conn = h'.conn
  pending : ∀ {i : Nat} {h : DbHandle}, s.handles[i]? = some (some h) → s.Pending h
  logged : ∀ w ∈ s.log, ∀ k, w.call = some k → k < s.calls.length
  unbegun : ∀ {k : Nat} {call : TxCall}, s.calls[k]? = some call → call.begun = 0 →
    call.issued = [] ∧ call.committed = false
  seen : ∀ {k : Nat} {call : TxCall}, s.calls[k]? = some call →
    s.visible k = if call.committed then call.issued else []
  told : ∀ {k : Nat} {call : TxCall} {b : Bool}, s.calls[k]? = some call → call.result = some b →
    call.issued = [] ∨ b = call.committed

@[simp] theorem onCall_length (s : DbSystem) (k : Option Nat) (f : TxCall → TxCall) :
    (s.onCall k f).calls.length = s.calls.length := by
  cases k <;> simp [onCall]

theorem onCall_calls (s : DbSystem) (o : Option Nat) (f : TxCall → TxCall) (k : Nat) :
    (s.onCall o f).calls[k]? = if o = some k then s.calls[k]?.map f else s.calls[k]? := by
  cases o with
  | none => simp [onCall]
  | some k' =>
    simp only [onCall, List.getElem?_modify, Option.some.injEq]
    split <;> simp

theorem onCall_calls_eq {s : DbSystem} {o : Option Nat} {f : TxCall → TxCall}
    (hc : (s.onCall o f).calls[k]? = some call) :
    ∃ call₀, s.calls[k]? = some call₀ ∧
    (o = some k ∧ call = f call₀ ∨ o ≠ some k ∧ call = call₀) := by
  rw [onCall_calls] at hc
  split at hc
  · rename_i ho
    obtain ⟨call₀, h0, rfl⟩ := Option.map_eq_some_iff.mp hc
    exact ⟨call₀, h0, .inl ⟨ho, rfl⟩⟩
  · rename_i ho
    exact ⟨call, hc, .inr ⟨ho, rfl⟩⟩

theorem visible_append {ws : List WriteEntry} (hl : s'.log = s.log ++ ws) (k : Nat) :
    s'.visible k = s.visible k ++ (ws.filter fun w => w.call = some k).map WriteEntry.stmt := by
  simp [visible, hl]

theorem visible_append_other {ws : List WriteEntry} (hl : s'.log = s.log ++ ws)
    (hw : ∀ w ∈ ws, w.call ≠ some k) : s'.visible k = s.visible k := by
  have hnil : (ws.filter fun w => w.call = some k) = [] := by
    rw [List.filter_eq_nil_iff]
    intro w hmem
    simpa using hw w hmem
  rw [visible_append hl, hnil, List.map_nil, List.append_nil]

theorem visible_append_own {ws : List WriteEntry} (hl : s'.log = s.log ++ ws)
    (hw : ∀ w ∈ ws, w.call = some k) : s'.visible k = s.visible k ++ ws.map WriteEntry.stmt := by
  have hall : (ws.filter fun w => w.call = some k) = ws := by
    rw [List.filter_eq_self]
    intro w hmem
    simpa using hw w hmem
  rw [visible_append hl, hall]

/-- **One connection at a time.** The owner `h` of a connection works on it, changes the record of
its call by `f` and commits the writes `ws`; what has to be said is said about that connection and
that call only. -/
theorem Atomic.update (ha : s.Atomic) (hi : s.handles[i]? = some (some h)) (f : TxCall → TxCall)
    (ws : List WriteEntry) (hp : s'.Places) (htr : Traced s s')
    (hconns : ∀ c, c ≠ h.conn → s'.conns c = s.conns c)
    (hcalls : s'.calls = (s.onCall h.call f).calls) (hlog : s'.log = s.log ++ ws)
    (hws : ∀ w ∈ ws, w.call = h.call)
      (hpend : (s'.conns h.conn).inTransaction = true → ∃ t, (s'.conns h.conn).txn = some t ∧
      (∀ w ∈ t.writes, w.call = h.call) ∧ ∀ (k : Nat) (call : TxCall), h.call = some k →
        s.calls[k]? = some call →
        t.writes.map WriteEntry.stmt = (f call).issued ∧ (f call).committed = false ∧
        0 < (f call).begun)
    (hown : ∀ (k : Nat) (call : TxCall), h.call = some k → s.calls[k]? = some call →
      ((f call).begun = 0 → (f call).issued = [] ∧ (f call).committed = false) ∧
      (s.visible k ++ ws.map WriteEntry.stmt = if (f call).committed then (f call).issued else []) ∧
      ∀ b, (f call).result = some b → (f call).issued = [] ∨
      b = (f call).committed) : s'.Atomic where
  places := hp
  valid := by
    intro j k h' hj hk
    obtain ⟨j', h'', hj', -, hcall⟩ := htr hj
    rw [hcalls, onCall_length]
    exact ha.valid hj' (hcall.trans hk)
  one := by
    intro j j' k h₁ h₂ h1 h2 hk1 hk2
    obtain ⟨n, g, hn, hgc, hgk⟩ := htr h1
    obtain ⟨n', g', hn', hgc', hgk'⟩ := htr h2
    rw [← hgc, ← hgc']
    exact ha.one hn hn' (hgk.trans hk1) (hgk'.trans hk2)
  pending := by
    intro j h' hj hflag
    obtain ⟨j', g, hj', hgc, hgk⟩ := htr hj
    by_cases hc : g.conn = h.conn
    · have hcall : g.call = h.call := ha.places.shared hj' hi hc
      rw [← hgc, hc] at hflag ⊢
      obtain ⟨t, ht, hw, hk⟩ := hpend hflag
      refine ⟨t, ht, fun w hmem => (hw w hmem).trans (hcall.symm.trans hgk), ?_⟩
      intro k call hk' hget
      have hk' : h.call = some k := hcall.symm.trans (hgk.trans hk')
      rw [hcalls] at hget
      obtain ⟨call₀, h0, ⟨-, rfl⟩ | ⟨hne, -⟩⟩ := onCall_calls_eq hget
      · exact hk k call₀ hk' h0
      · exact absurd hk' hne
    · rw [← hgc, hconns _ hc] at hflag ⊢
      obtain ⟨t, ht, hw, hk⟩ := ha.pending hj' hflag
      refine ⟨t, ht, fun w hmem => (hw w hmem).trans hgk, ?_⟩
      intro k call hk' hget
      rw [hcalls] at hget
      obtain ⟨call₀, h0, ⟨ho, -⟩ | ⟨-, rfl⟩⟩ := onCall_calls_eq hget
      · -- the call of `h` has no second connection
        exact absurd (ha.one hj' hi (hgk.trans hk') ho) hc
      · exact hk k call (hgk.trans hk') h0
  logged := by
    intro w hw k hk
    rw [hlog] at hw
    rw [hcalls, onCall_length]
    obtain hold | hnew := List.mem_append.mp hw
    · exact ha.logged w hold k hk
    · exact ha.valid hi ((hws w hnew).symm.trans hk)
  unbegun := by
    intro k call hget hb
    rw [hcalls] at hget
    obtain ⟨call₀, h0, ⟨ho, rfl⟩ | ⟨-, rfl⟩⟩ := onCall_calls_eq hget
    · exact (hown k call₀ ho h0).1 hb
    · exact ha.unbegun h0 hb
  seen := by
    intro k call hget
    rw [hcalls] at hget
    obtain ⟨call₀, h0, ⟨ho, rfl⟩ | ⟨hne, rfl⟩⟩ := onCall_calls_eq hget
    · rw [visible_append_own hlog fun w hw => (hws w hw).trans ho]
      exact (hown k call₀ ho h0).2.1
    · rw [visible_append_other hlog fun w hw he => hne ((hws w hw).symm.trans he)]
      exact ha.seen h0
  told := by
    intro k call b hget hr
    rw [hcalls] at hget
    obtain ⟨call₀, h0, ⟨ho, rfl⟩ | ⟨-, rfl⟩⟩ := onCall_calls_eq hget
    · exact (hown k call₀ ho h0).2.2 b hr
    · exact ha.told h0 hr

theorem Atomic.own (ha : s.Atomic) (hk : s.calls[k]? = some call) :
    (call.begun = 0 → call.issued = [] ∧ call.committed = false) ∧
    (s.visible k ++ ([] : List WriteEntry).map WriteEntry.stmt = if call.committed then call.issued
      else []) ∧
    ∀ b, call.result = some b → call.issued = [] ∨ b = call.committed :=
  ⟨ha.unbegun hk, by simpa using ha.seen hk, fun _ => ha.told hk⟩

/-- A statement: outside of a transaction it belongs to no call, inside it joins what is pending. -/
theorem atomic_execute (ha : s.Atomic) (hi : s.handles[i]? = some (some h)) {stmt : Nat}
    {reply : SqlReply} (hok : s.Wrapped (.execute i stmt reply)) :
    (s.executeBy h stmt reply).Atomic := by
  have hp := places_execute ha.places hi stmt reply
  have hin (k : Nat) (call : TxCall) (hk : h.call = some k) (hget : s.calls[k]? = some call) :
      (s.conns h.conn).inTransaction = true ∧ call.result = none := hok _ (caller_eq hi hk hget)
  obtain he | ⟨ht, he⟩ | ⟨t, ht, he⟩ := s.executeBy_cases h stmt reply
  · rw [he]
    exact ha
  · -- committed at once: a call would have to be inside of a transaction
    have hnone (k : Nat) (call : TxCall) (hk : h.call = some k) (hget : s.calls[k]? = some call) :
        False := by
      obtain ⟨t, ht', -⟩ := ha.pending hi (hin k call hk hget).1
      rw [ht] at ht'
      cases ht'
    rw [he] at hp ⊢
    refine ha.update hi (TxCall.issue stmt) [s.writeOf h stmt] hp (traced_of_handles (by simp))
      (by simp) ?_ (by simp) ?_ ?_ ?_
    · cases h.call <;> rfl
    · intro w hw
      rw [List.mem_singleton.mp hw]
      rfl
    · intro hflag
      obtain ⟨t, ht', -⟩ := ha.pending hi (by simpa using hflag)
      rw [ht] at ht'
      cases ht'
    · exact fun k call hk hget => (hnone k call hk hget).elim
  · rw [he] at hp ⊢
    refine ha.update hi (TxCall.issue stmt) [] hp (traced_of_handles (by simp [setConn]))
      (fun c hc => ?_) ?_ (by simp [setConn]) (by simp) ?_ ?_
    · simpa using s.setConn_other _ hc
    · cases h.call <;> rfl
    · intro hflag
      obtain ⟨t', ht', hw, hcalls⟩ := ha.pending hi (by simpa using hflag)
      rw [ht] at ht'
      cases ht'
      refine ⟨⟨t.id, t.writes ++ [s.writeOf h stmt]⟩, by simp, ?_, ?_⟩
      · intro w hmem
        obtain hold | hnew := List.mem_append.mp hmem
        · exact hw w hold
        · rw [List.mem_singleton.mp hnew]
          rfl
      · intro k call hk hget
        obtain ⟨h1, h2, h3⟩ := hcalls k call hk hget
        exact ⟨by simp [TxCall.issue, writeOf, h1], h2, h3⟩
    · intro k call hk hget
      obtain ⟨hflag, hrun⟩ := hin k call hk hget
      obtain ⟨t', -, -, hcalls⟩ := ha.pending hi hflag
      obtain ⟨-, hnc, hb⟩ := hcalls k call hk hget
      have hs := ha.seen hget
      simp only [hnc, Bool.false_eq_true, if_false] at hs
      refine ⟨fun hz => ?_, ?_, fun b hr => ?_⟩
      · simp only [TxCall.issue] at hz
        omega
      · simp [TxCall.issue, hnc, hs]
      · simp only [TxCall.issue, hrun] at hr
        cases hr

theorem atomic_begin (ha : s.Atomic) (hi : s.handles[i]? = some (some h)) {reply : SqlReply}
    {alloc : Bool} (hok : s.Wrapped (.beginTransaction i reply alloc)) :
    (s.beginBy h reply alloc).Atomic := by
  have hp := places_begin ha.places hi reply alloc
  obtain he | ⟨-, -, he⟩ := s.beginBy_cases h reply alloc
  · rw [he]
    exact ha
  · have hfirst (k : Nat) (call : TxCall) (hk : h.call = some k) (hget : s.calls[k]? = some call) :
        call.issued = [] ∧ call.committed = false := ha.unbegun hget (hok _ (caller_eq hi hk hget))
    rw [he] at hp ⊢
    refine ha.update hi TxCall.beginOne [] hp
      (traced_append hi (fun h' ho => ?_) (by simp [setConn, addHandle]; rfl))
      (fun c hc => ?_) ?_ (by simp [setConn, addHandle]) (by simp) (fun _ => ?_) ?_
    · cases alloc with
      | true => cases ho; exact ⟨rfl, rfl⟩
      | false => cases ho
    · simpa [addHandle] using s.setConn_other _ hc
    · cases h.call <;> rfl
    · refine ⟨⟨s.handles.length, []⟩, by simp [addHandle], by simp, ?_⟩
      intro k call hk hget
      obtain ⟨h1, h2⟩ := hfirst k call hk hget
      exact ⟨by simp [TxCall.beginOne, h1], by simp [TxCall.beginOne, h2],
        by simp [TxCall.beginOne]⟩
    · intro k call hk hget
      exact ⟨by simp [TxCall.beginOne], (ha.own hget).2⟩

/-- A successful `Commit` shows all that its call has issued, at once. -/
theorem atomic_commit (ha : s.Atomic) {committed : Bool} (hi : s.handles[i]? = some (some h))
    {reply : SqlReply} (hok : s.Wrapped (.commit i reply)) :
    (s.commitBy i h committed reply).Atomic := by
  have hp := places_commit ha.places hi committed reply
  obtain he | ⟨t, -, hf, ht, he⟩ := s.commitBy_cases i h committed reply
  · rw [he]
    exact ha
  · obtain ⟨t', ht', hw, hcalls⟩ := ha.pending hi hf
    rw [ht] at ht'
    cases ht'
    rw [he] at hp ⊢
    refine ha.update hi TxCall.markCommitted t.writes hp
      (traced_set hi (fun h' ho => ?_) (by simp; rfl)) (fun c hc => ?_) ?_ (by simp) hw ?_ ?_
    · cases ho
      exact ⟨rfl, rfl⟩
    · simpa using s.setConn_other _ hc
    · cases h.call <;> rfl
    · intro hflag
      simp [SQLiteConnection.fresh] at hflag
    · intro k call hk hget
      obtain ⟨h1, h2, h3⟩ := hcalls k call hk hget
      have hs := ha.seen hget
      simp only [h2, Bool.false_eq_true, if_false] at hs
      refine ⟨fun hz => ?_, ?_, fun b hr => ?_⟩
      · simp only [TxCall.markCommitted] at hz
        omega
      · simp [TxCall.markCommitted, hs, h1]
      · have hrun := hok _ (caller_eq hi hk hget)
        simp only [TxCall.markCommitted] at hr hrun
        rw [hrun] at hr
        cases hr

theorem onCall_id (s : DbSystem) (o : Option Nat) : (s.onCall o id).calls = s.calls := by
  cases o with
  | none => rfl
  | some k => simp [onCall]

theorem destroyOn_cases (h : DbHandle) (conn : SQLiteConnection WriteEntry) (reply : SqlReply) :
    h.destroyOn conn reply = conn ∨ (h.destroyOn conn reply).inTransaction = false := by
  unfold DbHandle.destroyOn
  split
  · exact .inl rfl
  · unfold TransactionWrapper.destroy
    split
    · exact .inl rfl
    · exact .inr (conn.rollback_flag reply)

section

variable (ha : s.Atomic)
include ha

theorem atomic_destroyed (hi : s.handles[i]? = some (some h)) (reply : SqlReply) :
    (s.destroyed i h reply).Atomic := by
  have hnone : ∀ h' : DbHandle, (none : Option DbHandle) = some h' → h'.conn = h.conn ∧
      h'.call = h.call := by
    intro h' ho
    cases ho
  have htr : Traced s (s.destroyed i h reply) := traced_set hi hnone rfl
  have hconns (c : ConnId) (hc : c ≠ h.conn) : (s.destroyed i h reply).conns c = s.conns c :=
    s.setConn_other _ hc
  have hp : (s.destroyed i h reply).Places := ha.places.update hi rfl hconns htr
  refine ha.update hi id [] hp htr hconns (onCall_id s h.call).symm
    (by simp [destroyed, setConn]) (by simp) ?_ fun k call _ hget => ha.own hget
  have hconn : (s.destroyed i h reply).conns h.conn = h.destroyOn (s.conns h.conn) reply :=
    s.setConn_same _ _
  rw [hconn]
  intro hflag
  obtain hsame | hdown := destroyOn_cases h (s.conns h.conn) reply
  · rw [hsame] at hflag ⊢
    exact ha.pending hi hflag
  · rw [hdown] at hflag
    cases hflag

theorem atomic_release (hn : c ∉ s.idle) (reply : SqlReply) : (s.release c reply).Atomic := by
  have hp := places_release ha.places hn reply
  unfold release at hp ⊢
  split at hp
  · rename_i hh
    rw [if_pos hh]
    exact ha
  · rename_i hh
    rw [if_neg hh]
    refine ⟨hp, ha.valid, ha.one, ?_, ha.logged, ha.unbegun, ha.seen, ha.told⟩
    intro j h' hj hflag
    have hne : h'.conn ≠ c := fun he => hh (held_iff.mpr ⟨j, h', hj, he⟩)
    simp only [s.setConn_other _ hne] at hflag ⊢
    exact ha.pending hj hflag

theorem atomic_drop (hi : s.handles[i]? = some (some h)) (reply resetReply : SqlReply) :
    (s.dropBy i h reply resetReply).Atomic := by
  rw [dropBy_eq]
  exact atomic_release (atomic_destroyed ha hi reply) (ha.places.not_idle hi) resetReply

theorem atomic_take (ht : s.take c = some s₁) : s₁.Atomic := by
  have hp := (places_take ha.places ht).1
  obtain ⟨-, rfl⟩ | ⟨-, hh, rfl⟩ := take_cases ht
  · exact ⟨hp, ha.valid, ha.one, ha.pending, ha.logged, ha.unbegun, ha.seen, ha.told⟩
  · refine ⟨hp, ha.valid, ha.one, ?_, ha.logged, ha.unbegun, ha.seen, ha.told⟩
    intro j h' hj hflag
    have hne : h'.conn ≠ c := by
      intro he
      have hheld : s.held c = true := held_iff.mpr ⟨j, h', hj, he⟩
      rw [hh] at hheld
      cases hheld
    simp only [s.setConn_other _ hne] at hflag ⊢
    exact ha.pending hj hflag

/-- The first share of a connection, for a client or for a call that has none yet. -/
theorem atomic_first {o : Option Nat} (hp : (s.addHandle (some ⟨c, o, .conn⟩)).Places)
    (hflag : (s.conns c).inTransaction = false) (hlt : ∀ k, o = some k → k < s.calls.length)
    (hnew : ∀ (k j : Nat) (h' : DbHandle), o = some k → s.handles[j]? = some (some h') →
      h'.call ≠ some k) :
    (s.addHandle (some ⟨c, o, .conn⟩)).Atomic := by
  refine ⟨hp, ?_, ?_, ?_, ha.logged, ha.unbegun, ha.seen, ha.told⟩
  · intro j k h' hj hk
    obtain hold | rfl := getElem?_append_some hj
    · exact ha.valid hold hk
    · exact hlt k hk
  · intro j j' k h₁ h₂ h1 h2 hk1 hk2
    obtain hold1 | rfl := getElem?_append_some h1
    · obtain hold2 | rfl := getElem?_append_some h2
      · exact ha.one hold1 hold2 hk1 hk2
      · exact absurd hk1 (hnew k j h₁ hk2 hold1)
    · obtain hold2 | rfl := getElem?_append_some h2
      · exact absurd hk2 (hnew k j' h₂ hk1 hold2)
      · rfl
  · intro j h' hj hf
    obtain hold | rfl := getElem?_append_some hj
    · exact ha.pending hold hf
    · have hf : (s.conns c).inTransaction = true := hf
      rw [hflag] at hf
      cases hf

theorem visible_new : s.visible s.calls.length = [] := by
  have hnil : (s.log.filter fun w => w.call = some s.calls.length) = [] := by
    rw [List.filter_eq_nil_iff]
    intro w hw
    have hne : w.call ≠ some s.calls.length := fun he => absurd (ha.logged w hw _ he) (lt_irrefl _)
    simpa using hne
  rw [visible, hnil, List.map_nil]

theorem atomic_addCall (result : Option Bool) : (s.addCall ⟨0, [], false, result⟩).Atomic := by
  have hcases {k : Nat} {call : TxCall}
      (hk : (s.calls ++ [⟨0, [], false, result⟩])[k]? = some call) :
      s.calls[k]? = some call ∨ k = s.calls.length ∧ call = ⟨0, [], false, result⟩ := by
    rw [List.getElem?_append] at hk
    split at hk
    · exact .inl hk
    · have hlt := (List.getElem?_eq_some_iff.mp hk).1
      simp only [List.length_singleton] at hlt
      exact .inr ⟨by omega, List.mem_singleton.mp (List.mem_of_getElem? hk)⟩
  have hlen : (s.addCall ⟨0, [], false, result⟩).calls.length = s.calls.length + 1 := by
    simp [addCall]
  refine ⟨places_addCall ha.places _, ?_, ha.one, ?_, ?_, ?_, ?_, ?_⟩
  · intro j k h' hj hk
    have := ha.valid hj hk
    omega
  · intro j h' hj hflag
    obtain ⟨t, ht, hw, hcalls⟩ := ha.pending hj hflag
    refine ⟨t, ht, hw, ?_⟩
    intro k call hk hget
    obtain hold | ⟨rfl, -⟩ := hcases hget
    · exact hcalls k call hk hold
    · exact absurd (ha.valid hj hk) (lt_irrefl _)
  · intro w hw k hk
    have := ha.logged w hw k hk
    omega
  · intro k call hget hb
    obtain hold | ⟨-, rfl⟩ := hcases hget
    · exact ha.unbegun hold hb
    · exact ⟨rfl, rfl⟩
  · intro k call hget
    obtain hold | ⟨rfl, rfl⟩ := hcases hget
    · exact ha.seen hold
    · exact visible_new ha
  · intro k call b hget hr
    obtain hold | ⟨-, rfl⟩ := hcases hget
    · exact ha.told hold hr
    · exact .inl rfl

theorem atomic_finish {outcome : TxOutcome} (hk : s.calls[k]? = some call)
    (hok : s.Wrapped (.finish k outcome)) :
    ({ s with calls := s.calls.set k { call with result := some outcome.success }
      } : DbSystem).Atomic := by
  -- only the result of one call changes
  have hcases {k' : Nat} {call' : TxCall}
      (hget : (s.calls.set k { call with result := some outcome.success })[k']? = some call') :
      s.calls[k']? = some call' ∨ k' = k ∧
      call' = { call with result := some outcome.success } := by
    rw [List.getElem?_set] at hget
    split at hget
    · rename_i he
      split at hget
      · exact .inr ⟨he.symm, (Option.some.inj hget).symm⟩
      · cases hget
    · exact .inl hget
  refine ⟨⟨ha.places.nodup, ha.places.unheld, ha.places.rested, ha.places.shared⟩, ?_, ha.one, ?_,
    ?_, ?_, ?_, ?_⟩
  · intro j k' h' hj hk'
    simpa using ha.valid hj hk'
  · intro j h' hj hflag
    obtain ⟨t, ht, hw, hcalls⟩ := ha.pending hj hflag
    refine ⟨t, ht, hw, ?_⟩
    intro k' call' hk' hget
    obtain hold | ⟨rfl, rfl⟩ := hcases hget
    · exact hcalls k' call' hk' hold
    · exact hcalls k' call hk' hk
  · intro w hw k' hk'
    simpa using ha.logged w hw k' hk'
  · intro k' call' hget hb
    obtain hold | ⟨rfl, rfl⟩ := hcases hget
    · exact ha.unbegun hold hb
    · show call.issued = [] ∧ call.committed = false
      exact ha.unbegun hk hb
  · intro k' call' hget
    obtain hold | ⟨rfl, rfl⟩ := hcases hget
    · exact ha.seen hold
    · show s.visible k' = if call.committed then call.issued else []
      exact ha.seen hk
  · intro k' call' b hget hr
    obtain hold | ⟨rfl, rfl⟩ := hcases hget
    · exact ha.told hold hr
    · cases hr
      exact hok call (Option.mem_def.mpr hk)

end

theorem take_calls (ht : s.take c = some s₁) : s₁.calls = s.calls := by
  obtain ⟨-, rfl⟩ | ⟨-, -, rfl⟩ := take_cases ht
  · rfl
  · rfl

/-- **Every step keeps calls atomic.** -/
theorem atomic_step (ha : s.Atomic) (hok : s.Wrapped a) (hs : s.step a = some s') : s'.Atomic := by
  have hp := places_step ha.places hs
  cases stepped hs with
  | acquire ht =>
    exact atomic_first (atomic_take ha ht) hp (places_take ha.places ht).2.2.2 (by simp) (by simp)
  | discard hc => exact ⟨hp, ha.valid, ha.one, ha.pending, ha.logged, ha.unbegun, ha.seen, ha.told⟩
  | asyncFail => exact atomic_addCall ha _
  | asyncRun ht =>
    have h1 := atomic_take ha ht
    refine atomic_first (atomic_addCall h1 none) hp (places_take ha.places ht).2.2.2 ?_ ?_
    · intro k hk
      cases hk
      simp [addCall, take_calls ht]
    · intro k j h' hk hj hcall
      cases hk
      have hlt := h1.valid hj hcall
      rw [take_calls ht] at hlt
      exact absurd hlt (lt_irrefl _)
  | execute hi hk => exact atomic_execute ha hi hok
  | wrap hi hk =>
    refine ha.update hi id [] hp (traced_append hi (fun h' ho => ?_) rfl) (fun _ _ => rfl)
      (onCall_id s _).symm
      (by simp [addHandle]) (by simp) (ha.pending hi) fun k call _ hget => ha.own hget
    cases ho
    exact ⟨rfl, rfl⟩
  | executeQuery hi hk =>
    exact ⟨hp, ha.valid, ha.one, ha.pending, ha.logged, ha.unbegun, ha.seen, ha.told⟩
  | closeRows => exact ⟨hp, ha.valid, ha.one, ha.pending, ha.logged, ha.unbegun, ha.seen, ha.told⟩
  | beginTransaction hi hk => exact atomic_begin ha hi hok
  | commit hi hk => exact atomic_commit ha hi hok
  | drop hi => exact atomic_drop ha hi _ _
  | finish hk hr => exact atomic_finish ha hk hok

theorem atomic_init : init.Atomic :=
  ⟨places_init, by simp [init], by simp [init], by simp [init], by simp [init], by simp [init],
    by simp [init], by simp [init]⟩

theorem atomic_run {as : List DbAction} (hok : Meets step Wrapped init as)
    (hr : run step init as = some s) : s.Atomic :=
  run_inv_of_meets Atomic (fun _ _ _ => atomic_step) atomic_init hok hr

/-- **`AsyncRunInTransaction` is atomic** for a `txLogic` that wraps its statements itself.  At
every moment the other connections see none of its statements or all of them; once the flag has been
passed on, all if it is true and none if it is false. -/
theorem run_in_transaction_atomic (as : List DbAction) (s : DbSystem)
    (hok : Meets step Wrapped init as) (hr : run step init as = some s) (k : Nat) (call : TxCall)
    (hk : s.calls[k]? = some call) : (s.visible k = [] ∨ s.visible k = call.issued) ∧
    (call.result = some true → s.visible k = call.issued) ∧
    (call.result = some false → s.visible k = []) := by
  have ha := atomic_run hok hr
  have hseen := ha.seen hk
  refine ⟨?_, fun ht => ?_, fun hf => ?_⟩
  · cases hc : call.committed with
    | true => exact .inr (by simpa [hc] using hseen)
    | false => exact .inl (by simpa [hc] using hseen)
  · obtain hnil | heq := ha.told hk ht
    · rw [hseen, hnil, ite_self]
    · simpa [← heq] using hseen
  · obtain hnil | heq := ha.told hk hf
    · rw [hseen, hnil, ite_self]
    · simpa [← heq] using hseen

/-- Two statements in a transaction of its own, committed. -/
def wrappedTwice : List DbAction :=
  [.asyncRun (some 0), .beginTransaction 0 none true, .execute 0 5 none, .execute 0 6 none,
    .commit 1 none, .drop 1 none none, .finish 0 (.returned true), .drop 0 none none]

theorem run_in_transaction_atomic_wrappedTwice : ∃ s, run step init wrappedTwice = some s ∧
    s.calls = [⟨1, [5, 6], true, some true⟩] ∧ s.visible 0 = [5, 6] :=
  ⟨_, rfl, rfl, (run_in_transaction_atomic wrappedTwice _ (by decide) rfl 0 _ rfl).2.1 rfl⟩

/-- Statements without a transaction of its own, as in the test of `AsyncRunInTransaction`. -/
def unwrapped (outcome : TxOutcome) : List DbAction :=
  [.asyncRun (some 0), .execute 0 5 none, .finish 0 outcome, .drop 0 none none]

/-- The statement is there although `txLogic` returned false or threw and the callback got false;
and while `txLogic` is between two statements, the others see the first one alone. -/
theorem statement_outlives_failure :
    (∃ s, run step init (unwrapped (.returned false)) = some s ∧
      s.calls = [⟨0, [5], false, some false⟩] ∧ s.visible 0 = [5]) ∧
    (∃ s, run step init (unwrapped .threw) = some s ∧
      s.calls = [⟨0, [5], false, some false⟩] ∧ s.visible 0 = [5]) ∧
    ∃ s s', run step init [.asyncRun (some 0), .execute 0 5 none] = some s ∧
      step s (.execute 0 6 none) = some s' ∧ s.visible 0 = [5] ∧ s'.visible 0 = [5, 6] :=
  ⟨⟨_, rfl, rfl, rfl⟩, ⟨_, rfl, rfl, rfl⟩, _, _, rfl, rfl, rfl, rfl⟩

end DbSystem

end ToyServer
