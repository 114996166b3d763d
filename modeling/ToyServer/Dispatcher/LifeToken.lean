import ToyServer.Dispatcher.Lifecycle
import ToyServer.Lib.RefCount

/-!
# One token per session object

A session object is in one stage of its life at a time: in the pool, in the hands of
`CreateSession`, connected, being disconnected by a thread, in a disconnect message, or in
`_pendingDestroy`.  `life` counts these places; it is one for every object in every state of every
run (`life_step`).  The exchange on `_connected` is what hands the token over, so only one
disconnect is posted per connection.

With it, what the ids in the messages and logs say is true (`Ids`): `Destroy` is called once per
connection, after its disconnect handler returned.
-/

namespace ToyServer

open Runs ProducerQueue RefCount

/-! ## Places -/

def SessionMessage.token (x : SessionPtr) : SessionMessage → Nat
  | .disconnect _ y => single x y
  | _ => 0

def onSession (x : SessionPtr) (f : SessionCall → Nat) (c : SessionCall) : Nat :=
  if c.session = x then f c else 0

def Server.life (s : Server) (x : SessionPtr) : Nat :=
  tally (onSession x SessionCall.token) s.calls + (s.objects x).connected.toNat +
    tally (fun p => p.2.token x) s.queue +
    tally (SessionMessage.token x) s.dispatcher.todo + tally (single x) s.pendingDestroy +
      tally (single x) s.pool

/-- Every object made is in one place, and no other is anywhere. -/
def Server.OneLife (s : Server) : Prop := ∀ x, s.life x = if x < s.allocated then 1 else 0

/-! ## Counting -/

theorem tally_dequeue {π α : Type} [DecidableEq π] (f : π × α → Nat) {p : π} {a : α}
    {es es' : List (π × α)} (h : dequeue p es = some (a, es')) :
    tally f es = tally f es' + f (p, a) := by
  obtain ⟨l₁, l₂, rfl, rfl, -⟩ := dequeue_eq_some h
  rw [tally_append, tally_append, tally_cons]
  omega

variable (f : SessionCall → Nat) (x : SessionPtr) {i : Nat} {c : SessionCall} {e : CallEffect}
  {o : SessionObject} {pc : Option CallPc} {y : SessionPtr}

theorem tally_swapPop {α : Type} (f : α → Nat) {l : List α} {y : α} (h : l[i]? = some y) :
    tally f (swapPop l i) + f y = tally f l := by
  rcases l.eq_nil_or_concat' with rfl | ⟨l', z, rfl⟩
  · cases h
  · have hswap : swapPop (l' ++ [z]) i = ((l' ++ [z]).set i z).dropLast := by simp [swapPop]
    rw [hswap, tally_append, tally_cons, tally_nil]
    rcases Nat.lt_or_ge i l'.length with hlt | hge
    · rw [List.getElem?_append_left hlt] at h
      rw [List.set_append_left _ _ hlt, List.dropLast_concat]
      have := tally_set f h z
      omega
    · -- the element is the last one itself
      rw [List.getElem?_append_right hge, List.getElem?_singleton, Option.ite_none_right_eq_some,
        Option.some.injEq] at h
      obtain ⟨hi, rfl⟩ := h
      rw [List.set_append_right _ _ hge, hi, List.set_cons_zero, List.dropLast_concat]
      omega

theorem token_isLink (l : List SessionMessage) :
    tally (SessionMessage.token x) (l.filter SessionMessage.isLink) =
      tally (SessionMessage.token x) l := by
  refine tally_filter _ (fun m hm => ?_) l
  cases m with
  | disconnect id y => cases hm
  | _ => rfl

theorem tally_callsNext {calls : List SessionCall} (hc : calls[i]? = some c) (pc : Option CallPc) :
    tally f (callsNext calls i c pc) + f c = tally f calls + c.after f pc := by
  cases pc with
  | none => exact tally_eraseIdx f hc
  | some pc => exact tally_set f hc _

theorem after_onSession (f : SessionCall → Nat) (c : SessionCall) (pc : Option CallPc) :
    c.after (onSession x f) pc = if c.session = x then c.after f pc else 0 := by
  cases pc with
  | none => simp [SessionCall.after]
  | some pc => rfl

theorem tally_new_call (f : SessionCall → Nat) (calls : List SessionCall) (h : f c = 0) :
    tally (onSession x f) (calls ++ [c]) = tally (onSession x f) calls := by
  rw [tally_append, tally_cons, tally_nil, onSession, h, ite_self, Nat.add_zero]

theorem tally_posted {f : SessionMessage → Nat} {k : CallEffect → Nat}
    {o' : SessionObject} (hlaws : CallLaws c o o' e pc) (hnone : k .none = 0)
    (hstart : ∀ op, k (.start op) = 0)
    (hpost : ∀ m, f m = if m.session = some x then k (.post m) else 0) :
    tally (fun p => f p.2) (e.posted c.thread) = if c.session = x then k e else 0 := by
  cases e with
  | none => rw [hnone, ite_self]; rfl
  | start op => rw [hstart, ite_self]; rfl
  | post m =>
    have hname := hlaws.names m rfl
    simp only [CallEffect.posted, tally_cons, tally_nil, Nat.add_zero, hpost m, hname,
      Option.some.injEq]

/-! ## The token -/

section Life

variable {role : ServerRole} {heartbeat : Bool} {s s' : Server} {a : ServerAction}

theorem life_ran {b : Branch} (h : s.OneLife) (hc : s.calls[i]? = some c)
    (hstep : c.step (s.objects c.session) b = some (o, e, pc)) (x : SessionPtr) :
    (s.ran i c o e pc).life x = s.life x := by
  have hlaws := call_step_laws hstep
  have hcalls := tally_callsNext (onSession x SessionCall.token) hc pc
  have hqueue : tally (fun p => p.2.token x) (e.posted c.thread) = if c.session = x then
      e.token else 0 := by
    refine tally_posted x hlaws rfl (fun _ => rfl) fun m => ?_
    cases m <;> simp [SessionMessage.token, SessionMessage.session, CallEffect.token, single]
  simp only [Server.life, Server.ran, tally_append, hqueue]
  rw [after_onSession] at hcalls
  by_cases hx : c.session = x
  · subst hx
    have hle := le_tally (onSession c.session SessionCall.token) hc
    have hone := h c.session
    have htoken := hlaws.token
    simp only [onSession, if_true, Server.life, Function.update_self] at hcalls hle hone htoken ⊢
    have := htoken (by split at hone <;> omega)
    omega
  · simp only [onSession, hx, if_false, Function.update_of_ne (Ne.symm hx)] at hcalls ⊢
    omega

theorem begin_token (t : ThreadId) (x : SessionPtr) (op : AsyncOp) (failed : Bool) :
    (⟨t, x, .handler op, op.begin failed⟩ : SessionCall).token = 0 := by
  cases op <;> cases failed <;> rfl

theorem not_connected_of_pending (h : s.OneLife) {x : SessionPtr}
    (hx : 0 < tally (single x) s.pendingDestroy + tally (single x) s.pool) :
    (s.objects x).connected = false := by
  have hone := h x
  cases hconn : (s.objects x).connected with
  | false => rfl
  | true =>
    simp only [Server.life, hconn, Bool.toNat_true] at hone
    split at hone <;> omega

theorem onRecycle_of_not_connected (role : ServerRole) (h : o.connected = false) (x : SessionPtr) :
    (o.onRecycle role x).2 = [] ∧ (o.onRecycle role x).1.connected = false ∧
    (o.onRecycle role x).1.id = o.id := by
  cases role <;> simp [SessionObject.onRecycle, h]

theorem single_self : single x x = 1 := if_pos rfl

theorem life_accept {t : ThreadId} {k : Nat} (h : s.OneLife) (hpool : s.pool[k]? = some y)
    (x : SessionPtr) : (s.accept heartbeat t k y).life x = s.life x := by
  have herase := tally_eraseIdx (single x) hpool
  have htoken :
      (⟨t, y, .accept, if heartbeat then .heartbeatInc else .connect⟩ : SessionCall).token = 1 := by
    cases heartbeat <;> rfl
  simp only [Server.life, Server.accept, Server.setObject, Server.addCall, tally_append, tally_cons,
    tally_nil, onSession, htoken]
  by_cases heq : y = x
  · subst heq
    rw [single_self] at herase
    have hconn := not_connected_of_pending h (x := y) (by omega)
    simp only [Function.update_self, if_true, hconn, Bool.toNat_false]
    omega
  · simp only [Function.update_of_ne (Ne.symm heq), heq, if_false, single] at herase ⊢
    omega

variable (msg : SessionMessage) (msgs : List SessionMessage)

theorem released_object (x : SessionPtr) :
    (s.released msg msgs).objects x = s.objects x ∨ (s.released msg msgs).objects x =
      (s.objects x).decRef := by
  cases hm : msg.session with
  | none => simp [Server.released, hm]
  | some y =>
    simp only [Server.released, hm, Option.elim_some, Function.update_apply]
    split
    · next heq => exact .inr (by rw [heq])
    · exact .inl rfl

theorem released_id (x : SessionPtr) : ((s.released msg msgs).objects x).id = (s.objects x).id := by
  rcases released_object msg msgs x with h | h <;> rw [h]
  rfl

theorem life_released (hd : s.dispatcher = .release msg msgs)
    (x : SessionPtr) : (s.released msg msgs).life x = s.life x := by
  have hconn : ((s.released msg msgs).objects x).connected = (s.objects x).connected := by
    rcases released_object msg msgs x with h | h <;> rw [h]
    rfl
  simp only [Server.life, hconn]
  simp only [hd, DispatcherPc.todo, Server.released]

/-- `OnRecycle` finds the session closed: it posts nothing and leaves the id. -/
theorem destroy_spec (role : ServerRole) (h : s.OneLife) (hp : s.pendingDestroy[i]? = some y) :
    (s.destroy role i y).queue = s.queue ∧ ∀ x, ((s.destroy role i y).objects x).id =
      (s.objects x).id ∧ ((s.destroy role i y).objects x).connected = (s.objects x).connected := by
  have hpend := le_tally (single y) hp
  rw [single_self] at hpend
  have hconn := not_connected_of_pending h (x := y) (by omega)
  obtain ⟨hnil, hconn', hid⟩ := onRecycle_of_not_connected role hconn y
  refine ⟨?_, fun x => ?_⟩
  · simp only [Server.destroy, Server.goto, Server.setObject, hnil, List.map_nil, List.append_nil]
  · simp only [Server.destroy, Server.goto, Server.setObject, Function.update_apply]
    split
    · next heq => rw [heq, hconn, hconn', hid]; exact ⟨rfl, rfl⟩
    · exact ⟨rfl, rfl⟩

theorem life_destroy (h : s.OneLife) (hd : s.dispatcher = .destroy i)
    (hp : s.pendingDestroy[i]? = some y) (x : SessionPtr) :
    (s.destroy role i y).life x = s.life x := by
  have hswap := tally_swapPop (single x) hp
  obtain ⟨hqueue, hobj⟩ := destroy_spec role h hp
  simp only [Server.life, hqueue, (hobj x).2]
  simp only [Server.destroy, Server.goto, Server.setObject, hd, DispatcherPc.todo, tally_append,
    tally_cons, tally_nil]
  omega

theorem todo_app (contexts contexts' : List SessionPtr) (msgs : List SessionMessage) :
    (DispatcherPc.app msg contexts msgs).todo = (DispatcherPc.app msg contexts' msgs).todo := by
  cases msg <;> rfl

/-- **Every step hands the life of a session on or ends it.** -/
theorem life_step (h : s.OneLife) (hs : ServerStepped role heartbeat s a s') : s'.OneLife := by
  intro x
  have hx := h x
  cases hs with
  | grow =>
    simp only [Server.life, tally_append, tally_cons, tally_nil, single] at hx ⊢
    by_cases heq : s.allocated = x
    · rw [if_neg (Nat.not_lt.mpr heq.le)] at hx
      rw [if_pos heq, if_pos (heq ▸ Nat.lt_succ_self _)]
      omega
    · have hlt : x < s.allocated + 1 ↔ x < s.allocated :=
        ⟨fun hle => Nat.lt_of_le_of_ne (Nat.le_of_lt_succ hle) (Ne.symm heq), Nat.lt_succ_of_lt⟩
      rw [if_neg heq]
      simp only [hlt]
      exact hx
  | accept ht hpool => exact (life_accept h hpool x).trans hx
  | complete ht hop =>
    refine Eq.trans ?_ hx
    simp only [Server.life, Server.complete, Server.addCall,
      tally_new_call _ _ _ (begin_token _ _ _ _)]
  | run hc hstep => exact (life_ran h hc hstep x).trans hx
  | push t =>
    refine Eq.trans ?_ hx
    simp only [Server.life, tally_append, tally_cons, tally_nil, SessionMessage.token, Nat.add_zero]
  | take hd hq =>
    refine Eq.trans ?_ hx
    have hdeq := tally_dequeue (fun p : ThreadId × SessionMessage => p.2.token x) hq
    simp only [Server.life, Server.goto, hd, DispatcherPc.todo, token_isLink, tally_append,
      tally_cons, tally_nil] at hdeq ⊢
    omega
  | move hmove =>
    refine Eq.trans ?_ hx
    simp only [Server.life, Server.goto, hmove.todo]
  | connect hd =>
    refine Eq.trans ?_ hx
    simp only [Server.life, Server.connected, Server.goto, hd, DispatcherPc.todo,
      token_isLink, tally_cons, SessionMessage.token, Nat.zero_add]
  | disconnecting hd =>
    refine Eq.trans ?_ hx
    simp only [Server.life, Server.disconnecting, Server.goto, hd, DispatcherPc.todo,
      token_isLink, tally_cons]
  | disconnected hd =>
    refine Eq.trans ?_ hx
    simp only [Server.life, Server.disconnected, Server.goto, hd, DispatcherPc.todo, tally_append,
      tally_cons, tally_nil, SessionMessage.token]
    omega
  | release hd => exact (life_released _ _ hd x).trans hx
  | pass hd hp hcan hfree =>
    refine Eq.trans ?_ hx
    simp only [Server.life, Server.goto, hd, DispatcherPc.todo]
  | destroy hd hp => exact (life_destroy h hd hp x).trans hx
  | @withSession id y msg contexts msgs hd hmap hconn =>
    refine Eq.trans ?_ hx
    simp only [Server.life, Server.goto, hd, todo_app msg (contexts ++ [y]) contexts]
  | @call a y pc hmem hpc =>
    refine Eq.trans ?_ hx
    have htoken : (⟨dispatcherThread, y, .app, pc⟩ : SessionCall).token = 0 := by
      rcases hpc with rfl | rfl <;> rfl
    simp only [Server.life, Server.addCall, tally_new_call _ _ _ htoken]

theorem oneLife_init : Server.init.OneLife := fun _ => rfl

end Life

/-! ## Identities -/

/-- The object belongs to a connection. -/
def Server.Live (s : Server) (x : SessionPtr) : Prop := x < s.allocated ∧ x ∉ s.pool

/-- A connect or disconnect that is not handled yet. -/
def Server.HasLink (s : Server) (m : SessionMessage) : Prop :=
  (∃ p, (p, m) ∈ s.queue) ∨ m ∈ s.dispatcher.todo

/-- Ids belong to connections: no two live objects share one, disconnects carry the id of their
object, and `Destroy` is called once per id, after its handler returned. -/
structure Server.Ids (s : Server) : Prop where
  fresh : ∀ x, (s.objects x).id < s.nextId
  live : ∀ x y, s.Live x → s.Live y → (s.objects x).id = (s.objects y).id → x = y
  posts : ∀ c ∈ s.calls, ∀ id, c.pc = .disconnectPost id → id = (s.objects c.session).id
  links : ∀ id x, s.HasLink (.disconnect id x) → id = (s.objects x).id
  pending : ∀ x ∈ s.pendingDestroy, (s.objects x).id ∈ s.handled
  undestroyed : ∀ x, s.Live x → (s.objects x).id ∉ s.destroyed
  bound : ∀ id ∈ s.destroyed, id < s.nextId
  once : s.destroyed.Nodup
  handled : ∀ id ∈ s.destroyed, id ∈ s.handled

section Places

variable {s : Server}

theorem single_pos_of_mem {x : SessionPtr} {l : List SessionPtr} (h : x ∈ l) :
    1 ≤ tally (single x) l :=
  one_le_tally _ h (single_self x)

theorem life_le_one (h : s.OneLife) (x : SessionPtr) : s.life x ≤ 1 := by
  rw [h x]
  split <;> omega

theorem live_of_pending (h : s.OneLife) {x : SessionPtr}
    (hx : x ∈ s.pendingDestroy) : s.Live x := by
  have hone := h x
  have hpend := single_pos_of_mem hx
  refine ⟨?_, fun hpool => ?_⟩
  · by_contra hlt
    rw [if_neg hlt] at hone
    simp only [Server.life] at hone
    omega
  · have hin := single_pos_of_mem hpool
    have hle := life_le_one h x
    simp only [Server.life] at hle
    omega

theorem live_grow {x : SessionPtr} :
    Server.Live { s with pool := s.pool ++ [s.allocated], allocated := s.allocated + 1 } x ↔
    s.Live x := by
  simp only [Server.Live, List.mem_append, List.mem_singleton, not_or]
  constructor
  · rintro ⟨hlt, hnot, hne⟩
    exact ⟨Nat.lt_of_le_of_ne (Nat.le_of_lt_succ hlt) hne, hnot⟩
  · rintro ⟨hlt, hnot⟩
    exact ⟨Nat.lt_succ_of_lt hlt, hnot, hlt.ne⟩

/-- What is in the pool is nowhere else. -/
structure Server.Parked (s : Server) (x : SessionPtr) : Prop where
  pending : x ∉ s.pendingDestroy
  links : ∀ id, ¬ s.HasLink (.disconnect id x)
  posts : ∀ c ∈ s.calls, c.session = x → ∀ id, c.pc ≠ .disconnectPost id

theorem parked_of_pool (h : s.OneLife) {x : SessionPtr} (hx : x ∈ s.pool) : s.Parked x := by
  have hle := life_le_one h x
  have hin := single_pos_of_mem hx
  simp only [Server.life] at hle
  refine ⟨fun hpend => ?_, fun id hlink => ?_, fun c hc hsession id hpc => ?_⟩
  · have := single_pos_of_mem hpend
    omega
  · have htoken : SessionMessage.token x (.disconnect id x) = 1 := single_self x
    rcases hlink with ⟨p, hp⟩ | hp
    · have hpos := one_le_tally (fun p : ThreadId × SessionMessage => p.2.token x) hp htoken
      omega
    · have hpos := one_le_tally _ hp htoken
      omega
  · have hpos :=
      one_le_tally (onSession x SessionCall.token) hc
        (by simp [onSession, hsession, SessionCall.token, hpc])
    omega

end Places

section Ids

variable {role : ServerRole} {heartbeat : Bool} {s s' : Server} {a : ServerAction}

theorem mem_callsNext {calls : List SessionCall} {c' : SessionCall}
    (h : c' ∈ callsNext calls i c pc) : c' ∈ calls ∨ ∃ p, pc = some p ∧
    c' = { c with pc := p } := by
  cases pc with
  | none => exact .inl (List.mem_of_mem_eraseIdx h)
  | some p => exact (List.mem_or_eq_of_mem_set h).imp id fun heq => ⟨p, rfl, heq⟩

/-- What a step that neither creates, disconnects nor destroys keeps. -/
structure IdsKept (s s' : Server) : Prop where
  ids : ∀ x, (s'.objects x).id = (s.objects x).id
  nextId : s'.nextId = s.nextId
  live : ∀ x, s'.Live x → s.Live x
  posts : ∀ c ∈ s'.calls, ∀ id, c.pc = .disconnectPost id → c ∈ s.calls ∨
    id = (s.objects c.session).id
  links : ∀ id x, s'.HasLink (.disconnect id x) →
    s.HasLink (.disconnect id x) ∨ ∃ c ∈ s.calls, c.session = x ∧ c.pc = .disconnectPost id
  pending : s'.pendingDestroy = s.pendingDestroy
  handled : s'.handled = s.handled
  destroyed : s'.destroyed = s.destroyed

theorem ids_of_kept (h : s.Ids) (hk : IdsKept s s') : s'.Ids where
  fresh x := by rw [hk.ids, hk.nextId]; exact h.fresh x
  live x y hx hy := by rw [hk.ids, hk.ids]; exact h.live x y (hk.live x hx) (hk.live y hy)
  posts c hc id hpc := by
    rw [hk.ids]
    rcases hk.posts c hc id hpc with hmem | heq
    · exact h.posts c hmem id hpc
    · exact heq
  links id x hlink := by
    rw [hk.ids]
    rcases hk.links id x hlink with hold | ⟨c, hc, rfl, hpc⟩
    · exact h.links id x hold
    · exact h.posts c hc id hpc
  pending x hx := by
    rw [hk.ids, hk.handled]
    exact h.pending x (hk.pending ▸ hx)
  undestroyed x hx := by rw [hk.ids, hk.destroyed]; exact h.undestroyed x (hk.live x hx)
  bound := by rw [hk.destroyed, hk.nextId]; exact h.bound
  once := by rw [hk.destroyed]; exact h.once
  handled := by rw [hk.destroyed, hk.handled]; exact h.handled

theorem IdsKept.of_eq (hids : ∀ x, (s'.objects x).id = (s.objects x).id)
    (hnext : s'.nextId = s.nextId) (hlive : ∀ x, s'.Live x → s.Live x) (hcalls : s'.calls = s.calls)
    (hlinks : ∀ m, s'.HasLink m → s.HasLink m ∨ ∀ id x, m ≠ .disconnect id x)
    (hpending : s'.pendingDestroy = s.pendingDestroy) (hhandled : s'.handled = s.handled)
    (hdestroyed : s'.destroyed = s.destroyed) : IdsKept s s' :=
  ⟨hids, hnext, hlive, fun _ hc _ _ => .inl (hcalls ▸ hc),
    fun id x hl => .inl ((hlinks _ hl).resolve_right fun hne => hne id x rfl), hpending,
    hhandled, hdestroyed⟩

/-! ### Links after a step -/

variable {m : SessionMessage}

theorem hasLink_of_todo {d : DispatcherPc} (htodo : ∀ m ∈ d.todo, m ∈ s.dispatcher.todo)
    (h : (s.goto d).HasLink m) : s.HasLink m := h.imp_right (htodo m)

theorem hasLink_push {t : ThreadId}
    (h : Server.HasLink { s with queue := s.queue ++ [(t, .job)] } m) : s.HasLink m ∨ m = .job := by
  rcases h with ⟨p, hp⟩ | hm
  · rcases mem_concat.mp hp with hp | hp
    · exact .inl (.inl ⟨p, hp⟩)
    · exact .inr (Prod.mk.inj hp).2
  · exact .inl (.inr hm)

theorem hasLink_take {p : ThreadId} {msgs : List SessionMessage} {m' : SessionMessage}
    {queue : List (ThreadId × SessionMessage)} (hd : s.dispatcher = .fetch msgs)
    (hq : dequeue p s.queue = some (m, queue))
    (h : ({ s with queue := queue }.goto (.fetch (msgs ++ [m]))).HasLink m') : s.HasLink m' := by
  obtain ⟨hhead, hrest⟩ := dequeue_mem hq
  rcases h with ⟨p', hp'⟩ | hm'
  · exact .inl ⟨p', hrest _ hp'⟩
  · simp only [Server.goto, DispatcherPc.todo, List.filter_append, List.mem_append] at hm'
    rcases hm' with hm' | hm'
    · exact .inr (by rw [hd]; exact hm')
    · rw [List.mem_singleton.mp (List.mem_of_mem_filter hm')]
      exact .inl ⟨p, hhead⟩

theorem hasLink_ran (h : (s.ran i c o e pc).HasLink m) : s.HasLink m ∨ e = .post m := by
  rcases h with ⟨p, hp⟩ | hm
  · rcases List.mem_append.mp hp with hp | hp
    · exact .inl (.inl ⟨p, hp⟩)
    · cases e with
      | none => cases hp
      | start op => cases hp
      | post m' =>
        obtain ⟨-, rfl⟩ := Prod.mk.inj (List.mem_singleton.mp hp)
        exact .inr rfl
  · exact .inl (.inr hm)

theorem hasLink_destroy (hl : s.OneLife) (hp : s.pendingDestroy[i]? = some y)
    (h : (s.destroy role i y).HasLink m) : s.HasLink m := by
  rcases h with hq | hm
  · rw [(destroy_spec role hl hp).1] at hq
    exact .inl hq
  · exact absurd hm List.not_mem_nil

theorem ran_id (hlaws : CallLaws c (s.objects c.session) o e pc) (x : SessionPtr) :
    ((s.ran i c o e pc).objects x).id = (s.objects x).id := by
  simp only [Server.ran, Function.update_apply]
  split
  · next heq => rw [heq]; exact hlaws.id
  · rfl

/-! ### Every step keeps `Ids` -/

theorem idsKept_ran {b : Branch} (hc : s.calls[i]? = some c)
    (hstep : c.step (s.objects c.session) b = some (o, e, pc)) : IdsKept s (s.ran i c o e pc) := by
  have hlaws := call_step_laws hstep
  have hmem := List.mem_of_getElem? hc
  refine ⟨ran_id hlaws, rfl, fun x hx => hx, fun c' hc' id hpc => ?_, fun id x hl => ?_,
    rfl, rfl, rfl⟩
  · rcases mem_callsNext hc' with hold | ⟨p, rfl, rfl⟩
    · exact .inl hold
    · exact .inr (hlaws.reads id (.inl (congrArg some hpc)))
  · refine (hasLink_ran hl).imp_right fun hpost => ?_
    have hname := hlaws.names _ hpost
    rw [SessionMessage.session, Option.some.injEq] at hname
    exact ⟨c, hmem, hname.symm, (hlaws.posts id x).1 hpost⟩

theorem live_accept {t : ThreadId} {k : Nat} (hl : s.OneLife) (hpool : s.pool[k]? = some y) :
    (s.accept heartbeat t k y).Live y := by
  have hone := hl y
  have herase := tally_eraseIdx (single y) hpool
  rw [single_self] at herase
  refine ⟨?_, fun hmem => ?_⟩
  · show y < s.allocated
    by_contra hlt
    rw [if_neg hlt] at hone
    simp only [Server.life] at hone
    omega
  · have hin : 1 ≤ tally (single y) (s.pool.eraseIdx k) := single_pos_of_mem hmem
    have hle := life_le_one hl y
    simp only [Server.life] at hle
    omega

theorem ids_accept {t : ThreadId} {k : Nat} (h : s.Ids) (hl : s.OneLife)
    (hpool : s.pool[k]? = some y) : (s.accept heartbeat t k y).Ids := by
  have hparked := parked_of_pool hl (List.mem_of_getElem? hpool)
  have hobj : ∀ x, x ≠ y → (s.accept heartbeat t k y).objects x = s.objects x :=
    fun x hne => Function.update_of_ne hne _ _
  have hnew : ((s.accept heartbeat t k y).objects y).id = s.nextId := by
    show (Function.update s.objects y _ y).id = _
    rw [Function.update_self]
  have hlive : ∀ x, x ≠ y → (s.accept heartbeat t k y).Live x → s.Live x := by
    rintro x hne ⟨hlt, hnot⟩
    refine ⟨hlt, fun hmem => hnot ?_⟩
    obtain ⟨j, hj⟩ := List.mem_iff_getElem?.mp hmem
    have hjk : j ≠ k := by
      rintro rfl
      rw [hpool, Option.some.injEq] at hj
      exact hne hj.symm
    exact List.mem_eraseIdx_iff_getElem?.mpr ⟨j, hjk, hj⟩
  refine
    { fresh := fun x => ?_
      live := fun x z hx hz heq => ?_
      posts := fun c hc id hpc => ?_
      links := fun id x hlink => ?_
      pending := fun x hx => ?_
      undestroyed := fun x hx => ?_
      bound := fun id hid => Nat.lt_succ_of_lt (h.bound id hid)
      once := h.once
      handled := h.handled }
  · by_cases hxy : x = y
    · rw [hxy, hnew]; exact Nat.lt_succ_self _
    · rw [hobj x hxy]; exact Nat.lt_succ_of_lt (h.fresh x)
  · by_cases hxy : x = y <;> by_cases hzy : z = y
    · rw [hxy, hzy]
    · rw [hxy, hnew, hobj z hzy] at heq
      exact absurd heq (h.fresh z).ne'
    · rw [hzy, hnew, hobj x hxy] at heq
      exact absurd heq (h.fresh x).ne
    · rw [hobj x hxy, hobj z hzy] at heq
      exact h.live x z (hlive x hxy hx) (hlive z hzy hz) heq
  · rcases mem_concat.mp hc with hc | rfl
    · rw [hobj _ fun heq => hparked.posts c hc heq id hpc]
      exact h.posts c hc id hpc
    · cases heartbeat <;> cases hpc
  · have hold : s.HasLink (.disconnect id x) := hlink
    rw [hobj x fun heq => hparked.links id (heq ▸ hold)]
    exact h.links id x hold
  · rw [hobj x fun heq => hparked.pending (heq ▸ hx)]
    exact h.pending x hx
  · by_cases hxy : x = y
    · rw [hxy, hnew]
      exact fun hmem => Nat.lt_irrefl _ (h.bound _ hmem)
    · rw [hobj x hxy]
      exact h.undestroyed x (hlive x hxy hx)

theorem ids_disconnected {id : SessionId} {x : SessionPtr} {contexts : List SessionPtr}
    {msgs : List SessionMessage} (h : s.Ids)
    (hd : s.dispatcher = .app (.disconnect id x) contexts msgs) :
    (s.disconnected id x msgs).Ids := by
  have hid : id = (s.objects x).id := h.links id x (.inr (by rw [hd]; exact List.mem_cons_self))
  exact
    { fresh := h.fresh
      live := h.live
      posts := h.posts
      links :=
        fun id' y hlink =>
          h.links id' y (hlink.imp_right fun hm => by rw [hd]; exact List.mem_cons_of_mem _ hm)
      pending := fun y hy => by
        rcases mem_concat.mp hy with hy | rfl
        · exact List.mem_append_left _ (h.pending y hy)
        · exact List.mem_append_right _ (hid ▸ List.mem_singleton_self _)
      undestroyed := h.undestroyed
      bound := h.bound
      once := h.once
      handled := fun id' hid' => List.mem_append_left _ (h.handled id' hid') }

theorem mem_of_mem_swapPop {α : Type} {l : List α} {y : α} (h : y ∈ swapPop l i) : y ∈ l := by
  unfold swapPop at h
  split at h
  · exact h
  · next last hlast =>
    rcases List.mem_or_eq_of_mem_set (List.mem_of_mem_dropLast h) with hmem | rfl
    · exact hmem
    · exact List.mem_of_getLast? hlast

theorem ids_destroy (h : s.Ids) (hl : s.OneLife) (hp : s.pendingDestroy[i]? = some y) :
    (s.destroy role i y).Ids := by
  have hmem := List.mem_of_getElem? hp
  have hlive := live_of_pending hl hmem
  have hids := fun x => ((destroy_spec role hl hp).2 x).1
  have hstill : ∀ x, (s.destroy role i y).Live x → s.Live x ∧ x ≠ y := by
    rintro x ⟨hlt, hnot⟩
    refine ⟨⟨hlt, fun hx => hnot (List.mem_append_left _ hx)⟩, ?_⟩
    rintro rfl
    exact hnot (List.mem_append_right _ (List.mem_singleton_self _))
  refine
    { fresh := fun x => by rw [hids]; exact h.fresh x
      live := fun x z hx hz heq => ?_
      posts := fun c hc id hpc => by rw [hids]; exact h.posts c hc id hpc
      links := fun id x hlink => by rw [hids]; exact h.links id x (hasLink_destroy hl hp hlink)
      pending := fun x hx => by rw [hids]; exact h.pending x (mem_of_mem_swapPop hx)
      undestroyed := fun x hx hdone => ?_
      bound := fun id hdone => ?_
      once := List.nodup_append.mpr ⟨h.once, List.nodup_singleton _, fun id hdone z hz heq => ?_⟩
      handled := fun id hdone => ?_ }
  · rw [hids, hids] at heq
    exact h.live x z (hstill x hx).1 (hstill z hz).1 heq
  · rw [hids] at hdone
    obtain ⟨hlivex, hne⟩ := hstill x hx
    rcases mem_concat.mp hdone with hdone | hdone
    · exact h.undestroyed x hlivex hdone
    · exact hne (h.live x y hlivex hlive hdone)
  · exact forall_mem_concat h.bound (h.fresh y) id hdone
  · rw [List.mem_singleton.mp hz] at heq
    exact h.undestroyed y hlive (heq ▸ hdone)
  · exact forall_mem_concat h.handled (h.pending y hmem) id hdone

theorem ids_step (h : s.Ids) (hl : s.OneLife) (hs : ServerStepped role heartbeat s a s') :
    s'.Ids := by
  cases hs with
  | grow =>
    exact ids_of_kept h
      (.of_eq (fun _ => rfl) rfl (fun _ => live_grow.mp) rfl (fun _ hm => .inl hm) rfl rfl rfl)
  | accept ht hpool => exact ids_accept h hl hpool
  | @complete t k failed op ht hop =>
    refine ids_of_kept h ⟨fun _ => rfl, rfl, fun _ hx => hx, fun c hc id hpc => ?_,
      fun _ _ hl => .inl hl, rfl, rfl, rfl⟩
    rcases mem_concat.mp hc with hc | rfl
    · exact .inl hc
    · obtain ⟨x, op⟩ := op
      cases op <;> cases failed <;> cases hpc
  | run hc hstep => exact ids_of_kept h (idsKept_ran hc hstep)
  | push t =>
    refine ids_of_kept h
      (.of_eq (fun _ => rfl) rfl (fun _ hx => hx) rfl (fun m hm => ?_) rfl rfl rfl)
    refine (hasLink_push hm).imp_right fun hjob id x => ?_
    rw [hjob]
    exact SessionMessage.noConfusion
  | take hd hq =>
    exact ids_of_kept h
      (.of_eq (fun _ => rfl) rfl (fun _ hx => hx) rfl
        (fun _ hm => .inl (hasLink_take hd hq hm)) rfl rfl rfl)
  | move hmove =>
    exact ids_of_kept h (.of_eq (fun _ => rfl) rfl (fun _ hx => hx) rfl
      (fun _ hm => .inl (hasLink_of_todo (fun _ hm => hmove.todo ▸ hm) hm)) rfl rfl rfl)
  | connect hd =>
    refine ids_of_kept h
      (.of_eq (fun _ => rfl) rfl (fun _ hx => hx) rfl
        (fun m hm => .inl (hm.imp_right fun hm => ?_)) rfl rfl rfl)
    rw [hd]
    exact List.mem_cons_of_mem _ hm
  | disconnecting hd =>
    refine ids_of_kept h
      (.of_eq (fun _ => rfl) rfl (fun _ hx => hx) rfl
        (fun m hm => .inl (hm.imp_right fun hm => ?_)) rfl rfl rfl)
    rw [hd]
    exact hm
  | disconnected hd => exact ids_disconnected h hd
  | @release msg msgs hd =>
    refine ids_of_kept h
      (.of_eq (fun x => ?_) rfl (fun _ hx => hx) rfl
        (fun m hm => .inl (hm.imp_right fun hm => ?_)) rfl rfl rfl)
    · exact released_id msg msgs x
    · rw [hd]
      exact hm
  | pass hd hp hcan hfree =>
    exact ids_of_kept h (.of_eq (fun _ => rfl) rfl (fun _ hx => hx) rfl
      (fun _ hm => .inl (hasLink_of_todo (fun _ hm => absurd hm List.not_mem_nil) hm)) rfl rfl rfl)
  | destroy hd hp => exact ids_destroy h hl hp
  | @withSession id y msg contexts msgs hd hmap hconn =>
    refine ids_of_kept h
      (.of_eq (fun _ => rfl) rfl (fun _ hx => hx) rfl
        (fun m hm => .inl (hm.imp_right fun hm => ?_)) rfl rfl rfl)
    rw [hd, todo_app msg contexts (contexts ++ [y])]
    exact hm
  | call hmem hpc =>
    refine ids_of_kept h ⟨fun _ => rfl, rfl, fun _ hx => hx, fun c hc id hc' => ?_,
      fun _ _ hl => .inl hl, rfl, rfl, rfl⟩
    rcases mem_concat.mp hc with hc | rfl
    · exact .inl hc
    · rcases hpc with rfl | rfl <;> cases hc'

theorem ids_init : Server.init.Ids where
  fresh _ := Nat.zero_lt_one
  live _ _ hx := absurd hx.1 (Nat.not_lt_zero _)
  posts _ hc := absurd hc List.not_mem_nil
  links _ _ hlink := by
    rcases hlink with ⟨p, hp⟩ | hp
    · cases hp
    · cases hp
  pending _ hx := absurd hx List.not_mem_nil
  undestroyed _ hx := absurd hx.1 (Nat.not_lt_zero _)
  bound _ hid := absurd hid List.not_mem_nil
  once := List.nodup_nil
  handled _ hid := absurd hid List.not_mem_nil

end Ids

end ToyServer
