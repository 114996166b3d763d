import ToyServer.Dispatcher.LifeToken

/-!
# `WithSession`

`_sessions` is filled by `NETWORK_CONNECT` and emptied by `NETWORK_DISCONNECT`.  The accepting
thread posts the one, whoever closes the session the other, and the queue keeps the order of one
producer only: when the disconnect is handled first, the connect puts an entry into the map that
nothing takes out again, and the object goes back to the pool and on to another connection
(`with_session_other_connection`).

As long as every disconnect is handled after its connect (`ConnectFirst`), an entry is for the
connection its object is on, and a callback runs on the session it was asked for
(`with_session_identity`).
-/

namespace ToyServer

open Runs ProducerQueue RefCount

def SessionMessage.connecting (x : SessionPtr) : SessionMessage → Nat
  | .connect _ y => single x y
  | _ => 0

namespace Server

/-- Connects of the object that are still to be posted or handled. -/
def unposted (s : Server) (x : SessionPtr) : Nat :=
  tally (onSession x SessionCall.unposted) s.calls + tally (fun p => p.2.connecting x) s.queue +
    tally (SessionMessage.connecting x) s.dispatcher.todo

/-- A disconnect is handled after its connect. -/
def ConnectFirst (s : Server) : ServerAction → Prop
  | .next => ∀ id x msgs, s.dispatcher = .loop (.disconnect id x :: msgs) → id ∈ s.connects
  | _ => True

/-- `_sessions` has entries of connections whose disconnect is not handled, and connects on the way
are of connections whose connect is not. -/
structure Mapped (s : Server) : Prop where
  closed : ∀ id ∈ s.disconnects, id ∈ s.connects
  handled : ∀ id ∈ s.handled, id ∈ s.disconnects
  handling : ∀ id x contexts msgs, s.dispatcher = .app (.disconnect id x) contexts msgs →
    id ∈ s.disconnects
  bound : ∀ id ∈ s.connects, id < s.nextId
  entry : ∀ id x, s.sessions id = some x → (s.objects x).id = id ∧ id ∉ s.disconnects ∧ s.Live x
  links : ∀ id x, s.HasLink (.connect id x) → (s.objects x).id = id ∧ id ∉ s.connects ∧ s.Live x
  calls : ∀ c ∈ s.calls, c.unposted ≠ 0 → (s.objects c.session).id ∉ s.connects ∧ s.Live c.session
  posts : ∀ c ∈ s.calls, ∀ id, c.pc = .connectPost id → id = (s.objects c.session).id
  one : ∀ x, s.unposted x ≤ 1
  callbacks : ∀ cb ∈ s.callbacks, cb.got = cb.asked ∧ cb.connected = true

end Server

section Mapped

variable {role : ServerRole} {heartbeat : Bool} {s s' : Server} {a : ServerAction}

/-- What a step keeps that handles no connect or disconnect and makes no connection. -/
structure MapKept (s s' : Server) : Prop where
  ids : ∀ x, (s'.objects x).id = (s.objects x).id
  nextId : s'.nextId = s.nextId
  live : ∀ x, s.Live x → s'.Live x
  sessions : s'.sessions = s.sessions
  connects : s'.connects = s.connects
  disconnects : s'.disconnects = s.disconnects
  handled : ∀ id ∈ s'.handled, id ∈ s.handled ∨ id ∈ s.disconnects
  handling : ∀ id x contexts msgs, s'.dispatcher = .app (.disconnect id x) contexts msgs →
    ∃ contexts, s.dispatcher = .app (.disconnect id x) contexts msgs
  links : ∀ id x, s'.HasLink (.connect id x) →
    s.HasLink (.connect id x) ∨ ∃ c ∈ s.calls, c.session = x ∧ c.pc = .connectPost id
  calls : ∀ c' ∈ s'.calls, c' ∈ s.calls ∨
    (c'.unposted ≠ 0 → ∃ c ∈ s.calls, c.session = c'.session ∧ c.unposted ≠ 0) ∧
    ∀ id, c'.pc = .connectPost id → id = (s.objects c'.session).id
  one : ∀ x, s'.unposted x = s.unposted x
  callbacks : s'.callbacks = s.callbacks

theorem mapped_of_kept (h : s.Mapped) (hk : MapKept s s') : s'.Mapped where
  closed := by rw [hk.disconnects, hk.connects]; exact h.closed
  handled id hid := by
    rw [hk.disconnects]
    exact (hk.handled id hid).elim (h.handled id) fun hid => hid
  handling id x contexts msgs hd := by
    rw [hk.disconnects]
    obtain ⟨contexts', hd'⟩ := hk.handling id x contexts msgs hd
    exact h.handling id x contexts' msgs hd'
  bound := by rw [hk.connects, hk.nextId]; exact h.bound
  entry id x hx := by
    rw [hk.sessions] at hx
    obtain ⟨hid, hnot, hlive⟩ := h.entry id x hx
    exact ⟨(hk.ids x).trans hid, hk.disconnects ▸ hnot, hk.live x hlive⟩
  links id x hlink := by
    rw [hk.ids, hk.connects]
    rcases hk.links id x hlink with hold | ⟨c, hc, rfl, hpc⟩
    · obtain ⟨hid, hnot, hlive⟩ := h.links id x hold
      exact ⟨hid, hnot, hk.live x hlive⟩
    · have hid := h.posts c hc id hpc
      obtain ⟨hnot, hlive⟩ := h.calls c hc (by simp [SessionCall.unposted, hpc])
      exact ⟨hid.symm, hid ▸ hnot, hk.live _ hlive⟩
  calls c' hc' hne := by
    rw [hk.ids, hk.connects]
    have hcall : ∃ c ∈ s.calls, c.session = c'.session ∧ c.unposted ≠ 0 := by
      rcases hk.calls c' hc' with hold | ⟨hnew, -⟩
      · exact ⟨c', hold, rfl, hne⟩
      · exact hnew hne
    obtain ⟨c, hc, heq, hne'⟩ := hcall
    obtain ⟨hnot, hlive⟩ := h.calls c hc hne'
    exact ⟨heq ▸ hnot, hk.live _ (heq ▸ hlive)⟩
  posts c' hc' id hpc := by
    rw [hk.ids]
    rcases hk.calls c' hc' with hold | ⟨-, hnew⟩
    · exact h.posts c' hold id hpc
    · exact hnew id hpc
  one x := by rw [hk.one]; exact h.one x
  callbacks := by rw [hk.callbacks]; exact h.callbacks

theorem MapKept.of_eq (hids : ∀ x, (s'.objects x).id = (s.objects x).id)
    (hnext : s'.nextId = s.nextId) (hlive : ∀ x, s.Live x → s'.Live x)
    (hsessions : s'.sessions = s.sessions) (hconnects : s'.connects = s.connects)
    (hdisconnects : s'.disconnects = s.disconnects)
    (hhandled : ∀ id ∈ s'.handled, id ∈ s.handled ∨ id ∈ s.disconnects)
    (hhandling : ∀ id x contexts msgs, s'.dispatcher = .app (.disconnect id x) contexts msgs →
      ∃ contexts, s.dispatcher = .app (.disconnect id x) contexts msgs)
        (hcalls : s'.calls = s.calls)
    (hqueue : s'.queue = s.queue) (htodo : ∀ m ∈ s'.dispatcher.todo, m ∈ s.dispatcher.todo)
    (hone : ∀ x, tally (SessionMessage.connecting x) s'.dispatcher.todo =
      tally (SessionMessage.connecting x) s.dispatcher.todo)
    (hcallbacks : s'.callbacks = s.callbacks) : MapKept s s' where
  ids := hids
  nextId := hnext
  live := hlive
  sessions := hsessions
  connects := hconnects
  disconnects := hdisconnects
  handled := hhandled
  handling := hhandling
  links id x hlink := .inl (hlink.imp (fun hq => hqueue ▸ hq) (htodo _))
  calls c hc := .inl (hcalls ▸ hc)
  one x := by simp only [Server.unposted, hcalls, hqueue, hone]
  callbacks := hcallbacks

theorem mapKept_addCall {ops : List (SessionPtr × AsyncOp)} {c : SessionCall}
    (hun : c.unposted = 0) : MapKept s (Server.addCall { s with ops } c) := by
  refine ⟨fun _ => rfl, rfl, fun _ hx => hx, rfl, rfl, rfl, fun _ hid => .inl hid,
    fun _ _ contexts _ hd => ⟨contexts, hd⟩, fun _ _ hlink => .inl hlink, ?_, fun x => ?_, rfl⟩
  · refine forall_mem_concat (fun _ => .inl) (.inr ⟨fun hne => absurd hun hne, fun id hpc => ?_⟩)
    simp [SessionCall.unposted, hpc] at hun
  · simp only [Server.unposted, Server.addCall, tally_new_call _ _ _ hun]

theorem mapKept_ran {i : Nat} {c : SessionCall} {o : SessionObject} {e : CallEffect}
    {pc : Option CallPc} {b : Branch} (hc : s.calls[i]? = some c)
    (hstep : c.step (s.objects c.session) b = some (o, e, pc)) : MapKept s (s.ran i c o e pc) := by
  have hlaws := call_step_laws hstep
  have hmem := List.mem_of_getElem? hc
  have hposted : ∀ x, tally (fun p => p.2.connecting x) (e.posted c.thread) = if c.session = x then
      e.connects else 0 := by
    intro x
    refine tally_posted x hlaws rfl (fun _ => rfl) fun m => ?_
    cases m <;>
      simp [SessionMessage.connecting, SessionMessage.session, CallEffect.connects, single]
  refine
    { ids := ran_id hlaws
      nextId := rfl
      live := fun x hx => hx
      sessions := rfl
      connects := rfl
      disconnects := rfl
      handled := fun id hid => .inl hid
      handling := fun id x contexts msgs hd => ⟨contexts, hd⟩
      links := fun id x hlink => ?_
      calls := fun c' hc' => ?_
      one := fun x => ?_
      callbacks := rfl }
  · refine (hasLink_ran hlink).imp_right fun hpost => ?_
    have hname := hlaws.names _ hpost
    rw [SessionMessage.session, Option.some.injEq] at hname
    exact ⟨c, hmem, hname.symm, (hlaws.posts id x).2 hpost⟩
  · rcases mem_callsNext hc' with hold | ⟨p, rfl, rfl⟩
    · exact .inl hold
    · refine .inr ⟨fun hne => ⟨c, hmem, rfl, ?_⟩,
        fun id hpc => hlaws.reads id (.inr (congrArg some hpc))⟩
      have hun := hlaws.unposted
      have hafter : c.after SessionCall.unposted (some p) = { c with pc := p }.unposted := rfl
      omega
  · have hcalls := tally_callsNext (onSession x SessionCall.unposted) hc pc
    have hun := hlaws.unposted
    simp only [Server.unposted, Server.ran, tally_append, hposted]
    rw [after_onSession] at hcalls
    by_cases hx : c.session = x
    · simp only [onSession, hx, if_true] at hcalls ⊢
      omega
    · simp only [onSession, hx, if_false] at hcalls ⊢
      omega

variable {x : SessionPtr}

theorem unposted_eq_zero (h : s.Mapped) (hx : ¬ s.Live x) : s.unposted x = 0 := by
  have hmessage : ∀ m : SessionMessage, s.HasLink m → m.connecting x = 0 := by
    intro m hm
    cases m with
    | connect id y =>
      refine if_neg ?_
      rintro rfl
      exact hx (h.links id y hm).2.2
    | _ => rfl
  have hcalls : tally (onSession x SessionCall.unposted) s.calls = 0 := by
    refine tally_eq_zero _ fun c hc => ?_
    rw [onSession]
    split
    · next heq =>
      by_contra hne
      exact hx (heq ▸ (h.calls c hc hne).2)
    · rfl
  have hqueue : tally (fun p : ThreadId × SessionMessage => p.2.connecting x) s.queue = 0 :=
    tally_eq_zero _ fun p hp => hmessage p.2 (.inl ⟨p.1, hp⟩)
  have htodo : tally (SessionMessage.connecting x) s.dispatcher.todo = 0 :=
    tally_eq_zero _ fun m hm => hmessage m (.inr hm)
  rw [Server.unposted, hcalls, hqueue, htodo]

theorem mapped_accept {t : ThreadId} {k : Nat} {y : SessionPtr} (h : s.Mapped) (hl : s.OneLife)
    (hpool : s.pool[k]? = some y) : (s.accept heartbeat t k y).Mapped := by
  have hnot : ¬ s.Live y := fun hlive => hlive.2 (List.mem_of_getElem? hpool)
  have hobj : ∀ x, s.Live x → (s.accept heartbeat t k y).objects x = s.objects x := by
    intro x hx
    refine Function.update_of_ne ?_ _ _
    rintro rfl
    exact hnot hx
  have hlive : ∀ x, s.Live x → (s.accept heartbeat t k y).Live x := fun x hx =>
    ⟨hx.1, fun hin => hx.2 (List.mem_of_mem_eraseIdx hin)⟩
  have hunposted :
      (⟨t, y, .accept, if heartbeat then .heartbeatInc
        else .connect⟩ : SessionCall).unposted = 1 := by
    cases heartbeat <;> rfl
  refine
    { closed := h.closed
      handled := h.handled
      handling := h.handling
      bound := fun id hid => Nat.lt_succ_of_lt (h.bound id hid)
      entry := fun id x hx => ?_
      links := fun id x hlink => ?_
      calls := fun c hc hne => ?_
      posts := fun c hc id hpc => ?_
      one := fun x => ?_
      callbacks := h.callbacks }
  · obtain ⟨hid, hdisc, hx'⟩ := h.entry id x hx
    exact ⟨(congrArg SessionObject.id (hobj x hx')).trans hid, hdisc, hlive x hx'⟩
  · obtain ⟨hid, hconn, hx'⟩ := h.links id x hlink
    exact ⟨(congrArg SessionObject.id (hobj x hx')).trans hid, hconn, hlive x hx'⟩
  · rcases mem_concat.mp hc with hc | rfl
    · obtain ⟨hconn, hx'⟩ := h.calls c hc hne
      exact ⟨(congrArg SessionObject.id (hobj _ hx')).symm ▸ hconn, hlive _ hx'⟩
    · refine ⟨fun hin => ?_, live_accept hl hpool⟩
      have hid : ((s.accept heartbeat t k y).objects y).id = s.nextId := by
        show (Function.update s.objects y _ y).id = _
        rw [Function.update_self]
      rw [hid] at hin
      exact Nat.lt_irrefl _ (h.bound _ hin)
  · rcases mem_concat.mp hc with hc | rfl
    · rw [hobj _ (h.calls c hc (by simp [SessionCall.unposted, hpc])).2]
      exact h.posts c hc id hpc
    · cases heartbeat <;> cases hpc
  · have hone := h.one x
    have hzero := unposted_eq_zero h hnot
    simp only [Server.unposted, Server.accept, Server.setObject, Server.addCall, tally_append,
      tally_cons, tally_nil, onSession, hunposted] at hone hzero ⊢
    by_cases hx : y = x
    · subst hx
      rw [if_pos rfl]
      omega
    · rw [if_neg hx]
      omega

theorem unposted_of_link {id : SessionId} (h : s.HasLink (.connect id x)) : 1 ≤ s.unposted x := by
  have hself : SessionMessage.connecting x (.connect id x) = 1 := single_self x
  rw [Server.unposted]
  rcases h with ⟨p, hp⟩ | hp
  · have := one_le_tally (fun p : ThreadId × SessionMessage => p.2.connecting x) hp hself
    omega
  · have := one_le_tally _ hp hself
    omega

theorem unposted_of_call {c : SessionCall} (hc : c ∈ s.calls) (hne : c.unposted ≠ 0) :
    1 ≤ s.unposted c.session := by
  obtain ⟨i, hi⟩ := List.mem_iff_getElem?.mp hc
  have hle := le_tally (onSession c.session SessionCall.unposted) hi
  rw [onSession, if_pos rfl] at hle
  rw [Server.unposted]
  omega

/-- The connect of a live connection enters it into the map; no other connect has its id. -/
theorem mapped_connect {id : SessionId} {msgs : List SessionMessage} (h : s.Mapped) (hi : s.Ids)
    (hd : s.dispatcher = .loop (.connect id x :: msgs)) : (s.connected id x msgs).Mapped := by
  have htodo : s.dispatcher.todo = .connect id x :: msgs.filter SessionMessage.isLink := by
    rw [hd]; rfl
  obtain ⟨hid, hconn, hlive⟩ := h.links id x (.inr (htodo ▸ List.mem_cons_self))
  have hsub : ∀ m, (s.connected id x msgs).HasLink m → s.HasLink m := fun m hm =>
    hm.imp_right fun hm => htodo ▸ List.mem_cons_of_mem _ hm
  have hunposted : ∀ z, (s.connected id x msgs).unposted z + single z x = s.unposted z := by
    intro z
    have hhead : SessionMessage.connecting z (.connect id x) = single z x := rfl
    show tally _ s.calls + tally _ s.queue + tally (SessionMessage.connecting z)
      (msgs.filter SessionMessage.isLink) + _ = _
    rw [Server.unposted, htodo, tally_cons, hhead]
    omega
  -- a second connect on the way for the object would be one too many
  have hlast : (s.connected id x msgs).unposted x = 0 := by
    have hx := hunposted x
    have hone := h.one x
    rw [single_self] at hx
    omega
  have hother : ∀ z, s.Live z → 1 ≤ (s.connected id x msgs).unposted z → (s.objects z).id ≠ id := by
    intro z hz hpos heq
    have hzx : z = x := hi.live z x hz hlive (heq.trans hid.symm)
    rw [hzx] at hpos
    omega
  refine
    { closed := fun id' hid' => List.mem_append_left _ (h.closed id' hid')
      handled := h.handled
      handling := fun _ _ _ _ hd' => by cases hd'
      bound := fun id' hid' => ?_
      entry := fun id' z hz => ?_
      links := fun id' z hlink => ?_
      calls := fun c hc hne => ?_
      posts := h.posts
      one := fun z => ?_
      callbacks := h.callbacks }
  · rcases mem_concat.mp hid' with hid' | rfl
    · exact h.bound id' hid'
    · rw [← hid]
      exact hi.fresh x
  · have hz' : Function.update s.sessions id (some x) id' = some z := hz
    rw [Function.update_apply] at hz'
    split at hz'
    · next heq =>
      cases hz'
      subst heq
      exact ⟨hid, fun hdone => hconn (h.closed _ hdone), hlive⟩
    · exact h.entry id' z hz'
  · obtain ⟨hid', hconn', hz⟩ := h.links id' z (hsub _ hlink)
    refine ⟨hid', fun hin => ?_, hz⟩
    rcases mem_concat.mp hin with hin | hin
    · exact hconn' hin
    · exact hother z hz (unposted_of_link hlink) (hid'.trans hin)
  · obtain ⟨hconn', hz⟩ := h.calls c hc hne
    refine ⟨fun hin => ?_, hz⟩
    rcases mem_concat.mp hin with hin | hin
    · exact hconn' hin
    · exact hother _ hz (unposted_of_call hc hne) hin
  · have hz := hunposted z
    have hone := h.one z
    omega

theorem mapped_disconnecting {id : SessionId} {msgs : List SessionMessage} (h : s.Mapped)
    (hd : s.dispatcher = .loop (.disconnect id x :: msgs)) (hok : id ∈ s.connects) :
    (s.disconnecting id x msgs).Mapped := by
  have htodo : (s.disconnecting id x msgs).dispatcher.todo = s.dispatcher.todo := by rw [hd]; rfl
  have hsub : ∀ m, (s.disconnecting id x msgs).HasLink m → s.HasLink m :=
    fun m hm => hm.imp_right fun hm => htodo ▸ hm
  refine
    { closed := fun id' hid' => ?_
      handled := fun id' hid' => List.mem_append_left _ (h.handled id' hid')
      handling := fun id' _ _ _ hd' => ?_
      bound := h.bound
      entry := fun id' z hz => ?_
      links := fun id' z hlink => h.links id' z (hsub _ hlink)
      calls := h.calls
      posts := h.posts
      one := fun z => ?_
      callbacks := h.callbacks }
  · exact forall_mem_concat h.closed hok id' hid'
  · cases hd'
    exact List.mem_append_right _ (List.mem_singleton_self _)
  · have hz' : Function.update s.sessions id none id' = some z := hz
    rw [Function.update_apply] at hz'
    split at hz'
    · cases hz'
    · next hne =>
      obtain ⟨hid', hdisc, hlive⟩ := h.entry id' z hz'
      refine ⟨hid', fun hin => ?_, hlive⟩
      rcases mem_concat.mp hin with hin | hin
      · exact hdisc hin
      · exact hne hin
  · have hone := h.one z
    simp only [Server.unposted, htodo] at hone ⊢
    exact hone

/-- What is destroyed has no entry and no connect on the way: its disconnect is handled. -/
theorem mapped_destroy {i : Nat} {y : SessionPtr} (h : s.Mapped) (hl : s.OneLife) (hi : s.Ids)
    (hd : s.dispatcher = .destroy i) (hp : s.pendingDestroy[i]? = some y) :
    (s.destroy role i y).Mapped := by
  have hmem := List.mem_of_getElem? hp
  obtain ⟨hqueue, hobj⟩ := destroy_spec role hl hp
  have hids := fun x => (hobj x).1
  have hdone : (s.objects y).id ∈ s.disconnects := h.handled _ (hi.pending y hmem)
  have hlive : ∀ x, s.Live x → (s.objects x).id ∉ s.disconnects → (s.destroy role i y).Live x := by
    rintro x ⟨hlt, hnot⟩ hne
    refine ⟨hlt, fun hin => ?_⟩
    rcases mem_concat.mp hin with hin | rfl
    · exact hnot hin
    · exact hne hdone
  refine
    { closed := h.closed
      handled := h.handled
      handling := fun _ _ _ _ hd' => by cases hd'
      bound := h.bound
      entry := fun id x hx => ?_
      links := fun id x hlink => ?_
      calls := fun c hc hne => ?_
      posts := fun c hc id hpc => by rw [hids]; exact h.posts c hc id hpc
      one := fun x => ?_
      callbacks := h.callbacks }
  · obtain ⟨hid', hdisc, hx'⟩ := h.entry id x hx
    exact ⟨(hids x).trans hid', hdisc, hlive x hx' (hid' ▸ hdisc)⟩
  · obtain ⟨hid', hconn, hx'⟩ := h.links id x (hasLink_destroy hl hp hlink)
    exact ⟨(hids x).trans hid', hconn, hlive x hx' fun hin => hconn (hid' ▸ h.closed _ hin)⟩
  · obtain ⟨hconn, hx'⟩ := h.calls c hc hne
    rw [hids]
    exact ⟨hconn, hlive _ hx' fun hin => hconn (h.closed _ hin)⟩
  · have hone := h.one x
    simp only [Server.unposted, hd, DispatcherPc.todo] at hone
    simp only [Server.unposted, hqueue]
    exact hone

theorem connecting_isLink (x : SessionPtr) (l : List SessionMessage) :
    tally (SessionMessage.connecting x) (l.filter SessionMessage.isLink) =
      tally (SessionMessage.connecting x) l := by
  refine tally_filter _ (fun m hm => ?_) l
  cases m with
  | connect id y => cases hm
  | _ => rfl

/-- **Every step keeps the table of sessions right.** -/
theorem mapped_step (h : s.Mapped) (hl : s.OneLife) (hi : s.Ids) (hok : s.ConnectFirst a)
    (hs : ServerStepped role heartbeat s a s') : s'.Mapped := by
  cases hs with
  | grow =>
    exact mapped_of_kept h
      (.of_eq (fun _ => rfl) rfl (fun _ => live_grow.mpr) rfl rfl rfl (fun _ hid => .inl hid)
      (fun _ _ contexts _ hd => ⟨contexts, hd⟩) rfl rfl (fun _ hm => hm) (fun _ => rfl) rfl)
  | accept ht hpool => exact mapped_accept h hl hpool
  | @complete t k failed op ht hop =>
    have hunposted : (⟨t, op.1, .handler op.2, op.2.begin failed⟩ : SessionCall).unposted = 0 := by
      obtain ⟨x, op⟩ := op
      cases op <;> cases failed <;> rfl
    exact mapped_of_kept h (mapKept_addCall hunposted)
  | run hc hstep => exact mapped_of_kept h (mapKept_ran hc hstep)
  | push t =>
    refine mapped_of_kept h ⟨fun _ => rfl, rfl, fun _ hx => hx, rfl, rfl, rfl,
      fun _ hid => .inl hid,
      fun _ _ contexts _ hd => ⟨contexts, hd⟩, fun id x hlink => .inl ?_, fun c hc =>
        .inl hc, fun x => ?_, rfl⟩
    · exact (hasLink_push hlink).resolve_right SessionMessage.noConfusion
    · simp only [Server.unposted, tally_append, tally_cons, tally_nil,
        SessionMessage.connecting, Nat.add_zero]
  | take hd hq =>
    refine mapped_of_kept h ⟨fun _ => rfl, rfl, fun _ hx => hx, rfl, rfl, rfl,
      fun _ hid => .inl hid,
      fun _ _ _ _ hd' => (by cases hd'), fun _ _ hlink => .inl (hasLink_take hd hq hlink),
      fun c hc => .inl hc,
      fun x => ?_, rfl⟩
    have hdeq := tally_dequeue (fun p : ThreadId × SessionMessage => p.2.connecting x) hq
    simp only [Server.unposted, Server.goto, hd, DispatcherPc.todo, connecting_isLink,
      tally_append, tally_cons, tally_nil] at hdeq ⊢
    omega
  | move hmove =>
    exact mapped_of_kept h
      (.of_eq (fun _ => rfl) rfl (fun _ hx => hx) rfl rfl rfl (fun _ hid => .inl hid)
      (fun id x contexts msgs hd => absurd hd (hmove.handler id x contexts msgs)) rfl rfl
      (fun _ hm => hmove.todo ▸ hm)
      (fun _ => congrArg _ hmove.todo) rfl)
  | connect hd => exact mapped_connect h hi hd
  | @disconnecting id x msgs hd => exact mapped_disconnecting h hd (hok id x msgs hd)
  | @disconnected id x contexts msgs hd =>
    have hdone := h.handling id x contexts msgs hd
    refine mapped_of_kept h
      (.of_eq (fun _ => rfl) rfl (fun _ hx => hx) rfl rfl rfl (fun id' hid' => ?_)
      (fun _ _ _ _ hd' => by cases hd') rfl rfl (fun m hm => ?_) (fun z => ?_) rfl)
    · refine (List.mem_append.mp hid').imp_right fun hid' => ?_
      rw [List.mem_singleton.mp hid']
      exact hdone
    · rw [hd]
      exact List.mem_cons_of_mem _ hm
    · rw [hd]
      simp only [Server.disconnected, Server.goto, DispatcherPc.todo, tally_cons,
        SessionMessage.connecting, Nat.zero_add]
  | @release msg msgs hd =>
    refine mapped_of_kept h
      (.of_eq (fun x => ?_) rfl (fun _ hx => hx) rfl rfl rfl (fun _ hid => .inl hid)
      (fun _ _ _ _ hd' => by cases hd') rfl rfl (fun m hm => ?_) (fun z => ?_) rfl)
    · exact released_id msg msgs x
    · rw [hd]
      exact hm
    · rw [hd]
      rfl
  | pass hd hp hcan hfree =>
    exact mapped_of_kept h
      (.of_eq (fun _ => rfl) rfl (fun _ hx => hx) rfl rfl rfl (fun _ hid => .inl hid)
      (fun _ _ _ _ hd' => by cases hd') rfl rfl (fun m hm => absurd hm List.not_mem_nil)
      (fun z => by rw [hd]; rfl) rfl)
  | destroy hd hp => exact mapped_destroy h hl hi hd hp
  | @withSession id x msg contexts msgs hd hmap hconn =>
    have htodo : (DispatcherPc.app msg (contexts ++ [x]) msgs).todo = s.dispatcher.todo := by
      rw [hd, todo_app]
    have hmove : (s.goto (.app msg (contexts ++ [x]) msgs)).Mapped := by
      refine mapped_of_kept h
        (.of_eq (fun _ => rfl) rfl (fun _ hx => hx) rfl rfl rfl (fun _ hid => .inl hid) ?_ rfl rfl
        (fun m hm => htodo ▸ hm) (fun z => congrArg _ htodo) rfl)
      intro id' y contexts' msgs' hd'
      cases hd'
      exact ⟨contexts, hd⟩
    exact { hmove with callbacks := forall_mem_concat h.callbacks ⟨(h.entry id x hmap).1, rfl⟩ }
  | @call a x pc hmem hpc =>
    have hunposted : (⟨dispatcherThread, x, .app, pc⟩ : SessionCall).unposted = 0 := by
      rcases hpc with rfl | rfl <;> rfl
    exact mapped_of_kept h (mapKept_addCall hunposted)

theorem mapped_init : Server.init.Mapped where
  closed _ hid := absurd hid List.not_mem_nil
  handled _ hid := absurd hid List.not_mem_nil
  handling _ _ _ _ hd := by cases hd
  bound _ hid := absurd hid List.not_mem_nil
  entry _ _ hx := by cases hx
  links _ _ hlink := by
    rcases hlink with ⟨p, hp⟩ | hp
    · cases hp
    · cases hp
  calls _ hc := absurd hc List.not_mem_nil
  posts _ hc := absurd hc List.not_mem_nil
  one _ := Nat.zero_le 1
  callbacks _ hcb := absurd hcb List.not_mem_nil

end Mapped

/-- **`WithSession` identity**, in every run in which disconnects are handled after their connects:
`_sessions` maps an id to the object of that connection, which is neither destroyed nor in the pool,
and a callback runs on a connected session with the id asked for. -/
theorem with_session_identity (role : ServerRole) (heartbeat : Bool)
    (as : List ServerAction) {s : Server} (h : run (Server.step role heartbeat) .init as = some s)
    (hok : Meets (Server.step role heartbeat) Server.ConnectFirst .init as) :
    (∀ id x, s.sessions id = some x → (s.objects x).id = id ∧ id ∉ s.destroyed ∧ x ∉ s.pool) ∧
      ∀ cb ∈ s.callbacks, cb.got = cb.asked ∧ cb.connected = true := by
  obtain ⟨hmapped, hlife, hids⟩ : s.Mapped ∧ s.OneLife ∧ s.Ids := by
    refine run_inv_of_meets (fun s => s.Mapped ∧ s.OneLife ∧ s.Ids) ?_ ⟨mapped_init, oneLife_init,
      ids_init⟩ hok h
    rintro s a s' ⟨hm, hl, hi⟩ hg hs
    have hstepped := serverStepped hs
    exact ⟨mapped_step hm hl hi hg hstepped, life_step hl hstepped, ids_step hi hl hstepped⟩
  refine ⟨fun id x hx => ?_, hmapped.callbacks⟩
  obtain ⟨hid, hdisc, hlive⟩ := hmapped.entry id x hx
  exact ⟨hid, fun hdone => hdisc (hmapped.handled id (hids.handled id hdone)), hlive.2⟩

def Server.connectFirst (s : Server) : Bool :=
  match s.dispatcher with
  | .loop (.disconnect id _ :: _) => decide (id ∈ s.connects)
  | _ => true

theorem connectFirst_of_test {s : Server} {a : ServerAction}
    (h : a = .next → s.connectFirst = true) : s.ConnectFirst a := by
  cases a with
  | next =>
    intro id x msgs hd
    have htest := h rfl
    rw [Server.connectFirst, hd] at htest
    exact of_decide_eq_true htest
  | _ => trivial

/-- A connection comes and goes, then another one comes on the same object, and its session is asked
for. -/
def reconnects : List ServerAction :=
  connectThenFail ++ processBoth ++
    [.accept 3 0, .run 0 .next, .run 0 .next, .run 0 .next, .run 0 .next,
      .run 0 .next, .run 0 .next,
      .next, .push 4, .process, .take 3, .take 4, .next, .next, .next, .next, .withSession 2]

theorem with_session_identity_reconnects :
    ∃ s, run (Server.step .gateway false) .init reconnects = some s ∧ s.sessions 2 = some 0 ∧
      s.callbacks = [⟨2, 2, true⟩] ∧ s.destroyed = [1] ∧
      ((s.objects 0).id = 2 ∧ 2 ∉ s.destroyed ∧ 0 ∉ s.pool) := by
  have htest : Meets (Server.step .gateway false) (fun s a => a = .next →
      s.connectFirst = true) .init reconnects := by
    decide +kernel
  have hok := meets_mono (fun _ _ => connectFirst_of_test) htest
  obtain ⟨s, hrun, hentry, hrest⟩ : ∃ s,
      run (Server.step .gateway false) .init reconnects = some s ∧
      s.sessions 2 = some 0 ∧ s.callbacks = [⟨2, 2, true⟩] ∧ s.destroyed = [1] :=
        ⟨_, rfl, rfl, rfl, rfl⟩
  exact ⟨s, hrun, hentry, hrest.1, hrest.2,
    (with_session_identity .gateway false reconnects hrun hok).1 2 0 hentry⟩

/-- The dispatcher dequeues the disconnect of `connectThenFail` before its connect and handles
both. -/
def processDisconnectFirst : List ServerAction :=
  [.process, .take 2, .take 1, .next, .next, .next, .next, .next, .next, .next, .next, .next, .next]

/-- The object is acquired again and connects with its next id; the callback asks for the first. -/
def reconnectThenAsk : List ServerAction :=
  [.accept 3 0, .run 0 .next, .run 0 .next, .run 0 .next, .run 0 .next, .run 0 .next, .run 0 .next,
    .push 4, .process, .take 3, .take 4, .next, .next, .next, .next, .withSession 1]

/-- The disconnect is dequeued before the connect: the map keeps the id of a destroyed connection,
and once the object is on its next connection, `WithSession` of the old id runs on the new one. -/
theorem with_session_other_connection :
    (∃ s, run (Server.step .gateway false) .init
      (connectThenFail ++ processDisconnectFirst) = some s ∧
      s.sessions 1 = some 0 ∧ s.destroyed = [1] ∧ s.pool = [0]) ∧
    ∃ s, run (Server.step .gateway false) .init
        (connectThenFail ++ (processDisconnectFirst ++ reconnectThenAsk)) = some s ∧
      s.callbacks = [⟨1, 2, true⟩] :=
  ⟨⟨_, rfl, rfl, rfl, rfl⟩, _, rfl, rfl⟩

end ToyServer
