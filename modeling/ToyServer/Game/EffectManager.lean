import ToyServer.Game.CombatManager
import ToyServer.Lib.Sweep

/-!
# `EffectManager`

The effects that last, by target.  `applyEffect` keeps one effect a type and lets the longer one
win; `update` deals the damage over time that is due, target by target and effect by effect, then
drops what has expired and targets without effects.

    endTime of a stored effect  =  the latest one applied since the type was last absent  (EndsLast)
    effects after update t      =  those with t < endTime, with their clocks set  (effectsOf_update)

Both hold along every run (`effect_table`).
-/

namespace ToyServer.SimpleGame

/-! ## Effects -/

inductive EffectType where
  | poison | burn | slow | speedBoost | attackUp | defenseDown
deriving DecidableEq, Repr

structure StatusEffect where
  type : EffectType
  sourceId : Int
  endTime : ℚ
  tickInterval : ℚ
  lastTickTime : ℚ
  value : ℚ
deriving DecidableEq, Repr

namespace StatusEffect

def isExpired (e : StatusEffect) (currentTime : ℚ) : Bool := decide (e.endTime ≤ currentTime)

def needsTick (e : StatusEffect) (currentTime : ℚ) : Bool :=
  decide (0 < e.tickInterval) && decide (e.tickInterval ≤ currentTime - e.lastTickTime)

/-- The clock of an effect that has ticked. -/
def ticked (currentTime : ℚ) (e : StatusEffect) : StatusEffect :=
  if e.needsTick currentTime then { e with lastTickTime := currentTime } else e

@[simp] theorem ticked_type (t : ℚ) (e : StatusEffect) : (ticked t e).type = e.type := by
  unfold ticked
  split <;> rfl

@[simp] theorem ticked_endTime (t : ℚ) (e : StatusEffect) : (ticked t e).endTime = e.endTime := by
  unfold ticked
  split <;> rfl

end StatusEffect

/-! ## The manager -/

structure EffectManager where
  effects : AList fun _ : Int => List StatusEffect

structure Dot where
  targetId : Int
  effect : StatusEffect
deriving DecidableEq, Repr

/-- What `TakeDamage` is called with. -/
def Dot.damage (d : Dot) : Int := truncate d.effect.value

namespace EffectManager

def empty : EffectManager := ⟨∅⟩

section
variable (m : EffectManager) (targetId : Int)

def effectsOf : List StatusEffect := (m.effects.lookup targetId).getD []

/-- The loop of `ApplyEffect` over the effects of the target. -/
def refresh (effect : StatusEffect) : List StatusEffect → List StatusEffect
  | [] => [effect]
  | existing :: rest =>
    if existing.type = effect.type then
      (if existing.endTime < effect.endTime then effect else existing) :: rest
    else existing :: refresh effect rest

def applyEffect (effect : StatusEffect) : EffectManager :=
  -- `_effects[targetId]` makes an entry if there is none
  ⟨m.effects.insert targetId (refresh effect (m.effectsOf targetId))⟩

def removeEffect (type : EffectType) : EffectManager :=
  match m.effects.lookup targetId with
  | none => m
  | some effects =>
    ⟨m.effects.insert targetId (RemoveIf.removeIf (fun e => decide (e.type = type)) effects).1⟩

def clearEffects : EffectManager := ⟨m.effects.erase targetId⟩

def hasEffect (type : EffectType) : Bool :=
  (m.effectsOf targetId).any fun e => decide (e.type = type)

end

/-! ### `Update` -/

section
variable (currentTime : ℚ)

/-- The loop body for index `i`; `TakeDamage` does not touch the effects, so `effects[i]` is the one
that was copied. -/
def tickAt (acc : List StatusEffect × List StatusEffect) (i : Nat) :
    List StatusEffect × List StatusEffect :=
  match acc.1[i]? with
  | none => acc
  | some currentEffect =>
    if currentEffect.needsTick currentTime then
      (acc.1.set i { currentEffect with lastTickTime := currentTime }, acc.2 ++ [currentEffect])
    else acc

/-- The effects of one target after the loop, and those that were due. -/
def tickLoop (effects : List StatusEffect) : List StatusEffect × List StatusEffect :=
  (List.range effects.length).foldl (tickAt currentTime) (effects, [])

/-- One target of the snapshot; `found` are the objects of the room. -/
def tickTarget (found : Int → Bool)
    (acc : (AList fun _ : Int => List StatusEffect) × List Dot) (targetId : Int) :
    (AList fun _ : Int => List StatusEffect) × List Dot :=
  match acc.1.lookup targetId with
  | none => acc
  | some effects =>
    let res := tickLoop currentTime effects
    (acc.1.insert targetId res.1, acc.2 ++ if found targetId then res.2.map (Dot.mk targetId)
      else [])

/-- The first loop of `CleanupExpired` at one entry. -/
def dropExpired (effects : List StatusEffect) : Option (List StatusEffect) :=
  some (RemoveIf.removeIf (fun e => e.isExpired currentTime) effects).1

end

/-- The second loop at one entry. -/
def dropEmpty (effects : List StatusEffect) : Option (List StatusEffect) :=
  if effects = [] then none else some effects

def cleanupExpired (m : EffectManager) (order : Order Int) (currentTime : ℚ) : EffectManager :=
  let kept := Sweep.pass (dropExpired currentTime) m.effects (order.sort m.effects.keys)
  ⟨Sweep.pass dropEmpty kept (order.sort kept.keys)⟩

/-- The manager after `Update`, and the damage over time in the order it is dealt. -/
def update (m : EffectManager) (order : Order Int) (found : Int → Bool) (currentTime : ℚ) :
    EffectManager × List Dot :=
  let res := (order.sort m.effects.keys).foldl (tickTarget currentTime found) (m.effects, [])
  (cleanupExpired ⟨res.1⟩ order currentTime, res.2)

/-! ## What the operations leave of a target -/

variable {m : EffectManager} {targetId : Int} {effect e : StatusEffect}
  {es : List StatusEffect} {t : ℚ}

theorem effectsOf_applyEffect (targetId' : Int) :
    (m.applyEffect targetId effect).effectsOf targetId' =
    if targetId' = targetId then refresh effect (m.effectsOf targetId)
    else m.effectsOf targetId' := by
  unfold applyEffect effectsOf
  rw [Table.lookup_insert_ite]
  split <;> rfl

theorem effectsOf_removeEffect (type : EffectType) (targetId' : Int) :
    (m.removeEffect targetId type).effectsOf targetId' =
    if targetId' = targetId then (m.effectsOf targetId).filter fun e => decide (e.type ≠ type)
    else m.effectsOf targetId' := by
  unfold removeEffect
  by_cases h : targetId' = targetId
  · subst h
    rw [if_pos rfl]
    cases hl : m.effects.lookup targetId' with
    | none =>
      simp [effectsOf, hl]
    | some es =>
      unfold effectsOf
      rw [Table.lookup_insert_ite, if_pos rfl, hl, RemoveIf.removeIf_eq]
      simp
  · rw [if_neg h]
    split
    · rfl
    · unfold effectsOf
      rw [Table.lookup_insert_ite, if_neg h]

theorem effectsOf_clearEffects (targetId' : Int) : (m.clearEffects targetId).effectsOf targetId' =
    if targetId' = targetId then [] else m.effectsOf targetId' := by
  unfold clearEffects effectsOf
  rw [Table.lookup_erase_ite]
  split <;> rfl

theorem tickLoop_eq (t : ℚ) (es : List StatusEffect) :
    tickLoop t es = (es.map (StatusEffect.ticked t), es.filter (·.needsTick t)) := by
  -- `done` are the effects that the loop has passed
  have hloop : ∀ (es done due : List StatusEffect),
      (List.range' done.length es.length).foldl (tickAt t) (done ++ es, due) =
        (done ++ es.map (StatusEffect.ticked t), due ++ es.filter (·.needsTick t)) := by
    intro es
    induction es with
    | nil =>
      intro done due
      simp
    | cons e es ih =>
      intro done due
      have hget : (done ++ e :: es)[done.length]? = some e := by simp
      have hnext : done.length + 1 = (done ++ [e.ticked t]).length := by simp
      rw [List.length_cons, List.range'_succ, List.foldl_cons]
      unfold tickAt
      rw [hget]
      dsimp only
      by_cases hdue : e.needsTick t = true
      · have hset : (done ++ e :: es).set done.length { e with lastTickTime := t } =
            (done ++ [e.ticked t]) ++ es := by
          simp [StatusEffect.ticked, hdue]
        rw [if_pos hdue, hset, hnext]
        refine (ih (done ++ [e.ticked t]) (due ++ [e])).trans ?_
        simp [hdue]
      · have hsame : e.ticked t = e := by simp [StatusEffect.ticked, hdue]
        have hsplit : done ++ e :: es = (done ++ [e.ticked t]) ++ es := by simp [hsame]
        rw [if_neg hdue, hsplit, hnext]
        refine (ih (done ++ [e.ticked t]) due).trans ?_
        simp [hdue]
  have h := hloop es [] []
  rw [List.length_nil, ← List.range_eq_range', List.nil_append, List.nil_append,
    List.nil_append] at h
  exact h

theorem tickTarget_fst (t : ℚ) (found : Int → Bool)
    (acc : (AList fun _ : Int => List StatusEffect) × List Dot) (targetId : Int) :
    (tickTarget t found acc targetId).1 =
      Sweep.change (fun es => some (es.map (StatusEffect.ticked t))) acc.1 targetId := by
  unfold tickTarget Sweep.change
  split
  · next h => rw [h]
  · next es h =>
    rw [h]
    dsimp only
    rw [tickLoop_eq]

theorem ticks_fst (t : ℚ) (found : Int → Bool) (ids : List Int)
    (acc : (AList fun _ : Int => List StatusEffect) × List Dot) :
    (ids.foldl (tickTarget t found) acc).1 =
      Sweep.pass (fun es => some (es.map (StatusEffect.ticked t))) acc.1 ids := by
  unfold Sweep.pass
  induction ids generalizing acc with
  | nil => rfl
  | cons id ids ih => rw [List.foldl_cons, List.foldl_cons, ih, tickTarget_fst]

/-- What `Update` leaves of an entry. -/
def survivors (t : ℚ) (es : List StatusEffect) : Option (List StatusEffect) :=
  dropEmpty ((es.map (StatusEffect.ticked t)).filter fun e => decide (t < e.endTime))

theorem lookup_update (m : EffectManager) (order : Order Int) (found : Int → Bool) (t : ℚ)
    (targetId : Int) :
    (m.update order found t).1.effects.lookup targetId =
      (m.effects.lookup targetId).bind (survivors t) := by
  unfold update cleanupExpired
  dsimp only
  rw [Sweep.lookup_pass_keys dropEmpty (order.perm _),
    Sweep.lookup_pass_keys (dropExpired t) (order.perm _), ticks_fst,
    Sweep.lookup_pass_keys _ (order.perm _)]
  cases m.effects.lookup targetId with
  | none => rfl
  | some es =>
    have hkept : ∀ e : StatusEffect, (!e.isExpired t) = decide (t < e.endTime) := by
      intro e
      simp only [StatusEffect.isExpired, ← decide_not, not_le]
    simp only [Option.bind_some, dropExpired, RemoveIf.removeIf_eq, hkept, survivors]

theorem effectsOf_update (m : EffectManager) (order : Order Int) (found : Int → Bool) (t : ℚ)
    (targetId : Int) : (m.update order found t).1.effectsOf targetId =
      ((m.effectsOf targetId).filter fun e => decide (t < e.endTime)).map
      (StatusEffect.ticked t) := by
  have hfilter : ∀ es : List StatusEffect,
      (es.map (StatusEffect.ticked t)).filter (fun e => decide (t < e.endTime)) =
      (es.filter fun e => decide (t < e.endTime)).map (StatusEffect.ticked t) := by
    intro es
    rw [List.filter_map]
    congr 1
    refine List.filter_congr fun e _ => ?_
    simp
  unfold effectsOf
  rw [lookup_update]
  cases m.effects.lookup targetId with
  | none => rfl
  | some es =>
    rw [Option.bind_some, Option.getD_some]
    unfold survivors dropEmpty
    split
    · next h => exact (h.symm.trans (hfilter es))
    · exact hfilter es

theorem lookup_update_ne_nil (m : EffectManager) (order : Order Int) (found : Int → Bool) (t : ℚ)
    (targetId : Int) : (m.update order found t).1.effects.lookup targetId ≠ some [] := by
  rw [lookup_update]
  cases m.effects.lookup targetId with
  | none =>
    intro h
    cases h
  | some es =>
    rw [Option.bind_some]
    unfold survivors dropEmpty
    split
    · intro h
      cases h
    · next hne =>
      intro h
      exact hne (Option.some.inj h)

/-! ## One effect a type -/

def Distinct (es : List StatusEffect) : Prop := (es.map (·.type)).Nodup

theorem mem_types_refresh {type : EffectType} :
    type ∈ (refresh effect es).map (·.type) ↔ type ∈ es.map (·.type) ∨ type = effect.type := by
  induction es with
  | nil => simp [refresh]
  | cons x es ih =>
    unfold refresh
    by_cases hx : x.type = effect.type
    · rw [if_pos hx]
      by_cases hlt : x.endTime < effect.endTime
      · simp only [if_pos hlt, List.map_cons, List.mem_cons, hx]
        tauto
      · simp only [if_neg hlt, List.map_cons, List.mem_cons, hx]
        tauto
    · rw [if_neg hx]
      simp only [List.map_cons, List.mem_cons, ih]
      tauto

theorem Distinct.refresh (h : Distinct es) (effect : StatusEffect) :
    Distinct (refresh effect es) := by
  induction es with
  | nil => exact List.nodup_singleton _
  | cons x es ih =>
    obtain ⟨hx, hes⟩ := List.nodup_cons.mp h
    unfold EffectManager.refresh
    by_cases hxe : x.type = effect.type
    · rw [if_pos hxe]
      have htype : (if x.endTime < effect.endTime then effect else x).type = x.type := by
        split
        · exact hxe.symm
        · rfl
      refine List.nodup_cons.mpr ⟨?_, hes⟩
      show (if x.endTime < effect.endTime then effect else x).type ∉ es.map (·.type)
      rw [htype]
      exact hx
    · rw [if_neg hxe]
      refine List.nodup_cons.mpr ⟨?_, ih hes⟩
      intro hmem
      rcases mem_types_refresh.mp hmem with hmem | heq
      · exact hx hmem
      · exact hxe heq

theorem Distinct.filter (h : Distinct es) (p : StatusEffect → Bool) : Distinct (es.filter p) :=
  (List.filter_sublist.map _).nodup h

theorem Distinct.ticked (h : Distinct es) (t : ℚ) : Distinct (es.map (StatusEffect.ticked t)) := by
  unfold Distinct
  rw [List.map_map]
  have htype : (fun e : StatusEffect => e.type) ∘ StatusEffect.ticked t = fun e => e.type := by
    funext e
    simp
  rw [htype]
  exact h

/-- A stored effect of a type is the one that is applied or the one there was, whichever ends
later. -/
theorem mem_refresh (h : Distinct es) (hmem : e ∈ refresh effect es) :
    (e ∈ es ∧ e.type ≠ effect.type) ∨
    (e = effect ∧ ∀ x ∈ es, x.type = effect.type → x.endTime < effect.endTime) ∨
    (e ∈ es ∧ e.type = effect.type ∧ effect.endTime ≤ e.endTime) := by
  induction es with
  | nil =>
    right; left
    exact ⟨List.mem_singleton.mp hmem, fun x hx => absurd hx List.not_mem_nil⟩
  | cons x es ih =>
    obtain ⟨hx, hes⟩ := List.nodup_cons.mp h
    have hother : ∀ y ∈ es, y.type ≠ x.type := fun y hy heq => hx (List.mem_map.mpr ⟨y, hy, heq⟩)
    unfold EffectManager.refresh at hmem
    by_cases hxe : x.type = effect.type
    · rw [if_pos hxe] at hmem
      rcases List.mem_cons.mp hmem with heq | hmem
      · by_cases hlt : x.endTime < effect.endTime
        · rw [if_pos hlt] at heq
          right; left
          refine ⟨heq, fun y hy hty => ?_⟩
          rcases List.mem_cons.mp hy with rfl | hy
          · exact hlt
          · exact absurd (hty.trans hxe.symm) (hother y hy)
        · rw [if_neg hlt] at heq
          subst heq
          right; right
          exact ⟨List.mem_cons_self, hxe, not_lt.mp hlt⟩
      · left
        exact ⟨List.mem_cons_of_mem _ hmem, fun heq => hother e hmem (heq.trans hxe.symm)⟩
    · rw [if_neg hxe] at hmem
      rcases List.mem_cons.mp hmem with rfl | hmem
      · left
        exact ⟨List.mem_cons_self, hxe⟩
      · rcases ih hes hmem with ⟨hin, hne⟩ | ⟨heq, hall⟩ | ⟨hin, heq, hle⟩
        · left
          exact ⟨List.mem_cons_of_mem _ hin, hne⟩
        · right; left
          refine ⟨heq, fun y hy hty => ?_⟩
          rcases List.mem_cons.mp hy with rfl | hy
          · exact absurd hty hxe
          · exact hall y hy hty
        · right; right
          exact ⟨List.mem_cons_of_mem _ hin, heq, hle⟩

end EffectManager

/-! ## Runs -/

inductive EffectOp where
  | applyEffect (targetId : Int) (effect : StatusEffect)
  | removeEffect (targetId : Int) (type : EffectType)
  | clearEffects (targetId : Int)
  /-- with the order of the table and the objects of the room -/
  | update (order : Order Int) (found : Int → Bool) (currentTime : ℚ)

namespace EffectOp

def apply (m : EffectManager) : EffectOp → EffectManager
  | applyEffect targetId effect => m.applyEffect targetId effect
  | removeEffect targetId type => m.removeEffect targetId type
  | clearEffects targetId => m.clearEffects targetId
  | update order found currentTime => (m.update order found currentTime).1

theorem distinct_apply {m : EffectManager}
    (h : ∀ targetId, EffectManager.Distinct (m.effectsOf targetId))
    (op : EffectOp) (targetId : Int) :
    EffectManager.Distinct ((op.apply m).effectsOf targetId) := by
  cases op with
  | applyEffect target effect =>
    show EffectManager.Distinct ((m.applyEffect target effect).effectsOf targetId)
    rw [EffectManager.effectsOf_applyEffect]
    split
    · exact (h target).refresh effect
    · exact h targetId
  | removeEffect target type =>
    show EffectManager.Distinct ((m.removeEffect target type).effectsOf targetId)
    rw [EffectManager.effectsOf_removeEffect]
    split
    · exact (h target).filter _
    · exact h targetId
  | clearEffects target =>
    show EffectManager.Distinct ((m.clearEffects target).effectsOf targetId)
    rw [EffectManager.effectsOf_clearEffects]
    split
    · exact List.nodup_nil
    · exact h targetId
  | update order found t =>
    show EffectManager.Distinct ((m.update order found t).1.effectsOf targetId)
    rw [EffectManager.effectsOf_update]
    exact ((h targetId).filter _).ticked t

/-- The end time that an operation applies to a target and type. -/
def applied (targetId : Int) (type : EffectType) : EffectOp → List ℚ
  | applyEffect target effect =>
    if target = targetId ∧ effect.type = type then [effect.endTime] else []
  | _ => []

end EffectOp

/-- The table, with the end times that were applied to a target and type since it was last
absent. -/
structure EffectRun where
  manager : EffectManager
  since : Int → EffectType → List ℚ

namespace EffectRun

def start : EffectRun := ⟨.empty, fun _ _ => []⟩

def step (r : EffectRun) (op : EffectOp) : EffectRun where
  manager := op.apply r.manager
  since := fun targetId type =>
    if (op.apply r.manager).hasEffect targetId type then
      r.since targetId type ++ op.applied targetId type else []

def run (ops : List EffectOp) : EffectRun := ops.foldl step start

def Latest (time : ℚ) (times : List ℚ) : Prop := time ∈ times ∧ ∀ x ∈ times, x ≤ time

/-- A target holds a type at most once, and each effect ends at the latest time that counts for
it. -/
structure EndsLast (r : EffectRun) : Prop where
  distinct : ∀ targetId, EffectManager.Distinct (r.manager.effectsOf targetId)
  latest : ∀ targetId, ∀ e ∈ r.manager.effectsOf targetId,
    Latest e.endTime (r.since targetId e.type)

variable {r : EffectRun}

theorem hasEffect_of_mem {m : EffectManager} {targetId : Int} {e : StatusEffect}
    (h : e ∈ m.effectsOf targetId) : m.hasEffect targetId e.type = true :=
  List.any_eq_true.mpr ⟨e, h, by simp⟩

/-- An operation that keeps an effect without applying its type keeps the times that count for
it. -/
theorem latest_step {op : EffectOp} {targetId : Int} {e x : StatusEffect} (h : r.EndsLast)
    (he : e ∈ (op.apply r.manager).effectsOf targetId) (hx : x ∈ r.manager.effectsOf targetId)
    (htype : e.type = x.type) (hend : e.endTime = x.endTime)
    (hnone : ∀ time ∈ op.applied targetId e.type, time ≤ e.endTime) :
    Latest e.endTime ((r.step op).since targetId e.type) := by
  have hlast := h.latest targetId x hx
  show Latest e.endTime (if (op.apply r.manager).hasEffect targetId e.type then
    r.since targetId e.type ++ op.applied targetId e.type else [])
  rw [if_pos (hasEffect_of_mem he)]
  rw [← htype, ← hend] at hlast
  refine ⟨List.mem_append_left _ hlast.1, fun time htime => ?_⟩
  rcases List.mem_append.mp htime with htime | htime
  · exact hlast.2 time htime
  · exact hnone time htime

theorem endsLast_applyEffect (h : r.EndsLast) (hempty : ∀ targetId type,
    r.manager.hasEffect targetId type = false → r.since targetId type = []) (target : Int) (effect :
    StatusEffect) : (r.step (.applyEffect target effect)).EndsLast := by
  constructor
  · exact EffectOp.distinct_apply h.distinct (.applyEffect target effect)
  · intro targetId e he
    have hin : e ∈ (r.manager.applyEffect target effect).effectsOf targetId := he
    rw [EffectManager.effectsOf_applyEffect] at hin
    split at hin
    · next heq =>
      subst heq
      rcases EffectManager.mem_refresh (h.distinct targetId) hin with
        ⟨hx, hne⟩ | ⟨rfl, hall⟩ | ⟨hx, heq, hle⟩
      · refine latest_step h he hx rfl rfl fun time htime => ?_
        simp [EffectOp.applied, Ne.symm hne] at htime
      · -- the new effect is stored: what was applied before ends earlier
        have hhas : (r.manager.applyEffect targetId e).hasEffect targetId e.type = true :=
          hasEffect_of_mem he
        have hnew : (EffectOp.applyEffect targetId e).applied targetId e.type = [e.endTime] := by
          simp [EffectOp.applied]
        show Latest e.endTime (if (r.manager.applyEffect targetId e).hasEffect targetId e.type then
          r.since targetId e.type ++ (EffectOp.applyEffect targetId e).applied targetId
            e.type else [])
        rw [if_pos hhas, hnew]
        refine ⟨List.mem_append_right _ (List.mem_singleton.mpr rfl), fun time htime => ?_⟩
        rcases Runs.mem_concat.mp htime with htime | htime
        · cases hold : r.manager.hasEffect targetId e.type with
          | false =>
            rw [hempty targetId e.type hold] at htime
            cases htime
          | true =>
            obtain ⟨x, hx, hxe⟩ := List.any_eq_true.mp hold
            have hxtype : x.type = e.type := of_decide_eq_true hxe
            have hlast := h.latest targetId x hx
            rw [hxtype] at hlast
            exact (hlast.2 time htime).trans (hall x hx hxtype).le
        · exact htime.le
      · refine latest_step h he hx rfl rfl fun time htime => ?_
        simp only [EffectOp.applied, true_and, heq, if_true, List.mem_singleton] at htime
        rw [htime]
        exact hle
    · next hne =>
      refine latest_step h he hin rfl rfl fun time htime => ?_
      simp [EffectOp.applied, Ne.symm hne] at htime

/-- An operation that applies nothing and leaves of each target some of its effects. -/
theorem endsLast_of_kept {op : EffectOp} (h : r.EndsLast)
    (hnone : ∀ targetId type, op.applied targetId type = [])
    (hkept : ∀ targetId, ∀ e ∈ (op.apply r.manager).effectsOf targetId,
      ∃ x ∈ r.manager.effectsOf targetId, e.type = x.type ∧
      e.endTime = x.endTime) : (r.step op).EndsLast := by
  refine ⟨EffectOp.distinct_apply h.distinct op, fun targetId e he => ?_⟩
  obtain ⟨x, hx, htype, hend⟩ := hkept targetId e he
  refine latest_step h he hx htype hend fun time htime => ?_
  rw [hnone] at htime
  cases htime

/-- **Every operation keeps the table right.** -/
theorem endsLast_step (h : r.EndsLast) (op : EffectOp) (hempty : ∀ targetId type,
    r.manager.hasEffect targetId type = false → r.since targetId type =
      []) : (r.step op).EndsLast := by
  cases op with
  | applyEffect target effect => exact endsLast_applyEffect h hempty target effect
  | removeEffect target type =>
    refine endsLast_of_kept h (fun _ _ => rfl) fun targetId e he => ⟨e, ?_, rfl, rfl⟩
    have hin : e ∈ (r.manager.removeEffect target type).effectsOf targetId := he
    rw [EffectManager.effectsOf_removeEffect] at hin
    split at hin
    · next hid => exact hid ▸ (List.mem_filter.mp hin).1
    · exact hin
  | clearEffects target =>
    refine endsLast_of_kept h (fun _ _ => rfl) fun targetId e he => ⟨e, ?_, rfl, rfl⟩
    have hin : e ∈ (r.manager.clearEffects target).effectsOf targetId := he
    rw [EffectManager.effectsOf_clearEffects] at hin
    split at hin
    · cases hin
    · exact hin
  | update order found t =>
    refine endsLast_of_kept h (fun _ _ => rfl) fun targetId e he => ?_
    have hin : e ∈ (r.manager.update order found t).1.effectsOf targetId := he
    rw [EffectManager.effectsOf_update] at hin
    obtain ⟨x, hx, rfl⟩ := List.mem_map.mp hin
    exact ⟨x, (List.mem_filter.mp hx).1, StatusEffect.ticked_type t x,
      StatusEffect.ticked_endTime t x⟩

theorem since_step {op : EffectOp} {targetId : Int} {type : EffectType}
    (h : (r.step op).manager.hasEffect targetId type = false) :
    (r.step op).since targetId type = [] := by
  have hno : (op.apply r.manager).hasEffect targetId type = false := h
  show (if (op.apply r.manager).hasEffect targetId type then _ else []) = []
  rw [hno]
  rfl

/-- The longest effect wins, along every run. -/
theorem endsLast_run (ops : List EffectOp) :
    (run ops).EndsLast ∧ ∀ targetId type,
      (run ops).manager.hasEffect targetId type = false → (run ops).since targetId type = [] := by
  unfold run
  induction ops using List.reverseRecOn with
  | nil =>
    refine ⟨⟨fun targetId => List.nodup_nil, fun targetId e he => ?_⟩, fun _ _ _ => rfl⟩
    cases he
  | append_singleton ops op ih =>
    rw [List.foldl_append, List.foldl_cons, List.foldl_nil]
    exact ⟨endsLast_step ih.1 op ih.2, fun _ _ h => since_step h⟩

/-- **The table of effects**: one effect a type, the latest end time wins, and `Update` leaves just
what has not ended. -/
theorem effect_table (ops : List EffectOp) :
    (∀ targetId, (((run ops).manager.effectsOf targetId).map (·.type)).Nodup) ∧
    (∀ targetId, ∀ e ∈ (run ops).manager.effectsOf targetId,
      e.endTime ∈ (run ops).since targetId e.type ∧ ∀ time ∈ (run ops).since targetId e.type,
      time ≤ e.endTime) ∧
    ∀ (order : Order Int) (found : Int → Bool) (t : ℚ) (targetId : Int),
      ((run ops).manager.update order found t).1.effectsOf targetId =
        (((run ops).manager.effectsOf targetId).filter fun e => decide (t < e.endTime)).map
        (StatusEffect.ticked t) ∧
      ((run ops).manager.update order found t).1.effects.lookup targetId ≠ some [] := by
  obtain ⟨h, -⟩ := endsLast_run ops
  refine ⟨h.distinct, h.latest, fun order found t targetId => ⟨?_, ?_⟩⟩
  · exact EffectManager.effectsOf_update _ order found t targetId
  · exact EffectManager.lookup_update_ne_nil _ order found t targetId

end EffectRun

end ToyServer.SimpleGame
