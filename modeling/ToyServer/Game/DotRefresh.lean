import ToyServer.Game.EffectManager

/-!
# Damage over time that is applied again

Projectiles put poison and fire on what they hit.  A second hit with an effect that ends later
replaces the first one, clock and all, so the next tick is a whole interval after the second hit:
`reapplying_helps` is a target that a second hit spares a tick.

`reapplying_never_helps` compares a run with the same run and one more hit.  The damage of a type to
a target depends only on the effect that is stored for it (`slot_step`, `dealt_step`), and with the
extra hit that effect stays `Ahead`, as long as the hit meets the clock at the moment it is applied
(`Seamless`) and later hits are of the same kind.
-/

namespace ToyServer.SimpleGame

/-! ## Hits -/

/-- The effect columns of `SkillInfo`, and the owner of the projectile. -/
structure DotSkill where
  type : EffectType
  sourceId : Int
  value : ℚ
  interval : ℚ
  duration : ℚ
deriving DecidableEq, Repr

namespace DotSkill

/-- The effect as `ResolveProjectileCollisions` makes it. -/
def effect (d : DotSkill) (totalRunTime : ℚ) : StatusEffect where
  type := d.type
  sourceId := d.sourceId
  endTime := totalRunTime + d.duration
  tickInterval := if 0 < d.interval then d.interval else 1 / 2
  lastTickTime := totalRunTime
  value := d.value

structure Same (d d' : DotSkill) : Prop where
  type : d.type = d'.type
  value : d.value = d'.value
  interval : d.interval = d'.interval
  duration : d.duration = d'.duration

end DotSkill

inductive DotEvent where
  | hit (targetId : Int) (d : DotSkill)
  | removeEffect (targetId : Int) (type : EffectType)
  | clearEffects (targetId : Int)
  | update (order : Order Int) (found : Int → Bool)

namespace DotEvent

def op (now : ℚ) : DotEvent → EffectOp
  | hit targetId d => .applyEffect targetId (d.effect now)
  | removeEffect targetId type => .removeEffect targetId type
  | clearEffects targetId => .clearEffects targetId
  | update order found => .update order found now

def dealt (m : EffectManager) (targetId : Int) (type : EffectType) (now : ℚ) : DotEvent → Int
  | update order found =>
    (((m.update order found now).2.filter fun d => decide (d.targetId = targetId ∧
      d.effect.type = type)).map Dot.damage).sum
  | _ => 0

end DotEvent

def EffectManager.play (m : EffectManager) (events : List (ℚ × DotEvent)) : EffectManager :=
  events.foldl (fun m ev => (ev.2.op ev.1).apply m) m

def EffectManager.dealt (targetId : Int) (type : EffectType) :
    EffectManager → List (ℚ × DotEvent) → Int
  | _, [] => 0
  | m, ev :: events =>
    ev.2.dealt m targetId type ev.1 + EffectManager.dealt targetId type
      ((ev.2.op ev.1).apply m) events

namespace EffectManager

section
variable (targetId : Int) (type : EffectType) (m : EffectManager)

theorem dealt_cons (ev : ℚ × DotEvent)
    (events : List (ℚ × DotEvent)) : dealt targetId type m (ev :: events) =
      ev.2.dealt m targetId type ev.1 + dealt targetId type ((ev.2.op ev.1).apply m) events := rfl

theorem dealt_append (events events' : List (ℚ × DotEvent)) :
    dealt targetId type m (events ++ events') =
      dealt targetId type m events + dealt targetId type (m.play events) events' := by
  induction events generalizing m with
  | nil =>
    show dealt targetId type m events' = 0 + dealt targetId type m events'
    omega
  | cons ev events ih =>
    have hplay : m.play (ev :: events) = ((ev.2.op ev.1).apply m).play events := rfl
    rw [List.cons_append, dealt_cons, dealt_cons, ih, hplay]
    omega

end

/-! ## The stored effect of a type -/

def slot (m : EffectManager) (targetId : Int) (type : EffectType) : Option StatusEffect :=
  (m.effectsOf targetId).find? fun e => decide (e.type = type)

def AllDistinct (m : EffectManager) : Prop := ∀ targetId, Distinct (m.effectsOf targetId)

theorem allDistinct_empty : empty.AllDistinct := fun _ => List.nodup_nil

theorem AllDistinct.play {m : EffectManager} (h : m.AllDistinct) (events : List (ℚ × DotEvent)) :
    (m.play events).AllDistinct := by
  induction events generalizing m with
  | nil => exact h
  | cons ev events ih => exact ih (EffectOp.distinct_apply h (ev.2.op ev.1))

/-- What is stored when an effect meets one of its type, or none. -/
def longer (effect : StatusEffect) : Option StatusEffect → StatusEffect
  | none => effect
  | some x => if x.endTime < effect.endTime then effect else x

theorem find_refresh (effect : StatusEffect) (es : List StatusEffect) (type : EffectType) :
    (refresh effect es).find? (fun e => decide (e.type = type)) =
      if effect.type = type then some (longer effect (es.find? fun e => decide (e.type = type)))
      else es.find? fun e => decide (e.type = type) := by
  induction es with
  | nil =>
    by_cases h : effect.type = type
    · simp [refresh, longer, h]
    · simp [refresh, h]
  | cons x es ih =>
    unfold refresh
    by_cases hx : x.type = effect.type
    · rw [if_pos hx]
      have htype : (if x.endTime < effect.endTime then effect else x).type = effect.type := by
        split
        · rfl
        · exact hx
      by_cases h : effect.type = type
      · rw [if_pos h, List.find?_cons_of_pos (by simpa using htype.trans h),
          List.find?_cons_of_pos (by simpa using hx.trans h)]
        rfl
      · have hnew : ¬(if x.endTime < effect.endTime then effect else x).type = type :=
          fun heq => h (htype.symm.trans heq)
        have hold : ¬x.type = type := fun heq => h (hx.symm.trans heq)
        rw [if_neg h, List.find?_cons_of_neg (by simpa using hnew),
          List.find?_cons_of_neg (by simpa using hold)]
    · rw [if_neg hx]
      by_cases hxt : x.type = type
      · have h : ¬effect.type = type := fun heq => hx (hxt.trans heq.symm)
        rw [if_neg h, List.find?_cons_of_pos (by simpa using hxt),
          List.find?_cons_of_pos (by simpa using hxt)]
      · rw [List.find?_cons_of_neg (by simpa using hxt),
          List.find?_cons_of_neg (by simpa using hxt), ih]

variable {es : List StatusEffect}

/-- With one effect a type, what is kept of a list is what is kept of the one effect. -/
theorem find_filter (h : Distinct es) (p : StatusEffect → Bool) (type : EffectType) :
    (es.filter p).find? (fun e => decide (e.type = type)) =
      (es.find? fun e => decide (e.type = type)).filter p := by
  induction es with
  | nil => rfl
  | cons x es ih =>
    obtain ⟨hx, hes⟩ := List.nodup_cons.mp h
    by_cases hxt : x.type = type
    · rw [List.find?_cons_of_pos (by simpa using hxt)]
      by_cases hp : p x = true
      · rw [List.filter_cons_of_pos hp, List.find?_cons_of_pos (by simpa using hxt),
          Option.filter_some, if_pos hp]
      · have hnone : (es.filter p).find? (fun e => decide (e.type = type)) = none := by
          refine List.find?_eq_none.mpr fun y hy hyt => hx ?_
          have htype : y.type = x.type := (of_decide_eq_true hyt).trans hxt.symm
          exact List.mem_map.mpr ⟨y, (List.mem_filter.mp hy).1, htype⟩
        rw [List.filter_cons_of_neg hp, hnone, Option.filter_some, if_neg hp]
    · rw [List.find?_cons_of_neg (by simpa using hxt)]
      by_cases hp : p x = true
      · rw [List.filter_cons_of_pos hp, List.find?_cons_of_neg (by simpa using hxt), ih hes]
      · rw [List.filter_cons_of_neg hp, ih hes]

theorem find_ticked (t : ℚ) (es : List StatusEffect) (type : EffectType) :
    (es.map (StatusEffect.ticked t)).find? (fun e => decide (e.type = type)) =
      (es.find? fun e => decide (e.type = type)).map (StatusEffect.ticked t) := by
  rw [List.find?_map]
  congr 2
  funext e
  simp

variable {m : EffectManager} {targetId : Int} {type : EffectType} {now : ℚ}

/-- What an event does to the stored effect of a type. -/
def slotStep (targetId : Int) (type : EffectType) (now : ℚ) (x : Option StatusEffect) :
    DotEvent → Option StatusEffect
  | .hit target d =>
    if target = targetId ∧ d.type = type then some (longer (d.effect now) x) else x
  | .removeEffect target t => if target = targetId ∧ t = type then none else x
  | .clearEffects target => if target = targetId then none else x
  | .update _ _ => (x.filter fun e => decide (now < e.endTime)).map (StatusEffect.ticked now)

/-- What a stored effect deals when it is due. -/
def tickDamage (now : ℚ) : Option StatusEffect → Int
  | none => 0
  | some e => if e.needsTick now then truncate e.value else 0

/-- What an event deals, from the stored effect. -/
def slotDealt (targetId : Int) (now : ℚ) (x : Option StatusEffect) : DotEvent → Int
  | .update _ found => if found targetId then tickDamage now x else 0
  | _ => 0

theorem slotDealt_update (targetId : Int) (now : ℚ) (x : Option StatusEffect) (order : Order Int)
    (found : Int → Bool) :
    slotDealt targetId now x (.update order found) = if found targetId then
      tickDamage now x else 0 := rfl

/-- What is stored for a type depends on what was stored for it. -/
theorem slot_step (h : m.AllDistinct) (ev : DotEvent) :
    ((ev.op now).apply m).slot targetId type =
      slotStep targetId type now (m.slot targetId type) ev := by
  unfold slot
  cases ev with
  | hit target d =>
    show ((m.applyEffect target (d.effect now)).effectsOf targetId).find? _ = _
    rw [effectsOf_applyEffect]
    by_cases ht : targetId = target
    · subst ht
      rw [if_pos rfl, find_refresh]
      have htype : (d.effect now).type = d.type := rfl
      rw [htype]
      by_cases hd : d.type = type
      · rw [if_pos hd]
        simp [slotStep, hd]
      · rw [if_neg hd]
        simp [slotStep, hd]
    · rw [if_neg ht]
      simp [slotStep, Ne.symm ht]
  | removeEffect target t =>
    show ((m.removeEffect target t).effectsOf targetId).find? _ = _
    rw [effectsOf_removeEffect]
    by_cases ht : targetId = target
    · subst ht
      rw [if_pos rfl, find_filter (h targetId)]
      cases hfind : (m.effectsOf targetId).find? (fun e => decide (e.type = type)) with
      | none => simp [slotStep]
      | some e =>
        have hetype : e.type = type := by
          have := List.find?_some hfind
          exact of_decide_eq_true this
        by_cases heq : t = type
        · simp [slotStep, heq, hetype]
        · have hne : e.type ≠ t := fun h => heq (h.symm.trans hetype)
          simp [slotStep, heq, hne]
    · rw [if_neg ht]
      simp [slotStep, Ne.symm ht]
  | clearEffects target =>
    show ((m.clearEffects target).effectsOf targetId).find? _ = _
    rw [effectsOf_clearEffects]
    by_cases ht : targetId = target
    · simp [slotStep, ht]
    · rw [if_neg ht]
      simp [slotStep, Ne.symm ht]
  | update order found =>
    show ((m.update order found now).1.effectsOf targetId).find? _ = _
    rw [effectsOf_update, find_ticked, find_filter (h targetId)]
    rfl

/-! ## The damage of a type -/

/-- What the effects of one target deal in an `Update`. -/
def dotsOf (now : ℚ) (found : Int → Bool) (targetId : Int) (es : List StatusEffect) : List Dot :=
  if found targetId then (es.filter (·.needsTick now)).map (Dot.mk targetId) else []

theorem ticks_snd {ids : List Int} (hnodup : ids.Nodup) (found : Int → Bool)
    (acc : (AList fun _ : Int => List StatusEffect) × List Dot) :
    (ids.foldl (tickTarget now found) acc).2 =
      acc.2 ++ ids.flatMap fun id => dotsOf now found id ((acc.1.lookup id).getD []) := by
  induction ids generalizing acc with
  | nil => exact (List.append_nil _).symm
  | cons id ids ih =>
    obtain ⟨hid, hids⟩ := List.nodup_cons.mp hnodup
    have hother : ∀ x ∈ ids, (tickTarget now found acc id).1.lookup x = acc.1.lookup x := by
      intro x hx
      have hne : x ≠ id := fun heq => hid (heq ▸ hx)
      rw [tickTarget_fst, Sweep.lookup_change, if_neg hne]
    have hthis : (tickTarget now found acc id).2 =
        acc.2 ++ dotsOf now found id ((acc.1.lookup id).getD []) := by
      unfold tickTarget
      cases hl : acc.1.lookup id with
      | none => simp [dotsOf]
      | some es =>
        dsimp only
        rw [tickLoop_eq]
        rfl
    have hrest :
        (ids.flatMap fun x =>
          dotsOf now found x (((tickTarget now found acc id).1.lookup x).getD [])) =
        ids.flatMap fun x => dotsOf now found x ((acc.1.lookup x).getD []) := by
      refine List.flatMap_congr fun x hx => ?_
      rw [hother x hx]
    rw [List.foldl_cons, ih hids, hthis, hrest, List.flatMap_cons, List.append_assoc]

def sumOf (targetId : Int) (type : EffectType) (dots : List Dot) : Int :=
  ((dots.filter fun d => decide (d.targetId = targetId ∧ d.effect.type = type)).map Dot.damage).sum

theorem sumOf_append (dots dots' : List Dot) :
    sumOf targetId type (dots ++ dots') = sumOf targetId type dots + sumOf targetId type dots' := by
  unfold sumOf
  rw [List.filter_append, List.map_append, List.sum_append]

theorem sumOf_other {id : Int} (hne : id ≠ targetId) (found : Int → Bool) (es : List StatusEffect) :
    sumOf targetId type (dotsOf now found id es) = 0 := by
  have hnone : (dotsOf now found id es).filter
      (fun d => decide (d.targetId = targetId ∧ d.effect.type = type)) = [] := by
    refine List.filter_eq_nil_iff.mpr fun d hd => ?_
    have hid : d.targetId = id := by
      unfold dotsOf at hd
      split at hd
      · obtain ⟨e, -, rfl⟩ := List.mem_map.mp hd
        rfl
      · cases hd
    simp [hid, hne]
  unfold sumOf
  rw [hnone]
  rfl

theorem sumOf_due (h : Distinct es) :
    sumOf targetId type ((es.filter fun e => e.needsTick now).map (Dot.mk targetId)) =
      tickDamage now (es.find? fun e => decide (e.type = type)) := by
  induction es with
  | nil => rfl
  | cons x es ih =>
    obtain ⟨hx, hes⟩ := List.nodup_cons.mp h
    have hcons :
        sumOf targetId type (((x :: es).filter fun e => e.needsTick now).map (Dot.mk targetId)) =
        (if x.needsTick now ∧ x.type = type then truncate x.value else 0) +
          sumOf targetId type ((es.filter fun e => e.needsTick now).map (Dot.mk targetId)) := by
      by_cases hdue : x.needsTick now = true
      · by_cases hxt : x.type = type
        · simp [sumOf, hdue, hxt, Dot.damage]
        · simp [sumOf, hdue, hxt]
      · simp [hdue]
    rw [hcons, ih hes]
    by_cases hxt : x.type = type
    · -- the others have other types
      have hnone : es.find? (fun e => decide (e.type = type)) = none := by
        refine List.find?_eq_none.mpr fun y hy hyt => hx ?_
        have htype : y.type = x.type := (of_decide_eq_true hyt).trans hxt.symm
        exact List.mem_map.mpr ⟨y, hy, htype⟩
      rw [hnone, List.find?_cons_of_pos (by simpa using hxt)]
      simp [tickDamage, hxt]
    · rw [List.find?_cons_of_neg (by simpa using hxt)]
      simp [hxt]

theorem sumOf_own (h : Distinct es) (order : Order Int) (found : Int → Bool) :
    sumOf targetId type (dotsOf now found targetId es) =
      slotDealt targetId now (es.find? fun e => decide (e.type = type)) (.update order found) := by
  rw [slotDealt_update]
  unfold dotsOf
  by_cases hfound : found targetId = true
  · rw [if_pos hfound, if_pos hfound]
    exact sumOf_due h
  · rw [if_neg hfound, if_neg hfound]
    rfl

/-- And so does the damage that a step deals. -/
theorem dealt_step (h : m.AllDistinct) (ev : DotEvent) :
    ev.dealt m targetId type now = slotDealt targetId now (m.slot targetId type) ev := by
  cases ev with
  | update order found =>
    have hperm := order.perm m.effects.keys
    show sumOf targetId type
      (((order.sort m.effects.keys).foldl (tickTarget now found) (m.effects, [])).2) = _
    rw [ticks_snd (hperm.nodup_iff.mpr m.effects.keys_nodup), List.nil_append]
    have hsum : ∀ ids : List Int, ids.Nodup →
        sumOf targetId type (ids.flatMap fun id => dotsOf now found id (m.effectsOf id)) =
          if targetId ∈ ids then slotDealt targetId now (m.slot targetId type) (.update order found)
          else 0 := by
      intro ids hids
      induction ids with
      | nil => rfl
      | cons id ids ih =>
        obtain ⟨hid, hrest⟩ := List.nodup_cons.mp hids
        rw [List.flatMap_cons, sumOf_append, ih hrest]
        by_cases heq : id = targetId
        · subst heq
          rw [if_neg hid, if_pos List.mem_cons_self, sumOf_own (h id) order]
          exact Int.add_zero _
        · have hmem : targetId ∈ id :: ids ↔ targetId ∈ ids := by simp [Ne.symm heq]
          rw [sumOf_other heq]
          simp only [hmem]
          omega
    refine (hsum _ (hperm.nodup_iff.mpr m.effects.keys_nodup)).trans ?_
    by_cases hmem : targetId ∈ order.sort m.effects.keys
    · exact if_pos hmem
    · have hnone : m.effects.lookup targetId = none := by
        rw [AList.lookup_eq_none, AList.mem_keys, ← hperm.mem_iff]
        exact hmem
      have hslot : m.slot targetId type = none := by
        unfold slot effectsOf
        rw [hnone]
        rfl
      rw [if_neg hmem, hslot, slotDealt_update]
      exact (ite_self 0).symm
  | _ => rfl

/-! ## Two runs -/

/-- An effect of the given kind that was not applied after `now`; if it ends as late as one applied
now would, its clock is set to now. -/
structure Own (d : DotSkill) (now : ℚ) (e : StatusEffect) : Prop where
  value : e.value = d.value
  interval : e.tickInterval = (d.effect now).tickInterval
  ends : e.endTime ≤ now + d.duration
  clock : e.endTime = now + d.duration → e.lastTickTime = now

/-- The two effects tick alike, and the second one may last longer. -/
structure Alike (d : DotSkill) (now : ℚ) (a b : StatusEffect) : Prop where
  value : a.value = b.value
  interval : a.tickInterval = b.tickInterval
  clock : a.lastTickTime = b.lastTickTime
  ends : a.endTime = b.endTime ∨ a.endTime < b.endTime ∧ Own d now b

/-- The stored effect of the run with the extra hit is at least as bad for the target. -/
inductive Ahead (d : DotSkill) (now : ℚ) : Option StatusEffect → Option StatusEffect → Prop
  | neither : Ahead d now none none
  | more {b : StatusEffect} : Own d now b → Ahead d now none (some b)
  | both {a b : StatusEffect} : Alike d now a b → Ahead d now (some a) (some b)

variable {d : DotSkill} {now' : ℚ} {a b : StatusEffect} {x y : Option StatusEffect}

theorem own_effect (d : DotSkill) (now : ℚ) : Own d now (d.effect now) :=
  ⟨rfl, rfl, le_refl _, fun _ => rfl⟩

theorem Own.later (h : Own d now b) (hle : now ≤ now') : Own d now' b := by
  refine ⟨h.value, h.interval, ?_, ?_⟩
  · have := h.ends
    linarith
  · intro heq
    have hends := h.ends
    have hnow : now' = now := by linarith
    rw [hnow] at heq ⊢
    exact h.clock heq

theorem Alike.later (h : Alike d now a b) (hle : now ≤ now') : Alike d now' a b := by
  refine ⟨h.value, h.interval, h.clock, ?_⟩
  rcases h.ends with heq | ⟨hlt, hown⟩
  · exact .inl heq
  · exact .inr ⟨hlt, hown.later hle⟩

theorem Ahead.later (h : Ahead d now x y) (hle : now ≤ now') : Ahead d now' x y := by
  cases h with
  | neither => exact .neither
  | more hb => exact .more (hb.later hle)
  | both hab => exact .both (hab.later hle)

theorem Ahead.refl (d : DotSkill) (now : ℚ) (x : Option StatusEffect) : Ahead d now x x := by
  cases x with
  | none => exact .neither
  | some a => exact .both ⟨rfl, rfl, rfl, Or.inl rfl⟩

theorem effect_same {d' : DotSkill} (h : d'.Same d) (now : ℚ) :
    (d'.effect now).value = (d.effect now).value ∧
      (d'.effect now).tickInterval = (d.effect now).tickInterval ∧
      now + d'.duration = now + d.duration := by
  unfold DotSkill.effect
  rw [h.value, h.interval, h.duration]
  exact ⟨rfl, rfl, rfl⟩

/-- A hit of the same kind on an effect of the kind leaves one just like a new one. -/
theorem alike_of_own {d' : DotSkill} (hb : Own d now b) (hs : d'.Same d) :
    Alike d now (d'.effect now) (longer (d'.effect now) (some b)) := by
  obtain ⟨hvalue, hinterval, hends⟩ := effect_same hs now
  show Alike d now (d'.effect now) (if b.endTime < now + d'.duration then d'.effect now else b)
  split
  · exact ⟨rfl, rfl, rfl, Or.inl rfl⟩
  · next hge =>
    have heq : b.endTime = now + d.duration := by
      have := hb.ends
      rw [hends] at hge
      linarith
    refine ⟨hvalue.trans hb.value.symm, hinterval.trans hb.interval.symm,
      (hb.clock heq).symm, Or.inl ?_⟩
    show now + d'.duration = b.endTime
    rw [hends, heq]

theorem ahead_hit {d' : DotSkill} (h : Ahead d now x y) (hs : d'.Same d) (targetId : Int) :
    Ahead d now (slotStep targetId d.type now x (.hit targetId d'))
      (slotStep targetId d.type now y (.hit targetId d')) := by
  simp only [slotStep, hs.type, and_self, if_true]
  cases h with
  | neither => exact Ahead.refl d now _
  | more hb => exact .both (alike_of_own hb hs)
  | @both a b hab =>
    rcases hab.ends with heq | ⟨hlt, hown⟩
    · show Ahead d now (some (if a.endTime < now + d'.duration then d'.effect now else a))
        (some (if b.endTime < now + d'.duration then d'.effect now else b))
      rw [heq]
      split
      · exact Ahead.refl d now _
      · exact .both hab
    · -- the shorter effect is replaced, whatever happens to the longer one
      have hafter : a.endTime < now + d'.duration := by
        have := hown.ends
        rw [(effect_same hs now).2.2]
        linarith
      have hnew : longer (d'.effect now) (some a) = d'.effect now := if_pos hafter
      rw [hnew]
      exact .both (alike_of_own hown hs)

theorem Own.ticked (h : Own d now b) : Own d now (b.ticked now) := by
  unfold StatusEffect.ticked
  split
  · exact ⟨h.value, h.interval, h.ends, fun _ => rfl⟩
  · exact h

theorem Alike.needsTick (h : Alike d now a b) (t : ℚ) : a.needsTick t = b.needsTick t := by
  unfold StatusEffect.needsTick
  rw [h.interval, h.clock]

theorem Alike.ticked (h : Alike d now a b) : Alike d now (a.ticked now) (b.ticked now) := by
  have hends : a.endTime = b.endTime ∨ a.endTime < b.endTime ∧ Own d now (b.ticked now) := by
    rcases h.ends with heq | ⟨hlt, hown⟩
    · exact .inl heq
    · exact .inr ⟨hlt, hown.ticked⟩
  unfold StatusEffect.ticked at hends ⊢
  rw [h.needsTick now]
  split
  · next hdue =>
    rw [if_pos hdue] at hends
    exact ⟨h.value, h.interval, rfl, hends⟩
  · next hdue =>
    rw [if_neg hdue] at hends
    exact ⟨h.value, h.interval, h.clock, hends⟩

theorem ahead_update (h : Ahead d now x y) (targetId : Int) (type : EffectType) (order : Order Int)
    (found : Int → Bool) :
    Ahead d now (slotStep targetId type now x (.update order found))
      (slotStep targetId type now y (.update order found)) := by
  simp only [slotStep]
  cases h with
  | neither => exact .neither
  | @more b hb =>
    by_cases hlive : now < b.endTime
    · simp only [Option.filter_none, Option.map_none, Option.filter_some, hlive, decide_true,
        if_true, Option.map_some]
      exact .more hb.ticked
    · simp only [Option.filter_none, Option.map_none, Option.filter_some, hlive, decide_false,
        Bool.false_eq_true, if_false]
      exact .neither
  | @both a b hab =>
    by_cases ha : now < a.endTime
    · have hb : now < b.endTime := by
        rcases hab.ends with heq | ⟨hlt, -⟩
        · rw [← heq]
          exact ha
        · exact ha.trans hlt
      simp only [Option.filter_some, ha, hb, decide_true, if_true, Option.map_some]
      exact .both hab.ticked
    · by_cases hb : now < b.endTime
      · have hown : Own d now b := by
          rcases hab.ends with heq | ⟨-, hown⟩
          · rw [heq] at ha
            exact absurd hb ha
          · exact hown
        simp only [Option.filter_some, ha, hb, decide_true, decide_false, Bool.false_eq_true,
          if_true, if_false, Option.map_some, Option.map_none]
        exact .more hown.ticked
      · simp only [Option.filter_some, ha, hb, decide_false, Bool.false_eq_true, if_false,
          Option.map_none]
        exact .neither

/-- **One event keeps the run with the extra hit ahead.** -/
theorem ahead_step {ev : DotEvent} (h : Ahead d now x y)
    (hsame : ∀ d', ev = .hit targetId d' → d'.type = d.type → d'.Same d) :
    Ahead d now (slotStep targetId d.type now x ev) (slotStep targetId d.type now y ev) := by
  cases ev with
  | hit target d' =>
    by_cases hthis : target = targetId ∧ d'.type = d.type
    · obtain ⟨rfl, htype⟩ := hthis
      exact ahead_hit h (hsame d' rfl htype) target
    · simp only [slotStep, if_neg hthis]
      exact h
  | removeEffect target t =>
    simp only [slotStep]
    split
    · exact .neither
    · exact h
  | clearEffects target =>
    simp only [slotStep]
    split
    · exact .neither
    · exact h
  | update order found => exact ahead_update h targetId d.type order found

theorem tickDamage_le (h : Ahead d now x y) (hdamage : 0 ≤ truncate d.value) :
    tickDamage now x ≤ tickDamage now y := by
  cases h with
  | neither => exact le_refl _
  | more hb =>
    simp only [tickDamage, hb.value]
    split
    · exact hdamage
    · exact le_refl _
  | both hab => simp only [tickDamage, hab.needsTick, hab.value, le_refl]

theorem slotDealt_le (h : Ahead d now x y) (hdamage : 0 ≤ truncate d.value) (targetId : Int)
    (ev : DotEvent) : slotDealt targetId now x ev ≤ slotDealt targetId now y ev := by
  cases ev with
  | update order found =>
    rw [slotDealt_update, slotDealt_update]
    split
    · exact tickDamage_le h hdamage
    · exact le_refl _
  | _ => exact le_refl _

/-- What the extra hit must find: no effect of the type, or one that ends no earlier, or the same
one with its clock at the moment of the hit. -/
def Seamless (m : EffectManager) (targetId : Int) (d : DotSkill) (now : ℚ) : Prop :=
  ∀ x ∈ m.slot targetId d.type, now + d.duration ≤ x.endTime ∨
    x.lastTickTime = now ∧ x.value = d.value ∧ x.tickInterval = (d.effect now).tickInterval

instance (m : EffectManager) (targetId : Int) (d : DotSkill) (now : ℚ) :
    Decidable (Seamless m targetId d now) :=
  inferInstanceAs (Decidable (∀ _ ∈ _, _))

theorem ahead_of_seamless (h : Seamless m targetId d now) :
    Ahead d now (m.slot targetId d.type)
      (slotStep targetId d.type now (m.slot targetId d.type) (.hit targetId d)) := by
  simp only [slotStep, and_self, if_true]
  cases hx : m.slot targetId d.type with
  | none => exact .more (own_effect d now)
  | some x =>
    show Ahead d now (some x) (some (if x.endTime < now + d.duration then d.effect now else x))
    split
    · next hlt =>
      rcases h x hx with hle | ⟨hclock, hvalue, hinterval⟩
      · linarith
      · exact .both ⟨hvalue, hinterval, hclock, Or.inr ⟨hlt, own_effect d now⟩⟩
    · exact Ahead.refl d now _

/-- **The same events from two tables, the second one ahead.** -/
theorem dealt_le_of_ahead {m m' : EffectManager} {events : List (ℚ × DotEvent)} (hm : m.AllDistinct)
    (hm' : m'.AllDistinct) (hsorted : (now :: events.map Prod.fst).Pairwise (· ≤ ·))
    (hdamage : 0 ≤ truncate d.value)
    (hsame : ∀ ev ∈ events, ∀ d', ev.2 = .hit targetId d' → d'.type = d.type → d'.Same d)
    (h : Ahead d now (m.slot targetId d.type) (m'.slot targetId d.type)) :
    dealt targetId d.type m events ≤ dealt targetId d.type m' events := by
  induction events generalizing m m' now with
  | nil => exact le_refl _
  | cons ev events ih =>
    obtain ⟨hfirst, hrest⟩ := List.pairwise_cons.mp hsorted
    have hle : now ≤ ev.1 := hfirst ev.1 List.mem_cons_self
    have hnow := h.later hle
    have hstep := ahead_step hnow (hsame ev List.mem_cons_self)
    rw [← slot_step hm, ← slot_step hm'] at hstep
    have hdealt := slotDealt_le hnow hdamage targetId ev.2
    rw [← dealt_step hm, ← dealt_step hm'] at hdealt
    have htail :=
      ih (EffectOp.distinct_apply hm (ev.2.op ev.1)) (EffectOp.distinct_apply hm' (ev.2.op ev.1))
        hrest (fun e he => hsame e (List.mem_cons_of_mem _ he)) hstep
    rw [dealt_cons, dealt_cons]
    omega

/-- **Applying an effect once more never helps the target**, if the hit meets the clock and later
hits of the type on the target are of the same effect. -/
theorem reapplying_never_helps (before after : List (ℚ × DotEvent)) (targetId : Int)
    (d : DotSkill) (now : ℚ)
    (hsorted : ((before ++ (now, .hit targetId d) :: after).map Prod.fst).Pairwise (· ≤ ·))
    (hdamage : 0 ≤ truncate d.value) (hseam : Seamless (empty.play before) targetId d now)
    (hsame : ∀ ev ∈ after, ∀ d', ev.2 = .hit targetId d' → d'.type = d.type → d'.Same d) :
    dealt targetId d.type empty (before ++ after) ≤
      dealt targetId d.type empty (before ++ (now, .hit targetId d) :: after) := by
  have hm : (empty.play before).AllDistinct := allDistinct_empty.play before
  have hafter : (now :: after.map Prod.fst).Pairwise (· ≤ ·) := by
    rw [List.map_append] at hsorted
    exact (List.pairwise_append.mp hsorted).2.1
  have hahead := ahead_of_seamless hseam
  rw [← slot_step hm] at hahead
  have hle :=
    dealt_le_of_ahead hm (EffectOp.distinct_apply hm ((DotEvent.hit targetId d).op now)) hafter
      hdamage hsame hahead
  rw [dealt_append, dealt_append]
  have hcons : dealt targetId d.type (empty.play before) ((now, .hit targetId d) :: after) =
      0 + dealt targetId d.type (((DotEvent.hit targetId d).op now).apply (empty.play before))
        after := rfl
  rw [hcons]
  omega

/-- Ten a second, for three seconds. -/
def venom : DotSkill := ⟨.poison, 5, 10, 1, 3⟩

def roomTick (now : ℚ) : ℚ × DotEvent := (now, .update TickChoice.idle.objects fun _ => true)

/-- Hit again just when the poison has ticked. -/
theorem reapplying_never_helps_onTheTick :
    dealt 1001 .poison empty
    [(0, .hit 1001 venom), roomTick 1, roomTick 2, roomTick 3, roomTick 4] = 30 ∧
    dealt 1001 .poison empty
      [(0, .hit 1001 venom), roomTick 1, (1, .hit 1001 venom), roomTick 2, roomTick 3, roomTick 4] =
      40 ∧
    dealt 1001 .poison empty
      ([(0, .hit 1001 venom), roomTick 1] ++ [roomTick 2, roomTick 3, roomTick 4]) ≤
      dealt 1001 .poison empty ([(0, .hit 1001 venom), roomTick 1] ++ (1, .hit 1001 venom) ::
        [roomTick 2, roomTick 3, roomTick 4]) := by
  refine ⟨by decide +kernel, by decide +kernel, ?_⟩
  refine reapplying_never_helps [(0, .hit 1001 venom), roomTick 1] [roomTick 2, roomTick 3,
    roomTick 4] 1001 venom 1 (by decide +kernel) (by decide +kernel) (by decide +kernel) ?_
  intro ev hev d' heq
  simp only [List.mem_cons, List.not_mem_nil, or_false] at hev
  rcases hev with rfl | rfl | rfl <;> cases heq

/-- Hit again just before the poison ticks: at the tick, 10 are dealt without the second hit and
nothing with it. -/
theorem reapplying_helps :
    dealt 1001 .poison empty [(0, .hit 1001 venom), roomTick 1] = 10 ∧
    dealt 1001 .poison empty
    [(0, .hit 1001 venom), (24 / 25, .hit 1001 venom), roomTick 1] = 0 := by
  decide +kernel

end EffectManager

end ToyServer.SimpleGame
