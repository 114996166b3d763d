import Mathlib.Data.Rat.Floor
import ToyServer.Lib.RemoveIf
import ToyServer.Lib.Runs

/-!
# `ModifierContainer`: base stats, modifiers and the cached result

`GetStat` computes a stat once and keeps it until it is marked dirty.  `Update` and
`RemoveBySourceId` mark the types they find behind the end that `std::remove_if` returns.  Those are
the types of the last modifiers of the old list, not of the removed ones, so a removed modifier can
stay in a cached stat.

`float` is read as a rational.  `stat_cache_coherent` says when `GetStat` is what `CalculateStat`
yields.
-/

namespace ToyServer.SimpleGame

open Runs RemoveIf

inductive StatType where
  | speed | attack | maxHp | cooldown | area | projectileCount
deriving DecidableEq, Repr

inductive ModifierOp where
  | flat | percentAdd | percentMult
deriving DecidableEq, Repr

structure StatModifier where
  type : StatType
  op : ModifierOp
  value : ℚ
  sourceId : Int
  /-- zero is for ever -/
  expirationTime : ℚ
  allowStacking : Bool
deriving DecidableEq, Repr

/-- The maps of the class are read as functions, `none` where there is no entry. -/
structure ModifierContainer where
  baseStats : StatType → Option ℚ
  cachedStats : StatType → Option ℚ
  dirty : StatType → Option Bool
  modifiers : List StatModifier

/-- `std::round`: to the nearest, halves away from zero. -/
def stdRound (q : ℚ) : Int := if 0 ≤ q then (q + 1 / 2).floor else (q - 1 / 2).ceil

namespace ModifierContainer

def empty : ModifierContainer := ⟨fun _ => none, fun _ => none, fun _ => none, []⟩

variable (c : ModifierContainer)

variable (type : StatType)

def setDirty : ModifierContainer :=
  { c with dirty := Function.update c.dirty type (some true) }

def setBaseStat (value : ℚ) : ModifierContainer :=
  { c with baseStats := Function.update c.baseStats type (some value) }.setDirty type

def getBaseStat : ℚ := (c.baseStats type).getD 0

/-- A modifier that does not stack takes the place of the one of its source and type. -/
def replaces (mod m : StatModifier) : Bool :=
  m.sourceId == mod.sourceId && m.type == mod.type && !m.allowStacking

def addModifier (mod : StatModifier) : ModifierContainer :=
  let modifiers :=
    if mod.allowStacking then c.modifiers else (removeIf (replaces mod) c.modifiers).1
  { c with modifiers := modifiers ++ [mod] }.setDirty mod.type

/-- `remove_if`, `SetDirty` for the type of everything behind the returned end, `erase`. -/
def removeMarking (p : StatModifier → Bool) : ModifierContainer :=
  let removed := removeIf p c.modifiers
  let c := removed.2.foldl (fun c m => c.setDirty m.type) c
  { c with modifiers := removed.1 }

def removeBySourceId (sourceId : Int) : ModifierContainer :=
  c.removeMarking fun m => m.sourceId == sourceId

def removeBySourceIdAndType (sourceId : Int) (type : StatType) : ModifierContainer :=
  let removed := removeIf (fun m => m.sourceId == sourceId && m.type == type) c.modifiers
  if removed.2 = [] then c else { c.setDirty type with modifiers := removed.1 }

def clear : ModifierContainer :=
  { c with modifiers := [], cachedStats := fun _ => none, dirty := fun _ => none }

def expired (currentGameTime : ℚ) (m : StatModifier) : Bool :=
  decide (0 < m.expirationTime) && decide (m.expirationTime ≤ currentGameTime)

def update (currentGameTime : ℚ) : ModifierContainer :=
  c.removeMarking (expired currentGameTime)

structure Sums where
  flatSum : ℚ
  percentAddSum : ℚ
  percentMultProduct : ℚ
deriving DecidableEq, Repr

def Sums.add (s : Sums) (mod : StatModifier) : Sums :=
  if mod.type ≠ type then s
  else
    match mod.op with
    | .flat => { s with flatSum := s.flatSum + mod.value }
    | .percentAdd => { s with percentAddSum := s.percentAddSum + mod.value }
    | .percentMult => { s with percentMultProduct := s.percentMultProduct * mod.value }

def calculateStat : ℚ :=
  let s := c.modifiers.foldl (Sums.add type) ⟨0, 0, 1⟩
  let result := (c.getBaseStat type + s.flatSum) * (1 + s.percentAddSum) * s.percentMultProduct
  let result : ℚ := stdRound (result * 1000) / 1000
  if type = .speed ∧ result < 1 / 10 then 1 / 10 else result

/-- `GetStat` with the container it leaves. -/
def getStat : ℚ × ModifierContainer :=
  let c :=
    if c.dirty type = some true then
      { c with
        cachedStats := Function.update c.cachedStats type (some (c.calculateStat type))
        dirty := Function.update c.dirty type (some false) }
    else if c.cachedStats type = none then
      { c with cachedStats := Function.update c.cachedStats type (some (c.calculateStat type)) }
    else c
  ((c.cachedStats type).getD 0, c)

end ModifierContainer

inductive ModifierAction where
  | setBaseStat (type : StatType) (value : ℚ)
  | addModifier (mod : StatModifier)
  | removeBySourceId (sourceId : Int)
  | removeBySourceIdAndType (sourceId : Int) (type : StatType)
  | update (currentGameTime : ℚ)
  | clear
  | getStat (type : StatType)
deriving DecidableEq, Repr

namespace ModifierContainer

section
variable (c : ModifierContainer)

def apply : ModifierAction → ModifierContainer
  | .setBaseStat type value => c.setBaseStat type value
  | .addModifier mod => c.addModifier mod
  | .removeBySourceId sourceId => c.removeBySourceId sourceId
  | .removeBySourceIdAndType sourceId type => c.removeBySourceIdAndType sourceId type
  | .update currentGameTime => c.update currentGameTime
  | .clear => c.clear
  | .getStat type => (c.getStat type).2

def step (a : ModifierAction) : Option ModifierContainer := some (c.apply a)

/-! ## One stat -/

/-- The next `GetStat` computes the stat anew. -/
def Unread (type : StatType) : Prop := c.dirty type = some true ∨ c.cachedStats type = none

instance (type : StatType) : Decidable (c.Unread type) :=
  inferInstanceAs (Decidable (_ ∨ _))

/-- A stat is computed anew or its cached value is the current one. -/
def Coherent (type : StatType) : Prop :=
  c.Unread type ∨ c.cachedStats type = some (c.calculateStat type)

end

variable {c : ModifierContainer} {type : StatType} {c' : ModifierContainer} {t : StatType}

theorem getStat_of_unread (h : c.Unread type) : (c.getStat type).1 = c.calculateStat type := by
  unfold getStat
  by_cases hd : c.dirty type = some true
  · simp [hd]
  · have hnone : c.cachedStats type = none := h.resolve_left hd
    simp [hd, hnone]

theorem getStat_of_read (h : ¬c.Unread type) :
    c.getStat type = ((c.cachedStats type).getD 0, c) := by
  obtain ⟨hd, hc⟩ := not_or.mp h
  simp [getStat, hd, hc]

theorem getStat_eq_iff (c : ModifierContainer) (type : StatType) :
    (c.getStat type).1 = c.calculateStat type ↔ c.Coherent type := by
  by_cases h : c.Unread type
  · exact iff_of_true (getStat_of_unread h) (.inl h)
  · rw [getStat_of_read h]
    obtain ⟨value, hv⟩ := Option.ne_none_iff_exists'.mp (not_or.mp h).2
    simp [Coherent, h, hv]

theorem calculateStat_congr (hb : c'.baseStats type = c.baseStats type)
    (hm : c'.modifiers.filter (·.type = type) = c.modifiers.filter (·.type = type)) :
    c'.calculateStat type = c.calculateStat type := by
  have hsums : ∀ (ms : List StatModifier) (s : Sums),
      ms.foldl (Sums.add type) s = (ms.filter (·.type = type)).foldl (Sums.add type) s := by
    intro ms
    induction ms with
    | nil => intro s; rfl
    | cons m rest ih =>
      intro s
      by_cases hmt : m.type = type
      · simp [hmt, ih]
      · simp [hmt, ih, Sums.add]
  unfold calculateStat getBaseStat
  rw [hsums c'.modifiers, hsums c.modifiers, hm, hb]

theorem Coherent.frame (h : c.Coherent type) (hd : c'.dirty type = c.dirty type)
    (hc : c'.cachedStats type = c.cachedStats type) (hb : c'.baseStats type = c.baseStats type)
    (hm : c'.modifiers.filter (·.type = type) = c.modifiers.filter (·.type = type)) :
    c'.Coherent type := by
  unfold Coherent Unread at *
  rw [hd, hc, calculateStat_congr hb hm]
  exact h

@[simp] theorem setDirty_self (c : ModifierContainer) (type : StatType) :
    (c.setDirty type).dirty type = some true := by
  simp [setDirty]

theorem setDirty_of_ne {other : StatType} (h : other ≠ type) :
    (c.setDirty type).dirty other = c.dirty other := by
  simp [setDirty, h]

/-! ## What each operation keeps -/

theorem coherent_setBaseStat (value : ℚ) (h : c.Coherent t) :
    (c.setBaseStat type value).Coherent t := by
  by_cases ht : t = type
  · subst ht
    exact .inl (.inl (setDirty_self _ t))
  · refine h.frame (setDirty_of_ne ht) rfl ?_ rfl
    simp [setBaseStat, setDirty, ht]

theorem coherent_addModifier (mod : StatModifier) (h : c.Coherent t) :
    (c.addModifier mod).Coherent t := by
  by_cases ht : t = mod.type
  · subst ht
    exact .inl (.inl (setDirty_self _ mod.type))
  · refine h.frame (setDirty_of_ne ht) rfl rfl ?_
    have hne : mod.type ≠ t := Ne.symm ht
    unfold addModifier setDirty
    dsimp only
    split
    · simp [hne]
    · -- only modifiers of `mod.type` are replaced
      rw [removeIf_eq]
      simp only [List.filter_append, List.filter_filter, List.filter_cons, List.filter_nil,
        hne, decide_false]
      rw [if_neg (by simp), List.append_nil]
      apply List.filter_congr
      intro m _
      by_cases hm : m.type = t
      · have hkeep : replaces mod m = false := by simp [replaces, hm, ht]
        simp [hm, hkeep]
      · simp [hm]

theorem removeMarking_fold (ms : List StatModifier) (c : ModifierContainer) :
    (ms.foldl (fun c m => c.setDirty m.type) c).cachedStats = c.cachedStats ∧
    (ms.foldl (fun c m => c.setDirty m.type) c).baseStats = c.baseStats ∧
    ∀ t, (ms.foldl (fun c m => c.setDirty m.type) c).dirty t =
      if t ∈ ms.map (·.type) then some true else c.dirty t := by
  induction ms generalizing c with
  | nil => simp
  | cons m rest ih =>
    obtain ⟨hc, hb, hd⟩ := ih (c.setDirty m.type)
    refine ⟨hc, hb, fun t => ?_⟩
    rw [List.foldl_cons, hd]
    by_cases ht : t = m.type
    · subst ht
      simp
    · simp [ht, setDirty_of_ne ht]

/-- Every removed modifier is of a type that gets marked, or that is computed anew anyway. -/
def Marked (c : ModifierContainer) (p : StatModifier → Bool) : Prop :=
  ∀ m ∈ c.modifiers, p m = true → m.type ∈ (removeIf p c.modifiers).2.map (·.type) ∨ c.Unread m.type

instance (c : ModifierContainer) (p : StatModifier → Bool) : Decidable (c.Marked p) :=
  inferInstanceAs (Decidable (∀ _ ∈ _, _))

theorem coherent_removeMarking {p : StatModifier → Bool} (hp : c.Marked p)
    (h : c.Coherent t) : (c.removeMarking p).Coherent t := by
  obtain ⟨hc, hb, hd⟩ := removeMarking_fold (removeIf p c.modifiers).2 c
  by_cases ht : t ∈ (removeIf p c.modifiers).2.map (·.type)
  · refine .inl (.inl ?_)
    show ((removeIf p c.modifiers).2.foldl _ c).dirty t = some true
    rw [hd, if_pos ht]
  have hdirty : (c.removeMarking p).dirty t = c.dirty t := (hd t).trans (if_neg ht)
  have hcached : (c.removeMarking p).cachedStats t = c.cachedStats t := congrFun hc t
  by_cases hun : c.Unread t
  · refine .inl ?_
    unfold Unread
    rw [hdirty, hcached]
    exact hun
  -- a type that is neither marked nor computed anew lost nothing
  refine h.frame hdirty hcached (congrFun hb t) ?_
  show (removeIf p c.modifiers).1.filter _ = _
  rw [removeIf_eq, List.filter_filter]
  apply List.filter_congr
  intro m hm
  by_cases hmt : m.type = t
  · have hkeep : p m = false := by
      by_contra hpm
      have hor := hp m hm (by simpa using hpm)
      rw [hmt] at hor
      exact hor.elim ht hun
    simp [hmt, hkeep]
  · simp [hmt]

theorem coherent_removeBySourceIdAndType (sourceId : Int) (type : StatType)
    (h : c.Coherent t) : (c.removeBySourceIdAndType sourceId type).Coherent t := by
  unfold removeBySourceIdAndType
  dsimp only
  split
  · exact h
  · by_cases ht : t = type
    · subst ht
      exact .inl (.inl (setDirty_self c t))
    · refine h.frame (setDirty_of_ne ht) rfl rfl ?_
      dsimp only
      rw [removeIf_eq, List.filter_filter]
      apply List.filter_congr
      intro m _
      by_cases hm : m.type = t
      · simp [hm, ht]
      · simp [hm]

theorem coherent_getStat (type : StatType) (h : c.Coherent t) : (c.getStat type).2.Coherent t := by
  have hcalc : ∀ c' : ModifierContainer, c'.baseStats = c.baseStats → c'.modifiers = c.modifiers →
      c'.calculateStat t = c.calculateStat t :=
        fun c' hb hm => calculateStat_congr (by rw [hb]) (by rw [hm])
  by_cases hun : c.Unread type
  · by_cases ht : t = type
    · subst ht
      refine .inr ?_
      unfold getStat
      by_cases hd : c.dirty t = some true
      · simp [hd]
        exact (hcalc _ rfl rfl).symm
      · have hnone : c.cachedStats t = none := hun.resolve_left hd
        simp [hd, hnone]
        exact (hcalc _ rfl rfl).symm
    · unfold getStat
      dsimp only
      split
      · exact h.frame (by simp [ht]) (by simp [ht]) rfl rfl
      · split
        · exact h.frame rfl (by simp [ht]) rfl rfl
        · exact h
  · rw [getStat_of_read hun]
    exact h

/-- What an operation needs: `RemoveBySourceId` and `Update` mark the types of what they remove. -/
def MarksRemoved (c : ModifierContainer) : ModifierAction → Prop
  | .removeBySourceId sourceId => c.Marked fun m => m.sourceId == sourceId
  | .update currentGameTime => c.Marked (expired currentGameTime)
  | _ => True

instance (c : ModifierContainer) (a : ModifierAction) : Decidable (c.MarksRemoved a) :=
  match a with
  | .removeBySourceId sourceId =>
    inferInstanceAs (Decidable (c.Marked fun m => m.sourceId == sourceId))
  | .update currentGameTime => inferInstanceAs (Decidable (c.Marked (expired currentGameTime)))
  | .setBaseStat _ _ | .addModifier _ | .removeBySourceIdAndType _ _ | .clear | .getStat _ =>
    isTrue trivial

/-- Every operation keeps the cached stats right. -/
theorem coherent_apply {a : ModifierAction} (ha : c.MarksRemoved a)
    (h : ∀ t, c.Coherent t) (t : StatType) : (c.apply a).Coherent t := by
  cases a with
  | setBaseStat type value => exact coherent_setBaseStat value (h t)
  | addModifier mod => exact coherent_addModifier mod (h t)
  | removeBySourceId sourceId => exact coherent_removeMarking ha (h t)
  | removeBySourceIdAndType sourceId type =>
    exact coherent_removeBySourceIdAndType sourceId type (h t)
  | update currentGameTime => exact coherent_removeMarking ha (h t)
  | clear => exact .inl (.inr rfl)
  | getStat type => exact coherent_getStat type (h t)

theorem coherent_run {as : List ModifierAction} (hok : Meets step MarksRemoved c as)
    (h : ∀ t, c.Coherent t) (hrun : run step c as = some c') (t : StatType) : c'.Coherent t :=
  run_inv_of_meets (fun c => ∀ t, c.Coherent t)
    (fun c a c' hc ha hs => by cases hs; exact coherent_apply ha hc) h hok hrun t

/-- **The stat cache is coherent** after every sequence of calls in which `RemoveBySourceId` and
`Update` mark the type of each modifier they remove: `GetStat` returns what `CalculateStat`
yields. -/
theorem stat_cache_coherent (as : List ModifierAction) (c : ModifierContainer)
    (hok : Meets step MarksRemoved empty as) (hrun : run step empty as = some c) (type : StatType) :
    (c.getStat type).1 = c.calculateStat type :=
  (getStat_eq_iff c type).mpr (coherent_run hok (fun _ => .inl (.inr rfl)) hrun type)

/-- A slow on the speed that runs out, as the monsters use it. -/
def slowRunsOut : List ModifierAction :=
  [.setBaseStat .speed 10, .addModifier ⟨.speed, .percentMult, 3 / 20, 1000, 100, false⟩,
    .getStat .speed, .update 100]

theorem stat_cache_coherent_slowRunsOut : ∃ c, run step empty slowRunsOut = some c ∧
    (c.getStat .speed).1 = c.calculateStat .speed ∧ c.modifiers = [] :=
  ⟨_, rfl, stat_cache_coherent slowRunsOut _ (by decide +kernel) rfl .speed, by decide +kernel⟩

/-- A modifier of the speed is removed while one of the attack stands behind it. -/
def removeFirstOfTwo : List ModifierAction :=
  [.setBaseStat .speed 10, .addModifier ⟨.speed, .flat, 5, 1, 0, false⟩,
    .addModifier ⟨.attack, .flat, 3, 2, 0, false⟩, .getStat .speed, .removeBySourceId 1]

/-- The attack is marked and the speed is not: `GetStat` still counts the removed modifier. -/
theorem stat_cache_stale : ∃ c, run step empty removeFirstOfTwo = some c ∧
    (c.getStat .speed).1 = 15 ∧ c.calculateStat .speed = 10 :=
  ⟨_, rfl, by decide +kernel, by decide +kernel⟩

end ModifierContainer

end ToyServer.SimpleGame
