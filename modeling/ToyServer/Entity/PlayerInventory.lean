import Mathlib.Data.List.AList
import ToyServer.Entity.GameObject

/-!
# `DataManager` and `PlayerInventory`

The rows of the weapon and passive tables as the player and the level-up read them, and the slots of
a player.  The multipliers that come from passives are sums of `float`s and are rounded as such,
since the maximum of hp is cut to an integer afterwards: 100 hp with a bonus of 0.4 are 139.
-/

namespace ToyServer.SimpleGame

/-! ## `float` and `double` -/

/-- The nearest integer, halves to the even one. -/
def nearestEven (q : ℚ) : Int :=
  let low := q.floor
  if q - low < 1 / 2 then low
  else if 1 / 2 < q - low then low + 1
  else if low % 2 = 0 then low else low + 1

/-- Two to an integer power. -/
def pow2 (k : Int) : ℚ :=
  if 0 ≤ k then ((2 ^ k.toNat : Nat) : ℚ) else 1 / ((2 ^ (-k).toNat : Nat) : ℚ)

/-- A rational in the binary format with `precision` bits whose smallest step is `2 ^ minStep`.
There are no infinities. -/
def roundBinary (precision : Nat) (minStep : Int) (q : ℚ) : ℚ :=
  let e : Int := q.num.natAbs.log2 - q.den.log2
  -- the exponent of the leading bit is this one or one less
  let e := if pow2 e ≤ |q| then e else e - 1
  let step := pow2 (max (e - (precision - 1)) minStep)
  nearestEven (q / step) * step

/-- Round to a `float`. -/
def binary32 : ℚ → ℚ := roundBinary 24 (-149)

/-- Round to a `double`. -/
def binary64 : ℚ → ℚ := roundBinary 53 (-1074)

/-! ## The tables -/

/-- A level of a weapon. -/
structure WeaponLevelInfo where
  level : Int
  skillId : Int
  desc : String
deriving DecidableEq, Repr

/-- A row of the table of weapons. -/
structure WeaponInfo where
  id : Int
  name : String
  description : String
  maxLevel : Int
  weight : Int
  evolutionId : Int
  evolutionPassiveId : Int
  levels : List WeaponLevelInfo
deriving DecidableEq, Repr

/-- A level of a passive. -/
structure PassiveLevelInfo where
  level : Int
  /-- a `float` -/
  bonus : ℚ
  desc : String
deriving DecidableEq, Repr

/-- A row of the table of passives. -/
structure PassiveInfo where
  name : String
  description : String
  /-- a word of the data file, `"max_hp"` for one -/
  statType : String
  maxLevel : Int
  weight : Int
  levels : List PassiveLevelInfo
deriving DecidableEq, Repr

/-- A row of the table of waves. -/
structure WaveInfo where
  startTime : ℚ
  duration : ℚ
  monsterTypeId : Int
  count : Int
  interval : ℚ
  hpMultiplier : ℚ
deriving DecidableEq, Repr

/-- The tables of `DataManager`; `players 1` is what every player starts with. -/
structure DataManager where
  monsters : Int → Option MonsterInfo
  /-- hp, speed and default skills of player class 1 -/
  player : Option (Int × ℚ × List Int)
  weapons : AList fun _ : Int => WeaponInfo
  passives : AList fun _ : Int => PassiveInfo
  waves : List WaveInfo

/-- Row `level` of a table of levels; the rows are dense from 1 on. -/
def levelRow {α : Type} (levels : List α) (level : Int) : Option α :=
  if 0 < level ∧ level ≤ levels.length then levels[(level - 1).toNat]? else none

/-! ## The slots -/

/-- The weapons and passives of a player. -/
structure PlayerInventory where
  /-- level by weapon -/
  weapons : AList fun _ : Int => Int
  /-- level by passive -/
  passives : AList fun _ : Int => Int
deriving DecidableEq

namespace PlayerInventory

/-- `MAX_WEAPON_SLOTS` and `MAX_PASSIVE_SLOTS` -/
def maxSlots : Nat := 6

def empty : PlayerInventory := ⟨∅, ∅⟩

/-- Upgrade what is owned and not at its maximum, or take a free slot. -/
def addOrUpgrade (owned : AList fun _ : Int => Int) (maxLevel : Option Int) (id : Int) :
    Bool × AList fun _ : Int => Int :=
  match owned.lookup id with
  | some level =>
    match maxLevel with
    | none => (false, owned)
    | some max => if max ≤ level then (false, owned) else (true, owned.insert id (level + 1))
  | none => if maxSlots ≤ owned.keys.length then (false, owned) else (true, owned.insert id 1)

variable (data : DataManager) (inv : PlayerInventory)

/-- A new weapon needs a slot, one that is owned a level below its maximum. -/
def addOrUpgradeWeapon (weaponId : Int) : Bool × PlayerInventory :=
  let res := addOrUpgrade inv.weapons ((data.weapons.lookup weaponId).map (·.maxLevel)) weaponId
  (res.1, { inv with weapons := res.2 })

/-- The same for passives. -/
def addOrUpgradePassive (passiveId : Int) : Bool × PlayerInventory :=
  let res := addOrUpgrade inv.passives ((data.passives.lookup passiveId).map (·.maxLevel)) passiveId
  (res.1, { inv with passives := res.2 })

def getOwnedWeaponIds (inv : PlayerInventory) : List Int := inv.weapons.keys

def getOwnedPassiveIds (inv : PlayerInventory) : List Int := inv.passives.keys

/-- Zero where the weapon is not owned. -/
def getWeaponLevel (inv : PlayerInventory) (weaponId : Int) : Int :=
  (inv.weapons.lookup weaponId).getD 0

def getPassiveLevel (inv : PlayerInventory) (passiveId : Int) : Int :=
  (inv.passives.lookup passiveId).getD 0

def hasEmptyWeaponSlot (inv : PlayerInventory) : Bool := decide (inv.weapons.keys.length < maxSlots)

def hasEmptyPassiveSlot (inv : PlayerInventory) : Bool :=
  decide (inv.passives.keys.length < maxSlots)

def removeWeapon (inv : PlayerInventory) (weaponId : Int) : PlayerInventory :=
  { inv with weapons := inv.weapons.erase weaponId }

def removePassive (inv : PlayerInventory) (passiveId : Int) : PlayerInventory :=
  { inv with passives := inv.passives.erase passiveId }

def hasPassive (inv : PlayerInventory) (passiveId : Int) : Bool :=
  (inv.passives.lookup passiveId).isSome

/-- One plus the bonuses of the owned passives of a stat, as `GetMaxHpMultiplier` and its like add
them up: in `float`, in the order of the table. -/
def multiplier (statType : String) : ℚ :=
  inv.getOwnedPassiveIds.foldl
    (fun mult id =>
      match data.passives.lookup id with
      | none => mult
      | some tmpl =>
        if tmpl.statType ≠ statType then mult
        else
          match levelRow tmpl.levels (inv.getPassiveLevel id) with
          | none => mult
          | some row => binary32 (mult + row.bonus))
    1

def getMaxHpMultiplier : ℚ := inv.multiplier data "max_hp"

def getMovementSpeedMultiplier : ℚ := inv.multiplier data "speed"

end PlayerInventory

end ToyServer.SimpleGame
