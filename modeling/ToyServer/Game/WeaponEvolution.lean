import ToyServer.Game.RoomTasks

/-!
# Evolutions

`CheckWeaponEvolutions` takes the old weapon out and then calls `AddOrUpgradeWeapon` for the evolved
one, which need not give a new weapon: one that is owned already is upgraded or refused, and then
the player has one weapon less (`evolution_loses_weapon`).

    one weapon at its maximum → its evolution at level 1, with an emitter

(`evolution_replaces_one`), and nothing else changes, just if the first evolution that is due has a
target that is free and a row for its first level (`FreshEvolution`).  Which one is the first
depends on the order in which the table of weapons is gone through.
-/

namespace ToyServer.SimpleGame

/-! ## Reachable inventories -/

namespace PlayerInventory

/-- What an inventory can become; the tables are hash maps, so their order says nothing. -/
inductive Reachable (data : DataManager) : PlayerInventory → Prop
  | empty : Reachable data .empty
  | weapon {inv : PlayerInventory} (id : Int) :
      Reachable data inv → Reachable data (inv.addOrUpgradeWeapon data id).2
  | passive {inv : PlayerInventory} (id : Int) :
      Reachable data inv → Reachable data (inv.addOrUpgradePassive data id).2
  | removeWeapon {inv : PlayerInventory} (id : Int) :
      Reachable data inv → Reachable data (inv.removeWeapon id)
  | removePassive {inv : PlayerInventory} (id : Int) :
      Reachable data inv → Reachable data (inv.removePassive id)
  | reorder {inv inv' : PlayerInventory} :
      Reachable data inv → inv.weapons.entries.Perm inv'.weapons.entries →
      inv.passives.entries.Perm inv'.passives.entries → Reachable data inv'

/-- Not more than there are slots, and every level at least 1. -/
structure Slots (owned : AList fun _ : Int => Int) : Prop where
  length_le : owned.keys.length ≤ maxSlots
  level_pos : ∀ id level, owned.lookup id = some level → 1 ≤ level

variable {data : DataManager} {inv : PlayerInventory} {owned owned' : AList fun _ : Int => Int}

theorem length_keys_insert_of_mem {id level : Int} (h : id ∈ owned.keys) :
    (owned.insert id level).keys.length = owned.keys.length := by
  have hpos : 0 < owned.keys.length := List.length_pos_of_mem h
  rw [AList.keys_insert, List.length_cons, List.length_erase_of_mem h]
  omega

theorem length_keys_insert_of_not_mem {id level : Int} (h : id ∉ owned.keys) :
    (owned.insert id level).keys.length = owned.keys.length + 1 := by
  rw [AList.keys_insert, List.length_cons, List.erase_of_not_mem h]

theorem mem_keys_of_lookup {id level : Int} (h : owned.lookup id = some level) :
    id ∈ owned.keys := by
  rw [← AList.mem_keys, ← AList.lookup_isSome, h]
  rfl

theorem not_mem_keys_of_lookup {id : Int} (h : owned.lookup id = none) : id ∉ owned.keys := by
  rw [← AList.mem_keys]
  exact AList.lookup_eq_none.mp h

theorem Slots.insert {id level : Int} (h : Slots owned) (hlevel : 1 ≤ level)
    (hlength : (owned.insert id level).keys.length ≤ maxSlots) : Slots (owned.insert id level) := by
  refine ⟨hlength, fun id' level' hl => ?_⟩
  rcases Table.of_lookup_insert hl with ⟨-, rfl⟩ | ⟨-, hold⟩
  · exact hlevel
  · exact h.level_pos id' level' hold

theorem Slots.addOrUpgrade (h : Slots owned) (maxLevel : Option Int) (id : Int) :
    Slots (PlayerInventory.addOrUpgrade owned maxLevel id).2 := by
  unfold PlayerInventory.addOrUpgrade
  cases hl : owned.lookup id with
  | some level =>
    have hlevel := h.level_pos id level hl
    cases maxLevel with
    | none => exact h
    | some max =>
      dsimp only
      split
      · exact h
      · refine h.insert (by omega) ?_
        rw [length_keys_insert_of_mem (mem_keys_of_lookup hl)]
        exact h.length_le
  | none =>
    dsimp only
    split
    · exact h
    · next hfree =>
      refine h.insert (le_refl 1) ?_
      rw [length_keys_insert_of_not_mem (not_mem_keys_of_lookup hl)]
      omega

theorem Slots.erase (h : Slots owned) (id : Int) : Slots (owned.erase id) := by
  refine ⟨?_, fun id' level' hl => ?_⟩
  · rw [AList.keys_erase]
    exact List.length_erase_le.trans h.length_le
  · exact h.level_pos id' level' (Table.of_lookup_erase hl).2

theorem Slots.perm (h : Slots owned) (hperm : owned.entries.Perm owned'.entries) :
    Slots owned' := by
  refine ⟨?_, fun id level hl => ?_⟩
  · have hlength : owned'.keys.length = owned.keys.length := by
      unfold AList.keys List.keys
      rw [List.length_map, List.length_map, hperm.length_eq]
    rw [hlength]
    exact h.length_le
  · rw [← AList.perm_lookup hperm] at hl
    exact h.level_pos id level hl

theorem Reachable.slots (h : Reachable data inv) : Slots inv.weapons ∧ Slots inv.passives := by
  induction h with
  | empty =>
    have hempty : Slots (∅ : AList fun _ : Int => Int) := by
      refine ⟨by decide, fun id level hl => ?_⟩
      rw [AList.lookup_empty] at hl
      cases hl
    exact ⟨hempty, hempty⟩
  | weapon id _ ih => exact ⟨ih.1.addOrUpgrade _ id, ih.2⟩
  | passive id _ ih => exact ⟨ih.1, ih.2.addOrUpgrade _ id⟩
  | removeWeapon id _ ih => exact ⟨ih.1.erase id, ih.2⟩
  | removePassive id _ ih => exact ⟨ih.1, ih.2.erase id⟩
  | reorder _ hw hp ih => exact ⟨ih.1.perm hw, ih.2.perm hp⟩

theorem Reachable.addDefault (h : Reachable data inv) (ids : List Int) :
    Reachable data (ids.foldl (fun inv id => (inv.addOrUpgradeWeapon data id).2) inv) := by
  induction ids generalizing inv with
  | nil => exact h
  | cons id ids ih => exact ih (h.weapon id)

/-- The chat commands. -/
theorem Reachable.command {c : Command} {inv' : PlayerInventory} (h : Reachable data inv)
    (hc : c.inventory data inv = some inv') : Reachable data inv' := by
  cases c with
  | levelUp exp => cases hc
  | god => cases hc
  | addWeapon id =>
    simp only [Command.inventory] at hc
    split at hc
    · cases hc
      exact h.weapon id
    · cases hc
  | removeWeapon id =>
    cases hc
    exact h.removeWeapon id
  | addPassive id =>
    simp only [Command.inventory] at hc
    split at hc
    · cases hc
      exact h.passive id
    · cases hc
  | removePassive id =>
    cases hc
    exact h.removePassive id

end PlayerInventory

namespace Player

open PlayerInventory

variable {data : DataManager} {p : Player}

section

variable (h : Reachable data p.inventory)
include h

theorem reachable_addDefaultSkills (skillIds : List Int) :
    Reachable data (p.addDefaultSkills data skillIds).inventory := h.addDefault skillIds

theorem reachable_applySelection (optionIndex : Int) :
    Reachable data (LevelUpManager.applySelection data p optionIndex).2.inventory := by
  unfold LevelUpManager.applySelection
  split
  · exact h
  · next selected _ =>
    have hgrant : Reachable data (LevelUpManager.grant data p.inventory selected).2 := by
      unfold LevelUpManager.grant
      split
      · exact h.weapon selected.itemId
      · exact h.passive selected.itemId
    dsimp only
    split <;> exact hgrant

theorem reachable_evolve (weaponId evolutionId : Int) :
    Reachable data (p.evolve data weaponId evolutionId).inventory :=
  (h.removeWeapon weaponId).weapon evolutionId

theorem reachable_checkWeaponEvolutions :
    Reachable data (p.checkWeaponEvolutions data).inventory := by
  unfold checkWeaponEvolutions
  split
  · exact h
  · exact reachable_evolve h _ _

theorem reachable_selectLevelUp (optionIndex : Int) (s : Scene) :
    Reachable data (selectLevelUp data p optionIndex s).1.inventory :=
  reachable_checkWeaponEvolutions (reachable_applySelection h optionIndex)

end

theorem addExp_inventory (lm : Libm) (data : DataManager) (rnd : Nat → Nat) (p : Player)
    (amount : Int) (near : List Int) (s : Scene) :
    (p.addExp lm data rnd amount near s).1.inventory = p.inventory := by
  have hgain : (p.gainExp amount).1.inventory = p.inventory := by
    obtain ⟨e, m, l, h⟩ := gainExp_same p amount
    rw [h]
  unfold addExp
  split
  · rfl
  · dsimp only
    split
    · split
      · exact hgain
      · exact hgain
    · exact hgain

/-! ## The evolution -/

/-- One weapon at its maximum was replaced by its evolution; one that evolves into itself is back at
level 1. -/
structure Replaced (data : DataManager) (p q : Player) (weaponId evolutionId : Int) : Prop where
  owned : weaponId ∈ p.inventory.getOwnedWeaponIds
  maxed : ∃ info, data.weapons.lookup weaponId = some info ∧ info.evolutionId = evolutionId ∧
    info.maxLevel ≤ p.inventory.getWeaponLevel weaponId ∧
    p.inventory.hasPassive info.evolutionPassiveId = true
  gone : weaponId ≠ evolutionId → q.inventory.weapons.lookup weaponId = none
  evolved : q.inventory.weapons.lookup evolutionId = some 1
  others : ∀ id, id ≠ weaponId → id ≠ evolutionId → q.inventory.weapons.lookup id =
    p.inventory.weapons.lookup id
  count : q.inventory.getOwnedWeaponIds.length = p.inventory.getOwnedWeaponIds.length
  passives : q.inventory.passives = p.inventory.passives
  emitter : ∃ e ∈ q.emitters, e.weaponId = evolutionId ∧ e.level = 1

/-- Nothing happens or one weapon is replaced, and the evolution of the weapon that is due is owned
with an emitter afterwards. -/
structure Evolves (data : DataManager) (p q : Player) : Prop where
  change : q = p ∨ ∃ weaponId evolutionId, Replaced data p q weaponId evolutionId
  armed : ∀ weaponId evolutionId, firstDue data p.inventory = some (weaponId, evolutionId) →
    evolutionId ∈ q.inventory.getOwnedWeaponIds ∧ ∃ e ∈ q.emitters, e.weaponId = evolutionId

/-- The first evolution that is due leads to a weapon that is not owned, or to the weapon itself,
and there is a row for its first level or an emitter that stays. -/
def FreshEvolution (data : DataManager) (p : Player) : Prop :=
  ∀ due ∈ firstDue data p.inventory,
    (due.2 = due.1 ∨ due.2 ∉ p.inventory.getOwnedWeaponIds) ∧
      ((newEmitter data due.2 1).isSome ∨ due.2 ≠ due.1 ∧ ∃ e ∈ p.emitters, e.weaponId = due.2)

instance (data : DataManager) (p : Player) : Decidable (FreshEvolution data p) :=
  inferInstanceAs (Decidable (∀ _ ∈ _, _))

theorem evolutionDue_eq_some {inv : PlayerInventory} {weaponId evolutionId : Int}
    (h : evolutionDue data inv weaponId = some evolutionId) :
    ∃ info, data.weapons.lookup weaponId = some info ∧ info.evolutionId = evolutionId ∧
      info.maxLevel ≤ inv.getWeaponLevel weaponId ∧
      inv.hasPassive info.evolutionPassiveId = true := by
  unfold evolutionDue at h
  split at h
  · cases h
  · next info hinfo =>
    split at h
    · next hdue =>
      cases h
      exact ⟨info, hinfo, rfl, hdue.2.2.1, hdue.2.2.2⟩
    · cases h

/-- Taking out one weapon leaves a slot for another that is not owned. -/
theorem addOrUpgrade_erase {owned : AList fun _ : Int => Int} {weaponId evolutionId : Int}
    (h : Slots owned) (hmem : weaponId ∈ owned.keys)
    (hnew : evolutionId = weaponId ∨ evolutionId ∉ owned.keys) (maxLevel : Option Int) :
    (addOrUpgrade (owned.erase weaponId) maxLevel evolutionId).2 =
      (owned.erase weaponId).insert evolutionId 1 ∧
      ((owned.erase weaponId).insert evolutionId 1).keys.length = owned.keys.length := by
  have hpos : 0 < owned.keys.length := List.length_pos_of_mem hmem
  have hlength : (owned.erase weaponId).keys.length = owned.keys.length - 1 := by
    rw [AList.keys_erase, List.length_erase_of_mem hmem]
  have hnot : evolutionId ∉ (owned.erase weaponId).keys := by
    rw [AList.keys_erase]
    rcases hnew with rfl | hnew
    · exact (AList.keys_nodup owned).not_mem_erase
    · exact fun hin => hnew (List.mem_of_mem_erase hin)
  have hlookup : (owned.erase weaponId).lookup evolutionId = none := by
    rw [AList.lookup_eq_none, AList.mem_keys]
    exact hnot
  have hfree : ¬maxSlots ≤ (owned.erase weaponId).keys.length := by
    have := h.length_le
    omega
  constructor
  · unfold addOrUpgrade
    rw [hlookup]
    dsimp only
    rw [if_neg hfree]
  · rw [length_keys_insert_of_not_mem hnot]
    omega

theorem any_equip (inv : PlayerInventory) (es : List DamageEmitter) (x id : Int) :
    (equip data inv es x).any (·.weaponId == id) =
      (es.any (·.weaponId == id) ||
        (x == id && (newEmitter data x (inv.getWeaponLevel x)).isSome)) := by
  by_cases hx : x = id
  · subst hx
    rw [any_eq_isSome_find, any_eq_isSome_find]
    simp only [equip, any_eq_isSome_find]
    cases hf : es.find? (·.weaponId == x) with
    | some e => simp [find_setLevelOf hf]
    | none =>
      cases hn : newEmitter data x (inv.getWeaponLevel x) with
      | none => simp [hf]
      | some e => simp [List.find?_append, hf, (weaponId_newEmitter hn).1]
  · rw [any_eq_isSome_find, find_equip_of_ne (Ne.symm hx), ← any_eq_isSome_find]
    simp [hx]

theorem any_foldl_equip (inv : PlayerInventory) (id : Int) (ids : List Int)
    (es : List DamageEmitter) : (ids.foldl (equip data inv) es).any (·.weaponId == id) =
      (es.any (·.weaponId == id) ||
        (ids.contains id && (newEmitter data id (inv.getWeaponLevel id)).isSome)) := by
  induction ids generalizing es with
  | nil => simp
  | cons x ids ih =>
    rw [List.foldl_cons, ih, any_equip, List.contains_cons]
    by_cases hx : x = id
    · subst hx
      cases (newEmitter data x (inv.getWeaponLevel x)).isSome <;> simp
    · rw [beq_false_of_ne hx, beq_false_of_ne (Ne.symm hx)]
      simp

/-- An owned weapon has an emitter after a refresh just if it had one before or the tables have its
level. -/
theorem emitter_refresh_iff {id : Int} (hid : id ∈ p.inventory.getOwnedWeaponIds) :
    (∃ e ∈ p.refreshedEmitters data, e.weaponId = id) ↔
      (∃ e ∈ p.emitters, e.weaponId = id) ∨
      (newEmitter data id (p.inventory.getWeaponLevel id)).isSome := by
  have hany : ∀ es : List DamageEmitter, (∃ e ∈ es, e.weaponId = id) ↔
      es.any (·.weaponId == id) = true := by
    intro es
    simp
  have hkept :
      (p.emitters.filter fun e => e.weaponId ==
        0 || p.inventory.getOwnedWeaponIds.contains e.weaponId).any
      (·.weaponId == id) = p.emitters.any (·.weaponId == id) := by
    rw [List.any_filter]
    congr 1
    funext e
    by_cases he : e.weaponId = id
    · simp [he, hid]
    · simp [he]
  rw [hany, hany]
  simp only [refreshedEmitters]
  rw [any_foldl_equip, hkept, List.contains_iff_mem.mpr hid, Bool.true_and, Bool.or_eq_true]

theorem level_of_refresh {id : Int} (hid : id ∈ p.inventory.getOwnedWeaponIds)
    (h : ∃ e ∈ p.refreshedEmitters data, e.weaponId = id) :
    ∃ e ∈ p.refreshedEmitters data, e.weaponId = id ∧ e.level = p.inventory.getWeaponLevel id := by
  have hequipped : Equipped data p.inventory (p.refreshedEmitters data) id :=
    equipped_foldl (.inl hid)
  obtain ⟨e, he, hweapon⟩ := h
  unfold Equipped at hequipped
  split at hequipped
  · next e hfind =>
    have hweapon : e.weaponId = id := by
      have := List.find?_some hfind
      exact beq_iff_eq.mp this
    exact ⟨e, List.mem_of_find?_eq_some hfind, hweapon, hequipped⟩
  · next hfind => exact absurd hweapon (by simpa using List.find?_eq_none.mp hfind e he)

section

variable {weaponId evolutionId : Int} (h : Slots p.inventory.weapons)
  (hmem : weaponId ∈ p.inventory.getOwnedWeaponIds)
  (hnew : evolutionId = weaponId ∨ evolutionId ∉ p.inventory.getOwnedWeaponIds)
include h hmem hnew

theorem evolve_weapons : (p.evolve data weaponId evolutionId).inventory.weapons =
    (p.inventory.weapons.erase weaponId).insert evolutionId 1 :=
  (addOrUpgrade_erase h hmem hnew ((data.weapons.lookup evolutionId).map WeaponInfo.maxLevel)).1

theorem evolve_level :
    (p.evolve data weaponId evolutionId).inventory.getWeaponLevel evolutionId = 1 := by
  unfold getWeaponLevel
  rw [evolve_weapons h hmem hnew, AList.lookup_insert]
  rfl

theorem mem_evolve :
    evolutionId ∈ (p.evolve data weaponId evolutionId).inventory.getOwnedWeaponIds := by
  unfold getOwnedWeaponIds
  rw [evolve_weapons h hmem hnew, AList.keys_insert]
  exact List.mem_cons_self

/-- The evolved weapon has an emitter just if the tables have its first level or one is left of an
earlier time. -/
theorem emitter_evolve_iff :
    (∃ e ∈ (p.evolve data weaponId evolutionId).emitters, e.weaponId = evolutionId) ↔
      (newEmitter data evolutionId 1).isSome ∨
        evolutionId ≠ weaponId ∧ ∃ e ∈ p.emitters, e.weaponId = evolutionId := by
  refine (emitter_refresh_iff (p := { p with
    inventory := ((p.inventory.removeWeapon weaponId).addOrUpgradeWeapon data evolutionId).2
    emitters := p.emitters.filter fun e => e.weaponId != weaponId }) (mem_evolve h hmem hnew)).trans
      ?_
  have hlevel : PlayerInventory.getWeaponLevel
      ((p.inventory.removeWeapon weaponId).addOrUpgradeWeapon data evolutionId).2
      evolutionId = 1 := evolve_level h hmem hnew
  rw [hlevel, or_comm]
  refine or_congr Iff.rfl ?_
  constructor
  · rintro ⟨e, he, heq⟩
    obtain ⟨hin, hne⟩ := List.mem_filter.mp he
    exact ⟨heq ▸ bne_iff_ne.mp hne, e, hin, heq⟩
  · rintro ⟨hne, e, hin, heq⟩
    exact ⟨e, List.mem_filter.mpr ⟨hin, bne_iff_ne.mpr (heq ▸ hne)⟩, heq⟩

theorem replaced_evolve (hdue : evolutionDue data p.inventory weaponId = some evolutionId)
    (hemitter : ∃ e ∈ (p.evolve data weaponId evolutionId).emitters, e.weaponId = evolutionId) :
    Replaced data p (p.evolve data weaponId evolutionId) weaponId evolutionId where
  owned := hmem
  maxed := evolutionDue_eq_some hdue
  gone := fun hne => by
    rw [evolve_weapons h hmem hnew, AList.lookup_insert_ne hne, AList.lookup_erase]
  evolved := by rw [evolve_weapons h hmem hnew, AList.lookup_insert]
  others := fun id hid hid' => by
    rw [evolve_weapons h hmem hnew, AList.lookup_insert_ne hid', AList.lookup_erase_ne hid]
  count := by
    unfold getOwnedWeaponIds
    rw [evolve_weapons h hmem hnew]
    exact (addOrUpgrade_erase h hmem hnew none).2
  passives := rfl
  emitter := by
    obtain ⟨e, he, hweapon, hl⟩ := level_of_refresh
      (p := { p with
        inventory := ((p.inventory.removeWeapon weaponId).addOrUpgradeWeapon data evolutionId).2
        emitters := p.emitters.filter fun e => e.weaponId != weaponId })
          (mem_evolve h hmem hnew) hemitter
    exact ⟨e, he, hweapon, hl.trans (evolve_level h hmem hnew)⟩

end

/-- An evolution to a weapon that is owned leaves one weapon less, whatever `AddOrUpgradeWeapon`
makes of it. -/
theorem length_evolve_of_owned {weaponId evolutionId : Int}
    (hmem : weaponId ∈ p.inventory.getOwnedWeaponIds) (hne : evolutionId ≠ weaponId)
    (howned : evolutionId ∈ p.inventory.getOwnedWeaponIds) :
    (p.evolve data weaponId evolutionId).inventory.getOwnedWeaponIds.length <
      p.inventory.getOwnedWeaponIds.length := by
  have hpos := List.length_pos_of_mem hmem
  have hlength : (p.inventory.weapons.erase weaponId).keys.length =
      p.inventory.getOwnedWeaponIds.length - 1 := by
    rw [AList.keys_erase]
    exact List.length_erase_of_mem hmem
  have hin : evolutionId ∈ (p.inventory.weapons.erase weaponId).keys := by
    rw [AList.keys_erase]
    exact (List.mem_erase_of_ne hne).mpr howned
  obtain ⟨level, hlevel⟩ :=
    Option.isSome_iff_exists.mp (AList.lookup_isSome.mpr (AList.mem_keys.mpr hin))
  have hkept :
      (addOrUpgrade (p.inventory.weapons.erase weaponId)
        ((data.weapons.lookup evolutionId).map (·.maxLevel))
      evolutionId).2.keys.length = (p.inventory.weapons.erase weaponId).keys.length := by
    unfold addOrUpgrade
    rw [hlevel]
    dsimp only
    split
    · rfl
    · split
      · rfl
      · exact length_keys_insert_of_mem hin
  show (addOrUpgrade (p.inventory.weapons.erase weaponId)
    ((data.weapons.lookup evolutionId).map (·.maxLevel)) evolutionId).2.keys.length < _
  omega

/-- What is asked of an evolution needs a target that is free. -/
theorem Evolves.free {weaponId evolutionId : Int} (hmem : weaponId ∈ p.inventory.getOwnedWeaponIds)
    (h : Evolves data p (p.evolve data weaponId evolutionId)) :
    evolutionId = weaponId ∨ evolutionId ∉ p.inventory.getOwnedWeaponIds := by
  by_contra hc
  obtain ⟨hne, howned⟩ := not_or.mp hc
  have hless : (p.evolve data weaponId evolutionId).inventory.getOwnedWeaponIds.length < _ :=
    length_evolve_of_owned hmem hne (not_not.mp howned)
  rcases h.change with hsame | ⟨w, e, hreplaced⟩
  · rw [hsame] at hless
    exact lt_irrefl _ hless
  · exact hless.ne hreplaced.count

/-- **An evolution replaces one weapon** or nothing happens, and the evolved weapon is armed, just
if the first evolution that is due is a fresh one. -/
theorem evolution_replaces_one (data : DataManager) (p : Player)
    (hreach : Reachable data p.inventory) :
    Evolves data p (p.checkWeaponEvolutions data) ↔ FreshEvolution data p := by
  have hslots := hreach.slots.1
  cases hfirst : firstDue data p.inventory with
  | none =>
    rw [checkWeaponEvolutions_of_none hfirst]
    refine iff_of_true ⟨.inl rfl, fun w e h => ?_⟩ fun due h => ?_
    · rw [hfirst] at h
      cases h
    · rw [hfirst] at h
      cases h
  | some due =>
    obtain ⟨weaponId, evolutionId⟩ := due
    rw [checkWeaponEvolutions_of_some hfirst]
    obtain ⟨hmem, hdue⟩ := of_firstDue hfirst
    constructor
    · intro h due' hdue'
      cases hfirst.symm.trans hdue'
      have hfree := h.free hmem
      exact ⟨hfree, (emitter_evolve_iff hslots hmem hfree).mp (h.armed _ _ hfirst).2⟩
    · intro h
      obtain ⟨hfree, hemitter⟩ := h (weaponId, evolutionId) hfirst
      have harmed : ∃ e ∈ (p.evolve data weaponId evolutionId).emitters, e.weaponId = evolutionId :=
        (emitter_evolve_iff hslots hmem hfree).mpr hemitter
      refine ⟨.inr ⟨weaponId, evolutionId, replaced_evolve hslots hmem hfree hdue harmed⟩,
        fun w e hwe => ?_⟩
      cases hfirst.symm.trans hwe
      exact ⟨mem_evolve hslots hmem hfree, harmed⟩

end Player

/-! ## Two tables -/

/-- Weapon 1 evolves to `target` with passive 5, and weapon 2 is there as well. -/
def evolving (target : Int) : DataManager where
  monsters := fun _ => some zombie
  player := some (100, 5, [1, 2])
  weapons :=
    ((∅ : AList fun _ : Int => WeaponInfo).insert 2 ⟨2, "Axe", "Cuts", 1, 100, 0, 0,
    [⟨1, 20, "One"⟩]⟩).insert 1 ⟨1, "Wand", "Shoots", 1, 100, target, 5, [⟨1, 10, "One"⟩]⟩
  passives :=
    (∅ : AList fun _ : Int => PassiveInfo).insert 5 ⟨"Heart", "Max hp", "max_hp", 1, 100,
      [⟨1, binary32 (1 / 5), "+20%"⟩]⟩
  waves := []

section
variable (target : Int) (skills : List Int) (optionIndex : Int)

/-- A player with the given default skills that gains a level and makes a choice. -/
def chosen : Player :=
  let p := (Player.create (evolving target) 5).addDefaultSkills (evolving target) skills
  let p := (p.addExp stillLibm (evolving target) id 100 [] oneMonster).1
  (LevelUpManager.applySelection (evolving target) p optionIndex).2

theorem reachable_chosen :
    PlayerInventory.Reachable (evolving target) (chosen target skills optionIndex).inventory := by
  refine Player.reachable_applySelection ?_ optionIndex
  rw [Player.addExp_inventory]
  exact Player.reachable_addDefaultSkills .empty skills

end

/-- The wand becomes an axe. -/
theorem evolution_replaces_one_wand :
    (chosen 2 [1] 1).inventory.getOwnedWeaponIds = [1] ∧
      ((chosen 2 [1] 1).checkWeaponEvolutions (evolving 2)).inventory.getOwnedWeaponIds = [2] ∧
      Player.Evolves (evolving 2) (chosen 2 [1] 1)
      ((chosen 2 [1] 1).checkWeaponEvolutions (evolving 2)) :=
  ⟨by decide +kernel, by decide +kernel,
    (Player.evolution_replaces_one (evolving 2) (chosen 2 [1] 1) (reachable_chosen 2 [1] 1)).mpr
    (by decide +kernel)⟩

/-- A player that starts with the wand and the axe is left with the axe, at the level it had; and a
weapon that the table does not have is owned without an emitter. -/
theorem evolution_loses_weapon :
    PlayerInventory.Reachable (evolving 2) (chosen 2 [1, 2] 0).inventory ∧
    (chosen 2 [1, 2] 0).inventory.getOwnedWeaponIds = [2, 1] ∧
    ((chosen 2 [1, 2] 0).checkWeaponEvolutions (evolving 2)).inventory.getOwnedWeaponIds = [2] ∧
    ((chosen 2 [1, 2] 0).checkWeaponEvolutions (evolving 2)).inventory.getWeaponLevel 2 = 1 ∧
    PlayerInventory.Reachable (evolving 9) (chosen 9 [1] 1).inventory ∧
    ((chosen 9 [1] 1).checkWeaponEvolutions (evolving 9)).inventory.getOwnedWeaponIds = [9] ∧
    ((chosen 9 [1] 1).checkWeaponEvolutions (evolving 9)).emitters = [] :=
  ⟨reachable_chosen 2 [1,
    2] 0, by decide +kernel, by decide +kernel, by decide +kernel, reachable_chosen 9 [1] 1,
    by decide +kernel, by decide +kernel⟩

end ToyServer.SimpleGame
