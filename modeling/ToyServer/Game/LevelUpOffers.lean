import ToyServer.Game.WeaponEvolution

/-!
# Options that can be taken

The pool of a level-up treats a weapon that others evolve into like any other weapon, and offers it
for a base weapon that is due besides.  So an item may be offered twice, an evolved weapon may be
offered for which there is no slot, and one may be offered to a player that has none of what it
evolves from (`illegal_offers`).

Where no row offers an evolution, and targets of evolutions are offered to players that have their
base only (`Quiet`), every offer is legal (`offers_are_legal`); for tables as the loader makes them
that is also necessary (`quiet_of_legal`).
-/

namespace ToyServer.SimpleGame

namespace LevelUpManager

/-! ## What a row offers -/

def item (opt : LevelUpOption) : LevelUpOptionType × Int := (opt.type, opt.itemId)

/-- Whether the branch that weapons and passives share offers the item. -/
def plainOffer (currentLevel maxLevel : Int) (emptySlot : Bool) : Bool :=
  if currentLevel = 0 then emptySlot else decide (currentLevel < maxLevel)

theorem item_plainCandidate (optionId : Int) (type : LevelUpOptionType) (itemId : Int)
    (name description : String) (currentLevel maxLevel : Int) (emptySlot : Bool)
    (levelDesc : Option String) :
    (plainCandidate optionId type itemId name description currentLevel maxLevel emptySlot
      levelDesc).map item =
      if plainOffer currentLevel maxLevel emptySlot then some (type, itemId) else none := by
  unfold plainCandidate plainOffer
  by_cases h0 : currentLevel = 0
  · rw [if_pos h0, if_pos h0]
    cases emptySlot with
    | false => rfl
    | true => rfl
  · rw [if_neg h0, if_neg h0]
    by_cases hlt : currentLevel < maxLevel
    · simp [hlt, item]
    · simp [hlt]

/-- The item a row of the weapons offers. -/
def weaponOffer (data : DataManager) (inv : PlayerInventory) (e : Sigma fun _ : Int => WeaponInfo) :
    Option (LevelUpOptionType × Int) := (weaponCandidate data inv 0 e.1 e.2).map item

def passiveOffer (inv : PlayerInventory) (e : Sigma fun _ : Int => PassiveInfo) :
    Option (LevelUpOptionType × Int) :=
  (passiveCandidate inv 0 e.1 e.2).map item

variable {data : DataManager} {inv : PlayerInventory}

/-- The evolved weapon is offered for a base at its maximum, if the table has it and it is not
owned. -/
theorem evolvedCandidate_eq_some {optionId weaponId : Int} {tmpl : WeaponInfo} {opt : LevelUpOption}
    (h : evolvedCandidate data inv optionId weaponId tmpl = some opt) :
    tmpl.maxLevel ≤ inv.getWeaponLevel weaponId ∧ 0 < tmpl.evolutionId ∧
      0 < inv.getPassiveLevel tmpl.evolutionPassiveId ∧
      ∃ evo, data.weapons.lookup tmpl.evolutionId = some evo ∧ inv.getWeaponLevel evo.id = 0 ∧
        item opt = (.weapon, evo.id) := by
  unfold evolvedCandidate at h
  split at h
  · next hdue =>
    split at h
    · cases h
    · next evo hevo =>
      split at h
      · next hlevel =>
        cases h
        exact ⟨hdue.1, hdue.2.1, hdue.2.2, evo, hevo, hlevel, rfl⟩
      · cases h
  · cases h

theorem item_evolvedCandidate (data : DataManager) (inv : PlayerInventory) (optionId weaponId : Int)
    (tmpl : WeaponInfo) :
    (evolvedCandidate data inv optionId weaponId tmpl).map item =
      (evolvedCandidate data inv 0 weaponId tmpl).map item := by
  unfold evolvedCandidate
  split
  · split
    · rfl
    · split <;> rfl
  · rfl

theorem weaponOffer_of_none {e : Sigma fun _ : Int => WeaponInfo}
    (h : evolvedCandidate data inv 0 e.1 e.2 = none) : weaponOffer data inv e =
      if plainOffer (inv.getWeaponLevel e.1) e.2.maxLevel inv.hasEmptyWeaponSlot then
        some (.weapon, e.1) else none := by
  unfold weaponOffer weaponCandidate
  rw [h]
  exact item_plainCandidate ..

theorem weaponOffer_of_some {e : Sigma fun _ : Int => WeaponInfo} {opt : LevelUpOption}
    (h : evolvedCandidate data inv 0 e.1 e.2 = some opt) :
    weaponOffer data inv e = some (item opt) := by
  unfold weaponOffer weaponCandidate
  rw [h]
  rfl

theorem item_weaponCandidate (optionId : Int) (e : Sigma fun _ : Int => WeaponInfo) :
    (weaponCandidate data inv optionId e.1 e.2).map item = weaponOffer data inv e := by
  have hitem := item_evolvedCandidate data inv optionId e.1 e.2
  cases h : evolvedCandidate data inv 0 e.1 e.2 with
  | some opt =>
    rw [h] at hitem
    obtain ⟨opt', h', heq⟩ := Option.map_eq_some_iff.mp hitem
    rw [weaponOffer_of_some h]
    unfold weaponCandidate
    rw [h', ← heq]
    rfl
  | none =>
    rw [h] at hitem
    have h' : evolvedCandidate data inv optionId e.1 e.2 = none := Option.map_eq_none_iff.mp hitem
    rw [weaponOffer_of_none h]
    unfold weaponCandidate
    rw [h']
    exact item_plainCandidate ..

theorem passiveOffer_eq (e : Sigma fun _ : Int => PassiveInfo) :
    passiveOffer inv e =
      if plainOffer (inv.getPassiveLevel e.1) e.2.maxLevel inv.hasEmptyPassiveSlot then
        some (.passive, e.1) else none :=
  item_plainCandidate ..

theorem item_passiveCandidate (optionId : Int) (e : Sigma fun _ : Int => PassiveInfo) :
    (passiveCandidate inv optionId e.1 e.2).map item = passiveOffer inv e := by
  rw [passiveOffer_eq]
  exact item_plainCandidate ..

/-! ## The pool -/

theorem items_foldl {ε : Type} (candidate : Int → ε → Option LevelUpOption)
    {offer : ε → Option (LevelUpOptionType × Int)} (h : ∀ n e, (candidate n e).map item = offer e)
    (entries : List ε) (pool : List LevelUpOption) :
    (entries.foldl (fun pool e => pool ++ (candidate pool.length e).toList) pool).map item =
      pool.map item ++ entries.filterMap offer := by
  induction entries generalizing pool with
  | nil => simp
  | cons e entries ih =>
    rw [List.foldl_cons, ih, List.map_append, List.append_assoc]
    have hrow : (candidate pool.length e).toList.map item ++ entries.filterMap offer =
        (e :: entries).filterMap offer := by
      rw [List.filterMap_cons, ← h pool.length e]
      cases candidate pool.length e with
      | none => rfl
      | some opt => rfl
    rw [hrow]

theorem items_buildCandidatePool (data : DataManager) (inv : PlayerInventory) :
    (buildCandidatePool data inv).map item =
      data.weapons.entries.filterMap (weaponOffer data inv) ++ data.passives.entries.filterMap
      (passiveOffer inv) := by
  unfold buildCandidatePool
  dsimp only
  rw [items_foldl (fun n (e : Sigma fun _ : Int => PassiveInfo) => passiveCandidate inv n e.1 e.2)
    item_passiveCandidate,
    items_foldl (fun n (e : Sigma fun _ : Int => WeaponInfo) => weaponCandidate data inv n e.1 e.2)
    item_weaponCandidate]
  rfl

/-! ## Legal offers -/

/-- Some other weapon evolves into this one. -/
def IsTarget (data : DataManager) (weaponId : Int) : Prop :=
  ∃ e ∈ data.weapons.entries, e.1 ≠ weaponId ∧ 0 < e.2.evolutionId ∧ e.2.evolutionId = weaponId

/-- A weapon that evolves into this one is owned at its maximum level, with the passive it needs. -/
def BaseReady (data : DataManager) (inv : PlayerInventory) (weaponId : Int) : Prop :=
  ∃ e ∈ data.weapons.entries, e.1 ≠ weaponId ∧ e.2.evolutionId = weaponId ∧
    e.1 ∈ inv.getOwnedWeaponIds ∧
    e.2.maxLevel ≤ inv.getWeaponLevel e.1 ∧ 0 < inv.getPassiveLevel e.2.evolutionPassiveId

instance (data : DataManager) (weaponId : Int) : Decidable (IsTarget data weaponId) :=
  inferInstanceAs (Decidable (∃ _ ∈ _, _))

instance (data : DataManager) (inv : PlayerInventory) (weaponId : Int) :
    Decidable (BaseReady data inv weaponId) :=
  inferInstanceAs (Decidable (∃ _ ∈ _, _))

structure LegalPool (data : DataManager) (inv : PlayerInventory) : Prop where
  distinct : ((buildCandidatePool data inv).map item).Nodup
  /-- every option can be taken -/
  accepted : ∀ opt ∈ buildCandidatePool data inv, (grant data inv opt).1 = true
  /-- evolved weapons are for those who have the base -/
  evolved : ∀ opt ∈ buildCandidatePool data inv, opt.type = .weapon → IsTarget data opt.itemId →
    BaseReady data inv opt.itemId

/-- No row offers an evolution; a target of one that is not owned has no slot, and one that can grow
has its base. -/
def Quiet (data : DataManager) (inv : PlayerInventory) : Prop :=
  ∀ e ∈ data.weapons.entries, evolvedCandidate data inv 0 e.1 e.2 = none ∧ (IsTarget data e.1 →
    (inv.getWeaponLevel e.1 = 0 → inv.hasEmptyWeaponSlot = false) ∧
    (0 < inv.getWeaponLevel e.1 → inv.getWeaponLevel e.1 < e.2.maxLevel → BaseReady data inv e.1))

instance (data : DataManager) (inv : PlayerInventory) : Decidable (Quiet data inv) :=
  inferInstanceAs (Decidable (∀ _ ∈ _, _))

open PlayerInventory

/-- What the pool offers by the common branch the inventory accepts. -/
theorem addOrUpgrade_of_plainOffer {owned : AList fun _ : Int => Int} {id maxLevel : Int}
    (h : Slots owned)
    (hoffer : plainOffer ((owned.lookup id).getD 0) maxLevel
      (decide (owned.keys.length < maxSlots)) = true) :
    (addOrUpgrade owned (some maxLevel) id).1 = true := by
  unfold plainOffer at hoffer
  unfold addOrUpgrade
  cases hl : owned.lookup id with
  | none =>
    rw [hl] at hoffer
    have hfree : owned.keys.length < maxSlots := by simpa using hoffer
    dsimp only
    rw [if_neg (by omega)]
  | some level =>
    have hpos := h.level_pos id level hl
    have hne : ¬level = 0 := by omega
    rw [hl, Option.getD_some, if_neg hne] at hoffer
    have hlt : level < maxLevel := of_decide_eq_true hoffer
    dsimp only
    rw [if_neg (by omega)]

theorem grant_weapon {opt : LevelUpOption} {id : Int} (h : item opt = (.weapon, id)) :
    (grant data inv opt).1 =
      (addOrUpgrade inv.weapons ((data.weapons.lookup id).map (·.maxLevel)) id).1 := by
  obtain ⟨htype, hid⟩ := Prod.mk.inj h
  unfold grant
  rw [htype, hid]
  rfl

theorem grant_passive {opt : LevelUpOption} {id : Int} (h : item opt = (.passive, id)) :
    (grant data inv opt).1 =
      (addOrUpgrade inv.passives ((data.passives.lookup id).map (·.maxLevel)) id).1 := by
  obtain ⟨htype, hid⟩ := Prod.mk.inj h
  unfold grant
  rw [htype, hid]
  rfl

theorem mem_pool {opt : LevelUpOption} (h : opt ∈ buildCandidatePool data inv) :
    (∃ e ∈ data.weapons.entries, weaponOffer data inv e = some (item opt)) ∨
      ∃ e ∈ data.passives.entries, passiveOffer inv e = some (item opt) := by
  have hmem := List.mem_map_of_mem (f := item) h
  rw [items_buildCandidatePool] at hmem
  rcases List.mem_append.mp hmem with hmem | hmem
  · exact .inl (List.mem_filterMap.mp hmem)
  · exact .inr (List.mem_filterMap.mp hmem)

theorem Quiet.weaponOffer {e : Sigma fun _ : Int => WeaponInfo} {x : LevelUpOptionType × Int}
    (h : Quiet data inv) (he : e ∈ data.weapons.entries)
    (hoffer : weaponOffer data inv e = some x) :
    plainOffer (inv.getWeaponLevel e.1) e.2.maxLevel inv.hasEmptyWeaponSlot = true ∧
    x = (.weapon, e.1) := by
  rw [weaponOffer_of_none (h e he).1] at hoffer
  split at hoffer
  · next hplain =>
    cases hoffer
    exact ⟨hplain, rfl⟩
  · cases hoffer

theorem passiveOffer_eq_some {e : Sigma fun _ : Int => PassiveInfo} {x : LevelUpOptionType × Int}
    (hoffer : passiveOffer inv e = some x) :
    plainOffer (inv.getPassiveLevel e.1) e.2.maxLevel inv.hasEmptyPassiveSlot = true ∧
    x = (.passive, e.1) := by
  rw [passiveOffer_eq] at hoffer
  split at hoffer
  · next hplain =>
    cases hoffer
    exact ⟨hplain, rfl⟩
  · cases hoffer

/-- Rows that offer their own key at most offer nothing twice. -/
theorem nodup_offers {β : Type} (type : LevelUpOptionType) {entries : List (Sigma fun _ : Int => β)}
    {offer : (Sigma fun _ : Int => β) → Option (LevelUpOptionType × Int)}
    (hnodup : (entries.map Sigma.fst).Nodup)
    (h : ∀ e ∈ entries, ∀ x, offer e = some x → x = (type, e.1)) :
    (entries.filterMap offer).Nodup := by
  induction entries with
  | nil => exact List.nodup_nil
  | cons e entries ih =>
    obtain ⟨he, hrest⟩ := List.nodup_cons.mp hnodup
    have htail := ih hrest fun e' he' => h e' (List.mem_cons_of_mem _ he')
    rw [List.filterMap_cons]
    cases hoffer : offer e with
    | none => exact htail
    | some x =>
      refine List.nodup_cons.mpr ⟨?_, htail⟩
      intro hmem
      obtain ⟨e', he', hoffer'⟩ := List.mem_filterMap.mp hmem
      have hx := h e List.mem_cons_self x hoffer
      have hx' := h e' (List.mem_cons_of_mem _ he') x hoffer'
      have hkey : e'.1 = e.1 := (Prod.mk.inj (hx'.symm.trans hx)).2
      exact he (List.mem_map.mpr ⟨e', he', hkey⟩)

theorem distinct_of_quiet (h : Quiet data inv) :
    ((buildCandidatePool data inv).map item).Nodup := by
  rw [items_buildCandidatePool]
  refine List.Nodup.append ?_ ?_ ?_
  · exact nodup_offers .weapon data.weapons.nodupKeys fun e he x hoffer =>
      (h.weaponOffer he hoffer).2
  · exact nodup_offers .passive data.passives.nodupKeys fun e _ x hoffer =>
      (passiveOffer_eq_some hoffer).2
  · intro x hw hp
    obtain ⟨e, he, hoffer⟩ := List.mem_filterMap.mp hw
    obtain ⟨e', -, hoffer'⟩ := List.mem_filterMap.mp hp
    have hx := (h.weaponOffer he hoffer).2
    have hx' := (passiveOffer_eq_some hoffer').2
    have htype : LevelUpOptionType.weapon = .passive := (Prod.mk.inj (hx.symm.trans hx')).1
    cases htype

theorem accepted_of_quiet (hreach : Reachable data inv) (h : Quiet data inv) {opt : LevelUpOption}
    (hopt : opt ∈ buildCandidatePool data inv) : (grant data inv opt).1 = true := by
  obtain ⟨hweapons, hpassives⟩ := hreach.slots
  rcases mem_pool hopt with ⟨e, he, hoffer⟩ | ⟨e, he, hoffer⟩
  · obtain ⟨hplain, hitem⟩ := h.weaponOffer he hoffer
    have hrow : data.weapons.lookup e.1 = some e.2 := Table.mem_entries_iff.mp he
    rw [grant_weapon hitem, hrow]
    exact addOrUpgrade_of_plainOffer hweapons hplain
  · obtain ⟨hplain, hitem⟩ := passiveOffer_eq_some hoffer
    have hrow : data.passives.lookup e.1 = some e.2 := Table.mem_entries_iff.mp he
    rw [grant_passive hitem, hrow]
    exact addOrUpgrade_of_plainOffer hpassives hplain

theorem evolved_of_quiet (hreach : Reachable data inv) (h : Quiet data inv) {opt : LevelUpOption}
    (hopt : opt ∈ buildCandidatePool data inv) (htype : opt.type = .weapon)
    (htarget : IsTarget data opt.itemId) : BaseReady data inv opt.itemId := by
  rcases mem_pool hopt with ⟨e, he, hoffer⟩ | ⟨e, he, hoffer⟩
  · obtain ⟨hplain, hitem⟩ := h.weaponOffer he hoffer
    have hid : opt.itemId = e.1 := (Prod.mk.inj hitem).2
    rw [hid] at htarget ⊢
    obtain ⟨hunowned, hgrowing⟩ := (h e he).2 htarget
    unfold plainOffer at hplain
    split at hplain
    · next h0 =>
      rw [hunowned h0] at hplain
      cases hplain
    · next h0 =>
      have hpos : 0 < inv.getWeaponLevel e.1 := by
        unfold getWeaponLevel at h0 ⊢
        cases hl : inv.weapons.lookup e.1 with
        | none =>
          rw [hl] at h0
          exact absurd rfl h0
        | some level => exact hreach.slots.1.level_pos e.1 level hl
      exact hgrowing hpos (of_decide_eq_true hplain)
  · have hpassive : opt.type = .passive := (Prod.mk.inj (passiveOffer_eq_some hoffer).2).1
    rw [htype] at hpassive
    cases hpassive

/-- **Every offer is legal** where no evolution is on offer and targets of evolutions are not
new. -/
theorem offers_are_legal (data : DataManager) (inv : PlayerInventory) (hreach : Reachable data inv)
    (hquiet : Quiet data inv) : LegalPool data inv where
  distinct := distinct_of_quiet hquiet
  accepted := fun _ hopt => accepted_of_quiet hreach hquiet hopt
  evolved := fun _ hopt htype htarget => evolved_of_quiet hreach hquiet hopt htype htarget

/-- A weapon with one level that may evolve with passive 5. -/
def oneLevel (id evolutionId : Int) : WeaponInfo :=
  ⟨id, "Wand", "Shoots", 1, 100, evolutionId, 5, [⟨1, 10, "One"⟩]⟩

/-- Weapon 1 evolves to 2 and weapon 3 to 4, both with passive 5; the other weapons stay what they
are. -/
def forked (others : List Int) : DataManager where
  monsters := fun _ => some zombie
  player := none
  weapons := (others ++ [2, 4]).foldl (fun t id => t.insert id (oneLevel id 0))
    (((∅ : AList fun _ : Int => WeaponInfo).insert 3 (oneLevel 3 4)).insert 1 (oneLevel 1 2))
  passives :=
    (∅ : AList fun _ : Int => PassiveInfo).insert 5 ⟨"Heart", "Max hp", "max_hp", 1, 100,
      [⟨1, binary32 (1 / 5), "+20%"⟩]⟩
  waves := []

section
variable (others skills : List Int)

/-- A player with the given default skills. -/
def starter : Player :=
  (Player.create (forked others) 5).addDefaultSkills (forked others) skills

/-- The same player after a level-up in which it made a choice; of two weapons that are due one has
evolved. -/
def settler (optionIndex : Int) : Player :=
  (selectLevelUp (forked others)
    ((starter others skills).addExp stillLibm (forked others) id 100 [] oneMonster).1
    optionIndex oneMonster).1

theorem reachable_starter : Reachable (forked others) (starter others skills).inventory :=
  Player.reachable_addDefaultSkills .empty skills

theorem reachable_settler (optionIndex : Int) :
    Reachable (forked others) (settler others skills optionIndex).inventory := by
  refine Player.reachable_selectLevelUp ?_ optionIndex oneMonster
  rw [Player.addExp_inventory]
  exact reachable_starter others skills

end

/-- A player that has both evolved weapons is offered the other two, and the passive. -/
theorem offers_are_legal_evolved :
    (buildCandidatePool (forked []) (starter [] [2, 4]).inventory).map item =
      [(.weapon, 1), (.weapon, 3), (.passive, 5)] ∧
      LegalPool (forked []) (starter [] [2, 4]).inventory :=
  ⟨by decide +kernel,
    offers_are_legal (forked []) _ (reachable_starter [] [2, 4]) (by decide +kernel)⟩

/-- A weapon offered twice; a weapon offered without a slot for it; evolved weapons offered to a
player without weapons. -/
theorem illegal_offers :
    (Reachable (forked []) (settler [] [1, 3] 2).inventory ∧
      ¬((buildCandidatePool (forked []) (settler [] [1, 3] 2).inventory).map item).Nodup) ∧
    (Reachable (forked [6, 7, 8, 9]) (settler [6, 7, 8, 9] [1, 3, 6, 7, 8, 9] 0).inventory ∧
      ∃ opt ∈ buildCandidatePool (forked [6, 7, 8, 9])
          (settler [6, 7, 8, 9] [1, 3, 6, 7, 8, 9] 0).inventory,
        (grant (forked [6, 7, 8, 9]) (settler [6, 7, 8, 9] [1, 3, 6, 7, 8, 9] 0).inventory opt).1 =
          false) ∧
    (Reachable (forked []) .empty ∧
      ∃ opt ∈ buildCandidatePool (forked []) .empty, opt.type = .weapon ∧
        IsTarget (forked []) opt.itemId ∧ ¬BaseReady (forked []) .empty opt.itemId) :=
  ⟨⟨reachable_settler [] [1, 3] 2, by decide +kernel⟩,
    ⟨reachable_settler [6, 7, 8, 9] [1, 3, 6, 7, 8, 9] 0, by decide +kernel⟩,
    ⟨.empty, by decide +kernel⟩⟩

/-! ## The condition is exact -/

/-- A table as the loader makes it, with levels to be gained. -/
structure Loaded (data : DataManager) : Prop where
  keyed : ∀ e ∈ data.weapons.entries, e.2.id = e.1
  leveled : ∀ e ∈ data.weapons.entries, 1 ≤ e.2.maxLevel

theorem eq_of_nodup_filterMap {ε ι : Type} {offer : ε → Option ι} {entries : List ε}
    (h : (entries.filterMap offer).Nodup) {a b : ε} {x : ι} (ha : a ∈ entries) (hb : b ∈ entries)
    (hax : offer a = some x) (hbx : offer b = some x) : a = b := by
  by_contra hne
  have hapart := List.pairwise_filterMap.mp h
  have hsymm : Std.Symm fun a b : ε => ∀ x, offer a = some x → ∀ y, offer b = some y → x ≠ y :=
    ⟨fun _ _ hab x hx y hy => (hab y hy x hx).symm⟩
  exact hapart.forall ha hb hne x hax x hbx rfl

theorem mem_pool_of_offer {e : Sigma fun _ : Int => WeaponInfo} {x : LevelUpOptionType × Int}
    (he : e ∈ data.weapons.entries) (hoffer : weaponOffer data inv e = some x) :
    ∃ opt ∈ buildCandidatePool data inv, item opt = x := by
  have hmem : x ∈ (buildCandidatePool data inv).map item := by
    rw [items_buildCandidatePool]
    exact List.mem_append_left _ (List.mem_filterMap.mpr ⟨e, he, hoffer⟩)
  exact List.mem_map.mp hmem

/-- A row that offers an evolution offers what is offered already, or what there is no slot for. -/
theorem no_evolution_of_legal (hdata : Loaded data) (hreach : Reachable data inv)
    (h : LegalPool data inv) {e : Sigma fun _ : Int => WeaponInfo} (he : e ∈ data.weapons.entries) :
    evolvedCandidate data inv 0 e.1 e.2 = none := by
  cases hcand : evolvedCandidate data inv 0 e.1 e.2 with
  | none => rfl
  | some opt =>
    exfalso
    obtain ⟨hmax, -, -, evo, hevo, hlevel, hitem⟩ := evolvedCandidate_eq_some hcand
    have hrow : (⟨e.2.evolutionId, evo⟩ : Sigma fun _ : Int => WeaponInfo) ∈ data.weapons.entries :=
      Table.mem_entries_iff.mpr hevo
    have hid : evo.id = e.2.evolutionId := hdata.keyed _ hrow
    rw [hid] at hlevel hitem
    have hoffer : weaponOffer data inv e = some (.weapon, e.2.evolutionId) := by
      rw [weaponOffer_of_some hcand, hitem]
    cases hslot : inv.hasEmptyWeaponSlot with
    | true =>
      -- the row of the evolved weapon offers it too
      have hone : evolvedCandidate data inv 0 e.2.evolutionId evo = none := by
        cases hc : evolvedCandidate data inv 0 e.2.evolutionId evo with
        | none => rfl
        | some opt' =>
          have hle := (evolvedCandidate_eq_some hc).1
          have hge : 1 ≤ evo.maxLevel := hdata.leveled _ hrow
          omega
      have hoffer' : weaponOffer data inv ⟨e.2.evolutionId, evo⟩ =
          some (.weapon, e.2.evolutionId) := by
        rw [weaponOffer_of_none hone]
        have hplain : plainOffer (inv.getWeaponLevel e.2.evolutionId) evo.maxLevel
            inv.hasEmptyWeaponSlot = true := by
          unfold plainOffer
          rw [if_pos hlevel, hslot]
        rw [if_pos hplain]
      have hnodup := h.distinct
      rw [items_buildCandidatePool] at hnodup
      have hsame := eq_of_nodup_filterMap (List.nodup_append.mp hnodup).1 he hrow hoffer hoffer'
      have hkey : e.1 = e.2.evolutionId := congrArg Sigma.fst hsame
      have hge := hdata.leveled e he
      rw [hkey, hlevel] at hmax
      omega
    | false =>
      obtain ⟨opt', hopt', hitem'⟩ := mem_pool_of_offer he hoffer
      have htaken := h.accepted opt' hopt'
      rw [grant_weapon hitem'] at htaken
      have hnone : inv.weapons.lookup e.2.evolutionId = none := by
        unfold getWeaponLevel at hlevel
        cases hl : inv.weapons.lookup e.2.evolutionId with
        | none => rfl
        | some level =>
          have hpos := hreach.slots.1.level_pos _ level hl
          rw [hl, Option.getD_some] at hlevel
          omega
      have hfull : maxSlots ≤ inv.weapons.keys.length := not_lt.mp (of_decide_eq_false hslot)
      unfold addOrUpgrade at htaken
      rw [hnone] at htaken
      dsimp only at htaken
      rw [if_pos hfull] at htaken
      cases htaken

/-- **A legal pool is quiet.** -/
theorem quiet_of_legal (hdata : Loaded data) (hreach : Reachable data inv)
    (h : LegalPool data inv) : Quiet data inv := by
  intro e he
  have hnone := no_evolution_of_legal hdata hreach h he
  -- a target that the common branch offers has its base
  have hbase : IsTarget data e.1 →
      plainOffer (inv.getWeaponLevel e.1) e.2.maxLevel inv.hasEmptyWeaponSlot = true →
      BaseReady data inv e.1 := by
    intro htarget hplain
    have hoffer : weaponOffer data inv e = some (.weapon, e.1) := by
      rw [weaponOffer_of_none hnone, if_pos hplain]
    obtain ⟨opt, hopt, hitem⟩ := mem_pool_of_offer he hoffer
    obtain ⟨htype, hid⟩ := Prod.mk.inj hitem
    have hready := h.evolved opt hopt htype (hid.symm ▸ htarget)
    rw [hid] at hready
    exact hready
  refine ⟨hnone, fun htarget => ⟨fun h0 => ?_, fun hpos hlt => ?_⟩⟩
  · cases hslot : inv.hasEmptyWeaponSlot with
    | false => rfl
    | true =>
      exfalso
      have hplain : plainOffer (inv.getWeaponLevel e.1) e.2.maxLevel
          inv.hasEmptyWeaponSlot = true := by
        unfold plainOffer
        rw [if_pos h0, hslot]
      obtain ⟨b, hb, -, hevo, -, hmax, hpassive⟩ := hbase htarget hplain
      obtain ⟨t, -, -, hpos, hevo'⟩ := htarget
      have hrow : data.weapons.lookup b.2.evolutionId = some e.2 := by
        rw [hevo]
        exact Table.mem_entries_iff.mp he
      have hlevel : inv.getWeaponLevel e.2.id = 0 := by
        rw [hdata.keyed e he]
        exact h0
      have hpos' : 0 < b.2.evolutionId := by omega
      have hfires := no_evolution_of_legal hdata hreach h hb
      unfold evolvedCandidate at hfires
      rw [if_pos ⟨hmax, hpos', hpassive⟩, hrow] at hfires
      dsimp only at hfires
      rw [if_pos hlevel] at hfires
      cases hfires
  · refine hbase htarget ?_
    unfold plainOffer
    rw [if_neg (by omega)]
    exact decide_eq_true hlt

theorem quiet_of_legal_evolved : Quiet (forked []) (starter [] [2, 4]).inventory := by
  refine quiet_of_legal ⟨?_, ?_⟩ (reachable_starter [] [2, 4]) ⟨?_, ?_, ?_⟩
  all_goals decide +kernel

end LevelUpManager

end ToyServer.SimpleGame
