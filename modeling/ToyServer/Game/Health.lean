import ToyServer.Game.LevelUpManager

/-!
# Health and death of a player

    Healthy p  :  0 < maxHp,  0 ≤ hp ≤ maxHp,  and the state is DEAD just when hp is 0

holds along every run of a player's operations whose steps are `Sound` (`health_and_death_agree`),
and a dead player then stays dead.  Three operations forget to ask whether the player is dead: the
level-up sets the state to IDLE, a refresh that raises the maximum adds to hp, and a skill fills hp
up.
-/

namespace ToyServer.SimpleGame

/-! ## Runs of a player's operations -/

/-- The operations of a player that neither enter nor leave the level-up state. -/
inductive PlayerOp where
  | takeDamage (damage : Int)
  | applySkills (skills : List (Int × Int))
  | applyInput (clientTick : Nat) (dx dy : Int)
  | refreshInventoryEffects
  /-- selections, evolutions and default skills change the inventory before they refresh -/
  | setInventory (inventory : PlayerInventory)

def PlayerOp.apply (lm : Libm) (data : DataManager) (now : ℚ) (p : Player) : PlayerOp → Player
  | takeDamage damage => p.takeDamage damage now
  | applySkills skills => p.applySkills skills
  | applyInput clientTick dx dy => p.applyInput lm data clientTick dx dy
  | refreshInventoryEffects => p.refreshInventoryEffects data
  | setInventory inventory => { p with inventory }

structure PlayerRun where
  player : Player
  scene : Scene

inductive PlayerAction where
  | op (o : PlayerOp)
  | addExp (amount : Int) (near : List Int) (rnd : Nat → Nat)
  | addExpNoRoom (amount : Int)
  | enterLevelUpState (near : List Int)
  | exitLevelUpState
  /-- the room goes on without the player -/
  | world (scene : Scene)
  /-- a new player object, initialised -/
  | init (gameId : Int) (sessionId : Nat) (hp : Int) (speed : ℚ)

def PlayerAction.isInit : PlayerAction → Bool
  | init .. => true
  | _ => false

namespace PlayerRun

variable (lm : Libm) (data : DataManager) (r : PlayerRun)

def apply : PlayerAction → PlayerRun
  | .op o => { r with player := o.apply lm data r.scene.totalRunTime r.player }
  | .addExp amount near rnd =>
    let res := r.player.addExp lm data rnd amount near r.scene
    ⟨res.1, res.2⟩
  | .addExpNoRoom amount => { r with player := r.player.addExpNoRoom amount }
  | .enterLevelUpState near =>
    let res := r.player.enterLevelUpState lm near r.scene
    ⟨res.1, res.2⟩
  | .exitLevelUpState =>
    let res := r.player.exitLevelUpState data r.scene
    ⟨res.1, res.2⟩
  | .world scene => { r with scene }
  | .init gameId sessionId hp speed =>
    { r with player := Player.make.init gameId sessionId hp speed }

def step (a : PlayerAction) : Option PlayerRun :=
  some (r.apply lm data a)

end PlayerRun

/-! ## Health -/

namespace Player

structure Healthy (p : Player) : Prop where
  maxHp_pos : 0 < p.maxHp
  hp_nonneg : 0 ≤ p.hp
  hp_le : p.hp ≤ p.maxHp
  dead_iff : p.isDead = true ↔ p.hp = 0

theorem isDead_iff (p : Player) : p.isDead = true ↔ p.state = .dead := by
  unfold GameObject.isDead
  exact beq_iff_eq

variable {p : Player}

theorem Healthy.congr {q : Player} (h : p.Healthy) (hmax : q.maxHp = p.maxHp) (hhp : q.hp = p.hp)
    (hstate : q.isDead = p.isDead) : q.Healthy :=
  ⟨hmax ▸ h.maxHp_pos,
    hhp ▸ h.hp_nonneg, by rw [hhp, hmax]; exact h.hp_le, by rw [hstate, hhp]; exact h.dead_iff⟩

theorem healthy_init (gameId : Int) (sessionId : Nat) {hp : Int} (speed : ℚ) (h : 0 < hp) :
    (make.init gameId sessionId hp speed).Healthy := by
  refine ⟨h, le_of_lt h, le_refl hp, ?_⟩
  rw [isDead_iff]
  constructor
  · intro hd
    cases hd
  · intro (h0 : hp = 0)
    omega

theorem healthy_takeDamage (h : p.Healthy) {damage : Int} (hd : 0 ≤ damage) (now : ℚ) :
    (p.takeDamage damage now).Healthy := by
  unfold takeDamage
  split
  · exact h
  · rename_i hguard
    have halive : p.isDead = false := by
      cases hp : p.isDead with
      | false => rfl
      | true => simp [hp] at hguard
    dsimp only
    split
    · exact ⟨h.maxHp_pos, le_refl 0, le_of_lt h.maxHp_pos, iff_of_true rfl rfl⟩
    · rename_i hpos
      have hle := h.hp_le
      refine ⟨h.maxHp_pos, le_of_not_ge hpos, ?_, ?_⟩
      · show p.hp - damage ≤ p.maxHp
        omega
      · constructor
        · intro hdead
          exact absurd (halive.symm.trans hdead) Bool.false_ne_true
        · intro (h0 : p.hp - damage = 0)
          exact absurd (le_of_eq h0) hpos

theorem int32_of_bounds {n : Int} (h0 : 0 ≤ n) (h : n < 2 ^ 31) : int32 n = n :=
  Int.bmod_eq_of_le (by omega) (by omega)

/-- What a list of skills adds to the maximum. -/
def maxHpBonus (skills : List (Int × Int)) : Int :=
  (skills.map fun skill => if skill.1 = GameConfig.skillIdMaxHpBonus then 10 * skill.2 else 0).sum

theorem maxHpBonus_cons (skill : Int × Int) (skills : List (Int × Int)) :
    maxHpBonus (skill :: skills) =
      (if skill.1 = GameConfig.skillIdMaxHpBonus then 10 * skill.2 else 0) + maxHpBonus skills := by
  unfold maxHpBonus
  rw [List.map_cons, List.sum_cons]

theorem maxHpBonus_nonneg {skills : List (Int × Int)}
    (h : ∀ skill ∈ skills, skill.1 = GameConfig.skillIdMaxHpBonus → 0 ≤ skill.2) :
    0 ≤ maxHpBonus skills := by
  refine List.sum_nonneg fun n hn => ?_
  obtain ⟨skill, hmem, rfl⟩ := List.mem_map.mp hn
  split
  · next hid =>
    have := h skill hmem hid
    omega
  · exact le_refl 0

theorem healthy_applySkill (h : p.Healthy) {skill : Int × Int}
    (hs : skill.1 = GameConfig.skillIdMaxHpBonus → 0 ≤ skill.2 ∧ p.isDead = false)
    (hmax : p.maxHp + (if skill.1 = GameConfig.skillIdMaxHpBonus then 10 * skill.2
      else 0) < 2 ^ 31) :
    (p.applySkill skill).Healthy ∧ (p.applySkill skill).isDead = p.isDead ∧
      (p.applySkill skill).maxHp =
        p.maxHp + (if skill.1 = GameConfig.skillIdMaxHpBonus then 10 * skill.2 else 0) := by
  unfold applySkill
  split at hmax
  · next hid =>
    obtain ⟨hl, halive⟩ := hs hid
    have hold := h.maxHp_pos
    have hpos : 0 < p.maxHp + 10 * skill.2 := by omega
    have hsum : int32 (p.maxHp + int32 (10 * skill.2)) = p.maxHp + 10 * skill.2 := by
      rw [int32_of_bounds (n := 10 * skill.2) (by omega) (by omega), int32_of_bounds hpos.le hmax]
    rw [if_pos hid, if_pos hid, hsum]
    refine ⟨⟨hpos, le_of_lt hpos, le_refl _, ?_⟩, rfl, rfl⟩
    constructor
    · intro hdead
      exact absurd (halive.symm.trans hdead) Bool.false_ne_true
    · intro (h0 : p.maxHp + 10 * skill.2 = 0)
      omega
  · next hid =>
    rw [if_neg hid, if_neg hid, add_zero]
    exact ⟨h, rfl, rfl⟩

theorem healthy_applySkills (h : p.Healthy) {skills : List (Int × Int)}
    (hs : ∀ skill ∈ skills, skill.1 = GameConfig.skillIdMaxHpBonus → 0 ≤ skill.2 ∧ p.isDead = false)
    (hmax : p.maxHp + maxHpBonus skills < 2 ^ 31) :
    (p.applySkills skills).Healthy ∧ (p.applySkills skills).isDead = p.isDead := by
  unfold applySkills
  induction skills generalizing p with
  | nil => exact ⟨h, rfl⟩
  | cons skill skills ih =>
    have hrest : ∀ sk ∈ skills, sk.1 = GameConfig.skillIdMaxHpBonus → 0 ≤ sk.2 ∧ p.isDead = false :=
      fun sk hsk => hs sk (List.mem_cons_of_mem _ hsk)
    have hnonneg := maxHpBonus_nonneg fun sk hsk hid => (hrest sk hsk hid).1
    rw [maxHpBonus_cons, ← add_assoc] at hmax
    obtain ⟨h1, hd1, hm1⟩ := healthy_applySkill h (hs skill List.mem_cons_self) (by omega)
    obtain ⟨h2, hd2⟩ := ih h1 (fun sk hsk hid => hd1 ▸ hrest sk hsk hid) (by rwa [hm1])
    exact ⟨h2, hd2.trans hd1⟩

variable (lm : Libm) (data : DataManager)

/-- Input changes the state only of a player that is neither dead nor held in place. -/
theorem applyInput_same (p : Player) (clientTick : Nat) (dx dy : Int) :
    (p.applyInput lm data clientTick dx dy).hp = p.hp ∧
      (p.applyInput lm data clientTick dx dy).maxHp = p.maxHp ∧
      (p.applyInput lm data clientTick dx dy).isDead = p.isDead := by
  unfold applyInput
  dsimp only
  split
  · exact ⟨rfl, rfl, rfl⟩
  · rename_i hfree
    have halive : p.isDead = false := by
      cases hst : p.state <;> simp_all [GameObject.isDead, GameObject.isControlDisabled]
    split
    · exact ⟨rfl, rfl, halive.symm⟩
    · exact ⟨rfl, rfl, halive.symm⟩

/-- A refresh keeps a player healthy if the new maximum is positive and a dead player does not get a
higher one. -/
theorem healthy_refresh {data : DataManager} (h : p.Healthy) (hpos : 0 < p.refreshedMaxHp data)
    (hdead : p.isDead = true → p.refreshedMaxHp data ≤ p.maxHp) :
    (p.refreshInventoryEffects data).Healthy := by
  have hmax := h.maxHp_pos
  have h0 := h.hp_nonneg
  have hle := h.hp_le
  have hiff := h.dead_iff
  refine ⟨hpos, ?_, refreshedHp_le (.inl hle), ?_⟩
  · show 0 ≤ refreshedHp p.maxHp (p.refreshedMaxHp data) p.hp
    unfold refreshedHp
    split
    · omega
    · split <;> omega
  · show p.isDead = true ↔ refreshedHp p.maxHp (p.refreshedMaxHp data) p.hp = 0
    rw [hiff] at hdead ⊢
    unfold refreshedHp
    split
    · omega
    · split <;> omega

theorem gainExp_health (p : Player) (amount : Int) :
    (p.gainExp amount).1.maxHp = p.maxHp ∧ (p.gainExp amount).1.hp = p.hp ∧
    (p.gainExp amount).1.isDead = p.isDead := by
  obtain ⟨e, m, l, h⟩ := gainExp_same p amount
  rw [h]
  exact ⟨rfl, rfl, rfl⟩

theorem healthy_gainExp (h : p.Healthy) (amount : Int) : (p.gainExp amount).1.Healthy := by
  obtain ⟨hm, hh, hd⟩ := gainExp_health p amount
  exact h.congr hm hh hd

/-- Entering the level-up state sets the state to IDLE, which is right for a player that is
alive. -/
theorem healthy_enter (lm : Libm) (h : p.Healthy) (halive : p.isDead = false) (near : List Int)
    (s : Scene) : (p.enterLevelUpState lm near s).1.Healthy :=
  h.congr rfl rfl halive.symm

/-- What keeps `AddExp` from starting a level-up: one is on, nobody is behind the player, or it is
not enough. -/
def NoLevelUp (p : Player) (amount : Int) : Prop :=
  p.isLevelingUp = true ∨ p.sessionId = 0 ∨ p.exp + amount < p.maxExp

instance (p : Player) (amount : Int) : Decidable (p.NoLevelUp amount) :=
  inferInstanceAs (Decidable (_ ∨ _ ∨ _))

theorem addExp_of_noLevelUp (rnd : Nat → Nat) {amount : Int} (h : p.NoLevelUp amount)
    (near : List Int) (s : Scene) :
    p.addExp lm data rnd amount near s = (p.addExpNoRoom amount, s) := by
  unfold addExp addExpNoRoom
  split
  · rfl
  · next hnot =>
    have hno : ¬((p.gainExp amount).1.sessionId ≠ 0 ∧ (p.gainExp amount).2 = true) := by
      rcases h with hlevel | hsession | hless
      · exact absurd hlevel hnot
      · obtain ⟨e, m, l, heq⟩ := gainExp_same p amount
        rw [heq]
        exact fun hc => hc.1 hsession
      · have hfew : (p.gainExp amount).2 = false := by
          unfold gainExp
          simp only [levelLoop, if_neg (not_le.mpr hless)]
        rw [hfew]
        exact fun hc => Bool.false_ne_true hc.2
    dsimp only
    rw [if_neg hno]

theorem healthy_addExpNoRoom (h : p.Healthy) (amount : Int) : (p.addExpNoRoom amount).Healthy := by
  unfold addExpNoRoom
  split
  · exact h
  · exact healthy_gainExp h amount

theorem addExpNoRoom_isDead (p : Player) (amount : Int) :
    (p.addExpNoRoom amount).isDead = p.isDead := by
  unfold addExpNoRoom
  split
  · rfl
  · exact (gainExp_health p amount).2.2

theorem healthy_addExp (rnd : Nat → Nat) (h : p.Healthy) {amount : Int}
    (hdead : p.isDead = true → p.NoLevelUp amount) (near : List Int) (s : Scene) :
    (p.addExp lm data rnd amount near s).1.Healthy := by
  cases hp : p.isDead with
  | true =>
    rw [addExp_of_noLevelUp lm data rnd (hdead hp)]
    exact healthy_addExpNoRoom h amount
  | false =>
    have halive : (p.gainExp amount).1.isDead = false := (gainExp_health p amount).2.2.trans hp
    unfold addExp
    split
    · exact h
    · dsimp only
      split
      · split
        · exact healthy_gainExp h amount
        · exact (healthy_enter lm (healthy_gainExp h amount) halive near s).congr rfl rfl rfl
      · exact healthy_gainExp h amount

end Player

/-! ## Sound steps -/

section
variable (data : DataManager)

/-- Base and passives give a positive maximum that an `int32_t` can hold, for a dead player not a
higher one than it has. -/
def RefreshSound (p : Player) : Prop :=
  (0 < p.refreshedMaxHp data ∧ p.refreshedMaxHp data < 2 ^ 31) ∧
    (p.isDead = true → p.refreshedMaxHp data ≤ p.maxHp)

/-- What a step needs: no negative damage or skill level, no maximum that overflows, and for a dead
player no level-up, no bonus of a skill and no refresh that raises the maximum. -/
def Sound (r : PlayerRun) : PlayerAction → Prop
  | .op (.takeDamage damage) => 0 ≤ damage
  | .op (.applySkills skills) =>
    (∀ skill ∈ skills, skill.1 = GameConfig.skillIdMaxHpBonus → 0 ≤ skill.2 ∧
      r.player.isDead = false) ∧ r.player.maxHp + Player.maxHpBonus skills < 2 ^ 31
  | .op .refreshInventoryEffects => RefreshSound data r.player
  | .exitLevelUpState => RefreshSound data r.player
  | .addExp amount _ _ => r.player.isDead = true → r.player.NoLevelUp amount
  | .enterLevelUpState _ => r.player.isDead = false
  | .init _ _ hp _ => 0 < hp
  | _ => True

instance (p : Player) : Decidable (RefreshSound data p) :=
  inferInstanceAs (Decidable (_ ∧ _))

instance (r : PlayerRun) : ∀ a, Decidable (Sound data r a)
  | .op (.takeDamage damage) => inferInstanceAs (Decidable (0 ≤ damage))
  | .op (.applySkills skills) => inferInstanceAs (Decidable ((∀ skill ∈ skills, _ → _) ∧ _))
  | .op .refreshInventoryEffects => inferInstanceAs (Decidable (RefreshSound data r.player))
  | .op (.applyInput ..) => isTrue trivial
  | .op (.setInventory ..) => isTrue trivial
  | .exitLevelUpState => inferInstanceAs (Decidable (RefreshSound data r.player))
  | .addExp .. => inferInstanceAs (Decidable (_ → _))
  | .addExpNoRoom _ => isTrue trivial
  | .enterLevelUpState _ => inferInstanceAs (Decidable (_ = _))
  | .world _ => isTrue trivial
  | .init _ _ hp _ => inferInstanceAs (Decidable (0 < hp))

end

namespace PlayerRun

variable {lm : Libm} {data : DataManager} {r r' : PlayerRun} {a : PlayerAction}

/-- **Every operation keeps the health in bounds.** -/
theorem healthy_apply (h : r.player.Healthy) (hok : Sound data r a) :
    (r.apply lm data a).player.Healthy := by
  cases a with
  | op o =>
    cases o with
    | takeDamage damage => exact Player.healthy_takeDamage h hok _
    | applySkills skills => exact (Player.healthy_applySkills h hok.1 hok.2).1
    | applyInput clientTick dx dy =>
      obtain ⟨hh, hm, hd⟩ := Player.applyInput_same lm data r.player clientTick dx dy
      exact h.congr hm hh hd
    | refreshInventoryEffects => exact Player.healthy_refresh h hok.1.1 hok.2
    | setInventory inventory => exact h.congr rfl rfl rfl
  | addExp amount near rnd => exact Player.healthy_addExp lm data rnd h hok near r.scene
  | addExpNoRoom amount => exact Player.healthy_addExpNoRoom h amount
  | enterLevelUpState near => exact Player.healthy_enter lm h hok near r.scene
  | exitLevelUpState =>
    have hq : { r.player with
        isLevelingUp := false, slowedMonsterIds := [], invincibleUntil := 0 }.Healthy :=
      h.congr rfl rfl rfl
    exact Player.healthy_refresh hq hok.1.1 hok.2
  | world scene => exact h
  | init gameId sessionId hp speed => exact Player.healthy_init gameId sessionId speed hok

/-- The state of a dead player is left alone by every sound step but a new object. -/
theorem dead_apply (hdead : r.player.isDead = true) (hok : Sound data r a) (ha : a.isInit = false) :
    (r.apply lm data a).player.isDead = true := by
  cases a with
  | op o =>
    cases o with
    | takeDamage damage =>
      show (r.player.takeDamage damage r.scene.totalRunTime).isDead = true
      unfold Player.takeDamage
      rw [if_pos (by simp [hdead])]
      exact hdead
    | applySkills skills =>
      show (r.player.applySkills skills).isDead = true
      -- a skill writes hp only
      unfold Player.applySkills
      refine List.foldlRecOn (motive := fun p : Player => p.isDead = true) skills
        Player.applySkill hdead ?_
      intro p hp skill _
      unfold Player.applySkill
      split <;> exact hp
    | applyInput clientTick dx dy =>
      exact (Player.applyInput_same lm data r.player clientTick dx dy).2.2.trans hdead
    | refreshInventoryEffects => exact hdead
    | setInventory inventory => exact hdead
  | addExp amount near rnd =>
    show (r.player.addExp lm data rnd amount near r.scene).1.isDead = true
    rw [Player.addExp_of_noLevelUp lm data rnd (hok hdead)]
    exact (Player.addExpNoRoom_isDead r.player amount).trans hdead
  | addExpNoRoom amount => exact (Player.addExpNoRoom_isDead r.player amount).trans hdead
  | enterLevelUpState near => exact absurd (hdead.symm.trans hok) (by decide)
  | exitLevelUpState => exact hdead
  | world scene => exact hdead
  | init gameId sessionId hp speed => cases ha

theorem healthy_run {t : PlayerRun} {as : List PlayerAction} (h : r.player.Healthy)
    (hok : Runs.Meets (step lm data) (Sound data) r as)
    (hrun : Runs.run (step lm data) r as = some t) : t.player.Healthy := by
  refine Runs.run_inv_of_meets (fun r => r.player.Healthy)
    (fun s a s' hs hoka hstep => ?_) h hok hrun
  cases hstep
  exact healthy_apply hs hoka

theorem dead_run {t : PlayerRun} {as : List PlayerAction} (hdead : r.player.isDead = true)
    (hok : Runs.Meets (step lm data) (Sound data) r as) (hinit : ∀ a ∈ as, a.isInit = false)
    (hrun : Runs.run (step lm data) r as = some t) : t.player.isDead = true := by
  induction as generalizing r with
  | nil => cases hrun; exact hdead
  | cons a as ih =>
    obtain ⟨m, hm, hrest⟩ := Runs.run_cons_eq_some.mp hrun
    cases hm
    exact ih (dead_apply hdead hok.1 (hinit a List.mem_cons_self)) (hok.2 _ rfl)
      (fun b hb => hinit b (List.mem_cons_of_mem _ hb)) hrest

/-- **Health and death agree** along sound runs, and a dead player stays dead with hp 0 until a new
one is made. -/
theorem health_and_death_agree (lm : Libm) (data : DataManager) (gameId : Int) (sessionId : Nat)
    (hp : Int) (speed : ℚ) (scene : Scene) (as : List PlayerAction) (t : PlayerRun) (hhp : 0 < hp)
    (hok : Runs.Meets (step lm data) (Sound data) ⟨Player.make.init gameId sessionId hp speed,
      scene⟩ as)
    (hrun : Runs.run (step lm data) ⟨Player.make.init gameId sessionId hp speed,
      scene⟩ as = some t) :
    (0 ≤ t.player.hp ∧ t.player.hp ≤ t.player.maxHp ∧ (t.player.isDead = true ↔ t.player.hp = 0)) ∧
      ∀ bs cs m, as = bs ++ cs →
        Runs.run (step lm data) ⟨Player.make.init gameId sessionId hp speed, scene⟩ bs = some m →
        m.player.isDead = true → (∀ a ∈ cs, a.isInit = false) → t.player.isDead = true ∧
        t.player.hp = 0 := by
  have ht := healthy_run (Player.healthy_init gameId sessionId speed hhp) hok hrun
  refine ⟨⟨ht.hp_nonneg, ht.hp_le, ht.dead_iff⟩, fun bs cs m has hm hdead hinit => ?_⟩
  subst has
  obtain ⟨m', hm', hrest⟩ := Runs.run_append_eq_some.mp hrun
  obtain rfl : m = m' := Option.some.inj (hm.symm.trans hm')
  have hd := dead_run hdead (Runs.meets_append hm hok).2 hinit hrest
  exact ⟨hd, ht.dead_iff.mp hd⟩

def newcomer : PlayerRun := ⟨Player.make.init 5 5 100 5, oneMonster⟩

/-- Hurt, stronger by a skill, once through a level-up, killed. -/
def lifeAndDeath : List PlayerAction :=
  [.op (.takeDamage 30), .op (.applySkills [(101, 2)]), .addExp 120 [1001] id, .exitLevelUpState,
    .op (.takeDamage 100)]

/-- What a dead player still gets. -/
def afterlife : List PlayerAction :=
  [.op (.applyInput 7 1 0), .addExp 10 [1001] id, .op .refreshInventoryEffects]

theorem health_and_death_agree_lifeAndDeath :
    ∃ t, Runs.run (step stillLibm smallData) newcomer (lifeAndDeath ++ afterlife) = some t ∧
      (0 ≤ t.player.hp ∧ t.player.hp ≤ t.player.maxHp ∧
        (t.player.isDead = true ↔ t.player.hp = 0)) ∧
      t.player.isDead = true ∧ t.player.hp = 0 := by
  have h := health_and_death_agree stillLibm smallData 5 5 100 5 oneMonster
    (lifeAndDeath ++ afterlife) _ (by decide) (by decide +kernel) rfl
  exact ⟨_, rfl, h.1, h.2 lifeAndDeath afterlife _ rfl rfl (by decide +kernel) (by decide)⟩

/-- Killed, then one of the three operations that do not ask. -/
def killedThen (as : List PlayerAction) : List PlayerAction := .op (.takeDamage 100) :: as

/-- The inventory with the passive that raises the maximum. -/
def withHeart : PlayerInventory :=
  { PlayerInventory.empty with passives := (∅ : AList fun _ : Int => Int).insert 2 1 }

/-- A dead player that gains a level walks again with hp 0; one whose maximum rises, or who gets a
skill, is dead with hp above 0. -/
theorem health_and_death_disagree :
    (∃ t, Runs.run (step stillLibm smallData) newcomer
      (killedThen [.addExp 100 [1001] id]) = some t ∧ t.player.isDead = false ∧ t.player.hp = 0) ∧
    (∃ t, Runs.run (step stillLibm smallData) newcomer
        (killedThen [.op (.setInventory withHeart), .op .refreshInventoryEffects]) = some t ∧
      t.player.isDead = true ∧ t.player.hp = 20) ∧
    (∃ t, Runs.run (step stillLibm smallData) newcomer
      (killedThen [.op (.applySkills [(101, 1)])]) = some t ∧
      t.player.isDead = true ∧ t.player.hp = 110) :=
  ⟨⟨_, rfl, by decide +kernel⟩, ⟨_, rfl, by decide +kernel⟩, ⟨_, rfl, by decide +kernel⟩⟩

end PlayerRun

end ToyServer.SimpleGame
