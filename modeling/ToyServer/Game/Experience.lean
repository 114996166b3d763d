import ToyServer.Game.Health

/-!
# Experience and levels

For a level `l` a player needs `threshold l = 100 + 50 * (l - 1)`.  Along every run of a player's
operations with amounts that are not negative,

    0 ≤ exp < maxExp,   maxExp = threshold level,
    sum of the credited = exp + threshold 1 + ... + threshold (level - 1)   (experience_adds_up)

and the loop of `AddExp` ends for every amount (`LevelLoop`).  An amount is credited unless the
player is levelling up.
-/

namespace ToyServer.SimpleGame

open scoped BigOperators

namespace Player

/-! ## The loop -/

def threshold (level : Int) : Int :=
  GameConfig.expBase + (level - 1) * GameConfig.expPerLevelIncrement

def levelRound (p : Player) : Player :=
  { p with exp := p.exp - p.maxExp, level := p.level + 1, maxExp := threshold (p.level + 1) }

/-- `while (_exp >= _maxExp)`: the loop ends, with the second player. -/
inductive LevelLoop : Player → Player → Prop
  | done {p : Player} : p.exp < p.maxExp → LevelLoop p p
  | round {p q : Player} : p.maxExp ≤ p.exp → LevelLoop p.levelRound q → LevelLoop p q

/-- The level is one that `AddExp` can have reached. -/
structure Progress (p : Player) : Prop where
  level_pos : 1 ≤ p.level
  maxExp_eq : p.maxExp = threshold p.level

/-- All the experience: what the passed levels took, and the rest. -/
def total (p : Player) : Int := p.exp + ∑ l ∈ Finset.Ico 1 p.level.toNat, threshold l

theorem threshold_pos {level : Int} (h : 1 ≤ level) : 0 < threshold level := by
  simp only [threshold, GameConfig.expBase, GameConfig.expPerLevelIncrement]
  omega

theorem Progress.round {p : Player} (h : p.Progress) : p.levelRound.Progress := by
  constructor
  · show 1 ≤ p.level + 1
    have := h.level_pos
    omega
  · rfl

theorem sum_passed_succ {level : Int} (h : 1 ≤ level) :
    ∑ l ∈ Finset.Ico 1 (level + 1).toNat, threshold l = threshold level + ∑ l ∈
      Finset.Ico 1 level.toNat, threshold l := by
  have hsucc : (level + 1).toNat = level.toNat + 1 := by omega
  have hle : 1 ≤ level.toNat := by omega
  have hcast : (level.toNat : Int) = level := Int.toNat_of_nonneg (by omega)
  rw [hsucc, Finset.sum_Ico_succ_top hle, hcast, add_comm]

theorem Progress.total_round {p : Player} (h : p.Progress) : p.levelRound.total = p.total := by
  show p.exp - p.maxExp + ∑ l ∈ Finset.Ico 1 (p.level + 1).toNat, threshold l = p.total
  rw [sum_passed_succ h.level_pos, h.maxExp_eq]
  unfold total
  omega

/-- The loop keeps the total and leaves less than a level takes; the experience goes down in every
round. -/
theorem levelLoop_spec {fuel : Nat} {p : Player} (h : p.Progress) (hexp : 0 ≤ p.exp)
    (hfuel : p.exp.toNat < fuel) :
    LevelLoop p (levelLoop fuel p).1 ∧ (levelLoop fuel p).1.Progress ∧
      0 ≤ (levelLoop fuel p).1.exp ∧
      (levelLoop fuel p).1.exp < (levelLoop fuel p).1.maxExp ∧
      (levelLoop fuel p).1.total = p.total := by
  induction fuel generalizing p with
  | zero => omega
  | succ fuel ih =>
    unfold levelLoop
    by_cases hle : p.maxExp ≤ p.exp
    · rw [if_pos hle]
      have hpos : 0 < p.maxExp := by
        rw [h.maxExp_eq]
        exact threshold_pos h.level_pos
      have hexp' : 0 ≤ p.levelRound.exp := by
        show 0 ≤ p.exp - p.maxExp
        omega
      have hfuel' : p.levelRound.exp.toNat < fuel := by
        show (p.exp - p.maxExp).toNat < fuel
        omega
      obtain ⟨hloop, hprog, hnonneg, hlt, htotal⟩ := ih h.round hexp' hfuel'
      exact ⟨.round hle hloop, hprog, hnonneg, hlt, htotal.trans h.total_round⟩
    · rw [if_neg hle]
      exact ⟨.done (not_le.mp hle), h, hexp, not_le.mp hle, rfl⟩

theorem gainExp_spec {p : Player} (h : p.Progress) (hexp : 0 ≤ p.exp) {amount : Int}
    (hamount : 0 ≤ amount) :
    LevelLoop { p with exp := p.exp + amount } (p.gainExp amount).1 ∧
      (p.gainExp amount).1.Progress ∧
      0 ≤ (p.gainExp amount).1.exp ∧ (p.gainExp amount).1.exp < (p.gainExp amount).1.maxExp ∧
      (p.gainExp amount).1.total = p.total + amount := by
  have hprog : { p with exp := p.exp + amount }.Progress := ⟨h.level_pos, h.maxExp_eq⟩
  have hnonneg : 0 ≤ { p with exp := p.exp + amount }.exp := by
    show 0 ≤ p.exp + amount
    omega
  have htotal : { p with exp := p.exp + amount }.total = p.total + amount := by
    unfold total
    dsimp only
    omega
  obtain ⟨hloop, hprog', hnonneg', hlt, hsame⟩ := levelLoop_spec hprog hnonneg (Nat.lt_succ_self _)
  exact ⟨hloop, hprog', hnonneg', hlt, hsame.trans htotal⟩

/-! ## The other operations -/

structure SameExp (p q : Player) : Prop where
  exp : q.exp = p.exp
  maxExp : q.maxExp = p.maxExp
  level : q.level = p.level

variable {p q : Player}

theorem SameExp.refl (p : Player) : SameExp p p := ⟨rfl, rfl, rfl⟩

theorem SameExp.trans {q' : Player} (h : SameExp p q) (h' : SameExp q q') : SameExp p q' :=
  ⟨h'.exp.trans h.exp, h'.maxExp.trans h.maxExp, h'.level.trans h.level⟩

theorem SameExp.total (h : SameExp p q) : q.total = p.total := by
  unfold Player.total
  rw [h.exp, h.level]

theorem sameExp_takeDamage (p : Player) (damage : Int) (now : ℚ) :
    SameExp p (p.takeDamage damage now) := by
  unfold takeDamage
  split
  · exact SameExp.refl p
  · dsimp only
    split <;> exact ⟨rfl, rfl, rfl⟩

theorem sameExp_applySkills (p : Player) (skills : List (Int × Int)) :
    SameExp p (p.applySkills skills) := by
  unfold applySkills
  refine List.foldlRecOn (motive := fun q => SameExp p q) skills applySkill (SameExp.refl p)
    fun q hq skill _ => ?_
  refine hq.trans ?_
  unfold applySkill
  split <;> exact ⟨rfl, rfl, rfl⟩

theorem sameExp_applyInput (lm : Libm) (data : DataManager) (p : Player) (clientTick : Nat)
    (dx dy : Int) : SameExp p (p.applyInput lm data clientTick dx dy) := by
  unfold applyInput
  dsimp only
  split
  · exact ⟨rfl, rfl, rfl⟩
  · split <;> exact ⟨rfl, rfl, rfl⟩

theorem sameExp_addExp (lm : Libm) (data : DataManager) (rnd : Nat → Nat)
    (h : p.isLevelingUp = false) (amount : Int) (near : List Int) (s : Scene) :
    SameExp (p.gainExp amount).1 (p.addExp lm data rnd amount near s).1 := by
  unfold addExp
  rw [if_neg (by simp [h])]
  dsimp only
  split
  · split
    · exact SameExp.refl _
    · exact ⟨rfl, rfl, rfl⟩
  · exact SameExp.refl _

end Player

/-! ## Runs -/

/-- The amount that an operation is given, if it is one that adds experience. -/
def PlayerAction.amount : PlayerAction → Int
  | .addExp amount _ _ | .addExpNoRoom amount => amount
  | _ => 0

/-- A player's run, with the amounts credited since the object was initialised. -/
structure ExpRun where
  run : PlayerRun
  credited : List Int

namespace ExpRun

/-- The amount is credited unless the player is levelling up. -/
def credit (r : ExpRun) (amount : Int) : List Int :=
  if r.run.player.isLevelingUp then r.credited else r.credited ++ [amount]

def ledger (r : ExpRun) : PlayerAction → List Int
  | .addExp amount _ _ | .addExpNoRoom amount => r.credit amount
  | .init .. => []
  | _ => r.credited

def step (lm : Libm) (data : DataManager) (r : ExpRun) (a : PlayerAction) : Option ExpRun :=
  some ⟨r.run.apply lm data a, r.ledger a⟩

def start (gameId : Int) (sessionId : Nat) (hp : Int) (speed : ℚ) (scene : Scene) : ExpRun :=
  ⟨⟨Player.make.init gameId sessionId hp speed, scene⟩, []⟩

/-- The experience is below the threshold, and what was credited is all there. -/
structure Sums (r : ExpRun) : Prop where
  progress : r.run.player.Progress
  exp_nonneg : 0 ≤ r.run.player.exp
  exp_lt : r.run.player.exp < r.run.player.maxExp
  sum : r.credited.sum = r.run.player.total

variable {lm : Libm} {data : DataManager} {r : ExpRun}

theorem sums_init (gameId : Int) (sessionId : Nat) (hp : Int) (speed : ℚ) (scene : Scene) :
    (start gameId sessionId hp speed scene).Sums := by
  refine ⟨⟨?_, ?_⟩, ?_, ?_, ?_⟩
  · show (1 : Int) ≤ 1
    decide
  · show (100 : Int) = Player.threshold 1
    decide
  · show (0 : Int) ≤ 0
    decide
  · show (0 : Int) < 100
    decide
  · show (0 : Int) = 0 + ∑ l ∈ Finset.Ico 1 (1 : Int).toNat, Player.threshold l
    decide

theorem Sums.of_sameExp {run : PlayerRun} {credited : List Int} (h : r.Sums)
    (hsame : Player.SameExp r.run.player run.player) (hsum : credited = r.credited) :
    Sums ⟨run, credited⟩ := by
  refine ⟨⟨hsame.level ▸ h.progress.level_pos, ?_⟩, hsame.exp ▸ h.exp_nonneg, ?_, ?_⟩
  · show run.player.maxExp = Player.threshold run.player.level
    rw [hsame.maxExp, hsame.level]
    exact h.progress.maxExp_eq
  · show run.player.exp < run.player.maxExp
    rw [hsame.exp, hsame.maxExp]
    exact h.exp_lt
  · show credited.sum = run.player.total
    rw [hsum, hsame.total]
    exact h.sum

theorem Sums.of_gain {run : PlayerRun} {amount : Int} (h : r.Sums)
    (hlev : r.run.player.isLevelingUp = false) (hamount : 0 ≤ amount)
    (hsame : Player.SameExp (r.run.player.gainExp amount).1 run.player) :
    Sums ⟨run, r.credit amount⟩ := by
  obtain ⟨-, hprog, hnonneg, hlt, htotal⟩ := Player.gainExp_spec h.progress h.exp_nonneg hamount
  have hcredit : r.credit amount = r.credited ++ [amount] := by simp [credit, hlev]
  have hgain : Sums ⟨⟨(r.run.player.gainExp amount).1, r.run.scene⟩, r.credit amount⟩ := by
    refine ⟨hprog, hnonneg, hlt, ?_⟩
    show (r.credit amount).sum = (r.run.player.gainExp amount).1.total
    rw [hcredit, htotal, List.sum_append, h.sum, List.sum_singleton]
  exact hgain.of_sameExp hsame rfl

/-- **Every operation keeps the sum.** -/
theorem sums_step (h : r.Sums) {a : PlayerAction} (ha : 0 ≤ a.amount) :
    Sums ⟨r.run.apply lm data a, r.ledger a⟩ := by
  cases a with
  | op o =>
    cases o with
    | takeDamage damage => exact h.of_sameExp (Player.sameExp_takeDamage _ damage _) rfl
    | applySkills skills => exact h.of_sameExp (Player.sameExp_applySkills _ skills) rfl
    | applyInput clientTick dx dy =>
      exact h.of_sameExp (Player.sameExp_applyInput lm data _ clientTick dx dy) rfl
    | refreshInventoryEffects => exact h.of_sameExp ⟨rfl, rfl, rfl⟩ rfl
    | setInventory inventory => exact h.of_sameExp ⟨rfl, rfl, rfl⟩ rfl
  | addExp amount near rnd =>
    cases hlev : r.run.player.isLevelingUp with
    | true =>
      have hsame : (r.run.player.addExp lm data rnd amount near r.run.scene).1 = r.run.player := by
        simp [Player.addExp, hlev]
      refine h.of_sameExp ?_ (by simp [ledger, credit, hlev])
      show Player.SameExp r.run.player (r.run.player.addExp lm data rnd amount near r.run.scene).1
      rw [hsame]
      exact Player.SameExp.refl _
    | false =>
      exact h.of_gain hlev ha (Player.sameExp_addExp lm data rnd hlev amount near r.run.scene)
  | addExpNoRoom amount =>
    cases hlev : r.run.player.isLevelingUp with
    | true =>
      have hsame : r.run.player.addExpNoRoom amount = r.run.player := by
        simp [Player.addExpNoRoom, hlev]
      refine h.of_sameExp ?_ (by simp [ledger, credit, hlev])
      show Player.SameExp r.run.player (r.run.player.addExpNoRoom amount)
      rw [hsame]
      exact Player.SameExp.refl _
    | false =>
      refine h.of_gain hlev ha ?_
      show Player.SameExp (r.run.player.gainExp amount).1 (r.run.player.addExpNoRoom amount)
      rw [Player.addExpNoRoom, if_neg (by simp [hlev])]
      exact Player.SameExp.refl _
  | enterLevelUpState near => exact h.of_sameExp ⟨rfl, rfl, rfl⟩ rfl
  | exitLevelUpState => exact h.of_sameExp ⟨rfl, rfl, rfl⟩ rfl
  | world scene => exact h.of_sameExp (Player.SameExp.refl _) rfl
  | init gameId sessionId hp speed => exact sums_init gameId sessionId hp speed r.run.scene

theorem sums_run {s t : ExpRun} {as : List PlayerAction} (h : s.Sums) (ha : ∀ a ∈ as, 0 ≤ a.amount)
    (hrun : Runs.run (step lm data) s as = some t) : t.Sums := by
  induction as generalizing s with
  | nil =>
    cases hrun
    exact h
  | cons a as ih =>
    obtain ⟨m, hm, hrest⟩ := Runs.run_cons_eq_some.mp hrun
    cases hm
    exact ih (sums_step h (ha a List.mem_cons_self))
      (fun b hb => ha b (List.mem_cons_of_mem _ hb)) hrest

/-- **Experience adds up**: after every run the experience is below what the level takes, the
amounts credited are the experience and what the passed levels took, and the loop of another call
ends. -/
theorem experience_adds_up (lm : Libm) (data : DataManager) (gameId : Int) (sessionId : Nat)
    (hp : Int) (speed : ℚ) (scene : Scene) (as : List PlayerAction) (t : ExpRun)
    (ha : ∀ a ∈ as, 0 ≤ a.amount)
    (hrun : Runs.run (step lm data) (start gameId sessionId hp speed scene) as = some t) :
    (0 ≤ t.run.player.exp ∧ t.run.player.exp < t.run.player.maxExp ∧
      t.run.player.maxExp = 100 + 50 * (t.run.player.level - 1)) ∧
    t.credited.sum = t.run.player.exp + ∑ l ∈ Finset.Ico 1 t.run.player.level.toNat,
    (100 + 50 * ((l : Int) - 1)) ∧
    ∀ amount, 0 ≤ amount → Player.LevelLoop { t.run.player with exp := t.run.player.exp + amount }
      (t.run.player.gainExp amount).1 := by
  have h := sums_run (sums_init gameId sessionId hp speed scene) ha hrun
  have hthreshold : ∀ level, Player.threshold level = 100 + 50 * (level - 1) := by
    intro level
    simp only [Player.threshold, GameConfig.expBase, GameConfig.expPerLevelIncrement]
    omega
  refine ⟨⟨h.exp_nonneg, h.exp_lt, h.progress.maxExp_eq.trans (hthreshold _)⟩, ?_,
    fun amount hamount => ?_⟩
  · rw [h.sum]
    unfold Player.total
    simp only [hthreshold]
  · exact (Player.gainExp_spec h.progress h.exp_nonneg hamount).1

/-- Three levels at once, nothing while levelling up, and a rest. -/
def growingUp : List PlayerAction :=
  [.addExp 470 [1001] id, .addExp 10 [1001] id, .exitLevelUpState, .addExpNoRoom 25]

theorem experience_adds_up_growingUp :
    ∃ t, Runs.run (step stillLibm smallData) (start 5 5 100 5 oneMonster) growingUp = some t ∧
      t.credited = [470, 25] ∧ t.run.player.level = 4 ∧ t.run.player.exp = 45 ∧
      t.credited.sum = t.run.player.exp + ∑ l ∈ Finset.Ico 1 t.run.player.level.toNat,
      (100 + 50 * ((l : Int) - 1)) := by
  have h := experience_adds_up stillLibm smallData 5 5 100 5 oneMonster growingUp _ (by decide) rfl
  exact ⟨_, rfl, by decide +kernel, by decide +kernel, by decide +kernel, h.2.1⟩

end ExpRun

end ToyServer.SimpleGame
