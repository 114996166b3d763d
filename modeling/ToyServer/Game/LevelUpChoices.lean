import ToyServer.Game.LevelUpManager

/-!
# Pending choices

A player in the level-up state has options to choose from, and nobody else has
(`choices_while_leveling`), as long as the server does not end the level-up by its timeout and every
selection during it has the index of an option.  Both of these leave the level-up state and keep the
options.

That an option list grants at most one item needs no condition: `grants` has the number of the list
for every item that `ApplySelection` granted, and the options go with the selection.  (A weapon that
`CheckWeaponEvolutions` evolves is an exchange, not an item of a list.)
-/

namespace ToyServer.SimpleGame

/-! ## Runs -/

/-- A player in its room, with the lists that were generated for it and the items granted from
them. -/
structure LevelUpRun where
  player : Player
  scene : Scene
  /-- how many lists were generated; the last one is number `lists` -/
  lists : Nat
  /-- the list of each granted item -/
  grants : List Nat

inductive LevelUpAction where
  | addExp (amount : Int) (near : List Int) (rnd : Nat → Nat)
  | addExpNoRoom (amount : Int)
  /-- the task of `SelectLevelUpHandler` -/
  | select (optionIndex : Int)
  /-- a tick of the player -/
  | update (near : List Int)
  /-- the player comes back with a new object -/
  | reenter (gameId : Int) (sessionId : Nat) (hp : Int) (speed : ℚ)
  | world (scene : Scene)

namespace LevelUpRun

def apply (lm : Libm) (data : DataManager) (r : LevelUpRun) : LevelUpAction → LevelUpRun
  | .addExp amount near rnd =>
    let res := r.player.addExp lm data rnd amount near r.scene
    { r with
      player := res.1, scene := res.2
      lists := if r.player.isLevelingUp = false ∧ res.1.isLevelingUp then r.lists + 1 else r.lists }
  | .addExpNoRoom amount => { r with player := r.player.addExpNoRoom amount }
  | .select optionIndex =>
    let res := selectLevelUp data r.player optionIndex r.scene
    { r with
      player := res.1, scene := res.2
      grants :=
        if (LevelUpManager.applySelection data r.player optionIndex).1 then r.grants ++ [r.lists]
      else r.grants }
  | .update near =>
    let res := r.player.updateLevelUp data near r.scene
    { r with player := res.1, scene := res.2 }
  | .reenter gameId sessionId hp speed =>
    { r with player := Player.make.init gameId sessionId hp speed }
  | .world scene => { r with scene }

def step (lm : Libm) (data : DataManager) (r : LevelUpRun) (a : LevelUpAction) :
    Option LevelUpRun :=
  some (r.apply lm data a)

def start (gameId : Int) (sessionId : Nat) (hp : Int) (speed : ℚ) (scene : Scene) : LevelUpRun :=
  ⟨Player.make.init gameId sessionId hp speed, scene, 0, []⟩

end LevelUpRun

/-! ## What the functions do to options and state -/

namespace Player

variable {data : DataManager} {p : Player}

theorem checkWeaponEvolutions_same (data : DataManager) (p : Player) :
    (p.checkWeaponEvolutions data).pendingLevelUpOptions = p.pendingLevelUpOptions ∧
      (p.checkWeaponEvolutions data).slowedMonsterIds = p.slowedMonsterIds := by
  unfold checkWeaponEvolutions
  split
  · exact ⟨rfl, rfl⟩
  · exact ⟨rfl, rfl⟩

/-- `AddExp` of a player that is not levelling up: nothing happens to the options, or a list is put
up and the player enters the level-up state. -/
theorem addExp_cases (lm : Libm) (data : DataManager) (rnd : Nat → Nat) (h : p.isLevelingUp = false)
    (amount : Int) (near : List Int) (s : Scene) :
    ((p.addExp lm data rnd amount near s).1.isLevelingUp = false ∧
      (p.addExp lm data rnd amount near s).1.pendingLevelUpOptions = p.pendingLevelUpOptions) ∨
    ((p.addExp lm data rnd amount near s).1.isLevelingUp = true ∧
      (p.addExp lm data rnd amount near s).1.pendingLevelUpOptions ≠ []) := by
  obtain ⟨e, m, l, hg⟩ := gainExp_same p amount
  have hlev : (p.gainExp amount).1.isLevelingUp = false := by rw [hg]; exact h
  have hopt : (p.gainExp amount).1.pendingLevelUpOptions = p.pendingLevelUpOptions := by rw [hg]
  unfold addExp
  rw [if_neg (by simp [h])]
  dsimp only
  split
  · split
    · exact .inl ⟨hlev, hopt⟩
    · rename_i hne
      exact .inr ⟨rfl, hne⟩
  · exact .inl ⟨hlev, hopt⟩

theorem addExpNoRoom_same (p : Player) (amount : Int) :
    (p.addExpNoRoom amount).isLevelingUp = p.isLevelingUp ∧
      (p.addExpNoRoom amount).pendingLevelUpOptions = p.pendingLevelUpOptions := by
  obtain ⟨e, m, l, hg⟩ := gainExp_same p amount
  unfold addExpNoRoom
  split
  · exact ⟨rfl, rfl⟩
  · rw [hg]
    exact ⟨rfl, rfl⟩

theorem updateLevelUp_same (data : DataManager) (p : Player) (near : List Int) (s : Scene) :
    (p.updateLevelUp data near s).1.pendingLevelUpOptions = p.pendingLevelUpOptions := by
  unfold updateLevelUp
  split
  · dsimp only
    split
    · rfl
    · rfl
  · rfl

theorem aura_totalRunTime (p : Player) (near : List Int) (s : Scene) :
    (p.aura near s).2.totalRunTime = s.totalRunTime := by
  have hreach : ∀ (ms : List Monster) (a : Aura),
      (ms.foldl Aura.reach a).scene.totalRunTime = a.scene.totalRunTime := by
    intro ms a
    refine List.foldlRecOn (motive := fun b : Aura => b.scene.totalRunTime = a.scene.totalRunTime)
      ms Aura.reach rfl ?_
    intro b hb m _
    unfold Aura.reach
    split <;> exact hb
  have hrelease : ∀ (ids inRange : List Int) (a : Aura),
      (ids.foldl (Aura.release inRange) a).scene.totalRunTime = a.scene.totalRunTime := by
    intro ids inRange a
    refine List.foldlRecOn (motive := fun b : Aura => b.scene.totalRunTime =
      a.scene.totalRunTime) ids _ rfl ?_
    intro b hb id _
    unfold Aura.release
    split
    · exact hb
    · split <;> exact hb
  unfold aura
  dsimp only
  split
  · rw [hrelease, hreach]
  · rw [Scene.send, hrelease, hreach]

theorem updateLevelUp_isLevelingUp (near : List Int) {s : Scene}
    (h : p.isLevelingUp = true → s.totalRunTime - p.levelUpStartedAt ≤
      GameConfig.levelUpTimeoutSec + 2) :
    (p.updateLevelUp data near s).1.isLevelingUp = p.isLevelingUp := by
  unfold updateLevelUp
  split
  · rename_i hlev
    dsimp only
    have hstarted : (p.aura near s).1.levelUpStartedAt = p.levelUpStartedAt := rfl
    rw [if_neg (by rw [aura_totalRunTime, hstarted]; exact not_lt.mpr (h hlev))]
    rfl
  · rfl

end Player

namespace LevelUpManager

section
variable {data : DataManager} {p : Player} {optionIndex : Int}

theorem applySelection_of_none
    (h : optionAt p.pendingLevelUpOptions optionIndex = none) :
    applySelection data p optionIndex = (false, p) := by
  unfold applySelection
  rw [h]

theorem applySelection_of_some {opt : LevelUpOption}
    (h : optionAt p.pendingLevelUpOptions optionIndex = some opt) :
    (applySelection data p optionIndex).2.pendingLevelUpOptions = [] := by
  unfold applySelection
  rw [h]

end

theorem optionAt_nil (optionIndex : Int) : optionAt [] optionIndex = none :=
  optionAt_eq_none (by simp only [List.length_nil]; omega)

end LevelUpManager

open LevelUpManager

theorem selectLevelUp_same (data : DataManager) (p : Player) (optionIndex : Int) (s : Scene) :
    (selectLevelUp data p optionIndex s).1.isLevelingUp = false ∧
      (selectLevelUp data p optionIndex s).1.pendingLevelUpOptions =
        (applySelection data p optionIndex).2.pendingLevelUpOptions :=
  ⟨rfl, (Player.checkWeaponEvolutions_same data (applySelection data p optionIndex).2).1⟩

namespace LevelUpRun

variable {lm : Libm} {data : DataManager} {r t : LevelUpRun} {a : LevelUpAction}
  {as : List LevelUpAction}

/-! ## At most one item for a list -/

/-- The granted lists are old and different, and the list that is still up has granted nothing. -/
structure OneEach (r : LevelUpRun) : Prop where
  nodup : r.grants.Nodup
  le : ∀ n ∈ r.grants, n ≤ r.lists
  open_list : r.player.pendingLevelUpOptions ≠ [] → r.lists ∉ r.grants

theorem oneEach_of_same {r' : LevelUpRun} (h : r.OneEach) (hg : r'.grants = r.grants)
    (hl : r'.lists = r.lists)
    (hopt : r'.player.pendingLevelUpOptions ≠ [] → r.player.pendingLevelUpOptions ≠ []) :
    r'.OneEach :=
  ⟨hg ▸ h.nodup, by rw [hg, hl]; exact h.le,
    fun hne => by rw [hg, hl]; exact h.open_list (hopt hne)⟩

theorem oneEach_addExp (h : r.OneEach) (amount : Int) (near : List Int) (rnd : Nat → Nat) :
    (r.apply lm data (.addExp amount near rnd)).OneEach := by
  cases hlev : r.player.isLevelingUp with
  | true =>
    have hsame : r.player.addExp lm data rnd amount near r.scene = (r.player, r.scene) := by
      unfold Player.addExp
      rw [if_pos hlev]
    refine oneEach_of_same h rfl ?_ ?_
    · simp [apply, hlev]
    · simp [apply, hsame]
  | false =>
    rcases Player.addExp_cases lm data rnd hlev amount near r.scene with ⟨h1, h2⟩ | ⟨h1, h2⟩
    · refine oneEach_of_same h rfl ?_ ?_
      · simp [apply, h1]
      · simp [apply, h2]
    · -- a new list: its number is above all that were granted
      have hl : (r.apply lm data (.addExp amount near rnd)).lists = r.lists + 1 := by
        simp [apply, hlev, h1]
      refine ⟨h.nodup, fun n hn => ?_, fun _ hmem => ?_⟩
      · rw [hl]
        exact Nat.le_succ_of_le (h.le n hn)
      · rw [hl] at hmem
        exact absurd (h.le _ hmem) (by omega)

theorem oneEach_select (h : r.OneEach) (optionIndex : Int) :
    (r.apply lm data (.select optionIndex)).OneEach := by
  have hopt := (selectLevelUp_same data r.player optionIndex r.scene).2
  cases hat : optionAt r.player.pendingLevelUpOptions optionIndex with
  | none =>
    have hsel : applySelection data r.player optionIndex = (false, r.player) :=
      applySelection_of_none hat
    refine oneEach_of_same h ?_ rfl ?_
    · simp [apply, hsel]
    · simp only [apply, hopt, hsel]
      exact id
  | some opt =>
    have hnil : (r.apply lm data (.select optionIndex)).player.pendingLevelUpOptions = [] :=
      hopt.trans (applySelection_of_some hat)
    have hne : r.player.pendingLevelUpOptions ≠ [] := by
      intro he
      rw [he, optionAt_nil] at hat
      cases hat
    have hnew := h.open_list hne
    cases hok : (applySelection data r.player optionIndex).1 with
    | false =>
      have hg : (r.apply lm data (.select optionIndex)).grants = r.grants := by simp [apply, hok]
      exact oneEach_of_same h hg rfl fun hc => absurd hnil hc
    | true =>
      have hg : (r.apply lm data (.select optionIndex)).grants = r.grants ++ [r.lists] := by
        simp [apply, hok]
      refine ⟨?_, fun n hn => ?_, fun hc => absurd hnil hc⟩
      · rw [hg, List.nodup_append]
        refine ⟨h.nodup, List.nodup_singleton _, fun n hn m hm => ?_⟩
        rw [List.mem_singleton.mp hm]
        rintro rfl
        exact hnew hn
      · rw [hg] at hn
        rcases Runs.mem_concat.mp hn with hn | hn
        · exact h.le n hn
        · exact le_of_eq hn

/-- A level-up is granted once, operation by operation. -/
theorem oneEach_apply (h : r.OneEach) : (r.apply lm data a).OneEach := by
  cases a with
  | addExp amount near rnd => exact oneEach_addExp h amount near rnd
  | addExpNoRoom amount =>
    refine oneEach_of_same h rfl rfl ?_
    rw [show (r.apply lm data (.addExpNoRoom amount)).player.pendingLevelUpOptions = _ from
      (Player.addExpNoRoom_same r.player amount).2]
    exact id
  | select optionIndex => exact oneEach_select h optionIndex
  | update near =>
    refine oneEach_of_same h rfl rfl ?_
    rw [show (r.apply lm data (.update near)).player.pendingLevelUpOptions = _ from
      Player.updateLevelUp_same data r.player near r.scene]
    exact id
  | reenter gameId sessionId hp speed => exact oneEach_of_same h rfl rfl fun hc => absurd rfl hc
  | world scene => exact oneEach_of_same h rfl rfl id

theorem oneEach_run (h : r.OneEach) (hrun : Runs.run (step lm data) r as = some t) : t.OneEach := by
  refine Runs.run_inv OneEach (fun s a s' hs hstep => ?_) h hrun
  cases hstep
  exact oneEach_apply hs

/-! ## Options while levelling up -/

/-- The player chooses before the time is up, and one of the options. -/
def Prompt (r : LevelUpRun) : LevelUpAction → Prop
  | .select optionIndex =>
    r.player.isLevelingUp = true → 0 ≤ optionIndex ∧
    optionIndex < r.player.pendingLevelUpOptions.length
  | .update _ =>
    r.player.isLevelingUp = true →
      r.scene.totalRunTime - r.player.levelUpStartedAt ≤ GameConfig.levelUpTimeoutSec + 2
  | _ => True

instance (r : LevelUpRun) : ∀ a, Decidable (Prompt r a)
  | .select _ => inferInstanceAs (Decidable (_ → _))
  | .update _ => inferInstanceAs (Decidable (_ → _))
  | .addExp .. => isTrue trivial
  | .addExpNoRoom _ => isTrue trivial
  | .reenter .. => isTrue trivial
  | .world _ => isTrue trivial

/-- Options are pending just while levelling up. -/
def Matched (r : LevelUpRun) : Prop :=
  r.player.pendingLevelUpOptions ≠ [] ↔ r.player.isLevelingUp = true

theorem matched_select (h : r.Matched) {optionIndex : Int} (hok : Prompt r (.select optionIndex)) :
    (r.apply lm data (.select optionIndex)).Matched := by
  obtain ⟨hlev, hopt⟩ := selectLevelUp_same data r.player optionIndex r.scene
  have hnil : (applySelection data r.player optionIndex).2.pendingLevelUpOptions = [] := by
    cases hat : optionAt r.player.pendingLevelUpOptions optionIndex with
    | some opt => exact applySelection_of_some hat
    | none =>
      rw [applySelection_of_none hat]
      by_contra hne
      -- the player is levelling up, so the index is one of the options
      obtain ⟨h0, hlt⟩ := hok (h.mp hne)
      unfold optionAt at hat
      rw [if_pos h0, List.getElem?_eq_none_iff] at hat
      omega
  refine iff_of_false ?_ ?_
  · exact not_not_intro (hopt.trans hnil)
  · exact fun hc => Bool.false_ne_true (hlev.symm.trans hc)

theorem matched_apply (h : r.Matched) (hok : Prompt r a) : (r.apply lm data a).Matched := by
  cases a with
  | addExp amount near rnd =>
    cases hlev : r.player.isLevelingUp with
    | true =>
      have hsame : r.player.addExp lm data rnd amount near r.scene = (r.player, r.scene) := by
        unfold Player.addExp
        rw [if_pos hlev]
      simpa only [Matched, apply, hsame] using h
    | false =>
      rcases Player.addExp_cases lm data rnd hlev amount near r.scene with ⟨h1, h2⟩ | ⟨h1, h2⟩
      · unfold Matched at h ⊢
        simp only [apply, h1, h2]
        rwa [hlev] at h
      · exact iff_of_true h2 h1
  | addExpNoRoom amount =>
    obtain ⟨h1, h2⟩ := Player.addExpNoRoom_same r.player amount
    unfold Matched at h ⊢
    simp only [apply, h1, h2]
    exact h
  | select optionIndex => exact matched_select h hok
  | update near =>
    unfold Matched at h ⊢
    simp only [apply, Player.updateLevelUp_same, Player.updateLevelUp_isLevelingUp near hok]
    exact h
  | reenter gameId sessionId hp speed => exact iff_of_false (not_not_intro rfl) Bool.false_ne_true
  | world scene => exact h

/-- **Options are pending just while levelling up**, along prompt runs; each list grants at most one
item. -/
theorem choices_while_leveling (lm : Libm) (data : DataManager) (gameId : Int) (sessionId : Nat)
    (hp : Int) (speed : ℚ) (scene : Scene) (as : List LevelUpAction) (t : LevelUpRun)
    (hok : Runs.Meets (step lm data) Prompt (start gameId sessionId hp speed scene) as)
    (hrun : Runs.run (step lm data) (start gameId sessionId hp speed scene) as = some t) :
    (t.player.pendingLevelUpOptions ≠ [] ↔ t.player.isLevelingUp = true) ∧ t.grants.Nodup := by
  have hstart : (start gameId sessionId hp speed scene).Matched :=
    iff_of_false (not_not_intro rfl) Bool.false_ne_true
  have hone : (start gameId sessionId hp speed scene).OneEach :=
    ⟨List.nodup_nil, fun n hn => absurd hn List.not_mem_nil, fun hne => absurd rfl hne⟩
  refine ⟨?_, (oneEach_run hone hrun).nodup⟩
  refine Runs.run_inv_of_meets Matched (fun s a s' hs hoka hstep => ?_) hstart hok hrun
  cases hstep
  exact matched_apply hs hoka

/-- Two level-ups with a choice in each, a second click after the first. -/
def twoChoices : List LevelUpAction :=
  [.addExp 100 [1001] id, .update [1001], .select 1, .select 0, .addExp 150 [1001] id, .select 0]

theorem choices_while_leveling_twoChoices :
    ∃ t, Runs.run (step stillLibm smallData) (start 5 5 100 5 oneMonster) twoChoices = some t ∧
      ((t.player.pendingLevelUpOptions ≠ [] ↔ t.player.isLevelingUp = true) ∧ t.grants.Nodup) ∧
      t.grants = [1, 2] :=
  ⟨_, rfl,
    choices_while_leveling stillLibm smallData 5 5 100 5 oneMonster twoChoices _
    (by decide +kernel) rfl, by decide +kernel⟩

/-- A level-up that the server ends after 33 seconds. -/
def lateChoice : List LevelUpAction :=
  [.addExp 100 [1001] id, .world { oneMonster with totalRunTime := 43 }, .update [1001]]

/-- The options stay after the timeout, and after a selection that no option has; a later selection
gets its item although the player is not levelling up. -/
theorem choices_without_leveling :
    (∃ t, Runs.run (step stillLibm smallData) (start 5 5 100 5 oneMonster) lateChoice = some t ∧
      t.player.isLevelingUp = false ∧ t.player.pendingLevelUpOptions.length = 2 ∧
      (t.apply stillLibm smallData (.select 0)).grants = [1]) ∧
    (∃ t, Runs.run (step stillLibm smallData) (start 5 5 100 5 oneMonster) [.addExp 100 [1001] id,
      .select 2] = some t ∧
      t.player.isLevelingUp = false ∧ t.player.pendingLevelUpOptions.length = 2) :=
  ⟨⟨_, rfl, by decide +kernel⟩, ⟨_, rfl, by decide +kernel⟩⟩

end LevelUpRun

end ToyServer.SimpleGame
