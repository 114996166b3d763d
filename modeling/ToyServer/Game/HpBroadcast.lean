import ToyServer.Game.RoomTasks

/-!
# What clients are told about health and death

`TakeDamage` tells the new hp before it is cut off at 0, and tells of a player's death;
`ExecuteAttackEvents` then tells of the death again.  `health_is_told` is what holds without these
two: where no damage is more than the hp that is left and no attack kills (`Gentle`), every message
has the hp that the object has after the call and every death of a player is told once.
`health_is_mistold` has a monster with hp below 0 and a death that is told twice.
-/

namespace ToyServer.SimpleGame

/-! ## Packets -/

/-- `static_cast<float>` of an `int32_t`: the nearest number of 24 bits, the even one of two. -/
def floatOfInt (n : Int) : Int :=
  let unit : Int := 2 ^ (n.natAbs.log2 - 23)
  let q := n / unit
  let rest := n % unit
  if 2 * rest < unit then q * unit else if unit < 2 * rest then (q + 1) * unit
  else (q + q % 2) * unit

theorem floatOfInt_eq {n : Int} (h : n.natAbs < 2 ^ 24) : floatOfInt n = n := by
  have hlog : n.natAbs.log2 - 23 = 0 := by
    by_cases h0 : n.natAbs = 0
    · rw [h0]
      decide
    · have := (Nat.log2_lt h0).mpr h
      omega
  unfold floatOfInt
  rw [hlog]
  simp

/-- The packets of `TakeDamage` and of `ExecuteAttackEvents`; hp is a `float` in them. -/
inductive HpPacket where
  | hpChange (objectId : Int) (currentHp maxHp : Int)
  | playerDead (playerId : Int)
deriving DecidableEq, Repr

/-- The message about hp, which comes before the cut. -/
def GameObject.hpChange (o : GameObject) (damage : Int) : HpPacket :=
  .hpChange o.id (floatOfInt (o.hp - damage)) (floatOfInt o.maxHp)

/-- What `Player::TakeDamage` broadcasts. -/
def Player.damagePackets (p : Player) (damage : Int) (totalRunTime : ℚ) : List HpPacket :=
  if p.isDead || p.isLevelingUp || p.isInvincible totalRunTime || p.godMode then []
  else p.toGameObject.hpChange damage :: if p.hp - damage ≤ 0 then [.playerDead p.id] else []

/-- What `Monster::TakeDamage` broadcasts of these. -/
def Monster.damagePackets (m : Monster) (damage : Int) : List HpPacket :=
  if m.isDead then [] else [m.toGameObject.hpChange damage]

/-! ## Calls -/

/-- A call of `TakeDamage`, with what its caller sends after it. -/
structure DamageCall where
  /-- the player object that is hurt -/
  player : Option Nat
  damage : Int
  before : GameObject
  after : GameObject
  packets : List HpPacket

inductive DamageAction where
  /-- by a projectile or an emitter -/
  | strike (id damage : Int)
  | dot (id damage : Int)
  /-- one of `ExecuteAttackEvents` -/
  | attack (evt : Room.AttackEvent)
  | world (room : Room)

def DamageAction.isAttack : DamageAction → Bool
  | attack _ => true
  | _ => false

namespace Room

/-- A player is hurt; `extra` is what the caller sends if it is dead then. -/
def hurt (r : Room) (ref : Nat) (damage : Int) (extra : Bool) : DamageCall :=
  let p := r.heap ref
  let q := p.takeDamage damage r.totalRunTime
  ⟨some ref, damage, p.toGameObject, q.toGameObject,
    p.damagePackets damage r.totalRunTime ++ if extra && q.isDead then [.playerDead p.id] else []⟩

def hurtMonster (m : Monster) (damage : Int) : DamageCall :=
  ⟨none, damage, m.toGameObject, (m.takeDamage damage).toGameObject, m.damagePackets damage⟩

/-- The calls of `TakeDamage` that an action makes. -/
def calls (r : Room) : DamageAction → List DamageCall
  | .strike id damage =>
    match r.objMgr.getMonster id with
    | none => []
    | some m => [hurtMonster m damage]
  | .dot id damage =>
    match r.objMgr.objects.lookup id with
    | some (.player ref _) => [r.hurt ref damage false]
    | some (.monster m) => [hurtMonster m damage]
    | _ => []
  | .attack evt =>
    match r.players.lookup (sessionOf evt.playerId) with
    | none => []
    | some ref => if (r.heap ref).isDead then [] else [r.hurt ref evt.damage true]
  | .world _ => []

def damaged (r : Room) : DamageAction → Room
  | .strike id damage => r.modScene fun s => s.damageMonster id damage
  | .dot id damage => r.dot (id, damage)
  | .attack evt => (r.executeAttackEvent evt).1
  | .world room => room

/-- What `TakeDamage` asks first: the monster is not dead, the player neither dead nor protected. -/
def isOpen (r : Room) (c : DamageCall) : Bool :=
  match c.player with
  | none => !c.before.isDead
  | some ref =>
    !((r.heap ref).isDead || (r.heap ref).isLevelingUp ||
      (r.heap ref).isInvincible r.totalRunTime || (r.heap ref).godMode)

theorem damaged_heap {r : Room} {a : DamageAction} {c : DamageCall} {ref : Nat} (hc : c ∈ r.calls a)
    (hp : c.player = some ref) : ((r.damaged a).heap ref).toGameObject = c.after := by
  cases a with
  | strike id damage =>
    simp only [calls] at hc
    split at hc
    · cases hc
    · rw [List.mem_singleton.mp hc] at hp
      cases hp
  | dot id damage =>
    simp only [calls] at hc
    split at hc
    · next ref' _ hl =>
      have hroom : r.damaged (.dot id damage) = r.modPlayer ref' fun p =>
          p.takeDamage damage r.totalRunTime := by
        simp only [damaged, dot, hl]
      obtain rfl := List.mem_singleton.mp hc
      cases hp
      rw [hroom]
      exact congrArg Player.toGameObject (Function.update_self ref _ r.heap)
    · rw [List.mem_singleton.mp hc] at hp
      cases hp
    · cases hc
  | attack evt =>
    simp only [calls] at hc
    split at hc
    · cases hc
    · next ref' hl =>
      split at hc
      · cases hc
      · next halive =>
        have hroom : (r.damaged (.attack evt)).heap =
            (r.modPlayer ref' fun p => p.takeDamage evt.damage r.totalRunTime).heap := by
          simp only [damaged, executeAttackEvent, hl, if_neg halive]
          rfl
        obtain rfl := List.mem_singleton.mp hc
        cases hp
        rw [hroom]
        exact congrArg Player.toGameObject (Function.update_self ref _ r.heap)
  | world room => cases hc

end Room

/-! ## Runs -/

structure HpRun where
  room : Room
  log : List DamageCall

namespace HpRun

section
variable (s : HpRun) (a : DamageAction)

def step : Option HpRun := some ⟨s.room.damaged a, s.log ++ s.room.calls a⟩

/-- The messages of a call tell what is so after it. -/
structure Truthful (c : DamageCall) : Prop where
  hp : ∀ objectId currentHp maxHp, .hpChange objectId currentHp maxHp ∈ c.packets →
    objectId = c.after.id ∧ 0 ≤ currentHp ∧ currentHp ≤ c.after.maxHp ∧ currentHp = c.after.hp
  dead : c.player.isSome → c.packets.count (.playerDead c.after.id) =
    if c.before.isDead = false ∧ c.after.isDead = true then 1 else 0

/-- The object has the hp that it loses, and the rest is a number that a `float` has and not above
the maximum. -/
def Bears (o : GameObject) (damage : Int) : Prop :=
  0 ≤ o.hp - damage ∧ o.hp - damage ≤ o.maxHp ∧ o.hp - damage < 2 ^ 24

/-- Every object that is open to damage bears it, and attacks leave hp. -/
def Gentle : Prop :=
  ∀ c ∈ s.room.calls a, s.room.isOpen c = true → Bears c.before c.damage ∧
    (a.isAttack = true → 0 < c.before.hp - c.damage)

instance (o : GameObject) (damage : Int) : Decidable (Bears o damage) :=
  inferInstanceAs (Decidable (_ ∧ _))

instance : Decidable (Gentle s a) := inferInstanceAs (Decidable (∀ _ ∈ _, _))

end

theorem floatOfInt_of_bears {o : GameObject} {damage : Int} (h : Bears o damage) :
    floatOfInt (o.hp - damage) = o.hp - damage := by
  obtain ⟨h0, -, hlt⟩ := h
  refine floatOfInt_eq ?_
  omega

theorem told_of_bears {o o' : GameObject} {damage : Int} (h : Bears o damage) (hid : o'.id = o.id)
    (hhp : o'.hp = o.hp - damage) (hmax : o'.maxHp = o.maxHp) {objectId currentHp maxHp : Int}
    (heq : HpPacket.hpChange objectId currentHp maxHp = o.hpChange damage) :
    objectId = o'.id ∧ 0 ≤ currentHp ∧ currentHp ≤ o'.maxHp ∧ currentHp = o'.hp := by
  unfold GameObject.hpChange at heq
  rw [floatOfInt_of_bears h] at heq
  cases heq
  rw [hid, hhp, hmax]
  exact ⟨rfl, h.1, h.2.1, rfl⟩

theorem truthful_hurtMonster {m : Monster} {damage : Int}
    (h : m.isDead = false → Bears m.toGameObject damage) :
    Truthful (Room.hurtMonster m damage) := by
  refine ⟨fun objectId currentHp maxHp hmem => ?_, fun hsome => ?_⟩
  · have hin : HpPacket.hpChange objectId currentHp maxHp ∈ m.damagePackets damage := hmem
    unfold Monster.damagePackets at hin
    split at hin
    · cases hin
    · next halive =>
      have hb := h (Bool.eq_false_iff.mpr halive)
      have hhp : (m.takeDamage damage).hp = m.hp - damage := by
        unfold Monster.takeDamage
        rw [if_neg halive]
        split
        · next hle =>
          have h0 : 0 ≤ m.hp - damage := hb.1
          show (0 : Int) = m.hp - damage
          omega
        · rfl
      have hframe : (m.takeDamage damage).id = m.id ∧ (m.takeDamage damage).maxHp = m.maxHp := by
        unfold Monster.takeDamage
        rw [if_neg halive]
        split <;> exact ⟨rfl, rfl⟩
      exact told_of_bears hb hframe.1 hhp hframe.2 (List.mem_singleton.mp hin)
  · cases hsome

theorem takeDamage_of_guard {p : Player} {now : ℚ} (damage : Int)
    (h : ¬(p.isDead || p.isLevelingUp || p.isInvincible now || p.godMode) = true) :
    p.isDead = false ∧ (p.takeDamage damage now).id = p.id ∧
      (p.takeDamage damage now).maxHp = p.maxHp ∧
      ((p.takeDamage damage now).isDead = true ↔ p.hp - damage ≤ 0) ∧
      (0 ≤ p.hp - damage → (p.takeDamage damage now).hp = p.hp - damage) := by
  have halive : p.isDead = false := by
    cases hd : p.isDead with
    | false => rfl
    | true => simp [hd] at h
  unfold Player.takeDamage
  rw [if_neg h]
  dsimp only
  by_cases hle : p.hp - damage ≤ 0
  · rw [if_pos hle]
    refine ⟨halive, rfl, rfl, iff_of_true rfl hle, fun h0 => ?_⟩
    show (0 : Int) = p.hp - damage
    omega
  · rw [if_neg hle]
    refine ⟨halive, rfl, rfl, iff_of_false ?_ hle, fun _ => rfl⟩
    intro hdead
    exact absurd (halive.symm.trans hdead) Bool.false_ne_true

theorem truthful_hurt {r : Room} {ref : Nat} {damage : Int} {extra : Bool}
    (h : ((r.heap ref).isDead || (r.heap ref).isLevelingUp ||
      (r.heap ref).isInvincible r.totalRunTime ||
        (r.heap ref).godMode) = false →
      Bears (r.heap ref).toGameObject damage ∧ (extra = true → 0 < (r.heap ref).hp - damage))
    (halive : extra = true → (r.heap ref).isDead = false) : Truthful (r.hurt ref damage extra) := by
  have hpackets : (r.hurt ref damage extra).packets =
      (r.heap ref).damagePackets damage r.totalRunTime ++
      if extra && ((r.heap ref).takeDamage damage r.totalRunTime).isDead then
        [.playerDead (r.heap ref).id] else [] := rfl
  by_cases hguard :
    ((r.heap ref).isDead || (r.heap ref).isLevelingUp || (r.heap ref).isInvincible r.totalRunTime ||
      (r.heap ref).godMode) = true
  · -- nothing happens, and nothing is told
    have hsame : (r.heap ref).takeDamage damage r.totalRunTime = r.heap ref := by
      unfold Player.takeDamage
      rw [if_pos hguard]
    have hnone : (r.hurt ref damage extra).packets = [] := by
      rw [hpackets, hsame]
      unfold Player.damagePackets
      rw [if_pos hguard]
      cases extra with
      | false => rfl
      | true => simp [halive rfl]
    have hafter : (r.hurt ref damage extra).after = (r.hurt ref damage extra).before :=
      congrArg Player.toGameObject hsame
    refine ⟨fun objectId currentHp maxHp hmem => ?_, fun _ => ?_⟩
    · rw [hnone] at hmem
      cases hmem
    · rw [hnone, hafter, List.count_nil, if_neg]
      rintro ⟨h1, h2⟩
      exact absurd (h1.symm.trans h2) Bool.false_ne_true
  · obtain ⟨hwas, hid, hmax, hdead, hhp⟩ := takeDamage_of_guard damage hguard
    have hfirst : (r.heap ref).damagePackets damage r.totalRunTime =
        (r.heap ref).toGameObject.hpChange damage ::
        if (r.heap ref).hp - damage ≤ 0 then [.playerDead (r.heap ref).id] else [] := by
      unfold Player.damagePackets
      rw [if_neg hguard]
    obtain ⟨hb, hattack⟩ := h (Bool.eq_false_iff.mpr hguard)
    -- an attack that leaves hp sends nothing more
    have hextra : (extra && ((r.heap ref).takeDamage damage r.totalRunTime).isDead) = false := by
      cases extra with
      | false => rfl
      | true =>
        have hpos := hattack rfl
        rw [Bool.true_and]
        cases hd : ((r.heap ref).takeDamage damage r.totalRunTime).isDead with
        | false => rfl
        | true =>
          have := hdead.mp hd
          omega
    have hall : (r.hurt ref damage extra).packets = (r.heap ref).toGameObject.hpChange damage ::
        if (r.heap ref).hp - damage ≤ 0 then [.playerDead (r.heap ref).id] else [] := by
      rw [hpackets, hfirst, hextra]
      exact List.append_nil _
    refine ⟨fun objectId currentHp maxHp hmem => ?_, fun _ => ?_⟩
    · rw [hall] at hmem
      rcases List.mem_cons.mp hmem with heq | hmem
      · exact told_of_bears hb hid (hhp hb.1) hmax heq
      · split at hmem
        · cases List.mem_singleton.mp hmem
        · cases hmem
    · have hid' : (r.hurt ref damage extra).after.id = (r.heap ref).id := hid
      have hcond : ((r.hurt ref damage extra).before.isDead = false ∧
          (r.hurt ref damage extra).after.isDead = true) ↔
          (r.heap ref).hp - damage ≤ 0 :=
            ⟨fun hc => hdead.mp hc.2, fun hle => ⟨hwas, hdead.mpr hle⟩⟩
      have hnot : (r.heap ref).toGameObject.hpChange damage ≠ .playerDead (r.heap ref).id := by
        intro heq
        cases heq
      rw [hall, hid', List.count_cons_of_ne hnot]
      by_cases hle : (r.heap ref).hp - damage ≤ 0
      · rw [if_pos hle, if_pos (hcond.mpr hle), List.count_singleton_self]
      · rw [if_neg hle, if_neg (fun hc => hle (hcond.mp hc)), List.count_nil]

/-- **A gentle call is truthful.** -/
theorem truthful_calls {s : HpRun} {a : DamageAction} (h : Gentle s a) :
    ∀ c ∈ s.room.calls a, Truthful c := by
  intro c hc
  have hgentle := h c hc
  cases a with
  | strike id damage =>
    simp only [Room.calls] at hc
    split at hc
    · cases hc
    · obtain rfl := List.mem_singleton.mp hc
      exact truthful_hurtMonster fun hopen => (hgentle (congrArg not hopen)).1
  | dot id damage =>
    simp only [Room.calls] at hc
    split at hc
    · obtain rfl := List.mem_singleton.mp hc
      refine truthful_hurt (fun hopen => ⟨(hgentle (congrArg not hopen)).1, fun hextra => ?_⟩)
        fun hextra => ?_
      · cases hextra
      · cases hextra
    · obtain rfl := List.mem_singleton.mp hc
      exact truthful_hurtMonster fun hopen => (hgentle (congrArg not hopen)).1
    · cases hc
  | attack evt =>
    simp only [Room.calls] at hc
    split at hc
    · cases hc
    · split at hc
      · cases hc
      · next halive =>
        obtain rfl := List.mem_singleton.mp hc
        refine truthful_hurt (fun hopen => ?_) fun _ => ?_
        · obtain ⟨hb, hleft⟩ := hgentle (congrArg not hopen)
          exact ⟨hb, fun _ => hleft rfl⟩
        · exact Bool.eq_false_iff.mpr halive
  | world room => cases hc

/-- **Health is told as it is, and every death once**, in every run from any room whose calls are
gentle. -/
theorem health_is_told (room : Room) (as : List DamageAction) (t : HpRun)
    (hok : Runs.Meets step Gentle ⟨room, []⟩ as) (hrun : Runs.run step ⟨room, []⟩ as = some t) :
    ∀ c ∈ t.log, Truthful c := by
  refine Runs.run_inv_of_meets (fun s => ∀ c ∈ s.log, Truthful c)
    (fun s a s' hs hoka hstep => ?_) ?_ hok hrun
  · cases hstep
    intro c hc
    rcases List.mem_append.mp hc with hc | hc
    · exact hs c hc
    · exact truthful_calls hoka c hc
  · intro c hc
    cases hc

def duel : Room :=
  { Room.make 1 false with
    toScene := { oneMonster with objMgr := oneMonster.objMgr.addObject (.player 0 5) }
    players := (∅ : AList fun _ : Nat => Nat).insert 5 0
    heap := fun _ => Player.make.init 5 5 100 5 }

/-- The monster is hit twice and dies with the second hit; the player is attacked, and later
poisoned to death. -/
def gentleDuel : List DamageAction :=
  [.strike 1001 4, .strike 1001 6, .attack ⟨1001, 5, 30⟩,
    .world { duel with totalRunTime := 20 }, .dot 5 100]

theorem health_is_told_gentleDuel :
    ∃ t, Runs.run step ⟨duel, []⟩ gentleDuel = some t ∧
      t.log.map (·.packets) = [[.hpChange 1001 6 10], [.hpChange 1001 0 10], [.hpChange 5 70 100],
        [.hpChange 5 0 100, .playerDead 5]] ∧ ∀ c ∈ t.log, Truthful c :=
  ⟨_, rfl, by decide +kernel, health_is_told duel gentleDuel _ (by decide +kernel) rfl⟩

/-- A hit for more than the monster has, and an attack that kills. -/
def roughDuel : List DamageAction := [.strike 1001 25, .attack ⟨1001, 5, 100⟩]

theorem health_is_mistold :
    ∃ t, Runs.run step ⟨duel, []⟩ roughDuel = some t ∧
      t.log.map (fun c => (c.after.hp, c.packets)) =
        [(0, [.hpChange 1001 (-15) 10]), (0, [.hpChange 5 0 100, .playerDead 5, .playerDead 5])] :=
  ⟨_, rfl, by decide +kernel⟩

end HpRun

end ToyServer.SimpleGame
