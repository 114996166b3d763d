import ToyServer.Game.RoomChanges

/-!
# What a projectile can hit

A projectile in flight is updated, moved and tested against the monsters that the grid has for it,
one target after the other.  `damaged` are the monsters that it has damaged so far.  The remaining
pierce count, the list of hits and the flag `_isHit` are tied together by `Accounted`, which every
event keeps, and an expired projectile stays so and damages nobody.
-/

namespace ToyServer.SimpleGame

structure Flight where
  proj : Projectile
  damaged : List Int

/-- A projectile that an emitter has fired. -/
def launch (shot : Shot) (id ownerId skillId : Int) : Flight :=
  ⟨Room.newProjectile shot id ownerId skillId, []⟩

variable {p : Projectile}

inductive FlightEvent where
  /-- `Projectile::Update`; `owner` is the object of `_ownerId` in the room -/
  | update (dt : ℚ≥0) (owner : Option GameObject)
  /-- `UpdatePhysics` -/
  | moved (x y : ℚ)
  /-- `SyncNetwork` -/
  | synced (time : ℚ) (serverTick : Nat)
  /-- a round of the loop over the targets, which are as they are then -/
  | target (t : GameObject)

namespace Flight

/-- The tests of a target, up to `HasHit`. -/
def strikes (p : Projectile) (t : GameObject) : Bool :=
  let dx := p.x - t.x
  let dy := p.y - t.y
  let sumRad := p.radius + t.radius
  t.id != p.id && t.type == .monster && !t.isDead &&
    decide (dx * dx + dy * dy ≤ (sumRad + 1 / 10) * (sumRad + 1 / 10)) &&
      !p.hitTargets.contains t.id

/-- `TakeDamage`, `AddHit` and `OnHit` -/
def damage (f : Flight) (t : GameObject) : Bool × Flight :=
  let res := (f.proj.addHit t.id).onHit
  (res.1, ⟨res.2, f.damaged ++ [t.id]⟩)

/-- The loop over the targets, which ends at a projectile that is expired or consumed. -/
def collide (f : Flight) : List GameObject → Flight
  | [] => f
  | t :: rest =>
    if f.proj.isExpired then f
    else if strikes f.proj t then
      match f.damage t with
      | (true, f') => f'
      | (false, f') => f'.collide rest
    else f.collide rest

def round (f : Flight) (t : GameObject) : Flight :=
  if f.proj.isExpired then f else if strikes f.proj t then (f.damage t).2 else f

def step (lm : Libm) (f : Flight) : FlightEvent → Flight
  | .update dt owner => { f with proj := f.proj.update lm dt owner }
  | .moved x y => { f with proj := { f.proj with toGameObject := f.proj.toGameObject.setPos x y } }
  | .synced time tick =>
    { f with proj :=
      { f.proj with toGameObject := f.proj.toGameObject.updateLastSentState time tick } }
  | .target t => f.round t

def fly (lm : Libm) (f : Flight) (events : List FlightEvent) : Flight := events.foldl (step lm) f

variable {lm : Libm} {f : Flight}

/-! ## Expiry -/

theorem round_of_expired (h : f.proj.isExpired = true) (t : GameObject) : f.round t = f := by
  unfold round
  rw [if_pos h]

theorem expired_of_consumed {t : GameObject} (h : (f.damage t).1 = true) :
    (f.damage t).2.proj.isExpired = true := by
  unfold damage Projectile.onHit at h ⊢
  dsimp only at h ⊢
  split at h
  · cases h
  · next hzero =>
    rw [if_neg hzero]
    simp [Projectile.isExpired]

/-- The loop is its rounds: after a break nothing would be hit. -/
theorem collide_eq_fly (lm : Libm) (f : Flight) (targets : List GameObject) :
    f.collide targets = fly lm f (targets.map .target) := by
  have hstay : ∀ (f : Flight) (ts : List GameObject), f.proj.isExpired = true →
      fly lm f (ts.map .target) = f := by
    intro f ts hexp
    induction ts with
    | nil => rfl
    | cons t ts ih =>
      show fly lm (f.round t) (ts.map .target) = f
      rw [round_of_expired hexp]
      exact ih
  induction targets generalizing f with
  | nil => rfl
  | cons t ts ih =>
    show f.collide (t :: ts) = fly lm (f.round t) (ts.map .target)
    unfold collide round
    by_cases hexp : f.proj.isExpired = true
    · rw [if_pos hexp, if_pos hexp, hstay f ts hexp]
    · rw [if_neg hexp, if_neg hexp]
      by_cases hs : strikes f.proj t = true
      · rw [if_pos hs, if_pos hs]
        split
        · next f' hd =>
          have hexp' : f'.proj.isExpired = true := by
            have := expired_of_consumed (f := f) (t := t) (by rw [hd])
            rwa [hd] at this
          rw [hd]
          exact (hstay f' ts hexp').symm
        · next f' hd =>
          rw [hd]
          exact ih f'
      · rw [if_neg hs, if_neg hs]
        exact ih f

/-! ## Updates -/

def marks (p : Projectile) : Bool × Int × List Int := (p.isHit, p.pierceCount, p.hitTargets)

theorem marks_age (p : Projectile) (dt : ℚ) : marks (p.age dt) = marks p := by
  unfold Projectile.age
  dsimp only
  split <;> rfl

theorem updateLinear_same (lm : Libm) (p : Projectile) (dt : ℚ) :
    marks (p.updateLinear lm dt) = marks p ∧ (p.updateLinear lm dt).lifetime = p.lifetime := by
  unfold Projectile.updateLinear
  dsimp only
  split <;> exact ⟨rfl, rfl⟩

theorem updateOrbit_same (lm : Libm) (p : Projectile) (dt : ℚ) (owner : Option GameObject) :
    marks (p.updateOrbit lm dt owner) = marks p ∧
    (p.updateOrbit lm dt owner).lifetime = p.lifetime := by
  unfold Projectile.updateOrbit
  cases owner with
  | none => exact ⟨rfl, rfl⟩
  | some o =>
    dsimp only
    split <;> exact ⟨rfl, rfl⟩

theorem update_cases (lm : Libm) (p : Projectile) (dt : ℚ) (owner : Option GameObject) :
    (p.isDead = true ∧ p.update lm dt owner = p) ∨
      ∃ q, marks q = marks p ∧ q.lifetime = p.lifetime ∧ p.update lm dt owner = q.age dt := by
  unfold Projectile.update
  by_cases hdead : p.isDead = true
  · exact .inl ⟨hdead, if_pos hdead⟩
  · rw [if_neg hdead]
    by_cases horbit : p.isOrbit = true
    · obtain ⟨hm, hl⟩ := updateOrbit_same lm p dt owner
      exact .inr ⟨_, hm, hl, if_pos horbit⟩
    · obtain ⟨hm, hl⟩ := updateLinear_same lm p dt
      exact .inr ⟨_, hm, hl, if_neg horbit⟩

theorem marks_update (p : Projectile) (dt : ℚ) (owner : Option GameObject) :
    marks (p.update lm dt owner) = marks p := by
  rcases update_cases lm p dt owner with ⟨-, heq⟩ | ⟨q, hm, -, heq⟩
  · rw [heq]
  · rw [heq, marks_age, hm]

theorem expired_update (h : p.isExpired = true) (dt : ℚ≥0) (owner : Option GameObject) :
    (p.update lm dt owner).isExpired = true := by
  rcases update_cases lm p dt owner with ⟨-, heq⟩ | ⟨q, hm, hl, heq⟩
  · rw [heq]
    exact h
  · by_cases hdead : p.isDead = true
    · have hsame : p.update lm dt owner = p := if_pos hdead
      rw [hsame]
      exact h
    · have hhit : q.isHit = p.isHit := congrArg Prod.fst hm
      have hend : q.lifetime - dt ≤ 0 ∨ q.isHit = true := by
        simp only [Projectile.isExpired, Bool.or_eq_true, decide_eq_true_eq] at h
        rcases h with (hlife | hhit') | hdead'
        · left
          rw [hl]
          linarith [dt.coe_nonneg]
        · exact .inr (hhit.trans hhit')
        · exact absurd hdead' hdead
      rw [heq]
      unfold Projectile.age
      dsimp only
      rw [if_pos hend]
      simp [Projectile.isExpired, Projectile.die, GameObject.isDead]

theorem expired_step (h : f.proj.isExpired = true) (e : FlightEvent) :
    (f.step lm e).proj.isExpired = true ∧ (f.step lm e).damaged = f.damaged := by
  cases e with
  | update dt owner => exact ⟨expired_update h dt owner, rfl⟩
  | moved x y => exact ⟨h, rfl⟩
  | synced time tick => exact ⟨h, rfl⟩
  | target t =>
    show (f.round t).proj.isExpired = true ∧ (f.round t).damaged = f.damaged
    rw [round_of_expired h]
    exact ⟨h, rfl⟩

theorem expired_fly (h : f.proj.isExpired = true) (events : List FlightEvent) :
    (f.fly lm events).proj.isExpired = true ∧ (f.fly lm events).damaged = f.damaged := by
  induction events generalizing f with
  | nil => exact ⟨h, rfl⟩
  | cons e events ih =>
    have hstep : (f.step lm e).proj.isExpired = true ∧ (f.step lm e).damaged = f.damaged :=
      expired_step h e
    obtain ⟨hexp, hsame⟩ := hstep
    obtain ⟨hexp', hsame'⟩ := ih hexp
    exact ⟨hexp', hsame'.trans hsame⟩

/-! ## The account -/

/-- What the marks of a projectile that was fired with the pierce count `n` say: its hits are the
damaged monsters, each damaged once; of `n + 1` hits the ones that are left are counted, and all are
used up when the flag is set; a negative count is never touched. -/
structure Accounted (n : Int) (f : Flight) : Prop where
  hits : f.proj.hitTargets = f.damaged
  nodup : f.damaged.Nodup
  counted : 0 ≤ n → f.proj.isHit = false → 0 ≤ f.proj.pierceCount ∧
    f.proj.pierceCount + f.damaged.length = n
  used : 0 ≤ n → f.proj.isHit = true → (f.damaged.length : Int) = n + 1
  endless : n < 0 → f.proj.isHit = false ∧ f.proj.pierceCount = n

variable {n : Int}

theorem Accounted.of_marks {f' : Flight} (h : f.Accounted n) (hm : marks f'.proj = marks f.proj)
    (hd : f'.damaged = f.damaged) : f'.Accounted n := by
  obtain ⟨hhit, hpierce, htargets⟩ : f'.proj.isHit = f.proj.isHit ∧
      f'.proj.pierceCount = f.proj.pierceCount ∧
      f'.proj.hitTargets = f.proj.hitTargets := by simpa [marks] using hm
  constructor
  · rw [htargets, hd]
    exact h.hits
  · rw [hd]
    exact h.nodup
  · rw [hhit, hpierce, hd]
    exact h.counted
  · rw [hhit, hd]
    exact h.used
  · rw [hhit, hpierce]
    exact h.endless

theorem Accounted.damage {t : GameObject} (h : f.Accounted n) (hhit : f.proj.isHit = false)
    (hnew : t.id ∉ f.damaged) : (f.damage t).2.Accounted n := by
  have hnodup : (f.damaged ++ [t.id]).Nodup := by
    rw [List.nodup_append_comm, List.singleton_append, List.nodup_cons]
    exact ⟨hnew, h.nodup⟩
  have htargets : f.proj.hitTargets ++ [t.id] = f.damaged ++ [t.id] := by rw [h.hits]
  have hlen : ((f.damaged ++ [t.id]).length : Int) = f.damaged.length + 1 := by simp
  unfold Flight.damage Projectile.onHit Projectile.addHit
  dsimp only
  by_cases hzero : f.proj.pierceCount = 0
  · -- the last hit of a finite count
    rw [if_neg (by simpa using hzero)]
    refine ⟨htargets, hnodup, fun _ hc => absurd hc (by simp), fun hn _ => ?_, fun hn => ?_⟩
    · have := (h.counted hn hhit).2
      show ((f.damaged ++ [t.id]).length : Int) = n + 1
      omega
    · have := (h.endless hn).2
      omega
  · rw [if_pos hzero]
    refine ⟨htargets, hnodup, fun hn _ => ?_, fun _ hc => ?_, fun hn => ⟨hhit, ?_⟩⟩
    · obtain ⟨hpos, hsum⟩ := h.counted hn hhit
      have hlt : 0 < f.proj.pierceCount := lt_of_le_of_ne hpos (Ne.symm hzero)
      show 0 ≤ (if 0 < f.proj.pierceCount then f.proj.pierceCount - 1 else f.proj.pierceCount) ∧
        (if 0 < f.proj.pierceCount then f.proj.pierceCount - 1 else f.proj.pierceCount) +
          ((f.damaged ++ [t.id]).length : Int) = n
      rw [if_pos hlt]
      omega
    · exact absurd (hhit.symm.trans hc) (by decide)
    · have hneg := (h.endless hn).2
      show (if 0 < f.proj.pierceCount then f.proj.pierceCount - 1 else f.proj.pierceCount) = n
      rw [if_neg (by omega)]
      exact hneg

theorem Accounted.round (h : f.Accounted n) (t : GameObject) : (f.round t).Accounted n := by
  unfold Flight.round
  split
  · exact h
  · next hexp =>
    split
    · next hs =>
      refine h.damage ?_ ?_
      · simp only [Projectile.isExpired, Bool.or_eq_true, not_or, Bool.not_eq_true] at hexp
        exact hexp.1.2
      · simp only [strikes, Bool.and_eq_true, Bool.not_eq_true', List.contains_eq_mem,
          decide_eq_false_iff_not] at hs
        rw [← h.hits]
        exact hs.2
    · exact h

/-- A hit is counted once against the number of pierces. -/
theorem Accounted.step (h : f.Accounted n) (e : FlightEvent) : (f.step lm e).Accounted n := by
  cases e with
  | update dt owner => exact h.of_marks (marks_update f.proj dt owner) rfl
  | moved x y => exact h.of_marks rfl rfl
  | synced time tick => exact h.of_marks rfl rfl
  | target t => exact h.round t

theorem Accounted.fly (h : f.Accounted n) (events : List FlightEvent) :
    (f.fly lm events).Accounted n := by
  induction events generalizing f with
  | nil => exact h
  | cons e events ih => exact ih (h.step e)

theorem accounted_launch (shot : Shot) (id ownerId skillId : Int) :
    (launch shot id ownerId skillId).Accounted shot.pierceCount := by
  have hmarks : marks (launch shot id ownerId skillId).proj = (false, shot.pierceCount, []) := by
    unfold launch Room.newProjectile
    cases shot.orbit with
    | none => rfl
    | some orbit => rfl
  obtain ⟨hhit, hpierce, htargets⟩ : (launch shot id ownerId skillId).proj.isHit = false ∧
      (launch shot id ownerId skillId).proj.pierceCount = shot.pierceCount ∧
      (launch shot id ownerId skillId).proj.hitTargets = [] := by simpa [marks] using hmarks
  refine ⟨htargets, List.nodup_nil, fun hn _ => ?_, fun _ hc => ?_, fun _ => ⟨hhit, hpierce⟩⟩
  · rw [hpierce]
    exact ⟨hn, by simp [launch]⟩
  · exact absurd (hhit.symm.trans hc) (by decide)

/-- **Pierce accounting**: a projectile damages different monsters, with a pierce count `n` at most
`n + 1` of them, and is expired as soon as it has; a negative count is never used up; and once it is
expired it damages nobody. -/
theorem pierce_accounting (lm : Libm) (shot : Shot) (id ownerId skillId : Int)
    (before after : List FlightEvent) : let f := (launch shot id ownerId skillId).fly lm before
    f.damaged.Nodup ∧
      (0 ≤ shot.pierceCount → (f.damaged.length : Int) ≤ shot.pierceCount + 1 ∧
        ((f.damaged.length : Int) = shot.pierceCount + 1 → f.proj.isExpired = true)) ∧
      (shot.pierceCount < 0 → f.proj.isHit = false) ∧
      (f.proj.isExpired = true →
        (f.fly lm after).proj.isExpired = true ∧ (f.fly lm after).damaged = f.damaged) := by
  intro f
  have h : f.Accounted shot.pierceCount := (accounted_launch shot id ownerId skillId).fly before
  refine ⟨h.nodup, fun hn => ?_, fun hn => (h.endless hn).1, fun hexp => expired_fly hexp after⟩
  cases hhit : f.proj.isHit with
  | true =>
    have hused := h.used hn hhit
    exact ⟨hused.le, fun _ => by simp [Projectile.isExpired, hhit]⟩
  | false =>
    obtain ⟨hpos, hsum⟩ := h.counted hn hhit
    exact ⟨by omega, fun hall => by omega⟩

end Flight

/-! ## The projectiles of a room -/

namespace ObjectManager

theorem getProjectile_congr {o o' : ObjectManager} {id : Int}
    (h : o'.objects.lookup id = o.objects.lookup id) :
    o'.getProjectile id = o.getProjectile id := by
  unfold getProjectile
  rw [h]

theorem getProjectile_modMonster (o : ObjectManager) {id monsterId : Int}
    (h : o.getProjectile id = some p) (f : Monster → Monster) :
    (o.modMonster monsterId f).getProjectile id = some p := by
  unfold modMonster
  cases hm : o.getMonster monsterId with
  | none => exact h
  | some m =>
    have hne : id ≠ monsterId := by
      rintro rfl
      have hp := getProjectile_eq_some.mp h
      rw [getMonster_eq_some.mp hm] at hp
      cases hp
    rw [← h]
    exact getProjectile_congr (AList.lookup_insert_ne hne)

theorem nextId_modMonster (o : ObjectManager) (id : Int) (f : Monster → Monster) :
    (o.modMonster id f).nextId = o.nextId := by
  unfold modMonster
  cases o.getMonster id with
  | none => rfl
  | some m => rfl

theorem getProjectile_modProjectile {o : ObjectManager} {id : Int} (h : o.getProjectile id = some p)
    (f : Projectile → Projectile) : (o.modProjectile id f).getProjectile id = some (f p) := by
  unfold modProjectile
  rw [h]
  exact getProjectile_eq_some.mpr (AList.lookup_insert _)

end ObjectManager

theorem getProjectile_dropGem {s : Scene} {id : Int} (hid : id ≠ s.objMgr.nextId) (x y : ℚ) :
    (s.dropGem x y).objMgr.getProjectile id = s.objMgr.getProjectile id := by
  apply ObjectManager.getProjectile_congr
  show (s.objMgr.objects.insert (Entity.item (ExpGem.make s.objMgr.nextId x y 10)).id
    (.item (ExpGem.make s.objMgr.nextId x y 10))).lookup id = _
  rw [Scene.gem_id]
  exact AList.lookup_insert_ne hid

/-- Damage to a monster leaves a projectile alone, unless the gem that falls takes its id. -/
theorem getProjectile_damageMonster {s : Scene} {id : Int} (h : s.objMgr.getProjectile id = some p)
    (hid : id ≠ s.objMgr.nextId) (monsterId damage : Int) :
    (s.damageMonster monsterId damage).objMgr.getProjectile id = some p := by
  unfold Scene.damageMonster
  cases s.getMonster monsterId with
  | none => exact h
  | some m =>
    have hmod :
        (s.modMonster monsterId fun m => m.takeDamage damage).objMgr.getProjectile id = some p :=
      ObjectManager.getProjectile_modMonster s.objMgr h _
    have hid' : id ≠ (s.modMonster monsterId fun m => m.takeDamage damage).objMgr.nextId := by
      show id ≠ (s.objMgr.modMonster monsterId fun m => m.takeDamage damage).nextId
      rw [ObjectManager.nextId_modMonster]
      exact hid
    dsimp only
    split
    · rw [getProjectile_dropGem hid']
      exact hmod
    · exact hmod

theorem getProjectile_hit {r : Room} {id : Int} (h : r.objMgr.getProjectile id = some p)
    (hid : id ≠ r.objMgr.nextId) (roll : Strike) (monsterId : Int) :
    (r.hit id roll monsterId).objMgr.getProjectile id = some ((p.addHit monsterId).onHit).2 := by
  unfold Room.hit
  cases roll.slow with
  | none =>
    exact ObjectManager.getProjectile_modProjectile
      (getProjectile_damageMonster h hid monsterId roll.damage) _
  | some slow =>
    refine ObjectManager.getProjectile_modProjectile
      (getProjectile_damageMonster (ObjectManager.getProjectile_modMonster r.objMgr h _) ?_
        monsterId roll.damage) _
    exact fun heq => hid (heq.trans (ObjectManager.nextId_modMonster r.objMgr monsterId _))

theorem strikes_eq {m : Monster} (htype : m.type = .monster) (hne : m.id ≠ p.id) :
    Flight.strikes p m.toGameObject = Room.strikes p m := by
  unfold Flight.strikes Room.strikes
  simp only [bne_iff_ne.mpr hne, htype, BEq.rfl, Bool.true_and]
  ac_rfl

/-- A round of the room is a round of the flight of its projectile, and the new strikes are the
monsters that it damages. -/
theorem projectileTarget_round (ch : TickChoice) {acc : Room × List Strike} {id : Int} {m : Monster}
    (hp : acc.1.objMgr.getProjectile id = some p) (hm : acc.1.objMgr.getMonster m.id = some m)
    (htype : m.type = .monster) (hne : m.id ≠ p.id) (hid : id ≠ acc.1.objMgr.nextId)
    (damaged : List Int) :
    ∃ hits : List Strike, (Room.projectileTarget ch id acc m.id).2 = acc.2 ++ hits ∧
      (Room.projectileTarget ch id acc m.id).1.objMgr.getProjectile id =
        some (Flight.round ⟨p, damaged⟩ m.toGameObject).proj ∧
      (Flight.round ⟨p, damaged⟩ m.toGameObject).damaged = damaged ++ hits.map (·.id) := by
  unfold Room.projectileTarget Flight.round
  rw [hp, hm]
  dsimp only
  rw [strikes_eq htype hne]
  cases hexp : p.isExpired with
  | true => exact ⟨[], (List.append_nil _).symm, hp, (List.append_nil _).symm⟩
  | false =>
    cases hs : Room.strikes p m with
    | false => exact ⟨[], (List.append_nil _).symm, hp, (List.append_nil _).symm⟩
    | true =>
      exact ⟨[{ ch.roll id m.id with id := m.id }], rfl, getProjectile_hit hp hid _ m.id, rfl⟩

end ToyServer.SimpleGame
