import ToyServer.Game.LevelUpSlow

/-!
# Game over

A player dies in `ExecuteAttackEvents`, which looks whether it was the last one and posts
`HandleGameOver(false)`.  Nobody else looks: not the leave of the last living player, and nobody
calls `CheckWinCondition`.  Between the post and the task others may enter.

`game_over_when_due` says what is declared, over runs that are watched game by game (`Watch`), when
none of this happens.
-/

namespace ToyServer.SimpleGame

open Chain Runs

variable (data : DataManager) (ref : Nat) {r r' : Room} {ch : TickChoice} {lm : Libm} {task : Task}
  {queue : List Task} {s : Arena}

/-! ## Packets of a chain -/

namespace Scene

/-- `s'` has sent more than `s`, but no `S_GameOver`. -/
def SentMore (s s' : Scene) : Prop :=
  ∃ pkts, s'.sent = s.sent ++ pkts ∧ ∀ pkt ∈ pkts, pkt.isOver = false

theorem SentMore.refl (s : Scene) : SentMore s s :=
  ⟨[], (List.append_nil _).symm, fun _ h => absurd h List.not_mem_nil⟩

theorem SentMore.trans {s s' s'' : Scene} (h : SentMore s s') (h' : SentMore s' s'') :
    SentMore s s'' := by
  obtain ⟨pkts, heq, hp⟩ := h
  obtain ⟨pkts', heq', hp'⟩ := h'
  refine ⟨pkts ++ pkts', by rw [heq', heq, List.append_assoc], fun pkt hmem => ?_⟩
  exact (List.mem_append.mp hmem).elim (hp pkt) (hp' pkt)

theorem SentMore.send (s : Scene) {pkt : Packet} (h : pkt.isOver = false) :
    SentMore s (s.send pkt) :=
  ⟨[pkt], rfl, fun _ hmem => List.mem_singleton.mp hmem ▸ h⟩

theorem Change.sentMore {t : Tag} {s s' : Scene} (h : Change t s s') : SentMore s s' := by
  cases h with
  | send hover => exact SentMore.send s hover
  | wide hover => exact SentMore.send s hover
  | _ => exact SentMore.refl s

end Scene

namespace Room

theorem sentMore_of_reach {ok : Tag → Prop} (h : Reach Change ok r r') :
    Scene.SentMore r.toScene r'.toScene := by
  refine h.inv (fun x => Scene.SentMore r.toScene x.toScene) (fun t x x' _ hc hx => ?_)
    (Scene.SentMore.refl _)
  cases hc with
  | scene hs => exact hx.trans hs.sentMore
  | _ => exact hx

theorem isGameOver_of_reach {ok : Tag → Prop} (h : Reach Change ok r r') :
    r'.isGameOver = r.isGameOver := by
  refine h.inv (fun x => x.isGameOver = r.isGameOver) (fun t x x' _ hc hx => ?_) rfl
  cases hc with
  | _ => exact hx

/-! ## Who is dead -/

theorem allDead_iff : r.allDead = true ↔ ∀ sid ref, r.players.lookup sid = some ref →
    (r.heap ref).isDead = true := by
  unfold allDead
  rw [List.all_eq_true]
  constructor
  · exact fun h sid ref hl => h ⟨sid, ref⟩ (AList.mem_lookup_iff.mp hl)
  · exact fun h e he => h e.1 e.2 (AList.mem_lookup_iff.mpr he)

theorem allDead_mono (h : r.allDead = true)
    (hpl : ∀ sid ref, r'.players.lookup sid = some ref → r.players.lookup sid = some ref)
    (hdead : ∀ ref, (r.heap ref).isDead = true → (r'.heap ref).isDead = true) : r'.allDead = true :=
  allDead_iff.mpr fun sid ref hl => hdead ref (allDead_iff.mp h sid ref (hpl sid ref hl))

def SameDead (r r' : Room) : Prop := ∀ ref, (r'.heap ref).isDead = (r.heap ref).isDead

theorem SameDead.trans {r'' : Room} (h : SameDead r r') (h' : SameDead r' r'') : SameDead r r'' :=
  fun ref => (h' ref).trans (h ref)

theorem SameDead.allDead (h : SameDead r r') (hpl : r'.players = r.players) :
    r'.allDead = r.allDead := by
  unfold Room.allDead
  rw [hpl]
  exact congrArg _ (funext fun e => h e.2)

theorem sameDead_setPlayer {ref : Nat} {p : Player} (h : p.isDead = (r.heap ref).isDead) :
    SameDead r (r.setPlayer ref p) := by
  intro ref'
  simp only [setPlayer, Function.update_apply]
  split
  · next heq => exact heq ▸ h
  · rfl

/-- Changes that neither hurt nor revive. -/
def Unhurt (t : Tag) : Prop := t ∉ [Tag.hurt, .revive]

instance (t : Tag) : Decidable (Unhurt t) := inferInstanceAs (Decidable (¬_))

theorem quiet_unhurt : ∀ t, Quiet t → Unhurt t := by
  intro t
  cases t <;> decide

theorem bloodless_unhurt : ∀ t, Bloodless t → Unhurt t := by
  intro t
  cases t <;> decide

theorem harmless_unhurt : ∀ t, Harmless t → Unhurt t := by
  intro t
  cases t <;> decide

theorem enlisting_unhurt : ∀ t, Enlisting t → Unhurt t := by
  intro t
  cases t <;> decide

theorem sameDead_of_reach {ok : Tag → Prop} (h : Reach Change ok r r')
    (hok : ∀ t, ok t → Unhurt t) : SameDead r r' := by
  refine h.inv (SameDead r) (fun t x x' ht hc hx => hx.trans ?_) fun _ => rfl
  have htag := hok t ht
  cases hc with
  | scene => exact fun _ => rfl
  | player hkept => exact sameDead_setPlayer hkept.isDead
  | aura hkept => exact sameDead_setPlayer hkept.isDead
  | hurt => exact absurd List.mem_cons_self htag
  | revive => exact absurd (List.mem_cons_of_mem _ List.mem_cons_self) htag
  | enlist => exact fun _ => rfl

theorem dead_of_reach (h : Reach Change Mild r r') (ref : Nat)
    (hdead : (r'.heap ref).isDead = true) : (r.heap ref).isDead = true := by
  revert hdead
  refine h.inv (fun x => (x.heap ref).isDead = true → (r.heap ref).isDead = true)
    (fun t x x' ht hc hx => ?_) fun hd => hd
  cases hc with
  | scene => exact hx
  | player hkept => exact fun hd => hx ((sameDead_setPlayer hkept.isDead ref) ▸ hd)
  | aura hkept => exact fun hd => hx ((sameDead_setPlayer hkept.isDead ref) ▸ hd)
  | hurt => exact absurd ht (by decide)
  | @revive _ ref₀ p _ _ _ _ hrev =>
    intro hd
    simp only [setPlayer, Function.update_apply] at hd
    split at hd
    · next heq => exact hx (heq ▸ hrev hd)
    · exact hx hd
  | enlist => exact hx

/-! ## Attacks -/

theorem takeDamage_dead {p : Player} (damage : Int) (now : ℚ) (h : p.isDead = true) :
    (p.takeDamage damage now).isDead = true := by
  unfold Player.takeDamage
  rw [h]
  exact h

/-- What attacks do: the dead stay dead, who dies is in the room, and the game is found to be over
just when the last one dies. -/
structure Attacked (r r' : Room) (ended : Prop) : Prop where
  players : r'.players = r.players
  dead : ∀ ref, (r.heap ref).isDead = true → (r'.heap ref).isDead = true
  dies : ∀ ref, (r'.heap ref).isDead = true → (r.heap ref).isDead = true ∨
    ∃ sid, r.players.lookup sid = some ref
  found : ended → r'.allDead = true
  due : r'.allDead = true → r.allDead = true ∨ ended

theorem attacked_event (r : Room) (evt : AttackEvent) :
    Attacked r (r.executeAttackEvent evt).1 ((r.executeAttackEvent evt).2 = true) := by
  have hsame : Attacked r r (false = true) :=
    ⟨rfl, fun _ h => h, fun _ h => Or.inl h, fun h => absurd h (by decide), fun h => Or.inl h⟩
  unfold executeAttackEvent
  split
  · exact hsame
  · next ref hl =>
    split
    · exact hsame
    · next halive =>
      set p := (r.heap ref).takeDamage evt.damage r.totalRunTime with hp
      set r' := (r.setPlayer ref p).modScene fun s =>
        s.modMonster evt.monsterId fun m => m.resetAttackCooldown r.totalRunTime with hr'
      have hheap : ∀ ref', r'.heap ref' = if ref' = ref then p else r.heap ref' := by
        intro ref'
        simp only [hr', modScene, setPlayer, Function.update_apply]
      show Attacked r r' (((r'.heap ref).isDead && r'.allDead) = true)
      refine ⟨rfl, fun ref' hd => ?_, fun ref' hd => ?_, fun hover => ?_, fun hall => Or.inr ?_⟩
      · rw [hheap]
        split
        · next heq => exact takeDamage_dead _ _ (heq ▸ hd)
        · exact hd
      · rw [hheap] at hd
        split at hd
        · next heq => exact .inr ⟨_, heq ▸ hl⟩
        · exact .inl hd
      · exact (Bool.and_eq_true_iff.mp hover).2
      · -- the one that was hit was alive, so it is the last that died
        exact Bool.and_eq_true_iff.mpr ⟨allDead_iff.mp hall _ ref hl, hall⟩

theorem Attacked.trans {r'' : Room} {o o' : Prop} (h : Attacked r r' o) (h' : Attacked r' r'' o') :
    Attacked r r'' (o ∨ o') where
  players := h'.players.trans h.players
  dead := fun ref hd => h'.dead ref (h.dead ref hd)
  dies := by
    intro ref hd
    rcases h'.dies ref hd with hd | ⟨sid, hl⟩
    · exact h.dies ref hd
    · exact .inr ⟨sid, h.players ▸ hl⟩
  found := by
    rintro (ho | ho)
    · exact allDead_mono (h.found ho) (fun sid ref hl => h'.players ▸ hl) h'.dead
    · exact h'.found ho
  due := by
    intro hall
    rcases h'.due hall with hall | ho
    · exact (h.due hall).imp_right Or.inl
    · exact .inr (.inr ho)

theorem Attacked.congr {o o' : Prop} (h : Attacked r r' o) (ho : o ↔ o') : Attacked r r' o' :=
  ⟨h.players, h.dead, h.dies, fun hover => h.found (ho.mpr hover),
    fun hall => (h.due hall).imp_right ho.mp⟩

/-- Nobody dies or comes back: such changes before and after attacks change nothing. -/
theorem SameDead.attacked (h : SameDead r r') (hpl : r'.players = r.players) :
    Attacked r r' False :=
  ⟨hpl, fun ref hd => (h ref).trans hd, fun ref hd => Or.inl ((h ref).symm.trans hd), False.elim,
    fun hall => Or.inl ((h.allDead hpl).symm.trans hall)⟩

theorem attacked_events (events : List AttackEvent) (r : Room) :
    Attacked r (r.executeAttackEvents events).1 (0 < (r.executeAttackEvents events).2) := by
  have hstart : Attacked r r (0 < 0) :=
    ⟨rfl, fun _ h => h, fun _ h => Or.inl h, fun h => absurd h (lt_irrefl 0), fun h => Or.inl h⟩
  refine List.foldlRecOn (motive := fun acc : Room × Nat => Attacked r acc.1 (0 < acc.2))
    events _ hstart ?_
  intro acc hacc evt _
  refine (hacc.trans (attacked_event acc.1 evt)).congr ?_
  dsimp only
  split
  · next hover => simp [hover]
  · next hover => simp [hover]

/-! ## The tick -/

/-- No effect over time is on a player. -/
def DotsSpare (r : Room) (ch : TickChoice) : Prop :=
  ∀ d ∈ ch.dots, ((r.objMgr.objects.lookup d.1).all fun e => !e.isPlayer) = true

instance (r : Room) (ch : TickChoice) : Decidable (r.DotsSpare ch) :=
  inferInstanceAs (Decidable (∀ _ ∈ _, _))

theorem sameDead_advance (ch : TickChoice) (h : r.DotsSpare ch) :
    SameDead r (r.advance data ch) := by
  set s :=
    (WaveManager.update data ch.spawning (r.livingPlaces ch) GameConfig.tickIntervalSec r.waveMgr
    (r.prepared data ch).toScene).2 with hs
  have hwaves : Reach Scene.Change Quiet (r.prepared data ch).toScene s :=
    Scene.reach_waves data ch.spawning _ GameConfig.tickIntervalSec _ _
  have hloop : ∀ x : Room, x.heap = r.heap ∧
      (∀ id e, x.objMgr.objects.lookup id = some e → e.isPlayer = true →
      r.objMgr.objects.lookup id = some e) → (ch.dots.foldl dot x).heap = r.heap := by
    intro x hx
    refine (List.foldlRecOn (motive := fun x : Room => x.heap = r.heap ∧
      ∀ id e, x.objMgr.objects.lookup id = some e →
      e.isPlayer = true → r.objMgr.objects.lookup id = some e) ch.dots _ hx fun y hy d hd => ?_).1
    unfold dot
    split
    · next ref pid hlook =>
      have hspare := h d hd
      rw [hy.2 _ _ hlook rfl] at hspare
      cases hspare
    · refine ⟨hy.1, fun id e he hp => hy.2 id e ?_ hp⟩
      exact Scene.player_of_reach (Scene.reach_damageMonster y.toScene d.1 d.2) he hp
    · exact hy
  intro ref
  have hheap : (r.advance data ch).heap = r.heap :=
    hloop { r.prepared data ch with toScene := s } ⟨rfl,
      fun id e he hp => Scene.player_of_reach hwaves he hp⟩
  rw [hheap]

theorem attacked_tick (lm : Libm) (data : DataManager) (ch : TickChoice) (ht : r.Tidy)
    (hactive : r.inactive = false) (hdots : r.DotsSpare ch) :
    Attacked r (r.executeUpdate lm data ch).1 (0 < (r.executeUpdate lm data ch).2) := by
  have hsame : ∀ {ok : Tag → Prop} {x x' : Room}, Reach Change ok x x' → (∀ t, ok t → Unhurt t) →
      Attacked x x' False :=
    fun hreach hok => (sameDead_of_reach hreach hok).attacked (players_of_reach hreach)
  have hprep : (r.prepared data ch).Tidy := ⟨ht.keyed, ht.tame⟩
  have hreach := reach_advance data ch r
  have hpl : (r.advance data ch).players = (r.prepared data ch).players := players_of_reach hreach
  have hadvance : Attacked r (r.advance data ch) False :=
    (sameDead_advance data ch hdots).attacked hpl
  have hturned := hsame (reach_turned lm data ch (tidy_of_reach hprep hreach)) bloodless_unhurt
  have hmoved := hsame (reach_moved lm data ch (r.advance data ch)) quiet_unhurt
  set x := (r.advance data ch).updateObjects lm data ch with hx
  have hbefore : Attacked r (x.resolveProjectileCollisions ch) False :=
    (((hadvance.trans hturned).trans hmoved).trans
      (hsame (reach_projectileCollisions ch x) harmless_unhurt)).congr (by simp)
  have hbodies :=
    attacked_events ((x.resolveProjectileCollisions ch).attackEvents ch)
      (x.resolveProjectileCollisions ch)
  have hafter : ∀ y : Room, Attacked y
      (((y.resolveItemCollisions lm data ch).resolveCleanup ch).syncNetwork ch) False := by
    intro y
    have hitems := hsame (reach_itemCollisions lm data ch y) quiet_unhurt
    have hcleanup := hsame (reach_cleanup ch (y.resolveItemCollisions lm data ch)) harmless_unhurt
    have hsync :=
      hsame (reach_sync ch ((y.resolveItemCollisions lm data ch).resolveCleanup ch)) quiet_unhurt
    exact ((hitems.trans hcleanup).trans hsync).congr (by simp)
  have hall := (hbefore.trans hbodies).trans (hafter _)
  unfold executeUpdate
  rw [hactive]
  exact hall.congr (by simp only [false_or, or_false]; rfl)

end Room

/-! ## Watching games -/

/-- A broadcast of `S_GameOver`: whether somebody in the room was alive, and whether the win
condition held. -/
structure Over where
  isWin : Bool
  someAlive : Bool
  winning : Bool
deriving DecidableEq, Repr

namespace Room

/-- The broadcasts among the packets that `r'` has sent after `r`. -/
def declared (r r' : Room) : List Over :=
  (r'.sent.drop r.sent.length).filterMap fun
    | .gameOver _ isWin => some ⟨isWin, !r.allDead, r.checkWinCondition⟩
    | _ => none

/-- The task runs `ExecuteReset`, which ends a game. -/
def resets (r : Room) : Task → Bool
  | .reset => true
  | .leave sid => (r.players.lookup sid).isSome && decide ((r.players.erase sid).keys = [])
  | _ => false

theorem declared_of_sentMore (h : Scene.SentMore r.toScene r'.toScene) : r.declared r' = [] := by
  obtain ⟨pkts, heq, hpkts⟩ := h
  unfold declared
  rw [heq, List.drop_left]
  refine List.filterMap_eq_nil_iff.mpr fun pkt hmem => ?_
  have hover := hpkts pkt hmem
  cases pkt with
  | gameOver => cases hover
  | _ => rfl

structure Ruled (r : Room) (task : Task) (res : Room × Effects) : Prop where
  dies : ∀ ref, (res.1.heap ref).isDead = true → (r.heap ref).isDead = true ∨
    ∃ sid, r.players.lookup sid = some ref
  stay : (∀ ref, task ≠ .enter ref) → (∀ exp, task ≠ .addExpToAll exp) → r.allDead = true →
    res.1.allDead = true
  posted : ∀ isWin, .handleGameOver isWin ∈ res.2.posted → isWin = false ∧ res.1.allDead = true
  due : res.1.allDead = true → res.1.players.keys ≠ [] →
    (r.allDead = true ∧ r.players.keys ≠ [] ∧ r.resets task = false) ∨
    .handleGameOver false ∈ res.2.posted
  declared : r.declared res.1 =
    match task with
    | .handleGameOver isWin =>
      if r.isGameOver then [] else [⟨isWin, !r.allDead, r.checkWinCondition⟩]
    | _ => []
  flag : res.1.isGameOver =
    match task with
    | .handleGameOver _ => true
    | task => if r.resets task then false else r.isGameOver

/-- A task that posts no `HandleGameOver`, ends no game and leaves everybody as dead as before. -/
theorem Ruled.of_same {eff : Effects} (hdead : SameDead r r') (hpl : r'.players = r.players)
    (hposted : ∀ isWin, .handleGameOver isWin ∉ eff.posted) (hreset : r.resets task = false)
    (hsent : Scene.SentMore r.toScene r'.toScene) (hflag : r'.isGameOver = r.isGameOver)
    (hover : ∀ isWin, task = .handleGameOver isWin → r.isGameOver = true) :
    Ruled r task (r', eff) where
  dies := fun ref hd => Or.inl ((hdead ref).symm.trans hd)
  stay := fun _ _ hall => (hdead.allDead hpl).trans hall
  posted := fun isWin hmem => absurd hmem (hposted isWin)
  due := fun hall hne => Or.inl ⟨(hdead.allDead hpl).symm.trans hall, hpl ▸ hne, hreset⟩
  declared := by
    refine (declared_of_sentMore hsent).trans ?_
    split
    · rw [hover _ rfl]
      rfl
    · rfl
  flag := by
    refine hflag.trans ?_
    split
    · exact hover _ rfl
    · rw [hreset]
      rfl

/-- A task that brings nobody to death and posts no `HandleGameOver`. -/
theorem Ruled.of_silent {eff : Effects} (hother : ∀ isWin, task ≠ .handleGameOver isWin)
    (hposted : ∀ isWin, .handleGameOver isWin ∉ eff.posted)
    (hdead : ∀ ref, (r'.heap ref).isDead = true → (r.heap ref).isDead = true)
    (hstay : (∀ ref, task ≠ .enter ref) → (∀ exp, task ≠ .addExpToAll exp) → r.allDead = true →
      r'.allDead = true)
    (hdue : r'.allDead = true → r'.players.keys ≠ [] → r.allDead = true ∧ r.players.keys ≠ [] ∧
      r.resets task = false)
    (hsent : Scene.SentMore r.toScene r'.toScene)
    (hflag : r'.isGameOver = if r.resets task then false else r.isGameOver) :
    Ruled r task (r', eff) where
  dies := fun ref hd => Or.inl (hdead ref hd)
  stay := hstay
  posted := fun isWin hmem => absurd hmem (hposted isWin)
  due := fun hall hne => Or.inl (hdue hall hne)
  declared := by
    cases task with
    | handleGameOver isWin => exact absurd rfl (hother isWin)
    | _ => exact declared_of_sentMore hsent
  flag := by
    cases task with
    | handleGameOver isWin => exact absurd rfl (hother isWin)
    | _ => exact hflag

theorem Ruled.other {res : Room × Effects} (h : Ruled r task res)
    (hother : ∀ isWin, task ≠ .handleGameOver isWin) :
    r.declared res.1 = [] ∧ res.1.isGameOver = if r.resets task then false else r.isGameOver := by
  have hdecl := h.declared
  have hflag := h.flag
  cases task with
  | handleGameOver isWin => exact absurd rfl (hother isWin)
  | _ => exact ⟨hdecl, hflag⟩

theorem sentMore_readied (ch : TickChoice) (r : Room) (ref : Nat) :
    Scene.SentMore r.toScene
      { (r.readied data ref).toScene with
        sent := (r.readied data ref).sent ++ (r.readied data ref).readyPackets ch ref } := by
  have hscene : (r.readied data ref).toScene = r.toScene := (startGame_same data _).2.2
  refine ⟨(r.readied data ref).readyPackets ch ref, by rw [hscene], fun pkt hmem => ?_⟩
  rcases mem_concat.mp hmem with hmem | rfl
  · split at hmem
    · cases hmem
    · rw [List.mem_singleton.mp hmem]
      rfl
  · rfl

/-- What a task must not do for the game to be judged rightly: bring somebody in or to life while
`HandleGameOver` is on its way, let the last living player go, restart a room of dead players, or
kill a player by an effect over time. -/
def Fair (r : Room) (queue : List Task) (ch : TickChoice) : Task → Prop
  | .enter _ | .addExpToAll _ => .handleGameOver false ∉ queue
  | .leave sid =>
      ∀ ref ∈ r.players.lookup sid, (r.heap ref).isDead = true ∨ (r.players.erase sid).keys = [] ∨
      ∃ e ∈ (r.players.erase sid).entries, (r.heap e.2).isDead = false
  | .reset => r.players.keys = [] ∨ r.allDead = false
  | .update => r.inactive = false → r.DotsSpare ch
  | _ => True

instance (r : Room) (queue : List Task) (ch : TickChoice) (task : Task) :
    Decidable (r.Fair queue ch task) :=
  match task with
  | .enter _ | .addExpToAll _ => inferInstanceAs (Decidable (_ ∉ _))
  | .leave _ => inferInstanceAs (Decidable (∀ _ ∈ _, _))
  | .reset => inferInstanceAs (Decidable (_ ∨ _))
  | .update => inferInstanceAs (Decidable (_ → _))
  | .skillsLoaded .. | .startGame | .handleGameOver _ | .stop | .playerReady _ | .selectLevelUp ..
  | .moveInput .. | .debugSpawn .. | .toggleGodMode | .setMonsterStrategy _ => isTrue trivial

theorem sameDead_left (r : Room) (sid ref : Nat) : SameDead r (r.left sid ref) :=
  sameDead_setPlayer (r := r) (p := { r.heap ref with currentRoomId := 0 }) rfl

/-- A leave that is fair does not make the game due to be over. -/
theorem allDead_of_left {sid ref : Nat}
    (hl : r.players.lookup sid = some ref) (hmore : (r.players.erase sid).keys ≠ [])
    (hfair : r.Fair queue ch (.leave sid)) (hall : (r.left sid ref).allDead = true) :
    r.allDead = true := by
  have hothers : ∀ sid' ref', (r.players.erase sid).lookup sid' = some ref' →
      (r.heap ref').isDead = true :=
    fun sid' ref' hl' =>
      (sameDead_left r sid ref ref').symm.trans (allDead_iff.mp hall sid' ref' hl')
  have hleaver : (r.heap ref).isDead = true := by
    rcases hfair ref hl with hd | hempty | ⟨e, he, halive⟩
    · exact hd
    · exact absurd hempty hmore
    · rw [hothers e.1 e.2 (AList.mem_lookup_iff.mpr he)] at halive
      cases halive
  refine allDead_iff.mpr fun sid' ref' hl' => ?_
  by_cases heq : sid' = sid
  · subst heq
    rw [hl] at hl'
    cases hl'
    exact hleaver
  · refine hothers sid' ref' ?_
    rw [Table.lookup_erase_ite, if_neg heq]
    exact hl'

theorem allDead_left (sid ref : Nat) (h : r.allDead = true) : (r.left sid ref).allDead = true := by
  refine allDead_mono h (fun sid' ref' hl => ?_) fun ref' hd =>
    (sameDead_left r sid ref ref').trans hd
  exact (Table.of_lookup_erase hl).2

theorem sentMore_left (r : Room) (sid ref : Nat) :
    Scene.SentMore r.toScene (r.left sid ref).toScene :=
  ⟨[_], rfl, fun _ hmem => List.mem_singleton.mp hmem ▸ rfl⟩

theorem resets_leave {sid ref : Nat} (hl : r.players.lookup sid = some ref) :
    r.resets (.leave sid) = decide ((r.players.erase sid).keys = []) := by
  simp [resets, hl]

theorem plain_judges_nothing (h : task.plain = true) :
    r.resets task = false ∧ ∀ isWin, task ≠ .handleGameOver isWin := by
  cases task with
  | moveInput | debugSpawn | toggleGodMode | setMonsterStrategy =>
    exact ⟨rfl, fun _ heq => by cases heq⟩
  | _ => cases h

theorem isGameOver_startGame (r : Room) : (r.executeStartGame data).isGameOver = r.isGameOver := by
  unfold executeStartGame
  split <;> rfl

/-- What a tick means for the end of the game: whoever dies is struck in it, and `HandleGameOver` is
posted for every blow that leaves nobody alive. -/
theorem ruled_tick (lm : Libm) {data : DataManager} (ht : r.Tidy)
    (hactive : r.inactive = false) (hspare : r.DotsSpare ch) :
    Ruled r .update ((r.executeUpdate lm data ch).1,
      ⟨none, List.replicate (r.executeUpdate lm data ch).2 (.handleGameOver false)⟩) := by
  have hreach := reach_tick lm data ch ht hactive
  have hatt := attacked_tick lm data ch ht hactive hspare
  have hflag : (r.executeUpdate lm data ch).1.isGameOver = (r.prepared data ch).isGameOver :=
    isGameOver_of_reach hreach
  have hsent : Scene.SentMore (r.prepared data ch).toScene (r.executeUpdate lm data ch).1.toScene :=
    sentMore_of_reach hreach
  exact {
    dies := hatt.dies
    stay := fun _ _ hall => allDead_mono hall (fun sid ref hl => hatt.players ▸ hl) hatt.dead
    posted := by
      intro isWin hmem
      obtain ⟨hpos, heq⟩ := List.mem_replicate.mp hmem
      cases heq
      exact ⟨rfl, hatt.found (Nat.pos_of_ne_zero hpos)⟩
    due := by
      intro hall hne
      rcases hatt.due hall with hbefore | hover
      · exact .inl ⟨hbefore, hatt.players ▸ hne, rfl⟩
      · exact .inr (List.mem_replicate.mpr ⟨Nat.ne_of_gt hover, rfl⟩)
    declared := declared_of_sentMore hsent
    flag := hflag }

/-- **What a fair task means for the end of the game.** -/
theorem Ran.ruled {data : DataManager} {res : Room × Effects}
    (h : Ran lm data ch r task res) (ht : r.Tidy) (hfair : r.Fair queue ch task)
    (halive : ∀ ref, task = .enter ref → (r.heap ref).isDead = false) : Ruled r task res := by
  have hnone : ∀ isWin, Task.handleGameOver isWin ∉ ([] : List Task) := fun _ => List.not_mem_nil
  have hstart : ∀ {posted : List Task}, (∀ task ∈ posted, task = .startGame) →
      ∀ isWin, .handleGameOver isWin ∉ posted := by
    intro posted hall isWin hmem
    cases hall _ hmem
  cases h with
  | nothing hnoop =>
    have hreset : r.resets task = false := by
      cases task with
      | leave sid => simp_all [noop, resets]
      | reset => cases hnoop
      | _ => rfl
    refine Ruled.of_same (fun _ => rfl) rfl hnone hreset (Scene.SentMore.refl _) rfl
      fun isWin heq => ?_
    subst heq
    exact hnoop
  | quiet hplain hreach =>
    obtain ⟨hreset, hover⟩ := plain_judges_nothing (r := r) hplain
    exact Ruled.of_same (sameDead_of_reach hreach quiet_unhurt)
      (players_of_reach hreach) hnone hreset
      (sentMore_of_reach hreach) (isGameOver_of_reach hreach) fun isWin heq =>
        absurd heq (hover isWin)
  | @mild exp r' hreach =>
    have hpl := players_of_reach hreach
    refine Ruled.of_silent (fun isWin heq => by cases heq) hnone (dead_of_reach hreach)
      (fun _ hexp => absurd rfl (hexp exp))
      (fun hall hne => ⟨allDead_iff.mpr fun sid ref hl => ?_, hpl ▸ hne, rfl⟩)
      (sentMore_of_reach hreach)
      (isGameOver_of_reach hreach)
    exact dead_of_reach hreach ref (allDead_iff.mp hall sid ref (hpl ▸ hl))
  | @select ref optionIndex =>
    have hreach := reach_selectLevelUp data r ref optionIndex
    exact Ruled.of_same (sameDead_of_reach hreach bloodless_unhurt)
      (players_of_reach hreach) hnone rfl
      (sentMore_of_reach hreach) (isGameOver_of_reach hreach) fun isWin heq => by cases heq
  | @enter ref r' load posted hreach hposted =>
    have hpl : r'.players = r.players.insert (r.heap ref).sessionId ref := players_of_reach hreach
    have hin : SameDead { r with players := r.players.insert (r.heap ref).sessionId ref } r' :=
      sameDead_of_reach hreach enlisting_unhurt
    have hdead : SameDead r r' := hin
    have hflag : r'.isGameOver =
        Room.isGameOver { r with players := r.players.insert (r.heap ref).sessionId ref } :=
      isGameOver_of_reach hreach
    have hsent := sentMore_of_reach hreach
    have hlives : r'.allDead = true → False := by
      intro hall
      have hd := allDead_iff.mp hall (r.heap ref).sessionId ref (hpl ▸ AList.lookup_insert _)
      rw [hdead ref, halive ref rfl] at hd
      cases hd
    exact Ruled.of_silent (fun isWin heq => by cases heq) (hstart hposted)
      (fun ref hd => (hdead ref).symm.trans hd)
      (fun henter => absurd rfl (henter ref)) (fun hall => (hlives hall).elim) hsent hflag
  | loaded hreach hposted =>
    exact Ruled.of_same (sameDead_of_reach hreach enlisting_unhurt) (players_of_reach hreach)
      (hstart hposted) rfl (sentMore_of_reach hreach) (isGameOver_of_reach hreach)
      fun isWin heq => by cases heq
  | start =>
    obtain ⟨hheap, hpl, hscene⟩ := startGame_same data r
    refine Ruled.of_same (fun ref => by rw [hheap]) hpl hnone rfl
      (hscene ▸ Scene.SentMore.refl _) ?_ fun isWin heq => by cases heq
    exact isGameOver_startGame data r
  | tick hactive => exact ruled_tick lm ht hactive (hfair hactive)
  | @gameOver isWin hover =>
    exact {
      dies := fun _ hd => Or.inl hd
      stay := fun _ _ hall => hall
      posted := fun isWin hmem => absurd hmem (hnone isWin)
      due := fun hall hne => Or.inl ⟨hall, hne, rfl⟩
      declared := by
        simp only [hover, Bool.false_eq_true, if_false]
        unfold declared
        simp only [modScene, Scene.send, List.drop_left]
        rfl
      flag := rfl }
  | @left sid ref hl hmore =>
    have hreset : r.resets (.leave sid) = false := (resets_leave hl).trans (decide_eq_false hmore)
    have hne : r.players.keys ≠ [] := fun hnil => by
      rw [AList.lookup_eq_none.mpr
        (fun hmem => by rw [AList.mem_keys, hnil] at hmem; cases hmem)] at hl
      cases hl
    refine Ruled.of_silent (fun isWin heq => by cases heq) hnone
      (fun ref' hd => (sameDead_left r sid ref ref').symm.trans hd)
      (fun _ _ hall => allDead_left sid ref hall)
      (fun hall _ => ⟨allDead_of_left hl hmore hfair hall, hne, hreset⟩)
      (sentMore_left r sid ref) ?_
    rw [hreset]
    rfl
  | @last sid ref hl hempty =>
    have hreset : r.resets (.leave sid) = true := (resets_leave hl).trans (decide_eq_true hempty)
    refine Ruled.of_silent (fun isWin heq => by cases heq) hnone
      (fun ref' hd => (sameDead_left r sid ref ref').symm.trans hd)
      (fun _ _ hall => allDead_left sid ref hall)
      (fun _ hne => absurd hempty hne) (sentMore_left r sid ref) ?_
    rw [hreset]
    rfl
  | stop =>
    exact Ruled.of_silent (fun isWin heq => by cases heq) hnone (fun _ hd => hd) (fun _ _ _ => rfl)
      (fun _ hne => absurd rfl hne) (Scene.SentMore.refl _) rfl
  | reset =>
    refine Ruled.of_silent (fun isWin heq => by cases heq) hnone (fun _ hd => hd)
      (fun _ _ hall => hall) (fun hall hne => ?_) (Scene.SentMore.refl _) rfl
    rcases hfair with hempty | hsome
    · exact absurd hempty hne
    · have hdead : r.allDead = true := hall
      rw [hsome] at hdead
      cases hdead
  | @ready sid ref hl =>
    obtain ⟨hheap, hpl, -⟩ :=
      startGame_same data (r.modPlayer ref fun p => { p with isReady := true })
    have hdead : SameDead r (r.readied data ref) := by
      refine (sameDead_setPlayer (r := r) (p := { r.heap ref with isReady := true }) rfl).trans
        fun ref' => ?_
      exact congrArg (fun heap => (heap ref').isDead) hheap
    exact Ruled.of_same hdead hpl hnone rfl (sentMore_readied data ch r ref)
      (isGameOver_startGame data _) fun isWin heq => by cases heq

end Room

/-! ## Players that are about to enter -/

namespace Arena

/-- Who is about to enter is alive, is not in the room and enters once. -/
structure Fresh (s : Arena) : Prop where
  alive : ∀ ref, .enter ref ∈ s.queue → (s.room.heap ref).isDead = false
  outside : ∀ ref sid, .enter ref ∈ s.queue → s.room.players.lookup sid ≠ some ref
  once : ∀ ref, s.queue.count (.enter ref) ≤ 1

theorem Fresh.mono {s' : Arena} (h : s.Fresh)
    (hq : ∀ ref, s'.queue.count (.enter ref) ≤ s.queue.count (.enter ref))
    (hdead : ∀ ref, .enter ref ∈ s'.queue → (s.room.heap ref).isDead = false →
      (s'.room.heap ref).isDead = false)
    (hpl : ∀ ref sid, .enter ref ∈ s'.queue → s'.room.players.lookup sid = some ref →
      s.room.players.lookup sid = some ref) : s'.Fresh := by
  have hmem : ∀ ref, .enter ref ∈ s'.queue → .enter ref ∈ s.queue := fun ref hin =>
    List.count_pos_iff.mp ((List.count_pos_iff.mpr hin).trans_le (hq ref))
  exact {
    alive := fun ref hin => hdead ref hin (h.alive ref (hmem ref hin))
    outside := fun ref sid hin hl => h.outside ref sid (hmem ref hin) (hpl ref sid hin hl)
    once := fun ref => (hq ref).trans (h.once ref) }

theorem count_append_other (h : ∀ ref, task ≠ .enter ref) (ref : Nat) :
    (queue ++ [task]).count (.enter ref) ≤ queue.count (.enter ref) := by
  rw [List.count_append, List.count_singleton, if_neg (by simpa using h ref), add_zero]

theorem external_ne_enter (h : task.external = true) (ref : Nat) : task ≠ .enter ref := by
  rintro rfl
  cases h

theorem fresh_join (sessionId : Nat) (he : s.Enrolled) (h : s.Fresh) :
    Fresh { s with
      room := s.room.setPlayer s.made (Player.create data sessionId)
      queue := s.queue ++ [.enter s.made], made := s.made + 1 } := by
  have hheap : ∀ ref, ref < s.made →
      (s.room.setPlayer s.made (Player.create data sessionId)).heap ref = s.room.heap ref :=
    fun ref hlt => Function.update_of_ne (Nat.ne_of_lt hlt) _ _
  have hcases : ∀ ref, .enter ref ∈ s.queue ++ [.enter s.made] →
      .enter ref ∈ s.queue ∨ ref = s.made := by
    intro ref hin
    rcases mem_concat.mp hin with hin | hin
    · exact .inl hin
    · cases hin
      exact .inr rfl
  refine ⟨fun ref hin => ?_, fun ref sid hin => ?_, fun ref => ?_⟩
  · rcases hcases ref hin with hin | rfl
    · rw [hheap ref (he.entering ref hin)]
      exact h.alive ref hin
    · show ((Function.update s.room.heap s.made (Player.create data sessionId))
        s.made).isDead = false
      rw [Function.update_self]
      exact (Room.create_same data sessionId).2.1
  · rcases hcases ref hin with hin | rfl
    · exact h.outside ref sid hin
    · exact fun hl => lt_irrefl _ (he.made sid _ hl)
  · have hnew : s.queue.count (.enter s.made) = 0 :=
      List.count_eq_zero.mpr fun hin => lt_irrefl _ (he.entering _ hin)
    rw [List.count_append, List.count_singleton]
    split
    · next heq =>
      cases eq_of_beq heq
      rw [hnew]
    · exact h.once ref

/-- What a step must not do for the game to be judged rightly. -/
def FairAct (s : Arena) : ArenaAction → Prop
  | .run ch => ∀ task ∈ s.queue.head?, s.room.Fair s.queue ch task
  | .command _ _ (.levelUp _) => .handleGameOver false ∉ s.queue
  | _ => True

instance (s : Arena) (a : ArenaAction) : Decidable (s.FairAct a) :=
  match a with
  | .run _ => inferInstanceAs (Decidable (∀ _ ∈ _, _))
  | .command _ _ (.levelUp _) => inferInstanceAs (Decidable (_ ∉ _))
  | .join _ | .post _ | .stop | .loaded .. | .command _ _ .god | .command _ _ (.addWeapon _)
  | .command _ _ (.removeWeapon _) | .command _ _ (.addPassive _)
  | .command _ _ (.removePassive _) => isTrue trivial

/-- A game with players is going on, and nothing is left to do. -/
def Drained (s : Arena) : Prop :=
  s.queue = [] ∧ s.room.gameStarted = true ∧ s.room.players.keys ≠ []

instance (s : Arena) : Decidable s.Drained := inferInstanceAs (Decidable (_ ∧ _))

theorem Fresh.run {data : DataManager} {rest : List Task} {res : Room × Room.Effects} (h : s.Fresh)
    (he : s.Enrolled) (hq : s.queue = task :: rest) (hran : Room.Ran lm data ch s.room task res)
    (hrul : Room.Ruled s.room task res) :
    Fresh { s with
      room := res.1, queue := rest ++ res.2.posted,
      loading := s.loading ++ res.2.load.toList } := by
  have hrest : ∀ ref, .enter ref ∈ rest ++ res.2.posted → .enter ref ∈ rest := fun ref hin =>
    (List.mem_append.mp hin).resolve_right (hran.enter_not_posted ref)
  have hqueue : ∀ ref, .enter ref ∈ rest → .enter ref ∈ s.queue :=
    fun ref hin => hq ▸ List.mem_cons_of_mem _ hin
  refine h.mono (fun ref => ?_) (fun ref hin halive => ?_) fun ref sid hin hl => ?_
  · rw [List.count_append, List.count_eq_zero.mpr (hran.enter_not_posted ref), hq]
    exact List.count_le_count_cons
  · cases hd : (res.1.heap ref).isDead with
    | false => rfl
    | true =>
      rcases hrul.dies ref hd with hd | ⟨sid, hl⟩
      · exact absurd (hd.symm.trans halive) (by decide)
      · exact absurd hl (h.outside ref sid (hqueue ref (hrest ref hin)))
  · rcases hran.players he.tidy hl with hl | ⟨rfl, -⟩
    · exact hl
    · -- the task would be a second join of the same object
      have hcount := h.once ref
      have hpos := List.count_pos_iff.mpr (hrest ref hin)
      rw [hq, List.count_cons_self] at hcount
      omega

end Arena

/-! ## The invariant -/

/-- A run with what is declared in it: in the game that goes on, and in the games that ended with a
reset. -/
structure Watch where
  arena : Arena
  overs : List Over
  games : List (List Over)

namespace Watch

def make (roomId : Int) (hasUserDB : Bool) : Watch := ⟨Arena.make roomId hasUserDB, [], []⟩

def after (w : Watch) (task : Option Task) (s : Arena) : Watch :=
  let overs := w.overs ++ w.arena.room.declared s.room
  if task.any w.arena.room.resets then ⟨s, [], w.games ++ [overs]⟩ else ⟨s, overs, w.games⟩

def step (lm : Libm) (data : DataManager) (w : Watch) (a : ArenaAction) : Option Watch :=
  (w.arena.step lm data a).map (w.after (w.arena.next a))

/-- The game is over, or `HandleGameOver` is on its way, just when all are dead. -/
structure Judged (w : Watch) : Prop where
  enrolled : w.arena.Enrolled
  fresh : w.arena.Fresh
  count : w.overs.length = w.arena.room.isGameOver.toNat
  lost : ∀ o ∈ w.overs, o.isWin = false
  queued : ∀ isWin, .handleGameOver isWin ∈ w.arena.queue → isWin = false ∧
    w.arena.room.allDead = true
  due : w.arena.room.allDead = true → w.arena.room.players.keys ≠ [] →
    w.arena.room.isGameOver = true ∨ .handleGameOver false ∈ w.arena.queue
  once : ∀ game ∈ w.games, game.length ≤ 1
  right : ∀ game ∈ w.overs :: w.games, ∀ o ∈ game, o.someAlive = false

theorem judged_make (roomId : Int) (hasUserDB : Bool) : (make roomId hasUserDB).Judged where
  enrolled := Arena.enrolled_make roomId hasUserDB
  fresh :=
    ⟨fun _ h => absurd h List.not_mem_nil, fun _ _ h => absurd h List.not_mem_nil,
      fun _ => Nat.zero_le 1⟩
  count := rfl
  lost := fun _ h => absurd h List.not_mem_nil
  queued := fun _ h => absurd h List.not_mem_nil
  due := fun _ h => absurd rfl h
  once := fun _ h => absurd h List.not_mem_nil
  right := fun _ hgame _ ho => absurd (List.mem_singleton.mp hgame ▸ ho) List.not_mem_nil

variable {w : Watch}

theorem Judged.length_le (h : w.Judged) : w.overs.length ≤ 1 :=
  h.count ▸ Bool.toNat_le _

theorem Judged.keep {task : Option Task} (h : w.Judged) (he : s.Enrolled) (hfresh : s.Fresh)
    (hdecl : w.arena.room.declared s.room = []) (hreset : task.any w.arena.room.resets = false)
    (hflag : s.room.isGameOver = w.arena.room.isGameOver)
    (hqueued : ∀ isWin, .handleGameOver isWin ∈ s.queue → isWin = false ∧ s.room.allDead = true)
    (hdue : s.room.allDead = true → s.room.players.keys ≠ [] →
      s.room.isGameOver = true ∨ .handleGameOver false ∈ s.queue) : (w.after task s).Judged := by
  have hafter : w.after task s = ⟨s, w.overs, w.games⟩ := by
    unfold after
    rw [hdecl, hreset, List.append_nil]
    rfl
  rw [hafter]
  exact ⟨he, hfresh, hflag ▸ h.count, h.lost, hqueued, hdue, h.once, h.right⟩

/-- Nobody dies and no `HandleGameOver` is posted; who comes back comes back while none is on its
way. -/
theorem Judged.revive (h : w.Judged) (he : s.Enrolled) (hfresh : s.Fresh)
    (hsent : Scene.SentMore w.arena.room.toScene s.room.toScene)
    (hflag : s.room.isGameOver = w.arena.room.isGameOver)
    (hpl : s.room.players = w.arena.room.players)
    (hdead : s.room.allDead = true → w.arena.room.allDead = true)
    (hback : ∀ isWin, .handleGameOver isWin ∈ w.arena.queue → w.arena.room.allDead = true →
      s.room.allDead = true)
    (hqueue : ∀ isWin, .handleGameOver isWin ∈ s.queue ↔ .handleGameOver isWin ∈ w.arena.queue) :
    (w.after none s).Judged := by
  refine h.keep he hfresh (Room.declared_of_sentMore hsent) rfl hflag (fun isWin hin => ?_)
    fun hall hne => ?_
  · have hin := (hqueue isWin).mp hin
    exact ⟨(h.queued isWin hin).1, hback isWin hin (h.queued isWin hin).2⟩
  · rw [hflag, hqueue]
    exact h.due (hdead hall) (hpl ▸ hne)

theorem mem_append_other (hne : ∀ isWin, task ≠ .handleGameOver isWin) (isWin : Bool) :
    .handleGameOver isWin ∈ queue ++ [task] ↔ .handleGameOver isWin ∈ queue := by
  rw [List.mem_append, List.mem_singleton]
  exact or_iff_left fun heq => hne isWin heq.symm

theorem Judged.post (h : w.Judged) (he : s.Enrolled)
    (hscene : s.room.toScene = w.arena.room.toScene) (hheap : s.room.heap = w.arena.room.heap)
    (hflag : s.room.isGameOver = w.arena.room.isGameOver)
    (hpl : s.room.players = w.arena.room.players) (hqueue : s.queue = w.arena.queue ++ [task])
    (henter : ∀ ref, task ≠ .enter ref) (hover : ∀ isWin, task ≠ .handleGameOver isWin) :
    (w.after none s).Judged := by
  have hdead : Room.SameDead w.arena.room s.room := fun ref => by rw [hheap]
  have hfresh : s.Fresh := by
    refine h.fresh.mono (fun ref => ?_) (fun ref _ halive => hheap ▸ halive) fun ref sid _ hl =>
      hpl ▸ hl
    rw [hqueue]
    exact Arena.count_append_other henter ref
  refine h.revive he hfresh (hscene ▸ Scene.SentMore.refl _) hflag hpl (fun hall => ?_)
    (fun _ _ hall => ?_) ?_
  · exact (hdead.allDead hpl).symm.trans hall
  · exact (hdead.allDead hpl).trans hall
  · rw [hqueue]
    exact mem_append_other hover

theorem external_ne_over (h : task.external = true) (isWin : Bool) :
    task ≠ .handleGameOver isWin := by
  rintro rfl
  cases h

theorem Judged.join (sessionId : Nat) (h : w.Judged) (he : Arena.Enrolled { w.arena with
      room := w.arena.room.setPlayer w.arena.made (Player.create data sessionId)
      queue := w.arena.queue ++ [.enter w.arena.made], made := w.arena.made + 1 }) :
    (w.after none { w.arena with
      room := w.arena.room.setPlayer w.arena.made (Player.create data sessionId)
      queue := w.arena.queue ++ [.enter w.arena.made], made := w.arena.made + 1 }).Judged := by
  have hsame : (w.arena.room.setPlayer w.arena.made (Player.create data sessionId)).allDead = true ↔
      w.arena.room.allDead = true := by
    rw [Room.allDead_iff, Room.allDead_iff]
    refine forall_congr' fun sid => forall_congr' fun ref => forall_congr' fun hl => ?_
    rw [h.enrolled.heap_join hl]
  refine h.revive he (Arena.fresh_join data sessionId h.enrolled h.fresh) (Scene.SentMore.refl _)
    rfl rfl hsame.mp (fun _ _ => hsame.mpr) (mem_append_other fun isWin heq => ?_)
  cases heq

theorem Judged.command (lm : Libm) (data : DataManager) (ch : TickChoice) (ref : Nat) (c : Command)
    (h : w.Judged)
    (he : Arena.Enrolled { w.arena with room := w.arena.room.command lm data ch ref c })
    (hfair : w.arena.FairAct (.command ch ref c)) :
    (w.after none { w.arena with room := w.arena.room.command lm data ch ref c }).Judged := by
  have hreach := Room.reach_command lm data ch w.arena.room ref c
  have hpl := Room.players_of_reach hreach
  have hfresh : Arena.Fresh { w.arena with room := w.arena.room.command lm data ch ref c } := by
    refine h.fresh.mono (fun _ => le_rfl) (fun ref' _ halive => ?_) fun ref' sid _ hl => hpl ▸ hl
    exact Bool.eq_false_iff.mpr fun hd =>
      Bool.eq_false_iff.mp halive (Room.dead_of_reach hreach ref' hd)
  have hdead : (w.arena.room.command lm data ch ref c).allDead = true →
      w.arena.room.allDead = true := fun hall =>
    Room.allDead_iff.mpr fun sid ref' hl =>
      Room.dead_of_reach hreach ref' (Room.allDead_iff.mp hall sid ref' (hpl ▸ hl))
  refine h.revive he hfresh (Room.sentMore_of_reach hreach)
    (Room.isGameOver_of_reach hreach) hpl hdead (fun isWin hin hall => ?_) fun _ => Iff.rfl
  by_cases hc : ∃ exp, c = .levelUp exp
  · obtain ⟨exp, rfl⟩ := hc
    cases (h.queued isWin hin).1
    exact absurd hin hfair
  · have hquiet := Room.reach_inventoryCommand lm data ch w.arena.room ref (not_exists.mp hc)
    exact ((Room.sameDead_of_reach hquiet Room.quiet_unhurt).allDead hpl).trans hall

/-- `HandleGameOver(false)` runs when all are dead. -/
theorem Judged.over (h : w.Judged) (hfresh : s.Fresh) (he : s.Enrolled)
    (hqueued : ∀ isWin, .handleGameOver isWin ∈ s.queue → isWin = false ∧ s.room.allDead = true)
    (hdecl : w.arena.room.declared s.room = if w.arena.room.isGameOver then []
      else [⟨false, !w.arena.room.allDead, w.arena.room.checkWinCondition⟩])
        (hflag : s.room.isGameOver = true)
    (hall : w.arena.room.allDead = true) : (w.after (some (.handleGameOver false)) s).Judged := by
  cases hgo : w.arena.room.isGameOver with
  | true =>
    rw [hgo, if_pos rfl] at hdecl
    exact h.keep he hfresh hdecl rfl (hflag.trans hgo.symm) hqueued fun _ _ => Or.inl hflag
  | false =>
    have hnil : w.overs = [] := List.length_eq_zero_iff.mp (by rw [h.count, hgo]; rfl)
    have hafter : w.after (some (.handleGameOver false)) s =
        ⟨s, [⟨false, false, w.arena.room.checkWinCondition⟩], w.games⟩ := by
      rw [hgo, hall, if_neg (by decide)] at hdecl
      unfold after
      rw [hdecl, hnil]
      rfl
    rw [hafter]
    exact {
      enrolled := he
      fresh := hfresh
      count := by simp [hflag]
      lost := fun o ho => List.mem_singleton.mp ho ▸ rfl
      queued := hqueued
      due := fun _ _ => Or.inl hflag
      once := h.once
      right := by
        intro game hin o ho
        rcases List.mem_cons.mp hin with rfl | hin
        · exact List.mem_singleton.mp ho ▸ rfl
        · exact h.right game (List.mem_cons_of_mem _ hin) o ho }

/-- A reset ends the game. -/
theorem Judged.ended {task : Option Task} (h : w.Judged) (he : s.Enrolled) (hfresh : s.Fresh)
    (hdecl : w.arena.room.declared s.room = []) (hreset : task.any w.arena.room.resets = true)
    (hflag : s.room.isGameOver = false)
    (hqueued : ∀ isWin, .handleGameOver isWin ∈ s.queue → isWin = false ∧ s.room.allDead = true)
    (hdue : s.room.allDead = true → s.room.players.keys ≠ [] → .handleGameOver false ∈ s.queue) :
    (w.after task s).Judged := by
  have hafter : w.after task s = ⟨s, [], w.games ++ [w.overs]⟩ := by
    unfold after
    rw [hdecl, hreset, List.append_nil]
    rfl
  rw [hafter]
  exact {
    enrolled := he
    fresh := hfresh
    count := by simp [hflag]
    lost := fun _ ho => absurd ho List.not_mem_nil
    queued := hqueued
    due := fun hall hne => Or.inr (hdue hall hne)
    once := by
      intro game hin
      rcases mem_concat.mp hin with hin | hin
      · exact h.once game hin
      · exact hin ▸ h.length_le
    right := by
      intro game hin o ho
      rcases List.mem_cons.mp hin with rfl | hin
      · cases ho
      · rcases mem_concat.mp hin with hin | hin
        · exact h.right game (List.mem_cons_of_mem _ hin) o ho
        · exact h.right game (hin ▸ List.mem_cons_self) o ho }

theorem Judged.run {data : DataManager} {rest : List Task} {res : Room × Room.Effects}
    (h : w.Judged) (hq : w.arena.queue = task :: rest)
    (hran : Room.Ran lm data ch w.arena.room task res)
    (hfair : w.arena.room.Fair w.arena.queue ch task) (he : Arena.Enrolled { w.arena with
      room := res.1, queue := rest ++ res.2.posted,
      loading := w.arena.loading ++ res.2.load.toList }) :
    (w.after (some task) { w.arena with
      room := res.1, queue := rest ++ res.2.posted,
      loading := w.arena.loading ++ res.2.load.toList }).Judged := by
  have hhead : task ∈ w.arena.queue := hq ▸ List.mem_cons_self
  have hrul := hran.ruled h.enrolled.tidy hfair fun ref heq => h.fresh.alive ref (heq ▸ hhead)
  have hfresh := h.fresh.run h.enrolled hq hran hrul
  have hqueued : ∀ isWin, .handleGameOver isWin ∈ rest ++ res.2.posted → isWin = false ∧
      res.1.allDead = true := by
    intro isWin hin
    rcases List.mem_append.mp hin with hin | hin
    · have hin : .handleGameOver isWin ∈ w.arena.queue := hq ▸ List.mem_cons_of_mem _ hin
      obtain ⟨rfl, hall⟩ := h.queued isWin hin
      refine ⟨rfl, hrul.stay (fun ref heq => ?_) (fun exp heq => ?_) hall⟩
      · subst heq
        exact hfair hin
      · subst heq
        exact hfair hin
    · exact hrul.posted isWin hin
  by_cases hover : ∃ isWin, task = .handleGameOver isWin
  · obtain ⟨isWin, rfl⟩ := hover
    obtain ⟨rfl, hall⟩ := h.queued isWin hhead
    exact h.over hfresh he hqueued hrul.declared hrul.flag hall
  · obtain ⟨hdecl, hflag⟩ := hrul.other (not_exists.mp hover)
    cases hreset : w.arena.room.resets task with
    | true =>
      rw [hreset, if_pos rfl] at hflag
      refine h.ended he hfresh hdecl hreset hflag hqueued fun hall hne => ?_
      rcases hrul.due hall hne with ⟨-, -, hgo⟩ | hposted
      · exact absurd (hgo.symm.trans hreset) (by decide)
      · exact List.mem_append_right _ hposted
    | false =>
      rw [hreset, if_neg (by decide)] at hflag
      refine h.keep he hfresh hdecl hreset hflag hqueued fun hall hne => ?_
      rcases hrul.due hall hne with ⟨hbefore, hsome, -⟩ | hposted
      · rcases h.due hbefore hsome with hgo | hin
        · exact .inl (hflag.trans hgo)
        · rcases List.mem_cons.mp (hq ▸ hin) with heq | hin
          · exact absurd heq.symm (not_exists.mp hover false)
          · exact .inr (List.mem_append_left _ hin)
      · exact .inr (List.mem_append_right _ hposted)

/-- **Every step keeps the verdict right.** -/
theorem judged_step {data : DataManager} {a : ArenaAction} (h : w.Judged)
    (hs : Arena.Step lm data w.arena a s) (hfair : w.arena.FairAct a) :
    (w.after (w.arena.next a) s).Judged := by
  have he := h.enrolled.step hs
  cases hs with
  | join sessionId => exact h.join data sessionId he
  | post task hext =>
    exact h.post he rfl rfl rfl rfl rfl (Arena.external_ne_enter hext) (external_ne_over hext)
  | stop =>
    exact h.post he rfl rfl rfl rfl rfl (fun _ heq => by cases heq) fun _ heq => by cases heq
  | stopped =>
    exact h.keep he h.fresh (Room.declared_of_sentMore (Scene.SentMore.refl _)) rfl rfl
      h.queued h.due
  | loaded =>
    exact h.post he rfl rfl rfl rfl rfl (fun _ heq => by cases heq) fun _ heq => by cases heq
  | command ch ref c => exact h.command lm data ch ref c he hfair
  | run ch task rest res hq hran =>
    have hhead : w.arena.queue.head? = some task := by
      rw [hq]
      rfl
    have hnext : w.arena.next (.run ch) = some task := hhead
    rw [hnext]
    exact h.run hq hran (hfair task hhead) he

/-- The steps after which game over is declared when due: they are fair, and when the queue is
drained no game is won, because nobody would say so. -/
def Fairly (lm : Libm) (data : DataManager) (w : Watch) (a : ArenaAction) : Prop :=
  w.arena.FairAct a ∧ ∀ s ∈ w.arena.step lm data a, s.Drained → s.room.checkWinCondition = false

instance (lm : Libm) (data : DataManager) (w : Watch) (a : ArenaAction) :
    Decidable (Fairly lm data w a) :=
  inferInstanceAs (Decidable (_ ∧ _))

/-- The invariant with what the condition says about won games. -/
structure Kept (w : Watch) : Prop where
  judged : w.Judged
  unwon : w.arena.Drained → w.arena.room.checkWinCondition = false

theorem kept_step {data : DataManager} {w' : Watch} {a : ArenaAction} (h : w.Kept)
    (hfair : Fairly lm data w a) (hs : w.step lm data a = some w') : w'.Kept := by
  obtain ⟨s, hstep, rfl⟩ := Option.map_eq_some_iff.mp hs
  have harena : (w.after (w.arena.next a) s).arena = s := by
    unfold after
    split <;> rfl
  refine ⟨judged_step h.judged (Arena.step_of_eq hstep) hfair.1, fun hdrained => ?_⟩
  rw [harena] at hdrained ⊢
  exact hfair.2 s hstep hdrained

/-- What the game should come to. -/
def GameOverWhenDue (w : Watch) : Prop :=
  (w.arena.Drained →
    (w.arena.room.allDead = true → ∃ o ∈ w.overs, o.isWin = false) ∧
      (w.arena.room.checkWinCondition = true → ∃ o ∈ w.overs, o.isWin = true)) ∧
    ∀ game ∈ w.overs :: w.games, game.length ≤ 1 ∧ ∀ o ∈ game, o.someAlive = true → o.winning = true

theorem Kept.whenDue (h : w.Kept) : w.GameOverWhenDue := by
  refine ⟨fun hdrained => ⟨fun hall => ?_, fun hwin => ?_⟩,
    fun game hin => ⟨?_, fun o ho halive => ?_⟩⟩
  · rcases h.judged.due hall hdrained.2.2 with hgo | hin
    · have hlen := h.judged.count
      rw [hgo] at hlen
      obtain ⟨o, ho⟩ := List.length_eq_one_iff.mp hlen
      have hmem : o ∈ w.overs := ho ▸ List.mem_cons_self
      exact ⟨o, hmem, h.judged.lost o hmem⟩
    · rw [hdrained.1] at hin
      cases hin
  · exact absurd (hwin.symm.trans (h.unwon hdrained)) (by decide)
  · rcases List.mem_cons.mp hin with rfl | hin
    · exact h.judged.length_le
    · exact h.judged.once game hin
  · exact absurd (halive.symm.trans (h.judged.right game hin o ho)) (by decide)

/-- **Game over is declared when it is due**, once per game, in every run that is fair. -/
theorem game_over_when_due (lm : Libm) (data : DataManager) (roomId : Int) (hasUserDB : Bool)
    (actions : List ArenaAction) (w : Watch)
    (hrun : run (step lm data) (make roomId hasUserDB) actions = some w)
    (hfair : Meets (step lm data) (Fairly lm data) (make roomId hasUserDB) actions) :
    w.GameOverWhenDue :=
  Kept.whenDue (run_inv_of_meets Kept (fun _ _ _ hc hp hs => kept_step hc hp hs)
    ⟨judged_make roomId hasUserDB, fun hdrained => by cases hdrained.2.1⟩ hfair hrun)

def frailData : DataManager := { smallData with player := some (10, 5, [7]) }

/-- Monsters appear where players start. -/
def ambushTick : TickChoice := { TickChoice.idle with spawning := ⟨fun _ => (0, 0), fun _ => none⟩ }

def fiveStarts : List ArenaAction :=
  [.join 5, .run .idle, .run .idle, .post (.playerReady 5), .run .idle]

def attacked : List ArenaAction := [.post (.debugSpawn 1 1), .run ambushTick]

/-- The player dies in the next tick, and `HandleGameOver` runs. -/
def diesAlone : List ArenaAction :=
  fiveStarts ++ attacked ++ [.post .update, .run .idle, .run .idle]

theorem game_over_when_due_diesAlone :
    ∃ w, run (step stillLibm frailData) (make 1 false) diesAlone = some w ∧ w.arena.Drained ∧
      w.arena.room.allDead = true ∧ w.overs = [⟨false, false, false⟩] ∧ w.GameOverWhenDue := by
  obtain ⟨w, hw, hdrained, hall, hovers⟩ : ∃ w,
      run (step stillLibm frailData) (make 1 false) diesAlone = some w ∧
      w.arena.Drained ∧ w.arena.room.allDead = true ∧ w.overs = [⟨false, false, false⟩] := by
        decide +kernel
  exact ⟨w, hw, hdrained, hall, hovers,
    game_over_when_due stillLibm frailData 1 false diesAlone w hw (by decide +kernel)⟩

/-- No wave is left and no monster lives. -/
def wins : List ArenaAction := fiveStarts ++ [.post .update, .run .idle]

/-- Player 6 cannot be hurt; when player 5 is dead, it leaves. -/
def lastLeaves : List ArenaAction :=
  fiveStarts ++ [.join 6, .run .idle, .command .idle 1 .god] ++ attacked ++
    [.post .update, .run .idle, .post (.leave 6), .run .idle]

/-- Player 6 joins before the tick in which player 5 dies has run. -/
def joinsInTime : List ArenaAction :=
  fiveStarts ++ attacked ++ [.post .update, .join 6, .run .idle, .run .idle, .run .idle]

/-- Nobody declares a game that is won or that the last living player has left; and a game is
declared lost while somebody lives. -/
theorem game_over_not_when_due :
    (∃ w, run (step stillLibm frailData) (make 1 false) wins = some w ∧ w.arena.Drained ∧
      w.arena.room.checkWinCondition = true ∧ w.overs = []) ∧
    (∃ w, run (step stillLibm frailData) (make 1 false) lastLeaves = some w ∧ w.arena.Drained ∧
      w.arena.room.allDead = true ∧ w.overs = []) ∧
    ∃ w, run (step stillLibm frailData) (make 1 false) joinsInTime = some w ∧
      w.arena.room.allDead = false ∧ w.overs = [⟨false, true, false⟩] := by
  exact ⟨by decide +kernel, by decide +kernel, by decide +kernel⟩

end Watch

end ToyServer.SimpleGame
