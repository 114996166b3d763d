import ToyServer.Game.ObjectIdentity

/-!
# Who slows which monster

A player in the level-up state slows the monsters around it and remembers them in
`_slowedMonsterIds`.  `SlowsKept` is what should hold between the sets of the players and the
modifiers of the monsters.  Everything that leaves the slows alone keeps it (`slowsKept_of_reach`),
the end of a level-up does (`SlowsKept.exit`), and so does a tick in which at most one player in the
room is levelling up and no slow runs out (`slowsKept_update`).
-/

namespace ToyServer.SimpleGame

open Chain

variable (m : Monster) (ch : TickChoice) (s : Scene)

/-! ## The slows of a monster -/

namespace Monster

theorem levelUpSlows_remove : m.removeLevelUpSlow.levelUpSlows = [] := by
  unfold levelUpSlows
  have hkept : m.removeLevelUpSlow.modifiers.modifiers =
      (RemoveIf.removeIf (fun x => x.sourceId == levelUpSlowSourceId) m.modifiers.modifiers).1 :=
        rfl
  rw [hkept, RemoveIf.removeIf_eq]
  refine List.filter_eq_nil_iff.mpr fun x hx => ?_
  simpa using (List.mem_filter.mp hx).2

theorem levelUpSlows_add (now duration : ℚ) :
    levelUpSlow now duration ∈ (m.addLevelUpSlow now duration).levelUpSlows ∧
      ∀ x ∈ (m.addLevelUpSlow now duration).levelUpSlows, x ∈ m.levelUpSlows ∨
      x = levelUpSlow now duration := by
  have hmods : (m.addLevelUpSlow now duration).modifiers.modifiers =
      (RemoveIf.removeIf (ModifierContainer.replaces (levelUpSlow now duration))
        m.modifiers.modifiers).1 ++ [levelUpSlow now duration] := rfl
  unfold levelUpSlows
  rw [hmods]
  constructor
  · exact List.mem_filter.mpr ⟨List.mem_append_right _ (List.mem_singleton_self _), rfl⟩
  · intro x hx
    obtain ⟨hmem, hsrc⟩ := List.mem_filter.mp hx
    rcases Runs.mem_concat.mp hmem with hmem | hmem
    · exact .inl (List.mem_filter.mpr ⟨((RemoveIf.mem_kept _).mp hmem).1, hsrc⟩)
    · exact .inr hmem

theorem slowedUp_remove : m.removeLevelUpSlow.slowedUp = false := by
  unfold slowedUp
  rw [levelUpSlows_remove]
  rfl

theorem slowedUp_add (now duration : ℚ) : (m.addLevelUpSlow now duration).slowedUp = true := by
  have hne := List.ne_nil_of_mem (levelUpSlows_add m now duration).1
  simpa [slowedUp] using hne

theorem levelUpSlows_update (dt now : ℚ) (m : Monster)
    (h : ∀ x ∈ m.levelUpSlows, ModifierContainer.expired now x = false) :
    (Room.updateMonster ch dt now m).levelUpSlows = m.levelUpSlows := by
  have hmods : (Room.updateMonster ch dt now m).modifiers.modifiers =
      (RemoveIf.removeIf (ModifierContainer.expired now) m.modifiers.modifiers).1 := by
    unfold Room.updateMonster
    dsimp only
    split <;> rfl
  unfold levelUpSlows at h ⊢
  rw [hmods, RemoveIf.removeIf_eq, List.filter_filter]
  refine List.filter_congr fun x hx => ?_
  cases hsrc : x.sourceId == levelUpSlowSourceId with
  | false => rfl
  | true => simp [h x (List.mem_filter.mpr ⟨hx, hsrc⟩)]

end Monster

/-! ## Monsters in the table -/

namespace Scene

theorem getMonster_put (id : Int) (e : Entity) (id' : Int) (m : Monster) :
    (s.put id e).getMonster id' = some m ↔ if id' = id then
      e = .monster m else s.getMonster id' = some m := by
  show (s.put id e).objMgr.getMonster id' = some m ↔ _
  rw [ObjectManager.getMonster_eq_some]
  simp only [put, Table.lookup_insert_ite]
  split
  · exact Option.some_inj
  · exact ObjectManager.getMonster_eq_some.symm

theorem getMonster_modMonster (id : Int) (f : Monster → Monster) (id' : Int) :
    (s.modMonster id f).getMonster id' = (s.getMonster id').map fun m =>
      if id' = id then f m else m := by
  cases hm : s.getMonster id with
  | none =>
    rw [modMonster_of_none hm]
    cases hm' : s.getMonster id' with
    | none => rfl
    | some m =>
      have hne : id' ≠ id := by
        rintro rfl
        rw [hm] at hm'
        cases hm'
      simp [hne]
  | some m =>
    rw [modMonster_of_some hm]
    refine Option.ext fun m' => ?_
    rw [getMonster_put]
    split
    · next heq =>
      subst heq
      simp [hm]
    · simp

theorem getMonster_released {ids : List Int} {s : Scene} {id : Int} {m' : Monster}
    (h : (ids.foldl (fun s id => s.modMonster id Monster.removeLevelUpSlow) s).getMonster id =
      some m') :
    ∃ m, s.getMonster id = some m ∧ m'.levelUpSlows = if id ∈ ids then [] else m.levelUpSlows := by
  induction ids generalizing s with
  | nil => exact ⟨m', h, by simp⟩
  | cons id' ids ih =>
    rw [List.foldl_cons] at h
    obtain ⟨m₁, hm₁, hslows⟩ := ih h
    rw [getMonster_modMonster, Option.map_eq_some_iff] at hm₁
    obtain ⟨m, hm, rfl⟩ := hm₁
    refine ⟨m, hm, hslows.trans ?_⟩
    by_cases heq : id = id'
    · rw [if_pos heq, Monster.levelUpSlows_remove, ite_self, if_pos (heq ▸ List.mem_cons_self)]
    · rw [if_neg heq]
      simp only [List.mem_cons, heq, false_or]

theorem lookup_of_getMonster {s : Scene} {id : Int} {m : Monster} (h : s.getMonster id = some m) :
    s.objMgr.objects.lookup id = some (.monster m) :=
  ObjectManager.getMonster_eq_some.mp h

theorem Change.monsters {t : Tag} {s s' : Scene} (h : Change t s s')
    (ht : Still t) (hmax : s'.objMgr.generated ≤ ObjectManager.maxGenerated) {id : Int}
    {m' : Monster} (hm' : s'.getMonster id = some m') :
    (∃ m, s.getMonster id = some m ∧ m'.levelUpSlows = m.levelUpSlows) ∨
      (id = 1001 + s.objMgr.generated ∧ s.objMgr.generated < s'.objMgr.generated ∧
        m'.levelUpSlows = []) := by
  cases h with
  | @monster s id₀ m₀ m₁ hm hid hsl =>
    rw [Scene.getMonster_put] at hm'
    split at hm'
    · next heq =>
      cases hm'
      exact .inl ⟨m₀, heq ▸ hm, hsl⟩
    · exact .inl ⟨m', hm', rfl⟩
  | modifiers => exact absurd ht (by decide)
  | @thing s id₀ e e' _ _ _ _ hnm =>
    rw [Scene.getMonster_put] at hm'
    split at hm'
    · rw [hm'] at hnm
      cases hnm
    · exact .inl ⟨m', hm', rfl⟩
  | @create s e hid _ hclean =>
    have hlt : s.objMgr.generated < ObjectManager.maxGenerated := hmax
    have hlook := lookup_of_getMonster hm'
    rcases Table.of_lookup_insert hlook with ⟨heq, rfl⟩ | ⟨-, hold⟩
    · refine .inr ⟨?_, Nat.lt_succ_self _, List.isEmpty_iff.mp hclean⟩
      rw [heq, hid, ObjectManager.nextId_eq hlt]
    · exact .inl ⟨m', ObjectManager.getMonster_eq_some.mpr hold, rfl⟩
  | @drop s id₀ e =>
    have hlook := lookup_of_getMonster hm'
    refine .inl ⟨m', ObjectManager.getMonster_eq_some.mpr ?_, rfl⟩
    simp only [Scene.drop, ObjectManager.removeObject] at hlook
    split at hlook
    · exact hlook
    · exact (Table.of_lookup_erase hlook).2
  | send => exact .inl ⟨m', hm', rfl⟩
  | wide => exact .inl ⟨m', hm', rfl⟩

theorem Change.time {t : Tag} {s s' : Scene} (h : Change t s s') :
    s'.totalRunTime = s.totalRunTime := by
  cases h with
  | _ => rfl

theorem player_of_reach {ok : Tag → Prop} {s s' : Scene} (h : Reach Change ok s s')
    {id : Int} {e : Entity} (he : s'.objMgr.objects.lookup id = some e) (hp : e.isPlayer = true) :
    s.objMgr.objects.lookup id = some e := by
  revert he
  refine h.inv (fun x => x.objMgr.objects.lookup id = some e → s.objMgr.objects.lookup id = some e)
    (fun _ _ _ _ hc hx he => hx (hc.player_of he hp)) fun he => he

end Scene

/-! ## The invariant -/

namespace Room

def Holds (r : Room) (ref : Nat) (id : Int) : Prop := id ∈ (r.heap ref).slowedMonsterIds

/-- Of every stored monster, the one player object that remembers it is in the room, and it carries
a slow just if there is one. -/
structure SlowsKept (r : Room) : Prop where
  issued : ∀ id m, r.getMonster id = some m → id < 1001 + r.objMgr.generated
  past : ∀ ref id, r.Holds ref id → id < 1001 + r.objMgr.generated
  holder : ∀ id m ref, r.getMonster id = some m → r.Holds ref id → r.InRoom ref
  single : ∀ id m ref ref', r.getMonster id = some m → r.Holds ref id → r.Holds ref' id → ref = ref'
  slowed : ∀ id m, r.getMonster id = some m → (m.slowedUp = true ↔ ∃ ref, r.Holds ref id)
  stored : ∀ id ref pid, r.objMgr.objects.lookup id = some (.player ref pid) → r.InRoom ref ∧
    (r.heap ref).id = id

variable (data : DataManager) {r r' : Room} {ref : Nat}

/-- The monsters are old ones or new and not slowed, and players hold what they held. -/
theorem SlowsKept.keep (h : r.SlowsKept) (hmon : ∀ id m', r'.getMonster id = some m' →
      (∃ m, r.getMonster id = some m ∧ m'.slowedUp = m.slowedUp) ∨
        (id = 1001 + r.objMgr.generated ∧ r.objMgr.generated < r'.objMgr.generated ∧
          m'.slowedUp = false))
    (hgen : r.objMgr.generated ≤ r'.objMgr.generated)
    (hsub : ∀ ref id, r'.Holds ref id → r.Holds ref id)
    (hkeep : ∀ id m' ref, r'.getMonster id = some m' → r.Holds ref id → r.InRoom ref →
      r'.Holds ref id ∧ r'.InRoom ref)
    (hstored : ∀ id ref pid, r'.objMgr.objects.lookup id = some (.player ref pid) →
      r'.InRoom ref ∧ (r'.heap ref).id = id) : r'.SlowsKept := by
  -- nobody holds an id that was not given yet
  have hnew : ∀ {id ref}, id = 1001 + (r.objMgr.generated : Int) → ¬r'.Holds ref id := by
    intro id ref hid hh
    have := h.past ref id (hsub ref id hh)
    omega
  refine ⟨fun id m' hm' => ?_, fun ref id hh => ?_, fun id m' ref hm' hh => ?_,
    fun id m' ref ref' hm' hh hh' => ?_, fun id m' hm' => ?_, hstored⟩
  · rcases hmon id m' hm' with ⟨m, hm, -⟩ | ⟨hid, hlt, -⟩
    · have := h.issued id m hm
      omega
    · omega
  · have := h.past ref id (hsub ref id hh)
    omega
  · rcases hmon id m' hm' with ⟨m, hm, -⟩ | ⟨hid, -, -⟩
    · have hold := hsub ref id hh
      exact (hkeep id m' ref hm' hold (h.holder id m ref hm hold)).2
    · exact absurd hh (hnew hid)
  · rcases hmon id m' hm' with ⟨m, hm, -⟩ | ⟨hid, -, -⟩
    · exact h.single id m ref ref' hm (hsub ref id hh) (hsub ref' id hh')
    · exact absurd hh (hnew hid)
  · rcases hmon id m' hm' with ⟨m, hm, hsl⟩ | ⟨hid, -, hsl⟩
    · rw [hsl, h.slowed id m hm]
      constructor
      · rintro ⟨ref, hh⟩
        exact ⟨ref, (hkeep id m' ref hm' hh (h.holder id m ref hm hh)).1⟩
      · rintro ⟨ref, hh⟩
        exact ⟨ref, hsub ref id hh⟩
    · rw [hsl]
      refine ⟨fun hc => absurd hc (by decide), ?_⟩
      rintro ⟨ref, hh⟩
      exact absurd hh (hnew hid)

/-- The player `ref` takes hold of the monsters `ids` (`on`) or lets them go. -/
theorem SlowsKept.turn (h : r.SlowsKept) (ref : Nat) (ids : List Int) (on : Bool)
    (hmon : ∀ id m', r'.getMonster id = some m' →
      ∃ m, r.getMonster id = some m ∧ m'.slowedUp = if id ∈ ids then on else m.slowedUp)
    (hheld : ∀ id m' ref', r'.getMonster id = some m' →
      (r'.Holds ref' id ↔ if id ∈ ids then on = true ∧ ref' = ref else r.Holds ref' id))
    (hpast : ∀ ref' id, r'.Holds ref' id → r.Holds ref' id ∨ id < 1001 + r.objMgr.generated)
    (hgen : r'.objMgr.generated = r.objMgr.generated) (hon : on = true → r'.InRoom ref)
    (hin : ∀ ref', r.InRoom ref' → r'.InRoom ref')
    (hstored : ∀ id ref pid, r'.objMgr.objects.lookup id = some (.player ref pid) →
      r'.InRoom ref ∧ (r'.heap ref).id = id) : r'.SlowsKept := by
  refine ⟨fun id m' hm' => ?_, fun ref' id hh => ?_, fun id m' ref' hm' hh => ?_,
    fun id m' ref₁ ref₂ hm' hh hh' => ?_, fun id m' hm' => ?_, hstored⟩
  · obtain ⟨m, hm, -⟩ := hmon id m' hm'
    rw [hgen]
    exact h.issued id m hm
  · rw [hgen]
    exact (hpast ref' id hh).elim (h.past ref' id) fun hlt => hlt
  · obtain ⟨m, hm, -⟩ := hmon id m' hm'
    rw [hheld id m' ref' hm'] at hh
    split at hh
    · rw [hh.2]
      exact hon hh.1
    · exact hin ref' (h.holder id m ref' hm hh)
  · obtain ⟨m, hm, -⟩ := hmon id m' hm'
    rw [hheld id m' _ hm'] at hh hh'
    split at hh
    · next hmem =>
      rw [if_pos hmem] at hh'
      rw [hh.2, hh'.2]
    · next hmem =>
      rw [if_neg hmem] at hh'
      exact h.single id m ref₁ ref₂ hm hh hh'
  · obtain ⟨m, hm, hsl⟩ := hmon id m' hm'
    simp only [fun ref' => hheld id m' ref' hm', hsl]
    split
    · constructor
      · exact fun hc => ⟨ref, hc, rfl⟩
      · rintro ⟨ref', hc, -⟩
        exact hc
    · exact h.slowed id m hm

/-! ### Changes that leave the slows alone -/

theorem getMonster_of_enlist {id : Int} {m : Monster}
    (hm : (r.addPlayerObject ref).getMonster id = some m) : r.getMonster id = some m := by
  have hlook := Table.of_lookup_insert (Scene.lookup_of_getMonster hm)
  exact ObjectManager.getMonster_eq_some.mpr (hlook.resolve_left (by simp)).2

theorem SlowsKept.addPlayerObject (h : r.SlowsKept) (hroom : r.InRoom ref) :
    (r.addPlayerObject ref).SlowsKept := by
  refine h.keep (fun id m hm => Or.inl ⟨m, getMonster_of_enlist hm, rfl⟩) (le_refl _)
    (fun _ _ hh => hh) (fun id m ref' _ hh hroom => ⟨hh, hroom⟩) fun id ref' pid he => ?_
  rcases Table.of_lookup_insert he with ⟨rfl, hnew⟩ | ⟨-, hold⟩
  · cases hnew
    exact ⟨hroom, rfl⟩
  · exact h.stored id ref' pid hold

theorem SlowsKept.change {t : Tag} (h : r.SlowsKept) (hc : Change t r r') (ht : Still t)
    (hmax : r'.objMgr.generated ≤ ObjectManager.maxGenerated) : r'.SlowsKept := by
  -- a player is replaced by one that remembers the same monsters
  have hplayer : ∀ {ref₀ p}, p.id = (r.heap ref₀).id → p.sessionId = (r.heap ref₀).sessionId →
      p.slowedMonsterIds = (r.heap ref₀).slowedMonsterIds → (r.setPlayer ref₀ p).SlowsKept := by
    intro ref₀ p hid hsession hsl
    have hids : SameIds r (r.setPlayer ref₀ p) := SameIds.setPlayer hid hsession
    have hin : ∀ {ref}, (r.setPlayer ref₀ p).InRoom ref ↔ r.InRoom ref := hids.inRoom rfl
    have hholds : ∀ ref id, (r.setPlayer ref₀ p).Holds ref id ↔ r.Holds ref id := by
      intro ref id
      simp only [Holds, setPlayer, Function.update_apply]
      split
      · next heq => rw [hsl, heq]
      · rfl
    refine h.keep (fun id m hm => Or.inl ⟨m, hm, rfl⟩) (le_refl _)
      (fun ref id => (hholds ref id).mp)
      (fun id m ref _ hh hroom => ⟨(hholds ref id).mpr hh, hin.mpr hroom⟩) fun id ref pid he => ?_
    rw [hin, (hids ref).1]
    exact h.stored id ref pid he
  cases hc with
  | scene hs =>
    refine h.keep (fun id m' hm' => ?_) hs.generated_le (fun _ _ hh => hh)
      (fun _ _ _ _ hh hroom => ⟨hh, hroom⟩)
      fun id ref pid he => h.stored id ref pid (hs.player_of he rfl)
    refine (hs.monsters ht hmax hm').imp ?_ ?_
    · rintro ⟨m, hm, hsl⟩
      exact ⟨m, hm, by simp only [Monster.slowedUp, hsl]⟩
    · rintro ⟨hid, hlt, hsl⟩
      exact ⟨hid, hlt, by simp only [Monster.slowedUp, hsl, List.isEmpty_nil, Bool.not_true]⟩
  | player hkept hsl => exact hplayer hkept.id hkept.sessionId hsl
  | aura => exact absurd ht (by decide)
  | @hurt _ ref₀ damage now =>
    obtain ⟨hid, hsession, hsl, -⟩ := takeDamage_kept (r.heap ref₀) damage now
    exact hplayer hid hsession hsl
  | revive hid hsession hsl => exact hplayer hid hsession hsl
  | enlist hin => exact h.addPlayerObject hin

/-- No level-up slow runs out now. -/
def Unexpired (r : Room) : Prop :=
  ∀ id m, r.getMonster id = some m → ∀ x ∈ m.levelUpSlows,
    ModifierContainer.expired r.totalRunTime x = false

theorem Unexpired.change {t : Tag} (h : r.Unexpired) (hc : Change t r r') (ht : Still t)
    (hmax : r'.objMgr.generated ≤ ObjectManager.maxGenerated) : r'.Unexpired := by
  cases hc with
  | scene hs =>
    intro id m' hm' x hx
    show ModifierContainer.expired _ x = false
    rw [hs.time]
    rcases hs.monsters ht hmax hm' with ⟨m, hm, hsl⟩ | ⟨-, -, hsl⟩
    · exact h id m hm x (hsl ▸ hx)
    · rw [hsl] at hx
      cases hx
  | enlist =>
    intro id m hm
    exact h id m (getMonster_of_enlist hm)
  | _ => exact h

structure SlowsSafe (r : Room) : Prop where
  kept : r.SlowsKept
  unexpired : r.Unexpired

theorem slowsSafe_of_reach {ok : Tag → Prop} (h : Reach Change ok r r') (hok : ∀ t, ok t → Still t)
    (hr : r.SlowsSafe) (hmax : r'.objMgr.generated ≤ ObjectManager.maxGenerated) :
    r'.SlowsSafe := by
  have hinv := h.inv (fun x => x.objMgr.generated ≤ ObjectManager.maxGenerated → x.SlowsSafe)
    (fun t x x' ht hc hx hmax' =>
      have hsafe := hx (hc.generated_le.trans hmax')
      ⟨hsafe.kept.change hc (hok t ht) hmax', hsafe.unexpired.change hc (hok t ht) hmax'⟩) (fun _ =>
        hr)
  exact hinv hmax

theorem slowsKept_of_reach {ok : Tag → Prop} (h : Reach Change ok r r') (hok : ∀ t, ok t → Still t)
    (hr : r.SlowsKept) (hmax : r'.objMgr.generated ≤ ObjectManager.maxGenerated) :
    r'.SlowsKept := by
  have hinv := h.inv (fun x => x.objMgr.generated ≤ ObjectManager.maxGenerated → x.SlowsKept)
    (fun t x x' ht hc hx hmax' => (hx (hc.generated_le.trans hmax')).change hc (hok t ht) hmax')
    (fun _ => hr)
  exact hinv hmax

/-! ### A player's turn -/

/-- The room when a function of the player `ref` has come to `p` and `s`. -/
def acted (r : Room) (ref : Nat) (p : Player) (s : Scene) : Room :=
  { r.setPlayer ref p with toScene := s }

theorem acted_heap (r : Room) (ref : Nat) (p : Player) (s : Scene) (ref' : Nat) :
    (r.acted ref p s).heap ref' = if ref' = ref then p else r.heap ref' := by
  simp only [acted, setPlayer, Function.update_apply]

theorem sameIds_acted {p : Player} (hid : p.id = (r.heap ref).id)
    (hsession : p.sessionId = (r.heap ref).sessionId) : SameIds r (r.acted ref p s) := by
  intro ref'
  rw [acted_heap]
  split
  · next heq => exact heq ▸ ⟨hid, hsession⟩
  · exact ⟨rfl, rfl⟩

theorem holds_acted (r : Room) (ref : Nat) (p : Player) (s : Scene) (ref' : Nat) (id : Int) :
    (r.acted ref p s).Holds ref' id ↔ if ref' = ref then
      id ∈ p.slowedMonsterIds else r.Holds ref' id := by
  unfold Holds
  rw [acted_heap]
  split <;> rfl

theorem SlowsKept.exit (h : r.SlowsKept) (ref : Nat) {p : Player}
    (hkept : Player.Kept (r.heap ref) p) (hempty : p.slowedMonsterIds = []) :
    (r.acted ref p
      ((r.heap ref).slowedMonsterIds.foldl (fun s id => s.modMonster id Monster.removeLevelUpSlow)
      r.toScene)).SlowsKept := by
  set s :=
    (r.heap ref).slowedMonsterIds.foldl (fun s id => s.modMonster id Monster.removeLevelUpSlow)
      r.toScene with hs
  have hreach : Reach Scene.Change (· = Tag.modifiers) r.toScene s :=
    reach_foldl_of_all (fun s => s)
      (fun s id => Scene.reach_modifiers s id (f := Monster.removeLevelUpSlow) fun _ => rfl) _ _
  have hids : SameIds r (r.acted ref p s) := sameIds_acted s hkept.id hkept.sessionId
  have hin : ∀ {ref'}, (r.acted ref p s).InRoom ref' ↔ r.InRoom ref' := hids.inRoom rfl
  have hgen : s.objMgr.generated = r.objMgr.generated := by
    refine hreach.inv (fun x => x.objMgr.generated = r.objMgr.generated)
      (fun t x x' ht hc hx => ?_) rfl
    subst ht
    cases hc with
    | modifiers => exact hx
  refine h.turn ref (r.heap ref).slowedMonsterIds false (fun id m' hm' => ?_)
    (fun id m' ref' hm' => ?_)
    (fun ref' id hh => ?_) hgen (fun hc => absurd hc (by decide)) (fun ref' => hin.mpr)
    fun id ref' pid he => ?_
  · obtain ⟨m, hm, hsl⟩ := Scene.getMonster_released hm'
    refine ⟨m, hm, ?_⟩
    simp only [Monster.slowedUp, hsl]
    split <;> rfl
  · obtain ⟨m, hm, -⟩ := Scene.getMonster_released hm'
    rw [holds_acted, hempty]
    by_cases hmem : id ∈ (r.heap ref).slowedMonsterIds
    · rw [if_pos hmem]
      split
      · simp
      · next hne =>
        -- the monster is the player's alone
        simp only [Bool.false_eq_true, false_and, iff_false]
        exact fun hh => hne (h.single id m ref' ref hm hh hmem)
    · rw [if_neg hmem]
      split
      · next heq =>
        subst heq
        exact ⟨fun hc => absurd hc List.not_mem_nil, fun hh => absurd hh hmem⟩
      · rfl
  · rw [holds_acted, hempty] at hh
    split at hh
    · cases hh
    · exact .inl hh
  · rw [hin, (hids ref').1]
    exact h.stored id ref' pid (Scene.player_of_reach hreach he rfl)

theorem Unexpired.exit (h : r.Unexpired) (ref : Nat) (p : Player) :
    (r.acted ref p
      ((r.heap ref).slowedMonsterIds.foldl (fun s id => s.modMonster id Monster.removeLevelUpSlow)
      r.toScene)).Unexpired := by
  intro id m' hm' x hx
  obtain ⟨m, hm, hsl⟩ := Scene.getMonster_released hm'
  have htime : ∀ (ids : List Int) (s : Scene),
      (ids.foldl (fun s id => s.modMonster id Monster.removeLevelUpSlow) s).totalRunTime =
        s.totalRunTime := by
    intro ids s
    exact List.foldlRecOn (motive := fun x : Scene => x.totalRunTime = s.totalRunTime) ids _ rfl
      fun x hx id _ => hx
  show ModifierContainer.expired (Scene.totalRunTime (List.foldl _ _ _)) x = false
  rw [htime]
  rw [hsl] at hx
  split at hx
  · cases hx
  · exact h id m hm x hx

/-- The room in the middle of the aura of player `ref`. -/
def auraRoom (r : Room) (ref : Nat) (a : Player.Aura) : Room :=
  r.acted ref { r.heap ref with slowedMonsterIds := a.slowed } a.scene

theorem sameIds_auraRoom (r : Room) (ref : Nat) (a : Player.Aura) : SameIds r (r.auraRoom ref a) :=
  sameIds_acted a.scene rfl rfl

/-- In the middle of the aura the slows are kept, and only what is in `ids` is held. -/
structure AuraSafe (r : Room) (ref : Nat) (ids : List Int) (a : Player.Aura) : Prop where
  safe : (r.auraRoom ref a).SlowsSafe
  within : ∀ id ∈ a.slowed, id ∈ ids
  nodup : a.slowed.Nodup
  generated : a.scene.objMgr.generated = r.objMgr.generated
  time : a.scene.totalRunTime = r.totalRunTime

/-- Nobody else in the room holds any of `ids`. -/
def Alone (r : Room) (ref : Nat) (ids : List Int) : Prop :=
  r.InRoom ref ∧ ∀ ref', ref' ≠ ref → r.InRoom ref' → ∀ id ∈ ids, ¬r.Holds ref' id

section
variable {ids : List Int} {a : Player.Aura} (h : r.AuraSafe ref ids a) (halone : r.Alone ref ids)
include h halone

theorem AuraSafe.turn {id : Int} (hids : id ∈ ids) (on : Bool) {f : Monster → Monster}
    {slowed : List Int} (moves : List ObjectPos) (hid : ∀ m, (f m).id = m.id)
    (hf : ∀ m, (f m).slowedUp = on)
    (hfx : ∀ m, ∀ x ∈ (f m).levelUpSlows, x ∈ m.levelUpSlows ∨
      ModifierContainer.expired r.totalRunTime x = false)
    (hmem : ∀ id', id' ∈ slowed ↔ if id' = id then on = true else id' ∈ a.slowed)
    (hnodup : slowed.Nodup) (hissued : on = true → id < 1001 + r.objMgr.generated) :
    r.AuraSafe ref ids ⟨a.scene.modMonster id f, slowed, moves⟩ := by
  have hin : ∀ {a ref'}, (r.auraRoom ref a).InRoom ref' ↔ r.InRoom ref' :=
    fun {a ref'} => (sameIds_auraRoom r ref a).inRoom rfl
  have hmon : ∀ {id' m'}, (a.scene.modMonster id f).getMonster id' = some m' →
      ∃ m, a.scene.getMonster id' = some m ∧ m' = if id' = id then f m else m := by
    intro id' m' hm'
    rw [Scene.getMonster_modMonster, Option.map_eq_some_iff] at hm'
    obtain ⟨m, hm, rfl⟩ := hm'
    exact ⟨m, hm, rfl⟩
  have hgen : (a.scene.modMonster id f).objMgr.generated = a.scene.objMgr.generated := by
    cases hm : a.scene.getMonster id with
    | none => rw [Scene.modMonster_of_none hm]
    | some m =>
      rw [Scene.modMonster_of_some hm]
      rfl
  refine ⟨⟨?_, ?_⟩, fun id' hid' => ?_, hnodup, hgen.trans h.generated, h.time⟩
  · refine h.safe.kept.turn ref [id] on (fun id' m' hm' => ?_) (fun id' m' ref' hm' => ?_)
      (fun ref' id' hh => ?_) hgen
      (fun _ => hin.mpr halone.1) (fun ref' hr => hin.mpr (hin.mp hr)) fun id' ref' pid he => ?_
    · obtain ⟨m, hm, rfl⟩ := hmon hm'
      refine ⟨m, hm, ?_⟩
      simp only [List.mem_singleton]
      split
      · exact hf m
      · rfl
    · obtain ⟨m, hm, -⟩ := hmon hm'
      simp only [auraRoom, holds_acted, hmem, List.mem_singleton]
      by_cases heq : ref' = ref
      · simp only [heq, if_true, and_true]
      · simp only [heq, if_false, and_false]
        split
        · next hid' =>
          -- nobody else holds it
          refine ⟨fun hh => ?_, False.elim⟩
          have hhold : (r.auraRoom ref a).Holds ref' id' :=
            (holds_acted r ref _ _ ref' id').mpr (by rwa [if_neg heq])
          exact halone.2 ref' heq (hin.mp (h.safe.kept.holder id' m ref' hm hhold)) id'
            (hid' ▸ hids) hh
        · rfl
    · simp only [auraRoom, holds_acted] at hh ⊢
      split at hh
      · next heq =>
        rw [hmem] at hh
        split at hh
        · next hid' =>
          refine .inr ?_
          rw [hid']
          exact lt_of_lt_of_eq (hissued hh) (by rw [← h.generated]; rfl)
        · exact .inl (by rwa [if_pos heq])
      · next heq => exact .inl (by rwa [if_neg heq])
    · have hold : a.scene.objMgr.objects.lookup id' = some (.player ref' pid) :=
        Scene.player_of_reach (Scene.reach_modifiers a.scene id hid) he rfl
      obtain ⟨hroom, hrid⟩ := h.safe.kept.stored id' ref' pid hold
      refine ⟨hin.mpr (hin.mp hroom), ?_⟩
      rw [← hrid, (sameIds_auraRoom r ref a ref').1, (sameIds_auraRoom r ref _ ref').1]
  · intro id' m' hm' x hx
    obtain ⟨m, hm, rfl⟩ := hmon hm'
    show ModifierContainer.expired a.scene.totalRunTime x = false
    have hold := h.safe.unexpired id' m hm
    split at hx
    · rcases hfx m x hx with hx | hx
      · exact hold x hx
      · rwa [h.time]
    · exact hold x hx
  · rw [hmem] at hid'
    split at hid'
    · next heq => exact heq ▸ hids
    · exact h.within id' hid'

theorem AuraSafe.reach {m : Monster} (hids : m.id ∈ ids)
    (hissued : m.id < 1001 + r.objMgr.generated) : r.AuraSafe ref ids (a.reach m) := by
  unfold Player.Aura.reach
  split
  · exact h
  · next hnot =>
    have hnot : m.id ∉ a.slowed := fun hmem => hnot (List.contains_iff_mem.mpr hmem)
    refine h.turn halone hids true _ (fun _ => rfl) (fun m => Monster.slowedUp_add m _ _)
      (fun m x hx => ?_) (fun id' => ?_) ?_ fun _ => hissued
    · refine ((Monster.levelUpSlows_add m _ _).2 x hx).imp_right fun hnew => ?_
      subst hnew
      -- a new slow lasts 999 seconds
      rw [h.time]
      unfold ModifierContainer.expired
      have : ¬r.totalRunTime + 999 ≤ r.totalRunTime := by linarith
      simp [Monster.levelUpSlow, this]
    · rw [List.mem_append, List.mem_singleton]
      split
      · next heq => simp [heq]
      · next hne => simp [hne]
    · refine List.nodup_append.mpr ⟨h.nodup, List.nodup_singleton _, fun x hx y hy hxy => ?_⟩
      rw [List.mem_singleton.mp hy] at hxy
      exact hnot (hxy ▸ hx)

theorem AuraSafe.release (inRange : List Int) {id : Int} (hids : id ∈ ids) :
    r.AuraSafe ref ids (a.release inRange id) := by
  have hgone : ∀ moves,
      r.AuraSafe ref ids ⟨a.scene.modMonster id Monster.removeLevelUpSlow,
        a.slowed.erase id, moves⟩ := by
    intro moves
    refine h.turn halone hids false moves (fun _ => rfl) Monster.slowedUp_remove (fun m x hx => ?_)
      (fun id' => ?_) (h.nodup.erase id) fun hc => absurd hc (by decide)
    · rw [Monster.levelUpSlows_remove] at hx
      cases hx
    · rw [h.nodup.mem_erase_iff]
      split
      · next heq => simp [heq]
      · next hne => simp [hne]
  unfold Player.Aura.release
  split
  · exact h
  · split
    · next hm =>
      have hsame := hgone a.moves
      rw [Scene.modMonster_of_none hm] at hsame
      exact hsame
    · exact hgone _

end

theorem acted_self (r : Room) (ref : Nat) : r.acted ref (r.heap ref) r.toScene = r := by
  unfold acted setPlayer
  rw [Function.update_eq_self]

theorem acted_acted (r : Room) (ref : Nat) (p q : Player) (s s' : Scene) :
    (r.acted ref p s).acted ref q s' = r.acted ref q s' := by
  simp only [acted, setPlayer, Function.update_idem]

theorem slowsSafe_aura (ht : r.Tidy) (hr : r.SlowsSafe) {near : List Int}
    (halone : r.Alone ref ((r.heap ref).slowedMonsterIds ++ near))
    (hmax : r.objMgr.generated ≤ ObjectManager.maxGenerated) :
    (r.onPlayer ref fun p s => p.aura near s).SlowsSafe := by
  set inRange := r.getMonstersInRange near (r.heap ref).x (r.heap ref).y 10 with hrange
  have hself : r.auraRoom ref ⟨r.toScene, (r.heap ref).slowedMonsterIds, []⟩ = r := acted_self r ref
  have hnear : ∀ m ∈ inRange, m.id ∈ near := fun m hm =>
    (Player.inRange_ids ht.keyed near _ _ _).subset (List.mem_map_of_mem hm)
  set ids := (r.heap ref).slowedMonsterIds ++ near with hids
  have hstart : r.AuraSafe ref ids ⟨r.toScene, (r.heap ref).slowedMonsterIds, []⟩ :=
    ⟨by rw [hself]; exact hr, fun _ => List.mem_append_left near, (ht.tame ref).nodup, rfl, rfl⟩
  have hreach :
      r.AuraSafe ref ids
      (inRange.foldl Player.Aura.reach ⟨r.toScene, (r.heap ref).slowedMonsterIds, []⟩) :=
    List.foldlRecOn (motive := r.AuraSafe ref ids) inRange _ hstart fun a ha m hm =>
      ha.reach halone (List.mem_append_right _ (hnear m hm))
        (hr.kept.issued m.id m (Player.inRange_getMonster ht.keyed hm))
  set a := inRange.foldl Player.Aura.reach ⟨r.toScene, (r.heap ref).slowedMonsterIds, []⟩ with ha
  have hrelease :
      r.AuraSafe ref ids (a.slowed.foldl (Player.Aura.release (inRange.map (·.id))) a) :=
    List.foldlRecOn (motive := r.AuraSafe ref ids) a.slowed _ hreach fun b hb id hid =>
      hb.release halone _ (hreach.within id hid)
  set b := a.slowed.foldl (Player.Aura.release (inRange.map (·.id))) a with hb
  show (r.acted ref { r.heap ref with slowedMonsterIds := b.slowed }
    (if b.moves = [] then b.scene
      else b.scene.send (.moveObjectBatch b.moves b.scene.serverTick))).SlowsSafe
  split
  · exact hrelease.safe
  · have hsend : Change .wide (r.auraRoom ref b) _ :=
      Change.scene
        (.wide (rfl : Packet.isOver (.moveObjectBatch b.moves b.scene.serverTick) = false))
    have hreach : Reach Change Still (r.auraRoom ref b) _ := Reach.one (by decide) hsend
    refine slowsSafe_of_reach hreach (fun _ h => h) hrelease.safe ?_
    exact hrelease.generated.trans_le hmax

theorem slowsSafe_updateLevelUp (ht : r.Tidy) (hr : r.SlowsSafe)
    (near : List Int)
    (halone : (r.heap ref).isLevelingUp = true →
      r.Alone ref ((r.heap ref).slowedMonsterIds ++ near))
    (hmax : r.objMgr.generated ≤ ObjectManager.maxGenerated) :
    (r.onPlayer ref fun p s => p.updateLevelUp data near s).SlowsSafe := by
  show (r.acted ref ((r.heap ref).updateLevelUp data near r.toScene).1
    ((r.heap ref).updateLevelUp data near r.toScene).2).SlowsSafe
  unfold Player.updateLevelUp
  split
  · next hlev =>
    have haura := slowsSafe_aura ht hr (halone hlev) hmax
    set p := ((r.heap ref).aura near r.toScene).1 with hp
    set s := ((r.heap ref).aura near r.toScene).2 with hs
    have hroom : (r.acted ref p s).SlowsSafe := haura
    have hheap : (r.acted ref p s).heap ref = p := by rw [acted_heap, if_pos rfl]
    dsimp only
    split
    · have hkept : Player.Kept ((r.acted ref p s).heap ref) (p.exitLevelUpState data s).1 := by
        rw [hheap]
        exact ⟨rfl, rfl, rfl⟩
      have hexit := hroom.kept.exit ref hkept rfl
      have hlast := hroom.unexpired.exit ref (p.exitLevelUpState data s).1
      rw [hheap, acted_acted] at hexit hlast
      exact ⟨hexit, hlast⟩
    · exact hroom
  · rw [acted_self]
    exact hr

/-! ### The objects' turn -/

/-- The monsters that the aura of a player may take or let go: those it holds and those around. -/
def touched (r : Room) (ch : TickChoice) (ref : Nat) : List Int :=
  (r.heap ref).slowedMonsterIds ++ ch.near (r.heap ref).id

/-- No monster is touched by two players that level up. -/
def NoneShared (ch : TickChoice) (r : Room) : Prop :=
  ∀ ref ref', r.InRoom ref → r.InRoom ref' → (r.heap ref).isLevelingUp = true →
    (r.heap ref').isLevelingUp = true → ref ≠ ref' → ∀ id ∈ r.touched ch ref, id ∉ r.touched ch ref'

theorem NoneShared.alone {ch : TickChoice} (h : r.NoneShared ch) (ht : r.Tidy)
    (hroom : r.InRoom ref) (hlev : (r.heap ref).isLevelingUp = true) :
    r.Alone ref (r.touched ch ref) := by
  refine ⟨hroom, fun ref' hne hroom' id hid hh => ?_⟩
  by_cases hlev' : (r.heap ref').isLevelingUp = true
  · exact h ref ref' hroom hroom' hlev hlev' hne.symm id hid (List.mem_append_left _ hh)
  · -- who is not levelling up holds nothing
    have hempty := (ht.tame ref').idle (by simpa using hlev')
    unfold Holds at hh
    rw [hempty] at hh
    cases hh

theorem NoneShared.congr {ch : TickChoice} (h : r.NoneShared ch)
    (hin : ∀ {ref}, r'.InRoom ref ↔ r.InRoom ref) (hlev : ∀ ref, (r'.heap ref).isLevelingUp = true →
      (r.heap ref).isLevelingUp = true ∧
      r'.touched ch ref ⊆ r.touched ch ref) : r'.NoneShared ch := by
  intro ref ref' hr hr' hl hl' hne id hid hid'
  obtain ⟨hl, hsub⟩ := hlev ref hl
  obtain ⟨hl', hsub'⟩ := hlev ref' hl'
  exact h ref ref' (hin.mp hr) (hin.mp hr') hl hl' hne id (hsub hid) (hsub' hid')

theorem slowed_aura {p : Player} {near : List Int} {s : Scene} (hk : s.objMgr.Keyed) :
    (p.aura near s).1.slowedMonsterIds ⊆ p.slowedMonsterIds ++ near := by
  show Player.Aura.slowed (List.foldl _ _ _) ⊆ _
  set inRange := s.getMonstersInRange near p.x p.y 10 with hrange
  have hreach : (inRange.foldl Player.Aura.reach ⟨s, p.slowedMonsterIds, []⟩).slowed ⊆
      p.slowedMonsterIds ++ near := by
    refine List.foldlRecOn (motive := fun a : Player.Aura => a.slowed ⊆
      p.slowedMonsterIds ++ near) inRange _ (List.subset_append_left _ _) fun a ha m hm => ?_
    unfold Player.Aura.reach
    split
    · exact ha
    · refine List.append_subset.mpr ⟨ha, List.cons_subset.mpr ⟨?_, List.nil_subset _⟩⟩
      exact List.mem_append_right _
        ((Player.inRange_ids hk near _ _ _).subset (List.mem_map_of_mem hm))
  refine List.foldlRecOn (motive := fun a : Player.Aura => a.slowed ⊆
    p.slowedMonsterIds ++ near) _ _ hreach fun a ha id _ => ?_
  unfold Player.Aura.release
  split
  · exact ha
  · split <;> exact List.Subset.trans List.erase_subset ha

/-- A player that still levels up after its turn did so before, and holds no monster that it did not
touch. -/
theorem leveling_updatePlayer (ch : TickChoice) {p : Player} {s : Scene} (hk : s.objMgr.Keyed)
    (h : (updatePlayer data ch p s).1.isLevelingUp = true) : p.isLevelingUp = true ∧
      (updatePlayer data ch p s).1.slowedMonsterIds ⊆ p.slowedMonsterIds ++ ch.near p.id := by
  have hup : (updatePlayer data ch p s).1.isLevelingUp =
      (p.updateLevelUp data (ch.near p.id) s).1.isLevelingUp ∧
      (updatePlayer data ch p s).1.slowedMonsterIds =
        (p.updateLevelUp data (ch.near p.id) s).1.slowedMonsterIds := by
    unfold updatePlayer
    dsimp only
    split <;> exact ⟨rfl, rfl⟩
  rw [hup.1] at h
  rw [hup.2]
  unfold Player.updateLevelUp at h ⊢
  split at h
  · next hlev =>
    rw [if_pos hlev]
    dsimp only at h ⊢
    split at h
    · cases h
    · next hlate =>
      rw [if_neg hlate]
      exact ⟨hlev, slowed_aura hk⟩
  · next hlev =>
    rw [if_neg hlev]
    exact ⟨h, List.subset_append_left _ _⟩

theorem leveling_updateObject (lm : Libm) (data : DataManager) (ch : TickChoice)
    (ht : r.Tidy) (id : Int) (ref : Nat)
    (h : ((updateObject lm data ch r id).heap ref).isLevelingUp = true) :
    (r.heap ref).isLevelingUp = true ∧ (updateObject lm data ch r id).touched ch ref ⊆
      r.touched ch ref := by
  have hsame : ∀ {x : Room}, x.heap ref = r.heap ref → (x.heap ref).isLevelingUp = true →
      (r.heap ref).isLevelingUp = true ∧ x.touched ch ref ⊆ r.touched ch ref := by
    intro x hx hlev
    unfold touched
    rw [hx] at hlev ⊢
    exact ⟨hlev, List.Subset.refl _⟩
  revert h
  unfold updateObject
  split
  · exact hsame rfl
  · next ref₀ _ _ =>
    split
    · exact hsame rfl
    · by_cases heq : ref = ref₀
      · subst heq
        intro h
        have hheap : (r.onPlayer ref (updatePlayer data ch)).heap ref =
            (updatePlayer data ch (r.heap ref) r.toScene).1 := by
          simp only [onPlayer, setPlayer, Function.update_self]
        rw [hheap] at h
        obtain ⟨hlev, hsub⟩ := leveling_updatePlayer data ch ht.keyed h
        refine ⟨hlev, ?_⟩
        unfold touched
        rw [hheap, (reach_updatePlayer data ch ht.keyed (ht.tame ref)).2.2.id]
        exact List.append_subset.mpr ⟨hsub, List.subset_append_right _ _⟩
      · refine hsame ?_
        simp only [onPlayer, setPlayer, Function.update_of_ne heq]
  · split <;> exact hsame rfl
  · split <;> exact hsame rfl
  · exact hsame rfl

theorem reach_emitters (ch : TickChoice) (r : Room) (ref : Nat) :
    Reach Change Quiet (r.onPlayer ref fun p s => p.updateLevelUp data (ch.near p.id) s)
      (r.onPlayer ref (updatePlayer data ch)) := by
  set res := (r.heap ref).updateLevelUp data (ch.near (r.heap ref).id) r.toScene with hres
  show Reach Change Quiet (r.acted ref res.1 res.2)
    (r.acted ref (if res.1.isReady then updateEmitters ch res.1 res.2 else res).1
      (if res.1.isReady then updateEmitters ch res.1 res.2 else res).2)
  split
  · set q := (updateEmitters ch res.1 res.2).1 with hq
    set s := (updateEmitters ch res.1 res.2).2 with hs
    have hfire : Reach Scene.Change Quiet res.2 s :=
      reach_foldl_of_all (fun s => s) (fun s f => Scene.reach_fire _ s f) _ _
    have hscene : Reach Change Quiet (r.acted ref res.1 res.2) (r.acted ref res.1 s) :=
      hfire.lift (fun s => r.acted ref res.1 s) fun t s s' hc =>
        Change.scene (r := r.acted ref res.1 s) hc
    have hheap : (r.acted ref res.1 s).heap ref = res.1 := by rw [acted_heap, if_pos rfl]
    have hplayer : Change .player (r.acted ref res.1 s)
        ((r.acted ref res.1 s).setPlayer ref q) := by
      refine Change.player ?_ ?_ ?_ <;> rw [hheap]
      · exact ⟨rfl, rfl, rfl⟩
      · rfl
      · exact fun hoff => hoff
    have hsame : (r.acted ref res.1 s).setPlayer ref q = r.acted ref q s := by
      simp only [acted, setPlayer, Function.update_idem]
    exact hscene.trans (hsame ▸ Reach.one (by decide) hplayer)
  · exact Reach.refl _

theorem slowsSafe_updateObject (lm : Libm) (data : DataManager) (ch : TickChoice) (ht : r.Tidy)
    (hr : r.SlowsSafe) (hone : r.NoneShared ch) (id : Int)
    (hmax : (updateObject lm data ch r id).objMgr.generated ≤ ObjectManager.maxGenerated) :
    (updateObject lm data ch r id).SlowsSafe := by
  have hbefore : r.objMgr.generated ≤ ObjectManager.maxGenerated :=
    (generated_le_of_reach (reach_updateObject lm data ch ht id)).trans hmax
  revert hmax
  unfold updateObject
  split
  · exact fun _ => hr
  · next ref pid hlook =>
    split
    · exact fun _ => hr
    · intro hmax
      have hroom := (hr.kept.stored id ref pid hlook).1
      have hlevel := slowsSafe_updateLevelUp data ht hr (ch.near (r.heap ref).id)
        (fun hlev => hone.alone ht hroom hlev) hbefore
      exact slowsSafe_of_reach (reach_emitters data ch r ref) Quiet.still hlevel hmax
  · next m hlook =>
    split
    · exact fun _ => hr
    · intro hmax
      have hget : r.getMonster id = some m := ObjectManager.getMonster_eq_some.mpr hlook
      have hput : Reach Scene.Change Quiet r.toScene
          (r.toScene.modMonster id
            (updateMonster ch GameConfig.tickIntervalSec r.totalRunTime)) := by
        rw [Scene.modMonster_of_some hget]
        exact Reach.one (by decide) (.monster hget (updateMonster_id ch _ _ m)
          (Monster.levelUpSlows_update ch _ _ m (hr.unexpired id m hget)))
      exact slowsSafe_of_reach (reach_modScene r hput) Quiet.still hr hmax
  · split
    · exact fun _ => hr
    · intro hmax
      refine slowsSafe_of_reach (reach_modScene r ?_) Quiet.still hr hmax
      exact Scene.reach_modProjectile _ id fun p => update_id lm p _ _
  · exact fun _ => hr

theorem slowsSafe_turned (lm : Libm) (data : DataManager) (ch : TickChoice) (ht : r.Tidy)
    (hr : r.SlowsSafe) (hone : r.NoneShared ch)
    (hmax : (r.turned lm data ch).objMgr.generated ≤ ObjectManager.maxGenerated) :
    (r.turned lm data ch).SlowsSafe := by
  have hloop : ∀ (ids : List Int) (x : Room), x.Tidy → x.NoneShared ch →
      (x.objMgr.generated ≤ ObjectManager.maxGenerated → x.SlowsSafe) →
      (ids.foldl (updateObject lm data ch) x).objMgr.generated ≤ ObjectManager.maxGenerated →
      (ids.foldl (updateObject lm data ch) x).SlowsSafe := by
    intro ids
    induction ids with
    | nil => exact fun x _ _ hx hmax => hx hmax
    | cons id ids ih =>
      intro x htx honex hx hmax
      have hreach := reach_updateObject lm data ch htx id
      refine ih _ (tidy_of_reach htx hreach) ?_ (fun hmax' => ?_) hmax
      · exact honex.congr ((sameIds_of_reach hreach).inRoom (players_of_reach hreach))
          (leveling_updateObject lm data ch htx id)
      · exact slowsSafe_updateObject lm data ch htx
          (hx ((generated_le_of_reach hreach).trans hmax')) honex id hmax'
  exact hloop _ r ht hone (fun _ => hr) hmax

theorem leveling_advance (ch : TickChoice) (r : Room) (ref : Nat) :
    ((r.advance data ch).heap ref).isLevelingUp = (r.heap ref).isLevelingUp ∧
      (r.advance data ch).touched ch ref = r.touched ch ref := by
  refine List.foldlRecOn (motive := fun x : Room =>
    (x.heap ref).isLevelingUp = (r.heap ref).isLevelingUp ∧ x.touched ch ref = r.touched ch ref)
    ch.dots _ ⟨rfl, rfl⟩ fun x hx d _ => ?_
  unfold dot
  split
  · next ref₀ _ _ =>
    unfold touched at hx ⊢
    simp only [modPlayer, setPlayer, Function.update_apply]
    split
    · next heq =>
      obtain ⟨hid, -, hslowed, hlev⟩ := takeDamage_kept (x.heap ref₀) d.2 x.totalRunTime
      rw [hid, hslowed, hlev, ← heq]
      exact hx
    · exact hx
  · exact hx
  · exact hx

theorem slowsKept_update (lm : Libm) (data : DataManager) (ch : TickChoice) (ht : r.Tidy)
    (hr : r.SlowsKept) (hone : r.NoneShared ch) (hunexpired : (r.prepared data ch).Unexpired)
    (hactive : r.inactive = false)
    (hmax : (r.executeUpdate lm data ch).1.objMgr.generated ≤ ObjectManager.maxGenerated) :
    (r.executeUpdate lm data ch).1.SlowsKept := by
  have hprep : (r.prepared data ch).Tidy := ⟨ht.keyed, ht.tame⟩
  have hadvance := reach_advance data ch r
  have htidy := tidy_of_reach hprep hadvance
  have hturned := reach_turned lm data ch htidy
  have hrest := reach_rest lm data ch hactive
  have hmaxT := (generated_le_of_reach hrest).trans hmax
  have hmaxA := (generated_le_of_reach hturned).trans hmaxT
  have hkept : (r.prepared data ch).SlowsKept :=
    ⟨hr.issued, hr.past, hr.holder, hr.single, hr.slowed, hr.stored⟩
  have hsafe := slowsSafe_of_reach hadvance Calm.still ⟨hkept, hunexpired⟩ hmaxA
  have honeA : (r.advance data ch).NoneShared ch := by
    refine hone.congr (fun {ref} => ?_) fun ref hlev => ?_
    · exact (sameIds_of_reach hadvance).inRoom (players_of_reach hadvance)
    · obtain ⟨hsame, htouched⟩ := leveling_advance data ch r ref
      exact ⟨hsame ▸ hlev, htouched ▸ List.Subset.refl _⟩
  have hobjects := slowsSafe_turned lm data ch htidy hsafe honeA hmaxT
  exact slowsKept_of_reach hrest (fun _ h => h) hobjects.kept hmax

end Room

end ToyServer.SimpleGame
