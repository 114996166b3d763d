import ToyServer.Game.RoomChanges

/-!
# Who is in the room

What holds of the players of a room in every run, whatever happens: a player object keeps its ids,
stands in `_players` under its own session, and enters only through the task that its join has
posted.
-/

namespace ToyServer.SimpleGame

variable {lm : Libm} {data : DataManager}

open Chain

namespace Room

def Filed (r : Room) : Prop :=
  ∀ sid ref, r.players.lookup sid = some ref → (r.heap ref).sessionId = sid

theorem SameIds.inRoom {r r' : Room} (hids : SameIds r r')
    (hpl : r'.players = r.players) {ref : Nat} : r'.InRoom ref ↔ r.InRoom ref := by
  unfold InRoom
  rw [hpl, (hids ref).2]

/-! ## Tasks keep ids -/

theorem sameIds_startGame (data : DataManager) (r : Room) :
    SameIds r (r.executeStartGame data) := by
  intro ref
  rw [(startGame_same data r).1]
  exact ⟨rfl, rfl⟩

theorem sameIds_left (r : Room) (sid ref : Nat) : SameIds r (r.left sid ref) :=
  SameIds.setPlayer (r := r) (p := { r.heap ref with currentRoomId := 0 }) rfl rfl

theorem sameIds_readied (data : DataManager) (r : Room) (ref : Nat) :
    SameIds r (r.readied data ref) :=
  (SameIds.setPlayer (r := r) (p := { r.heap ref with isReady := true }) rfl rfl).trans
    (sameIds_startGame data _)

variable {ch : TickChoice} {res : Room × Effects}

variable {r : Room} {task : Task}

theorem Ran.sameIds (h : Ran lm data ch r task res) (ht : r.Tidy) : SameIds r res.1 := by
  cases h with
  | quiet _ hreach => exact sameIds_of_reach hreach
  | mild hreach => exact sameIds_of_reach hreach
  | select => exact sameIds_of_reach (reach_selectLevelUp data r _ _)
  | @enter ref _ _ _ hreach =>
    have hin : SameIds { r with players := r.players.insert (r.heap ref).sessionId ref } _ :=
      sameIds_of_reach hreach
    exact hin
  | loaded hreach => exact sameIds_of_reach hreach
  | start => exact sameIds_startGame data r
  | tick hact =>
    -- the clock and the waves are not in the heap
    have htick : SameIds (r.prepared data ch) _ := sameIds_of_reach (reach_tick lm data ch ht hact)
    exact htick
  | left => exact sameIds_left r _ _
  | @last sid ref => exact sameIds_left r sid ref
  | ready => exact sameIds_readied data r _
  | _ => exact SameIds.refl r

/-! ## Tasks and `_players` -/

theorem Ran.players
    (h : Ran lm data ch r task res) (ht : r.Tidy) {sid ref : Nat}
    (hl : res.1.players.lookup sid = some ref) :
    r.players.lookup sid = some ref ∨ (task = .enter ref ∧ sid = (r.heap ref).sessionId) := by
  have hsub : ∀ {sid'}, (r.players.erase sid').lookup sid = some ref →
      r.players.lookup sid = some ref :=
    fun h => (Table.of_lookup_erase h).2
  cases h with
  | quiet _ hreach => exact .inl (players_of_reach hreach ▸ hl)
  | mild hreach => exact .inl (players_of_reach hreach ▸ hl)
  | select => exact .inl (players_of_reach (reach_selectLevelUp data r _ _) ▸ hl)
  | enter hreach =>
    rw [players_of_reach hreach] at hl
    rcases Table.of_lookup_insert hl with ⟨heq, rfl⟩ | ⟨-, hold⟩
    · exact .inr ⟨rfl, heq⟩
    · exact .inl hold
  | loaded hreach => exact .inl (players_of_reach hreach ▸ hl)
  | start => exact .inl ((startGame_same data r).2.1 ▸ hl)
  | tick hact => exact .inl (players_of_reach (reach_tick lm data ch ht hact) ▸ hl)
  | left => exact .inl (hsub hl)
  | last => exact .inl (hsub hl)
  | stop => cases hl
  | @ready sid' ref' =>
    have hpl : (r.readied data ref').players = r.players := (startGame_same data _).2.1
    exact .inl (hpl ▸ hl)
  | _ => exact .inl hl

theorem Ran.filed (h : Ran lm data ch r task res) (ht : r.Tidy) (hf : r.Filed) : res.1.Filed := by
  intro sid ref hl
  rw [(h.sameIds ht ref).2]
  rcases h.players ht hl with hl | ⟨-, hsid⟩
  · exact hf sid ref hl
  · exact hsid.symm

theorem Ran.enter_not_posted (h : Ran lm data ch r task res) (ref : Nat) :
    .enter ref ∉ res.2.posted := by
  intro hmem
  cases h with
  | enter _ hposted => cases hposted _ hmem
  | loaded _ hposted => cases hposted _ hmem
  | tick => cases (List.mem_replicate.mp hmem).2
  | _ => cases hmem

end Room

/-! ## Runs -/

namespace Arena

/-- Player objects in the room or about to enter have been made. -/
structure Enrolled (s : Arena) : Prop where
  tidy : s.room.Tidy
  filed : s.room.Filed
  made : ∀ sid ref, s.room.players.lookup sid = some ref → ref < s.made
  entering : ∀ ref, .enter ref ∈ s.queue → ref < s.made

theorem enrolled_make (roomId : Int) (hasUserDB : Bool) : (make roomId hasUserDB).Enrolled := by
  refine ⟨tidy_make roomId hasUserDB, ?_, ?_, ?_⟩
  · intro sid ref hl
    cases hl
  · intro sid ref hl
    cases hl
  · intro ref hq
    cases hq

theorem Enrolled.heap_join {s : Arena} (h : s.Enrolled) {sid ref : Nat}
    (hl : s.room.players.lookup sid = some ref) (p : Player) :
    (s.room.setPlayer s.made p).heap ref = s.room.heap ref :=
  Function.update_of_ne (Nat.ne_of_lt (h.made sid ref hl)) _ _

theorem Enrolled.step {s s' : Arena} {a : ArenaAction} (h : s.Enrolled)
    (hs : Step lm data s a s') : s'.Enrolled := by
  have htidy := tidy_step h.tidy hs
  have happend : ∀ {task : Task}, (∀ ref, task ≠ .enter ref) → ∀ ref, .enter ref ∈
      s.queue ++ [task] → ref < s.made := by
    intro task hne ref hq
    rcases Runs.mem_concat.mp hq with hq | hq
    · exact h.entering ref hq
    · exact absurd hq.symm (hne ref)
  cases hs with
  | join sessionId =>
    refine ⟨htidy, fun sid ref hl => ?_,
      fun sid ref hl => (h.made sid ref hl).trans (Nat.lt_succ_self _), ?_⟩
    · rw [h.heap_join hl]
      exact h.filed sid ref hl
    · intro ref hq
      rcases Runs.mem_concat.mp hq with hq | hq
      · exact (h.entering ref hq).trans (Nat.lt_succ_self _)
      · cases hq
        exact Nat.lt_succ_self _
  | post task hext =>
    refine ⟨htidy, h.filed, h.made, happend fun ref heq => ?_⟩
    rw [heq] at hext
    cases hext
  | stop =>
    refine ⟨htidy, h.filed, h.made, happend fun ref heq => ?_⟩
    cases heq
  | stopped => exact h
  | loaded i skills ref =>
    refine ⟨htidy, h.filed, h.made, happend fun ref heq => ?_⟩
    cases heq
  | command ch ref c =>
    have hreach := Room.reach_command lm data ch s.room ref c
    have hpl := Room.players_of_reach hreach
    refine ⟨htidy, fun sid ref hl => ?_, fun sid ref hl => h.made sid ref (hpl ▸ hl), h.entering⟩
    rw [(Room.sameIds_of_reach hreach ref).2]
    exact h.filed sid ref (hpl ▸ hl)
  | run ch task rest res hq hran =>
    refine ⟨htidy, hran.filed h.tidy h.filed, ?_, ?_⟩
    · intro sid ref hl
      rcases hran.players h.tidy hl with hl | ⟨rfl, -⟩
      · exact h.made sid ref hl
      · exact h.entering ref (hq ▸ List.mem_cons_self)
    · intro ref hmem
      rcases List.mem_append.mp hmem with hmem | hmem
      · exact h.entering ref (hq ▸ List.mem_cons_of_mem _ hmem)
      · exact absurd hmem (hran.enter_not_posted ref)

end Arena

end ToyServer.SimpleGame
