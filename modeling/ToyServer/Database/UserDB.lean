import ToyServer.Database.Transaction

/-!
# `UserDB`: points and skills of a user

`UnlockSkill` reads the points, and only then begins the transaction that spends them;
`AddUserPoints` is one statement.  The calls are interleaved statement by statement, each on the
pooled connection it has got; any statement may fail.  The rows of the user are what the committed
writes make of them.

Two callers that both read before either commits spend the same points (`overdraft`).  And since the
driver clears its flag after a failed `ROLLBACK`, the next caller of that connection writes into a
transaction that nobody commits.  `points_accounting`: the books balance when neither happens
(`Undisturbed`).
-/

namespace ToyServer

open RefCount Runs

/-! ## The rows -/

inductive UserWrite where
  /-- `INSERT INTO user_game_data ... ON CONFLICT DO UPDATE SET points = points + amount` -/
  | addPoints (amount : Nat)
  /-- `UPDATE user_game_data SET points = points - cost` -/
  | spend (cost : Nat)
  /-- `INSERT INTO user_skills ... ON CONFLICT DO UPDATE SET level = level + 1` -/
  | levelUp (skill : Nat)
deriving DecidableEq, Repr

/-- The row of `user_game_data` and those of `user_skills`; `none` where there is no row. -/
structure UserData where
  points : Option Int
  level : Nat → Option Nat

namespace UserData

def empty : UserData := ⟨none, fun _ => none⟩

def apply (d : UserData) : UserWrite → UserData
  | .addPoints n => { d with points := some (d.points.getD 0 + n) }
  -- without a row the statement succeeds and changes nothing
  | .spend n => { d with points := d.points.map (· - (n : Int)) }
  | .levelUp k => { d with level := Function.update d.level k (some ((d.level k).getD 0 + 1)) }

end UserData

/-- `IResultSet::GetInt` of a 64 bit column. -/
def getInt (p : Int) : Int := p.bmod (2 ^ 32)

/-! ## The calls -/

abbrev UserConn := SQLiteConnection UserWrite

/-- Where `UnlockSkill` is, with its connection. -/
inductive UnlockPc where
  | query (c : UserConn)
  | beginTx (c : UserConn)
  | spend (c : UserConn)
  | levelUp (c : UserConn)
  | commit (c : UserConn)
  /-- `tx` goes out of scope -/
  | destroy (c : UserConn) (committed : Bool)
  /-- the result goes to the callback, the connection goes back -/
  | release (c : UserConn) (result : Bool)
  | returned (result : Bool)
deriving DecidableEq, Repr

inductive AddPc where
  | execute (c : UserConn)
  | release (c : UserConn) (result : Bool)
  | returned (result : Bool)
deriving DecidableEq, Repr

inductive UserCall where
  | unlock (skill cost : Nat) (pc : UnlockPc)
  | add (amount : Nat) (pc : AddPc)
deriving DecidableEq, Repr

structure UserDB where
  /-- the committed writes -/
  log : List UserWrite
  idle : List UserConn
  calls : List UserCall
deriving DecidableEq, Repr

inductive ConnSource where
  | timeout
  | idle (n : Nat)
  | new
deriving DecidableEq, Repr

inductive UserAction where
  | unlockSkill (skill cost : Nat) (src : ConnSource)
  | addUserPoints (amount : Nat) (src : ConnSource)
  /-- the next statement of call `j`; `alloc` is false if `make_unique` throws -/
  | act (j : Nat) (reply : SqlReply) (alloc : Bool)
deriving DecidableEq, Repr

namespace UserDB

def init : UserDB := ⟨[], [], []⟩

variable (s : UserDB)

/-- The rows as the other connections see them. -/
def rows : UserData := s.log.foldl UserData.apply .empty

/-- The rows as a statement on `c` sees them. -/
def view (c : UserConn) : UserData :=
  match c.txn with
  | none => s.rows
  | some t => t.writes.foldl UserData.apply s.rows

def getUserPointsSync (c : UserConn) : SqlReply → Int
  | some _ => 0
  | none =>
    match (s.view c).points with
    | none => 0
    | some p => getInt p

def acquire : ConnSource → Option (Option UserConn × UserDB)
  | .timeout => some (none, s)
  | .new => some (some .fresh, s)
  | .idle n =>
    match s.idle[n]? with
    | none => none
    | some c => some (some c, { s with idle := s.idle.eraseIdx n })

/-- One step of `UnlockSkill`: where it goes, what is committed, and the connection it gives
back. -/
def unlockStep (skill cost : Nat) (reply : SqlReply) (alloc : Bool) :
    UnlockPc → Option (UnlockPc × List UserWrite × List UserConn)
  | .query c =>
    some (if s.getUserPointsSync c reply < cost then .release c false else .beginTx c, [], [])
  | .beginTx c =>
    let r := c.beginTransaction 0 reply
    some (if r.1.isOk && alloc then .spend r.2 else .release r.2 false, [], [])
  | .spend c =>
    let r := c.execute (.spend cost) reply
    some (if r.1.isOk then .levelUp r.2.1 else .destroy r.2.1 false, r.2.2, [])
  | .levelUp c =>
    let r := c.execute (.levelUp skill) reply
    some (if r.1.isOk then .commit r.2.1 else .destroy r.2.1 false, r.2.2, [])
  | .commit c =>
    let r := TransactionWrapper.commit false c reply
    some (.destroy r.2.1 r.1.isOk, r.2.2, [])
  | .destroy c committed =>
    some (.release (TransactionWrapper.destroy committed c reply) committed, [], [])
  | .release c result => some (.returned result, [], [c.resetState reply])
  | .returned _ => none

def addStep (amount : Nat) (reply : SqlReply) :
    AddPc → Option (AddPc × List UserWrite × List UserConn)
  | .execute c =>
    let r := c.execute (.addPoints amount) reply
    some (.release r.2.1 r.1.isOk, r.2.2, [])
  | .release c result => some (.returned result, [], [c.resetState reply])
  | .returned _ => none

def callStep (reply : SqlReply) (alloc : Bool) :
    UserCall → Option (UserCall × List UserWrite × List UserConn)
  | .unlock skill cost pc =>
    match s.unlockStep skill cost reply alloc pc with
    | none => none
    | some (pc', ws, cs) => some (.unlock skill cost pc', ws, cs)
  | .add amount pc =>
    match addStep amount reply pc with
    | none => none
    | some (pc', ws, cs) => some (.add amount pc', ws, cs)

def step : UserAction → Option UserDB
  | .unlockSkill skill cost src =>
    match s.acquire src with
    | none => none
    | some (none, s') => some { s' with calls := s.calls ++ [.unlock skill cost (.returned false)] }
    | some (some c, s') => some { s' with calls := s.calls ++ [.unlock skill cost (.query c)] }
  | .addUserPoints amount src =>
    match s.acquire src with
    | none => none
    | some (none, s') => some { s' with calls := s.calls ++ [.add amount (.returned false)] }
    | some (some c, s') => some { s' with calls := s.calls ++ [.add amount (.execute c)] }
  | .act j reply alloc =>
    match s.calls[j]? with
    | none => none
    | some call =>
      match s.callStep reply alloc call with
      | none => none
      | some (call', ws, cs) =>
        some { log := s.log ++ ws, idle := s.idle ++ cs, calls := s.calls.set j call' }

end UserDB

namespace UserCall

/-- The points that an `AddUserPoints` which succeeded has added. -/
def added : UserCall → Nat
  | .add amount (.release _ true) | .add amount (.returned true) => amount
  | _ => 0

/-- The cost of an `UnlockSkill` that succeeded. -/
def spent : UserCall → Nat
  | .unlock _ cost (.destroy _ true) | .unlock _ cost (.release _ true)
  | .unlock _ cost (.returned true) => cost
  | _ => 0

/-- One if it is an `UnlockSkill` of this skill that succeeded. -/
def raised (skill : Nat) : UserCall → Nat
  | .unlock k _ (.destroy _ true) | .unlock k _ (.release _ true) | .unlock k _ (.returned true) =>
    if k = skill then 1 else 0
  | _ => 0

/-- The cost of an `UnlockSkill` that has passed its check and has not tried to commit. -/
def claim : UserCall → Option Nat
  | .unlock _ cost (.beginTx _) | .unlock _ cost (.spend _) | .unlock _ cost (.levelUp _)
  | .unlock _ cost (.commit _) => some cost
  | _ => none

/-- A `ROLLBACK` is next, if there is something to roll back. -/
def rollsBack : UserCall → Bool
  | .unlock _ _ (.destroy _ _) | .unlock _ _ (.release _ _) => true
  | _ => false

/-- The cost that a successful `COMMIT`, which is next, spends. -/
def commits : UserCall → Option Nat
  | .unlock _ cost (.commit _) => some cost
  | _ => none

end UserCall

namespace UserDB

variable (s : UserDB)

def points : Int := s.rows.points.getD 0

def level (skill : Nat) : Nat := (s.rows.level skill).getD 0

/-- `ROLLBACK` succeeds, and whenever an `UnlockSkill` commits, the others that have passed their
check can still pay from what is left. -/
def Undisturbed : UserAction → Prop
  | .act j reply _ => ∀ call ∈ s.calls[j]?,
      (call.rollsBack = true → reply = none) ∧
      ∀ cost ∈ call.commits, ∀ other ∈ s.calls.eraseIdx j, ∀ n ∈ other.claim,
      (n : Int) + cost ≤ s.points
  | .unlockSkill _ _ _ | .addUserPoints _ _ => True

instance  : ∀ a, Decidable (s.Undisturbed a)
  | .act _ _ _ => inferInstanceAs (Decidable (∀ _ ∈ _, _))
  | .unlockSkill _ _ _ | .addUserPoints _ _ => inferInstanceAs (Decidable True)

/-- The totals over all calls. -/
def added : Nat := tally UserCall.added s.calls

def spent : Nat := tally UserCall.spent s.calls

def raised (skill : Nat) : Nat := tally (UserCall.raised skill) s.calls

end UserDB

/-! ## The effect of the writes -/

namespace UserData

variable {d : UserData}

theorem points_addPoints (d : UserData) (n : Nat) :
    (d.apply (.addPoints n)).points.getD 0 = d.points.getD 0 + n := rfl

theorem points_spend {n : Nat} (h : (n : Int) ≤ d.points.getD 0) :
    (d.apply (.spend n)).points.getD 0 = d.points.getD 0 - n := by
  cases hp : d.points with
  | some p => simp [apply, hp]
  | none =>
    -- no row: the check has let only a cost of zero through
    simp only [hp, Option.getD_none] at h ⊢
    simp only [apply, hp, Option.map_none, Option.getD_none]
    omega

theorem level_levelUp (d : UserData) (k skill : Nat) :
    ((d.apply (.levelUp k)).level skill).getD 0 = (d.level skill).getD 0 + if k = skill then
      1 else 0 := by
  by_cases h : skill = k
  · subst h
    simp [apply]
  · have h' : ¬ k = skill := fun he => h he.symm
    simp [apply, Function.update_of_ne h, h']

end UserData

theorem getInt_le {p : Int} (h : 0 ≤ p) : getInt p ≤ p := by
  unfold getInt
  rw [Int.bmod_def]
  split <;> omega

/-! ## The invariant -/

/-- The connection of a call, as far as the call has come. -/
def UnlockPc.Sound (skill cost : Nat) : UnlockPc → Prop
  | .query c | .beginTx c => c = .fresh
  | .spend c => ∃ id, c = ⟨true, some ⟨id, []⟩⟩
  | .levelUp c => ∃ id, c = ⟨true, some ⟨id, [.spend cost]⟩⟩
  | .commit c => ∃ id, c = ⟨true, some ⟨id, [.spend cost, .levelUp skill]⟩⟩
  | .destroy c _ | .release c _ => c.inTransaction = c.txn.isSome
  | .returned _ => True

def AddPc.Sound : AddPc → Prop
  | .execute c | .release c _ => c = .fresh
  | .returned _ => True

variable {ws : List UserWrite}

def UserCall.Sound : UserCall → Prop
  | .unlock skill cost pc => pc.Sound skill cost
  | .add _ pc => pc.Sound

namespace UserDB

variable {s s' : UserDB} {a : UserAction}

/-- Idle connections have nothing open, the calls' connections are as the calls left them, the books
balance, and whoever has passed the check can pay. -/
structure Balanced (s : UserDB) : Prop where
  idle : ∀ c ∈ s.idle, c = .fresh
  sound : ∀ call ∈ s.calls, call.Sound
  books : (s.added : Int) = s.points + s.spent
  levels : ∀ skill, s.level skill = s.raised skill
  covered : ∀ call ∈ s.calls, ∀ n ∈ call.claim, (n : Int) ≤ s.points
  nonneg : 0 ≤ s.points

theorem rows_append (hl : s'.log = s.log ++ ws) : s'.rows = ws.foldl UserData.apply s.rows := by
  simp [rows, hl]

theorem getUserPointsSync_le (h : 0 ≤ s.points) (reply : SqlReply) :
    s.getUserPointsSync .fresh reply ≤ s.points := by
  cases reply with
  | some msg => exact h
  | none =>
    simp only [getUserPointsSync, view, SQLiteConnection.fresh]
    unfold points at h ⊢
    cases hp : s.rows.points with
    | none => simp
    | some p =>
      rw [hp] at h
      exact getInt_le h

end UserDB

/-- What a statement of a call means for the books. -/
inductive UserMove (s : UserDB) : UserCall → UserCall → List UserWrite → Prop
  | quiet {call call' : UserCall} (hadded : call'.added = call.added)
      (hspent : call'.spent = call.spent) (hraised : ∀ k, call'.raised k = call.raised k)
      (hclaim : ∀ n ∈ call'.claim, n ∈ call.claim ∨ (n : Int) ≤ s.points) : UserMove s call call' []
  | added {amount : Nat} {pc pc' : AddPc} (hold : (UserCall.add amount pc).added = 0)
      (hnew : (UserCall.add amount pc').added = amount) :
      UserMove s (.add amount pc) (.add amount pc') [.addPoints amount]
  | committed {skill cost : Nat} {c c' : UserConn} :
      UserMove s (.unlock skill cost (.commit c)) (.unlock skill cost (.destroy c' true))
      [.spend cost, .levelUp skill]

namespace UserDB

variable {s s' : UserDB} {a : UserAction} {reply : SqlReply}

theorem quiet_unlock {skill cost : Nat} {pc pc' : UnlockPc}
    (hspent : (UserCall.unlock skill cost pc').spent = (UserCall.unlock skill cost pc).spent)
    (hraised : ∀ k, (UserCall.unlock skill cost pc').raised k =
      (UserCall.unlock skill cost pc).raised k)
    (hclaim : ∀ n ∈ (UserCall.unlock skill cost pc').claim,
      n ∈ (UserCall.unlock skill cost pc).claim ∨ (n : Int) ≤ s.points) :
    UserMove s (.unlock skill cost pc) (.unlock skill cost pc') [] :=
  .quiet rfl hspent hraised hclaim

variable {cs : List UserConn} {call : UserCall}

theorem unlockStep_move (hb : 0 ≤ s.points) {skill cost : Nat} {alloc : Bool} {pc pc' : UnlockPc}
    (hsound : pc.Sound skill cost)
    (hroll : (UserCall.unlock skill cost pc).rollsBack = true → reply = none)
    (h : s.unlockStep skill cost reply alloc pc = some (pc', ws, cs)) :
    pc'.Sound skill cost ∧ (∀ c ∈ cs, c = .fresh) ∧
    UserMove s (.unlock skill cost pc) (.unlock skill cost pc') ws := by
  cases pc with
  | query c =>
    cases h
    obtain rfl : c = .fresh := hsound
    have hle := getUserPointsSync_le hb reply
    by_cases hlt : s.getUserPointsSync .fresh reply < cost
    · rw [if_pos hlt]
      exact ⟨rfl, by simp, quiet_unlock rfl (fun _ => rfl) (by simp [UserCall.claim])⟩
    · rw [if_neg hlt]
      refine ⟨rfl, by simp, quiet_unlock rfl (fun _ => rfl) ?_⟩
      intro n hn
      cases hn
      exact .inr (by omega)
  | beginTx c =>
    cases h
    obtain rfl : c = .fresh := hsound
    obtain ⟨st, hst, hr⟩ | ⟨-, -, hr⟩ :=
      SQLiteConnection.beginTransaction_cases (.fresh : UserConn) 0 reply
    · simp only [hr, hst, Bool.false_and, Bool.false_eq_true, if_false]
      exact ⟨rfl, by simp, quiet_unlock rfl (fun _ => rfl) (by simp [UserCall.claim])⟩
    · cases alloc with
      | true =>
        simp only [hr, DbStatus.isOk_success, Bool.and_self, if_true]
        exact ⟨⟨0, rfl⟩, by simp, quiet_unlock rfl (fun _ => rfl) fun n hn => .inl hn⟩
      | false =>
        simp only [hr, Bool.and_false, Bool.false_eq_true, if_false]
        exact ⟨rfl, by simp, quiet_unlock rfl (fun _ => rfl) (by simp [UserCall.claim])⟩
  | spend c =>
    cases h
    obtain ⟨id, rfl⟩ := hsound
    cases reply with
    | some msg =>
      exact ⟨rfl, by simp,
        quiet_unlock rfl (fun _ => rfl) (by simp [UserCall.claim, SQLiteConnection.execute])⟩
    | none => exact ⟨⟨id, rfl⟩, by simp, quiet_unlock rfl (fun _ => rfl) fun n hn => .inl hn⟩
  | levelUp c =>
    cases h
    obtain ⟨id, rfl⟩ := hsound
    cases reply with
    | some msg =>
      exact ⟨rfl, by simp,
        quiet_unlock rfl (fun _ => rfl) (by simp [UserCall.claim, SQLiteConnection.execute])⟩
    | none => exact ⟨⟨id, rfl⟩, by simp, quiet_unlock rfl (fun _ => rfl) fun n hn => .inl hn⟩
  | commit c =>
    cases h
    obtain ⟨id, rfl⟩ := hsound
    cases reply with
    | some msg => exact ⟨rfl, by simp, quiet_unlock rfl (fun _ => rfl) (by simp [UserCall.claim])⟩
    | none => exact ⟨rfl, by simp, .committed⟩
  | destroy c committed =>
    cases h
    obtain rfl : reply = none := hroll rfl
    cases committed with
    | true => exact ⟨hsound, by simp, quiet_unlock rfl (fun _ => rfl) (by simp [UserCall.claim])⟩
    | false =>
      have hfresh : TransactionWrapper.destroy false c none = .fresh :=
        SQLiteConnection.rollback_none hsound
      rw [hfresh]
      exact ⟨rfl, by simp, quiet_unlock rfl (fun _ => rfl) (by simp [UserCall.claim])⟩
  | release c result =>
    cases h
    obtain rfl : reply = none := hroll rfl
    refine ⟨trivial, ?_, ?_⟩
    · intro c' hc'
      rw [List.mem_singleton.mp hc']
      exact SQLiteConnection.resetState_none hsound
    · cases result with
      | true => exact quiet_unlock rfl (fun _ => rfl) (by simp [UserCall.claim])
      | false => exact quiet_unlock rfl (fun _ => rfl) (by simp [UserCall.claim])
  | returned result => cases h

theorem addStep_move {amount : Nat} {pc pc' : AddPc} (hsound : pc.Sound)
    (h : addStep amount reply pc = some (pc', ws, cs)) :
    pc'.Sound ∧ (∀ c ∈ cs, c = .fresh) ∧ UserMove s (.add amount pc) (.add amount pc') ws := by
  cases pc with
  | execute c =>
    cases h
    obtain rfl : c = .fresh := hsound
    cases reply with
    | some msg => exact ⟨rfl, by simp, .quiet rfl rfl (fun _ => rfl) (by simp [UserCall.claim])⟩
    | none => exact ⟨rfl, by simp, .added rfl rfl⟩
  | release c result =>
    cases h
    obtain rfl : c = .fresh := hsound
    refine ⟨trivial, ?_, ?_⟩
    · intro c' hc'
      rw [List.mem_singleton.mp hc']
      rfl
    · cases result with
      | true => exact .quiet rfl rfl (fun _ => rfl) (by simp [UserCall.claim])
      | false => exact .quiet rfl rfl (fun _ => rfl) (by simp [UserCall.claim])
  | returned result => cases h

/-- Each write of a call is one of the moves. -/
theorem callStep_move (hb : 0 ≤ s.points) {alloc : Bool} {call' : UserCall} (hsound : call.Sound)
    (hroll : call.rollsBack = true → reply = none)
    (h : s.callStep reply alloc call = some (call', ws, cs)) :
    call'.Sound ∧ (∀ c ∈ cs, c = .fresh) ∧ UserMove s call call' ws := by
  cases call with
  | unlock skill cost pc =>
    simp only [callStep] at h
    cases hu : s.unlockStep skill cost reply alloc pc with
    | none => simp [hu] at h
    | some r =>
      obtain ⟨pc', ws', cs'⟩ := r
      rw [hu] at h
      cases h
      exact unlockStep_move hb hsound hroll hu
  | add amount pc =>
    simp only [callStep] at h
    cases hu : addStep amount reply pc with
    | none => simp [hu] at h
    | some r =>
      obtain ⟨pc', ws', cs'⟩ := r
      rw [hu] at h
      cases h
      exact addStep_move hsound hu

theorem mem_set_or_eraseIdx {α : Type} {l : List α} {j : Nat} {x y : α} (h : y ∈ l.set j x) :
    y = x ∨ y ∈ l.eraseIdx j := by
  obtain ⟨i, hi⟩ := List.mem_iff_getElem?.mp h
  rw [List.getElem?_set] at hi
  split at hi
  · split at hi
    · exact .inl (Option.some.inj hi).symm
    · cases hi
  · rename_i hne
    exact .inr (List.mem_eraseIdx_iff_getElem?.mpr ⟨i, fun he => hne he.symm, hi⟩)

section

variable (hb : s.Balanced)
include hb

/-- Call `j` moves on: the books balance again if the rows have changed by what the call has added,
spent and raised, and all who have passed the check can still pay. -/
theorem balanced_update {j : Nat} {call' : UserCall}
    (hj : s.calls[j]? = some call) (hidle : s'.idle = s.idle ++ cs)
    (hcalls : s'.calls = s.calls.set j call') (hsound : call'.Sound) (hcs : ∀ c ∈ cs, c = .fresh)
    (hpoints : s'.points + call'.spent + call.added = s.points + call'.added + call.spent)
    (hlevels : ∀ k, s'.level k + call.raised k = s.level k + call'.raised k)
    (hown : ∀ n ∈ call'.claim, (n : Int) ≤ s'.points)
    (hothers : ∀ other ∈ s.calls.eraseIdx j, ∀ n ∈ other.claim, (n : Int) ≤ s'.points)
    (hnn : 0 ≤ s'.points) : s'.Balanced := by
  have hadded := tally_set UserCall.added hj call'
  have hspent := tally_set UserCall.spent hj call'
  have hbooks := hb.books
  unfold added spent at hbooks
  refine ⟨?_, ?_, ?_, ?_, ?_, hnn⟩
  · intro c hc
    rw [hidle] at hc
    obtain h | h := List.mem_append.mp hc
    · exact hb.idle c h
    · exact hcs c h
  · intro other hother
    rw [hcalls] at hother
    obtain rfl | h := mem_set_or_eraseIdx hother
    · exact hsound
    · exact hb.sound other (List.mem_of_mem_eraseIdx h)
  · unfold added spent
    rw [hcalls]
    omega
  · intro k
    have hraised := tally_set (UserCall.raised k) hj call'
    have hbefore := hb.levels k
    have hafter := hlevels k
    unfold raised at hbefore ⊢
    rw [hcalls]
    omega
  · intro other hother n hn
    rw [hcalls] at hother
    obtain rfl | h := mem_set_or_eraseIdx hother
    · exact hown n hn
    · exact hothers other h n hn

theorem balanced_move {j : Nat} {call' : UserCall}
    (hj : s.calls[j]? = some call) (hsound : call'.Sound) (hcs : ∀ c ∈ cs, c = .fresh)
    (hm : UserMove s call call' ws)
    (hothers : ∀ cost ∈ call.commits, ∀ other ∈ s.calls.eraseIdx j, ∀ n ∈ other.claim,
      (n : Int) + cost ≤ s.points) :
    ({ log := s.log ++ ws, idle := s.idle ++ cs,
       calls := s.calls.set j call' } : UserDB).Balanced := by
  have hmem : call ∈ s.calls := List.mem_of_getElem? hj
  have hcovered : ∀ other ∈ s.calls.eraseIdx j, ∀ n ∈ other.claim, (n : Int) ≤ s.points :=
    fun other h =>
    hb.covered other (List.mem_of_mem_eraseIdx h)
  have hnn := hb.nonneg
  have hrows : (⟨s.log ++ ws, s.idle ++ cs, s.calls.set j call'⟩ : UserDB).rows =
      ws.foldl UserData.apply s.rows :=
    rows_append rfl
  cases hm with
  | quiet hadded hspent hraised hclaim =>
    have hpoints :
        (⟨s.log ++ [], s.idle ++ cs, s.calls.set j call'⟩ : UserDB).points = s.points := by
      unfold points
      rw [hrows]
      rfl
    have hlevel (k : Nat) :
        (⟨s.log ++ [], s.idle ++ cs, s.calls.set j call'⟩ : UserDB).level k = s.level k := by
      unfold level
      rw [hrows]
      rfl
    refine balanced_update hb hj rfl rfl hsound hcs ?_ (fun k => ?_) (fun n hn => ?_) ?_
      (hpoints ▸ hnn)
    · rw [hpoints, hadded, hspent]
      omega
    · rw [hlevel, hraised]
    · rw [hpoints]
      obtain h | h := hclaim n hn
      · exact hb.covered call hmem n h
      · exact h
    · rw [hpoints]
      exact hcovered
  | @added amount pc pc' hold hnew =>
    have hpoints :
        (⟨s.log ++ [.addPoints amount], s.idle ++ cs,
          s.calls.set j (.add amount pc')⟩ : UserDB).points =
        s.points + amount := by
      unfold points
      rw [hrows]
      exact UserData.points_addPoints s.rows amount
    have hlevel (k : Nat) :
        (⟨s.log ++ [.addPoints amount], s.idle ++ cs,
          s.calls.set j (.add amount pc')⟩ : UserDB).level k = s.level k := by
      unfold level
      rw [hrows]
      rfl
    refine balanced_update hb hj rfl rfl hsound hcs ?_ (fun k => ?_) (fun n hn => ?_)
      (fun other h n hn => ?_) ?_
    · rw [hpoints, hold, hnew]
      simp only [UserCall.spent]
      omega
    · rw [hlevel]
      rfl
    · cases hn
    · have := hcovered other h n hn
      omega
    · omega
  | @committed skill cost c c' =>
    have hpay : (cost : Int) ≤ s.points := hb.covered _ hmem cost rfl
    have hpoints : (⟨s.log ++ [.spend cost, .levelUp skill], s.idle ++ cs,
        s.calls.set j (.unlock skill cost (.destroy c' true))⟩ : UserDB).points =
          s.points - cost := by
      unfold points
      rw [hrows]
      exact UserData.points_spend hpay
    have hlevel (k : Nat) : (⟨s.log ++ [.spend cost, .levelUp skill], s.idle ++ cs,
        s.calls.set j (.unlock skill cost (.destroy c' true))⟩ : UserDB).level k =
          s.level k + if skill = k then 1 else 0 := by
      unfold level
      rw [hrows]
      exact UserData.level_levelUp (s.rows.apply (.spend cost)) skill k
    refine balanced_update hb hj rfl rfl hsound hcs ?_ (fun k => ?_) (fun n hn => ?_)
      (fun other h n hn => ?_) ?_
    · rw [hpoints]
      simp only [UserCall.added, UserCall.spent]
      omega
    · rw [hlevel]
      simp [UserCall.raised]
    · cases hn
    · have := hothers cost rfl other h n hn
      omega
    · omega

theorem balanced_start {idle : List UserConn} (hidle : ∀ c ∈ idle, c = .fresh)
    (hsound : call.Sound) (hadded : call.added = 0) (hspent : call.spent = 0)
    (hraised : ∀ k, call.raised k = 0) (hclaim : call.claim = none) :
    ({ s with idle := idle, calls := s.calls ++ [call] } : UserDB).Balanced := by
  have hnew {other : UserCall} (h : other ∈ s.calls ++ [call]) : other ∈
      s.calls ∨ other = call := by
    simpa using h
  refine ⟨hidle, ?_, ?_, ?_, ?_, hb.nonneg⟩
  · intro other hother
    obtain h | rfl := hnew hother
    · exact hb.sound other h
    · exact hsound
  · have := hb.books
    show ((tally UserCall.added (s.calls ++ [call]) : Nat) : Int) =
      s.points + (tally UserCall.spent (s.calls ++ [call]) : Nat)
    simpa [added, spent, hadded, hspent] using this
  · intro k
    have := hb.levels k
    show s.level k = tally (UserCall.raised k) (s.calls ++ [call])
    simpa [raised, hraised] using this
  · intro other hother n hn
    obtain h | rfl := hnew hother
    · exact hb.covered other h n hn
    · rw [hclaim] at hn
      cases hn

theorem acquire_cases {src : ConnSource} {r : Option UserConn × UserDB}
    (h : s.acquire src = some r) :
    ∃ idle, (∀ c ∈ idle, c = .fresh) ∧ r.2 = { s with idle := idle } ∧
    ∀ c, r.1 = some c → c = .fresh := by
  cases src with
  | timeout =>
    cases h
    exact ⟨s.idle, hb.idle, rfl, by simp⟩
  | new =>
    cases h
    exact ⟨s.idle, hb.idle, rfl, fun c hc => (Option.some.inj hc).symm⟩
  | idle n =>
    simp only [acquire] at h
    cases hn : s.idle[n]? with
    | none => simp [hn] at h
    | some c =>
      rw [hn] at h
      cases h
      refine ⟨s.idle.eraseIdx n, fun c' hc' => hb.idle c' (List.mem_of_mem_eraseIdx hc'), rfl, ?_⟩
      intro c' hc'
      cases hc'
      exact hb.idle c (List.mem_of_getElem? hn)

theorem balanced_begin {src : ConnSource} {o : Option UserConn} {s₁ : UserDB}
    (hs : s.acquire src = some (o, s₁)) (hsound : (∀ c, o = some c → c = .fresh) → call.Sound)
    (hadded : call.added = 0) (hspent : call.spent = 0) (hraised : ∀ k, call.raised k = 0)
    (hclaim : call.claim = none) : ({ s₁ with calls := s.calls ++ [call] } : UserDB).Balanced := by
  obtain ⟨idle, hidle, hr, hc⟩ := acquire_cases hb hs
  cases hr
  exact balanced_start hb hidle (hsound hc) hadded hspent hraised hclaim

/-- **Every step keeps the sums.** -/
theorem balanced_step (hok : s.Undisturbed a) (h : s.step a = some s') : s'.Balanced := by
  cases a with
  | unlockSkill skill cost src =>
    simp only [step] at h
    split at h
    · cases h
    · next s₁ hs =>
      cases h
      exact balanced_begin hb hs (fun _ => trivial) rfl rfl (fun _ => rfl) rfl
    · next c s₁ hs =>
      cases h
      exact balanced_begin hb hs (fun hc => hc c rfl) rfl rfl (fun _ => rfl) rfl
  | addUserPoints amount src =>
    simp only [step] at h
    split at h
    · cases h
    · next s₁ hs =>
      cases h
      exact balanced_begin hb hs (fun _ => trivial) rfl rfl (fun _ => rfl) rfl
    · next c s₁ hs =>
      cases h
      exact balanced_begin hb hs (fun hc => hc c rfl) rfl rfl (fun _ => rfl) rfl
  | act j reply alloc =>
    simp only [step] at h
    cases hj : s.calls[j]? with
    | none => simp [hj] at h
    | some call =>
      rw [hj] at h
      cases hs : s.callStep reply alloc call with
      | none => simp [hs] at h
      | some r =>
        obtain ⟨call', ws, cs⟩ := r
        obtain ⟨hroll, hothers⟩ := hok call hj
        obtain ⟨h1, h2, h3⟩ :=
          callStep_move hb.nonneg (hb.sound call (List.mem_of_getElem? hj)) hroll hs
        simp only [hs] at h
        cases h
        exact balanced_move hb hj h1 h2 h3 hothers

end

theorem balanced_init : init.Balanced :=
  ⟨by simp [init], by simp [init], rfl, fun _ => rfl, by simp [init], le_refl _⟩

/-- **Points accounting.** As long as `ROLLBACK` succeeds and every `UnlockSkill` that commits
leaves enough for the others that have passed their check, the points never go below zero, what was
added and is not there any more was spent by the calls that succeeded, and each of these has raised
its skill by one level. -/
theorem points_accounting (as : List UserAction) (s : UserDB) (hok : Meets step Undisturbed init as)
    (hr : run step init as = some s) :
    0 ≤ s.points ∧ (s.added : Int) - s.points = s.spent ∧
    ∀ skill, s.level skill = s.raised skill := by
  have hb := run_inv_of_meets Balanced (fun _ _ _ => balanced_step) balanced_init hok hr
  refine ⟨hb.nonneg, ?_, hb.levels⟩
  have := hb.books
  omega

def earn : List UserAction := [.addUserPoints 100 .new, .act 0 none true, .act 0 none true]

/-- One after the other: the second call finds too few points. -/
def unlockInTurn : List UserAction :=
  earn ++ ([.unlockSkill 7 60 (.idle 0), .act 1 none true, .act 1 none true, .act 1 none true,
    .act 1 none true,
    .act 1 none true, .act 1 none true, .act 1 none true, .unlockSkill 8 60 (.idle 0),
    .act 2 none true] : List UserAction)

theorem points_accounting_unlockInTurn : ∃ s, run step init unlockInTurn = some s ∧
    s.points = 40 ∧ s.spent = 60 ∧ s.level 7 = 1 ∧ (s.added : Int) - s.points = s.spent :=
  ⟨_, rfl, rfl, rfl, rfl, (points_accounting unlockInTurn _ (by decide) rfl).2.1⟩

/-- Two calls read the points before either commits. -/
def unlockTwice : List UserAction :=
  earn ++ ([.unlockSkill 7 100 .new, .unlockSkill 8 100 .new, .act 1 none true, .act 2 none true,
    .act 1 none true, .act 1 none true, .act 1 none true, .act 1 none true,
    .act 2 none true, .act 2 none true, .act 2 none true, .act 2 none true] : List UserAction)

/-- A transaction whose `ROLLBACK` fails swallows what the next caller of the connection adds. -/
def addAfterFailedRollback : List UserAction :=
  earn ++ ([.unlockSkill 7 60 .new, .act 1 none true, .act 1 none true, .act 1 none true,
    .act 1 (some "disk I/O error") true, .act 1 (some "disk I/O error") true, .act 1 none true,
    .addUserPoints 50 (.idle 1), .act 2 none true, .act 2 none true] : List UserAction)

/-- Both calls succeed and the points are negative; and points that were added are not there. -/
theorem overdraft :
    (∃ s, run step init unlockTwice = some s ∧ s.spent = 200 ∧ s.points = -100) ∧
    ∃ s, run step init addAfterFailedRollback = some s ∧ s.added = 150 ∧
    s.points = 100 ∧ s.spent = 0 :=
  ⟨⟨_, rfl, rfl, rfl⟩, _, rfl, rfl, rfl, rfl⟩

end UserDB

end ToyServer
