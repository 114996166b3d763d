import Mathlib.Tactic

/-!
# Cutting a stream into frames

A `Framer` looks at the unread part of a stream and says: wait for more, refuse the
stream, or cut off a frame of `n` cells.  Its verdicts `frame` and `refuse` do not change
when more of the stream arrives.

`parse` cuts a whole stream greedily.  `Cut F l fs d` says that some cuts made so far turn
the stream `l` into the frames `fs` and the unread part `d`.  A reader that sees the stream
piece by piece only ever makes `Cut`s (`Cut.frame`, `Cut.append`), and these agree with the
parse of everything it has seen (`Cut.parse`), so the pieces do not matter.
-/

namespace Framing

variable {α : Type}

inductive Verdict where
  | more
  | refuse
  | frame (n : Nat)
deriving DecidableEq, Repr

structure Framer (α : Type) where
  verdict : List α → Verdict
  frame_pos : ∀ {l n}, verdict l = .frame n → 0 < n
  frame_le : ∀ {l n}, verdict l = .frame n → n ≤ l.length
  frame_append : ∀ {l n} m, verdict l = .frame n → verdict (l ++ m) = .frame n
  refuse_append : ∀ {l} m, verdict l = .refuse → verdict (l ++ m) = .refuse

structure Parsed (α : Type) where
  frames : List (List α)
  rest : List α
  refused : Bool
deriving DecidableEq, Repr

def parseAux (F : Framer α) : Nat → List α → Parsed α
  | 0, l => ⟨[], l, false⟩
  | fuel + 1, l =>
    match F.verdict l with
    | .more => ⟨[], l, false⟩
    | .refuse => ⟨[], l, true⟩
    | .frame n =>
      let p := parseAux F fuel (l.drop n)
      ⟨l.take n :: p.frames, p.rest, p.refused⟩

/-- Cut the whole stream.  Every frame has a cell, so the length is fuel enough. -/
def parse (F : Framer α) (l : List α) : Parsed α := parseAux F (l.length + 1) l

variable {F : Framer α} {l d : List α} {fs : List (List α)} {n : Nat}

theorem parseAux_fuel (F : Framer α) (l : List α) :
    ∀ {fuel fuel'}, l.length < fuel → l.length < fuel' → parseAux F fuel l =
      parseAux F fuel' l := by
  intro fuel
  induction fuel generalizing l with
  | zero => intro fuel' h; omega
  | succ fuel ih =>
    intro fuel' h h'
    obtain ⟨fuel', rfl⟩ : ∃ k, fuel' = k + 1 := ⟨fuel' - 1, by omega⟩
    unfold parseAux
    cases hv : F.verdict l with
    | more => rfl
    | refuse => rfl
    | frame n =>
      have h1 := F.frame_pos hv
      have h2 := F.frame_le hv
      have hlen : (l.drop n).length < fuel := by rw [List.length_drop]; omega
      have hlen' : (l.drop n).length < fuel' := by rw [List.length_drop]; omega
      simp only [ih (l.drop n) hlen hlen']

theorem parse_more (h : F.verdict l = .more) : parse F l = ⟨[], l, false⟩ := by
  simp [parse, parseAux, h]

theorem parse_refuse (h : F.verdict l = .refuse) : parse F l = ⟨[], l, true⟩ := by
  simp [parse, parseAux, h]

theorem parse_frame (h : F.verdict l = .frame n) :
    parse F l = ⟨l.take n :: (parse F (l.drop n)).frames, (parse F (l.drop n)).rest,
      (parse F (l.drop n)).refused⟩ := by
  have h1 := F.frame_pos h
  have h2 := F.frame_le h
  have hlen : (l.drop n).length < l.length := by rw [List.length_drop]; omega
  have hf : parseAux F l.length (l.drop n) = parse F (l.drop n) :=
    parseAux_fuel F (l.drop n) hlen (Nat.lt_succ_self _)
  conv_lhs => unfold parse parseAux
  simp only [h, hf]

/-- Some cuts turn `l` into the frames `fs` and the unread part `d`. -/
inductive Cut (F : Framer α) (l : List α) : List (List α) → List α → Prop where
  | start : Cut F l [] l
  | frame {fs : List (List α)} {d : List α} {n : Nat} :
      Cut F l fs d → F.verdict d = .frame n → Cut F l (fs ++ [d.take n]) (d.drop n)

/-- Nothing is lost, duplicated or reordered. -/
theorem Cut.flatten (h : Cut F l fs d) : fs.flatten ++ d = l := by
  induction h with
  | start => rfl
  | frame _ _ ih => simpa using ih

theorem Cut.append (h : Cut F l fs d) (m : List α) : Cut F (l ++ m) fs (d ++ m) := by
  induction h with
  | start => exact .start
  | @frame fs d n _ hv ih =>
    have hle := F.frame_le hv
    have := ih.frame (F.frame_append m hv)
    rwa [List.take_append_of_le_length hle, List.drop_append_of_le_length hle] at this

theorem Cut.parse (h : Cut F l fs d) :
    Framing.parse F l = ⟨fs ++ (Framing.parse F d).frames, (Framing.parse F d).rest,
      (Framing.parse F d).refused⟩ := by
  induction h with
  | start => rfl
  | frame _ hv ih => rw [ih, parse_frame hv]; simp

/-- Cuts that cannot go on are the whole parse. -/
theorem Cut.parse_end (h : Cut F l fs d) (refused : Bool)
    (hv : F.verdict d = if refused then .refuse else .more) :
    Framing.parse F l = ⟨fs, d, refused⟩ := by
  rw [h.parse]
  cases refused with
  | false => simp [parse_more (F := F) hv]
  | true => simp [parse_refuse (F := F) hv]

theorem Cut.mem (h : Cut F l fs d) {f : List α} (hf : f ∈ fs) :
    ∃ d' n, F.verdict d' = .frame n ∧ f = d'.take n := by
  induction h with
  | start => cases hf
  | @frame fs d n _ hv ih =>
    rcases List.mem_append.mp hf with hf | hf
    · exact ih hf
    · exact ⟨d, n, hv, List.mem_singleton.mp hf⟩

/-- A stream put together from frames is cut at their borders. -/
theorem Cut.of_frames (fs : List (List α)) :
    ∀ d, (∀ f ∈ fs, F.verdict f = .frame f.length) → Cut F (fs.flatten ++ d) fs d := by
  induction fs using List.reverseRecOn with
  | nil => exact fun d _ => .start
  | append_singleton fs f ih =>
    intro d hfs
    have hv : F.verdict (f ++ d) = .frame f.length := F.frame_append d (hfs f (by simp))
    have hcut := (ih (f ++ d) fun g hg => hfs g (by simp [hg])).frame hv
    rw [List.take_left, List.drop_left] at hcut
    simpa using hcut

end Framing
