import Mathlib.Data.Set.Subsingleton
import Mathlib.Tactic

/-!
# A token behind a flag

Mutual exclusion by a flag that is handed over: whoever has the right to go on is at one of several
places, the flag is set while there is somebody, and there is never more than one.
-/

namespace Exclusion

variable {π : Type}

/-- At most one place has the token, and the flag is set while one has it. -/
structure Token (flag : Bool) (places : Set π) : Prop where
  one : places.Subsingleton
  flagged : ∀ p ∈ places, flag = true

variable {flag : Bool} {places places' : Set π}

theorem Token.keep (h : Token flag places) (hsub : places' ⊆ places) : Token flag places' :=
  ⟨h.one.anti hsub, fun p hp => h.flagged p (hsub hp)⟩

theorem Token.at (q : π) (hsub : places' ⊆ {q}) : Token true places' :=
  ⟨Set.subsingleton_singleton.anti hsub, fun _ _ => rfl⟩

theorem Token.free (hempty : places' ⊆ ∅) : Token flag places' :=
  ⟨Set.subsingleton_empty.anti hempty, fun _ hp => absurd (hempty hp) (Set.notMem_empty _)⟩

end Exclusion
