import Mathlib.Algebra.Order.Ring.Int

/-! Computations that check each of their steps and stop at the first one that fails, beside those
that do not check. `Meets` says that a checked computation ends with the value of the other, which
has a property, or stops for a reason that is allowed. -/
namespace Canbuskit.Guarded

variable {Reason Value Result State Command : Type} {allowed : Reason → Prop}

def Meets (allowed : Reason → Prop) (post : Value → Prop) (checked : Except Reason Value)
    (value : Value) : Prop :=
  (checked = .ok value ∧ post value) ∨ ∃ reason, allowed reason ∧ checked = .error reason

section
variable {post : Value → Prop} {goal : Result → Prop} {checked : Except Reason Value} {value : Value}

theorem Meets.ok (holds : post value) : Meets allowed post (.ok value) value := .inl ⟨rfl,holds⟩

theorem Meets.stop {reason : Reason} (fine : allowed reason) :
    Meets allowed post (.error reason) value :=
  .inr ⟨reason,fine,rfl⟩

theorem Meets.mono {other : Value → Prop} (meets : Meets allowed post checked value)
    (weakens : post value → other value) : Meets allowed other checked value := by
  rcases meets with ⟨ended,holds⟩ | stopped
  · exact .inl ⟨ended,weakens holds⟩
  · exact .inr stopped

theorem Meets.bind {next : Value → Except Reason Result} {result : Result}
    (meets : Meets allowed post checked value)
    (continues : post value → Meets allowed goal (next value) result) :
    Meets allowed goal (checked >>= next) result := by
  rcases meets with ⟨rfl,holds⟩ | ⟨reason,fine,rfl⟩
  · exact continues holds
  · exact .stop fine

theorem Meets.ite {condition : Prop} [Decidable condition] {other : Except Reason Value}
    {otherwise : Value} (positive : condition → Meets allowed post checked value)
    (negative : ¬ condition → Meets allowed post other otherwise) :
    Meets allowed post (if condition then checked else other)
      (if condition then value else otherwise) := by
  split_ifs with holds
  · exact positive holds
  · exact negative holds

/-- A checked computation that has ended has ended with the value of the other. -/
theorem Meets.ended {other : Value} (meets : Meets allowed post checked value)
    (ends : checked = .ok other) : other = value ∧ post value := by
  rcases meets with ⟨same,holds⟩ | ⟨reason,_,stopped⟩
  · exact ⟨Except.ok.inj (ends.symm.trans same),holds⟩
  · cases ends.symm.trans stopped

end

/-- When each command keeps an invariant, so does any sequence of them. -/
theorem Meets.foldlM {invariant : State → Prop} {step : State → Command → Except Reason State}
    {plain : State → Command → State}
    (steps : ∀ state command, invariant state →
      Meets allowed invariant (step state command) (plain state command))
    (commands : List Command) {state : State} (initially : invariant state) :
    Meets allowed invariant (commands.foldlM step state) (commands.foldl plain state) := by
  induction commands generalizing state with
  | nil => exact .ok initially
  | cons command commands ih => exact (steps state command initially).bind ih

end Canbuskit.Guarded
