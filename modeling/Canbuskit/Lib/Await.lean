import Mathlib.Algebra.Order.Ring.Int
import Mathlib.Data.List.Induction

/-! A loop that takes one signal at a time until a signal makes it return. What decides is the
first signal that can, and signals the loop passes over can be left out. -/
namespace Canbuskit.Await

variable {State Signal Result : Type}

/-- The loop with its state, or what it returned; `none` for a signal that cannot occur. -/
def await (next : State → Signal → Option (State ⊕ Result)) (s : State) :
    List Signal → Option (State ⊕ Result)
  | [] => some (.inl s)
  | signal :: later => match next s signal with
    | none => none
    | some (.inl t) => await next t later
    | some (.inr result) => some (.inr result)

variable {next : State → Signal → Option (State ⊕ Result)}

theorem await_append {s : State} (past later : List Signal) :
    await next s (past ++ later) = match await next s past with
      | none => none
      | some (.inl t) => await next t later
      | some (.inr result) => some (.inr result) := by
  induction past generalizing s with
  | nil => rfl
  | cons signal past ih =>
    simp only [List.cons_append,await]
    cases next s signal with
    | none => rfl
    | some progress => cases progress with
      | inl t => exact ih
      | inr result => rfl

/-- The loop waits after a signal exactly when it waited before it. -/
theorem await_snoc {s t : State} {past : List Signal} {signal : Signal} :
    await next s (past ++ [signal]) = some (.inl t) ↔
      ∃ u, await next s past = some (.inl u) ∧ next u signal = some (.inl t) := by
  have last (u : State) : await next u [signal] = next u signal := by
    simp only [await]
    rcases next u signal with _ | _ | _ <;> rfl
  rw [await_append]
  rcases await next s past with _ | u | result
  · simp
  · simp [last]
  · simp

/-- The loop returns at the first signal that decides, whatever comes after it. -/
theorem await_returned {s : State} {signals : List Signal} {result : Result} :
    await next s signals = some (.inr result) ↔ ∃ past signal later t,
      signals = past ++ signal :: later ∧ await next s past = some (.inl t) ∧
        next t signal = some (.inr result) := by
  constructor
  · intro returns
    induction signals generalizing s with
    | nil => simp [await] at returns
    | cons signal signals ih =>
      simp only [await] at returns
      split at returns
      · contradiction
      · rename_i t taken
        obtain ⟨past,decider,later,u,rfl,waits,decides⟩ := ih returns
        exact ⟨signal :: past,decider,later,u,rfl,by simpa only [await,taken] using waits,decides⟩
      · rename_i taken
        cases returns
        exact ⟨[],signal,signals,s,rfl,rfl,taken⟩
  · rintro ⟨past,signal,later,t,rfl,waits,decides⟩
    simp only [await_append,waits,await,decides]

/-- Signals that the loop passes over in every state leave no trace. -/
theorem await_filter {heard : Signal → Bool}
    (ignores : ∀ s signal, heard signal = false → next s signal = some (.inl s)) (s : State)
    (signals : List Signal) : await next s (signals.filter heard) = await next s signals := by
  induction signals generalizing s with
  | nil => rfl
  | cons signal signals ih =>
    cases hears : heard signal with
    | false => rw [List.filter_cons_of_neg (by simp [hears]),await,ignores s signal hears,ih]
    | true =>
      rw [List.filter_cons_of_pos hears]
      simp only [await]
      split
      · rfl
      · exact ih _
      · rfl

end Canbuskit.Await
