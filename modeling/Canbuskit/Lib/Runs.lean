import Mathlib.Algebra.Order.Ring.Int
import Mathlib.Data.List.Induction

/-! Finite runs of labelled step relations, grown at the right so that the label
list of a run is its history. Invariants, histories and termination measures are
each proved once here and instantiated by every state machine of the project. -/
namespace Canbuskit.Runs

variable {State Label Shadow Mark Choice Item : Type}

inductive Run (step : State → Label → State → Prop) (start : State) : List Label → State → Prop
  | nil : Run step start [] start
  | snoc {labels label middle final} (run : Run step start labels middle)
      (last : step middle label final) : Run step start (labels ++ [label]) final

variable {step : State → Label → State → Prop}

theorem Run.single {start final : State} {label : Label} (one : step start label final) :
    Run step start [label] final :=
  .snoc .nil one

theorem Run.append {start middle final : State} {first second : List Label}
    (left : Run step start first middle) (right : Run step middle second final) :
    Run step start (first ++ second) final := by
  induction right with
  | nil => simpa using left
  | snoc _ last ih =>
    rw [← List.append_assoc]
    exact .snoc ih last

/-- A run cut after any part of its history passes through a middle state. -/
theorem Run.split {start final : State} {first second : List Label}
    (run : Run step start (first ++ second) final) :
    ∃ middle, Run step start first middle ∧ Run step middle second final := by
  induction second using List.reverseRecOn generalizing final with
  | nil => exact ⟨final,by simpa using run,.nil⟩
  | append_singleton second label ih =>
    rw [← List.append_assoc] at run
    generalize shape : first ++ second ++ [label] = labels at run
    cases run with
    | nil => simp at shape
    | snoc before last =>
      obtain ⟨same,labelEq⟩ := List.append_inj' shape rfl
      cases labelEq
      subst same
      obtain ⟨middle,left,right⟩ := ih before
      exact ⟨middle,left,.snoc right last⟩

theorem Run.snoc_inv {start final : State} {labels : List Label} {label : Label}
    (run : Run step start (labels ++ [label]) final) :
    ∃ middle, Run step start labels middle ∧ step middle label final := by
  generalize shape : labels ++ [label] = all at run
  cases run with
  | nil => simp at shape
  | snoc before last =>
    obtain ⟨same,labelEq⟩ := List.append_inj' shape rfl
    cases labelEq
    subst same
    exact ⟨_,before,last⟩

theorem Run.cons_inv {start final : State} {labels : List Label} {label : Label}
    (run : Run step start (label :: labels) final) :
    ∃ middle, step start label middle ∧ Run step middle labels final := by
  have cut : Run step start ([label] ++ labels) final := run
  obtain ⟨middle,first,rest⟩ := cut.split
  have only : Run step start ([] ++ [label]) middle := first
  obtain ⟨_,before,last⟩ := only.snoc_inv
  generalize shape : ([] : List Label) = none at before
  cases before with
  | nil => exact ⟨middle,last,rest⟩
  | snoc => simp at shape

/-- A run taken apart at one of its steps. -/
theorem Run.cut {start final : State} {past later : List Label} {label : Label}
    (run : Run step start (past ++ label :: later) final) :
    ∃ before after, Run step start past before ∧ step before label after ∧
      Run step after later final := by
  obtain ⟨before,first,rest⟩ := run.split
  obtain ⟨after,taken,last⟩ := rest.cons_inv
  exact ⟨before,after,first,taken,last⟩

theorem Run.cut_mem {start final : State} {labels : List Label} {label : Label}
    (run : Run step start labels final) (member : label ∈ labels) :
    ∃ past later before after, labels = past ++ label :: later ∧ Run step start past before ∧
      step before label after ∧ Run step after later final := by
  obtain ⟨past,later,rfl⟩ := List.append_of_mem member
  obtain ⟨before,after,first,taken,last⟩ := run.cut
  exact ⟨past,later,before,after,rfl,first,taken,last⟩

/-- A run of the steps whose labels meet a condition is a run whose labels all meet it. -/
theorem Run.restrict_iff {allowed : Label → Prop} {start final : State} {labels : List Label} :
    Run (fun s label t => step s label t ∧ allowed label) start labels final ↔
      Run step start labels final ∧ ∀ label ∈ labels, allowed label := by
  constructor
  · intro run
    induction run with
    | nil => exact ⟨.nil,by simp⟩
    | snoc _ last ih =>
      refine ⟨ih.1.snoc last.1,?_⟩
      intro label member
      rcases List.mem_append.mp member with old | new
      · exact ih.2 label old
      · rw [List.mem_singleton.mp new]
        exact last.2
  · rintro ⟨run,allows⟩
    induction run with
    | nil => exact .nil
    | snoc _ last ih =>
      exact (ih fun label member => allows label (by simp [member])).snoc ⟨last,allows _ (by simp)⟩

/-- What a start state has and every step keeps, every state of a run has. -/
theorem Run.invariant (holds : State → Prop) {start final : State} {labels : List Label}
    (run : Run step start labels final) (initially : holds start)
    (keeps : ∀ s label t, holds s → step s label t → holds t) : holds final := by
  induction run with
  | nil => exact initially
  | snoc _ last ih => exact keeps _ _ _ ih last

/-- The invariant may relate the state to the whole history before it. -/
theorem Run.history (holds : List Label → State → Prop) {start final : State} {labels : List Label}
    (run : Run step start labels final) (initially : holds [] start)
    (keeps : ∀ past s label t, Run step start past s → holds past s → step s label t →
      holds (past ++ [label]) t) : holds labels final := by
  induction run with
  | nil => exact initially
  | snoc before last ih => exact keeps _ _ _ _ before ih last

/-- Every step costs at least one unit of the measure, so a run is no longer than
the measure of its start. -/
theorem Run.bounded (measure : State → Nat) {holds : State → Prop} {start final : State}
    {labels : List Label} (run : Run step start labels final) (initially : holds start)
    (keeps : ∀ s label t, holds s → step s label t → holds t)
    (decreases : ∀ s label t, holds s → step s label t → measure t < measure s) :
    labels.length + measure final ≤ measure start := by
  induction run with
  | nil => simp
  | snoc before last ih =>
    have less := decreases _ _ _ (before.invariant _ initially keeps) last
    simp only [List.length_append,List.length_singleton]
    omega

theorem Run.mono {other : State → Label → State → Prop} {start final : State} {labels : List Label}
    (run : Run step start labels final) (within : ∀ s label t, step s label t → other s label t) :
    Run other start labels final := by
  induction run with
  | nil => exact .nil
  | snoc _ last ih => exact ih.snoc (within _ _ _ last)

/-- A quantity that no step lowers and that ends as it began stood still in every step. -/
theorem Run.steady (measure : State → Nat) (grows : ∀ s label t, step s label t → measure s ≤ measure t)
    {start final : State} {labels : List Label} (run : Run step start labels final)
    (same : measure final = measure start) :
    Run (fun s label t => step s label t ∧ measure t = measure s) start labels final := by
  have above : ∀ {labels middle}, Run step start labels middle → measure start ≤ measure middle :=
    fun run => run.invariant (fun s => measure start ≤ measure s) (Nat.le_refl _)
      fun s label t before step => Nat.le_trans before (grows s label t step)
  induction run with
  | nil => exact .nil
  | snoc before last ih =>
    have low := above before
    have high := grows _ _ _ last
    exact (ih (by omega)).snoc ⟨last,by omega⟩

/-- A simulation: a step is answered by a step of the abstract system when its label is
read as a mark, and leaves the abstract state alone when it is not. -/
theorem Run.simulate (abstract : Shadow → Mark → Shadow → Prop) (related : State → Shadow → Prop)
    (read : Label → Option Mark) {start final : State} {labels : List Label} {shadow : Shadow}
    (run : Run step start labels final) (initially : related start shadow)
    (follows : ∀ s label t u, related s u → step s label t →
      match read label with
      | some mark => ∃ v, abstract u mark v ∧ related t v
      | none => related t u) :
    ∃ v, Run abstract shadow (labels.filterMap read) v ∧ related final v := by
  induction run with
  | nil => exact ⟨shadow,.nil,initially⟩
  | @snoc _ label _ _ _ last ih =>
    obtain ⟨u,before,middle⟩ := ih
    have answer := follows _ _ _ _ middle last
    rw [List.filterMap_append]
    cases seen : read label with
    | none =>
      rw [seen] at answer
      exact ⟨u,by simpa [seen] using before,answer⟩
    | some mark =>
      rw [seen] at answer
      obtain ⟨v,taken,after⟩ := answer
      exact ⟨v,by simpa [seen] using before.snoc taken,after⟩

/-- Erasing steps: where the kept steps can be taken with the same choice and the same outcome
from any related state, and the others show nothing and keep the relation, the run without them
shows what the whole run shows. -/
theorem Run.erase {Seen : Type} (related : State → State → Prop) (kept : Label → Bool)
    (choice : Label → Choice) (seen : Label → List Seen) {start final shadow : State}
    {labels : List Label} (run : Run step start labels final) (initially : related start shadow)
    (follows : ∀ s label t u, related s u → step s label t →
      if kept label then ∃ other v, step u other v ∧ choice other = choice label ∧
        seen other = seen label ∧ related t v
      else seen label = [] ∧ related t u) :
    ∃ others v, Run step shadow others v ∧ related final v ∧
      others.map choice = (labels.filter kept).map choice ∧ others.flatMap seen = labels.flatMap seen := by
  induction run with
  | nil => exact ⟨[],shadow,.nil,initially,rfl,rfl⟩
  | @snoc labels label _ _ _ last ih =>
    obtain ⟨others,u,before,middle,same,shown⟩ := ih
    have answer := follows _ _ _ _ middle last
    by_cases keeps : kept label = true
    · rw [if_pos keeps] at answer
      obtain ⟨other,v,taken,chosen,outcome,after⟩ := answer
      refine ⟨others ++ [other],v,before.snoc taken,after,?_,?_⟩
      · simp [List.filter_append,keeps,same,chosen]
      · simp [shown,outcome]
    · rw [if_neg keeps] at answer
      refine ⟨others,u,before,answer.2,?_,?_⟩
      · simp [List.filter_append,keeps,same]
      · simp [shown,answer.1]

/-- The run that a list of choices determines in a system that steps by a function. -/
def execute (next : State → Choice → Option (Label × State)) (s : State) :
    List Choice → Option (List Label × State)
  | [] => some ([],s)
  | choice :: choices => match next s choice with
    | none => none
    | some (label,t) => match execute next t choices with
      | none => none
      | some (labels,final) => some (label :: labels,final)

theorem execute_run {next : State → Choice → Option (Label × State)}
    (follows : ∀ s choice label t, next s choice = some (label,t) → step s label t)
    {choices : List Choice} : ∀ {s t : State} {labels : List Label},
      execute next s choices = some (labels,t) → Run step s labels t := by
  induction choices with
  | nil =>
    intro s t labels executed
    cases Option.some.inj executed
    exact .nil
  | cons choice choices ih =>
    intro s t labels executed
    simp only [execute] at executed
    cases taken : next s choice with
    | none => simp [taken] at executed
    | some result =>
      obtain ⟨label,middle⟩ := result
      rw [taken] at executed
      cases rest : execute next middle choices with
      | none => simp [rest] at executed
      | some result =>
        obtain ⟨later,final⟩ := result
        simp only [rest,Option.some.injEq,Prod.mk.injEq] at executed
        obtain ⟨rfl,rfl⟩ := executed
        exact (Run.single (follows _ _ _ _ taken)).append (ih rest)

/-- Every item of a list stands in a relation to the items before it. -/
def Each (holds : List Item → Item → Prop) (items : List Item) : Prop :=
  ∀ past item later, items = past ++ item :: later → holds past item

theorem each_nil (holds : List Item → Item → Prop) : Each holds [] := by
  intro past item later shape
  simp at shape

theorem each_snoc {holds : List Item → Item → Prop} {items : List Item} {last : Item} :
    Each holds (items ++ [last]) ↔ Each holds items ∧ holds items last := by
  constructor
  · intro each
    refine ⟨?_,each items last [] rfl⟩
    rintro past item later rfl
    exact each past item (later ++ [last]) (by simp)
  · rintro ⟨each,final⟩ past item later shape
    rcases List.eq_nil_or_concat later with rfl | ⟨before,other,rfl⟩
    · obtain ⟨rfl,same⟩ := List.append_inj' shape rfl
      cases same
      exact final
    · rw [List.concat_eq_append,← List.cons_append,← List.append_assoc] at shape
      obtain ⟨rfl,_⟩ := List.append_inj' shape rfl
      exact each past item before rfl

end Canbuskit.Runs
