import Canbuskit.Lib.Runs
import Canbuskit.Driver.Device
import Mathlib.Logic.Function.Basic

/-! The read loop of a device and those who start and stop it, one critical section at a time.
The wait group counts the goroutines up to the end of their deferred function, which is later
than the moment from which the next one may start. A read loop may run for any time, and the
wait group's own checks against misuse are left out. -/
namespace Canbuskit.Driver.ReadLoop
open Runs

variable {Call : Type}

/-- Where a goroutine is: it is about to execute the read loop, executes it, has returned from it,
or has put `running` back. -/
inductive Phase where
  | launched
  | executing
  | finished
  | released
  deriving DecidableEq

/-- The goroutine still has `running` to put back. -/
def Phase.marked : Phase → Bool
  | .released => false
  | _ => true

/-- Where a call of `cancelAndWait` is, with what it will return. -/
inductive Place where
  | idle
  | cleared (wasInitialized : Bool)
  | cancelled (wasInitialized : Bool)
  | woken (wasInitialized : Bool)
  | returned (wasInitialized : Bool)
  deriving DecidableEq

def Place.result : Place → Option Bool
  | .idle => none
  | .cleared was | .cancelled was | .woken was | .returned was => some was

/-- The call has seen the wait group at zero. -/
def Place.waited : Place → Bool
  | .woken _ | .returned _ => true
  | _ => false

structure State (Call : Type) where
  initialized : Bool
  running : Bool
  readWG : Nat
  loops : List Phase
  place : Call → Place

def State.zero : State Call := ⟨false,false,0,[],fun _ => .idle⟩

inductive Action (Call : Type) where
  | markInitialized
  | start (launched : Bool)
  | execute
  | finish
  | release
  | done
  | clear (call : Call) (wasInitialized : Bool)
  | cancel (call : Call)
  | wake (call : Call)
  | returns (call : Call) (wasInitialized : Bool)

namespace State

def markInitialized (s : State Call) : State Call := { s with initialized := true }

def start (s : State Call) : State Call × Bool :=
  if !s.initialized || s.running then (s,false)
  else ({ s with running := true, readWG := s.readWG + 1, loops := s.loops ++ [.launched] },true)

/-- The critical section of `cancelAndWait`. -/
def clear [DecidableEq Call] (s : State Call) (call : Call) : State Call × Bool :=
  ({ s with initialized := false, place := Function.update s.place call (.cleared s.initialized) },
    s.initialized)

def moveTo [DecidableEq Call] (s : State Call) (call : Call) (place : Place) : State Call :=
  { s with place := Function.update s.place call place }

end State

theorem start_cases (s : State Call) :
    (s.initialized = true ∧ s.running = false ∧ s.start =
      ({ s with running := true, readWG := s.readWG + 1, loops := s.loops ++ [.launched] },true)) ∨
    (¬ (s.initialized = true ∧ s.running = false) ∧ s.start = (s,false)) := by
  unfold State.start
  cases s.initialized <;> cases s.running
  · exact .inr ⟨nofun,rfl⟩
  · exact .inr ⟨nofun,rfl⟩
  · exact .inl ⟨rfl,rfl,rfl⟩
  · exact .inr ⟨nofun,rfl⟩

/-- The goroutine that has `running` to put back is the one there is, and each is waited for. -/
structure Sound (s : State Call) : Prop where
  marked : s.loops.countP Phase.marked = if s.running then 1 else 0
  counted : s.readWG = s.loops.length

theorem Sound.executing {s : State Call} (sound : Sound s) : s.loops.count .executing ≤ 1 := by
  have fewer : s.loops.count .executing ≤ s.loops.countP Phase.marked :=
    List.countP_mono_left fun phase _ same => by
      rw [eq_of_beq same]
      rfl
  have marked := sound.marked
  split_ifs at marked <;> omega

/-- What `Lifecycle` keeps of this, where every operation is one step. -/
def State.flags (s : State Call) : Lifecycle := ⟨s.initialized,s.running⟩

theorem flags_markInitialized (s : State Call) : s.markInitialized.flags = s.flags.markInitialized := rfl

theorem flags_start (s : State Call) : s.start.1.flags = s.flags.start := by
  obtain ⟨initialized,running,_,_,_⟩ := s
  cases initialized <;> cases running <;> rfl

theorem flags_cancelAndWait {s : State Call} (sound : Sound s) (down : s.initialized = false)
    (none : s.loops = []) : s.flags = s.flags.cancelAndWait := by
  have marked := sound.marked
  rw [none] at marked
  have rests : s.running = false := by
    cases running : s.running with
    | false => rfl
    | true => simp [running] at marked
  rw [State.flags,down,rests]
  rfl

variable [DecidableEq Call]

inductive Step : State Call → Action Call → State Call → Prop
  | markInitialized {s} : Step s .markInitialized s.markInitialized
  | start {s} : Step s (.start s.start.2) s.start.1
  | execute {s before after} (shape : s.loops = before ++ .launched :: after) :
      Step s .execute { s with loops := before ++ .executing :: after }
  | finish {s before after} (shape : s.loops = before ++ .executing :: after) :
      Step s .finish { s with loops := before ++ .finished :: after }
  | release {s before after} (shape : s.loops = before ++ .finished :: after) :
      Step s .release { s with running := false, loops := before ++ .released :: after }
  | done {s before after} (shape : s.loops = before ++ .released :: after) :
      Step s .done { s with readWG := s.readWG - 1, loops := before ++ after }
  | clear {s call} (begins : s.place call = .idle) :
      Step s (.clear call (s.clear call).2) (s.clear call).1
  | cancel {s call was} (cleared : s.place call = .cleared was) :
      Step s (.cancel call) (s.moveTo call (.cancelled was))
  | wake {s call was} (waits : s.place call = .cancelled was) (ended : s.readWG = 0) :
      Step s (.wake call) (s.moveTo call (.woken was))
  | returns {s call was} (woken : s.place call = .woken was) :
      Step s (.returns call was) (s.moveTo call (.returned was))

theorem Step.sound {s t : State Call} {action : Action Call} (sound : Sound s)
    (step : Step s action t) : Sound t := by
  obtain ⟨marked,counted⟩ := sound
  cases step with
  | markInitialized | clear | cancel | wake | returns => exact ⟨marked,counted⟩
  | start =>
    rcases start_cases s with ⟨_,rests,started⟩ | ⟨_,refused⟩
    · rw [started]
      refine ⟨?_,?_⟩
      · simpa [rests,Phase.marked] using marked
      · simpa using counted
    · rw [refused]
      exact ⟨marked,counted⟩
  | execute shape | finish shape =>
    rw [shape] at marked counted
    refine ⟨?_,by simpa using counted⟩
    rw [List.countP_append,List.countP_cons] at marked ⊢
    exact marked
  | release shape =>
    rw [shape] at marked counted
    refine ⟨?_,by simpa using counted⟩
    rw [List.countP_append,List.countP_cons] at marked ⊢
    simp only [Phase.marked,if_true] at marked
    simp only [Phase.marked,Bool.false_eq_true,if_false]
    split_ifs at marked
    omega
  | done shape =>
    rw [shape] at marked counted
    refine ⟨?_,?_⟩
    · rw [List.countP_append,List.countP_cons] at marked
      rw [List.countP_append]
      exact marked
    · simp only [counted,List.length_append,List.length_cons]
      omega

theorem run_sound {s : State Call} {actions : List (Action Call)}
    (run : Run Step .zero actions s) : Sound s :=
  run.invariant Sound ⟨rfl,rfl⟩ fun _ _ _ sound step => step.sound sound

theorem Step.place {s t : State Call} {action : Action Call} (step : Step s action t) (call : Call) :
    (t.place call = s.place call ∧ (∀ was, action ≠ .clear call was) ∧
      ∀ was, action ≠ .returns call was) ∨
    (s.place call = .idle ∧ action = .clear call s.initialized ∧
      t.place call = .cleared s.initialized) ∨
    (∃ was, s.place call = .cleared was ∧ action = .cancel call ∧ t.place call = .cancelled was) ∨
    (∃ was, s.place call = .cancelled was ∧ action = .wake call ∧ s.readWG = 0 ∧
      t.place call = .woken was) ∨
    ∃ was, s.place call = .woken was ∧ action = .returns call was ∧ t.place call = .returned was := by
  cases step with
  | markInitialized | execute | finish | release | done => exact .inl ⟨rfl,nofun,nofun⟩
  | start =>
    refine .inl ⟨?_,nofun,nofun⟩
    rcases start_cases s with ⟨_,_,started⟩ | ⟨_,refused⟩
    · rw [started]
    · rw [refused]
  | @clear other begins =>
    by_cases same : call = other
    · subst same
      exact .inr (.inl ⟨begins,rfl,Function.update_self ..⟩)
    · refine .inl ⟨Function.update_of_ne same ..,?_,nofun⟩
      intro was equal
      cases equal
      exact same rfl
  | @cancel other was cleared =>
    by_cases same : call = other
    · subst same
      exact .inr (.inr (.inl ⟨was,cleared,rfl,Function.update_self ..⟩))
    · exact .inl ⟨Function.update_of_ne same ..,nofun,nofun⟩
  | @wake other was waits ended =>
    by_cases same : call = other
    · subst same
      exact .inr (.inr (.inr (.inl ⟨was,waits,rfl,ended,Function.update_self ..⟩)))
    · exact .inl ⟨Function.update_of_ne same ..,nofun,nofun⟩
  | @returns other was woken =>
    by_cases same : call = other
    · subst same
      exact .inr (.inr (.inr (.inr ⟨was,woken,rfl,Function.update_self ..⟩)))
    · refine .inl ⟨Function.update_of_ne same ..,nofun,?_⟩
      intro was equal
      cases equal
      exact same rfl

theorem run_results {s : State Call} {actions : List (Action Call)} (run : Run Step .zero actions s)
    (call : Call) (was : Bool) :
    (.clear call was ∈ actions → (s.place call).result = some was) ∧
    (.returns call was ∈ actions → s.place call = .returned was) := by
  induction run with
  | nil => exact ⟨nofun,nofun⟩
  | @snoc past action middle t before last ih =>
    obtain ⟨cleared,returned⟩ := ih
    simp only [List.mem_append,List.mem_singleton]
    rcases last.place call with ⟨same,other,another⟩ | ⟨idle,rfl,moved⟩ |
      ⟨read,at',rfl,moved⟩ | ⟨read,at',rfl,_,moved⟩ | ⟨read,at',rfl,moved⟩
    · rw [same]
      exact ⟨fun member => cleared (member.resolve_right fun new => other was new.symm),
        fun member => returned (member.resolve_right fun new => another was new.symm)⟩
    · rw [idle] at cleared returned
      rw [moved]
      refine ⟨?_,?_⟩
      · rintro (old | new)
        · cases cleared old
        · cases new
          rfl
      · rintro (old | new)
        · cases returned old
        · cases new
    · rw [at'] at cleared returned
      rw [moved]
      exact ⟨fun member => cleared (member.resolve_right nofun),
        fun member => by cases returned (member.resolve_right nofun)⟩
    · rw [at'] at cleared returned
      rw [moved]
      exact ⟨fun member => cleared (member.resolve_right nofun),
        fun member => by cases returned (member.resolve_right nofun)⟩
    · rw [at'] at cleared returned
      rw [moved]
      refine ⟨fun member => cleared (member.resolve_right nofun),?_⟩
      rintro (old | new)
      · cases returned old
      · cases new
        rfl

theorem Step.down {s t : State Call} {action : Action Call} (down : s.initialized = false)
    (step : Step s action t) (unmarked : action ≠ .markInitialized) :
    t.initialized = false ∧ action ≠ .start true ∧ (∀ call, action ≠ .clear call true) ∧
      (s.loops = [] → t.loops = []) := by
  cases step with
  | markInitialized => exact absurd rfl unmarked
  | start =>
    rcases start_cases s with ⟨up,_⟩ | ⟨_,refused⟩
    · cases down.symm.trans up
    · rw [refused]
      exact ⟨down,nofun,nofun,fun none => none⟩
  | execute shape | finish shape | release shape | done shape =>
    exact ⟨down,nofun,nofun,fun none => by simp [none] at shape⟩
  | clear =>
    refine ⟨rfl,nofun,?_,fun none => none⟩
    intro call equal
    cases down.symm.trans (Action.clear.inj equal).2
  | cancel | wake | returns => exact ⟨down,nofun,nofun,fun none => none⟩

/-- From the critical section of a call to the next `markInitialized` nothing is launched, and once
the call has waited there is no goroutine. -/
theorem run_down {s t : State Call} {actions : List (Action Call)} (run : Run Step s actions t)
    (sound : Sound s) (down : s.initialized = false) {call : Call}
    (begins : (s.place call).waited = true → s.loops = [])
    (unmarked : .markInitialized ∉ actions) :
    Sound t ∧ t.initialized = false ∧ .start true ∉ actions ∧
      (∀ other, .clear other true ∉ actions) ∧ ((t.place call).waited = true → t.loops = []) := by
  induction run with
  | nil => exact ⟨sound,down,nofun,nofun,begins⟩
  | @snoc past action middle t before last ih =>
    obtain ⟨still,low,unlaunched,uncleared,ended⟩ := ih fun member => unmarked (by simp [member])
    obtain ⟨lower,other,another,empty⟩ := last.down low fun equal => unmarked (by simp [equal])
    refine ⟨last.sound still,lower,?_,?_,?_⟩
    · simp [unlaunched,Ne.symm other]
    · intro caller
      simp [uncleared,Ne.symm (another caller)]
    · intro waited
      apply empty
      rcases last.place call with ⟨same,_⟩ | ⟨_,_,moved⟩ | ⟨_,_,_,moved⟩ | ⟨_,_,_,zero,_⟩ | ⟨_,woken,_⟩
      · exact ended (same ▸ waited)
      · rw [moved] at waited
        cases waited
      · rw [moved] at waited
        cases waited
      · exact List.length_eq_zero_iff.mp (still.counted.symm.trans zero)
      · exact ended (by rw [woken]; rfl)

theorem Step.up {s t : State Call} {action : Action Call} (up : s.initialized = true)
    (step : Step s action t) : (t.initialized = true ∧ ∀ call was, action ≠ .clear call was) ∨
      (t.initialized = false ∧ ∃ call, action = .clear call true) := by
  cases step with
  | markInitialized => exact .inl ⟨rfl,nofun⟩
  | start =>
    refine .inl ⟨?_,nofun⟩
    rcases start_cases s with ⟨_,_,started⟩ | ⟨_,refused⟩
    · rw [started]
      exact up
    · rw [refused]
      exact up
  | clear => exact .inr ⟨rfl,_,by rw [State.clear,up]⟩
  | _ => exact .inl ⟨up,nofun⟩

/-- The first call after a `markInitialized`, and no other, reads that it was initialized. -/
theorem run_up {s t : State Call} {actions : List (Action Call)} (run : Run Step s actions t)
    (up : s.initialized = true) (unmarked : .markInitialized ∉ actions) :
    (t.initialized = true ∧ ∀ call was, .clear call was ∉ actions) ∨
    (t.initialized = false ∧ ∃ call, .clear call true ∈ actions ∧
      ∀ other, .clear other true ∈ actions → other = call) := by
  induction run with
  | nil => exact .inl ⟨up,nofun⟩
  | @snoc past action middle t before last ih =>
    simp only [List.mem_append,List.mem_singleton]
    rcases ih fun member => unmarked (by simp [member]) with ⟨high,uncleared⟩ | ⟨low,call,first,only⟩
    · rcases last.up high with ⟨higher,other⟩ | ⟨lower,call,rfl⟩
      · refine .inl ⟨higher,fun call was => ?_⟩
        rintro (old | new)
        · exact uncleared call was old
        · exact other call was new.symm
      · refine .inr ⟨lower,call,.inr rfl,?_⟩
        rintro other (old | new)
        · exact absurd old (uncleared other true)
        · exact (Action.clear.inj new).1
    · obtain ⟨lower,_,uncleared,_⟩ := last.down low fun equal => unmarked (by simp [equal])
      refine .inr ⟨lower,call,.inl first,?_⟩
      rintro other (old | new)
      · exact only other old
      · exact absurd new.symm (uncleared other)

/-- One read loop at a time; one is launched when the device is initialized and none is marked
running; after a call has returned there is none and comes none up to the next `markInitialized`;
and of the calls after a `markInitialized` the first one to clear it returns `true`. -/
theorem readLoop_lifecycle {s : State Call} {actions : List (Action Call)}
    (run : Run Step .zero actions s) :
    s.loops.count .executing ≤ 1 ∧
    (∀ launched t, Step s (.start launched) t →
      (launched = true ↔ s.initialized = true ∧ s.running = false) ∧
      t.loops = if launched then s.loops ++ [.launched] else s.loops) ∧
    (∀ past call was between answer later,
      actions = past ++ .clear call was :: between ++ .returns call answer :: later →
      .markInitialized ∉ between → .markInitialized ∉ later →
      .executing ∉ s.loops ∧ .start true ∉ later ∧ ∀ t, ¬ Step s (.start true) t) ∧
    ∀ past later, actions = past ++ .markInitialized :: later → .markInitialized ∉ later →
      (∃ call was, .clear call was ∈ later) →
      ∃ call, .clear call true ∈ later ∧ ∀ other was answer, .clear other was ∈ later →
        .returns other answer ∈ actions → (answer = true ↔ other = call) := by
  have starts : ∀ launched t, Step s (.start launched) t →
      (launched = true ↔ s.initialized = true ∧ s.running = false) ∧
      t.loops = if launched then s.loops ++ [.launched] else s.loops := by
    intro launched t step
    cases step with
    | start =>
      rcases start_cases s with ⟨up,rests,started⟩ | ⟨other,refused⟩
      · rw [started]
        exact ⟨iff_of_true rfl ⟨up,rests⟩,rfl⟩
      · rw [refused]
        exact ⟨iff_of_false nofun other,rfl⟩
  refine ⟨(run_sound run).executing,starts,?_,?_⟩
  · rintro past call was between answer later rfl quiet silent
    have ended : s.place call = .returned answer := (run_results run call answer).2 (by simp)
    rw [List.append_assoc,List.cons_append] at run
    obtain ⟨before,after,first,cleared,rest⟩ := run.cut
    have sound := cleared.sound (run_sound first)
    have unmarked : .markInitialized ∉ between ++ .returns call answer :: later := by
      simp [quiet,silent]
    have begun : after.initialized = false ∧ (after.place call).waited = false := by
      cases cleared with
      | clear =>
        have place : (before.clear call).1.place call = .cleared before.initialized :=
          Function.update_self ..
        refine ⟨rfl,?_⟩
        rw [place]
        rfl
    obtain ⟨_,down,unlaunched,_,empty⟩ :=
      run_down rest sound begun.1 (fun waited => nomatch begun.2.symm.trans waited) unmarked
    have none : s.loops = [] := empty (by rw [ended]; rfl)
    refine ⟨by simp [none],fun member => unlaunched (by simp [member]),fun t step => ?_⟩
    have up := ((starts true t step).1.mp rfl).1
    cases down.symm.trans up
  · rintro past later rfl silent ⟨someone,something,begun⟩
    obtain ⟨before,after,_,marked,rest⟩ := run.cut
    have up : after.initialized = true := by
      cases marked with
      | markInitialized => rfl
    rcases run_up rest up silent with ⟨_,uncleared⟩ | ⟨_,call,first,only⟩
    · exact absurd begun (uncleared someone something)
    · refine ⟨call,first,fun other was answer cleared returned => ?_⟩
      have within : ∀ {action}, action ∈ later → action ∈ past ++ .markInitialized :: later := by
        intro action member
        simp [member]
      have place := (run_results run other answer).2 returned
      have read := (run_results run other was).1 (within cleared)
      rw [place] at read
      cases Option.some.inj read
      constructor
      · rintro rfl
        exact only other cleared
      · rintro rfl
        have readTrue := (run_results run other true).1 (within first)
        rw [place] at readTrue
        exact Option.some.inj readTrue

/-- A read loop that ends while two calls wait for it. -/
theorem readLoop_lifecycle_stopped : ∃ s : State Bool,
    Run Step .zero [.markInitialized,.start true,.execute,.clear false true,.clear true false,
      .cancel false,.finish,.release,.done,.wake false,.returns false true] s ∧
    .executing ∉ s.loops ∧ ∀ t, ¬ Step s (.start true) t := by
  have launched : Run Step (.zero : State Bool) [.markInitialized,.start true,.execute] _ :=
    ((Run.nil.snoc .markInitialized).snoc .start).snoc (@Step.execute _ _ _ [] [] rfl)
  have cleared : Run Step (.zero : State Bool) [.markInitialized,.start true,.execute,
      .clear false true,.clear true false,.cancel false] _ :=
    ((launched.snoc (.clear rfl)).snoc (.clear rfl)).snoc (@Step.cancel _ _ _ _ true rfl)
  have ended : Run Step (.zero : State Bool) [.markInitialized,.start true,.execute,
      .clear false true,.clear true false,.cancel false,.finish,.release,.done] _ :=
    ((cleared.snoc (@Step.finish _ _ _ [] [] rfl)).snoc (@Step.release _ _ _ [] [] rfl)).snoc
      (@Step.done _ _ _ [] [] rfl)
  have returned : Run Step (.zero : State Bool) [.markInitialized,.start true,.execute,
      .clear false true,.clear true false,.cancel false,.finish,.release,.done,.wake false,
      .returns false true] _ :=
    (ended.snoc (@Step.wake _ _ _ _ true rfl rfl)).snoc (.returns rfl)
  obtain ⟨_,_,stopped,_⟩ := readLoop_lifecycle returned
  obtain ⟨none,_,never⟩ := stopped [.markInitialized,.start true,.execute] false true
    [.clear true false,.cancel false,.finish,.release,.done,.wake false] true [] rfl
    (by simp) (by simp)
  exact ⟨_,returned,none,never⟩

end Canbuskit.Driver.ReadLoop
