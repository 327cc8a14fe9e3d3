import Canbuskit.Can.Config

/-! The automatic choice of a backend, with everything it does to the devices of its candidates.
A device is known by the candidate that made it, and what it answers is given for each round of
the loop. -/
namespace Canbuskit.Driver.Selection
open Can

variable {Dev : Type}

/-- The factory may be nil, and may return a nil device. -/
structure Candidate (Dev : Type) where
  name : String
  new : Option (BusConfig → Option Dev)

/-- What a device answers to `initialize` and then to `isFD`. -/
structure Outcome where
  initialized : Except String Unit
  isFD : Bool

inductive Event where
  | created (candidate : Nat)
  | initialized (candidate : Nat)
  | stopped (candidate : Nat)
  deriving DecidableEq

inductive Rejection where
  | nilFactory
  | nilDevice
  | failed (error : String)
  | incompatible (wantFD gotFD : Bool)

def Rejection.text : Rejection → String
  | .nilFactory => "candidate factory is nil"
  | .nilDevice => "candidate returned nil device"
  | .failed error => error
  | .incompatible wantFD gotFD =>
    s!"initialized in incompatible mode (want CAN-FD={wantFD}, got CAN-FD={gotFD})"

inductive SelectionError where
  | config (error : BusConfigError)
  | noDevice (errs : List (String × Rejection))

/-- One round of the loop: a device to keep or why there is none, and what was done. -/
def consider (cfg : BusConfig) (outcome : Outcome) (i : Nat) (candidate : Candidate Dev) :
    Except Rejection Dev × List Event :=
  match candidate.new with
  | none => (.error .nilFactory,[])
  | some new => match new cfg with
    | none => (.error .nilDevice,[])
    | some dev => match outcome.initialized with
      | .error error => (.error (.failed error),[.created i,.initialized i,.stopped i])
      | .ok () =>
        let wantFD := cfg.mode == Mode.fd
        if outcome.isFD ≠ wantFD then
          (.error (.incompatible wantFD outcome.isFD),[.created i,.initialized i,.stopped i])
        else (.ok dev,[.created i,.initialized i])

structure Selected (Dev : Type) where
  candidate : Nat
  dev : Dev
  name : String

/-- The loop from the candidate with a number on, with the errors so far. -/
def select (cfg : BusConfig) (outcomes : Nat → Outcome) :
    Nat → List (Candidate Dev) → List (String × Rejection) →
      Except (List (String × Rejection)) (Selected Dev) × List Event
  | _, [], errs => (.error errs,[])
  | i, candidate :: rest, errs =>
    match consider cfg (outcomes i) i candidate with
    | (.ok dev,events) => (.ok ⟨i,dev,candidate.name⟩,events)
    | (.error rejection,events) =>
      let later := select cfg outcomes (i + 1) rest (errs ++ [(candidate.name,rejection)])
      (later.1,events ++ later.2)

/-- `driver` carries the number of the candidate that made it. -/
structure AutoDevice (Dev : Type) where
  canType : Mode
  cfg : BusConfig
  candidates : List (Candidate Dev)
  driver : Option (Nat × Dev)
  selectedName : String

namespace AutoDevice

def initializeDevice (a : AutoDevice Dev) (outcomes : Nat → Outcome) :
    AutoDevice Dev × List Event × Except SelectionError Unit :=
  if a.driver.isSome then (a,[],.ok ())
  else match a.cfg.normalized with
    | .error error => (a,[],.error (.config error))
    | .ok cfg =>
      let a : AutoDevice Dev := { a with cfg := cfg, canType := cfg.mode }
      match select cfg outcomes 0 a.candidates [] with
      | (.ok selected,events) =>
        ({ a with driver := some (selected.candidate,selected.dev), selectedName := selected.name },
          events,.ok ())
      | (.error errs,events) => (a,events,.error (.noDevice errs))

def stop (a : AutoDevice Dev) : AutoDevice Dev × List Event :=
  ({ a with driver := none, selectedName := "" },
    match a.driver with
    | none => []
    | some (candidate,_) => [.stopped candidate])

end AutoDevice

/-- The candidate makes a device that initializes in the requested mode. -/
def Qualifies (cfg : BusConfig) (outcome : Outcome) (candidate : Candidate Dev) (dev : Dev) : Prop :=
  ∃ new, candidate.new = some new ∧ new cfg = some dev ∧ outcome.initialized = .ok () ∧
    outcome.isFD = (cfg.mode == Mode.fd)

/-- The factory of the candidate returns a device. -/
def Makes (cfg : BusConfig) (candidate : Candidate Dev) : Prop :=
  ∃ new dev, candidate.new = some new ∧ new cfg = some dev

/-- The devices made are those of some candidates, one each, and each was stopped once. -/
structure Cleaned (first next : Nat) (events : List Event) : Prop where
  range : ∀ j, .created j ∈ events → first ≤ j ∧ j < next
  once : ∀ j, events.count (.created j) ≤ 1
  stopped : ∀ j, events.count (.stopped j) = events.count (.created j)

theorem Cleaned.nil (first next : Nat) : Cleaned first next [] :=
  ⟨by simp,by simp,by simp⟩

theorem Cleaned.count_created {first next : Nat} {events : List Event}
    (cleaned : Cleaned first next events) {j : Nat} (member : .created j ∈ events) :
    events.count (.created j) = 1 :=
  Nat.le_antisymm (cleaned.once j) (List.count_pos_iff.mpr member)

theorem Cleaned.count_stopped {first next : Nat} {events : List Event}
    (cleaned : Cleaned first next events) (j : Nat) (member : .created j ∈ events) :
    events.count (.stopped j) = 1 := by
  rw [cleaned.stopped]
  exact cleaned.count_created member

theorem Cleaned.created_of_stopped {first next : Nat} {events : List Event}
    (cleaned : Cleaned first next events) {j : Nat} (member : .stopped j ∈ events) :
    .created j ∈ events := by
  apply List.count_pos_iff.mp
  rw [← cleaned.stopped]
  exact List.count_pos_iff.mpr member

theorem Cleaned.append {first middle next : Nat} {events later : List Event}
    (order : first ≤ middle ∧ middle ≤ next) (before : Cleaned first middle events)
    (after : Cleaned middle next later) : Cleaned first next (events ++ later) := by
  refine ⟨?_,?_,?_⟩
  · intro j member
    rcases List.mem_append.mp member with early | late
    · have range := before.range j early
      omega
    · have range := after.range j late
      omega
  · intro j
    rw [List.count_append]
    by_cases early : j < middle
    · have absent : later.count (.created j) = 0 := by
        apply List.count_eq_zero_of_not_mem
        intro member
        have range := after.range j member
        omega
      rw [absent]
      exact before.once j
    · have absent : events.count (.created j) = 0 := by
        apply List.count_eq_zero_of_not_mem
        intro member
        exact early (before.range j member).2
      rw [absent,Nat.zero_add]
      exact after.once j
  · intro j
    rw [List.count_append,List.count_append,before.stopped,after.stopped]

theorem Cleaned.rejected (i : Nat) :
    Cleaned i (i + 1) [.created i,.initialized i,.stopped i] := by
  refine ⟨?_,?_,?_⟩
  · intro j member
    simp only [List.mem_cons,Event.created.injEq,List.not_mem_nil,or_false,reduceCtorEq] at member
    omega
  · intro j
    simp only [List.count_cons,List.count_nil,beq_iff_eq,Event.created.injEq,reduceCtorEq,if_false]
    split_ifs <;> omega
  · intro j
    simp only [List.count_cons,List.count_nil,beq_iff_eq,Event.created.injEq,Event.stopped.injEq,
      reduceCtorEq,if_false]
    omega

theorem consider_cases (cfg : BusConfig) (outcome : Outcome) (i : Nat) (candidate : Candidate Dev) :
    (∃ dev, Qualifies cfg outcome candidate dev ∧
      consider cfg outcome i candidate = (.ok dev,[.created i,.initialized i])) ∨
    ((∀ dev, ¬ Qualifies cfg outcome candidate dev) ∧ ∃ rejection events,
      Cleaned i (i + 1) events ∧ (Makes cfg candidate → .created i ∈ events) ∧
      consider cfg outcome i candidate = (.error rejection,events)) := by
  obtain ⟨name,factory⟩ := candidate
  obtain ⟨initialized,isFD⟩ := outcome
  cases factory with
  | none => exact .inr ⟨by simp [Qualifies],_,_,.nil i (i + 1),by simp [Makes],rfl⟩
  | some new =>
    cases made : new cfg with
    | none =>
      refine .inr ⟨by simp [Qualifies,made],.nilDevice,[],.nil i (i + 1),by simp [Makes,made],?_⟩
      simp only [consider,made]
    | some dev =>
      cases initialized with
      | error error =>
        refine .inr ⟨by simp [Qualifies],.failed error,_,.rejected i,by simp,?_⟩
        simp only [consider,made]
      | ok =>
        by_cases matched : isFD = (cfg.mode == Mode.fd)
        · refine .inl ⟨dev,⟨new,rfl,made,rfl,matched⟩,?_⟩
          simp only [consider,made,matched,ne_eq,not_true_eq_false,if_false]
        · refine .inr ⟨by simp [Qualifies,matched],.incompatible (cfg.mode == Mode.fd) isFD,_,.rejected i,
            by simp,?_⟩
          simp only [consider,made,ne_eq,matched,not_false_eq_true,if_true]

/-- The candidate in a place is the first that qualifies; `base` is the number of the first one. -/
structure First (cfg : BusConfig) (outcomes : Nat → Outcome) (base : Nat)
    (candidates : List (Candidate Dev)) (i : Nat) (candidate : Candidate Dev) (dev : Dev) : Prop where
  listed : candidates[i]? = some candidate
  qualifies : Qualifies cfg (outcomes (base + i)) candidate dev
  earlier : ∀ j < i, ∀ other made, candidates[j]? = some other →
    ¬ Qualifies cfg (outcomes (base + j)) other made

def NoneQualifies (cfg : BusConfig) (outcomes : Nat → Outcome) (base : Nat)
    (candidates : List (Candidate Dev)) : Prop :=
  ∀ i candidate dev, candidates[i]? = some candidate →
    ¬ Qualifies cfg (outcomes (base + i)) candidate dev

/-- Every candidate before a number has its device made, if it makes one. -/
def Recorded (cfg : BusConfig) (base next : Nat) (candidates : List (Candidate Dev))
    (events : List Event) : Prop :=
  ∀ j candidate, candidates[j]? = some candidate → base + j < next → Makes cfg candidate →
    .created (base + j) ∈ events

theorem Recorded.cons {cfg : BusConfig} {base next : Nat} {candidate : Candidate Dev}
    {rest : List (Candidate Dev)} {events later : List Event}
    (made : Makes cfg candidate → .created base ∈ events) (after : Recorded cfg (base + 1) next rest later) :
    Recorded cfg base next (candidate :: rest) (events ++ later) := by
  intro j other listed before makes
  cases j with
  | zero =>
    cases Option.some.inj listed
    exact List.mem_append_left later (made makes)
  | succ j =>
    have shift : base + 1 + j = base + (j + 1) := by omega
    have recorded := after j other listed (shift ▸ before) makes
    rw [shift] at recorded
    exact List.mem_append_right events recorded

/-- The loop keeps the device of the first candidate that qualifies and has stopped all others. -/
theorem select_cases (cfg : BusConfig) (outcomes : Nat → Outcome) (candidates : List (Candidate Dev)) :
    ∀ (base : Nat) (errs : List (String × Rejection)),
    (∃ i candidate dev events, First cfg outcomes base candidates i candidate dev ∧
      Cleaned base (base + i) events ∧ Recorded cfg base (base + i) candidates events ∧ select cfg outcomes base candidates errs =
        (.ok ⟨base + i,dev,candidate.name⟩,events ++ [.created (base + i),.initialized (base + i)])) ∨
    (NoneQualifies cfg outcomes base candidates ∧ ∃ rejections events,
      Cleaned base (base + candidates.length) events ∧
      Recorded cfg base (base + candidates.length) candidates events ∧
      select cfg outcomes base candidates errs = (.error rejections,events)) := by
  induction candidates with
  | nil => exact fun base errs => .inr ⟨by simp [NoneQualifies],errs,[],.nil _ _,by simp [Recorded],rfl⟩
  | cons candidate rest ih =>
    intro base errs
    rcases consider_cases cfg (outcomes base) base candidate with
      ⟨dev,qualifies,considered⟩ | ⟨never,rejection,events,cleaned,made,considered⟩
    · refine .inl ⟨0,candidate,dev,[],⟨rfl,qualifies,by simp⟩,.nil _ _,?_,?_⟩
      · intro j other listed before
        omega
      · simp only [select,considered,Nat.add_zero,List.nil_append]
    · have shift (j : Nat) : base + 1 + j = base + (j + 1) := by omega
      rcases ih (base + 1) (errs ++ [(candidate.name,rejection)]) with
        ⟨i,chosen,dev,later,first,after,recorded,selected⟩ | ⟨none,rejections,later,after,recorded,selected⟩
      · refine .inl ⟨i + 1,chosen,dev,events ++ later,⟨first.listed,?_,?_⟩,?_,?_,?_⟩
        · rw [← shift]
          exact first.qualifies
        · intro j less other dev listed
          cases j with
          | zero =>
            cases Option.some.inj listed
            exact never dev
          | succ j =>
            rw [← shift]
            exact first.earlier j (by omega) other dev listed
        · rw [← shift]
          exact cleaned.append (by omega) after
        · rw [← shift]
          exact .cons made recorded
        · simp only [select,considered,selected,shift,List.append_assoc]
      · refine .inr ⟨?_,rejections,events ++ later,?_,?_,?_⟩
        · intro j other dev listed
          cases j with
          | zero =>
            cases Option.some.inj listed
            exact never dev
          | succ j =>
            rw [← shift]
            exact none j other dev listed
        · rw [List.length_cons,← shift]
          exact cleaned.append (by omega) after
        · rw [List.length_cons,← shift]
          exact .cons made recorded
        · simp only [select,considered,selected]

theorem First.unique {cfg : BusConfig} {outcomes : Nat → Outcome} {base : Nat}
    {candidates : List (Candidate Dev)} {i j : Nat} {one other : Candidate Dev} {dev made : Dev}
    (first : First cfg outcomes base candidates i one dev)
    (second : First cfg outcomes base candidates j other made) : i = j ∧ one = other ∧ dev = made := by
  have same : i = j := by
    rcases Nat.lt_trichotomy i j with less | same | more
    · exact absurd first.qualifies (second.earlier i less one dev first.listed)
    · exact same
    · exact absurd second.qualifies (first.earlier j more other made second.listed)
  subst same
  cases Option.some.inj (first.listed.symm.trans second.listed)
  obtain ⟨new,factory,makes,_⟩ := first.qualifies
  obtain ⟨_,factory',makes',_⟩ := second.qualifies
  cases Option.some.inj (factory.symm.trans factory')
  exact ⟨rfl,rfl,Option.some.inj (makes.symm.trans makes')⟩

/-- An idle selector drives the first candidate that qualifies, or none where none does; each
candidate on the way that makes a device has made one, of these only that one has not been stopped,
and `stop` stops it. -/
theorem initialize_selects {a : AutoDevice Dev} (idle : a.driver = none) {cfg : BusConfig}
    (valid : a.cfg.normalized = .ok cfg) (outcomes : Nat → Outcome) :
    let run := a.initializeDevice outcomes
    let after := run.1
    let events := run.2.1
    let final := after.stop.1
    (∀ i candidate dev, First cfg outcomes 0 a.candidates i candidate dev →
      run.2.2 = .ok () ∧ after.driver = some (i,dev) ∧ after.selectedName = candidate.name ∧
      (∀ j, .created j ∈ events → j ≤ i ∧ (j < i → events.count (.stopped j) = 1)) ∧
      (∀ j ≤ i, ∀ other, a.candidates[j]? = some other → Makes cfg other → events.count (.created j) = 1) ∧
      .created i ∈ events ∧ .stopped i ∉ events ∧ after.stop.2 = [.stopped i]) ∧
    (NoneQualifies cfg outcomes 0 a.candidates →
      (∃ error, run.2.2 = .error error) ∧ after.driver = none ∧
      (∀ j, .created j ∈ events → events.count (.stopped j) = 1) ∧
      (∀ j other, a.candidates[j]? = some other → Makes cfg other → events.count (.created j) = 1) ∧
      after.stop.2 = []) ∧
    final.driver = none ∧ final.selectedName = "" ∧ final.candidates = a.candidates ∧
      final.cfg.normalized = .ok cfg := by
  have again := BusConfig.normalized_normalized valid
  rcases select_cases cfg outcomes a.candidates 0 [] with
    ⟨i,candidate,dev,events,first,cleaned,recorded,selected⟩ |
      ⟨none,rejections,events,cleaned,recorded,selected⟩
  · have ran : a.initializeDevice outcomes =
        ({ a with
          cfg := cfg
          canType := cfg.mode
          driver := some (0 + i,dev)
          selectedName := candidate.name },
          events ++ [.created (0 + i),.initialized (0 + i)],.ok ()) := by
      simp only [AutoDevice.initializeDevice,idle,valid,selected,Option.isSome_none,
        Bool.false_eq_true,if_false]
    rw [ran,Nat.zero_add]
    rw [Nat.zero_add] at cleaned recorded
    refine ⟨?_,?_,rfl,rfl,rfl,again⟩
    · intro j other made another
      obtain ⟨rfl,rfl,rfl⟩ := first.unique another
      refine ⟨rfl,rfl,rfl,?_,?_,by simp,?_,rfl⟩
      · intro j member
        rcases List.mem_append.mp member with early | last
        · have before := (cleaned.range j early).2
          refine ⟨Nat.le_of_lt before,fun _ => ?_⟩
          rw [List.count_append,cleaned.count_stopped j early]
          simp
        · have same : j = i := by simpa using last
          omega
      · intro j before other listed makes
        rw [List.count_append]
        by_cases last : j = i
        · have absent : events.count (.created j) = 0 := by
            apply List.count_eq_zero_of_not_mem
            intro member
            have range := cleaned.range j member
            omega
          rw [absent,last]
          simp
        · have made := recorded j other listed (by omega) makes
          rw [Nat.zero_add] at made
          have other : i ≠ j := fun same => last same.symm
          rw [cleaned.count_created made]
          simp [other]
      · intro member
        have early : .stopped i ∈ events := by simpa using member
        have made := cleaned.created_of_stopped early
        exact absurd (cleaned.range i made).2 (Nat.lt_irrefl i)
    · intro never
      exact absurd first.qualifies (never i candidate dev first.listed)
  · have ran : a.initializeDevice outcomes =
        ({ a with cfg := cfg, canType := cfg.mode },events,.error (.noDevice rejections)) := by
      simp only [AutoDevice.initializeDevice,idle,valid,selected,Option.isSome_none,
        Bool.false_eq_true,if_false]
    rw [ran]
    refine ⟨?_,?_,rfl,rfl,rfl,again⟩
    · intro i candidate dev first
      exact absurd first.qualifies (none i candidate dev first.listed)
    · intro _
      refine ⟨⟨_,rfl⟩,idle,cleaned.count_stopped,?_,?_⟩
      · intro j other listed makes
        obtain ⟨inside,_⟩ := List.getElem?_eq_some_iff.mp listed
        have made := recorded j other listed (by omega) makes
        rw [Nat.zero_add] at made
        exact cleaned.count_created made
      · simp only [AutoDevice.stop,idle]

/-- Four candidates of which the last makes a device that is kept. -/
def rejectedThrice : AutoDevice Nat :=
  ⟨Mode.fd,.default Mode.fd 1,[⟨"factory",none⟩,⟨"failed",some fun _ => some 1⟩,
    ⟨"wrong-mode",some fun _ => some 2⟩,⟨"selected",some fun _ => some 3⟩],none,""⟩

def rejectingOutcomes (i : Nat) : Outcome :=
  if i = 1 then ⟨.error "not available",true⟩ else ⟨.ok (),i == 3⟩

theorem initialize_selects_fourth :
    (rejectedThrice.initializeDevice rejectingOutcomes).1.driver = some (3,3) ∧
    (rejectedThrice.initializeDevice rejectingOutcomes).1.stop.2 = [.stopped 3] := by
  have first : First (.default Mode.fd 1) rejectingOutcomes 0 rejectedThrice.candidates 3
      ⟨"selected",some fun _ => some 3⟩ 3 := by
    refine ⟨rfl,⟨_,rfl,rfl,rfl,rfl⟩,?_⟩
    intro j less other made listed
    have place : j = 0 ∨ j = 1 ∨ j = 2 := by omega
    rcases place with rfl | rfl | rfl
    · cases Option.some.inj listed
      simp [Qualifies]
    · cases Option.some.inj listed
      simp [Qualifies,rejectingOutcomes]
    · cases Option.some.inj listed
      simp [Qualifies,rejectingOutcomes,BusConfig.default]
  have valid : rejectedThrice.cfg.normalized = .ok (.default Mode.fd 1) := rfl
  obtain ⟨selected,_⟩ := initialize_selects (a := rejectedThrice) rfl valid rejectingOutcomes
  obtain ⟨_,driver,_,_,_,_,_,stopped⟩ := selected _ _ _ first
  exact ⟨driver,stopped⟩

end Canbuskit.Driver.Selection
