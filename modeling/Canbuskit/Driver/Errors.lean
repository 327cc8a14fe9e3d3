import Canbuskit.Can.MemoryErrors
import Canbuskit.Driver.Bus

/-! The error channel of a driver: whether every call of `Errors` returns one channel and that
channel is never closed. A vendor device makes its channel once and keeps it. `autoDevice` has
the channel of the device it has selected, and a closed one without it; a memory endpoint
closes its channel with itself. -/
namespace Canbuskit.Driver
open Can Channel Locks Runs

section devices

variable {Thread Memory Answer : Type} {device : Device Memory Answer}

/-- What one step of the bus does to its device. -/
inductive Device.Change (device : Device Memory Answer) (m : Memory) : Memory → Prop
  | same : device.Change m m
  | initialized (answer) : device.Change m (device.initializeDevice answer m).1
  | started : device.Change m (device.start m).1
  | stopped : device.Change m (device.stop m)
  | setBRS (enabled) : device.Change m (device.setBRS enabled m)
  | errors : device.Change m (device.errors m).1

theorem Bus.Transition.change [DecidableEq Thread] {b c : Bus Thread Memory} {thread : Thread}
    {action : Action Answer} {reply : Option Reply}
    (step : b.Transition device thread action reply c) : device.Change b.device c.device := by
  cases step with
  | @initialized answer _ _ result | @initializeFailed answer _ _ _ result =>
    have change : device.Change b.device (device.initializeDevice answer b.device).1 :=
      .initialized answer
    rwa [result] at change
  | started _ result | startFailed _ result =>
    have change : device.Change b.device (device.start b.device).1 := .started
    rwa [result] at change
  | openStopped | closeStopped => exact .stopped
  | sendSet => exact .setBRS _
  | errorsRead => exact .errors
  | _ => exact .same

def BusMove.errorsRead (move : BusMove Thread Memory Answer) : Option Nat :=
  match move.reply with
  | some (.errors channel) => some channel
  | _ => none

def BusMove.heapAfter (device : Device Memory Answer) (move : BusMove Thread Memory Answer) : Heap :=
  device.heap move.after.device

theorem Bus.Transition.errors_eq [DecidableEq Thread] {b c : Bus Thread Memory} {thread : Thread}
    {action : Action Answer} {channel : Nat}
    (step : b.Transition device thread action (some (.errors channel)) c) :
    action = .call .errors ∧ channel = (device.errors b.device).2 ∧
      c.device = (device.errors b.device).1 := by
  cases step
  exact ⟨rfl,rfl,rfl⟩

theorem BusMove.Step.read [DecidableEq Thread] {b c : Bus Thread Memory}
    {move : BusMove Thread Memory Answer} {channel : Nat} (step : BusMove.Step device b move c)
    (reads : move.errorsRead = some channel) :
    move.action = .call .errors ∧ channel = (device.errors b.device).2 ∧
      c.device = (device.errors b.device).1 := by
  have transition := step.transition
  unfold BusMove.errorsRead at reads
  split at reads
  · rename_i reply
    rw [reply] at transition
    cases reads
    exact transition.errors_eq
  · contradiction

/-- A device that keeps the channel it has made in `slot` for as long as it is `selected`. -/
structure Channelled (device : Device Memory Answer) (slot : Memory → Option Nat)
    (selected : Memory → Prop) : Prop where
  grows : ∀ m n, device.Change m n → (device.heap m).Grows (device.heap n)
  kept : ∀ m n c, device.Change m n → selected n → slot m = some c → slot n = some c
  fresh : ∀ m n c, device.Change m n → slot m = none → slot n = some c →
    (device.heap m).Fresh (device.heap n) c
  dropped : ∀ m, ¬ selected m → slot m = none
  read : ∀ m, selected m → slot (device.errors m).1 = some (device.errors m).2
  unread : ∀ m, ¬ selected m → (device.errors m).2 = closedErrors

section vendor

theorem telemetry_made (o : Observability) (heap : Heap) :
    (o.telemetry heap).1.events = some (o.telemetry heap).2.2 := by
  cases events : o.events <;> simp [Observability.telemetry,events]

theorem telemetry_grows (o : Observability) (heap : Heap) :
    heap.Grows (o.telemetry heap).2.1 := by
  cases events : o.events with
  | none => simpa [Observability.telemetry,events] using heap.grows_make
  | some => simpa [Observability.telemetry,events] using Heap.Grows.refl heap

theorem telemetry_kept {o : Observability} {channel : Nat} (heap : Heap)
    (events : o.events = some channel) : (o.telemetry heap).1.events = some channel := by
  simp [Observability.telemetry,events]

theorem telemetry_fresh {o : Observability} {heap : Heap} {channel : Nat} (events : o.events = none)
    (made : (o.telemetry heap).1.events = some channel) :
    heap.Fresh (o.telemetry heap).2.1 channel := by
  simp only [Observability.telemetry,events,Option.some.injEq] at made ⊢
  subst made
  exact ⟨Nat.le_refl _,Nat.lt_succ_self _⟩

/-- An initialization prepares the telemetry, or leaves it alone and does not succeed unless
the device was initialized before. -/
theorem initialize_telemetry (answer : Bool) (v : Vendor) (heap : Heap) :
    ((v.initializeDevice answer heap).1.observability = v.observability ∧
        (v.initializeDevice answer heap).2.1 = heap ∧
        ((v.initializeDevice answer heap).2.2 = .ok () → v.lifecycle.initialized = true)) ∨
      (v.initializeDevice answer heap).1.observability = (v.observability.telemetry heap).1 ∧
        (v.initializeDevice answer heap).2.1 = (v.observability.telemetry heap).2.1 := by
  unfold Vendor.initializeDevice
  by_cases done : v.lifecycle.initialized = true
  · simp [done]
  · rw [if_neg done]
    cases v.cfg.normalized with
    | error => exact .inl ⟨rfl,rfl,by simp⟩
    | ok cfg =>
      dsimp only
      split
      · exact .inl ⟨rfl,rfl,by simp⟩
      · generalize Vendor.accept v.model cfg = verdict
        obtain ⟨stored,accepted⟩ := verdict
        cases accepted with
        | error => exact .inl ⟨rfl,rfl,by simp⟩
        | ok =>
          dsimp only
          split
          · exact .inl ⟨rfl,rfl,by simp⟩
          · split <;> exact .inr ⟨rfl,rfl⟩

/-- The channel of a vendor device, once it is made. -/
def Vendor.channel (m : Vendor × Heap) : Option Nat := m.1.observability.events

theorem vendor_change {m n : Vendor × Heap} (change : vendor.Change m n) :
    n.1.observability = m.1.observability ∧ n.2 = m.2 ∨
      n.1.observability = (m.1.observability.telemetry m.2).1 ∧
        n.2 = (m.1.observability.telemetry m.2).2.1 := by
  cases change with
  | same | stopped | setBRS => exact .inl ⟨rfl,rfl⟩
  | errors => exact .inr ⟨rfl,rfl⟩
  | started =>
    refine .inl ⟨?_,rfl⟩
    simp only [vendor,Vendor.start]
    split_ifs <;> rfl
  | initialized answer =>
    rcases initialize_telemetry answer m.1 m.2 with ⟨same,heap,_⟩ | made
    · exact .inl ⟨same,heap⟩
    · exact .inr made

theorem vendor_channelled : Channelled vendor Vendor.channel fun _ => True where
  grows m n change := by
    change m.2.Grows n.2
    rcases vendor_change change with ⟨_,heap⟩ | ⟨_,heap⟩
    · rw [heap]
      exact .refl _
    · rw [heap]
      exact telemetry_grows _ _
  kept m n c change _ channel := by
    unfold Vendor.channel
    rcases vendor_change change with ⟨same,_⟩ | ⟨made,_⟩
    · rw [same]
      exact channel
    · rw [made]
      exact telemetry_kept _ channel
  fresh m n c change none channel := by
    unfold Vendor.channel at none channel
    rcases vendor_change change with ⟨same,_⟩ | ⟨made,heap⟩
    · rw [same,none] at channel
      contradiction
    · change m.2.Fresh n.2 c
      rw [made] at channel
      rw [heap]
      exact telemetry_fresh none channel
  dropped m unselected := absurd trivial unselected
  read m _ := telemetry_made _ _
  unread m unselected := absurd trivial unselected

end vendor

section auto

theorem select_fresh (cfg : BusConfig) (candidates : List AutoCandidate) :
    ∀ (answers : List Bool) (heap : Heap),
      heap.Grows (Auto.select cfg candidates answers heap).1 ∧
        ∀ name dev, (Auto.select cfg candidates answers heap).2 = some (name,dev) →
          ∃ c, dev.observability.events = some c ∧
            heap.Fresh (Auto.select cfg candidates answers heap).1 c := by
  induction candidates with
  | nil => exact fun _ heap => ⟨.refl heap,by simp [Auto.select]⟩
  | cons candidate rest ih =>
    intro answers heap
    cases built : candidate.new.bind (· cfg) with
    | none =>
      simp only [Auto.select,built]
      exact ih answers.tail heap
    | some model =>
      generalize attempt : (Vendor.new model cfg).initializeDevice (answers.headD false) heap = tried
      obtain ⟨dev,next,result⟩ := tried
      have telemetry := initialize_telemetry (answers.headD false) (Vendor.new model cfg) heap
      simp only [attempt] at telemetry
      have grows : heap.Grows next := by
        rcases telemetry with ⟨_,same,_⟩ | ⟨_,same⟩
        · rw [same]
          exact .refl _
        · rw [same]
          exact telemetry_grows _ _
      have later : heap.Grows (Auto.select cfg rest answers.tail next).1 ∧
          ∀ name dev, (Auto.select cfg rest answers.tail next).2 = some (name,dev) →
            ∃ c, dev.observability.events = some c ∧
              heap.Fresh (Auto.select cfg rest answers.tail next).1 c := by
        obtain ⟨further,selected⟩ := ih answers.tail next
        refine ⟨grows.trans further,fun name dev found => ?_⟩
        obtain ⟨c,events,fresh⟩ := selected name dev found
        exact ⟨c,events,fresh.extend grows (.refl _)⟩
      simp only [Auto.select,built,attempt]
      cases result with
      | error => exact later
      | ok =>
        dsimp only
        split
        · exact later
        · refine ⟨grows,fun name selected found => ?_⟩
          obtain ⟨-,rfl⟩ := Prod.mk.inj (Option.some.inj found)
          rcases telemetry with ⟨_,_,initialized⟩ | ⟨made,same⟩
          · exact absurd (initialized rfl) (by simp [Vendor.new])
          · have events := made.symm ▸ telemetry_made (Vendor.new model cfg).observability heap
            refine ⟨_,events,?_⟩
            rw [same]
            exact telemetry_fresh rfl (telemetry_made _ _)

/-- The channel of the selected backend. -/
def Auto.channel (m : Auto × Heap) : Option Nat := m.1.driver.bind (·.observability.events)

def Auto.selected (m : Auto × Heap) : Prop := m.1.driver.isSome = true

/-- A step of `autoDevice` that leaves the selection alone is a step of the selected backend;
the others select a backend or drop it. -/
inductive Auto.Change (m n : Auto × Heap) : Prop
  | unselected (before : m.1.driver = none) (after : n.1.driver = none) (grows : m.2.Grows n.2)
  | dropped (after : n.1.driver = none) (same : n.2 = m.2)
  | selected (before : m.1.driver = none) (dev c) (after : n.1.driver = some dev)
      (events : dev.observability.events = some c) (grows : m.2.Grows n.2) (fresh : m.2.Fresh n.2 c)
  | passed (dev next) (before : m.1.driver = some dev) (after : n.1.driver = some next)
      (change : vendor.Change (dev,m.2) (next,n.2))

theorem auto_change {m n : Auto × Heap} (change : auto.Change m n) : Auto.Change m n := by
  have same {next : Auto} (driver : next.driver = m.1.driver) : Auto.Change m (next,m.2) := by
    cases before : m.1.driver with
    | none => exact .unselected before (driver.trans before) (.refl _)
    | some dev => exact .passed dev dev before (driver.trans before) .same
  cases change with
  | same => exact same rfl
  | stopped => exact .dropped rfl rfl
  | setBRS enabled =>
    cases before : m.1.driver with
    | none => exact .unselected before (by simp [auto,Auto.setBRS,before]) (.refl _)
    | some dev =>
      have after : (auto.setBRS enabled m).1.driver = some (dev.setBRS enabled) := by
        simp [auto,Auto.setBRS,before]
      exact .passed dev _ before after (.setBRS enabled)
  | started =>
    cases before : m.1.driver with
    | none => exact .unselected before (by simp [auto,Auto.start,before]) (.refl _)
    | some dev => exact .passed dev dev.start.1 before (by simp [auto,Auto.start,before]) .started
  | errors =>
    cases before : m.1.driver with
    | none =>
      have none : auto.errors m = (m,closedErrors) := by simp [auto,Auto.errors,before]
      rw [none]
      exact same rfl
    | some dev =>
      have some : (auto.errors m).1 =
          ({ m.1 with driver := some (dev.errors m.2).1 },(dev.errors m.2).2.1) := by
        simp [auto,Auto.errors,before]
      rw [some]
      exact .passed dev (dev.errors m.2).1 before rfl .errors
  | initialized answers =>
    by_cases before : m.1.driver.isSome = true
    · have none : (auto.initializeDevice answers m).1 = m := by
        simp [auto,Auto.initializeDevice,before]
      rw [none]
      exact same rfl
    · have unselected : m.1.driver = none := by simpa using before
      cases normal : m.1.cfg.normalized with
      | error error =>
        have kept : (auto.initializeDevice answers m).1 = m := by
          simp [auto,Auto.initializeDevice,before,normal]
        rw [kept]
        exact same rfl
      | ok cfg =>
        obtain ⟨grows,fresh⟩ := select_fresh cfg m.1.candidates answers m.2
        generalize attempt : Auto.select cfg m.1.candidates answers m.2 = tried at grows fresh
        obtain ⟨heap,result⟩ := tried
        cases result with
        | none =>
          have failed : (auto.initializeDevice answers m).1 =
              ({ m.1 with cfg := cfg, canType := cfg.mode },heap) := by
            simp [auto,Auto.initializeDevice,normal,attempt,unselected]
          rw [failed]
          exact .unselected unselected unselected grows
        | some found =>
          obtain ⟨name,dev⟩ := found
          obtain ⟨c,events,fresh⟩ := fresh name dev rfl
          have taken : (auto.initializeDevice answers m).1 =
              ({ m.1 with cfg := cfg, canType := cfg.mode, driver := some dev, selectedName := name },heap) := by
            simp [auto,Auto.initializeDevice,normal,attempt,unselected]
          rw [taken]
          exact .selected unselected dev c rfl events grows fresh

theorem auto_channelled : Channelled auto Auto.channel Auto.selected where
  grows m n change := by
    cases auto_change change with
    | unselected _ _ grows => exact grows
    | dropped _ same =>
      change m.2.Grows n.2
      rw [same]
      exact .refl _
    | selected _ _ _ _ _ grows => exact grows
    | passed _ _ _ _ change => exact vendor_channelled.grows _ _ change
  kept m n c change selected channel := by
    unfold Auto.channel at channel ⊢
    unfold Auto.selected at selected
    cases auto_change change with
    | unselected before | selected before => simp [before] at channel
    | dropped after => simp [after] at selected
    | passed _ _ before after change =>
      rw [before] at channel
      rw [after]
      exact vendor_channelled.kept _ _ c change trivial channel
  fresh m n c change none channel := by
    unfold Auto.channel at none channel
    cases auto_change change with
    | unselected _ after | dropped after => simp [after] at channel
    | selected _ _ _ after events _ fresh =>
      rw [after] at channel
      rw [← Option.some.inj (events.symm.trans channel)]
      exact fresh
    | passed _ _ before after change =>
      rw [before] at none
      rw [after] at channel
      exact vendor_channelled.fresh _ _ c change none channel
  dropped m unselected := by
    have none : m.1.driver = none := by simpa [Auto.selected] using unselected
    simp [Auto.channel,none]
  read m selected := by
    obtain ⟨dev,driver⟩ := Option.isSome_iff_exists.mp selected
    simp only [auto,Auto.errors,Auto.channel,driver]
    exact vendor_channelled.read (dev,m.2) trivial
  unread m unselected := by
    have none : m.1.driver = none := by simpa [Auto.selected] using unselected
    simp [auto,Auto.errors,none]

end auto

/-- Every call of `Errors` finds a device selected, and between two calls it is not dropped. -/
structure Selects (selected : Memory → Prop) (moves : List (BusMove Thread Memory Answer)) : Prop where
  reads : ∀ move ∈ moves, move.action = .call .errors → selected move.before.device
  between : ∀ past first middle second later, moves = past ++ first :: middle ++ second :: later →
    first.action = .call .errors → second.action = .call .errors →
    ∀ move ∈ middle, selected move.after.device

section runs

variable {slot : Memory → Option Nat} {selected : Memory → Prop} [DecidableEq Thread]
  {b c : Bus Thread Memory} {move : BusMove Thread Memory Answer}
  {moves : List (BusMove Thread Memory Answer)}

/-- No channel was closed since the start, and the one in the slot was made since then. -/
structure Channelled.Sound (device : Device Memory Answer) (slot : Memory → Option Nat) (m : Memory) :
    Prop where
  grows : packageHeap.Grows (device.heap m)
  fresh : ∀ channel, slot m = some channel → packageHeap.Fresh (device.heap m) channel

/-- A channel that was made and is not in the slot. -/
def Channelled.Lost (device : Device Memory Answer) (slot : Memory → Option Nat) (channel : Nat)
    (m : Memory) : Prop :=
  slot m ≠ some channel ∧ channel < (device.heap m).made

theorem Channelled.remains (laws : Channelled device slot selected) {m : Memory} {channel : Nat}
    (holds : slot m = some channel) : selected m := by
  by_contra unselected
  rw [laws.dropped m unselected] at holds
  contradiction

theorem Channelled.change (laws : Channelled device slot selected) {m n : Memory} {channel : Nat}
    (change : device.Change m n) (holds : slot n = some channel) :
    slot m = some channel ∨ (device.heap m).Fresh (device.heap n) channel := by
  cases before : slot m with
  | none => exact .inr (laws.fresh m n channel change before holds)
  | some other =>
    rw [laws.kept m n other change (laws.remains holds) before] at holds
    exact .inl holds

theorem Channelled.grown (laws : Channelled device slot selected)
    (run : Run (BusMove.Step device) b moves c) :
    (device.heap b.device).Grows (device.heap c.device) := by
  refine run.invariant (fun c => (device.heap b.device).Grows (device.heap c.device)) (.refl _) ?_
  intro s move t grows step
  exact grows.trans (laws.grows _ _ step.transition.change)

theorem Channelled.sound (laws : Channelled device slot selected)
    (run : Run (BusMove.Step device) b moves c) (start : Channelled.Sound device slot b.device) :
    Channelled.Sound device slot c.device := by
  refine run.invariant (fun b => Channelled.Sound device slot b.device) start ?_
  intro s move t sound step
  have change := step.transition.change
  have grows := laws.grows _ _ change
  refine ⟨sound.grows.trans grows,?_⟩
  intro channel holds
  rcases laws.change change holds with before | new
  · exact (sound.fresh channel before).extend (.refl _) grows
  · exact new.extend sound.grows (.refl _)

theorem Channelled.lost (laws : Channelled device slot selected) {channel : Nat}
    (run : Run (BusMove.Step device) b moves c)
    (start : Channelled.Lost device slot channel b.device) :
    Channelled.Lost device slot channel c.device := by
  refine run.invariant (fun b => Channelled.Lost device slot channel b.device) start ?_
  rintro s move t ⟨missing,made⟩ step
  have change := step.transition.change
  refine ⟨?_,Nat.lt_of_lt_of_le made (laws.grows _ _ change).made⟩
  intro holds
  rcases laws.change change holds with before | new
  · exact missing before
  · exact absurd new.1 (Nat.not_le_of_lt made)

/-- As long as a device is selected after every step, the slot keeps its channel. -/
theorem Channelled.persists (laws : Channelled device slot selected) {channel : Nat}
    (run : Run (BusMove.Step device) b moves c)
    (remains : ∀ move ∈ moves, selected move.after.device) (holds : slot b.device = some channel) :
    slot c.device = some channel := by
  refine (Run.restrict_iff.mpr ⟨run,remains⟩).invariant (fun b => slot b.device = some channel) holds ?_
  rintro s move t holds ⟨step,selected⟩
  rw [step.2.1] at selected
  exact laws.kept _ _ channel step.transition.change selected holds

theorem Bus.Transition.errorsCalled {b c : Bus Thread Memory} {thread : Thread} {reply : Option Reply}
    (step : b.Transition device thread (.call .errors) reply c) :
    reply = some (.errors (device.errors b.device).2) := by
  cases step
  rfl

theorem BusMove.Step.called (step : BusMove.Step device b move c) (call : move.action = .call .errors) :
    move.errorsRead = some (device.errors b.device).2 := by
  have transition := step.transition
  rw [call] at transition
  rw [BusMove.errorsRead,transition.errorsCalled]

theorem Channelled.handed (laws : Channelled device slot selected) {channel : Nat}
    (step : BusMove.Step device b move c) (remains : selected b.device)
    (reads : move.errorsRead = some channel) : slot c.device = some channel := by
  obtain ⟨_,rfl,after⟩ := step.read reads
  rw [after]
  exact laws.read b.device remains

/-- A channel that was lost is not handed out again. -/
theorem Channelled.replaced (laws : Channelled device slot selected) {channel other : Nat}
    (step : BusMove.Step device b move c) (remains : selected b.device)
    (lost : Channelled.Lost device slot channel b.device) (reads : move.errorsRead = some other) :
    other ≠ channel := by
  rintro rfl
  exact (laws.lost (.single step) lost).1 (laws.handed step remains reads)

/-- The errors contract of a bus holds exactly where its device stays selected around the
calls of `Errors`. -/
theorem Channelled.stable_iff (laws : Channelled device slot selected)
    (run : Run (BusMove.Step device) b moves c) (start : device.heap b.device = packageHeap)
    (empty : slot b.device = none) :
    Stable BusMove.errorsRead (BusMove.heapAfter device) moves ↔ Selects selected moves := by
  have initially : Channelled.Sound device slot b.device :=
    ⟨start ▸ .refl _,fun channel holds => by simp [empty] at holds⟩
  have closed : ∀ step ∈ moves, (step.heapAfter device).closed = packageHeap.closed := by
    intro step member
    obtain ⟨_,_,s,t,_,before,taken,_⟩ := run.cut_mem member
    rw [BusMove.heapAfter,taken.2.1]
    exact (laws.sound (before.snoc taken) initially).grows.closed
  constructor
  · intro stable
    have reads : ∀ move ∈ moves, move.action = .call .errors → selected move.before.device := by
      intro move member call
      by_contra unselected
      obtain ⟨_,_,s,t,_,_,taken,_⟩ := run.cut_mem member
      rw [taken.1] at unselected
      have live := stable.live move member _ (taken.called call) move member
      rw [closed move member,laws.unread _ unselected] at live
      exact live (by decide)
    refine ⟨reads,?_⟩
    rintro past first middle second later rfl callFirst callSecond move member
    by_contra unselected
    obtain ⟨u,v,upTo,again,_⟩ := run.cut
    obtain ⟨s,t,before,taken,between⟩ := upTo.cut
    have readFirst := taken.called callFirst
    have readSecond := again.called callSecond
    have selectedFirst := reads first (by simp) callFirst
    have selectedSecond := reads second (by simp) callSecond
    rw [taken.1] at selectedFirst
    rw [again.1] at selectedSecond
    obtain ⟨_,_,w,x,rfl,toDropped,dropping,fromDropped⟩ := between.cut_mem member
    rw [dropping.2.1] at unselected
    have fresh := (laws.sound (before.snoc taken) initially).fresh _
      (laws.handed taken selectedFirst readFirst)
    have lost : Channelled.Lost device slot (device.errors s.device).2 x.device :=
      ⟨by simp [laws.dropped _ unselected],
        (fresh.extend (.refl _) (laws.grown (toDropped.snoc dropping))).2⟩
    refine laws.replaced again selectedSecond (laws.lost fromDropped lost) readSecond ?_
    exact (stable.same _ _ _ _ _ rfl _ _ readFirst readSecond).symm
  · intro selects
    refine ⟨?_,?_⟩
    · rintro past first middle second later rfl channel other readFirst readSecond
      obtain ⟨u,v,upTo,again,_⟩ := run.cut
      obtain ⟨s,t,before,taken,between⟩ := upTo.cut
      have callFirst := (taken.read readFirst).1
      have callSecond := (again.read readSecond).1
      have selectedFirst := selects.reads first (by simp) callFirst
      have selectedSecond := selects.reads second (by simp) callSecond
      rw [taken.1] at selectedFirst
      rw [again.1] at selectedSecond
      have held := laws.persists between
        (selects.between past first middle second later rfl callFirst callSecond)
        (laws.handed taken selectedFirst readFirst)
      have kept := laws.handed again selectedSecond readSecond
      have still := laws.kept _ _ channel again.transition.change (laws.remains kept) held
      exact Option.some.inj (still.symm.trans kept)
    · intro call member channel reads step other
      obtain ⟨_,_,s,t,_,before,taken,_⟩ := run.cut_mem member
      have remains := selects.reads call member (taken.read reads).1
      rw [taken.1] at remains
      have fresh := (laws.sound (before.snoc taken) initially).fresh _
        (laws.handed taken remains reads)
      rw [closed step other]
      intro dead
      rw [List.mem_singleton.mp dead] at fresh
      exact absurd fresh.1 (by decide)

end runs

/-- It is enough that a device is selected from the first call of `Errors` on. -/
theorem selects_from {selected : Memory → Prop} {past later : List (BusMove Thread Memory Answer)}
    (quiet : ∀ move ∈ past, move.action ≠ .call .errors)
    (remains : ∀ move ∈ later, selected move.before.device ∧ selected move.after.device) :
    Selects selected (past ++ later) := by
  refine ⟨?_,?_⟩
  · intro move member call
    rcases List.mem_append.mp member with old | new
    · exact absurd call (quiet move old)
    · exact (remains move new).1
  · intro before first middle second rest shape callFirst _ move member
    rw [List.append_assoc] at shape
    rcases List.append_eq_append_iff.mp shape with ⟨gap,_,rfl⟩ | ⟨gap,rfl,tail⟩
    · exact (remains move (by simp [member])).2
    · cases gap with
      | nil =>
        rw [List.nil_append] at tail
        exact (remains move (by simp [← tail,member])).2
      | cons head gap =>
        obtain ⟨rfl,_⟩ := List.cons.inj tail
        exact absurd callFirst (quiet first (by simp))

end devices

/-- A bus over a vendor device keeps the errors contract. One over `autoDevice` keeps it
exactly where a backend stays selected around the calls of `Errors`, and a memory endpoint
exactly where it is not both closed and asked for its channel. -/
theorem errors_contract {Thread : Type} [DecidableEq Thread] :
    (∀ model cfg moves (b : Bus Thread (Vendor × Heap)),
      Run (BusMove.Step vendor) (newBus (.new model cfg,packageHeap)) moves b →
      Stable BusMove.errorsRead (BusMove.heapAfter vendor) moves) ∧
    (∀ cfg candidates moves (b : Bus Thread (Auto × Heap)),
      Run (BusMove.Step auto) (newBus (.new cfg candidates,packageHeap)) moves b →
      (Stable BusMove.errorsRead (BusMove.heapAfter auto) moves ↔ Selects Auto.selected moves)) ∧
    ∀ cfg port moves link, Run Memory.Move.Step (Memory.newPair cfg) moves link →
      (Stable (Memory.Move.errorsRead port) Memory.Move.heapAfter moves ↔
        (∀ move ∈ moves, move.port = port → move.call ≠ .closeBus) ∨
          ∀ move ∈ moves, move.port = port → move.call ≠ .errors) := by
  refine ⟨?_,?_,?_⟩
  · intro model cfg moves b run
    exact (vendor_channelled.stable_iff run rfl rfl).mpr
      ⟨fun _ _ _ => trivial,fun _ _ _ _ _ _ _ _ _ _ => trivial⟩
  · intro cfg candidates moves b run
    exact auto_channelled.stable_iff run rfl rfl
  · intro cfg port moves link run
    exact Memory.stable_iff run (Memory.newPair_sound cfg) port

instance (m : Auto × Heap) : Decidable (Auto.selected m) := inferInstanceAs (Decidable (_ = true))

/-- A call on a memory endpoint, as a move. -/
def moved (link : Memory.Link) (port : Memory.Port) (call : Memory.Call) : Memory.Move :=
  ⟨link,port,call,(link.call port call).2,(link.call port call).1⟩

/-- `Errors` before, between and after two openings of a vendor device, twice on an opened
`autoDevice`, and on one endpoint of a memory pair whose other endpoint closes. -/
theorem errors_contract_opened :
    (∃ moves, ∃ b : Bus Bool (Vendor × Heap),
      Run (BusMove.Step vendor) (newBus (.new .toomoss (.default Mode.fd 0),packageHeap)) moves b ∧
      moves.filterMap BusMove.errorsRead = [1,1,1] ∧
      Stable BusMove.errorsRead (BusMove.heapAfter vendor) moves) ∧
    (∃ moves, ∃ b : Bus Bool (Auto × Heap),
      Run (BusMove.Step auto) (newBus (.new (.default Mode.fd 0) [],packageHeap)) moves b ∧
      moves.filterMap BusMove.errorsRead = [1,1] ∧
      Stable BusMove.errorsRead (BusMove.heapAfter auto) moves) ∧
    ∃ moves link, Run Memory.Move.Step (Memory.newPair (.default Mode.fd 0)) moves link ∧
      Memory.Port.errors .b ∈ link.heap.closed ∧
      Stable (Memory.Move.errorsRead .a) Memory.Move.heapAfter moves := by
  obtain ⟨vendors,autos,memories⟩ := @errors_contract Bool inferInstance
  refine ⟨?_,?_,?_⟩
  · have executed : ((newBus (Vendor.new .toomoss (.default Mode.fd 0),packageHeap)).execute vendor
        (undisturbed false .errors 0 ++ undisturbed false .openBus 4 ++ undisturbed true .errors 0 ++
          undisturbed true .closeBus 4 ++ undisturbed false .openBus 4 ++
          undisturbed false .errors 0)).map (fun result =>
            result.1.filterMap BusMove.errorsRead) = some [1,1,1] := by
      decide +kernel
    obtain ⟨⟨moves,b⟩,executed,reads⟩ := Option.map_eq_some_iff.mp executed
    have run := Bus.execute_run executed
    exact ⟨moves,b,run,reads,vendors _ _ moves b run⟩
  · let start : Bus Bool (Auto × Heap) := newBus (.new (.default Mode.fd 0) [],packageHeap)
    let opening : List (Bool × Action (List Bool)) :=
      (false,.call .openBus) :: List.replicate 4 (false,.advance [true])
    have executed : ((start.execute auto opening).bind fun first =>
        (first.2.execute auto [(true,.call .errors),(false,.call .errors)]).map fun second =>
          (first,second)).map (fun result =>
            ((result.1.1 ++ result.2.1).filterMap BusMove.errorsRead,
              result.1.1.all fun move => move.action ≠ .call .errors,
              result.2.1.all fun move =>
                Auto.selected move.before.device ∧ Auto.selected move.after.device)) =
        some ([1,1],true,true) := by
      decide +kernel
    obtain ⟨⟨⟨past,b⟩,⟨later,c⟩⟩,executed,observed⟩ := Option.map_eq_some_iff.mp executed
    obtain ⟨⟨_,_⟩,first,executed⟩ := Option.bind_eq_some_iff.mp executed
    obtain ⟨⟨_,_⟩,second,same⟩ := Option.map_eq_some_iff.mp executed
    obtain ⟨⟨rfl,rfl⟩,⟨rfl,rfl⟩⟩ : (_ = past ∧ _ = b) ∧ (_ = later ∧ _ = c) := by
      simpa only [Prod.mk.injEq] using same
    simp only [Prod.mk.injEq] at observed
    obtain ⟨reads,quiet,remains⟩ := observed
    have run := (Bus.execute_run first).append (Bus.execute_run second)
    refine ⟨_,_,run,reads,(autos _ _ _ _ run).mpr (selects_from ?_ ?_)⟩
    · exact fun move member => of_decide_eq_true (List.all_eq_true.mp quiet move member)
    · exact fun move member => of_decide_eq_true (List.all_eq_true.mp remains move member)
  · let start := Memory.newPair (.default Mode.fd 0)
    let opened := moved start .a .errors
    let closed := moved opened.after .b .closeBus
    have run : Run Memory.Move.Step start [opened,closed,moved closed.after .a .errors]
        (moved closed.after .a .errors).after :=
      ((Run.single ⟨rfl,rfl,rfl⟩).snoc ⟨rfl,rfl,rfl⟩).snoc ⟨rfl,rfl,rfl⟩
    refine ⟨_,_,run,by decide,(memories _ .a _ _ run).mpr (.inl ?_)⟩
    simp [opened,closed,moved]

/-- `autoDevice` hands out a closed channel before it is opened, and a memory endpoint closes
its channel. -/
theorem errors_contract_broken :
    (¬ ∀ cfg candidates moves (b : Bus Bool (Auto × Heap)),
      Run (BusMove.Step auto) (newBus (.new cfg candidates,packageHeap)) moves b →
      Stable BusMove.errorsRead (BusMove.heapAfter auto) moves) ∧
    ¬ ∀ cfg port moves link, Run Memory.Move.Step (Memory.newPair cfg) moves link →
      Stable (Memory.Move.errorsRead port) Memory.Move.heapAfter moves := by
  refine ⟨?_,?_⟩
  · intro stable
    let start : Bus Bool (Auto × Heap) := newBus (.new (.default Mode.fd 0) [],packageHeap)
    let asked : BusMove Bool (Auto × Heap) (List Bool) :=
      ⟨start,true,.call .errors,some (.errors closedErrors),start⟩
    have run : Run (BusMove.Step auto) start [asked] start := Run.single ⟨rfl,rfl,rfl⟩
    exact (stable _ _ _ _ run).live asked (by simp) closedErrors rfl asked (by simp) (by decide)
  · intro stable
    let start := Memory.newPair (.default Mode.fd 0)
    let asked := moved start .a .errors
    have run : Run Memory.Move.Step start [asked,moved asked.after .a .closeBus]
        (moved asked.after .a .closeBus).after :=
      (Run.single ⟨rfl,rfl,rfl⟩).snoc ⟨rfl,rfl,rfl⟩
    exact (stable _ .a _ _ run).live asked (by simp) 0 rfl
      (moved asked.after .a .closeBus) (by simp) (by decide)

end Canbuskit.Driver
