import Canbuskit.Driver.Bus

/-! Whether the open flag of a bus and the lifecycle of its device agree. `Close` clears the
flag under `mu` but stops the device after it has released `mu`, and `Open` takes `mu` only, so
an `Open` can run in between; every run in which none starts the device there keeps the two
together. -/
namespace Canbuskit.Driver
open Can Channel Locks Runs

variable {Thread Memory Answer : Type} {device : Device Memory Answer} {state : Memory → Lifecycle}

/-- What the backends promise: `initialize` and `start` do nothing a second time, `start`
needs an initialized device, `stop` undoes both, and nothing else touches the lifecycle. -/
structure Contract (device : Device Memory Answer) (state : Memory → Lifecycle) : Prop where
  again : ∀ answer m, (state m).initialized = true →
    (device.initializeDevice answer m).2 = .ok () ∧
      state (device.initializeDevice answer m).1 = state m
  unopened : ∀ m, (state m).initialized = false → (device.start m).2 ≠ .ok ()
  started : ∀ m next, device.start m = (next,.ok ()) → state next = ⟨true,true⟩
  stopped : ∀ m, state (device.stop m) = ⟨false,false⟩
  setBRS : ∀ enabled m, state (device.setBRS enabled m) = state m
  errors : ∀ m, state (device.errors m).1 = state m

theorem vendor_contract : Contract vendor fun m => m.1.lifecycle where
  again answer m done := by simp [vendor,Vendor.initializeDevice,done]
  unopened m shut := by simp [vendor,Vendor.start,shut]
  started m next result := by
    cases done : m.1.lifecycle.initialized with
    | false => simp [vendor,Vendor.start,done] at result
    | true =>
      simp only [vendor,Vendor.start,done,Bool.not_true,Bool.false_eq_true,if_false,
        Prod.mk.injEq] at result
      rw [← result.1]
      exact Lifecycle.start_up done
  stopped m := rfl
  setBRS enabled m := rfl
  errors m := rfl

def Auto.lifecycle (a : Auto) : Lifecycle :=
  match a.driver with
  | none => ⟨false,false⟩
  | some dev => dev.lifecycle

theorem auto_contract : Contract auto fun m => m.1.lifecycle where
  again answers m done := by
    cases driver : m.1.driver with
    | none => simp [Auto.lifecycle,driver] at done
    | some dev => simp [auto,Auto.initializeDevice,driver]
  unopened m shut := by
    cases driver : m.1.driver with
    | none => simp [auto,Auto.start,driver]
    | some dev =>
      simp only [Auto.lifecycle,driver] at shut
      simp [auto,Auto.start,driver,Vendor.start,shut]
  started m next result := by
    cases driver : m.1.driver with
    | none => simp [auto,Auto.start,driver] at result
    | some dev =>
      have selected : vendor.start (dev,m.2) = ((dev.start.1,m.2),dev.start.2) := rfl
      simp only [auto,Auto.start,driver,Prod.mk.injEq] at result
      obtain ⟨rfl,finished⟩ := result
      rw [finished] at selected
      exact vendor_contract.started _ _ selected
  stopped m := rfl
  setBRS enabled m := by
    cases driver : m.1.driver <;> simp [auto,Auto.setBRS,Auto.lifecycle,driver,Vendor.setBRS]
  errors m := by
    cases driver : m.1.driver <;> simp [auto,Auto.errors,Auto.lifecycle,driver,Vendor.errors]

namespace Place

def holdsMu : Place → Bool
  | .openInitialize => true
  | .openStart => true
  | .openCommit => true
  | .openStop _ => true
  | .openUnlock _ => true
  | _ => false

def holdsSendMu : Place → Bool
  | .closeClear => true
  | .closeStop => true
  | .closeUnlock => true
  | .sendCheck _ => true
  | .sendSetBRS _ => true
  | .sendWrite _ => true
  | .sendUnlock _ => true
  | _ => false

/-- The device may be up although the flag is down. -/
def unsettled : Place → Bool
  | .openStart => true
  | .openCommit => true
  | .openStop _ => true
  | .closeStop => true
  | _ => false

/-- Inside a call of `Open` or `Close`. -/
def lifecycle : Place → Bool
  | .openLock => true
  | .closeLock => true
  | .closeClear => true
  | .closeStop => true
  | .closeUnlock => true
  | place => place.holdsMu

end Place

/-- No `Open` or `Close` is in progress. -/
def Bus.Quiet (b : Bus Thread Memory) : Prop := ∀ thread, (b.place thread).lifecycle = false

structure Consistent (state : Memory → Lifecycle) (b : Bus Thread Memory) : Prop where
  mu : Guards b.mu.writer Place.holdsMu b.place
  sendMu : Guards b.sendMu Place.holdsSendMu b.place
  opening : ∀ thread, (b.place thread).holdsMu → b.opened = false
  committing : ∀ thread, b.place thread = .openCommit →
    state b.device = ⟨true,true⟩ ∧ ∀ other, b.place other ≠ .closeStop
  opened : b.opened = true →
    state b.device = ⟨true,true⟩ ∧ ∀ other, b.place other ≠ .closeStop
  shut : b.opened = false → (∀ thread, (b.place thread).unsettled = false) →
    state b.device = ⟨false,false⟩

/-- The one thing that must not happen: an `Open` starts the device while a `Close` has
cleared the flag and has not yet stopped the device. -/
def BusMove.Orderly (device : Device Memory Answer) (move : BusMove Thread Memory Answer) : Prop :=
  move.before.place move.thread = .openStart → (device.start move.before.device).2 = .ok () →
    ∀ other, move.before.place other ≠ .closeStop

section steps

variable [DecidableEq Thread] {b c : Bus Thread Memory} {thread : Thread} {action : Action Answer}
  {reply : Option Reply}

theorem Bus.Transition.mu (step : b.Transition device thread action reply c)
    (guards : Guards b.mu.writer Place.holdsMu b.place) :
    Guards c.mu.writer Place.holdsMu c.place := by
  cases step with
  | sendRefused | configRead | errorsRead | frameRefused => exact guards
  | openEntered place free =>
    rw [RWMutex.canLock_writer free] at guards
    exact guards.enter rfl
  | openDone place | openFailed place => exact guards.leave (by rw [place]; rfl) rfl
  | openBegun place | closeBegun place | sendBegun place | subscribeBegun place | frameBuilt place
  | openRefused place | initialized place | initializeFailed place | started place
  | startFailed place | openStopped place | closeEntered place | closeCleared place
  | closeShut place | closeStopped place | closeDone place | sendEntered place | sendChecked place
  | sendShut place | sendSet place | sendWritten place | sendDone place | subscribeEntered place
  | subscribeShut place | subscribeDone place => exact guards.stay (by rw [place]; rfl)

theorem Bus.Transition.sendMu (step : b.Transition device thread action reply c)
    (guards : Guards b.sendMu Place.holdsSendMu b.place) :
    Guards c.sendMu Place.holdsSendMu c.place := by
  cases step with
  | sendRefused | configRead | errorsRead | frameRefused => exact guards
  | closeEntered place free | sendEntered place free =>
    rw [free] at guards
    exact guards.enter rfl
  | closeDone place | sendDone place => exact guards.leave (by rw [place]; rfl) rfl
  | openBegun place | closeBegun place | sendBegun place | subscribeBegun place | frameBuilt place
  | openRefused place | openEntered place | initialized place | initializeFailed place
  | started place | startFailed place | openDone place | openStopped place | openFailed place
  | closeCleared place | closeShut place | closeStopped place | sendChecked place
  | sendShut place | sendSet place | sendWritten place | subscribeEntered place
  | subscribeShut place | subscribeDone place => exact guards.stay (by rw [place]; rfl)

theorem Consistent.moves {next : Place} (consistent : Consistent state b)
    (step : b.Transition device thread action reply c)
    (place : c.place = Function.update b.place thread next) (device : state c.device = state b.device)
    (opened : c.opened = b.opened) (calm : next ≠ .openCommit ∧ next ≠ .closeStop)
    (mu : next.holdsMu → b.opened = false)
    (settled : next.unsettled = (b.place thread).unsettled) : Consistent state c := by
  have closing (none : ∀ other, b.place other ≠ .closeStop) :
      ∀ other, c.place other ≠ .closeStop := by
    rw [place,Function.forall_update_iff b.place fun _ place => place ≠ .closeStop]
    exact ⟨calm.2,fun other _ => none other⟩
  refine ⟨step.mu consistent.mu,step.sendMu consistent.sendMu,?_,?_,?_,?_⟩
  · rw [opened,place,Function.forall_update_iff b.place fun _ place => place.holdsMu → b.opened = false]
    exact ⟨mu,fun other _ => consistent.opening other⟩
  · rw [device,place,
      Function.forall_update_iff b.place fun _ place => place = .openCommit → _ ∧ _,← place]
    refine ⟨fun commits => absurd commits calm.1,?_⟩
    intro other _ commits
    obtain ⟨up,none⟩ := consistent.committing other commits
    exact ⟨up,closing none⟩
  · rw [opened,device]
    intro isOpen
    obtain ⟨up,none⟩ := consistent.opened isOpen
    exact ⟨up,closing none⟩
  · rw [opened,device,place,
      Function.forall_update_iff b.place fun _ place => place.unsettled = false]
    rintro shut ⟨here,others⟩
    refine consistent.shut shut fun other => ?_
    by_cases same : other = thread
    · rw [same,← settled,here]
    · exact others other same

theorem Consistent.inside {next : Place} (consistent : Consistent state b)
    (step : b.Transition device thread action reply c)
    (place : c.place = Function.update b.place thread next) (opened : c.opened = b.opened)
    (held : (b.place thread).holdsMu) (calm : next ≠ .openCommit ∧ next ≠ .closeStop)
    (down : next.unsettled = true ∨ state c.device = ⟨false,false⟩) : Consistent state c := by
  have shut := consistent.opening thread held
  have alone {other} (others : (b.place other).holdsMu) : other = thread :=
    consistent.mu.exclusive others held
  refine ⟨step.mu consistent.mu,step.sendMu consistent.sendMu,?_,?_,?_,?_⟩
  · intro other _
    rw [opened,shut]
  · rw [place,Function.forall_update_iff b.place fun _ place => place = .openCommit → _ ∧ _]
    refine ⟨fun commits => absurd commits calm.1,?_⟩
    intro other differs commits
    exact absurd (alone (by rw [commits]; rfl)) differs
  · rw [opened,shut]
    simp
  · rw [place,Function.forall_update_iff b.place fun _ place => place.unsettled = false]
    rintro _ ⟨here,_⟩
    rcases down with up | down
    · rw [up] at here
      contradiction
    · exact down

theorem Consistent.closes (contract : Contract device state) (consistent : Consistent state b)
    (step : b.Transition device thread action reply
      ({ b with device := device.stop b.device }.goes thread .closeUnlock))
    (place : b.place thread = .closeStop) :
    Consistent state ({ b with device := device.stop b.device }.goes thread .closeUnlock) := by
  have shut : b.opened = false := by
    by_contra opened
    exact (consistent.opened (by simpa using opened)).2 thread place
  refine ⟨step.mu consistent.mu,step.sendMu consistent.sendMu,fun _ _ => shut,?_,?_,?_⟩
  · simp only [Bus.goes]
    rw [Function.forall_update_iff b.place fun _ place => place = .openCommit → _ ∧ _]
    refine ⟨by simp,?_⟩
    intro other _ commits
    exact absurd place ((consistent.committing other commits).2 thread)
  · intro opened
    rw [show b.opened = true from opened] at shut
    contradiction
  · exact fun _ _ => contract.stopped b.device

theorem Consistent.clears (consistent : Consistent state b)
    (step : b.Transition device thread action reply
      ({ b with opened := false }.goes thread .closeStop)) (opened : b.opened = true) :
    Consistent state ({ b with opened := false }.goes thread .closeStop) := by
  refine ⟨step.mu consistent.mu,step.sendMu consistent.sendMu,fun _ _ => rfl,?_,?_,?_⟩
  · simp only [Bus.goes]
    rw [Function.forall_update_iff b.place fun _ place => place = .openCommit → _ ∧ _]
    refine ⟨by simp,?_⟩
    intro other _ commits
    have shut := consistent.opening other (by rw [commits]; rfl)
    rw [opened] at shut
    contradiction
  · intro impossible
    contradiction
  · simp only [Bus.goes]
    rw [Function.forall_update_iff b.place fun _ place => place.unsettled = false]
    rintro _ ⟨here,_⟩
    contradiction

/-- An `Open` has started the device while no `Close` was about to stop it. -/
theorem Consistent.starts {memory : Memory} (contract : Contract device state)
    (consistent : Consistent state b) (step : b.Transition device thread action reply
      ({ b with device := memory }.goes thread .openCommit)) (place : b.place thread = .openStart)
    (result : device.start b.device = (memory,.ok ())) (alone : ∀ other, b.place other ≠ .closeStop) :
    Consistent state ({ b with device := memory }.goes thread .openCommit) := by
  have shut := consistent.opening thread (by rw [place]; rfl)
  have none : ∀ other, ({ b with device := memory }.goes thread .openCommit).place other ≠
      .closeStop := by
    simp only [Bus.goes]
    rw [Function.forall_update_iff b.place fun _ place => place ≠ .closeStop]
    exact ⟨by simp,fun other _ => alone other⟩
  refine ⟨step.mu consistent.mu,step.sendMu consistent.sendMu,fun _ _ => shut,?_,?_,?_⟩
  · exact fun _ _ => ⟨contract.started _ _ result,none⟩
  · exact fun _ => ⟨contract.started _ _ result,none⟩
  · simp only [Bus.goes]
    rw [Function.forall_update_iff b.place fun _ place => place.unsettled = false]
    rintro _ ⟨here,_⟩
    contradiction

theorem Consistent.commits (consistent : Consistent state b)
    (step : b.Transition device thread action reply
      ({ b with opened := true, mu := b.mu.unlocked }.goes thread .idle))
    (place : b.place thread = .openCommit) : Consistent state
      ({ b with opened := true, mu := b.mu.unlocked }.goes thread .idle) := by
  have held : (b.place thread).holdsMu := by rw [place]; rfl
  obtain ⟨up,none⟩ := consistent.committing thread place
  have closing : ∀ other, (({ b with opened := true, mu := b.mu.unlocked } : Bus Thread Memory).goes
      thread .idle).place other ≠ .closeStop := by
    simp only [Bus.goes]
    rw [Function.forall_update_iff b.place fun _ place => place ≠ .closeStop]
    exact ⟨by simp,fun other _ => none other⟩
  refine ⟨step.mu consistent.mu,step.sendMu consistent.sendMu,?_,fun _ _ => ⟨up,closing⟩,
    fun _ => ⟨up,closing⟩,?_⟩
  · simp only [Bus.goes]
    rw [Function.forall_update_iff b.place fun _ place => place.holdsMu → _]
    refine ⟨by simp [Place.holdsMu],?_⟩
    intro other differs others
    exact absurd (consistent.mu.exclusive others held) differs
  · intro impossible
    contradiction

theorem Consistent.step (contract : Contract device state) (consistent : Consistent state b)
    (step : b.Transition device thread action reply c)
    (orderly : b.place thread = .openStart → (device.start b.device).2 = .ok () →
      ∀ other, b.place other ≠ .closeStop) : Consistent state c := by
  cases id step with
  | sendRefused | configRead | frameRefused => exact consistent
  | errorsRead =>
    have same := contract.errors b.device
    exact ⟨consistent.mu,consistent.sendMu,consistent.opening,
      fun other commits => by rw [same]; exact consistent.committing other commits,
      fun opened => by rw [same]; exact consistent.opened opened,
      fun shut settled => by rw [same]; exact consistent.shut shut settled⟩
  | initialized place | initializeFailed place | startFailed place =>
    exact consistent.inside step rfl rfl (by rw [place]; rfl) (by simp) (.inl rfl)
  | openStopped place =>
    exact consistent.inside step rfl rfl (by rw [place]; rfl) (by simp)
      (.inr (contract.stopped b.device))
  | started place result =>
    exact consistent.starts contract step place result (orderly place (by rw [result]))
  | openDone place => exact consistent.commits step place
  | closeCleared place free opened => exact consistent.clears step opened
  | closeStopped place => exact consistent.closes contract step place
  | openEntered place _ shut =>
    exact consistent.moves step rfl rfl rfl (by simp) (fun _ => shut) (by rw [place]; rfl)
  | sendSet place =>
    exact consistent.moves step rfl (contract.setBRS _ _) rfl (by simp) (by simp [Place.holdsMu])
      (by rw [place]; rfl)
  | openBegun place | closeBegun place | sendBegun place | subscribeBegun place | frameBuilt place
  | openRefused place | openFailed place | closeEntered place | closeShut place | closeDone place
  | sendEntered place | sendChecked place | sendShut place | sendWritten place | sendDone place
  | subscribeEntered place | subscribeShut place | subscribeDone place =>
    exact consistent.moves step rfl rfl rfl (by simp) (by simp [Place.holdsMu]) (by rw [place]; rfl)

end steps

section runs

variable {b : Bus Thread Memory} {memory : Memory} {moves : List (BusMove Thread Memory Answer)}

theorem newBus_consistent (down : state memory = ⟨false,false⟩) :
    Consistent state (newBus memory : Bus Thread Memory) :=
  ⟨fun _ => ⟨by simp [newBus,Place.holdsMu],by simp [newBus,RWMutex.free]⟩,
    fun _ => ⟨by simp [newBus,Place.holdsSendMu],by simp [newBus]⟩,
    fun _ _ => rfl,by simp [newBus],by simp [newBus],fun _ _ => down⟩

variable [DecidableEq Thread]

def BusMove.ordered (device : Device Memory Answer) (b : Bus Thread Memory)
    (move : BusMove Thread Memory Answer) (c : Bus Thread Memory) : Prop :=
  BusMove.Step device b move c ∧ move.Orderly device

theorem consistent_run (contract : Contract device state) {start : Bus Thread Memory}
    (initially : Consistent state start) (run : Run (BusMove.ordered device) start moves b) :
    Consistent state b := by
  refine run.invariant _ initially ?_
  intro s move t consistent step
  obtain ⟨⟨rfl,_,taken⟩,orderly⟩ := step
  exact consistent.step contract (Bus.step_transition taken) orderly

theorem Bus.Transition.returned {c : Bus Thread Memory} {thread : Thread} {action : Action Answer}
    (step : b.Transition device thread action (some (.opened (.ok ()))) c) : c.opened = true := by
  cases step
  rfl

/-- The step of a `Close` that takes the flag down. -/
def BusMove.Clears (move : BusMove Thread Memory Answer) : Prop :=
  move.before.opened = true ∧ move.after.opened = false

theorem opened_run {start : Bus Thread Memory} (run : Run (BusMove.Step device) start moves b)
    (opened : start.opened = true) (kept : ∀ move ∈ moves, ¬ move.Clears) : b.opened = true := by
  induction run with
  | nil => exact opened
  | @snoc moves move middle final before last ih =>
    have still := ih fun other member => kept other (by simp [member])
    obtain ⟨rfl,rfl,_⟩ := last
    by_contra shut
    exact kept move (by simp) ⟨still,by simpa using shut⟩

/-- In every run in which no `Open` starts the device between the two halves of a `Close`, the
flag and the device agree whenever no `Open` or `Close` is in progress, and after an `Open` that
returned nil the device runs until a `Close` takes the flag down. -/
theorem flag_follows_device (contract : Contract device state) (down : state memory = ⟨false,false⟩)
    (run : Run (BusMove.ordered device) (newBus memory) moves b) :
    (b.Quiet → (b.opened = true ↔
      (state b.device).initialized = true ∧ (state b.device).running = true)) ∧
    ∀ past move later, moves = past ++ move :: later → move.reply = some (.opened (.ok ())) →
      (∀ other ∈ later, ¬ other.Clears) →
      (state b.device).initialized = true ∧ (state b.device).running = true := by
  have consistent := consistent_run contract (newBus_consistent down) run
  refine ⟨?_,?_⟩
  · intro quiet
    constructor
    · intro opened
      rw [(consistent.opened opened).1]
      exact ⟨rfl,rfl⟩
    · rintro ⟨up,_⟩
      by_contra shut
      have settled : ∀ thread, (b.place thread).unsettled = false := by
        intro thread
        have outside := quiet thread
        cases place : b.place thread <;> rw [place] at outside <;>
          first | rfl | simp [Place.lifecycle,Place.holdsMu] at outside
      rw [consistent.shut (by simpa using shut) settled] at up
      contradiction
  · rintro past move later rfl returned kept
    have cut : past ++ move :: later = past ++ [move] ++ later := by simp
    rw [cut] at run
    obtain ⟨middle,first,rest⟩ := run.split
    obtain ⟨_,_,last⟩ := first.snoc_inv
    have opened : middle.opened = true := by
      have transition := last.1.transition
      rw [returned] at transition
      exact transition.returned
    have final := opened_run (Run.restrict_iff.mp rest).1 opened kept
    rw [(consistent.opened final).1]
    exact ⟨rfl,rfl⟩

end runs

instance {move : BusMove Bool Memory Answer} : Decidable (move.Orderly device) :=
  inferInstanceAs (Decidable (_ → _ → ∀ other, move.before.place other ≠ .closeStop))

theorem flag_follows_device_reopened :
    ∃ moves, ∃ b : Bus Bool (Vendor × Heap),
      Run (BusMove.ordered vendor) (newBus (.new .pcan (.default Mode.classic 0),packageHeap)) moves b ∧
      b.opened = true ∧
      b.device.1.lifecycle.initialized = true ∧ b.device.1.lifecycle.running = true := by
  let start : Bus Bool (Vendor × Heap) := newBus (.new .pcan (.default Mode.classic 0),packageHeap)
  have executed : (start.execute vendor (undisturbed false .openBus 4 ++
      undisturbed false .closeBus 4 ++ undisturbed true .openBus 4)).map
      (fun result => (result.1.all fun move => decide (move.Orderly vendor),result.2.opened,
        result.2.place false,result.2.place true)) =
      some (true,true,.idle,.idle) := by
    decide +kernel
  obtain ⟨⟨moves,b⟩,executed,observed⟩ := Option.map_eq_some_iff.mp executed
  simp only [Prod.mk.injEq] at observed
  obtain ⟨orderly,opened,first,second⟩ := observed
  have run : Run (BusMove.ordered vendor) start moves b :=
    Run.restrict_iff.mpr ⟨Bus.execute_run executed,
      fun move member => of_decide_eq_true (List.all_eq_true.mp orderly move member)⟩
  have quiet : b.Quiet := by
    rintro (_ | _)
    · rw [first]; rfl
    · rw [second]; rfl
  exact ⟨moves,b,run,opened,((flag_follows_device vendor_contract rfl run).1 quiet).mp opened⟩

/-- An `Open` between the two halves of a `Close`: the flag stays up, the device is stopped. -/
theorem flag_without_device :
    ¬ ∀ moves, ∀ b : Bus Bool (Vendor × Heap),
      Run (BusMove.Step vendor) (newBus (.new .pcan (.default Mode.classic 0),packageHeap)) moves b →
      b.Quiet → (b.opened = true ↔
        b.device.1.lifecycle.initialized = true ∧ b.device.1.lifecycle.running = true) := by
  intro agree
  let start : Bus Bool (Vendor × Heap) := newBus (.new .pcan (.default Mode.classic 0),packageHeap)
  have executed : (start.execute vendor (undisturbed false .openBus 4 ++
      (undisturbed false .closeBus 4).take 3 ++ undisturbed true .openBus 4 ++
      (undisturbed false .closeBus 4).drop 3)).map (fun result => (result.2.opened,
        result.2.device.1.lifecycle,result.2.place false,result.2.place true)) =
      some (true,⟨false,false⟩,.idle,.idle) := by
    decide +kernel
  obtain ⟨⟨moves,b⟩,executed,observed⟩ := Option.map_eq_some_iff.mp executed
  simp only [Prod.mk.injEq] at observed
  obtain ⟨opened,down,first,second⟩ := observed
  have quiet : b.Quiet := by
    rintro (_ | _)
    · rw [first]; rfl
    · rw [second]; rfl
  have up := (agree moves b (Bus.execute_run executed) quiet).mp opened
  rw [down] at up
  simp at up

end Canbuskit.Driver
