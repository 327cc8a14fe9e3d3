import Canbuskit.Lib.Locks
import Canbuskit.Lib.Runs
import Canbuskit.Driver.Device
import Canbuskit.Isotp.Wire

/-! A bus shared by any number of goroutines. A goroutine is between calls or at a place in one
of the bus's methods, and the atomic steps are the critical sections of `sendMu`, `mu` and the
device's own lock. A call whose context is nil or already cancelled returns before it touches
anything and is left out. -/
namespace Canbuskit.Driver
open Can Isotp Locks Runs

variable {Thread Memory Answer : Type}

inductive BusError where
  | alreadyOpen
  | notOpen
  | unsupported
  | frame (error : FrameError)
  | initializing (error : DeviceError)
  | starting (error : DeviceError)
  | sending (id : UInt32) (error : DeviceError)
  deriving DecidableEq

/-- Where a goroutine is: the next atomic step it takes, with what it will return. -/
inductive Place where
  | idle
  | openLock
  | openInitialize
  | openStart
  | openCommit
  | openStop (error : BusError)
  | openUnlock (error : BusError)
  | closeLock
  | closeClear
  | closeStop
  | closeUnlock
  | sendLock (frame : Frame)
  | sendCheck (frame : Frame)
  | sendSetBRS (frame : Frame)
  | sendWrite (frame : Frame)
  | sendUnlock (result : Except BusError Unit)
  | subscribeLock
  | subscribeDevice
  deriving DecidableEq

/-- What a goroutine may begin; `transmit` is a session's transmit goroutine, which reads
`Config` for the frame it then sends. -/
inductive Call where
  | openBus
  | closeBus
  | send (frame : Frame)
  | subscribe
  | config
  | errors
  | transmit (msg : LinkFrame)
  deriving DecidableEq

inductive Action (Answer : Type) where
  | call (call : Call)
  | advance (answer : Answer)
  deriving DecidableEq

/-- What a step hands to the caller: the result of a call that ends with it, or the frame a
session has just built. -/
inductive Reply where
  | opened (result : Except BusError Unit)
  | closed
  | sent (result : Except BusError Unit)
  | subscribed (result : Except BusError Unit)
  | config (cfg : BusConfig)
  | errors (channel : Nat)
  | built (result : Except FrameError Frame)
  deriving DecidableEq

structure Bus (Thread Memory : Type) where
  device : Memory
  opened : Bool
  mu : RWMutex Thread
  sendMu : Option Thread
  place : Thread → Place

def newBus (device : Memory) : Bus Thread Memory := ⟨device,false,.free,none,fun _ => .idle⟩

namespace Bus

variable [DecidableEq Thread]

def goes (b : Bus Thread Memory) (thread : Thread) (place : Place) : Bus Thread Memory :=
  { b with place := Function.update b.place thread place }

/-- The checks of `Send` before its first lock. -/
def checkSend (frame : Frame) : Except BusError Unit :=
  if frame.extended then .error .unsupported
  else match frame.validate with
    | .error error => .error (.frame error)
    | .ok () => .ok ()

def enter (device : Device Memory Answer) (b : Bus Thread Memory) (thread : Thread) :
    Call → Option (Bus Thread Memory × Option Reply)
  | .openBus => some (b.goes thread .openLock,none)
  | .closeBus => some (b.goes thread .closeLock,none)
  | .send frame => match checkSend frame with
    | .error error => some (b,some (.sent (.error error)))
    | .ok () => some (b.goes thread (.sendLock frame),none)
  | .subscribe => some (b.goes thread .subscribeLock,none)
  -- the read of the device lies inside the read lock, so it excludes a writer by itself
  | .config => if b.mu.canRLock then some (b,some (.config (device.config b.device))) else none
  | .errors =>
    let (memory,channel) := device.errors b.device
    some ({ b with device := memory },some (.errors channel))
  | .transmit msg =>
    if b.mu.canRLock then match toCANFrame (device.config b.device).brs msg with
      | .error error => some (b,some (.built (.error error)))
      | .ok frame => match checkSend frame with
        | .error _ => some (b,some (.built (.ok frame)))
        | .ok () => some (b.goes thread (.sendLock frame),some (.built (.ok frame)))
    else none

/-- `none` while the lock the goroutine wants is taken. -/
def advance (device : Device Memory Answer) (b : Bus Thread Memory) (thread : Thread)
    (answer : Answer) : Option (Bus Thread Memory × Option Reply) :=
  match b.place thread with
  | .idle => none
  | .openLock =>
    if b.mu.canLock then
      if b.opened then some (b.goes thread .idle,some (.opened (.error .alreadyOpen)))
      else some ({ b with mu := b.mu.locked thread }.goes thread .openInitialize,none)
    else none
  | .openInitialize => match device.initializeDevice answer b.device with
    | (memory,.ok ()) => some ({ b with device := memory }.goes thread .openStart,none)
    | (memory,.error error) =>
      some ({ b with device := memory }.goes thread (.openStop (.initializing error)),none)
  | .openStart => match device.start b.device with
    | (memory,.ok ()) => some ({ b with device := memory }.goes thread .openCommit,none)
    | (memory,.error error) =>
      some ({ b with device := memory }.goes thread (.openStop (.starting error)),none)
  | .openCommit =>
    some ({ b with opened := true, mu := b.mu.unlocked }.goes thread .idle,some (.opened (.ok ())))
  | .openStop error =>
    some ({ b with device := device.stop b.device }.goes thread (.openUnlock error),none)
  | .openUnlock error =>
    some ({ b with mu := b.mu.unlocked }.goes thread .idle,some (.opened (.error error)))
  | .closeLock =>
    if b.sendMu = none then some ({ b with sendMu := some thread }.goes thread .closeClear,none)
    else none
  | .closeClear =>
    if b.mu.canLock then
      if b.opened then some ({ b with opened := false }.goes thread .closeStop,none)
      else some (b.goes thread .closeUnlock,none)
    else none
  | .closeStop => some ({ b with device := device.stop b.device }.goes thread .closeUnlock,none)
  | .closeUnlock => some ({ b with sendMu := none }.goes thread .idle,some .closed)
  | .sendLock frame =>
    if b.sendMu = none then
      some ({ b with sendMu := some thread }.goes thread (.sendCheck frame),none)
    else none
  | .sendCheck frame =>
    if b.mu.canRLock then
      if b.opened then some (b.goes thread (.sendSetBRS frame),none)
      else some (b.goes thread (.sendUnlock (.error .notOpen)),none)
    else none
  | .sendSetBRS frame =>
    some ({ b with device := device.setBRS frame.brs b.device }.goes thread (.sendWrite frame),none)
  | .sendWrite frame => match device.write answer frame b.device with
    | .error error => some (b.goes thread (.sendUnlock (.error (.sending frame.id error))),none)
    | .ok () => some (b.goes thread (.sendUnlock (.ok ())),none)
  | .sendUnlock result =>
    some ({ b with sendMu := none }.goes thread .idle,some (.sent result))
  | .subscribeLock =>
    if b.mu.canRLock then
      if b.opened then some ({ b with mu := b.mu.rlocked }.goes thread .subscribeDevice,none)
      else some (b.goes thread .idle,some (.subscribed (.error .notOpen)))
    else none
  | .subscribeDevice =>
    let result := if device.subscribe b.device then .ok () else .error .notOpen
    some ({ b with mu := b.mu.runlocked }.goes thread .idle,some (.subscribed result))

def step (device : Device Memory Answer) (b : Bus Thread Memory) (thread : Thread) :
    Action Answer → Option (Bus Thread Memory × Option Reply)
  | .call call => if b.place thread = .idle then b.enter device thread call else none
  | .advance answer => b.advance device thread answer

/-- Everything a step can do. -/
inductive Transition (device : Device Memory Answer) (b : Bus Thread Memory) (thread : Thread) :
    Action Answer → Option Reply → Bus Thread Memory → Prop
  | openBegun (place : b.place thread = .idle) :
      Transition device b thread (.call .openBus) none (b.goes thread .openLock)
  | closeBegun (place : b.place thread = .idle) :
      Transition device b thread (.call .closeBus) none (b.goes thread .closeLock)
  | sendRefused {frame error} (place : b.place thread = .idle)
      (refused : checkSend frame = .error error) :
      Transition device b thread (.call (.send frame)) (some (.sent (.error error))) b
  | sendBegun {frame} (place : b.place thread = .idle) (checked : checkSend frame = .ok ()) :
      Transition device b thread (.call (.send frame)) none (b.goes thread (.sendLock frame))
  | subscribeBegun (place : b.place thread = .idle) :
      Transition device b thread (.call .subscribe) none (b.goes thread .subscribeLock)
  | configRead (place : b.place thread = .idle) (free : b.mu.canRLock) :
      Transition device b thread (.call .config) (some (.config (device.config b.device))) b
  | errorsRead (place : b.place thread = .idle) :
      Transition device b thread (.call .errors) (some (.errors (device.errors b.device).2))
        { b with device := (device.errors b.device).1 }
  | frameRefused {msg built} (place : b.place thread = .idle) (free : b.mu.canRLock)
      (result : toCANFrame (device.config b.device).brs msg = built) :
      Transition device b thread (.call (.transmit msg)) (some (.built built)) b
  | frameBuilt {msg frame} (place : b.place thread = .idle) (free : b.mu.canRLock)
      (result : toCANFrame (device.config b.device).brs msg = .ok frame) :
      Transition device b thread (.call (.transmit msg)) (some (.built (.ok frame)))
        (b.goes thread (.sendLock frame))
  | openRefused {answer} (place : b.place thread = .openLock) (free : b.mu.canLock)
      (opened : b.opened = true) :
      Transition device b thread (.advance answer) (some (.opened (.error .alreadyOpen)))
        (b.goes thread .idle)
  | openEntered {answer} (place : b.place thread = .openLock) (free : b.mu.canLock)
      (shut : b.opened = false) : Transition device b thread (.advance answer) none
        ({ b with mu := b.mu.locked thread }.goes thread .openInitialize)
  | initialized {answer memory} (place : b.place thread = .openInitialize)
      (result : device.initializeDevice answer b.device = (memory,.ok ())) :
      Transition device b thread (.advance answer) none
        ({ b with device := memory }.goes thread .openStart)
  | initializeFailed {answer memory error} (place : b.place thread = .openInitialize)
      (result : device.initializeDevice answer b.device = (memory,.error error)) :
      Transition device b thread (.advance answer) none
        ({ b with device := memory }.goes thread (.openStop (.initializing error)))
  | started {answer memory} (place : b.place thread = .openStart)
      (result : device.start b.device = (memory,.ok ())) :
      Transition device b thread (.advance answer) none
        ({ b with device := memory }.goes thread .openCommit)
  | startFailed {answer memory error} (place : b.place thread = .openStart)
      (result : device.start b.device = (memory,.error error)) :
      Transition device b thread (.advance answer) none
        ({ b with device := memory }.goes thread (.openStop (.starting error)))
  | openDone {answer} (place : b.place thread = .openCommit) :
      Transition device b thread (.advance answer) (some (.opened (.ok ())))
        ({ b with opened := true, mu := b.mu.unlocked }.goes thread .idle)
  | openStopped {answer error} (place : b.place thread = .openStop error) :
      Transition device b thread (.advance answer) none
        ({ b with device := device.stop b.device }.goes thread (.openUnlock error))
  | openFailed {answer error} (place : b.place thread = .openUnlock error) :
      Transition device b thread (.advance answer) (some (.opened (.error error)))
        ({ b with mu := b.mu.unlocked }.goes thread .idle)
  | closeEntered {answer} (place : b.place thread = .closeLock) (free : b.sendMu = none) :
      Transition device b thread (.advance answer) none
        ({ b with sendMu := some thread }.goes thread .closeClear)
  | closeCleared {answer} (place : b.place thread = .closeClear) (free : b.mu.canLock)
      (opened : b.opened = true) : Transition device b thread (.advance answer) none
        ({ b with opened := false }.goes thread .closeStop)
  | closeShut {answer} (place : b.place thread = .closeClear) (free : b.mu.canLock)
      (shut : b.opened = false) :
      Transition device b thread (.advance answer) none (b.goes thread .closeUnlock)
  | closeStopped {answer} (place : b.place thread = .closeStop) :
      Transition device b thread (.advance answer) none
        ({ b with device := device.stop b.device }.goes thread .closeUnlock)
  | closeDone {answer} (place : b.place thread = .closeUnlock) :
      Transition device b thread (.advance answer) (some .closed)
        ({ b with sendMu := none }.goes thread .idle)
  | sendEntered {answer frame} (place : b.place thread = .sendLock frame) (free : b.sendMu = none) :
      Transition device b thread (.advance answer) none
        ({ b with sendMu := some thread }.goes thread (.sendCheck frame))
  | sendChecked {answer frame} (place : b.place thread = .sendCheck frame) (free : b.mu.canRLock)
      (opened : b.opened = true) :
      Transition device b thread (.advance answer) none (b.goes thread (.sendSetBRS frame))
  | sendShut {answer frame} (place : b.place thread = .sendCheck frame) (free : b.mu.canRLock)
      (shut : b.opened = false) : Transition device b thread (.advance answer) none
        (b.goes thread (.sendUnlock (.error .notOpen)))
  | sendSet {answer frame} (place : b.place thread = .sendSetBRS frame) :
      Transition device b thread (.advance answer) none
        ({ b with device := device.setBRS frame.brs b.device }.goes thread (.sendWrite frame))
  | sendWritten {answer frame result} (place : b.place thread = .sendWrite frame) :
      Transition device b thread (.advance answer) none (b.goes thread (.sendUnlock result))
  | sendDone {answer result} (place : b.place thread = .sendUnlock result) :
      Transition device b thread (.advance answer) (some (.sent result))
        ({ b with sendMu := none }.goes thread .idle)
  | subscribeEntered {answer} (place : b.place thread = .subscribeLock) (free : b.mu.canRLock)
      (opened : b.opened = true) : Transition device b thread (.advance answer) none
        ({ b with mu := b.mu.rlocked }.goes thread .subscribeDevice)
  | subscribeShut {answer} (place : b.place thread = .subscribeLock) (free : b.mu.canRLock)
      (shut : b.opened = false) : Transition device b thread (.advance answer)
        (some (.subscribed (.error .notOpen))) (b.goes thread .idle)
  | subscribeDone {answer result} (place : b.place thread = .subscribeDevice) :
      Transition device b thread (.advance answer) (some (.subscribed result))
        ({ b with mu := b.mu.runlocked }.goes thread .idle)

theorem step_transition {device : Device Memory Answer} {b c : Bus Thread Memory} {thread : Thread}
    {action : Action Answer} {reply : Option Reply}
    (taken : b.step device thread action = some (c,reply)) :
    b.Transition device thread action reply c := by
  cases action with
  | call call =>
    simp only [step] at taken
    split_ifs at taken with place
    cases call with
    | openBus => cases taken; exact .openBegun place
    | closeBus => cases taken; exact .closeBegun place
    | subscribe => cases taken; exact .subscribeBegun place
    | errors => cases taken; exact .errorsRead place
    | send frame =>
      simp only [enter] at taken
      split at taken <;> cases taken
      · exact .sendRefused place ‹_›
      · exact .sendBegun place ‹_›
    | config =>
      simp only [enter] at taken
      split_ifs at taken with free
      cases taken
      exact .configRead place free
    | transmit msg =>
      simp only [enter] at taken
      split_ifs at taken with free
      split at taken
      · cases taken
        exact .frameRefused place free ‹_›
      · split at taken <;> cases taken
        · exact .frameRefused place free ‹_›
        · exact .frameBuilt place free ‹_›
  | advance answer =>
    cases place : b.place thread
    all_goals simp only [step,advance,place] at taken
    case idle => contradiction
    case openLock =>
      split_ifs at taken with free opened <;> cases taken
      · exact .openRefused place free opened
      · exact .openEntered place free (by simpa using opened)
    case openInitialize =>
      split at taken <;> cases taken
      · exact .initialized place ‹_›
      · exact .initializeFailed place ‹_›
    case openStart =>
      split at taken <;> cases taken
      · exact .started place ‹_›
      · exact .startFailed place ‹_›
    case openCommit => cases taken; exact .openDone place
    case openStop error => cases taken; exact .openStopped place
    case openUnlock error => cases taken; exact .openFailed place
    case closeLock => split_ifs at taken with free; cases taken; exact .closeEntered place free
    case closeClear =>
      split_ifs at taken with free opened <;> cases taken
      · exact .closeCleared place free opened
      · exact .closeShut place free (by simpa using opened)
    case closeStop => cases taken; exact .closeStopped place
    case closeUnlock => cases taken; exact .closeDone place
    case sendLock frame => split_ifs at taken with free; cases taken; exact .sendEntered place free
    case sendCheck frame =>
      split_ifs at taken with free opened <;> cases taken
      · exact .sendChecked place free opened
      · exact .sendShut place free (by simpa using opened)
    case sendSetBRS frame => cases taken; exact .sendSet place
    case sendWrite frame => split at taken <;> cases taken <;> exact .sendWritten place
    case sendUnlock result => cases taken; exact .sendDone place
    case subscribeLock =>
      split_ifs at taken with free opened <;> cases taken
      · exact .subscribeEntered place free opened
      · exact .subscribeShut place free (by simpa using opened)
    case subscribeDevice => cases taken; exact .subscribeDone place

end Bus

/-- A step of one goroutine with the states around it and what it hands to its caller. -/
structure BusMove (Thread Memory Answer : Type) where
  before : Bus Thread Memory
  thread : Thread
  action : Action Answer
  reply : Option Reply
  after : Bus Thread Memory

def BusMove.Step [DecidableEq Thread] (device : Device Memory Answer) (b : Bus Thread Memory)
    (move : BusMove Thread Memory Answer) (c : Bus Thread Memory) : Prop :=
  move.before = b ∧ move.after = c ∧ b.step device move.thread move.action = some (c,move.reply)

theorem BusMove.Step.transition [DecidableEq Thread] {device : Device Memory Answer}
    {b c : Bus Thread Memory} {move : BusMove Thread Memory Answer}
    (step : BusMove.Step device b move c) :
    b.Transition device move.thread move.action move.reply c :=
  Bus.step_transition step.2.2

/-- The run that a list of threads and actions determines. -/
def Bus.execute [DecidableEq Thread] (device : Device Memory Answer) (b : Bus Thread Memory)
    (choices : List (Thread × Action Answer)) :
    Option (List (BusMove Thread Memory Answer) × Bus Thread Memory) :=
  Runs.execute (fun b choice => match b.step device choice.1 choice.2 with
    | none => none
    | some (c,reply) => some (⟨b,choice.1,choice.2,reply,c⟩,c)) b choices

theorem Bus.execute_run [DecidableEq Thread] {device : Device Memory Answer}
    {b c : Bus Thread Memory} {choices : List (Thread × Action Answer)}
    {moves : List (BusMove Thread Memory Answer)}
    (executed : b.execute device choices = some (moves,c)) :
    Run (BusMove.Step device) b moves c := by
  refine Runs.execute_run ?_ executed
  intro u choice move v taken
  split at taken
  · contradiction
  · rename_i stepped
    obtain ⟨rfl,rfl⟩ := Prod.mk.inj (Option.some.inj taken)
    exact ⟨rfl,rfl,stepped⟩

/-- A call that one goroutine makes with nothing in between. -/
def undisturbed (thread : Thread) (call : Call) (steps : Nat) : List (Thread × Action Bool) :=
  (thread,.call call) :: List.replicate steps (thread,.advance true)

end Canbuskit.Driver
