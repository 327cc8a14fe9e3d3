import Canbuskit.Can.Config

/-! Opening and stopping a Vector device with a vendor library that may lack procedures. What the
library offers, in which order its procedures are checked and what the calls answer is given for
each attempt; a call of a procedure that is not there panics. The channels and the bit timing of a
device decide nothing here and are left out. -/
namespace Canbuskit.Driver.VectorOpen
open Can

inductive Procedure where
  | openDriver
  | closeDriver
  | openPort
  | closePort
  | getChannelIndex
  | activateChannel
  | deactivateChannel
  | canSetChannelBitrate
  | canFdSetConfiguration
  | canSetChannelOutput
  | canSetChannelMode
  | receive
  | canReceive
  | canTransmit
  | canTransmitEx
  deriving DecidableEq

def Procedure.name : Procedure → String
  | .openDriver => "xlOpenDriver"
  | .closeDriver => "xlCloseDriver"
  | .openPort => "xlOpenPort"
  | .closePort => "xlClosePort"
  | .getChannelIndex => "xlGetChannelIndex"
  | .activateChannel => "xlActivateChannel"
  | .deactivateChannel => "xlDeactivateChannel"
  | .canSetChannelBitrate => "xlCanSetChannelBitrate"
  | .canFdSetConfiguration => "xlCanFdSetConfiguration"
  | .canSetChannelOutput => "xlCanSetChannelOutput"
  | .canSetChannelMode => "xlCanSetChannelMode"
  | .receive => "xlReceive"
  | .canReceive => "xlCanReceive"
  | .canTransmit => "xlCanTransmit"
  | .canTransmitEx => "xlCanTransmitEx"

/-- The procedures that a library has. -/
abbrev Exports := Procedure → Bool

def Complete (exports : Exports) : Prop := ∀ proc, exports proc = true

inductive VectorError where
  | config (error : BusConfigError)
  | load (errs : List (String × String))
  | procNotFound (proc : Procedure)
  | notLoaded
  | status (proc : Procedure) (status : Int)
  | channelNotFound
  | invalidPortHandle
  | noInitAccess

inductive Halt where
  | failed (error : VectorError)
  | panicked (proc : Procedure)

/-- The candidates of an attempt with what loading them gives, the order in which the map of
procedures is gone through, and what the vendor answers. -/
structure Attempt where
  candidates : List (String × Except String Exports)
  order : List Procedure
  covers : ∀ proc, proc ∈ order
  status : Procedure → Int
  channelIndex : Int
  portHandle : Int
  permissionMask : UInt64

def vectorInvalidPortHandle : Int := -1

/-- The procedures are set where `dll` is; `calls` are those called so far. -/
structure VectorDevice where
  cfg : BusConfig
  canType : Mode
  initialized : Bool
  dll : Option Exports
  portHandle : Int
  channelMask : UInt64
  permissionMask : UInt64
  calls : List Procedure

def new (cfg : BusConfig) : VectorDevice :=
  ⟨cfg,cfg.mode,false,none,vectorInvalidPortHandle,0,0,[]⟩

/-- An operation that fails leaves the device as it then is. -/
abbrev Operation := Except (VectorDevice × Halt) VectorDevice

/-- The first candidate that loads, with the errors of those before it. -/
def firstLoaded : List (String × Except String Exports) → List (String × String) →
    Except (List (String × String)) Exports
  | [], errs => .error errs
  | (path,.error error) :: rest, errs => firstLoaded rest (errs ++ [(path,error)])
  | (_,.ok exports) :: _, _ => .ok exports

namespace VectorDevice

def loadDLL (v : VectorDevice) (attempt : Attempt) : Operation :=
  if v.dll.isSome then .ok v
  else match firstLoaded attempt.candidates [] with
    | .error errs => .error (v,.failed (.load errs))
    | .ok exports =>
      let v : VectorDevice := { v with dll := some exports }
      match attempt.order.find? fun proc => !exports proc with
      | some proc => .error (v,.failed (.procNotFound proc))
      | none => .ok v

def call (v : VectorDevice) (proc : Procedure) : Operation :=
  let v : VectorDevice := { v with calls := v.calls ++ [proc] }
  if v.dll.any (· proc) then .ok v else .error (v,.panicked proc)

def callStatus (v : VectorDevice) (attempt : Attempt) (proc : Procedure) : Operation :=
  if v.dll.isNone then .error (v,.failed .notLoaded)
  else do
    let v ← v.call proc
    if attempt.status proc = 0 then .ok v
    else .error (v,.failed (.status proc (attempt.status proc)))

def selectChannel (v : VectorDevice) (attempt : Attempt) : Operation :=
  if v.dll.isNone then .error (v,.failed .notLoaded)
  else do
    let v ← v.call .getChannelIndex
    let idx := attempt.channelIndex
    if idx < 0 ∨ 63 < idx then .error (v,.failed .channelNotFound)
    else .ok { v with channelMask := 1 <<< UInt64.ofNat idx.toNat }

/-- The vendor writes the port handle and the permissions whatever the status. -/
def openPort (v : VectorDevice) (attempt : Attempt) : Operation :=
  if v.dll.isNone then .error (v,.failed .notLoaded)
  else do
    let v ← v.call .openPort
    let v : VectorDevice := { v with portHandle := attempt.portHandle }
    if attempt.status .openPort ≠ 0 then
      .error (v,.failed (.status .openPort (attempt.status .openPort)))
    else
      let v : VectorDevice := { v with permissionMask := attempt.permissionMask }
      if v.portHandle = vectorInvalidPortHandle then .error (v,.failed .invalidPortHandle)
      else .ok v

def configureChannel (v : VectorDevice) (attempt : Attempt) : Operation :=
  if v.channelMask &&& v.permissionMask = 0 then .error (v,.failed .noInitAccess)
  else do
    let v ← v.callStatus attempt
      (if v.canType = Mode.fd then .canFdSetConfiguration else .canSetChannelBitrate)
    let v ← v.callStatus attempt .canSetChannelOutput
    let v ← v.callStatus attempt .canSetChannelMode
    v.callStatus attempt .activateChannel

def openDevice (v : VectorDevice) (attempt : Attempt) : Operation := do
  let v ← v.loadDLL attempt
  let v ← v.callStatus attempt .openDriver
  let v ← v.selectChannel attempt
  let v ← v.openPort attempt
  v.configureChannel attempt

def callWhen (v : VectorDevice) (condition : Bool) (proc : Procedure) : Operation :=
  if condition then v.call proc else .ok v

/-- The port is closed where it is open, and the driver where the library is there. -/
def cleanup (v : VectorDevice) : Operation := do
  let v ← v.callWhen (v.dll.isSome && v.portHandle != vectorInvalidPortHandle) .closePort
  let v ← v.callWhen v.dll.isSome .closeDriver
  return { v with portHandle := vectorInvalidPortHandle }

def prepared (v : VectorDevice) (cfg : BusConfig) : VectorDevice :=
  { v with cfg := cfg, canType := cfg.mode, portHandle := vectorInvalidPortHandle }

/-- An attempt that fails cleans up, and one that panics does not. -/
def conclude : Operation → VectorDevice × Except Halt Unit
  | .ok v => ({ v with initialized := true },.ok ())
  | .error (v,.panicked proc) => (v,.error (.panicked proc))
  | .error (v,.failed error) => match v.cleanup with
    | .ok v => (v,.error (.failed error))
    | .error (v,halt) => (v,.error halt)

def initializeDevice (v : VectorDevice) (attempt : Attempt) : VectorDevice × Except Halt Unit :=
  if v.initialized then (v,.ok ())
  else match v.cfg.normalized with
    | .error error => (v,.error (.failed (.config error)))
    | .ok cfg => conclude ((v.prepared cfg).openDevice attempt)

/-- The vendor calls of `stop`, which are made where the device was open. -/
def shutDown (v : VectorDevice) (opened : Bool) : Operation := do
  let v ← v.callWhen (opened && v.portHandle != vectorInvalidPortHandle) .deactivateChannel
  let v ← v.callWhen (opened && v.portHandle != vectorInvalidPortHandle) .closePort
  let v ← v.callWhen opened .closeDriver
  return { v with portHandle := vectorInvalidPortHandle }

def stop (v : VectorDevice) : VectorDevice × Except Halt Unit :=
  let wasInitialized := v.initialized
  match ({ v with initialized := false } : VectorDevice).shutDown (wasInitialized && v.dll.isSome) with
  | .ok v => (v,.ok ())
  | .error (v,halt) => (v,.error halt)

def Provides (v : VectorDevice) (proc : Procedure) : Prop :=
  ∃ exports, v.dll = some exports ∧ exports proc = true

/-- The stored library is complete, or there is none and the one that gets loaded has at least
the procedure that the cleanup calls. -/
def Trusts (v : VectorDevice) (attempt : Attempt) : Prop :=
  (∀ exports, v.dll = some exports → Complete exports) ∧
  (v.dll = none → ∀ exports, firstLoaded attempt.candidates [] = .ok exports →
    exports .closeDriver = true)

end VectorDevice

inductive Request where
  | initializeDevice (attempt : Attempt)
  | stop

def VectorDevice.perform (v : VectorDevice) : Request → VectorDevice × Except Halt Unit
  | .initializeDevice attempt => v.initializeDevice attempt
  | .stop => v.stop

structure Move where
  before : VectorDevice
  request : Request
  result : Except Halt Unit
  after : VectorDevice

namespace Move

def Step (v : VectorDevice) (move : Move) (w : VectorDevice) : Prop :=
  move.before = v ∧ move.after = w ∧ v.perform move.request = (w,move.result)

/-- The attempt that gets as far as `loadDLL`, with its configuration. -/
def Loads (move : Move) (attempt : Attempt) (cfg : BusConfig) : Prop :=
  move.request = .initializeDevice attempt ∧ move.before.initialized = false ∧
    move.before.cfg.normalized = .ok cfg

def Trustworthy (move : Move) : Prop :=
  ∀ attempt cfg, move.Loads attempt cfg → move.before.Trusts attempt

def Missing (move : Move) : Prop := ∃ proc, move.result = .error (.failed (.procNotFound proc))

end Move

/-- A load that succeeds finds everything, nothing is called that is not there, and an attempt
that failed for want of a procedure is followed by none that does not. -/
structure Safe (moves : List Move) : Prop where
  complete : ∀ move ∈ moves, ∀ attempt cfg w, move.Loads attempt cfg →
    (move.before.prepared cfg).loadDLL attempt = .ok w →
    ∃ exports, w.dll = some exports ∧ Complete exports
  provided : ∀ move ∈ moves, ∀ proc ∈ move.after.calls, move.after.Provides proc
  again : ∀ past first between second later, moves = past ++ first :: between ++ second :: later →
    first.Missing → ∀ attempt, second.request = .initializeDevice attempt → second.Missing

end Canbuskit.Driver.VectorOpen
