import Canbuskit.Lib.Channel
import Canbuskit.Can.Config

/-! The low-level devices behind a bus. `Device` is the Go interface over a state type; the
five vendor backends are one definition with their differences, and `autoDevice` selects one
of its candidates. What the hardware answers is an argument, and channels are numbers handed
out by a heap, so that a closed or a replaced channel can be told from a kept one. -/
namespace Canbuskit.Driver
open Can Channel

/-- The channels of the package before any device exists: `closedErrors` is made closed. -/
def closedErrors : Nat := Heap.empty.make.1

def packageHeap : Heap := Heap.empty.make.2.close closedErrors

inductive DeviceError where
  | notOpen
  | config (error : BusConfigError)
  | classicOnly
  | applicationChannel
  | hardwareIndex
  | incompatibleMode
  | noDevice
  | hardware
  deriving DecidableEq

/-- The interface `device` over its state and what the hardware answers to a call. The
statistics are left out; `heap` is where its channels live. -/
structure Device (Memory Answer : Type) where
  initializeDevice : Answer → Memory → Memory × Except DeviceError Unit
  start : Memory → Memory × Except DeviceError Unit
  stop : Memory → Memory
  write : Answer → Frame → Memory → Except DeviceError Unit
  subscribe : Memory → Bool
  isFD : Memory → Bool
  config : Memory → BusConfig
  setBRS : Bool → Memory → Memory
  brs : Memory → Bool
  errors : Memory → Memory × Nat
  heap : Memory → Heap

structure Lifecycle where
  initialized : Bool
  running : Bool
  deriving DecidableEq

namespace Lifecycle

def markInitialized (l : Lifecycle) : Lifecycle := { l with initialized := true }

def start (l : Lifecycle) : Lifecycle :=
  if !l.initialized || l.running then l else { l with running := true }

theorem start_up {l : Lifecycle} (initialized : l.initialized = true) : l.start = ⟨true,true⟩ := by
  obtain ⟨_,running⟩ := l
  cases initialized
  cases running <;> rfl

/-- The read loop has ended when this returns. -/
def cancelAndWait (_ : Lifecycle) : Lifecycle := ⟨false,false⟩

end Lifecycle

/-- `observability`: the telemetry with its error channel is made on first use. -/
structure Observability where
  events : Option Nat
  deriving DecidableEq

namespace Observability

def telemetry (o : Observability) (heap : Heap) : Observability × Heap × Nat :=
  match o.events with
  | some channel => (o,heap,channel)
  | none => let (channel,heap) := heap.make; (⟨some channel⟩,heap,channel)

def prepare (o : Observability) (heap : Heap) : Observability × Heap :=
  let (o,heap,_) := o.telemetry heap
  (o,heap)

end Observability

structure TSMasterMapping where
  applicationChannel : UInt8
  hardwareIndex : Int
  hardwareChannel : UInt8
  deriving DecidableEq

inductive Model where
  | toomoss
  | tsMaster (mapping : TSMasterMapping)
  | pcan
  | vector
  | canalystII
  deriving DecidableEq

structure Vendor where
  model : Model
  cfg : BusConfig
  canType : Mode
  lifecycle : Lifecycle
  observability : Observability
  deriving DecidableEq

namespace Vendor

def new (model : Model) (cfg : BusConfig) : Vendor :=
  let cfg := match model with
    | .tsMaster mapping => { cfg with channel := mapping.hardwareChannel }
    | _ => cfg
  ⟨model,cfg,cfg.mode,⟨false,false⟩,⟨none⟩⟩

/-- The checks of the model on its configuration, with the configuration it stores. -/
def accept (model : Model) (cfg : BusConfig) : BusConfig × Except DeviceError Unit :=
  match model with
  | .tsMaster mapping =>
    let cfg := { cfg with channel := mapping.hardwareChannel }
    if 32 ≤ mapping.applicationChannel then (cfg,.error .applicationChannel)
    else if mapping.hardwareIndex < 0 then (cfg,.error .hardwareIndex)
    else (cfg,.ok ())
  | _ => (cfg,.ok ())

/-- `answer` says whether everything that depends on the vendor library succeeds. Toomoss
prepares its telemetry once the hardware runs, the others before they touch it. -/
def initializeDevice (answer : Bool) (v : Vendor) (heap : Heap) : Vendor × Heap × Except DeviceError Unit :=
  if v.lifecycle.initialized then (v,heap,.ok ())
  else match v.cfg.normalized with
    | .error error => (v,heap,.error (.config error))
    | .ok cfg =>
      if v.model = .canalystII ∧ cfg.mode ≠ Mode.classic then (v,heap,.error .classicOnly)
      else
        let (stored,accepted) := accept v.model cfg
        let v : Vendor := { v with cfg := stored, canType := cfg.mode }
        match accepted with
        | .error error => (v,heap,.error error)
        | .ok () =>
          if v.model = .toomoss ∧ !answer then (v,heap,.error .hardware)
          else
            let (observability,heap) := v.observability.prepare heap
            let v : Vendor := { v with observability := observability }
            if answer then ({ v with lifecycle := v.lifecycle.markInitialized },heap,.ok ())
            else (v,heap,.error .hardware)

def start (v : Vendor) : Vendor × Except DeviceError Unit :=
  if !v.lifecycle.initialized then (v,.error .notOpen)
  else ({ v with lifecycle := v.lifecycle.start },.ok ())

def stop (v : Vendor) : Vendor := { v with lifecycle := v.lifecycle.cancelAndWait }

def write (answer : Bool) (frame : Frame) (v : Vendor) : Except DeviceError Unit :=
  if !v.lifecycle.initialized then .error .notOpen
  else match v.model with
    | .canalystII => if frame.fd then .error .incompatibleMode
      else if answer then .ok () else .error .hardware
    | .tsMaster _ => if answer then .ok () else .error .hardware
    | _ => if frame.fd ∧ v.canType ≠ Mode.fd then .error .incompatibleMode
      else if answer then .ok () else .error .hardware

/-- The fanout exists from initialization to `stop`. -/
def subscribe (v : Vendor) : Bool := v.lifecycle.initialized

def isFD (v : Vendor) : Bool :=
  match v.model with
  | .canalystII => false
  | _ => v.canType == Mode.fd

def setBRS (enabled : Bool) (v : Vendor) : Vendor := { v with cfg := { v.cfg with brs := enabled } }

def errors (v : Vendor) (heap : Heap) : Vendor × Heap × Nat :=
  let (observability,heap,channel) := v.observability.telemetry heap
  ({ v with observability := observability },heap,channel)

end Vendor

/-- A vendor backend as a device. -/
def vendor : Device (Vendor × Heap) Bool where
  initializeDevice answer m := let (v,heap,result) := m.1.initializeDevice answer m.2; ((v,heap),result)
  start m := let (v,result) := m.1.start; ((v,m.2),result)
  stop m := (m.1.stop,m.2)
  write answer frame m := m.1.write answer frame
  subscribe m := m.1.subscribe
  isFD m := m.1.isFD
  config m := m.1.cfg
  setBRS enabled m := (m.1.setBRS enabled,m.2)
  brs m := m.1.cfg.brs
  errors m := let (v,heap,channel) := m.1.errors m.2; ((v,heap),channel)
  heap m := m.2

/-- A candidate: its factory may be nil, and builds a new backend or returns a nil device. -/
structure AutoCandidate where
  name : String
  new : Option (BusConfig → Option Model)

def defaultTSMasterMapping (hardwareChannel : UInt8) : TSMasterMapping := ⟨0,0,hardwareChannel⟩

def defaultAutoCandidates : List AutoCandidate :=
  [⟨"Toomoss",some fun _ => some .toomoss⟩,
   ⟨"TSMaster",some fun cfg => some (.tsMaster (defaultTSMasterMapping cfg.channel))⟩,
   ⟨"PCAN",some fun _ => some .pcan⟩,
   ⟨"Vector",some fun _ => some .vector⟩]

structure Auto where
  canType : Mode
  cfg : BusConfig
  candidates : List AutoCandidate
  driver : Option Vendor
  selectedName : String

namespace Auto

def new (cfg : BusConfig) (candidates : List AutoCandidate) : Auto :=
  ⟨cfg.mode,cfg,if candidates.isEmpty then defaultAutoCandidates else candidates,none,""⟩

/-- The first candidate that initializes in the wanted mode, given what the hardware of each
of them answers. A candidate that does not is stopped and dropped. -/
def select (cfg : BusConfig) : List AutoCandidate → List Bool → Heap → Heap × Option (String × Vendor)
  | [], _, heap => (heap,none)
  | candidate :: rest, answers, heap =>
    match candidate.new.bind (· cfg) with
    | none => select cfg rest answers.tail heap
    | some model =>
      let (dev,heap,result) := (Vendor.new model cfg).initializeDevice (answers.headD false) heap
      match result with
      | .error _ => select cfg rest answers.tail heap
      | .ok () =>
        if dev.isFD ≠ (cfg.mode == Mode.fd) then select cfg rest answers.tail heap
        else (heap,some (candidate.name,dev))

def initializeDevice (answers : List Bool) (a : Auto) (heap : Heap) : Auto × Heap × Except DeviceError Unit :=
  if a.driver.isSome then (a,heap,.ok ())
  else match a.cfg.normalized with
    | .error error => (a,heap,.error (.config error))
    | .ok cfg =>
      let a : Auto := { a with cfg := cfg, canType := cfg.mode }
      match select cfg a.candidates answers heap with
      | (heap,none) => (a,heap,.error .noDevice)
      | (heap,some (name,dev)) => ({ a with driver := some dev, selectedName := name },heap,.ok ())

def start (a : Auto) : Auto × Except DeviceError Unit :=
  match a.driver with
  | none => (a,.error .notOpen)
  | some dev => let (dev,result) := dev.start; ({ a with driver := some dev },result)

/-- The selected device is stopped and dropped. -/
def stop (a : Auto) : Auto := { a with driver := none, selectedName := "" }

def write (answers : List Bool) (frame : Frame) (a : Auto) : Except DeviceError Unit :=
  match a.driver with
  | none => .error .notOpen
  | some dev => dev.write (answers.headD false) frame

def subscribe (a : Auto) : Bool := a.driver.any Vendor.subscribe

def isFD (a : Auto) : Bool :=
  match a.driver with
  | some dev => dev.isFD
  | none => a.canType == Mode.fd

def setBRS (enabled : Bool) (a : Auto) : Auto :=
  { a with cfg := { a.cfg with brs := enabled }, driver := a.driver.map (Vendor.setBRS enabled) }

def brs (a : Auto) : Bool :=
  match a.driver with
  | some dev => dev.cfg.brs
  | none => a.cfg.brs

def errors (a : Auto) (heap : Heap) : Auto × Heap × Nat :=
  match a.driver with
  | some dev => let (dev,heap,channel) := dev.errors heap; ({ a with driver := some dev },heap,channel)
  | none => (a,heap,closedErrors)

end Auto

/-- `autoDevice` as a device; the hardware answers for each candidate. -/
def auto : Device (Auto × Heap) (List Bool) where
  initializeDevice answers m := let (a,heap,result) := m.1.initializeDevice answers m.2; ((a,heap),result)
  start m := let (a,result) := m.1.start; ((a,m.2),result)
  stop m := (m.1.stop,m.2)
  write answers frame m := m.1.write answers frame
  subscribe m := m.1.subscribe
  isFD m := m.1.isFD
  config m := m.1.cfg
  setBRS enabled m := (m.1.setBRS enabled,m.2)
  brs m := m.1.brs
  errors m := let (a,heap,channel) := m.1.errors m.2; ((a,heap),channel)
  heap m := m.2

end Canbuskit.Driver
