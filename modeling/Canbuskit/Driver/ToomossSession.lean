import Canbuskit.Driver.Device

/-! Toomoss devices and the session flag that a process has for all of them, one vendor call or
critical section at a time. What the system and the vendor answer is free, and so is what a call
of `USB_OpenDevice` or `USB_CloseDevice` leaves open, which is kept beside the fields of the code.
The handle of the device and the receive channels decide nothing here and are left out. -/
namespace Canbuskit.Driver.ToomossSession
open Can

/-- Addresses of the vendor library, which are 0 where they are not loaded. -/
structure ToomossAPI where
  dll : Nat
  scan : Nat
  openDevice : Nat
  close : Nat
  canInit : Nat
  canStart : Nat
  canGet : Nat
  canSend : Nat
  canSpeed : Nat
  fdInit : Nat
  fdStart : Nat
  fdGet : Nat
  fdSend : Nat
  fdSpeed : Nat
  deriving DecidableEq

inductive ToomossError where
  | config (error : BusConfigError)
  | busy
  | dllMissing
  | procsMissing (names : List String)
  | noCANProcs
  | notLoaded (proc : String)
  | syscallFailed (proc : String) (callErr : Nat)
  | deviceNotFound
  | openFailed
  | classicAPIMissing
  | fdAPIMissing
  | speedReturned (ret : Nat)
  | classicFailed (init start : Nat)
  | fdFailed (init start speed : Nat)
  | closeReturned (ret : Nat)

/-- What loading finds: the handles from the two places that it tries, and the addresses of
the procedures of a handle. -/
structure Library where
  registryDLL : Option Nat
  binDLL : Option Nat
  procAddress : Nat → String → Nat

/-- The result of `SyscallN`. -/
structure Reply where
  value : Nat
  callErr : Nat

namespace ToomossAPI

def zero : ToomossAPI := ⟨0,0,0,0,0,0,0,0,0,0,0,0,0,0⟩

def ready (api : ToomossAPI) : Bool :=
  api.dll != 0 && api.scan != 0 && api.openDevice != 0 && api.close != 0 &&
    ((api.canInit != 0 && api.canStart != 0 && api.canGet != 0 && api.canSend != 0 &&
        api.canSpeed != 0) ||
      (api.fdInit != 0 && api.fdStart != 0 && api.fdGet != 0 && api.fdSend != 0 &&
        api.fdSpeed != 0))

def release (api : ToomossAPI) : ToomossAPI := if api.dll = 0 then api else .zero

def loadDLL (library : Library) (api : ToomossAPI) : Except ToomossError ToomossAPI :=
  match library.registryDLL.or library.binDLL with
  | none => .error .dllMissing
  | some handle => .ok { api with dll := handle }

def loadProcs (library : Library) (api : ToomossAPI) : Except ToomossError ToomossAPI :=
  if api.dll = 0 then .error .dllMissing
  else
    let proc := library.procAddress api.dll
    let errs := ["USB_ScanDevice","USB_OpenDevice","USB_CloseDevice"].filter (proc · == 0)
    let api : ToomossAPI := ⟨api.dll,proc "USB_ScanDevice",proc "USB_OpenDevice",
      proc "USB_CloseDevice",proc "CAN_Init",proc "CAN_StartGetMsg",proc "CAN_GetMsg",
      proc "CAN_SendMsgWithTime",proc "CAN_GetCANSpeedArg",proc "CANFD_Init",
      proc "CANFD_StartGetMsg",proc "CANFD_GetMsg",proc "CANFD_SendMsgWithTime",
      proc "CANFD_GetCANSpeedArg"⟩
    if errs ≠ [] ∧ !api.ready then .error (.procsMissing errs)
    else if !api.ready then .error .noCANProcs
    else .ok api

theorem release_dll (api : ToomossAPI) : api.release.dll = 0 := by
  unfold release
  split_ifs with unloaded
  · exact unloaded
  · rfl

theorem ready_loaded {api : ToomossAPI} (ready : api.ready = true) : api.dll ≠ 0 ∧ api.close ≠ 0 := by
  simp only [ToomossAPI.ready,Bool.and_eq_true,bne_iff_ne] at ready
  exact ⟨ready.1.1.1.1,ready.1.2⟩

end ToomossAPI

/-- A library whose procedures are missing is released before the error is returned. -/
def loadToomossAPI (library : Library) : Except ToomossError ToomossAPI := do
  let api ← ToomossAPI.zero.loadDLL library
  api.loadProcs library

theorem loadToomossAPI_ready {library : Library} {api : ToomossAPI}
    (loaded : loadToomossAPI library = .ok api) : api.ready = true := by
  unfold loadToomossAPI ToomossAPI.loadDLL at loaded
  cases found : library.registryDLL.or library.binDLL with
  | none =>
    rw [found] at loaded
    cases loaded
  | some handle =>
    rw [found] at loaded
    simp only [bind,Except.bind,ToomossAPI.loadProcs] at loaded
    split_ifs at loaded with _ _ unready
    cases loaded
    simpa using unready

def syscallN (proc : String) (reply : Reply) : Except ToomossError Nat :=
  if reply.callErr ≠ 0 then .error (.syscallFailed proc reply.callErr) else .ok reply.value

def canSuccess : Nat := 0

/-- Where the holder of an instance's `opMu` is: at the step it makes next, or `idle` when the
mutex is free. `clean`, `release` and `disown` are the cleanup of `initialize`, and the last two
also the end of `stop`, whose other steps are `cancel` and `close`. -/
inductive Place where
  | idle
  | acquire
  | own
  | load
  | scan
  | openUSB
  | speed
  | init (speed : Nat)
  | start (speed init : Nat)
  | clean (opened : Bool) (error : ToomossError)
  | cancel
  | close
  | release (result : Option ToomossError)
  | disown (result : Option ToomossError)
  | returned (result : Option ToomossError)

/-- `usbOpen` says whether the vendor has the USB device open, and `usbLeft` whether that is so
since a call of `USB_OpenDevice` that the code took as failed or a call of `USB_CloseDevice`. -/
structure Toomoss where
  place : Place
  cfg : BusConfig
  canType : Mode
  canChannel : UInt8
  legacyCAN : Bool
  lifecycle : Lifecycle
  ownsDevice : Bool
  api : ToomossAPI
  usbOpen : Bool
  usbLeft : Bool

/-- What the next step of a call is answered, and whether the vendor then has the USB device open,
where the step calls `USB_OpenDevice` or `USB_CloseDevice`. -/
structure Answer where
  library : Library
  reply : Reply
  usbOpen : Bool

inductive Operation where
  | initializes
  | stops

namespace Toomoss

def new (cfg : BusConfig) : Toomoss :=
  ⟨.idle,cfg,cfg.mode,cfg.channel,false,⟨false,false⟩,false,.zero,false,false⟩

def moveTo (t : Toomoss) (place : Place) : Toomoss := { t with place := place }

def scan (t : Toomoss) (reply : Reply) : Except ToomossError Bool :=
  if t.api.scan = 0 then .error (.notLoaded "USB_ScanDevice")
  else (syscallN "USB_ScanDevice" reply).map fun ret => 0 < ret

def openUSB (t : Toomoss) (answer : Answer) : Toomoss × Except ToomossError Bool :=
  if t.api.openDevice = 0 then (t,.error (.notLoaded "USB_OpenDevice"))
  else
    let called : Toomoss := { t with usbOpen := answer.usbOpen, usbLeft := answer.usbOpen }
    match syscallN "USB_OpenDevice" answer.reply with
    | .error error => (called,.error error)
    | .ok stateValue =>
      if 1 ≤ stateValue then ({ called with usbLeft := false },.ok true) else (called,.ok false)

def closeUSB (t : Toomoss) (answer : Answer) : Toomoss × Option ToomossError :=
  if t.api.dll = 0 then (t,none)
  else if t.api.close = 0 then ({ t with api := t.api.release },some (.notLoaded "USB_CloseDevice"))
  else
    let t : Toomoss :=
      { t with api := t.api.release, usbOpen := answer.usbOpen, usbLeft := answer.usbOpen }
    match syscallN "USB_CloseDevice" answer.reply with
    | .error error => (t,some error)
    | .ok ret => (t,if ret < 1 then some (.closeReturned ret) else none)

/-- `initialize` up to the acquisition of the session. -/
def beginInitialize (t : Toomoss) : Toomoss :=
  if t.lifecycle.initialized then t.moveTo (.returned none)
  else match t.cfg.normalized with
    | .error error => t.moveTo (.returned (some (.config error)))
    | .ok cfg =>
      { t with
        cfg := cfg, canType := cfg.mode, canChannel := cfg.channel, legacyCAN := false
        place := .acquire }

def begins (t : Toomoss) : Operation → Toomoss
  | .initializes => t.beginInitialize
  | .stops => t.moveTo .cancel

/-- The check of the procedures of a mode, after the USB device has been opened. -/
def configure (t : Toomoss) : Toomoss :=
  if t.canType = Mode.classic then
    let t : Toomoss := { t with legacyCAN := true }
    if t.api.canSpeed = 0 ∨ t.api.canInit = 0 ∨ t.api.canStart = 0 then
      t.moveTo (.clean true .classicAPIMissing)
    else t.moveTo .speed
  else if t.api.fdSpeed = 0 ∨ t.api.fdInit = 0 ∨ t.api.fdStart = 0 ∨ t.api.fdGet = 0 ∨
      t.api.fdSend = 0 then t.moveTo (.clean true .fdAPIMissing)
  else if t.cfg.nominalTiming.isZero then t.moveTo .speed
  else t.moveTo (.init 0)

def getSpeed (t : Toomoss) (reply : Reply) : Toomoss :=
  match syscallN (if t.legacyCAN then "CAN_GetCANSpeedArg" else "CANFD_GetCANSpeedArg") reply with
  | .error error => t.moveTo (.clean true error)
  | .ok ret =>
    if t.legacyCAN ∧ ret ≠ canSuccess then t.moveTo (.clean true (.speedReturned ret))
    else t.moveTo (.init ret)

def initChannel (t : Toomoss) (reply : Reply) (speed : Nat) : Toomoss :=
  match syscallN (if t.legacyCAN then "CAN_Init" else "CANFD_Init") reply with
  | .error error => t.moveTo (.clean true error)
  | .ok ret => t.moveTo (.start speed ret)

def startGetMsg (t : Toomoss) (reply : Reply) (speed init : Nat) : Toomoss :=
  match syscallN (if t.legacyCAN then "CAN_StartGetMsg" else "CANFD_StartGetMsg") reply with
  | .error error => t.moveTo (.clean true error)
  | .ok start =>
    if t.legacyCAN then
      if init ≠ canSuccess ∨ start ≠ canSuccess then
        t.moveTo (.clean true (.classicFailed init start))
      else { t with lifecycle := t.lifecycle.markInitialized, place := .returned none }
    else if ¬ (init = 0 ∧ start = 0 ∧ speed = 0) then
      t.moveTo (.clean true (.fdFailed init start speed))
    else { t with lifecycle := t.lifecycle.markInitialized, place := .returned none }

/-- The next step of the holder of `opMu`, where that step leaves the session flag alone. -/
def proceed (answer : Answer) (t : Toomoss) : Toomoss :=
  match t.place with
  | .own => { t with ownsDevice := true, place := .load }
  | .load => match loadToomossAPI answer.library with
    | .error error => t.moveTo (.clean false error)
    | .ok api => { t with api := api, place := .scan }
  | .scan => match t.scan answer.reply with
    | .error error => t.moveTo (.clean false error)
    | .ok ok => if ok then t.moveTo .openUSB else t.moveTo (.clean false .deviceNotFound)
  | .openUSB =>
    let called := t.openUSB answer
    match called.2 with
    | .error error => called.1.moveTo (.clean false error)
    | .ok ok => if ok then called.1.configure else called.1.moveTo (.clean false .openFailed)
  | .speed => t.getSpeed answer.reply
  | .init speed => t.initChannel answer.reply speed
  | .start speed init => t.startGetMsg answer.reply speed init
  | .clean opened error =>
    if opened then (t.closeUSB answer).1.moveTo (.release (some error))
    else { t with api := t.api.release, place := .release (some error) }
  | .cancel =>
    { t with
      lifecycle := t.lifecycle.cancelAndWait
      place := if t.lifecycle.initialized then .close else .release none }
  | .close => (t.closeUSB answer).1.moveTo (.release none)
  | .disown result => { t with ownsDevice := false, place := .returned result }
  | .idle | .acquire | .release _ | .returned _ => t

end Toomoss

/-- The places whose step reads or writes the session flag, or begins or ends a call. -/
def Place.shared : Place → Bool
  | .idle | .acquire | .release _ | .returned _ => true
  | _ => false

structure World (Id : Type) where
  toomossInUse : Bool
  device : Id → Toomoss

inductive Event where
  | begins (operation : Operation)
  | acquires
  | proceeds (answer : Answer)
  | releases
  | returns (result : Option ToomossError)

namespace World

variable {Id : Type}

def new (cfgs : Id → BusConfig) : World Id := ⟨false,fun i => .new (cfgs i)⟩

variable [DecidableEq Id]

def put (w : World Id) (i : Id) (t : Toomoss) : World Id :=
  { w with device := Function.update w.device i t }

def acquireToomossSession (w : World Id) : World Id × Bool :=
  if w.toomossInUse then (w,false) else ({ w with toomossInUse := true },true)

def releaseToomossSession (w : World Id) : World Id := { w with toomossInUse := false }

def acquire (w : World Id) (i : Id) : World Id :=
  if w.acquireToomossSession.2 then w.acquireToomossSession.1.put i ((w.device i).moveTo .own)
  else w.put i ((w.device i).moveTo (.returned (some .busy)))

def release (w : World Id) (i : Id) (result : Option ToomossError) : World Id :=
  if (w.device i).ownsDevice then w.releaseToomossSession.put i ((w.device i).moveTo (.disown result))
  else w.put i ((w.device i).moveTo (.returned result))

end World

variable {Id : Type}

/-- A step of one instance. A call begins when it has got the instance's `opMu`. -/
inductive Step [DecidableEq Id] : World Id → Id × Event → World Id → Prop
  | begins {w i} (operation : Operation) (free : (w.device i).place = .idle) :
      Step w (i,.begins operation) (w.put i ((w.device i).begins operation))
  | acquires {w i} (place : (w.device i).place = .acquire) :
      Step w (i,.acquires) (w.acquire i)
  | proceeds {w i} (answer : Answer) (alone : (w.device i).place.shared = false) :
      Step w (i,.proceeds answer) (w.put i ((w.device i).proceed answer))
  | releases {w i result} (place : (w.device i).place = .release result) :
      Step w (i,.releases) (w.release i result)
  | returns {w i result} (place : (w.device i).place = .returned result) :
      Step w (i,.returns result) (w.put i ((w.device i).moveTo .idle))

end Canbuskit.Driver.ToomossSession
