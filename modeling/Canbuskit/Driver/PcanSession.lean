import Canbuskit.Driver.Backend
import Canbuskit.Driver.BitTiming
import Canbuskit.Driver.Burst
import Canbuskit.Driver.Encoders

/-! A PCAN channel from its first `initialize` on: the calls of `PCANBasic.dll` that its methods and its
read loop make. Every run with a library that exports its procedures keeps to what it expects, whatever
it answers. Where to look for the library is asked outside, and the calls that only describe a status
for the log are left out. -/
namespace Canbuskit.Driver.PCAN
open Can Channel Runs Sections Backend

def pcanUSBBaseLow : Nat := 0x51
def pcanUSBBaseHigh : Nat := 0x500

def pcanUSBHandle (channel : Int) : Option UInt16 :=
  if channel < 0 ∨ 15 < channel then none
  else if channel < 8 then some (UInt16.ofNat (pcanUSBBaseLow + channel.toNat))
  else some (UInt16.ofNat (pcanUSBBaseHigh + channel.toNat + 1))

def pcanClassicBauds : List (UInt32 × UInt16) :=
  [(1000000,0x0014),(800000,0x0016),(500000,0x001C),(250000,0x011C),(125000,0x031C),(100000,0x432F),
   (50000,0x472F),(20000,0x532F),(10000,0x672F),(5000,0x7F7F)]

def pcanClassicBaud (bitrate : UInt32) : UInt16 := (pcanClassicBauds.lookup bitrate).getD 0

def pcanFDDefaultBitrate : String :=
  "f_clock_mhz=80,nom_brp=20,nom_tseg1=5,nom_tseg2=2,nom_sjw=1,data_brp=4,data_tseg1=7,data_tseg2=2,data_sjw=1"

/-- The parameters of one bit phase. -/
def phaseText (phase : String) (timing : PcanTiming) (sjw : Int) : String :=
  s!"{phase}_brp={timing.brp},{phase}_tseg1={timing.tseg1},{phase}_tseg2={timing.tseg2},{phase}_sjw={sjw}"

def pcanFDText (nominal data : PcanTiming) (nominalSJW dataSJW : Int) : String :=
  "f_clock_mhz=80," ++ phaseText "nom" nominal nominalSJW ++ "," ++ phaseText "data" data dataSJW

inductive Error where
  | notOpen
  | config (error : BusConfigError)
  | channelOutOfRange (channel : UInt8)
  | dllMissing (errs : List String)
  | unknownCANType (canType : Mode)
  | initNotLoaded
  | unsupportedBitrate (bitrate : UInt32)
  | unsupportedNominalBitrate (bitrate : UInt32) (error : PcanTimingError)
  | unsupportedDataBitrate (bitrate : UInt32) (error : PcanTimingError)
  | initFailed (status : String)
  | setValueMissing
  | setValueFailed (status : String)
  | notFDMode
  | writeFailed (fd : Bool) (status : String)

def pcanFDBitrate (nominal data : UInt32) : Except Error String :=
  if nominal = 500000 ∧ data = 2000000 then .ok pcanFDDefaultBitrate
  else match findPCANBitTiming nominal 256 128 with
    | .error err => .error (.unsupportedNominalBitrate nominal err)
    | .ok nom => match findPCANBitTiming data 32 16 with
      | .error err => .error (.unsupportedDataBitrate data err)
      | .ok dat => .ok (pcanFDText nom dat (min nom.tseg2 4) (min dat.tseg2 4))

def pcanFDBitrateFromTiming (nominal data : BitTiming) : String :=
  pcanFDText ⟨nominal.brp.toNat,nominal.seg1.toNat,nominal.seg2.toNat⟩
    ⟨data.brp.toNat,data.seg1.toNat,data.seg2.toNat⟩ nominal.sjw.toNat data.sjw.toNat

def pcanAllowEchoFrames : UInt32 := 0x2C
def pcanParameterOn : UInt32 := 0x01
def msgBufferSize : Nat := 1024

/-- Finding the library and loading it count as calls. -/
inductive Call where
  | dllCandidates
  | load (dllPath : String)
  | initCAN (handle baud : UInt16)
  | initFD (handle : UInt16) (bitrate : String)
  | setValue (handle : UInt16) (parameter value : UInt32)
  | read (handle : UInt16)
  | readFD (handle : UInt16)
  | write (handle : UInt16) (msg : PcanMsg)
  | writeFD (handle : UInt16) (msg : PcanMsgFD)
  | getErrorText (status : UInt32)
  | uninit (handle : UInt16)

/-- What a call returns, the record that a read has written, the text of an error up to its end, and the
paths of the library or what loading one failed with. -/
structure Reply where
  ret : UInt64
  record : PcanRecord
  text : String
  paths : List String
  error : Option String

instance : Inhabited Reply := ⟨⟨0,.fd ⟨0,0,0,Vector.replicate 64 0⟩ 0,"",[],none⟩⟩

def Reply.status (reply : Reply) : UInt32 := reply.ret.toUInt32

/-- Loading the library sets all its procedures. -/
structure Fields where
  canType : Mode
  handle : UInt16
  canChannel : UInt8
  loaded : Bool

/-- The procedures that are called without a look for them. -/
def procedures : List String :=
  ["CAN_Initialize","CAN_InitializeFD","CAN_Uninitialize","CAN_Read","CAN_ReadFD","CAN_Write",
   "CAN_WriteFD","CAN_GetErrorText"]

def Fields.has (exports : Exports) (name : String) (own : Fields) : Bool := own.loaded && exports name

abbrev Adapter := Backend Fields

abbrev Action := BackendProgram Fields Call Reply

def newPCAN (cfg : BusConfig) : Adapter :=
  Backend.new cfg ⟨cfg.mode,(pcanUSBHandle cfg.channel.toNat).getD 0,cfg.channel,false⟩

section methods

variable (exports : Exports)

def formatStatus (status : UInt32) : Action String := do
  let code := "pcan status 0x" ++ (String.ofList (Nat.toDigits 16 status.toNat)).toUpper
  let p ← Program.read
  if !p.own.loaded then pure code
  else do
    let reply ← callVendor (Fields.has exports "CAN_GetErrorText") (.getErrorText status)
    pure (if reply.status ≠ pcanErrorOK then code else reply.text)

def loadDLL : Action (Except (List String) Unit) := do
  let candidates ← callVendor (fun _ => true) .dllCandidates
  loadFrom .load Reply.error (fun own => { own with loaded := true }) [] candidates.paths

/-- The end of `initCAN` and `initFD`. -/
def initialized (reply : Reply) : Action (Except Error Unit) :=
  if reply.status ≠ pcanErrorOK then do
    let text ← formatStatus exports reply.status
    pure (.error (.initFailed text))
  else pure (.ok ())

def initCAN : Action (Except Error Unit) := do
  let p ← Program.read
  if !p.own.loaded then pure (.error .initNotLoaded)
  else
    let baud := pcanClassicBaud p.cfg.nominalBitrate
    if baud = 0 then pure (.error (.unsupportedBitrate p.cfg.nominalBitrate))
    else do
      let reply ← callVendor (Fields.has exports "CAN_Initialize") (.initCAN p.own.handle baud)
      initialized exports reply

def bitrateConfig (cfg : BusConfig) : Except Error String :=
  if !cfg.nominalTiming.isZero then .ok (pcanFDBitrateFromTiming cfg.nominalTiming cfg.dataTiming)
  else pcanFDBitrate cfg.nominalBitrate cfg.dataBitrate

def initFD : Action (Except Error Unit) := do
  let p ← Program.read
  if !p.own.loaded then pure (.error .initNotLoaded)
  else match bitrateConfig p.cfg with
    | .error err => pure (.error err)
    | .ok bitrate => do
      let reply ← callVendor (Fields.has exports "CAN_InitializeFD") (.initFD p.own.handle bitrate)
      initialized exports reply

def enableEchoFrames : Action (Except Error Unit) := do
  let p ← Program.read
  if !p.own.has exports "CAN_SetValue" then pure (.error .setValueMissing)
  else do
    let reply ← callVendor (Fields.has exports "CAN_SetValue")
      (.setValue p.own.handle pcanAllowEchoFrames pcanParameterOn)
    if reply.ret ≠ 0 then do
      let text ← formatStatus exports reply.status
      pure (.error (.setValueFailed text))
    else pure (.ok ())

/-- It closes the fanout and the channel without a look at them. -/
def cleanup (error : Error) : Action (Except Error Unit) := do
  cancel
  let p ← Program.read
  let _ ← Program.request (.joinFanout p.fanout p.ctx)
  let _ ← Program.request (.close p.rxChan)
  Program.write fun p => { p with fanout := false }
  Program.write fun p => { p with rxChan := none }
  pure (.error error)

def initChannel (canType : Mode) : Action (Except Error Unit) :=
  if canType = Mode.fd then initFD exports
  else if canType = Mode.classic then initCAN exports
  else pure (.error (.unknownCANType canType))

def openChannel (cfg : BusConfig) : Action (Except Error Unit) := do
  openReceive
  match pcanUSBHandle cfg.channel.toNat with
  | none => cleanup (.channelOutOfRange cfg.channel)
  | some handle => do
    Program.write (setOwn fun own => { own with handle := handle })
    match ← loadDLL with
    | .error errs => cleanup (.dllMissing errs)
    | .ok () => match ← initChannel exports cfg.mode with
      | .error err => cleanup err
      | .ok () => do
        let _ ← enableEchoFrames exports
        markInitialized
        pure (.ok ())

def initializeChannel : Action (Except Error Unit) := do
  let p ← Program.read
  if p.initialized then pure (.ok ())
  else match p.cfg.normalized with
    | .error error => pure (.error (.config error))
    | .ok cfg => do
      Program.write fun p =>
        { p with cfg := cfg, own := { p.own with canType := cfg.mode, canChannel := cfg.channel } }
      openChannel exports cfg

def readCall (p : Adapter) : Call :=
  if p.own.canType = Mode.fd then .readFD p.own.handle else .read p.own.handle

def Fields.canRead (own : Fields) : Bool :=
  own.has exports (if own.canType = Mode.fd then "CAN_ReadFD" else "CAN_Read")

/-- `callReadFD` or `callRead`, whichever the mode asks for. -/
def callRead : Action UInt32 := do
  let p ← Program.read
  if !p.own.loaded then pure pcanErrorIllData
  else do
    let reply ← callVendor (Fields.canRead exports) (readCall p)
    pure reply.status

def drainInitialBuffer : Nat → Action Unit
  | 0 => pure ()
  | n + 1 => do
    let status ← callRead exports
    if status = pcanErrorQRCVEmpty then pure () else drainInitialBuffer n

def start : Action (Except Error Unit) := do
  let p ← Program.read
  if !p.initialized then pure (.error .notOpen)
  else do
    drainInitialBuffer exports msgBufferSize
    let _ ← startLoop
    pure (.ok ())

/-- What `stop` does to the channel. -/
def uninit (wasInitialized : Bool) : Action Unit := do
  let p ← Program.read
  if wasInitialized && p.own.loaded then do
    let _ ← callVendor (Fields.has exports "CAN_Uninitialize") (.uninit p.own.handle)
    pure ()
  else pure ()

def stop : Action (Except Error Unit) := do
  let wasInitialized ← cancelAndWait
  closeFanout
  uninit exports wasInitialized
  closeRx
  pure (.ok ())

def PcanWritten.call (handle : UInt16) : PcanWritten → Call
  | .classic msg => .write handle msg
  | .fd msg => .writeFD handle msg

def PcanWritten.procedure : PcanWritten → String
  | .classic _ => "CAN_Write"
  | .fd _ => "CAN_WriteFD"

/-- `callWriteFD` or `callWrite`. -/
def callWrite (msg : PcanWritten) : Action UInt32 := do
  let p ← Program.read
  if !p.own.loaded then pure pcanErrorIllData
  else do
    let reply ← callVendor (Fields.has exports (PcanWritten.procedure msg)) (PcanWritten.call p.own.handle msg)
    pure reply.status

def write (frame : Frame) : Action (Except Error Unit) := do
  let p ← Program.read
  if !p.initialized then pure (.error .notOpen)
  else match pcanWrite p.own.canType p.cfg frame with
    | none => pure (.error (if frame.fd then .notFDMode else .unknownCANType p.own.canType))
    | some msg => do
      let status ← callWrite exports msg
      if status ≠ pcanErrorOK then do
        let text ← formatStatus exports status
        pure (.error (.writeFailed frame.fd text))
      else pure (.ok ())

def setBRS (enabled : Bool) : Action (Except Error Unit) := do
  Program.write fun p => { p with cfg := { p.cfg with brs := enabled } }
  pure (.ok ())

inductive Method where
  | initializes
  | starts
  | stops
  | writes (frame : Frame)
  | setsBRS (enabled : Bool)

def Method.body : Method → Action (Except Error Unit)
  | .initializes => initializeChannel exports
  | .starts => start exports
  | .stops => stop exports
  | .writes frame => write exports frame
  | .setsBRS enabled => setBRS enabled

/-- A pass through the loop of `readBurst`. -/
def readHandled (p : Adapter) (reply : Reply) : ReadPlace :=
  if !handleReadStatus reply.status then .selecting
  else if reply.status ≠ pcanErrorOK then .reading
  else .publishing (reply.record.enqueue p.cfg).toList

def machine : Machine Adapter (BackendCall Call) Reply (Except Error Unit) Method ReadPlace
    (ReadChoice Reply) where
  body := Method.body exports
  first := .selecting
  react := readStep (Fields.canRead exports) readCall readHandled .reading

end methods

/-- The channel that the library has initialized, and whether for CAN FD. -/
structure Session where
  handle : UInt16
  fd : Bool
  deriving DecidableEq

/-- With the channels that it has refused to uninitialize, and that are still initialized for it. -/
structure Library where
  session : Option Session
  left : List UInt16

def Reply.initializes (reply : Reply) (session : Session) (left : List UInt16) : Library :=
  if reply.status = pcanErrorOK then ⟨some session,left.filter fun handle => handle ≠ session.handle⟩
  else ⟨none,left⟩

def Reply.ends (reply : Reply) (handle : UInt16) (left : List UInt16) : Library :=
  ⟨none,if reply.status = pcanErrorOK then left else handle :: left⟩

/-- A channel is initialized once at a time unless it was left so, read and written with the functions of
its format, and uninitialized when it is initialized. -/
def serve : Accept Library Call Reply
  | library, .dllCandidates, _ => some library
  | library, .load _, _ => some library
  | library, .getErrorText _, _ => some library
  | ⟨none,left⟩, .initCAN handle _, reply => some (reply.initializes ⟨handle,false⟩ left)
  | ⟨none,left⟩, .initFD handle _, reply => some (reply.initializes ⟨handle,true⟩ left)
  | ⟨some session,left⟩, .setValue handle _ _, _ =>
    if handle = session.handle then some ⟨some session,left⟩ else none
  | ⟨some session,left⟩, .read handle, _ =>
    if session = ⟨handle,false⟩ then some ⟨some session,left⟩ else none
  | ⟨some session,left⟩, .readFD handle, _ =>
    if session = ⟨handle,true⟩ then some ⟨some session,left⟩ else none
  | ⟨some session,left⟩, .write handle _, _ =>
    if session = ⟨handle,false⟩ then some ⟨some session,left⟩ else none
  | ⟨some session,left⟩, .writeFD handle _, _ =>
    if session = ⟨handle,true⟩ then some ⟨some session,left⟩ else none
  | ⟨some session,left⟩, .uninit handle, reply =>
    if handle = session.handle then some (reply.ends handle left) else none
  | _, _, _ => none

def Fields.session (own : Fields) : Session := ⟨own.handle,own.canType = Mode.fd⟩

def Live (own : Fields) (library : Library) : Prop :=
  own.loaded = true ∧ library.session = some own.session

def Idle (_ : Fields) (library : Library) : Prop := library.session = none

abbrev Rests := @Rested Fields Library Live Idle

abbrev pcanRules := @rules Fields Call Reply Library serve Live

variable {exports : Exports} {p : Adapter} {out : Outside Library} {alone : Bool}

theorem serve_setValue {library : Library} (live : Live p.own library) (parameter value : UInt32)
    (reply : Reply) : serve library (.setValue p.own.handle parameter value) reply = some library := by
  obtain ⟨session,left⟩ := library
  obtain ⟨_,rfl⟩ := live
  exact if_pos rfl

theorem serve_read {library : Library} (live : Live p.own library) (reply : Reply) :
    serve library (readCall p) reply = some library := by
  obtain ⟨session,left⟩ := library
  obtain ⟨_,rfl⟩ := live
  unfold readCall
  split_ifs with fd <;> simp [serve,Fields.session,fd]

theorem serve_uninit {library : Library} (live : Live p.own library) (reply : Reply) :
    serve library (.uninit p.own.handle) reply = some (reply.ends p.own.handle library.left) := by
  obtain ⟨session,left⟩ := library
  obtain ⟨_,rfl⟩ := live
  exact if_pos rfl

theorem pcanWrite_mode {canType : Mode} {cfg : BusConfig} {frame : Frame} {msg : PcanWritten}
    (written : pcanWrite canType cfg frame = some msg) :
    (∃ record, msg = .fd record ∧ canType = Mode.fd) ∨ ∃ record, msg = .classic record ∧ canType = Mode.classic := by
  unfold pcanWrite at written
  dsimp only at written
  split at written
  · split at written
    · cases written
    · rename_i mode
      cases written
      exact .inl ⟨_,rfl,not_not.mp mode⟩
  · split at written
    · rename_i mode
      cases written
      exact .inl ⟨_,rfl,mode⟩
    · split at written
      · rename_i mode
        cases written
        exact .inr ⟨_,rfl,mode⟩
      · cases written

theorem serve_write {library : Library} (live : Live p.own library) {frame : Frame} {msg : PcanWritten}
    (written : pcanWrite p.own.canType p.cfg frame = some msg) (reply : Reply) :
    serve library (PcanWritten.call p.own.handle msg) reply = some library := by
  obtain ⟨session,left⟩ := library
  obtain ⟨_,rfl⟩ := live
  obtain ⟨record,rfl,mode⟩ | ⟨record,rfl,mode⟩ := pcanWrite_mode written
  · simp [PcanWritten.call,serve,Fields.session,mode]
  · simp [PcanWritten.call,serve,Fields.session,mode,Mode.classic,Mode.fd]

theorem wp_loadDLL {post : Except (List String) Unit → Bool → Adapter → Outside Library → Prop}
    (fails : ∀ errs, post (.error errs) true p out)
    (works : post (.ok ()) true (p.setOwn fun own => { own with loaded := true }) out) :
    loadDLL.wp pcanRules post true p out := by
  unfold loadDLL
  rw [Program.wp_bind]
  apply wp_callVendor rfl
  intro candidates
  refine ⟨out.session,by simp [serve],by simp,?_⟩
  apply wp_loadFrom _ fails works
  simp [serve]

theorem wp_cleanup (receives : p.Receives out.heap) (shut : out.session.session = none)
    (down : p.initialized = false) (ctx : p.ctx = some false) (channel : p.rxChan.isSome)
    (fanout : p.fanout = true) (error : Error) :
    (cleanup error).wp pcanRules (fun _ _ => Rests) true p out := by
  obtain ⟨rxChan,holds⟩ := Option.isSome_iff_exists.mp channel
  have live := receives.open holds
  unfold cleanup
  rw [Program.wp_bind]
  apply wp_cancel
  simp only [Program.wp_bind,Program.wp_read,Program.wp_request,Program.wp_write,Program.wp_pure,rules,
    Outside.accept,fanout,ctx,holds]
  refine fun _ => ⟨out,by simp,by simp,fun _ => ⟨_,if_pos live,by simp,by simp,by simp,?_⟩⟩
  exact Receives.rested (receives.closes holds rfl rfl) down shut rfl rfl

theorem wp_setBRS (rested : Rests p out) (enabled : Bool) :
    (setBRS enabled).wp pcanRules (fun _ _ => Rests) alone p out :=
  rested.configures (fun s => { s.cfg with brs := enabled }) (Except.ok ())

section complete

variable (complete : exports.Has procedures)
include complete

theorem wp_formatStatus {post : String → Bool → Adapter → Outside Library → Prop} {status : UInt32}
    (later : ∀ text, post text alone p out) : (formatStatus exports status).wp pcanRules post alone p out := by
  simp only [formatStatus,Program.wp_bind,Program.wp_read]
  split_ifs with missing
  · exact later _
  · rw [Program.wp_bind]
    apply wp_callVendor (complete.call (by simpa using missing) (by simp [procedures]))
    intro reply
    exact ⟨out.session,by simp [serve],by simp,later _⟩

section initialization

variable {post : Except Error Unit → Bool → Adapter → Outside Library → Prop}

theorem wp_initialized (reply : Reply) (fails : reply.status ≠ pcanErrorOK → ∀ err, post (.error err) true p out)
    (works : reply.status = pcanErrorOK → post (.ok ()) true p out) :
    (initialized exports reply).wp pcanRules post true p out := by
  unfold initialized
  split_ifs with failed
  · rw [Program.wp_bind]
    apply wp_formatStatus complete
    intro text
    exact fails failed _
  · exact works (not_not.mp failed)

theorem wp_initializes {name : String} {call : Call} {session : Session} (member : name ∈ procedures)
    (loaded : p.own.loaded = true) (shut : out.session.session = none)
    (served : ∀ left reply, serve ⟨none,left⟩ call reply = some (reply.initializes session left))
    (fails : ∀ err, post (.error err) true p out)
    (works : ∀ left, post (.ok ()) true p ⟨⟨some session,left⟩,out.heap⟩) :
    (do
      let reply ← callVendor (Fields.has exports name) call
      initialized exports reply).wp pcanRules post true p out := by
  rw [Program.wp_bind]
  apply wp_callVendor (complete.call loaded member)
  intro reply
  have accepted := served out.session.left reply
  rw [← shut] at accepted
  refine ⟨_,accepted,by simp,?_⟩
  unfold Reply.initializes
  apply wp_initialized complete
  · intro failed err
    rw [if_neg failed,← shut]
    exact fails err
  · intro succeeded
    rw [if_pos succeeded]
    exact works _

theorem wp_initCAN (loaded : p.own.loaded = true) (shut : out.session.session = none)
    (fails : ∀ err, post (.error err) true p out)
    (works : ∀ left, post (.ok ()) true p ⟨⟨some ⟨p.own.handle,false⟩,left⟩,out.heap⟩) :
    (initCAN exports).wp pcanRules post true p out := by
  simp only [initCAN,Program.wp_bind,Program.wp_read,loaded]
  rw [if_neg (by simp)]
  split_ifs with unsupported
  · exact fails _
  · exact wp_initializes complete (by simp [procedures]) loaded shut (fun _ _ => rfl) fails works

theorem wp_initFD (loaded : p.own.loaded = true) (shut : out.session.session = none)
    (fails : ∀ err, post (.error err) true p out)
    (works : ∀ left, post (.ok ()) true p ⟨⟨some ⟨p.own.handle,true⟩,left⟩,out.heap⟩) :
    (initFD exports).wp pcanRules post true p out := by
  simp only [initFD,Program.wp_bind,Program.wp_read,loaded]
  rw [if_neg (by simp)]
  cases bitrateConfig p.cfg with
  | error err => exact fails _
  | ok bitrate =>
    exact wp_initializes complete (by simp [procedures]) loaded shut (fun _ _ => rfl) fails works

theorem wp_initChannel {canType : Mode} (mode : p.own.canType = canType) (loaded : p.own.loaded = true)
    (shut : out.session.session = none) (fails : ∀ err, post (.error err) true p out)
    (works : ∀ left, post (.ok ()) true p ⟨⟨some p.own.session,left⟩,out.heap⟩) :
    (initChannel exports canType).wp pcanRules post true p out := by
  subst mode
  unfold initChannel
  split_ifs with fd classic
  · apply wp_initFD complete loaded shut fails
    simpa [Fields.session,fd] using works
  · apply wp_initCAN complete loaded shut fails
    simpa [Fields.session,fd] using works
  · exact fails _

theorem wp_enableEchoFrames (live : Live p.own out.session) (later : ∀ result, post result true p out) :
    (enableEchoFrames exports).wp pcanRules post true p out := by
  simp only [enableEchoFrames,Program.wp_bind,Program.wp_read]
  split_ifs with missing
  · exact later _
  rw [Program.wp_bind]
  apply wp_callVendor (by simpa using missing)
  intro reply
  refine ⟨out.session,serve_setValue live _ _ reply,by simp,?_⟩
  rw [Program.wp_ite]
  split_ifs with failed
  · rw [Program.wp_bind]
    apply wp_formatStatus complete
    intro text
    exact later _
  · exact later _

end initialization

theorem wp_openChannel (receives : p.Receives out.heap) (shut : out.session.session = none)
    (without : p.rxChan = none) (down : p.initialized = false) (cfg : BusConfig)
    (mode : p.own.canType = cfg.mode) : (openChannel exports cfg).wp pcanRules (fun _ _ => Rests) true p out := by
  unfold openChannel
  rw [Program.wp_bind]
  apply wp_openReceive receives without
  intro heap q makes
  have cleans (own : Fields) (error : Error) :
      (cleanup error).wp pcanRules (fun _ _ => Rests) true { q with own := own } ⟨out.session,heap⟩ := by
    apply wp_cleanup
    · exact makes.same rfl rfl
    · exact shut
    · exact down
    · rfl
    · rfl
    · rfl
  cases pcanUSBHandle cfg.channel.toNat with
  | none => exact cleans _ _
  | some handle =>
    rw [Program.wp_bind,Program.wp_write]
    refine ⟨by simp,?_⟩
    rw [Program.wp_bind]
    apply wp_loadDLL
    · intro errs
      exact cleans _ _
    rw [Program.wp_bind]
    apply wp_initChannel complete
    · exact mode
    · rfl
    · exact shut
    · intro err
      exact cleans _ _
    intro left
    simp only [Program.wp_bind]
    apply wp_enableEchoFrames complete
    · exact ⟨rfl,rfl⟩
    intro result
    refine ⟨by simp,makes.same rfl rfl,?_⟩
    rw [if_pos rfl]
    exact ⟨⟨rfl,rfl⟩,rfl,rfl,rfl⟩

theorem wp_initializeChannel (rested : Rests p out) (beside : alone = false → Up Live p out) :
    (initializeChannel exports).wp pcanRules (fun _ _ => Rests) alone p out := by
  simp only [initializeChannel,Program.wp_bind,Program.wp_read]
  rw [Program.wp_ite]
  split_ifs with initialized
  · exact rested
  have down : p.initialized = false := by simpa using initialized
  obtain rfl := rested.alone down beside
  obtain ⟨receives,shut,without,_⟩ := rested.down down
  cases p.cfg.normalized with
  | error error => exact rested
  | ok cfg =>
    simp only [Program.wp_bind,Program.wp_write]
    refine ⟨by simp,?_⟩
    apply wp_openChannel complete
    · exact receives.same rfl rfl
    · exact shut
    · exact without
    · exact down
    · rfl

theorem canRead (loaded : p.own.loaded = true) : p.own.canRead exports = true := by
  apply complete.call loaded
  split_ifs <;> simp [procedures]

theorem wp_callRead {post : UInt32 → Bool → Adapter → Outside Library → Prop}
    (live : Live p.own out.session) (later : ∀ status, post status alone p out) :
    (callRead exports).wp pcanRules post alone p out := by
  simp only [callRead,Program.wp_bind,Program.wp_read,live.1]
  rw [if_neg (by simp)]
  simp only [Program.wp_bind]
  apply wp_callVendor (canRead complete live.1)
  intro reply
  exact ⟨out.session,serve_read live reply,by simp,later _⟩

theorem wp_drainInitialBuffer {post : Unit → Bool → Adapter → Outside Library → Prop}
    (live : Live p.own out.session) (later : post () alone p out) (n : Nat) :
    (drainInitialBuffer exports n).wp pcanRules post alone p out := by
  induction n with
  | zero => exact later
  | succ n ih =>
    unfold drainInitialBuffer
    rw [Program.wp_bind]
    apply wp_callRead complete live
    intro status
    rw [Program.wp_ite]
    split_ifs
    · exact later
    · exact ih

theorem wp_start (rested : Rests p out) : (start exports).wp pcanRules (fun _ _ => Rests) alone p out := by
  simp only [start,Program.wp_bind,Program.wp_read]
  rw [Program.wp_ite]
  split_ifs with shut
  · exact rested
  have up := rested.up (by simpa using shut)
  rw [Program.wp_bind]
  apply wp_drainInitialBuffer complete up.2.1
  exact rested.launches _

theorem wp_uninit {post : Unit → Bool → Adapter → Outside Library → Prop} {wasInitialized : Bool}
    (found : if wasInitialized then Live p.own out.session else out.session.session = none)
    (later : ∀ left, post () true p ⟨⟨none,left⟩,out.heap⟩) :
    (uninit exports wasInitialized).wp pcanRules post true p out := by
  simp only [uninit,Program.wp_bind,Program.wp_read]
  cases wasInitialized with
  | true =>
    have live : Live p.own out.session := found
    rw [if_pos (by simp [live.1]),Program.wp_bind]
    apply wp_callVendor (complete.call live.1 (by simp [procedures]))
    intro reply
    exact ⟨_,serve_uninit live reply,by simp,later _⟩
  | false =>
    have rest := later out.session.left
    rw [← show out.session.session = none from found] at rest
    exact rest

theorem wp_stop (rested : Rests p out) : (stop exports).wp pcanRules (fun _ _ => Rests) alone p out := by
  unfold stop
  apply wp_endReceive rested
  rw [Program.wp_bind]
  apply wp_uninit complete
  · exact rested.found
  intro left
  rw [Program.wp_bind]
  apply wp_closeRx
  · exact rested.1.same rfl rfl
  intro heap q receives
  exact receives.rested rfl rfl rfl rfl

theorem wp_callWrite {post : UInt32 → Bool → Adapter → Outside Library → Prop} {msg : PcanWritten}
    (live : Live p.own out.session) {frame : Frame}
    (written : pcanWrite p.own.canType p.cfg frame = some msg) (later : ∀ status, post status alone p out) :
    (callWrite exports msg).wp pcanRules post alone p out := by
  simp only [callWrite,Program.wp_bind,Program.wp_read,live.1]
  rw [if_neg (by simp)]
  simp only [Program.wp_bind]
  apply wp_callVendor (complete.call live.1 (by cases msg <;> simp [PcanWritten.procedure,procedures]))
  intro reply
  exact ⟨out.session,serve_write live written reply,by simp,later _⟩

theorem wp_write (rested : Rests p out) (frame : Frame) :
    (write exports frame).wp pcanRules (fun _ _ => Rests) alone p out := by
  simp only [write,Program.wp_bind,Program.wp_read]
  cases initialized : p.initialized with
  | false => exact rested
  | true =>
    have up := rested.up initialized
    rw [if_neg (by simp)]
    cases written : pcanWrite p.own.canType p.cfg frame with
    | none => exact rested
    | some msg =>
      simp only [Program.wp_bind]
      apply wp_callWrite complete up.2.1 written
      intro status
      rw [Program.wp_ite]
      split_ifs
      · rw [Program.wp_bind]
        apply wp_formatStatus complete
        intro text
        exact rested
      · exact rested

theorem machine_meets : (machine exports).Meets pcanRules Rests where
  body method alone p out rested beside := by
    cases method with
    | initializes => exact wp_initializeChannel complete rested beside
    | starts => exact wp_start complete rested
    | stops => exact wp_stop complete rested
    | writes frame => exact wp_write complete rested frame
    | setsBRS enabled => exact wp_setBRS rested enabled
  companion p out place choice call reply next up taken := by
    simp only [machine] at taken
    exact readStep_accepted up (canRead complete up.2.1.1) (serve_read up.2.1) taken
  ends p out place _ leaving := by
    have selecting := selecting_ends (show (machine exports).react = _ from rfl) leaving
    have reading : (machine exports).Ends p .reading := by
      apply reading_ends rfl ⟨pcanErrorQRCVEmpty.toUInt64,.fd ⟨0,0,0,Vector.replicate 64 0⟩ 0,"",[],none⟩
      exact selecting
    cases place with
    | selecting => exact selecting
    | reading => exact reading
    | publishing frames => exact publishing_ends rfl reading frames

end complete

/-- No channel is initialized, and no Go channel is made. -/
def unused : Outside Library := ⟨⟨none,[]⟩,Heap.empty⟩

theorem new_rests (cfg : BusConfig) : Rests (newPCAN cfg) unused :=
  ⟨⟨rfl,List.Perm.refl _⟩,rfl,rfl,rfl⟩

end Canbuskit.Driver.PCAN
