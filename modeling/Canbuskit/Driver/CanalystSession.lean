import Canbuskit.Driver.Backend
import Canbuskit.Driver.Encoders

/-! A CANalyst-II from its first `initialize` on: the calls of `ControlCAN.dll` that its methods and
its read loop make. Every run with a library that exports its procedures keeps to what it expects,
whatever it answers. -/
namespace Canbuskit.Driver.CanalystII
open Can Channel Runs Sections Backend

structure Btr where
  btr0 : UInt8
  btr1 : UInt8
  deriving DecidableEq

def canalystBitrateTable : List (UInt32 × Btr) :=
  [(20000,⟨0x18,0x1C⟩),(33333,⟨0x09,0x6F⟩),(40000,⟨0x87,0xFF⟩),(50000,⟨0x09,0x1C⟩),
   (66666,⟨0x04,0x6F⟩),(80000,⟨0x83,0xFF⟩),(83333,⟨0x03,0x6F⟩),(100000,⟨0x04,0x1C⟩),
   (125000,⟨0x03,0x1C⟩),(200000,⟨0x81,0xFA⟩),(250000,⟨0x01,0x1C⟩),(400000,⟨0x80,0xFA⟩),
   (500000,⟨0x00,0x1C⟩),(666000,⟨0x80,0xB6⟩),(800000,⟨0x00,0x16⟩),(1000000,⟨0x00,0x14⟩)]

def canalystTiming (bitrate : UInt32) : Option Btr := canalystBitrateTable.lookup bitrate

def statusOK : UInt64 := 1
def msgBufferSize : Int32 := 1024

def canalystDLLName : String := "ControlCAN.dll"

/-- Loading the library counts as a call. -/
inductive Call where
  | load (dllPath : String)
  | openDevice
  | initCAN (channel : UInt8) (timing : Btr)
  | clearBuffer (channel : UInt8)
  | startCAN (channel : UInt8)
  | transmit (channel : UInt8) (msg : VCICanObj)
  | receive (channel : UInt8)
  | closeDevice

/-- What a call returns, for `VCI_Receive` the buffer that it has written, and for loading what it
failed with. -/
structure Reply where
  ret : UInt64
  buffer : List VCICanObj
  error : Option String
  deriving Inhabited

inductive Error where
  | notOpen
  | config (error : BusConfigError)
  | classicOnly
  | dllMissing (errs : List String)
  | unsupportedBitrate (bitrate : UInt32)
  | openDeviceFailed
  | initCANFailed
  | startCANFailed
  | fdUnsupported
  | transmitFailed (ret : UInt64)

/-- The device's own fields; its type and index are constants of the calls. Loading the library sets
all its procedures. -/
structure Fields where
  canChannel : UInt8
  loaded : Bool
  opened : Bool

def procedures : List String :=
  ["VCI_OpenDevice","VCI_CloseDevice","VCI_InitCAN","VCI_StartCAN","VCI_ClearBuffer","VCI_Transmit",
   "VCI_Receive"]

def Fields.has (exports : Exports) (name : String) (own : Fields) : Bool := own.loaded && exports name

abbrev Adapter := Backend Fields

abbrev Action := BackendProgram Fields Call Reply

def newCanalystII (cfg : BusConfig) : Adapter := Backend.new cfg ⟨cfg.channel,false,false⟩

def loadDLL : Action (Except (List String) Unit) := do
  let candidates := ["bin\\" ++ canalystDLLName,canalystDLLName]
  let c ← Program.read
  if c.own.loaded then pure (.ok ())
  else loadFrom .load Reply.error (fun own => { own with loaded := true }) [] candidates

section methods

variable (exports : Exports)

def closeDevice : Action Unit := do
  let c ← Program.read
  if c.own.opened && c.own.loaded then do
    let _ ← callVendor (Fields.has exports "VCI_CloseDevice") .closeDevice
    Program.write (setOwn fun own => { own with opened := false })
  else pure ()

def cleanup (error : Error) : Action (Except Error Unit) := do
  closeDevice exports
  cancel
  closeFanout
  closeRx
  pure (.error error)

/-- `initialize` from the open device on. -/
def startDevice (timing : Btr) : Action (Except Error Unit) := do
  let c ← Program.read
  let initialized ← callVendor (Fields.has exports "VCI_InitCAN") (.initCAN c.own.canChannel timing)
  if initialized.ret ≠ statusOK then cleanup exports .initCANFailed
  else do
    let _ ← callVendor (Fields.has exports "VCI_ClearBuffer") (.clearBuffer c.own.canChannel)
    let started ← callVendor (Fields.has exports "VCI_StartCAN") (.startCAN c.own.canChannel)
    if started.ret ≠ statusOK then cleanup exports .startCANFailed
    else do
      markInitialized
      pure (.ok ())

def openDevice (cfg : BusConfig) : Action (Except Error Unit) := do
  openReceive
  match ← loadDLL with
  | .error errs => cleanup exports (.dllMissing errs)
  | .ok () => match canalystTiming cfg.nominalBitrate with
    | none => cleanup exports (.unsupportedBitrate cfg.nominalBitrate)
    | some timing => do
      let opened ← callVendor (Fields.has exports "VCI_OpenDevice") .openDevice
      if opened.ret ≠ statusOK then cleanup exports .openDeviceFailed
      else do
        Program.write (setOwn fun own => { own with opened := true })
        startDevice exports timing

def initializeDevice : Action (Except Error Unit) := do
  let c ← Program.read
  if c.initialized then pure (.ok ())
  else match c.cfg.normalized with
    | .error error => pure (.error (.config error))
    | .ok cfg =>
      if cfg.mode ≠ Mode.classic then pure (.error .classicOnly)
      else do
        Program.write fun c => { c with cfg := cfg, own := { c.own with canChannel := cfg.channel } }
        openDevice exports cfg

def start : Action (Except Error Unit) := do
  let c ← Program.read
  if !c.initialized || !c.own.opened then pure (.error .notOpen)
  else do
    let _ ← startLoop
    pure (.ok ())

def stop : Action (Except Error Unit) := do
  let wasInitialized ← cancelAndWait
  closeFanout
  if wasInitialized then closeDevice exports else pure ()
  closeRx
  pure (.ok ())

def write (frame : Frame) : Action (Except Error Unit) := do
  let c ← Program.read
  if !c.initialized || !c.own.opened then pure (.error .notOpen)
  else if frame.fd then pure (.error .fdUnsupported)
  else do
    let sent ← callVendor (Fields.has exports "VCI_Transmit") (.transmit c.own.canChannel (canalystWrite frame))
    pure (if sent.ret ≠ 1 then .error (.transmitFailed sent.ret) else .ok ())

def setBRS (enabled : Bool) : Action (Except Error Unit) := do
  Program.write fun c => { c with cfg := { c.cfg with brs := enabled } }
  pure (.ok ())

inductive Method where
  | initializes
  | starts
  | stops
  | writes (frame : Frame)
  | setsBRS (enabled : Bool)

def Method.body : Method → Action (Except Error Unit)
  | .initializes => initializeDevice exports
  | .starts => start
  | .stops => stop exports
  | .writes frame => write exports frame
  | .setsBRS enabled => setBRS enabled

/-- `VCI_Receive` returns the number of frames, or -1 as an unsigned number. -/
def received (reply : Reply) : List Frame :=
  let count := reply.ret.toUInt32.toInt32
  if count ≤ 0 then []
  else if msgBufferSize < count then []
  else (reply.buffer.take count.toNatClampNeg).filterMap canalystReceive

def machine : Machine Adapter (BackendCall Call) Reply (Except Error Unit) Method ReadPlace
    (ReadChoice Reply) where
  body := Method.body exports
  first := .selecting
  react := readStep (Fields.has exports "VCI_Receive") (fun c => .receive c.own.canChannel)
    (fun _ reply => .publishing (received reply)) .selecting

end methods

/-- How far the library has come with the device, and on which of its channels. It is left open when
it refuses to close it. -/
inductive Session where
  | shut
  | left
  | opened
  | ready (channel : UInt8)
  | started (channel : UInt8)
  deriving DecidableEq

def Session.inUse : Session → Bool
  | .shut => false
  | .left => false
  | _ => true

def Reply.closes (reply : Reply) : Session := if reply.ret = statusOK then .shut else .left

/-- A device is opened once at a time unless it was left open, a channel is started once it has been
initialized and used once it is started, and the device is closed when it is open. -/
def serve : Accept Session Call Reply
  | session, .load _, _ => some session
  | .shut, .openDevice, reply => some (if reply.ret = statusOK then .opened else .shut)
  | .left, .openDevice, reply => some (if reply.ret = statusOK then .opened else .left)
  | .opened, .initCAN channel _, reply => some (if reply.ret = statusOK then .ready channel else .opened)
  | .ready channel, .clearBuffer cleared, _ => if cleared = channel then some (.ready channel) else none
  | .ready channel, .startCAN started, reply =>
    if started = channel then some (if reply.ret = statusOK then .started channel else .ready channel)
    else none
  | .started channel, .transmit used _, _ => if used = channel then some (.started channel) else none
  | .started channel, .receive used, _ => if used = channel then some (.started channel) else none
  | .opened, .closeDevice, reply => some reply.closes
  | .ready _, .closeDevice, reply => some reply.closes
  | .started _, .closeDevice, reply => some reply.closes
  | _, _, _ => none

def Live (own : Fields) (session : Session) : Prop :=
  own.opened = true ∧ own.loaded = true ∧ session = .started own.canChannel

def Idle (own : Fields) (session : Session) : Prop := own.opened = false ∧ session.inUse = false

abbrev Rests := @Rested Fields Session Live Idle

abbrev canalystRules := @rules Fields Call Reply Session serve Live

/-- What holds while `initialize` or `stop` is under way. -/
structure Underway (c : Adapter) (out : Outside Session) : Prop where
  receives : c.Receives out.heap
  down : c.initialized = false
  opened : c.own.opened = out.session.inUse
  loaded : c.own.opened = true → c.own.loaded = true

theorem Reply.closes_inUse (reply : Reply) : reply.closes.inUse = false := by
  unfold closes
  split_ifs <;> rfl

variable {exports : Exports} {c : Adapter} {out : Outside Session}

theorem Underway.closes (underway : Underway c out) (present : c.own.opened = true) (reply : Reply) :
    serve out.session .closeDevice reply = some reply.closes := by
  have inUse := underway.opened.symm.trans present
  cases session : out.session with
  | shut | left => simp [session,Session.inUse] at inUse
  | opened | ready | started => rfl

theorem serve_openDevice {session : Session} (unused : session.inUse = false) (reply : Reply) :
    serve session .openDevice reply = some (if reply.ret = statusOK then .opened else session) := by
  cases session with
  | shut | left => rfl
  | opened | ready | started => contradiction

theorem Underway.rests (underway : Underway c out) (shut : c.own.opened = false)
    (rxChan : c.rxChan = none) (fanout : c.fanout = false) : Rests c out := by
  exact underway.receives.rested underway.down ⟨shut,underway.opened.symm.trans shut⟩ rxChan fanout

theorem Underway.same {d : Adapter} (underway : Underway c out) {heap : Heap}
    (receives : d.Receives heap) (down : d.initialized = c.initialized) (own : d.own = c.own) :
    Underway d ⟨out.session,heap⟩ :=
  ⟨receives,down.trans underway.down,by rw [own]; exact underway.opened,
    by rw [own]; exact underway.loaded⟩

theorem wp_loadDLL {post : Except (List String) Unit → Bool → Adapter → Outside Session → Prop}
    (fails : ∀ errs, post (.error errs) true c out)
    (works : post (.ok ()) true (c.setOwn fun own => { own with loaded := true }) out) :
    loadDLL.wp canalystRules post true c out := by
  simp only [loadDLL,Program.wp_bind,Program.wp_read]
  split_ifs with loaded
  · have same : (c.setOwn fun own => { own with loaded := true }) = c := by
      rw [setOwn,← loaded]
    rw [same] at works
    exact works
  · apply wp_loadFrom _ fails works
    simp [serve]

theorem wp_start {alone : Bool} (rested : Rests c out) :
    start.wp canalystRules (fun _ _ => Rests) alone c out := by
  simp only [start,Program.wp_bind,Program.wp_read]
  rw [Program.wp_ite]
  split_ifs
  · exact rested
  · exact rested.launches _

theorem wp_setBRS {alone : Bool} (rested : Rests c out) (enabled : Bool) :
    (setBRS enabled).wp canalystRules (fun _ _ => Rests) alone c out :=
  rested.configures (fun s => { s.cfg with brs := enabled }) (Except.ok ())

section complete

variable (complete : exports.Has procedures)
include complete

theorem wp_closeDevice {post : Unit → Bool → Adapter → Outside Session → Prop}
    (underway : Underway c out)
    (later : ∀ session, let d := { c with own := { c.own with opened := false } }
      Underway d ⟨session,out.heap⟩ → post () true d ⟨session,out.heap⟩) :
    (closeDevice exports).wp canalystRules post true c out := by
  have holds (session : Session) (free : session.inUse = false) :=
    later session ⟨underway.receives.same rfl rfl,underway.down,free.symm,by simp⟩
  simp only [closeDevice,Program.wp_bind,Program.wp_read]
  split_ifs with present
  · simp only [Bool.and_eq_true] at present
    rw [Program.wp_bind]
    apply wp_callVendor (complete.call present.2 (by simp [procedures]))
    intro reply
    exact ⟨reply.closes,underway.closes present.1 reply,by simp,by simp,holds _ reply.closes_inUse⟩
  · have shut : c.own.opened = false := by
      by_contra isOpen
      have isOpen : c.own.opened = true := by simpa using isOpen
      exact present (by simp [isOpen,underway.loaded isOpen])
    have same : { c with own := { c.own with opened := false } } = c := by rw [← shut]
    have left := holds out.session (underway.opened.symm.trans shut)
    rw [same] at left
    exact left

theorem wp_cleanup (underway : Underway c out) (ctx : c.ctx = some false) (error : Error) :
    (cleanup exports error).wp canalystRules (fun _ _ => Rests) true c out := by
  unfold cleanup
  rw [Program.wp_bind]
  apply wp_closeDevice complete underway
  intro session d closed
  rw [Program.wp_bind]
  apply wp_cancel
  rw [Program.wp_bind]
  apply wp_closeFanout
  · simp [d,ctx]
  rw [Program.wp_bind]
  apply wp_closeRx
  · exact closed.receives.same rfl rfl
  intro heap e receives
  exact (closed.same receives rfl rfl).rests rfl rfl rfl

theorem wp_startDevice (underway : Underway c out) (ctx : c.ctx = some false)
    (channel : c.rxChan.isSome) (fanout : c.fanout = true) (opened : out.session = .opened)
    (timing : Btr) : (startDevice exports timing).wp canalystRules (fun _ _ => Rests) true c out := by
  have isOpen : c.own.opened = true := by simp [underway.opened,opened,Session.inUse]
  have loaded := underway.loaded isOpen
  have provided {name : String} (member : name ∈ procedures) := complete.call loaded member
  have cleans (session : Session) (still : session.inUse = true) (error : Error) :
      (cleanup exports error).wp canalystRules (fun _ _ => Rests) true c ⟨session,out.heap⟩ := by
    apply wp_cleanup complete _ ctx
    exact ⟨underway.receives,underway.down,isOpen.trans still.symm,underway.loaded⟩
  simp only [startDevice,Program.wp_bind,Program.wp_read]
  apply wp_callVendor (provided (by simp [procedures]))
  intro initialized
  refine ⟨_,by rw [opened]; rfl,by simp,?_⟩
  rw [Program.wp_ite]
  split_ifs with failed succeeded
  · exact cleans _ rfl _
  · simp only [Program.wp_bind]
    apply wp_callVendor (provided (by simp [procedures]))
    intro cleared
    refine ⟨.ready c.own.canChannel,by simp [serve],by simp,?_⟩
    apply wp_callVendor (provided (by simp [procedures]))
    intro started
    refine ⟨_,by simp only [serve,if_true]; rfl,by simp,?_⟩
    rw [Program.wp_ite]
    split_ifs with failed succeeded
    · exact cleans _ rfl _
    · rw [Program.wp_bind]
      refine ⟨by simp,underway.receives.same rfl rfl,?_⟩
      rw [if_pos rfl]
      exact ⟨⟨isOpen,loaded,rfl⟩,channel,fanout,ctx⟩
    · exact absurd succeeded failed
  · exact absurd succeeded failed

theorem wp_openDevice (receives : c.Receives out.heap) (idle : Idle c.own out.session)
    (without : c.rxChan = none) (down : c.initialized = false) (cfg : BusConfig) :
    (openDevice exports cfg).wp canalystRules (fun _ _ => Rests) true c out := by
  obtain ⟨shut,unused⟩ := idle
  unfold openDevice
  rw [Program.wp_bind]
  apply wp_openReceive receives without
  intro heap d makes
  have cleans (e : Adapter) (receives : e.Receives heap) (ctx : e.ctx = some false)
      (down : e.initialized = false) (shut : e.own.opened = false) (error : Error) :
      (cleanup exports error).wp canalystRules (fun _ _ => Rests) true e ⟨out.session,heap⟩ := by
    apply wp_cleanup complete _ ctx
    exact ⟨receives,down,shut.trans unused.symm,by simp [shut]⟩
  rw [Program.wp_bind]
  apply wp_loadDLL
  · intro errs
    exact cleans d makes rfl down shut _
  have missing := cleans (d.setOwn fun own => { own with loaded := true }) (makes.same rfl rfl) rfl down shut
  cases canalystTiming cfg.nominalBitrate with
  | none => exact missing _
  | some timing =>
    simp only [Program.wp_bind]
    apply wp_callVendor
    · exact complete.call rfl (by simp [procedures])
    intro opened
    refine ⟨_,serve_openDevice unused opened,by simp,?_⟩
    rw [Program.wp_ite]
    split_ifs with failed succeeded
    · exact missing _
    · rw [Program.wp_bind,Program.wp_write]
      refine ⟨by simp,?_⟩
      apply wp_startDevice complete _ rfl rfl rfl rfl
      exact ⟨makes.same rfl rfl,down,rfl,fun _ => rfl⟩
    · exact absurd succeeded failed

theorem wp_initializeDevice {alone : Bool} (rested : Rests c out)
    (beside : alone = false → Up Live c out) :
    (initializeDevice exports).wp canalystRules (fun _ _ => Rests) alone c out := by
  simp only [initializeDevice,Program.wp_bind,Program.wp_read]
  rw [Program.wp_ite]
  split_ifs with initialized
  · exact rested
  have down : c.initialized = false := by simpa using initialized
  obtain rfl := rested.alone down beside
  obtain ⟨receives,idle,without,_⟩ := rested.down down
  cases c.cfg.normalized with
  | error error => exact rested
  | ok cfg =>
    simp only [Program.wp_ite]
    split_ifs with unsupported
    · exact rested
    · rw [Program.wp_bind,Program.wp_write]
      refine ⟨by simp,?_⟩
      apply wp_openDevice complete
      · exact receives.same rfl rfl
      · exact idle
      · exact without
      · exact down

theorem wp_stop {alone : Bool} (rested : Rests c out) :
    (stop exports).wp canalystRules (fun _ _ => Rests) alone c out := by
  have receives := rested.1
  have found := rested.found
  unfold stop
  apply wp_endReceive rested
  cases initialized : c.initialized with
  | true =>
    rw [if_pos initialized] at found
    obtain ⟨opened,loaded,session⟩ := found
    rw [if_pos rfl,Program.wp_bind]
    apply wp_closeDevice complete
    · exact ⟨receives.same rfl rfl,rfl,by simp [session,opened,Session.inUse],fun _ => loaded⟩
    intro session d closed
    rw [Program.wp_bind]
    apply wp_closeRx closed.receives
    intro heap e receives
    exact (closed.same receives rfl rfl).rests rfl rfl rfl
  | false =>
    rw [if_neg (by simp [initialized])] at found
    rw [if_neg (by simp),Program.wp_bind]
    apply wp_closeRx
    · exact receives.same rfl rfl
    intro heap e receives
    exact receives.rested rfl found rfl rfl

theorem wp_write {alone : Bool} (rested : Rests c out) (frame : Frame) :
    (write exports frame).wp canalystRules (fun _ _ => Rests) alone c out := by
  simp only [write,Program.wp_bind,Program.wp_read,Program.wp_ite]
  split_ifs with shut
  · exact rested
  · exact rested
  have initialized : c.initialized = true := by
    by_contra down
    exact shut (by simp [down])
  obtain ⟨_,⟨_,loaded,session⟩,_⟩ := rested.up initialized
  apply wp_callVendor (complete.call loaded (by simp [procedures]))
  intro reply
  exact ⟨out.session,by simp [serve,session],fun _ live => live,rested⟩

theorem machine_meets : (machine exports).Meets canalystRules Rests where
  body method alone c out rested beside := by
    cases method with
    | initializes => exact wp_initializeDevice complete rested beside
    | starts => exact wp_start rested
    | stops => exact wp_stop complete rested
    | writes frame => exact wp_write complete rested frame
    | setsBRS enabled => exact wp_setBRS rested enabled
  companion c out place choice call reply next up taken := by
    have session := up.2.1.2.2
    simp only [machine] at taken
    apply readStep_accepted up (complete.call up.2.1.2.1 (by simp [procedures])) _ taken
    intro reply
    simp [serve,session]
  ends c out place _ leaving := by
    have selecting := selecting_ends (show (machine exports).react = _ from rfl) leaving
    cases place with
    | selecting => exact selecting
    | reading => exact reading_ends rfl default (publishing_ends rfl selecting _)
    | publishing frames => exact publishing_ends rfl selecting frames

end complete

/-- Nothing is open, and no channel is made. -/
def unused : Outside Session := ⟨.shut,Heap.empty⟩

theorem new_rests (cfg : BusConfig) : Rests (newCanalystII cfg) unused :=
  ⟨⟨rfl,List.Perm.refl _⟩,⟨rfl,rfl⟩,rfl,rfl⟩

/-- Whatever the methods, the read loop and a library that has its procedures do, the calls of the
device fit together, between two methods it holds a session and a channel exactly while it is
initialized, and a method that has begun can end. -/
theorem canalyst_session (complete : exports.Has procedures) {cfg : BusConfig}
    {labels : List (Made (BackendCall Call) Reply Method (ReadChoice Reply))}
    {w : World Adapter (BackendCall Call) Reply (Except Error Unit) ReadPlace}
    (run : Run (Made.Step (machine exports)) (World.rest (newCanalystII cfg)) labels w) :
    (∃ out, Accepts (Outside.accept serve) unused (labels.filterMap Made.call) out ∧
      (w.companion ≠ none → Up Live w.state out) ∧ (w.holder = none → Rests w.state out)) ∧
    ∃ later v, Run (Made.Step (machine exports)) w later v ∧ v.holder = none :=
  run_rests (machine_meets complete) run (new_rests cfg)

/-- A device is opened, reads a frame and is stopped before its loop has ended. -/
theorem canalyst_session_stopped :
    ∃ (labels : List (Made (BackendCall Call) Reply Method (ReadChoice Reply)))
      (w : World Adapter (BackendCall Call) Reply (Except Error Unit) ReadPlace) (out : Outside Session),
      Run (Made.Step (machine procedures.contains)) (World.rest (newCanalystII (BusConfig.default Mode.classic 0)))
        labels w ∧
      (labels.filterMap Made.call).length = 11 ∧
      Accepts (Outside.accept serve) unused (labels.filterMap Made.call) out ∧
      Rests w.state out ∧ w.state.initialized = false := by
  let ok : Reply := ⟨statusOK,[⟨0x123,0,0,0,0,1,Vector.replicate 8 7⟩],none⟩
  let goes (n : Nat) : List (Turn Reply Method (ReadChoice Reply)) := List.replicate n .goes
  let called : List (Turn Reply Method (ReadChoice Reply)) := [.goes,.answered ok]
  let turns := [.begins .initializes] ++ goes 4 ++ [.answered ok] ++ goes 3 ++ called ++ goes 1 ++
    called ++ goes 2 ++ called ++ called ++ called ++ goes 2 ++ [.begins .starts] ++ goes 4 ++
    [.companion .tick,.companion (.read ok),.begins .stops] ++ goes 1 ++
    [.companion (.publish true),.companion (.publish true)] ++ goes 1 ++ [.companion .leave] ++ goes 2 ++
    [.answered ok] ++ goes 2 ++ called ++ goes 2 ++ [.answered ok] ++ goes 2
  have observed : ((World.rest (newCanalystII (BusConfig.default Mode.classic 0))).execute
      (machine procedures.contains) turns).map
      (fun result => ((result.1.filterMap Made.call).length,result.2.holder.isNone,result.2.state.initialized)) =
      some (11,true,false) := by
    decide +kernel
  obtain ⟨⟨labels,w⟩,executed,observed⟩ := Option.map_eq_some_iff.mp observed
  simp only [Prod.mk.injEq] at observed
  have run := World.execute_run executed
  obtain ⟨⟨out,accepted,_,rests⟩,_⟩ := canalyst_session (by simp [Exports.Has]) run
  exact ⟨labels,w,out,run,observed.1,accepted,rests (Option.isNone_iff_eq_none.mp observed.2.1),observed.2.2⟩

end Canbuskit.Driver.CanalystII
