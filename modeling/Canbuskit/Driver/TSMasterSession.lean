import Canbuskit.Driver.Backend
import Canbuskit.Driver.Encoders

/-! A TSMaster channel from its first `initialize` on: the calls of `TSMaster.dll` that its methods and
its read loop make through the loader. Every run with a library that exports its procedures keeps to
what it expects, whatever it answers. The registry and the directories are outside, and bit rates are
given in bits per second. -/
namespace Canbuskit.Driver.TSMaster
open Can Channel Runs Sections Backend

def tsMasterNames : List String :=
  ["TS_UNKNOWN_DEVICE","TSCAN_PRO","TSCAN_Lite1","TC1001","TL1001","TC1011","TM5011","TC1002","TC1014",
   "TSCANFD2517","TC1026","TC1016","TC1012","TC1013","TLog1002","TC1034","TC1018","GW2116","TC2115",
   "MP1013","TC1113","TC1114","TP1013","TC1017","TP1018","TF10XX","TL1004_FD_4_LIN_2","TE1051","TP1051",
   "TP1034","TTS9015","TP1026","TTS1026","TTS1034","TTS1018","TL1011","TTS1015_LiAuto","TTS1013_LiAuto",
   "TTS1016Pro","TC1054Pro","TC1054","TLog1038","TO1013","TC1034Pro","TC1018Pro","TC1038Pro",
   "TC1014Pro","TC1034ProPlus","TA1038","TC1055Pro","TC1056Pro","TC1057Pro","TC4016","GW2208",
   "TLog1039","GW1040","TC3014","TP1014","TA825_4","TC1013HV","TC1052","TTS1017Pro","TLog1057",
   "TC1017Pro","GW2202","GW2204","GW2212","TA821","TX1000","TC1055ProPlus","TC1043","TS_DEV_END"]

/-- The place of a name is its type. -/
def deviceNameFromType (deviceType : Int) : Option String :=
  (tsMasterNames.zipIdx.find? fun entry => decide (entry.2 = deviceType) &&
    entry.1 != "TS_UNKNOWN_DEVICE" && entry.1 != "TS_DEV_END").map Prod.fst

def tsUSBDevice : Nat := 3
def msgBufferSize : Int32 := 1024

/-- What the registry says, choosing a directory, loading the library and finding a procedure count as
calls. -/
inductive Call where
  | registryPath
  | useDirectory (dllPath : String)
  | load (dllPath : String)
  | find (name : String)
  | initLib (appName : String)
  | enumerate
  | showWindow (name : String)
  | setChannelCount (count : Nat)
  | setMapping (appName : String) (mapping : TSMasterMapping) (deviceName : String) (hardwareType : Nat)
      (deviceType : Int)
  | configureCANFD (channel : UInt8) (nominal data : UInt32)
  | configureCAN (channel : UInt8) (nominal : UInt32)
  | connect
  | enableBusStatistics (enabled : Bool)
  | getBusStatistics (channel : UInt8)
  | enableReceiveFIFO
  | receive (channel : UInt8)
  | transmit (channel : UInt8) (msg : TLIBCANFD)
  | disconnect

/-- What a call returns and what it has written, with the path or the error of what is not a call of the
library. -/
structure Reply where
  ret : UInt64
  findDevice : Int32
  size : Int32
  buffer : List TLIBCANFD
  path : String
  error : Option String
  deriving Inhabited

inductive Error where
  | notOpen
  | config (error : BusConfigError)
  | applicationChannel (channel : UInt8)
  | hardwareIndexNegative (index : Int)
  | registryPath (error : String)
  | registryEmpty
  | directory (error : String)
  | load (error : String)
  | notFound (name error : String)
  | failed (what : String) (ret : UInt64)
  | sendFailed (ret : UInt64)
  | noDevices
  | hardwareIndex (index : Int) (found : Int32)
  | deviceType (deviceType : Int)

/-- The two procedures are those of the bus statistics, nil or not. -/
structure Fields where
  canType : Mode
  canChannel : UInt8
  mapping : TSMasterMapping
  deviceType : Int
  loader : Bool
  isConnected : Bool
  busStatisticsEnabled : Bool
  enableBusStatisticsProc : Bool
  getBusStatisticsProc : Bool

/-- The procedures that are called without a look for them. -/
def procedures : List String :=
  ["initialize_lib_tsmaster","tsapp_enumerate_hw_devices","tsapp_show_tsmaster_window",
   "tsapp_set_can_channel_count","tsapp_set_mapping_verbose","tsapp_configure_baudrate_canfd",
   "tsapp_configure_baudrate_can","tsapp_connect","tsfifo_receive_canfd_msgs",
   "tsapp_transmit_canfd_async","tsapp_disconnect"]

def Fields.has (exports : Exports) (name : String) (own : Fields) : Bool := own.loader && exports name

abbrev Adapter := Backend Fields

abbrev Action := BackendProgram Fields Call Reply

def newTSMaster (cfg : BusConfig) (deviceType : Int) (mapping : Option TSMasterMapping) : Adapter :=
  let mapping := mapping.getD (defaultTSMasterMapping cfg.channel)
  Backend.new { cfg with channel := mapping.hardwareChannel }
    ⟨cfg.mode,mapping.hardwareChannel,mapping,deviceType,false,false,false,false,false⟩

/-- The second part goes on where the first succeeds. -/
def andThen (first second : Action (Except Error Unit)) : Action (Except Error Unit) := do
  match ← first with
  | .error err => pure (.error err)
  | .ok () => second

/-- A call without a procedure of its own, with the error for one that fails. -/
def outside (call : Call) (error : String → Error) : Action (Except Error String) := do
  let reply ← callVendor (fun _ => true) call
  pure (match reply.error with
    | some err => .error (error err)
    | none => .ok reply.path)

def newTSMasterLoader : Action (Except Error Unit) := do
  match ← outside .registryPath .registryPath with
  | .error err => pure (.error err)
  | .ok dllPath =>
    if dllPath = "" then pure (.error .registryEmpty)
    else match ← outside (.useDirectory dllPath) .directory with
      | .error err => pure (.error err)
      | .ok _ => match ← outside (.load dllPath) .load with
        | .error err => pure (.error err)
        | .ok _ => pure (.ok ())

def setLoader : Action (Except Error Unit) := do
  let result ← newTSMasterLoader
  Program.write (setOwn fun own => { own with loader := result.toBool })
  pure result

section methods

variable (exports : Exports)

/-- A call of the library that returns zero when it succeeds. -/
def checked (name : String) (error : UInt64 → Error) (call : Call) : Action (Except Error Unit) := do
  let reply ← callVendor (Fields.has exports name) call
  pure (if reply.ret ≠ 0 then .error (error reply.ret) else .ok ())

/-- Looking for a procedure fails, and does not panic, where the library does not export it. -/
def find (name : String) : Action (Except Error Unit) := do
  let reply ← callVendor Fields.loader (.find name)
  pure (if exports name then .ok () else .error (.notFound name (reply.error.getD "")))

def loadStatisticsProcs : Action (Except Error Unit) :=
  andThen (do
    let result ← find exports "tsapp_enable_bus_statistics"
    Program.write (setOwn fun own => { own with enableBusStatisticsProc := result.toBool })
    pure result)
  (do
    let result ← find exports "tsapp_get_bus_statistics"
    Program.write (setOwn fun own => { own with getBusStatisticsProc := result.toBool })
    pure result)

def appName : String := "TSMaster_Go_Demo"

def enumerate : Action (Except Error Unit) := do
  let t ← Program.read
  let reply ← callVendor (Fields.has exports "tsapp_enumerate_hw_devices") .enumerate
  pure (if reply.ret ≠ 0 then .error (.failed "tsapp_enumerate_hw_devices" reply.ret)
    else if reply.findDevice ≤ 0 then .error .noDevices
    else if reply.findDevice.toInt ≤ t.own.mapping.hardwareIndex then
      .error (.hardwareIndex t.own.mapping.hardwareIndex reply.findDevice)
    else .ok ())

def setChannelCount : Action (Except Error Unit) := do
  let _ ← callVendor (Fields.has exports "tsapp_show_tsmaster_window") (.showWindow "Hardware")
  let t ← Program.read
  checked exports "tsapp_set_can_channel_count" (.failed "set CAN channel count")
    (.setChannelCount (t.own.mapping.applicationChannel.toNat + 1))

def setMapping : Action (Except Error Unit) := do
  let t ← Program.read
  match deviceNameFromType t.own.deviceType with
  | none => pure (.error (.deviceType t.own.deviceType))
  | some deviceName =>
    checked exports "tsapp_set_mapping_verbose" (.failed "tsapp_set_mapping_verbose")
      (.setMapping appName t.own.mapping deviceName tsUSBDevice t.own.deviceType)

def configure : Action (Except Error Unit) := do
  let t ← Program.read
  if t.own.canType = Mode.fd then
    checked exports "tsapp_configure_baudrate_canfd" (.failed "configure bitrate")
      (.configureCANFD t.own.mapping.applicationChannel t.cfg.nominalBitrate t.cfg.dataBitrate)
  else
    checked exports "tsapp_configure_baudrate_can" (.failed "configure bitrate")
      (.configureCAN t.own.mapping.applicationChannel t.cfg.nominalBitrate)

def connect : Action (Except Error Unit) :=
  andThen (checked exports "tsapp_connect" (.failed "tsapp_connect") .connect) (do
    Program.write (setOwn fun own => { own with isConnected := true })
    pure (.ok ()))

def enableStatistics : Action (Except Error Unit) := do
  let reply ← callVendor Fields.enableBusStatisticsProc (.enableBusStatistics true)
  if reply.ret.toUInt32 ≠ 0 then pure (.error (.failed "tsapp_enable_bus_statistics" reply.ret))
  else do
    Program.write (setOwn fun own => { own with busStatisticsEnabled := true })
    pure (.ok ())

/-- It returns nothing that says whether it has worked. -/
def enableFIFO : Action (Except Error Unit) :=
  andThen (find exports "tsfifo_enable_receive_fifo") (do
    let _ ← callVendor (Fields.has exports "tsfifo_enable_receive_fifo") .enableReceiveFIFO
    pure (.ok ()))

/-- `initialize` from the loader on. -/
def setUp : Action (Except Error Unit) :=
  andThen setLoader <| andThen (loadStatisticsProcs exports) <|
  andThen (checked exports "initialize_lib_tsmaster" (.failed "initialize_lib_tsmaster") (.initLib appName)) <|
  andThen (enumerate exports) <| andThen (setChannelCount exports) <| andThen (setMapping exports) <|
  andThen (configure exports) <| andThen (connect exports) <| andThen enableStatistics (enableFIFO exports)

def disableStatistics (disabled : Fields → Fields) : Action Unit := do
  let t ← Program.read
  if t.own.busStatisticsEnabled && t.own.enableBusStatisticsProc then do
    let _ ← callVendor Fields.enableBusStatisticsProc (.enableBusStatistics false)
    Program.write (setOwn disabled)
  else pure ()

/-- What `stop` and `cleanup` do to a connection, and note about it. -/
def disconnect (disabled disconnected : Fields → Fields) : Action Unit := do
  let t ← Program.read
  if t.own.loader && t.own.isConnected then do
    disableStatistics disabled
    let _ ← callVendor (Fields.has exports "tsapp_disconnect") .disconnect
    Program.write (setOwn disconnected)
  else pure ()

def closeLoader : Action Unit := Program.write (setOwn fun own => { own with loader := false })

def cleanup (error : Error) : Action (Except Error Unit) := do
  cancel
  disconnect exports id id
  closeLoader
  closeFanout
  closeRx
  Program.write (setOwn fun own => { own with
    isConnected := false, busStatisticsEnabled := false,
    enableBusStatisticsProc := false, getBusStatisticsProc := false })
  pure (.error error)

def openDevice : Action (Except Error Unit) := do
  openReceive
  match ← setUp exports with
  | .error err => cleanup exports err
  | .ok () => do
    markInitialized
    pure (.ok ())

def initializeDevice : Action (Except Error Unit) := do
  let t ← Program.read
  if t.initialized then pure (.ok ())
  else match t.cfg.normalized with
    | .error error => pure (.error (.config error))
    | .ok cfg => do
      let mapping := t.own.mapping
      Program.write fun t => { t with
        cfg := { cfg with channel := mapping.hardwareChannel }
        own := { t.own with canType := cfg.mode, canChannel := mapping.hardwareChannel } }
      if 32 ≤ mapping.applicationChannel then pure (.error (.applicationChannel mapping.applicationChannel))
      else if mapping.hardwareIndex < 0 then pure (.error (.hardwareIndexNegative mapping.hardwareIndex))
      else openDevice exports

def start : Action (Except Error Unit) := do
  let t ← Program.read
  if !t.initialized || !t.own.isConnected then pure (.error .notOpen)
  else do
    let _ ← startLoop
    pure (.ok ())

def shutDown (wasInitialized : Bool) : Action Unit :=
  if wasInitialized then
    disconnect exports (fun own => { own with busStatisticsEnabled := false })
      (fun own => { own with isConnected := false })
  else pure ()

def stop : Action (Except Error Unit) := do
  let wasInitialized ← cancelAndWait
  closeFanout
  shutDown exports wasInitialized
  closeLoader
  Program.write (setOwn fun own => { own with
    enableBusStatisticsProc := false, getBusStatisticsProc := false })
  closeRx
  pure (.ok ())

def write (frame : Frame) : Action (Except Error Unit) := do
  let t ← Program.read
  if !t.initialized then pure (.error .notOpen)
  else
    let (channel,msg) := tsmasterWrite t.own.mapping.applicationChannel t.cfg frame
    checked exports "tsapp_transmit_canfd_async" .sendFailed (.transmit channel msg)

/-- The call of `busLoad`; its floating-point value is left out. -/
def busLoad : Action (Except Error Unit) := do
  let t ← Program.read
  if !t.initialized || !t.own.isConnected || !t.own.busStatisticsEnabled || !t.own.getBusStatisticsProc then
    pure (.ok ())
  else do
    let reply ← callVendor Fields.getBusStatisticsProc (.getBusStatistics t.own.mapping.applicationChannel)
    pure (if reply.ret.toUInt32 ≠ 0 then .error (.failed "tsapp_get_bus_statistics" reply.ret) else .ok ())

def setBRS (enabled : Bool) : Action (Except Error Unit) := do
  Program.write fun t => { t with cfg := { t.cfg with brs := enabled } }
  pure (.ok ())

inductive Method where
  | initializes
  | starts
  | stops
  | writes (frame : Frame)
  | getsBusLoad
  | setsBRS (enabled : Bool)

def Method.body : Method → Action (Except Error Unit)
  | .initializes => initializeDevice exports
  | .starts => start
  | .stops => stop exports
  | .writes frame => write exports frame
  | .getsBusLoad => busLoad
  | .setsBRS enabled => setBRS enabled

def received (cfg : BusConfig) (reply : Reply) : List Frame :=
  if reply.ret ≠ 0 then []
  else if reply.size < 0 ∨ msgBufferSize < reply.size then []
  else (reply.buffer.take reply.size.toNatClampNeg).filterMap (tsmasterReceive cfg)

def machine : Machine Adapter (BackendCall Call) Reply (Except Error Unit) Method ReadPlace
    (ReadChoice Reply) where
  body := Method.body exports
  first := .selecting
  react := readStep (Fields.has exports "tsfifo_receive_canfd_msgs")
    (fun t => .receive t.own.mapping.applicationChannel)
    (fun t reply => .publishing (received t.cfg reply)) .selecting

end methods

/-- The bus statistics of the library, which it keeps where it refuses to disable them. -/
inductive Statistics where
  | off
  | on
  | kept
  deriving DecidableEq

/-- How far the library has come with the application, and with which of its channels. -/
inductive Session where
  | unready
  | ready
  | mapped (channel : UInt8)
  | configured (channel : UInt8)
  | connected (channel : UInt8) (statistics : Statistics) (fifo : Bool)
  deriving DecidableEq

def Session.isConnected : Session → Bool
  | .connected _ _ _ => true
  | _ => false

def Session.statistics : Session → Bool
  | .connected _ statistics _ => statistics = .on
  | _ => false

/-- Where a successful call leads. -/
def Reply.leads (reply : Reply) (session next : Session) : Session := if reply.ret = 0 then next else session

/-- The library is initialized while nothing is connected that it has not refused to disconnect, and a
channel is mapped, configured and connected in this order. It is received on once its statistics and its
FIFO are enabled, and disconnected when the library has been told to disable the statistics. -/
def Session.serve : Accept Session Call Reply
  | session, .registryPath, _ => some session
  | session, .useDirectory _, _ => some session
  | session, .load _, _ => some session
  | session, .find _, _ => some session
  | .connected _ _ _, .initLib _, _ => none
  | _, .initLib _, reply => some (reply.leads .unready .ready)
  | .ready, .enumerate, _ => some .ready
  | .ready, .showWindow _, _ => some .ready
  | .ready, .setChannelCount _, _ => some .ready
  | .ready, .setMapping _ mapping _ _ _, reply => some (reply.leads .ready (.mapped mapping.applicationChannel))
  | .mapped channel, .configureCANFD used _ _, reply =>
    if used = channel then some (reply.leads (.mapped channel) (.configured channel)) else none
  | .mapped channel, .configureCAN used _, reply =>
    if used = channel then some (reply.leads (.mapped channel) (.configured channel)) else none
  | .configured channel, .connect, reply =>
    some (reply.leads (.configured channel) (.connected channel .off false))
  | .connected channel .off fifo, .enableBusStatistics true, reply =>
    some (.connected channel (if reply.ret.toUInt32 = 0 then .on else .off) fifo)
  | .connected channel .on fifo, .enableBusStatistics false, reply =>
    some (.connected channel (if reply.ret.toUInt32 = 0 then .off else .kept) fifo)
  | .connected channel .on fifo, .getBusStatistics used, _ =>
    if used = channel then some (.connected channel .on fifo) else none
  | .connected channel statistics _, .enableReceiveFIFO, _ => some (.connected channel statistics true)
  | .connected channel .on true, .receive used, _ =>
    if used = channel then some (.connected channel .on true) else none
  | .connected channel statistics fifo, .transmit used _, _ =>
    if used = channel then some (.connected channel statistics fifo) else none
  | .connected _ .off _, .disconnect, _ => some .ready
  | .connected _ .kept _, .disconnect, _ => some .ready
  | _, _, _ => none

/-- With whether it is connected still because it has refused to disconnect. -/
structure Library where
  session : Session
  left : Bool

def Reply.leaves (reply : Reply) (left : Bool) : Call → Bool
  | .connect => left && reply.ret ≠ 0
  | .disconnect => reply.ret ≠ 0
  | _ => left

def serve : Accept Library Call Reply := fun library call reply =>
  (library.session.serve call reply).map fun session => ⟨session,reply.leaves library.left call⟩

structure Live (own : Fields) (library : Library) : Prop where
  loader : own.loader = true
  connected : own.isConnected = true
  statistics : own.busStatisticsEnabled = true
  enable : own.enableBusStatisticsProc = true
  get : own.getBusStatisticsProc = true
  session : library.session = .connected own.mapping.applicationChannel .on true

structure Idle (own : Fields) (library : Library) : Prop where
  loader : own.loader = false
  connected : own.isConnected = false
  statistics : own.busStatisticsEnabled = false
  enable : own.enableBusStatisticsProc = false
  get : own.getBusStatisticsProc = false
  session : library.session.isConnected = false

abbrev Rests := @Rested Fields Library Live Idle

abbrev tsmasterRules := @rules Fields Call Reply Library serve Live

/-- What `cleanup` and `stop` can take down. -/
structure Closable (own : Fields) (session : Session) : Prop where
  connected : own.isConnected = session.isConnected
  loader : own.isConnected = true → own.loader = true
  statistics : own.busStatisticsEnabled = session.statistics
  enable : own.busStatisticsEnabled = true → own.enableBusStatisticsProc = true

theorem Live.closable {own : Fields} {library : Library} (live : Live own library) :
    Closable own library.session := by
  obtain ⟨loader,connected,statistics,enable,_,session⟩ := live
  rw [session]
  exact ⟨connected,fun _ => loader,statistics,fun _ => enable⟩

/-- Nothing of the device is connected. -/
structure Apart (own : Fields) (session : Session) : Prop where
  connected : own.isConnected = false
  statistics : own.busStatisticsEnabled = false
  session : session.isConnected = false

theorem Apart.closable {own : Fields} {session : Session} (apart : Apart own session) : Closable own session := by
  obtain ⟨connected,statistics,session'⟩ := apart
  have none : session.statistics = false := by
    cases session with
    | connected => contradiction
    | unready | ready | mapped | configured => rfl
  exact ⟨by rw [connected,session'],by simp [connected],by rw [statistics,none],by simp [statistics]⟩

variable {exports : Exports} {t : Adapter} {out : Outside Library}

theorem serve_initLib {library : Library} (apart : library.session.isConnected = false) (appName : String)
    (reply : Reply) :
    serve library (.initLib appName) reply = some ⟨reply.leads .unready .ready,library.left⟩ := by
  obtain ⟨session,left⟩ := library
  cases session with
  | connected => contradiction
  | unready | ready | mapped | configured => rfl

/-- Calls that are served in every session and leave it. -/
theorem serve_same {library : Library} {call : Call} {reply : Reply}
    (session : library.session.serve call reply = some library.session)
    (left : reply.leaves library.left call = library.left) : serve library call reply = some library := by
  simp [serve,session,left]

theorem serve_live {library : Library} {own : Fields} (live : Live own library) {call : Call} {reply : Reply}
    (session : (Session.connected own.mapping.applicationChannel .on true).serve call reply =
      some (.connected own.mapping.applicationChannel .on true))
    (left : reply.leaves library.left call = library.left) : serve library call reply = some library := by
  apply serve_same _ left
  rw [live.session]
  exact session

section setup

variable {post : Except Error Unit → Bool → Adapter → Outside Library → Prop}

theorem wp_andThen {first second : Action (Except Error Unit)} {alone : Bool}
    (holds : first.wp tsmasterRules (fun result alone t out => match result with
      | .error err => post (.error err) alone t out
      | .ok () => second.wp tsmasterRules post alone t out) alone t out) :
    (andThen first second).wp tsmasterRules post alone t out := by
  unfold andThen
  rw [Program.wp_bind]
  apply Program.wp_mono holds
  intro result alone t out holds
  cases result with
  | error err => exact holds
  | ok => exact holds

theorem wp_outside {post : Except Error String → Bool → Adapter → Outside Library → Prop} {call : Call}
    {error : String → Error} (served : ∀ reply, serve out.session call reply = some out.session)
    (later : ∀ result, post result true t out) : (outside call error).wp tsmasterRules post true t out := by
  unfold outside
  rw [Program.wp_bind]
  apply wp_callVendor rfl
  intro reply
  exact ⟨out.session,served reply,by simp,later _⟩

theorem wp_newTSMasterLoader (later : ∀ result, post result true t out) :
    newTSMasterLoader.wp tsmasterRules post true t out := by
  unfold newTSMasterLoader
  rw [Program.wp_bind]
  apply wp_outside (fun _ => serve_same (by simp [Session.serve]) rfl)
  intro registry
  cases registry with
  | error err => exact later _
  | ok dllPath =>
    simp only [Program.wp_ite]
    split_ifs
    · exact later _
    rw [Program.wp_bind]
    apply wp_outside (fun _ => serve_same (by simp [Session.serve]) rfl)
    intro used
    cases used with
    | error err => exact later _
    | ok _ =>
      simp only [Program.wp_bind]
      apply wp_outside (fun _ => serve_same (by simp [Session.serve]) rfl)
      intro loaded
      cases loaded with
      | error err => exact later _
      | ok _ => exact later _

theorem wp_setLoader (later : ∀ result, post result true (t.setOwn fun own => { own with loader := result.toBool }) out) :
    setLoader.wp tsmasterRules post true t out := by
  unfold setLoader
  rw [Program.wp_bind]
  apply wp_newTSMasterLoader
  intro result
  rw [Program.wp_bind]
  exact ⟨by simp,later result⟩

theorem wp_find {name : String} (loader : t.own.loader = true)
    (fails : ∀ err, post (.error err) true t out)
    (works : exports name = true → post (.ok ()) true t out) :
    (find exports name).wp tsmasterRules post true t out := by
  unfold find
  rw [Program.wp_bind]
  apply wp_callVendor loader
  intro reply
  refine ⟨out.session,serve_same (by simp [Session.serve]) rfl,by simp,?_⟩
  rw [Program.wp_pure]
  split_ifs with present
  · exact works present
  · exact fails _

theorem wp_loadStatisticsProcs (loader : t.own.loader = true)
    (fails : ∀ err own, own.isConnected = t.own.isConnected →
      own.busStatisticsEnabled = t.own.busStatisticsEnabled →
      post (.error err) true { t with own := own } out)
    (works : post (.ok ()) true { t with own := { t.own with
      enableBusStatisticsProc := true, getBusStatisticsProc := true } } out) :
    (loadStatisticsProcs exports).wp tsmasterRules post true t out := by
  apply wp_andThen
  rw [Program.wp_bind]
  apply wp_find loader
  · intro err
    rw [Program.wp_bind,Program.wp_write]
    exact ⟨by simp,fails err _ rfl rfl⟩
  intro _
  rw [Program.wp_bind,Program.wp_write]
  refine ⟨by simp,?_⟩
  rw [Program.wp_pure]
  simp only [Program.wp_bind]
  apply wp_find
  · exact loader
  · intro err
    rw [Program.wp_write]
    exact ⟨by simp,fails err _ rfl rfl⟩
  intro _
  rw [Program.wp_write]
  exact ⟨by simp,works⟩

variable {heap : Heap} {left : Bool}

theorem wp_enableStatistics {channel : UInt8} (enable : t.own.enableBusStatisticsProc = true)
    (fails : ∀ err, post (.error err) true t ⟨⟨.connected channel .off false,left⟩,heap⟩)
    (works : post (.ok ()) true { t with own := { t.own with busStatisticsEnabled := true } }
      ⟨⟨.connected channel .on false,left⟩,heap⟩) :
    enableStatistics.wp tsmasterRules post true t ⟨⟨.connected channel .off false,left⟩,heap⟩ := by
  unfold enableStatistics
  rw [Program.wp_bind]
  apply wp_callVendor enable
  intro reply
  refine ⟨_,rfl,by simp,?_⟩
  rw [Program.wp_ite]
  by_cases succeeded : reply.ret.toUInt32 = 0
  · rw [if_neg (not_not.mpr succeeded),Program.wp_bind,Program.wp_write,succeeded]
    exact ⟨by simp,works⟩
  · rw [if_pos succeeded,if_neg succeeded]
    exact fails _

theorem wp_enableFIFO {channel : UInt8} {statistics : Statistics} (loader : t.own.loader = true)
    (fails : ∀ err, post (.error err) true t ⟨⟨.connected channel statistics false,left⟩,heap⟩)
    (works : post (.ok ()) true t ⟨⟨.connected channel statistics true,left⟩,heap⟩) :
    (enableFIFO exports).wp tsmasterRules post true t ⟨⟨.connected channel statistics false,left⟩,heap⟩ := by
  apply wp_andThen
  apply wp_find loader
  · exact fails
  intro present
  simp only [Program.wp_bind]
  apply wp_callVendor (by simp [Fields.has,loader,present])
  intro reply
  exact ⟨_,rfl,by simp,works⟩

section complete

variable (complete : exports.Has procedures)
include complete

theorem wp_checked {name : String} {error : UInt64 → Error} {call : Call} (loader : t.own.loader = true)
    (member : name ∈ procedures)
    (served : ∀ reply, ∃ session, serve out.session call reply = some session ∧
      (reply.ret ≠ 0 → ∀ err, post (.error err) true t ⟨session,out.heap⟩) ∧
      (reply.ret = 0 → post (.ok ()) true t ⟨session,out.heap⟩)) :
    (checked exports name error call).wp tsmasterRules post true t out := by
  unfold checked
  rw [Program.wp_bind]
  apply wp_callVendor (complete.call loader member)
  intro reply
  obtain ⟨session,accepted,fails,works⟩ := served reply
  refine ⟨session,accepted,by simp,?_⟩
  rw [Program.wp_pure]
  split_ifs with failed
  · exact fails failed _
  · exact works (not_not.mp failed)

theorem wp_leads {name : String} {error : UInt64 → Error} {call : Call} {session next : Session}
    (loader : t.own.loader = true) (member : name ∈ procedures)
    (served : ∀ reply : Reply, serve out.session call reply = some ⟨reply.leads session next,left⟩)
    (fails : ∀ err, post (.error err) true t ⟨⟨session,left⟩,out.heap⟩)
    (works : post (.ok ()) true t ⟨⟨next,left⟩,out.heap⟩) :
    (checked exports name error call).wp tsmasterRules post true t out := by
  apply wp_checked complete loader member
  intro reply
  refine ⟨_,served reply,?_,?_⟩
  · intro failed
    rw [Reply.leads,if_neg failed]
    exact fails
  · intro succeeded
    rw [Reply.leads,if_pos succeeded]
    exact works

theorem wp_enumerate (loader : t.own.loader = true)
    (later : ∀ result, post result true t ⟨⟨.ready,left⟩,heap⟩) :
    (enumerate exports).wp tsmasterRules post true t ⟨⟨.ready,left⟩,heap⟩ := by
  simp only [enumerate,Program.wp_bind,Program.wp_read]
  apply wp_callVendor (complete.call loader (by simp [procedures]))
  intro reply
  exact ⟨_,rfl,by simp,later _⟩

theorem wp_setChannelCount (loader : t.own.loader = true)
    (later : ∀ result, post result true t ⟨⟨.ready,left⟩,heap⟩) :
    (setChannelCount exports).wp tsmasterRules post true t ⟨⟨.ready,left⟩,heap⟩ := by
  simp only [setChannelCount,Program.wp_bind,Program.wp_read]
  apply wp_callVendor (complete.call loader (by simp [procedures]))
  intro shown
  refine ⟨_,rfl,by simp,?_⟩
  apply wp_checked complete loader (by simp [procedures])
  intro reply
  exact ⟨_,rfl,fun _ _ => later _,fun _ => later _⟩

theorem wp_setMapping (loader : t.own.loader = true)
    (fails : ∀ err, post (.error err) true t ⟨⟨.ready,left⟩,heap⟩)
    (works : post (.ok ()) true t ⟨⟨.mapped t.own.mapping.applicationChannel,left⟩,heap⟩) :
    (setMapping exports).wp tsmasterRules post true t ⟨⟨.ready,left⟩,heap⟩ := by
  simp only [setMapping,Program.wp_bind,Program.wp_read]
  cases deviceNameFromType t.own.deviceType with
  | none => exact fails _
  | some deviceName => exact wp_leads complete loader (by simp [procedures]) (fun _ => rfl) fails works

theorem wp_configure (loader : t.own.loader = true)
    (fails : ∀ err, post (.error err) true t ⟨⟨.mapped t.own.mapping.applicationChannel,left⟩,heap⟩)
    (works : post (.ok ()) true t ⟨⟨.configured t.own.mapping.applicationChannel,left⟩,heap⟩) :
    (configure exports).wp tsmasterRules post true t
      ⟨⟨.mapped t.own.mapping.applicationChannel,left⟩,heap⟩ := by
  simp only [configure,Program.wp_bind,Program.wp_read]
  split_ifs
  · apply wp_leads complete loader (by simp [procedures]) _ fails works
    simp [serve,Session.serve,Reply.leaves]
  · apply wp_leads complete loader (by simp [procedures]) _ fails works
    simp [serve,Session.serve,Reply.leaves]

/-- A connection that was left is taken over. -/
theorem wp_connect {channel : UInt8} (loader : t.own.loader = true)
    (fails : ∀ err, post (.error err) true t ⟨⟨.configured channel,left⟩,heap⟩)
    (works : post (.ok ()) true { t with own := { t.own with isConnected := true } }
      ⟨⟨.connected channel .off false,false⟩,heap⟩) :
    (connect exports).wp tsmasterRules post true t ⟨⟨.configured channel,left⟩,heap⟩ := by
  apply wp_andThen
  apply wp_checked complete loader (by simp [procedures])
  intro reply
  refine ⟨⟨reply.leads (.configured channel) (.connected channel .off false),left && reply.ret ≠ 0⟩,rfl,?_,?_⟩
  · intro failed
    simpa [Reply.leads,failed] using fails
  · intro succeeded
    rw [Program.wp_bind,Program.wp_write]
    exact ⟨by simp,by simpa [Reply.leads,succeeded,setOwn] using works⟩

theorem wp_setUp (apart : Apart t.own out.session.session)
    (fails : ∀ err own library, Closable own library.session →
      post (.error err) true { t with own := own } ⟨library,out.heap⟩)
    (works : ∀ own library, Live own library →
      post (.ok ()) true { t with own := own } ⟨library,out.heap⟩) :
    (setUp exports).wp tsmasterRules post true t out := by
  obtain ⟨connected,statistics,session⟩ := apart
  have ends (err : Error) (own : Fields) (library : Library) (connected : own.isConnected = false)
      (statistics : own.busStatisticsEnabled = false) (apart : library.session.isConnected = false) :
      post (.error err) true { t with own := own } ⟨library,out.heap⟩ :=
    fails err own library (Apart.closable ⟨connected,statistics,apart⟩)
  apply wp_andThen
  apply wp_setLoader
  intro result
  cases result with
  | error err => exact ends err _ _ connected statistics session
  | ok =>
  apply wp_andThen
  apply wp_loadStatisticsProcs rfl
  · intro err own sameConnected sameStatistics
    exact ends err own _ (sameConnected.trans connected) (sameStatistics.trans statistics) session
  apply wp_andThen
  apply wp_leads complete rfl (by simp [procedures]) (serve_initLib session appName)
  · intro err
    exact ends err _ _ connected statistics rfl
  apply wp_andThen
  apply wp_enumerate complete rfl
  intro result
  cases result with
  | error err => exact ends err _ _ connected statistics rfl
  | ok =>
  apply wp_andThen
  apply wp_setChannelCount complete rfl
  intro result
  cases result with
  | error err => exact ends err _ _ connected statistics rfl
  | ok =>
  apply wp_andThen
  apply wp_setMapping complete rfl
  · intro err
    exact ends err _ _ connected statistics rfl
  apply wp_andThen
  apply wp_configure complete rfl
  · intro err
    exact ends err _ _ connected statistics rfl
  apply wp_andThen
  apply wp_connect complete rfl
  · intro err
    exact ends err _ _ connected statistics rfl
  apply wp_andThen
  apply wp_enableStatistics rfl
  · intro err
    exact fails err _ _ ⟨rfl,fun _ => rfl,statistics,fun _ => rfl⟩
  apply wp_enableFIFO rfl
  · intro err
    exact fails err _ _ ⟨rfl,fun _ => rfl,rfl,fun _ => rfl⟩
  · exact works _ _ ⟨rfl,rfl,rfl,rfl,rfl,rfl⟩

end complete

end setup

section takedown

variable {post : Unit → Bool → Adapter → Outside Library → Prop} {disabled disconnected : Fields → Fields}

theorem wp_disableStatistics (closable : Closable t.own out.session.session)
    (connected : t.own.isConnected = true)
    (later : ∀ own library, library.session.isConnected = true → library.session.statistics = false →
      own = (if t.own.busStatisticsEnabled then disabled t.own else t.own) →
      post () true { t with own := own } ⟨library,out.heap⟩) :
    (disableStatistics disabled).wp tsmasterRules post true t out := by
  have still : out.session.session.isConnected = true := closable.connected.symm.trans connected
  simp only [disableStatistics,Program.wp_bind,Program.wp_read]
  cases statistics : t.own.busStatisticsEnabled with
  | false =>
    have quiet := closable.statistics.symm.trans statistics
    exact later t.own out.session still quiet (by simp [statistics])
  | true =>
    have enable := closable.enable statistics
    have enabled := closable.statistics.symm.trans statistics
    rw [if_pos (by simp [enable]),Program.wp_bind]
    apply wp_callVendor enable
    intro reply
    cases session : out.session.session with
    | connected channel statistics' fifo =>
      obtain rfl : statistics' = .on := by simpa [session,Session.statistics] using enabled
      refine ⟨⟨.connected channel (if reply.ret.toUInt32 = 0 then .off else .kept) fifo,
        out.session.left⟩,?_,by simp,by simp,?_⟩
      · rw [serve,session]
        rfl
      · apply later _ _ rfl
        · simp only [Session.statistics]
          split_ifs <;> decide
        · simp [statistics]
    | unready | ready | mapped | configured => simp [session,Session.isConnected] at still

theorem serve_disconnect {library : Library} (connected : library.session.isConnected = true)
    (quiet : library.session.statistics = false) (reply : Reply) :
    serve library .disconnect reply = some ⟨.ready,reply.ret ≠ 0⟩ := by
  obtain ⟨session,left⟩ := library
  cases session with
  | connected channel statistics fifo =>
    cases statistics with
    | off | kept => rfl
    | on => contradiction
  | unready | ready | mapped | configured => contradiction

theorem wp_disconnect (complete : exports.Has procedures) (keeps : (disabled t.own).loader = t.own.loader)
    (closable : Closable t.own out.session.session)
    (later : ∀ own library, library.session.isConnected = false →
      own = (if t.own.isConnected then
        disconnected (if t.own.busStatisticsEnabled then disabled t.own else t.own) else t.own) →
      post () true { t with own := own } ⟨library,out.heap⟩) :
    (disconnect exports disabled disconnected).wp tsmasterRules post true t out := by
  simp only [disconnect,Program.wp_bind,Program.wp_read]
  cases connected : t.own.isConnected with
  | false =>
    rw [if_neg (by simp)]
    exact later t.own out.session (closable.connected.symm.trans connected) (by simp [connected])
  | true =>
    have loader := closable.loader connected
    rw [if_pos (by simp [loader]),Program.wp_bind]
    apply wp_disableStatistics closable connected
    intro own library still quiet same
    have present : own.loader = true := by
      rw [same]
      split_ifs
      · exact keeps.trans loader
      · exact loader
    rw [Program.wp_bind]
    apply wp_callVendor (complete.call present (by simp [procedures]))
    intro reply
    exact ⟨_,serve_disconnect still quiet reply,by simp,by simp,later _ _ rfl (by simp [connected,same])⟩

end takedown

variable {alone : Bool}

theorem wp_start (rested : Rests t out) : start.wp tsmasterRules (fun _ _ => Rests) alone t out := by
  simp only [start,Program.wp_bind,Program.wp_read]
  rw [Program.wp_ite]
  split_ifs
  · exact rested
  · exact rested.launches _

theorem wp_busLoad (rested : Rests t out) : busLoad.wp tsmasterRules (fun _ _ => Rests) alone t out := by
  simp only [busLoad,Program.wp_bind,Program.wp_read]
  rw [Program.wp_ite]
  split_ifs with shut
  · exact rested
  have initialized : t.initialized = true := by
    by_contra down
    exact shut (by simp [down])
  have live := (rested.up initialized).2.1
  rw [Program.wp_bind]
  apply wp_callVendor live.get
  intro reply
  exact ⟨out.session,serve_live live (if_pos rfl) rfl,fun _ live => live,rested⟩

theorem wp_setBRS (rested : Rests t out) (enabled : Bool) :
    (setBRS enabled).wp tsmasterRules (fun _ _ => Rests) alone t out :=
  rested.configures (fun s => { s.cfg with brs := enabled }) (Except.ok ())

section complete

variable (complete : exports.Has procedures)
include complete

theorem wp_cleanup (receives : t.Receives out.heap) (down : t.initialized = false)
    (ctx : t.ctx = some false) (closable : Closable t.own out.session.session) (error : Error) :
    (cleanup exports error).wp tsmasterRules (fun _ _ => Rests) true t out := by
  unfold cleanup
  rw [Program.wp_bind]
  apply wp_cancel
  rw [Program.wp_bind]
  apply wp_disconnect complete rfl
  · exact closable
  intro own library apart _
  rw [Program.wp_bind,closeLoader,Program.wp_write]
  refine ⟨by simp,?_⟩
  rw [Program.wp_bind]
  apply wp_closeFanout
  · simp [setOwn,ctx]
  rw [Program.wp_bind]
  apply wp_closeRx
  · exact receives.same rfl rfl
  intro heap e receives
  rw [Program.wp_bind,Program.wp_write]
  refine ⟨by simp,?_⟩
  exact Receives.rested (receives.same rfl rfl) down ⟨rfl,rfl,rfl,rfl,rfl,apart⟩ rfl rfl

theorem wp_openDevice (receives : t.Receives out.heap) (apart : Apart t.own out.session.session)
    (without : t.rxChan = none) (down : t.initialized = false) :
    (openDevice exports).wp tsmasterRules (fun _ _ => Rests) true t out := by
  unfold openDevice
  rw [Program.wp_bind]
  apply wp_openReceive receives without
  intro heap u makes
  rw [Program.wp_bind]
  apply wp_setUp complete
  · exact apart
  · intro err own library closable
    apply wp_cleanup complete
    · exact makes.same rfl rfl
    · exact down
    · rfl
    · exact closable
  · intro own library live
    rw [Program.wp_bind]
    refine ⟨by simp,makes.same rfl rfl,?_⟩
    rw [if_pos rfl]
    exact ⟨live,rfl,rfl,rfl⟩

theorem wp_initializeDevice (rested : Rests t out) (beside : alone = false → Up Live t out) :
    (initializeDevice exports).wp tsmasterRules (fun _ _ => Rests) alone t out := by
  simp only [initializeDevice,Program.wp_bind,Program.wp_read]
  cases down : t.initialized with
  | true => exact rested
  | false =>
    obtain rfl := rested.alone down beside
    obtain ⟨receives,idle,without,fanout⟩ := rested.down down
    obtain ⟨loader,connected,statistics,enable,get,session⟩ := idle
    rw [if_neg (by simp)]
    cases t.cfg.normalized with
    | error error => exact rested
    | ok cfg =>
      have same (cfg : BusConfig) (canType : Mode) (canChannel : UInt8) :
          Rests { t with cfg := cfg, own := { t.own with canType := canType, canChannel := canChannel } } out := by
        exact Receives.rested (receives.same rfl rfl) down
          ⟨loader,connected,statistics,enable,get,session⟩ without fanout
      simp only [Program.wp_bind,Program.wp_write,Program.wp_ite]
      refine ⟨by simp,?_⟩
      split_ifs
      · exact same _ _ _
      · exact same _ _ _
      · apply wp_openDevice complete
        · exact receives.same rfl rfl
        · exact ⟨connected,statistics,session⟩
        · exact without
        · exact down

theorem wp_shutDown {post : Unit → Bool → Adapter → Outside Library → Prop} {wasInitialized : Bool}
    (found : if wasInitialized then Live t.own out.session else Idle t.own out.session)
    (later : ∀ own library, own.isConnected = false → own.busStatisticsEnabled = false →
      library.session.isConnected = false → post () true { t with own := own } ⟨library,out.heap⟩) :
    (shutDown exports wasInitialized).wp tsmasterRules post true t out := by
  cases wasInitialized with
  | false =>
    have idle : Idle t.own out.session := found
    exact later t.own out.session idle.connected idle.statistics idle.session
  | true =>
    have live : Live t.own out.session := found
    apply wp_disconnect complete rfl live.closable
    intro own library apart same
    rw [if_pos live.connected,if_pos live.statistics] at same
    exact later own library (by simp [same]) (by simp [same]) apart

theorem wp_stop (rested : Rests t out) : (stop exports).wp tsmasterRules (fun _ _ => Rests) alone t out := by
  unfold stop
  apply wp_endReceive rested
  rw [Program.wp_bind]
  apply wp_shutDown complete
  · exact rested.found
  intro own library connected statistics apart
  rw [Program.wp_bind,closeLoader,Program.wp_write]
  refine ⟨by simp,?_⟩
  rw [Program.wp_bind,Program.wp_write]
  refine ⟨by simp,?_⟩
  rw [Program.wp_bind]
  apply wp_closeRx
  · exact rested.1.same rfl rfl
  intro heap e receives
  exact receives.rested rfl ⟨rfl,connected,statistics,rfl,rfl,apart⟩ rfl rfl

theorem wp_write (rested : Rests t out) (frame : Frame) :
    (write exports frame).wp tsmasterRules (fun _ _ => Rests) alone t out := by
  simp only [write,Program.wp_bind,Program.wp_read]
  rw [Program.wp_ite]
  split_ifs with shut
  · exact rested
  have live := (rested.up (by simpa using shut)).2.1
  unfold checked
  rw [Program.wp_bind]
  apply wp_callVendor (complete.call live.loader (by simp [procedures]))
  intro reply
  exact ⟨out.session,serve_live live (if_pos rfl) rfl,fun _ live => live,rested⟩

theorem machine_meets : (machine exports).Meets tsmasterRules Rests where
  body method alone t out rested beside := by
    cases method with
    | initializes => exact wp_initializeDevice complete rested beside
    | starts => exact wp_start rested
    | stops => exact wp_stop complete rested
    | writes frame => exact wp_write complete rested frame
    | getsBusLoad => exact wp_busLoad rested
    | setsBRS enabled => exact wp_setBRS rested enabled
  companion t out place choice call reply next up taken := by
    have live := up.2.1
    simp only [machine] at taken
    apply readStep_accepted up (complete.call live.loader (by simp [procedures])) _ taken
    intro reply
    exact serve_live live (if_pos rfl) rfl
  ends t out place _ leaving := by
    have selecting := selecting_ends (show (machine exports).react = _ from rfl) leaving
    cases place with
    | selecting => exact selecting
    | reading => exact reading_ends rfl default (publishing_ends rfl selecting _)
    | publishing frames => exact publishing_ends rfl selecting frames

end complete

/-- The library is not initialized, and no channel is made. -/
def unused : Outside Library := ⟨⟨.unready,false⟩,Heap.empty⟩

theorem new_rests (cfg : BusConfig) (deviceType : Int) (mapping : Option TSMasterMapping) :
    Rests (newTSMaster cfg deviceType mapping) unused :=
  ⟨⟨rfl,List.Perm.refl _⟩,⟨rfl,rfl,rfl,rfl,rfl,rfl⟩,rfl,rfl⟩

end Canbuskit.Driver.TSMaster
