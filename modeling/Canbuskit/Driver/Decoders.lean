import Canbuskit.Can.Config

/-! What the hardware backends make of the records their vendor libraries hand them: for each
receive path the record it reads, the filters it applies and the frame it publishes. Three of
the paths take a DLC or a bit-rate switch flag as it is. -/
namespace Canbuskit.Driver
open Can

/-- `copy` into a zeroed data array. -/
def copied (data : Bytes) : Vector UInt8 64 := Vector.ofFn fun i => data.getD i 0

/-- A frame of the own transmission only counts for the bus load, unless echoes are asked for. -/
def publishReceived (cfg : BusConfig) (frame : Frame) : Option Frame :=
  if frame.direction = .transmit ∧ cfg.includeTxEcho = false then none else some frame

def dlcLen (dlc : UInt8) : Nat := (dlcToLength dlc).getD 0

/-- What a code of the table stands for. -/
structure LegalDLC (dlc : UInt8) : Prop where
  decoded : dlcToLength dlc = some (dlcLen dlc)
  coded : lengthToDLC (dlcLen dlc) = dlc
  limit : dlcLen dlc ≤ 64
  classic : dlc ≤ 8 → dlcLen dlc = dlc.toNat

theorem legalDLC {dlc : UInt8} (legal : dlc ≤ 15) : LegalDLC dlc := by
  have table : ∀ n : Fin 16, let code := UInt8.ofNat n.val
      dlcToLength code = some (dlcLen code) ∧ lengthToDLC (dlcLen code) = code ∧ dlcLen code ≤ 64 ∧
        (code ≤ 8 → dlcLen code = code.toNat) := by
    decide
  have row := table ⟨dlc.toNat,Nat.lt_succ_of_le (UInt8.le_iff_toNat_le.mp legal)⟩
  rw [UInt8.ofNat_toNat] at row
  obtain ⟨decoded,coded,limit,classic⟩ := row
  exact ⟨decoded,coded,limit,classic⟩

theorem LegalDLC.short {dlc : UInt8} (row : LegalDLC dlc) (classic : dlc ≤ 8) : dlcLen dlc ≤ 8 := by
  rw [row.classic classic]
  exact UInt8.le_iff_toNat_le.mp classic

section toomoss

structure CANFDMsg where
  id : UInt32
  dlc : UInt8
  flags : UInt8
  timeStampHigh : UInt8
  timeStamp : UInt32
  data : Vector UInt8 64

structure CANMsg where
  id : Int32
  timeStamp : UInt32
  remoteFlag : UInt8
  externFlag : UInt8
  dataLen : UInt8
  data : Vector UInt8 8
  timeStampHigh : UInt8

def decodeToomossCANFDID (rawID : UInt32) : UInt32 × Bool × Bool :=
  (rawID &&& 0x1FFFFFFF,rawID &&& 0x40000000 != 0,rawID &&& 0x80000000 != 0)

/-- The flags for FD, bit-rate switch and transmit echo. -/
def decodeToomossCANFDFlags (flags : UInt8) : Bool × Bool × Bool :=
  (flags &&& 0x04 != 0,flags &&& 0x01 != 0,flags &&& 0x80 != 0)

/-- The flags for remote, extended, error and transmit echo. -/
def decodeToomossClassicFlags (remoteFlag externFlag : UInt8) : Bool × Bool × Bool × Bool :=
  (remoteFlag &&& 0x01 != 0,externFlag &&& 0x01 != 0,externFlag &&& 0x80 != 0,remoteFlag &&& 0x80 != 0)

def toomossDLCToDataLen (rawDLC : UInt8) (isFD : Bool) : Nat :=
  let maxLen := if isFD then 64 else 8
  if maxLen < rawDLC.toNat then maxLen else rawDLC.toNat

def toomossTimestampUS (high : UInt8) (low : UInt32) (tickUS : UInt64) : UInt64 :=
  ((high.toUInt64 <<< 32) ||| low.toUInt64) * tickUS

def toomossReceiveFD (cfg : BusConfig) (msg : CANFDMsg) : Option Frame :=
  let (id,remote,extended) := decodeToomossCANFDID msg.id
  if remote || extended || decide (0x7FF < id) then none
  else
    let (isFD,brs,txEcho) := decodeToomossCANFDFlags msg.flags
    let actualLen := toomossDLCToDataLen msg.dlc isFD
    publishReceived cfg {
      direction := if txEcho then .transmit else .receive
      id := id
      dlc := lengthToDLC actualLen
      data := msg.data
      fd := isFD
      brs := isFD && brs
      extended := false
      timestampUS := toomossTimestampUS msg.timeStampHigh msg.timeStamp 10 }

def toomossReceiveClassic (cfg : BusConfig) (msg : CANMsg) : Option Frame :=
  let (remote,extended,errorFrame,txEcho) := decodeToomossClassicFlags msg.remoteFlag msg.externFlag
  if errorFrame then none
  else if extended then none
  else if remote then none
  else
    let actualLen := if 8 < msg.dataLen.toNat then 8 else msg.dataLen.toNat
    publishReceived cfg {
      direction := if txEcho then .transmit else .receive
      id := msg.id.toUInt32 &&& 0x7FF
      dlc := lengthToDLC actualLen
      data := copied (msg.data.toList.take actualLen)
      fd := false
      brs := false
      extended := false
      timestampUS := toomossTimestampUS msg.timeStampHigh msg.timeStamp 100 }

end toomoss

section pcan

structure PcanMsg where
  id : UInt32
  msgType : UInt8
  len : UInt8
  data : Vector UInt8 8

structure PcanMsgFD where
  id : UInt32
  msgType : UInt8
  dlc : UInt8
  data : Vector UInt8 64

structure PcanTimestamp where
  millis : UInt32
  millisOverflow : UInt16
  micros : UInt16

def pcanMessageRTR : UInt8 := 0x01
def pcanMessageExtended : UInt8 := 0x02
def pcanMessageFD : UInt8 := 0x04
def pcanMessageBRS : UInt8 := 0x08
def pcanMessageEcho : UInt8 := 0x20
def pcanMessageErrFrame : UInt8 := 0x40

def pcanClassicTimestampUS (ts : PcanTimestamp) : UInt64 :=
  ts.micros.toUInt64 + ts.millis.toUInt64 * 1000 + ts.millisOverflow.toUInt64 * 0x100000000 * 1000

def enqueueMessage (cfg : BusConfig) (id : UInt32) (dlc : UInt8) (data : Bytes) (msgType : UInt8)
    (timestampUS : UInt64) : Option Frame :=
  if msgType &&& (pcanMessageRTR ||| pcanMessageErrFrame ||| pcanMessageExtended) ≠ 0 ∨ 0x7FF < id then
    none
  else
    let isFD := msgType &&& pcanMessageFD != 0
    publishReceived cfg {
      direction := if msgType &&& pcanMessageEcho ≠ 0 then .transmit else .receive
      id := id
      dlc := dlc
      data := copied data
      fd := isFD
      brs := isFD && msgType &&& pcanMessageBRS != 0
      extended := false
      timestampUS := timestampUS }

end pcan

section vector

structure XlCanRxEvent where
  tag : UInt16
  timeStamp : UInt64
  canID : UInt32
  msgFlags : UInt32
  dlc : UInt8
  data : Vector UInt8 64

structure XlEvent where
  tag : UInt8
  timeStamp : UInt64
  id : UInt32
  flags : UInt16
  dlc : UInt16
  data : Vector UInt8 8

def vectorCanFdTagRxOK : UInt16 := 1024
def vectorCanFdTagTxOK : UInt16 := 1028
def vectorCanFdRxFlagEDL : UInt32 := 1
def vectorCanFdRxFlagBRS : UInt32 := 2
def vectorEventTagReceiveMsg : UInt8 := 1
def vectorCanMsgFlagErrorFrame : UInt16 := 1
def vectorCanMsgFlagRemote : UInt16 := 0x10
def vectorCanMsgFlagTXCompleted : UInt16 := 0x40

def readOneCanFD (cfg : BusConfig) (event : XlCanRxEvent) : Option Frame :=
  if event.tag ≠ vectorCanFdTagRxOK ∧ event.tag ≠ vectorCanFdTagTxOK then none
  else if event.canID &&& 0x80000000 ≠ 0 ∨ 0x7FF < event.canID &&& 0x1FFFFFFF then none
  else
    let isFD := event.msgFlags &&& vectorCanFdRxFlagEDL != 0
    publishReceived cfg {
      direction := if event.tag = vectorCanFdTagTxOK then .transmit else .receive
      id := event.canID &&& 0x1FFFFFFF
      dlc := event.dlc
      data := copied (event.data.toList.take (dlcLen event.dlc))
      fd := isFD
      brs := isFD && event.msgFlags &&& vectorCanFdRxFlagBRS != 0
      extended := false
      timestampUS := event.timeStamp / 1000 }

def readOneCAN (cfg : BusConfig) (event : XlEvent) : Option Frame :=
  let dlc := event.dlc.toUInt8
  if event.tag ≠ vectorEventTagReceiveMsg then none
  else if event.flags &&& (vectorCanMsgFlagErrorFrame ||| vectorCanMsgFlagRemote) ≠ 0 then none
  else if event.id &&& 0x80000000 ≠ 0 ∨ 0x7FF < event.id &&& 0x1FFFFFFF then none
  else if 8 < dlc then none
  else publishReceived cfg {
    direction := if event.flags &&& vectorCanMsgFlagTXCompleted ≠ 0 then .transmit else .receive
    id := event.id &&& 0x1FFFFFFF
    dlc := dlc
    data := copied (event.data.toList.take (dlcLen dlc))
    fd := false
    brs := false
    extended := false
    timestampUS := event.timeStamp / 1000 }

end vector

section tsmaster

structure TLIBCANFD where
  properties : UInt8
  dlc : UInt8
  fdProperties : UInt8
  identifier : Int32
  timeUs : Int64
  data : Vector UInt8 64

def tsCANPropertyTX : UInt8 := 1
def tsCANPropertyRemote : UInt8 := 2
def tsCANPropertyExtended : UInt8 := 4
def tsCANFDPropertyEDL : UInt8 := 1
def tsCANFDPropertyBRS : UInt8 := 2

def tsmasterTimestampUS (timestamp : Int64) : UInt64 :=
  if timestamp < 0 then 0 else timestamp.toUInt64

def tsmasterReceive (cfg : BusConfig) (msg : TLIBCANFD) : Option Frame :=
  if msg.identifier < 0 ∨ 0x7FF < msg.identifier then none
  else if msg.properties &&& (tsCANPropertyRemote ||| tsCANPropertyExtended) ≠ 0 then none
  else if 15 < msg.dlc then none
  else publishReceived cfg {
    direction := if msg.properties &&& tsCANPropertyTX ≠ 0 then .transmit else .receive
    id := msg.identifier.toUInt32
    dlc := msg.dlc
    data := msg.data
    fd := msg.fdProperties &&& tsCANFDPropertyEDL != 0
    brs := msg.fdProperties &&& tsCANFDPropertyBRS != 0
    extended := false
    timestampUS := tsmasterTimestampUS msg.timeUs }

end tsmaster

section canalyst

structure VCICanObj where
  id : UInt32
  timeStamp : UInt32
  timeFlag : UInt8
  remoteFlag : UInt8
  externFlag : UInt8
  dataLen : UInt8
  data : Vector UInt8 8

def canalystTimestampUS (timestamp : UInt32) (timeFlag : UInt8) : UInt64 :=
  if timeFlag = 0 then 0 else timestamp.toUInt64 * 100

def canalystReceive (msg : VCICanObj) : Option Frame :=
  if msg.remoteFlag ≠ 0 ∨ msg.externFlag ≠ 0 then none
  else if 0x7FF < msg.id then none
  else if 8 < msg.dataLen then none
  else some {
    direction := .receive
    id := msg.id
    dlc := msg.dataLen
    data := copied (msg.data.toList.take msg.dataLen.toNat)
    fd := false
    brs := false
    extended := false
    timestampUS := canalystTimestampUS msg.timeStamp msg.timeFlag }

end canalyst

/-- A record of one of the receive paths. -/
inductive RawRecord where
  | toomossFD (msg : CANFDMsg)
  | toomossClassic (msg : CANMsg)
  | pcanFD (msg : PcanMsgFD) (timestampUS : UInt64)
  | pcanClassic (msg : PcanMsg) (timestamp : PcanTimestamp)
  | vectorFD (event : XlCanRxEvent)
  | vectorClassic (event : XlEvent)
  | tsmaster (msg : TLIBCANFD)
  | canalystII (msg : VCICanObj)

/-- The frame that a backend publishes for a record, if it publishes one. -/
def RawRecord.publish (cfg : BusConfig) : RawRecord → Option Frame
  | .toomossFD msg => toomossReceiveFD cfg msg
  | .toomossClassic msg => toomossReceiveClassic cfg msg
  | .pcanFD msg timestampUS =>
    enqueueMessage cfg msg.id msg.dlc msg.data.toList msg.msgType timestampUS
  | .pcanClassic msg timestamp =>
    enqueueMessage cfg msg.id msg.len msg.data.toList msg.msgType (pcanClassicTimestampUS timestamp)
  | .vectorFD event => readOneCanFD cfg event
  | .vectorClassic event => readOneCAN cfg event
  | .tsmaster msg => tsmasterReceive cfg msg
  | .canalystII msg => canalystReceive msg

/-- A frame with a standard ID is valid when its DLC fits its format and only an FD frame
switches the bit rate. -/
theorem validate_iff {frame : Frame} (standard : frame.id ≤ 0x7FF) (short : frame.extended = false) :
    frame.validate = .ok () ↔
      frame.dlc ≤ (if frame.fd then 15 else 8) ∧ (frame.brs = true → frame.fd = true) := by
  have notOver : ¬ (0x7FF : UInt32) < frame.id := UInt32.not_lt.mpr standard
  have checked (length : Nat) (limit : length ≤ maximumLength frame.fd) :
      validateFrame frame length = .ok () ↔ (frame.brs = true → frame.fd = true) := by
    have notNegative : ¬ ((length : Int) < 0) := by omega
    have notLong : ¬ ((if frame.fd then 64 else 8 : Int) < length) := by
      unfold maximumLength at limit
      split_ifs at limit ⊢ <;> omega
    simp only [validateFrame,short,Bool.false_eq_true,if_false,if_neg notOver,if_neg notNegative,if_neg notLong]
    cases frame.fd <;> cases frame.brs <;> simp
  unfold Frame.validate Frame.validDataLength
  cases fd : frame.fd with
  | true =>
    by_cases legal : frame.dlc ≤ 15
    · have row := legalDLC legal
      have accepted := checked (dlcLen frame.dlc) (by simpa [fd,maximumLength] using row.limit)
      simp [UInt8.not_lt.mpr legal,row.decoded,legal,accepted,fd]
    · simp [UInt8.not_le.mp legal,legal]
  | false =>
    by_cases legal : frame.dlc ≤ 8
    · have row := legalDLC (UInt8.le_trans legal (by decide))
      have accepted := checked (dlcLen frame.dlc) (by simpa [fd,maximumLength] using row.short legal)
      simp [UInt8.not_lt.mpr legal,row.decoded,legal,accepted,fd]
    · simp [UInt8.not_le.mp legal,legal]

theorem publishReceived_valid_iff (cfg : BusConfig) {frame : Frame} (standard : frame.id ≤ 0x7FF)
    (short : frame.extended = false) :
    (∀ published, publishReceived cfg frame = some published → published.validate = .ok ()) ↔
      frame.direction = .transmit ∧ cfg.includeTxEcho = false ∨
        frame.dlc ≤ (if frame.fd then 15 else 8) ∧ (frame.brs = true → frame.fd = true) := by
  unfold publishReceived
  by_cases echo : frame.direction = .transmit ∧ cfg.includeTxEcho = false
  · simp [echo]
  · rw [if_neg echo]
    simp only [Option.some.injEq,forall_eq',echo,false_or]
    exact validate_iff standard short

/-- A record of PCAN that is dropped, or whose DLC fits its format. -/
def PcanRegular (cfg : BusConfig) (id : UInt32) (dlc msgType : UInt8) : Prop :=
  (msgType &&& (pcanMessageRTR ||| pcanMessageErrFrame ||| pcanMessageExtended) ≠ 0 ∨ 0x7FF < id) ∨
    msgType &&& pcanMessageEcho ≠ 0 ∧ cfg.includeTxEcho = false ∨
    dlc ≤ if msgType &&& pcanMessageFD ≠ 0 then 15 else 8

/-- A record of Vector's CAN FD path that is dropped, or whose DLC fits its format. -/
def XlCanRxEvent.Regular (cfg : BusConfig) (event : XlCanRxEvent) : Prop :=
  event.tag ≠ vectorCanFdTagRxOK ∧ event.tag ≠ vectorCanFdTagTxOK ∨
    (event.canID &&& 0x80000000 ≠ 0 ∨ 0x7FF < event.canID &&& 0x1FFFFFFF) ∨
    event.tag = vectorCanFdTagTxOK ∧ cfg.includeTxEcho = false ∨
    event.dlc ≤ if event.msgFlags &&& vectorCanFdRxFlagEDL ≠ 0 then 15 else 8

/-- A record of TSMaster that is dropped, or whose DLC fits its format and whose bit-rate switch
comes with the FD format. -/
def TLIBCANFD.Regular (cfg : BusConfig) (msg : TLIBCANFD) : Prop :=
  (msg.identifier < 0 ∨ 0x7FF < msg.identifier) ∨
    msg.properties &&& (tsCANPropertyRemote ||| tsCANPropertyExtended) ≠ 0 ∨ 15 < msg.dlc ∨
    msg.properties &&& tsCANPropertyTX ≠ 0 ∧ cfg.includeTxEcho = false ∨
    msg.dlc ≤ (if msg.fdProperties &&& tsCANFDPropertyEDL ≠ 0 then 15 else 8) ∧
      (msg.fdProperties &&& tsCANFDPropertyBRS ≠ 0 → msg.fdProperties &&& tsCANFDPropertyEDL ≠ 0)

def RawRecord.Regular (cfg : BusConfig) : RawRecord → Prop
  | .pcanFD msg _ => PcanRegular cfg msg.id msg.dlc msg.msgType
  | .pcanClassic msg _ => PcanRegular cfg msg.id msg.len msg.msgType
  | .vectorFD event => event.Regular cfg
  | .tsmaster msg => msg.Regular cfg
  | _ => True

theorem direction_transmit {echo : Prop} [Decidable echo] :
    (if echo then Direction.transmit else .receive) = .transmit ↔ echo := by
  split_ifs with echoed <;> simp [echoed]

theorem filtered_iff {skipped : Prop} [Decidable skipped] {decoded : Option Frame}
    {holds : Frame → Prop} :
    (∀ frame, (if skipped then none else decoded) = some frame → holds frame) ↔
      skipped ∨ ∀ frame, decoded = some frame → holds frame := by
  split_ifs with drops <;> simp [drops]

theorem enqueueMessage_valid_iff (cfg : BusConfig) (id : UInt32) (dlc : UInt8) (data : Bytes)
    (msgType : UInt8) (timestampUS : UInt64) :
    (∀ frame, enqueueMessage cfg id dlc data msgType timestampUS = some frame → frame.validate = .ok ()) ↔
      PcanRegular cfg id dlc msgType := by
  unfold enqueueMessage PcanRegular
  rw [filtered_iff]
  refine or_congr_right' fun passed => ?_
  rw [publishReceived_valid_iff cfg (UInt32.not_lt.mp (not_or.mp passed).2) rfl]
  simp only [direction_transmit,bne_iff_ne,Bool.and_eq_true,and_imp]
  exact or_congr_right (and_iff_left fun fd _ => fd)

theorem readOneCanFD_valid_iff (cfg : BusConfig) (event : XlCanRxEvent) :
    (∀ frame, readOneCanFD cfg event = some frame → frame.validate = .ok ()) ↔ event.Regular cfg := by
  unfold readOneCanFD XlCanRxEvent.Regular
  rw [filtered_iff,filtered_iff]
  refine or_congr_right (or_congr_right' fun passed => ?_)
  rw [publishReceived_valid_iff cfg (UInt32.not_lt.mp (not_or.mp passed).2) rfl]
  simp only [direction_transmit,bne_iff_ne,Bool.and_eq_true,and_imp]
  exact or_congr_right (and_iff_left fun fd _ => fd)

theorem tsmasterReceive_valid_iff (cfg : BusConfig) (msg : TLIBCANFD) :
    (∀ frame, tsmasterReceive cfg msg = some frame → frame.validate = .ok ()) ↔ msg.Regular cfg := by
  unfold tsmasterReceive TLIBCANFD.Regular
  rw [filtered_iff,filtered_iff,filtered_iff]
  refine or_congr_right' fun passed => or_congr_right (or_congr_right ?_)
  have standard : msg.identifier.toUInt32 ≤ 0x7FF :=
    Int32.toUInt32_le (Int32.not_lt.mp (not_or.mp passed).1) (Int32.not_lt.mp (not_or.mp passed).2)
  rw [publishReceived_valid_iff cfg standard rfl]
  simp only [direction_transmit,bne_iff_ne]

theorem lengthToDLC_fits {fd : Bool} {length : Nat} (fits : length ≤ maximumLength fd) :
    lengthToDLC length ≤ if fd then 15 else 8 := by
  obtain ⟨_,legal,classic⟩ := dlc_of_length (Nat.le_trans fits (maximumLength_le fd))
  cases fd with
  | true => exact legal
  | false => exact classic fits

theorem toomossReceiveFD_valid (cfg : BusConfig) (msg : CANFDMsg) :
    ∀ frame, toomossReceiveFD cfg msg = some frame → frame.validate = .ok () := by
  unfold toomossReceiveFD
  obtain ⟨id,remote,extended⟩ := decodeToomossCANFDID msg.id
  obtain ⟨isFD,brs,txEcho⟩ := decodeToomossCANFDFlags msg.flags
  dsimp only
  rw [filtered_iff]
  refine or_iff_not_imp_left.mpr fun passed => ?_
  have standard : id ≤ 0x7FF := by
    simp only [Bool.or_eq_true,decide_eq_true_eq,not_or] at passed
    exact UInt32.not_lt.mp passed.2
  refine (publishReceived_valid_iff cfg standard rfl).mpr (.inr ⟨lengthToDLC_fits ?_,?_⟩)
  · unfold toomossDLCToDataLen maximumLength
    dsimp only
    split_ifs <;> omega
  · simp only [Bool.and_eq_true]
    exact fun switched => switched.1

theorem toomossReceiveClassic_valid (cfg : BusConfig) (msg : CANMsg) :
    ∀ frame, toomossReceiveClassic cfg msg = some frame → frame.validate = .ok () := by
  unfold toomossReceiveClassic
  obtain ⟨remote,extended,errorFrame,txEcho⟩ := decodeToomossClassicFlags msg.remoteFlag msg.externFlag
  dsimp only
  rw [filtered_iff,filtered_iff,filtered_iff]
  refine .inr (.inr (.inr ?_))
  refine (publishReceived_valid_iff cfg UInt32.and_le_right rfl).mpr (.inr ⟨lengthToDLC_fits ?_,by simp⟩)
  unfold maximumLength
  split_ifs <;> omega

theorem readOneCAN_valid (cfg : BusConfig) (event : XlEvent) :
    ∀ frame, readOneCAN cfg event = some frame → frame.validate = .ok () := by
  unfold readOneCAN
  dsimp only
  rw [filtered_iff,filtered_iff,filtered_iff,filtered_iff]
  refine .inr (.inr (or_iff_not_imp_left.mpr fun passed => or_iff_not_imp_left.mpr fun legal => ?_))
  refine (publishReceived_valid_iff cfg (UInt32.not_lt.mp (not_or.mp passed).2) rfl).mpr (.inr ⟨?_,by simp⟩)
  exact UInt8.not_lt.mp legal

theorem canalystReceive_valid (msg : VCICanObj) :
    ∀ frame, canalystReceive msg = some frame → frame.validate = .ok () := by
  unfold canalystReceive
  rw [filtered_iff,filtered_iff,filtered_iff]
  refine .inr (or_iff_not_imp_left.mpr fun standard => or_iff_not_imp_left.mpr fun legal => ?_)
  rintro frame published
  rw [← Option.some.inj published]
  exact (validate_iff (UInt32.not_lt.mp standard) rfl).mpr ⟨UInt8.not_lt.mp legal,by simp⟩

/-- A backend publishes valid frames for a record exactly when the record is regular: the paths
of PCAN, of Vector's CAN FD and of TSMaster do not check the DLC against the format, and that
of TSMaster does not tie the bit-rate switch to it. -/
theorem published_valid_iff (cfg : BusConfig) (record : RawRecord) :
    (∀ frame, record.publish cfg = some frame → frame.validate = .ok ()) ↔ record.Regular cfg := by
  cases record with
  | toomossFD msg => exact iff_true_intro (toomossReceiveFD_valid cfg msg)
  | toomossClassic msg => exact iff_true_intro (toomossReceiveClassic_valid cfg msg)
  | pcanFD msg timestampUS => exact enqueueMessage_valid_iff cfg _ _ _ _ _
  | pcanClassic msg timestamp => exact enqueueMessage_valid_iff cfg _ _ _ _ _
  | vectorFD event => exact readOneCanFD_valid_iff cfg event
  | vectorClassic event => exact iff_true_intro (readOneCAN_valid cfg event)
  | tsmaster msg => exact tsmasterReceive_valid_iff cfg msg
  | canalystII msg => exact iff_true_intro (canalystReceive_valid msg)

/-- A classic frame of TSMaster with DLC 9 is published. -/
theorem published_invalid :
    ¬ ∀ cfg (record : RawRecord) frame, record.publish cfg = some frame → frame.validate = .ok () := by
  intro valid
  have wrong := valid (.default Mode.fd 0) (.tsmaster ⟨0,9,0,0x123,0,Vector.replicate 64 0⟩) _ rfl
  exact absurd wrong (by decide)

end Canbuskit.Driver
