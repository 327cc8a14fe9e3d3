import Canbuskit.Driver.Encoders

/-! The records of the other transmit paths: Vector in both modes, and the backends and modes that
send classic frames. Where a library reports what it has sent, it keeps the ID, the data and the flags
that say what the frame is, and its time and other flags are its own. -/
namespace Canbuskit.Driver
open Can

section vector

structure XlCanTxEvent where
  tag : UInt16
  transID : UInt16
  canID : UInt32
  msgFlags : UInt32
  dlc : UInt8
  data : Vector UInt8 64

inductive VectorWritten where
  | classic (event : XlEvent)
  | fd (event : XlCanTxEvent)

def vectorCanFdTxTag : UInt16 := 1088
def vectorCanFdTxFlagEDL : UInt32 := 1
def vectorCanFdTxFlagBRS : UInt32 := 2
def vectorEventTagTransmitMsg : UInt8 := 10

/-- `none` is an error for the mode of the channel. -/
def vectorWrite (canType : Mode) (cfg : BusConfig) (frame : Frame) : Option VectorWritten :=
  let id := frame.id.toInt32.toUInt32
  let data := written frame
  if frame.fd then
    if canType ≠ Mode.fd then none
    else some (.fd {
      tag := vectorCanFdTxTag
      transID := 0xFFFF
      canID := id
      msgFlags := if cfg.brs then vectorCanFdTxFlagEDL ||| vectorCanFdTxFlagBRS else vectorCanFdTxFlagEDL
      dlc := lengthToDLC data.length
      data := copied data })
  else if canType = Mode.fd then
    some (.fd {
      tag := vectorCanFdTxTag
      transID := 0xFFFF
      canID := id
      msgFlags := 0
      dlc := lengthToDLC data.length
      data := copied data })
  else if canType = Mode.classic then
    some (.classic {
      tag := vectorEventTagTransmitMsg
      timeStamp := 0
      id := id
      flags := 0
      dlc := UInt16.ofNat data.length
      data := Vector.ofFn fun i => data.getD i 0 })
  else none

/-- What the library reports of a transmitted message: an echo on the channel that sent it, or
the message as another channel receives it. -/
structure XlCanTxEvent.Reported (event : XlCanTxEvent) (reported : XlCanRxEvent) : Prop where
  tag : reported.tag = vectorCanFdTagRxOK ∨ reported.tag = vectorCanFdTagTxOK
  canID : reported.canID = event.canID
  edl : reported.msgFlags &&& vectorCanFdRxFlagEDL = event.msgFlags &&& vectorCanFdTxFlagEDL
  brs : reported.msgFlags &&& vectorCanFdRxFlagBRS = event.msgFlags &&& vectorCanFdTxFlagBRS
  dlc : reported.dlc = event.dlc
  data : reported.data = event.data

structure XlEvent.Reported (event reported : XlEvent) : Prop where
  tag : reported.tag = vectorEventTagReceiveMsg
  id : reported.id = event.id
  plain : reported.flags &&& (vectorCanMsgFlagErrorFrame ||| vectorCanMsgFlagRemote) = 0
  dlc : reported.dlc = event.dlc
  data : reported.data = event.data

end vector

section toomoss

def toomossClassicFlagRemote : UInt8 := 0x01
def toomossClassicFlagChannel : UInt8 := 0x60
def toomossClassicFlagExt : UInt8 := 0x01

def encodeToomossClassicFlags (channel : UInt8) (extended remote : Bool) : UInt8 × UInt8 :=
  let remoteFlag := (channel <<< 5) &&& toomossClassicFlagChannel
  let remoteFlag := if remote then remoteFlag ||| toomossClassicFlagRemote else remoteFlag
  let externFlag := if extended then toomossClassicFlagExt else 0
  (remoteFlag,externFlag)

inductive ToomossClassicError where
  | notLoaded
  | fdFrame
  | tooLong (length : Nat)

/-- The record of `writeClassicCAN`, for a legacy firmware. -/
def toomossWriteClassic (loaded : Bool) (channel : UInt8) (frame : Frame) :
    Except ToomossClassicError CANMsg :=
  let data := written frame
  if !loaded then .error .notLoaded
  else if frame.fd then .error .fdFrame
  else if 8 < data.length then .error (.tooLong data.length)
  else
    let (remoteFlag,externFlag) := encodeToomossClassicFlags channel false false
    .ok {
      id := (frame.id.toInt32.toUInt32 &&& 0x7FF).toInt32
      timeStamp := 0
      remoteFlag := remoteFlag
      externFlag := externFlag
      dataLen := UInt8.ofNat data.length
      data := Vector.ofFn fun i => data.getD i 0
      timeStampHigh := 0 }

/-- What the firmware reports of a transmitted message, which is no error. -/
structure CANMsg.Reported (msg reported : CANMsg) : Prop where
  id : reported.id = msg.id
  remote : reported.remoteFlag &&& 0x01 = msg.remoteFlag &&& 0x01
  extended : reported.externFlag &&& 0x01 = msg.externFlag &&& 0x01
  error : reported.externFlag &&& 0x80 = 0
  dataLen : reported.dataLen = msg.dataLen
  data : reported.data = msg.data

end toomoss

/-- No channel number reaches the flag of a remote frame. -/
theorem encodeToomossClassicFlags_plain (channel : UInt8) :
    let (remoteFlag,externFlag) := encodeToomossClassicFlags channel false false
    remoteFlag &&& 0x01 = 0 ∧ externFlag &&& 0x01 = 0 := by
  have apart : toomossClassicFlagChannel &&& 0x01 = 0 := by decide
  simp [encodeToomossClassicFlags,UInt8.and_assoc,apart]

theorem getD_ofFn {size : Nat} {data : Bytes} (short : data.length ≤ size) (i : Nat) :
    (Vector.ofFn fun i : Fin size => data.getD i 0).toList.getD i 0 = data.getD i 0 := by
  by_cases inside : i < size
  · simp [List.getD,inside]
  · have past : data.length ≤ i := Nat.le_trans short (Nat.not_lt.mp inside)
    simp [List.getD,inside,past]

theorem take_ofFn {size : Nat} {data : Bytes} (short : data.length ≤ size) :
    (Vector.ofFn fun i : Fin size => data.getD i 0).toList.take data.length = data := by
  apply List.ext_getElem
  · simp [short]
  · intro i _ inside
    simp [List.getD,inside]

theorem copied_ofFn {size : Nat} {data : Bytes} (short : data.length ≤ size) :
    copied (Vector.ofFn fun i : Fin size => data.getD i 0).toList = copied data := by
  unfold copied
  congr 1
  funext i
  exact getD_ofFn short i

namespace Sendable

variable {frame : Frame}

theorem not_over (sendable : Sendable frame) : ¬ 0x7FF < frame.id := UInt32.not_lt.mpr sendable.standard

theorem id_own (sendable : Sendable frame) : frame.id &&& 0x7FF = frame.id := by
  have masked := sendable.id_and (-1)
  rw [UInt32.and_neg_one,UInt32.and_neg_one] at masked
  exact masked.symm

theorem id_low (sendable : Sendable frame) : frame.id &&& 0x1FFFFFFF = frame.id :=
  congrArg Prod.fst sendable.decodeToomossCANFDID_id

theorem id_high (sendable : Sendable frame) : frame.id &&& 0x80000000 = 0 := by
  have short := congrArg (fun decoded => decoded.2.2) sendable.decodeToomossCANFDID_id
  simpa [decodeToomossCANFDID] using short

theorem classic_length (sendable : Sendable frame) (classic : frame.fd = false) :
    (written frame).length = frame.dlc.toNat ∧ frame.dlc.toNat ≤ 8 := by
  have legal : frame.dlc ≤ 8 := by simpa [classic] using sendable.legal
  exact ⟨sendable.length_written.trans (sendable.row.classic legal),UInt8.le_iff_toNat_le.mp legal⟩

theorem classic_brs (sendable : Sendable frame) (classic : frame.fd = false) : frame.brs = false := by
  cases brs : frame.brs with
  | false => rfl
  | true =>
    have fd := sendable.switched brs
    rw [classic] at fd
    contradiction

/-- A path of classic frames only has to show what it publishes. -/
theorem returns_classic (sendable : Sendable frame) (classic : frame.fd = false)
    {receive : BusConfig → Option Frame} (direction : Direction) (timestampUS : UInt64)
    (publishes : ∀ cfg, receive cfg = publishReceived cfg
      ⟨direction,frame.id,frame.dlc,copied (written frame),false,false,false,timestampUS⟩) :
    Returns frame receive :=
  ⟨_,publishes,rfl,classic.symm,(sendable.classic_brs classic).symm,rfl,
    sendable.payload_eq classic.symm rfl rfl⟩

theorem pcanClassic (sendable : Sendable frame) (classic : frame.fd = false) (cfg : BusConfig)
    (timestamp : PcanTimestamp) : ∃ record, pcanWrite Mode.classic cfg frame = some (.classic record) ∧
      Returns frame fun cfg' => enqueueMessage cfg' record.id record.len record.data.toList
        record.msgType (pcanClassicTimestampUS timestamp) := by
  obtain ⟨length,short⟩ := sendable.classic_length classic
  refine ⟨⟨frame.id,pcanMessageStandard,frame.dlc,Vector.ofFn fun i => (written frame).getD i 0⟩,?_,?_⟩
  · simp [pcanWrite,classic,length,Mode.classic,Mode.fd]
  · apply sendable.returns_classic classic .receive (pcanClassicTimestampUS timestamp)
    intro cfg'
    simp only [enqueueMessage,sendable.not_over,or_false]
    rw [copied_ofFn (by omega)]
    simp [pcanMessageStandard]

theorem canalyst (sendable : Sendable frame) (classic : frame.fd = false) (timeStamp : UInt32)
    (timeFlag : UInt8) : Returns frame fun _ =>
      canalystReceive { canalystWrite frame with timeStamp := timeStamp, timeFlag := timeFlag } := by
  obtain ⟨length,short⟩ := sendable.classic_length classic
  apply sendable.returns_classic classic .receive (canalystTimestampUS timeStamp timeFlag)
  intro cfg'
  have fits : ¬ 8 < frame.dlc := UInt8.not_lt.mpr (UInt8.le_iff_toNat_le.mpr short)
  have whole := take_ofFn (show (written frame).length ≤ 8 by omega)
  rw [length] at whole
  simp only [canalystReceive,canalystWrite,length,UInt8.ofNat_toNat,UInt32.toUInt32_toInt32,whole,
    sendable.not_over,fits]
  generalize copied (written frame) = data
  rfl

theorem vectorClassic (sendable : Sendable frame) (classic : frame.fd = false) (cfg : BusConfig) :
    ∃ event, vectorWrite Mode.classic cfg frame = some (.classic event) ∧
      ∀ reported, event.Reported reported → Returns frame fun cfg' => readOneCAN cfg' reported := by
  obtain ⟨length,short⟩ := sendable.classic_length classic
  refine ⟨⟨vectorEventTagTransmitMsg,0,frame.id,0,frame.dlc.toUInt16,
    Vector.ofFn fun i => (written frame).getD i 0⟩,?_,?_⟩
  · simp [vectorWrite,classic,length,Mode.classic,Mode.fd]
  · intro reported kept
    apply sendable.returns_classic classic
      (if reported.flags &&& vectorCanMsgFlagTXCompleted ≠ 0 then .transmit else .receive)
      (reported.timeStamp / 1000)
    intro cfg'
    have fits : ¬ 8 < frame.dlc := UInt8.not_lt.mpr (UInt8.le_iff_toNat_le.mpr short)
    have whole := take_ofFn (show (written frame).length ≤ 8 by omega)
    have len : dlcLen frame.dlc = (written frame).length := sendable.length_written.symm
    simp only [readOneCAN,kept.tag,kept.id,kept.plain,kept.dlc,kept.data,UInt8.toUInt8_toUInt16,
      sendable.id_low,sendable.id_high,sendable.not_over,fits,len,whole]
    rfl

/-- What is read of flags that keep two of those of the frame. -/
theorem vectorFD_flags (sendable : Sendable frame) {sent flags : UInt32}
    (made : sent = if frame.fd then (if frame.brs then
      vectorCanFdTxFlagEDL ||| vectorCanFdTxFlagBRS else vectorCanFdTxFlagEDL) else 0)
    (edl : flags &&& vectorCanFdRxFlagEDL = sent &&& vectorCanFdTxFlagEDL)
    (brs : flags &&& vectorCanFdRxFlagBRS = sent &&& vectorCanFdTxFlagBRS) :
    (flags &&& vectorCanFdRxFlagEDL != 0) = frame.fd ∧
      (flags &&& vectorCanFdRxFlagBRS != 0) = frame.brs := by
  have only := sendable.fd_and_brs
  rw [edl,brs,made]
  generalize frame.fd = fd at only ⊢
  generalize frame.brs = brs at only ⊢
  cases fd with
  | false =>
    cases brs with
    | false => decide
    | true => contradiction
  | true => cases brs <;> decide

theorem vectorFD (sendable : Sendable frame) {cfg : BusConfig} (switched : cfg.brs = frame.brs) :
    ∃ event, vectorWrite Mode.fd cfg frame = some (.fd event) ∧
      ∀ reported, event.Reported reported → Returns frame fun cfg' => readOneCanFD cfg' reported := by
  have whole := take_ofFn (show (written frame).length ≤ 64 by
    rw [sendable.length_written]
    exact sendable.row.limit)
  have len : dlcLen frame.dlc = (written frame).length := sendable.length_written.symm
  refine ⟨⟨vectorCanFdTxTag,0xFFFF,frame.id,if frame.fd then (if cfg.brs then
    vectorCanFdTxFlagEDL ||| vectorCanFdTxFlagBRS else vectorCanFdTxFlagEDL) else 0,frame.dlc,
    copied (written frame)⟩,?_,?_⟩
  · simp only [vectorWrite,sendable.dlc_written,UInt32.toUInt32_toInt32]
    cases frame.fd
    · rfl
    · rfl
  · intro reported kept
    refine ⟨⟨if reported.tag = vectorCanFdTagTxOK then .transmit else .receive,frame.id,frame.dlc,
      copied (written frame),frame.fd,frame.brs,false,reported.timeStamp / 1000⟩,
      fun cfg' => ?_,rfl,rfl,rfl,rfl,sendable.payload_eq rfl rfl rfl⟩
    have known : ¬ (reported.tag ≠ vectorCanFdTagRxOK ∧ reported.tag ≠ vectorCanFdTagTxOK) := by
      simpa [or_iff_not_imp_left] using kept.tag
    have taken : (copied (written frame)).toList.take (dlcLen frame.dlc) = written frame := by
      rw [len]
      exact whole
    obtain ⟨fd,brs⟩ := sendable.vectorFD_flags (by rw [switched]) kept.edl kept.brs
    simp only [readOneCanFD,known,kept.canID,kept.dlc,kept.data,sendable.id_low,sendable.id_high,
      sendable.not_over,taken,fd,brs,sendable.fd_and_brs]
    rfl

theorem toomossClassic (sendable : Sendable frame) (classic : frame.fd = false) (channel : UInt8) :
    ∃ record, toomossWriteClassic true channel frame = .ok record ∧
      ∀ reported, record.Reported reported → Returns frame fun cfg' => toomossReceiveClassic cfg' reported := by
  obtain ⟨length,short⟩ := sendable.classic_length classic
  refine ⟨⟨frame.id.toInt32,0,(channel <<< 5) &&& toomossClassicFlagChannel,0,frame.dlc,
    Vector.ofFn fun i => (written frame).getD i 0,0⟩,?_,?_⟩
  · have fits : ¬ 8 < frame.dlc.toNat := by omega
    simp [toomossWriteClassic,encodeToomossClassicFlags,classic,length,fits,sendable.id_own]
  · intro reported kept
    apply sendable.returns_classic classic
      (if reported.remoteFlag &&& 0x80 != 0 then .transmit else .receive)
      (toomossTimestampUS reported.timeStampHigh reported.timeStamp 100)
    intro cfg'
    have fits : ¬ 8 < frame.dlc.toNat := by omega
    have whole := take_ofFn (show (written frame).length ≤ 8 by omega)
    rw [length] at whole
    have len : lengthToDLC frame.dlc.toNat = frame.dlc := by
      rw [← length]
      exact sendable.dlc_written
    obtain ⟨plain,short⟩ := encodeToomossClassicFlags_plain channel
    have flags : decodeToomossClassicFlags reported.remoteFlag reported.externFlag =
        (false,false,false,reported.remoteFlag &&& 0x80 != 0) := by
      have remote := kept.remote.trans plain
      have extended := kept.extended.trans short
      simp [decodeToomossClassicFlags,remote,extended,kept.error]
    simp only [toomossReceiveClassic,flags,kept.id,kept.dataLen,kept.data,fits,whole,len,
      UInt32.toUInt32_toInt32,sendable.id_own,Bool.false_eq_true,if_false]

end Sendable

/-- For every frame that `Send` accepts, Vector fills in an FD event that is read back as the same
frame, whether as an echo or by a peer. The paths for classic frames refuse FD frames and do the same
for all others. -/
theorem transmit_inverse {frame : Frame} (accepted : Bus.checkSend frame = .ok ()) (cfg : BusConfig)
    (timestamp : PcanTimestamp) (channel timeFlag : UInt8) (timeStamp : UInt32) :
    let cfg := { cfg with brs := frame.brs }
    (∃ event, vectorWrite Mode.fd cfg frame = some (.fd event) ∧
      ∀ reported, event.Reported reported → Returns frame fun cfg' => readOneCanFD cfg' reported) ∧
    if frame.fd then
      vectorWrite Mode.classic cfg frame = none ∧ pcanWrite Mode.classic cfg frame = none ∧
        toomossWriteClassic true channel frame = .error .fdFrame
    else
      (∃ event, vectorWrite Mode.classic cfg frame = some (.classic event) ∧
        ∀ reported, event.Reported reported → Returns frame fun cfg' => readOneCAN cfg' reported) ∧
      (∃ record, pcanWrite Mode.classic cfg frame = some (.classic record) ∧
        Returns frame fun cfg' => enqueueMessage cfg' record.id record.len record.data.toList
          record.msgType (pcanClassicTimestampUS timestamp)) ∧
      (∃ record, toomossWriteClassic true channel frame = .ok record ∧
        ∀ reported, record.Reported reported →
          Returns frame fun cfg' => toomossReceiveClassic cfg' reported) ∧
      Returns frame fun _ =>
        canalystReceive { canalystWrite frame with timeStamp := timeStamp, timeFlag := timeFlag } := by
  have sendable := checkSend_sendable accepted
  refine ⟨sendable.vectorFD rfl,?_⟩
  split_ifs with fd
  · refine ⟨?_,?_,?_⟩
    · simp [vectorWrite,fd,Mode.classic,Mode.fd]
    · simp [pcanWrite,fd,Mode.classic,Mode.fd]
    · simp [toomossWriteClassic,fd]
  · have classic : frame.fd = false := by simpa using fd
    exact ⟨sendable.vectorClassic classic _,sendable.pcanClassic classic _ timestamp,
      sendable.toomossClassic classic channel,sendable.canalyst classic timeStamp timeFlag⟩

/-- Three bytes on a channel that has its echo, with the classic paths. -/
def shortFrame : Frame := ⟨.transmit,0x7E8,3,copied [0x02,0x7E,0x00],false,false,false,0⟩

def shortEcho : CANMsg := ⟨0x7E8,250,0xA0,0,3,Vector.ofFn fun i => [0x02,0x7E,0x00].getD i 0,0⟩

theorem transmit_inverse_echoed :
    Returns shortFrame fun cfg' => toomossReceiveClassic cfg' shortEcho := by
  obtain ⟨_,_,_,⟨record,made,returns⟩,_⟩ := @transmit_inverse shortFrame (by decide)
    (BusConfig.default Mode.classic 0) ⟨0,0,0⟩ 1 0 250
  cases made
  exact returns shortEcho ⟨by decide,by decide,by decide,by decide,by decide,by decide⟩

end Canbuskit.Driver
