import Canbuskit.Driver.Decoders
import Canbuskit.Driver.Bus

/-! The records that three of the backends fill in for a frame to transmit, and that the receive
conversion of the same backend reads the same frame out of them. Toomoss counts bytes where the
others count in DLCs, and each has flag bits of its own. -/
namespace Canbuskit.Driver
open Can

/-- The bytes that a frame's DLC stands for, as every `write` takes them. -/
def written (frame : Frame) : Bytes := frame.data.toList.take frame.dataLength

/-- The record of `write` in FD mode. USB2XXX expects a length in bytes. -/
def toomossWrite (cfg : BusConfig) (frame : Frame) : CANFDMsg :=
  let data := written frame
  let transmitLen := if frame.fd then dlcLen (lengthToDLC data.length) else data.length
  { id := frame.id.toInt32.toUInt32
    dlc := UInt8.ofNat transmitLen
    flags := if frame.fd then (if cfg.brs then 0x04 ||| 0x01 else 0x04) else 0
    timeStampHigh := 0
    timeStamp := 0
    data := copied data }

inductive PcanWritten where
  | classic (msg : PcanMsg)
  | fd (msg : PcanMsgFD)

def pcanMessageStandard : UInt8 := 0x00

/-- `none` is an error for the mode of the channel. -/
def pcanWrite (canType : Mode) (cfg : BusConfig) (frame : Frame) : Option PcanWritten :=
  let id := frame.id.toInt32.toUInt32
  let data := written frame
  if frame.fd then
    if canType ≠ Mode.fd then none
    else some (.fd {
      id := id
      msgType := if cfg.brs then pcanMessageFD ||| pcanMessageBRS else pcanMessageFD
      dlc := lengthToDLC data.length
      data := copied data })
  else if canType = Mode.fd then
    some (.fd {
      id := id
      msgType := pcanMessageStandard
      dlc := lengthToDLC data.length
      data := copied data })
  else if canType = Mode.classic then
    some (.classic {
      id := id
      msgType := pcanMessageStandard
      len := UInt8.ofNat data.length
      data := Vector.ofFn fun i => data.getD i 0 })
  else none

/-- The record with the channel that it goes out on. -/
def tsmasterWrite (applicationChannel : UInt8) (cfg : BusConfig) (frame : Frame) : UInt8 × TLIBCANFD :=
  let data := written frame
  let dlc := lengthToDLC data.length
  (applicationChannel,{
    properties := 1
    dlc := dlc
    fdProperties :=
      if frame.fd then
        (if cfg.brs then tsCANFDPropertyEDL ||| tsCANFDPropertyBRS else tsCANFDPropertyEDL)
      else 0
    identifier := frame.id.toInt32
    timeUs := 0
    data := copied (data.take (dlcLen dlc)) })

/-- The record for a classic frame, which is what the library takes; its send type is 0. -/
def canalystWrite (frame : Frame) : VCICanObj :=
  let data := written frame
  { id := frame.id.toInt32.toUInt32
    timeStamp := 0
    timeFlag := 0
    remoteFlag := 0
    externFlag := 0
    dataLen := UInt8.ofNat data.length
    data := Vector.ofFn fun i => data.getD i 0 }

/-- A receive conversion makes a frame of its record that carries what another one does, and
publishes it, or observes it where it is an echo and none is asked for. -/
def Returns (frame : Frame) (receive : BusConfig → Option Frame) : Prop :=
  ∃ received : Frame, (∀ cfg, receive cfg = publishReceived cfg received) ∧
    received.id = frame.id ∧ received.fd = frame.fd ∧ received.brs = frame.brs ∧
    received.dlc = frame.dlc ∧ received.payload = frame.payload

/-- What `Send` hands to a device. -/
structure Sendable (frame : Frame) : Prop where
  standard : frame.id ≤ 0x7FF
  legal : frame.dlc ≤ if frame.fd then 15 else 8
  switched : frame.brs = true → frame.fd = true

theorem checkSend_sendable {frame : Frame} (accepted : Bus.checkSend frame = .ok ()) :
    Sendable frame := by
  unfold Bus.checkSend at accepted
  split at accepted
  · cases accepted
  · rename_i short
    split at accepted
    · cases accepted
    · rename_i valid
      have id : frame.id ≤ 0x7FF := by
        unfold Frame.validate at valid
        split at valid
        · cases valid
        · have standard := ((validateFrame_iff frame _).mp valid).1
          simpa [maximumID,short] using standard
      obtain ⟨legal,switched⟩ := (validate_iff id (by simpa using short)).mp valid
      exact ⟨id,legal,switched⟩

namespace Sendable

variable {frame : Frame}

theorem dlc (sendable : Sendable frame) : frame.dlc ≤ 15 := by
  have legal := sendable.legal
  split at legal
  · exact legal
  · exact UInt8.le_trans legal (by decide)

theorem row (sendable : Sendable frame) : LegalDLC frame.dlc := legalDLC sendable.dlc

theorem length_written (sendable : Sendable frame) : (written frame).length = frame.dataLength := by
  have bound : frame.dataLength ≤ 64 := sendable.row.limit
  simp [written,bound]

theorem dlc_written (sendable : Sendable frame) : lengthToDLC (written frame).length = frame.dlc := by
  rw [sendable.length_written]
  exact sendable.row.coded

theorem validDataLength (sendable : Sendable frame) {other : Frame} (fd : other.fd = frame.fd)
    (dlc : other.dlc = frame.dlc) : other.validDataLength = some frame.dataLength := by
  unfold Frame.validDataLength
  rw [fd,dlc,Frame.dataLength,sendable.row.decoded]
  cases format : frame.fd with
  | true => simp [UInt8.not_lt.mpr sendable.dlc]
  | false =>
    have classic : frame.dlc ≤ 8 := by simpa [format] using sendable.legal
    simp [UInt8.not_lt.mpr classic]

theorem payload_eq (sendable : Sendable frame) {other : Frame} (fd : other.fd = frame.fd)
    (dlc : other.dlc = frame.dlc) (data : other.data = copied (written frame)) :
    other.payload = frame.payload := by
  have short : (written frame).length ≤ frame.dataLength := Nat.le_of_eq sendable.length_written
  rw [Frame.payload,Frame.payload,sendable.validDataLength fd dlc,
    sendable.validDataLength rfl rfl,data]
  dsimp only
  rw [copied,filled_take short sendable.row.limit,sendable.length_written,Nat.sub_self,
    List.replicate_zero,List.append_nil]
  rfl

theorem fd_and_brs (sendable : Sendable frame) : (frame.fd && frame.brs) = frame.brs := by
  cases brs : frame.brs with
  | true => rw [sendable.switched brs,Bool.and_true]
  | false => rw [Bool.and_false]

theorem id_and (sendable : Sendable frame) (mask : UInt32) :
    frame.id &&& mask = frame.id &&& (0x7FF &&& mask) := by
  have own : frame.id &&& 0x7FF = frame.id := by
    have bound : frame.id.toNat ≤ 2 ^ 11 - 1 := UInt32.le_iff_toNat_le.mp sendable.standard
    apply UInt32.toNat_inj.mp
    rw [UInt32.toNat_and]
    exact (Nat.and_two_pow_sub_one_eq_mod _ 11).trans (Nat.mod_eq_of_lt (by omega))
  rw [← UInt32.and_assoc,own]

theorem decodeToomossCANFDID_id (sendable : Sendable frame) :
    decodeToomossCANFDID frame.id = (frame.id,false,false) := by
  have own : frame.id &&& 0x1FFFFFFF = frame.id := by
    rw [sendable.id_and,show (0x7FF &&& 0x1FFFFFFF : UInt32) = 0x7FF &&& 0xFFFFFFFF by decide,
      ← sendable.id_and]
    exact UInt32.and_neg_one
  have remote : frame.id &&& 0x40000000 = 0 := by
    rw [sendable.id_and,show (0x7FF &&& 0x40000000 : UInt32) = 0 by decide,UInt32.and_zero]
  have extended : frame.id &&& 0x80000000 = 0 := by
    rw [sendable.id_and,show (0x7FF &&& 0x80000000 : UInt32) = 0 by decide,UInt32.and_zero]
  rw [decodeToomossCANFDID,own,remote,extended]
  rfl

theorem dataLength_fits (sendable : Sendable frame) :
    frame.dataLength ≤ if frame.fd then 64 else 8 := by
  cases format : frame.fd with
  | true => exact sendable.row.limit
  | false => exact sendable.row.short (by simpa [format] using sendable.legal)

theorem toomoss_length (sendable : Sendable frame) (cfg : BusConfig) :
    toomossDLCToDataLen (toomossWrite cfg frame).dlc frame.fd = frame.dataLength := by
  have fits := sendable.dataLength_fits
  have bytes : (toomossWrite cfg frame).dlc = UInt8.ofNat frame.dataLength := by
    simp only [toomossWrite,sendable.dlc_written]
    rw [sendable.length_written]
    exact congrArg UInt8.ofNat (ite_self _)
  have small : frame.dataLength < 2 ^ 8 := by split at fits <;> omega
  simp only [toomossDLCToDataLen,bytes,UInt8.toNat_ofNat',Nat.mod_eq_of_lt small]
  exact if_neg (Nat.not_lt.mpr fits)

theorem toomoss (sendable : Sendable frame) {cfg : BusConfig} (switched : cfg.brs = frame.brs) :
    Returns frame fun cfg' => toomossReceiveFD cfg' (toomossWrite cfg frame) := by
  have id : decodeToomossCANFDID (toomossWrite cfg frame).id = (frame.id,false,false) :=
    sendable.decodeToomossCANFDID_id
  have flags : decodeToomossCANFDFlags (toomossWrite cfg frame).flags =
      (frame.fd,frame.brs,false) := by
    have only := sendable.fd_and_brs
    simp only [decodeToomossCANFDFlags,toomossWrite,switched]
    generalize frame.fd = fd at only ⊢
    generalize frame.brs = brs at only ⊢
    cases fd <;> cases brs
    · rfl
    · cases only
    · rfl
    · rfl
  have low : ¬ 0x7FF < frame.id := UInt32.not_lt.mpr sendable.standard
  have coded : lengthToDLC frame.dataLength = frame.dlc := sendable.row.coded
  refine ⟨⟨.receive,frame.id,frame.dlc,copied (written frame),frame.fd,frame.brs,false,
    toomossTimestampUS 0 0 10⟩,fun cfg' => ?_,rfl,rfl,rfl,rfl,sendable.payload_eq rfl rfl rfl⟩
  simp only [toomossReceiveFD,id,flags,low,sendable.toomoss_length,coded,sendable.fd_and_brs,
    Bool.false_or,decide_false,Bool.false_eq_true,if_false]
  rfl

theorem pcan (sendable : Sendable frame) {cfg : BusConfig} (switched : cfg.brs = frame.brs)
    (timestampUS : UInt64) : ∃ record, pcanWrite Mode.fd cfg frame = some (.fd record) ∧
      Returns frame fun cfg' => enqueueMessage cfg' record.id record.dlc record.data.toList
        record.msgType timestampUS := by
  have low : ¬ 0x7FF < frame.id := UInt32.not_lt.mpr sendable.standard
  have whole : copied (copied (written frame)).toList = copied (written frame) := by
    ext i inside
    simp [copied]
  refine ⟨⟨frame.id,if frame.fd then (if cfg.brs then pcanMessageFD ||| pcanMessageBRS
    else pcanMessageFD) else pcanMessageStandard,frame.dlc,copied (written frame)⟩,?_,
    ⟨.receive,frame.id,frame.dlc,copied (written frame),frame.fd,frame.brs,false,timestampUS⟩,
    fun cfg' => ?_,rfl,rfl,rfl,rfl,sendable.payload_eq rfl rfl rfl⟩
  · simp only [pcanWrite,sendable.dlc_written,UInt32.toUInt32_toInt32]
    cases frame.fd
    · rfl
    · rfl
  · have only := sendable.fd_and_brs
    simp only [enqueueMessage,switched,low,or_false,whole]
    generalize copied (written frame) = data
    generalize frame.fd = fd at only ⊢
    generalize frame.brs = brs at only ⊢
    cases fd <;> cases brs
    · rfl
    · cases only
    · rfl
    · rfl

theorem tsmaster (sendable : Sendable frame) {cfg : BusConfig} (switched : cfg.brs = frame.brs)
    (applicationChannel : UInt8) :
    Returns frame fun cfg' => tsmasterReceive cfg' (tsmasterWrite applicationChannel cfg frame).2 := by
  have low : ¬ (frame.id.toInt32 < 0 ∨ 0x7FF < frame.id.toInt32) := by
    have bound : frame.id.toNat ≤ 0x7FF := UInt32.le_iff_toNat_le.mp sendable.standard
    have value : frame.id.toInt32.toInt = frame.id.toNat :=
      BitVec.toInt_eq_toNat_of_lt (x := frame.id.toBitVec) (by
        change 2 * frame.id.toNat < 2 ^ 32
        omega)
    rw [Int32.lt_iff_toInt_lt,Int32.lt_iff_toInt_lt,value]
    change ¬ ((frame.id.toNat : Int) < 0 ∨ (0x7FF : Int) < frame.id.toNat)
    omega
  have whole : (written frame).take (dlcLen frame.dlc) = written frame :=
    List.take_of_length_le (Nat.le_of_eq sendable.length_written)
  have legal : ¬ 15 < frame.dlc := UInt8.not_lt.mpr sendable.dlc
  refine ⟨⟨.transmit,frame.id,frame.dlc,copied (written frame),frame.fd,frame.brs,false,0⟩,
    fun cfg' => ?_,rfl,rfl,rfl,rfl,sendable.payload_eq rfl rfl rfl⟩
  have only := sendable.fd_and_brs
  simp only [tsmasterReceive,tsmasterWrite,low,if_false,sendable.dlc_written,legal,whole,switched]
  generalize copied (written frame) = data
  generalize frame.fd = fd at only ⊢
  generalize frame.brs = brs at only ⊢
  cases fd <;> cases brs
  · rfl
  · cases only
  · rfl
  · rfl

end Sendable

/-- For every frame that `Send` accepts, the record that `setBRS` and `write` fill in is converted
back to a frame with the same ID, flags, DLC and payload. -/
theorem write_read_inverse {frame : Frame} (accepted : Bus.checkSend frame = .ok ())
    (cfg : BusConfig) (timestampUS : UInt64) (applicationChannel : UInt8) :
    let cfg := { cfg with brs := frame.brs }
    (Returns frame fun cfg' => toomossReceiveFD cfg' (toomossWrite cfg frame)) ∧
    (∃ record, pcanWrite Mode.fd cfg frame = some (.fd record) ∧
      Returns frame fun cfg' => enqueueMessage cfg' record.id record.dlc record.data.toList
        record.msgType timestampUS) ∧
    Returns frame fun cfg' =>
      tsmasterReceive cfg' (tsmasterWrite applicationChannel cfg frame).2 := by
  have sendable := checkSend_sendable accepted
  exact ⟨sendable.toomoss rfl,sendable.pcan rfl timestampUS,sendable.tsmaster rfl applicationChannel⟩

/-- Twelve bytes with the bit rate switched. -/
def longFrame : Frame :=
  ⟨.transmit,0x123,9,copied [1,2,3,4,5,6,7,8,9,10,11,12],true,true,false,0⟩

theorem write_read_inverse_switched :
    ∃ record, pcanWrite Mode.fd { BusConfig.default Mode.fd 0 with brs := true } longFrame =
      some (.fd record) ∧
      Returns longFrame fun cfg' => enqueueMessage cfg' record.id record.dlc record.data.toList
        record.msgType 1000 :=
  (@write_read_inverse longFrame (by decide) (BusConfig.default Mode.fd 0) 1000 0).2.1

end Canbuskit.Driver
