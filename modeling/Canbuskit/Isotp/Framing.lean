import Canbuskit.Isotp.Types

/-! ISO-TP frame encoders and `ParseFrame`. The encoders append no fill; the link and
the padding option do, so decoding is stated for an encoded frame followed by an
arbitrary fill. -/
namespace Canbuskit.Isotp
open Can

def pciTypeSingleFrame : UInt8 := 0x00
def pciTypeFirstFrame : UInt8 := 0x10
def pciTypeConsecutiveFrame : UInt8 := 0x20
def pciTypeFlowControl : UInt8 := 0x30

/-- The conversion `byte(x)` keeps the low eight bits of a two's complement integer. -/
def byteOf (value : Int) : UInt8 := UInt8.ofNat (value % 256).toNat

/-- `binary.BigEndian.PutUint32` of `uint32(value)`. -/
def putUint32 (value : Int) : Bytes :=
  [byteOf (value / 2^24),byteOf (value / 2^16),byteOf (value / 2^8),byteOf value]

/-- `binary.BigEndian.Uint32`. -/
def readUint32 (b0 b1 b2 b3 : UInt8) : Nat :=
  b0.toNat * 2^24 + b1.toNat * 2^16 + b2.toNat * 2^8 + b3.toNat

inductive EncodeError where
  | totalNotPositive (total : Int)
  | totalExceeds32Bit (total : Int)
  | totalNotAboveChunk (total : Int) (chunk : Nat)
  | singleFrameLength (length maximum : Int)
  | firstFrameLength (length maximum : Int)
  | consecutiveFrameLength (length : Nat) (maximum : Int)
  | sequenceNumber
  | flowStatus (status : FlowStatus)
  | blockSize (size : Int)
  | stMin (raw : UInt8)
  deriving DecidableEq

def frameDataLength (isFD : Bool) : Int := if isFD then 64 else 8

def createFlowControlPayloadRaw (status : FlowStatus) (blockSize stMin : UInt8) : Bytes :=
  [pciTypeFlowControl ||| status,blockSize,stMin]

def createFlowControlPayload (status : FlowStatus) (blockSize stMinMs : Int) : Bytes :=
  let stMinByte : UInt8 := if 0 ≤ stMinMs ∧ stMinMs ≤ 127 then byteOf stMinMs else 0x7F
  createFlowControlPayloadRaw status (byteOf blockSize) stMinByte

def createSingleFramePayload (data : Bytes) (maxDataLength : Int) : Except EncodeError Bytes :=
  let pci : Bytes :=
    if data.length = 0 ∧ 8 < maxDataLength then [pciTypeSingleFrame,0]
    else if data.length ≤ 7 then [pciTypeSingleFrame ||| UInt8.ofNat data.length]
    else [pciTypeSingleFrame,UInt8.ofNat data.length]
  let totalLength : Int := pci.length + data.length
  if maxDataLength < totalLength then .error (.singleFrameLength totalLength maxDataLength)
  else .ok (pci ++ data)

def firstFramePCI (totalMessageSize : Int) : Bytes :=
  -- `>> 8 & 0x0F` of a two's complement integer is floor division and remainder
  if totalMessageSize ≤ 4095 then
    [pciTypeFirstFrame ||| byteOf (totalMessageSize / 2^8 % 16),byteOf totalMessageSize]
  else pciTypeFirstFrame :: 0x00 :: putUint32 totalMessageSize

def createFirstFramePayload (firstChunk : Bytes) (totalMessageSize maxDataLength : Int) :
    Except EncodeError Bytes :=
  let pci := firstFramePCI totalMessageSize
  let totalLength : Int := pci.length + firstChunk.length
  if maxDataLength < totalLength then .error (.firstFrameLength totalLength maxDataLength)
  else .ok (pci ++ firstChunk)

def createConsecutiveFramePayload (dataChunk : Bytes) (sequenceNumber : Int) :
    Except EncodeError Bytes :=
  if sequenceNumber < 0 ∨ 15 < sequenceNumber then .error .sequenceNumber
  else .ok ((pciTypeConsecutiveFrame ||| byteOf sequenceNumber) :: dataChunk)

def encodeSingleFrame (data : Bytes) (isFD : Bool) : Except EncodeError Bytes :=
  createSingleFramePayload data (frameDataLength isFD)

def encodeFirstFrame (firstChunk : Bytes) (totalMessageSize : Int) (isFD : Bool) :
    Except EncodeError Bytes :=
  if totalMessageSize ≤ 0 then .error (.totalNotPositive totalMessageSize)
  else if 2^32 - 1 < totalMessageSize then .error (.totalExceeds32Bit totalMessageSize)
  else if totalMessageSize ≤ firstChunk.length then
    .error (.totalNotAboveChunk totalMessageSize firstChunk.length)
  else createFirstFramePayload firstChunk totalMessageSize (frameDataLength isFD)

def encodeConsecutiveFrame (dataChunk : Bytes) (sequenceNumber : Int) (isFD : Bool) :
    Except EncodeError Bytes :=
  let maxChunkLength := frameDataLength isFD - 1
  if maxChunkLength < dataChunk.length then
    .error (.consecutiveFrameLength dataChunk.length maxChunkLength)
  else createConsecutiveFramePayload dataChunk sequenceNumber

def encodeFlowControlFrame (status : FlowStatus) (blockSize : Int) (stMin : UInt8) :
    Except EncodeError Bytes :=
  if FlowStatus.overflow < status then .error (.flowStatus status)
  else if blockSize < 0 ∨ 255 < blockSize then .error (.blockSize blockSize)
  else if 0x7F < stMin ∧ (stMin < 0xF1 ∨ 0xF9 < stMin) then .error (.stMin stMin)
  else .ok (createFlowControlPayloadRaw status (byteOf blockSize) stMin)

inductive PDU where
  | singleFrame (data : Bytes)
  | firstFrame (totalSize : Int) (data : Bytes)
  | consecutiveFrame (sequenceNumber : Int) (data : Bytes)
  | flowControlFrame (flowStatus : FlowStatus) (blockSize stMin : Int)
  deriving DecidableEq

inductive ParseError where
  | empty
  | escapedSingleShort
  | escapedSingleIncomplete
  | singleIncomplete
  | firstShort
  | longFirstShort
  | longFirstNotCanonical (total : Nat)
  | firstNotLonger (total data : Nat)
  | flowControlShort
  | flowStatus (status : FlowStatus)
  | unknownType (pciType : UInt8)
  deriving DecidableEq

def decodeSTmin (stMinByte : UInt8) : Int :=
  if stMinByte ≤ 0x7F then stMinByte.toNat * 1000000
  else if 0xF1 ≤ stMinByte ∧ stMinByte ≤ 0xF9 then (stMinByte - 0xF0).toNat * 100 * 1000
  else 127 * 1000000

def parseSingleFrame (payload : Bytes) (pci : UInt8) : Except ParseError PDU :=
  let length := (pci &&& 0x0F).toNat
  if length = 0 then
    if payload.length = 1 then .ok (.singleFrame [])
    else match payload with
      | _ :: escaped :: data =>
        if data.length < escaped.toNat then .error .escapedSingleIncomplete
        else .ok (.singleFrame (data.take escaped.toNat))
      | _ => .error .escapedSingleShort
  else if payload.length - 1 < length then .error .singleIncomplete
  else .ok (.singleFrame ((payload.drop 1).take length))

/-- The declared total of a First Frame and the bytes after its header. -/
def parseFirstFrameHeader (payload : Bytes) : Except ParseError (Nat × Bytes) :=
  match payload with
  | high :: low :: rest =>
    let totalSize := (high &&& 0x0F).toNat <<< 8 ||| low.toNat
    if totalSize = 0 then
      match rest with
      | b0 :: b1 :: b2 :: b3 :: data =>
        let totalSize := readUint32 b0 b1 b2 b3
        if totalSize ≤ 4095 then .error (.longFirstNotCanonical totalSize)
        else .ok (totalSize,data)
      | _ => .error .longFirstShort
    else .ok (totalSize,rest)
  | _ => .error .firstShort

def parseFirstFrame (payload : Bytes) : Except ParseError PDU :=
  match parseFirstFrameHeader payload with
  | .error error => .error error
  | .ok (totalSize,data) =>
    if totalSize ≤ data.length then .error (.firstNotLonger totalSize data.length)
    else .ok (.firstFrame totalSize data)

def parseFlowControlFrame (payload : Bytes) : Except ParseError PDU :=
  match payload with
  | pci :: blockSize :: stMin :: _ =>
    let status : FlowStatus := pci &&& 0x0F
    if FlowStatus.overflow < status then .error (.flowStatus status)
    else .ok (.flowControlFrame status blockSize.toNat (decodeSTmin stMin))
  | _ => .error .flowControlShort

def parseFrame (payload : Bytes) : Except ParseError PDU :=
  match payload with
  | [] => .error .empty
  | pci :: data =>
    let pciType := pci &&& 0xF0
    if pciType = 0x00 then parseSingleFrame payload pci
    else if pciType = 0x10 then parseFirstFrame payload
    else if pciType = 0x20 then .ok (.consecutiveFrame (pci &&& 0x0F).toNat data)
    else if pciType = 0x30 then parseFlowControlFrame payload
    else .error (.unknownType pciType)

end Canbuskit.Isotp
