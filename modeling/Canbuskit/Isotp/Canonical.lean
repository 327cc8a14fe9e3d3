import Canbuskit.Isotp.Codec

/-! The codec as a whole. What the encoders accept is read back as it was given, so no byte
string encodes two inputs; and what `ParseFrame` accepts is the encoding of what it returns,
up to the fill after a Single Frame or a Flow Control frame. -/
namespace Canbuskit.Isotp
open Can

/-- An argument of one of the four exported encoders. -/
inductive EncodeInput where
  | single (data : Bytes)
  | first (firstChunk : Bytes) (totalMessageSize : Int)
  | consecutive (dataChunk : Bytes) (sequenceNumber : Int)
  | flowControl (status : FlowStatus) (blockSize : Int) (stMin : UInt8)
  deriving DecidableEq

namespace EncodeInput

def encode (isFD : Bool) : EncodeInput → Except EncodeError Bytes
  | single data => encodeSingleFrame data isFD
  | first firstChunk totalMessageSize => encodeFirstFrame firstChunk totalMessageSize isFD
  | consecutive dataChunk sequenceNumber => encodeConsecutiveFrame dataChunk sequenceNumber isFD
  | flowControl status blockSize stMin => encodeFlowControlFrame status blockSize stMin

def pdu : EncodeInput → PDU
  | single data => .singleFrame data
  | first firstChunk totalMessageSize => .firstFrame totalMessageSize firstChunk
  | consecutive dataChunk sequenceNumber => .consecutiveFrame sequenceNumber dataChunk
  | flowControl status blockSize stMin => .flowControlFrame status blockSize (decodeSTmin stMin)

end EncodeInput

theorem frameDataLength_le (isFD : Bool) : frameDataLength isFD ≤ 64 := by
  cases isFD <;> simp [frameDataLength]

theorem encodeFlowControlFrame_ok {status : FlowStatus} {blockSize : Int} {stMin : UInt8}
    {bytes : Bytes} (encoded : encodeFlowControlFrame status blockSize stMin = .ok bytes) :
    status ≤ FlowStatus.overflow ∧ 0 ≤ blockSize ∧ blockSize ≤ 255 ∧
      bytes = createFlowControlPayloadRaw status (byteOf blockSize) stMin := by
  unfold encodeFlowControlFrame at encoded
  split_ifs at encoded with legal block
  exact ⟨UInt8.not_lt.mp legal,by omega,by omega,(Except.ok.inj encoded).symm⟩

theorem encodeFirstFrame_ok {firstChunk bytes : Bytes} {total : Int} {isFD : Bool}
    (encoded : encodeFirstFrame firstChunk total isFD = .ok bytes) :
    0 < total ∧ total < 2^32 ∧ firstChunk.length < total ∧
      createFirstFramePayload firstChunk total (frameDataLength isFD) = .ok bytes := by
  unfold encodeFirstFrame at encoded
  split_ifs at encoded
  exact ⟨by omega,by omega,by omega,encoded⟩

theorem encodeConsecutiveFrame_ok {dataChunk bytes : Bytes} {number : Int} {isFD : Bool}
    (encoded : encodeConsecutiveFrame dataChunk number isFD = .ok bytes) :
    createConsecutiveFramePayload dataChunk number = .ok bytes := by
  unfold encodeConsecutiveFrame at encoded
  dsimp only at encoded
  split_ifs at encoded
  exact encoded

theorem EncodeInput.parse_encode {input : EncodeInput} {isFD : Bool} {bytes : Bytes}
    (encoded : input.encode isFD = .ok bytes) : parseFrame bytes = .ok input.pdu := by
  rw [← List.append_nil bytes]
  cases input with
  | single data =>
    by_cases empty : data = []
    · subst empty
      rw [List.append_nil]
      exact parse_single_empty encoded
    · exact parse_single empty (frameDataLength_le isFD) encoded
  | first firstChunk total =>
    obtain ⟨positive,limit,longer,created⟩ := encodeFirstFrame_ok encoded
    have parsed : parseFrame (bytes ++ []) = .ok (.firstFrame total (firstChunk ++ [])) :=
      parse_first positive limit (by simpa using longer) created
    rwa [List.append_nil firstChunk] at parsed
  | consecutive dataChunk number =>
    have parsed : parseFrame (bytes ++ []) = .ok (.consecutiveFrame number (dataChunk ++ [])) :=
      parse_consecutive (encodeConsecutiveFrame_ok encoded)
    rwa [List.append_nil dataChunk] at parsed
  | flowControl status blockSize stMin =>
    obtain ⟨legal,low,high,rfl⟩ := encodeFlowControlFrame_ok encoded
    have back := byteOf_toNat blockSize
    rw [parse_flowControlRaw legal,EncodeInput.pdu]
    congr 2
    omega

/-- The parsed frame determines the input, but for the STmin byte, which is the third one. -/
theorem EncodeInput.encode_inj {input other : EncodeInput} {isFD wide : Bool} {bytes : Bytes}
    (left : input.encode isFD = .ok bytes) (right : other.encode wide = .ok bytes) : input = other := by
  have same : input.pdu = other.pdu :=
    Except.ok.inj ((parse_encode left).symm.trans (parse_encode right))
  cases input with
  | flowControl status blockSize stMin =>
    cases other with
    | flowControl otherStatus otherSize otherMin =>
      obtain ⟨_,_,_,shape⟩ := encodeFlowControlFrame_ok left
      obtain ⟨_,_,_,otherShape⟩ := encodeFlowControlFrame_ok right
      have third : stMin = otherMin := by
        have raw := shape.symm.trans otherShape
        simp only [createFlowControlPayloadRaw,List.cons.injEq] at raw
        exact raw.2.2.1
      simp only [pdu,PDU.flowControlFrame.injEq] at same
      rw [same.1,same.2.1,third]
    | _ => simp [pdu] at same
  | _ =>
    cases other <;> simp only [pdu,PDU.singleFrame.injEq,PDU.firstFrame.injEq,
      PDU.consecutiveFrame.injEq,reduceCtorEq] at same
    all_goals first | rw [same] | rw [same.1,same.2]

/-- Encoding and parsing are inverse for all four kinds of frames, and an encoding has one input. -/
theorem codec_round_trip :
    (∀ (input : EncodeInput) isFD bytes, input.encode isFD = .ok bytes →
      parseFrame bytes = .ok input.pdu) ∧
    ∀ (input other : EncodeInput) isFD wide bytes, input.encode isFD = .ok bytes →
      other.encode wide = .ok bytes → input = other :=
  ⟨fun _ _ _ encoded => EncodeInput.parse_encode encoded,
    fun _ _ _ _ _ left right => EncodeInput.encode_inj left right⟩

/-- The shortest message with a 32-bit length, and a payload encoded in both modes. -/
theorem codec_round_trip_long :
    parseFrame [0x10,0,0,0,0x10,0,7,8] = .ok (.firstFrame 4096 [7,8]) ∧
      EncodeInput.single [9] = .single [9] :=
  ⟨codec_round_trip.1 (.first [7,8] 4096) false _ rfl,
    codec_round_trip.2 _ _ false true [1,9] rfl rfl⟩

/-- A slice expression, which fails when it leaves the payload. -/
def slice (payload : Bytes) (low high : Nat) : Option Bytes :=
  if low ≤ high ∧ high ≤ payload.length then some ((payload.drop low).take (high - low)) else none

/-- The parsers with every index and slice expression of the source; `none` is a read out of
bounds. -/
def parseSingleFrameIndexed (payload : Bytes) (pci : UInt8) : Option (Except ParseError PDU) := do
  let length := (pci &&& 0x0F).toNat
  if length = 0 then
    if payload.length = 1 then return .ok (.singleFrame [])
    if payload.length < 2 then return .error .escapedSingleShort
    let escaped ← payload[1]?
    if payload.length - 2 < escaped.toNat then return .error .escapedSingleIncomplete
    return .ok (.singleFrame (← slice payload 2 (2 + escaped.toNat)))
  if payload.length - 1 < length then return .error .singleIncomplete
  return .ok (.singleFrame (← slice payload 1 (1 + length)))

def parseFirstFrameIndexed (payload : Bytes) : Option (Except ParseError PDU) := do
  if payload.length < 2 then return .error .firstShort
  let totalSize := ((← payload[0]?) &&& 0x0F).toNat <<< 8 ||| (← payload[1]?).toNat
  if totalSize = 0 then
    if payload.length < 6 then return .error .longFirstShort
    let totalSize := readUint32 (← payload[2]?) (← payload[3]?) (← payload[4]?) (← payload[5]?)
    if totalSize ≤ 4095 then return .error (.longFirstNotCanonical totalSize)
    if totalSize ≤ payload.length - 6 then
      return .error (.firstNotLonger totalSize (payload.length - 6))
    return .ok (.firstFrame totalSize (← slice payload 6 payload.length))
  if totalSize ≤ payload.length - 2 then
    return .error (.firstNotLonger totalSize (payload.length - 2))
  return .ok (.firstFrame totalSize (← slice payload 2 payload.length))

def parseFlowControlFrameIndexed (payload : Bytes) : Option (Except ParseError PDU) := do
  if payload.length < 3 then return .error .flowControlShort
  let status : FlowStatus := (← payload[0]?) &&& 0x0F
  if FlowStatus.overflow < status then return .error (.flowStatus status)
  return .ok (.flowControlFrame status (← payload[1]?).toNat (decodeSTmin (← payload[2]?)))

def parseFrameIndexed (payload : Bytes) : Option (Except ParseError PDU) := do
  if payload.length = 0 then return .error .empty
  let pci ← payload[0]?
  let pciType := pci &&& 0xF0
  if pciType = 0x00 then parseSingleFrameIndexed payload pci
  else if pciType = 0x10 then parseFirstFrameIndexed payload
  else if pciType = 0x20 then
    return .ok (.consecutiveFrame (pci &&& 0x0F).toNat (← slice payload 1 payload.length))
  else if pciType = 0x30 then parseFlowControlFrameIndexed payload
  else return .error (.unknownType pciType)

theorem slice_inside {payload : Bytes} {low length : Nat} (inside : low + length ≤ payload.length) :
    slice payload low (low + length) = some ((payload.drop low).take length) := by
  rw [slice,if_pos ⟨by omega,inside⟩,Nat.add_sub_cancel_left]

theorem slice_rest {payload : Bytes} {low : Nat} (inside : low ≤ payload.length) :
    slice payload low payload.length = some (payload.drop low) := by
  rw [slice,if_pos ⟨inside,Nat.le_refl _⟩,List.take_of_length_le (by simp)]

theorem parseSingleFrameIndexed_eq (pci : UInt8) (data : Bytes) :
    parseSingleFrameIndexed (pci :: data) pci = some (parseSingleFrame (pci :: data) pci) := by
  simp only [parseSingleFrameIndexed,parseSingleFrame,List.length_cons,Option.bind_eq_bind,Option.pure_def]
  by_cases escapes : (pci &&& 0x0F).toNat = 0
  · simp only [escapes,if_true]
    cases data with
    | nil => rfl
    | cons escaped data =>
      by_cases short : data.length < escaped.toNat
      · simp [short]
      · have read : slice (pci :: escaped :: data) 2 (2 + escaped.toNat) =
            some (data.take escaped.toNat) := slice_inside (by simp; omega)
        simp [short,read]
  · simp only [escapes,if_false]
    split
    · rfl
    · rw [slice_inside (by simp only [List.length_cons]; omega)]
      rfl

theorem header_short {high low : UInt8} {rest : Bytes}
    (short : (high &&& 0x0F).toNat <<< 8 ||| low.toNat ≠ 0) :
    parseFirstFrameHeader (high :: low :: rest) =
      .ok ((high &&& 0x0F).toNat <<< 8 ||| low.toNat,rest) := by
  simp only [parseFirstFrameHeader,if_neg short]

theorem header_long {high low b0 b1 b2 b3 : UInt8} {data : Bytes}
    (long : (high &&& 0x0F).toNat <<< 8 ||| low.toNat = 0) :
    parseFirstFrameHeader (high :: low :: b0 :: b1 :: b2 :: b3 :: data) =
      if readUint32 b0 b1 b2 b3 ≤ 4095 then .error (.longFirstNotCanonical (readUint32 b0 b1 b2 b3))
      else .ok (readUint32 b0 b1 b2 b3,data) := by
  simp only [parseFirstFrameHeader,if_pos long]

theorem four_bytes {rest : Bytes} (complete : ¬ rest.length < 4) :
    ∃ b0 b1 b2 b3 data, rest = b0 :: b1 :: b2 :: b3 :: data := by
  rcases rest with _ | ⟨b0,_ | ⟨b1,_ | ⟨b2,_ | ⟨b3,data⟩⟩⟩⟩
  · simp at complete
  · simp at complete
  · simp at complete
  · simp at complete
  · exact ⟨b0,b1,b2,b3,data,rfl⟩

theorem header_incomplete {high low : UInt8} {rest : Bytes}
    (long : (high &&& 0x0F).toNat <<< 8 ||| low.toNat = 0) (incomplete : rest.length < 4) :
    parseFirstFrameHeader (high :: low :: rest) = .error .longFirstShort := by
  simp only [parseFirstFrameHeader,if_pos long]
  rcases rest with _ | ⟨_,_ | ⟨_,_ | ⟨_,_ | _⟩⟩⟩
  · rfl
  · rfl
  · rfl
  · rfl
  · simp only [List.length_cons] at incomplete
    omega

theorem parseFirstFrameIndexed_eq (high : UInt8) (data : Bytes) :
    parseFirstFrameIndexed (high :: data) = some (parseFirstFrame (high :: data)) := by
  have first : (high :: data)[0]? = some high := rfl
  cases data with
  | nil => rfl
  | cons low rest =>
    have second : (high :: low :: rest)[1]? = some low := rfl
    simp only [parseFirstFrameIndexed,parseFirstFrame,first,second,Option.bind_eq_bind,Option.bind_some,
      Option.pure_def]
    rw [if_neg (by simp)]
    by_cases long : (high &&& 0x0F).toNat <<< 8 ||| low.toNat = 0
    · rw [if_pos long]
      by_cases incomplete : rest.length < 4
      · rw [if_pos (by simp only [List.length_cons]; omega),header_incomplete long incomplete]
      · obtain ⟨b0,b1,b2,b3,data,rfl⟩ := four_bytes incomplete
        have third : (high :: low :: b0 :: b1 :: b2 :: b3 :: data)[2]? = some b0 := rfl
        have fourth : (high :: low :: b0 :: b1 :: b2 :: b3 :: data)[3]? = some b1 := rfl
        have fifth : (high :: low :: b0 :: b1 :: b2 :: b3 :: data)[4]? = some b2 := rfl
        have sixth : (high :: low :: b0 :: b1 :: b2 :: b3 :: data)[5]? = some b3 := rfl
        have size : (high :: low :: b0 :: b1 :: b2 :: b3 :: data).length - 6 = data.length := rfl
        rw [if_neg (by simp),third,Option.bind_some,fourth,Option.bind_some,fifth,Option.bind_some,sixth,
          Option.bind_some,header_long long,slice_rest (by simp),size]
        generalize readUint32 b0 b1 b2 b3 = longSize
        by_cases canonical : longSize ≤ 4095
        · simp only [canonical,if_true]
        · by_cases proper : longSize ≤ data.length <;> simp [canonical,proper]
    · rw [if_neg long,header_short long,slice_rest (by simp)]
      generalize (high &&& 0x0F).toNat <<< 8 ||| low.toNat = totalSize
      by_cases proper : totalSize ≤ rest.length <;> simp [proper]

theorem parseFlowControlFrameIndexed_eq (payload : Bytes) :
    parseFlowControlFrameIndexed payload = some (parseFlowControlFrame payload) := by
  match payload with
  | [] | [_] | [_,_] => simp [parseFlowControlFrameIndexed,parseFlowControlFrame]
  | pci :: blockSize :: stMin :: rest =>
    by_cases legal : FlowStatus.overflow < pci &&& 0x0F <;>
      simp [parseFlowControlFrameIndexed,parseFlowControlFrame,legal]

theorem parseFrameIndexed_eq (payload : Bytes) :
    parseFrameIndexed payload = some (parseFrame payload) := by
  cases payload with
  | nil => rfl
  | cons pci data =>
    have head : (pci :: data)[0]? = some pci := rfl
    have rest : slice (pci :: data) 1 (pci :: data).length = some data := slice_rest (by simp)
    simp only [parseFrameIndexed,parseFrame,head,rest,Option.bind_eq_bind,Option.bind_some,
      Option.pure_def,parseSingleFrameIndexed_eq,parseFirstFrameIndexed_eq,parseFlowControlFrameIndexed_eq]
    rw [if_neg (by simp)]
    split_ifs <;> rfl

private theorem nibbleTable : ∀ n : Fin 256,
    (UInt8.ofNat n.val &&& 0xF0) ||| (UInt8.ofNat n.val &&& 0x0F) = UInt8.ofNat n.val ∧
      (UInt8.ofNat n.val &&& 0x0F).toNat < 16 := by
  decide +kernel

theorem pci_join {pci kind : UInt8} (same : pci &&& 0xF0 = kind) :
    kind ||| (pci &&& 0x0F) = pci ∧ (pci &&& 0x0F).toNat < 16 := by
  have table := nibbleTable ⟨pci.toNat,pci.toNat_lt⟩
  simp only [UInt8.ofNat_toNat] at table
  exact ⟨same ▸ table.1,table.2⟩

theorem byteOf_eq {value : Int} {byte : UInt8} (same : value % 256 = byte.toNat) :
    byteOf value = byte := by
  rw [byteOf,same,Int.toNat_natCast,UInt8.ofNat_toNat]

theorem byteOf_ofNat (byte : UInt8) : byteOf byte.toNat = byte := by
  have bound := byte.toNat_lt
  exact byteOf_eq (by omega)

theorem putUint32_read (b0 b1 b2 b3 : UInt8) :
    putUint32 (readUint32 b0 b1 b2 b3) = [b0,b1,b2,b3] := by
  have bound0 := b0.toNat_lt
  have bound1 := b1.toNat_lt
  have bound2 := b2.toNat_lt
  have bound3 := b3.toNat_lt
  simp only [putUint32,readUint32]
  rw [@byteOf_eq _ b0 (by omega),@byteOf_eq _ b1 (by omega),@byteOf_eq _ b2 (by omega),
    @byteOf_eq _ b3 (by omega)]

theorem readUint32_lt (b0 b1 b2 b3 : UInt8) : readUint32 b0 b1 b2 b3 < 2^32 := by
  have bound0 := b0.toNat_lt
  have bound1 := b1.toNat_lt
  have bound2 := b2.toNat_lt
  have bound3 := b3.toNat_lt
  unfold readUint32
  omega

theorem parseFirstFrameHeader_ok {payload data : Bytes} {total : Nat} {pci : UInt8}
    (kind : ∃ rest, payload = pci :: rest) (first : pci &&& 0xF0 = 0x10)
    (parsed : parseFirstFrameHeader payload = .ok (total,data)) :
    payload = firstFramePCI total ++ data ∧ 0 < total ∧ total < 2^32 := by
  obtain ⟨rest,rfl⟩ := kind
  obtain ⟨joined,nibble⟩ := pci_join first
  cases rest with
  | nil => simp [parseFirstFrameHeader] at parsed
  | cons low rest =>
    have lowBound := low.toNat_lt
    have shifted : (pci &&& 0x0F).toNat <<< 8 ||| low.toNat =
        (pci &&& 0x0F).toNat * 256 + low.toNat := by
      rw [← Nat.shiftLeft_add_eq_or_of_lt (by omega),Nat.shiftLeft_eq]
    by_cases long : (pci &&& 0x0F).toNat <<< 8 ||| low.toNat = 0
    · rw [shifted] at long
      have zero : pci &&& 0x0F = 0 := UInt8.toNat_inj.mp (by simp only [UInt8.toNat_zero]; omega)
      have lowZero : low = 0 := UInt8.toNat_inj.mp (by simp only [UInt8.toNat_zero]; omega)
      have pciFirst : pci = pciTypeFirstFrame := by rw [← joined,zero]; rfl
      by_cases incomplete : rest.length < 4
      · rw [header_incomplete (by rw [shifted]; exact long) incomplete] at parsed
        contradiction
      · obtain ⟨b0,b1,b2,b3,rest,rfl⟩ := four_bytes incomplete
        rw [header_long (by rw [shifted]; exact long)] at parsed
        split_ifs at parsed with canonical
        obtain ⟨rfl,rfl⟩ := Prod.mk.inj (Except.ok.inj parsed)
        refine ⟨?_,by omega,readUint32_lt b0 b1 b2 b3⟩
        rw [firstFramePCI,if_neg (by omega),putUint32_read,pciFirst,lowZero]
        rfl
    · rw [header_short long] at parsed
      obtain ⟨rfl,rfl⟩ := Prod.mk.inj (Except.ok.inj parsed)
      refine ⟨?_,Nat.pos_of_ne_zero long,by omega⟩
      rw [shifted,firstFramePCI,if_pos (by omega),@byteOf_eq _ (pci &&& 0x0F) (by omega),
        @byteOf_eq _ low (by omega)]
      exact congrArg (· :: low :: rest) joined.symm

/-- What a byte string is to the frame that `ParseFrame` reads in it. -/
def Canonical (isFD : Bool) (payload : Bytes) : PDU → Prop
  | .singleFrame data =>
    (∃ header fill, payload = header ++ data ++ fill ∧
      -- The length nibble is the length, and zero escapes to the next byte, if there is one.
      (payload = [0] ∧ header = [0] ∨
        0 < data.length ∧ data.length < 16 ∧ header = [UInt8.ofNat data.length] ∨
        data.length < 256 ∧ header = [0,UInt8.ofNat data.length])) ∧
      ∃ bytes, encodeSingleFrame data isFD = .ok bytes ∧ parseFrame bytes = .ok (.singleFrame data)
  | .firstFrame totalSize data =>
    data.length < totalSize ∧ encodeFirstFrame data totalSize isFD = .ok payload
  | .consecutiveFrame sequenceNumber data =>
    encodeConsecutiveFrame data sequenceNumber isFD = .ok payload
  | .flowControlFrame status blockSize stMin => ∃ raw, payload[2]? = some raw ∧ stMin = decodeSTmin raw ∧
    (raw ≤ 0x7F ∨ 0xF1 ≤ raw ∧ raw ≤ 0xF9 →
      encodeFlowControlFrame status blockSize raw = .ok (payload.take 3))

section accepted

variable {isFD : Bool} {payload : Bytes} {pdu : PDU}

theorem encodeSingleFrame_fits {data : Bytes}
    (fits : data.length + (if data.length ≤ 7 then 1 else 2) ≤ frameDataLength isFD) :
    ∃ bytes, encodeSingleFrame data isFD = .ok bytes := by
  unfold encodeSingleFrame createSingleFramePayload
  cases isFD <;> simp only [frameDataLength] at fits ⊢ <;> split_ifs at fits ⊢ <;>
    simp_all <;> omega

theorem parseSingleFrame_canonical {pci : UInt8} {rest : Bytes} (kind : pci &&& 0xF0 = 0x00)
    (fits : (pci :: rest).length ≤ frameDataLength isFD)
    (parsed : parseSingleFrame (pci :: rest) pci = .ok pdu) : Canonical isFD (pci :: rest) pdu := by
  obtain ⟨joined,nibble⟩ := pci_join kind
  have encodes {data : Bytes} (fits : data.length + (if data.length ≤ 7 then 1 else 2) ≤ frameDataLength isFD) :
      ∃ bytes, encodeSingleFrame data isFD = .ok bytes ∧ parseFrame bytes = .ok (.singleFrame data) := by
    obtain ⟨bytes,encoded⟩ := encodeSingleFrame_fits fits
    exact ⟨bytes,encoded,@EncodeInput.parse_encode (.single data) isFD bytes encoded⟩
  have nibblePCI : pci = UInt8.ofNat (pci &&& 0x0F).toNat := by
    rw [UInt8.ofNat_toNat]
    simpa using joined.symm
  simp only [List.length_cons] at fits
  simp only [parseSingleFrame] at parsed
  split_ifs at parsed with escapes alone short
  · cases Except.ok.inj parsed
    have empty : rest = [] := by simpa using alone
    subst empty
    rw [escapes] at nibblePCI
    rw [nibblePCI]
    refine ⟨⟨[0],[],rfl,.inl ⟨rfl,rfl⟩⟩,encodes ?_⟩
    simpa [frameDataLength] using fits
  · rw [escapes] at nibblePCI
    rw [nibblePCI]
    cases rest with
    | nil => simp at alone
    | cons escaped rest =>
      simp only at parsed
      split_ifs at parsed with incomplete
      cases Except.ok.inj parsed
      have bound := escaped.toNat_lt
      have size : (rest.take escaped.toNat).length = escaped.toNat := by
        rw [List.length_take]
        omega
      refine ⟨⟨[0,escaped],rest.drop escaped.toNat,by simp,.inr (.inr ⟨by omega,?_⟩)⟩,encodes ?_⟩
      · rw [size,UInt8.ofNat_toNat]
      · rw [size]
        simp only [List.length_cons] at fits
        split_ifs <;> omega
  · cases Except.ok.inj parsed
    have size : ((pci :: rest).drop 1 |>.take (pci &&& 0x0F).toNat).length = (pci &&& 0x0F).toNat := by
      simp only [List.length_take,List.length_drop]
      omega
    refine ⟨⟨[pci],rest.drop (pci &&& 0x0F).toNat,by simp,.inr (.inl ⟨by omega,by omega,?_⟩)⟩,
      encodes ?_⟩
    · rw [size,← nibblePCI]
    · rw [size]
      simp only [List.length_cons] at short
      cases isFD <;> simp only [frameDataLength,Bool.false_eq_true,if_true,if_false] at fits ⊢ <;>
        split_ifs <;> omega

theorem parseFrame_canonical (fits : payload.length ≤ frameDataLength isFD)
    (accepted : parseFrame payload = .ok pdu) : Canonical isFD payload pdu := by
  cases payload with
  | nil => contradiction
  | cons pci rest =>
    simp only [parseFrame] at accepted
    split_ifs at accepted with single first consecutive flow
    · exact parseSingleFrame_canonical single fits accepted
    · simp only [parseFirstFrame] at accepted
      split at accepted
      · contradiction
      · rename_i total data header
        split_ifs at accepted with proper
        cases Except.ok.inj accepted
        obtain ⟨shape,positive,limit⟩ := parseFirstFrameHeader_ok ⟨rest,rfl⟩ first header
        refine ⟨by omega,?_⟩
        have sizes := congrArg List.length shape
        simp only [List.length_append] at sizes
        rw [encodeFirstFrame,if_neg (by omega),if_neg (by omega),if_neg (by omega),
          createFirstFramePayload,shape]
        exact if_neg (by omega)
    · cases Except.ok.inj accepted
      obtain ⟨joined,nibble⟩ := pci_join consecutive
      have written : byteOf (pci &&& 0x0F).toNat = pci &&& 0x0F := byteOf_ofNat _
      simp only [List.length_cons] at fits
      simp only [Canonical]
      rw [encodeConsecutiveFrame,if_neg (by omega),createConsecutiveFramePayload,if_neg (by omega),written]
      exact congrArg (fun pci => Except.ok (pci :: rest)) joined
    · rcases rest with _ | ⟨blockSize,_ | ⟨stMin,rest⟩⟩
      · simp [parseFlowControlFrame] at accepted
      · simp [parseFlowControlFrame] at accepted
      · simp only [parseFlowControlFrame] at accepted
        split_ifs at accepted with legal
        cases Except.ok.inj accepted
        obtain ⟨joined,_⟩ := pci_join flow
        have bound := blockSize.toNat_lt
        refine ⟨stMin,rfl,rfl,?_⟩
        intro unreserved
        rw [encodeFlowControlFrame,if_neg legal,if_neg (by omega),if_neg ?_,byteOf_ofNat]
        · exact congrArg (fun pci => Except.ok [pci,blockSize,stMin]) joined
        · rintro ⟨above,outside⟩
          rcases unreserved with low | ⟨low,high⟩
          · exact UInt8.not_lt.mpr low above
          · exact outside.elim (UInt8.not_lt.mpr low) (UInt8.not_lt.mpr high)

end accepted

/-- `ParseFrame` reads nothing out of bounds, and what it accepts is canonical: it undoes the
encoders and loses at most the fill after a Single Frame or a Flow Control frame. -/
theorem parseFrame_lossless :
    (∀ payload, parseFrameIndexed payload = some (parseFrame payload)) ∧
    ∀ isFD payload pdu, payload.length ≤ frameDataLength isFD →
      parseFrame payload = .ok pdu → Canonical isFD payload pdu :=
  ⟨parseFrameIndexed_eq,fun _ _ _ fits accepted => parseFrame_canonical fits accepted⟩

/-- A Single Frame of a CAN FD frame whose length nibble is above seven. -/
theorem parseFrame_lossless_wide :
    Canonical true [0x09,1,2,3,4,5,6,7,8,9,0,0] (.singleFrame [1,2,3,4,5,6,7,8,9]) :=
  parseFrame_lossless.2 true _ _ (by decide) rfl

end Canbuskit.Isotp
