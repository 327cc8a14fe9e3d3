import Canbuskit.Isotp.Framing

/-! `ParseFrame` undoes the encoders, also when padding or the DLC rounding has put a
fill after the encoded bytes. Only a Single Frame and a Flow Control frame hide the
fill; a First or Consecutive Frame hands it on as data. -/
namespace Canbuskit.Isotp
open Can

private theorem pci_nibbles (value : Nat) (small : value < 16) :
    ∀ kind ∈ [pciTypeSingleFrame,pciTypeFirstFrame,pciTypeConsecutiveFrame,pciTypeFlowControl],
      (kind ||| UInt8.ofNat value) &&& 0xF0 = kind ∧
        ((kind ||| UInt8.ofNat value) &&& 0x0F).toNat = value := by
  have table : ∀ n : Fin 16,
      ∀ kind ∈ [pciTypeSingleFrame,pciTypeFirstFrame,pciTypeConsecutiveFrame,pciTypeFlowControl],
        (kind ||| UInt8.ofNat n.val) &&& 0xF0 = kind ∧
          ((kind ||| UInt8.ofNat n.val) &&& 0x0F).toNat = n.val := by
    decide +kernel
  exact table ⟨value,small⟩

theorem byteOf_toNat (value : Int) : ((byteOf value).toNat : Int) = value % 256 := by
  have bound : (value % 256).toNat < 256 := by omega
  unfold byteOf
  rw [UInt8.toNat_ofNat_of_lt' bound]
  omega

theorem byteOf_small {value : Int} (nonnegative : 0 ≤ value) (bound : value < 256) :
    byteOf value = UInt8.ofNat value.toNat := by
  unfold byteOf
  rw [Int.emod_eq_of_lt nonnegative bound]

theorem readUint32_put {value : Int} (nonnegative : 0 ≤ value) (bound : value < 2^32) :
    (readUint32 (byteOf (value / 2^24)) (byteOf (value / 2^16)) (byteOf (value / 2^8))
      (byteOf value) : Int) = value := by
  have b0 := byteOf_toNat (value / 2^24)
  have b1 := byteOf_toNat (value / 2^16)
  have b2 := byteOf_toNat (value / 2^8)
  have b3 := byteOf_toNat value
  unfold readUint32
  omega

/-- A non-empty payload that the Single Frame encoder takes for a CAN or CAN FD frame is
read back whatever follows it. -/
theorem parse_single {data bytes fill : Bytes} {maxDataLength : Int} (nonempty : data ≠ [])
    (limit : maxDataLength ≤ 64) (encoded : createSingleFramePayload data maxDataLength = .ok bytes) :
    parseFrame (bytes ++ fill) = .ok (.singleFrame data) := by
  have positive : 0 < data.length := List.length_pos_iff.mpr nonempty
  have notEmpty : ¬ (data.length = 0 ∧ 8 < maxDataLength) := by omega
  by_cases short : data.length ≤ 7
  · simp only [createSingleFramePayload,notEmpty,short,if_false,if_true] at encoded
    split_ifs at encoded
    cases encoded
    obtain ⟨kind,length⟩ := pci_nibbles data.length (by omega) pciTypeSingleFrame (by simp)
    have kindZero : (pciTypeSingleFrame ||| UInt8.ofNat data.length) &&& 0xF0 = 0x00 := kind
    simp only [List.cons_append,List.nil_append,parseFrame,kindZero,if_true,parseSingleFrame,length]
    rw [if_neg (by omega),if_neg (by simp)]
    simp
  · simp only [createSingleFramePayload,notEmpty,short,if_false] at encoded
    split_ifs at encoded with long
    cases encoded
    have bound : data.length < 256 := by
      simp only [List.length_cons,List.length_nil] at long
      omega
    have escaped : (UInt8.ofNat data.length).toNat = data.length := UInt8.toNat_ofNat_of_lt' bound
    have zeroNibble : (pciTypeSingleFrame &&& 0x0F).toNat = 0 := rfl
    have kindZero : pciTypeSingleFrame &&& 0xF0 = 0x00 := rfl
    simp only [List.cons_append,List.nil_append,parseFrame,kindZero,if_true,parseSingleFrame,
      zeroNibble,escaped]
    rw [if_neg (by simp),if_neg (by simp)]
    simp

theorem parse_single_empty {bytes : Bytes} {maxDataLength : Int}
    (encoded : createSingleFramePayload [] maxDataLength = .ok bytes) :
    parseFrame bytes = .ok (.singleFrame []) := by
  simp only [createSingleFramePayload] at encoded
  split_ifs at encoded <;> (cases encoded; rfl)

/-- The First Frame encoder and parser agree on the 12-bit and the 32-bit length format.
The fill joins the first chunk, so it must still leave the frame shorter than the total. -/
theorem parse_first {chunk bytes fill : Bytes} {total maxDataLength : Int} (positive : 0 < total)
    (limit : total < 2^32) (longer : ((chunk ++ fill).length : Int) < total)
    (encoded : createFirstFramePayload chunk total maxDataLength = .ok bytes) :
    parseFrame (bytes ++ fill) = .ok (.firstFrame total (chunk ++ fill)) := by
  simp only [createFirstFramePayload] at encoded
  split_ifs at encoded
  cases encoded
  have header : parseFirstFrameHeader (firstFramePCI total ++ (chunk ++ fill)) =
      .ok (total.toNat,chunk ++ fill) := by
    by_cases short : total ≤ 4095
    · have high : byteOf (total / 2^8 % 16) = UInt8.ofNat (total / 2^8 % 16).toNat :=
        byteOf_small (by omega) (by omega)
      obtain ⟨_,nibble⟩ := pci_nibbles (total / 2^8 % 16).toNat (by omega) pciTypeFirstFrame (by simp)
      have low := byteOf_toNat total
      have lowBound := (byteOf total).toNat_lt
      have joined : (total / 2^8 % 16).toNat <<< 8 ||| (byteOf total).toNat = total.toNat := by
        rw [← Nat.shiftLeft_add_eq_or_of_lt (by omega)]
        omega
      simp only [firstFramePCI,short,if_true,List.cons_append,List.nil_append,
        parseFirstFrameHeader,high,nibble,joined]
      rw [if_neg (by omega)]
    · have nibble : (pciTypeFirstFrame &&& 0x0F).toNat = 0 := rfl
      have value := readUint32_put (by omega) limit
      simp only [firstFramePCI,short,if_false,putUint32,List.cons_append,List.nil_append,
        parseFirstFrameHeader,nibble]
      rw [if_pos (by rfl),if_neg (by omega)]
      congr 2
      omega
  have pci : ∃ low rest high, firstFramePCI total =
      (pciTypeFirstFrame ||| UInt8.ofNat high) :: low :: rest ∧ high < 16 := by
    by_cases short : total ≤ 4095
    · have high : byteOf (total / 2^8 % 16) = UInt8.ofNat (total / 2^8 % 16).toNat :=
        byteOf_small (by omega) (by omega)
      refine ⟨byteOf total,[],(total / 2^8 % 16).toNat,?_,by omega⟩
      simp only [firstFramePCI,short,if_true,high]
    · exact ⟨0,putUint32 total,0,by simp [firstFramePCI,short],by omega⟩
  obtain ⟨low,rest,high,shape,small⟩ := pci
  obtain ⟨kind,_⟩ := pci_nibbles high small pciTypeFirstFrame (by simp)
  have first : (pciTypeFirstFrame ||| UInt8.ofNat high) &&& 0xF0 = 0x10 := kind
  rw [List.append_assoc]
  have unfolded : parseFrame (firstFramePCI total ++ (chunk ++ fill)) =
      parseFirstFrame (firstFramePCI total ++ (chunk ++ fill)) := by
    rw [shape]
    simp only [List.cons_append,parseFrame,first]
    rfl
  rw [unfolded]
  simp only [parseFirstFrame,header]
  rw [if_neg (by omega)]
  congr 2
  omega

theorem parse_consecutive {chunk bytes fill : Bytes} {sequenceNumber : Int}
    (encoded : createConsecutiveFramePayload chunk sequenceNumber = .ok bytes) :
    parseFrame (bytes ++ fill) = .ok (.consecutiveFrame sequenceNumber (chunk ++ fill)) := by
  unfold createConsecutiveFramePayload at encoded
  split_ifs at encoded with range
  cases encoded
  rw [byteOf_small (by omega) (by omega)]
  obtain ⟨kind,nibble⟩ := pci_nibbles sequenceNumber.toNat (by omega) pciTypeConsecutiveFrame (by simp)
  have consecutive : (pciTypeConsecutiveFrame ||| UInt8.ofNat sequenceNumber.toNat) &&& 0xF0 = 0x20 :=
    kind
  simp only [List.cons_append,parseFrame,consecutive,nibble]
  rw [if_neg (by decide),if_neg (by decide),if_pos trivial]
  congr 2
  omega

private theorem decodeSTmin_milliseconds : ∀ value : Fin 128,
    decodeSTmin (UInt8.ofNat value.val) = value.val * 1000000 := by
  decide

theorem parse_flowControlRaw {status : FlowStatus} {blockSize stMin : UInt8} {fill : Bytes}
    (legal : status ≤ FlowStatus.overflow) :
    parseFrame (createFlowControlPayloadRaw status blockSize stMin ++ fill) =
      .ok (.flowControlFrame status blockSize.toNat (decodeSTmin stMin)) := by
  have small : status.toNat < 16 := by
    have := UInt8.le_iff_toNat_le.mp legal
    have two : FlowStatus.overflow.toNat = 2 := rfl
    omega
  obtain ⟨kind,nibble⟩ := pci_nibbles status.toNat small pciTypeFlowControl (by simp)
  rw [UInt8.ofNat_toNat] at kind nibble
  have flow : (pciTypeFlowControl ||| status) &&& 0xF0 = 0x30 := kind
  have statusBack : (pciTypeFlowControl ||| status) &&& 0x0F = status := UInt8.toNat_inj.mp nibble
  simp only [createFlowControlPayloadRaw,List.cons_append,parseFrame,flow,parseFlowControlFrame,statusBack]
  rw [if_neg (by decide),if_neg (by decide),if_neg (by decide),if_pos trivial,
    if_neg (UInt8.not_lt.mpr legal)]

theorem parse_flowControl {status : FlowStatus} {blockSize stMin : Int} {fill : Bytes}
    (legal : status ≤ FlowStatus.overflow) (block : 0 ≤ blockSize ∧ blockSize ≤ 255)
    (separation : 0 ≤ stMin ∧ stMin ≤ 127) :
    parseFrame (createFlowControlPayload status blockSize stMin ++ fill) =
      .ok (.flowControlFrame status blockSize (stMin * 1000000)) := by
  have blockBack := byteOf_toNat blockSize
  have separationBack : decodeSTmin (byteOf stMin) = stMin * 1000000 := by
    rw [byteOf_small (by omega) (by omega),
      decodeSTmin_milliseconds ⟨stMin.toNat,by omega⟩]
    simp only
    omega
  simp only [createFlowControlPayload,if_pos separation]
  rw [parse_flowControlRaw legal,separationBack]
  congr 2
  omega

theorem parseSingleFrame_kind {bytes : Bytes} {pci : UInt8} {pdu : PDU}
    (parsed : parseSingleFrame bytes pci = .ok pdu) : ∃ data, pdu = .singleFrame data := by
  unfold parseSingleFrame at parsed
  dsimp only at parsed
  split_ifs at parsed
  · exact ⟨_,(Except.ok.inj parsed).symm⟩
  · split at parsed
    · split_ifs at parsed
      exact ⟨_,(Except.ok.inj parsed).symm⟩
    · contradiction
  · exact ⟨_,(Except.ok.inj parsed).symm⟩

theorem parseFirstFrame_kind {bytes : Bytes} {pdu : PDU} (parsed : parseFirstFrame bytes = .ok pdu) :
    ∃ total data, pdu = .firstFrame total data := by
  unfold parseFirstFrame at parsed
  split at parsed
  · contradiction
  · split_ifs at parsed
    exact ⟨_,_,(Except.ok.inj parsed).symm⟩

theorem parse_flowControl_fill {bytes fill : Bytes} {status : FlowStatus} {blockSize stMin : Int}
    (parsed : parseFrame bytes = .ok (.flowControlFrame status blockSize stMin)) :
    parseFrame (bytes ++ fill) = .ok (.flowControlFrame status blockSize stMin) := by
  cases bytes with
  | nil => contradiction
  | cons pci data =>
    simp only [parseFrame,List.cons_append] at parsed ⊢
    split_ifs at parsed ⊢ with single first consecutive flow
    · obtain ⟨_,impossible⟩ := parseSingleFrame_kind parsed
      contradiction
    · obtain ⟨_,_,impossible⟩ := parseFirstFrame_kind parsed
      contradiction
    · cases Except.ok.inj parsed
    · match data, parsed with
      | blockByte :: stMinByte :: rest, parsed => exact parsed

end Canbuskit.Isotp
