import Mathlib.Algebra.Order.Ring.Int
import Mathlib.Data.List.Induction

/-! The platform-independent CAN types: frames, the DLC table and the construction
of a frame from a payload. `Vector UInt8 64` is the fixed data array, so a payload
shorter than its DLC length is filled with zeros by construction. -/
namespace Canbuskit.Can

abbrev Bytes := List UInt8

inductive Direction where
  | transmit
  | receive
  deriving DecidableEq, Repr

structure Frame where
  direction : Direction
  id : UInt32
  dlc : UInt8
  data : Vector UInt8 64
  fd : Bool
  brs : Bool
  extended : Bool
  timestampUS : UInt64
  deriving DecidableEq

structure FrameFlags where
  fd : Bool := false
  brs : Bool := false
  extended : Bool := false
  deriving DecidableEq

inductive FrameError where
  | idExceedsMaximum (id maxID : UInt32)
  | negativeLength
  | brsRequiresFD
  | lengthExceedsMaximum (length maximum : Int)
  | invalidDLC (dlc : UInt8)
  deriving DecidableEq

def validateFrame (frame : Frame) (payloadLength : Int) : Except FrameError Unit :=
  let maxID : UInt32 := if frame.extended then 0x1FFFFFFF else 0x7FF
  if maxID < frame.id then .error (.idExceedsMaximum frame.id maxID)
  else if payloadLength < 0 then .error .negativeLength
  else if !frame.fd && frame.brs then .error .brsRequiresFD
  else
    let maximum : Int := if frame.fd then 64 else 8
    if maximum < payloadLength then .error (.lengthExceedsMaximum payloadLength maximum)
    else .ok ()

def lengthToDLC (length : Int) : UInt8 :=
  if length ≤ 8 then (if length < 0 then 0 else UInt8.ofNat length.toNat)
  else if length ≤ 12 then 9
  else if length ≤ 16 then 10
  else if length ≤ 20 then 11
  else if length ≤ 24 then 12
  else if length ≤ 32 then 13
  else if length ≤ 48 then 14
  else 15

/-- `none` is the source's second result `false`. -/
def dlcToLength (dlc : UInt8) : Option Nat :=
  if dlc ≤ 8 then some dlc.toNat
  else if 15 < dlc then none
  else [12,16,20,24,32,48,64][dlc.toNat - 9]?

def newFrame (id : UInt32) (payload : Bytes) (flags : FrameFlags) : Except FrameError Frame :=
  let frame : Frame := ⟨.transmit,id,0,Vector.replicate 64 0,flags.fd,flags.brs,flags.extended,0⟩
  match validateFrame frame payload.length with
  | .error error => .error error
  | .ok () => .ok { frame with
      dlc := lengthToDLC payload.length
      data := Vector.ofFn fun i => payload.getD i 0 }

def Frame.dataLength (frame : Frame) : Nat := (dlcToLength frame.dlc).getD 0

def Frame.validDataLength (frame : Frame) : Option Nat :=
  if (!frame.fd && 8 < frame.dlc) || (frame.fd && 15 < frame.dlc) then none
  else dlcToLength frame.dlc

def Frame.validate (frame : Frame) : Except FrameError Unit :=
  match frame.validDataLength with
  | none => .error (.invalidDLC frame.dlc)
  | some length => validateFrame frame length

def Frame.payload (frame : Frame) : Bytes :=
  match frame.validDataLength with
  | none => []
  | some length => frame.data.toList.take length

/-- The smallest CAN data length that is not below `length`. -/
def canLength (length : Nat) : Nat :=
  if length ≤ 8 then length
  else if length ≤ 12 then 12
  else if length ≤ 16 then 16
  else if length ≤ 20 then 20
  else if length ≤ 24 then 24
  else if length ≤ 32 then 32
  else if length ≤ 48 then 48
  else 64

theorem le_canLength {length : Nat} (bound : length ≤ 64) : length ≤ canLength length := by
  unfold canLength
  split_ifs <;> omega

theorem canLength_le {length : Nat} (bound : length ≤ 64) : canLength length ≤ 64 := by
  unfold canLength
  split_ifs <;> omega

theorem canLength_classic {length : Nat} (bound : length ≤ 8) : canLength length = length := by
  simp [canLength,bound]

private theorem dlcTable : ∀ length : Fin 65,
    dlcToLength (lengthToDLC length.val) = some (canLength length.val) ∧
      lengthToDLC length.val ≤ 15 ∧ (length.val ≤ 8 → lengthToDLC length.val ≤ 8) := by
  decide

theorem dlc_of_length {length : Nat} (bound : length ≤ 64) :
    dlcToLength (lengthToDLC length) = some (canLength length) ∧
      lengthToDLC length ≤ 15 ∧ (length ≤ 8 → lengthToDLC length ≤ 8) :=
  dlcTable ⟨length,by omega⟩

theorem filled_take {payload : Bytes} {length : Nat} (short : payload.length ≤ length)
    (bound : length ≤ 64) :
    ((Vector.ofFn fun i : Fin 64 => payload.getD i 0).toList.take length) =
      payload ++ List.replicate (length - payload.length) 0 := by
  apply List.ext_getElem
  · simp only [List.length_take,Vector.length_toList,List.length_append,List.length_replicate]
    omega
  · intro i left right
    have inside : i < 64 := by
      simp only [List.length_take,Vector.length_toList] at left
      omega
    by_cases given : i < payload.length
    · simp [given]
    · have past : payload.length ≤ i := by omega
      simp [List.getElem_append_right past,past]

def maximumLength (fd : Bool) : Nat := if fd then 64 else 8

theorem maximumLength_le (fd : Bool) : maximumLength fd ≤ 64 := by
  cases fd <;> simp [maximumLength]

def maximumID (extended : Bool) : UInt32 := if extended then 0x1FFFFFFF else 0x7FF

theorem validateFrame_iff (frame : Frame) (length : Nat) :
    validateFrame frame length = .ok () ↔ frame.id ≤ maximumID frame.extended ∧
      (frame.brs = true → frame.fd = true) ∧ length ≤ maximumLength frame.fd := by
  have notNegative : ¬ ((length : Int) < 0) := by omega
  have long : (if frame.fd then 64 else 8 : Int) < length ↔ ¬ length ≤ maximumLength frame.fd := by
    unfold maximumLength
    split_ifs <;> omega
  have above : (if frame.extended then 0x1FFFFFFF else 0x7FF) < frame.id ↔
      ¬ frame.id ≤ maximumID frame.extended := by
    rw [maximumID,UInt32.not_le]
  simp only [validateFrame,above,notNegative,long,if_false]
  by_cases fits : frame.id ≤ maximumID frame.extended
  · cases frame.fd <;> cases frame.brs <;> simp [fits]
  · simp [fits]

/-- A frame is built exactly when its fields pass, and what it carries is the payload in a zeroed
array. -/
theorem newFrame_iff (id : UInt32) (payload : Bytes) (flags : FrameFlags) (frame : Frame) :
    newFrame id payload flags = .ok frame ↔
      (id ≤ maximumID flags.extended ∧ (flags.brs = true → flags.fd = true) ∧
        payload.length ≤ maximumLength flags.fd) ∧
      frame = ⟨.transmit,id,lengthToDLC payload.length,Vector.ofFn fun i => payload.getD i 0,
        flags.fd,flags.brs,flags.extended,0⟩ := by
  have checks := validateFrame_iff
    ⟨.transmit,id,0,Vector.replicate 64 0,flags.fd,flags.brs,flags.extended,0⟩ payload.length
  rw [← checks,newFrame]
  cases checked : validateFrame _ (payload.length : Int) with
  | error error => simp
  | ok _ => simp [eq_comm]
/-- A standard-ID payload within its format is accepted, and what the frame carries is
the payload followed by zeros up to the next CAN length. -/
theorem newFrame_standard {id : UInt32} {payload : Bytes} {fd brs : Bool}
    (standard : id ≤ 0x7FF) (fits : payload.length ≤ maximumLength fd)
    (switched : brs = true → fd = true) :
    ∃ frame, newFrame id payload ⟨fd,brs,false⟩ = .ok frame ∧ frame.id = id ∧ frame.fd = fd ∧
      frame.brs = brs ∧ frame.extended = false ∧
      frame.validDataLength = some (canLength payload.length) ∧
      frame.data.toList.take (canLength payload.length) =
        payload ++ List.replicate (canLength payload.length - payload.length) 0 := by
  have bound : payload.length ≤ 64 := Nat.le_trans fits (maximumLength_le fd)
  obtain ⟨decoded,legal,classic⟩ := dlc_of_length bound
  refine ⟨_,(newFrame_iff ..).mpr ⟨⟨standard,switched,fits⟩,rfl⟩,rfl,rfl,rfl,rfl,?_,
    filled_take (le_canLength bound) (canLength_le bound)⟩
  have legalDLC : ¬ (15 : UInt8) < lengthToDLC payload.length := UInt8.not_lt.mpr legal
  cases fd with
  | true => simp [Frame.validDataLength,legalDLC,decoded]
  | false =>
    have classicDLC : ¬ (8 : UInt8) < lengthToDLC payload.length :=
      UInt8.not_lt.mpr (classic (by simpa [maximumLength] using fits))
    simp [Frame.validDataLength,classicDLC,decoded]

end Canbuskit.Can
