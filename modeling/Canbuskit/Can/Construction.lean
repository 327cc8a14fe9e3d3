import Canbuskit.Can.Frame
import Mathlib.Order.Bounds.Basic

/-! What the constructor of a frame accepts, and that validation and extraction give back what
went in, filled with zeros up to the next data length of CAN. -/
namespace Canbuskit.Can

/-- The data lengths of classic CAN and of CAN FD. -/
def canLengths : List Nat := [0,1,2,3,4,5,6,7,8,12,16,20,24,32,48,64]

def Frame.flags (frame : Frame) : FrameFlags := ⟨frame.fd,frame.brs,frame.extended⟩

/-- The constraints of the wire formats on an ID, a payload and the flags. -/
structure Constructible (id : UInt32) (payload : Bytes) (flags : FrameFlags) : Prop where
  id : id ≤ maximumID flags.extended
  length : payload.length ≤ maximumLength flags.fd
  switched : flags.brs = true → flags.fd = true

private theorem canLengthTable : ∀ length : Fin 65, canLength length.val ∈ canLengths := by
  decide

theorem canLength_isLeast {length : Nat} (bound : length ≤ 64) :
    IsLeast {legal | legal ∈ canLengths ∧ length ≤ legal} (canLength length) := by
  refine ⟨⟨canLengthTable ⟨length,by omega⟩,le_canLength bound⟩,?_⟩
  · rintro legal ⟨member,above⟩
    simp only [canLengths,List.mem_cons,List.not_mem_nil,or_false] at member
    unfold canLength
    split_ifs <;> omega

theorem canLength_of_mem {length : Nat} (legal : length ∈ canLengths) : canLength length = length := by
  have small : ∀ length ∈ canLengths, canLength length = length := by decide
  exact small length legal

theorem constructible_iff (id : UInt32) (payload : Bytes) (flags : FrameFlags) :
    (∃ frame, newFrame id payload flags = .ok frame) ↔ Constructible id payload flags := by
  constructor
  · rintro ⟨frame,built⟩
    obtain ⟨⟨standard,switched,fits⟩,_⟩ := (newFrame_iff ..).mp built
    exact ⟨standard,fits,switched⟩
  · intro constructible
    exact ⟨_,(newFrame_iff ..).mpr ⟨⟨constructible.id,constructible.switched,constructible.length⟩,rfl⟩⟩

theorem built_length {length : Nat} {frame : Frame} (fits : length ≤ maximumLength frame.fd)
    (dlc : frame.dlc = lengthToDLC length) : frame.validDataLength = some (canLength length) := by
  obtain ⟨decoded,legal,classic⟩ := dlc_of_length (Nat.le_trans fits (maximumLength_le frame.fd))
  unfold Frame.validDataLength
  rw [dlc,decoded]
  cases fd : frame.fd with
  | true => simp [UInt8.not_lt.mpr legal]
  | false =>
    have short : length ≤ 8 := by simpa [fd,maximumLength] using fits
    simp [UInt8.not_lt.mpr (classic short)]

theorem canLength_fits {length : Nat} {fd : Bool} (fits : length ≤ maximumLength fd) :
    canLength length ≤ maximumLength fd := by
  cases fd with
  | true => exact canLength_le fits
  | false =>
    rw [canLength_classic fits]
    exact fits

theorem newFrame_payload {id : UInt32} {payload : Bytes} {flags : FrameFlags} {frame : Frame}
    (built : newFrame id payload flags = .ok frame) : frame.payload =
      payload ++ List.replicate (canLength payload.length - payload.length) 0 := by
  obtain ⟨⟨_,_,fits⟩,rfl⟩ := (newFrame_iff ..).mp built
  have bound := Nat.le_trans fits (maximumLength_le flags.fd)
  rw [Frame.payload,@built_length payload.length _ fits rfl]
  exact filled_take (le_canLength bound) (canLength_le bound)

/-- `NewFrame` succeeds exactly on what the wire formats allow, and its result is valid, keeps the
ID and the flags, and gives the payload back with zeros up to the least CAN length above it. -/
theorem newFrame_round_trip (id : UInt32) (payload : Bytes) (flags : FrameFlags) :
    ((∃ frame, newFrame id payload flags = .ok frame) ↔ Constructible id payload flags) ∧
    ∀ frame, newFrame id payload flags = .ok frame →
      frame.validate = .ok () ∧ frame.id = id ∧ frame.flags = flags ∧
      (∃ length, IsLeast {legal | legal ∈ canLengths ∧ payload.length ≤ legal} length ∧
        frame.payload = payload ++ List.replicate (length - payload.length) 0) ∧
      (payload.length ∈ canLengths → ∀ otherID other otherFlags, other.length = payload.length →
        other ≠ payload → newFrame otherID other otherFlags ≠ .ok frame) := by
  refine ⟨constructible_iff id payload flags,fun frame built => ?_⟩
  have carried := newFrame_payload built
  obtain ⟨⟨standard,switched,fits⟩,rfl⟩ := (newFrame_iff ..).mp built
  refine ⟨?_,rfl,rfl,⟨_,canLength_isLeast (Nat.le_trans fits (maximumLength_le _)),carried⟩,?_⟩
  · rw [Frame.validate,@built_length payload.length _ fits rfl]
    exact (validateFrame_iff _ _).mpr ⟨standard,switched,canLength_fits fits⟩
  · intro legal otherID other otherFlags same apart again
    have exact' := newFrame_payload again
    rw [carried,same,canLength_of_mem legal,Nat.sub_self] at exact'
    exact apart (by simpa using exact'.symm)

end Canbuskit.Can
