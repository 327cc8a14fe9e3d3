import Canbuskit.BusLoad.BitCount

/-! The bus time of a frame in nanoseconds, from its own bit counts and from a count that the
hardware measured. A measured count is split over the two phases in the frame's own proportion,
rounded to a bit, and each part is converted at its own rate. -/
namespace Canbuskit.BusLoad
open Can Stuffing

/-- The bits of the arbitration and of the data phase. -/
def frameBitCounts (frame : Frame) : Nat × Nat :=
  if frame.fd then canFDFrameBits frame else (classicCANFrameBits frame,0)

def second : Nat := 1000000000

def bitsToDuration (bits : Nat) (bitrate : UInt32) : Nat :=
  if bits = 0 ∨ bitrate = 0 then 0 else bits * second / bitrate.toNat

def frameOccupancy (frame : Frame) (nominalBitrate dataBitrate : UInt32) : Nat :=
  if nominalBitrate = 0 then 0
  else
    let (arbBits,dataBits) := frameBitCounts frame
    let occupied := bitsToDuration arbBits nominalBitrate
    if 0 < dataBits ∧ 0 < dataBitrate then occupied + bitsToDuration dataBits dataBitrate
    else occupied

def frameOccupancyFromBitCount (frame : Frame) (totalBits : Nat)
    (nominalBitrate dataBitrate : UInt32) : Nat :=
  if totalBits = 0 ∨ nominalBitrate = 0 then 0
  else if !frame.fd || !frame.brs || dataBitrate == 0 then bitsToDuration totalBits nominalBitrate
  else
    let (estimatedArb,estimatedData) := frameBitCounts frame
    let estimatedTotal := estimatedArb + estimatedData
    if estimatedTotal = 0 ∨ estimatedData = 0 then bitsToDuration totalBits nominalBitrate
    else
      let arbitrationBits := (totalBits * estimatedArb + estimatedTotal / 2) / estimatedTotal
      let arbitrationBits := if arbitrationBits < 1 then 1 else arbitrationBits
      let arbitrationBits := if totalBits < arbitrationBits then totalBits else arbitrationBits
      let dataBits := totalBits - arbitrationBits
      bitsToDuration arbitrationBits nominalBitrate + bitsToDuration dataBits dataBitrate

theorem bitsToDuration_eq (bits : Nat) (bitrate : UInt32) :
    bitsToDuration bits bitrate = bits * second / bitrate.toNat := by
  unfold bitsToDuration
  split_ifs with zero
  · rcases zero with rfl | rfl <;> simp
  · rfl

theorem bitsToDuration_mono {fewer more : Nat} (le : fewer ≤ more) (bitrate : UInt32) :
    bitsToDuration fewer bitrate ≤ bitsToDuration more bitrate := by
  rw [bitsToDuration_eq,bitsToDuration_eq]
  exact Nat.div_le_div_right (Nat.mul_le_mul_right _ le)

theorem bitsToDuration_faster (bits : Nat) {slow fast : UInt32} (le : slow ≤ fast)
    (positive : slow ≠ 0) : bitsToDuration bits fast ≤ bitsToDuration bits slow := by
  rw [bitsToDuration_eq,bitsToDuration_eq]
  refine Nat.div_le_div_left le ?_
  exact Nat.pos_of_ne_zero fun zero => positive (UInt32.toNat_inj.mp zero)

/-- Converting two parts loses at most a nanosecond against converting their sum. -/
theorem bitsToDuration_add (left right : Nat) (bitrate : UInt32) :
    bitsToDuration left bitrate + bitsToDuration right bitrate ≤
      bitsToDuration (left + right) bitrate ∧
    bitsToDuration (left + right) bitrate ≤
      bitsToDuration left bitrate + bitsToDuration right bitrate + 1 := by
  simp only [bitsToDuration_eq,Nat.add_mul]
  refine ⟨Nat.div_add_div_le_add_div,?_⟩
  by_cases positive : 0 < bitrate.toNat
  · rw [Nat.add_div positive]
    split_ifs <;> omega
  · simp [Nat.eq_zero_of_not_pos positive]

/-- The part of a measured count that is taken to be in the arbitration phase. -/
def arbitrationShare (totalBits estimatedArb estimatedTotal : Nat) : Nat :=
  min totalBits (max 1 ((totalBits * estimatedArb + estimatedTotal / 2) / estimatedTotal))

theorem arbitrationShare_mono {fewer more arb total : Nat} (le : fewer ≤ more) (part : arb ≤ total)
    (positive : 0 < total) : arbitrationShare fewer arb total ≤ arbitrationShare more arb total ∧
      fewer - arbitrationShare fewer arb total ≤ more - arbitrationShare more arb total := by
  have grows : (fewer * arb + total / 2) / total ≤ (more * arb + total / 2) / total :=
    Nat.div_le_div_right (Nat.add_le_add_right (Nat.mul_le_mul_right _ le) _)
  have slowly : (more * arb + total / 2) / total ≤
      (fewer * arb + total / 2) / total + (more - fewer) := by
    rw [← Nat.add_mul_div_right _ _ positive]
    refine Nat.div_le_div_right ?_
    calc more * arb + total / 2
        = fewer * arb + total / 2 + (more - fewer) * arb := by
          rw [Nat.sub_mul]
          have := Nat.mul_le_mul_right arb le
          omega
      _ ≤ fewer * arb + total / 2 + (more - fewer) * total :=
          Nat.add_le_add_left (Nat.mul_le_mul_left _ part) _
  unfold arbitrationShare
  omega

theorem arbitrationShare_self {arb total : Nat} (positive : 0 < arb) (part : arb ≤ total) :
    arbitrationShare total arb total = arb := by
  have exact : (total * arb + total / 2) / total = arb := by
    rw [Nat.mul_add_div (by omega)]
    have half : total / 2 / total = 0 := Nat.div_eq_of_lt (by omega)
    omega
  unfold arbitrationShare
  omega

theorem frameBitCounts_cases (frame : Frame) :
    ((frame.fd && frame.brs) = true ∧ 0 < (frameBitCounts frame).1 ∧ 0 < (frameBitCounts frame).2) ∨
    (frame.fd && frame.brs) = false ∧ (frameBitCounts frame).2 = 0 := by
  cases fd : frame.fd with
  | false => exact .inr ⟨rfl,by simp [frameBitCounts,fd]⟩
  | true =>
    cases brs : frame.brs with
    | true =>
      have field : 0 < fdCRCFieldBits (sentBytes frame 64).length := Nat.succ_pos _
      refine .inl ⟨rfl,?_⟩
      simp only [frameBitCounts,fd,canFDFrameBits_eq,brs,if_true]
      exact ⟨Nat.succ_pos _,Nat.lt_of_lt_of_le field (Nat.le_add_left _ _)⟩
    | false =>
      refine .inr ⟨rfl,?_⟩
      simp only [frameBitCounts,fd,canFDFrameBits_eq,brs,if_true]
      rw [if_neg (by simp),Nat.add_zero,List.countP_eq_zero]
      intro bit member
      obtain ⟨source,among,same⟩ := mark_stuff member
      rw [← same]
      simp only [fdBits,brs,List.mem_append,List.mem_map] at among
      rcases among with ⟨_,_,rfl⟩ | ⟨_,_,rfl⟩ <;> simp

theorem occupancy_cases (frame : Frame) {nominalBitrate dataBitrate : UInt32}
    (nominal : nominalBitrate ≠ 0) (data : dataBitrate ≠ 0) :
    ((frameBitCounts frame).2 = 0 ∧ ∀ count,
      frameOccupancyFromBitCount frame count nominalBitrate dataBitrate =
        bitsToDuration count nominalBitrate) ∨
    0 < (frameBitCounts frame).1 ∧ 0 < (frameBitCounts frame).2 ∧ ∀ count,
      frameOccupancyFromBitCount frame count nominalBitrate dataBitrate =
        let share := arbitrationShare count (frameBitCounts frame).1
          ((frameBitCounts frame).1 + (frameBitCounts frame).2)
        bitsToDuration share nominalBitrate + bitsToDuration (count - share) dataBitrate := by
  rcases frameBitCounts_cases frame with ⟨switched,hasArb,hasData⟩ | ⟨single,none⟩
  · refine .inr ⟨hasArb,hasData,fun count => ?_⟩
    have mixed : (!frame.fd || !frame.brs || dataBitrate == 0) = false := by
      revert switched
      cases frame.fd <;> cases frame.brs <;> simp [data]
    have clamped (share : Nat) : (if count < (if share < 1 then 1 else share) then count
        else if share < 1 then 1 else share) = min count (max 1 share) := by
      split_ifs <;> omega
    by_cases zero : count = 0
    · simp [zero,frameOccupancyFromBitCount,arbitrationShare,bitsToDuration]
    · have estimated : ¬ ((frameBitCounts frame).1 + (frameBitCounts frame).2 = 0 ∨
          (frameBitCounts frame).2 = 0) := by omega
      simp only [frameOccupancyFromBitCount,arbitrationShare,zero,nominal,mixed,or_self,
        Bool.false_eq_true,if_false,estimated,clamped]
  · refine .inl ⟨none,fun count => ?_⟩
    unfold frameOccupancyFromBitCount
    by_cases zero : count = 0
    · simp [zero,bitsToDuration]
    · have flat : (!frame.fd || !frame.brs || dataBitrate == 0) = true := by
        revert single
        cases frame.fd <;> cases frame.brs <;> simp
      simp [zero,nominal,flat]

theorem frameBitCounts_le (frame : Frame) :
    (frameBitCounts frame).1 + (frameBitCounts frame).2 ≤ 712 := by
  unfold frameBitCounts
  split
  · have sum := List.length_eq_countP_add_countP (fun bit => bit.2) (l := stuff (fdBits frame))
    have longest := (length_stuff (fdBits frame)).2
    have field : fdCRCFieldBits (sentBytes frame 64).length ≤ 33 := by
      unfold fdCRCFieldBits
      split_ifs <;> decide
    rw [length_fdBits] at longest
    rw [canFDFrameBits_eq]
    simp only [Bool.not_eq_true,Bool.decide_eq_false] at sum ⊢
    split_ifs <;> omega
  · have longest := (classicCANFrameBits_bounds frame).2
    dsimp only
    omega

theorem bitsToDuration_le (bits : Nat) (bitrate : UInt32) :
    bitsToDuration bits bitrate ≤ bits * second := by
  rw [bitsToDuration_eq]
  exact Nat.div_le_self _ _

/-- Every occupancy that the code forms fits a 64-bit duration. -/
theorem occupancy_fits (frame : Frame) (nominalBitrate dataBitrate : UInt32) :
    frameOccupancy frame nominalBitrate dataBitrate < 2 ^ 63 ∧ ∀ count ≤ 2 ^ 16 + 2,
      frameOccupancyFromBitCount frame count nominalBitrate dataBitrate < 2 ^ 63 := by
  constructor
  · have small := frameBitCounts_le frame
    have first := bitsToDuration_le (frameBitCounts frame).1 nominalBitrate
    have rest := bitsToDuration_le (frameBitCounts frame).2 dataBitrate
    unfold frameOccupancy
    unfold second at first rest
    dsimp only
    split_ifs <;> omega
  · intro count field
    have whole := bitsToDuration_le count nominalBitrate
    unfold frameOccupancyFromBitCount
    dsimp only
    generalize (count * _ + _) / _ = arb
    generalize limited : (if count < if arb < 1 then 1 else arb then count
      else if arb < 1 then 1 else arb) = share
    have within : share ≤ count := by
      rw [← limited]
      split_ifs <;> omega
    have first := bitsToDuration_le share nominalBitrate
    have rest := bitsToDuration_le (count - share) dataBitrate
    unfold second at whole first rest
    split_ifs <;> omega

theorem frameOccupancy_pos (frame : Frame) {nominalBitrate : UInt32} (nominal : nominalBitrate ≠ 0)
    (dataBitrate : UInt32) : 0 < frameOccupancy frame nominalBitrate dataBitrate := by
  have bits : 12 ≤ (frameBitCounts frame).1 := by
    unfold frameBitCounts
    split
    · rw [canFDFrameBits_eq]
      exact Nat.le_add_left _ _
    · have shortest := (classicCANFrameBits_bounds frame).1
      dsimp only
      omega
  have positive : 0 < nominalBitrate.toNat :=
    Nat.pos_of_ne_zero fun zero => nominal (UInt32.toNat_inj.mp zero)
  have occupied : 0 < bitsToDuration (frameBitCounts frame).1 nominalBitrate := by
    have small := nominalBitrate.toNat_lt
    rw [bitsToDuration_eq]
    refine Nat.div_pos ?_ positive
    unfold second
    omega
  unfold frameOccupancy
  rw [if_neg nominal]
  dsimp only
  split
  · exact Nat.lt_of_lt_of_le occupied (Nat.le_add_right _ _)
  · exact occupied

/-- The occupancy from a measured count is the frame's own at the frame's own count, grows with
the count, and lies between those at either rate alone. -/
theorem occupancy_from_count (frame : Frame) {nominalBitrate dataBitrate : UInt32}
    (nominal : nominalBitrate ≠ 0) (data : dataBitrate ≠ 0) :
    let counts := frameBitCounts frame
    let measured (count : Nat) := frameOccupancyFromBitCount frame count nominalBitrate dataBitrate
    measured (counts.1 + counts.2) = frameOccupancy frame nominalBitrate dataBitrate ∧
    (∀ fewer more, fewer ≤ more → measured fewer ≤ measured more) ∧
    (nominalBitrate ≤ dataBitrate → ∀ count,
      bitsToDuration count dataBitrate - 1 ≤ measured count ∧
        measured count ≤ bitsToDuration count nominalBitrate) := by
  intro counts measured
  have own : frameOccupancy frame nominalBitrate dataBitrate =
      bitsToDuration counts.1 nominalBitrate + bitsToDuration counts.2 dataBitrate := by
    have positive : 0 < dataBitrate := UInt32.pos_iff_ne_zero.mpr data
    unfold frameOccupancy
    simp only [nominal,if_false,positive,and_true]
    split_ifs with bits
    · rfl
    · have none : counts.2 = 0 := Nat.eq_zero_of_not_pos bits
      simp [none,bitsToDuration,counts]
  rcases occupancy_cases frame nominal data with ⟨single,converted⟩ | ⟨arb,rest,converted⟩
  · refine ⟨?_,fun fewer more le => ?_,fun faster count => ⟨?_,?_⟩⟩
    · rw [own,show counts.2 = 0 from single]
      exact (converted _).trans (by simp [bitsToDuration])
    · simp only [measured,converted]
      exact bitsToDuration_mono le _
    · simp only [measured,converted]
      have := bitsToDuration_faster count faster nominal
      omega
    · exact Nat.le_of_eq (converted count)
  · have part : counts.1 ≤ counts.1 + counts.2 := Nat.le_add_right _ _
    refine ⟨?_,fun fewer more le => ?_,fun faster count => ?_⟩
    · rw [own]
      refine (converted _).trans ?_
      simp only [arbitrationShare_self arb part,counts,Nat.add_sub_cancel_left]
    · obtain ⟨share,others⟩ := arbitrationShare_mono le part (Nat.add_pos_left arb _)
      simp only [measured,converted]
      exact Nat.add_le_add (bitsToDuration_mono share _) (bitsToDuration_mono others _)
    · simp only [measured,converted]
      generalize shared : arbitrationShare count _ _ = share
      have within : share ≤ count := shared ▸ Nat.min_le_left _ _
      have whole : share + (count - share) = count := by omega
      have slow := bitsToDuration_add share (count - share) nominalBitrate
      have fast := bitsToDuration_add share (count - share) dataBitrate
      have first := bitsToDuration_faster share faster nominal
      have second := bitsToDuration_faster (count - share) faster nominal
      rw [whole] at slow fast
      omega

/-- A frame of 64 zeros that switches its bit rate. -/
def zeros : Frame :=
  ⟨.receive,0x123,15,Vector.replicate 64 0,true,true,false,0⟩

theorem occupancy_from_count_zeros :
    frameOccupancyFromBitCount zeros ((frameBitCounts zeros).1 + (frameBitCounts zeros).2)
      500000 2000000 = frameOccupancy zeros 500000 2000000 :=
  (occupancy_from_count zeros (by decide) (by decide)).1

end Canbuskit.BusLoad
