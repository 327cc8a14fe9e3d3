import Canbuskit.Lib.Guarded
import Canbuskit.BusLoad.HardwareClock
import Canbuskit.BusLoad.HardwareWindow
import Canbuskit.BusLoad.Steps
import Canbuskit.BusLoad.Checked

/-! Over any calls the checked operations of the meter end as the unchecked ones do, or stop where a
hardware time needs more than 64 bits. What carries this is the order of the times that the clock
keeps, and an origin of the hardware window that is 0 only until there is a clock. -/
namespace Canbuskit.BusLoad
open Can Guarded BusLoadMeter

namespace Checked

section Operations
variable {a b : UInt64}

theorem sub_ok (order : b ≤ a) : sub a b = .ok (a - b) := if_pos order

theorem add_ok (fits : a.toNat + b.toNat < 2 ^ 64) : add a b = .ok (a + b) := if_pos fits

theorem mul_ok (fits : a.toNat * b.toNat < 2 ^ 64) : mul a b = .ok (a * b) := if_pos fits

theorem div_ok (positive : b ≠ 0) : div a b = .ok (a / b) := if_neg positive

theorem quo_ok {a b : Int} (positive : b ≠ 0) : quo a b = .ok (a.tdiv b) := if_neg positive

theorem index_ok {idx : Nat} (inside : idx < busLoadSlotCount) : index idx = .ok idx := if_pos inside

theorem ok_bind {Value Result : Type} (value : Value) (next : Value → Except Stop Result) :
    (Except.ok value >>= next) = next value :=
  rfl

theorem later_cases (a b : UInt64) : (later a b = .ok (a + b) ∧ (a + b).toNat = a.toNat + b.toNat) ∨
    later a b = .error .hardwareTime := by
  unfold later
  split_ifs with fits
  · refine .inl ⟨rfl,?_⟩
    rw [UInt64.toNat_add,Nat.mod_eq_of_lt fits]
  · exact .inr rfl

end Operations

/-- What a hardware clock keeps: its last time is behind neither the last timestamp nor the first
time. -/
structure Ordered (m : BusLoadMeter) : Prop where
  raw : m.hwLastRawUS.toNat ≤ m.hwLastUS.toNat
  first : m.hwFirstUS.toNat ≤ m.hwLastUS.toNat

/-- The hardware window has an origin, which is not 0, as soon as there is a hardware clock. -/
structure Sane (m : BusLoadMeter) : Prop where
  settled : m.window = 0 ∨ m.Settled
  ordered : Ordered m
  origin : m.hwInitialized = true ↔ m.hwOriginUS ≠ 0

abbrev Ends {Value : Type} (post : Value → Prop) (checked : Except Stop Value) (value : Value) :
    Prop :=
  Meets (· = Stop.hardwareTime) post checked value

theorem Sane.congr {m other : BusLoadMeter} (sane : Sane other) (base : m.base = other.base)
    (hardware : m.hardware = other.hardware) : Sane m := by
  obtain ⟨settled,⟨raw,first⟩,origin⟩ := sane
  have window : m.window = other.window := congrArg Base.window base
  have lastRaw : m.hwLastRawUS = other.hwLastRawUS := congrArg Hardware.hwLastRawUS hardware
  have last : m.hwLastUS = other.hwLastUS := congrArg Hardware.hwLastUS hardware
  have firstUS : m.hwFirstUS = other.hwFirstUS := congrArg Hardware.hwFirstUS hardware
  have originUS : m.hwOriginUS = other.hwOriginUS := congrArg Hardware.hwOriginUS hardware
  have on : m.hwInitialized = other.hwInitialized := congrArg Hardware.hwInitialized hardware
  refine ⟨?_,⟨?_,?_⟩,?_⟩
  · rw [window]
    exact settled.imp_right (settled_of_base base)
  · rwa [lastRaw,last]
  · rwa [firstUS,last]
  · rwa [on,originUS]

section Window
variable {m : BusLoadMeter}

theorem rotate_ok (settled : m.Settled) (now : Int) : rotate m now = .ok (m.rotate now) := by
  unfold rotate BusLoadMeter.rotate
  cases m.origin with
  | none => rfl
  | some origin =>
    have positive : m.slot ≠ 0 := by
      rw [settled.2.1]
      decide
    by_cases before : now < origin
    · simp only [before,if_true]
    · by_cases within : now - origin ≤ m.window
      · simp only [before,within,if_true,if_false]
      · have nonneg : 0 ≤ now - origin - m.window + m.slot - 1 := by
          rw [settled.2.1]
          have : (1 : Int) ≤ millisecond := by decide
          omega
        simp only [before,within,if_false,quo_ok positive,ok_bind,
          Int.tdiv_eq_ediv_of_nonneg nonneg]
        generalize (if ((now - origin - m.window + m.slot - 1) / m.slot).toNat < 1 then 1
          else ((now - origin - m.window + m.slot - 1) / m.slot).toNat) = shift
        by_cases far : busLoadSlotCount ≤ shift
        · simp only [far,if_true]
          rfl
        · simp only [far,if_false,index_ok (Nat.lt_of_not_le far)]
          rfl

theorem setOrigin_ok {atUS : UInt64} (positive : atUS ≠ 0) :
    setOrigin m atUS = .ok { m with hwOriginUS := atUS } :=
  if_neg positive

theorem rotateHardware_ends (settled : m.Settled) {atUS : UInt64}
    (positive : m.hwOriginUS = 0 → atUS ≠ 0) :
    Ends (·.hwOriginUS ≠ 0) (rotateHardware m atUS) (m.rotateHardware atUS) := by
  unfold rotateHardware BusLoadMeter.rotateHardware
  refine .ite (fun unset => ?_) fun set => .ite (fun _ => .ok set) fun ahead => ?_
  · rw [setOrigin_ok (positive unset)]
    exact .ok (positive unset)
  · have less : m.hwOriginUS < atUS := UInt64.not_le.mp ahead
    have order : m.hwOriginUS.toNat < atUS.toNat := UInt64.lt_iff_toNat_lt.mp less
    have later : atUS ≠ 0 := by
      rintro rfl
      exact absurd order (Nat.not_lt_zero _)
    have window := settled.windowUS
    have slot := settled.slotUS
    have since : (atUS - m.hwOriginUS).toNat = atUS.toNat - m.hwOriginUS.toNat :=
      UInt64.toNat_sub_of_le _ _ (UInt64.le_of_lt less)
    rw [sub_ok (UInt64.le_of_lt less),ok_bind]
    generalize atUS - m.hwOriginUS = elapsed at since ⊢
    refine .ite (fun _ => .ok set) fun outside => ?_
    have past : m.windowUS < elapsed := UInt64.not_le.mp outside
    have far := UInt64.lt_iff_toNat_lt.mp past
    have beyond : (elapsed - m.windowUS).toNat = elapsed.toNat - m.windowUS.toNat :=
      UInt64.toNat_sub_of_le _ _ (UInt64.le_of_lt past)
    have upper := atUS.toNat_lt
    have thousand : m.slotUS.toNat = 1000 := congrArg UInt64.toNat slot
    have one : (1 : UInt64).toNat = 1 := rfl
    rw [sub_ok (UInt64.le_of_lt past),ok_bind]
    generalize elapsed - m.windowUS = rest at beyond ⊢
    have padded : (rest + m.slotUS).toNat = rest.toNat + m.slotUS.toNat := by
      rw [UInt64.toNat_add,Nat.mod_eq_of_lt (by omega)]
    rw [add_ok (by omega),ok_bind]
    generalize rest + m.slotUS = sum at padded ⊢
    have least : 1 ≤ sum := UInt64.le_iff_toNat_le.mpr (by omega)
    have rounded : (sum - 1).toNat = sum.toNat - 1 := UInt64.toNat_sub_of_le _ _ least
    rw [sub_ok least,ok_bind,div_ok (by rw [slot]; decide),ok_bind]
    generalize sum - 1 = top at rounded ⊢
    have quotient : (top / m.slotUS).toNat = top.toNat / 1000 := by
      rw [UInt64.toNat_div,thousand]
    generalize top / m.slotUS = shift at quotient ⊢
    refine .ite (fun _ => ?_) fun near => ?_
    · rw [setOrigin_ok later]
      exact .ok later
    · have bound : shift.toNat < busLoadSlotCount := Nat.lt_of_not_le near
      have count : busLoadSlotCount = 1000 := rfl
      have product : (shift * m.slotUS).toNat = shift.toNat * 1000 := by
        rw [UInt64.toNat_mul,thousand,Nat.mod_eq_of_lt (by omega)]
      rw [index_ok bound,ok_bind,mul_ok (by rw [thousand]; omega),ok_bind]
      generalize shift * m.slotUS = moved at product ⊢
      have total : (m.hwOriginUS + moved).toNat = m.hwOriginUS.toNat + moved.toNat := by
        rw [UInt64.toNat_add,Nat.mod_eq_of_lt (by omega)]
      have begun : m.hwOriginUS + moved ≠ 0 := by
        intro zero
        rw [zero] at total
        have nothing : (0 : UInt64).toNat = 0 := rfl
        have some' : m.hwOriginUS.toNat ≠ 0 := fun zero => set (UInt64.toNat_inj.mp zero)
        omega
      rw [add_ok (by omega),ok_bind,setOrigin_ok begun]
      exact .ok begun

theorem hardwareTimestamp_ends (settled : m.Settled) (ordered : Ordered m) {rawUS : UInt64}
    (timed : rawUS ≠ 0) (now : Int) (wrapPeriodUS : UInt64) :
    Ends (fun stamp => stamp.2 ≠ 0 ∧ Ordered stamp.1 ∧ stamp.1.hwInitialized = true ∧
        stamp.1.Settled)
      (hardwareTimestamp m rawUS now wrapPeriodUS) (m.hardwareTimestamp rawUS now wrapPeriodUS) := by
  obtain ⟨rawOrder,firstOrder⟩ := ordered
  have positive : rawUS.toNat ≠ 0 := fun zero => timed (UInt64.toNat_inj.mp zero)
  have nonzero {atUS : UInt64} (some' : atUS.toNat ≠ 0) : atUS ≠ 0 := by
    rintro rfl
    exact some' rfl
  unfold hardwareTimestamp BusLoadMeter.hardwareTimestamp
  refine .ite (fun _ => .ok ⟨timed,⟨Nat.le_refl _,Nat.le_refl _⟩,rfl,settled⟩) fun started => ?_
  have on : m.hwInitialized = true := by simpa using started
  refine .ite (fun behind => ?_) fun ahead => ?_
  · have less : rawUS.toNat < m.hwLastRawUS.toNat := UInt64.lt_iff_toNat_lt.mp behind
    have back : (m.hwLastRawUS - rawUS).toNat = m.hwLastRawUS.toNat - rawUS.toNat :=
      UInt64.toNat_sub_of_le _ _ (UInt64.le_of_lt behind)
    rw [sub_ok (UInt64.le_of_lt behind),ok_bind]
    refine .ite (fun wraps => ?_) fun _ => .ite (fun late => ?_) fun _ => ?_
    · -- The correction is less than a period, and so is no timestamp of its own.
      obtain ⟨_,_,inside⟩ := wraps
      have within := UInt64.lt_iff_toNat_lt.mp inside
      have small := wrapPeriodUS.toNat_lt
      have rest : (wrapPeriodUS - m.hwLastRawUS).toNat = wrapPeriodUS.toNat - m.hwLastRawUS.toNat :=
        UInt64.toNat_sub_of_le _ _ (UInt64.le_of_lt inside)
      rw [sub_ok (UInt64.le_of_lt inside),ok_bind,add_ok (by omega),ok_bind]
      have correction : (wrapPeriodUS - m.hwLastRawUS + rawUS).toNat =
          wrapPeriodUS.toNat - m.hwLastRawUS.toNat + rawUS.toNat := by
        rw [UInt64.toNat_add,Nat.mod_eq_of_lt (by omega),rest]
      rcases later_cases m.hwLastUS (wrapPeriodUS - m.hwLastRawUS + rawUS) with ⟨fits,last⟩ | stops
      · have read : m.hwLastUS + (wrapPeriodUS - m.hwLastRawUS + rawUS) ≠ 0 := nonzero (by omega)
        rw [fits,ok_bind]
        exact .ok ⟨read,⟨by dsimp only; omega,by dsimp only; omega⟩,on,settled⟩
      · rw [stops]
        exact .stop rfl
    · have since := UInt64.le_iff_toNat_le.mp late.2
      have read : (m.hwLastUS - (m.hwLastRawUS - rawUS)).toNat =
          m.hwLastUS.toNat - (m.hwLastRawUS - rawUS).toNat := UInt64.toNat_sub_of_le _ _ late.2
      have positive' : m.hwLastUS - (m.hwLastRawUS - rawUS) ≠ 0 := nonzero (by omega)
      rw [sub_ok late.2,ok_bind]
      exact .ok ⟨positive',⟨rawOrder,firstOrder⟩,on,settled⟩
    · exact .ok ⟨timed,⟨Nat.le_refl _,Nat.le_refl _⟩,on,settled⟩
  · have order : m.hwLastRawUS ≤ rawUS := UInt64.not_lt.mp ahead
    have more := UInt64.le_iff_toNat_le.mp order
    have progress : (rawUS - m.hwLastRawUS).toNat = rawUS.toNat - m.hwLastRawUS.toNat :=
      UInt64.toNat_sub_of_le _ _ order
    rw [sub_ok order,ok_bind]
    rcases later_cases m.hwLastUS (rawUS - m.hwLastRawUS) with ⟨fits,last⟩ | stops
    · have read : m.hwLastUS + (rawUS - m.hwLastRawUS) ≠ 0 := nonzero (by omega)
      rw [fits,ok_bind]
      exact .ok ⟨read,⟨by dsimp only; omega,by dsimp only; omega⟩,on,settled⟩
    · rw [stops]
      exact .stop rfl

theorem hardwareNow_ends (m : BusLoadMeter) (now : Int) :
    Ends (m.hwLastUS.toNat ≤ ·.toNat) (hardwareNow m now) (m.hardwareNow now) := by
  unfold hardwareNow BusLoadMeter.hardwareNow
  dsimp only
  split_ifs with passed fits
  · refine .ok ?_
    have small : ((now - m.hwLastHost) / microsecond).toNat < 2 ^ 64 := by omega
    rw [UInt64.toNat_add,UInt64.toNat_ofNat',Nat.mod_eq_of_lt small,Nat.mod_eq_of_lt fits]
    exact Nat.le_add_right ..
  · exact .stop rfl
  · exact .ok (Nat.le_refl _)

/-- A configured meter between two of its steps. -/
def Works (m : BusLoadMeter) : Prop := Sane m ∧ m.Settled

theorem Works.congr {other : BusLoadMeter} (works : Works other) (base : m.base = other.base)
    (hardware : m.hardware = other.hardware) : Works m :=
  ⟨works.1.congr base hardware,settled_of_base base works.2⟩

theorem Works.rotate (works : Works m) (now : Int) : Works (m.rotate now) :=
  works.congr (base_rotate m now) (hardware_rotate m now)

theorem works_window (settled : m.Settled) (ordered : Ordered m) (on : m.hwInitialized = true)
    {atUS : UInt64} (begun : (m.rotateHardware atUS).hwOriginUS ≠ 0) :
    Works (m.rotateHardware atUS) := by
  have kept := settled_of_base (base_rotateHardware m atUS) settled
  obtain ⟨slots,origin,moved⟩ := m.rotateHardware_clock atUS
  rw [moved] at begun kept ⊢
  exact ⟨⟨.inr kept,⟨ordered.raw,ordered.first⟩,iff_of_true on begun⟩,kept⟩

theorem advance_ends (works : Works m) (now : Int) :
    Ends Works (advance m now) (if m.hwInitialized then m.rotateHardware (m.hardwareNow now) else m) := by
  refine .ite (fun on => ?_) fun _ => .ok works
  obtain ⟨sane,settled⟩ := works
  refine (hardwareNow_ends m now).bind fun _ => ?_
  have set := sane.origin.mp on
  exact (rotateHardware_ends settled fun unset => absurd unset set).mono
    (works_window settled sane.ordered on)

theorem lower_ok {atUS : UInt64} (timed : atUS ≠ 0) :
    lower m atUS = .ok (if atUS < m.hwOriginUS then { m with hwOriginUS := atUS } else m) := by
  unfold lower
  split_ifs
  · exact setOrigin_ok timed
  · rfl

theorem insertHardware_ends (works : Works m) (on : m.hwInitialized = true) {atUS : UInt64}
    (timed : atUS ≠ 0) (now : Int) (occupiedNs : Nat) :
    Ends Works (insertHardware m atUS now occupiedNs) (m.insertHardware atUS now occupiedNs) := by
  unfold insertHardware BusLoadMeter.insertHardware
  refine .ite (fun _ => .ok works) fun _ => ?_
  rw [lower_ok timed,ok_bind]
  have lowered : Works (if atUS < m.hwOriginUS then { m with hwOriginUS := atUS } else m) ∧
      (if atUS < m.hwOriginUS then { m with hwOriginUS := atUS } else m).hwOriginUS ≤ atUS := by
    split_ifs with before
    · obtain ⟨⟨settled,⟨raw,first⟩,_⟩,works⟩ := works
      exact ⟨⟨⟨settled,⟨raw,first⟩,iff_of_true on timed⟩,works⟩,UInt64.le_refl _⟩
    · exact ⟨works,UInt64.not_lt.mp before⟩
  generalize (if atUS < m.hwOriginUS then { m with hwOriginUS := atUS } else m) = m at lowered ⊢
  obtain ⟨works,since⟩ := lowered
  rw [sub_ok since,ok_bind,div_ok (by rw [works.2.slotUS]; decide),ok_bind]
  have inside : (if busLoadSlotCount ≤ ((atUS - m.hwOriginUS) / m.slotUS).toNat then
      busLoadSlotCount - 1 else ((atUS - m.hwOriginUS) / m.slotUS).toNat) < busLoadSlotCount := by
    have count : busLoadSlotCount = 1000 := rfl
    split_ifs <;> omega
  dsimp only
  rw [index_ok inside,ok_bind]
  obtain ⟨⟨settled,⟨raw,first⟩,origin⟩,works⟩ := works
  exact .ok ⟨⟨settled,⟨raw,first⟩,origin⟩,works⟩

theorem addHardwareLocked_ends (works : Works m) {frame : Frame} (timed : frame.timestampUS ≠ 0)
    (now : Int) (wrapPeriodUS : UInt64) (occupiedNs : Nat) :
    Ends Works (addHardwareLocked m frame now wrapPeriodUS occupiedNs)
      (m.addHardwareLocked frame now wrapPeriodUS occupiedNs) := by
  unfold addHardwareLocked BusLoadMeter.addHardwareLocked
  refine .ite (fun _ => .ok works) fun _ => ?_
  refine (advance_ends works now).bind fun advanced => ?_
  refine (hardwareTimestamp_ends advanced.2 advanced.1.ordered timed now wrapPeriodUS).bind ?_
  rintro ⟨stamped,ordered,on,settled⟩
  refine (rotateHardware_ends settled fun _ => stamped).bind fun begun => ?_
  have works := works_window settled ordered on begun
  exact insertHardware_ends works (works.1.origin.mpr begun) stamped now occupiedNs

theorem addDurationLocked_ends (works : Works m) (occupiedNs : Nat) (now : Int) :
    Ends Works (addDurationLocked m occupiedNs now) (m.addDurationLocked occupiedNs now) := by
  unfold addDurationLocked BusLoadMeter.addDurationLocked
  refine .ite (fun _ => .ok works) fun _ => ?_
  have works := works.rotate now
  rw [rotate_ok (settled_of_base (base_rotate m now).symm works.2) now,ok_bind]
  generalize m.rotate now = m at works ⊢
  dsimp only
  cases begun : m.origin with
  | none => exact .ok works
  | some origin =>
    have positive : m.slot ≠ 0 := by
      rw [works.2.2.1]
      decide
    dsimp only
    rw [quo_ok positive,ok_bind]
    have inside : (if busLoadSlotCount ≤ (now - origin).tdiv m.slot then (busLoadSlotCount : Int) - 1
        else (now - origin).tdiv m.slot).toNat < busLoadSlotCount := by
      have count : busLoadSlotCount = 1000 := rfl
      split_ifs <;> omega
    generalize (if busLoadSlotCount ≤ (now - origin).tdiv m.slot then (busLoadSlotCount : Int) - 1
      else (now - origin).tdiv m.slot) = idx at inside ⊢
    refine .ite (fun _ => .ok works) fun _ => ?_
    rw [index_ok inside,ok_bind]
    exact .ok (works.congr rfl rfl)

theorem removeHostLocked_ends (works : Works m) (pending : PendingTx) :
    Ends Works (removeHostLocked m pending) (m.removeHostLocked pending) := by
  unfold removeHostLocked BusLoadMeter.removeHostLocked
  have works := works.rotate pending.atTime
  rw [rotate_ok (settled_of_base (base_rotate m pending.atTime).symm works.2) pending.atTime,ok_bind]
  generalize m.rotate pending.atTime = m at works ⊢
  dsimp only
  cases begun : m.origin with
  | none => exact .ok works
  | some origin =>
    have positive : m.slot ≠ 0 := by
      rw [works.2.2.1]
      decide
    dsimp only
    refine .ite (fun _ => .ok works) fun since => ?_
    rw [quo_ok positive,ok_bind,Int.tdiv_eq_ediv_of_nonneg (by omega)]
    have inside : (if busLoadSlotCount ≤ ((pending.atTime - origin) / m.slot).toNat then
        busLoadSlotCount - 1 else ((pending.atTime - origin) / m.slot).toNat) < busLoadSlotCount := by
      have count : busLoadSlotCount = 1000 := rfl
      split_ifs <;> omega
    generalize (if busLoadSlotCount ≤ ((pending.atTime - origin) / m.slot).toNat then
      busLoadSlotCount - 1 else ((pending.atTime - origin) / m.slot).toNat) = idx at inside ⊢
    rw [index_ok inside,ok_bind]
    refine .ite (fun _ => .ok works) fun enough => ?_
    rw [not_or,Nat.not_lt] at enough
    obtain ⟨frames,occupied⟩ := enough
    have entry : m.slots.toList.getD idx {} = m.slots[idx] := by
      rw [List.getD_eq_getElem?_getD,List.getElem?_eq_getElem (by simpa using inside),
        Vector.getElem_toList]
      rfl
    rw [entry] at frames occupied ⊢
    rw [show subNat m.slots[idx].occupiedNs pending.occupiedNs = _ from if_pos occupied,ok_bind,
      show subNat m.slots[idx].frames 1 = _ from if_pos (Nat.one_le_iff_ne_zero.mpr frames),ok_bind]
    have same : Rolling.alter m.slots idx (fun _ => ⟨m.slots[idx].occupiedNs - pending.occupiedNs,
        m.slots[idx].frames - 1⟩) = Rolling.alter m.slots idx (·.remove pending.occupiedNs) :=
      Rolling.alter_congr inside rfl
    rw [same]
    exact .ok (works.congr rfl rfl)

theorem relocatePending_ends (works : Works m) (pending : PendingTx) (frame : Frame) (now : Int)
    (wrapPeriodUS : UInt64) (occupiedNs : Nat) :
    Ends Works (relocatePending m pending frame now wrapPeriodUS occupiedNs)
      (m.relocatePending pending frame now wrapPeriodUS occupiedNs) := by
  refine .ite (fun _ => .ok works) fun timed => ?_
  exact (removeHostLocked_ends works pending).bind fun removed =>
    addHardwareLocked_ends removed timed now wrapPeriodUS occupiedNs

theorem Works.waits (works : Works m) (pending : List PendingTx) (earlyTx : List EarlyTxEcho) :
    Works { m with pending := pending, earlyTx := earlyTx } := by
  obtain ⟨⟨settled,⟨raw,first⟩,origin⟩,works⟩ := works
  exact ⟨⟨settled,⟨raw,first⟩,origin⟩,works⟩

theorem Sane.works (sane : Sane m) (opened : m.window ≠ 0) : Works m :=
  ⟨sane,sane.settled.resolve_left opened⟩

theorem Works.sends (works : Works m) (frame : Frame) (now : Int) :
    Works ((m.pushPending frame now).1.expireEarlyTx now) :=
  works.waits _ _

theorem recordTx_ends (sane : Sane m) (frame : Frame) (now : Int) :
    Ends Sane (recordTx m frame now) (m.recordTx frame now) := by
  unfold recordTx BusLoadMeter.recordTx
  refine .ite (fun _ => .ok sane) fun opened => ?_
  dsimp only
  have same : m.addLocked { frame with direction := .transmit } now =
      m.addDurationLocked (frameOccupancy { frame with direction := .transmit } m.nominalBitrate
        m.dataBitrate) now := rfl
  rw [same]
  refine (addDurationLocked_ends (sane.works opened) _ now).bind fun added => ?_
  generalize m.addDurationLocked (frameOccupancy { frame with direction := .transmit }
    m.nominalBitrate m.dataBitrate) now = counted at added ⊢
  have sent := added.sends { frame with direction := .transmit } now
  generalize counted.pushPending { frame with direction := .transmit } now = pushed at sent ⊢
  generalize pushed.1.expireEarlyTx now = waiting at sent ⊢
  cases found : waiting.earlyTx.findIdx? fun echo => busFrameKey echo.frame ==
      busFrameKey { frame with direction := .transmit } with
  | none => exact .ok sent.1
  | some i =>
    obtain ⟨inside,_⟩ := List.findIdx?_eq_some_iff_getElem.mp found
    simp only [List.getElem?_eq_getElem inside]
    exact (relocatePending_ends (sent.waits _ _) _ _ _ _ _).mono And.left

theorem observeWithBitCount_ends (sane : Sane m) (frame : Frame) (totalBitCount : UInt16) (now : Int)
    (wrapPeriodUS : UInt64) : Ends Sane (observeWithBitCount m frame totalBitCount now wrapPeriodUS)
      (m.observeWithBitCount frame totalBitCount now wrapPeriodUS) := by
  unfold observeWithBitCount BusLoadMeter.observeWithBitCount
  refine .ite (fun _ => .ok sane) fun opened => ?_
  have waiting : Works ((m.expirePending now).expireEarlyTx now) := (sane.works opened).waits _ _
  generalize (m.expirePending now).expireEarlyTx now = waiting' at waiting ⊢
  generalize m.observedOccupancy frame totalBitCount = occupied
  cases frame.direction with
  | transmit =>
    dsimp only
    cases found : waiting'.findPending frame true now with
    | none =>
      dsimp only
      refine .ite (fun _ => .ok waiting.1) fun _ => ?_
      exact .ok (waiting.waits _ _).1
    | some i =>
      obtain ⟨pending,entry,_⟩ := findPending_some found
      simp only [entry]
      refine .ite (fun _ => .ok waiting.1) fun _ => ?_
      exact (relocatePending_ends (waiting.waits _ _) _ _ _ _ _).mono And.left
  | receive =>
    dsimp only
    cases found : waiting'.findPending frame false now with
    | none =>
      dsimp only
      refine .ite (fun _ => ?_) fun timed => ?_
      · exact (addDurationLocked_ends waiting _ _).mono And.left
      · exact (addHardwareLocked_ends waiting timed _ _ _).mono And.left
    | some i =>
      obtain ⟨pending,entry,_⟩ := findPending_some found
      simp only [entry]
      refine .ite (fun _ => .ok (waiting.waits _ _).1) fun _ => ?_
      exact (relocatePending_ends (waiting.waits _ _) _ _ _ _ _).mono And.left

theorem hardwareAge_ends (ordered : Ordered m) (now age : Int) :
    Ends (fun _ => True) (hardwareAge m now age)
      (if m.hwInitialized then
        if m.windowUS ≤ m.hardwareNow now - m.hwFirstUS then m.window
        else if age < (m.hardwareNow now - m.hwFirstUS).toNat * microsecond then
          (m.hardwareNow now - m.hwFirstUS).toNat * microsecond
        else age
      else age) := by
  refine .ite (fun _ => ?_) fun _ => .ok trivial
  refine (hardwareNow_ends m now).bind fun reached => ?_
  have since : m.hwFirstUS ≤ m.hardwareNow now :=
    UInt64.le_iff_toNat_le.mpr (Nat.le_trans ordered.first reached)
  rw [sub_ok since,ok_bind]
  refine .ite (fun _ => .ok trivial) fun _ => ?_
  exact .ite (fun _ => .ok trivial) fun _ => .ok trivial

theorem snapshot_ends (sane : Sane m) (now : Int) :
    Ends (Sane ·.1) (snapshot m now) (m.snapshot now) := by
  unfold snapshot BusLoadMeter.snapshot
  refine .ite (fun _ => .ok sane) fun opened => ?_
  rw [not_or] at opened
  have works := sane.works opened.1
  rw [rotate_ok works.2 now,ok_bind]
  have rotated := works.rotate now
  generalize m.rotate now = m at rotated ⊢
  refine (advance_ends rotated now).bind fun advanced => ?_
  dsimp only
  generalize (if m.hwInitialized then m.rotateHardware (m.hardwareNow now) else m) = m at advanced ⊢
  have waiting : Works ((m.expirePending now).expireEarlyTx now) := advanced.waits _ _
  generalize (m.expirePending now).expireEarlyTx now = m at waiting ⊢
  cases m.started with
  | none => exact .ok waiting.1
  | some started =>
    exact (hardwareAge_ends waiting.1.ordered now (now - started)).bind fun _ => .ok waiting.1

theorem configure_sane (m : BusLoadMeter) (config : BusConfig) : Sane (m.configure config) :=
  ⟨.inr (m.configure_settled config),⟨Nat.le_refl _,Nat.le_refl _⟩,
    iff_of_false nofun (not_not_intro rfl)⟩

theorem call_ends (sane : Sane m) (call : Call) : Ends Sane (Checked.call m call) (m.call call) := by
  cases call with
  | configure config => exact .ok (configure_sane m config)
  | recordTx frame now => exact recordTx_ends sane frame now
  | observe frame totalBitCount now wrapPeriodUS =>
    exact observeWithBitCount_ends sane frame totalBitCount now wrapPeriodUS
  | snapshot now => exact (snapshot_ends sane now).bind .ok

end Window

/-- A run of the meter computes what the checked one does, without a fault, up to a hardware time
of more than 64 bits. Its hardware clock is never behind its first time, nor the present behind the
clock, and the hardware window has an origin other than 0 once there is a clock. -/
theorem arithmetic_safe (calls : List Call) :
    Checked.run {} calls = .error .hardwareTime ∨
    (Checked.run {} calls = .ok (BusLoadMeter.run {} calls) ∧
      (BusLoadMeter.run {} calls).hwFirstUS ≤ (BusLoadMeter.run {} calls).hwLastUS ∧
      (∀ now atUS, Checked.hardwareNow (BusLoadMeter.run {} calls) now = .ok atUS →
        atUS = (BusLoadMeter.run {} calls).hardwareNow now ∧
          (BusLoadMeter.run {} calls).hwLastUS ≤ atUS) ∧
      ((BusLoadMeter.run {} calls).hwInitialized = true ↔
        (BusLoadMeter.run {} calls).hwOriginUS ≠ 0)) := by
  have fresh : Sane {} :=
    ⟨.inl rfl,⟨Nat.le_refl _,Nat.le_refl _⟩,iff_of_false nofun (not_not_intro rfl)⟩
  have ends : Ends Sane (Checked.run {} calls) (BusLoadMeter.run {} calls) :=
    Meets.foldlM (fun _ call sane => call_ends sane call) calls fresh
  rcases ends with ⟨ended,sane⟩ | ⟨_,rfl,stopped⟩
  · refine .inr ⟨ended,UInt64.le_iff_toNat_le.mpr sane.ordered.first,fun now atUS read => ?_,sane.origin⟩
    obtain ⟨rfl,reached⟩ := (hardwareNow_ends _ now).ended read
    exact ⟨rfl,UInt64.le_iff_toNat_le.mpr reached⟩
  · exact .inl stopped

example : (Checked.run {} [.configure (.default 0 0),
    .observe ⟨.receive,0x100,1,.replicate 64 0,false,false,false,5⟩ 0 7 0,
    .observe ⟨.receive,0x100,1,.replicate 64 0,false,false,false,3⟩ 0 4 0,
    .snapshot 1000]).isOk = true := by decide +kernel

end Checked

end Canbuskit.BusLoad
