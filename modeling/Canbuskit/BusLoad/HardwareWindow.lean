import Canbuskit.BusLoad.HostWindow

/-! The hardware slots and their clock: nothing on the host's side reads or changes them, a recent
timestamp only moves them on, and a frame enters one slot unless it is older than the first. Whether
it is can be told from the meter before the step. -/
namespace Canbuskit.BusLoad
open Can Rolling

namespace BusLoadMeter

/-- What the hardware window and its clock depend on. -/
structure Hardware where
  window : Int
  slot : Int
  hwSlots : Slots
  hwOriginUS : UInt64
  hwLastRawUS : UInt64
  hwLastUS : UInt64
  hwFirstUS : UInt64
  hwLastHost : Int
  hwInitialized : Bool

def hardware (m : BusLoadMeter) : Hardware :=
  ⟨m.window,m.slot,m.hwSlots,m.hwOriginUS,m.hwLastRawUS,m.hwLastUS,m.hwFirstUS,m.hwLastHost,
    m.hwInitialized⟩

theorem hardware_rotate (m : BusLoadMeter) (now : Int) : (m.rotate now).hardware = m.hardware := by
  unfold rotate
  split
  · rfl
  · dsimp only
    split_ifs <;> rfl

theorem hardware_removeHostLocked (m : BusLoadMeter) (pending : PendingTx) :
    (m.removeHostLocked pending).hardware = m.hardware := by
  unfold removeHostLocked
  rw [← hardware_rotate m pending.atTime]
  dsimp only
  split
  · rfl
  · split_ifs <;> rfl

theorem host_rotateHardware (m : BusLoadMeter) (atUS : UInt64) :
    (m.rotateHardware atUS).origin = m.origin ∧ (m.rotateHardware atUS).slots = m.slots := by
  unfold rotateHardware
  dsimp only
  split_ifs <;> exact ⟨rfl,rfl⟩

theorem host_hardwareTimestamp (m : BusLoadMeter) (rawUS : UInt64) (now : Int)
    (wrapPeriodUS : UInt64) :
    (m.hardwareTimestamp rawUS now wrapPeriodUS).1.origin = m.origin ∧
      (m.hardwareTimestamp rawUS now wrapPeriodUS).1.slots = m.slots := by
  unfold hardwareTimestamp
  dsimp only
  split_ifs <;> exact ⟨rfl,rfl⟩

theorem host_insertHardware (m : BusLoadMeter) (atUS : UInt64) (now : Int) (occupiedNs : Nat) :
    (m.insertHardware atUS now occupiedNs).origin = m.origin ∧
      (m.insertHardware atUS now occupiedNs).slots = m.slots := by
  unfold insertHardware
  dsimp only
  split_ifs <;> exact ⟨rfl,rfl⟩

theorem host_addHardwareLocked (m : BusLoadMeter) (frame : Frame) (now : Int)
    (wrapPeriodUS : UInt64) (occupiedNs : Nat) :
    (m.addHardwareLocked frame now wrapPeriodUS occupiedNs).origin = m.origin ∧
      (m.addHardwareLocked frame now wrapPeriodUS occupiedNs).slots = m.slots := by
  unfold addHardwareLocked
  split
  · exact ⟨rfl,rfl⟩
  · dsimp only
    rw [(host_insertHardware _ _ _ _).1,(host_insertHardware _ _ _ _).2,
      (host_rotateHardware _ _).1,(host_rotateHardware _ _).2,
      (host_hardwareTimestamp _ _ _ _).1,(host_hardwareTimestamp _ _ _ _).2]
    split
    · exact host_rotateHardware m _
    · exact ⟨rfl,rfl⟩

/-- The hardware window when a frame has only moved it on, to the present and to its own time. -/
def agedHardware (m : BusLoadMeter) (frame : Frame) (now : Int) (wrapPeriodUS : UInt64) :
    BusLoadMeter :=
  let m := if m.hwInitialized then m.rotateHardware (m.hardwareNow now) else m
  m.rotateHardware (m.hardwareTimestamp frame.timestampUS now wrapPeriodUS).2

/-- The timestamp is not behind the last one, or has wrapped, or is at most one window older. -/
def Recent (m : BusLoadMeter) (rawUS wrapPeriodUS : UInt64) : Prop :=
  m.hwInitialized = true → rawUS < m.hwLastRawUS →
    (0 < wrapPeriodUS ∧ wrapPeriodUS / 2 < m.hwLastRawUS - rawUS ∧ m.hwLastRawUS < wrapPeriodUS) ∨
    (m.hwLastRawUS - rawUS ≤ m.windowUS ∧ m.hwLastRawUS - rawUS ≤ m.hwLastUS)

theorem hardwareTimestamp_recent {m : BusLoadMeter} {rawUS wrapPeriodUS : UInt64}
    (recent : m.Recent rawUS wrapPeriodUS) (now : Int) :
    let after := (m.hardwareTimestamp rawUS now wrapPeriodUS).1
    after.hwSlots = m.hwSlots ∧ after.hwOriginUS = m.hwOriginUS ∧ after.window = m.window ∧
      after.slot = m.slot := by
  unfold hardwareTimestamp
  dsimp only
  split
  · exact ⟨rfl,rfl,rfl,rfl⟩
  · rename_i on
    split
    · rename_i behind
      have ways := recent (by simpa using on) behind
      split
      · exact ⟨rfl,rfl,rfl,rfl⟩
      · rename_i straight
        rw [if_pos (ways.resolve_left straight)]
        exact ⟨rfl,rfl,rfl,rfl⟩
    · exact ⟨rfl,rfl,rfl,rfl⟩

theorem rotateHardware_congr {m other : BusLoadMeter} (slots : m.hwSlots = other.hwSlots)
    (origin : m.hwOriginUS = other.hwOriginUS) (window : m.window = other.window)
    (slot : m.slot = other.slot) (atUS : UInt64) :
    (m.rotateHardware atUS).hwSlots = (other.rotateHardware atUS).hwSlots ∧
      (m.rotateHardware atUS).hwOriginUS = (other.rotateHardware atUS).hwOriginUS := by
  have spans : m.windowUS = other.windowUS := by rw [windowUS,windowUS,window]
  have width : m.slotUS = other.slotUS := by rw [slotUS,slotUS,slot]
  unfold rotateHardware
  simp only [slots,origin,spans,width]
  split_ifs
  · exact ⟨rfl,rfl⟩
  · exact ⟨slots,origin⟩
  · exact ⟨slots,origin⟩
  · exact ⟨rfl,rfl⟩
  · exact ⟨rfl,rfl⟩

theorem rotateHardware_clock (m : BusLoadMeter) (atUS : UInt64) : ∃ slots origin,
    m.rotateHardware atUS = { m with hwSlots := slots, hwOriginUS := origin } := by
  unfold rotateHardware
  dsimp only
  split_ifs
  · exact ⟨_,_,rfl⟩
  · exact ⟨_,_,rfl⟩
  · exact ⟨_,_,rfl⟩
  · exact ⟨_,_,rfl⟩
  · exact ⟨_,_,rfl⟩

theorem hardwareTimestamp_window (m : BusLoadMeter) (slots : Slots) (origin : UInt64)
    (rawUS : UInt64) (now : Int) (wrapPeriodUS : UInt64) :
    (({ m with hwSlots := slots, hwOriginUS := origin } : BusLoadMeter).hardwareTimestamp rawUS now
      wrapPeriodUS).2 = (m.hardwareTimestamp rawUS now wrapPeriodUS).2 := by
  have span : ({ m with hwSlots := slots, hwOriginUS := origin } : BusLoadMeter).windowUS =
      m.windowUS :=
    rfl
  simp only [hardwareTimestamp,span]
  split_ifs <;> rfl

/-- A frame enters a hardware slot unless it is older than the first of them and they are not
empty. -/
theorem insertHardware_cases (m : BusLoadMeter) (atUS : UInt64) (now : Int) (occupiedNs : Nat) :
    let after := m.insertHardware atUS now occupiedNs
    if m.hwOriginUS ≤ atUS ∨ ∀ slot ∈ m.hwSlots.toList, slot.frames = 0 then
      ∃ idx < busLoadSlotCount, after.hwSlots = alter m.hwSlots idx (·.add occupiedNs)
    else after.hwSlots = m.hwSlots := by
  have refused : (atUS < m.hwOriginUS ∧ m.hwSlots.toList.any (·.frames != 0) = true) ↔
      ¬ (m.hwOriginUS ≤ atUS ∨ ∀ slot ∈ m.hwSlots.toList, slot.frames = 0) := by
    rw [not_or,UInt64.not_le,List.any_eq_true]
    simp
  have clamped (idx : Nat) : (if busLoadSlotCount ≤ idx then busLoadSlotCount - 1 else idx) <
      busLoadSlotCount := by
    unfold busLoadSlotCount
    split_ifs <;> omega
  unfold insertHardware
  dsimp only
  by_cases enters : m.hwOriginUS ≤ atUS ∨ ∀ slot ∈ m.hwSlots.toList, slot.frames = 0
  · rw [if_neg (fun no => refused.mp no enters),if_pos enters]
    split
    · exact ⟨_,clamped _,rfl⟩
    · exact ⟨_,clamped _,rfl⟩
  · rw [if_pos (refused.mpr enters),if_neg enters]

theorem addHardwareLocked_cases {m : BusLoadMeter} {frame : Frame} {wrapPeriodUS : UInt64}
    (recent : m.Recent frame.timestampUS wrapPeriodUS) (now : Int) {occupiedNs : Nat}
    (some' : occupiedNs ≠ 0) :
    let aged := m.agedHardware frame now wrapPeriodUS
    let atUS := (m.hardwareTimestamp frame.timestampUS now wrapPeriodUS).2
    let after := m.addHardwareLocked frame now wrapPeriodUS occupiedNs
    if aged.hwOriginUS ≤ atUS ∨ ∀ slot ∈ aged.hwSlots.toList, slot.frames = 0 then
      ∃ idx < busLoadSlotCount, after.hwSlots = alter aged.hwSlots idx (·.add occupiedNs)
    else after.hwSlots = aged.hwSlots := by
  intro aged atUS after
  have early : ∃ slots origin, (if m.hwInitialized then m.rotateHardware (m.hardwareNow now) else m) =
      { m with hwSlots := slots, hwOriginUS := origin } := by
    split
    · exact m.rotateHardware_clock _
    · exact ⟨m.hwSlots,m.hwOriginUS,rfl⟩
  obtain ⟨slots,origin,moved⟩ := early
  have read : (({ m with hwSlots := slots, hwOriginUS := origin } : BusLoadMeter).hardwareTimestamp
      frame.timestampUS now wrapPeriodUS).2 = atUS :=
    m.hardwareTimestamp_window slots origin _ now wrapPeriodUS
  have stamped := hardwareTimestamp_recent
    (m := { m with hwSlots := slots, hwOriginUS := origin }) recent now
  have shape : aged =
      ({ m with hwSlots := slots, hwOriginUS := origin } : BusLoadMeter).rotateHardware atUS := by
    simp only [aged,agedHardware,moved,read]
  simp only [after,addHardwareLocked,some',if_false,moved,read]
  generalize (({ m with hwSlots := slots, hwOriginUS := origin } :
    BusLoadMeter).hardwareTimestamp frame.timestampUS now wrapPeriodUS).1 = clocked at stamped
  obtain ⟨hwSlots,hwOrigin,window,slot⟩ := stamped
  obtain ⟨sameSlots,sameOrigin⟩ := rotateHardware_congr hwSlots hwOrigin window slot atUS
  rw [← shape] at sameSlots sameOrigin
  have inserted := (clocked.rotateHardware atUS).insertHardware_cases atUS now occupiedNs
  rw [sameSlots,sameOrigin] at inserted
  exact inserted

/-- The hardware time of the present: the last one and the whole microseconds of host time since. -/
def presentUS (m : BusLoadMeter) (now : Int) : UInt64 :=
  m.hwLastUS + UInt64.ofNat ((now - m.hwLastHost) / microsecond).toNat

def Wrapped (m : BusLoadMeter) (rawUS wrapPeriodUS : UInt64) : Prop :=
  rawUS < m.hwLastRawUS ∧ 0 < wrapPeriodUS ∧ wrapPeriodUS / 2 < m.hwLastRawUS - rawUS ∧
    m.hwLastRawUS < wrapPeriodUS

instance (m : BusLoadMeter) (rawUS wrapPeriodUS : UInt64) :
    Decidable (m.Wrapped rawUS wrapPeriodUS) :=
  inferInstanceAs (Decidable (_ ∧ _ ∧ _ ∧ _))

/-- The hardware time of a raw time that is not far behind the last one. -/
def unwrappedUS (m : BusLoadMeter) (rawUS wrapPeriodUS : UInt64) : UInt64 :=
  m.hwLastUS + (rawUS - m.hwLastRawUS) + if m.Wrapped rawUS wrapPeriodUS then wrapPeriodUS else 0

/-- How many slots a window of a second gives up to reach a hardware time. -/
def passedSlots (m : BusLoadMeter) (atUS : UInt64) : Nat :=
  if m.hwOriginUS = 0 then 0
  else (atUS.toNat - (m.hwOriginUS.toNat + 1000000) + 999) / 1000

/-- Where the hardware window begins when it has given them up. -/
def startUS (m : BusLoadMeter) (atUS : UInt64) : Nat :=
  if m.hwOriginUS = 0 then atUS.toNat else m.hwOriginUS.toNat + m.passedSlots atUS * 1000

theorem hardwareNow_eq (m : BusLoadMeter) (now : Int) : m.hardwareNow now = m.presentUS now := by
  unfold hardwareNow presentUS
  dsimp only
  split_ifs with later
  · rfl
  · have none : ((now - m.hwLastHost) / microsecond).toNat = 0 := by
      unfold microsecond
      omega
    rw [none]
    simp

theorem hardwareTimestamp_unwrapped {m : BusLoadMeter} {rawUS wrapPeriodUS : UInt64}
    (recent : m.Recent rawUS wrapPeriodUS) (on : m.hwInitialized = true) (now : Int) :
    (m.hardwareTimestamp rawUS now wrapPeriodUS).2 = m.unwrappedUS rawUS wrapPeriodUS := by
  simp only [hardwareTimestamp,unwrappedUS,Wrapped,on,Bool.not_true,Bool.false_eq_true,if_false]
  by_cases behind : rawUS < m.hwLastRawUS
  · simp only [behind,if_true,true_and]
    by_cases wraps : 0 < wrapPeriodUS ∧ wrapPeriodUS / 2 < m.hwLastRawUS - rawUS ∧ m.hwLastRawUS < wrapPeriodUS
    · rw [if_pos wraps,if_pos wraps]
      grind
    · rw [if_neg wraps,if_neg wraps,if_pos ((recent on behind).resolve_left wraps)]
      grind
  · simp [behind]

theorem passedSlots_none {m : BusLoadMeter} {atUS : UInt64}
    (within : atUS.toNat ≤ m.hwOriginUS.toNat + 1000000) : m.passedSlots atUS = 0 := by
  unfold passedSlots
  split_ifs
  · rfl
  · omega

theorem rotateHardware_cases {m : BusLoadMeter} (settled : m.Settled) (atUS : UInt64) :
    (m.hwOriginUS = 0 ∧ m.rotateHardware atUS = { m with hwOriginUS := atUS }) ∨
    (m.hwOriginUS ≠ 0 ∧ m.passedSlots atUS = 0 ∧ m.rotateHardware atUS = m) ∨
    (busLoadSlotCount ≤ m.passedSlots atUS ∧
      m.rotateHardware atUS = { m with hwSlots := clearSlots, hwOriginUS := atUS }) ∨
    (m.hwOriginUS ≠ 0 ∧ m.passedSlots atUS < busLoadSlotCount ∧ m.hwOriginUS.toNat < atUS.toNat ∧
      ∃ origin : UInt64, origin.toNat = m.hwOriginUS.toNat + m.passedSlots atUS * 1000 ∧
        origin ≤ atUS ∧ m.rotateHardware atUS =
          { m with hwSlots := Rolling.shift {} m.hwSlots (m.passedSlots atUS), hwOriginUS := origin }) := by
  have window := settled.windowUS
  have slot := settled.slotUS
  by_cases unbegun : m.hwOriginUS = 0
  · exact .inl ⟨unbegun,by rw [rotateHardware,if_pos unbegun]⟩
  refine .inr ?_
  by_cases behind : atUS ≤ m.hwOriginUS
  · have small := UInt64.le_iff_toNat_le.mp behind
    exact .inl ⟨unbegun,passedSlots_none (by omega),by rw [rotateHardware,if_neg unbegun,if_pos behind]⟩
  have since : (atUS - m.hwOriginUS).toNat = atUS.toNat - m.hwOriginUS.toNat :=
    UInt64.toNat_sub_of_le _ _ (UInt64.le_of_lt (UInt64.not_le.mp behind))
  have order := UInt64.lt_iff_toNat_lt.mp (UInt64.not_le.mp behind)
  by_cases within : atUS - m.hwOriginUS ≤ m.windowUS
  · have near := UInt64.le_iff_toNat_le.mp within
    refine .inl ⟨unbegun,passedSlots_none (by omega),?_⟩
    simp only [rotateHardware,unbegun,behind,within,if_false,if_true]
  refine .inr ?_
  have far := UInt64.lt_iff_toNat_lt.mp (UInt64.not_le.mp within)
  have upper := atUS.toNat_lt
  have rest : (atUS - m.hwOriginUS - m.windowUS).toNat =
      atUS.toNat - (m.hwOriginUS.toNat + 1000000) := by
    rw [UInt64.toNat_sub_of_le _ _ (UInt64.le_of_lt (UInt64.not_le.mp within))]
    omega
  have thousand : (1000 : UInt64).toNat = 1000 := rfl
  have one : (1 : UInt64).toNat = 1 := rfl
  have padded : (atUS - m.hwOriginUS - m.windowUS + 1000).toNat =
      atUS.toNat - (m.hwOriginUS.toNat + 1000000) + 1000 := by
    rw [UInt64.toNat_add,rest,Nat.mod_eq_of_lt (by omega),thousand]
  have least : (1 : UInt64) ≤ atUS - m.hwOriginUS - m.windowUS + 1000 :=
    UInt64.le_iff_toNat_le.mpr (by omega)
  have passed : ((atUS - m.hwOriginUS - m.windowUS + 1000 - 1) / 1000).toNat = m.passedSlots atUS := by
    rw [UInt64.toNat_div,UInt64.toNat_sub_of_le _ _ least,padded,thousand,one,passedSlots,if_neg unbegun,
      Nat.add_sub_assoc (by decide)]
  simp only [rotateHardware,unbegun,behind,within,slot,passed,if_false]
  generalize (atUS - m.hwOriginUS - m.windowUS + 1000 - 1) / 1000 = shift at passed
  have counted : m.passedSlots atUS = (atUS.toNat - (m.hwOriginUS.toNat + 1000000) + 999) / 1000 := by
    rw [passedSlots,if_neg unbegun]
  split_ifs with gone
  · exact .inl ⟨gone,rfl⟩
  · have product : (shift * 1000).toNat = m.passedSlots atUS * 1000 := by
      rw [UInt64.toNat_mul,passed,thousand,Nat.mod_eq_of_lt (by omega)]
    have sum : (m.hwOriginUS + shift * 1000).toNat =
        m.hwOriginUS.toNat + m.passedSlots atUS * 1000 := by
      rw [UInt64.toNat_add,product,Nat.mod_eq_of_lt (by omega)]
    exact .inr ⟨unbegun,Nat.lt_of_not_le gone,order,_,sum,UInt64.le_iff_toNat_le.mpr (by omega),rfl⟩

def EmptyFrom (slots : Slots) (first : Nat) : Prop :=
  ∀ i (inside : i < busLoadSlotCount), first ≤ i → slots[i].frames = 0

instance (slots : Slots) (first : Nat) : Decidable (EmptyFrom slots first) :=
  inferInstanceAs (Decidable (∀ i, ∀ _ : i < busLoadSlotCount, _ → _))

theorem emptyFrom_zero (slots : Slots) :
    EmptyFrom slots 0 ↔ ∀ slot ∈ slots.toList, slot.frames = 0 := by
  constructor
  · intro empty slot member
    obtain ⟨i,inside,rfl⟩ := List.mem_iff_getElem.mp member
    rw [Vector.getElem_toList]
    exact empty i (by simpa using inside) (Nat.zero_le _)
  · intro empty i inside _
    exact empty _ (by simp)

/-- A hardware window that is moved to a time reaches it exactly when it did before. -/
theorem rotateHardware_reaches {m : BusLoadMeter} (settled : m.Settled) (atUS : UInt64) :
    ((m.rotateHardware atUS).hwOriginUS ≤ atUS ∨ EmptyFrom (m.rotateHardware atUS).hwSlots 0) ↔
      (m.hwOriginUS ≤ atUS ∨ EmptyFrom m.hwSlots 0) := by
  rcases rotateHardware_cases settled atUS with ⟨unbegun,moved⟩ | ⟨_,_,still⟩ | ⟨gone,moved⟩ |
    ⟨_,_,order,origin,_,reached,moved⟩
  · rw [moved,unbegun]
    exact iff_of_true (.inl (UInt64.le_refl _)) (.inl (UInt64.le_iff_toNat_le.mpr (Nat.zero_le _)))
  · rw [still]
  · rw [moved]
    refine iff_of_true (.inl (UInt64.le_refl _)) (.inl ?_)
    by_contra late
    have order := UInt64.lt_iff_toNat_lt.mp (UInt64.not_le.mp late)
    rw [passedSlots_none (by omega)] at gone
    exact absurd gone (by decide)
  · rw [moved]
    exact iff_of_true (.inl reached) (.inl (UInt64.le_iff_toNat_le.mpr (Nat.le_of_lt order)))

/-- Where a hardware window begins, and whether it is empty, when it is moved to a time. -/
theorem rotateHardware_begins {m : BusLoadMeter} (settled : m.Settled) (presentUS atUS : UInt64) :
    ((m.rotateHardware presentUS).hwOriginUS ≤ atUS ∨
        EmptyFrom (m.rotateHardware presentUS).hwSlots 0) ↔
      (m.startUS presentUS ≤ atUS.toNat ∨ EmptyFrom m.hwSlots (m.passedSlots presentUS)) := by
  rcases rotateHardware_cases settled presentUS with ⟨unbegun,moved⟩ | ⟨begun,none,still⟩ |
    ⟨gone,moved⟩ | ⟨begun,fewer,_,origin,begins,_,moved⟩
  · simp only [moved,startUS,passedSlots,unbegun,if_true,UInt64.le_iff_toNat_le]
  · rw [still,startUS,if_neg begun,none,Nat.zero_mul,Nat.add_zero,UInt64.le_iff_toNat_le]
  · rw [moved]
    refine iff_of_true (.inr fun i inside _ => ?_) (.inr fun i inside late => ?_)
    · simp [clearSlots]
    · exact absurd (Nat.lt_of_lt_of_le inside gone) (Nat.not_lt_of_le late)
  · rw [moved,startUS,if_neg begun,← begins,UInt64.le_iff_toNat_le]
    refine or_congr_right ⟨fun empty i inside late => ?_,fun empty i inside _ => ?_⟩
    · have shifted := empty (i - m.passedSlots presentUS) (by omega) (Nat.zero_le _)
      rw [getElem_shift,dif_pos (by omega)] at shifted
      simpa only [Nat.sub_add_cancel late] using shifted
    · rw [getElem_shift]
      split
      · exact empty _ _ (Nat.le_add_left _ _)
      · rfl

/-- The hardware window, moved on to the present, begins no later than the time of this raw one, or
is empty; before the first hardware time it is. -/
def Room (m : BusLoadMeter) (rawUS : UInt64) (now : Int) (wrapPeriodUS : UInt64) : Prop :=
  m.hwInitialized = true →
    m.startUS (m.presentUS now) ≤ (m.unwrappedUS rawUS wrapPeriodUS).toNat ∨
      EmptyFrom m.hwSlots (m.passedSlots (m.presentUS now))

instance (m : BusLoadMeter) (rawUS : UInt64) (now : Int) (wrapPeriodUS : UInt64) :
    Decidable (m.Room rawUS now wrapPeriodUS) :=
  inferInstanceAs (Decidable (_ → _))

def Fresh (m : BusLoadMeter) : Prop := m.hwInitialized = false → m.hwSlots = clearSlots

theorem agedHardware_room {m : BusLoadMeter} (settled : m.Settled) (fresh : m.Fresh) {frame : Frame}
    {wrapPeriodUS : UInt64} (recent : m.Recent frame.timestampUS wrapPeriodUS) (now : Int) :
    ((m.agedHardware frame now wrapPeriodUS).hwOriginUS ≤
        (m.hardwareTimestamp frame.timestampUS now wrapPeriodUS).2 ∨
      EmptyFrom (m.agedHardware frame now wrapPeriodUS).hwSlots 0) ↔
        m.Room frame.timestampUS now wrapPeriodUS := by
  unfold agedHardware Room
  cases on : m.hwInitialized with
  | false =>
    have empty : EmptyFrom m.hwSlots 0 := by
      rw [fresh on]
      intro i inside _
      simp [clearSlots]
    refine iff_of_true ?_ fun up => absurd up Bool.false_ne_true
    exact (rotateHardware_reaches settled _).mpr (.inr empty)
  | true =>
    obtain ⟨slots,origin,moved⟩ := m.rotateHardware_clock (m.hardwareNow now)
    have read : ((m.rotateHardware (m.hardwareNow now)).hardwareTimestamp frame.timestampUS now
        wrapPeriodUS).2 = (m.hardwareTimestamp frame.timestampUS now wrapPeriodUS).2 := by
      rw [moved]
      exact m.hardwareTimestamp_window slots origin _ now wrapPeriodUS
    have kept : (m.rotateHardware (m.hardwareNow now)).Settled :=
      settled_of_base (base_rotateHardware m _) settled
    simp only [if_true,forall_true_left,read]
    rw [rotateHardware_reaches kept,rotateHardware_begins settled,hardwareNow_eq,
      hardwareTimestamp_unwrapped recent on]

theorem addHardwareLocked_room {m : BusLoadMeter} (settled : m.Settled) (fresh : m.Fresh)
    {frame : Frame} {wrapPeriodUS : UInt64} (recent : m.Recent frame.timestampUS wrapPeriodUS)
    (now : Int) {occupiedNs : Nat} (some' : occupiedNs ≠ 0) :
    let aged := m.agedHardware frame now wrapPeriodUS
    let after := m.addHardwareLocked frame now wrapPeriodUS occupiedNs
    if m.Room frame.timestampUS now wrapPeriodUS then
      ∃ idx < busLoadSlotCount, after.hwSlots = alter aged.hwSlots idx (·.add occupiedNs)
    else after.hwSlots = aged.hwSlots := by
  have inserted := addHardwareLocked_cases recent now some'
  simp only [← emptyFrom_zero,agedHardware_room settled fresh recent now] at inserted
  exact inserted

theorem hardware_congr {m other : BusLoadMeter} (same : m.hardware = other.hardware) :
    (∀ atUS, (m.rotateHardware atUS).hardware = (other.rotateHardware atUS).hardware) ∧
    (∀ now, m.hardwareNow now = other.hardwareNow now) ∧
    (∀ rawUS now wrapPeriodUS, (m.hardwareTimestamp rawUS now wrapPeriodUS).2 =
      (other.hardwareTimestamp rawUS now wrapPeriodUS).2) ∧
    ∀ rawUS wrapPeriodUS, m.Recent rawUS wrapPeriodUS → other.Recent rawUS wrapPeriodUS := by
  have fields := same
  simp only [hardware,Hardware.mk.injEq] at fields
  obtain ⟨window,slot,slots,origin,lastRaw,last,first,lastHost,on⟩ := fields
  have span : m.windowUS = other.windowUS := by rw [windowUS,windowUS,window]
  refine ⟨fun atUS => ?_,fun now => ?_,fun rawUS now wrapPeriodUS => ?_,fun _ _ recent => ?_⟩
  · obtain ⟨_,_,moved⟩ := m.rotateHardware_clock atUS
    obtain ⟨_,_,moved'⟩ := other.rotateHardware_clock atUS
    have ends := rotateHardware_congr slots origin window slot atUS
    rw [moved,moved'] at ends ⊢
    obtain ⟨rfl,rfl⟩ := ends
    simp only [hardware,window,slot,lastRaw,last,first,lastHost,on]
  · rw [hardwareNow,hardwareNow,last,lastHost]
  · simp only [hardwareTimestamp,on,lastRaw,last,span]
    split_ifs <;> rfl
  · unfold Recent at recent ⊢
    rwa [on,lastRaw,last,span] at recent

theorem agedHardware_congr {m other : BusLoadMeter} (same : m.hardware = other.hardware)
    (frame : Frame) (now : Int) (wrapPeriodUS : UInt64) :
    (m.agedHardware frame now wrapPeriodUS).hardware =
      (other.agedHardware frame now wrapPeriodUS).hardware := by
  have begun : (if m.hwInitialized then m.rotateHardware (m.hardwareNow now) else m).hardware =
      (if other.hwInitialized then other.rotateHardware (other.hardwareNow now) else
        other).hardware := by
    have on : m.hwInitialized = other.hwInitialized := congrArg Hardware.hwInitialized same
    obtain ⟨rotates,present,_⟩ := hardware_congr same
    rw [on,present now]
    split
    · exact rotates _
    · exact same
  obtain ⟨rotates,_,reads,_⟩ := hardware_congr begun
  unfold agedHardware
  dsimp only
  rw [reads]
  exact rotates _

theorem Room.congr {m other : BusLoadMeter} (same : m.hardware = other.hardware) (rawUS : UInt64)
    (now : Int) (wrapPeriodUS : UInt64) :
    m.Room rawUS now wrapPeriodUS ↔ other.Room rawUS now wrapPeriodUS := by
  cases m
  cases other
  simp only [hardware,Hardware.mk.injEq] at same
  obtain ⟨rfl,rfl,rfl,rfl,rfl,rfl,rfl,rfl,rfl⟩ := same
  exact Iff.rfl

theorem Fresh.congr {m other : BusLoadMeter} (fresh : m.Fresh) (same : other.hardware = m.hardware) :
    other.Fresh := by
  simp only [hardware,Hardware.mk.injEq] at same
  obtain ⟨_,_,slots,_,_,_,_,_,on⟩ := same
  unfold Fresh
  rwa [slots,on]

theorem Fresh.addHardwareLocked {m : BusLoadMeter} (fresh : m.Fresh) (frame : Frame) (now : Int)
    (wrapPeriodUS : UInt64) (occupiedNs : Nat) :
    (m.addHardwareLocked frame now wrapPeriodUS occupiedNs).Fresh := by
  unfold BusLoadMeter.addHardwareLocked
  split
  · exact fresh
  · dsimp only
    generalize (if m.hwInitialized then m.rotateHardware (m.hardwareNow now) else m) = moved
    have stamped : (moved.hardwareTimestamp frame.timestampUS now wrapPeriodUS).1.hwInitialized =
        true := by
      unfold hardwareTimestamp
      dsimp only
      split_ifs <;> simp_all
    generalize moved.hardwareTimestamp frame.timestampUS now wrapPeriodUS = stamp at stamped ⊢
    obtain ⟨_,_,rotated⟩ := stamp.1.rotateHardware_clock stamp.2
    have inserted : ((stamp.1.rotateHardware stamp.2).insertHardware stamp.2 now
        occupiedNs).hwInitialized = true := by
      rw [rotated]
      unfold insertHardware
      dsimp only
      split_ifs <;> exact stamped
    exact fun off => absurd (off.symm.trans inserted) (by decide)

theorem host_agedHardware (m : BusLoadMeter) (frame : Frame) (now : Int) (wrapPeriodUS : UInt64) :
    (m.agedHardware frame now wrapPeriodUS).slots = m.slots := by
  unfold agedHardware
  dsimp only
  rw [(host_rotateHardware _ _).2]
  split
  · exact (m.host_rotateHardware _).2
  · rfl

end BusLoadMeter

end Canbuskit.BusLoad
