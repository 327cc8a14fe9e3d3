import Canbuskit.Lib.Runs
import Canbuskit.BusLoad.HostWindow
import Mathlib.Data.Nat.ModEq

/-! The hardware clock, which makes one time out of raw timestamps that wrap around. A timestamp
below the last one is a wrap, a late frame or a restart of the device, and one above it is taken
as progress. So a late frame from before a wrap moves the clock on by almost a period. -/
namespace Canbuskit.BusLoad
open Can Runs

theorem mod_forward {earlier later period : Nat} (order : earlier ≤ later)
    (near : later - earlier < period) :
    (later % period = earlier % period + (later - earlier) ∧ later / period = earlier / period) ∨
    (later % period + period = earlier % period + (later - earlier) ∧
      later / period = earlier / period + 1) := by
  obtain ⟨gap,rfl⟩ := Nat.exists_eq_add_of_le order
  rw [Nat.add_sub_cancel_left] at near ⊢
  have part : gap % period = gap := Nat.mod_eq_of_lt near
  have quotient := Nat.add_div (a := earlier) (b := gap) (show 0 < period by omega)
  rw [Nat.div_eq_of_lt near,part,Nat.add_zero] at quotient
  by_cases within : earlier % period + gap < period
  · refine .inl ⟨?_,?_⟩
    · rw [Nat.add_mod_of_add_mod_lt (by rwa [part]),part]
    · rw [quotient,if_neg (by omega),Nat.add_zero]
  · refine .inr ⟨?_,?_⟩
    · rw [Nat.add_mod_add_of_le_add_mod (by omega),part]
    · rw [quotient,if_pos (by omega)]

/-- A frame of the device's log: its true time in microseconds and the host's time. -/
structure Reading where
  time : Nat
  now : Int
  deriving DecidableEq

def Reading.rawUS (reading : Reading) (wrapPeriodUS : UInt64) : UInt64 :=
  UInt64.ofNat (reading.time % wrapPeriodUS.toNat)

def newest (past : List Reading) : Nat := (past.map (·.time)).foldl max 0

def firstTime (past : List Reading) (reading : Reading) : Nat := (past.headD reading).time

namespace BusLoadMeter

def feed (m : BusLoadMeter) (wrapPeriodUS : UInt64) (past : List Reading) : BusLoadMeter :=
  past.foldl (fun m reading =>
    (m.hardwareTimestamp (reading.rawUS wrapPeriodUS) reading.now wrapPeriodUS).1) m

/-- A reading comes at most one second late and less than half a period early, is not from before
the first, and has a timestamp. -/
def Timely (wrapPeriodUS : UInt64) (past : List Reading) (reading : Reading) : Prop :=
  firstTime past reading ≤ reading.time ∧ newest past ≤ reading.time + 1000000 ∧
    (past ≠ [] → 2 * reading.time < 2 * newest past + wrapPeriodUS.toNat) ∧
    reading.rawUS wrapPeriodUS ≠ 0

def Unwraps (m : BusLoadMeter) (wrapPeriodUS : UInt64) (past : List Reading) (reading : Reading) :
    Prop :=
  let before := m.feed wrapPeriodUS past
  let (after,atUS) :=
    before.hardwareTimestamp (reading.rawUS wrapPeriodUS) reading.now wrapPeriodUS
  atUS.toNat = firstTime past reading % wrapPeriodUS.toNat +
    (reading.time - firstTime past reading) ∧
  (reading.time < newest past → after.hwLastUS ≤ before.hwLastUS)

def Straight (wrapPeriodUS : UInt64) (past : List Reading) (reading : Reading) : Prop :=
  (reading.time < newest past →
    reading.time / wrapPeriodUS.toNat = newest past / wrapPeriodUS.toNat) ∧
  firstTime past reading % wrapPeriodUS.toNat + (reading.time - firstTime past reading) < 2 ^ 64

def Stands (m : BusLoadMeter) (wrapPeriodUS : UInt64) (first newest : Nat) : Prop :=
  m.Settled ∧ m.hwInitialized = true ∧
    m.hwLastRawUS.toNat = newest % wrapPeriodUS.toNat ∧
    m.hwLastUS.toNat = first % wrapPeriodUS.toNat + (newest - first)

end BusLoadMeter

theorem newest_snoc (past : List Reading) (reading : Reading) :
    newest (past ++ [reading]) = max (newest past) reading.time := by
  simp [newest]

theorem firstTime_snoc (past : List Reading) (reading next : Reading) :
    firstTime (past ++ [reading]) next = firstTime past reading := by
  cases past <;> rfl

theorem rawUS_toNat (reading : Reading) {wrapPeriodUS : UInt64} (positive : 0 < wrapPeriodUS.toNat) :
    (reading.rawUS wrapPeriodUS).toNat = reading.time % wrapPeriodUS.toNat := by
  have small := wrapPeriodUS.toNat_lt
  have below := Nat.mod_lt reading.time positive
  rw [Reading.rawUS,UInt64.toNat_ofNat']
  exact Nat.mod_eq_of_lt (by omega)

namespace BusLoadMeter

theorem feed_snoc (m : BusLoadMeter) (wrapPeriodUS : UInt64) (past : List Reading)
    (reading : Reading) : m.feed wrapPeriodUS (past ++ [reading]) =
      ((m.feed wrapPeriodUS past).hardwareTimestamp (reading.rawUS wrapPeriodUS) reading.now
        wrapPeriodUS).1 := by
  simp [feed]

/-- The four ways of a running clock, on natural numbers: a wrap, a late frame, a restart, and
progress. -/
theorem hardwareTimestamp_cases {m : BusLoadMeter} (on : m.hwInitialized = true)
    (settled : m.Settled) (rawUS : UInt64) (now : Int) (wrapPeriodUS : UInt64) :
    let last := m.hwLastRawUS.toNat
    let raw := rawUS.toNat
    let wrap := wrapPeriodUS.toNat
    let result := m.hardwareTimestamp rawUS now wrapPeriodUS
    (raw < last ∧ wrap / 2 < last - raw ∧ last < wrap ∧
      result.2.toNat = (m.hwLastUS.toNat + (wrap - last + raw)) % 2 ^ 64 ∧
      result.1 = { m with hwLastUS := result.2, hwLastRawUS := rawUS, hwLastHost := now }) ∨
    (raw < last ∧ ¬ (wrap / 2 < last - raw ∧ last < wrap) ∧ last - raw ≤ 1000000 ∧
      last - raw ≤ m.hwLastUS.toNat ∧ result.2.toNat = m.hwLastUS.toNat - (last - raw) ∧
      result.1 = m) ∨
    (raw < last ∧ ¬ (wrap / 2 < last - raw ∧ last < wrap) ∧
      (1000000 < last - raw ∨ m.hwLastUS.toNat < last - raw) ∧ result.2 = rawUS) ∨
    (last ≤ raw ∧ result.2.toNat = (m.hwLastUS.toNat + (raw - last)) % 2 ^ 64 ∧
      result.1 = { m with hwLastUS := result.2, hwLastRawUS := rawUS, hwLastHost := now }) := by
  intro last raw wrap result
  have window := settled.windowUS
  by_cases below : rawUS < m.hwLastRawUS
  · have less : raw < last := UInt64.lt_iff_toNat_lt.mp below
    have back : (m.hwLastRawUS - rawUS).toNat = last - raw :=
      UInt64.toNat_sub_of_le _ _ (UInt64.le_of_lt below)
    have half : (wrapPeriodUS / 2).toNat = wrap / 2 := by
      rw [UInt64.toNat_div]
      rfl
    by_cases wraps : 0 < wrapPeriodUS ∧ wrapPeriodUS / 2 < m.hwLastRawUS - rawUS ∧
        m.hwLastRawUS < wrapPeriodUS
    · have found : result = ({ m with
          hwLastUS := m.hwLastUS + (wrapPeriodUS - m.hwLastRawUS + rawUS)
          hwLastRawUS := rawUS
          hwLastHost := now },m.hwLastUS + (wrapPeriodUS - m.hwLastRawUS + rawUS)) := by
        simp only [result,hardwareTimestamp,on,Bool.not_true,Bool.false_eq_true,if_false,below,
          if_true,wraps,and_self]
      obtain ⟨_,far,inside⟩ := wraps
      have far' : wrap / 2 < last - raw := by
        rw [← half,← back]
        exact UInt64.lt_iff_toNat_lt.mp far
      have inside' : last < wrap := UInt64.lt_iff_toNat_lt.mp inside
      have rest : (wrapPeriodUS - m.hwLastRawUS).toNat = wrap - last :=
        UInt64.toNat_sub_of_le _ _ (UInt64.le_of_lt inside)
      have small := wrapPeriodUS.toNat_lt
      refine .inl ⟨less,far',inside',?_,?_⟩
      · rw [found]
        dsimp only
        rw [UInt64.toNat_add,UInt64.toNat_add,rest]
        omega
      · rw [found]
    · have never : ¬ (wrap / 2 < last - raw ∧ last < wrap) := by
        rintro ⟨far,inside⟩
        refine wraps ⟨?_,?_,UInt64.lt_iff_toNat_lt.mpr inside⟩
        · refine UInt64.lt_iff_toNat_lt.mpr ?_
          have zero : (0 : UInt64).toNat = 0 := rfl
          omega
        · rw [UInt64.lt_iff_toNat_lt,half,back]
          exact far
      by_cases late : m.hwLastRawUS - rawUS ≤ m.windowUS ∧ m.hwLastRawUS - rawUS ≤ m.hwLastUS
      · have found : result = (m,m.hwLastUS - (m.hwLastRawUS - rawUS)) := by
          simp only [result,hardwareTimestamp,on,Bool.not_true,Bool.false_eq_true,if_false,below,
            if_true,wraps,late,and_self]
        obtain ⟨recent,since⟩ := late
        rw [UInt64.le_iff_toNat_le,back] at recent since
        refine .inr (.inl ⟨less,never,by omega,since,?_,by rw [found]⟩)
        rw [found]
        dsimp only
        rw [UInt64.toNat_sub_of_le _ _ (UInt64.le_iff_toNat_le.mpr (by omega)),back]
      · have found : result.2 = rawUS := by
          simp only [result,hardwareTimestamp,on,Bool.not_true,Bool.false_eq_true,if_false,below,
            if_true,wraps,late]
        refine .inr (.inr (.inl ⟨less,never,?_,found⟩))
        rw [UInt64.le_iff_toNat_le,UInt64.le_iff_toNat_le,back,window] at late
        omega
  · have more : last ≤ raw := Nat.le_of_not_lt fun less => below (UInt64.lt_iff_toNat_lt.mpr less)
    have found : result = ({ m with
        hwLastUS := m.hwLastUS + (rawUS - m.hwLastRawUS)
        hwLastRawUS := rawUS
        hwLastHost := now },m.hwLastUS + (rawUS - m.hwLastRawUS)) := by
      simp only [result,hardwareTimestamp,on,Bool.not_true,Bool.false_eq_true,if_false,below]
    refine .inr (.inr (.inr ⟨more,?_,by rw [found]⟩))
    rw [found]
    dsimp only
    rw [UInt64.toNat_add,UInt64.toNat_sub_of_le _ _ (UInt64.le_iff_toNat_le.mpr more)]

theorem stands_first {m : BusLoadMeter} (settled : m.Settled) (off : m.hwInitialized = false)
    {wrapPeriodUS : UInt64} (positive : 0 < wrapPeriodUS.toNat) (reading : Reading) :
    m.Unwraps wrapPeriodUS [] reading ∧
      (m.feed wrapPeriodUS [reading]).Stands wrapPeriodUS reading.time reading.time := by
  have raw := rawUS_toNat reading positive
  refine ⟨?_,?_⟩
  · simp only [Unwraps,feed,List.foldl_nil,hardwareTimestamp,off,Bool.not_false,if_true,firstTime,
      List.headD_nil,Nat.sub_self,Nat.add_zero,newest,List.map_nil]
    exact ⟨raw,fun less => absurd less (Nat.not_lt_zero _)⟩
  · simp only [Stands,feed,List.foldl_cons,List.foldl_nil,hardwareTimestamp,off,Bool.not_false,
      if_true,Nat.sub_self,Nat.add_zero]
    exact ⟨settled,trivial,raw,raw⟩

/-- A clock that stands reads a timely frame right exactly when it is straight, and then it
stands again. -/
theorem Stands.step {m : BusLoadMeter} {wrapPeriodUS : UInt64} (long : 4000000 ≤ wrapPeriodUS.toNat)
    {first before : Nat} (stands : m.Stands wrapPeriodUS first before) (since : first ≤ before)
    {reading : Reading} (after : first ≤ reading.time) (late : before ≤ reading.time + 1000000)
    (early : 2 * reading.time < 2 * before + wrapPeriodUS.toNat) :
    let result := m.hardwareTimestamp (reading.rawUS wrapPeriodUS) reading.now wrapPeriodUS
    let straight := (reading.time < before →
      reading.time / wrapPeriodUS.toNat = before / wrapPeriodUS.toNat) ∧
      first % wrapPeriodUS.toNat + (reading.time - first) < 2 ^ 64
    ((result.2.toNat = first % wrapPeriodUS.toNat + (reading.time - first) ∧
      (reading.time < before → result.1.hwLastUS ≤ m.hwLastUS)) ↔ straight) ∧
    (straight → result.1.Stands wrapPeriodUS first (max before reading.time)) := by
  intro result straight
  obtain ⟨settled,on,lastRaw,last⟩ := stands
  have raw := rawUS_toNat reading (show 0 < wrapPeriodUS.toNat by omega)
  have small := wrapPeriodUS.toNat_lt
  have lastSmall := m.hwLastUS.toNat_lt
  have inside := Nat.mod_lt before (show 0 < wrapPeriodUS.toNat by omega)
  have ways := hardwareTimestamp_cases on settled (reading.rawUS wrapPeriodUS) reading.now wrapPeriodUS
  have stays : result.1 = { m with
      hwLastUS := result.2
      hwLastRawUS := reading.rawUS wrapPeriodUS
      hwLastHost := reading.now } → before ≤ reading.time →
      result.2.toNat = first % wrapPeriodUS.toNat + (reading.time - first) →
      result.1.Stands wrapPeriodUS first (max before reading.time) := by
    intro moved forward read
    rw [moved,Nat.max_eq_right forward]
    exact ⟨settled,on,raw,read⟩
  simp only [lastRaw,last,raw] at ways
  rw [last] at lastSmall
  by_cases forward : before ≤ reading.time
  · have move := @mod_forward before reading.time wrapPeriodUS.toNat forward (by omega)
    have progress : result.2.toNat =
        (first % wrapPeriodUS.toNat + (reading.time - first)) % 2 ^ 64 ∧
        result.1 = { m with
          hwLastUS := result.2
          hwLastRawUS := reading.rawUS wrapPeriodUS
          hwLastHost := reading.now } := by
      rcases ways with ⟨less,far,_,read,moved⟩ | ⟨less,near,back,_⟩ | ⟨less,near,_⟩ | ⟨more,read,moved⟩
      · refine ⟨?_,moved⟩
        rw [read]
        congr 1
        omega
      · omega
      · omega
      · refine ⟨?_,moved⟩
        rw [read]
        congr 1
        omega
    obtain ⟨read,moved⟩ := progress
    refine ⟨⟨fun right => ⟨fun less => by omega,?_⟩,fun holds => ⟨?_,fun less => by omega⟩⟩,
      fun holds => stays moved forward ?_⟩
    · have fits := result.2.toNat_lt
      rwa [right.1] at fits
    · rw [read,Nat.mod_eq_of_lt holds.2]
    · rw [read,Nat.mod_eq_of_lt holds.2]
  · have move := @mod_forward reading.time before wrapPeriodUS.toNat (by omega) (by omega)
    rcases move with ⟨offset,same⟩ | ⟨offset,next⟩
    · -- A late frame of the same period is told by its distance.
      rcases ways with ⟨_,far,_⟩ | ⟨_,_,_,_,read,moved⟩ | ⟨_,_,far | ahead,_⟩ | ⟨more,_⟩
      · omega
      · have stood : result.1.Stands wrapPeriodUS first (max before reading.time) := by
          rw [moved,Nat.max_eq_left (by omega)]
          exact ⟨settled,on,lastRaw,last⟩
        have right : result.2.toNat = first % wrapPeriodUS.toNat + (reading.time - first) := by
          rw [read]
          omega
        refine ⟨⟨fun _ => ⟨fun _ => same.symm,by omega⟩,fun _ => ⟨right,fun _ => ?_⟩⟩,fun _ => stood⟩
        rw [moved]
        exact UInt64.le_refl _
      · omega
      · omega
      · omega
    · -- One of the period before has the larger timestamp, and is taken as progress.
      have crooked : ¬ straight := fun holds => by
        have := holds.1 (by omega)
        omega
      refine ⟨⟨fun right => ?_,fun holds => absurd holds crooked⟩,fun holds => absurd holds crooked⟩
      have read := right.1
      rcases ways with ⟨less,_⟩ | ⟨less,_⟩ | ⟨less,_⟩ | ⟨_,progress,_⟩
      · omega
      · omega
      · omega
      · have same : result.2.toNat = _ := progress
        omega

theorem feed_unwraps {m : BusLoadMeter} (settled : m.Settled) (off : m.hwInitialized = false)
    {wrapPeriodUS : UInt64} (long : 4000000 ≤ wrapPeriodUS.toNat) {readings : List Reading}
    (timely : Each (Timely wrapPeriodUS) readings) :
    (Each (m.Unwraps wrapPeriodUS) readings ↔ Each (Straight wrapPeriodUS) readings) ∧
    (readings ≠ [] → Each (Straight wrapPeriodUS) readings → ∀ next,
      firstTime readings next ≤ newest readings ∧ (m.feed wrapPeriodUS readings).Stands wrapPeriodUS
        (firstTime readings next) (newest readings)) := by
  induction readings using List.reverseRecOn with
  | nil => exact ⟨iff_of_true (each_nil _) (each_nil _),fun absent => absurd rfl absent⟩
  | append_singleton past last ih =>
    obtain ⟨before,after,late,early,_⟩ := each_snoc.mp timely
    obtain ⟨right,stands⟩ := ih before
    have small := wrapPeriodUS.toNat_lt
    rw [each_snoc,each_snoc]
    by_cases fresh : past = []
    · subst fresh
      obtain ⟨reads,stood⟩ :=
        stands_first settled off (show 0 < wrapPeriodUS.toNat by omega) last
      have inside := Nat.mod_lt last.time (show 0 < wrapPeriodUS.toNat by omega)
      have straight : Straight wrapPeriodUS [] last := by
        refine ⟨fun less => absurd less (Nat.not_lt_zero _),?_⟩
        simp only [firstTime,List.headD_nil,Nat.sub_self]
        omega
      refine ⟨iff_of_true ⟨each_nil _,reads⟩ ⟨each_nil _,straight⟩,fun _ _ next => ?_⟩
      have newestLast : newest [last] = last.time := by simp [newest]
      have firstLast : firstTime [last] next = last.time := rfl
      rw [List.nil_append,newestLast,firstLast]
      exact ⟨Nat.le_refl _,stood⟩
    · have one (whole : Each (Straight wrapPeriodUS) past) :
          (m.Unwraps wrapPeriodUS past last ↔ Straight wrapPeriodUS past last) ∧
          (Straight wrapPeriodUS past last → ∀ next,
            firstTime (past ++ [last]) next ≤ newest (past ++ [last]) ∧
            (m.feed wrapPeriodUS (past ++ [last])).Stands wrapPeriodUS
              (firstTime (past ++ [last]) next) (newest (past ++ [last]))) := by
        obtain ⟨since,stood⟩ := stands fresh whole last
        obtain ⟨reads,again⟩ := stood.step long since after late (early fresh)
        refine ⟨reads,fun straight next => ?_⟩
        rw [firstTime_snoc,newest_snoc,feed_snoc]
        exact ⟨Nat.le_trans since (Nat.le_max_left _ _),again straight⟩
      refine ⟨?_,fun _ straight => (one straight.1).2 straight.2⟩
      constructor
      · rintro ⟨reads,final⟩
        have whole := right.mp reads
        exact ⟨whole,(one whole).1.mp final⟩
      · rintro ⟨whole,final⟩
        exact ⟨right.mpr whole,(one whole).1.mpr final⟩

/-- The clock of a configured meter reads timely frames right exactly when none is late across
the end of a period and no time exceeds 64 bits. -/
theorem unwraps_iff (m : BusLoadMeter) (config : BusConfig) {wrapPeriodUS : UInt64}
    (long : 4000000 ≤ wrapPeriodUS.toNat) {readings : List Reading}
    (timely : Each (Timely wrapPeriodUS) readings) :
    Each ((m.configure config).Unwraps wrapPeriodUS) readings ↔
      Each (Straight wrapPeriodUS) readings :=
  (feed_unwraps (m.configure_settled config) rfl long timely).1

theorem unwraps_iff_wrapped :
    Each ((configure {} (.default 0 0)).Unwraps 4000000) [⟨3900000,0⟩,⟨4000100,0⟩] := by
  refine (unwraps_iff {} (.default 0 0) (by decide) ?_).mpr ?_
  · rw [show [(⟨3900000,0⟩ : Reading),⟨4000100,0⟩] = [] ++ [⟨3900000,0⟩] ++ [⟨4000100,0⟩] from rfl,
      each_snoc,each_snoc]
    exact ⟨⟨each_nil _,by unfold Timely; decide⟩,by unfold Timely; decide⟩
  · rw [show [(⟨3900000,0⟩ : Reading),⟨4000100,0⟩] = [] ++ [⟨3900000,0⟩] ++ [⟨4000100,0⟩] from rfl,
      each_snoc,each_snoc]
    exact ⟨⟨each_nil _,by unfold Straight; decide⟩,by unfold Straight; decide⟩

theorem late_wrap_advances :
    Each (Timely 4000000) [⟨3900000,0⟩,⟨4000100,0⟩,⟨3999900,0⟩] ∧
      ¬ Each ((configure {} (.default 0 0)).Unwraps 4000000)
        [⟨3900000,0⟩,⟨4000100,0⟩,⟨3999900,0⟩] := by
  constructor
  · rw [show [(⟨3900000,0⟩ : Reading),⟨4000100,0⟩,⟨3999900,0⟩] =
        [] ++ [⟨3900000,0⟩] ++ [⟨4000100,0⟩] ++ [⟨3999900,0⟩] from rfl,
      each_snoc,each_snoc,each_snoc]
    exact ⟨⟨⟨each_nil _,by unfold Timely; decide⟩,by unfold Timely; decide⟩,by unfold Timely; decide⟩
  · intro unwraps
    have read := (unwraps [⟨3900000,0⟩,⟨4000100,0⟩] ⟨3999900,0⟩ [] rfl).1
    revert read
    decide +kernel

end BusLoadMeter

end Canbuskit.BusLoad
