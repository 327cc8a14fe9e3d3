import Canbuskit.BusLoad.HardwareClock
import Mathlib.Algebra.BigOperators.Group.Finset.Basic

/-! The clock of the receive log: the time since the first frame and since the one before, from
raw timestamps that wrap around. It takes a step backwards for a wrap wherever it can, where the
hardware clock of the bus load asks for more than half a period. -/
namespace Canbuskit.BusLoad

structure RelativeLogClock where
  initialized : Bool := false
  previousUS : UInt64 := 0
  elapsedUS : UInt64 := 0
  deriving DecidableEq

namespace RelativeLogClock

/-- The clock with the time since the first frame and that since the one before. -/
def observe (c : RelativeLogClock) (timestampUS wrapPeriodUS : UInt64) :
    RelativeLogClock × UInt64 × UInt64 :=
  if !c.initialized then ({ c with initialized := true, previousUS := timestampUS },0,0)
  else
    let deltaUS :=
      if c.previousUS ≤ timestampUS then timestampUS - c.previousUS
      else if c.previousUS < wrapPeriodUS then wrapPeriodUS - c.previousUS + timestampUS
      else 0
    let elapsedUS := c.elapsedUS + deltaUS
    ({ c with previousUS := timestampUS, elapsedUS := elapsedUS },elapsedUS,deltaUS)

/-- A fresh clock that has observed the first timestamps of a sequence. -/
def observed (timestamps : Nat → UInt64) (wrapPeriodUS : UInt64) : Nat → RelativeLogClock
  | 0 => {}
  | i + 1 => ((observed timestamps wrapPeriodUS i).observe (timestamps i) wrapPeriodUS).1

/-- What the log shows with a timestamp of a sequence. -/
def shown (timestamps : Nat → UInt64) (wrapPeriodUS : UInt64) (i : Nat) : UInt64 × UInt64 :=
  ((observed timestamps wrapPeriodUS i).observe (timestamps i) wrapPeriodUS).2

theorem observe_delta {c : RelativeLogClock} (on : c.initialized = true)
    {timestampUS wrapPeriodUS deltaUS : UInt64}
    (delta : (c.previousUS ≤ timestampUS ∧ deltaUS = timestampUS - c.previousUS) ∨
      (timestampUS < c.previousUS ∧ c.previousUS < wrapPeriodUS ∧
        deltaUS = wrapPeriodUS - c.previousUS + timestampUS) ∨
      (timestampUS < c.previousUS ∧ wrapPeriodUS ≤ c.previousUS ∧ deltaUS = 0)) :
    c.observe timestampUS wrapPeriodUS =
      (⟨true,timestampUS,c.elapsedUS + deltaUS⟩,c.elapsedUS + deltaUS,deltaUS) := by
  unfold observe
  rw [on,Bool.not_true,if_neg Bool.false_ne_true]
  rcases delta with ⟨forward,rfl⟩ | ⟨backward,inside,rfl⟩ | ⟨backward,outside,rfl⟩
  · rw [if_pos forward]
  · rw [if_neg (UInt64.not_le.mpr backward),if_pos inside]
  · rw [if_neg (UInt64.not_le.mpr backward),if_neg (UInt64.not_lt.mpr outside)]

theorem observed_succ {timestamps : Nat → UInt64} {wrapPeriodUS : UInt64} {steps : Nat → Nat}
    (deltas : ∀ i elapsedUS,
      observe ⟨true,timestamps i,elapsedUS⟩ (timestamps (i + 1)) wrapPeriodUS =
        (⟨true,timestamps (i + 1),elapsedUS + UInt64.ofNat (steps i)⟩,
          elapsedUS + UInt64.ofNat (steps i),UInt64.ofNat (steps i))) (i : Nat) :
    observed timestamps wrapPeriodUS (i + 1) =
      ⟨true,timestamps i,UInt64.ofNat (∑ j ∈ Finset.range i, steps j)⟩ := by
  induction i with
  | zero => rfl
  | succ i ih =>
    rw [observed,ih,deltas,Finset.sum_range_succ,UInt64.ofNat_add]

theorem shown_succ {timestamps : Nat → UInt64} {wrapPeriodUS : UInt64} {steps : Nat → Nat}
    (deltas : ∀ i elapsedUS,
      observe ⟨true,timestamps i,elapsedUS⟩ (timestamps (i + 1)) wrapPeriodUS =
        (⟨true,timestamps (i + 1),elapsedUS + UInt64.ofNat (steps i)⟩,
          elapsedUS + UInt64.ofNat (steps i),UInt64.ofNat (steps i))) (i : Nat) :
    shown timestamps wrapPeriodUS (i + 1) =
      (UInt64.ofNat (∑ j ∈ Finset.range (i + 1), steps j),UInt64.ofNat (steps i)) := by
  rw [shown,observed_succ deltas,deltas,Finset.sum_range_succ,UInt64.ofNat_add]

/-- The timestamps of a counter that starts again after every period. -/
def wrapped (times : Nat → Nat) (wrapPeriodUS : UInt64) (i : Nat) : UInt64 :=
  UInt64.ofNat (times i % wrapPeriodUS.toNat)

section wrapping

variable {wrapPeriodUS : UInt64} {times : Nat → Nat}

theorem wrapped_toNat (positive : 0 < wrapPeriodUS.toNat) (i : Nat) :
    (wrapped times wrapPeriodUS i).toNat = times i % wrapPeriodUS.toNat :=
  rawUS_toNat ⟨times i,0⟩ positive

/-- A step by less than a period is read off its timestamps, and goes back by what is left of the
period where it does not go on. -/
theorem wrapped_step (ordered : Monotone times) {i : Nat}
    (near : times (i + 1) - times i < wrapPeriodUS.toNat) :
    let before := wrapped times wrapPeriodUS i
    let after := wrapped times wrapPeriodUS (i + 1)
    let deltaUS := UInt64.ofNat (times (i + 1) - times i)
    (before ≤ after ∧ deltaUS = after - before) ∨
      (after < before ∧ before < wrapPeriodUS ∧ deltaUS = wrapPeriodUS - before + after ∧
        (before - after).toNat = wrapPeriodUS.toNat - (times (i + 1) - times i)) := by
  intro before after deltaUS
  have small := wrapPeriodUS.toNat_lt
  have positive : 0 < wrapPeriodUS.toNat := by omega
  have inside := Nat.mod_lt (times i) positive
  have beforeRaw : before.toNat = times i % wrapPeriodUS.toNat := wrapped_toNat positive i
  have afterRaw : after.toNat = times (i + 1) % wrapPeriodUS.toNat := wrapped_toNat positive (i + 1)
  have length : deltaUS.toNat = times (i + 1) - times i := by
    rw [UInt64.toNat_ofNat']
    exact Nat.mod_eq_of_lt (by omega)
  rcases mod_forward (ordered (Nat.le_add_right i 1)) near with ⟨offset,_⟩ | ⟨offset,_⟩
  · have forward : before ≤ after := by
      rw [UInt64.le_iff_toNat_le]
      omega
    refine .inl ⟨forward,UInt64.toNat_inj.mp ?_⟩
    rw [UInt64.toNat_sub_of_le _ _ forward]
    omega
  · have backward : after < before := by
      rw [UInt64.lt_iff_toNat_lt]
      omega
    have within : before < wrapPeriodUS := by
      rw [UInt64.lt_iff_toNat_lt]
      omega
    refine .inr ⟨backward,within,UInt64.toNat_inj.mp ?_,?_⟩
    · rw [UInt64.toNat_add,UInt64.toNat_sub_of_le _ _ (UInt64.le_of_lt within)]
      omega
    · rw [UInt64.toNat_sub_of_le _ _ (UInt64.le_of_lt backward)]
      omega

theorem observe_wrapped (ordered : Monotone times)
    (near : ∀ i, times (i + 1) - times i < wrapPeriodUS.toNat) (i : Nat) (elapsedUS : UInt64) :
    observe ⟨true,wrapped times wrapPeriodUS i,elapsedUS⟩ (wrapped times wrapPeriodUS (i + 1))
        wrapPeriodUS =
      (⟨true,wrapped times wrapPeriodUS (i + 1),elapsedUS + UInt64.ofNat (times (i + 1) - times i)⟩,
        elapsedUS + UInt64.ofNat (times (i + 1) - times i),
        UInt64.ofNat (times (i + 1) - times i)) := by
  refine observe_delta rfl ?_
  rcases wrapped_step ordered (near i) with forward | ⟨backward,inside,delta,_⟩
  · exact .inl forward
  · exact .inr (.inl ⟨backward,inside,delta⟩)

theorem shown_wrapped (ordered : Monotone times)
    (near : ∀ i, times (i + 1) - times i < wrapPeriodUS.toNat) (i : Nat) :
    shown (wrapped times wrapPeriodUS) wrapPeriodUS i =
      (UInt64.ofNat (times i - times 0),UInt64.ofNat (times i - times (i - 1))) := by
  cases i with
  | zero =>
    rw [Nat.sub_self]
    rfl
  | succ i =>
    rw [shown_succ (observe_wrapped ordered near),Finset.sum_range_tsub ordered,Nat.add_sub_cancel]

end wrapping

theorem observe_unknown (timestamps : Nat → UInt64) (i : Nat) (elapsedUS : UInt64) :
    observe ⟨true,timestamps i,elapsedUS⟩ (timestamps (i + 1)) 0 =
      (⟨true,timestamps (i + 1),
          elapsedUS + UInt64.ofNat ((timestamps (i + 1)).toNat - (timestamps i).toNat)⟩,
        elapsedUS + UInt64.ofNat ((timestamps (i + 1)).toNat - (timestamps i).toNat),
        UInt64.ofNat ((timestamps (i + 1)).toNat - (timestamps i).toNat)) := by
  refine observe_delta rfl ?_
  dsimp only
  have small := (timestamps (i + 1)).toNat_lt
  by_cases forward : timestamps i ≤ timestamps (i + 1)
  · refine .inl ⟨forward,UInt64.toNat_inj.mp ?_⟩
    rw [UInt64.toNat_sub_of_le _ _ forward,UInt64.toNat_ofNat']
    exact Nat.mod_eq_of_lt (by omega)
  · have backward := UInt64.not_le.mp forward
    refine .inr (.inr ⟨backward,UInt64.le_iff_toNat_le.mpr (Nat.zero_le _),?_⟩)
    rw [Nat.sub_eq_zero_of_le (Nat.le_of_lt (UInt64.lt_iff_toNat_lt.mp backward))]
    rfl

theorem shown_unknown (timestamps : Nat → UInt64) (i : Nat) :
    (shown timestamps 0 i).1 = UInt64.ofNat
      (∑ j ∈ Finset.range i, ((timestamps (j + 1)).toNat - (timestamps j).toNat)) := by
  cases i with
  | zero => rfl
  | succ i => rw [shown_succ (observe_unknown timestamps)]

/-- The first frames of a device's log, with the host's times. -/
def readings (times : Nat → Nat) (now : Nat → Int) (count : Nat) : List Reading :=
  (List.range count).map fun i => ⟨times i,now i⟩

theorem readings_succ (times : Nat → Nat) (now : Nat → Int) (count : Nat) :
    readings times now (count + 1) = readings times now count ++ [⟨times count,now count⟩] := by
  rw [readings,List.range_succ,List.map_append]
  rfl

end RelativeLogClock

namespace BusLoadMeter

theorem hardwareTimestamp_advance {m : BusLoadMeter} (on : m.hwInitialized = true)
    {rawUS wrapPeriodUS deltaUS : UInt64} (now : Int)
    (delta : (m.hwLastRawUS ≤ rawUS ∧ deltaUS = rawUS - m.hwLastRawUS) ∨
      (rawUS < m.hwLastRawUS ∧ wrapPeriodUS / 2 < m.hwLastRawUS - rawUS ∧
        m.hwLastRawUS < wrapPeriodUS ∧ deltaUS = wrapPeriodUS - m.hwLastRawUS + rawUS)) :
    (m.hardwareTimestamp rawUS now wrapPeriodUS).1 =
      { m with hwLastUS := m.hwLastUS + deltaUS, hwLastRawUS := rawUS, hwLastHost := now } := by
  unfold hardwareTimestamp
  rw [on,Bool.not_true,if_neg Bool.false_ne_true]
  rcases delta with ⟨forward,rfl⟩ | ⟨backward,far,inside,rfl⟩
  · rw [if_neg (UInt64.not_lt.mpr forward)]
  · have positive : 0 < wrapPeriodUS :=
      UInt64.lt_of_le_of_lt (UInt64.le_iff_toNat_le.mpr (Nat.zero_le _)) inside
    rw [if_pos backward]
    dsimp only
    rw [if_pos ⟨positive,far,inside⟩]

/-- A hardware clock that has read a timestamp some time after its first. -/
structure Elapses (m : BusLoadMeter) (rawUS elapsedUS : UInt64) : Prop where
  on : m.hwInitialized = true
  raw : m.hwLastRawUS = rawUS
  elapsed : m.hwLastUS - m.hwFirstUS = elapsedUS

theorem elapses_first {m : BusLoadMeter} (off : m.hwInitialized = false) (rawUS : UInt64) (now : Int)
    (wrapPeriodUS : UInt64) : (m.hardwareTimestamp rawUS now wrapPeriodUS).1.Elapses rawUS 0 := by
  have start : (m.hardwareTimestamp rawUS now wrapPeriodUS).1 =
      { m with
        hwInitialized := true
        hwLastRawUS := rawUS
        hwLastUS := rawUS
        hwFirstUS := rawUS
        hwLastHost := now } := by
    rw [hardwareTimestamp,off]
    rfl
  rw [start]
  exact ⟨rfl,rfl,UInt64.sub_self _⟩

end BusLoadMeter

open RelativeLogClock

section meter

variable {wrapPeriodUS : UInt64} {times : Nat → Nat}

theorem advance_of_near (ordered : Monotone times) {i : Nat}
    (near : 2 * (times (i + 1) - times i) < wrapPeriodUS.toNat) :
    let before := wrapped times wrapPeriodUS i
    let after := wrapped times wrapPeriodUS (i + 1)
    let deltaUS := UInt64.ofNat (times (i + 1) - times i)
    (before ≤ after ∧ deltaUS = after - before) ∨
      (after < before ∧ wrapPeriodUS / 2 < before - after ∧ before < wrapPeriodUS ∧
        deltaUS = wrapPeriodUS - before + after) := by
  intro before after deltaUS
  have period : times (i + 1) - times i < wrapPeriodUS.toNat := by omega
  rcases wrapped_step ordered period with forward | ⟨backward,inside,delta,back⟩
  · exact .inl forward
  · have far : wrapPeriodUS / 2 < before - after := by
      rw [UInt64.lt_iff_toNat_lt,UInt64.toNat_div,back]
      change wrapPeriodUS.toNat / 2 < _
      omega
    exact .inr ⟨backward,far,inside,delta⟩

theorem elapses_step (ordered : Monotone times) {i : Nat}
    (near : 2 * (times (i + 1) - times i) < wrapPeriodUS.toNat) {m : BusLoadMeter}
    (elapses : m.Elapses (wrapped times wrapPeriodUS i) (UInt64.ofNat (times i - times 0)))
    (now : Int) :
    (m.hardwareTimestamp (wrapped times wrapPeriodUS (i + 1)) now wrapPeriodUS).1.Elapses
      (wrapped times wrapPeriodUS (i + 1)) (UInt64.ofNat (times (i + 1) - times 0)) := by
  obtain ⟨on,raw,elapsed⟩ := elapses
  have advance := advance_of_near ordered near
  dsimp only at advance
  rw [← raw] at advance
  have first := ordered (Nat.zero_le i)
  have next := ordered (Nat.le_add_right i 1)
  have sum : times (i + 1) - times 0 = times i - times 0 + (times (i + 1) - times i) := by omega
  rw [BusLoadMeter.hardwareTimestamp_advance on now advance]
  refine ⟨on,rfl,?_⟩
  rw [sum,UInt64.ofNat_add,← elapsed]
  dsimp only
  rw [UInt64.sub_eq_add_neg,UInt64.sub_eq_add_neg,UInt64.add_assoc,UInt64.add_assoc,
    UInt64.add_comm (-m.hwFirstUS)]

theorem elapses_readings {m : BusLoadMeter} (off : m.hwInitialized = false) (ordered : Monotone times)
    (near : ∀ i, 2 * (times (i + 1) - times i) < wrapPeriodUS.toNat) (now : Nat → Int) (i : Nat) :
    (m.feed wrapPeriodUS (readings times now (i + 1))).Elapses (wrapped times wrapPeriodUS i)
      (UInt64.ofNat (times i - times 0)) := by
  induction i with
  | zero =>
    rw [readings_succ,BusLoadMeter.feed_snoc,Nat.sub_self]
    exact BusLoadMeter.elapses_first off (wrapped times wrapPeriodUS 0) (now 0) wrapPeriodUS
  | succ i ih =>
    rw [readings_succ,BusLoadMeter.feed_snoc]
    exact elapses_step ordered (near i) ih (now (i + 1))

end meter

/-- The log clock reads 64 bits of the true times, without a period adds up the steps forward, and
agrees with the hardware clock of a meter where no step takes half a period. -/
theorem relativeLogClock_unwraps :
    (∀ (wrapPeriodUS : UInt64) (times : Nat → Nat), Monotone times →
      (∀ i, times (i + 1) - times i < wrapPeriodUS.toNat) → ∀ i,
      shown (wrapped times wrapPeriodUS) wrapPeriodUS i =
        (UInt64.ofNat (times i - times 0),UInt64.ofNat (times i - times (i - 1)))) ∧
    (∀ (timestamps : Nat → UInt64) (i : Nat),
      ∑ j ∈ Finset.range (i + 1), ((timestamps (j + 1)).toNat - (timestamps j).toNat) < 2 ^ 64 →
      (shown timestamps 0 (i + 1)).1.toNat =
          ∑ j ∈ Finset.range (i + 1), ((timestamps (j + 1)).toNat - (timestamps j).toNat) ∧
        (shown timestamps 0 i).1 ≤ (shown timestamps 0 (i + 1)).1) ∧
    ∀ (m : BusLoadMeter), m.hwInitialized = false → ∀ (wrapPeriodUS : UInt64) (times : Nat → Nat),
      Monotone times → (∀ i, 2 * (times (i + 1) - times i) < wrapPeriodUS.toNat) →
      ∀ (now : Nat → Int) (i : Nat),
      (shown (wrapped times wrapPeriodUS) wrapPeriodUS i).1 =
        (m.feed wrapPeriodUS (readings times now (i + 1))).hwLastUS -
          (m.feed wrapPeriodUS (readings times now (i + 1))).hwFirstUS := by
  refine ⟨?_,?_,?_⟩
  · intro wrapPeriodUS times ordered near i
    exact shown_wrapped ordered near i
  · intro timestamps i fits
    have before := shown_unknown timestamps i
    have after := shown_unknown timestamps (i + 1)
    rw [Finset.sum_range_succ] at fits
    rw [before,after,UInt64.le_iff_toNat_le,UInt64.toNat_ofNat',UInt64.toNat_ofNat',
      Finset.sum_range_succ,Nat.mod_eq_of_lt fits,Nat.mod_eq_of_lt (by omega)]
    exact ⟨rfl,Nat.le_add_right _ _⟩
  · intro m off wrapPeriodUS times ordered near now i
    have period (i : Nat) : times (i + 1) - times i < wrapPeriodUS.toNat := by
      have half := near i
      omega
    rw [shown_wrapped ordered period,(elapses_readings off ordered near now i).elapsed]

/-- A frame every 300 µs of a counter with a period of 1000 µs, and a timestamp that goes down
without a period. -/
theorem relativeLogClock_unwraps_steady :
    shown (wrapped (300 * ·) 1000) 1000 5 = (1500,300) ∧
    (shown (fun i => if i = 1 then 20 else 35) 0 2).1.toNat = 15 ∧
    1500 = (BusLoadMeter.feed {} 1000 (readings (300 * ·) (fun _ => 0) 6)).hwLastUS -
      (BusLoadMeter.feed {} 1000 (readings (300 * ·) (fun _ => 0) 6)).hwFirstUS := by
  obtain ⟨unwraps,sums,agrees⟩ := relativeLogClock_unwraps
  have ordered : Monotone (300 * · : Nat → Nat) := fun _ _ less => Nat.mul_le_mul_left 300 less
  have steps (i : Nat) : 300 * (i + 1) - 300 * i = 300 := by omega
  have near (i : Nat) : 300 * (i + 1) - 300 * i < (1000 : UInt64).toNat := by
    rw [steps]
    decide
  have half (i : Nat) : 2 * (300 * (i + 1) - 300 * i) < (1000 : UInt64).toNat := by
    rw [steps]
    decide
  have fifth := unwraps 1000 (300 * ·) ordered near 5
  have alike := agrees {} rfl 1000 (300 * ·) ordered half (fun _ => 0) 5
  rw [fifth] at alike
  exact ⟨fifth,(sums _ 1 (by decide)).1,alike⟩

end Canbuskit.BusLoad
