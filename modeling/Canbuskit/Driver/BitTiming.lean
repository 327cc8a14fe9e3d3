import Mathlib.Algebra.Order.Ring.Int
import Mathlib.Order.ConditionallyCompleteLattice.Basic
import Mathlib.Data.Int.ConditionallyCompleteOrder
import Mathlib.Data.List.MinMax

/-! The search for a PCAN bit timing under the 80 MHz clock: two nested loops that skip what the
limits rule out and keep the first candidate whose sample point is nearest to 80 percent. -/
namespace Canbuskit.Driver

structure PcanTiming where
  brp : Int
  tseg1 : Int
  tseg2 : Int
  deriving DecidableEq

inductive PcanTimingError where
  | unrepresentable
  | noValidTiming
  deriving DecidableEq

def PcanTimingError.text : PcanTimingError → String
  | .unrepresentable => "bitrate cannot be represented with an 80 MHz clock"
  | .noValidTiming => "no valid bit timing found"

/-- The values of a loop variable that counts from 1 up to a limit. -/
def upTo (limit : Int) : List Int := (List.range limit.toNat).map fun i : Nat => 1 + (i : Int)

@[simp] theorem mem_upTo {limit i : Int} : i ∈ upTo limit ↔ 1 ≤ i ∧ i ≤ limit := by
  simp only [upTo,List.mem_map,List.mem_range]
  constructor
  · rintro ⟨j,bound,rfl⟩
    omega
  · rintro ⟨positive,bound⟩
    exact ⟨(i - 1).toNat,by omega,by omega⟩

/-- The results of the search so far, zeros where there are none, with the error of its sample
point. -/
structure PcanSearch where
  timing : PcanTiming
  bestError : Int

def pcanSearchTseg2 (totalTQ maxTseg1 candidateBRP : Int) (search : PcanSearch)
    (candidateTseg2 : Int) : PcanSearch :=
  let candidateTseg1 := totalTQ - 1 - candidateTseg2
  if candidateTseg1 < 1 ∨ maxTseg1 < candidateTseg1 then search
  else
    let samplePoint := (1 + candidateTseg1) * 100 / totalTQ
    let sampleError := samplePoint - 80
    let sampleError := if sampleError < 0 then -sampleError else sampleError
    if sampleError < search.bestError then
      ⟨⟨candidateBRP,candidateTseg1,candidateTseg2⟩,sampleError⟩
    else search

def pcanSearchBRP (targetTQ maxTseg1 maxTseg2 : Int) (search : PcanSearch) (candidateBRP : Int) :
    PcanSearch :=
  if targetTQ % candidateBRP ≠ 0 then search
  else
    let totalTQ := targetTQ / candidateBRP
    (upTo maxTseg2).foldl (pcanSearchTseg2 totalTQ maxTseg1 candidateBRP) search

def findPCANBitTiming (bitrate : UInt32) (maxTseg1 maxTseg2 : Int) :
    Except PcanTimingError PcanTiming :=
  if bitrate = 0 ∨ 80000000 % bitrate ≠ 0 then .error .unrepresentable
  else
    let targetTQ : Int := (80000000 / bitrate).toNat
    let search := (upTo 1024).foldl (pcanSearchBRP targetTQ maxTseg1 maxTseg2) ⟨⟨0,0,0⟩,101⟩
    if search.timing.brp = 0 then .error .noValidTiming else .ok search.timing

namespace PcanTiming

/-- In percent of the bit time, rounded down. -/
def samplePoint (timing : PcanTiming) : Int :=
  100 * (1 + timing.tseg1) / (1 + timing.tseg1 + timing.tseg2)

def sampleError (timing : PcanTiming) : Int := |timing.samplePoint - 80|

/-- A timing within the limits that divides the clock down to the bitrate. -/
structure Admissible (bitrate : UInt32) (maxTseg1 maxTseg2 : Int) (timing : PcanTiming) : Prop where
  brp : 1 ≤ timing.brp ∧ timing.brp ≤ 1024
  tseg1 : 1 ≤ timing.tseg1 ∧ timing.tseg1 ≤ maxTseg1
  tseg2 : 1 ≤ timing.tseg2 ∧ timing.tseg2 ≤ maxTseg2
  rate : timing.brp * (1 + timing.tseg1 + timing.tseg2) * bitrate.toNat = 80000000

/-- What a step of the inner loop considers. -/
def candidate (totalTQ maxTseg1 candidateBRP candidateTseg2 : Int) : List PcanTiming :=
  let candidateTseg1 := totalTQ - 1 - candidateTseg2
  if candidateTseg1 < 1 ∨ maxTseg1 < candidateTseg1 then []
  else [⟨candidateBRP,candidateTseg1,candidateTseg2⟩]

def candidatesOf (targetTQ maxTseg1 maxTseg2 candidateBRP : Int) : List PcanTiming :=
  if targetTQ % candidateBRP ≠ 0 then []
  else (upTo maxTseg2).flatMap (candidate (targetTQ / candidateBRP) maxTseg1 candidateBRP)

/-- What the two loops consider, in their order. -/
def candidates (targetTQ maxTseg1 maxTseg2 : Int) : List PcanTiming :=
  (upTo 1024).flatMap (candidatesOf targetTQ maxTseg1 maxTseg2)

theorem mem_candidate {totalTQ maxTseg1 candidateBRP candidateTseg2 : Int} {timing : PcanTiming} :
    timing ∈ candidate totalTQ maxTseg1 candidateBRP candidateTseg2 ↔
      timing.brp = candidateBRP ∧ timing.tseg2 = candidateTseg2 ∧
        1 + timing.tseg1 + timing.tseg2 = totalTQ ∧ 1 ≤ timing.tseg1 ∧ timing.tseg1 ≤ maxTseg1 := by
  obtain ⟨brp,tseg1,tseg2⟩ := timing
  simp only [candidate]
  split_ifs with skipped
  · simp only [List.not_mem_nil,false_iff]
    omega
  · simp only [List.mem_singleton,PcanTiming.mk.injEq]
    omega

theorem mem_candidates {targetTQ maxTseg1 maxTseg2 : Int} {timing : PcanTiming} :
    timing ∈ candidates targetTQ maxTseg1 maxTseg2 ↔
      (1 ≤ timing.brp ∧ timing.brp ≤ 1024) ∧ (1 ≤ timing.tseg1 ∧ timing.tseg1 ≤ maxTseg1) ∧
        (1 ≤ timing.tseg2 ∧ timing.tseg2 ≤ maxTseg2) ∧
        timing.brp * (1 + timing.tseg1 + timing.tseg2) = targetTQ := by
  simp only [candidates,List.mem_flatMap,mem_upTo]
  constructor
  · rintro ⟨brp,range,member⟩
    unfold candidatesOf at member
    split_ifs at member with skipped
    · cases member
    · simp only [List.mem_flatMap,mem_upTo,mem_candidate] at member
      obtain ⟨tseg2,limits,rfl,rfl,total,tseg1⟩ := member
      refine ⟨range,tseg1,limits,?_⟩
      rw [total]
      exact Int.mul_ediv_cancel' (Int.dvd_of_emod_eq_zero (not_not.mp skipped))
  · rintro ⟨range,tseg1,tseg2,rfl⟩
    have positive : timing.brp ≠ 0 := by omega
    refine ⟨timing.brp,range,?_⟩
    rw [candidatesOf,if_neg (not_not.mpr (Int.mul_emod_right ..)),Int.mul_ediv_cancel_left _ positive]
    simp only [List.mem_flatMap,mem_upTo]
    exact ⟨timing.tseg2,tseg2,mem_candidate.mpr ⟨rfl,rfl,rfl,tseg1⟩⟩

theorem samplePoint_range {timing : PcanTiming} (tseg1 : 1 ≤ timing.tseg1) (tseg2 : 1 ≤ timing.tseg2) :
    0 ≤ timing.samplePoint ∧ timing.samplePoint ≤ 100 := by
  have total : 0 < 1 + timing.tseg1 + timing.tseg2 := by omega
  constructor
  · exact Int.ediv_nonneg (by omega) (by omega)
  · exact Int.ediv_le_of_le_mul total (by omega)

theorem sampleError_lt {timing : PcanTiming} (tseg1 : 1 ≤ timing.tseg1) (tseg2 : 1 ≤ timing.tseg2) :
    timing.sampleError < 101 := by
  obtain ⟨low,high⟩ := samplePoint_range tseg1 tseg2
  rw [sampleError,abs_lt]
  omega

/-- The state of the search when the best of the candidates so far is the given one. -/
def found : Option PcanTiming → PcanSearch
  | none => ⟨⟨0,0,0⟩,101⟩
  | some timing => ⟨timing,timing.sampleError⟩

theorem found_append (seen : List PcanTiming) {timing : PcanTiming} (below : timing.sampleError < 101) :
    found ((seen ++ [timing]).argmin sampleError) =
      if timing.sampleError < (found (seen.argmin sampleError)).bestError then
        ⟨timing,timing.sampleError⟩
      else found (seen.argmin sampleError) := by
  rw [List.argmin_concat]
  cases best : seen.argmin sampleError with
  | none => exact (if_pos below).symm
  | some other =>
    change found (if timing.sampleError < other.sampleError then some timing else some other) =
      if timing.sampleError < other.sampleError then ⟨timing,timing.sampleError⟩ else found (some other)
    by_cases better : timing.sampleError < other.sampleError
    · rw [if_pos better,if_pos better]
      rfl
    · rw [if_neg better,if_neg better]

theorem sampleError_eq (timing : PcanTiming) :
    (if (1 + timing.tseg1) * 100 / (1 + timing.tseg1 + timing.tseg2) - 80 < 0 then
      -((1 + timing.tseg1) * 100 / (1 + timing.tseg1 + timing.tseg2) - 80)
    else (1 + timing.tseg1) * 100 / (1 + timing.tseg1 + timing.tseg2) - 80) = timing.sampleError := by
  rw [sampleError,samplePoint,Int.mul_comm]
  split_ifs with negative
  · exact (abs_of_neg negative).symm
  · exact (abs_of_nonneg (Int.not_lt.mp negative)).symm

theorem pcanSearchTseg2_found {totalTQ maxTseg1 candidateBRP candidateTseg2 : Int}
    (positive : 1 ≤ candidateTseg2) (seen : List PcanTiming) :
    pcanSearchTseg2 totalTQ maxTseg1 candidateBRP (found (seen.argmin sampleError)) candidateTseg2 =
      found ((seen ++ candidate totalTQ maxTseg1 candidateBRP candidateTseg2).argmin sampleError) := by
  unfold pcanSearchTseg2 candidate
  dsimp only
  by_cases skipped : totalTQ - 1 - candidateTseg2 < 1 ∨ maxTseg1 < totalTQ - 1 - candidateTseg2
  · rw [if_pos skipped,if_pos skipped,List.append_nil]
  · have error := sampleError_eq ⟨candidateBRP,totalTQ - 1 - candidateTseg2,candidateTseg2⟩
    dsimp only at error
    rw [show 1 + (totalTQ - 1 - candidateTseg2) + candidateTseg2 = totalTQ by omega] at error
    rw [if_neg skipped,if_neg skipped,error]
    exact (found_append seen (sampleError_lt (by dsimp only; omega) positive)).symm

private theorem foldl_seen {α : Type} {step : PcanSearch → α → PcanSearch}
    (seenAt : α → List PcanTiming) : ∀ (values : List α) (seen : List PcanTiming),
      (∀ value ∈ values, ∀ seen, step (found (seen.argmin sampleError)) value =
        found ((seen ++ seenAt value).argmin sampleError)) →
      values.foldl step (found (seen.argmin sampleError)) =
        found ((seen ++ values.flatMap seenAt).argmin sampleError) := by
  intro values
  induction values with
  | nil =>
    intro seen steps
    rw [List.flatMap_nil,List.append_nil]
    rfl
  | cons value values ih =>
    intro seen steps
    rw [List.foldl_cons,steps value List.mem_cons_self,
      ih _ fun later member => steps later (List.mem_cons_of_mem _ member),
      List.flatMap_cons,List.append_assoc]

theorem pcanSearchBRP_found (targetTQ maxTseg1 maxTseg2 candidateBRP : Int) (seen : List PcanTiming) :
    pcanSearchBRP targetTQ maxTseg1 maxTseg2 (found (seen.argmin sampleError)) candidateBRP =
      found ((seen ++ candidatesOf targetTQ maxTseg1 maxTseg2 candidateBRP).argmin sampleError) := by
  unfold pcanSearchBRP candidatesOf
  split_ifs with skipped
  · rw [List.append_nil]
  · exact foldl_seen _ _ seen fun candidateTseg2 member seen =>
      pcanSearchTseg2_found (mem_upTo.mp member).1 seen

theorem search_eq (targetTQ maxTseg1 maxTseg2 : Int) :
    (upTo 1024).foldl (pcanSearchBRP targetTQ maxTseg1 maxTseg2) ⟨⟨0,0,0⟩,101⟩ =
      found ((candidates targetTQ maxTseg1 maxTseg2).argmin sampleError) := by
  have start : found (([] : List PcanTiming).argmin sampleError) = ⟨⟨0,0,0⟩,101⟩ := rfl
  rw [← start,foldl_seen (candidatesOf targetTQ maxTseg1 maxTseg2) (upTo 1024) [],List.nil_append,
    candidates]
  intro candidateBRP _ seen
  exact pcanSearchBRP_found targetTQ maxTseg1 maxTseg2 candidateBRP seen

end PcanTiming

open PcanTiming

theorem admissible_iff {bitrate : UInt32} {maxTseg1 maxTseg2 : Int} {timing : PcanTiming} :
    timing.Admissible bitrate maxTseg1 maxTseg2 ↔
      ¬(bitrate = 0 ∨ 80000000 % bitrate ≠ 0) ∧
        timing ∈ candidates (80000000 / bitrate).toNat maxTseg1 maxTseg2 := by
  have zero : bitrate = 0 ↔ bitrate.toNat = 0 := UInt32.toNat_inj.symm
  have divides : 80000000 % bitrate = 0 ↔ 80000000 % bitrate.toNat = 0 := by
    rw [← UInt32.toNat_inj,UInt32.toNat_mod]
    rfl
  have target : (80000000 / bitrate).toNat = 80000000 / bitrate.toNat := UInt32.toNat_div ..
  rw [mem_candidates,target,zero,ne_eq,divides]
  constructor
  · rintro ⟨brp,tseg1,tseg2,rate⟩
    have positive : (bitrate.toNat : Int) ≠ 0 := by
      intro none
      rw [none,Int.mul_zero] at rate
      exact absurd rate (by decide)
    have divisor : bitrate.toNat ∣ 80000000 := by
      apply Int.natCast_dvd_natCast.mp
      exact ⟨timing.brp * (1 + timing.tseg1 + timing.tseg2),by rw [Int.mul_comm,rate]; rfl⟩
    refine ⟨?_,brp,tseg1,tseg2,?_⟩
    · rintro (none | inexact)
      · omega
      · exact inexact (Nat.mod_eq_zero_of_dvd divisor)
    · rw [Int.natCast_ediv]
      exact (Int.ediv_eq_of_eq_mul_left positive rate.symm).symm
  · rintro ⟨represented,brp,tseg1,tseg2,rate⟩
    refine ⟨brp,tseg1,tseg2,?_⟩
    rw [rate,Int.natCast_ediv]
    exact Int.ediv_mul_cancel (by omega)

theorem findPCANBitTiming_eq_ok {bitrate : UInt32} {maxTseg1 maxTseg2 : Int} {timing : PcanTiming} :
    findPCANBitTiming bitrate maxTseg1 maxTseg2 = .ok timing ↔
      ¬(bitrate = 0 ∨ 80000000 % bitrate ≠ 0) ∧
        timing ∈ (candidates (80000000 / bitrate).toNat maxTseg1 maxTseg2).argmin sampleError := by
  unfold findPCANBitTiming
  dsimp only
  rw [search_eq]
  by_cases represented : bitrate = 0 ∨ 80000000 % bitrate ≠ 0
  · rw [if_pos represented]
    exact ⟨nofun,fun ⟨divides,_⟩ => absurd represented divides⟩
  · rw [if_neg represented]
    cases best : (candidates (80000000 / bitrate).toNat maxTseg1 maxTseg2).argmin sampleError with
    | none => exact ⟨nofun,fun ⟨_,member⟩ => nomatch member⟩
    | some least =>
      have brp : least.brp ≠ 0 := by
        have range := (mem_candidates.mp (List.argmin_mem best)).1
        omega
      rw [found,if_neg brp,Except.ok.injEq,Option.mem_some_iff]
      exact ⟨fun equal => ⟨represented,equal⟩,And.right⟩

theorem findPCANBitTiming_optimal (bitrate : UInt32) (maxTseg1 maxTseg2 : Int) :
    ((∃ timing, findPCANBitTiming bitrate maxTseg1 maxTseg2 = .ok timing) ↔
      ∃ timing : PcanTiming, timing.Admissible bitrate maxTseg1 maxTseg2) ∧
    ∀ timing, findPCANBitTiming bitrate maxTseg1 maxTseg2 = .ok timing →
      timing.Admissible bitrate maxTseg1 maxTseg2 ∧
      ∀ other : PcanTiming, other.Admissible bitrate maxTseg1 maxTseg2 →
        |timing.samplePoint - 80| ≤ |other.samplePoint - 80| := by
  have sound : ∀ timing, findPCANBitTiming bitrate maxTseg1 maxTseg2 = .ok timing →
      timing.Admissible bitrate maxTseg1 maxTseg2 := by
    intro timing returned
    obtain ⟨represented,best⟩ := findPCANBitTiming_eq_ok.mp returned
    exact admissible_iff.mpr ⟨represented,List.argmin_mem best⟩
  refine ⟨⟨?_,?_⟩,fun timing returned => ⟨sound timing returned,?_⟩⟩
  · rintro ⟨timing,returned⟩
    exact ⟨timing,sound timing returned⟩
  · rintro ⟨timing,admissible⟩
    obtain ⟨represented,member⟩ := admissible_iff.mp admissible
    cases best : (candidates (80000000 / bitrate).toNat maxTseg1 maxTseg2).argmin sampleError with
    | none =>
      rw [List.argmin_eq_none.mp best] at member
      cases member
    | some least => exact ⟨least,findPCANBitTiming_eq_ok.mpr ⟨represented,best⟩⟩
  · intro other admissible
    obtain ⟨_,best⟩ := findPCANBitTiming_eq_ok.mp returned
    have member := (admissible_iff.mp admissible).2
    exact @List.le_of_mem_argmin _ _ _ sampleError _ _ _ member best

end Canbuskit.Driver
