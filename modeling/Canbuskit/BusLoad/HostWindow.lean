import Canbuskit.BusLoad.Meter

/-! The host slots are a rolling window of totals. Over any calls without hardware timestamps at
non-decreasing times, a snapshot counts each addition until it is a second old less one slot, and
none that is older than a second. -/
namespace Canbuskit.BusLoad
open Can Rolling

/-- One counting of a frame on the host's clock. -/
structure Addition where
  time : Int
  occupiedNs : Nat
  deriving DecidableEq

def slotOf (entries : List Addition) : BusLoadSlot :=
  ⟨(entries.map (·.occupiedNs)).sum,entries.length⟩

theorem slotOf_snoc (entries : List Addition) (last : Addition) :
    slotOf (entries ++ [last]) = (slotOf entries).add last.occupiedNs := by
  simp [slotOf,BusLoadSlot.add]

namespace BusLoadMeter

/-- The settings that every configuration leaves. -/
def Settled (m : BusLoadMeter) : Prop :=
  m.window = busLoadSlotCount * millisecond ∧ m.slot = millisecond ∧
    m.nominalBitrate ≠ 0 ∧ m.dataBitrate ≠ 0

theorem configure_settled (m : BusLoadMeter) (config : BusConfig) : (m.configure config).Settled := by
  refine ⟨rfl,rfl,?_,?_⟩
  · dsimp only [configure]
    split
    · decide
    · assumption
  · dsimp only [configure]
    split
    · decide
    · assumption

theorem Settled.open {m : BusLoadMeter} (settled : m.Settled) : m.window ≠ 0 := by
  rw [settled.1]
  decide

theorem Settled.windowUS {m : BusLoadMeter} (settled : m.Settled) : m.windowUS.toNat = 1000000 := by
  rw [BusLoadMeter.windowUS,settled.1]
  rfl

theorem Settled.slotUS {m : BusLoadMeter} (settled : m.Settled) : m.slotUS = 1000 := by
  rw [BusLoadMeter.slotUS,settled.2.1]
  rfl

theorem settled_of_base {m other : BusLoadMeter} (same : m.base = other.base)
    (settled : other.Settled) : m.Settled := by
  have window : m.window = other.window := congrArg Base.window same
  have slot : m.slot = other.slot := congrArg Base.slot same
  have nominal : m.nominalBitrate = other.nominalBitrate := congrArg Base.nominalBitrate same
  have data : m.dataBitrate = other.dataBitrate := congrArg Base.dataBitrate same
  unfold Settled
  rwa [window,slot,nominal,data]

/-- The host slots as a window that begins at an origin. -/
def host (m : BusLoadMeter) (origin : Int) : Window BusLoadSlot busLoadSlotCount := ⟨origin,m.slots⟩

def setHost (m : BusLoadMeter) (w : Window BusLoadSlot busLoadSlotCount) : BusLoadMeter :=
  { m with origin := some w.origin, slots := w.slots }

theorem rotate_eq {m : BusLoadMeter} (settled : m.Settled) {origin : Int}
    (begun : m.origin = some origin) (now : Int) :
    m.rotate now = m.setHost ((m.host origin).rotate millisecond {} now) := by
  obtain ⟨window,slot,_⟩ := settled
  have finish : (m.host origin).finish millisecond = origin + m.window := by
    rw [window]
    rfl
  have long : 0 < m.window := by
    rw [window]
    decide
  by_cases within : now ≤ (m.host origin).finish millisecond
  · have unchanged : m.setHost (m.host origin) = m := by
      simp only [setHost,host]
      rw [← begun]
    have inside : now - origin ≤ m.window := by omega
    rw [Window.rotate_within within,unchanged]
    simp only [rotate,begun,inside,if_true,ite_self]
  · have past : (m.host origin).finish millisecond < now := by omega
    have after : ¬ now < origin := by omega
    have outside : ¬ now - origin ≤ m.window := by omega
    have same : now - origin - m.window + millisecond - 1 =
        now - (m.host origin).finish millisecond + millisecond - 1 := by omega
    have least : 1 ≤ (now - (m.host origin).finish millisecond + millisecond - 1) / millisecond := by
      refine Int.le_ediv_of_mul_le (by decide) ?_
      omega
    rw [Window.rotate_past past rfl]
    simp only [rotate,begun,slot,after,outside,same,if_false]
    generalize (now - (m.host origin).finish millisecond + millisecond - 1) / millisecond = count at *
    have positive : ¬ count.toNat < 1 := by omega
    rw [if_neg positive]
    split
    · simp only [setHost,slot]
      rfl
    · simp only [setHost,slot]
      rfl

theorem Settled.rotate {m : BusLoadMeter} (settled : m.Settled) (now : Int) :
    (m.rotate now).Settled := by
  cases begun : m.origin with
  | none =>
    simp only [BusLoadMeter.rotate,begun]
    exact settled
  | some origin =>
    rw [rotate_eq settled begun]
    exact settled

theorem addDurationLocked_eq {m : BusLoadMeter} (settled : m.Settled) {origin : Int}
    {occupiedNs : Nat} {now : Int} (begun : (m.rotate now).origin = some origin)
    (since : origin ≤ now) (positive : 0 < occupiedNs) (fits : occupiedNs < 2 ^ 63) :
    m.addDurationLocked occupiedNs now = (m.rotate now).setHost
      (((m.rotate now).host origin).change millisecond now (·.add occupiedNs)) := by
  have slot := (settled.rotate now).2.1
  have nonneg : 0 ≤ (now - origin) / millisecond :=
    Int.ediv_nonneg (by omega) (by decide)
  rw [addDurationLocked,if_neg (by omega)]
  generalize m.rotate now = rotated at *
  cases rotated
  dsimp only at begun slot
  subst begun slot
  simp only [setHost,Window.change,Window.index,host,
    Int.tdiv_eq_ediv_of_nonneg (show 0 ≤ now - origin by omega)]
  generalize (now - origin) / millisecond = idx at nonneg
  by_cases last : busLoadSlotCount ≤ idx
  · have clamped : min idx.toNat (busLoadSlotCount - 1) = busLoadSlotCount - 1 := by omega
    rw [if_pos last,clamped]
    rfl
  · have kept : min idx.toNat (busLoadSlotCount - 1) = idx.toNat := by omega
    rw [if_neg last,if_neg (by omega),kept]

/-- The frame that a call counts on the host's clock: a transmission, or a received frame without
a hardware timestamp that is not taken for an echo. -/
def addition (m : BusLoadMeter) : Call → Option Addition
  | .recordTx frame now => some ⟨now,frameOccupancy frame m.nominalBitrate m.dataBitrate⟩
  | .observe frame totalBitCount now _ =>
    if frame.direction = .receive ∧ frame.timestampUS = 0 ∧
        (m.expirePending now).findPending frame false now = none then
      some ⟨now,m.observedOccupancy frame totalBitCount⟩
    else none
  | _ => none

/-- The additions with a positive occupancy that some calls make. -/
def additions (m : BusLoadMeter) : List Call → List Addition
  | [] => []
  | first :: calls => ((m.addition first).filter (0 < ·.occupiedNs)).toList ++
      (m.call first).additions calls

theorem additions_snoc (m : BusLoadMeter) (calls : List Call) (last : Call) :
    m.additions (calls ++ [last]) = m.additions calls ++
      (((m.run calls).addition last).filter (0 < ·.occupiedNs)).toList := by
  induction calls generalizing m with
  | nil => simp [additions,run]
  | cons first calls ih =>
    simp only [List.cons_append,additions,ih,List.append_assoc]
    rfl

/-- The time of a call that carries no hardware timestamp. -/
def Call.hostTime : Call → Option Int
  | .recordTx _ now => some now
  | .observe frame _ now _ => if frame.timestampUS = 0 then some now else none
  | .snapshot now => some now
  | .configure _ => none

/-- The host slots from an origin hold some of the additions, and the others are older than the
window less a slot. -/
structure Holds (origin started : Option Int) (slots : Slots) (now : Int) (added : List Addition)
    (w : Window (List Addition) busLoadSlotCount) (dropped : List Addition) : Prop where
  begun : origin = some w.origin
  started : started.isSome
  shown : slots = (w.map slotOf).slots
  since : w.origin ≤ now
  placed : w.Placed (·.time) millisecond
  split : (dropped ++ w.entries).Perm added
  old : ∀ entry ∈ dropped, (busLoadSlotCount - 1) * millisecond < now - entry.time

/-- No hardware time has been seen. -/
def HostOnly (m : BusLoadMeter) : Prop :=
  m.Settled ∧ m.hwInitialized = false ∧ m.hwSlots = clearSlots

def Counts (m : BusLoadMeter) (now : Int) (added : List Addition) : Prop :=
  m.HostOnly ∧ ((m.origin = none ∧ m.slots = clearSlots ∧ added = []) ∨
    ∃ w dropped, Holds m.origin m.started m.slots now added w dropped)

theorem Counts.later {m : BusLoadMeter} {earlier now : Int} {added : List Addition}
    (counts : m.Counts earlier added) (since : earlier ≤ now) : m.Counts now added := by
  obtain ⟨only,unbegun | ⟨w,dropped,holds⟩⟩ := counts
  · exact ⟨only,.inl unbegun⟩
  · have before := holds.since
    refine ⟨only,.inr ⟨w,dropped,{ holds with since := by omega, old := ?_ }⟩⟩
    intro entry member
    have := holds.old entry member
    omega

theorem Counts.rotate {m : BusLoadMeter} {now : Int} {added : List Addition}
    (counts : m.Counts now added) : (m.rotate now).HostOnly ∧ ∃ w dropped,
      Holds (m.rotate now).origin (m.rotate now).started (m.rotate now).slots now added w dropped ∧
      now ≤ w.finish millisecond := by
  obtain ⟨only,⟨origin,slots,rfl⟩ | ⟨w,dropped,holds⟩⟩ := counts
  · have rotated : m.rotate now = { m with origin := some now, started := some now } := by
      simp only [BusLoadMeter.rotate,origin]
    have ahead : now ≤ now + busLoadSlotCount * millisecond := by
      have : (0 : Int) ≤ busLoadSlotCount * millisecond := by decide
      omega
    rw [rotated]
    refine ⟨only,⟨now,Vector.replicate busLoadSlotCount []⟩,[],?_,ahead⟩
    refine ⟨rfl,rfl,?_,Int.le_refl _,?_,?_,by simp⟩
    · simp only [slots,Window.map,Vector.map_replicate]
      rfl
    · intro i inside entry member
      simp at member
    · simp [Window.entries]
  · obtain ⟨lost,split,stale⟩ := holds.placed.rotate_entries (by decide) now
    obtain ⟨_,since,ahead⟩ :=
      Window.rotate_around (show 0 < millisecond by decide) [] holds.since
    have shown : m.host w.origin = w.map slotOf := by
      simp only [host,Window.map,holds.shown]
    have moved : m.rotate now = m.setHost ((w.rotate millisecond [] now).map slotOf) := by
      rw [rotate_eq only.1 holds.begun,Window.map_rotate,shown]
      rfl
    rw [moved]
    refine ⟨only,w.rotate millisecond [] now,dropped ++ lost,?_,ahead⟩
    refine ⟨rfl,holds.started,rfl,since,holds.placed.rotate (by decide) now,?_,?_⟩
    · have perm := holds.split
      rw [split,← List.append_assoc] at perm
      exact perm
    · intro entry member
      rcases List.mem_append.mp member with before | after
      · exact holds.old entry before
      · exact stale entry after

theorem Counts.add {m : BusLoadMeter} {now : Int} {added : List Addition}
    (counts : m.Counts now added) {occupiedNs : Nat} (fits : occupiedNs < 2 ^ 63) :
    (m.addDurationLocked occupiedNs now).Counts now
      (added ++ ((some (⟨now,occupiedNs⟩ : Addition)).filter (0 < ·.occupiedNs)).toList) := by
  by_cases zero : occupiedNs = 0
  · have same : m.addDurationLocked occupiedNs now = m := by
      rw [addDurationLocked,if_pos (.inl zero)]
    rw [same,zero,Option.filter_some]
    simpa using counts
  · have positive : 0 < occupiedNs := by omega
    obtain ⟨only,w,dropped,holds,ahead⟩ := counts.rotate
    have shown : (m.rotate now).host w.origin = w.map slotOf := by
      simp only [host,Window.map,holds.shown]
    have changed : (w.change millisecond now (· ++ [⟨now,occupiedNs⟩])).map slotOf =
        (w.map slotOf).change millisecond now (·.add occupiedNs) :=
      Window.map_change slotOf (fun entries => slotOf_snoc entries ⟨now,occupiedNs⟩) w now
    rw [addDurationLocked_eq counts.1.1 holds.begun holds.since positive fits,shown,← changed]
    refine ⟨only,.inr ⟨w.change millisecond now (· ++ [⟨now,occupiedNs⟩]),dropped,?_⟩⟩
    refine ⟨rfl,holds.started,rfl,holds.since,?_,?_,holds.old⟩
    · exact holds.placed.add (by decide) (by decide) ⟨now,occupiedNs⟩ holds.since ahead
    · have grown := Window.add_entries millisecond w (by decide) now
        (⟨now,occupiedNs⟩ : Addition)
      simp only [positive,decide_true,Option.filter_some,if_true,Option.toList_some]
      refine (grown.append_left dropped).trans ?_
      rw [← List.append_assoc]
      exact holds.split.append_right _

theorem observedOccupancy_fits (m : BusLoadMeter) (frame : Frame) (totalBitCount : UInt16) :
    m.observedOccupancy frame totalBitCount < 2 ^ 63 := by
  obtain ⟨own,measured⟩ := occupancy_fits frame m.nominalBitrate m.dataBitrate
  have small := totalBitCount.toNat_lt
  unfold observedOccupancy
  split
  · exact own
  · exact measured _ (by omega)

theorem relocatePending_untimed {m : BusLoadMeter} {frame : Frame} (untimed : frame.timestampUS = 0)
    (pending : PendingTx) (now : Int) (wrapPeriodUS : UInt64) (occupiedNs : Nat) :
    m.relocatePending pending frame now wrapPeriodUS occupiedNs = m := by
  rw [relocatePending,if_pos untimed]

theorem Counts.recordTx {m : BusLoadMeter} {now : Int} {added : List Addition}
    (counts : m.Counts now added) (early : m.earlyTx = []) (frame : Frame) :
    (m.recordTx frame now).Counts now
      (added ++ ((m.addition (.recordTx frame now)).filter (0 < ·.occupiedNs)).toList) ∧
      (m.recordTx frame now).earlyTx = [] := by
  have opened : m.window ≠ 0 := counts.1.1.open
  have fits := (occupancy_fits frame m.nominalBitrate m.dataBitrate).1
  have grown := counts.add fits
  have kept := congrArg Base.earlyTx (base_addDurationLocked m
    (frameOccupancy frame m.nominalBitrate m.dataBitrate) now)
  have same : m.addLocked { frame with direction := .transmit } now =
      m.addDurationLocked (frameOccupancy frame m.nominalBitrate m.dataBitrate) now :=
    rfl
  simp only [BusLoadMeter.recordTx,opened,if_false,same]
  generalize m.addDurationLocked (frameOccupancy frame m.nominalBitrate m.dataBitrate) now =
    counted at *
  have gone : ((counted.pushPending { frame with direction := .transmit } now).1.expireEarlyTx
      now).earlyTx = [] := by
    have none' : counted.earlyTx = [] := kept.trans early
    simp [expireEarlyTx,pushPending,expirePending,none']
  simp only [gone,List.findIdx?_nil]
  exact ⟨grown,trivial⟩

theorem Counts.observe {m : BusLoadMeter} {now : Int} {added : List Addition}
    (counts : m.Counts now added) (early : m.earlyTx = []) {frame : Frame}
    (untimed : frame.timestampUS = 0) (totalBitCount : UInt16) (wrapPeriodUS : UInt64) :
    (m.observeWithBitCount frame totalBitCount now wrapPeriodUS).Counts now
      (added ++ ((m.addition (.observe frame totalBitCount now wrapPeriodUS)).filter
        (0 < ·.occupiedNs)).toList) ∧
      (m.observeWithBitCount frame totalBitCount now wrapPeriodUS).earlyTx = [] := by
  have opened : m.window ≠ 0 := counts.1.1.open
  have gone : ((m.expirePending now).expireEarlyTx now).earlyTx = [] := by
    simp [expireEarlyTx,expirePending,early]
  have expired : ((m.expirePending now).expireEarlyTx now).Counts now added := counts
  have sought : (m.expirePending now).findPending frame false now =
      ((m.expirePending now).expireEarlyTx now).findPending frame false now :=
    rfl
  simp only [observeWithBitCount,opened,if_false,addition,untimed,true_and,if_true,sought,
    relocatePending_untimed untimed]
  generalize (m.expirePending now).expireEarlyTx now = waiting at *
  cases direction : frame.direction with
  | transmit =>
    have unchanged : waiting.Counts now (added ++ []) ∧ waiting.earlyTx = [] := by
      rw [List.append_nil]
      exact ⟨expired,gone⟩
    simp only [reduceCtorEq,false_and,if_false,Option.filter_none,Option.toList_none]
    split
    · split
      · exact unchanged
      · split
        · exact unchanged
        · exact unchanged
    · exact unchanged
  | receive =>
    simp only [true_and]
    split
    · rename_i i found
      simp only [found,reduceCtorEq,if_false,Option.filter_none,Option.toList_none,List.append_nil]
      split
      · exact ⟨expired,gone⟩
      · simp only [ite_self]
        exact ⟨expired,gone⟩
    · rename_i missed
      have kept := congrArg Base.earlyTx (base_addDurationLocked waiting
        (m.observedOccupancy frame totalBitCount) now)
      simp only [missed,if_true]
      exact ⟨expired.add (m.observedOccupancy_fits frame totalBitCount),kept.trans gone⟩

theorem total_slotOf (w : Window (List Addition) busLoadSlotCount) :
    total (w.map slotOf).slots (·.frames) = w.entries.length ∧
      total (w.map slotOf).slots (·.occupiedNs) = (w.entries.map (·.occupiedNs)).sum := by
  simp only [total,Window.map,Window.entries,Vector.toList_map,List.map_map,List.length_flatten,
    List.map_flatten,List.sum_flatten]
  exact ⟨rfl,rfl⟩

theorem total_clear (amount : BusLoadSlot → Nat) (zero : amount {} = 0) :
    total clearSlots amount = 0 := by
  simp [total,clearSlots,zero]

theorem Counts.snapshot {m : BusLoadMeter} {now : Int} {added : List Addition}
    (counts : m.Counts now added) (early : m.earlyTx = []) :
    (m.snapshot now).1.Counts now added ∧ (m.snapshot now).1.earlyTx = [] ∧
      ∃ (w : Window (List Addition) busLoadSlotCount) (dropped : List Addition),
        w.origin ≤ now ∧ now ≤ w.finish millisecond ∧ w.Placed (·.time) millisecond ∧
        (dropped ++ w.entries).Perm added ∧
        (∀ entry ∈ dropped, (busLoadSlotCount - 1) * millisecond < now - entry.time) ∧
        (m.snapshot now).2.frameCount = w.entries.length ∧
        (m.snapshot now).2.occupiedNs = (w.entries.map (·.occupiedNs)).sum := by
  have opened : m.window ≠ 0 := counts.1.1.open
  have nominal : m.nominalBitrate ≠ 0 := counts.1.1.2.2.1
  obtain ⟨only,w,dropped,holds,ahead⟩ := counts.rotate
  have gone : (m.rotate now).earlyTx = [] :=
    (congrArg Base.earlyTx (base_rotate m now)).trans early
  obtain ⟨frames,occupied⟩ := total_slotOf w
  simp only [BusLoadMeter.snapshot,opened,nominal,or_self,if_false]
  generalize m.rotate now = rotated at *
  obtain ⟨started,begun⟩ := Option.isSome_iff_exists.mp holds.started
  have off : rotated.hwInitialized = false := only.2.1
  have clear : rotated.hwSlots = clearSlots := only.2.2
  have kept : ((rotated.expirePending now).expireEarlyTx now).earlyTx = [] := by
    simp [expireEarlyTx,expirePending,gone]
  have startedAt : ((rotated.expirePending now).expireEarlyTx now).started = some started := begun
  simp only [off,Bool.false_eq_true,if_false,startedAt]
  have host : ((rotated.expirePending now).expireEarlyTx now).slots = (w.map slotOf).slots :=
    holds.shown
  have hardware : ((rotated.expirePending now).expireEarlyTx now).hwSlots = clearSlots := clear
  refine ⟨⟨only,.inr ⟨w,dropped,holds⟩⟩,kept,w,dropped,holds.since,ahead,holds.placed,holds.split,
    holds.old,?_,?_⟩
  · rw [host,hardware,frames,total_clear _ rfl,Nat.add_zero]
  · rw [host,hardware,occupied,total_clear _ rfl,Nat.add_zero]

theorem Counts.call {m : BusLoadMeter} {now : Int} {added : List Addition}
    (counts : m.Counts now added) (early : m.earlyTx = []) {call : Call}
    (timed : call.hostTime = some now) :
    (m.call call).Counts now (added ++ ((m.addition call).filter (0 < ·.occupiedNs)).toList) ∧
      (m.call call).earlyTx = [] := by
  cases call with
  | configure config => simp [Call.hostTime] at timed
  | recordTx frame time =>
    obtain rfl : time = now := by simpa [Call.hostTime] using timed
    exact counts.recordTx early frame
  | observe frame totalBitCount time wrapPeriodUS =>
    by_cases untimed : frame.timestampUS = 0
    · obtain rfl : time = now := by simpa [Call.hostTime,untimed] using timed
      exact counts.observe early untimed totalBitCount wrapPeriodUS
    · simp [Call.hostTime,untimed] at timed
  | snapshot time =>
    obtain rfl : time = now := by simpa [Call.hostTime] using timed
    obtain ⟨after,gone,_⟩ := counts.snapshot early
    simpa [addition] using ⟨after,gone⟩

theorem run_counts (m : BusLoadMeter) (config : BusConfig) {calls : List Call} {times : List Int}
    {now : Int} (timed : calls.map Call.hostTime = times.map some)
    (ordered : (times ++ [now]).Pairwise (· ≤ ·)) :
    ((m.configure config).run calls).Counts now ((m.configure config).additions calls) ∧
      ((m.configure config).run calls).earlyTx = [] := by
  induction calls using List.reverseRecOn generalizing times now with
  | nil => exact ⟨⟨⟨m.configure_settled config,rfl,rfl⟩,.inl ⟨rfl,rfl,rfl⟩⟩,rfl⟩
  | append_singleton calls last ih =>
    rw [List.map_append] at timed
    obtain ⟨past,final,rfl,before,same⟩ := List.map_eq_append_iff.mp timed.symm
    obtain ⟨time,rfl,at'⟩ := List.map_eq_singleton_iff.mp same
    have since : time ≤ now :=
      (List.pairwise_append.mp ordered).2.2 time (by simp) now (by simp)
    obtain ⟨counts,early⟩ := ih before.symm (List.pairwise_append.mp ordered).1
    obtain ⟨counted,gone⟩ := counts.call early at'.symm
    rw [run_snoc,additions_snoc]
    exact ⟨counted.later since,gone⟩

/-- After any calls without hardware timestamps at non-decreasing times, a snapshot shows the
totals of additions among which are all of the last 999 ms and none of more than a second ago. -/
theorem snapshot_accurate (m : BusLoadMeter) (config : BusConfig) (calls : List Call)
    (times : List Int) {now : Int} (timed : calls.map Call.hostTime = times.map some)
    (ordered : (times ++ [now]).Pairwise (· ≤ ·)) :
    let start := m.configure config
    let load := ((start.run calls).snapshot now).2
    ∃ dropped counted : List Addition, (dropped ++ counted).Perm (start.additions calls) ∧
      (∀ addition ∈ dropped, 999 * millisecond < now - addition.time) ∧
      (∀ addition ∈ counted, now - addition.time ≤ 1000 * millisecond) ∧
      load.frameCount = counted.length ∧ load.occupiedNs = (counted.map (·.occupiedNs)).sum := by
  intro start load
  obtain ⟨counts,early⟩ := run_counts m config timed ordered
  obtain ⟨_,_,w,dropped,_,ahead,placed,split,old,frames,occupied⟩ := counts.snapshot early
  refine ⟨dropped,w.entries,split,old,?_,frames,occupied⟩
  intro addition member
  have since := (placed.within (by decide) member).1
  have span : w.finish millisecond = w.origin + 1000 * millisecond := rfl
  omega

/-- A frame without data. -/
def probe : Frame := ⟨.transmit,0x123,0,Vector.replicate 64 0,false,false,false,0⟩

theorem snapshot_accurate_late :
    ∃ dropped counted : List Addition,
      (dropped ++ counted).Perm ((configure {} (.default 0 0)).additions
        [.recordTx probe 0,.recordTx probe 600000000]) ∧
      (∀ addition ∈ dropped, 999 * millisecond < 1500000000 - addition.time) ∧
      (∀ addition ∈ counted, 1500000000 - addition.time ≤ 1000 * millisecond) ∧
      (((configure {} (.default 0 0)).run
        [.recordTx probe 0,.recordTx probe 600000000]).snapshot 1500000000).2.frameCount =
          counted.length ∧
      (((configure {} (.default 0 0)).run
        [.recordTx probe 0,.recordTx probe 600000000]).snapshot 1500000000).2.occupiedNs =
          (counted.map (·.occupiedNs)).sum :=
  snapshot_accurate {} (.default 0 0) _ [0,600000000] rfl (by decide)

end BusLoadMeter

end Canbuskit.BusLoad
