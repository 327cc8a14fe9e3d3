import Canbuskit.Lib.Runs
import Canbuskit.BusLoad.HostWindow
import Canbuskit.BusLoad.Steps

/-! The host slots cover what is found in them by the index of its time, unless a transmission was
clamped into the last slot. Of what is covered, the record of one transmission can be taken away.
-/
namespace Canbuskit.BusLoad
open Can Rolling

def BusLoadSlot.Covers (slot part : BusLoadSlot) : Prop :=
  part.frames ≤ slot.frames ∧ part.occupiedNs ≤ slot.occupiedNs

def inBucket (origin : Int) (i : Nat) (claim : Addition) : Bool :=
  decide (origin ≤ claim.time ∧ (claim.time - origin) / millisecond = i)

/-- The additions that are found in a slot by the index of their times. -/
def bucket (origin : Int) (i : Nat) (claims : List Addition) : List Addition :=
  claims.filter (inBucket origin i)

/-- No time is at or past the end of the window, and each slot covers what is found in it. -/
def Backed (w : Window BusLoadSlot busLoadSlotCount) (claims : List Addition) : Prop :=
  (∀ claim ∈ claims, claim.time < w.finish millisecond) ∧
  ∀ i (inside : i < busLoadSlotCount), w.slots[i].Covers
    (slotOf (bucket w.origin i claims))

theorem BusLoadSlot.Covers.trans {slot part less : BusLoadSlot} (covers : slot.Covers part)
    (more : part.Covers less) : slot.Covers less :=
  ⟨Nat.le_trans more.1 covers.1,Nat.le_trans more.2 covers.2⟩

theorem slotOf_sublist {fewer more : List Addition} (sub : fewer.Sublist more) :
    (slotOf more).Covers (slotOf fewer) := by
  refine ⟨sub.length_le,?_⟩
  exact (sub.map Addition.occupiedNs).sum_le_sum fun _ _ => Nat.zero_le _

theorem slotOf_perm {one other : List Addition} (perm : one.Perm other) :
    slotOf one = slotOf other := by
  simp only [slotOf,perm.length_eq,(perm.map Addition.occupiedNs).sum_eq]

namespace Backed

variable {w : Window BusLoadSlot busLoadSlotCount} {claims : List Addition}

theorem sublist (backed : Backed w claims) {fewer : List Addition} (sub : fewer.Sublist claims) :
    Backed w fewer := by
  refine ⟨fun claim member => backed.1 claim (sub.subset member),fun i inside => ?_⟩
  exact (backed.2 i inside).trans (slotOf_sublist (sub.filter _))

theorem perm (backed : Backed w claims) {others : List Addition} (same : claims.Perm others) :
    Backed w others := by
  refine ⟨fun claim member => backed.1 claim (same.mem_iff.mpr member),fun i inside => ?_⟩
  rw [bucket,← slotOf_perm (same.filter _)]
  exact backed.2 i inside

theorem grow (backed : Backed w claims) {slots : Slots}
    (more : ∀ i (inside : i < busLoadSlotCount), slots[i].Covers w.slots[i]) :
    Backed ⟨w.origin,slots⟩ claims :=
  ⟨backed.1,fun i inside => (more i inside).trans (backed.2 i inside)⟩

theorem alter_add (slots : Slots) (idx occupiedNs : Nat) (i : Nat) (inside : i < busLoadSlotCount) :
    (alter slots idx (·.add occupiedNs))[i].Covers slots[i] := by
  rw [getElem_alter]
  split
  · exact ⟨Nat.le_succ _,Nat.le_add_right _ _⟩
  · exact ⟨Nat.le_refl _,Nat.le_refl _⟩

theorem bucket_index (backed : Backed w claims) {i : Nat} {claim : Addition}
    (member : claim ∈ bucket w.origin i claims) : i < busLoadSlotCount := by
  obtain ⟨among,found⟩ := List.mem_filter.mp member
  obtain ⟨since,index⟩ := of_decide_eq_true found
  have before := backed.1 claim among
  unfold Window.finish at before
  unfold millisecond busLoadSlotCount at *
  omega

theorem rotate (backed : Backed w claims) (now : Int) :
    Backed (w.rotate millisecond {} now) claims := by
  rcases Window.rotate_cases (show 0 < millisecond by decide) {} w now with
    ⟨_,same⟩ | ⟨count,fewer,_,moved,_⟩ | ⟨far,cleared⟩
  · rwa [same]
  · rw [moved]
    have ahead : (0 : Int) ≤ count * millisecond := Int.mul_nonneg (by omega) (by decide)
    refine ⟨fun claim member => ?_,fun i inside => ?_⟩
    · have := backed.1 claim member
      unfold Window.finish at this ⊢
      dsimp only
      omega
    · have same : bucket (w.origin + count * millisecond) i claims =
          bucket w.origin (i + count) claims := by
        refine List.filter_congr fun claim _ => decide_eq_decide.mpr ?_
        unfold millisecond
        omega
      rw [getElem_shift]
      dsimp only
      rw [same]
      split
      · exact backed.2 _ _
      · have none' : bucket w.origin (i + count) claims = [] := by
          refine List.eq_nil_iff_forall_not_mem.mpr fun claim member => ?_
          have := backed.bucket_index member
          omega
        rw [none']
        exact ⟨Nat.le_refl _,Nat.le_refl _⟩
  · rw [cleared]
    have passed (claim : Addition) (member : claim ∈ claims) : claim.time < now := by
      have before := backed.1 claim member
      have span : (0 : Int) ≤ (busLoadSlotCount - 1) * millisecond := by decide
      omega
    refine ⟨fun claim member => ?_,fun i inside => ?_⟩
    · have before := passed claim member
      have span : (0 : Int) ≤ busLoadSlotCount * millisecond := by decide
      unfold Window.finish
      dsimp only
      omega
    · have none' : bucket now i claims = [] := by
        refine List.eq_nil_iff_forall_not_mem.mpr fun claim member => ?_
        obtain ⟨among,found⟩ := List.mem_filter.mp member
        have since := (of_decide_eq_true found).1
        have before := passed claim among
        omega
      dsimp only
      rw [none']
      exact ⟨Nat.zero_le _,Nat.zero_le _⟩

theorem push (backed : Backed w claims) (claim : Addition) (since : w.origin ≤ claim.time)
    (before : claim.time < w.finish millisecond) :
    Backed (w.change millisecond claim.time (·.add claim.occupiedNs)) (claims ++ [claim]) := by
  refine ⟨fun other member => ?_,fun i inside => ?_⟩
  · rcases List.mem_append.mp member with old | new
    · exact backed.1 other old
    · rw [List.mem_singleton.mp new]
      exact before
  · have covered := backed.2 i inside
    have index : w.index millisecond claim.time = ((claim.time - w.origin) / millisecond).toNat := by
      unfold Window.finish at before
      unfold Window.index millisecond busLoadSlotCount at *
      omega
    have nonneg : 0 ≤ (claim.time - w.origin) / millisecond :=
      Int.ediv_nonneg (by omega) (by decide)
    simp only [Window.change,getElem_alter,index,bucket,List.filter_append]
    by_cases here : ((claim.time - w.origin) / millisecond).toNat = i
    · have found : inBucket w.origin i claim = true := decide_eq_true ⟨since,by omega⟩
      rw [if_pos here,List.filter_singleton,found,cond_true,slotOf_snoc]
      exact ⟨Nat.succ_le_succ covered.1,Nat.add_le_add_right covered.2 _⟩
    · have other : inBucket w.origin i claim = false :=
        decide_eq_false fun found => here (by omega)
      rw [if_neg here,List.filter_singleton,other,cond_false,List.append_nil]
      exact covered

/-- A claim that its window still has is covered by the slot at the index of its time, and without
it the slot covers the others. -/
theorem pull {claim : Addition} (backed : Backed w (claim :: claims))
    (since : w.origin ≤ claim.time) :
    ∃ idx, ∃ inside : idx < busLoadSlotCount, (claim.time - w.origin) / millisecond = idx ∧
      0 < w.slots[idx].frames ∧ claim.occupiedNs ≤ w.slots[idx].occupiedNs ∧
      Backed ⟨w.origin,alter w.slots idx (·.remove claim.occupiedNs)⟩ claims := by
  have nonneg : 0 ≤ (claim.time - w.origin) / millisecond :=
    Int.ediv_nonneg (by omega) (by decide)
  obtain ⟨idx,index⟩ := Int.eq_ofNat_of_zero_le nonneg
  have found : inBucket w.origin idx claim = true := decide_eq_true ⟨since,index⟩
  have own : bucket w.origin idx (claim :: claims) = claim :: bucket w.origin idx claims :=
    List.filter_cons_of_pos found
  have member : claim ∈ bucket w.origin idx (claim :: claims) := by
    rw [own]
    exact List.mem_cons_self ..
  have inside := backed.bucket_index member
  have covered := backed.2 idx inside
  rw [own] at covered
  simp only [BusLoadSlot.Covers,slotOf,List.length_cons,List.map_cons,List.sum_cons] at covered
  refine ⟨idx,inside,index,by omega,by omega,?_,fun i below => ?_⟩
  · exact fun other member => backed.1 other (List.mem_cons_of_mem _ member)
  · dsimp only
    rw [getElem_alter]
    split
    · rename_i here
      subst here
      simp only [BusLoadSlot.Covers,BusLoadSlot.remove,slotOf]
      omega
    · exact (backed.2 i below).trans (slotOf_sublist ((List.sublist_cons_self _ _).filter _))

theorem stale (backed : Backed w claims) {claim : Addition} (before : claim.time < w.origin) :
    Backed w (claims ++ [claim]) := by
  refine ⟨fun other member => ?_,fun i inside => ?_⟩
  · rcases List.mem_append.mp member with old | new
    · exact backed.1 other old
    · have span : (0 : Int) ≤ busLoadSlotCount * millisecond := by decide
      rw [List.mem_singleton.mp new]
      unfold Window.finish
      omega
  · have other : inBucket w.origin i claim = false :=
      decide_eq_false fun found => by omega
    rw [bucket,List.filter_append,List.filter_singleton,other,cond_false,List.append_nil]
    exact backed.2 i inside

end Backed

namespace BusLoadMeter

/-- The host slots cover what is claimed from them. -/
def Backs (m : BusLoadMeter) (claims : List Addition) : Prop :=
  (∀ origin, m.origin = some origin → Backed (m.host origin) claims) ∧
    (m.origin = none → claims = [])

/-- A time that is clamped into the last slot: a whole number of slots after the window's origin,
and not so late that the window begins anew. -/
def AtEdge (m : BusLoadMeter) (now : Int) : Prop :=
  ∃ origin, m.origin = some origin ∧ 1000 * millisecond ≤ now - origin ∧
    now - origin ≤ 1999 * millisecond ∧ (now - origin) % millisecond = 0

variable {m : BusLoadMeter} {claims : List Addition}

theorem Backs.sublist (backs : m.Backs claims) {fewer : List Addition}
    (sub : fewer.Sublist claims) : m.Backs fewer := by
  refine ⟨fun origin begun => (backs.1 origin begun).sublist sub,fun none' => ?_⟩
  rw [backs.2 none'] at sub
  exact List.sublist_nil.mp sub

theorem Backs.perm (backs : m.Backs claims) {others : List Addition} (same : claims.Perm others) :
    m.Backs others := by
  refine ⟨fun origin begun => (backs.1 origin begun).perm same,fun none' => ?_⟩
  rw [backs.2 none'] at same
  exact List.nil_perm.mp same

theorem Backs.congr (backs : m.Backs claims) {other : BusLoadMeter}
    (origin : other.origin = m.origin) (slots : other.slots = m.slots) : other.Backs claims := by
  unfold Backs host at backs ⊢
  rwa [origin,slots]

theorem rotate_none (unbegun : m.origin = none) (now : Int) :
    m.rotate now = { m with origin := some now, started := some now } := by
  simp only [rotate,unbegun]

theorem Backs.rotate (backs : m.Backs claims) (settled : m.Settled) (now : Int) :
    (m.rotate now).Backs claims := by
  cases begun : m.origin with
  | none =>
    rw [rotate_none begun,backs.2 begun]
    refine ⟨fun origin _ => ⟨fun claim member => ?_,fun i inside => ?_⟩,fun _ => rfl⟩
    · simp at member
    · exact ⟨Nat.zero_le _,Nat.zero_le _⟩
  | some origin =>
    rw [rotate_eq settled begun]
    refine ⟨?_,fun none' => by cases none'⟩
    rintro _ ⟨⟩
    exact (backs.1 origin begun).rotate now

theorem rotate_begun (m : BusLoadMeter) (settled : m.Settled) (now : Int) :
    ∃ origin, (m.rotate now).origin = some origin := by
  cases begun : m.origin with
  | none => exact ⟨now,by rw [rotate_none begun]⟩
  | some origin => exact ⟨_,by rw [rotate_eq settled begun]; rfl⟩

theorem addDurationLocked_cases (m : BusLoadMeter) (occupiedNs : Nat) (now : Int) :
    ((occupiedNs = 0 ∨ 2 ^ 63 ≤ occupiedNs) ∧ m.addDurationLocked occupiedNs now = m) ∨
    m.addDurationLocked occupiedNs now = m.rotate now ∨
    ∃ idx, m.addDurationLocked occupiedNs now =
      { m.rotate now with slots := alter (m.rotate now).slots idx (·.add occupiedNs) } := by
  unfold addDurationLocked
  split
  · rename_i nothing
    exact .inl ⟨nothing,rfl⟩
  · dsimp only
    split
    · exact .inr (.inl rfl)
    · split
      · split
        · exact .inr (.inl rfl)
        · exact .inr (.inr ⟨_,rfl⟩)
      · split
        · exact .inr (.inl rfl)
        · exact .inr (.inr ⟨_,rfl⟩)

theorem Backs.add (backs : m.Backs claims) (settled : m.Settled) (occupiedNs : Nat) (now : Int) :
    (m.addDurationLocked occupiedNs now).Backs claims := by
  have rotated := backs.rotate settled now
  rcases m.addDurationLocked_cases occupiedNs now with ⟨_,same⟩ | same | ⟨idx,same⟩
  · rwa [same]
  · rwa [same]
  · rw [same]
    exact ⟨fun origin begun => (rotated.1 origin begun).grow fun i inside =>
      Backed.alter_add _ idx occupiedNs i inside,rotated.2⟩

/-- Off the edge, a window that is moved to a time ends after it. -/
theorem rotate_inner (settled : m.Settled) {now origin : Int} (inner : ¬ m.AtEdge now)
    (begun : (m.rotate now).origin = some origin) : now < origin + 1000 * millisecond := by
  cases before : m.origin with
  | none =>
    rw [rotate_none before] at begun
    obtain rfl : now = origin := Option.some.inj begun
    unfold millisecond
    omega
  | some old =>
    rw [rotate_eq settled before] at begun
    have same : ((m.host old).rotate millisecond {} now).origin = origin := Option.some.inj begun
    have finish : (m.host old).finish millisecond = old + 1000 * millisecond := rfl
    have apart (elapsed : 1000 * millisecond ≤ now - old) (short : now - old ≤ 1999 * millisecond) :
        (now - old) % millisecond ≠ 0 :=
      fun whole => inner ⟨old,before,elapsed,short,whole⟩
    rcases Window.rotate_cases (show 0 < millisecond by decide) {} (m.host old) now with
      ⟨within,kept⟩ | ⟨count,fewer,past,moved,far,close⟩ | ⟨_,cleared⟩
    · rw [kept] at same
      change old = origin at same
      unfold millisecond at *
      omega
    · rw [moved] at same
      change old + count * millisecond = origin at same
      unfold busLoadSlotCount at fewer
      unfold millisecond at *
      omega
    · rw [cleared] at same
      change now = origin at same
      unfold millisecond
      omega

theorem Backs.send (backs : m.Backs claims) (settled : m.Settled) {occupiedNs : Nat} {now : Int}
    (positive : 0 < occupiedNs) (fits : occupiedNs < 2 ^ 63) (inner : ¬ m.AtEdge now) :
    (m.addDurationLocked occupiedNs now).Backs (claims ++ [⟨now,occupiedNs⟩]) := by
  obtain ⟨origin,begun⟩ := m.rotate_begun settled now
  have backed := (backs.rotate settled now).1 origin begun
  by_cases since : origin ≤ now
  · rw [addDurationLocked_eq settled begun since positive fits]
    refine ⟨?_,fun none' => by cases none'⟩
    rintro _ ⟨⟩
    exact backed.push ⟨now,occupiedNs⟩ since (rotate_inner settled inner begun)
  · have earlier : now < origin := by omega
    rcases m.addDurationLocked_cases occupiedNs now with ⟨nothing,_⟩ | same | ⟨idx,same⟩
    · omega
    · rw [same]
      refine ⟨fun other found => ?_,fun none' => by rw [begun] at none'; cases none'⟩
      obtain rfl : origin = other := Option.some.inj (begun.symm.trans found)
      exact backed.stale earlier
    · rw [same]
      refine ⟨fun other found => ?_,fun none' => by cases none'.symm.trans begun⟩
      obtain rfl : origin = other := Option.some.inj (begun.symm.trans found)
      exact (backed.grow fun i inside => Backed.alter_add _ idx occupiedNs i inside).stale earlier

/-- A pending transmission as the host slots count it. -/
def claim (pending : PendingTx) : Addition := ⟨pending.atTime,pending.occupiedNs⟩

/-- Taking a covered transmission out of the host slots leaves the others covered; if the window
still has it, its slot loses one frame and its occupancy. -/
theorem Backs.remove {pending : PendingTx} (backs : m.Backs (claim pending :: claims))
    (settled : m.Settled) : (m.removeHostLocked pending).Backs claims ∧
      ∀ origin, m.origin = some origin → origin ≤ pending.atTime →
        total (m.removeHostLocked pending).slots (·.frames) + 1 = total m.slots (·.frames) ∧
        total (m.removeHostLocked pending).slots (·.occupiedNs) + pending.occupiedNs =
          total m.slots (·.occupiedNs) := by
  cases begun : m.origin with
  | none => cases backs.2 begun
  | some origin =>
    have backed := backs.1 origin begun
    have before : pending.atTime < (m.host origin).finish millisecond :=
      backed.1 _ (List.mem_cons_self ..)
    have still : m.rotate pending.atTime = m := by
      rw [rotate_eq settled begun,Window.rotate_within (Int.le_of_lt before)]
      simp only [setHost,host]
      rw [← begun]
    by_cases since : origin ≤ pending.atTime
    · obtain ⟨idx,inside,index,frames,occupied,rest⟩ := backed.pull since
      have removed : m.removeHostLocked pending =
          { m with slots := alter m.slots idx (·.remove pending.occupiedNs) } := by
        have entry : m.slots.toList.getD idx {} = m.slots[idx] := by
          rw [List.getD_eq_getElem?_getD,List.getElem?_eq_getElem (by simpa using inside),
            Vector.getElem_toList]
          rfl
        have position : ((pending.atTime - origin) / m.slot).toNat = idx := by
          rw [settled.2.1]
          exact congrArg Int.toNat index
        have kept : ¬ (m.slots[idx].frames = 0 ∨ m.slots[idx].occupiedNs < pending.occupiedNs) := by
          rintro (zero | less)
          · exact Nat.ne_of_gt frames zero
          · exact Nat.not_le_of_lt less occupied
        simp only [removeHostLocked,still,begun,position,show ¬ pending.atTime < origin by omega,
          show ¬ busLoadSlotCount ≤ idx by omega,entry,kept,if_false]
      have fewer := sum_alter (·.frames) m.slots inside (·.remove pending.occupiedNs)
      have less := sum_alter (·.occupiedNs) m.slots inside (·.remove pending.occupiedNs)
      have frames' : 0 < m.slots[idx].frames := frames
      have occupied' : pending.occupiedNs ≤ m.slots[idx].occupiedNs := occupied
      generalize m.slots[idx] = slot at fewer less frames' occupied'
      rw [removed]
      refine ⟨⟨?_,fun none' => by cases begun.symm.trans none'⟩,fun _ _ _ => ?_⟩
      · intro other found
        obtain rfl : origin = other := Option.some.inj (begun.symm.trans found)
        exact rest
      · change _ + slot.frames = _ + (slot.frames - 1) at fewer
        change _ + slot.occupiedNs = _ + (slot.occupiedNs - pending.occupiedNs) at less
        simp only [total]
        omega
    · have kept : m.removeHostLocked pending = m := by
        simp only [removeHostLocked,still,begun,show pending.atTime < origin by omega,if_true]
      rw [kept]
      refine ⟨backs.sublist (List.sublist_cons_self _ _),fun other found late => ?_⟩
      obtain rfl : origin = other := Option.some.inj found
      exact absurd late since

end BusLoadMeter

end Canbuskit.BusLoad
