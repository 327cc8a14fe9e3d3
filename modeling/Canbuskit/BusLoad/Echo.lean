import Canbuskit.Lib.Runs
import Canbuskit.BusLoad.Steps

/-! A received frame that looks like a recent transmission is taken for its echo and not counted.
Frames are compared by a key of 64 bits, in which the payload is a polynomial in 131, less than the
number of bytes. Where the key tells the frames apart, each frame left out uses up a transmission. -/
namespace Canbuskit.BusLoad
open Can Runs

structure Transmission where
  frame : Frame
  now : Int
  deriving DecidableEq

def Alike (one other : Frame) : Prop :=
  one.id = other.id ∧ one.dlc = other.dlc ∧ one.fd = other.fd ∧
    sentBytes one 64 = sentBytes other 64
  deriving Decidable

namespace BusLoadMeter

def Call.transmission : Call → Option Transmission
  | .recordTx frame now => some ⟨frame,now⟩
  | _ => none

def leavesOut (m : BusLoadMeter) : Call → Bool
  | .observe frame _ now _ => m.window != 0 && frame.direction == .receive &&
      ((m.expirePending now).findPending frame false now).isSome
  | _ => false

/-- The transmissions not yet used up, where each received frame that is left out must use up one
of the last 100 ms that is like it. -/
inductive Explained : List Call → List Transmission → Prop
  | nil : Explained [] []
  | record {calls unused frame now} (before : Explained calls unused) :
      Explained (calls ++ [.recordTx frame now]) (unused ++ [⟨frame,now⟩])
  | echo {calls front transmission back frame totalBitCount now wrapPeriodUS}
      (before : Explained calls (front ++ transmission :: back))
      (out : (run {} calls).leavesOut (.observe frame totalBitCount now wrapPeriodUS))
      (alike : Alike transmission.frame frame) (recent : now - transmission.now ≤ pendingTxTTL) :
      Explained (calls ++ [.observe frame totalBitCount now wrapPeriodUS]) (front ++ back)
  | other {calls unused call} (before : Explained calls unused) (silent : call.transmission = none)
      (kept : (run {} calls).leavesOut call = false) : Explained (calls ++ [call]) unused

/-- The key tells a received frame from the transmissions of the last 100 ms that differ. -/
def Separated (past : List Call) : Call → Prop
  | .observe frame _ now _ => frame.direction = .receive →
      ∀ transmission ∈ past.filterMap Call.transmission, now - transmission.now ≤ pendingTxTTL →
        busFrameKey transmission.frame = busFrameKey frame → Alike transmission.frame frame
  | _ => True

/-- What the search for an echo sees of a pending transmission. -/
def mark (pending : PendingTx) : UInt64 × Int := (pending.key,pending.atTime)

def marks (m : BusLoadMeter) : List (UInt64 × Int) := m.pending.map mark

theorem marks_of_base {m other : BusLoadMeter} (same : m.base = other.base) :
    m.marks = other.marks := by
  have pending : m.pending = other.pending := congrArg Base.pending same
  rw [marks,marks,pending]

theorem marks_waiting (m : BusLoadMeter) (now : Int) : (m.waiting now).marks.Sublist m.marks :=
  List.Sublist.map _ List.filter_sublist

theorem marks_result (r : Relocation) : r.result.marks = r.meter.marks :=
  marks_of_base (base_relocatePending _ _ _ _ _ _)

theorem marks_confirm (m : BusLoadMeter) {i : Nat} {pending : PendingTx}
    (entry : m.pending[i]? = some pending) : (m.confirm i pending).marks = m.marks := by
  obtain ⟨inside,rfl⟩ := List.getElem?_eq_some_iff.mp entry
  have marked : i < (m.pending.map mark).length := by simpa using inside
  have same : mark { m.pending[i] with confirmed := true } = (m.pending.map mark)[i] := by
    rw [List.getElem_map]
    rfl
  rw [marks,confirm,List.map_set,same,List.set_getElem_self]
  rfl

theorem marks_settle (m : BusLoadMeter) {i : Nat} {pending : PendingTx}
    (entry : m.pending[i]? = some pending) : ∃ front back,
      m.marks = front ++ mark pending :: back ∧ (m.settle i).marks = front ++ back := by
  obtain ⟨inside,rfl⟩ := List.getElem?_eq_some_iff.mp entry
  refine ⟨(m.pending.take i).map mark,(m.pending.drop (i + 1)).map mark,?_,?_⟩
  · rw [marks,← List.map_cons,← List.map_append,← List.drop_eq_getElem_cons inside,
      List.take_append_drop]
  · rw [marks,settle,← List.map_append,List.eraseIdx_eq_take_drop_succ]

theorem marks_recordTx (m : BusLoadMeter) (frame : Frame) (now : Int) :
    ∃ kept, kept.Sublist m.marks ∧ (m.recordTx frame now).marks.Sublist
      (kept ++ [(busFrameKey frame,now)]) := by
  by_cases closed : m.window = 0
  · refine ⟨m.marks,.refl _,?_⟩
    rw [recordTx,if_pos closed]
    exact List.sublist_append_left _ _
  · obtain ⟨kept,sub,grown⟩ := m.sent_pending (transmitted frame) now
    have marked : (m.sent (transmitted frame) now).marks =
        kept.map mark ++ [(busFrameKey frame,now)] := by
      rw [marks,grown,List.map_append]
      rfl
    refine ⟨kept.map mark,sub.map _,?_⟩
    rcases recordTx_cases closed frame now with same | ⟨r,relocates,same⟩
    · rw [same,marked]
    · rw [same,marks_result,← marked]
      cases relocates with
      | early _ _ _ =>
        simp only [marks,grown,List.dropLast_concat,List.map_append]
        exact .refl _

theorem marks_observe (m : BusLoadMeter) (frame : Frame) (totalBitCount : UInt16) (now : Int)
    (wrapPeriodUS : UInt64) :
    if m.leavesOut (.observe frame totalBitCount now wrapPeriodUS) then
      ∃ front found back, (front ++ found :: back).Sublist m.marks ∧ found.1 = busFrameKey frame ∧
        now - found.2 ≤ pendingTxTTL ∧
        (m.observeWithBitCount frame totalBitCount now wrapPeriodUS).marks = front ++ back
    else (m.observeWithBitCount frame totalBitCount now wrapPeriodUS).marks.Sublist m.marks := by
  by_cases closed : m.window = 0
  · have counted : m.leavesOut (.observe frame totalBitCount now wrapPeriodUS) = false := by
      simp [leavesOut,closed]
    rw [counted,observeWithBitCount,if_pos closed]
    exact .refl _
  have sought : (m.expirePending now).findPending frame false now =
      (m.waiting now).findPending frame false now :=
    rfl
  have out (direction : frame.direction = .receive) {i : Nat} {pending : PendingTx}
      (found : (m.waiting now).findPending frame false now = some i)
      (entry : (m.waiting now).pending[i]? = some pending) :
      m.leavesOut (.observe frame totalBitCount now wrapPeriodUS) = true ∧
      ∃ front found back, (front ++ found :: back).Sublist m.marks ∧ found.1 = busFrameKey frame ∧
        now - found.2 ≤ pendingTxTTL ∧ ((m.waiting now).settle i).marks = front ++ back := by
    obtain ⟨other,same,key,_,recent⟩ := findPending_some found
    obtain rfl : pending = other := Option.some.inj (entry.symm.trans same)
    obtain ⟨front,back,before,after⟩ := marks_settle _ entry
    refine ⟨by simp [leavesOut,closed,direction,sought,found],front,mark pending,back,?_,key,recent rfl,after⟩
    rw [← before]
    exact m.marks_waiting now
  rcases observe_cases closed frame totalBitCount now wrapPeriodUS with
    ⟨r,relocates,same⟩ | ⟨direction,earlyTx,same⟩ | ⟨direction,i,pending,found,entry,_,same⟩ |
    ⟨direction,missed,same⟩
  · cases relocates with
    | echo _ direction _ entry _ =>
      have counted : m.leavesOut (.observe frame totalBitCount now wrapPeriodUS) = false := by
        simp [leavesOut,direction]
      rw [counted,same,marks_result,marks_confirm _ entry]
      exact m.marks_waiting now
    | lookAlike _ direction found entry _ =>
      obtain ⟨leaves,shape⟩ := out direction found entry
      rw [if_pos leaves,same,marks_result]
      exact shape
  · have counted : m.leavesOut (.observe frame totalBitCount now wrapPeriodUS) = false := by
      simp [leavesOut,direction]
    rw [counted,same]
    exact m.marks_waiting now
  · obtain ⟨leaves,shape⟩ := out direction found entry
    rw [if_pos leaves,same]
    exact shape
  · have counted : m.leavesOut (.observe frame totalBitCount now wrapPeriodUS) = false := by
      simp [leavesOut,sought,missed]
    have kept : (m.observeWithBitCount frame totalBitCount now wrapPeriodUS).marks =
        (m.waiting now).marks := by
      rw [same]
      split
      · exact marks_of_base (base_addDurationLocked _ _ _)
      · exact marks_of_base (base_addHardwareLocked _ _ _ _ _)
    rw [counted,kept]
    exact m.marks_waiting now

theorem marks_snapshot (m : BusLoadMeter) (now : Int) :
    (m.snapshot now).1.marks.Sublist m.marks := by
  rcases m.snapshot_cases now with same | same
  · rw [same]
  · have aged : (if (m.rotate now).hwInitialized then
        (m.rotate now).rotateHardware ((m.rotate now).hardwareNow now) else m.rotate now).marks =
        m.marks := by
      refine marks_of_base ?_
      split
      · rw [base_rotateHardware,base_rotate]
      · exact base_rotate m now
    rw [same,← aged]
    exact marks_waiting _ now

theorem Explained.recorded {calls : List Call} {unused : List Transmission}
    (explained : Explained calls unused) :
    unused.Sublist (calls.filterMap Call.transmission) := by
  induction explained with
  | nil => exact .refl _
  | record before ih =>
    rw [List.filterMap_append]
    exact ih.append (.refl _)
  | echo before out alike recent ih =>
    rw [List.filterMap_append]
    refine .trans ?_ (ih.trans (List.sublist_append_left _ _))
    exact (List.Sublist.refl _).append (List.sublist_cons_self _ _)
  | other before silent kept ih =>
    rw [List.filterMap_append]
    exact ih.trans (List.sublist_append_left _ _)

def Tracks (m : BusLoadMeter) (unused : List Transmission) : Prop :=
  m.marks.Sublist (unused.map fun transmission =>
    (busFrameKey transmission.frame,transmission.now))

theorem Tracks.use {m after : BusLoadMeter} {unused : List Transmission} (tracks : m.Tracks unused)
    {front back : List (UInt64 × Int)} {found : UInt64 × Int}
    (before : (front ++ found :: back).Sublist m.marks) (left : after.marks = front ++ back) :
    ∃ earlier transmission later, unused = earlier ++ transmission :: later ∧
      busFrameKey transmission.frame = found.1 ∧ transmission.now = found.2 ∧
      after.Tracks (earlier ++ later) := by
  obtain ⟨first,rest,split,among,under⟩ := List.append_sublist_iff.mp (before.trans tracks)
  obtain ⟨middle,last,parted,member,beyond⟩ := List.cons_sublist_iff.mp under
  obtain ⟨left',right',shape⟩ := List.append_of_mem member
  rw [parted,shape] at split
  have flat : unused.map (fun transmission => (busFrameKey transmission.frame,transmission.now)) =
      (first ++ left') ++ found :: (right' ++ last) := by
    rw [split]
    simp
  obtain ⟨earlier,others,rfl,same,tail⟩ := List.map_eq_append_iff.mp flat
  obtain ⟨transmission,later,rfl,here,after'⟩ := List.map_eq_cons_iff.mp tail
  refine ⟨earlier,transmission,later,rfl,congrArg Prod.fst here,congrArg Prod.snd here,?_⟩
  rw [Tracks,left,List.map_append,same,after']
  exact (among.trans (List.sublist_append_left _ _)).append
    (beyond.trans (List.sublist_append_right _ _))

/-- Where the key separates the frames of a run, each left out frame uses up a transmission. -/
theorem echoes_genuine {calls : List Call} (separated : Each Separated calls) :
    ∃ unused, Explained calls unused := by
  suffices stronger : ∃ unused, Explained calls unused ∧ (run {} calls).Tracks unused by
    obtain ⟨unused,explained,_⟩ := stronger
    exact ⟨unused,explained⟩
  induction calls using List.reverseRecOn with
  | nil => exact ⟨[],.nil,.refl _⟩
  | append_singleton calls last ih =>
    obtain ⟨before,tells⟩ := each_snoc.mp separated
    obtain ⟨unused,explained,tracks⟩ := ih before
    rw [run_snoc]
    cases last with
    | configure config =>
      exact ⟨unused,.other explained rfl rfl,List.nil_sublist _⟩
    | snapshot now =>
      exact ⟨unused,.other explained rfl rfl,(marks_snapshot _ now).trans tracks⟩
    | recordTx frame now =>
      obtain ⟨kept,sub,grown⟩ := marks_recordTx (run {} calls) frame now
      refine ⟨unused ++ [⟨frame,now⟩],.record explained,?_⟩
      rw [Tracks,List.map_append]
      exact grown.trans ((sub.trans tracks).append (.refl _))
    | observe frame totalBitCount now wrapPeriodUS =>
      have moves := marks_observe (run {} calls) frame totalBitCount now wrapPeriodUS
      cases out : (run {} calls).leavesOut (.observe frame totalBitCount now wrapPeriodUS) with
      | false =>
        rw [out] at moves
        exact ⟨unused,.other explained rfl out,List.Sublist.trans moves tracks⟩
      | true =>
        rw [if_pos out] at moves
        obtain ⟨front,found,back,sub,key,recent,left⟩ := moves
        obtain ⟨earlier,transmission,later,rfl,same,at',after⟩ := tracks.use sub left
        have direction : frame.direction = .receive := by
          simp only [leavesOut,Bool.and_eq_true,beq_iff_eq] at out
          exact out.1.2
        have recorded := explained.recorded.subset (List.mem_append_right _ (List.mem_cons_self ..))
        rw [← at'] at recent
        exact ⟨earlier ++ later,.echo explained out
          (tells direction _ recorded recent (same.trans key)) recent,after⟩

theorem Explained.out_inv {calls : List Call} {last : Call} {unused : List Transmission}
    (explained : Explained (calls ++ [last]) unused) (out : (run {} calls).leavesOut last = true) :
    ∃ frame totalBitCount now wrapPeriodUS, last = .observe frame totalBitCount now wrapPeriodUS ∧
      ∃ transmission ∈ calls.filterMap Call.transmission, Alike transmission.frame frame := by
  generalize shape : calls ++ [last] = all at explained
  cases explained with
  | nil => simp at shape
  | record before =>
    obtain ⟨rfl,same⟩ := List.append_inj' shape rfl
    cases same
    simp [leavesOut] at out
  | echo before _ alike _ =>
    obtain ⟨rfl,same⟩ := List.append_inj' shape rfl
    cases same
    refine ⟨_,_,_,_,rfl,_,before.recorded.subset ?_,alike⟩
    exact List.mem_append_right _ (List.mem_cons_self ..)
  | other before _ kept =>
    obtain ⟨rfl,same⟩ := List.append_inj' shape rfl
    cases same
    rw [kept] at out
    cases out

def original : Frame :=
  ⟨.transmit,0x123,2,(Vector.replicate 64 0).set 1 131,false,false,false,0⟩

def impostor : Frame :=
  ⟨.receive,0x123,2,(Vector.replicate 64 0).set 0 1,false,false,false,0⟩

/-- Fifty milliseconds after a transmission a frame with another payload is taken for its echo. -/
theorem impostor_left_out : ¬ ∃ unused, Explained
    [.configure (.default 0 0),.recordTx original 0,.observe impostor 0 50000000 0] unused := by
  rintro ⟨unused,explained⟩
  have whole : Explained ([.configure (.default 0 0),.recordTx original 0] ++
      [.observe impostor 0 50000000 0]) unused :=
    explained
  obtain ⟨frame,_,_,_,same,transmission,member,alike⟩ := whole.out_inv (by decide +kernel)
  cases same
  have only : (⟨original,0⟩ : Transmission) = transmission := by
    simpa [Call.transmission] using member
  rw [← only] at alike
  revert alike
  decide +kernel

theorem echoes_genuine_echo : ∃ unused, Explained
    [.configure (.default 0 0),.recordTx original 0,
      .observe { original with direction := .receive } 0 50000000 0] unused := by
  refine echoes_genuine ?_
  have split : ([.configure (.default 0 0),.recordTx original 0,
      .observe { original with direction := .receive } 0 50000000 0] : List Call) =
      [] ++ [.configure (.default 0 0)] ++ [.recordTx original 0] ++
        [.observe { original with direction := .receive } 0 50000000 0] :=
    rfl
  rw [split,each_snoc,each_snoc,each_snoc]
  refine ⟨⟨⟨each_nil _,trivial⟩,trivial⟩,?_⟩
  intro _ transmission member _ _
  have only : (⟨original,0⟩ : Transmission) = transmission := by
    simpa [Call.transmission] using member
  rw [← only]
  exact ⟨rfl,rfl,rfl,rfl⟩

end BusLoadMeter

end Canbuskit.BusLoad
