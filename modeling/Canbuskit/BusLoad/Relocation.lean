import Canbuskit.BusLoad.Coverage
import Canbuskit.BusLoad.HardwareWindow

/-! A confirmed transmission is moved from the host slots, where it is found again by the index of
its time, to the hardware slots. The host slots cover what still waits, except for the transmissions
that were clamped into the last slot. The hardware slots refuse what is older than their first. -/
namespace Canbuskit.BusLoad
open Can Rolling Runs

def PendingTx.record (pending : PendingTx) : UInt64 × Int := (pending.key,pending.atTime)

/-- The transmission is not confirmed, and not one of those that were clamped. -/
def PendingTx.waits (clamped : List (UInt64 × Int)) (pending : PendingTx) : Bool :=
  !pending.confirmed && decide (pending.record ∉ clamped)

namespace BusLoadMeter

instance (m : BusLoadMeter) (now : Int) : Decidable (m.AtEdge now) :=
  decidable_of_iff (∃ origin ∈ m.origin, 1000 * millisecond ≤ now - origin ∧
    now - origin ≤ 1999 * millisecond ∧ (now - origin) % millisecond = 0) Iff.rfl

def clamps (m : BusLoadMeter) : Call → List (UInt64 × Int)
  | .recordTx frame now =>
    if m.AtEdge now then [(m.pushed (transmitted frame) now).record] else []
  | _ => []

def clamped (m : BusLoadMeter) : List Call → List (UInt64 × Int)
  | [] => []
  | call :: calls => m.clamps call ++ (m.call call).clamped calls

variable {m : BusLoadMeter} {claims : List Addition} {past more : List (UInt64 × Int)}

theorem clamped_append (m : BusLoadMeter) (calls later : List Call) :
    m.clamped (calls ++ later) = m.clamped calls ++ (m.run calls).clamped later := by
  induction calls generalizing m with
  | nil => rfl
  | cons call calls ih => simp only [List.cons_append,clamped,ih,List.append_assoc,run,List.foldl_cons]

theorem clamped_snoc (m : BusLoadMeter) (calls : List Call) (last : Call) :
    m.clamped (calls ++ [last]) = m.clamped calls ++ (m.run calls).clamps last := by
  rw [clamped_append,clamped,clamped,List.append_nil]

/-- The transmissions whose host records are still expected to be found. -/
def due (m : BusLoadMeter) (clamped : List (UInt64 × Int)) : List Addition :=
  (m.pending.filter (·.waits clamped)).map claim

/-- The meter is new or configured, and its host slots cover what is due. -/
structure Sound (m : BusLoadMeter) (clamped : List (UInt64 × Int)) : Prop where
  opened : m.window = 0 ∨ m.Settled
  fresh : m.Fresh
  backs : m.Backs (m.due clamped)

/-- What a call relocates to a hardware time is not one of the clamped transmissions. -/
def OffEdge (m : BusLoadMeter) (clamped : List (UInt64 × Int)) (call : Call) : Prop :=
  ∀ r, m.Relocates call r → r.frame.timestampUS ≠ 0 → r.pending.record ∉ clamped

theorem filter_waits (pending : List PendingTx) (past more : List (UInt64 × Int)) :
    (pending.filter (·.waits (past ++ more))).Sublist (pending.filter (·.waits past)) := by
  refine List.monotone_filter_right pending fun entry waits => ?_
  simp only [PendingTx.waits,Bool.and_eq_true,decide_eq_true_eq,List.mem_append,not_or] at waits ⊢
  exact ⟨waits.1,waits.2.1⟩

theorem due_waiting (m : BusLoadMeter) (now : Int) (clamped : List (UInt64 × Int)) :
    ((m.waiting now).due clamped).Sublist (m.due clamped) :=
  (List.Sublist.filter _ List.filter_sublist).map _

theorem due_of_base {m other : BusLoadMeter} (same : m.base = other.base)
    (clamped : List (UInt64 × Int)) : m.due clamped = other.due clamped := by
  have pending : m.pending = other.pending := congrArg Base.pending same
  rw [due,due,pending]

theorem Sound.later (sound : m.Sound past) (more : List (UInt64 × Int)) : m.Sound (past ++ more) :=
  ⟨sound.opened,sound.fresh,sound.backs.sublist ((filter_waits _ past more).map _)⟩

theorem pending_split {i : Nat} {pending : PendingTx} (entry : m.pending[i]? = some pending) :
    m.pending = m.pending.take i ++ pending :: m.pending.drop (i + 1) := by
  obtain ⟨inside,rfl⟩ := List.getElem?_eq_some_iff.mp entry
  rw [← List.drop_eq_getElem_cons inside,List.take_append_drop]

theorem due_split {i : Nat} {pending : PendingTx} (entry : m.pending[i]? = some pending)
    (unconfirmed : pending.confirmed = false) (clamped : List (UInt64 × Int)) :
    ((m.confirm i pending).due clamped).Sublist (m.due clamped) ∧
      (pending.record ∉ clamped →
        (m.due clamped).Perm (claim pending :: (m.confirm i pending).due clamped)) ∧
      (m.settle i).due clamped = (m.confirm i pending).due clamped := by
  have whole := pending_split entry
  obtain ⟨inside,_⟩ := List.getElem?_eq_some_iff.mp entry
  have confirmed : (m.confirm i pending).due clamped =
      ((m.pending.take i).filter (·.waits clamped)).map claim ++
        ((m.pending.drop (i + 1)).filter (·.waits clamped)).map claim := by
    simp [due,confirm,PendingTx.waits,List.set_eq_take_append_cons_drop,inside,List.filter_append]
  have before : m.due clamped = ((m.pending.take i).filter (·.waits clamped)).map claim ++
      ([pending].filter (·.waits clamped)).map claim ++
        ((m.pending.drop (i + 1)).filter (·.waits clamped)).map claim := by
    rw [due]
    conv_lhs => rw [whole,← List.singleton_append]
    simp only [List.filter_append,List.map_append,List.append_assoc]
  refine ⟨?_,fun free => ?_,?_⟩
  · rw [confirmed,before]
    exact (List.sublist_append_left _ _).append (.refl _)
  · have waits : pending.waits clamped = true := by simp [PendingTx.waits,unconfirmed,free]
    rw [confirmed,before,List.filter_cons_of_pos waits,List.filter_nil,List.append_assoc]
    exact List.perm_middle
  · rw [confirmed,due,settle,List.eraseIdx_eq_take_drop_succ]
    simp only [List.filter_append,List.map_append]

theorem sent_fields (m : BusLoadMeter) (frame : Frame) (now : Int) :
    (m.sent frame now).origin = (m.addLocked frame now).origin ∧
      (m.sent frame now).slots = (m.addLocked frame now).slots ∧
      (m.sent frame now).window = (m.addLocked frame now).window ∧
      (m.sent frame now).slot = (m.addLocked frame now).slot ∧
      (m.sent frame now).nominalBitrate = (m.addLocked frame now).nominalBitrate ∧
      (m.sent frame now).dataBitrate = (m.addLocked frame now).dataBitrate := by
  simp only [sent,expireEarlyTx,pushPending,expirePending,and_self]

theorem hardware_sent (m : BusLoadMeter) (frame : Frame) (now : Int) :
    (m.sent frame now).hardware = m.hardware := by
  have kept : (m.sent frame now).hardware = (m.addLocked frame now).hardware := by
    simp only [hardware,sent,expireEarlyTx,pushPending,expirePending]
  rw [kept,addLocked]
  rcases m.addDurationLocked_cases (frameOccupancy frame m.nominalBitrate m.dataBitrate) now with
    ⟨_,same⟩ | same | ⟨_,same⟩
  · rw [same]
  · rw [same]
    exact m.hardware_rotate now
  · rw [same]
    exact m.hardware_rotate now

theorem Relocates.hardware {call : Call} {r : Relocation} (relocates : m.Relocates call r) :
    r.meter.hardware = m.hardware := by
  cases relocates with
  | echo | lookAlike => rfl
  | early => exact m.hardware_sent _ _

/-- What a transmission adds is found again, unless it was recorded at the edge. -/
theorem sent_backs (sound : m.Sound past) (settled : m.Settled) (frame : Frame) (now : Int) :
    ∃ kept : List PendingTx,
      (m.sent (transmitted frame) now).pending = kept ++ [m.pushed (transmitted frame) now] ∧
      (m.sent (transmitted frame) now).Settled ∧
      (m.sent (transmitted frame) now).Backs
        ((kept.filter (·.waits (past ++ m.clamps (.recordTx frame now)))).map claim ++
          ([m.pushed (transmitted frame) now].filter
            (·.waits (past ++ m.clamps (.recordTx frame now)))).map claim) := by
  obtain ⟨kept,sub,grown⟩ := m.sent_pending (transmitted frame) now
  obtain ⟨origin,slots,window,slot,nominal,data⟩ := m.sent_fields (transmitted frame) now
  have counted : (m.addLocked (transmitted frame) now).Settled :=
    settled_of_base (base_addDurationLocked m _ now) settled
  have rested : (m.sent (transmitted frame) now).Settled := by
    unfold Settled
    rwa [window,slot,nominal,data]
  have fewer : ((kept.filter (·.waits (past ++ m.clamps (.recordTx frame now)))).map claim).Sublist
      (m.due past) :=
    ((filter_waits _ _ _).trans (sub.filter _)).map _
  refine ⟨kept,grown,rested,?_⟩
  by_cases edge : m.AtEdge now
  · have gone : [m.pushed (transmitted frame) now].filter
        (·.waits (past ++ m.clamps (.recordTx frame now))) = [] := by
      simp [PendingTx.waits,clamps,edge]
    rw [gone,List.map_nil,List.append_nil]
    exact Backs.congr ((sound.backs.add settled _ now).sublist fewer) origin slots
  · have positive := frameOccupancy_pos (transmitted frame) settled.2.2.1 m.dataBitrate
    have fits := (occupancy_fits (transmitted frame) m.nominalBitrate m.dataBitrate).1
    have backed := sound.backs.send settled positive fits edge
    exact Backs.congr (backed.sublist (fewer.append (List.filter_sublist.map _))) origin slots

theorem Relocates.backs (sound : m.Sound past) {call : Call} {r : Relocation}
    (relocates : m.Relocates call r) : r.meter.Settled ∧
      r.meter.Backs (r.meter.due (past ++ m.clamps call)) ∧
      (r.pending.record ∉ past ++ m.clamps call →
        r.meter.Backs (claim r.pending :: r.meter.due (past ++ m.clamps call))) := by
  have settled (opened : m.window ≠ 0) : m.Settled := sound.opened.resolve_left opened
  cases relocates with
  | @echo frame totalBitCount now wrapPeriodUS i pending opened _ _ entry unconfirmed =>
    have backs : (m.waiting now).Backs ((m.waiting now).due past) :=
      sound.backs.sublist (m.due_waiting now past)
    obtain ⟨sub,perm,_⟩ := due_split entry unconfirmed past
    simp only [clamps,List.append_nil]
    refine ⟨settled opened,Backs.congr (backs.sublist sub) rfl rfl,fun free => ?_⟩
    exact Backs.congr (backs.perm (perm free)) rfl rfl
  | @lookAlike frame totalBitCount now wrapPeriodUS i pending opened _ _ entry unconfirmed =>
    have backs : (m.waiting now).Backs ((m.waiting now).due past) :=
      sound.backs.sublist (m.due_waiting now past)
    obtain ⟨sub,perm,same⟩ := due_split entry unconfirmed past
    simp only [clamps,List.append_nil]
    rw [same]
    refine ⟨settled opened,Backs.congr (backs.sublist sub) rfl rfl,fun free => ?_⟩
    exact Backs.congr (backs.perm (perm free)) rfl rfl
  | @early frame now i echo opened found entry =>
    obtain ⟨kept,grown,rested,backs⟩ := sent_backs sound (settled opened) frame now
    have left : due { m.sent (transmitted frame) now with
        earlyTx := (m.sent (transmitted frame) now).earlyTx.eraseIdx i
        pending := (m.sent (transmitted frame) now).pending.dropLast ++
          [{ m.pushed (transmitted frame) now with confirmed := true }] }
        (past ++ m.clamps (.recordTx frame now)) =
        (kept.filter (·.waits (past ++ m.clamps (.recordTx frame now)))).map claim := by
      simp [due,grown,List.filter_append,PendingTx.waits]
    dsimp only
    rw [left]
    refine ⟨rested,Backs.congr (backs.sublist (List.sublist_append_left _ _)) rfl rfl,fun free => ?_⟩
    have waits : (m.pushed (transmitted frame) now).waits
        (past ++ m.clamps (.recordTx frame now)) = true :=
      Bool.and_eq_true_iff.mpr ⟨rfl,decide_eq_true free⟩
    rw [List.filter_cons_of_pos waits,List.filter_nil] at backs
    exact Backs.congr (backs.perm List.perm_append_comm) rfl rfl

theorem Relocation.result_sound {r : Relocation} {clamped : List (UInt64 × Int)}
    (settled : r.meter.Settled) (fresh : r.meter.Fresh) (backs : r.meter.Backs (r.meter.due clamped))
    (found : r.frame.timestampUS ≠ 0 → r.meter.Backs (claim r.pending :: r.meter.due clamped)) :
    r.result.Sound clamped := by
  have same : r.result.due clamped = r.meter.due clamped :=
    due_of_base (base_relocatePending _ _ _ _ _ _) clamped
  refine ⟨.inr (settled_of_base (base_relocatePending _ _ _ _ _ _) settled),?_,?_⟩
  · rw [Relocation.result,relocatePending]
    split
    · exact fresh
    · exact (fresh.congr (r.meter.hardware_removeHostLocked r.pending)).addHardwareLocked _ _ _ _
  · rw [same,Relocation.result,relocatePending]
    split
    · exact backs
    · rename_i timed
      obtain ⟨origin,slots⟩ := (r.meter.removeHostLocked r.pending).host_addHardwareLocked r.frame
        r.now r.wrapPeriodUS r.occupiedNs
      exact ((found timed).remove settled).1.congr origin slots

theorem Sound.waiting (sound : m.Sound past) (now : Int) : (m.waiting now).Sound past :=
  ⟨sound.opened,sound.fresh,Backs.congr (sound.backs.sublist (m.due_waiting now past)) rfl rfl⟩

theorem Sound.call (sound : m.Sound past) {call : Call}
    (inner : m.OffEdge (past ++ m.clamps call) call) :
    (m.call call).Sound (past ++ m.clamps call) := by
  have relocated {r : Relocation} (relocates : m.Relocates call r) :
      r.result.Sound (past ++ m.clamps call) := by
    obtain ⟨settled,backs,found⟩ := relocates.backs sound
    exact Relocation.result_sound settled (sound.fresh.congr relocates.hardware) backs
      fun timed => found (inner r relocates timed)
  cases call with
  | configure config =>
    refine ⟨.inr (m.configure_settled config),fun _ => rfl,fun origin begun => ?_,fun _ => rfl⟩
    cases begun
  | recordTx frame now =>
    by_cases closed : m.window = 0
    · have same : m.recordTx frame now = m := by rw [recordTx,if_pos closed]
      rw [BusLoadMeter.call,same]
      exact sound.later _
    · rcases recordTx_cases closed frame now with same | ⟨r,relocates,same⟩
      · obtain ⟨kept,grown,rested,backs⟩ :=
          sent_backs sound (sound.opened.resolve_left closed) frame now
        rw [BusLoadMeter.call,same]
        refine ⟨.inr rested,sound.fresh.congr (m.hardware_sent _ _),?_⟩
        rw [due,grown,List.filter_append,List.map_append]
        exact backs
      · rw [BusLoadMeter.call,same]
        exact relocated relocates
  | observe frame totalBitCount now wrapPeriodUS =>
    by_cases closed : m.window = 0
    · have same : m.observeWithBitCount frame totalBitCount now wrapPeriodUS = m := by
        rw [observeWithBitCount,if_pos closed]
      rw [BusLoadMeter.call,same]
      exact sound.later _
    · have waits := (sound.later (m.clamps (.observe frame totalBitCount now wrapPeriodUS))).waiting now
      have settled : (m.waiting now).Settled := sound.opened.resolve_left closed
      rcases observe_cases closed frame totalBitCount now wrapPeriodUS with
        ⟨r,relocates,same⟩ | ⟨_,earlyTx,same⟩ | ⟨_,i,pending,_,_,_,same⟩ | ⟨_,_,same⟩
      · rw [BusLoadMeter.call,same]
        exact relocated relocates
      · rw [BusLoadMeter.call,same]
        exact ⟨waits.opened,waits.fresh,Backs.congr waits.backs rfl rfl⟩
      · rw [BusLoadMeter.call,same]
        refine ⟨waits.opened,waits.fresh,Backs.congr (waits.backs.sublist ?_) rfl rfl⟩
        exact ((List.eraseIdx_sublist ..).filter _).map _
      · rw [BusLoadMeter.call,same]
        split
        · have kept := base_addDurationLocked (m.waiting now)
            (m.observedOccupancy frame totalBitCount) now
          refine ⟨.inr (settled_of_base kept settled),?_,?_⟩
          · refine waits.fresh.congr ?_
            rcases (m.waiting now).addDurationLocked_cases (m.observedOccupancy frame totalBitCount)
              now with ⟨_,stays⟩ | stays | ⟨_,stays⟩ <;> rw [stays]
            · exact hardware_rotate _ now
            · exact hardware_rotate (m.waiting now) now
          · rw [due_of_base kept]
            exact waits.backs.add settled _ now
        · have kept := base_addHardwareLocked (m.waiting now) frame now wrapPeriodUS
            (m.observedOccupancy frame totalBitCount)
          obtain ⟨origin,slots⟩ := (m.waiting now).host_addHardwareLocked frame now wrapPeriodUS
            (m.observedOccupancy frame totalBitCount)
          refine ⟨.inr (settled_of_base kept settled),waits.fresh.addHardwareLocked _ _ _ _,?_⟩
          rw [due_of_base kept]
          exact waits.backs.congr origin slots
  | snapshot now =>
    have waits := sound.later (m.clamps (.snapshot now))
    by_cases closed : m.window = 0
    · have same : (m.snapshot now).1 = m := by rw [snapshot,if_pos (.inl closed)]
      rwa [BusLoadMeter.call,same]
    · have settled := sound.opened.resolve_left closed
      rcases m.snapshot_cases now with same | same
      · rwa [BusLoadMeter.call,same]
      · rw [BusLoadMeter.call,same]
        refine Sound.waiting ?_ now
        have rotated : (m.rotate now).Sound (past ++ m.clamps (.snapshot now)) := by
          refine ⟨.inr (settled.rotate now),waits.fresh.congr (m.hardware_rotate now),?_⟩
          rw [due_of_base (base_rotate m now)]
          exact waits.backs.rotate settled now
        split
        · rename_i on
          have kept := base_rotateHardware (m.rotate now) ((m.rotate now).hardwareNow now)
          obtain ⟨origin,slots⟩ :=
            (m.rotate now).host_rotateHardware ((m.rotate now).hardwareNow now)
          obtain ⟨_,_,moved⟩ := (m.rotate now).rotateHardware_clock ((m.rotate now).hardwareNow now)
          refine ⟨.inr (settled_of_base kept (settled.rotate now)),fun off => ?_,?_⟩
          · rw [moved] at off
            exact absurd (on.symm.trans off) (by decide)
          · rw [due_of_base kept]
            exact rotated.backs.congr origin slots
        · exact rotated

theorem run_sound {calls : List Call}
    (inner : Each (fun past call => (run {} past).OffEdge (clamped {} (past ++ [call])) call) calls) :
    (run {} calls).Sound (clamped {} calls) := by
  induction calls using List.reverseRecOn with
  | nil =>
    refine ⟨.inl rfl,fun _ => rfl,?_,fun _ => rfl⟩
    intro origin begun
    cases begun
  | append_singleton calls last ih =>
    obtain ⟨before,final⟩ := each_snoc.mp inner
    rw [clamped_snoc] at final
    rw [run_snoc,clamped_snoc]
    exact (ih before).call final

namespace Relocation

def Inside (r : Relocation) : Prop :=
  ∃ origin, r.meter.origin = some origin ∧ origin ≤ r.pending.atTime ∧
    r.pending.atTime ≤ origin + r.meter.window

/-- The meter when both windows have moved on as the relocation moves them, and nothing else. -/
def aged (r : Relocation) : BusLoadMeter :=
  let m := r.meter.rotate r.pending.atTime
  if r.occupiedNs = 0 then m else m.agedHardware r.frame r.now r.wrapPeriodUS

/-- No frame is lost or doubled, the host slots lose the transmission's occupancy, and the
hardware slots gain the echo's. -/
def Moves (r : Relocation) : Prop :=
  total r.result.slots (·.frames) + total r.result.hwSlots (·.frames) =
    total r.aged.slots (·.frames) + total r.aged.hwSlots (·.frames) ∧
  total r.result.slots (·.occupiedNs) + r.pending.occupiedNs =
    total r.aged.slots (·.occupiedNs) ∧
  total r.result.hwSlots (·.occupiedNs) = total r.aged.hwSlots (·.occupiedNs) + r.occupiedNs

end Relocation

theorem Backs.still {pending : PendingTx} (backs : m.Backs (claim pending :: claims))
    (settled : m.Settled) : m.rotate pending.atTime = m := by
  cases begun : m.origin with
  | none => cases backs.2 begun
  | some origin =>
    have before : pending.atTime < (m.host origin).finish millisecond :=
      (backs.1 origin begun).1 _ (List.mem_cons_self ..)
    rw [rotate_eq settled begun,Window.rotate_within (Int.le_of_lt before)]
    simp only [setHost,host]
    rw [← begun]

theorem Relocation.host_aged (r : Relocation) (still : r.meter.rotate r.pending.atTime = r.meter) :
    r.aged.slots = r.meter.slots := by
  rw [Relocation.aged,still]
  split
  · rfl
  · exact r.meter.host_agedHardware _ _ _

/-- Taking the transmission out of the host slots does not change how the hardware slots take the
echo. -/
theorem Relocation.hardware_result (r : Relocation) (timed : r.frame.timestampUS ≠ 0)
    (settled : r.meter.Settled) (fresh : r.meter.Fresh)
    (still : r.meter.rotate r.pending.atTime = r.meter)
    (recent : r.meter.Recent r.frame.timestampUS r.wrapPeriodUS) (some' : r.occupiedNs ≠ 0) :
    if r.meter.Room r.frame.timestampUS r.now r.wrapPeriodUS then
      ∃ idx < busLoadSlotCount, r.result.hwSlots = alter r.aged.hwSlots idx (·.add r.occupiedNs)
    else r.result.hwSlots = r.aged.hwSlots := by
  have same := r.meter.hardware_removeHostLocked r.pending
  have aged : ((r.meter.removeHostLocked r.pending).agedHardware r.frame r.now
      r.wrapPeriodUS).hardware = r.aged.hardware := by
    rw [agedHardware_congr same,Relocation.aged,if_neg some',still]
  have slots : ((r.meter.removeHostLocked r.pending).agedHardware r.frame r.now
      r.wrapPeriodUS).hwSlots = r.aged.hwSlots :=
    congrArg Hardware.hwSlots aged
  have removed : (r.meter.removeHostLocked r.pending).Settled :=
    settled_of_base (base_removeHostLocked _ _) settled
  have inserted := addHardwareLocked_room removed (fresh.congr same)
    ((hardware_congr same.symm).2.2.2 _ _ recent) r.now some'
  simp only [slots,Room.congr same] at inserted
  rwa [Relocation.result,relocatePending,if_neg timed]

/-- A relocation after any calls, when none of a clamped transmission has come before it, takes the
frame out of the host slots, and moves it exactly when the hardware slots have room for it. -/
theorem relocation_moves_iff {calls : List Call} {call : Call} {r : Relocation}
    (inner : Each (fun past call => (run {} past).OffEdge (clamped {} (past ++ [call])) call)
      (calls ++ [call]))
    (relocates : (run {} calls).Relocates call r) (timed : r.frame.timestampUS ≠ 0)
    (inside : r.Inside) (recent : r.meter.Recent r.frame.timestampUS r.wrapPeriodUS) :
    r.Moves ↔ r.occupiedNs ≠ 0 ∧
      (run {} calls).Room r.frame.timestampUS r.now r.wrapPeriodUS := by
  obtain ⟨before,final⟩ := each_snoc.mp inner
  have sound := run_sound before
  obtain ⟨settled,_,found⟩ := relocates.backs sound
  have free := final r relocates timed
  rw [clamped_snoc] at free
  have backs := found free
  have fresh := sound.fresh.congr relocates.hardware
  rw [← Room.congr relocates.hardware]
  obtain ⟨origin,begun,since,_⟩ := inside
  obtain ⟨frames,occupied⟩ := (backs.remove settled).2 origin begun since
  have still := backs.still settled
  have hostSlots : r.result.slots = (r.meter.removeHostLocked r.pending).slots := by
    rw [Relocation.result,relocatePending,if_neg timed]
    exact (host_addHardwareLocked _ _ _ _ _).2
  have agedSlots : r.aged.slots = r.meter.slots := r.host_aged still
  by_cases zero : r.occupiedNs = 0
  · have hwSlots : r.result.hwSlots = r.aged.hwSlots := by
      rw [Relocation.aged,if_pos zero,still,Relocation.result,relocatePending,if_neg timed,
        addHardwareLocked,if_pos zero]
      exact congrArg Hardware.hwSlots (r.meter.hardware_removeHostLocked r.pending)
    refine iff_of_false ?_ (fun moves => moves.1 zero)
    rintro ⟨kept,_⟩
    rw [hwSlots,hostSlots,agedSlots] at kept
    omega
  · have result := r.hardware_result timed settled fresh still recent zero
    rw [Relocation.Moves,hostSlots,agedSlots]
    by_cases room : r.meter.Room r.frame.timestampUS r.now r.wrapPeriodUS
    · rw [if_pos room] at result
      obtain ⟨idx,inside,grown⟩ := result
      have more := sum_alter (·.frames) r.aged.hwSlots inside (·.add r.occupiedNs)
      have longer := sum_alter (·.occupiedNs) r.aged.hwSlots inside (·.add r.occupiedNs)
      refine iff_of_true ?_ ⟨zero,room⟩
      rw [grown]
      generalize r.aged.hwSlots[idx] = slot at more longer
      change _ + slot.frames = _ + (slot.frames + 1) at more
      change _ + slot.occupiedNs = _ + (slot.occupiedNs + r.occupiedNs) at longer
      simp only [total] at frames occupied ⊢
      omega
    · rw [if_neg room] at result
      refine iff_of_false ?_ (fun moves => room moves.2)
      rintro ⟨kept,_⟩
      rw [result] at kept
      omega

instance (r : Relocation) : Decidable r.Moves := inferInstanceAs (Decidable (_ ∧ _ ∧ _))

instance (m : BusLoadMeter) (rawUS wrapPeriodUS : UInt64) :
    Decidable (m.Recent rawUS wrapPeriodUS) :=
  inferInstanceAs (Decidable (_ → _ → _))

def heard (direction : Direction) (id : UInt32) (timestampUS : UInt64) : Frame :=
  ⟨direction,id,1,(Vector.replicate 64 0).setIfInBounds 0 0x11,false,false,false,timestampUS⟩

def beforeEcho : List Call :=
  [.configure (.default 0 0),.observe (heard .receive 0x100 1000000) 0 0 0,
    .recordTx (heard .transmit 0x123 0) 1000000]

def atEdge : List Call :=
  [.configure (.default 0 0),.recordTx (heard .transmit 0x123 0) 0,
    .recordTx (heard .transmit 0x123 0) 1000000000,.snapshot 1001000000]

/-- The relocation of an echo that confirms the oldest pending transmission. -/
def firstEcho (m : BusLoadMeter) (frame : Frame) (now : Int) (pending : PendingTx) : Relocation :=
  ⟨(m.waiting now).confirm 0 pending,{ pending with confirmed := true },frame,now,0,
    m.observedOccupancy frame 0⟩

/-- A relocation of a timed frame whose records are in their windows, and that does not move it. -/
def Misplaces (calls : List Call) (last : Call) : Prop :=
  ∃ r, (run {} calls).Relocates last r ∧ r.frame.timestampUS ≠ 0 ∧ r.Inside ∧
    r.meter.Recent r.frame.timestampUS r.wrapPeriodUS ∧ ¬ r.Moves

/-- An echo from 0.1 ms before the first hardware time is lost, and a transmission one window after
another is counted twice when the window has moved by the time of its echo. -/
theorem echo_misplaced :
    Misplaces beforeEcho (.observe (heard .transmit 0x123 999900) 0 2000000 0) ∧
    Misplaces atEdge (.observe (heard .transmit 0x123 1000000) 0 1001000000 0) := by
  constructor
  · refine ⟨firstEcho (run {} beforeEcho) (heard .transmit 0x123 999900) 2000000
      ⟨busFrameKey (heard .transmit 0x123 0),1000000,112000,false⟩,?_,?_,⟨1000000,?_⟩,?_⟩
    · exact .echo (by decide +kernel) rfl (by decide +kernel) (by decide +kernel) rfl
    · decide
    · decide +kernel
    · decide +kernel
  · refine ⟨firstEcho (run {} atEdge) (heard .transmit 0x123 1000000) 1001000000
      ⟨busFrameKey (heard .transmit 0x123 0),1000000000,112000,false⟩,?_,?_,⟨1000000,?_⟩,?_⟩
    · exact .echo (by decide +kernel) rfl (by decide +kernel) (by decide +kernel) rfl
    · decide
    · decide +kernel
    · decide +kernel

theorem relocation_moves_iff_later : (firstEcho (run {} beforeEcho) (heard .transmit 0x123 1000100)
    2000000 ⟨busFrameKey (heard .transmit 0x123 0),1000000,112000,false⟩).Moves := by
  have none : clamped {} (beforeEcho ++ [.observe (heard .transmit 0x123 1000100) 0 2000000 0]) =
      [] := by
    decide +kernel
  refine (@relocation_moves_iff beforeEcho (.observe (heard .transmit 0x123 1000100) 0 2000000 0)
    _ ?_ ?_ ?_ ?_ ?_).mpr ?_
  · intro past call later shape r _ _ member
    rw [shape,List.append_cons,clamped_append] at none
    rw [(List.append_eq_nil_iff.mp none).1] at member
    cases member
  · exact .echo (by decide +kernel) rfl (by decide +kernel) (by decide +kernel) rfl
  · decide
  · exact ⟨1000000,by decide +kernel⟩
  · decide +kernel
  · decide +kernel

end BusLoadMeter

end Canbuskit.BusLoad
