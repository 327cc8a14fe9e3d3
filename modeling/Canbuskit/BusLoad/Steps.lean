import Canbuskit.BusLoad.Meter

/-! What each operation of the meter does, told once: which pending transmission a frame finds,
and how a call ends. A transmission that is confirmed with a hardware time is relocated, at each of
three places. -/
namespace Canbuskit.BusLoad
open Can

namespace BusLoadMeter

/-- The meter after what has waited too long is gone. -/
def waiting (m : BusLoadMeter) (now : Int) : BusLoadMeter := (m.expirePending now).expireEarlyTx now

def transmitted (frame : Frame) : Frame := { frame with direction := .transmit }

/-- The meter that a transmission leaves before it looks for an early echo. -/
def sent (m : BusLoadMeter) (frame : Frame) (now : Int) : BusLoadMeter :=
  ((m.addLocked frame now).pushPending frame now).1.expireEarlyTx now

/-- The arguments of a call of `relocatePending`. -/
structure Relocation where
  meter : BusLoadMeter
  pending : PendingTx
  frame : Frame
  now : Int
  wrapPeriodUS : UInt64
  occupiedNs : Nat

def Relocation.result (r : Relocation) : BusLoadMeter :=
  r.meter.relocatePending r.pending r.frame r.now r.wrapPeriodUS r.occupiedNs

/-- The meter with a pending transmission confirmed. -/
def confirm (m : BusLoadMeter) (i : Nat) (pending : PendingTx) : BusLoadMeter :=
  { m with pending := m.pending.set i { pending with confirmed := true } }

def settle (m : BusLoadMeter) (i : Nat) : BusLoadMeter :=
  { m with pending := m.pending.eraseIdx i }

/-- The entry that a transmission pushes. -/
def pushed (m : BusLoadMeter) (frame : Frame) (now : Int) : PendingTx :=
  ⟨busFrameKey frame,now,frameOccupancy frame m.nominalBitrate m.dataBitrate,false⟩

/-- The calls of `relocatePending`: for a transmit echo, for a received frame that looks like a
transmission, and for an echo that came before its transmission. -/
inductive Relocates (m : BusLoadMeter) : Call → Relocation → Prop
  | echo {frame totalBitCount now wrapPeriodUS i pending} (opened : m.window ≠ 0)
      (direction : frame.direction = .transmit)
      (found : (m.waiting now).findPending frame true now = some i)
      (entry : (m.waiting now).pending[i]? = some pending) (unconfirmed : pending.confirmed = false) :
      Relocates m (.observe frame totalBitCount now wrapPeriodUS)
        ⟨(m.waiting now).confirm i pending,{ pending with confirmed := true },frame,now,wrapPeriodUS,
          m.observedOccupancy frame totalBitCount⟩
  | lookAlike {frame totalBitCount now wrapPeriodUS i pending} (opened : m.window ≠ 0)
      (direction : frame.direction = .receive)
      (found : (m.waiting now).findPending frame false now = some i)
      (entry : (m.waiting now).pending[i]? = some pending) (unconfirmed : pending.confirmed = false) :
      Relocates m (.observe frame totalBitCount now wrapPeriodUS)
        ⟨(m.waiting now).settle i,pending,frame,now,wrapPeriodUS,
          m.observedOccupancy frame totalBitCount⟩
  | early {frame : Frame} {now i echo} (opened : m.window ≠ 0)
      (found : (m.sent (transmitted frame) now).earlyTx.findIdx?
        (fun echo => busFrameKey echo.frame == busFrameKey (transmitted frame)) = some i)
      (entry : (m.sent (transmitted frame) now).earlyTx[i]? = some echo) :
      Relocates m (.recordTx frame now)
        ⟨{ m.sent (transmitted frame) now with
            earlyTx := (m.sent (transmitted frame) now).earlyTx.eraseIdx i
            pending := (m.sent (transmitted frame) now).pending.dropLast ++
              [{ m.pushed (transmitted frame) now with confirmed := true }] },
          { m.pushed (transmitted frame) now with confirmed := true },echo.frame,echo.atTime,echo.wrapPeriodUS,
          echo.occupiedNs⟩

theorem findPending_some {m : BusLoadMeter} {frame : Frame} {unconfirmedOnly : Bool} {now : Int}
    {i : Nat} (found : m.findPending frame unconfirmedOnly now = some i) :
    ∃ pending, m.pending[i]? = some pending ∧ pending.key = busFrameKey frame ∧
      (unconfirmedOnly = true → pending.confirmed = false) ∧
      (unconfirmedOnly = false → now - pending.atTime ≤ pendingTxTTL) := by
  obtain ⟨inside,accepted,_⟩ := List.findIdx?_eq_some_iff_getElem.mp found
  refine ⟨m.pending[i],List.getElem?_eq_getElem inside,?_⟩
  simp only [Bool.not_eq_true',Bool.or_eq_false_iff,bne_eq_false_iff_eq,Bool.and_eq_false_iff,
    Bool.not_eq_false',decide_eq_false_iff_not] at accepted
  obtain ⟨⟨key,confirmed⟩,recent⟩ := accepted
  refine ⟨key,?_,?_⟩
  · rintro rfl
    simpa using confirmed
  · rintro rfl
    simpa using recent

theorem pushPending_pushed (m : BusLoadMeter) (frame : Frame) (now : Int) :
    ((m.addLocked frame now).pushPending frame now).2 = m.pushed frame now := by
  have kept : (m.addLocked frame now).base = m.base := base_addDurationLocked m _ now
  have nominal := congrArg Base.nominalBitrate kept
  have data := congrArg Base.dataBitrate kept
  simp only [base] at nominal data
  simp only [pushPending,expirePending,nominal,data,pushed]

theorem recordTx_cases {m : BusLoadMeter} (opened : m.window ≠ 0) (frame : Frame) (now : Int) :
    m.recordTx frame now = m.sent (transmitted frame) now ∨
    ∃ r, m.Relocates (.recordTx frame now) r ∧ m.recordTx frame now = r.result := by
  have pushes := m.pushPending_pushed (transmitted frame) now
  have same : ({ frame with direction := .transmit } : Frame) = transmitted frame := rfl
  cases found : (m.sent (transmitted frame) now).earlyTx.findIdx?
    fun echo => busFrameKey echo.frame == busFrameKey (transmitted frame) with
  | none =>
    refine .inl ?_
    simp only [sent] at found ⊢
    rw [recordTx]
    simp only [opened,if_false,same,found]
  | some i =>
    obtain ⟨inside,_⟩ := List.findIdx?_eq_some_iff_getElem.mp found
    have entry := List.getElem?_eq_getElem inside
    refine .inr ⟨_,.early opened found entry,?_⟩
    simp only [sent] at found entry
    rw [recordTx]
    simp only [opened,if_false,same,found,entry,pushes,Relocation.result]
    rfl

theorem sent_pending (m : BusLoadMeter) (frame : Frame) (now : Int) : ∃ kept,
    kept.Sublist m.pending ∧ (m.sent frame now).pending = kept ++ [m.pushed frame now] := by
  have kept : (m.addLocked frame now).pending = m.pending :=
    congrArg Base.pending (base_addDurationLocked m _ now)
  have expired : ((m.addLocked frame now).expirePending now).pending.Sublist m.pending := by
    rw [← kept]
    exact List.filter_sublist
  rw [← m.pushPending_pushed frame now]
  by_cases full : maxPendingTx ≤ ((m.addLocked frame now).expirePending now).pending.length
  · refine ⟨_,(List.drop_sublist 1 _).trans expired,?_⟩
    simp only [sent,expireEarlyTx,pushPending,full,if_true]
  · refine ⟨_,expired,?_⟩
    simp only [sent,expireEarlyTx,pushPending,full,if_false]

theorem observe_cases {m : BusLoadMeter} (opened : m.window ≠ 0) (frame : Frame)
    (totalBitCount : UInt16) (now : Int) (wrapPeriodUS : UInt64) :
    let after := m.observeWithBitCount frame totalBitCount now wrapPeriodUS
    let occupied := m.observedOccupancy frame totalBitCount
    (∃ r, m.Relocates (.observe frame totalBitCount now wrapPeriodUS) r ∧ after = r.result) ∨
    (frame.direction = .transmit ∧ ∃ earlyTx, after = { m.waiting now with earlyTx := earlyTx }) ∨
    (frame.direction = .receive ∧ ∃ i pending, (m.waiting now).findPending frame false now = some i ∧
      (m.waiting now).pending[i]? = some pending ∧ pending.confirmed = true ∧
      after = (m.waiting now).settle i) ∨
    (frame.direction = .receive ∧ (m.waiting now).findPending frame false now = none ∧
      after = if frame.timestampUS = 0 then (m.waiting now).addDurationLocked occupied now
        else (m.waiting now).addHardwareLocked frame now wrapPeriodUS occupied) := by
  intro after occupied
  cases direction : frame.direction with
  | transmit =>
    cases found : (m.waiting now).findPending frame true now with
    | none =>
      have shape : after = if frame.timestampUS = 0 then m.waiting now
          else { m.waiting now with earlyTx :=
            (if maxPendingTx ≤ (m.waiting now).earlyTx.length then (m.waiting now).earlyTx.drop 1
              else (m.waiting now).earlyTx) ++ [⟨frame,now,wrapPeriodUS,occupied⟩] } := by
        simp only [waiting] at found
        simp only [after,observeWithBitCount,opened,if_false,direction,found]
        rfl
      refine .inr (.inl ⟨rfl,?_⟩)
      rw [shape]
      split
      · exact ⟨_,rfl⟩
      · exact ⟨_,rfl⟩
    | some i =>
      obtain ⟨pending,entry,_,unconfirmed,_⟩ := findPending_some found
      refine .inl ⟨_,.echo opened direction found entry (unconfirmed rfl),?_⟩
      have fresh := unconfirmed rfl
      simp only [waiting] at found entry
      simp only [after,observeWithBitCount,opened,if_false,direction,found,entry,fresh,
        Bool.false_eq_true]
      rfl
  | receive =>
    cases found : (m.waiting now).findPending frame false now with
    | none =>
      refine .inr (.inr (.inr ⟨rfl,rfl,?_⟩))
      simp only [waiting] at found
      simp only [after,observeWithBitCount,opened,if_false,direction,found]
      rfl
    | some i =>
      obtain ⟨pending,entry,_⟩ := findPending_some found
      cases confirmed : pending.confirmed with
      | true =>
        refine .inr (.inr (.inl ⟨rfl,i,pending,rfl,entry,confirmed,?_⟩))
        simp only [waiting] at found entry
        simp only [after,observeWithBitCount,opened,if_false,direction,found,entry,confirmed,if_true]
        rfl
      | false =>
        refine .inl ⟨_,.lookAlike opened direction found entry confirmed,?_⟩
        simp only [waiting] at found entry
        simp only [after,observeWithBitCount,opened,if_false,direction,found,entry,confirmed,
          Bool.false_eq_true]
        rfl

theorem snapshot_cases (m : BusLoadMeter) (now : Int) : (m.snapshot now).1 = m ∨
    (m.snapshot now).1 = (if (m.rotate now).hwInitialized then
      (m.rotate now).rotateHardware ((m.rotate now).hardwareNow now) else m.rotate now).waiting now := by
  unfold snapshot
  split
  · exact .inl rfl
  · refine .inr ?_
    dsimp only
    split
    · rfl
    · rfl

end BusLoadMeter

end Canbuskit.BusLoad
