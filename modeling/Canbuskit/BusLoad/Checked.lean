import Canbuskit.BusLoad.Meter

/-! The operations of the meter once more, with every unsigned subtraction, addition and division,
every slot index and every hardware origin checked where the source computes it. The counts in the
slots are taken as unbounded, and the lists that wait are handled as they are. -/
namespace Canbuskit.BusLoad
open Can BusLoadMeter

/-- Why a checked operation stops. -/
inductive Stop where
  | hardwareTime
  | underflow
  | overflow
  | divisionByZero
  | outOfRange
  | zeroOrigin
  deriving DecidableEq

namespace Checked

def sub (a b : UInt64) : Except Stop UInt64 := if b ≤ a then .ok (a - b) else .error .underflow

def add (a b : UInt64) : Except Stop UInt64 :=
  if a.toNat + b.toNat < 2 ^ 64 then .ok (a + b) else .error .overflow

def mul (a b : UInt64) : Except Stop UInt64 :=
  if a.toNat * b.toNat < 2 ^ 64 then .ok (a * b) else .error .overflow

def div (a b : UInt64) : Except Stop UInt64 := if b = 0 then .error .divisionByZero else .ok (a / b)

/-- A hardware time that is so much later than another. -/
def later (a b : UInt64) : Except Stop UInt64 :=
  if a.toNat + b.toNat < 2 ^ 64 then .ok (a + b) else .error .hardwareTime

def subNat (a b : Nat) : Except Stop Nat := if b ≤ a then .ok (a - b) else .error .underflow

/-- A quotient of durations, which is cut towards zero. -/
def quo (a b : Int) : Except Stop Int := if b = 0 then .error .divisionByZero else .ok (a.tdiv b)

def index (idx : Nat) : Except Stop Nat :=
  if idx < busLoadSlotCount then .ok idx else .error .outOfRange

def setOrigin (m : BusLoadMeter) (atUS : UInt64) : Except Stop BusLoadMeter :=
  if atUS = 0 then .error .zeroOrigin else .ok { m with hwOriginUS := atUS }

def rotate (m : BusLoadMeter) (now : Int) : Except Stop BusLoadMeter :=
  match m.origin with
  | none => .ok { m with origin := some now, started := some now }
  | some origin =>
    if now < origin then .ok m
    else if now - origin ≤ m.window then .ok m
    else do
      let count ← quo (now - origin - m.window + m.slot - 1) m.slot
      let shift := if count.toNat < 1 then 1 else count.toNat
      if busLoadSlotCount ≤ shift then return { m with slots := clearSlots, origin := some now }
      else
        let shift ← index shift
        return { m with
          slots := Rolling.shift {} m.slots shift
          origin := some (origin + shift * m.slot) }

def rotateHardware (m : BusLoadMeter) (atUS : UInt64) : Except Stop BusLoadMeter :=
  if m.hwOriginUS = 0 then setOrigin m atUS
  else if atUS ≤ m.hwOriginUS then .ok m
  else do
    let elapsed ← sub atUS m.hwOriginUS
    if elapsed ≤ m.windowUS then return m
    else
      let beyond ← sub elapsed m.windowUS
      let padded ← add beyond m.slotUS
      let rounded ← sub padded 1
      let shift ← div rounded m.slotUS
      if busLoadSlotCount ≤ shift.toNat then setOrigin { m with hwSlots := clearSlots } atUS
      else
        let from' ← index shift.toNat
        let moved ← mul shift m.slotUS
        let origin ← add m.hwOriginUS moved
        setOrigin { m with hwSlots := Rolling.shift {} m.hwSlots from' } origin

def hardwareTimestamp (m : BusLoadMeter) (rawUS : UInt64) (now : Int) (wrapPeriodUS : UInt64) :
    Except Stop (BusLoadMeter × UInt64) :=
  if !m.hwInitialized then
    .ok ({ m with
      hwInitialized := true
      hwLastRawUS := rawUS
      hwLastUS := rawUS
      hwFirstUS := rawUS
      hwLastHost := now },rawUS)
  else if rawUS < m.hwLastRawUS then do
    let backward ← sub m.hwLastRawUS rawUS
    if 0 < wrapPeriodUS ∧ wrapPeriodUS / 2 < backward ∧ m.hwLastRawUS < wrapPeriodUS then
      let rest ← sub wrapPeriodUS m.hwLastRawUS
      let correction ← add rest rawUS
      let last ← later m.hwLastUS correction
      return ({ m with hwLastUS := last, hwLastRawUS := rawUS, hwLastHost := now },last)
    else if backward ≤ m.windowUS ∧ backward ≤ m.hwLastUS then
      let atUS ← sub m.hwLastUS backward
      return (m,atUS)
    else
      return ({ m with
        hwSlots := clearSlots
        hwOriginUS := 0
        hwLastUS := rawUS
        hwFirstUS := rawUS
        hwLastRawUS := rawUS
        hwLastHost := now },rawUS)
  else do
    let progress ← sub rawUS m.hwLastRawUS
    let last ← later m.hwLastUS progress
    return ({ m with hwLastUS := last, hwLastRawUS := rawUS, hwLastHost := now },last)

def hardwareNow (m : BusLoadMeter) (now : Int) : Except Stop UInt64 :=
  let elapsed := now - m.hwLastHost
  if 0 < elapsed then
    if m.hwLastUS.toNat + (elapsed / microsecond).toNat < 2 ^ 64 then
      .ok (m.hwLastUS + UInt64.ofNat (elapsed / microsecond).toNat)
    else .error .hardwareTime
  else .ok m.hwLastUS

/-- The hardware window moved on to the present, once there is a hardware clock. -/
def advance (m : BusLoadMeter) (now : Int) : Except Stop BusLoadMeter :=
  if m.hwInitialized then do
    let atUS ← hardwareNow m now
    rotateHardware m atUS
  else .ok m

def addDurationLocked (m : BusLoadMeter) (occupiedNs : Nat) (now : Int) : Except Stop BusLoadMeter :=
  if occupiedNs = 0 ∨ 2 ^ 63 ≤ occupiedNs then .ok m
  else do
    let m ← rotate m now
    match m.origin with
    | none => return m
    | some origin =>
      let idx ← quo (now - origin) m.slot
      let idx := if busLoadSlotCount ≤ idx then (busLoadSlotCount : Int) - 1 else idx
      if idx < 0 then return m
      else
        let idx ← index idx.toNat
        return { m with slots := Rolling.alter m.slots idx (·.add occupiedNs) }

def removeHostLocked (m : BusLoadMeter) (pending : PendingTx) : Except Stop BusLoadMeter := do
  let m ← rotate m pending.atTime
  match m.origin with
  | none => return m
  | some origin =>
    if pending.atTime < origin then return m
    else
      let quotient ← quo (pending.atTime - origin) m.slot
      let idx := if busLoadSlotCount ≤ quotient.toNat then busLoadSlotCount - 1 else quotient.toNat
      let idx ← index idx
      let slot := m.slots.toList.getD idx {}
      if slot.frames = 0 ∨ slot.occupiedNs < pending.occupiedNs then return m
      else
        let occupiedNs ← subNat slot.occupiedNs pending.occupiedNs
        let frames ← subNat slot.frames 1
        return { m with slots := Rolling.alter m.slots idx fun _ => ⟨occupiedNs,frames⟩ }

/-- An empty window begins at an earlier frame. -/
def lower (m : BusLoadMeter) (atUS : UInt64) : Except Stop BusLoadMeter :=
  if atUS < m.hwOriginUS then setOrigin m atUS else .ok m

def insertHardware (m : BusLoadMeter) (atUS : UInt64) (now : Int) (occupiedNs : Nat) :
    Except Stop BusLoadMeter :=
  if atUS < m.hwOriginUS ∧ m.hwSlots.toList.any (·.frames != 0) then .ok m
  else do
    let m ← lower m atUS
    let since ← sub atUS m.hwOriginUS
    let quotient ← div since m.slotUS
    let idx := if busLoadSlotCount ≤ quotient.toNat then busLoadSlotCount - 1 else quotient.toNat
    let idx ← index idx
    return { m with
      hwSlots := Rolling.alter m.hwSlots idx (·.add occupiedNs)
      started := some (m.started.getD now) }

def addHardwareLocked (m : BusLoadMeter) (frame : Frame) (now : Int) (wrapPeriodUS : UInt64)
    (occupiedNs : Nat) : Except Stop BusLoadMeter :=
  if occupiedNs = 0 then .ok m
  else do
    let m ← advance m now
    let stamp ← hardwareTimestamp m frame.timestampUS now wrapPeriodUS
    let m ← rotateHardware stamp.1 stamp.2
    insertHardware m stamp.2 now occupiedNs

def relocatePending (m : BusLoadMeter) (pending : PendingTx) (frame : Frame) (now : Int)
    (wrapPeriodUS : UInt64) (occupiedNs : Nat) : Except Stop BusLoadMeter :=
  if frame.timestampUS = 0 then .ok m
  else do
    let m ← removeHostLocked m pending
    addHardwareLocked m frame now wrapPeriodUS occupiedNs

def recordTx (m : BusLoadMeter) (frame : Frame) (now : Int) : Except Stop BusLoadMeter :=
  let frame := { frame with direction := .transmit }
  if m.window = 0 then .ok m
  else do
    let m ← addDurationLocked m (frameOccupancy frame m.nominalBitrate m.dataBitrate) now
    let pushed := m.pushPending frame now
    let m := pushed.1.expireEarlyTx now
    match m.earlyTx.findIdx? fun echo => busFrameKey echo.frame == busFrameKey frame with
    | none => return m
    | some i => match m.earlyTx[i]? with
      | none => .error .outOfRange
      | some echo =>
        let pending := { pushed.2 with confirmed := true }
        let m := { m with
          earlyTx := m.earlyTx.eraseIdx i
          pending := m.pending.dropLast ++ [pending] }
        relocatePending m pending echo.frame echo.atTime echo.wrapPeriodUS echo.occupiedNs

def observeWithBitCount (m : BusLoadMeter) (frame : Frame) (totalBitCount : UInt16) (now : Int)
    (wrapPeriodUS : UInt64) : Except Stop BusLoadMeter :=
  if m.window = 0 then .ok m
  else
    let occupied := m.observedOccupancy frame totalBitCount
    let m := (m.expirePending now).expireEarlyTx now
    match frame.direction with
    | .transmit => match m.findPending frame true now with
      | some i => match m.pending[i]? with
        | none => .error .outOfRange
        | some pending =>
          if pending.confirmed then .ok m
          else
            let pending := { pending with confirmed := true }
            let m := { m with pending := m.pending.set i pending }
            relocatePending m pending frame now wrapPeriodUS occupied
      | none =>
        if frame.timestampUS = 0 then .ok m
        else
          let earlyTx := if maxPendingTx ≤ m.earlyTx.length then m.earlyTx.drop 1 else m.earlyTx
          .ok { m with earlyTx := earlyTx ++ [⟨frame,now,wrapPeriodUS,occupied⟩] }
    | .receive => match m.findPending frame false now with
      | some i => match m.pending[i]? with
        | none => .error .outOfRange
        | some pending =>
          let m := { m with pending := m.pending.eraseIdx i }
          if pending.confirmed then .ok m
          else relocatePending m pending frame now wrapPeriodUS occupied
      | none =>
        if frame.timestampUS = 0 then addDurationLocked m occupied now
        else addHardwareLocked m frame now wrapPeriodUS occupied

/-- The age of the measurement, which is that of the hardware clock where this is larger. -/
def hardwareAge (m : BusLoadMeter) (now age : Int) : Except Stop Int :=
  if m.hwInitialized then do
    let atUS ← hardwareNow m now
    let hardwareAgeUS ← sub atUS m.hwFirstUS
    let hardwareAge := hardwareAgeUS.toNat * microsecond
    if m.windowUS ≤ hardwareAgeUS then return m.window
    else if age < hardwareAge then return hardwareAge
    else return age
  else .ok age

def snapshot (m : BusLoadMeter) (now : Int) : Except Stop (BusLoadMeter × BusLoad) :=
  if m.window = 0 ∨ m.nominalBitrate = 0 then .ok (m,{})
  else do
    let m ← rotate m now
    let m ← advance m now
    let m := (m.expirePending now).expireEarlyTx now
    let occupiedNs := total m.slots (·.occupiedNs) + total m.hwSlots (·.occupiedNs)
    let frames := total m.slots (·.frames) + total m.hwSlots (·.frames)
    match m.started with
    | none => return (m,{
        window := m.window
        nominalBitrate := m.nominalBitrate
        dataBitrate := m.dataBitrate })
    | some started =>
      let age ← hardwareAge m now (now - started)
      let denom := if 0 < age ∧ age < m.window then age else m.window
      return (m,{
        occupiedNs := occupiedNs
        window := denom
        nominalBitrate := m.nominalBitrate
        dataBitrate := m.dataBitrate
        frameCount := frames })

def call (m : BusLoadMeter) : Call → Except Stop BusLoadMeter
  | .configure config => .ok (m.configure config)
  | .recordTx frame now => recordTx m frame now
  | .observe frame totalBitCount now wrapPeriodUS =>
    observeWithBitCount m frame totalBitCount now wrapPeriodUS
  | .snapshot now => do
    let result ← snapshot m now
    return result.1

def run (m : BusLoadMeter) (calls : List Call) : Except Stop BusLoadMeter := calls.foldlM call m

end Checked

end Canbuskit.BusLoad
