import Canbuskit.Lib.Rolling
import Canbuskit.BusLoad.Occupancy
import Canbuskit.Can.Config

/-! The bus load meter: two rolling windows of slots, one in host and one in hardware time, the
transmissions that wait for their echo, and the echoes that came before their transmission. Host
times are nanoseconds and the zero time, which no clock reads, is `none`; each operation holds the
meter's lock from end to end. The unsigned hardware times wrap around as they do in the source. -/
namespace Canbuskit.Can

/-- The load is `occupiedNs` over `window`, at most 1. -/
structure BusLoad where
  occupiedNs : Nat := 0
  window : Int := 0
  nominalBitrate : UInt32 := 0
  dataBitrate : UInt32 := 0
  frameCount : Nat := 0
  deriving DecidableEq

end Canbuskit.Can

namespace Canbuskit.BusLoad
open Can

def millisecond : Int := 1000000
def microsecond : Int := 1000
def defaultBusLoadWindow : Int := 1000 * millisecond
/-- 1 ms buckets limit the edge error of the rolling window to 1 ms. -/
def busLoadSlotCount : Nat := 1000
def pendingTxTTL : Int := 100 * millisecond
def pendingTxEchoTTL : Int := 1000 * millisecond
def maxPendingTx : Nat := 256

structure BusLoadSlot where
  occupiedNs : Nat := 0
  frames : Nat := 0
  deriving DecidableEq

abbrev Slots := Vector BusLoadSlot busLoadSlotCount

def clearSlots : Slots := Vector.replicate busLoadSlotCount {}

def BusLoadSlot.add (occupiedNs : Nat) (slot : BusLoadSlot) : BusLoadSlot :=
  ⟨slot.occupiedNs + occupiedNs,slot.frames + 1⟩

def BusLoadSlot.remove (occupiedNs : Nat) (slot : BusLoadSlot) : BusLoadSlot :=
  ⟨slot.occupiedNs - occupiedNs,slot.frames - 1⟩

structure PendingTx where
  key : UInt64
  atTime : Int
  occupiedNs : Nat
  confirmed : Bool := false
  deriving DecidableEq

structure EarlyTxEcho where
  frame : Frame
  atTime : Int
  wrapPeriodUS : UInt64
  occupiedNs : Nat
  deriving DecidableEq

structure BusLoadMeter where
  nominalBitrate : UInt32 := 0
  dataBitrate : UInt32 := 0
  window : Int := 0
  slot : Int := 0
  origin : Option Int := none
  started : Option Int := none
  slots : Slots := clearSlots
  hwSlots : Slots := clearSlots
  hwOriginUS : UInt64 := 0
  hwLastRawUS : UInt64 := 0
  hwLastUS : UInt64 := 0
  hwFirstUS : UInt64 := 0
  hwLastHost : Int := 0
  hwInitialized : Bool := false
  pending : List PendingTx := []
  earlyTx : List EarlyTxEcho := []
  deriving DecidableEq

def busFrameKey (frame : Frame) : UInt64 :=
  let n := if 64 < frame.dataLength then 64 else frame.dataLength
  let hash := (frame.data.toList.take n).foldl
    (fun hash byte => hash * 131 + byte.toUInt64) (0 : UInt64)
  let key := frame.id.toUInt64 &&& 0x7FF
  let key := key ||| frame.dlc.toUInt64 <<< 11
  let key := if frame.fd then key ||| (1 : UInt64) <<< 15 else key
  key ||| hash <<< 16

namespace BusLoadMeter

def configure (m : BusLoadMeter) (config : BusConfig) : BusLoadMeter :=
  let nominal := if config.nominalBitrate = 0 then 500000 else config.nominalBitrate
  let data := if config.dataBitrate = 0 then 2000000 else config.dataBitrate
  { m with
    nominalBitrate := nominal
    dataBitrate := data
    window := defaultBusLoadWindow
    slot := defaultBusLoadWindow / busLoadSlotCount
    origin := none
    started := none
    slots := clearSlots
    hwSlots := clearSlots
    hwOriginUS := 0
    hwLastRawUS := 0
    hwLastUS := 0
    hwFirstUS := 0
    hwLastHost := 0
    hwInitialized := false
    pending := []
    earlyTx := [] }

def rotate (m : BusLoadMeter) (now : Int) : BusLoadMeter :=
  match m.origin with
  | none => { m with origin := some now, started := some now }
  | some origin =>
    if now < origin then m
    else
      let elapsed := now - origin
      if elapsed ≤ m.window then m
      else
        let shift := ((elapsed - m.window + m.slot - 1) / m.slot).toNat
        let shift := if shift < 1 then 1 else shift
        if busLoadSlotCount ≤ shift then { m with slots := clearSlots, origin := some now }
        else { m with
          slots := Rolling.shift {} m.slots shift
          origin := some (origin + shift * m.slot) }

def windowUS (m : BusLoadMeter) : UInt64 := UInt64.ofNat (m.window / microsecond).toNat

def slotUS (m : BusLoadMeter) : UInt64 := UInt64.ofNat (m.slot / microsecond).toNat

def rotateHardware (m : BusLoadMeter) (atUS : UInt64) : BusLoadMeter :=
  if m.hwOriginUS = 0 then { m with hwOriginUS := atUS }
  else if atUS ≤ m.hwOriginUS then m
  else
    let elapsed := atUS - m.hwOriginUS
    if elapsed ≤ m.windowUS then m
    else
      let shift := (elapsed - m.windowUS + m.slotUS - 1) / m.slotUS
      if busLoadSlotCount ≤ shift.toNat then { m with hwSlots := clearSlots, hwOriginUS := atUS }
      else { m with
        hwSlots := Rolling.shift {} m.hwSlots shift.toNat
        hwOriginUS := m.hwOriginUS + shift * m.slotUS }

/-- The hardware time of a raw timestamp, and the meter with its hardware clock moved. -/
def hardwareTimestamp (m : BusLoadMeter) (rawUS : UInt64) (now : Int) (wrapPeriodUS : UInt64) :
    BusLoadMeter × UInt64 :=
  if !m.hwInitialized then
    ({ m with
      hwInitialized := true
      hwLastRawUS := rawUS
      hwLastUS := rawUS
      hwFirstUS := rawUS
      hwLastHost := now },rawUS)
  else if rawUS < m.hwLastRawUS then
    let backward := m.hwLastRawUS - rawUS
    if 0 < wrapPeriodUS ∧ wrapPeriodUS / 2 < backward ∧ m.hwLastRawUS < wrapPeriodUS then
      let last := m.hwLastUS + (wrapPeriodUS - m.hwLastRawUS + rawUS)
      ({ m with hwLastUS := last, hwLastRawUS := rawUS, hwLastHost := now },last)
    else if backward ≤ m.windowUS ∧ backward ≤ m.hwLastUS then (m,m.hwLastUS - backward)
    else
      -- The device clock restarted; old hardware buckets no longer share its epoch.
      ({ m with
        hwSlots := clearSlots
        hwOriginUS := 0
        hwLastUS := rawUS
        hwFirstUS := rawUS
        hwLastRawUS := rawUS
        hwLastHost := now },rawUS)
  else
    let last := m.hwLastUS + (rawUS - m.hwLastRawUS)
    ({ m with hwLastUS := last, hwLastRawUS := rawUS, hwLastHost := now },last)

def hardwareNow (m : BusLoadMeter) (now : Int) : UInt64 :=
  let elapsed := now - m.hwLastHost
  if 0 < elapsed then m.hwLastUS + UInt64.ofNat (elapsed / microsecond).toNat else m.hwLastUS

/-- A duration is signed, so that half of the unsigned values are not positive. -/
def addDurationLocked (m : BusLoadMeter) (occupiedNs : Nat) (now : Int) : BusLoadMeter :=
  if occupiedNs = 0 ∨ 2 ^ 63 ≤ occupiedNs then m
  else
    let m := m.rotate now
    match m.origin with
    | none => m
    | some origin =>
      -- The quotient of a time before the origin is cut towards zero.
      let idx := (now - origin).tdiv m.slot
      let idx := if busLoadSlotCount ≤ idx then (busLoadSlotCount : Int) - 1 else idx
      if idx < 0 then m
      else { m with slots := Rolling.alter m.slots idx.toNat (·.add occupiedNs) }

def addLocked (m : BusLoadMeter) (frame : Frame) (now : Int) : BusLoadMeter :=
  m.addDurationLocked (frameOccupancy frame m.nominalBitrate m.dataBitrate) now

def removeHostLocked (m : BusLoadMeter) (pending : PendingTx) : BusLoadMeter :=
  let m := m.rotate pending.atTime
  match m.origin with
  | none => m
  | some origin =>
    if pending.atTime < origin then m
    else
      let idx := ((pending.atTime - origin) / m.slot).toNat
      let idx := if busLoadSlotCount ≤ idx then busLoadSlotCount - 1 else idx
      let slot := m.slots.toList.getD idx {}
      if slot.frames = 0 ∨ slot.occupiedNs < pending.occupiedNs then m
      else { m with slots := Rolling.alter m.slots idx (·.remove pending.occupiedNs) }

/-- The end of `addHardwareLocked`: a frame from before the first slot is dropped, unless the
window is empty and can begin at it. -/
def insertHardware (m : BusLoadMeter) (atUS : UInt64) (now : Int) (occupiedNs : Nat) :
    BusLoadMeter :=
  if atUS < m.hwOriginUS ∧ m.hwSlots.toList.any (·.frames != 0) then m
  else
    let m := if atUS < m.hwOriginUS then { m with hwOriginUS := atUS } else m
    let idx := ((atUS - m.hwOriginUS) / m.slotUS).toNat
    let idx := if busLoadSlotCount ≤ idx then busLoadSlotCount - 1 else idx
    { m with
      hwSlots := Rolling.alter m.hwSlots idx (·.add occupiedNs)
      started := some (m.started.getD now) }

def addHardwareLocked (m : BusLoadMeter) (frame : Frame) (now : Int) (wrapPeriodUS : UInt64)
    (occupiedNs : Nat) : BusLoadMeter :=
  if occupiedNs = 0 then m
  else
    let m := if m.hwInitialized then m.rotateHardware (m.hardwareNow now) else m
    let stamp := m.hardwareTimestamp frame.timestampUS now wrapPeriodUS
    (stamp.1.rotateHardware stamp.2).insertHardware stamp.2 now occupiedNs

def relocatePending (m : BusLoadMeter) (pending : PendingTx) (frame : Frame) (now : Int)
    (wrapPeriodUS : UInt64) (occupiedNs : Nat) : BusLoadMeter :=
  if frame.timestampUS = 0 then m
  else (m.removeHostLocked pending).addHardwareLocked frame now wrapPeriodUS occupiedNs

def expirePending (m : BusLoadMeter) (now : Int) : BusLoadMeter :=
  { m with pending := m.pending.filter fun pending => now - pending.atTime ≤ pendingTxEchoTTL }

def expireEarlyTx (m : BusLoadMeter) (now : Int) : BusLoadMeter :=
  { m with earlyTx := m.earlyTx.filter fun echo => now - echo.atTime ≤ pendingTxTTL }

/-- The meter and the entry it has pushed. -/
def pushPending (m : BusLoadMeter) (frame : Frame) (now : Int) : BusLoadMeter × PendingTx :=
  let m := m.expirePending now
  let pending := if maxPendingTx ≤ m.pending.length then m.pending.drop 1 else m.pending
  let pushed : PendingTx :=
    ⟨busFrameKey frame,now,frameOccupancy frame m.nominalBitrate m.dataBitrate,false⟩
  ({ m with pending := pending ++ [pushed] },pushed)

/-- `none` is the source's -1. -/
def findPending (m : BusLoadMeter) (frame : Frame) (unconfirmedOnly : Bool) (now : Int) :
    Option Nat :=
  let key := busFrameKey frame
  m.pending.findIdx? fun pending => !(pending.key != key || (unconfirmedOnly && pending.confirmed) ||
    (!unconfirmedOnly && pendingTxTTL < now - pending.atTime))

def recordTx (m : BusLoadMeter) (frame : Frame) (now : Int) : BusLoadMeter :=
  let frame := { frame with direction := .transmit }
  if m.window = 0 then m
  else
    let m := m.addLocked frame now
    let pushed := m.pushPending frame now
    let m := pushed.1.expireEarlyTx now
    match m.earlyTx.findIdx? fun echo => busFrameKey echo.frame == busFrameKey frame with
    | none => m
    | some i => match m.earlyTx[i]? with
      | none => m
      | some echo =>
        let pending := { pushed.2 with confirmed := true }
        let m := { m with
          earlyTx := m.earlyTx.eraseIdx i
          pending := m.pending.dropLast ++ [pending] }
        m.relocatePending pending echo.frame echo.atTime echo.wrapPeriodUS echo.occupiedNs

def observedOccupancy (m : BusLoadMeter) (frame : Frame) (totalBitCount : UInt16) : Nat :=
  if totalBitCount = 0 then frameOccupancy frame m.nominalBitrate m.dataBitrate
  else frameOccupancyFromBitCount frame (totalBitCount.toNat + 3) m.nominalBitrate m.dataBitrate

def observeWithBitCount (m : BusLoadMeter) (frame : Frame) (totalBitCount : UInt16) (now : Int)
    (wrapPeriodUS : UInt64) : BusLoadMeter :=
  if m.window = 0 then m
  else
    let occupied := m.observedOccupancy frame totalBitCount
    let m := (m.expirePending now).expireEarlyTx now
    match frame.direction with
    | .transmit => match m.findPending frame true now with
      | some i => match m.pending[i]? with
        | none => m
        | some pending =>
          if pending.confirmed then m
          else
            let pending := { pending with confirmed := true }
            let m := { m with pending := m.pending.set i pending }
            m.relocatePending pending frame now wrapPeriodUS occupied
      | none =>
        if frame.timestampUS = 0 then m
        else
          let earlyTx := if maxPendingTx ≤ m.earlyTx.length then m.earlyTx.drop 1 else m.earlyTx
          { m with earlyTx := earlyTx ++ [⟨frame,now,wrapPeriodUS,occupied⟩] }
    | .receive => match m.findPending frame false now with
      | some i => match m.pending[i]? with
        | none => m
        | some pending =>
          let m := { m with pending := m.pending.eraseIdx i }
          if pending.confirmed then m
          else m.relocatePending pending frame now wrapPeriodUS occupied
      | none =>
        if frame.timestampUS = 0 then m.addDurationLocked occupied now
        else m.addHardwareLocked frame now wrapPeriodUS occupied

def observeWithWrap (m : BusLoadMeter) (frame : Frame) (now : Int) (wrapPeriodUS : UInt64) :
    BusLoadMeter :=
  m.observeWithBitCount frame 0 now wrapPeriodUS

def observe (m : BusLoadMeter) (frame : Frame) (now : Int) : BusLoadMeter :=
  m.observeWithWrap frame now 0

def total (slots : Slots) (amount : BusLoadSlot → Nat) : Nat := (slots.toList.map amount).sum

def snapshot (m : BusLoadMeter) (now : Int) : BusLoadMeter × BusLoad :=
  if m.window = 0 ∨ m.nominalBitrate = 0 then (m,{})
  else
    let m := m.rotate now
    let m := if m.hwInitialized then m.rotateHardware (m.hardwareNow now) else m
    let m := (m.expirePending now).expireEarlyTx now
    let occupiedNs := total m.slots (·.occupiedNs) + total m.hwSlots (·.occupiedNs)
    let frames := total m.slots (·.frames) + total m.hwSlots (·.frames)
    match m.started with
    | none => (m,{
        window := m.window
        nominalBitrate := m.nominalBitrate
        dataBitrate := m.dataBitrate })
    | some started =>
      let age := now - started
      let age :=
        if m.hwInitialized then
          let hardwareAgeUS := m.hardwareNow now - m.hwFirstUS
          let hardwareAge := hardwareAgeUS.toNat * microsecond
          if m.windowUS ≤ hardwareAgeUS then m.window
          else if age < hardwareAge then hardwareAge
          else age
        else age
      let denom := if 0 < age ∧ age < m.window then age else m.window
      (m,{
        occupiedNs := occupiedNs
        window := denom
        nominalBitrate := m.nominalBitrate
        dataBitrate := m.dataBitrate
        frameCount := frames })

/-- What moving the windows and the clock leaves alone: the settings and what waits. -/
structure Base where
  nominalBitrate : UInt32
  dataBitrate : UInt32
  window : Int
  slot : Int
  pending : List PendingTx
  earlyTx : List EarlyTxEcho

def base (m : BusLoadMeter) : Base :=
  ⟨m.nominalBitrate,m.dataBitrate,m.window,m.slot,m.pending,m.earlyTx⟩

@[simp] theorem base_rotate (m : BusLoadMeter) (now : Int) : (m.rotate now).base = m.base := by
  unfold rotate
  split
  · rfl
  · dsimp only
    split_ifs <;> rfl

@[simp] theorem base_rotateHardware (m : BusLoadMeter) (atUS : UInt64) :
    (m.rotateHardware atUS).base = m.base := by
  unfold rotateHardware
  dsimp only
  split_ifs <;> rfl

@[simp] theorem base_hardwareTimestamp (m : BusLoadMeter) (rawUS : UInt64) (now : Int)
    (wrapPeriodUS : UInt64) : (m.hardwareTimestamp rawUS now wrapPeriodUS).1.base = m.base := by
  unfold hardwareTimestamp
  dsimp only
  split_ifs <;> rfl

@[simp] theorem base_addDurationLocked (m : BusLoadMeter) (occupiedNs : Nat) (now : Int) :
    (m.addDurationLocked occupiedNs now).base = m.base := by
  unfold addDurationLocked
  split
  · rfl
  · rw [← base_rotate m now]
    dsimp only
    split
    · rfl
    · split_ifs <;> rfl

@[simp] theorem base_removeHostLocked (m : BusLoadMeter) (pending : PendingTx) :
    (m.removeHostLocked pending).base = m.base := by
  unfold removeHostLocked
  rw [← base_rotate m pending.atTime]
  dsimp only
  split
  · rfl
  · split_ifs <;> rfl

@[simp] theorem base_insertHardware (m : BusLoadMeter) (atUS : UInt64) (now : Int)
    (occupiedNs : Nat) : (m.insertHardware atUS now occupiedNs).base = m.base := by
  unfold insertHardware
  dsimp only
  split_ifs <;> rfl

@[simp] theorem base_addHardwareLocked (m : BusLoadMeter) (frame : Frame) (now : Int)
    (wrapPeriodUS : UInt64) (occupiedNs : Nat) :
    (m.addHardwareLocked frame now wrapPeriodUS occupiedNs).base = m.base := by
  unfold addHardwareLocked
  split
  · rfl
  · dsimp only
    rw [base_insertHardware,base_rotateHardware,base_hardwareTimestamp]
    split
    · exact base_rotateHardware m _
    · rfl

@[simp] theorem base_relocatePending (m : BusLoadMeter) (pending : PendingTx) (frame : Frame)
    (now : Int) (wrapPeriodUS : UInt64) (occupiedNs : Nat) :
    (m.relocatePending pending frame now wrapPeriodUS occupiedNs).base = m.base := by
  unfold relocatePending
  split
  · rfl
  · simp

/-- The operations, each a step under the meter's lock. -/
inductive Call where
  | configure (config : BusConfig)
  | recordTx (frame : Frame) (now : Int)
  | observe (frame : Frame) (totalBitCount : UInt16) (now : Int) (wrapPeriodUS : UInt64)
  | snapshot (now : Int)

def call (m : BusLoadMeter) : Call → BusLoadMeter
  | .configure config => m.configure config
  | .recordTx frame now => m.recordTx frame now
  | .observe frame totalBitCount now wrapPeriodUS =>
    m.observeWithBitCount frame totalBitCount now wrapPeriodUS
  | .snapshot now => (m.snapshot now).1

def run (m : BusLoadMeter) (calls : List Call) : BusLoadMeter := calls.foldl call m

theorem run_snoc (m : BusLoadMeter) (calls : List Call) (last : Call) :
    m.run (calls ++ [last]) = (m.run calls).call last := by
  simp [run]

end BusLoadMeter

end Canbuskit.BusLoad
