import Canbuskit.Can.Frame

/-! The data an ISO-TP session is built from: addresses, link frames, states and the
configuration with its defaults and checks. Go `int` values are integers, so that
the checks for negative settings mean what they say; a `time.Duration` is its count of
nanoseconds. -/
namespace Canbuskit.Isotp
open Can

def maxStandardCANID : UInt32 := 0x7FF

structure Address where
  txID : UInt32
  rxID : UInt32
  deriving DecidableEq

inductive AddressError where
  | nilAddress
  | txIDRange (id : UInt32)
  | rxIDRange (id : UInt32)
  deriving DecidableEq

/-- `none` is the nil pointer. -/
def Address.validate : Option Address → Except AddressError Unit
  | none => .error .nilAddress
  | some address =>
    if maxStandardCANID < address.txID then .error (.txIDRange address.txID)
    else if maxStandardCANID < address.rxID then .error (.rxIDRange address.rxID)
    else .ok ()

def Address.accepts (address : Address) (id : UInt32) : Bool := id == address.rxID

theorem Address.validate_ok {address : Address} (valid : Address.validate (some address) = .ok ()) :
    address.txID ≤ 0x7FF ∧ address.rxID ≤ 0x7FF := by
  simp only [Address.validate] at valid
  split_ifs at valid with tx rx
  exact ⟨UInt32.not_lt.mp tx,UInt32.not_lt.mp rx⟩

structure LinkFrame where
  arbitrationID : UInt32
  data : Bytes
  fd : Bool
  deriving DecidableEq

inductive State where
  | idle
  | waitFC
  | waitCF
  | transmit
  deriving DecidableEq, Repr

/-- A `uint8` in the source: a Flow Control frame may carry any nibble. -/
abbrev FlowStatus := UInt8

def FlowStatus.continueToSend : FlowStatus := 0
def FlowStatus.wait : FlowStatus := 1
def FlowStatus.overflow : FlowStatus := 2

def defaultMaxPayloadSize : Int := 16 * 1024 * 1024
def defaultMaxWaitFrames : Int := 8

structure Config where
  manualFlowControl : Bool
  paddingByte : Option UInt8
  flowControlTimeout : Int
  consecutiveFrameTimeout : Int
  blockSize : Int
  stMin : Int
  maxPayloadSize : Int
  maxWaitFrames : Int
  deriving DecidableEq

def defaultConfig : Config where
  manualFlowControl := false
  paddingByte := none
  flowControlTimeout := 1000 * 1000000
  consecutiveFrameTimeout := 1000 * 1000000
  blockSize := 0
  stMin := 20
  maxPayloadSize := defaultMaxPayloadSize
  maxWaitFrames := defaultMaxWaitFrames

inductive ConfigError where
  | flowControlTimeout (timeout : Int)
  | consecutiveFrameTimeout (timeout : Int)
  | blockSize (size : Int)
  | stMin (milliseconds : Int)
  | maxPayloadSize (size : Int)
  deriving DecidableEq

def Config.validate (cfg : Config) : Except ConfigError Unit :=
  if cfg.flowControlTimeout ≤ 0 then .error (.flowControlTimeout cfg.flowControlTimeout)
  else if cfg.consecutiveFrameTimeout ≤ 0 then
    .error (.consecutiveFrameTimeout cfg.consecutiveFrameTimeout)
  else if cfg.blockSize < 0 ∨ 255 < cfg.blockSize then .error (.blockSize cfg.blockSize)
  else if cfg.stMin < 0 ∨ 127 < cfg.stMin then .error (.stMin cfg.stMin)
  else if cfg.maxPayloadSize < 0 then .error (.maxPayloadSize cfg.maxPayloadSize)
  else .ok ()

/-- Zero selects the default of the two limits; everything else is taken as given. -/
def normalizeConfig (cfg : Config) : Except ConfigError Config :=
  let cfg := if cfg.maxPayloadSize = 0 then { cfg with maxPayloadSize := defaultMaxPayloadSize }
    else cfg
  let cfg := if cfg.maxWaitFrames = 0 then { cfg with maxWaitFrames := defaultMaxWaitFrames }
    else cfg
  match cfg.validate with
  | .error error => .error error
  | .ok () => .ok cfg

theorem defaultConfig_valid : normalizeConfig defaultConfig = .ok defaultConfig := by
  rfl

/-- What the checks of `validate` leave open. -/
structure Config.Valid (cfg : Config) : Prop where
  flowControlTimeout : 0 < cfg.flowControlTimeout
  consecutiveFrameTimeout : 0 < cfg.consecutiveFrameTimeout
  blockSize : 0 ≤ cfg.blockSize ∧ cfg.blockSize ≤ 255
  stMin : 0 ≤ cfg.stMin ∧ cfg.stMin ≤ 127
  maxPayloadSize : 0 ≤ cfg.maxPayloadSize

theorem Config.validate_ok {cfg : Config} : cfg.validate = .ok () ↔ cfg.Valid := by
  unfold Config.validate
  constructor
  · intro accepted
    split_ifs at accepted
    constructor <;> omega
  · rintro ⟨flow,consecutive,block,separation,size⟩
    rw [if_neg (by omega),if_neg (by omega),if_neg (by omega),if_neg (by omega),
      if_neg (by omega)]

theorem normalizeConfig_valid {cfg normalized : Config}
    (accepted : normalizeConfig cfg = .ok normalized) : normalized.Valid := by
  unfold normalizeConfig at accepted
  dsimp only at accepted
  split at accepted
  · contradiction
  · cases accepted
    exact Config.validate_ok.mp ‹_›

end Canbuskit.Isotp
