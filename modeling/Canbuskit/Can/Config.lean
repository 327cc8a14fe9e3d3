import Canbuskit.Can.Frame

/-! The configuration of a bus and its normalization. Go's `int` and `time.Duration` are
integers, so that the checks for negative values mean what they say; the logger is left out. -/
namespace Canbuskit.Can

structure BitTiming where
  brp : UInt8
  seg1 : UInt8
  seg2 : UInt8
  sjw : UInt8
  deriving DecidableEq

def BitTiming.zero : BitTiming := ⟨0,0,0,0⟩

def BitTiming.isZero (t : BitTiming) : Bool := t == .zero

def BitTiming.valid (t : BitTiming) : Bool :=
  t.isZero || !(t.brp == 0 || t.seg1 == 0 || t.seg2 == 0 || t.sjw == 0)

/-- A `uint8` in the source. -/
abbrev Mode := UInt8

def Mode.classic : Mode := 0
def Mode.fd : Mode := 1

structure BusConfig where
  mode : Mode
  channel : UInt8
  nominalBitrate : UInt32
  dataBitrate : UInt32
  rxBufferSize : Int
  pollingInterval : Int
  includeTxEcho : Bool
  brs : Bool
  nominalTiming : BitTiming
  dataTiming : BitTiming
  deriving DecidableEq

/-- `DefaultConfig` of the package. -/
def BusConfig.default (mode : Mode) (channel : UInt8) : BusConfig where
  mode := mode
  channel := channel
  nominalBitrate := 500000
  dataBitrate := 2000000
  rxBufferSize := 1024
  pollingInterval := 1000000
  includeTxEcho := false
  brs := false
  nominalTiming := .zero
  dataTiming := .zero

inductive BusConfigError where
  | mode (mode : Mode)
  | classicBRS
  | nominalTiming
  | dataTiming
  | classicTiming
  | onePhase
  | rxBufferSize (size : Int)
  | pollingInterval (interval : Int)
  deriving DecidableEq

def BusConfig.normalized (cfg : BusConfig) : Except BusConfigError BusConfig :=
  if cfg.mode ≠ Mode.classic ∧ cfg.mode ≠ Mode.fd then .error (.mode cfg.mode)
  else if cfg.mode = Mode.classic ∧ cfg.brs then .error .classicBRS
  else if !cfg.nominalTiming.valid then .error .nominalTiming
  else if !cfg.dataTiming.valid then .error .dataTiming
  else if cfg.mode = Mode.classic ∧ (!cfg.nominalTiming.isZero || !cfg.dataTiming.isZero) then
    .error .classicTiming
  else if cfg.mode = Mode.fd ∧ cfg.nominalTiming.isZero ≠ cfg.dataTiming.isZero then
    .error .onePhase
  else
    let cfg := if cfg.nominalBitrate = 0 then { cfg with nominalBitrate := 500000 } else cfg
    let cfg := if cfg.dataBitrate = 0 then { cfg with dataBitrate := 2000000 } else cfg
    let cfg := if cfg.rxBufferSize = 0 then { cfg with rxBufferSize := 1024 } else cfg
    if cfg.rxBufferSize < 0 then .error (.rxBufferSize cfg.rxBufferSize)
    else
      let cfg := if cfg.pollingInterval = 0 then { cfg with pollingInterval := 1000000 } else cfg
      if cfg.pollingInterval < 0 then .error (.pollingInterval cfg.pollingInterval)
      else .ok cfg

namespace BusConfig

/-- What a configuration is checked for before its zeros are filled in. -/
structure Checked (cfg : BusConfig) : Prop where
  mode : ¬(cfg.mode ≠ Mode.classic ∧ cfg.mode ≠ Mode.fd)
  brs : ¬(cfg.mode = Mode.classic ∧ cfg.brs)
  nominal : ¬(!cfg.nominalTiming.valid) = true
  data : ¬(!cfg.dataTiming.valid) = true
  classic : ¬(cfg.mode = Mode.classic ∧ (!cfg.nominalTiming.isZero || !cfg.dataTiming.isZero) = true)
  phases : ¬(cfg.mode = Mode.fd ∧ cfg.nominalTiming.isZero ≠ cfg.dataTiming.isZero)

structure Filled (cfg : BusConfig) : Prop where
  nominal : cfg.nominalBitrate ≠ 0
  data : cfg.dataBitrate ≠ 0
  buffer : 0 < cfg.rxBufferSize
  polling : 0 < cfg.pollingInterval

theorem Filled.normalized {cfg : BusConfig} (filled : cfg.Filled) (checked : cfg.Checked) :
    cfg.normalized = .ok cfg := by
  obtain ⟨nominal,data,buffer,polling⟩ := filled
  rw [BusConfig.normalized,if_neg checked.mode,if_neg checked.brs,if_neg checked.nominal,
    if_neg checked.data,if_neg checked.classic,if_neg checked.phases]
  simp only [if_neg nominal,if_neg data,if_neg (Int.ne_of_gt buffer),if_neg (Int.ne_of_gt polling),
    if_neg (Int.not_lt.mpr (Int.le_of_lt buffer)),if_neg (Int.not_lt.mpr (Int.le_of_lt polling))]

theorem Checked.ite {condition : Prop} [Decidable condition] {changed cfg : BusConfig}
    (checked : cfg.Checked) (mode : changed.mode = cfg.mode) (brs : changed.brs = cfg.brs)
    (nominal : changed.nominalTiming = cfg.nominalTiming)
    (data : changed.dataTiming = cfg.dataTiming) : (if condition then changed else cfg).Checked := by
  split_ifs
  · exact ⟨by rw [mode]; exact checked.mode,by rw [mode,brs]; exact checked.brs,
      by rw [nominal]; exact checked.nominal,by rw [data]; exact checked.data,
      by rw [mode,nominal,data]; exact checked.classic,by rw [mode,nominal,data]; exact checked.phases⟩
  · exact checked

theorem normalized_normalized {cfg normal : BusConfig} (normalized : cfg.normalized = .ok normal) :
    normal.normalized = .ok normal := by
  unfold BusConfig.normalized at normalized
  split at normalized
  · contradiction
  rename_i mode
  split at normalized
  · contradiction
  rename_i brs
  split at normalized
  · contradiction
  rename_i nominal
  split at normalized
  · contradiction
  rename_i data
  split at normalized
  · contradiction
  rename_i classic
  split at normalized
  · contradiction
  rename_i phases
  have checked : cfg.Checked := ⟨mode,brs,nominal,data,classic,phases⟩
  extract_lets first second third fourth at normalized
  split at normalized
  · contradiction
  rename_i buffer
  split at normalized
  · contradiction
  rename_i polling
  have same : fourth = normal := Except.ok.inj normalized
  have nominalBitrate : fourth.nominalBitrate =
      if cfg.nominalBitrate = 0 then 500000 else cfg.nominalBitrate := by
    simp only [fourth,third,second,first,apply_ite BusConfig.nominalBitrate,ite_self]
  have dataBitrate : fourth.dataBitrate =
      if first.dataBitrate = 0 then 2000000 else first.dataBitrate := by
    simp only [fourth,third,second,apply_ite BusConfig.dataBitrate,ite_self]
  have rxBufferSize : fourth.rxBufferSize = third.rxBufferSize := by
    simp only [fourth,apply_ite BusConfig.rxBufferSize,ite_self]
  have filledBuffer : third.rxBufferSize =
      if second.rxBufferSize = 0 then 1024 else second.rxBufferSize := by
    simp only [third,apply_ite BusConfig.rxBufferSize]
  have pollingInterval : fourth.pollingInterval =
      if third.pollingInterval = 0 then 1000000 else third.pollingInterval := by
    simp only [fourth,apply_ite BusConfig.pollingInterval]
  rw [← same]
  refine Filled.normalized ⟨?_,?_,?_,?_⟩ ?_
  · rw [nominalBitrate]
    split_ifs with zero
    · decide
    · exact zero
  · rw [dataBitrate]
    split_ifs with zero
    · decide
    · exact zero
  · rw [rxBufferSize]
    split_ifs at filledBuffer <;> omega
  · split_ifs at pollingInterval <;> omega
  · have one : first.Checked := .ite checked rfl rfl rfl rfl
    have two : second.Checked := .ite one rfl rfl rfl rfl
    have three : third.Checked := .ite two rfl rfl rfl rfl
    exact .ite three rfl rfl rfl rfl
end BusConfig

end Canbuskit.Can
