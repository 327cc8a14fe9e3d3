import Canbuskit.Can.Frame

/-! The data of a UDS request: negative response codes with their descriptions, the options
of a request with their defaults and checks, and what a request can return. A duration is its
count of nanoseconds. -/
namespace Canbuskit.Uds
open Can

abbrev NRC := UInt8

def NRC.busyRepeatRequest : NRC := 0x21
def NRC.requestCorrectlyReceivedResponsePending : NRC := 0x78

def nrcDescriptions : List (NRC × String) :=
  [(0x00,"PositiveResponse"),(0x10,"GeneralReject"),(0x11,"ServiceNotSupported"),
   (0x12,"SubFunctionNotSupported"),(0x13,"IncorrectMessageLengthOrInvalidFormat"),
   (0x14,"ResponseTooLong"),(0x21,"BusyRepeatRequest"),(0x22,"ConditionsNotCorrect"),
   (0x24,"RequestSequenceError"),(0x25,"NoResponseFromSubnetComponent"),
   (0x26,"FailurePreventsExecutionOfRequestedAction"),(0x31,"RequestOutOfRange"),
   (0x33,"SecurityAccessDenied"),(0x34,"AuthenticationRequired"),(0x35,"InvalidKey"),
   (0x36,"ExceedNumberOfAttempts"),(0x37,"RequiredTimeDelayNotExpired"),
   (0x38,"SecureDataTransmissionRequired"),(0x39,"SecureDataTransmissionNotAllowed"),
   (0x3A,"SecureDataVerificationFailed"),(0x50,"CertificateVerificationFailedInvalidTimePeriod"),
   (0x51,"CertificateVerificationFailedInvalidSignature"),
   (0x52,"CertificateVerificationFailedInvalidChainOfTrust"),
   (0x53,"CertificateVerificationFailedInvalidType"),
   (0x54,"CertificateVerificationFailedInvalidFormat"),
   (0x55,"CertificateVerificationFailedInvalidContent"),
   (0x56,"CertificateVerificationFailedInvalidScope"),
   (0x57,"CertificateVerificationFailedInvalidCertificate"),(0x58,"OwnershipVerificationFailed"),
   (0x59,"ChallengeCalculationFailed"),(0x5A,"SettingAccessRightsFailed"),
   (0x5B,"SessionKeyCreationDerivationFailed"),(0x5C,"ConfigurationDataUsageFailed"),
   (0x5D,"DeAuthenticationFailed"),(0x70,"UploadDownloadNotAccepted"),
   (0x71,"TransferDataSuspended"),(0x72,"GeneralProgrammingFailure"),
   (0x73,"WrongBlockSequenceCounter"),(0x78,"RequestCorrectlyReceivedResponsePending"),
   (0x7E,"SubFunctionNotSupportedInActiveSession"),(0x7F,"ServiceNotSupportedInActiveSession"),
   (0x81,"RpmTooHigh"),(0x82,"RpmTooLow"),(0x83,"EngineIsRunning"),(0x84,"EngineIsNotRunning"),
   (0x85,"EngineRunTimeTooLow"),(0x86,"TemperatureTooHigh"),(0x87,"TemperatureTooLow"),
   (0x88,"VehicleSpeedTooHigh"),(0x89,"VehicleSpeedTooLow"),(0x8A,"ThrottlePedalTooHigh"),
   (0x8B,"ThrottlePedalTooLow"),(0x8C,"TransmissionRangeNotInNeutral"),
   (0x8D,"TransmissionRangeNotInGear"),(0x8F,"BrakeSwitchNotClosed"),(0x90,"ShifterLeverNotInPark"),
   (0x91,"TorqueConverterClutchLocked"),(0x92,"VoltageTooHigh"),(0x93,"VoltageTooLow"),
   (0x94,"ResourceTemporarilyNotAvailable"),(0x3B,"TerminationWithSignatureRequested"),
   (0x3C,"AccessDenied"),(0x3D,"VersionNotSupported"),(0x3E,"SecuredLinkNotSupported"),
   (0x3F,"CertificateNotAvailable"),(0x40,"AuditTrailInformationNotAvailable")]

def getNRCDescription (nrc : NRC) : String := (nrcDescriptions.lookup nrc).getD "UnknownNRC"

theorem nrcDescriptions_distinct : (nrcDescriptions.map Prod.fst).Nodup := by
  decide

structure UDSError where
  serviceID : UInt8
  nrc : NRC
  message : String
  deriving DecidableEq

def UDSError.isRetryable (error : UDSError) : Bool :=
  error.nrc == NRC.busyRepeatRequest || error.nrc == NRC.requestCorrectlyReceivedResponsePending

structure RequestOptions where
  timeout : Int
  maxRetries : Int
  retryDelay : Int
  responsePendingTimeout : Int
  maxResponsePending : Int
  deriving DecidableEq

def responsePendingTimeout : Int := 5000 * 1000000
def defaultMaxPending : Int := 16
def defaultMaxRetries : Int := 3

def defaultRequestOptions : RequestOptions where
  timeout := 500 * 1000000
  maxRetries := defaultMaxRetries
  retryDelay := 100 * 1000000
  responsePendingTimeout := responsePendingTimeout
  maxResponsePending := defaultMaxPending

inductive OptionsError where
  | timeout
  | maxRetries
  | retryDelay
  | responsePendingTimeout
  | maxResponsePending
  deriving DecidableEq

/-- Zero selects the default of the two limits on pending responses. -/
def normalizeRequestOptions (opts : RequestOptions) : Except OptionsError RequestOptions :=
  if opts.timeout ≤ 0 then .error .timeout
  else if opts.maxRetries < 0 then .error .maxRetries
  else if opts.retryDelay < 0 then .error .retryDelay
  else
    let opts := if opts.responsePendingTimeout = 0 then
      { opts with responsePendingTimeout := responsePendingTimeout } else opts
    if opts.responsePendingTimeout < 0 then .error .responsePendingTimeout
    else
      let opts := if opts.maxResponsePending = 0 then
        { opts with maxResponsePending := defaultMaxPending } else opts
      if opts.maxResponsePending < 0 then .error .maxResponsePending
      else .ok opts

/-- What the checks leave open. -/
structure RequestOptions.Valid (opts : RequestOptions) : Prop where
  timeout : 0 < opts.timeout
  maxRetries : 0 ≤ opts.maxRetries
  retryDelay : 0 ≤ opts.retryDelay
  responsePendingTimeout : 0 < opts.responsePendingTimeout
  maxResponsePending : 0 < opts.maxResponsePending

theorem normalizeRequestOptions_valid {opts normalized : RequestOptions}
    (accepted : normalizeRequestOptions opts = .ok normalized) : normalized.Valid := by
  unfold normalizeRequestOptions at accepted
  dsimp only at accepted
  generalize fill : (if opts.responsePendingTimeout = 0 then
    { opts with responsePendingTimeout := responsePendingTimeout } else opts) = pending at accepted
  have kept : pending.timeout = opts.timeout ∧ pending.maxRetries = opts.maxRetries ∧
      pending.retryDelay = opts.retryDelay ∧ pending.responsePendingTimeout ≠ 0 := by
    rw [← fill]
    have default : responsePendingTimeout ≠ 0 := by decide
    split_ifs with unset
    · exact ⟨rfl,rfl,rfl,default⟩
    · exact ⟨rfl,rfl,rfl,unset⟩
  split_ifs at accepted with timeout retries delay wait unlimited negative bound
  · cases accepted
    have default : 0 < defaultMaxPending := by decide
    exact ⟨by dsimp only; omega,by dsimp only; omega,by dsimp only; omega,by dsimp only; omega,default⟩
  · cases accepted
    exact ⟨by omega,by omega,by omega,by omega,by omega⟩

/-- Options that have been normalized stay as they are. -/
theorem normalizeRequestOptions_of_valid {opts : RequestOptions} (valid : opts.Valid) :
    normalizeRequestOptions opts = .ok opts := by
  obtain ⟨timeout,maxRetries,retryDelay,pending,maxPending⟩ := valid
  unfold normalizeRequestOptions
  rw [if_neg (by omega),if_neg (by omega),if_neg (by omega),if_neg (Int.ne_of_gt pending)]
  dsimp only
  rw [if_neg (by omega),if_neg (Int.ne_of_gt maxPending),if_neg (by omega)]

theorem defaultRequestOptions_valid :
    normalizeRequestOptions defaultRequestOptions = .ok defaultRequestOptions := by
  rfl

/-- The services whose first byte after the SID is a sub-function with a suppress bit. -/
def hasSubFunctionSuppressPositive (sid : UInt8) : Bool :=
  [0x10,0x11,0x19,0x27,0x28,0x2F,0x31,0x3E,0x85,0x86,0x87].contains sid

end Canbuskit.Uds
