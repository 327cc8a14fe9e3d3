import Canbuskit.Isotp.Session

/-! What each handler can do, once for every later argument: an inversion lemma per
handler that names the guard it took, the state it leaves and what it put out. -/
namespace Canbuskit.Isotp
open Can Channel

def Output.frame? : Output → Option LinkFrame
  | .frame msg => some msg
  | _ => none

def Output.payload? : Output → Option Bytes
  | .payload data => some data
  | _ => none

def Output.error? : Output → Option SessionError
  | .error reported => some reported
  | _ => none

def frames (outputs : List Output) : List LinkFrame := outputs.filterMap Output.frame?
def payloads (outputs : List Output) : List Bytes := outputs.filterMap Output.payload?
def errors (outputs : List Output) : List SessionError := outputs.filterMap Output.error?

@[simp] theorem frames_append (left right : List Output) :
    frames (left ++ right) = frames left ++ frames right := List.filterMap_append

@[simp] theorem payloads_append (left right : List Output) :
    payloads (left ++ right) = payloads left ++ payloads right := List.filterMap_append

@[simp] theorem errors_append (left right : List Output) :
    errors (left ++ right) = errors left ++ errors right := List.filterMap_append

@[simp] theorem frames_nil : frames [] = [] := rfl
@[simp] theorem payloads_nil : payloads [] = [] := rfl
@[simp] theorem errors_nil : errors [] = [] := rfl

@[simp] theorem frames_frame (msg : LinkFrame) : frames [.frame msg] = [msg] := rfl
@[simp] theorem frames_payload (data : Bytes) : frames [.payload data] = [] := rfl
@[simp] theorem frames_error (error : SessionError) : frames [.error error] = [] := rfl
@[simp] theorem payloads_frame (msg : LinkFrame) : payloads [.frame msg] = [] := rfl
@[simp] theorem payloads_payload (data : Bytes) : payloads [.payload data] = [data] := rfl
@[simp] theorem payloads_error (error : SessionError) : payloads [.error error] = [] := rfl
@[simp] theorem errors_frame (msg : LinkFrame) : errors [.frame msg] = [] := rfl
@[simp] theorem errors_payload (data : Bytes) : errors [.payload data] = [] := rfl
@[simp] theorem errors_error (error : SessionError) : errors [.error error] = [error] := rfl

/-- Errors the transmit half reports; the others come from parsing and from reception. -/
def SessionError.sending : SessionError → Bool
  | .creatingSF _ => true
  | .creatingFF _ => true
  | .creatingCF _ => true
  | .tooManyWaitFrames _ => true
  | .remoteOverflow => true
  | .invalidFlowStatus _ => true
  | .timeoutFlowControl => true
  | _ => false

/-- Errors of the frame encoders, which no reachable state gives a bad argument. -/
def SessionError.encoding : SessionError → Bool
  | .creatingSF _ => true
  | .creatingFF _ => true
  | .creatingCF _ => true
  | _ => false

theorem SessionError.sending_of_encoding {error : SessionError} (encodes : error.encoding = true) :
    error.sending = true := by
  cases error with
  | creatingSF | creatingFF | creatingCF => rfl
  | _ => contradiction

/-- Nothing but errors of the receive half. -/
structure Quiet (outputs : List Output) : Prop where
  frames : frames outputs = []
  payloads : payloads outputs = []
  receiving : ∀ error ∈ errors outputs, error.sending = false

theorem Quiet.nil : Quiet [] := ⟨rfl,rfl,by simp⟩

theorem Quiet.single {error : SessionError} (receiving : error.sending = false) :
    Quiet [.error error] :=
  ⟨rfl,rfl,by simpa using receiving⟩

theorem Quiet.append {left right : List Output} (first : Quiet left) (second : Quiet right) :
    Quiet (left ++ right) := by
  refine ⟨by simp [first.frames,second.frames],by simp [first.payloads,second.payloads],?_⟩
  intro error member
  rw [errors_append,List.mem_append] at member
  exact member.elim (first.receiving error) (second.receiving error)

theorem Quiet.warning {condition : Prop} [Decidable condition] {error : SessionError}
    (receiving : error.sending = false) : Quiet (if condition then [.error error] else []) := by
  split_ifs
  · exact .single receiving
  · exact .nil

namespace Session

/-- What `newSession` establishes and no step changes. -/
structure Configured (s : Session) : Prop where
  width : s.frameDataLength = maximumLength s.fd
  config : s.config.Valid
  address : s.address.txID ≤ 0x7FF ∧ s.address.rxID ≤ 0x7FF
  txAddress : ∀ address, s.txAddress = some address → address.txID ≤ 0x7FF

theorem Configured.width_cases {s : Session} (configured : s.Configured) :
    s.maxDataLength = 8 ∨ s.maxDataLength = 64 := by
  have width := configured.width
  cases fd : s.fd <;> simp [fd,maximumLength,maxDataLength] at width ⊢ <;> omega

def firstFrameRoom (s : Session) (total : Int) : Nat :=
  (s.maxDataLength - (if 4095 < total then 6 else 2)).toNat

def consecutiveFrameRoom (s : Session) : Nat := (s.maxDataLength - 1).toNat

def fitsSingleFrame (s : Session) (payload : Bytes) : Prop :=
  payload.length + (if 7 < (payload.length : Int) then 2 else 1) ≤ s.maxDataLength

theorem single_encodes {s : Session} (configured : s.Configured) {payload : Bytes}
    (fits : s.fitsSingleFrame payload) :
    ∃ data, createSingleFramePayload payload s.maxDataLength = .ok data ∧
      (data.length : Int) ≤ s.maxDataLength := by
  unfold fitsSingleFrame at fits
  unfold createSingleFramePayload
  dsimp only
  rcases configured.width_cases with width | width <;> rw [width] at fits ⊢ <;>
    split_ifs at fits ⊢ <;> simp_all <;> omega

theorem firstFramePCI_length (total : Int) :
    ((firstFramePCI total).length : Int) = if 4095 < total then 6 else 2 := by
  unfold firstFramePCI
  split_ifs <;> first | omega | simp [putUint32]

/-- The First Frame of a payload that is too long for a Single Frame is exactly full and
leaves something to send. -/
theorem first_encodes {s : Session} (configured : s.Configured) {payload : Bytes}
    (several : ¬ s.fitsSingleFrame payload) :
    0 < s.firstFrameRoom payload.length ∧ s.firstFrameRoom payload.length < payload.length ∧
      ∃ data, createFirstFramePayload (payload.take (s.firstFrameRoom payload.length))
          payload.length s.maxDataLength = .ok data ∧ (data.length : Int) = s.maxDataLength := by
  have pci := firstFramePCI_length payload.length
  unfold fitsSingleFrame at several
  unfold firstFrameRoom createFirstFramePayload
  rcases configured.width_cases with width | width <;> rw [width] at several ⊢
  all_goals
    refine ⟨by split_ifs <;> omega,by split_ifs at several ⊢ <;> omega,?_⟩
    rw [if_neg (by simp only [List.length_take]; split_ifs at several pci ⊢ <;> omega)]
    refine ⟨_,rfl,?_⟩
    simp only [List.length_append,List.length_take]
    split_ifs at several pci ⊢ <;> omega

theorem first_frame_full {s : Session} (configured : s.Configured) {payload data : Bytes}
    (several : ¬ s.fitsSingleFrame payload)
    (encoded : createFirstFramePayload (payload.take (s.firstFrameRoom payload.length))
      payload.length s.maxDataLength = .ok data) : (data.length : Int) = s.maxDataLength := by
  obtain ⟨_,_,_,same,full⟩ := first_encodes configured several
  rw [encoded] at same
  rwa [Except.ok.inj same]

theorem sendFlowControlContext_cases (s : Session) (status : FlowStatus) (outcome : SendOutcome) :
    (s.config.manualFlowControl = true ∧ s.sendFlowControlContext status outcome = (true,[])) ∨
    (s.config.manualFlowControl = false ∧ outcome = .queued ∧
      s.sendFlowControlContext status outcome = (true,[.frame (s.makeFlowControlMsg status)])) ∨
    (s.config.manualFlowControl = false ∧ outcome = .cancelled ∧
      s.sendFlowControlContext status outcome = (false,[])) := by
  unfold sendFlowControlContext
  cases s.config.manualFlowControl <;> cases outcome <;> simp

/-- The frames of a granted Flow Control: none under manual flow control. -/
def flow (s : Session) : List Output :=
  if s.config.manualFlowControl then []
  else [.frame (s.makeFlowControlMsg FlowStatus.continueToSend)]

def startSending (s : Session) (payload : Bytes) : Session :=
  { s with txBuffer := payload.drop (s.firstFrameRoom payload.length), txFrameLen := payload.length,
           txSeqNum := 1, txState := .waitFC, timerRxFC := some s.config.flowControlTimeout }

theorem initiateTx_cases {s : Session} (configured : s.Configured) (payload : Bytes)
    (outcome : SendOutcome) :
    (outcome = .cancelled ∧ s.initiateTx payload outcome = (s.stopSending,[])) ∨
    (outcome = .queued ∧ s.fitsSingleFrame payload ∧ ∃ data,
      createSingleFramePayload payload s.maxDataLength = .ok data ∧
      s.initiateTx payload outcome = (s.stopSending,[.frame (s.makeTxMsg data)])) ∨
    (outcome = .queued ∧ ¬ s.fitsSingleFrame payload ∧ ∃ data,
      createFirstFramePayload (payload.take (s.firstFrameRoom payload.length))
        payload.length s.maxDataLength = .ok data ∧
      s.initiateTx payload outcome = (s.startSending payload,[.frame (s.makeTxMsg data)])) := by
  by_cases fits : s.fitsSingleFrame payload
  · obtain ⟨data,encoded,_⟩ := single_encodes configured fits
    have guard := fits
    have sent := encoded
    simp only [fitsSingleFrame,maxDataLength] at guard sent
    cases outcome with
    | cancelled =>
      refine .inl ⟨rfl,?_⟩
      simp only [initiateTx,maxDataLength,if_pos guard,sent]
      rfl
    | queued =>
      refine .inr (.inl ⟨rfl,fits,data,encoded,?_⟩)
      simp only [initiateTx,maxDataLength,if_pos guard,sent]
      rfl
  · obtain ⟨_,_,data,encoded,_⟩ := first_encodes configured fits
    have guard := fits
    have sent := encoded
    simp only [fitsSingleFrame,firstFrameRoom,maxDataLength] at guard sent
    cases outcome with
    | cancelled =>
      refine .inl ⟨rfl,?_⟩
      simp only [initiateTx,maxDataLength,if_neg guard,sent]
      rfl
    | queued =>
      refine .inr (.inr ⟨rfl,fits,data,encoded,?_⟩)
      simp only [initiateTx,maxDataLength,if_neg guard,sent]
      rfl

def grant (s : Session) (blockSize stMin : Int) : Session :=
  { s with timerRxFC := none, timerTxSTmin := some stMin, remoteBlockSize := blockSize,
           remoteSTmin := stMin, txState := .transmit, txBlockCounter := 0, txWaitFrames := 0 }

def delay (s : Session) : Session :=
  { s with txWaitFrames := s.txWaitFrames + 1, timerRxFC := some s.config.flowControlTimeout }

theorem handleTxFlowControl_cases (s : Session) (status : FlowStatus) (blockSize stMin : Int) :
    (s.txState ≠ .waitFC ∧ s.handleTxFlowControl status blockSize stMin = (s,[])) ∨
    (s.txState = .waitFC ∧ status = FlowStatus.continueToSend ∧
      s.handleTxFlowControl status blockSize stMin = (s.grant blockSize stMin,[])) ∨
    (s.txState = .waitFC ∧ status = FlowStatus.wait ∧
      (0 ≤ s.config.maxWaitFrames → s.txWaitFrames + 1 ≤ s.config.maxWaitFrames) ∧
      s.handleTxFlowControl status blockSize stMin = (s.delay,[])) ∨
    (s.txState = .waitFC ∧ status ≠ FlowStatus.continueToSend ∧ ∃ error : SessionError,
      error.sending = true ∧ error.encoding = false ∧
      s.handleTxFlowControl status blockSize stMin = (s.stopSending,[.error error])) := by
  unfold handleTxFlowControl
  by_cases waits : s.txState = .waitFC
  · rw [if_neg (by simpa using waits)]
    by_cases grant : status = FlowStatus.continueToSend
    · rw [if_pos grant]
      exact .inr (.inl ⟨waits,grant,rfl⟩)
    · rw [if_neg grant]
      by_cases wait : status = FlowStatus.wait
      · rw [if_pos wait]
        dsimp only
        split_ifs with excess
        · exact .inr (.inr (.inr ⟨waits,grant,_,rfl,rfl,rfl⟩))
        · exact .inr (.inr (.inl ⟨waits,wait,by omega,rfl⟩))
      · rw [if_neg wait]
        split_ifs
        · exact .inr (.inr (.inr ⟨waits,grant,_,rfl,rfl,rfl⟩))
        · exact .inr (.inr (.inr ⟨waits,grant,_,rfl,rfl,rfl⟩))
  · rw [if_pos waits]
    exact .inl ⟨waits,rfl⟩

/-- The state after a Consecutive Frame that neither ends the payload nor the block. -/
def keepSending (s : Session) : Session :=
  { s with txBuffer := s.txBuffer.drop s.consecutiveFrameRoom,
           txSeqNum := (s.txSeqNum + 1) % 16, txBlockCounter := s.txBlockCounter + 1,
           timerTxSTmin := some s.remoteSTmin }

/-- The state after the last Consecutive Frame of a block. -/
def endBlock (s : Session) : Session :=
  { s with txBuffer := s.txBuffer.drop s.consecutiveFrameRoom,
           txSeqNum := (s.txSeqNum + 1) % 16, txBlockCounter := s.txBlockCounter + 1,
           txState := .waitFC, timerRxFC := some s.config.flowControlTimeout }

theorem handleTxTransmit_cases {s : Session} (outcome : SendOutcome) (pending : s.txBuffer ≠ [])
    (range : 0 ≤ s.txSeqNum ∧ s.txSeqNum ≤ 15) :
    (outcome = .cancelled ∧ s.handleTxTransmit outcome = (s.stopSending,[])) ∨
    (outcome = .queued ∧ ∃ data,
      createConsecutiveFramePayload (s.txBuffer.take s.consecutiveFrameRoom) s.txSeqNum = .ok data ∧
      ((s.txBuffer.length ≤ s.consecutiveFrameRoom ∧
          s.handleTxTransmit outcome = (s.stopSending,[.frame (s.makeTxMsg data)])) ∨
        (s.consecutiveFrameRoom < s.txBuffer.length ∧
          0 < s.remoteBlockSize ∧ s.remoteBlockSize ≤ s.txBlockCounter + 1 ∧
          s.handleTxTransmit outcome = (s.endBlock,[.frame (s.makeTxMsg data)])) ∨
        (s.consecutiveFrameRoom < s.txBuffer.length ∧
          (0 < s.remoteBlockSize → s.txBlockCounter + 1 < s.remoteBlockSize) ∧
          s.handleTxTransmit outcome = (s.keepSending,[.frame (s.makeTxMsg data)])))) := by
  have nonempty : ¬ s.txBuffer.length = 0 := by simpa using pending
  have wraps : (s.txSeqNum + 1).tmod 16 = (s.txSeqNum + 1) % 16 :=
    Int.tmod_eq_emod_of_nonneg (by omega)
  have encoded : createConsecutiveFramePayload (s.txBuffer.take s.consecutiveFrameRoom) s.txSeqNum =
      .ok ((pciTypeConsecutiveFrame ||| byteOf s.txSeqNum) ::
        s.txBuffer.take s.consecutiveFrameRoom) := by
    rw [createConsecutiveFramePayload,if_neg (by omega)]
  unfold handleTxTransmit
  dsimp only
  rw [if_neg nonempty]
  unfold consecutiveFrameRoom at encoded
  rw [encoded,wraps]
  cases outcome with
  | cancelled => exact .inl ⟨rfl,rfl⟩
  | queued =>
    refine .inr ⟨rfl,_,encoded,?_⟩
    simp only [List.length_drop]
    split_ifs with last block
    · exact .inl ⟨by unfold consecutiveFrameRoom; omega,rfl⟩
    · exact .inr (.inl ⟨by unfold consecutiveFrameRoom; omega,block.1,block.2,rfl⟩)
    · exact .inr (.inr ⟨by unfold consecutiveFrameRoom; omega,by omega,rfl⟩)

theorem handleRxSingleFrame_cases (s : Session) (data : Bytes) :
    (∃ channel warned, s.rxDataChan.offer data = some channel ∧ Quiet warned ∧
      s.handleRxSingleFrame data =
        ({ s.stopReceiving with rxDataChan := channel },warned ++ [.payload data])) ∨
    (∃ outputs, s.rxDataChan.offer data = none ∧ Quiet outputs ∧
      s.handleRxSingleFrame data = (s.stopReceiving,outputs)) := by
  have same : s.stopReceiving.rxDataChan = s.rxDataChan := rfl
  unfold handleRxSingleFrame
  dsimp only
  rw [same]
  cases offered : s.rxDataChan.offer data with
  | some channel => exact .inl ⟨channel,_,rfl,.warning rfl,rfl⟩
  | none => exact .inr ⟨_,rfl,.append (.warning rfl) (.single rfl),rfl⟩

/-- The state after an accepted First Frame. -/
def startReceiving (s : Session) (totalSize : Int) (data : Bytes) : Session :=
  { s with rxState := .waitCF, rxBuffer := data, rxFrameLen := totalSize, rxSeqNum := 1,
           rxBlockCounter := 0, timerRxCF := some s.config.consecutiveFrameTimeout }

theorem handleRxFirstFrame_cases (s : Session) (totalSize : Int) (data : Bytes)
    (outcome : SendOutcome) :
    (∃ outputs, (totalSize ≤ data.length ∨ s.config.maxPayloadSize < totalSize ∨
        s.config.manualFlowControl = false ∧ outcome = .cancelled) ∧ Quiet outputs ∧
      s.handleRxFirstFrame totalSize data outcome = (s.stopReceiving,outputs)) ∨
    (∃ warned, data.length < totalSize ∧ totalSize ≤ s.config.maxPayloadSize ∧ Quiet warned ∧
      s.handleRxFirstFrame totalSize data outcome =
        (s.startReceiving totalSize data,warned ++ s.flow)) := by
  have warning : Quiet (if s.rxState ≠ .idle then [.error .firstFrameInterrupted] else []) :=
    .warning rfl
  unfold handleRxFirstFrame
  dsimp only
  by_cases short : totalSize ≤ data.length
  · rw [if_pos short]
    exact .inl ⟨_,.inl short,.append warning (.single rfl),rfl⟩
  · rw [if_neg short]
    by_cases excess : s.config.maxPayloadSize < totalSize
    · rw [if_pos (show s.stopReceiving.config.maxPayloadSize < totalSize from excess)]
      exact .inl ⟨_,.inr (.inl excess),.append warning (.single rfl),rfl⟩
    · rw [if_neg (show ¬ s.stopReceiving.config.maxPayloadSize < totalSize from excess)]
      generalize started : ({ s.stopReceiving with
        rxFrameLen := totalSize, rxBuffer := data, rxState := .waitCF, rxSeqNum := 1 } : Session) = t
      have manual : t.config = s.config := by rw [← started]; rfl
      have message : t.makeFlowControlMsg = s.makeFlowControlMsg := by rw [← started]; rfl
      have reset : t.resetRxTimer = s.startReceiving totalSize data := by rw [← started]; rfl
      have stop : t.stopReceiving = s.stopReceiving := by rw [← started]; rfl
      rcases t.sendFlowControlContext_cases FlowStatus.continueToSend outcome with
        ⟨manually,sent⟩ | ⟨automatic,queued,sent⟩ | ⟨automatic,cancelled,sent⟩
      · rw [sent]
        refine .inr ⟨_,by omega,by omega,warning,?_⟩
        simp only [reset,flow,← manual,manually,if_true]
      · rw [sent]
        refine .inr ⟨_,by omega,by omega,warning,?_⟩
        simp only [reset,flow,← manual,automatic,message]
        rfl
      · rw [sent,manual] at *
        refine .inl ⟨_,.inr (.inr ⟨automatic,cancelled⟩),.append warning .nil,?_⟩
        simp only [stop]

/-- The reception buffer after a Consecutive Frame; bytes beyond the total are dropped. -/
def joined (s : Session) (data : Bytes) : Bytes :=
  s.rxBuffer ++ (if s.rxFrameLen - s.rxBuffer.length < data.length
    then data.take (s.rxFrameLen - s.rxBuffer.length).toNat else data)

theorem joined_eq (s : Session) (data : Bytes) :
    s.joined data = s.rxBuffer ++ data.take (s.rxFrameLen - s.rxBuffer.length).toNat := by
  unfold joined
  split_ifs with excess
  · rfl
  · rw [List.take_of_length_le (by omega)]

/-- The state after a Consecutive Frame that completes nothing. -/
def collect (s : Session) (data : Bytes) : Session :=
  { s with rxBuffer := s.joined data, rxSeqNum := (s.rxSeqNum + 1) % 16,
           rxBlockCounter := s.rxBlockCounter + 1,
           timerRxCF := some s.config.consecutiveFrameTimeout }

/-- The state after a Consecutive Frame that completes a block. -/
def completeBlock (s : Session) (data : Bytes) : Session :=
  { s.collect data with rxBlockCounter := 0 }

theorem handleRxConsecutiveFrame_expected {s : Session} {number : Int} {data : Bytes}
    {outcome : SendOutcome} (waits : s.rxState = .waitCF) (expected : number = s.rxSeqNum)
    (range : 0 ≤ s.rxSeqNum) : s.handleRxConsecutiveFrame number data outcome =
      if s.rxFrameLen ≤ (s.joined data).length then
        match s.rxDataChan.offer (s.joined data) with
        | some channel =>
          (({ s with rxDataChan := channel }).stopReceiving,[.payload (s.joined data)])
        | none => (s.stopReceiving,[.error .payloadDropped])
      else if 0 < s.config.blockSize ∧ s.config.blockSize ≤ s.rxBlockCounter + 1 then
        match (s.completeBlock data).sendFlowControlContext FlowStatus.continueToSend outcome with
        | (true,sent) => (s.completeBlock data,sent)
        | (false,sent) => (s.stopReceiving,sent)
      else (s.collect data,[]) := by
  have wraps : (s.rxSeqNum + 1).tmod 16 = (s.rxSeqNum + 1) % 16 :=
    Int.tmod_eq_emod_of_nonneg (by omega)
  rw [handleRxConsecutiveFrame,if_neg (not_not.mpr waits),if_neg (not_not.mpr expected)]
  simp only [resetRxTimer,wraps]
  rfl

theorem handleRxConsecutiveFrame_cases {s : Session} (number : Int) (data : Bytes)
    (outcome : SendOutcome) (range : 0 ≤ s.rxSeqNum) :
    (s.rxState ≠ .waitCF ∧ s.handleRxConsecutiveFrame number data outcome = (s,[])) ∨
    (s.rxState = .waitCF ∧ number ≠ s.rxSeqNum ∧ ∃ outputs, Quiet outputs ∧
      s.handleRxConsecutiveFrame number data outcome = (s.stopReceiving,outputs)) ∨
    (s.rxState = .waitCF ∧ number = s.rxSeqNum ∧ s.rxFrameLen ≤ (s.joined data).length ∧
      ((∃ channel, s.rxDataChan.offer (s.joined data) = some channel ∧
          s.handleRxConsecutiveFrame number data outcome =
            (({ s with rxDataChan := channel }).stopReceiving,[.payload (s.joined data)])) ∨
        (s.rxDataChan.offer (s.joined data) = none ∧ ∃ outputs, Quiet outputs ∧
          s.handleRxConsecutiveFrame number data outcome = (s.stopReceiving,outputs)))) ∨
    (s.rxState = .waitCF ∧ number = s.rxSeqNum ∧ (s.joined data).length < s.rxFrameLen ∧
      ((0 < s.config.blockSize → s.rxBlockCounter + 1 < s.config.blockSize) ∧
          s.handleRxConsecutiveFrame number data outcome = (s.collect data,[]) ∨
        0 < s.config.blockSize ∧ s.config.blockSize ≤ s.rxBlockCounter + 1 ∧
          (s.handleRxConsecutiveFrame number data outcome = (s.completeBlock data,s.flow) ∨
            s.config.manualFlowControl = false ∧ outcome = .cancelled ∧
              s.handleRxConsecutiveFrame number data outcome = (s.stopReceiving,[])))) := by
  by_cases waits : s.rxState = .waitCF
  · by_cases expected : number = s.rxSeqNum
    · rw [handleRxConsecutiveFrame_expected waits expected range]
      refine .inr (.inr ?_)
      split_ifs with whole block
      · refine .inl ⟨waits,expected,whole,?_⟩
        cases offered : s.rxDataChan.offer (s.joined data) with
        | some channel => exact .inl ⟨channel,rfl,rfl⟩
        | none => exact .inr ⟨rfl,_,.single rfl,rfl⟩
      · refine .inr ⟨waits,expected,by omega,.inr ⟨block.1,block.2,?_⟩⟩
        have manual : (s.completeBlock data).config = s.config := rfl
        have message : (s.completeBlock data).makeFlowControlMsg = s.makeFlowControlMsg := rfl
        rcases (s.completeBlock data).sendFlowControlContext_cases FlowStatus.continueToSend
          outcome with ⟨manually,sent⟩ | ⟨automatic,queued,sent⟩ | ⟨automatic,cancelled,sent⟩
        · rw [sent]
          refine .inl ?_
          simp only [flow,← manual,manually,if_true]
        · rw [sent]
          refine .inl ?_
          simp only [flow,← manual,automatic,message]
          rfl
        · rw [sent]
          exact .inr ⟨automatic,cancelled,rfl⟩
      · exact .inr ⟨waits,expected,by omega,.inl ⟨by omega,rfl⟩⟩
    · have mismatch : Quiet [.error (.sequenceMismatch s.rxSeqNum number)] := .single rfl
      refine .inr (.inl ⟨waits,expected,_,mismatch,?_⟩)
      rw [handleRxConsecutiveFrame,if_neg (not_not.mpr waits),if_pos expected]
  · exact .inl ⟨waits,by rw [handleRxConsecutiveFrame,if_pos waits]⟩

end Session
end Canbuskit.Isotp
