import Canbuskit.Lib.Channel
import Canbuskit.Lib.Runs
import Canbuskit.Isotp.Framing

/-! The session state machine: the transmit and receive handlers and the run loop that
dispatches to them. A handler returns the next state and what it put on the session's
channels. A timer is the duration it was armed with, or `none` once stopped, drained or
fired. -/
namespace Canbuskit.Isotp
open Can Channel Runs

structure Session where
  address : Address
  txAddress : Option Address
  fd : Bool
  frameDataLength : Int
  rxState : State
  txState : State
  rxBuffer : Bytes
  txBuffer : Bytes
  rxDataChan : Chan Bytes
  txDataChan : Chan Bytes
  rxFrameLen : Int
  txFrameLen : Int
  rxSeqNum : Int
  txSeqNum : Int
  rxBlockCounter : Int
  txBlockCounter : Int
  remoteBlockSize : Int
  remoteSTmin : Int
  txWaitFrames : Int
  timerRxCF : Option Int
  timerRxFC : Option Int
  timerTxSTmin : Option Int
  config : Config

inductive SessionError where
  | creatingSF (error : EncodeError)
  | creatingFF (error : EncodeError)
  | creatingCF (error : EncodeError)
  | tooManyWaitFrames (count : Int)
  | remoteOverflow
  | invalidFlowStatus (status : FlowStatus)
  | timeoutFlowControl
  | parse (error : ParseError)
  | singleFrameInterrupted
  | singleFrameDropped
  | firstFrameInterrupted
  | firstFrameLength (total : Int) (data : Nat)
  | payloadExceedsMaximum (total maximum : Int)
  | sequenceMismatch (expected actual : Int)
  | payloadDropped
  | timeoutConsecutiveFrame
  deriving DecidableEq

/-- What a handler puts on a channel: a frame for the link, a payload for the caller, or
an error for `fireError`, which never blocks and which nothing in the session reads back. -/
inductive Output where
  | frame (msg : LinkFrame)
  | payload (data : Bytes)
  | error (error : SessionError)
  deriving DecidableEq

/-- The case `sendMessage`'s select takes; with a live context it waits for room and is
`queued`, with a cancelled one it may take either. -/
inductive SendOutcome where
  | queued
  | cancelled
  deriving DecidableEq, Repr

inductive NewSessionError where
  | config (error : ConfigError)
  | address (error : AddressError)

namespace Session

def stopReceiving (s : Session) : Session :=
  { s with rxState := .idle, rxBuffer := [], rxFrameLen := 0, rxSeqNum := 0,
           rxBlockCounter := 0, timerRxCF := none }

def stopSending (s : Session) : Session :=
  { s with txState := .idle, txBuffer := [], txFrameLen := 0, txSeqNum := 0,
           txBlockCounter := 0, txWaitFrames := 0, timerRxFC := none, timerTxSTmin := none }

def resetRxTimer (s : Session) : Session :=
  { s with timerRxCF := some s.config.consecutiveFrameTimeout }

def resetTxFCTimer (s : Session) : Session :=
  { s with timerRxFC := some s.config.flowControlTimeout }

def resetTxSTminTimer (s : Session) (delay : Int) : Session :=
  { s with timerTxSTmin := some delay }

def maxDataLength (s : Session) : Int := s.frameDataLength

def nextFDTargetLength (length : Int) : Int :=
  if length ≤ 8 then 8
  else if length ≤ 12 then 12
  else if length ≤ 16 then 16
  else if length ≤ 20 then 20
  else if length ≤ 24 then 24
  else if length ≤ 32 then 32
  else if length ≤ 48 then 48
  else 64

def makeTxMsgWithAddr (s : Session) (addr : Address) (data : Bytes) : LinkFrame :=
  let fullPayload : Bytes := match s.config.paddingByte with
    | none => data
    | some padding =>
      let targetLen : Int := if s.fd then nextFDTargetLength data.length else 8
      if data.length < targetLen then
        data ++ List.replicate (targetLen - data.length).toNat padding
      else data
  ⟨addr.txID,fullPayload,s.fd⟩

def makeTxMsg (s : Session) (data : Bytes) : LinkFrame :=
  s.makeTxMsgWithAddr (s.txAddress.getD s.address) data

def makeFlowControlMsg (s : Session) (status : FlowStatus) : LinkFrame :=
  s.makeTxMsgWithAddr s.address
    (createFlowControlPayload status s.config.blockSize s.config.stMin)

/-- `false` when the context was cancelled before the frame was queued. -/
def sendFlowControlContext (s : Session) (status : FlowStatus) (outcome : SendOutcome) :
    Bool × List Output :=
  if s.config.manualFlowControl then (true,[])
  else match outcome with
    | .queued => (true,[.frame (s.makeFlowControlMsg status)])
    | .cancelled => (false,[])

def initiateTx (s : Session) (payload : Bytes) (outcome : SendOutcome) : Session × List Output :=
  let s : Session := { s with txBuffer := payload, txFrameLen := payload.length }
  let sfPciSize : Int := if 7 < s.txFrameLen then 2 else 1
  if s.txFrameLen + sfPciSize ≤ s.maxDataLength then
    match createSingleFramePayload payload s.maxDataLength with
    | .error error => (s.stopSending,[.error (.creatingSF error)])
    | .ok data => match outcome with
      | .queued => (s.stopSending,[.frame (s.makeTxMsg data)])
      | .cancelled => (s.stopSending,[])
  else
    let ffPciSize : Int := if 4095 < s.txFrameLen then 6 else 2
    let chunkSize := (s.maxDataLength - ffPciSize).toNat
    let firstChunk := s.txBuffer.take chunkSize
    let s : Session := { s with txBuffer := s.txBuffer.drop chunkSize }
    match createFirstFramePayload firstChunk s.txFrameLen s.maxDataLength with
    | .error error => (s.stopSending,[.error (.creatingFF error)])
    | .ok data =>
      let s : Session := { s with txSeqNum := 1, txState := .waitFC }
      match outcome with
      | .queued => (s.resetTxFCTimer,[.frame (s.makeTxMsg data)])
      | .cancelled => (s.stopSending,[])

def handleTxFlowControl (s : Session) (status : FlowStatus) (blockSize stMin : Int) :
    Session × List Output :=
  if s.txState ≠ .waitFC then (s,[])
  else if status = FlowStatus.continueToSend then
    let s : Session := { s with
      timerRxFC := none, timerTxSTmin := none, remoteBlockSize := blockSize,
      remoteSTmin := stMin, txState := .transmit, txBlockCounter := 0, txWaitFrames := 0 }
    (s.resetTxSTminTimer stMin,[])
  else if status = FlowStatus.wait then
    let s : Session := { s with txWaitFrames := s.txWaitFrames + 1 }
    if 0 ≤ s.config.maxWaitFrames ∧ s.config.maxWaitFrames < s.txWaitFrames then
      (s.stopSending,[.error (.tooManyWaitFrames s.txWaitFrames)])
    else (s.resetTxFCTimer,[])
  else if status = FlowStatus.overflow then (s.stopSending,[.error .remoteOverflow])
  else (s.stopSending,[.error (.invalidFlowStatus status)])

def handleTxTransmit (s : Session) (outcome : SendOutcome) : Session × List Output :=
  if s.txBuffer.length = 0 then (s.stopSending,[])
  else
    let chunkSize := (s.maxDataLength - 1).toNat
    let chunk := s.txBuffer.take chunkSize
    let s : Session := { s with txBuffer := s.txBuffer.drop chunkSize }
    match createConsecutiveFramePayload chunk s.txSeqNum with
    | .error error => (s.stopSending,[.error (.creatingCF error)])
    | .ok data =>
      let s : Session := { s with
        txSeqNum := (s.txSeqNum + 1).tmod 16, txBlockCounter := s.txBlockCounter + 1 }
      match outcome with
      | .cancelled => (s.stopSending,[])
      | .queued =>
        let sent := [.frame (s.makeTxMsg data)]
        if s.txBuffer.length = 0 then (s.stopSending,sent)
        else if 0 < s.remoteBlockSize ∧ s.remoteBlockSize ≤ s.txBlockCounter then
          (({ s with txState := .waitFC }).resetTxFCTimer,sent)
        else (s.resetTxSTminTimer s.remoteSTmin,sent)

def handleRxSingleFrame (s : Session) (data : Bytes) : Session × List Output :=
  let warned : List Output :=
    if s.rxState ≠ .idle then [.error .singleFrameInterrupted] else []
  let s := s.stopReceiving
  match s.rxDataChan.offer data with
  | some channel => ({ s with rxDataChan := channel },warned ++ [.payload data])
  | none => (s,warned ++ [.error .singleFrameDropped])

def handleRxFirstFrame (s : Session) (totalSize : Int) (data : Bytes) (outcome : SendOutcome) :
    Session × List Output :=
  let warned : List Output :=
    if s.rxState ≠ .idle then [.error .firstFrameInterrupted] else []
  let s := s.stopReceiving
  if totalSize ≤ data.length then
    (s,warned ++ [.error (.firstFrameLength totalSize data.length)])
  else if s.config.maxPayloadSize < totalSize then
    (s,warned ++ [.error (.payloadExceedsMaximum totalSize s.config.maxPayloadSize)])
  else
    let s : Session := { s with rxFrameLen := totalSize, rxBuffer := data, rxState := .waitCF, rxSeqNum := 1 }
    match s.sendFlowControlContext FlowStatus.continueToSend outcome with
    | (true,sent) => (s.resetRxTimer,warned ++ sent)
    | (false,sent) => (s.stopReceiving,warned ++ sent)

def handleRxConsecutiveFrame (s : Session) (sequenceNumber : Int) (data : Bytes)
    (outcome : SendOutcome) : Session × List Output :=
  if s.rxState ≠ .waitCF then (s,[])
  else if sequenceNumber ≠ s.rxSeqNum then
    (s.stopReceiving,[.error (.sequenceMismatch s.rxSeqNum sequenceNumber)])
  else
    let s : Session := { s.resetRxTimer with rxSeqNum := (s.rxSeqNum + 1).tmod 16 }
    let bytesToReceive := s.rxFrameLen - s.rxBuffer.length
    let s : Session := { s with rxBuffer := s.rxBuffer ++
      (if bytesToReceive < data.length then data.take bytesToReceive.toNat else data) }
    if s.rxFrameLen ≤ s.rxBuffer.length then
      match s.rxDataChan.offer s.rxBuffer with
      | some channel =>
        (({ s with rxDataChan := channel }).stopReceiving,[.payload s.rxBuffer])
      | none => (s.stopReceiving,[.error .payloadDropped])
    else
      let s : Session := { s with rxBlockCounter := s.rxBlockCounter + 1 }
      if 0 < s.config.blockSize ∧ s.config.blockSize ≤ s.rxBlockCounter then
        let s : Session := { s with rxBlockCounter := 0 }
        match s.sendFlowControlContext FlowStatus.continueToSend outcome with
        | (true,sent) => (s.resetRxTimer,sent)
        | (false,sent) => (s.stopReceiving,sent)
      else (s,[])

def processRx (s : Session) (msg : LinkFrame) (outcome : SendOutcome) : Session × List Output :=
  if !s.address.accepts msg.arbitrationID then (s,[])
  else match parseFrame msg.data with
    | .error error => (s,[.error (.parse error)])
    | .ok (.flowControlFrame status blockSize stMin) =>
      s.handleTxFlowControl status blockSize stMin
    | .ok (.singleFrame data) => s.handleRxSingleFrame data
    | .ok (.firstFrame totalSize data) => s.handleRxFirstFrame totalSize data outcome
    | .ok (.consecutiveFrame sequenceNumber data) =>
      s.handleRxConsecutiveFrame sequenceNumber data outcome

/-- The payload is queued; `none` when the length is refused or there is no room yet. -/
def sendContext (s : Session) (data : Bytes) : Option Session :=
  if s.config.maxPayloadSize < data.length then none
  else (s.txDataChan.offer data).map fun channel => { s with txDataChan := channel }

def setTxAddress (s : Session) (addr : Option Address) : Except AddressError Session :=
  match addr with
  | none => .ok { s with txAddress := none }
  | some addr => match Address.validate (some addr) with
    | .error error => .error error
    | .ok () => .ok { s with txAddress := some addr }

end Session

/-- The session `newSession` builds from a checked address and configuration. -/
def Session.fresh (address : Address) (cfg : Config) (fd : Bool) : Session where
  address := address
  txAddress := none
  fd := fd
  frameDataLength := if fd then 64 else 8
  rxState := .idle
  txState := .idle
  rxBuffer := []
  txBuffer := []
  rxDataChan := Chan.make 10
  txDataChan := Chan.make 10
  rxFrameLen := 0
  txFrameLen := 0
  rxSeqNum := 0
  txSeqNum := 0
  rxBlockCounter := 0
  txBlockCounter := 0
  remoteBlockSize := 0
  remoteSTmin := 0
  txWaitFrames := 0
  timerRxCF := none
  timerRxFC := none
  timerTxSTmin := none
  config := cfg

def newSession (address : Option Address) (cfg : Config) (fd : Bool) :
    Except NewSessionError Session :=
  match normalizeConfig cfg with
  | .error error => .error (.config error)
  | .ok cfg => match address, Address.validate address with
    | none, _ => .error (.address .nilAddress)
    | some _, .error error => .error (.address error)
    | some address, .ok () => .ok (Session.fresh address cfg fd)

/-- One iteration of the run loop's select, or a step another goroutine takes on the
state it shares with the loop: the two queues and the transmit address. -/
inductive Event where
  | frame (msg : LinkFrame) (outcome : SendOutcome)
  | dequeue (outcome : SendOutcome)
  | expireRxCF
  | expireRxFC
  | expireTxSTmin (outcome : SendOutcome)
  | send (data : Bytes)
  | receive
  | setTxAddress (addr : Option Address)
  deriving DecidableEq

namespace Session

/-- `none` when the event cannot occur: the select has no such case ready. -/
def step (s : Session) : Event → Option (Session × List Output)
  | .frame msg outcome => some (s.processRx msg outcome)
  | .dequeue outcome =>
    -- `txDataEnable` is nil, and so never ready, unless the transmit half is idle
    if s.txState = .idle then match s.txDataChan.poll with
      | some (data,channel) => some (({ s with txDataChan := channel }).initiateTx data outcome)
      | none => none
    else none
  | .expireRxCF => match s.timerRxCF with
    | some _ => some (s.stopReceiving,[.error .timeoutConsecutiveFrame])
    | none => none
  | .expireRxFC => match s.timerRxFC with
    | some _ => some (s.stopSending,[.error .timeoutFlowControl])
    | none => none
  | .expireTxSTmin outcome => match s.timerTxSTmin with
    | some _ =>
      let s : Session := { s with timerTxSTmin := none }
      if s.txState ≠ .transmit then some (s,[]) else some (s.handleTxTransmit outcome)
    | none => none
  | .send data => (s.sendContext data).map fun s => (s,[])
  | .receive => match s.rxDataChan.poll with
    | some (_,channel) => some ({ s with rxDataChan := channel },[])
    | none => none
  | .setTxAddress addr => match s.setTxAddress addr with
    | .ok s => some (s,[])
    | .error _ => none

end Session

/-- An event together with the states around it and what it put on the channels. -/
structure Move where
  before : Session
  event : Event
  outputs : List Output
  after : Session

def Move.Step (s : Session) (move : Move) (t : Session) : Prop :=
  move.before = s ∧ move.after = t ∧ s.step move.event = some (t,move.outputs)

/-- The run that a list of events determines, when each of them can occur. -/
def Session.execute (s : Session) (events : List Event) : Option (List Move × Session) :=
  Runs.execute (fun s event => match s.step event with
    | none => none
    | some (t,outputs) => some (⟨s,event,outputs,t⟩,t)) s events

theorem Session.execute_run {s t : Session} {events : List Event} {moves : List Move}
    (executed : s.execute events = some (moves,t)) : Run Move.Step s moves t := by
  refine Runs.execute_run ?_ executed
  intro u event move v taken
  split at taken
  · contradiction
  · rename_i stepped
    obtain ⟨rfl,rfl⟩ := Prod.mk.inj (Option.some.inj taken)
    exact ⟨rfl,rfl,stepped⟩

end Canbuskit.Isotp
