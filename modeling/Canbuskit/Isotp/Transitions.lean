import Canbuskit.Isotp.Handlers

/-! The invariant of a session and everything one step of a session can do under it. All
later arguments about runs take a step apart through `step_transition`. -/
namespace Canbuskit.Isotp
open Can Channel

namespace Session

/-- The receive half as `stopReceiving` leaves it. -/
structure ReceiveIdle (s : Session) : Prop where
  state : s.rxState = .idle
  timer : s.timerRxCF = none
  buffer : s.rxBuffer = []
  frameLen : s.rxFrameLen = 0
  seqNum : s.rxSeqNum = 0
  blockCounter : s.rxBlockCounter = 0

structure ReceiveWaitCF (s : Session) : Prop where
  state : s.rxState = .waitCF
  timer : s.timerRxCF = some s.config.consecutiveFrameTimeout
  short : s.rxBuffer.length < s.rxFrameLen
  limit : s.rxFrameLen ≤ s.config.maxPayloadSize
  seqNum : 0 ≤ s.rxSeqNum ∧ s.rxSeqNum ≤ 15
  blockCounter : 0 ≤ s.rxBlockCounter ∧
    (0 < s.config.blockSize → s.rxBlockCounter < s.config.blockSize)

/-- The transmit half as `stopSending` leaves it. -/
structure SendIdle (s : Session) : Prop where
  state : s.txState = .idle
  timerFC : s.timerRxFC = none
  timerSTmin : s.timerTxSTmin = none
  buffer : s.txBuffer = []
  frameLen : s.txFrameLen = 0
  seqNum : s.txSeqNum = 0
  blockCounter : s.txBlockCounter = 0
  waitFrames : s.txWaitFrames = 0

structure SendWaitFC (s : Session) : Prop where
  state : s.txState = .waitFC
  timerFC : s.timerRxFC = some s.config.flowControlTimeout
  timerSTmin : s.timerTxSTmin = none
  pending : s.txBuffer ≠ []
  seqNum : 0 ≤ s.txSeqNum ∧ s.txSeqNum ≤ 15
  waitFrames : 0 ≤ s.txWaitFrames ∧
    (0 ≤ s.config.maxWaitFrames → s.txWaitFrames ≤ s.config.maxWaitFrames)

structure SendTransmit (s : Session) : Prop where
  state : s.txState = .transmit
  timerFC : s.timerRxFC = none
  timerSTmin : s.timerTxSTmin = some s.remoteSTmin
  pending : s.txBuffer ≠ []
  seqNum : 0 ≤ s.txSeqNum ∧ s.txSeqNum ≤ 15
  blockCounter : 0 ≤ s.txBlockCounter ∧
    (0 < s.remoteBlockSize → s.txBlockCounter < s.remoteBlockSize)
  waitFrames : s.txWaitFrames = 0

structure Sound (s : Session) : Prop where
  configured : s.Configured
  receiving : s.ReceiveIdle ∨ s.ReceiveWaitCF
  sending : s.SendIdle ∨ s.SendWaitFC ∨ s.SendTransmit

/-- The PDU in a link frame that is meant for this session. -/
def hears (s : Session) (msg : LinkFrame) : Option PDU :=
  if s.address.accepts msg.arbitrationID then (parseFrame msg.data).toOption else none

/-- The STmin timer has fired and its channel is drained. -/
def separated (s : Session) : Session := { s with timerTxSTmin := none }

inductive Transition (s : Session) : Event → List Output → Session → Prop
  | unheard {msg outcome outputs} (heard : s.hears msg = none) (quiet : Quiet outputs) :
      Transition s (.frame msg outcome) outputs s
  | flowIgnored {msg outcome status blockSize stMin}
      (heard : s.hears msg = some (.flowControlFrame status blockSize stMin))
      (busy : s.txState ≠ .waitFC) : Transition s (.frame msg outcome) [] s
  | granted {msg outcome blockSize stMin}
      (heard : s.hears msg = some (.flowControlFrame FlowStatus.continueToSend blockSize stMin))
      (waits : s.txState = .waitFC) :
      Transition s (.frame msg outcome) [] (s.grant blockSize stMin)
  | delayed {msg outcome blockSize stMin}
      (heard : s.hears msg = some (.flowControlFrame FlowStatus.wait blockSize stMin))
      (waits : s.txState = .waitFC)
      (within : 0 ≤ s.config.maxWaitFrames → s.txWaitFrames + 1 ≤ s.config.maxWaitFrames) :
      Transition s (.frame msg outcome) [] s.delay
  | refused {msg outcome status blockSize stMin error}
      (heard : s.hears msg = some (.flowControlFrame status blockSize stMin))
      (waits : s.txState = .waitFC) (other : status ≠ FlowStatus.continueToSend)
      (sending : SessionError.sending error = true)
      (unencoded : SessionError.encoding error = false) :
      Transition s (.frame msg outcome) [.error error] s.stopSending
  | single {msg outcome data channel warned} (heard : s.hears msg = some (.singleFrame data))
      (room : s.rxDataChan.offer data = some channel) (quiet : Quiet warned) :
      Transition s (.frame msg outcome) (warned ++ [.payload data])
        { s.stopReceiving with rxDataChan := channel }
  | singleDropped {msg outcome data outputs} (heard : s.hears msg = some (.singleFrame data))
      (full : s.rxDataChan.offer data = none) (quiet : Quiet outputs) :
      Transition s (.frame msg outcome) outputs s.stopReceiving
  | first {msg outcome totalSize data warned}
      (heard : s.hears msg = some (.firstFrame totalSize data)) (proper : data.length < totalSize)
      (limit : totalSize ≤ s.config.maxPayloadSize) (quiet : Quiet warned) :
      Transition s (.frame msg outcome) (warned ++ s.flow) (s.startReceiving totalSize data)
  | firstRefused {msg outcome totalSize data outputs}
      (heard : s.hears msg = some (.firstFrame totalSize data))
      (refused : totalSize ≤ data.length ∨ s.config.maxPayloadSize < totalSize ∨
        s.config.manualFlowControl = false ∧ outcome = .cancelled) (quiet : Quiet outputs) :
      Transition s (.frame msg outcome) outputs s.stopReceiving
  | nextIgnored {msg outcome number data}
      (heard : s.hears msg = some (.consecutiveFrame number data)) (rests : s.rxState ≠ .waitCF) :
      Transition s (.frame msg outcome) [] s
  | mismatched {msg outcome number data outputs}
      (heard : s.hears msg = some (.consecutiveFrame number data)) (waits : s.rxState = .waitCF)
      (other : number ≠ s.rxSeqNum) (quiet : Quiet outputs) :
      Transition s (.frame msg outcome) outputs s.stopReceiving
  | completed {msg outcome data channel}
      (heard : s.hears msg = some (.consecutiveFrame s.rxSeqNum data)) (waits : s.rxState = .waitCF)
      (whole : s.rxFrameLen ≤ (s.joined data).length)
      (room : s.rxDataChan.offer (s.joined data) = some channel) :
      Transition s (.frame msg outcome) [.payload (s.joined data)]
        { s.stopReceiving with rxDataChan := channel }
  | completedDropped {msg outcome data outputs}
      (heard : s.hears msg = some (.consecutiveFrame s.rxSeqNum data)) (waits : s.rxState = .waitCF)
      (whole : s.rxFrameLen ≤ (s.joined data).length)
      (full : s.rxDataChan.offer (s.joined data) = none) (quiet : Quiet outputs) :
      Transition s (.frame msg outcome) outputs s.stopReceiving
  | collected {msg outcome data}
      (heard : s.hears msg = some (.consecutiveFrame s.rxSeqNum data)) (waits : s.rxState = .waitCF)
      (more : (s.joined data).length < s.rxFrameLen)
      (inside : 0 < s.config.blockSize → s.rxBlockCounter + 1 < s.config.blockSize) :
      Transition s (.frame msg outcome) [] (s.collect data)
  | blockCompleted {msg outcome data}
      (heard : s.hears msg = some (.consecutiveFrame s.rxSeqNum data)) (waits : s.rxState = .waitCF)
      (more : (s.joined data).length < s.rxFrameLen) (blocks : 0 < s.config.blockSize)
      (last : s.config.blockSize ≤ s.rxBlockCounter + 1) :
      Transition s (.frame msg outcome) s.flow (s.completeBlock data)
  | blockCancelled {msg data}
      (heard : s.hears msg = some (.consecutiveFrame s.rxSeqNum data)) (waits : s.rxState = .waitCF)
      (automatic : s.config.manualFlowControl = false) :
      Transition s (.frame msg .cancelled) [] s.stopReceiving
  | dequeueCancelled {payload channel} (rests : s.txState = .idle)
      (queue : s.txDataChan.poll = some (payload,channel)) :
      Transition s (.dequeue .cancelled) [] { s.stopSending with txDataChan := channel }
  | sentSingle {payload channel data} (rests : s.txState = .idle)
      (queue : s.txDataChan.poll = some (payload,channel)) (fits : s.fitsSingleFrame payload)
      (encoded : createSingleFramePayload payload s.maxDataLength = .ok data) :
      Transition s (.dequeue .queued) [.frame (s.makeTxMsg data)]
        { s.stopSending with txDataChan := channel }
  | sentFirst {payload channel data} (rests : s.txState = .idle)
      (queue : s.txDataChan.poll = some (payload,channel)) (several : ¬ s.fitsSingleFrame payload)
      (encoded : createFirstFramePayload (payload.take (s.firstFrameRoom payload.length))
        payload.length s.maxDataLength = .ok data) :
      Transition s (.dequeue .queued) [.frame (s.makeTxMsg data)]
        { s.startSending payload with txDataChan := channel }
  | consecutiveFrameTimeout (armed : s.timerRxCF.isSome) :
      Transition s .expireRxCF [.error .timeoutConsecutiveFrame] s.stopReceiving
  | flowControlTimeout (armed : s.timerRxFC.isSome) :
      Transition s .expireRxFC [.error .timeoutFlowControl] s.stopSending
  | sendCancelled (transmits : s.SendTransmit) :
      Transition s (.expireTxSTmin .cancelled) [] s.stopSending
  | sentLast {data} (transmits : s.SendTransmit)
      (encoded : createConsecutiveFramePayload (s.txBuffer.take s.consecutiveFrameRoom)
        s.txSeqNum = .ok data) (last : s.txBuffer.length ≤ s.consecutiveFrameRoom) :
      Transition s (.expireTxSTmin .queued) [.frame (s.makeTxMsg data)] s.stopSending
  | sentBlock {data} (transmits : s.SendTransmit)
      (encoded : createConsecutiveFramePayload (s.txBuffer.take s.consecutiveFrameRoom)
        s.txSeqNum = .ok data) (more : s.consecutiveFrameRoom < s.txBuffer.length)
      (blocks : 0 < s.remoteBlockSize) (full : s.remoteBlockSize ≤ s.txBlockCounter + 1) :
      Transition s (.expireTxSTmin .queued) [.frame (s.makeTxMsg data)] s.separated.endBlock
  | sentNext {data} (transmits : s.SendTransmit)
      (encoded : createConsecutiveFramePayload (s.txBuffer.take s.consecutiveFrameRoom)
        s.txSeqNum = .ok data) (more : s.consecutiveFrameRoom < s.txBuffer.length)
      (inside : 0 < s.remoteBlockSize → s.txBlockCounter + 1 < s.remoteBlockSize) :
      Transition s (.expireTxSTmin .queued) [.frame (s.makeTxMsg data)] s.keepSending
  | submitted {data channel} (limit : data.length ≤ s.config.maxPayloadSize)
      (room : s.txDataChan.offer data = some channel) :
      Transition s (.send data) [] { s with txDataChan := channel }
  | consumed {data channel} (queue : s.rxDataChan.poll = some (data,channel)) :
      Transition s .receive [] { s with rxDataChan := channel }
  | addressed {address} (valid : ∀ target, address = some target → target.txID ≤ 0x7FF) :
      Transition s (.setTxAddress address) [] { s with txAddress := address }

theorem processRx_transition {s t : Session} {msg : LinkFrame} {outcome : SendOutcome}
    {outputs : List Output} (sound : s.Sound) (result : s.processRx msg outcome = (t,outputs)) :
    s.Transition (.frame msg outcome) outputs t := by
  have range : 0 ≤ s.rxSeqNum := by
    rcases sound.receiving with idle | waits
    · exact Int.le_of_eq idle.seqNum.symm
    · exact waits.seqNum.1
  unfold processRx at result
  cases accepted : s.address.accepts msg.arbitrationID with
  | false =>
    rw [accepted] at result
    cases result
    exact .unheard (by simp [hears,accepted]) .nil
  | true =>
    rw [accepted] at result
    cases parsed : parseFrame msg.data with
    | error error =>
      simp only [parsed,Bool.not_true,Bool.false_eq_true,if_false] at result
      cases result
      exact .unheard (by simp [hears,accepted,parsed,Except.toOption]) (.single rfl)
    | ok pdu =>
      have heard : s.hears msg = some pdu := by simp [hears,accepted,parsed,Except.toOption]
      cases pdu with
      | flowControlFrame status blockSize stMin =>
        simp only [parsed,Bool.not_true,Bool.false_eq_true,if_false] at result
        rcases s.handleTxFlowControl_cases status blockSize stMin with
          ⟨busy,same⟩ | ⟨waits,rfl,same⟩ | ⟨waits,rfl,within,same⟩ |
          ⟨waits,other,error,sending,unencoded,same⟩
        all_goals rw [same] at result; cases result
        · exact .flowIgnored heard busy
        · exact .granted heard waits
        · exact .delayed heard waits within
        · exact .refused heard waits other sending unencoded
      | singleFrame data =>
        simp only [parsed,Bool.not_true,Bool.false_eq_true,if_false] at result
        rcases s.handleRxSingleFrame_cases data with
          ⟨channel,warned,room,quiet,same⟩ | ⟨_,full,quiet,same⟩
        all_goals rw [same] at result; cases result
        · exact .single heard room quiet
        · exact .singleDropped heard full quiet
      | firstFrame totalSize data =>
        simp only [parsed,Bool.not_true,Bool.false_eq_true,if_false] at result
        rcases s.handleRxFirstFrame_cases totalSize data outcome with
          ⟨_,refused,quiet,same⟩ | ⟨warned,proper,limit,quiet,same⟩
        all_goals rw [same] at result; cases result
        · exact .firstRefused heard refused quiet
        · exact .first heard proper limit quiet
      | consecutiveFrame number data =>
        simp only [parsed,Bool.not_true,Bool.false_eq_true,if_false] at result
        rcases s.handleRxConsecutiveFrame_cases number data outcome range with
          ⟨rests,same⟩ | ⟨waits,other,_,quiet,same⟩ |
          ⟨waits,rfl,whole,⟨channel,room,same⟩ | ⟨full,_,quiet,same⟩⟩ |
          ⟨waits,rfl,more,⟨inside,same⟩ | ⟨blocks,last,same | ⟨automatic,rfl,same⟩⟩⟩
        all_goals rw [same] at result; cases result
        · exact .nextIgnored heard rests
        · exact .mismatched heard waits other quiet
        · exact .completed heard waits whole room
        · exact .completedDropped heard waits whole full quiet
        · exact .collected heard waits more inside
        · exact .blockCompleted heard waits more blocks last
        · exact .blockCancelled heard waits automatic

theorem initiateTx_transition {s t : Session} {payload : Bytes} {channel : Chan Bytes}
    {outcome : SendOutcome} {outputs : List Output} (sound : s.Sound) (rests : s.txState = .idle)
    (queue : s.txDataChan.poll = some (payload,channel))
    (result : ({ s with txDataChan := channel }).initiateTx payload outcome = (t,outputs)) :
    s.Transition (.dequeue outcome) outputs t := by
  have configured : Configured { s with txDataChan := channel } :=
    ⟨sound.configured.width,sound.configured.config,sound.configured.address,
      sound.configured.txAddress⟩
  rcases initiateTx_cases configured payload outcome with
    ⟨rfl,same⟩ | ⟨rfl,fits,data,encoded,same⟩ | ⟨rfl,several,data,encoded,same⟩
  all_goals rw [same] at result; cases result
  · exact .dequeueCancelled rests queue
  · exact .sentSingle rests queue fits encoded
  · exact .sentFirst rests queue several encoded

theorem handleTxTransmit_transition {s t : Session} {outcome : SendOutcome} {outputs : List Output}
    (transmits : s.SendTransmit) (result : s.separated.handleTxTransmit outcome = (t,outputs)) :
    s.Transition (.expireTxSTmin outcome) outputs t := by
  rcases handleTxTransmit_cases (s := s.separated) outcome transmits.pending transmits.seqNum with
    ⟨rfl,same⟩ | ⟨rfl,data,encoded,
      ⟨last,same⟩ | ⟨more,blocks,full,same⟩ | ⟨more,inside,same⟩⟩
  all_goals rw [same] at result; cases result
  · exact .sendCancelled transmits
  · exact .sentLast transmits encoded last
  · exact .sentBlock transmits encoded more blocks full
  · exact .sentNext transmits encoded more inside

/-- Under the invariant a step is one of the transitions. -/
theorem step_transition {s t : Session} {event : Event} {outputs : List Output} (sound : s.Sound)
    (taken : s.step event = some (t,outputs)) : s.Transition event outputs t := by
  cases event with
  | frame msg outcome => exact processRx_transition sound (Option.some.inj taken)
  | dequeue outcome =>
    simp only [step] at taken
    split_ifs at taken with rests
    cases queue : s.txDataChan.poll with
    | none => simp [queue] at taken
    | some taken' =>
      obtain ⟨payload,channel⟩ := taken'
      rw [queue] at taken
      exact initiateTx_transition sound rests queue (Option.some.inj taken)
  | expireRxCF =>
    cases timer : s.timerRxCF with
    | none => simp [step,timer] at taken
    | some delay =>
      simp only [step,timer,Option.some.injEq,Prod.mk.injEq] at taken
      obtain ⟨rfl,rfl⟩ := taken
      exact .consecutiveFrameTimeout (by simp [timer])
  | expireRxFC =>
    cases timer : s.timerRxFC with
    | none => simp [step,timer] at taken
    | some delay =>
      simp only [step,timer,Option.some.injEq,Prod.mk.injEq] at taken
      obtain ⟨rfl,rfl⟩ := taken
      exact .flowControlTimeout (by simp [timer])
  | expireTxSTmin outcome =>
    have transmits : s.timerTxSTmin.isSome → s.SendTransmit := by
      intro armed
      rcases sound.sending with idle | waits | transmits
      · simp [idle.timerSTmin] at armed
      · simp [waits.timerSTmin] at armed
      · exact transmits
    cases timer : s.timerTxSTmin with
    | none => simp [step,timer] at taken
    | some delay =>
      have sending := transmits (by simp [timer])
      have guard : ¬ s.txState ≠ .transmit := not_not.mpr sending.state
      simp only [step,timer,if_neg guard,Option.some.injEq] at taken
      exact handleTxTransmit_transition sending taken
  | send data =>
    simp only [step,sendContext,Option.map_eq_some_iff] at taken
    obtain ⟨u,queued,same⟩ := taken
    split_ifs at queued with excess
    obtain ⟨channel,room,rfl⟩ := Option.map_eq_some_iff.mp queued
    cases same
    exact .submitted (by omega) room
  | receive =>
    cases queue : s.rxDataChan.poll with
    | none => simp [step,queue] at taken
    | some taken' =>
      obtain ⟨data,channel⟩ := taken'
      simp only [step,queue,Option.some.injEq,Prod.mk.injEq] at taken
      obtain ⟨rfl,rfl⟩ := taken
      exact .consumed queue
  | setTxAddress address =>
    cases address with
    | none =>
      simp only [step,setTxAddress,Option.some.injEq,Prod.mk.injEq] at taken
      obtain ⟨rfl,rfl⟩ := taken
      exact .addressed (by simp)
    | some target =>
      cases valid : Address.validate (some target) with
      | error => simp [step,setTxAddress,valid] at taken
      | ok =>
        simp only [step,setTxAddress,valid,Option.some.injEq,Prod.mk.injEq] at taken
        obtain ⟨rfl,rfl⟩ := taken
        refine .addressed ?_
        rintro _ ⟨⟩
        exact (Address.validate_ok valid).1

end Session
end Canbuskit.Isotp
