import Canbuskit.Isotp.Emission

/-! The two halves of a session do not disturb each other. Replacing one half commutes with
every event of the other, so the events of one half can be deleted from a run without a trace
in what the other half does. -/
namespace Canbuskit.Isotp
open Can Channel Runs

/-- The PDU in a link frame that is meant for an address. -/
def Address.hears (address : Address) (msg : LinkFrame) : Option PDU :=
  if address.accepts msg.arbitrationID then (parseFrame msg.data).toOption else none

/-- The events of the receive half, and the consumer's `receive`. -/
def Event.receives (address : Address) : Event → Bool
  | .frame msg _ => match address.hears msg with
    | some (.flowControlFrame _ _ _) => false
    | some _ => true
    | none => false
  | .expireRxCF => true
  | .receive => true
  | _ => false

/-- The events of the transmit half, and the caller's steps on its queue and address. -/
def Event.transmits (address : Address) : Event → Bool
  | .frame msg _ => match address.hears msg with
    | some (.flowControlFrame _ _ _) => true
    | _ => false
  | .dequeue _ => true
  | .expireRxFC => true
  | .expireTxSTmin _ => true
  | .send _ => true
  | .setTxAddress _ => true
  | _ => false

/-- What the receive half puts out: payloads and Flow Control frames. -/
def Output.received : Output → Bool
  | .payload _ => true
  | .frame msg => pciTypeOf msg.data == pciTypeFlowControl
  | .error _ => false

/-- What the transmit half puts out: data frames. -/
def Output.sent : Output → Bool
  | .frame msg => pciTypeOf msg.data != pciTypeFlowControl
  | _ => false

namespace Session

/-- `s` with the transmit half of `u`. -/
def withSend (s u : Session) : Session :=
  { s with txState := u.txState, txBuffer := u.txBuffer, txFrameLen := u.txFrameLen,
           txSeqNum := u.txSeqNum, txBlockCounter := u.txBlockCounter,
           remoteBlockSize := u.remoteBlockSize, remoteSTmin := u.remoteSTmin,
           txWaitFrames := u.txWaitFrames, timerRxFC := u.timerRxFC,
           timerTxSTmin := u.timerTxSTmin, txDataChan := u.txDataChan, txAddress := u.txAddress }

/-- `s` with the receive half of `u`. -/
def withReceive (s u : Session) : Session :=
  { s with rxState := u.rxState, rxBuffer := u.rxBuffer, rxFrameLen := u.rxFrameLen,
           rxSeqNum := u.rxSeqNum, rxBlockCounter := u.rxBlockCounter,
           timerRxCF := u.timerRxCF, rxDataChan := u.rxDataChan }

/-- What a handler returns, with the transmit half of `u`. -/
def sendOf (u : Session) (result : Session × List Output) : Session × List Output :=
  (result.1.withSend u,result.2)

def receiveOf (u : Session) (result : Session × List Output) : Session × List Output :=
  (result.1.withReceive u,result.2)

section receive

variable (s u : Session)

theorem handleRxSingleFrame_withSend (data : Bytes) :
    (s.withSend u).handleRxSingleFrame data = sendOf u (s.handleRxSingleFrame data) := by
  have same : (s.withSend u).stopReceiving.rxDataChan = s.stopReceiving.rxDataChan := rfl
  unfold handleRxSingleFrame
  dsimp only
  rw [same]
  cases s.stopReceiving.rxDataChan.offer data <;> rfl

theorem handleRxFirstFrame_withSend (total : Int) (data : Bytes) (outcome : SendOutcome) :
    (s.withSend u).handleRxFirstFrame total data outcome =
      sendOf u (s.handleRxFirstFrame total data outcome) := by
  unfold handleRxFirstFrame
  dsimp only
  rw [apply_ite (sendOf u),apply_ite (sendOf u)]
  refine ite_congr rfl (fun _ => rfl) fun _ => ite_congr rfl (fun _ => rfl) fun _ => ?_
  unfold sendFlowControlContext
  have manual : (s.withSend u).stopReceiving.config.manualFlowControl = s.config.manualFlowControl := rfl
  have own : s.stopReceiving.config.manualFlowControl = s.config.manualFlowControl := rfl
  simp only [manual,own]
  cases s.config.manualFlowControl <;> cases outcome <;> rfl

/-- The end of a reception, of a state whose buffer is whole. -/
def deliver (s : Session) : Session × List Output :=
  match s.rxDataChan.offer s.rxBuffer with
  | some channel => (({ s with rxDataChan := channel }).stopReceiving,[.payload s.rxBuffer])
  | none => (s.stopReceiving,[.error .payloadDropped])

theorem deliver_withSend : (s.withSend u).deliver = sendOf u s.deliver := by
  have same : (s.withSend u).rxDataChan.offer (s.withSend u).rxBuffer =
      s.rxDataChan.offer s.rxBuffer := rfl
  unfold deliver
  rw [same]
  cases s.rxDataChan.offer s.rxBuffer <;> rfl

theorem handleRxConsecutiveFrame_withSend (number : Int) (data : Bytes) (outcome : SendOutcome) :
    (s.withSend u).handleRxConsecutiveFrame number data outcome =
      sendOf u (s.handleRxConsecutiveFrame number data outcome) := by
  unfold handleRxConsecutiveFrame
  dsimp only
  rw [apply_ite (sendOf u),apply_ite (sendOf u),apply_ite (sendOf u),apply_ite (sendOf u)]
  refine ite_congr rfl (fun _ => rfl) fun _ => ite_congr rfl (fun _ => rfl) fun _ =>
    ite_congr rfl (fun _ => ?_) fun _ => ite_congr rfl (fun _ => ?_) fun _ => rfl
  · exact deliver_withSend
      { s.resetRxTimer with rxSeqNum := (s.rxSeqNum + 1).tmod 16, rxBuffer := s.joined data } u
  · unfold sendFlowControlContext
    have manual : (s.withSend u).config.manualFlowControl = s.config.manualFlowControl := rfl
    cases automatic : s.config.manualFlowControl with
    | true | false =>
      simp only [withSend,resetRxTimer,automatic]
      cases outcome <;> rfl

/-- What is not the transmit half's, happens whatever the transmit half is. -/
theorem step_withSend {event : Event} (other : event.transmits s.address = false) :
    (s.withSend u).step event = (s.step event).map (sendOf u) := by
  cases event with
  | frame msg outcome =>
    have same : (s.withSend u).address = s.address := rfl
    simp only [Event.transmits,Address.hears] at other
    simp only [step,processRx,same,Option.map_some,Option.some.injEq]
    split_ifs with refused
    · rfl
    · have accepted : s.address.accepts msg.arbitrationID = true := by simpa using refused
      cases parsed : parseFrame msg.data with
      | error => rfl
      | ok pdu => cases pdu with
        | singleFrame data => exact s.handleRxSingleFrame_withSend u data
        | firstFrame total data => exact s.handleRxFirstFrame_withSend u total data outcome
        | consecutiveFrame number data =>
          exact s.handleRxConsecutiveFrame_withSend u number data outcome
        | flowControlFrame => simp [accepted,parsed,Except.toOption] at other
  | expireRxCF =>
    have same : (s.withSend u).timerRxCF = s.timerRxCF := rfl
    simp only [step,same]
    cases s.timerRxCF <;> rfl
  | receive =>
    have same : (s.withSend u).rxDataChan = s.rxDataChan := rfl
    simp only [step,same]
    rcases s.rxDataChan.poll with _ | ⟨_,_⟩ <;> rfl
  | _ => simp [Event.transmits] at other

end receive

section transmit

variable (s u : Session)

theorem handleTxFlowControl_withReceive (status : FlowStatus) (blockSize stMin : Int) :
    (s.withReceive u).handleTxFlowControl status blockSize stMin =
      receiveOf u (s.handleTxFlowControl status blockSize stMin) := by
  unfold handleTxFlowControl
  dsimp only
  rw [apply_ite (receiveOf u),apply_ite (receiveOf u),apply_ite (receiveOf u),apply_ite (receiveOf u),
    apply_ite (receiveOf u)]
  rfl

theorem initiateTx_withReceive (payload : Bytes) (outcome : SendOutcome) :
    (s.withReceive u).initiateTx payload outcome = receiveOf u (s.initiateTx payload outcome) := by
  unfold initiateTx
  dsimp only
  rw [apply_ite (receiveOf u)]
  refine ite_congr rfl (fun _ => ?_) fun _ => ?_
  · simp only [withReceive,maxDataLength]
    generalize createSingleFramePayload payload s.frameDataLength = encoded
    cases encoded <;> cases outcome <;> rfl
  · simp only [withReceive,maxDataLength]
    generalize createFirstFramePayload _ _ s.frameDataLength = encoded
    cases encoded <;> cases outcome <;> rfl

theorem handleTxTransmit_withReceive (outcome : SendOutcome) :
    (s.withReceive u).handleTxTransmit outcome = receiveOf u (s.handleTxTransmit outcome) := by
  unfold handleTxTransmit
  dsimp only
  rw [apply_ite (receiveOf u)]
  refine ite_congr rfl (fun _ => rfl) fun _ => ?_
  simp only [withReceive,maxDataLength]
  generalize createConsecutiveFramePayload _ s.txSeqNum = encoded
  cases encoded with
  | error => rfl
  | ok => cases outcome with
    | cancelled => rfl
    | queued =>
      refine Eq.trans ?_ (apply_ite (receiveOf u) _ _ _).symm
      refine ite_congr rfl (fun _ => rfl) fun _ => ?_
      refine Eq.trans ?_ (apply_ite (receiveOf u) _ _ _).symm
      exact ite_congr rfl (fun _ => rfl) fun _ => rfl

theorem step_withReceive {event : Event} (other : event.receives s.address = false) :
    (s.withReceive u).step event = (s.step event).map (receiveOf u) := by
  cases event with
  | frame msg outcome =>
    have same : (s.withReceive u).address = s.address := rfl
    simp only [Event.receives,Address.hears] at other
    simp only [step,processRx,same,Option.map_some,Option.some.injEq]
    split_ifs with refused
    · rfl
    · have accepted : s.address.accepts msg.arbitrationID = true := by simpa using refused
      cases parsed : parseFrame msg.data with
      | error => rfl
      | ok pdu => cases pdu with
        | flowControlFrame status blockSize stMin =>
          exact s.handleTxFlowControl_withReceive u status blockSize stMin
        | _ => simp [accepted,parsed,Except.toOption] at other
  | dequeue outcome =>
    have state : (s.withReceive u).txState = s.txState := rfl
    have queue : (s.withReceive u).txDataChan = s.txDataChan := rfl
    simp only [step,state,queue]
    split_ifs
    · rcases s.txDataChan.poll with _ | ⟨payload,channel⟩
      · rfl
      · exact congrArg some (initiateTx_withReceive { s with txDataChan := channel } u payload outcome)
    · rfl
  | expireRxFC =>
    have same : (s.withReceive u).timerRxFC = s.timerRxFC := rfl
    simp only [step,same]
    cases s.timerRxFC <;> rfl
  | expireTxSTmin outcome =>
    have timer : (s.withReceive u).timerTxSTmin = s.timerTxSTmin := rfl
    have state : (s.withReceive u).txState = s.txState := rfl
    simp only [step,timer,state]
    cases s.timerTxSTmin with
    | none => rfl
    | some delay =>
      dsimp only
      split_ifs
      · rfl
      · exact congrArg some (handleTxTransmit_withReceive s.separated u outcome)
  | send data =>
    have limit : (s.withReceive u).config = s.config := rfl
    have queue : (s.withReceive u).txDataChan = s.txDataChan := rfl
    simp only [step,sendContext,limit,queue]
    split_ifs
    · rfl
    · cases s.txDataChan.offer data <;> rfl
  | setTxAddress address =>
    cases address with
    | none => rfl
    | some target =>
      simp only [step,setTxAddress]
      cases Address.validate (some target) <;> rfl
  | _ => simp [Event.receives] at other

end transmit

/-- Nothing but the receive half changes, and no data frame goes out. -/
structure OnlyReceives (s : Session) (result : Session × List Output) : Prop where
  kept : s.withReceive result.1 = result.1
  quiet : ∀ output ∈ result.2, output.sent = false

structure OnlySends (s : Session) (result : Session × List Output) : Prop where
  kept : s.withSend result.1 = result.1
  quiet : ∀ output ∈ result.2, output.received = false

theorem OnlySends.ite {s : Session} {condition : Prop} [Decidable condition]
    {first second : Session × List Output} (left : s.OnlySends first) (right : s.OnlySends second) :
    s.OnlySends (if condition then first else second) := by
  split_ifs
  · exact left
  · exact right

section only

variable (s : Session)

theorem quiet_silent {outputs : List Output} (quiet : Quiet outputs) :
    ∀ output ∈ outputs, output.sent = false := by
  intro output member
  cases output with
  | frame msg =>
    have sent : msg ∈ frames outputs := List.mem_filterMap.mpr ⟨_,member,rfl⟩
    simp [quiet.frames] at sent
  | payload | error => rfl

theorem flow_silent : ∀ output ∈ s.flow, output.sent = false := by
  have kind : pciTypeOf (s.makeFlowControlMsg FlowStatus.continueToSend).data = pciTypeFlowControl :=
    s.pciTypeOf_padded rfl
  unfold flow
  split_ifs
  · simp
  · intro output member
    rw [List.mem_singleton.mp member]
    simp [Output.sent,kind]

theorem sendFlowControlContext_silent (outcome : SendOutcome) :
    ∀ output ∈ (s.sendFlowControlContext FlowStatus.continueToSend outcome).2,
      output.sent = false := by
  have granted := s.flow_silent
  unfold flow at granted
  unfold sendFlowControlContext
  split_ifs at granted ⊢
  · exact granted
  · cases outcome with
    | queued => exact granted
    | cancelled => simp

theorem handleRxSingleFrame_only (data : Bytes) : s.OnlyReceives (s.handleRxSingleFrame data) := by
  rcases s.handleRxSingleFrame_cases data with
    ⟨channel,warned,_,quiet,result⟩ | ⟨outputs,_,quiet,result⟩
  · rw [result]
    refine ⟨rfl,?_⟩
    intro output member
    rcases List.mem_append.mp member with warning | payload
    · exact quiet_silent quiet output warning
    · rw [List.mem_singleton.mp payload]
      rfl
  · rw [result]
    exact ⟨rfl,quiet_silent quiet⟩

theorem handleRxFirstFrame_only (total : Int) (data : Bytes) (outcome : SendOutcome) :
    s.OnlyReceives (s.handleRxFirstFrame total data outcome) := by
  rcases s.handleRxFirstFrame_cases total data outcome with
    ⟨outputs,_,quiet,result⟩ | ⟨warned,_,_,quiet,result⟩
  · rw [result]
    exact ⟨rfl,quiet_silent quiet⟩
  · rw [result]
    refine ⟨rfl,?_⟩
    intro output member
    rcases List.mem_append.mp member with warning | granted
    · exact quiet_silent quiet output warning
    · exact s.flow_silent output granted

theorem deliver_only {t : Session} (kept : s.withReceive t = t) : s.OnlyReceives t.deliver := by
  unfold deliver
  rw [← kept]
  cases (s.withReceive t).rxDataChan.offer (s.withReceive t).rxBuffer with
  | some | none => exact ⟨rfl,by simp [Output.sent]⟩

theorem grant_only {t : Session} (kept : s.withReceive t = t) (outcome : SendOutcome) :
    s.OnlyReceives (match t.sendFlowControlContext FlowStatus.continueToSend outcome with
      | (true,sent) => (t.resetRxTimer,sent)
      | (false,sent) => (t.stopReceiving,sent)) := by
  have silent := t.sendFlowControlContext_silent outcome
  split
  all_goals
    rename_i sent granted
    rw [granted] at silent
    refine ⟨?_,silent⟩
    rw [← kept]
    rfl

theorem handleRxConsecutiveFrame_only (number : Int) (data : Bytes) (outcome : SendOutcome) :
    s.OnlyReceives (s.handleRxConsecutiveFrame number data outcome) := by
  unfold handleRxConsecutiveFrame
  dsimp only
  by_cases waits : s.rxState ≠ .waitCF
  · rw [if_pos waits]
    exact ⟨rfl,by simp⟩
  rw [if_neg waits]
  by_cases mismatch : number ≠ s.rxSeqNum
  · rw [if_pos mismatch]
    exact ⟨rfl,by simp [Output.sent]⟩
  rw [if_neg mismatch]
  generalize (if s.resetRxTimer.rxFrameLen - s.resetRxTimer.rxBuffer.length < data.length then
    data.take (s.resetRxTimer.rxFrameLen - s.resetRxTimer.rxBuffer.length).toNat else data) = part
  split_ifs
  · exact s.deliver_only (t := { s.resetRxTimer with
      rxSeqNum := (s.rxSeqNum + 1).tmod 16, rxBuffer := s.rxBuffer ++ part }) rfl
  · exact s.grant_only (t := { s.resetRxTimer with
      rxSeqNum := (s.rxSeqNum + 1).tmod 16, rxBuffer := s.rxBuffer ++ part, rxBlockCounter := 0 })
      rfl outcome
  · exact ⟨rfl,by simp⟩

theorem message_silent {pci : UInt8} {data rest : Bytes} (shape : data = pci :: rest)
    (kind : pci &&& 0xF0 ≠ pciTypeFlowControl) (t : Session) :
    (Output.frame (t.makeTxMsg data)).received = false := by
  have type : pciTypeOf (t.makeTxMsg data).data = pci &&& 0xF0 := t.pciTypeOf_padded shape
  simpa [Output.received,type] using kind

theorem handleTxFlowControl_only (status : FlowStatus) (blockSize stMin : Int) :
    s.OnlySends (s.handleTxFlowControl status blockSize stMin) := by
  rcases s.handleTxFlowControl_cases status blockSize stMin with
    ⟨_,result⟩ | ⟨_,_,result⟩ | ⟨_,_,_,result⟩ | ⟨_,_,error,_,_,result⟩
  · rw [result]
    exact ⟨rfl,by simp⟩
  · rw [result]
    exact ⟨rfl,by simp⟩
  · rw [result]
    exact ⟨rfl,by simp⟩
  · rw [result]
    exact ⟨rfl,by simp [Output.received]⟩

theorem first_bytes {firstChunk bytes : Bytes} {total maxDataLength : Int}
    (encoded : createFirstFramePayload firstChunk total maxDataLength = .ok bytes) :
    ∃ pci rest, bytes = pci :: rest ∧ pci &&& 0xF0 = pciTypeFirstFrame := by
  have nibble : ∀ n : Fin 16, (pciTypeFirstFrame ||| UInt8.ofNat n.val) &&& 0xF0 = pciTypeFirstFrame := by
    decide
  simp only [createFirstFramePayload] at encoded
  split_ifs at encoded
  rw [← Except.ok.inj encoded]
  unfold firstFramePCI
  split_ifs
  · refine ⟨_,_,rfl,?_⟩
    have small : (total / 2^8 % 16).toNat < 16 := by omega
    rw [byteOf_small (by omega) (by omega)]
    generalize (total / 2^8 % 16).toNat = high at small ⊢
    exact nibble ⟨high,small⟩
  · exact ⟨_,_,rfl,rfl⟩

theorem consecutive_bytes {dataChunk bytes : Bytes} {sequenceNumber : Int}
    (encoded : createConsecutiveFramePayload dataChunk sequenceNumber = .ok bytes) :
    ∃ pci rest, bytes = pci :: rest ∧ pci &&& 0xF0 = pciTypeConsecutiveFrame := by
  have nibble : ∀ n : Fin 16,
      (pciTypeConsecutiveFrame ||| UInt8.ofNat n.val) &&& 0xF0 = pciTypeConsecutiveFrame := by
    decide
  unfold createConsecutiveFramePayload at encoded
  split_ifs at encoded with range
  rw [← Except.ok.inj encoded]
  refine ⟨_,_,rfl,?_⟩
  rw [byteOf_small (by omega) (by omega)]
  exact nibble ⟨sequenceNumber.toNat,by omega⟩

theorem initiateTx_only (channel : Chan Bytes) (payload : Bytes) (outcome : SendOutcome) :
    s.OnlySends (({ s with txDataChan := channel }).initiateTx payload outcome) := by
  unfold initiateTx
  simp only [maxDataLength]
  refine .ite ?_ ?_
  · generalize encoding : createSingleFramePayload payload s.frameDataLength = encoded
    cases encoded with
    | error => exact ⟨rfl,by simp [Output.received]⟩
    | ok data =>
      obtain ⟨⟨pci,rest,bytes,kind⟩,_⟩ := single_bytes encoding
      have silent := message_silent bytes (by rw [kind]; decide)
      cases outcome with
      | queued => exact ⟨rfl,by simp [silent]⟩
      | cancelled => exact ⟨rfl,by simp⟩
  · generalize encoding : createFirstFramePayload _ _ s.frameDataLength = encoded
    cases encoded with
    | error => exact ⟨rfl,by simp [Output.received]⟩
    | ok data =>
      obtain ⟨pci,rest,bytes,kind⟩ := first_bytes encoding
      have silent := message_silent bytes (by rw [kind]; decide)
      cases outcome with
      | queued => exact ⟨rfl,by simp [silent]⟩
      | cancelled => exact ⟨rfl,by simp⟩

theorem handleTxTransmit_only (outcome : SendOutcome) :
    s.OnlySends (s.separated.handleTxTransmit outcome) := by
  unfold handleTxTransmit
  simp only [maxDataLength]
  refine .ite ⟨rfl,by simp⟩ ?_
  generalize encoding : createConsecutiveFramePayload _ s.separated.txSeqNum = encoded
  cases encoded with
  | error => exact ⟨rfl,by simp [Output.received]⟩
  | ok data =>
    obtain ⟨pci,rest,bytes,kind⟩ := consecutive_bytes encoding
    have silent := message_silent bytes (by rw [kind]; decide)
    cases outcome with
    | cancelled => exact ⟨rfl,by simp⟩
    | queued =>
      refine .ite ⟨rfl,by simp [silent]⟩ ?_
      exact .ite ⟨rfl,by simp [silent]⟩ ⟨rfl,by simp [silent]⟩

end only

theorem step_cases {s t : Session} {event : Event} {outputs : List Output}
    (taken : s.step event = some (t,outputs)) :
    (event.transmits s.address = true ∧ event.receives s.address = false ∧ s.OnlySends (t,outputs)) ∨
    (event.receives s.address = true ∧ event.transmits s.address = false ∧
      s.OnlyReceives (t,outputs)) ∨
    (event.transmits s.address = false ∧ event.receives s.address = false ∧ t = s ∧
      frames outputs = [] ∧ payloads outputs = []) := by
  cases event with
  | frame msg outcome =>
    simp only [step,processRx,Option.some.injEq] at taken
    simp only [Event.transmits,Event.receives,Address.hears]
    split_ifs at taken with refused
    · obtain ⟨rfl,rfl⟩ := Prod.mk.inj taken
      have unheard : s.address.accepts msg.arbitrationID = false := by simpa using refused
      simp [unheard]
    · have accepted : s.address.accepts msg.arbitrationID = true := by simpa using refused
      rw [if_pos accepted]
      cases parsed : parseFrame msg.data with
      | error error =>
        rw [parsed] at taken
        obtain ⟨rfl,rfl⟩ := Prod.mk.inj taken
        exact .inr (.inr ⟨rfl,rfl,rfl,rfl,rfl⟩)
      | ok pdu =>
        rw [parsed] at taken
        cases pdu with
        | singleFrame data => exact .inr (.inl ⟨rfl,rfl,taken ▸ s.handleRxSingleFrame_only data⟩)
        | firstFrame total data =>
          exact .inr (.inl ⟨rfl,rfl,taken ▸ s.handleRxFirstFrame_only total data outcome⟩)
        | consecutiveFrame number data =>
          exact .inr (.inl ⟨rfl,rfl,taken ▸ s.handleRxConsecutiveFrame_only number data outcome⟩)
        | flowControlFrame status blockSize stMin =>
          exact .inl ⟨rfl,rfl,taken ▸ s.handleTxFlowControl_only status blockSize stMin⟩
  | dequeue outcome =>
    refine .inl ⟨rfl,rfl,?_⟩
    simp only [step] at taken
    split at taken
    · split at taken
      · rename_i payload channel _
        rw [← Option.some.inj taken]
        exact s.initiateTx_only channel payload outcome
      · contradiction
    · contradiction
  | expireRxCF =>
    refine .inr (.inl ⟨rfl,rfl,?_⟩)
    simp only [step] at taken
    split at taken
    · rw [← Option.some.inj taken]
      exact ⟨rfl,by simp [Output.sent]⟩
    · contradiction
  | expireRxFC =>
    refine .inl ⟨rfl,rfl,?_⟩
    simp only [step] at taken
    split at taken
    · rw [← Option.some.inj taken]
      exact ⟨rfl,by simp [Output.received]⟩
    · contradiction
  | expireTxSTmin outcome =>
    refine .inl ⟨rfl,rfl,?_⟩
    simp only [step] at taken
    split at taken
    · split_ifs at taken
      · rw [← Option.some.inj taken]
        exact ⟨rfl,by simp⟩
      · rw [← Option.some.inj taken]
        exact s.handleTxTransmit_only outcome
    · contradiction
  | send data =>
    refine .inl ⟨rfl,rfl,?_⟩
    simp only [step,sendContext] at taken
    split_ifs at taken
    · contradiction
    · simp only [Option.map_map,Option.map_eq_some_iff] at taken
      obtain ⟨channel,_,result⟩ := taken
      rw [← result]
      exact ⟨rfl,by simp⟩
  | receive =>
    refine .inr (.inl ⟨rfl,rfl,?_⟩)
    simp only [step] at taken
    split at taken
    · rw [← Option.some.inj taken]
      exact ⟨rfl,by simp⟩
    · contradiction
  | setTxAddress address =>
    refine .inl ⟨rfl,rfl,?_⟩
    cases address with
    | none =>
      rw [← Option.some.inj taken]
      exact ⟨rfl,by simp⟩
    | some target =>
      simp only [step,setTxAddress] at taken
      cases valid : Address.validate (some target) with
      | error => simp [valid] at taken
      | ok =>
        rw [valid] at taken
        rw [← Option.some.inj taken]
        exact ⟨rfl,by simp⟩

theorem step_address {s t : Session} {event : Event} {outputs : List Output}
    (taken : s.step event = some (t,outputs)) : t.address = s.address := by
  rcases step_cases taken with ⟨_,_,sends⟩ | ⟨_,_,receives⟩ | ⟨_,_,same,_⟩
  · exact (congrArg Session.address sends.kept).symm
  · exact (congrArg Session.address receives.kept).symm
  · rw [same]

end Session

theorem run_heard_address {s t : Session} {moves : List Move} (run : Run Move.Step s moves t) :
    t.address = s.address := by
  induction run with
  | nil => rfl
  | snoc _ last ih => exact (Session.step_address last.2.2).trans ih

/-- The run without the transmit half's events, which the receive half does not notice. -/
theorem receive_alone {s t : Session} {moves : List Move} (run : Run Move.Step s moves t) :
    ∃ others u, Run Move.Step s others u ∧ t.withSend u = u ∧
      others.map Move.event = (moves.filter fun move => !move.event.transmits s.address).map Move.event ∧
      (others.flatMap fun move => move.outputs.filter Output.received) =
        moves.flatMap fun move => move.outputs.filter Output.received := by
  have start : s.address = s.address ∧ s.withSend s = s := ⟨rfl,rfl⟩
  have erased := run.erase (fun t u => t.address = s.address ∧ t.withSend u = u)
    (fun move => !move.event.transmits s.address) Move.event
    (fun move => move.outputs.filter Output.received) start ?follows
  case follows =>
    rintro _ ⟨before,event,outputs,after⟩ _ u ⟨address,same⟩ ⟨rfl,rfl,taken⟩
    dsimp only at taken ⊢
    have kept := (Session.step_address taken).trans address
    rw [← address]
    split_ifs with other
    · have commutes := Session.step_withSend _ u (by simpa using other)
      rw [same,taken] at commutes
      exact ⟨⟨u,event,outputs,after.withSend u⟩,_,⟨rfl,rfl,commutes⟩,rfl,rfl,kept.trans address.symm,rfl⟩
    · rcases Session.step_cases taken with ⟨_,_,sends⟩ | ⟨_,quiet,_⟩ | ⟨quiet,_⟩
      · refine ⟨?_,kept.trans address.symm,?_⟩
        · rw [List.filter_eq_nil_iff]
          intro output member
          simp [sends.quiet output member]
        · have own : before.withSend after = after := sends.kept
          rw [← own]
          exact same
      · simp [quiet] at other
      · simp [quiet] at other
  obtain ⟨others,u,alone,⟨_,same⟩,chosen,seen⟩ := erased
  exact ⟨others,u,alone,same,chosen,seen⟩

theorem transmit_alone {s t : Session} {moves : List Move} (run : Run Move.Step s moves t) :
    ∃ others u, Run Move.Step s others u ∧ t.withReceive u = u ∧
      others.map Move.event = (moves.filter fun move => !move.event.receives s.address).map Move.event ∧
      (others.flatMap fun move => move.outputs.filter Output.sent) =
        moves.flatMap fun move => move.outputs.filter Output.sent := by
  have start : s.address = s.address ∧ s.withReceive s = s := ⟨rfl,rfl⟩
  have erased := run.erase (fun t u => t.address = s.address ∧ t.withReceive u = u)
    (fun move => !move.event.receives s.address) Move.event
    (fun move => move.outputs.filter Output.sent) start ?follows
  case follows =>
    rintro _ ⟨before,event,outputs,after⟩ _ u ⟨address,same⟩ ⟨rfl,rfl,taken⟩
    dsimp only at taken ⊢
    have kept := (Session.step_address taken).trans address
    rw [← address]
    split_ifs with other
    · have commutes := Session.step_withReceive _ u (by simpa using other)
      rw [same,taken] at commutes
      exact ⟨⟨u,event,outputs,after.withReceive u⟩,_,⟨rfl,rfl,commutes⟩,rfl,rfl,kept.trans address.symm,rfl⟩
    · rcases Session.step_cases taken with ⟨_,quiet,_⟩ | ⟨_,_,receives⟩ | ⟨_,quiet,_⟩
      · simp [quiet] at other
      · refine ⟨?_,kept.trans address.symm,?_⟩
        · rw [List.filter_eq_nil_iff]
          intro output member
          simp [receives.quiet output member]
        · have own : before.withReceive after = after := receives.kept
          rw [← own]
          exact same
      · simp [quiet] at other
  obtain ⟨others,u,alone,⟨_,same⟩,chosen,seen⟩ := erased
  exact ⟨others,u,alone,same,chosen,seen⟩

theorem unheard_frame {s t : Session} {moves : List Move} (run : Run Move.Step s moves t)
    {move : Move} (member : move ∈ moves) {msg : LinkFrame} {outcome : SendOutcome}
    (event : move.event = .frame msg outcome) (unheard : s.address.hears msg = none) :
    move.after = move.before ∧ frames move.outputs = [] ∧ payloads move.outputs = [] := by
  obtain ⟨_,_,before,after,_,past,⟨rfl,rfl,taken⟩,_⟩ := run.cut_mem member
  rw [event] at taken
  have address := run_heard_address past
  rcases Session.step_cases taken with ⟨transmits,_⟩ | ⟨receives,_⟩ | ⟨_,_,same,quiet⟩
  · simp [Event.transmits,address,unheard] at transmits
  · simp [Event.receives,address,unheard] at receives
  · exact ⟨same,quiet⟩

/-- Send and receive are independent: without the events of one half the other ends in the same
state and puts out the same, and a frame that neither hears changes nothing. -/
theorem duplex_independent {s t : Session} {moves : List Move} (run : Run Move.Step s moves t) :
    (∃ others u, Run Move.Step s others u ∧ t.withSend u = u ∧
      others.map Move.event = (moves.filter fun move => !move.event.transmits s.address).map Move.event ∧
      (others.flatMap fun move => move.outputs.filter Output.received) =
        moves.flatMap fun move => move.outputs.filter Output.received) ∧
    (∃ others u, Run Move.Step s others u ∧ t.withReceive u = u ∧
      others.map Move.event = (moves.filter fun move => !move.event.receives s.address).map Move.event ∧
      (others.flatMap fun move => move.outputs.filter Output.sent) =
        moves.flatMap fun move => move.outputs.filter Output.sent) ∧
    ∀ move ∈ moves, ∀ msg outcome, move.event = .frame msg outcome → s.address.hears msg = none →
      move.after = move.before ∧ frames move.outputs = [] ∧ payloads move.outputs = [] :=
  ⟨receive_alone run,transmit_alone run,
    fun _ member _ _ event unheard => unheard_frame run member event unheard⟩

/-- A message of two frames received while one of three is sent, with a foreign frame between. -/
theorem duplex_independent_interleaved :
    ∃ moves t, Run Move.Step (Session.fresh ⟨0x7E0,0x7E8⟩ defaultConfig false) moves t ∧
      moves.flatMap (fun move => payloads move.outputs) = [[1,2,3,4,5,6,7,8]] ∧
      ∃ others u, Run Move.Step (Session.fresh ⟨0x7E0,0x7E8⟩ defaultConfig false) others u ∧
        others.map Move.event = [.frame ⟨0x7E8,[0x10,8,1,2,3,4,5,6],false⟩ .queued,
          .frame ⟨0x7E9,[0x30,0,0],false⟩ .queued,.frame ⟨0x7E8,[0x21,7,8],false⟩ .queued] ∧
        (others.flatMap fun move => move.outputs.filter Output.received) =
          moves.flatMap fun move => move.outputs.filter Output.received := by
  have executed : ((Session.fresh ⟨0x7E0,0x7E8⟩ defaultConfig false).execute
      [.send [0,1,2,3,4,5,6,7,8,9,10,11,12,13,14],.dequeue .queued,
        .frame ⟨0x7E8,[0x10,8,1,2,3,4,5,6],false⟩ .queued,.frame ⟨0x7E9,[0x30,0,0],false⟩ .queued,
        .frame ⟨0x7E8,[0x30,0,0],false⟩ .queued,.expireTxSTmin .queued,
        .frame ⟨0x7E8,[0x21,7,8],false⟩ .queued,.expireTxSTmin .queued]).map
      (fun result => (result.1.flatMap fun move => payloads move.outputs,
        (result.1.filter fun move => !move.event.transmits ⟨0x7E0,0x7E8⟩).map Move.event)) =
      some ([[1,2,3,4,5,6,7,8]],[.frame ⟨0x7E8,[0x10,8,1,2,3,4,5,6],false⟩ .queued,
        .frame ⟨0x7E9,[0x30,0,0],false⟩ .queued,.frame ⟨0x7E8,[0x21,7,8],false⟩ .queued]) := by
    decide +kernel
  obtain ⟨⟨moves,t⟩,executed,shown⟩ := Option.map_eq_some_iff.mp executed
  obtain ⟨delivered,kept⟩ := Prod.mk.inj shown
  have run := Session.execute_run executed
  obtain ⟨⟨others,u,alone,_,chosen,seen⟩,_⟩ := duplex_independent run
  exact ⟨moves,t,run,delivered,others,u,alone,chosen.trans kept,seen⟩

end Canbuskit.Isotp
