import Canbuskit.Isotp.PairSafety

/-! A lossless exchange runs to its end. While no timeout fires and no context is cancelled,
a pair with one payload to send is in one of seven stages of the transfer, every step uses up
work, and only the last stage, with the payload delivered and both halves at rest, has no
step left. -/
namespace Canbuskit.Isotp
open Can Channel Runs

/-- The events of an undisturbed transfer. -/
def Event.timely : Event → Bool
  | .frame _ .queued => true
  | .dequeue .queued => true
  | .expireTxSTmin .queued => true
  | _ => false

/-- The Consecutive Frames of some chunks, numbered modulo 16. -/
def numbered : Int → List Bytes → List PDU
  | _, [] => []
  | number, chunk :: chunks => .consecutiveFrame number chunk :: numbered ((number + 1) % 16) chunks

theorem numbered_snoc (chunks : List Bytes) (chunk : Bytes) :
    ∀ {number : Int}, 0 ≤ number ∧ number ≤ 15 → numbered number (chunks ++ [chunk]) =
      numbered number chunks ++ [.consecutiveFrame ((number + chunks.length) % 16) chunk] := by
  induction chunks with
  | nil =>
    intro number range
    have small : number = number % 16 := by omega
    simpa [numbered] using small
  | cons head chunks ih =>
    intro number range
    have shift : ((number + 1) % 16 + chunks.length) % 16 =
        (number + (chunks.length + 1)) % 16 := by omega
    simp [numbered,@ih ((number + 1) % 16) (by omega),shift]

namespace Session

theorem Transition.settings {s t : Session} {event : Event} {outputs : List Output}
    (step : s.Transition event outputs t) : t.config = s.config ∧ t.fd = s.fd := by
  cases step <;> exact ⟨rfl,rfl⟩

theorem hears_address {s t : Session} (same : t.address = s.address) : t.hears = s.hears := by
  funext msg
  simp only [hears,same]

theorem hears_parsed (s : Session) {bytes : Bytes} {fd : Bool} {pdu : PDU}
    (parsed : parseFrame bytes = .ok pdu) : s.hears ⟨s.address.rxID,bytes,fd⟩ = some pdu := by
  simp [hears,Address.accepts,parsed,Except.toOption]

theorem Transition.inbox {s t : Session} {event : Event} {outputs : List Output}
    (step : s.Transition event outputs t) (timely : event.timely) :
    t.rxDataChan.buffer = s.rxDataChan.buffer ++ payloads outputs := by
  cases step with
  | single _ room quiet => simp [(Chan.offer_some room).1,quiet.payloads]
  | completed _ _ _ room => simp [(Chan.offer_some room).1]
  | first _ _ _ quiet =>
    rw [payloads_append,quiet.payloads,flow]
    split_ifs <;> simp [startReceiving]
  | blockCompleted =>
    rw [flow]
    split_ifs <;> simp [completeBlock,collect]
  | unheard _ quiet | singleDropped _ _ quiet | firstRefused _ _ quiet | mismatched _ _ _ quiet
  | completedDropped _ _ _ _ quiet => simp [quiet.payloads,stopReceiving]
  | consumed => contradiction
  | _ => exact (List.append_nil _).symm

theorem Transition.single_heard {s t : Session} {msg : LinkFrame} {outputs : List Output}
    {data : Bytes} (step : s.Transition (.frame msg .queued) outputs t)
    (heard : s.hears msg = some (.singleFrame data))
    (room : s.rxDataChan.buffer.length < s.rxDataChan.capacity) :
    frames outputs = [] ∧ t.rxState = .idle ∧
      t.rxDataChan.buffer = s.rxDataChan.buffer ++ [data] := by
  obtain ⟨channel,offered,buffer,_⟩ := Chan.offer_room data room
  cases step with
  | single same taken quiet =>
    obtain rfl := PDU.singleFrame.inj (Option.some.inj (same.symm.trans heard))
    obtain rfl := Option.some.inj (taken.symm.trans offered)
    exact ⟨by simp [quiet.frames],rfl,buffer⟩
  | singleDropped same full =>
    obtain rfl := PDU.singleFrame.inj (Option.some.inj (same.symm.trans heard))
    rw [offered] at full
    contradiction
  | unheard other | flowIgnored other | granted other | delayed other | refused other
  | first other | firstRefused other | nextIgnored other | mismatched other | completed other
  | completedDropped other | collected other | blockCompleted other =>
    exact absurd (heard.symm.trans other) (by simp)

theorem Transition.first_heard {s t : Session} {msg : LinkFrame} {outputs : List Output}
    {total : Int} {data : Bytes} (step : s.Transition (.frame msg .queued) outputs t)
    (heard : s.hears msg = some (.firstFrame total data)) (proper : data.length < total)
    (limit : total ≤ s.config.maxPayloadSize) :
    frames outputs = frames s.flow ∧ t = s.startReceiving total data := by
  cases step with
  | first same _ _ quiet =>
    obtain ⟨rfl,rfl⟩ := PDU.firstFrame.inj (Option.some.inj (same.symm.trans heard))
    exact ⟨by simp [quiet.frames],rfl⟩
  | firstRefused same refused =>
    obtain ⟨rfl,rfl⟩ := PDU.firstFrame.inj (Option.some.inj (same.symm.trans heard))
    rcases refused with short | excess | ⟨_,cancelled⟩
    · omega
    · omega
    · contradiction
  | unheard other | flowIgnored other | granted other | delayed other | refused other
  | single other | singleDropped other | nextIgnored other | mismatched other | completed other
  | completedDropped other | collected other | blockCompleted other =>
    exact absurd (heard.symm.trans other) (by simp)

/-- The expected Consecutive Frame completes the payload, completes a block, or is just
added to the buffer. -/
theorem Transition.next_heard {s t : Session} {msg : LinkFrame} {outputs : List Output}
    {data : Bytes} (step : s.Transition (.frame msg .queued) outputs t)
    (heard : s.hears msg = some (.consecutiveFrame s.rxSeqNum data)) (waits : s.rxState = .waitCF)
    (room : s.rxDataChan.buffer.length < s.rxDataChan.capacity) :
    (s.rxFrameLen ≤ (s.joined data).length ∧ frames outputs = [] ∧ t.rxState = .idle ∧
      t.rxDataChan.buffer = s.rxDataChan.buffer ++ [s.joined data]) ∨
    ((s.joined data).length < s.rxFrameLen ∧
      (0 < s.config.blockSize → s.rxBlockCounter + 1 < s.config.blockSize) ∧
      outputs = [] ∧ t = s.collect data) ∨
    ((s.joined data).length < s.rxFrameLen ∧ 0 < s.config.blockSize ∧
      s.config.blockSize ≤ s.rxBlockCounter + 1 ∧ outputs = s.flow ∧ t = s.completeBlock data) := by
  obtain ⟨channel,offered,buffer,_⟩ := Chan.offer_room (s.joined data) room
  cases step with
  | completed same _ whole taken =>
    obtain ⟨_,rfl⟩ := PDU.consecutiveFrame.inj (Option.some.inj (same.symm.trans heard))
    obtain rfl := Option.some.inj (taken.symm.trans offered)
    exact .inl ⟨whole,rfl,rfl,buffer⟩
  | completedDropped same _ _ full =>
    obtain ⟨_,rfl⟩ := PDU.consecutiveFrame.inj (Option.some.inj (same.symm.trans heard))
    rw [offered] at full
    contradiction
  | collected same _ more inside =>
    obtain ⟨_,rfl⟩ := PDU.consecutiveFrame.inj (Option.some.inj (same.symm.trans heard))
    exact .inr (.inl ⟨more,inside,rfl,rfl⟩)
  | blockCompleted same _ more blocks last =>
    obtain ⟨_,rfl⟩ := PDU.consecutiveFrame.inj (Option.some.inj (same.symm.trans heard))
    exact .inr (.inr ⟨more,blocks,last,rfl,rfl⟩)
  | nextIgnored _ rests => exact absurd waits rests
  | mismatched same _ other =>
    obtain ⟨number,_⟩ := PDU.consecutiveFrame.inj (Option.some.inj (same.symm.trans heard))
    exact absurd number other
  | unheard other | flowIgnored other | granted other | delayed other | refused other
  | single other | singleDropped other | first other | firstRefused other =>
    exact absurd (heard.symm.trans other) (by simp)

theorem Transition.grant_heard {s t : Session} {msg : LinkFrame} {outputs : List Output}
    {blockSize stMin : Int} (step : s.Transition (.frame msg .queued) outputs t)
    (heard : s.hears msg =
      some (.flowControlFrame FlowStatus.continueToSend blockSize stMin))
    (waits : s.txState = .waitFC) : outputs = [] ∧ t = s.grant blockSize stMin := by
  cases step with
  | granted same =>
    obtain ⟨_,rfl,rfl⟩ := PDU.flowControlFrame.inj (Option.some.inj (same.symm.trans heard))
    exact ⟨rfl,rfl⟩
  | flowIgnored _ busy => exact absurd waits busy
  | delayed same =>
    obtain ⟨status,_⟩ := PDU.flowControlFrame.inj (Option.some.inj (same.symm.trans heard))
    exact absurd status (by decide)
  | refused same _ other =>
    obtain ⟨status,_⟩ := PDU.flowControlFrame.inj (Option.some.inj (same.symm.trans heard))
    exact absurd status other
  | unheard other | single other | singleDropped other | first other | firstRefused other
  | nextIgnored other | mismatched other | completed other | completedDropped other
  | collected other | blockCompleted other =>
    exact absurd (heard.symm.trans other) (by simp)

theorem Sound.drained {s : Session} (sound : s.Sound) (rests : s.txState = .idle) :
    s.txBuffer = [] := by
  rcases sound.sending with idle | waits | transmits
  · exact idle.buffer
  · simp [waits.state] at rests
  · simp [transmits.state] at rests

end Session

/-- What both sessions keep during the transfer of a payload from left to right. -/
structure Matched (payload : Bytes) (inbox : Chan Bytes) (left right : Session) : Prop where
  leftSound : left.Sound
  rightSound : right.Sound
  plain : left.txAddress = none
  mode : left.fd = right.fd
  mirrored : right.address = ⟨left.address.rxID,left.address.txID⟩
  automatic : right.config.manualFlowControl = false
  rests : right.txState = .idle
  empty : right.txDataChan.buffer = []
  nonempty : payload ≠ []
  bounded : payload.length < 2^32
  accepted : payload.length ≤ right.config.maxPayloadSize
  room : inbox.buffer.length < inbox.capacity

/-- The receiver is collecting, with these chunks on their way to it. -/
structure Streaming (payload : Bytes) (inbox : Chan Bytes) (left right : Session)
    (msgs : List LinkFrame) (chunks : List Bytes) : Prop where
  empty : left.txDataChan.buffer = []
  waits : right.rxState = .waitCF
  total : right.rxFrameLen = payload.length
  kept : right.rxDataChan = inbox
  reads : msgs.map right.hears = (numbered right.rxSeqNum chunks).map some

/-- The stages of the transfer, with the frames on their way to the left and to the right. -/
inductive Stage (payload : Bytes) (inbox : Chan Bytes) (left right : Session) :
    List LinkFrame → List LinkFrame → Prop
  | queued (sender : left.txState = .idle) (queue : left.txDataChan.buffer = [payload])
      (receiver : right.rxState = .idle) (kept : right.rxDataChan = inbox) :
      Stage payload inbox left right [] []
  | single {msg} (sender : left.txState = .idle) (empty : left.txDataChan.buffer = [])
      (receiver : right.rxState = .idle) (kept : right.rxDataChan = inbox)
      (reads : right.hears msg = some (.singleFrame payload)) :
      Stage payload inbox left right [] [msg]
  | first {msg chunk} (sender : left.txState = .waitFC) (empty : left.txDataChan.buffer = [])
      (receiver : right.rxState = .idle) (kept : right.rxDataChan = inbox)
      (reads : right.hears msg = some (.firstFrame payload.length chunk))
      (whole : chunk ++ left.txBuffer = payload) (number : left.txSeqNum = 1) :
      Stage payload inbox left right [] [msg]
  | granting {msg separation} (sender : left.txState = .waitFC)
      (stream : Streaming payload inbox left right [] [])
      (grant : left.hears msg = some
        (.flowControlFrame FlowStatus.continueToSend right.config.blockSize separation))
      (whole : right.rxBuffer ++ left.txBuffer = payload) (number : left.txSeqNum = right.rxSeqNum)
      (counter : right.rxBlockCounter = 0) : Stage payload inbox left right [msg] []
  | transmitting {msgs chunks} (sender : left.txState = .transmit)
      (stream : Streaming payload inbox left right msgs chunks)
      (whole : right.rxBuffer ++ chunks.flatten ++ left.txBuffer = payload)
      (number : left.txSeqNum = (right.rxSeqNum + chunks.length) % 16)
      (block : left.remoteBlockSize = right.config.blockSize)
      (counter : left.txBlockCounter = right.rxBlockCounter + chunks.length) :
      Stage payload inbox left right [] msgs
  | blockSent {msgs chunks} (sender : left.txState = .waitFC)
      (stream : Streaming payload inbox left right msgs chunks) (pending : chunks ≠ [])
      (whole : right.rxBuffer ++ chunks.flatten ++ left.txBuffer = payload)
      (number : left.txSeqNum = (right.rxSeqNum + chunks.length) % 16)
      (blocks : 0 < right.config.blockSize)
      (counter : right.rxBlockCounter + chunks.length = right.config.blockSize) :
      Stage payload inbox left right [] msgs
  | finishing {msgs chunks last fill} (sender : left.txState = .idle)
      (stream : Streaming payload inbox left right msgs (chunks ++ [last ++ fill]))
      (whole : right.rxBuffer ++ chunks.flatten ++ last = payload) (pending : last ≠ [])
      (counter : 0 < right.config.blockSize →
        right.rxBlockCounter + chunks.length < right.config.blockSize) :
      Stage payload inbox left right [] msgs
  | done (sender : left.txState = .idle) (empty : left.txDataChan.buffer = [])
      (receiver : right.rxState = .idle)
      (delivered : right.rxDataChan.buffer = inbox.buffer ++ [payload]) :
      Stage payload inbox left right [] []

/-- What is left to do: bytes to send weigh more than the frames that carry them, and a
frame to the right more than the Flow Control frame it may call for. -/
def work (left : Session) (toLeft toRight : List LinkFrame) : Nat :=
  4 * (left.txDataChan.buffer.map fun data => data.length + 1).sum + 4 * left.txBuffer.length +
    2 * toRight.length + toLeft.length

section steps

variable {payload : Bytes} {inbox : Chan Bytes} {left right next : Session}
  {toLeft toRight : List LinkFrame} {event : Event} {outputs : List Output} {brs : Bool}

theorem Matched.sent (matched : Matched payload inbox left right) (brs : Bool) {data : Bytes}
    (fits : (data.length : Int) ≤ left.maxDataLength) :
    ∃ fill, ((data.length : Int) = left.maxDataLength → fill = []) ∧
      ∃ msg, [left.makeTxMsg data].filterMap (carry brs) = [msg] ∧
        ∀ pdu, parseFrame (data ++ fill) = .ok pdu → right.hears msg = some pdu := by
  have own : right.address.rxID = left.address.txID := by rw [matched.mirrored]
  obtain ⟨fill,full,arrives⟩ :=
    sent_arrives matched.leftSound.configured brs matched.plain own fits
  exact ⟨fill,full,_,arrives,fun pdu parsed => right.hears_parsed parsed⟩

theorem Matched.flow (matched : Matched payload inbox left right) (brs : Bool) :
    ∃ msg separation, (frames right.flow).filterMap (carry brs) = [msg] ∧
      left.hears msg = some
        (.flowControlFrame FlowStatus.continueToSend right.config.blockSize separation) := by
  have configured := matched.rightSound.configured
  have mirrored : left.address.rxID = right.address.txID := by rw [matched.mirrored]
  have fits : ((createFlowControlPayload FlowStatus.continueToSend right.config.blockSize
      right.config.stMin).length : Int) ≤ right.maxDataLength := by
    have short : (createFlowControlPayload FlowStatus.continueToSend right.config.blockSize
      right.config.stMin).length = 3 := rfl
    rcases configured.width_cases with width | width <;> omega
  obtain ⟨fill,arrives,_⟩ := carry_tx configured brs configured.address.1 mirrored fits
  have parsed : parseFrame (createFlowControlPayload FlowStatus.continueToSend
      right.config.blockSize right.config.stMin ++ fill) = _ :=
    parse_flowControl (by decide) configured.config.blockSize configured.config.stMin
  refine ⟨⟨left.address.rxID,_,right.fd⟩,_,?_,left.hears_parsed parsed⟩
  simp only [Session.flow,matched.automatic,Bool.false_eq_true,if_false,frames_frame]
  rw [Session.makeFlowControlMsg,List.filterMap_cons_some arrives,List.filterMap_nil]

theorem dequeue_step (matched : Matched payload inbox left right)
    (stage : Stage payload inbox left right toLeft toRight)
    (step : left.Transition (.dequeue .queued) outputs next) :
    Stage payload inbox next right toLeft (toRight ++ (frames outputs).filterMap (carry brs)) ∧
      work next toLeft (toRight ++ (frames outputs).filterMap (carry brs)) <
        work left toLeft toRight := by
  have start {data channel} (queue : left.txDataChan.poll = some (data,channel)) :
      (toLeft = [] ∧ toRight = [] ∧ right.rxState = .idle ∧ right.rxDataChan = inbox) ∧
        data = payload ∧ left.txDataChan.buffer = [payload] ∧ channel.buffer = [] := by
    have shape := (Chan.poll_some queue).1
    have filled : left.txDataChan.buffer ≠ [] := by simp [shape]
    cases stage with
    | queued _ only receiver kept =>
      rw [only] at shape
      obtain ⟨rfl,rest⟩ := List.cons.inj shape
      exact ⟨⟨rfl,rfl,receiver,kept⟩,rfl,only,rest.symm⟩
    | single _ empty | first _ empty | done _ empty => exact absurd empty filled
    | granting _ stream | transmitting _ stream | blockSent _ stream | finishing _ stream =>
      exact absurd stream.empty filled
  have width := matched.leftSound.configured.width_cases
  cases step with
  | @sentSingle _ channel data rests queue fits encoded =>
    obtain ⟨⟨rfl,rfl,receiver,kept⟩,rfl,only,rest⟩ := start queue
    obtain ⟨_,same,length⟩ := Session.single_encodes matched.leftSound.configured fits
    obtain rfl := Except.ok.inj (encoded.symm.trans same)
    obtain ⟨fill,_,msg,arrives,heard⟩ := matched.sent brs length
    have parsed := heard _ (parse_single matched.nonempty (by omega) encoded)
    rw [frames_frame,arrives]
    refine ⟨.single rfl rest receiver kept parsed,?_⟩
    simp [work,only,rest,Session.stopSending]
    omega
  | @sentFirst _ channel data rests queue several encoded =>
    obtain ⟨⟨rfl,rfl,receiver,kept⟩,rfl,only,rest⟩ := start queue
    obtain ⟨_,inside,_⟩ := Session.first_encodes matched.leftSound.configured several
    have full := Session.first_frame_full matched.leftSound.configured several encoded
    obtain ⟨fill,noFill,msg,arrives,heard⟩ := matched.sent brs (Int.le_of_eq full)
    obtain rfl := noFill full
    have bounded := matched.bounded
    have parsed := heard _ (parse_first (by omega) (by omega)
      (by simp only [List.append_nil,List.length_take]; omega) encoded)
    rw [List.append_nil] at parsed
    rw [frames_frame,arrives]
    refine ⟨.first rfl rest receiver kept parsed (List.take_append_drop _ _) rfl,?_⟩
    simp [work,only,rest,Session.startSending]
    omega

theorem Matched.range (matched : Matched payload inbox left right) (waits : right.rxState = .waitCF) :
    0 ≤ right.rxSeqNum ∧ right.rxSeqNum ≤ 15 := by
  rcases matched.rightSound.receiving with idle | collecting
  · rw [idle.state] at waits
    contradiction
  · exact collecting.seqNum

theorem grant_step {msg : LinkFrame} (matched : Matched payload inbox left right)
    (stage : Stage payload inbox left right (msg :: toLeft) toRight)
    (step : left.Transition (.frame msg .queued) outputs next) :
    Stage payload inbox next right toLeft (toRight ++ (frames outputs).filterMap (carry brs)) ∧
      work next toLeft (toRight ++ (frames outputs).filterMap (carry brs)) <
        work left (msg :: toLeft) toRight := by
  cases stage with
  | granting sender stream grant whole number counter =>
    obtain ⟨rfl,rfl⟩ := step.grant_heard grant sender
    have range := matched.range stream.waits
    have same : left.txSeqNum = (right.rxSeqNum + 0) % 16 := by omega
    refine ⟨.transmitting rfl ⟨stream.empty,stream.waits,stream.total,stream.kept,stream.reads⟩
      (by rw [List.flatten_nil,List.append_nil]; exact whole) same rfl ?_,?_⟩
    · rw [counter]
      rfl
    · simp [work,Session.grant]

theorem Streaming.snoc {msgs : List LinkFrame} {chunks : List Bytes} {msg : LinkFrame}
    {chunk : Bytes} {number : Int} (stream : Streaming payload inbox left right msgs chunks)
    (range : 0 ≤ right.rxSeqNum ∧ right.rxSeqNum ≤ 15)
    (expected : number = (right.rxSeqNum + chunks.length) % 16)
    (heard : right.hears msg = some (.consecutiveFrame number chunk))
    (queue : next.txDataChan = left.txDataChan) :
    Streaming payload inbox next right (msgs ++ [msg]) (chunks ++ [chunk]) := by
  refine ⟨by rw [queue,stream.empty],stream.waits,stream.total,stream.kept,?_⟩
  rw [numbered_snoc chunks chunk range,List.map_append,List.map_append,stream.reads,← expected]
  simp [heard]

theorem transmit_step (matched : Matched payload inbox left right)
    (stage : Stage payload inbox left right toLeft toRight)
    (step : left.Transition (.expireTxSTmin .queued) outputs next) :
    Stage payload inbox next right toLeft (toRight ++ (frames outputs).filterMap (carry brs)) ∧
      work next toLeft (toRight ++ (frames outputs).filterMap (carry brs)) <
        work left toLeft toRight := by
  have transmits : left.SendTransmit := by
    cases step <;> assumption
  have busy := transmits.state
  have pending := transmits.pending
  have positive : 0 < left.txBuffer.length := List.length_pos_iff.mpr pending
  have roomy : 0 < left.consecutiveFrameRoom := by
    unfold Session.consecutiveFrameRoom
    rcases matched.leftSound.configured.width_cases with width | width <;> omega
  cases stage with
  | queued sender | single sender | finishing sender | done sender | first sender
  | granting sender | blockSent sender =>
    rw [busy] at sender
    contradiction
  | @transmitting _ chunks _ stream whole number block counter =>
    have range := matched.range stream.waits
    have within := transmits.blockCounter.2
    have rest : (left.txBuffer.drop left.consecutiveFrameRoom).length < left.txBuffer.length := by
      rw [List.length_drop]
      omega
    have moved : right.rxBuffer ++ (chunks ++ [left.txBuffer.take left.consecutiveFrameRoom]).flatten ++
        left.txBuffer.drop left.consecutiveFrameRoom = payload := by
      simpa using whole
    have count : (chunks ++ [left.txBuffer.take left.consecutiveFrameRoom]).length =
        chunks.length + 1 := List.length_append
    have emitted {data} (encoded : createConsecutiveFramePayload
        (left.txBuffer.take left.consecutiveFrameRoom) left.txSeqNum = .ok data) :
        ∃ fill msg, (left.consecutiveFrameRoom < left.txBuffer.length → fill = []) ∧
          [left.makeTxMsg data].filterMap (carry brs) = [msg] ∧
          right.hears msg = some (.consecutiveFrame left.txSeqNum
            (left.txBuffer.take left.consecutiveFrameRoom ++ fill)) := by
      obtain ⟨length,filled⟩ := consecutive_length matched.leftSound.configured encoded
      obtain ⟨fill,noFill,msg,arrives,heard⟩ := matched.sent brs length
      exact ⟨fill,msg,fun more => noFill (filled more.le),arrives,heard _ (parse_consecutive encoded)⟩
    cases step with
    | sentLast _ encoded last =>
      obtain ⟨fill,msg,_,arrives,heard⟩ := emitted encoded
      rw [List.take_of_length_le last] at heard
      rw [frames_frame,arrives]
      refine ⟨.finishing rfl (stream.snoc range number heard rfl) whole pending ?_,?_⟩
      · omega
      · simp [work,Session.stopSending,stream.empty]
        omega
    | sentBlock _ encoded more blocks full =>
      obtain ⟨fill,msg,noFill,arrives,heard⟩ := emitted encoded
      rw [noFill more,List.append_nil] at heard
      have after : left.separated.endBlock.txBuffer =
          left.txBuffer.drop left.consecutiveFrameRoom := rfl
      have seqNum : left.separated.endBlock.txSeqNum = (left.txSeqNum + 1) % 16 := rfl
      rw [frames_frame,arrives]
      refine ⟨.blockSent rfl (stream.snoc range number heard rfl) (by simp) moved ?_ ?_ ?_,?_⟩
      · omega
      · omega
      · omega
      · have queue : left.separated.endBlock.txDataChan.buffer = [] := stream.empty
        simp only [work,after,queue,stream.empty,List.length_append,List.length_singleton]
        omega
    | sentNext _ encoded more inside =>
      obtain ⟨fill,msg,noFill,arrives,heard⟩ := emitted encoded
      rw [noFill more,List.append_nil] at heard
      have after : left.keepSending.txBuffer = left.txBuffer.drop left.consecutiveFrameRoom := rfl
      have seqNum : left.keepSending.txSeqNum = (left.txSeqNum + 1) % 16 := rfl
      have blockCounter : left.keepSending.txBlockCounter = left.txBlockCounter + 1 := rfl
      rw [frames_frame,arrives]
      refine ⟨.transmitting busy (stream.snoc range number heard rfl) moved ?_ block ?_,?_⟩
      · omega
      · omega
      · have queue : left.keepSending.txDataChan.buffer = [] := stream.empty
        simp only [work,after,queue,stream.empty,List.length_append,List.length_singleton]
        omega

theorem Matched.pending (matched : Matched payload inbox left right) (busy : left.txState ≠ .idle) :
    left.txBuffer ≠ [] := by
  rcases matched.leftSound.sending with idle | waits | transmits
  · exact absurd idle.state busy
  · exact waits.pending
  · exact transmits.pending

theorem joined_short {data : Bytes} (fits : (right.rxBuffer ++ data).length ≤ right.rxFrameLen) :
    right.joined data = right.rxBuffer ++ data := by
  rw [List.length_append] at fits
  rw [Session.joined_eq,List.take_of_length_le (by omega)]

theorem Streaming.cons {msg : LinkFrame} {msgs : List LinkFrame} {chunks : List Bytes}
    (stream : Streaming payload inbox left right (msg :: msgs) chunks) :
    ∃ chunk others, chunks = chunk :: others ∧
      right.hears msg = some (.consecutiveFrame right.rxSeqNum chunk) ∧
      ∀ next : Session, next.address = right.address → next.rxState = right.rxState →
        next.rxFrameLen = right.rxFrameLen → next.rxDataChan = right.rxDataChan →
        next.rxSeqNum = (right.rxSeqNum + 1) % 16 →
          Streaming payload inbox left next msgs others := by
  have reads := stream.reads
  cases chunks with
  | nil => simp [numbered] at reads
  | cons chunk others =>
    simp only [numbered,List.map_cons,List.cons.injEq] at reads
    refine ⟨chunk,others,rfl,reads.1,?_⟩
    intro next address state total channel number
    refine ⟨stream.empty,state.trans stream.waits,total.trans stream.total,
      channel.trans stream.kept,?_⟩
    rw [Session.hears_address address,number]
    exact reads.2

theorem collect_step {msg : LinkFrame} {chunk : Bytes} (rest : Bytes)
    (matched : Matched payload inbox left right) (kept : right.rxDataChan = inbox)
    (waits : right.rxState = .waitCF) (total : right.rxFrameLen = payload.length)
    (step : right.Transition (.frame msg .queued) outputs next)
    (heard : right.hears msg = some (.consecutiveFrame right.rxSeqNum chunk))
    (whole : right.rxBuffer ++ chunk ++ rest = payload) (pending : rest ≠ []) :
    ((0 < right.config.blockSize → right.rxBlockCounter + 1 < right.config.blockSize) ∧
        outputs = [] ∧ next = right.collect chunk ∨
      0 < right.config.blockSize ∧ right.config.blockSize ≤ right.rxBlockCounter + 1 ∧
        outputs = right.flow ∧ next = right.completeBlock chunk) ∧
      next.rxBuffer = right.rxBuffer ++ chunk := by
  have positive : 0 < rest.length := List.length_pos_iff.mpr pending
  have short : (right.rxBuffer ++ chunk).length < payload.length := by
    have sizes := congrArg List.length whole
    simp only [List.length_append] at sizes ⊢
    omega
  have joined : right.joined chunk = right.rxBuffer ++ chunk := joined_short (by omega)
  have room := matched.room
  rw [← kept] at room
  rcases step.next_heard heard waits room with
    ⟨complete,_⟩ | ⟨_,inside,rfl,rfl⟩ | ⟨_,blocks,last,rfl,rfl⟩
  · rw [joined] at complete
    omega
  · exact ⟨.inl ⟨inside,rfl,rfl⟩,joined⟩
  · exact ⟨.inr ⟨blocks,last,rfl,rfl⟩,joined⟩

theorem receive_step {msg : LinkFrame} (matched : Matched payload inbox left right)
    (stage : Stage payload inbox left right toLeft (msg :: toRight))
    (step : right.Transition (.frame msg .queued) outputs next) :
    Stage payload inbox left next (toLeft ++ (frames outputs).filterMap (carry brs)) toRight ∧
      work left (toLeft ++ (frames outputs).filterMap (carry brs)) toRight <
        work left toLeft (msg :: toRight) := by
  have lighter : work left toLeft toRight < work left toLeft (msg :: toRight) := by
    simp [work]
  have answered (answer : LinkFrame) :
      work left (toLeft ++ [answer]) toRight < work left toLeft (msg :: toRight) := by
    simp [work]
    omega
  obtain ⟨grant,separation,arrives,granted⟩ := matched.flow brs
  cases stage with
  | single sender empty receiver kept reads =>
    obtain ⟨silent,rests,buffer⟩ := step.single_heard reads (kept ▸ matched.room)
    rw [silent]
    exact ⟨.done sender empty rests (by rw [buffer,kept]),lighter⟩
  | @first _ chunk sender empty receiver kept reads whole number =>
    have pending : 0 < left.txBuffer.length :=
      List.length_pos_iff.mpr (matched.pending (by simp [sender]))
    have proper : (chunk.length : Int) < payload.length := by
      rw [← whole,List.length_append]
      omega
    obtain ⟨sent,rfl⟩ := step.first_heard reads proper matched.accepted
    rw [sent,arrives]
    exact ⟨.granting sender ⟨empty,rfl,rfl,kept,rfl⟩ granted whole number rfl,answered grant⟩
  | transmitting sender stream whole number block counter =>
    obtain ⟨chunk,others,rfl,heard,shift⟩ := stream.cons
    have pending := matched.pending (by simp [sender])
    have within : 0 < left.remoteBlockSize → left.txBlockCounter < left.remoteBlockSize := by
      rcases matched.leftSound.sending with idle | waits | transmits
      · simp [idle.state] at sender
      · simp [waits.state] at sender
      · exact transmits.blockCounter.2
    rw [List.length_cons] at number counter
    rw [List.flatten_cons,← List.append_assoc] at whole
    obtain ⟨⟨_,rfl,rfl⟩ | ⟨blocks,last,_,_⟩,buffer⟩ :=
      collect_step (others.flatten ++ left.txBuffer) matched stream.kept stream.waits
        stream.total step heard (by rw [← whole]; simp) (by simp [pending])
    · have seqNum : (right.collect chunk).rxSeqNum = (right.rxSeqNum + 1) % 16 := rfl
      have blockCounter : (right.collect chunk).rxBlockCounter = right.rxBlockCounter + 1 := rfl
      rw [frames_nil,List.filterMap_nil,List.append_nil]
      refine ⟨.transmitting sender (shift _ rfl rfl rfl rfl seqNum) (by rw [buffer,whole])
        ?_ block ?_,lighter⟩
      · omega
      · omega
    · omega
  | blockSent sender stream pending whole number blocks counter =>
    obtain ⟨chunk,others,rfl,heard,shift⟩ := stream.cons
    have left_pending := matched.pending (by simp [sender])
    rw [List.length_cons] at number counter
    rw [List.flatten_cons,← List.append_assoc] at whole
    obtain ⟨⟨inside,rfl,rfl⟩ | ⟨_,last,rfl,rfl⟩,buffer⟩ :=
      collect_step (others.flatten ++ left.txBuffer) matched stream.kept stream.waits
        stream.total step heard (by rw [← whole]; simp) (by simp [left_pending])
    · have seqNum : (right.collect chunk).rxSeqNum = (right.rxSeqNum + 1) % 16 := rfl
      have blockCounter : (right.collect chunk).rxBlockCounter = right.rxBlockCounter + 1 := rfl
      have config : (right.collect chunk).config = right.config := rfl
      have more : others ≠ [] := by
        rintro rfl
        rw [List.length_nil] at counter
        omega
      rw [frames_nil,List.filterMap_nil,List.append_nil]
      refine ⟨.blockSent sender (shift _ rfl rfl rfl rfl seqNum) more (by rw [buffer,whole])
        ?_ blocks ?_,lighter⟩
      · omega
      · rw [config]
        omega
    · have none : others = [] := List.length_eq_zero_iff.mp (by omega)
      subst none
      have seqNum : (right.completeBlock chunk).rxSeqNum = (right.rxSeqNum + 1) % 16 := rfl
      have stream := shift (right.completeBlock chunk) rfl rfl rfl rfl seqNum
      have drained : toRight = [] := List.map_eq_nil_iff.mp stream.reads
      subst drained
      rw [arrives]
      refine ⟨.granting sender stream granted ?_ ?_ rfl,answered grant⟩
      · rw [buffer]
        simpa using whole
      · rw [List.length_nil] at number
        omega
  | @finishing _ chunks last fill sender stream whole pending counter =>
    cases chunks with
    | nil =>
      obtain ⟨chunk,others,shape,heard,shift⟩ := stream.cons
      obtain ⟨rfl,rfl⟩ := List.cons.inj shape
      rw [List.flatten_nil,List.append_nil] at whole
      have joined : right.joined (last ++ fill) = payload := by
        have size := congrArg List.length whole
        have total := stream.total
        rw [List.length_append] at size
        have room : (right.rxFrameLen - right.rxBuffer.length).toNat = last.length := by omega
        rw [Session.joined_eq,room,List.take_left,whole]
      have drained : toRight = [] := by
        have stream := shift (right.collect (last ++ fill)) rfl rfl rfl rfl rfl
        exact List.map_eq_nil_iff.mp stream.reads
      subst drained
      have total := stream.total
      rcases step.next_heard heard stream.waits (stream.kept ▸ matched.room) with
        ⟨_,silent,rests,buffer⟩ | ⟨more,_⟩ | ⟨more,_⟩
      · rw [silent]
        exact ⟨.done sender stream.empty rests (by rw [buffer,stream.kept,joined]),lighter⟩
      · rw [joined] at more
        omega
      · rw [joined] at more
        omega
    | cons chunk chunks =>
      obtain ⟨_,others,shape,heard,shift⟩ := stream.cons
      obtain ⟨rfl,rfl⟩ := List.cons.inj shape
      rw [List.length_cons] at counter
      rw [List.flatten_cons,← List.append_assoc] at whole
      obtain ⟨⟨_,rfl,rfl⟩ | ⟨blocks,last,_,_⟩,buffer⟩ :=
        collect_step (chunks.flatten ++ last) matched stream.kept stream.waits
          stream.total step heard (by rw [← whole]; simp) (by simp [pending])
      · have seqNum : (right.collect chunk).rxSeqNum = (right.rxSeqNum + 1) % 16 := rfl
        have blockCounter : (right.collect chunk).rxBlockCounter = right.rxBlockCounter + 1 := rfl
        have config : (right.collect chunk).config = right.config := rfl
        rw [frames_nil,List.filterMap_nil,List.append_nil]
        refine ⟨.finishing sender (shift _ rfl rfl rfl rfl seqNum) (by rw [buffer,whole]) pending ?_,
          lighter⟩
        rw [config]
        omega
      · omega

end steps

/-- One step of a pair that nothing disturbs. -/
def Pair.Exchange (brs : Side → Bool) (p : Pair) (label : PairMove) (q : Pair) : Prop :=
  Pair.Step brs p label q ∧ label.move.event.timely

def Pair.InStage (payload : Bytes) (inbox : Chan Bytes) (p : Pair) : Prop :=
  Matched payload inbox (p.session .left) (p.session .right) ∧
    Stage payload inbox (p.session .left) (p.session .right) (p.inflight .left) (p.inflight .right)

def Pair.work (p : Pair) : Nat :=
  Isotp.work (p.session .left) (p.inflight .left) (p.inflight .right)

section pairs

variable {payload : Bytes} {inbox : Chan Bytes} {p q : Pair} {brs : Side → Bool} {label : PairMove}

theorem Matched.left_step {left right next : Session} {event : Event} {outputs : List Output}
    (matched : Matched payload inbox left right) (step : left.Transition event outputs next)
    (timely : event.timely) : Matched payload inbox next right := by
  have unaddressed : ∀ address, event ≠ .setTxAddress address := by
    rintro address rfl
    contradiction
  refine { matched with
    leftSound := step.sound matched.leftSound
    plain := ?_
    mode := ?_
    mirrored := ?_ }
  · rw [step.txAddress unaddressed,matched.plain]
  · rw [step.settings.2,matched.mode]
  · rw [step.address,matched.mirrored]

theorem Session.Transition.rests {s t : Session} {event : Event} {outputs : List Output}
    (step : s.Transition event outputs t) (sound : s.Sound) (rests : s.txState = .idle)
    (empty : s.txDataChan.buffer = []) (timely : event.timely) :
    (∃ msg, event = .frame msg .queued) ∧ t.txState = .idle ∧ t.txDataChan.buffer = [] := by
  have unarmed : s.timerTxSTmin = none := by
    rcases sound.sending with idle | waits | transmits
    · exact idle.timerSTmin
    · exact waits.timerSTmin
    · simp [transmits.state] at rests
  cases step with
  | granted _ waits | delayed _ waits | refused _ waits =>
    rw [rests] at waits
    contradiction
  | dequeueCancelled _ queue | sentSingle _ queue | sentFirst _ queue =>
    rw [(Chan.poll_some queue).1] at empty
    contradiction
  | sendCancelled transmits | sentLast transmits | sentBlock transmits | sentNext transmits =>
    rw [transmits.timerSTmin] at unarmed
    contradiction
  | consecutiveFrameTimeout | flowControlTimeout | submitted | consumed | addressed => contradiction
  | blockCancelled => contradiction
  | @unheard _ outcome | @flowIgnored _ outcome | @single _ outcome | @singleDropped _ outcome
  | @first _ outcome | @firstRefused _ outcome | @nextIgnored _ outcome | @mismatched _ outcome
  | @completed _ outcome | @completedDropped _ outcome | @collected _ outcome
  | @blockCompleted _ outcome =>
    cases outcome with
    | cancelled => contradiction
    | queued => exact ⟨⟨_,rfl⟩,rests,empty⟩

theorem Matched.right_step {left right next : Session} {event : Event} {outputs : List Output}
    (matched : Matched payload inbox left right) (step : right.Transition event outputs next)
    (timely : event.timely) : Matched payload inbox left next := by
  obtain ⟨_,rests,empty⟩ := step.rests matched.rightSound matched.rests matched.empty timely
  refine { matched with
    rightSound := step.sound matched.rightSound
    mode := ?_
    mirrored := ?_
    automatic := ?_
    rests := rests
    empty := empty
    accepted := ?_ }
  · rw [step.settings.2,matched.mode]
  · rw [step.address,matched.mirrored]
  · rw [step.settings.1,matched.automatic]
  · rw [step.settings.1]
    exact matched.accepted

/-- Every step of an undisturbed pair leads to a stage with less work. -/
theorem Pair.Exchange.advances (stage : p.InStage payload inbox) (step : Pair.Exchange brs p label q) :
    q.InStage payload inbox ∧ q.work < p.work := by
  obtain ⟨matched,stage⟩ := stage
  obtain ⟨side,before,event,outputs,after⟩ := label
  obtain ⟨⟨moves,other,arrives,departs,_⟩,timely⟩ := step
  unfold Pair.InStage Pair.work
  cases side with
  | left =>
    simp only [Side.other,Move.arrival,Move.departures] at moves other arrives departs timely
    have step := moves.transition matched.leftSound
    simp only at step
    have stepped : Stage payload inbox (q.session .left) (q.session .right) (q.inflight .left)
        (q.inflight .right) ∧
          Isotp.work (q.session .left) (q.inflight .left) (q.inflight .right) <
            Isotp.work (p.session .left) (p.inflight .left) (p.inflight .right) := by
      rw [arrives] at stage ⊢
      rw [other,departs]
      cases event with
      | expireRxCF | expireRxFC | send | receive | setTxAddress => contradiction
      | dequeue outcome =>
        cases outcome with
        | cancelled => contradiction
        | queued => exact dequeue_step matched stage step
      | expireTxSTmin outcome =>
        cases outcome with
        | cancelled => contradiction
        | queued => exact transmit_step matched stage step
      | frame msg outcome =>
        cases outcome with
        | cancelled => contradiction
        | queued => exact grant_step matched stage step
    rw [other] at stepped ⊢
    exact ⟨⟨matched.left_step step timely,stepped.1⟩,stepped.2⟩
  | right =>
    simp only [Side.other,Move.arrival,Move.departures] at moves other arrives departs timely
    have step := moves.transition matched.rightSound
    simp only at step
    obtain ⟨⟨msg,rfl⟩,_⟩ := step.rests matched.rightSound matched.rests matched.empty timely
    rw [arrives] at stage ⊢
    rw [other,departs]
    obtain ⟨next,less⟩ := receive_step matched stage step
    exact ⟨⟨matched.right_step step timely,next⟩,less⟩

theorem Pair.takes_frame (side : Side) (waiting : p.inflight side ≠ []) :
    ∃ label q, Pair.Exchange brs p label q := by
  obtain ⟨msg,rest,queue⟩ := List.exists_cons_of_ne_nil waiting
  have chosen : p.choose side none = some (.frame msg .queued,rest) := by simp [choose,queue]
  obtain ⟨q,step⟩ := advance_some brs chosen rfl
  exact ⟨_,q,step,rfl⟩

/-- A stage other than the last has a step. -/
theorem Pair.InStage.enabled (brs : Side → Bool) (stage : p.InStage payload inbox) :
    (∃ label q, Pair.Exchange brs p label q) ∨
      (p.session .left).txState = .idle ∧ (p.session .right).rxState = .idle ∧
        (p.session .right).rxDataChan.buffer = inbox.buffer ++ [payload] ∧
        (∀ side, p.inflight side = []) ∧ p.work = 0 := by
  obtain ⟨matched,stage⟩ := stage
  generalize toLeft : p.inflight .left = left at stage ⊢
  generalize toRight : p.inflight .right = right at stage ⊢
  have towards (chunks : List Bytes) {msgs} (pending : chunks ≠ [])
      (stream : Streaming payload inbox (p.session .left) (p.session .right) msgs chunks) :
      msgs ≠ [] := by
    rintro rfl
    have reads := stream.reads
    cases chunks with
    | nil => contradiction
    | cons => simp [numbered] at reads
  cases stage with
  | queued sender queue =>
    obtain ⟨channel,polled,_⟩ := Chan.poll_cons queue
    have chosen : p.choose .left (some (.dequeue .queued)) =
        some (.dequeue .queued,p.inflight .left) := rfl
    have taken : (p.session .left).step (.dequeue .queued) = some
        (({ p.session .left with txDataChan := channel }).initiateTx payload .queued) := by
      simp [Session.step,sender,polled]
    obtain ⟨q,step⟩ := advance_some brs chosen taken
    exact .inl ⟨_,q,step,rfl⟩
  | single | first => exact .inl (takes_frame .right (by simp [toRight]))
  | granting => exact .inl (takes_frame .left (by simp [toLeft]))
  | transmitting sender =>
    have armed : ∃ delay, (p.session .left).timerTxSTmin = some delay := by
      rcases matched.leftSound.sending with idle | waits | transmits
      · simp [idle.state] at sender
      · simp [waits.state] at sender
      · exact ⟨_,transmits.timerSTmin⟩
    obtain ⟨delay,armed⟩ := armed
    have chosen : p.choose .left (some (.expireTxSTmin .queued)) =
        some (.expireTxSTmin .queued,p.inflight .left) := rfl
    have taken : (p.session .left).step (.expireTxSTmin .queued) = some
        ((p.session .left).separated.handleTxTransmit .queued) := by
      simp [Session.step,armed,sender,Session.separated]
    obtain ⟨q,step⟩ := advance_some brs chosen taken
    exact .inl ⟨_,q,step,rfl⟩
  | blockSent _ stream pending =>
    exact .inl (takes_frame .right (toRight ▸ towards _ pending stream))
  | finishing _ stream =>
    exact .inl (takes_frame .right (toRight ▸ towards _ (by simp) stream))
  | done sender empty receiver delivered =>
    have drained : (p.session .left).txBuffer = [] := matched.leftSound.drained sender
    refine .inr ⟨sender,receiver,delivered,?_,?_⟩
    · intro side
      cases side
      · exact toLeft
      · exact toRight
    · simp [Pair.work,Isotp.work,empty,drained,toLeft,toRight]

theorem inbox_run {s t : Session} {moves : List Move} (sound : s.Sound)
    (run : Run Move.Step s moves t) (timely : ∀ move ∈ moves, move.event.timely) :
    t.rxDataChan.buffer =
      s.rxDataChan.buffer ++ moves.flatMap fun move => payloads move.outputs := by
  induction run with
  | nil => simp
  | @snoc moves move middle t before step ih =>
    have transition := step.transition (run_sound sound before)
    rw [transition.inbox (timely move (by simp)),ih fun other member => timely other (by simp [member]),
      List.flatMap_append,List.append_assoc,List.flatMap_singleton]

theorem movesOf_timely {side : Side} {labels : List PairMove}
    (timely : ∀ label ∈ labels, label.move.event.timely) :
    ∀ move ∈ movesOf side labels, move.event.timely := by
  intro move member
  obtain ⟨label,inside,same⟩ := List.mem_filterMap.mp member
  split_ifs at same
  rw [← Option.some.inj same]
  exact timely label inside

end pairs

/-- The start of an exchange: two sessions of one mode at rest, however they came there,
mirrored and with flow control left to the protocol; a payload both accept waits on the left,
the right has room for it, and the link is empty. -/
structure Pair.Exchanges (p : Pair) (payload : Bytes) (address : Side → Address)
    (cfg : Side → Config) (fd : Bool) : Prop where
  reached : ∀ side, ∃ s moves, newSession (some (address side)) (cfg side) fd = .ok s ∧
    Run Move.Step s moves (p.session side)
  mirrored : address .right = ⟨(address .left).rxID,(address .left).txID⟩
  automatic : ∀ side, (p.session side).config.manualFlowControl = false
  plain : ∀ side, (p.session side).txAddress = none
  idle : ∀ side, (p.session side).txState = .idle ∧ (p.session side).rxState = .idle
  queued : (p.session .left).txDataChan.buffer = [payload] ∧
    (p.session .right).txDataChan.buffer = []
  room : (p.session .right).rxDataChan.buffer.length < (p.session .right).rxDataChan.capacity
  empty : ∀ side, p.inflight side = []
  nonempty : payload ≠ []
  bounded : payload.length < 2^32
  accepted : ∀ side, payload.length ≤ (p.session side).config.maxPayloadSize

/-- The end of an exchange. -/
structure Pair.Completed (p q : Pair) (payload : Bytes) (labels : List PairMove) : Prop where
  delivered : delivered .right labels = [payload]
  inbox : (q.session .right).rxDataChan.buffer =
    (p.session .right).rxDataChan.buffer ++ [payload]
  empty : ∀ side, q.inflight side = []
  sender : (q.session .left).txState = .idle
  receiver : (q.session .right).rxState = .idle

theorem Pair.Exchanges.inStage {p : Pair} {payload : Bytes} {address : Side → Address}
    {cfg : Side → Config} {fd : Bool} (begins : p.Exchanges payload address cfg fd) :
    p.InStage payload (p.session .right).rxDataChan := by
  have reached (side : Side) : (p.session side).Sound ∧ (p.session side).address = address side ∧
      (p.session side).fd = fd := by
    obtain ⟨s,moves,created,run⟩ := begins.reached side
    have sound := newSession_sound created
    refine run.invariant (fun u => u.Sound ∧ u.address = address side ∧ u.fd = fd)
      ⟨sound,(newSession_fresh created).1,?_⟩ ?_
    · obtain ⟨_,_,_,_,_,rfl⟩ := newSession_ok created
      rfl
    · intro u move v kept step
      have transition := step.transition kept.1
      exact ⟨transition.sound kept.1,transition.address.trans kept.2.1,
        transition.settings.2.trans kept.2.2⟩
  obtain ⟨leftSound,leftAddress,leftMode⟩ := reached .left
  obtain ⟨rightSound,rightAddress,rightMode⟩ := reached .right
  refine ⟨⟨leftSound,rightSound,begins.plain .left,leftMode.trans rightMode.symm,?_,
    begins.automatic .right,(begins.idle .right).1,begins.queued.2,begins.nonempty,begins.bounded,
    begins.accepted .right,begins.room⟩,?_⟩
  · rw [rightAddress,leftAddress,begins.mirrored]
  · rw [begins.empty .left,begins.empty .right]
    exact .queued (begins.idle .left).1 begins.queued.1 (begins.idle .right).2 rfl

/-- An undisturbed exchange ends after a bounded number of steps, whatever their order, and
can only end with the payload delivered, nothing in flight and both halves at rest. -/
theorem exchange_completes {p q : Pair} {payload : Bytes} {address : Side → Address}
    {cfg : Side → Config} {fd : Bool} {brs : Side → Bool} {labels : List PairMove}
    (begins : p.Exchanges payload address cfg fd) (run : Run (Pair.Exchange brs) p labels q) :
    labels.length ≤ 4 * (payload.length + 1) ∧
      ((∃ label r, Pair.Exchange brs q label r) ∨
        p.Completed q payload labels ∧ ∀ label r, ¬ Pair.Exchange brs q label r) := by
  have initially := begins.inStage
  have stage : q.InStage payload (p.session .right).rxDataChan :=
    run.invariant _ initially fun _ _ _ stage step => (step.advances stage).1
  have bounded := run.bounded Pair.work initially (fun _ _ _ stage step => (step.advances stage).1)
    fun _ _ _ stage step => (step.advances stage).2
  have start : p.work = 4 * (payload.length + 1) := by
    have drained := initially.1.leftSound.drained (begins.idle .left).1
    simp [Pair.work,work,begins.queued.1,drained,begins.empty]
  refine ⟨by omega,?_⟩
  rcases stage.enabled brs with next | ⟨sender,receiver,inbox,empty,done⟩
  · exact .inl next
  · refine .inr ⟨⟨?_,inbox,empty,sender,receiver⟩,?_⟩
    · obtain ⟨steps,timely⟩ := Run.restrict_iff.mp run
      have collected := inbox_run initially.1.rightSound (pair_session steps .right)
        (movesOf_timely timely)
      rw [inbox] at collected
      exact (List.append_cancel_left collected).symm
    · intro label r step
      have less := (step.advances stage).2
      omega

/-- Ten bytes between two sessions with the default configuration. -/
theorem exchange_completes_transfer :
    ∃ p labels q, Run (Pair.Exchange fun _ => false) p labels q ∧
      p.Completed q (List.replicate 10 7) labels := by
  let address : Side → Address := fun side =>
    if side = .left then ⟨0x7E0,0x7E8⟩ else ⟨0x7E8,0x7E0⟩
  let payload : Bytes := List.replicate 10 7
  let sender : Session := .fresh (address .left) defaultConfig false
  let waiting : Session := { sender with txDataChan := ⟨10,[payload],by decide⟩ }
  let receiver : Session := .fresh (address .right) defaultConfig false
  let p : Pair := ⟨fun side => if side = .left then waiting else receiver,fun _ => []⟩
  have submits : Run Move.Step sender [⟨sender,.send payload,[],waiting⟩] waiting :=
    .single ⟨rfl,rfl,rfl⟩
  have begins : p.Exchanges payload address (fun _ => defaultConfig) false := by
    refine ⟨?_,rfl,?_,?_,?_,⟨rfl,rfl⟩,by decide,fun _ => rfl,by decide,by decide,?_⟩
    · rintro (_ | _)
      · exact ⟨sender,_,rfl,submits⟩
      · exact ⟨receiver,[],rfl,.nil⟩
    all_goals rintro (_ | _) <;> decide
  have executed : (p.execute (fun _ => false) [(.left,some (.dequeue .queued)),(.right,none),
      (.left,none),(.left,some (.expireTxSTmin .queued)),(.right,none)]).map (fun result =>
        (result.1.all fun label => label.move.event.timely,result.2.work)) = some (true,0) := by
    decide +kernel
  obtain ⟨⟨labels,q⟩,executed,observed⟩ := Option.map_eq_some_iff.mp executed
  obtain ⟨timely,done⟩ := Prod.mk.inj observed
  have run : Run (Pair.Exchange fun _ => false) p labels q :=
    Run.restrict_iff.mpr ⟨Pair.execute_run executed,List.all_eq_true.mp timely⟩
  have stage : q.InStage payload (p.session .right).rxDataChan :=
    run.invariant _ begins.inStage fun _ _ _ stage step => (step.advances stage).1
  rcases (exchange_completes begins run).2 with ⟨label,r,step⟩ | ⟨completed,_⟩
  · have less := (step.advances stage).2
    simp only at done
    omega
  · exact ⟨p,labels,q,run,completed⟩

end Canbuskit.Isotp
