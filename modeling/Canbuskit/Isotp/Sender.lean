import Canbuskit.Isotp.SessionInvariant
import Canbuskit.Isotp.Codec

/-! The transmit half seen from outside: what a move emits, grants, delays or fails, and the
few ways in which the transmit half can make progress. Everything the receive half does
leaves it untouched and emits Flow Control frames only. -/
namespace Canbuskit.Isotp
open Can Channel Runs

def LinkFrame.isFlowControl (msg : LinkFrame) : Bool :=
  match parseFrame msg.data with
  | .ok (.flowControlFrame _ _ _) => true
  | _ => false

namespace Session

/-- The bytes of a link frame: the encoded PDU with the configured padding. -/
def padded (s : Session) (data : Bytes) : Bytes := (s.makeTxMsgWithAddr s.address data).data

theorem makeTxMsg_data (s : Session) (data : Bytes) : (s.makeTxMsg data).data = s.padded data := rfl

theorem padded_fill (s : Session) (data : Bytes) : ∃ fill, s.padded data = data ++ fill := by
  unfold padded makeTxMsgWithAddr
  cases s.config.paddingByte with
  | none => exact ⟨[],by simp⟩
  | some padding =>
    dsimp only
    generalize (if s.fd then nextFDTargetLength data.length else 8 : Int) = targetLen
    split_ifs
    · exact ⟨_,rfl⟩
    · exact ⟨[],by simp⟩

theorem padded_length {s : Session} (configured : s.Configured) {data : Bytes}
    (fits : (data.length : Int) ≤ s.maxDataLength) :
    ((s.padded data).length : Int) ≤ s.maxDataLength := by
  have width := configured.width
  unfold padded makeTxMsgWithAddr
  unfold maxDataLength at fits ⊢
  rw [width] at fits ⊢
  cases s.config.paddingByte with
  | none => exact fits
  | some padding =>
    have target : (if s.fd then nextFDTargetLength data.length else 8 : Int) ≤ maximumLength s.fd := by
      cases s.fd with
      | false => simp [maximumLength]
      | true =>
        simp only [if_true,maximumLength,nextFDTargetLength]
        split_ifs <;> omega
    dsimp only
    generalize (if s.fd then nextFDTargetLength data.length else 8 : Int) = targetLen at target ⊢
    split_ifs
    · simp only [List.length_append,List.length_replicate]
      omega
    · exact fits

theorem padded_full {s : Session} (configured : s.Configured) {data : Bytes}
    (full : (data.length : Int) = s.maxDataLength) : s.padded data = data := by
  obtain ⟨fill,shape⟩ := s.padded_fill data
  have length := padded_length configured (Int.le_of_eq full)
  rw [shape,List.length_append] at length
  have empty : fill = [] := List.length_eq_zero_iff.mp (by omega)
  rw [shape,empty,List.append_nil]

theorem parse_flow {s : Session} (configured : s.Configured) :
    parseFrame (s.makeFlowControlMsg FlowStatus.continueToSend).data =
      .ok (.flowControlFrame FlowStatus.continueToSend s.config.blockSize
        (s.config.stMin * 1000000)) := by
  obtain ⟨fill,shape⟩ := s.padded_fill
    (createFlowControlPayload FlowStatus.continueToSend s.config.blockSize s.config.stMin)
  have data : (s.makeFlowControlMsg FlowStatus.continueToSend).data = s.padded
    (createFlowControlPayload FlowStatus.continueToSend s.config.blockSize s.config.stMin) := rfl
  rw [data,shape]
  exact parse_flowControl (by decide) configured.config.blockSize configured.config.stMin

end Session

namespace Move

def dataFrames (move : Move) : List LinkFrame :=
  (frames move.outputs).filter fun msg => !msg.isFlowControl

def heard (move : Move) : Option PDU :=
  match move.event with
  | .frame msg _ => move.before.hears msg
  | _ => none

/-- The block size of the ContinueToSend that a move accepts. -/
def granted (move : Move) : Option Int :=
  match move.before.txState, move.heard with
  | .waitFC, some (.flowControlFrame status blockSize _) =>
    if status = FlowStatus.continueToSend then some blockSize else none
  | _, _ => none

/-- Whether a move accepts a Wait frame: the session keeps waiting. -/
def delayed (move : Move) : Bool :=
  match move.before.txState, move.after.txState, move.heard with
  | .waitFC, .waitFC, some (.flowControlFrame status _ _) => status == FlowStatus.wait
  | _, _, _ => false

/-- Whether the transmit half reports an error. -/
def failed (move : Move) : Bool := (errors move.outputs).any SessionError.sending

def dequeued (move : Move) : Option Bytes :=
  match move.event with
  | .dequeue _ => move.before.txDataChan.buffer.head?
  | _ => none

structure Shows (move : Move) (data : List LinkFrame) (granted : Option Int)
    (delayed failed : Bool) : Prop where
  dataFrames : move.dataFrames = data
  granted : move.granted = granted
  delayed : move.delayed = delayed
  failed : move.failed = failed

end Move

def Event.live : Event → Bool
  | .frame _ outcome => outcome == .queued
  | .dequeue outcome => outcome == .queued
  | .expireTxSTmin outcome => outcome == .queued
  | _ => true

theorem quiet_shows {outputs : List Output} (quiet : Quiet outputs) :
    (frames outputs).filter (fun msg => !msg.isFlowControl) = [] ∧
      (errors outputs).any SessionError.sending = false := by
  refine ⟨by simp [quiet.frames],?_⟩
  rw [List.any_eq_false]
  intro error member
  simp [quiet.receiving error member]

theorem Session.flow_shows {s : Session} (configured : s.Configured) :
    (frames s.flow).filter (fun msg => !msg.isFlowControl) = [] ∧ errors s.flow = [] := by
  unfold Session.flow
  split_ifs
  · exact ⟨rfl,rfl⟩
  · simp [LinkFrame.isFlowControl,Session.parse_flow configured]

/-- How a step can move the transmit half on, with what the move shows of it. -/
inductive Progress (s : Session) (move : Move) (t : Session) : Prop
  | untouched (same : s.SameSend t) (shows : move.Shows [] none false false)
      (undequeued : move.dequeued = none)
  | granted {blockSize stMin} (waits : s.txState = .waitFC) (after : t = s.grant blockSize stMin)
      (shows : move.Shows [] (some blockSize) false false) (undequeued : move.dequeued = none)
  | delayed (waits : s.txState = .waitFC)
      (within : 0 ≤ s.config.maxWaitFrames → s.txWaitFrames + 1 ≤ s.config.maxWaitFrames)
      (after : t = s.delay) (shows : move.Shows [] none true false)
      (undequeued : move.dequeued = none)
  | refused (waits : s.txState = .waitFC) (after : t = s.stopSending)
      (shows : move.Shows [] none false true) (undequeued : move.dequeued = none)
  | cancelled (dead : move.event.live = false) (after : t = s.stopSending)
      (shows : move.Shows [] none false false) (undequeued : move.dequeued = none)
  | dropped {payload channel} (dead : move.event.live = false) (rests : s.txState = .idle)
      (queue : s.txDataChan.poll = some (payload,channel))
      (after : t = { s.stopSending with txDataChan := channel })
      (shows : move.Shows [] none false false) (dequeued : move.dequeued = some payload)
  | single {payload channel data} (rests : s.txState = .idle)
      (queue : s.txDataChan.poll = some (payload,channel)) (fits : s.fitsSingleFrame payload)
      (encoded : createSingleFramePayload payload s.maxDataLength = .ok data)
      (after : t = { s.stopSending with txDataChan := channel })
      (sent : frames move.outputs = [s.makeTxMsg data]) (dequeued : move.dequeued = some payload)
  | started {payload channel data} (rests : s.txState = .idle)
      (queue : s.txDataChan.poll = some (payload,channel)) (several : ¬ s.fitsSingleFrame payload)
      (encoded : createFirstFramePayload (payload.take (s.firstFrameRoom payload.length))
        payload.length s.maxDataLength = .ok data)
      (after : t = { s.startSending payload with txDataChan := channel })
      (sent : frames move.outputs = [s.makeTxMsg data]) (granted : move.granted = none)
      (delayed : move.delayed = false) (failed : move.failed = false)
      (dequeued : move.dequeued = some payload)
  | sent {data} (transmits : s.SendTransmit)
      (encoded : createConsecutiveFramePayload (s.txBuffer.take s.consecutiveFrameRoom)
        s.txSeqNum = .ok data)
      (after : s.txBuffer.length ≤ s.consecutiveFrameRoom ∧ t = s.stopSending ∨
        s.consecutiveFrameRoom < s.txBuffer.length ∧ 0 < s.remoteBlockSize ∧
          s.remoteBlockSize ≤ s.txBlockCounter + 1 ∧ t = s.separated.endBlock ∨
        s.consecutiveFrameRoom < s.txBuffer.length ∧
          (0 < s.remoteBlockSize → s.txBlockCounter + 1 < s.remoteBlockSize) ∧ t = s.keepSending)
      (sent : frames move.outputs = [s.makeTxMsg data])
      (shows : move.Shows [s.makeTxMsg data] none false false) (undequeued : move.dequeued = none)

theorem consecutive_data {s : Session} {chunk data : Bytes} {number : Int}
    (encoded : createConsecutiveFramePayload chunk number = .ok data) :
    (s.makeTxMsg data).isFlowControl = false := by
  obtain ⟨fill,shape⟩ := s.padded_fill data
  simp only [LinkFrame.isFlowControl,Session.makeTxMsg_data,shape,parse_consecutive encoded]

namespace Session

theorem untouched_receive {s t : Session} {msg : LinkFrame} {outcome : SendOutcome}
    {outputs : List Output} (same : s.SameSend t)
    (silent : (frames outputs).filter (fun msg => !msg.isFlowControl) = [])
    (clean : (errors outputs).any SessionError.sending = false)
    (other : ∀ status blockSize stMin,
      s.hears msg ≠ some (.flowControlFrame status blockSize stMin)) :
    Progress s ⟨s,.frame msg outcome,outputs,t⟩ t := by
  have granted : Move.granted ⟨s,.frame msg outcome,outputs,t⟩ = none := by
    unfold Move.granted Move.heard
    split
    · rename_i heard
      exact absurd heard (other _ _ _)
    · rfl
  have delayed : Move.delayed ⟨s,.frame msg outcome,outputs,t⟩ = false := by
    unfold Move.delayed Move.heard
    split
    · rename_i heard
      exact absurd heard (other _ _ _)
    · rfl
  exact .untouched same ⟨silent,granted,delayed,clean⟩ rfl

theorem poll_head {s : Session} {payload : Bytes} {channel : Chan Bytes}
    (queue : s.txDataChan.poll = some (payload,channel)) :
    s.txDataChan.buffer.head? = some payload := by
  rw [(Chan.poll_some queue).1]
  rfl

theorem Transition.progress {s t : Session} {event : Event} {outputs : List Output}
    (sound : s.Sound) (step : s.Transition event outputs t) :
    Progress s ⟨s,event,outputs,t⟩ t := by
  obtain ⟨flowSilent,flowClean⟩ := flow_shows sound.configured
  cases step with
  | unheard heard quiet =>
    obtain ⟨silent,clean⟩ := quiet_shows quiet
    exact untouched_receive rfl silent clean (by simp [heard])
  | flowIgnored heard busy =>
    refine .untouched rfl ⟨rfl,?_,?_,rfl⟩ rfl
    · unfold Move.granted
      split
      · exact absurd ‹_› busy
      · rfl
    · unfold Move.delayed
      split
      · exact absurd ‹_› busy
      · rfl
  | granted heard waits =>
    refine .granted waits rfl ⟨rfl,?_,?_,rfl⟩ rfl
    · simp [Move.granted,Move.heard,waits,heard]
    · simp [Move.delayed,Move.heard,waits,heard,grant]
  | delayed heard waits within =>
    refine .delayed waits within rfl ⟨rfl,?_,?_,rfl⟩ rfl
    · simp [Move.granted,Move.heard,waits,heard,FlowStatus.wait,FlowStatus.continueToSend]
    · simp [Move.delayed,Move.heard,waits,heard,delay]
  | refused heard waits other sending =>
    refine .refused waits rfl ⟨rfl,?_,?_,?_⟩ rfl
    · simp [Move.granted,Move.heard,waits,heard,other]
    · simp [Move.delayed,Move.heard,waits,heard,stopSending]
    · simp [Move.failed,sending]
  | single heard _ quiet =>
    obtain ⟨silent,clean⟩ := quiet_shows quiet
    exact untouched_receive rfl (by simp [silent]) (by simp [clean]) (by simp [heard])
  | singleDropped heard _ quiet | firstRefused heard _ quiet | mismatched heard _ _ quiet
  | completedDropped heard _ _ _ quiet =>
    obtain ⟨silent,clean⟩ := quiet_shows quiet
    exact untouched_receive rfl silent clean (by simp [heard])
  | first heard _ _ quiet =>
    obtain ⟨silent,clean⟩ := quiet_shows quiet
    exact untouched_receive rfl (by simp [silent,flowSilent]) (by simp [clean,flowClean])
      (by simp [heard])
  | nextIgnored heard | completed heard | collected heard | blockCancelled heard =>
    exact untouched_receive rfl rfl rfl (by simp [heard])
  | blockCompleted heard =>
    exact untouched_receive rfl flowSilent (by simp [flowClean]) (by simp [heard])
  | dequeueCancelled rests queue =>
    refine .dropped rfl rests queue rfl ⟨rfl,?_,?_,rfl⟩ (poll_head queue)
    · simp [Move.granted,Move.heard]
    · simp [Move.delayed,Move.heard]
  | sentSingle rests queue fits encoded =>
    exact .single rests queue fits encoded rfl rfl (poll_head queue)
  | sentFirst rests queue several encoded =>
    refine .started rests queue several encoded rfl rfl ?_ ?_ rfl (poll_head queue)
    · simp [Move.granted,Move.heard]
    · simp [Move.delayed,Move.heard]
  | consecutiveFrameTimeout armed =>
    refine .untouched rfl ⟨rfl,?_,?_,rfl⟩ rfl
    · simp [Move.granted,Move.heard]
    · simp [Move.delayed,Move.heard]
  | flowControlTimeout armed =>
    have waits : s.txState = .waitFC := sound.unstuck.timerRxFC.mp armed
    refine .refused waits rfl ⟨rfl,?_,?_,rfl⟩ rfl
    · simp [Move.granted,Move.heard]
    · simp [Move.delayed,Move.heard]
  | sendCancelled transmits =>
    refine .cancelled rfl rfl ⟨rfl,?_,?_,rfl⟩ rfl
    · simp [Move.granted,Move.heard]
    · simp [Move.delayed,Move.heard]
  | sentLast transmits encoded last =>
    refine .sent transmits encoded (.inl ⟨last,rfl⟩) rfl ⟨?_,?_,?_,rfl⟩ rfl
    · simp [Move.dataFrames,consecutive_data encoded]
    · simp [Move.granted,Move.heard]
    · simp [Move.delayed,Move.heard]
  | sentBlock transmits encoded more blocks full =>
    refine .sent transmits encoded (.inr (.inl ⟨more,blocks,full,rfl⟩)) rfl ⟨?_,?_,?_,rfl⟩ rfl
    · simp [Move.dataFrames,consecutive_data encoded]
    · simp [Move.granted,Move.heard]
    · simp [Move.delayed,Move.heard]
  | sentNext transmits encoded more inside =>
    refine .sent transmits encoded (.inr (.inr ⟨more,inside,rfl⟩)) rfl ⟨?_,?_,?_,rfl⟩ rfl
    · simp [Move.dataFrames,consecutive_data encoded]
    · simp [Move.granted,Move.heard]
    · simp [Move.delayed,Move.heard]
  | submitted | consumed | addressed =>
    refine .untouched rfl ⟨rfl,?_,?_,rfl⟩ rfl
    · simp [Move.granted,Move.heard]
    · simp [Move.delayed,Move.heard]

end Session

theorem Move.Step.progress {s t : Session} {move : Move} (sound : s.Sound)
    (step : Move.Step s move t) : Progress s move t := by
  obtain ⟨rfl,rfl,taken⟩ := step
  exact (Session.step_transition sound taken).progress sound

end Canbuskit.Isotp
