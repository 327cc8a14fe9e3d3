import Canbuskit.Isotp.Transitions

/-! Every state a session can reach is sound: each timer runs exactly while its half waits
for it, the buffers and counters are in range, and the error branches that guard against
anything else are never taken. -/
namespace Canbuskit.Isotp
open Can Channel Runs

namespace Session

theorem stopReceiving_idle (s : Session) : s.stopReceiving.ReceiveIdle :=
  ⟨rfl,rfl,rfl,rfl,rfl,rfl⟩

theorem stopSending_idle (s : Session) : s.stopSending.SendIdle :=
  ⟨rfl,rfl,rfl,rfl,rfl,rfl,rfl,rfl⟩

theorem Sound.sendIdle {s : Session} (sound : s.Sound) (rests : s.txState = .idle) : s.SendIdle := by
  rcases sound.sending with idle | waits | transmits
  · exact idle
  · simp [waits.state] at rests
  · simp [transmits.state] at rests

theorem Sound.sendWaitFC {s : Session} (sound : s.Sound) (waits : s.txState = .waitFC) :
    s.SendWaitFC := by
  rcases sound.sending with idle | waiting | transmits
  · simp [idle.state] at waits
  · exact waiting
  · simp [transmits.state] at waits

theorem Sound.receiveWaitCF {s : Session} (sound : s.Sound) (waits : s.rxState = .waitCF) :
    s.ReceiveWaitCF := by
  rcases sound.receiving with idle | waiting
  · simp [idle.state] at waits
  · exact waiting

/-- `t` has the receive half of `s`; its transmit half, queues and transmit address are free. -/
def SameReceive (s t : Session) : Prop :=
  t = { s with txState := t.txState, txBuffer := t.txBuffer, txFrameLen := t.txFrameLen,
               txSeqNum := t.txSeqNum, txBlockCounter := t.txBlockCounter,
               remoteBlockSize := t.remoteBlockSize, remoteSTmin := t.remoteSTmin,
               txWaitFrames := t.txWaitFrames, timerRxFC := t.timerRxFC,
               timerTxSTmin := t.timerTxSTmin, txDataChan := t.txDataChan,
               rxDataChan := t.rxDataChan, txAddress := t.txAddress }

/-- `t` has the transmit half of `s`; its receive half, queues and transmit address are free. -/
def SameSend (s t : Session) : Prop :=
  t = { s with rxState := t.rxState, rxBuffer := t.rxBuffer, rxFrameLen := t.rxFrameLen,
               rxSeqNum := t.rxSeqNum, rxBlockCounter := t.rxBlockCounter,
               timerRxCF := t.timerRxCF, txDataChan := t.txDataChan,
               rxDataChan := t.rxDataChan, txAddress := t.txAddress }

theorem SameReceive.receiving {s t : Session} (same : s.SameReceive t)
    (receiving : s.ReceiveIdle ∨ s.ReceiveWaitCF) : t.ReceiveIdle ∨ t.ReceiveWaitCF := by
  rw [same]
  rcases receiving with ⟨state,timer,buffer,frameLen,seqNum,block⟩ |
    ⟨state,timer,short,limit,seqNum,block⟩
  · exact .inl ⟨state,timer,buffer,frameLen,seqNum,block⟩
  · exact .inr ⟨state,timer,short,limit,seqNum,block⟩

theorem SameSend.sending {s t : Session} (same : s.SameSend t)
    (sending : s.SendIdle ∨ s.SendWaitFC ∨ s.SendTransmit) :
    t.SendIdle ∨ t.SendWaitFC ∨ t.SendTransmit := by
  rw [same]
  rcases sending with ⟨state,fc,st,buffer,frameLen,seqNum,block,wait⟩ |
    ⟨state,fc,st,pending,seqNum,wait⟩ | ⟨state,fc,st,pending,seqNum,block,wait⟩
  · exact .inl ⟨state,fc,st,buffer,frameLen,seqNum,block,wait⟩
  · exact .inr (.inl ⟨state,fc,st,pending,seqNum,wait⟩)
  · exact .inr (.inr ⟨state,fc,st,pending,seqNum,block,wait⟩)

theorem Configured.sameReceive {s t : Session} (configured : s.Configured) (same : s.SameReceive t)
    (valid : ∀ address, t.txAddress = some address → address.txID ≤ 0x7FF) : t.Configured := by
  rw [same]
  exact ⟨configured.width,configured.config,configured.address,valid⟩

/-- A step of the transmit half keeps the invariant once its new half is in order. -/
theorem Sound.sends {s t : Session} (sound : s.Sound) (same : s.SameReceive t)
    (address : t.txAddress = s.txAddress)
    (sending : t.SendIdle ∨ t.SendWaitFC ∨ t.SendTransmit) : t.Sound :=
  ⟨sound.configured.sameReceive same (address ▸ sound.configured.txAddress),
    same.receiving sound.receiving,sending⟩

theorem Sound.receives {s t : Session} (sound : s.Sound) (same : s.SameSend t)
    (address : t.txAddress = s.txAddress)
    (receiving : t.ReceiveIdle ∨ t.ReceiveWaitCF) : t.Sound := by
  refine ⟨?_,receiving,same.sending sound.sending⟩
  have valid := address ▸ sound.configured.txAddress
  rw [same]
  exact ⟨sound.configured.width,sound.configured.config,sound.configured.address,valid⟩

theorem Sound.same {s t : Session} (sound : s.Sound) (receive : s.SameReceive t)
    (send : s.SameSend t) (valid : ∀ address, t.txAddress = some address → address.txID ≤ 0x7FF) :
    t.Sound :=
  ⟨sound.configured.sameReceive receive valid,receive.receiving sound.receiving,
    send.sending sound.sending⟩

theorem startSending_waits {s : Session} (sound : s.Sound) (rests : s.txState = .idle)
    {payload : Bytes} (several : ¬ s.fitsSingleFrame payload) :
    (s.startSending payload).SendWaitFC := by
  have idle := sound.sendIdle rests
  obtain ⟨_,rest,_⟩ := first_encodes sound.configured several
  refine ⟨rfl,rfl,idle.timerSTmin,?_,by simp [startSending],?_⟩
  · intro empty
    have := congrArg List.length empty
    simp only [startSending,List.length_drop,List.length_nil] at this
    omega
  · simp only [startSending,idle.waitFrames]
    omega

theorem Transition.sound {s t : Session} {event : Event} {outputs : List Output}
    (sound : s.Sound) (step : s.Transition event outputs t) : t.Sound := by
  have stopsReceiving : s.stopReceiving.Sound := sound.receives rfl rfl (.inl s.stopReceiving_idle)
  have stopsSending : s.stopSending.Sound := sound.sends rfl rfl (.inl s.stopSending_idle)
  have remaining : s.consecutiveFrameRoom < s.txBuffer.length →
      s.txBuffer.drop s.consecutiveFrameRoom ≠ [] := by
    intro more empty
    have := congrArg List.length empty
    simp only [List.length_drop,List.length_nil] at this
    omega
  cases step with
  | unheard | flowIgnored | nextIgnored => exact sound
  | granted _ waits =>
    have waiting := sound.sendWaitFC waits
    exact sound.sends rfl rfl (.inr (.inr ⟨rfl,rfl,rfl,waiting.pending,waiting.seqNum,by simp [grant],rfl⟩))
  | delayed _ waits within =>
    have waiting := sound.sendWaitFC waits
    refine sound.sends rfl rfl (.inr (.inl ⟨waits,rfl,waiting.timerSTmin,waiting.pending,waiting.seqNum,?_⟩))
    have := waiting.waitFrames
    exact ⟨by simp only [delay]; omega,within⟩
  | refused | flowControlTimeout | sendCancelled | sentLast => exact stopsSending
  | singleDropped | firstRefused | mismatched | completedDropped | blockCancelled |
      consecutiveFrameTimeout => exact stopsReceiving
  | single | completed => exact stopsReceiving.receives rfl rfl (.inl ⟨rfl,rfl,rfl,rfl,rfl,rfl⟩)
  | first _ proper limit _ =>
    refine sound.receives rfl rfl (.inr ⟨rfl,rfl,proper,limit,by simp [startReceiving],?_⟩)
    simp only [startReceiving]
    omega
  | collected _ waits more inside =>
    have waiting := sound.receiveWaitCF waits
    refine sound.receives rfl rfl (.inr ⟨waits,rfl,more,waiting.limit,?_,?_⟩)
    · simp only [collect]
      omega
    · have := waiting.blockCounter
      exact ⟨by simp only [collect]; omega,inside⟩
  | blockCompleted _ waits more blocks _ =>
    have waiting := sound.receiveWaitCF waits
    refine sound.receives rfl rfl (.inr ⟨waits,rfl,more,waiting.limit,?_,?_⟩)
    · simp only [completeBlock,collect]
      omega
    · exact ⟨Int.le_refl _,fun _ => blocks⟩
  | dequeueCancelled | sentSingle =>
    exact stopsSending.sends rfl rfl (.inl ⟨rfl,rfl,rfl,rfl,rfl,rfl,rfl,rfl⟩)
  | sentFirst rests _ several _ =>
    have waiting := startSending_waits sound rests several
    exact sound.sends rfl rfl (.inr (.inl ⟨rfl,rfl,waiting.timerSTmin,waiting.pending,waiting.seqNum,
      waiting.waitFrames⟩))
  | sentBlock transmits _ more _ _ =>
    refine sound.sends rfl rfl (.inr (.inl ⟨rfl,rfl,rfl,remaining more,?_,?_⟩))
    · simp only [endBlock,separated]
      omega
    · have waits := transmits.waitFrames
      simp only [endBlock,separated,waits]
      omega
  | sentNext transmits _ more inside =>
    refine sound.sends rfl rfl (.inr (.inr ⟨transmits.state,transmits.timerFC,rfl,remaining more,?_,?_,
      transmits.waitFrames⟩))
    · simp only [keepSending]
      omega
    · have := transmits.blockCounter
      exact ⟨by simp only [keepSending]; omega,inside⟩
  | submitted | consumed => exact sound.same rfl rfl sound.configured.txAddress
  | addressed valid => exact sound.same rfl rfl valid

end Session

theorem newSession_ok {address : Option Address} {cfg : Config} {fd : Bool} {s : Session}
    (created : newSession address cfg fd = .ok s) :
    ∃ target config, config.Valid ∧ target.txID ≤ 0x7FF ∧ target.rxID ≤ 0x7FF ∧
      s = .fresh target config fd := by
  unfold newSession at created
  cases normalized : normalizeConfig cfg with
  | error => simp [normalized] at created
  | ok config =>
    cases address with
    | none => simp [normalized] at created
    | some target =>
      cases valid : Address.validate (some target) with
      | error => simp [normalized,valid] at created
      | ok =>
        simp only [normalized,valid,Except.ok.injEq] at created
        obtain ⟨tx,rx⟩ := Address.validate_ok valid
        exact ⟨target,config,normalizeConfig_valid normalized,tx,rx,created.symm⟩

theorem newSession_rests {address : Option Address} {cfg : Config} {fd : Bool} {s : Session}
    (created : newSession address cfg fd = .ok s) : s.rxState ≠ .waitCF := by
  obtain ⟨_,_,_,_,_,rfl⟩ := newSession_ok created
  simp [Session.fresh]

theorem newSession_sound {address : Option Address} {cfg : Config} {fd : Bool} {s : Session}
    (created : newSession address cfg fd = .ok s) : s.Sound := by
  obtain ⟨target,config,valid,tx,rx,rfl⟩ := newSession_ok created
  refine ⟨⟨?_,valid,⟨tx,rx⟩,by simp [Session.fresh]⟩,
    .inl ⟨rfl,rfl,rfl,rfl,rfl,rfl⟩,.inl ⟨rfl,rfl,rfl,rfl,rfl,rfl,rfl,rfl⟩⟩
  cases fd <;> rfl

theorem Move.Step.transition {s t : Session} {move : Move} (sound : s.Sound)
    (step : Move.Step s move t) : s.Transition move.event move.outputs t :=
  Session.step_transition sound step.2.2

theorem run_sound {start s : Session} {moves : List Move} (sound : start.Sound)
    (run : Run Move.Step start moves s) : s.Sound :=
  run.invariant _ sound fun _ _ _ sound step => (step.transition sound).sound sound

/-- What holds of a session between two events. -/
structure Session.Unstuck (s : Session) : Prop where
  rxState : s.rxState = .idle ∨ s.rxState = .waitCF
  timerRxCF : s.timerRxCF.isSome ↔ s.rxState = .waitCF
  txState : s.txState = .idle ∨ s.txState = .waitFC ∨ s.txState = .transmit
  timerRxFC : s.timerRxFC.isSome ↔ s.txState = .waitFC
  timerTxSTmin : s.timerTxSTmin.isSome ↔ s.txState = .transmit
  waitCF : s.rxState = .waitCF →
    s.rxBuffer.length < s.rxFrameLen ∧ s.rxFrameLen ≤ s.config.maxPayloadSize ∧
      0 ≤ s.rxSeqNum ∧ s.rxSeqNum ≤ 15 ∧
      (0 < s.config.blockSize → s.rxBlockCounter < s.config.blockSize)
  sending : s.txState = .waitFC ∨ s.txState = .transmit →
    s.txBuffer ≠ [] ∧ 0 ≤ s.txSeqNum ∧ s.txSeqNum ≤ 15 ∧
      (0 ≤ s.config.maxWaitFrames → s.txWaitFrames ≤ s.config.maxWaitFrames)
  -- an STmin expiry finds the transmit state, bytes to send and an encodable sequence number
  expiry : ∀ outcome t outputs, s.step (.expireTxSTmin outcome) = some (t,outputs) →
    s.txState = .transmit ∧ s.txBuffer ≠ [] ∧
      ∀ chunk, ∃ data, createConsecutiveFramePayload chunk s.txSeqNum = .ok data
  encodes : ∀ event t outputs, s.step event = some (t,outputs) →
    ∀ error, Output.error error ∈ outputs → error.encoding = false

theorem Quiet.encoding {outputs : List Output} (quiet : Quiet outputs) {error : SessionError}
    (reported : Output.error error ∈ outputs) : error.encoding = false := by
  have member : error ∈ errors outputs :=
    List.mem_filterMap.mpr ⟨.error error,reported,rfl⟩
  have receiving := quiet.receiving error member
  cases encodes : error.encoding with
  | false => rfl
  | true => cases receiving.symm.trans (SessionError.sending_of_encoding encodes)

/-- No step reports that it could not encode a frame. -/
theorem Session.Transition.encodes {s t : Session} {event : Event} {outputs : List Output}
    (step : s.Transition event outputs t) {error : SessionError}
    (reported : Output.error error ∈ outputs) : error.encoding = false := by
  cases step with
  | unheard _ quiet | singleDropped _ _ quiet | firstRefused _ _ quiet | mismatched _ _ _ quiet
  | completedDropped _ _ _ _ quiet => exact quiet.encoding reported
  | single _ _ quiet =>
    exact quiet.encoding (by simpa using reported)
  | first _ _ _ quiet =>
    refine quiet.encoding ((List.mem_append.mp reported).resolve_right ?_)
    unfold Session.flow
    split_ifs <;> simp
  | refused _ _ _ _ unencoded =>
    cases List.mem_singleton.mp reported
    exact unencoded
  | blockCompleted =>
    unfold Session.flow at reported
    split_ifs at reported <;> simp at reported
  | consecutiveFrameTimeout | flowControlTimeout =>
    cases List.mem_singleton.mp reported
    rfl
  | _ => simp at reported

theorem Session.Sound.unstuck {s : Session} (sound : s.Sound) : s.Unstuck where
  rxState := sound.receiving.imp (·.state) (·.state)
  timerRxCF := by
    rcases sound.receiving with idle | waits
    · simp [idle.state,idle.timer]
    · simp [waits.state,waits.timer]
  txState := sound.sending.imp (·.state) (Or.imp (·.state) (·.state))
  timerRxFC := by
    rcases sound.sending with idle | waits | transmits
    · simp [idle.state,idle.timerFC]
    · simp [waits.state,waits.timerFC]
    · simp [transmits.state,transmits.timerFC]
  timerTxSTmin := by
    rcases sound.sending with idle | waits | transmits
    · simp [idle.state,idle.timerSTmin]
    · simp [waits.state,waits.timerSTmin]
    · simp [transmits.state,transmits.timerSTmin]
  waitCF := fun waits =>
    have waiting := sound.receiveWaitCF waits
    ⟨waiting.short,waiting.limit,waiting.seqNum.1,waiting.seqNum.2,waiting.blockCounter.2⟩
  sending := by
    intro busy
    rcases sound.sending with idle | waits | transmits
    · simp [idle.state] at busy
    · exact ⟨waits.pending,waits.seqNum.1,waits.seqNum.2,waits.waitFrames.2⟩
    · exact ⟨transmits.pending,transmits.seqNum.1,transmits.seqNum.2,
        fun limited => transmits.waitFrames ▸ limited⟩
  expiry := by
    intro outcome t outputs taken
    have transmits : s.SendTransmit := by
      cases Session.step_transition sound taken with
      | sendCancelled transmits => exact transmits
      | sentLast transmits => exact transmits
      | sentBlock transmits => exact transmits
      | sentNext transmits => exact transmits
    have range := transmits.seqNum
    refine ⟨transmits.state,transmits.pending,fun chunk => ?_⟩
    exact ⟨_,if_neg (by omega)⟩
  encodes := fun _ _ _ taken _ reported =>
    (Session.step_transition sound taken).encodes reported

/-- No session gets stuck, whatever events come in whatever order. -/
theorem reachable_unstuck {address : Option Address} {cfg : Config} {fd : Bool}
    {start s : Session} {moves : List Move} (created : newSession address cfg fd = .ok start)
    (run : Run Move.Step start moves s) : s.Unstuck :=
  (run_sound (newSession_sound created) run).unstuck

/-- Both halves of a session wait: a First Frame came in and a payload went out. -/
theorem reachable_unstuck_waiting :
    ∃ moves s, Run Move.Step (Session.fresh ⟨0x7E0,0x7E8⟩ defaultConfig false) moves s ∧
      s.rxState = .waitCF ∧ s.txState = .waitFC ∧ s.Unstuck := by
  have created : newSession (some ⟨0x7E0,0x7E8⟩) defaultConfig false =
      .ok (.fresh ⟨0x7E0,0x7E8⟩ defaultConfig false) := rfl
  have executed : (Session.fresh ⟨0x7E0,0x7E8⟩ defaultConfig false).execute
      [.send (List.replicate 20 7),.dequeue .queued,
        .frame ⟨0x7E8,[0x10,9,1,2,3,4,5,6],false⟩ .queued] = some _ := rfl
  have run := Session.execute_run executed
  exact ⟨_,_,run,rfl,rfl,reachable_unstuck created run⟩

end Canbuskit.Isotp
