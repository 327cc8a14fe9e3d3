import Canbuskit.Isotp.Stack
import Mathlib.Tactic.SplitIfs

/-! `Close` of a session. Nothing the goroutines wait for can keep them from returning once the
context is cancelled, and the two channels that `Close` closes are closed after they returned. -/
namespace Canbuskit.Isotp
open Can Channel Runs

/-- The select can take the case. -/
def Case.Ready (s : Session) : Case → Prop
  | .frame _ => True
  | .dequeue => s.txState = .idle ∧ s.txDataChan.buffer ≠ []
  | .expireRxCF => s.timerRxCF.isSome
  | .expireRxFC => s.timerRxFC.isSome
  | .expireTxSTmin => s.timerTxSTmin.isSome

theorem Case.ready_iff (s : Session) (chosen : Case) (outcome : SendOutcome) :
    chosen.Ready s ↔ (s.step (chosen.event outcome)).isSome := by
  cases chosen with
  | frame msg => simp [Ready,event,Session.step]
  | dequeue =>
    simp only [Ready,event,Session.step]
    by_cases rests : s.txState = .idle
    · rw [if_pos rests]
      cases queue : s.txDataChan.poll with
      | none => simp [Chan.poll_none queue]
      | some polled => simp [rests,(Chan.poll_some queue).1]
    · simp [rests]
  | expireRxCF => cases armed : s.timerRxCF <;> simp [Ready,event,Session.step,armed]
  | expireRxFC => cases armed : s.timerRxFC <;> simp [Ready,event,Session.step,armed]
  | expireTxSTmin =>
    cases armed : s.timerTxSTmin with
    | none => simp [Ready,event,Session.step,armed]
    | some delay =>
      simp only [Ready,event,Session.step,armed,Option.isSome_some,true_iff]
      split_ifs <;> rfl

namespace Session

variable {s t : Session} {outputs : List Output}

theorem flow_cancelled {status : FlowStatus} {passed : Bool}
    (flow : s.sendFlowControlContext status .cancelled = (passed,outputs)) : outputs = [] := by
  unfold sendFlowControlContext at flow
  split_ifs at flow <;> cases flow <;> rfl

theorem ite_frames {condition : Prop} [Decidable condition] {error : SessionError} :
    frames (if condition then [.error error] else []) = [] := by
  split_ifs <;> rfl

theorem first_cancelled (s : Session) (total : Int) (data : Bytes) :
    frames (s.handleRxFirstFrame total data .cancelled).2 = [] := by
  unfold handleRxFirstFrame
  extract_lets warned rests waits
  have quiet : frames warned = [] := ite_frames
  split_ifs
  · simp [quiet]
  · simp [quiet]
  · split <;> rename_i flow <;> simp [quiet,flow_cancelled flow]

theorem consecutive_cancelled (s : Session) (number : Int) (data : Bytes) :
    frames (s.handleRxConsecutiveFrame number data .cancelled).2 = [] := by
  unfold handleRxConsecutiveFrame
  extract_lets
  split_ifs
  · rfl
  · rfl
  · split <;> rfl
  · split <;> rename_i flow <;> rw [flow_cancelled flow] <;> rfl
  · rfl

theorem processRx_cancelled (s : Session) (msg : LinkFrame) :
    frames (s.processRx msg .cancelled).2 = [] := by
  unfold processRx
  split_ifs
  · rfl
  · split
    · rfl
    · unfold handleTxFlowControl
      dsimp only
      split_ifs <;> rfl
    · unfold handleRxSingleFrame
      dsimp only
      split <;> split_ifs <;> rfl
    · exact first_cancelled ..
    · exact consecutive_cancelled ..

theorem initiateTx_cancelled (s : Session) (payload : Bytes) :
    frames (s.initiateTx payload .cancelled).2 = [] := by
  unfold initiateTx
  extract_lets
  split
  · split <;> rfl
  · split <;> rfl

theorem handleTxTransmit_cancelled (s : Session) :
    frames (s.handleTxTransmit .cancelled).2 = [] := by
  unfold handleTxTransmit
  split
  · rfl
  · dsimp only
    split <;> rfl

/-- A handler whose context is cancelled gives its frame up. -/
theorem step_cancelled {chosen : Case} (taken : s.step (chosen.event .cancelled) = some (t,outputs)) :
    frames outputs = [] := by
  cases chosen with
  | frame msg =>
    obtain rfl : (s.processRx msg .cancelled).2 = outputs :=
      congrArg Prod.snd (Option.some.inj taken)
    exact processRx_cancelled s msg
  | dequeue =>
    simp only [Case.event,step] at taken
    split_ifs at taken
    split at taken
    · rename_i data channel _
      obtain rfl := congrArg Prod.snd (Option.some.inj taken)
      exact initiateTx_cancelled ..
    · contradiction
  | expireRxCF | expireRxFC =>
    simp only [Case.event,step] at taken
    split at taken
    · cases taken
      rfl
    · contradiction
  | expireTxSTmin =>
    simp only [Case.event,step] at taken
    split at taken
    · split_ifs at taken
      · cases taken
        rfl
      · obtain rfl := congrArg Prod.snd (Option.some.inj taken)
        exact handleTxTransmit_cancelled _
    · contradiction

/-- The callers of a session put nothing on its channels and leave the select's cases ready. -/
theorem called_step {event : Event} (called : event.called) (taken : s.step event = some (t,outputs)) :
    outputs = [] ∧ ∀ chosen : Case, chosen.Ready s → chosen.Ready t := by
  cases event with
  | frame | dequeue | expireRxCF | expireRxFC | expireTxSTmin => contradiction
  | send data =>
    simp only [step,sendContext] at taken
    split_ifs at taken
    · contradiction
    · simp only [Option.map_map,Option.map_eq_some_iff] at taken
      obtain ⟨channel,room,same⟩ := taken
      cases same
      refine ⟨rfl,?_⟩
      intro chosen ready
      cases chosen with
      | dequeue => exact ⟨ready.1,by simp [(Chan.offer_some room).1]⟩
      | _ => exact ready
  | receive =>
    simp only [step] at taken
    split at taken
    · cases taken
      exact ⟨rfl,fun chosen ready => by cases chosen <;> exact ready⟩
    · contradiction
  | setTxAddress address =>
    simp only [step,setTxAddress] at taken
    split at taken
    · rename_i next set
      cases taken
      refine ⟨rfl,?_⟩
      split at set
      · cases set
        exact fun chosen ready => by cases chosen <;> exact ready
      · split at set
        · contradiction
        · cases set
          exact fun chosen ready => by cases chosen <;> exact ready
    · contradiction

end Session

namespace Stack

/-- What the run loop holds can be handled, and the channels are closed after the goroutines
returned. -/
structure Sound (s : Stack) : Prop where
  ready : ∀ chosen, s.loop = .holding chosen → chosen.Ready s.session
  closed : s.closing = .closed →
    s.receiver = .returned ∧ s.loop = .returned ∧ s.transmitter = .returned

theorem start_sound (session : Session) (subscription : Nat) : (start session subscription).Sound :=
  ⟨by simp [start],by simp [start]⟩

variable {s t : Stack} {turn : Turn} {move : Option Move}

theorem Turns.sound (sound : s.Sound) (step : s.Turns turn move t) : t.Sound := by
  obtain ⟨ready,closed⟩ := sound
  cases step with
  | ignored waits | accepted waits | drained waits | passed holds =>
    exact ⟨ready,fun shut => by simp_all⟩
  | read waits queue =>
    refine ⟨?_,fun shut => by simp_all⟩
    intro chosen same
    cases same
    trivial
  | @selected chosen waits own takes =>
    refine ⟨?_,fun shut => by simp_all⟩
    intro other same
    cases same
    exact (Case.ready_iff _ _ _).mpr takes
  | finished holds => exact ⟨by simp,fun shut => by simp_all⟩
  | called called taken =>
    exact ⟨fun chosen holds => (Session.called_step called taken).2 chosen (ready chosen holds),closed⟩
  | taken waits | refused holds | checked holds | aborted holds | sent holds =>
    exact ⟨ready,fun shut => by simp_all⟩
  | cancelled | unsubscribed => exact ⟨ready,by simp⟩
  | leftReceive | leftTransmit => exact ⟨ready,fun shut => by simp_all⟩
  | leftRun => exact ⟨by simp,fun shut => by simp_all⟩
  | closed _ receiver loop transmitter => exact ⟨ready,fun _ => ⟨receiver,loop,transmitter⟩⟩

theorem run_sound {deeds : List Deed} (run : Run Deed.Step s deeds t) (sound : s.Sound) : t.Sound :=
  run.invariant Sound sound fun _ _ _ sound step => (react_turns step).sound sound

/-- Once the channels are closed only callers move, and they put nothing on them. -/
theorem Turns.after_close (sound : s.Sound) (shut : s.closing = .closed) (step : s.Turns turn move t) :
    t.closing = .closed ∧ (∃ event, turn = .call event) ∧ ∀ taken ∈ move, taken.outputs = [] := by
  obtain ⟨receiver,loop,transmitter⟩ := sound.closed shut
  cases step with
  | called called taken =>
    refine ⟨shut,⟨_,rfl⟩,?_⟩
    rintro _ ⟨⟩
    exact (Session.called_step called taken).1
  | leftReceive _ present => exact absurd receiver present
  | _ => simp_all

theorem run_after_close {deeds : List Deed} (run : Run Deed.Step s deeds t) (sound : s.Sound)
    (shut : s.closing = .closed) : ∀ deed ∈ deeds,
      (∃ event, deed.turn = .call event) ∧ ∀ taken ∈ deed.move, taken.outputs = [] := by
  suffices (t.Sound ∧ t.closing = .closed) ∧ ∀ deed ∈ deeds,
      (∃ event, deed.turn = .call event) ∧ ∀ taken ∈ deed.move, taken.outputs = [] from this.2
  induction run with
  | nil => exact ⟨⟨sound,shut⟩,by simp⟩
  | snoc _ last ih =>
    obtain ⟨⟨sound,shut⟩,quiet⟩ := ih
    have step := react_turns last
    obtain ⟨closed,called⟩ := step.after_close sound shut
    refine ⟨⟨step.sound sound,closed⟩,?_⟩
    intro deed member
    rcases List.mem_append.mp member with old | new
    · exact quiet deed old
    · rw [List.mem_singleton.mp new]
      exact called

end Stack

/-- The turns in which the goroutines give up what they wait for, and the rest of `Close`. -/
def Turn.leaving : Turn → Bool
  | .finish .cancelled => true
  | .check _ => true
  | .sent => true
  | .leave _ => true
  | .unsubscribe => true
  | .close => true
  | _ => false

namespace Stack

/-- Some run of at most so many leaving turns. -/
def Leaves (steps : Nat) (s t : Stack) : Prop :=
  ∃ deeds, Run Deed.Step s deeds t ∧ deeds.length ≤ steps ∧ ∀ deed ∈ deeds, deed.turn.leaving

variable {s t u : Stack} {steps more : Nat}

theorem Leaves.none (s : Stack) : Leaves 0 s s := ⟨[],.nil,Nat.le_refl 0,by simp⟩

theorem Leaves.one (turn : Turn) (move : Option Move) (taken : s.react turn = some (move,t))
    (leaving : turn.leaving) : Leaves 1 s t :=
  ⟨[⟨turn,move⟩],.single taken,Nat.le_refl 1,by simpa using leaving⟩

theorem Leaves.trans (first : Leaves steps s t) (second : Leaves more t u) :
    Leaves (steps + more) s u := by
  obtain ⟨early,run,short,leaving⟩ := first
  obtain ⟨late,rest,less,left⟩ := second
  refine ⟨early ++ late,run.append rest,?_,?_⟩
  · rw [List.length_append]
    omega
  · intro deed member
    exact (List.mem_append.mp member).elim (leaving deed) (left deed)

theorem Leaves.weaken (leaves : Leaves steps s t) (within : steps ≤ more) : Leaves more s t := by
  obtain ⟨deeds,run,short,leaving⟩ := leaves
  exact ⟨deeds,run,Nat.le_trans short within,leaving⟩

theorem receiver_leaves (cancelled : s.closing ≠ .running) :
    Leaves 1 s { s with receiver := .returned } := by
  by_cases gone : s.receiver = .returned
  · have same : { s with receiver := .returned } = s := by rw [← gone]
    rw [same]
    exact (Leaves.none s).weaken (Nat.zero_le 1)
  · exact .one (.leave .receive) none (by simp [react,cancelled,leave,gone]) rfl

theorem waiting_loop_leaves (cancelled : s.closing ≠ .running) (waits : s.loop = .waiting) :
    Leaves 1 s { s with loop := .returned } :=
  .one (.leave .run) none (by simp [react,cancelled,leave,waits]) rfl

/-- A handler that waits for room in `tx` gives its frame up, and the loop returns. -/
theorem loop_leaves (cancelled : s.closing ≠ .running) (sound : s.Sound) :
    ∃ session, Leaves 2 s { s with session := session, loop := .returned } := by
  cases holds : s.loop with
  | waiting => exact ⟨s.session,(waiting_loop_leaves cancelled holds).weaken (by omega)⟩
  | returned =>
    have same : { s with loop := .returned } = s := by rw [← holds]
    exact ⟨s.session,same ▸ (Leaves.none s).weaken (Nat.zero_le 2)⟩
  | holding chosen =>
    have ready := (Case.ready_iff s.session chosen .cancelled).mp (sound.ready chosen holds)
    obtain ⟨⟨session,outputs⟩,taken⟩ := Option.isSome_iff_exists.mp ready
    have handled : s.handle (chosen.event .cancelled) = some
        (⟨s.session,chosen.event .cancelled,outputs,session⟩,
          { s with session := session, loop := .waiting }) := by
      simp [handle,taken,Session.step_cancelled taken]
    have finishes : Leaves 1 s { s with session := session, loop := .waiting } :=
      .one (.finish .cancelled) _ (by simp [react,holds,cancelled,handled]; rfl) rfl
    exact ⟨session,finishes.trans (waiting_loop_leaves cancelled rfl)⟩

theorem waiting_transmitter_leaves (cancelled : s.closing ≠ .running)
    (waits : s.transmitter = .waiting) : Leaves 1 s { s with transmitter := .returned } :=
  .one (.leave .transmit) none (by simp [react,cancelled,leave,waits]) rfl

theorem transmitter_leaves (cancelled : s.closing ≠ .running) :
    Leaves 2 s { s with transmitter := .returned } := by
  cases holds : s.transmitter with
  | waiting => exact (waiting_transmitter_leaves cancelled holds).weaken (by omega)
  | returned =>
    have same : { s with transmitter := .returned } = s := by rw [← holds]
    exact same ▸ (Leaves.none s).weaken (Nat.zero_le 2)
  | holding item =>
    have gives : Leaves 1 s { s with transmitter := .waiting } := by
      cases item with
      | taken msg =>
        refine .one (.check false) none ?_ rfl
        cases built : toCANFrame false msg <;> simp [react,holds,check,built,cancelled]
      | checked frame => exact .one .sent none (by simp [react,holds]) rfl
    exact gives.trans (waiting_transmitter_leaves cancelled rfl)

/-- `Close` after `wg.Wait`. -/
theorem closer_finishes (cancelled : s.closing ≠ .running) (receiver : s.receiver = .returned)
    (loop : s.loop = .returned) (transmitter : s.transmitter = .returned) :
    Leaves 2 s { s with closing := .closed } := by
  cases stage : s.closing with
  | running => contradiction
  | cancelled =>
    have first : Leaves 1 s { s with closing := .unsubscribed } :=
      .one .unsubscribe none (by simp [react,stage]) rfl
    have second : Leaves 1 { s with closing := .unsubscribed } { s with closing := .closed } :=
      .one .close none (by simp [react,receiver,loop,transmitter]) rfl
    exact first.trans second
  | unsubscribed =>
    exact (Leaves.one .close none
      (by simp [react,stage,receiver,loop,transmitter]) rfl).weaken (by omega)
  | closed =>
    have same : { s with closing := .closed } = s := by rw [← stage]
    exact same ▸ (Leaves.none s).weaken (Nat.zero_le 2)

theorem leaves_closed (cancelled : s.closing ≠ .running) (sound : s.Sound) :
    ∃ t, Leaves 7 s t ∧ t.closing = .closed := by
  have first := receiver_leaves cancelled
  have kept : ({ s with receiver := .returned } : Stack).Sound :=
    ⟨sound.ready,fun shut => ⟨rfl,(sound.closed shut).2⟩⟩
  obtain ⟨session,second⟩ := loop_leaves (s := { s with receiver := .returned }) cancelled kept
  have third := transmitter_leaves
    (s := { s with receiver := .returned, session := session, loop := .returned }) cancelled
  have last := closer_finishes
    (s := { s with
      receiver := .returned, session := session, loop := .returned, transmitter := .returned })
    cancelled rfl rfl rfl
  exact ⟨_,((first.trans second).trans third).trans last,rfl⟩

end Stack

/-- `Close` cannot hang and the goroutines cannot send on what it closed: from every state in which
it was called seven turns of the goroutines' own are enough for it to end, and after the channels
are closed nothing but the callers of the session moves. -/
theorem close_completes {session : Session} {subscription : Nat} {deeds : List Deed} {s : Stack}
    (run : Run Deed.Step (Stack.start session subscription) deeds s) :
    (s.closing ≠ .running → ∃ t, Stack.Leaves 7 s t ∧ t.closing = .closed) ∧
      ∀ past move later, deeds = past ++ ⟨.close,move⟩ :: later → ∀ deed ∈ later,
        (∃ event, deed.turn = .call event) ∧ ∀ taken ∈ deed.move, taken.outputs = [] := by
  have initially := Stack.start_sound session subscription
  refine ⟨fun cancelled => Stack.leaves_closed cancelled (Stack.run_sound run initially),?_⟩
  rintro past move later rfl
  obtain ⟨before,after,earlier,closes,rest⟩ := run.cut
  have step := Stack.react_turns closes
  have sound := step.sound (Stack.run_sound earlier initially)
  refine Stack.run_after_close rest sound ?_
  cases step
  rfl

/-- A frame is inside the driver's `Send`. -/
def Stack.sending (s : Stack) : Bool :=
  match s.transmitter with
  | .holding (.checked _) => true
  | _ => false

/-- `Close` is called while the First Frame of ten bytes is inside the driver's `Send`. -/
theorem close_completes_sending :
    ∃ deeds s, Run Deed.Step (Stack.start (.fresh ⟨0x7E0,0x7E8⟩ defaultConfig false) 2) deeds s ∧
      s.session.txState = .waitFC ∧ s.sending ∧ ∃ t, Stack.Leaves 7 s t ∧ t.closing = .closed := by
  have executed : ((Stack.start (.fresh ⟨0x7E0,0x7E8⟩ defaultConfig false) 2).execute
      [.call (.send (List.replicate 10 7)),.select .dequeue,.finish .queued,.take,.check false,
        .cancel]).map (fun result => (result.2.closing,result.2.session.txState,result.2.sending)) =
      some (.cancelled,.waitFC,true) := by
    decide +kernel
  obtain ⟨⟨deeds,s⟩,executed,observed⟩ := Option.map_eq_some_iff.mp executed
  simp only [Prod.mk.injEq] at observed
  obtain ⟨closing,waits,sends⟩ := observed
  have run := Stack.execute_run executed
  exact ⟨deeds,s,run,waits,sends,(close_completes run).1 (by simp [closing])⟩

end Canbuskit.Isotp
