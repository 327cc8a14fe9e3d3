import Canbuskit.Isotp.SessionInvariant
import Canbuskit.Lib.Reassembly

/-! The receive half follows the segment receiver with sixteen continuation numbers, so
what a session delivers is determined by the history of the frames meant for it. -/
namespace Canbuskit.Isotp
open Can Channel Runs Segmentation

def PDU.segment? : PDU → Option (Segment UInt8)
  | .singleFrame data => some (.single data)
  | .firstFrame totalSize data => some (.first totalSize.toNat data)
  | .consecutiveFrame sequenceNumber data => some (.next sequenceNumber.toNat data)
  | .flowControlFrame _ _ _ => none

def Session.reception (s : Session) : Reception UInt8 :=
  if s.rxState = .waitCF then .waiting s.rxFrameLen.toNat s.rxBuffer s.rxSeqNum.toNat else .idle

namespace Move

/-- What the receive half takes from a move: a Single, First or Consecutive Frame meant for
this address, the reset by the N_Cr timer, or nothing. -/
def received (move : Move) : Option (Option (Segment UInt8)) :=
  match move.event with
  | .frame msg _ => ((move.before.hears msg).bind PDU.segment?).map some
  | .expireRxCF => some none
  | _ => none

def delivered (move : Move) : Option Bytes := (payloads move.outputs).head?

def reading (move : Move) : Option (Option (Segment UInt8) × Option Bytes) :=
  move.received.map fun input => (input,move.delivered)

end Move

namespace Session

theorem SameReceive.reception {s t : Session} (same : s.SameReceive t) :
    t.reception = s.reception := by
  rw [same]
  rfl

theorem reception_idle {s : Session} (rests : s.rxState ≠ .waitCF) : s.reception = .idle :=
  if_neg rests

theorem reception_waiting {s : Session} (waits : s.rxState = .waitCF) :
    s.reception = .waiting s.rxFrameLen.toNat s.rxBuffer s.rxSeqNum.toNat :=
  if_pos waits

theorem flow_payloads (s : Session) : payloads s.flow = [] := by
  unfold flow
  split_ifs <;> rfl

theorem receive_next {s : Session} (waiting : s.ReceiveWaitCF) (data : Bytes) :
    receive 16 s.reception (.next s.rxSeqNum.toNat data) =
      if s.rxFrameLen ≤ (s.joined data).length then (.idle,some (s.joined data))
      else (.waiting s.rxFrameLen.toNat (s.joined data) ((s.rxSeqNum + 1) % 16).toNat,none) := by
  have short := waiting.short
  have range := waiting.seqNum
  have cut : (s.rxFrameLen - s.rxBuffer.length).toNat = s.rxFrameLen.toNat - s.rxBuffer.length := by
    omega
  have number : (s.rxSeqNum.toNat + 1) % 16 = ((s.rxSeqNum + 1) % 16).toNat := by omega
  rw [reception_waiting waiting.state]
  simp only [receive,ne_eq,not_true_eq_false,if_false,← cut,← joined_eq,number]
  by_cases whole : s.rxFrameLen ≤ (s.joined data).length
  · rw [if_pos whole,if_pos (by omega)]
  · rw [if_neg whole,if_neg (by omega)]

/-- One step of a session is one step of the segment receiver, or none of its business. -/
theorem Transition.reads {s t : Session} {event : Event} {outputs : List Output}
    (sound : s.Sound) (step : s.Transition event outputs t) :
    payloads outputs = (Move.delivered ⟨s,event,outputs,t⟩).toList ∧
      match Move.received ⟨s,event,outputs,t⟩ with
      | some input =>
        Receive 16 s.reception (input,Move.delivered ⟨s,event,outputs,t⟩) t.reception
      | none => t.reception = s.reception ∧ Move.delivered ⟨s,event,outputs,t⟩ = none := by
  have stopped : s.stopReceiving.reception = .idle := reception_idle (by simp [stopReceiving])
  cases step with
  | unheard heard quiet =>
    simp [Move.received,Move.delivered,heard,quiet.payloads]
  | flowIgnored heard => simp [Move.received,Move.delivered,heard,PDU.segment?]
  | granted heard | delayed heard | refused heard =>
    simp only [Move.received,Move.delivered,heard,PDU.segment?,Option.bind_some,Option.map_none]
    exact ⟨rfl,SameReceive.reception rfl,rfl⟩
  | @single _ _ data _ _ heard _ quiet =>
    simp only [Move.received,Move.delivered,heard,PDU.segment?,Option.bind_some,Option.map_some,
      payloads_append,quiet.payloads]
    exact ⟨rfl,.accept s.reception (.single data)⟩
  | @singleDropped _ _ data _ heard _ quiet =>
    simp only [Move.received,Move.delivered,heard,PDU.segment?,Option.bind_some,Option.map_some,
      quiet.payloads,stopped]
    exact ⟨rfl,.abandon _ _⟩
  | @first _ _ totalSize data _ heard proper _ quiet =>
    simp only [Move.received,Move.delivered,heard,PDU.segment?,Option.bind_some,Option.map_some,
      payloads_append,quiet.payloads,flow_payloads]
    have opened : receive 16 s.reception (.first totalSize.toNat data) =
        ((s.startReceiving totalSize data).reception,none) := by
      rw [reception_waiting (s := s.startReceiving totalSize data) rfl]
      simp only [receive,startReceiving]
      rw [if_neg (by omega)]
      rfl
    have accepted : Receive 16 _ _ _ := .accept s.reception (.first totalSize.toNat data)
    rw [opened] at accepted
    exact ⟨rfl,accepted⟩
  | firstRefused heard _ quiet | mismatched heard _ _ quiet | completedDropped heard _ _ _ quiet =>
    simp only [Move.received,Move.delivered,heard,PDU.segment?,Option.bind_some,Option.map_some,
      quiet.payloads,stopped]
    exact ⟨rfl,.abandon _ _⟩
  | blockCancelled heard =>
    simp only [Move.received,Move.delivered,heard,PDU.segment?,Option.bind_some,Option.map_some,
      payloads_nil,stopped]
    exact ⟨rfl,.abandon _ _⟩
  | nextIgnored heard rests =>
    simp only [Move.received,Move.delivered,heard,PDU.segment?,Option.bind_some,Option.map_some,
      payloads_nil,reception_idle rests]
    exact ⟨rfl,.abandon _ _⟩
  | @completed _ _ data _ heard waits whole _ =>
    simp only [Move.received,Move.delivered,heard,PDU.segment?,Option.bind_some,Option.map_some]
    have accepted : Receive 16 _ _ _ := .accept s.reception (.next s.rxSeqNum.toNat data)
    rw [receive_next (sound.receiveWaitCF waits),if_pos whole] at accepted
    exact ⟨rfl,accepted⟩
  | @collected _ _ data heard waits more _ =>
    simp only [Move.received,Move.delivered,heard,PDU.segment?,Option.bind_some,Option.map_some]
    have accepted : Receive 16 _ _ _ := .accept s.reception (.next s.rxSeqNum.toNat data)
    rw [receive_next (sound.receiveWaitCF waits),if_neg (by omega)] at accepted
    refine ⟨rfl,?_⟩
    rw [show (s.collect data).reception = _ from reception_waiting waits]
    exact accepted
  | @blockCompleted _ _ data heard waits more _ _ =>
    simp only [Move.received,Move.delivered,heard,PDU.segment?,Option.bind_some,Option.map_some,
      flow_payloads]
    have accepted : Receive 16 _ _ _ := .accept s.reception (.next s.rxSeqNum.toNat data)
    rw [receive_next (sound.receiveWaitCF waits),if_neg (by omega)] at accepted
    refine ⟨rfl,?_⟩
    rw [show (s.completeBlock data).reception = _ from reception_waiting waits]
    exact accepted
  | consecutiveFrameTimeout =>
    refine ⟨rfl,?_⟩
    simp only [Move.received,Move.delivered,payloads_error,stopped]
    exact .reset _
  | dequeueCancelled | sentSingle | sentFirst | flowControlTimeout | sendCancelled | sentLast |
      sentBlock | sentNext | submitted | consumed | addressed =>
    exact ⟨rfl,SameReceive.reception rfl,rfl⟩

end Session

theorem Move.Step.reads {s t : Session} {move : Move} (sound : s.Sound)
    (step : Move.Step s move t) :
    payloads move.outputs = move.delivered.toList ∧
      match move.received with
      | some input => Receive 16 s.reception (input,move.delivered) t.reception
      | none => t.reception = s.reception ∧ move.delivered = none := by
  obtain ⟨rfl,rfl,taken⟩ := step
  exact (Session.step_transition sound taken).reads sound

/-- A run of a session is a run of the segment receiver over what the moves received. -/
theorem reception_run {start s : Session} {moves : List Move} (sound : start.Sound)
    (run : Run Move.Step start moves s) :
    Run (Receive 16) start.reception (moves.filterMap Move.reading) s.reception := by
  obtain ⟨_,follows,_,rfl⟩ := Run.simulate (Receive 16)
    (fun s reception => s.Sound ∧ s.reception = reception) Move.reading run ⟨sound,rfl⟩ (by
      rintro s move t _ ⟨sound,rfl⟩ step
      have after := (step.transition sound).sound sound
      have reads := (step.reads sound).2
      cases received : move.received with
      | none =>
        simp only [Move.reading,received,Option.map_none] at reads ⊢
        exact ⟨after,reads.1⟩
      | some input =>
        simp only [Move.reading,received,Option.map_some] at reads ⊢
        exact ⟨_,reads,after,rfl⟩)
  exact follows

theorem Session.Transition.first_accepted {s t : Session} {event : Event} {outputs : List Output}
    {total : Nat} {head : Bytes} (step : s.Transition event outputs t)
    (first : Move.received ⟨s,event,outputs,t⟩ = some (some (.first total head)))
    (waits : t.rxState = .waitCF) :
    head.length < total ∧ (total : Int) ≤ s.config.maxPayloadSize := by
  cases step with
  | unheard heard | flowIgnored heard | granted heard | delayed heard | refused heard
  | single heard | singleDropped heard | nextIgnored heard | mismatched heard | completed heard
  | completedDropped heard | collected heard | blockCompleted heard | blockCancelled heard =>
    simp [Move.received,heard,PDU.segment?] at first
  | firstRefused => simp [Session.stopReceiving] at waits
  | first heard proper limit _ =>
    simp only [Move.received,heard,PDU.segment?,Option.bind_some,Option.map_some,Option.some.injEq,
      Segment.first.injEq] at first
    obtain ⟨rfl,rfl⟩ := first
    omega
  | _ => simp [Move.received] at first

theorem Move.Step.first_accepted {s t : Session} {move : Move} {total : Nat} {head : Bytes}
    (sound : s.Sound) (step : Move.Step s move t)
    (first : move.received = some (some (.first total head))) (waits : t.rxState = .waitCF) :
    head.length < total ∧ (total : Int) ≤ s.config.maxPayloadSize := by
  obtain ⟨rfl,rfl,taken⟩ := step
  exact (Session.step_transition sound taken).first_accepted first waits

/-- How a delivered payload came about: from the Single Frame being processed, or from an
accepted First Frame and everything received since, which are the Consecutive Frames in
number. -/
def Assembled (past : List Move) (move : Move) (data : Bytes) : Prop :=
  move.received = some (some (.single data)) ∨
    ∃ before first between, ∃ total : Nat, ∃ head chunks, past = before ++ first :: between ∧
      first.received = some (some (.first total head)) ∧ first.after.rxState = .waitCF ∧
      head.length < total ∧ (total : Int) ≤ first.before.config.maxPayloadSize ∧
      (between ++ [move]).filterMap Move.received = (continuations 16 chunks).map some ∧
      data.length = total ∧ data = (head ++ chunks.flatten).take total

/-- A First Frame and what follows it up to the next Single or First Frame. -/
def OncePerFirst (moves : List Move) : Prop :=
  ∀ before first between later total head, moves = before ++ first :: (between ++ later) →
    first.received = some (some (.first total head)) →
    (∀ move ∈ between, ∀ data, move.received ≠ some (some (.single data))) →
    (∀ move ∈ between, ∀ total data, move.received ≠ some (some (.first total data))) →
    ((first :: between).flatMap fun move => payloads move.outputs).length ≤ 1

theorem opens_reading {moves : List Move}
    (single : ∀ move ∈ moves, ∀ data, move.received ≠ some (some (.single data)))
    (first : ∀ move ∈ moves, ∀ total data, move.received ≠ some (some (.first total data))) :
    ∀ label ∈ moves.filterMap Move.reading, ¬ opens label := by
  intro label member opening
  obtain ⟨move,inside,reads⟩ := List.mem_filterMap.mp member
  obtain ⟨input,received,rfl⟩ := Option.map_eq_some_iff.mp reads
  cases input with
  | none => exact opening
  | some segment =>
    cases segment with
    | single data => exact single move inside data received
    | first total data => exact first move inside total data received
    | next => exact opening

/-- The payloads put out in a run are the deliveries of the segment receiver. -/
theorem run_payloads {start s : Session} {moves : List Move} (sound : start.Sound)
    (run : Run Move.Step start moves s) :
    (moves.flatMap fun move => payloads move.outputs) =
      (moves.filterMap Move.reading).filterMap Prod.snd := by
  induction run with
  | nil => rfl
  | @snoc moves move s _ before step ih =>
    obtain ⟨out,reads⟩ := step.reads (run_sound sound before)
    rw [List.flatMap_append,List.filterMap_append,List.filterMap_append,ih]
    congr 1
    simp only [List.flatMap_cons,List.flatMap_nil,List.append_nil,out]
    cases received : move.received with
    | none =>
      rw [received] at reads
      simp [Move.reading,received,reads.2]
    | some input => cases delivered : move.delivered <;> simp [Move.reading,received,delivered]

theorem run_once {start s : Session} {moves : List Move} (sound : start.Sound)
    (run : Run Move.Step start moves s) : OncePerFirst moves := by
  rintro before first between later total head rfl received noSingle noFirst
  obtain ⟨middle,toMiddle,fromMiddle⟩ := run.split
  obtain ⟨opened,step,rest⟩ := fromMiddle.cons_inv
  have soundMiddle := run_sound sound toMiddle
  obtain ⟨_,collecting,_⟩ := rest.split
  have soundOpened := (step.transition soundMiddle).sound soundMiddle
  obtain ⟨out,reads⟩ := step.reads soundMiddle
  -- a First Frame itself delivers nothing
  have silent : payloads first.outputs = [] := by
    rw [received] at reads
    rw [out]
    cases delivered : first.delivered with
    | none => rfl
    | some data =>
      rw [delivered] at reads
      simpa using reads.delivered_inv.2
  rw [List.flatMap_cons,silent,List.nil_append,run_payloads soundOpened collecting]
  exact (one_delivery (reception_run soundOpened collecting) (opens_reading noSingle noFirst)).1

theorem run_silent {start s : Session} {moves : List Move} (sound : start.Sound)
    (rests : start.rxState ≠ .waitCF) (run : Run Move.Step start moves s)
    (single : ∀ move ∈ moves, ∀ data, move.received ≠ some (some (.single data)))
    (first : ∀ move ∈ moves, ∀ total data, move.received ≠ some (some (.first total data))) :
    (moves.flatMap fun move => payloads move.outputs) = [] := by
  have follows := reception_run sound run
  rw [Session.reception_idle rests] at follows
  rw [run_payloads sound run]
  exact (Segmentation.idle_silent follows (opens_reading single first)).2

theorem received_reading (moves : List Move) :
    moves.filterMap Move.received = (moves.filterMap Move.reading).map Prod.fst := by
  rw [List.map_filterMap]
  congr 1
  funext move
  cases received : move.received <;> simp [Move.reading,received]

theorem Move.Step.delivers {s t : Session} {move : Move} {data : Bytes} (sound : s.Sound)
    (step : Move.Step s move t) (out : .payload data ∈ move.outputs) :
    ∃ input, move.reading = some (input,some data) := by
  obtain ⟨outputs,reads⟩ := step.reads sound
  have delivered : move.delivered = some data := by
    have member : data ∈ payloads move.outputs := List.mem_filterMap.mpr ⟨_,out,rfl⟩
    rw [outputs] at member
    simpa using member
  cases received : move.received with
  | none => simp [received,delivered] at reads
  | some input => exact ⟨input,by simp [Move.reading,received,delivered]⟩

theorem run_assembled {start s : Session} {past : List Move} {move : Move} {data : Bytes}
    (sound : start.Sound) (rests : start.rxState ≠ .waitCF)
    (run : Run Move.Step start (past ++ [move]) s) (out : .payload data ∈ move.outputs) :
    Assembled past move data := by
  obtain ⟨middle,toMiddle,step⟩ := run.snoc_inv
  obtain ⟨input,reading⟩ := step.delivers (run_sound sound toMiddle) out
  have labels : (past ++ [move]).filterMap Move.reading =
      past.filterMap Move.reading ++ [(input,some data)] := by
    simp [reading]
  obtain ⟨_,received,same⟩ := Option.map_eq_some_iff.mp reading
  obtain ⟨rfl,_⟩ := Prod.mk.inj same
  have follows := reception_run sound run
  rw [labels,Session.reception_idle rests] at follows
  rcases delivery_history follows with
    rfl | ⟨early,total,head,chunks,chunk,history,rfl,_,length,content⟩
  · exact .inl received
  obtain ⟨front,back,rfl,_,collected⟩ := List.filterMap_eq_append_iff.mp history
  obtain ⟨skipped,first,between,rfl,_,opened,continued⟩ := List.filterMap_eq_cons_iff.mp collected
  obtain ⟨_,firstReceived,firstLabel⟩ := Option.map_eq_some_iff.mp opened
  obtain ⟨rfl,_⟩ := Prod.mk.inj firstLabel
  have inputs : (between ++ [move]).filterMap Move.received =
      (continuations 16 (chunks ++ [chunk])).map some := by
    rw [received_reading,List.filterMap_append,continued,continuations_snoc]
    simp [reading]
  have whole : front ++ (skipped ++ first :: between) ++ [move] =
      (front ++ skipped) ++ first :: (between ++ [move]) := by simp
  rw [whole] at run
  obtain ⟨before,toFirst,after⟩ := run.split
  obtain ⟨opened,step,rest⟩ := after.cons_inv
  have soundBefore := run_sound sound toFirst
  have continuing : ∀ other ∈ between ++ [move], ∀ segment, other.received = some (some segment) →
      ∃ number data, segment = .next number data := by
    intro other inside segment same
    have member : some segment ∈ (between ++ [move]).filterMap Move.received :=
      List.mem_filterMap.mpr ⟨other,inside,same⟩
    rw [inputs] at member
    exact mem_continuations (by simpa using member)
  -- had the First Frame been refused, the session would have stayed silent
  have waits : opened.rxState = .waitCF := by
    by_contra refused
    have silent := run_silent ((step.transition soundBefore).sound soundBefore) refused rest
      (fun other inside data same => by simpa using continuing other inside _ same)
      (fun other inside total data same => by simpa using continuing other inside _ same)
    have member : data ∈ (between ++ [move]).flatMap fun other => payloads other.outputs :=
      List.mem_flatMap.mpr ⟨move,by simp,List.mem_filterMap.mpr ⟨_,out,rfl⟩⟩
    rw [silent] at member
    contradiction
  obtain ⟨proper,limit⟩ := step.first_accepted soundBefore firstReceived waits
  obtain ⟨rfl,rfl,_⟩ := step
  exact .inr ⟨front ++ skipped,first,between,total,head,chunks ++ [chunk],by simp,firstReceived,
    waits,proper,limit,inputs,length,content⟩

/-- Receiver safety, whatever arrives: every payload a session ever puts out is assembled
from the frames it received, and no First Frame yields more than one. -/
theorem receiver_safety {address : Option Address} {cfg : Config} {fd : Bool} {start s : Session}
    {moves : List Move} (created : newSession address cfg fd = .ok start)
    (run : Run Move.Step start moves s) :
    (∀ past move later data, moves = past ++ move :: later → .payload data ∈ move.outputs →
      Assembled past move data) ∧ OncePerFirst moves := by
  have sound := newSession_sound created
  refine ⟨?_,run_once sound run⟩
  rintro past move later data rfl out
  have shape : past ++ move :: later = (past ++ [move]) ++ later := by simp
  rw [shape] at run
  obtain ⟨_,here,_⟩ := run.split
  exact run_assembled sound (newSession_rests created) here out

/-- A transfer of nine bytes into a session with the default configuration. -/
theorem receiver_safety_transfer :
    ∃ moves s, Run Move.Step (Session.fresh ⟨0x7E0,0x7E8⟩ defaultConfig false) moves s ∧
      moves.flatMap (fun move => payloads move.outputs) = [[1,2,3,4,5,6,7,8,9]] ∧
      (∀ past move later data, moves = past ++ move :: later → .payload data ∈ move.outputs →
        Assembled past move data) ∧ OncePerFirst moves := by
  have created : newSession (some ⟨0x7E0,0x7E8⟩) defaultConfig false =
      .ok (.fresh ⟨0x7E0,0x7E8⟩ defaultConfig false) := rfl
  have executed : (Session.fresh ⟨0x7E0,0x7E8⟩ defaultConfig false).execute
      [.frame ⟨0x7E8,[0x10,9,1,2,3,4,5,6],false⟩ .queued,.frame ⟨0x7E9,[0x21,0],false⟩ .queued,
        .frame ⟨0x7E8,[0x21,7,8,9,0xCC],false⟩ .queued] = some _ := rfl
  have run := Session.execute_run executed
  exact ⟨_,_,run,rfl,receiver_safety created run⟩

end Canbuskit.Isotp
