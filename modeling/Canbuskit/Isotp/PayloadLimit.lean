import Canbuskit.Isotp.Receiver

/-! The limit on the payloads in a session's two queues. A sender and a First Frame are held to
it; a Single Frame is not, and so the limit binds as long as none that comes in is longer. -/
namespace Canbuskit.Isotp
open Can Channel Runs

namespace Move

def submitted (move : Move) : List Bytes :=
  match move.event with
  | .send data => [data]
  | _ => []

/-- The payloads that a step puts on the transmit queue or on the receive channel. -/
def queued (move : Move) : List Bytes := move.submitted ++ payloads move.outputs

/-- A Single Frame that comes in while the receive channel has room is not too long. -/
def WithinLimit (move : Move) : Prop :=
  ∀ msg outcome data, move.event = .frame msg outcome →
    move.before.hears msg = some (.singleFrame data) →
    move.before.rxDataChan.buffer.length < move.before.rxDataChan.capacity →
    data.length ≤ move.before.config.maxPayloadSize

end Move

namespace Session

/-- What waits in the two queues. -/
def waiting (s : Session) : List Bytes := s.rxDataChan.buffer ++ s.txDataChan.buffer

def HoldsLimit (s : Session) : Prop := ∀ data ∈ s.waiting, data.length ≤ s.config.maxPayloadSize

section step

variable {s t : Session} {event : Event} {outputs : List Output}

theorem Transition.config (step : s.Transition event outputs t) : t.config = s.config := by
  cases step <;> rfl

theorem Transition.waiting (step : s.Transition event outputs t) {data : Bytes}
    (waits : data ∈ t.waiting) : data ∈ s.waiting ∨ data ∈ Move.queued ⟨s,event,outputs,t⟩ := by
  rw [Session.waiting,List.mem_append] at waits
  rw [Session.waiting,List.mem_append]
  cases step with
  | single _ room quiet =>
    have shape := (Chan.offer_some room).1
    rcases waits with received | submitted
    · rw [shape,List.mem_append,List.mem_singleton] at received
      rcases received with old | rfl
      · exact .inl (.inl old)
      · exact .inr (by simp [Move.queued,Move.submitted])
    · exact .inl (.inr submitted)
  | completed _ _ _ room =>
    have shape := (Chan.offer_some room).1
    rcases waits with received | submitted
    · rw [shape,List.mem_append,List.mem_singleton] at received
      rcases received with old | rfl
      · exact .inl (.inl old)
      · exact .inr (by simp [Move.queued,Move.submitted])
    · exact .inl (.inr submitted)
  | submitted _ room =>
    have shape := (Chan.offer_some room).1
    rcases waits with received | submitted
    · exact .inl (.inl received)
    · rw [shape,List.mem_append,List.mem_singleton] at submitted
      rcases submitted with old | rfl
      · exact .inl (.inr old)
      · exact .inr (by simp [Move.queued,Move.submitted])
  | dequeueCancelled _ queue | sentSingle _ queue | sentFirst _ queue =>
    have shape := (Chan.poll_some queue).1
    rcases waits with received | submitted
    · exact .inl (.inl received)
    · exact .inl (.inr (shape ▸ List.mem_cons_of_mem _ submitted))
  | consumed queue =>
    have shape := (Chan.poll_some queue).1
    rcases waits with received | submitted
    · exact .inl (.inl (shape ▸ List.mem_cons_of_mem _ received))
    · exact .inl (.inr submitted)
  | _ => exact .inl waits

theorem limit_iff_of_other (short : ∀ data ∈ Move.queued ⟨s,event,outputs,t⟩,
      data.length ≤ s.config.maxPayloadSize)
    (other : ∀ msg outcome data, event = .frame msg outcome →
      s.hears msg = some (.singleFrame data) → s.rxDataChan.offer data = none) :
    (∀ data ∈ Move.queued ⟨s,event,outputs,t⟩, data.length ≤ s.config.maxPayloadSize) ↔
      Move.WithinLimit ⟨s,event,outputs,t⟩ := by
  refine iff_of_true short ?_
  intro msg outcome data taken heard room
  obtain ⟨channel,offered,_⟩ := Chan.offer_room data room
  rw [other msg outcome data taken heard] at offered
  cases offered

theorem hears_other {msg : LinkFrame} {outcome : SendOutcome} {pdu : Option PDU}
    (heard : s.hears msg = pdu) (other : ∀ data, pdu ≠ some (.singleFrame data)) :
    ∀ msg' outcome' data, Event.frame msg outcome = .frame msg' outcome' →
      s.hears msg' = some (.singleFrame data) → s.rxDataChan.offer data = none := by
  intro msg' outcome' data taken heard'
  cases taken
  exact absurd (heard.symm.trans heard') (other data)

theorem Transition.limit_iff (sound : s.Sound) (step : s.Transition event outputs t) :
    (∀ data ∈ Move.queued ⟨s,event,outputs,t⟩, data.length ≤ s.config.maxPayloadSize) ↔
      Move.WithinLimit ⟨s,event,outputs,t⟩ := by
  have none_queued (silent : Move.queued ⟨s,event,outputs,t⟩ = []) :
      ∀ data ∈ Move.queued ⟨s,event,outputs,t⟩, data.length ≤ s.config.maxPayloadSize := by
    simp [silent]
  cases step with
  | @single msg outcome data channel warned heard room quiet =>
    have queued : Move.queued ⟨s,.frame msg outcome,warned ++ [.payload data],
        { s.stopReceiving with rxDataChan := channel }⟩ = [data] := by
      simp [Move.queued,Move.submitted,quiet.payloads]
    rw [queued]
    constructor
    · intro limit _ _ other taken heard' _
      cases taken
      cases Option.some.inj (heard.symm.trans heard')
      exact limit data (List.mem_singleton_self data)
    · intro within other member
      cases List.mem_singleton.mp member
      refine within msg outcome data rfl heard ?_
      by_contra full
      rw [Chan.offer,dif_neg full] at room
      cases room
  | unheard heard quiet =>
    exact limit_iff_of_other (none_queued quiet.payloads) (hears_other heard (by simp))
  | flowIgnored heard | granted heard | delayed heard | refused heard | nextIgnored heard
  | collected heard | blockCancelled heard =>
    exact limit_iff_of_other (none_queued rfl) (hears_other heard (by simp))
  | singleDropped heard full quiet =>
    refine limit_iff_of_other (none_queued quiet.payloads) ?_
    intro _ _ data taken heard'
    cases taken
    cases Option.some.inj (heard.symm.trans heard')
    exact full
  | firstRefused heard _ quiet | mismatched heard _ _ quiet | completedDropped heard _ _ _ quiet =>
    exact limit_iff_of_other (none_queued quiet.payloads) (hears_other heard (by simp))
  | first heard _ _ quiet =>
    refine limit_iff_of_other (none_queued ?_) (hears_other heard (by simp))
    simp [Move.queued,Move.submitted,quiet.payloads,flow_payloads]
  | blockCompleted heard =>
    exact limit_iff_of_other (none_queued s.flow_payloads) (hears_other heard (by simp))
  | @completed _ _ data _ heard waits whole =>
    refine limit_iff_of_other ?_ (hears_other heard (by simp))
    -- What is collected never exceeds the length that the First Frame was let in with.
    have waiting := sound.receiveWaitCF waits
    have short := waiting.short
    have limit := waiting.limit
    have length : ((s.joined data).length : Int) ≤ s.rxFrameLen := by
      rw [joined_eq,List.length_append,List.length_take]
      omega
    intro payload member
    cases List.mem_singleton.mp member
    omega
  | submitted limit =>
    refine limit_iff_of_other ?_ (by rintro _ _ _ ⟨⟩)
    intro payload member
    cases List.mem_singleton.mp member
    exact limit
  | _ => exact limit_iff_of_other (none_queued rfl) (by rintro _ _ _ ⟨⟩)

end step

end Session

section runs

variable {start s : Session} {moves : List Move}

theorem run_config (sound : start.Sound) (run : Run Move.Step start moves s) :
    s.config = start.config := by
  induction run with
  | nil => rfl
  | snoc before last ih => exact (last.transition (run_sound sound before)).config.trans ih

theorem run_limit_iff (sound : start.Sound) (run : Run Move.Step start moves s) :
    (∀ move ∈ moves, ∀ data ∈ move.queued, data.length ≤ start.config.maxPayloadSize) ↔
      ∀ move ∈ moves, move.WithinLimit := by
  refine forall₂_congr fun move member => ?_
  obtain ⟨_,_,before,after,_,past,step,_⟩ := run.cut_mem member
  obtain ⟨_,_,_,_⟩ := move
  have taken := step.transition (run_sound sound past)
  obtain ⟨rfl,rfl,_⟩ := step
  rw [← run_config sound past]
  exact taken.limit_iff (run_sound sound past)

theorem run_holdsLimit (sound : start.Sound) (holds : start.HoldsLimit)
    (run : Run Move.Step start moves s) (within : ∀ move ∈ moves, move.WithinLimit) :
    s.HoldsLimit := by
  induction run with
  | nil => exact holds
  | @snoc past move middle final before last ih =>
    have earlier := ih fun move member => within move (List.mem_append_left _ member)
    obtain ⟨_,_,_,_⟩ := move
    have taken := last.transition (run_sound sound before)
    obtain ⟨rfl,rfl,_⟩ := last
    intro data waits
    rw [taken.config]
    rcases taken.waiting waits with old | new
    · exact earlier data old
    · exact (taken.limit_iff (run_sound sound before)).mpr (within _ (by simp)) data new

/-- In a run in which no longer Single Frame comes in while there is room, and in no other, no
payload beyond the limit gets into a queue, and so none waits in one. -/
theorem payload_limit_iff {address : Option Address} {cfg : Config} {fd : Bool}
    (created : newSession address cfg fd = .ok start) (run : Run Move.Step start moves s) :
    ((∀ move ∈ moves, ∀ data ∈ move.queued, data.length ≤ start.config.maxPayloadSize) ↔
      ∀ move ∈ moves, move.WithinLimit) ∧
    ((∀ move ∈ moves, move.WithinLimit) → s.HoldsLimit) := by
  have sound := newSession_sound created
  refine ⟨run_limit_iff sound run,run_holdsLimit sound ?_ run⟩
  obtain ⟨_,_,_,_,_,rfl⟩ := newSession_ok created
  intro data waits
  cases waits

end runs

/-- A Single Frame of three bytes for a session that takes four. -/
theorem payload_limit_iff_short :
    ∃ start moves s, newSession (some ⟨0x7E0,0x7E8⟩) { defaultConfig with maxPayloadSize := 4 } false =
      .ok start ∧ Run Move.Step start moves s ∧ s.rxDataChan.buffer = [[1,2,3]] ∧ s.HoldsLimit := by
  have executed : (Session.fresh ⟨0x7E0,0x7E8⟩ { defaultConfig with maxPayloadSize := 4 } false).execute
      [.frame ⟨0x7E8,[0x03,1,2,3],false⟩ .queued] = some _ := rfl
  have run := Session.execute_run executed
  have created : newSession (some ⟨0x7E0,0x7E8⟩) { defaultConfig with maxPayloadSize := 4 } false =
      .ok (.fresh ⟨0x7E0,0x7E8⟩ { defaultConfig with maxPayloadSize := 4 } false) := rfl
  obtain ⟨same,holds⟩ := payload_limit_iff created run
  refine ⟨_,_,_,created,run,rfl,holds (same.mp ?_)⟩
  intro move member data put
  cases List.mem_singleton.mp member
  have only : data ∈ [[1,2,3]] := put
  cases List.mem_singleton.mp only
  decide

/-- One of five bytes gets through all the same. -/
theorem payload_limit_exceeded :
    ∃ start moves s, newSession (some ⟨0x7E0,0x7E8⟩) { defaultConfig with maxPayloadSize := 4 } false =
      .ok start ∧ Run Move.Step start moves s ∧
      ∃ move ∈ moves, ∃ data ∈ move.queued, start.config.maxPayloadSize < data.length := by
  have executed : (Session.fresh ⟨0x7E0,0x7E8⟩ { defaultConfig with maxPayloadSize := 4 } false).execute
      [.frame ⟨0x7E8,[0x05,1,2,3,4,5],false⟩ .queued] = some _ := rfl
  exact ⟨_,_,_,rfl,Session.execute_run executed,_,List.mem_singleton_self _,[1,2,3,4,5],
    List.mem_singleton_self _,by decide⟩

end Canbuskit.Isotp
