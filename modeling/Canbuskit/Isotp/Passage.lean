import Canbuskit.Isotp.Link
import Canbuskit.Isotp.Shutdown

/-! The frames inside a stack: those on their way from the subscription to the run loop, and those
on their way from the run loop to the driver. A turn passes them on in their order. -/
namespace Canbuskit.Isotp
open Can Channel Runs

def Worker.items {α : Type} : Worker α → List α
  | .holding item => [item]
  | _ => []

@[simp] theorem Worker.items_waiting {α : Type} : (Worker.waiting : Worker α).items = [] := rfl
@[simp] theorem Worker.items_returned {α : Type} : (Worker.returned : Worker α).items = [] := rfl
@[simp] theorem Worker.items_holding {α : Type} (item : α) : (Worker.holding item).items = [item] := rfl

def Case.msg? : Case → Option LinkFrame
  | .frame msg => some msg
  | _ => none

theorem Case.arrival (chosen : Case) (outcome : SendOutcome) :
    (chosen.event outcome).arrival = chosen.msg? := by
  cases chosen <;> rfl

theorem called_arrival {event : Event} (called : event.called) : event.arrival = none := by
  cases event with
  | frame => contradiction
  | _ => rfl

/-- What the other end makes of a message in the transmit goroutine's hand. -/
def Outgoing.heard : Outgoing → Option LinkFrame
  | .taken msg => carry false msg
  | .checked frame => fromCANFrame { frame with direction := .receive }

theorem fromCANFrame_some {frame : Frame} {msg : LinkFrame} (heard : fromCANFrame frame = some msg) :
    frame.direction ≠ .transmit ∧ msg.arbitrationID = frame.id := by
  unfold fromCANFrame at heard
  split_ifs at heard with refused
  split at heard
  · contradiction
  · cases heard
    exact ⟨fun transmits => refused (.inl transmits),rfl⟩

theorem toCANFrame_iff (brs : Bool) (msg : LinkFrame) (frame : Frame) :
    toCANFrame brs msg = .ok frame ↔
      (msg.arbitrationID ≤ 0x7FF ∧ msg.data.length ≤ maximumLength msg.fd) ∧
      frame = ⟨.transmit,msg.arbitrationID,lengthToDLC msg.data.length,
        Vector.ofFn fun i => msg.data.getD i 0,msg.fd,msg.fd && brs,false,0⟩ := by
  have switched : (msg.fd && brs) = true → msg.fd = true := by
    intro on
    simp only [Bool.and_eq_true] at on
    exact on.1
  rw [toCANFrame,newFrame_iff]
  constructor
  · rintro ⟨⟨standard,_,fits⟩,rfl⟩
    exact ⟨⟨standard,fits⟩,rfl⟩
  · rintro ⟨⟨standard,fits⟩,rfl⟩
    exact ⟨⟨standard,switched,fits⟩,rfl⟩

/-- The BRS flag of the frame is all that the bus configuration decides, and it is not heard. -/
theorem built_heard {brs : Bool} {msg : LinkFrame} {frame : Frame}
    (built : toCANFrame brs msg = .ok frame) :
    fromCANFrame { frame with direction := .receive } = carry false msg := by
  obtain ⟨legal,rfl⟩ := (toCANFrame_iff ..).mp built
  simp only [carry,(toCANFrame_iff false msg _).mpr ⟨legal,rfl⟩]
  rfl

theorem unbuilt_heard {brs : Bool} {msg : LinkFrame} {error : FrameError}
    (unbuilt : toCANFrame brs msg = .error error) : carry false msg = none := by
  cases plain : toCANFrame false msg with
  | error => simp [carry,plain]
  | ok frame =>
    obtain ⟨legal,_⟩ := (toCANFrame_iff ..).mp plain
    rw [(toCANFrame_iff brs msg _).mpr ⟨legal,rfl⟩] at unbuilt
    contradiction

theorem carry_address {brs : Bool} {msg heard : LinkFrame} (carried : carry brs msg = some heard) :
    heard.arbitrationID = msg.arbitrationID := by
  unfold carry at carried
  split at carried
  · contradiction
  · rename_i frame built
    obtain ⟨_,rfl⟩ := (toCANFrame_iff ..).mp built
    exact (fromCANFrame_some carried).2

/-- The frames of a session with no transmit address of its own. -/
theorem Session.Transition.outgoing {s t : Session} {event : Event} {outputs : List Output}
    (step : s.Transition event outputs t) (plain : s.txAddress = none) :
    ∀ msg ∈ frames outputs, msg.arbitrationID = s.address.txID ∧ msg.fd = s.fd := by
  have own (data : Bytes) : (s.makeTxMsg data).arbitrationID = s.address.txID ∧
      (s.makeTxMsg data).fd = s.fd := by
    simp [Session.makeTxMsg,Session.makeTxMsgWithAddr,plain]
  have granted : ∀ msg ∈ frames s.flow, msg.arbitrationID = s.address.txID ∧ msg.fd = s.fd := by
    intro msg member
    unfold Session.flow at member
    split_ifs at member
    · contradiction
    · cases List.mem_singleton.mp member
      exact ⟨rfl,rfl⟩
  cases step with
  | unheard _ quiet | singleDropped _ _ quiet | firstRefused _ _ quiet | mismatched _ _ _ quiet
  | completedDropped _ _ _ _ quiet => simp [quiet.frames]
  | single _ _ quiet => simp [quiet.frames]
  | first _ _ _ quiet => simpa [quiet.frames] using granted
  | blockCompleted => exact granted
  | sentSingle | sentFirst | sentLast | sentBlock | sentNext =>
    intro msg member
    cases List.mem_singleton.mp member
    exact own _
  | _ => simp

theorem offers_buffer {channel next : Chan LinkFrame} {msgs : List LinkFrame}
    (room : msgs.foldlM Chan.offer channel = some next) :
    next.buffer = channel.buffer ++ msgs := by
  induction msgs generalizing channel with
  | nil =>
    cases room
    simp
  | cons msg msgs ih =>
    rw [List.foldlM_cons] at room
    obtain ⟨middle,offered,rest⟩ := Option.bind_eq_some_iff.mp room
    rw [ih rest,(Chan.offer_some offered).1,List.append_assoc,List.singleton_append]

/-- What a turn takes from the subscription. -/
def Turn.fed : Turn → List LinkFrame
  | .accept frame => (fromCANFrame frame).toList
  | _ => []

def Turn.taken : Turn → Nat
  | .accept _ => 1
  | _ => 0

def arrivals (move : Option Move) : List LinkFrame := (move.bind Move.arrival).toList

def departures (move : Option Move) : List LinkFrame := move.toList.flatMap (Move.departures false)

namespace Stack

/-- The frames between the subscription and the session, the oldest first. -/
def front (s : Stack) : List LinkFrame :=
  s.loop.items.filterMap Case.msg? ++ s.rxMessages.buffer ++ s.receiver.items

/-- The frames between the session and the driver as the other end hears them. -/
def departing (s : Stack) : List LinkFrame :=
  s.transmitter.items.filterMap Outgoing.heard ++ s.tx.buffer.filterMap (carry false)

/-- Nothing leaves this stack any more. -/
def Silenced (s : Stack) : Prop :=
  s.closing ≠ .running ∧ ∀ frame, s.transmitter ≠ .holding (.checked frame)

variable {s t : Stack} {turn : Turn} {move : Option Move}

theorem Turns.front (step : s.Turns turn move t) :
    ∃ dropped, s.front ++ turn.fed = arrivals move ++ t.front ++ dropped ∧
      (dropped ≠ [] → t.receiver = .returned) := by
  cases step with
  | ignored waits refused => exact ⟨[],by simp [Stack.front,Turn.fed,refused,arrivals],by simp⟩
  | accepted waits heard => exact ⟨[],by simp [Stack.front,Turn.fed,heard,arrivals,waits],by simp⟩
  | drained waits => exact ⟨[],by simp [Stack.front,Turn.fed,arrivals,waits],by simp⟩
  | passed holds room =>
    exact ⟨[],by simp [Stack.front,Turn.fed,arrivals,holds,(Chan.offer_some room).1],by simp⟩
  | leftReceive => exact ⟨s.receiver.items,by simp [Stack.front,Turn.fed,arrivals],fun _ => rfl⟩
  | read waits queue =>
    exact ⟨[],by simp [Stack.front,Turn.fed,arrivals,waits,(Chan.poll_some queue).1,Case.msg?],by simp⟩
  | @selected chosen waits own =>
    have none : chosen.msg? = none := by
      cases chosen with
      | frame msg => exact absurd rfl (own msg)
      | _ => rfl
    exact ⟨[],by simp [Stack.front,Turn.fed,arrivals,waits,none],by simp⟩
  | @finished outcome chosen _ _ _ holds =>
    refine ⟨[],?_,by simp⟩
    cases shape : chosen.msg? <;>
      simp [Stack.front,Turn.fed,arrivals,holds,Move.arrival,Case.arrival,shape]
  | called called =>
    exact ⟨[],by simp [Stack.front,Turn.fed,arrivals,Move.arrival,called_arrival called],by simp⟩
  | leftRun _ waits => exact ⟨[],by simp [Stack.front,Turn.fed,arrivals,waits],by simp⟩
  | _ => exact ⟨[],by simp [Stack.front,Turn.fed,arrivals],by simp⟩

theorem Turns.receiver (step : s.Turns turn move t) :
    (s.receiver = .returned → t.receiver = .returned) ∧ (t.receiver = .returned → turn.fed = []) := by
  cases step with
  | ignored waits | accepted waits | passed waits => simp [waits]
  | drained | leftReceive => exact ⟨fun _ => rfl,fun _ => rfl⟩
  | _ => exact ⟨id,fun _ => rfl⟩

theorem Turns.sent_departing {frame : Frame} (step : s.Turns .sent move t)
    (holds : s.transmitter = .holding (.checked frame)) : departures move = [] ∧
      s.departing = (fromCANFrame { frame with direction := .receive }).toList ++ t.departing := by
  cases step with
  | sent held =>
    cases Worker.holding.inj (holds.symm.trans held)
    refine ⟨rfl,?_⟩
    cases heard : fromCANFrame { frame with direction := .receive } <;>
      simp [Stack.departing,holds,Outgoing.heard,heard]

theorem Turns.departing (step : s.Turns turn move t) :
    ∃ left, s.departing ++ departures move = left ++ t.departing ∧
      (left = [] ∨ t.Silenced ∨ turn = .sent) := by
  cases step with
  | finished _ _ _ room =>
    refine ⟨[],?_,.inl rfl⟩
    simp [Stack.departing,departures,Move.departures,offers_buffer room]
  | called called taken =>
    refine ⟨[],?_,.inl rfl⟩
    simp [Stack.departing,departures,Move.departures,(Session.called_step called taken).1]
  | @taken msg channel waits queue =>
    refine ⟨[],?_,.inl rfl⟩
    cases heard : carry false msg <;>
      simp [Stack.departing,departures,waits,(Chan.poll_some queue).1,Outgoing.heard,heard]
  | refused holds unbuilt =>
    refine ⟨[],?_,.inl rfl⟩
    simp [Stack.departing,departures,holds,Outgoing.heard,unbuilt_heard unbuilt]
  | checked holds built =>
    refine ⟨[],?_,.inl rfl⟩
    simp [Stack.departing,departures,holds,Outgoing.heard,built_heard built,List.filterMap_cons]
  | @aborted _ msg _ holds _ cancelled =>
    refine ⟨[msg].filterMap (carry false),?_,.inr (.inl ⟨cancelled,by simp⟩)⟩
    simp [Stack.departing,departures,holds,Outgoing.heard,List.filterMap_cons]
  | sent holds =>
    obtain ⟨unmoved,brings⟩ := Turns.sent_departing (.sent holds) holds
    exact ⟨_,by rw [unmoved,List.append_nil,brings],.inr (.inr rfl)⟩
  | leftTransmit _ waits => exact ⟨[],by simp [Stack.departing,departures,waits],.inl rfl⟩
  | _ => exact ⟨[],by simp [Stack.departing,departures],.inl rfl⟩

theorem Turns.silenced (step : s.Turns turn move t) (silenced : s.Silenced) : t.Silenced := by
  obtain ⟨cancelled,unchecked⟩ := silenced
  cases step with
  | checked _ _ live | cancelled live => exact absurd live cancelled
  | taken | refused | aborted | sent => exact ⟨cancelled,by simp⟩
  | unsubscribed | closed => exact ⟨by simp,unchecked⟩
  | leftTransmit => exact ⟨cancelled,by simp⟩
  | _ => exact ⟨cancelled,unchecked⟩

theorem Turns.subscription (step : s.Turns turn move t) :
    t.subscription = s.subscription ∧ t.reads = s.reads + turn.taken := by
  cases step <;> exact ⟨rfl,rfl⟩

end Stack

end Canbuskit.Isotp
