import Canbuskit.Can.Memory
import Canbuskit.Isotp.Handlers
import Canbuskit.Isotp.Wire

/-! The session that `New` starts: the receive goroutine between the subscription and `rxMessages`,
the run loop, the transmit goroutine behind `tx`, and `Close`. A goroutine takes one step from
one of its waits to the next; the timers that `cleanup` stops are read by nothing after it. -/
namespace Canbuskit.Isotp
open Can Channel Runs

/-- A goroutine at the head of its loop, waiting with something in hand, or returned. -/
inductive Worker (α : Type) where
  | waiting
  | holding (item : α)
  | returned
  deriving DecidableEq

/-- What the run loop's select took. The handler ends when its frame, if it has one, is queued. -/
inductive Case where
  | frame (msg : LinkFrame)
  | dequeue
  | expireRxCF
  | expireRxFC
  | expireTxSTmin
  deriving DecidableEq

def Case.event (outcome : SendOutcome) : Case → Event
  | .frame msg => .frame msg outcome
  | .dequeue => .dequeue outcome
  | .expireRxCF => .expireRxCF
  | .expireRxFC => .expireRxFC
  | .expireTxSTmin => .expireTxSTmin outcome

/-- What the transmit goroutine has in hand: a message, or its frame once `Send` has found the
context live. -/
inductive Outgoing where
  | taken (msg : LinkFrame)
  | checked (frame : Frame)
  deriving DecidableEq

inductive Closing where
  | running
  | cancelled
  | unsubscribed
  | closed
  deriving DecidableEq

inductive Goroutine where
  | receive
  | run
  | transmit
  deriving DecidableEq

/-- `reads` counts the frames that the receive goroutine took from its subscription. -/
structure Stack where
  session : Session
  subscription : Nat
  reads : Nat
  receiver : Worker LinkFrame
  rxMessages : Chan LinkFrame
  loop : Worker Case
  tx : Chan LinkFrame
  transmitter : Worker Outgoing
  closing : Closing

inductive Turn where
  | accept (frame : Frame)
  | drained
  | pass
  | read
  | select (chosen : Case)
  | finish (outcome : SendOutcome)
  | call (event : Event)
  | take
  | check (brs : Bool)
  | sent
  | cancel
  | unsubscribe
  | leave (goroutine : Goroutine)
  | close
  deriving DecidableEq

def Event.called : Event → Bool
  | .send _ => true
  | .receive => true
  | .setTxAddress _ => true
  | _ => false

namespace Stack

def start (session : Session) (subscription : Nat) : Stack where
  session := session
  subscription := subscription
  reads := 0
  receiver := .waiting
  rxMessages := Chan.make 100
  loop := .waiting
  tx := Chan.make 1024
  transmitter := .waiting
  closing := .running

def accept (s : Stack) (frame : Frame) : Stack :=
  match fromCANFrame frame with
  | none => { s with reads := s.reads + 1 }
  | some msg => { s with reads := s.reads + 1, receiver := .holding msg }

/-- `NewFrame`, and the check of the context with which `Send` begins. -/
def check (s : Stack) (brs : Bool) (msg : LinkFrame) : Stack :=
  match toCANFrame brs msg with
  | .error _ => { s with transmitter := .waiting }
  | .ok frame =>
    if s.closing = .running then { s with transmitter := .holding (.checked frame) }
    else { s with transmitter := .waiting }

def handle (s : Stack) (event : Event) : Option (Move × Stack) :=
  match s.session.step event with
  | none => none
  | some (session,outputs) =>
    ((frames outputs).foldlM Chan.offer s.tx).map fun tx =>
      (⟨s.session,event,outputs,session⟩,{ s with session := session, tx := tx, loop := .waiting })

def leave (s : Stack) : Goroutine → Option Stack
  | .receive => if s.receiver = .returned then none else some { s with receiver := .returned }
  | .run => if s.loop = .waiting then some { s with loop := .returned } else none
  | .transmit =>
    if s.transmitter = .waiting then some { s with transmitter := .returned } else none

/-- The move of the session, if the turn has one, and the next state. -/
def react (s : Stack) : Turn → Option (Option Move × Stack)
  | .accept frame => if s.receiver = .waiting then some (none,s.accept frame) else none
  | .drained =>
    if s.receiver = .waiting then some (none,{ s with receiver := .returned }) else none
  | .pass => match s.receiver with
    | .holding msg => (s.rxMessages.offer msg).map fun channel =>
        (none,{ s with receiver := .waiting, rxMessages := channel })
    | _ => none
  | .read =>
    if s.loop = .waiting then s.rxMessages.poll.map fun polled =>
      (none,{ s with loop := .holding (.frame polled.1), rxMessages := polled.2 })
    else none
  | .select (.frame _) => none
  | .select chosen =>
    if s.loop = .waiting ∧ (s.session.step (chosen.event .queued)).isSome then
      some (none,{ s with loop := .holding chosen })
    else none
  | .finish outcome => match s.loop with
    | .holding chosen =>
      if outcome = .cancelled ∧ s.closing = .running then none
      else (s.handle (chosen.event outcome)).map fun handled => (some handled.1,handled.2)
    | _ => none
  | .call event =>
    if event.called then (s.session.step event).map fun answer =>
      (some ⟨s.session,event,answer.2,answer.1⟩,{ s with session := answer.1 })
    else none
  | .take =>
    if s.transmitter = .waiting then s.tx.poll.map fun polled =>
      (none,{ s with transmitter := .holding (.taken polled.1), tx := polled.2 })
    else none
  | .check brs => match s.transmitter with
    | .holding (.taken msg) => some (none,s.check brs msg)
    | _ => none
  | .sent => match s.transmitter with
    | .holding (.checked _) => some (none,{ s with transmitter := .waiting })
    | _ => none
  | .cancel => if s.closing = .running then some (none,{ s with closing := .cancelled }) else none
  | .unsubscribe =>
    if s.closing = .cancelled then some (none,{ s with closing := .unsubscribed }) else none
  | .leave goroutine =>
    if s.closing = .running then none else (s.leave goroutine).map fun next => (none,next)
  | .close =>
    if s.closing = .unsubscribed ∧ s.receiver = .returned ∧ s.loop = .returned ∧
        s.transmitter = .returned then
      some (none,{ s with closing := .closed })
    else none

inductive Turns (s : Stack) : Turn → Option Move → Stack → Prop
  | ignored {frame} (waits : s.receiver = .waiting) (refused : fromCANFrame frame = none) :
      Turns s (.accept frame) none { s with reads := s.reads + 1 }
  | accepted {frame msg} (waits : s.receiver = .waiting) (heard : fromCANFrame frame = some msg) :
      Turns s (.accept frame) none { s with reads := s.reads + 1, receiver := .holding msg }
  | drained (waits : s.receiver = .waiting) : Turns s .drained none { s with receiver := .returned }
  | passed {msg channel} (holds : s.receiver = .holding msg)
      (room : s.rxMessages.offer msg = some channel) :
      Turns s .pass none { s with receiver := .waiting, rxMessages := channel }
  | read {msg channel} (waits : s.loop = .waiting) (queue : s.rxMessages.poll = some (msg,channel)) :
      Turns s .read none { s with loop := .holding (.frame msg), rxMessages := channel }
  | selected {chosen} (waits : s.loop = .waiting) (own : ∀ msg, chosen ≠ .frame msg)
      (ready : (s.session.step (chosen.event .queued)).isSome) :
      Turns s (.select chosen) none { s with loop := .holding chosen }
  | finished {outcome chosen session outputs tx} (holds : s.loop = .holding chosen)
      (allowed : outcome = .cancelled → s.closing ≠ .running)
      (taken : s.session.step (chosen.event outcome) = some (session,outputs))
      (room : (frames outputs).foldlM Chan.offer s.tx = some tx) :
      Turns s (.finish outcome) (some ⟨s.session,chosen.event outcome,outputs,session⟩)
        { s with session := session, tx := tx, loop := .waiting }
  | called {event session outputs} (called : event.called)
      (taken : s.session.step event = some (session,outputs)) :
      Turns s (.call event) (some ⟨s.session,event,outputs,session⟩) { s with session := session }
  | taken {msg channel} (waits : s.transmitter = .waiting) (queue : s.tx.poll = some (msg,channel)) :
      Turns s .take none { s with transmitter := .holding (.taken msg), tx := channel }
  | refused {brs msg error} (holds : s.transmitter = .holding (.taken msg))
      (unbuilt : toCANFrame brs msg = .error error) :
      Turns s (.check brs) none { s with transmitter := .waiting }
  | checked {brs msg frame} (holds : s.transmitter = .holding (.taken msg))
      (built : toCANFrame brs msg = .ok frame) (live : s.closing = .running) :
      Turns s (.check brs) none { s with transmitter := .holding (.checked frame) }
  | aborted {brs msg frame} (holds : s.transmitter = .holding (.taken msg))
      (built : toCANFrame brs msg = .ok frame) (cancelled : s.closing ≠ .running) :
      Turns s (.check brs) none { s with transmitter := .waiting }
  | sent {frame} (holds : s.transmitter = .holding (.checked frame)) :
      Turns s .sent none { s with transmitter := .waiting }
  | cancelled (live : s.closing = .running) : Turns s .cancel none { s with closing := .cancelled }
  | unsubscribed (cancelled : s.closing = .cancelled) :
      Turns s .unsubscribe none { s with closing := .unsubscribed }
  | leftReceive (cancelled : s.closing ≠ .running) (present : s.receiver ≠ .returned) :
      Turns s (.leave .receive) none { s with receiver := .returned }
  | leftRun (cancelled : s.closing ≠ .running) (waits : s.loop = .waiting) :
      Turns s (.leave .run) none { s with loop := .returned }
  | leftTransmit (cancelled : s.closing ≠ .running) (waits : s.transmitter = .waiting) :
      Turns s (.leave .transmit) none { s with transmitter := .returned }
  | closed (unsubscribed : s.closing = .unsubscribed) (receiver : s.receiver = .returned)
      (loop : s.loop = .returned) (transmitter : s.transmitter = .returned) :
      Turns s .close none { s with closing := .closed }

theorem handle_some {s t : Stack} {event : Event} {move : Move} (handled : s.handle event = some (move,t)) :
    ∃ session outputs tx, s.session.step event = some (session,outputs) ∧
      (frames outputs).foldlM Chan.offer s.tx = some tx ∧ move = ⟨s.session,event,outputs,session⟩ ∧
      t = { s with session := session, tx := tx, loop := .waiting } := by
  unfold handle at handled
  split at handled
  · contradiction
  · rename_i session outputs taken
    obtain ⟨tx,room,same⟩ := Option.map_eq_some_iff.mp handled
    obtain ⟨rfl,rfl⟩ := Prod.mk.inj same
    exact ⟨session,outputs,tx,taken,room,rfl,rfl⟩

theorem react_turns {s t : Stack} {turn : Turn} {move : Option Move}
    (taken : s.react turn = some (move,t)) : s.Turns turn move t := by
  cases turn with
  | accept frame =>
    simp only [react,accept] at taken
    split_ifs at taken with waits
    split at taken
    · rename_i refused
      cases taken
      exact .ignored waits refused
    · rename_i msg heard
      cases taken
      exact .accepted waits heard
  | drained =>
    simp only [react] at taken
    split_ifs at taken with waits
    cases taken
    exact .drained waits
  | pass =>
    simp only [react] at taken
    split at taken
    · rename_i msg holds
      obtain ⟨channel,room,same⟩ := Option.map_eq_some_iff.mp taken
      cases same
      exact .passed holds room
    · contradiction
  | read =>
    simp only [react] at taken
    split_ifs at taken with waits
    obtain ⟨⟨msg,channel⟩,queue,same⟩ := Option.map_eq_some_iff.mp taken
    cases same
    exact .read waits queue
  | select chosen =>
    cases chosen with
    | frame => contradiction
    | dequeue | expireRxCF | expireRxFC | expireTxSTmin =>
      simp only [react] at taken
      split_ifs at taken with ready
      cases taken
      exact .selected ready.1 (by simp) ready.2
  | finish outcome =>
    simp only [react] at taken
    split at taken
    · rename_i chosen holds
      split_ifs at taken with refused
      obtain ⟨⟨move,next⟩,handled,same⟩ := Option.map_eq_some_iff.mp taken
      cases same
      obtain ⟨session,outputs,tx,step,room,rfl,rfl⟩ := handle_some handled
      exact .finished holds (fun cancelled running => refused ⟨cancelled,running⟩) step room
    · contradiction
  | call event =>
    simp only [react] at taken
    split_ifs at taken with called
    obtain ⟨⟨session,outputs⟩,step,same⟩ := Option.map_eq_some_iff.mp taken
    cases same
    exact .called called step
  | take =>
    simp only [react] at taken
    split_ifs at taken with waits
    obtain ⟨⟨msg,channel⟩,queue,same⟩ := Option.map_eq_some_iff.mp taken
    cases same
    exact .taken waits queue
  | check brs =>
    simp only [react] at taken
    split at taken
    · rename_i msg holds
      simp only [check] at taken
      split at taken
      · rename_i unbuilt
        cases taken
        exact .refused holds unbuilt
      · rename_i frame built
        split_ifs at taken with live
        · cases taken
          exact .checked holds built live
        · cases taken
          exact .aborted holds built live
    · contradiction
  | sent =>
    simp only [react] at taken
    split at taken
    · rename_i frame holds
      cases taken
      exact .sent holds
    · contradiction
  | cancel =>
    simp only [react] at taken
    split_ifs at taken with live
    cases taken
    exact .cancelled live
  | unsubscribe =>
    simp only [react] at taken
    split_ifs at taken with cancelled
    cases taken
    exact .unsubscribed cancelled
  | leave goroutine =>
    simp only [react] at taken
    split_ifs at taken with running
    cases goroutine with
    | receive =>
      simp only [leave] at taken
      split_ifs at taken with gone
      · cases taken
      · cases taken
        exact .leftReceive running gone
    | run =>
      simp only [leave] at taken
      split_ifs at taken with waits
      · cases taken
        exact .leftRun running waits
      · cases taken
    | transmit =>
      simp only [leave] at taken
      split_ifs at taken with waits
      · cases taken
        exact .leftTransmit running waits
      · cases taken
  | close =>
    simp only [react] at taken
    split_ifs at taken with ready
    cases taken
    exact .closed ready.1 ready.2.1 ready.2.2.1 ready.2.2.2

end Stack

structure Deed where
  turn : Turn
  move : Option Move

def Deed.Step (s : Stack) (deed : Deed) (t : Stack) : Prop := s.react deed.turn = some (deed.move,t)

def Stack.execute (s : Stack) (turns : List Turn) : Option (List Deed × Stack) :=
  Runs.execute (fun s turn => (s.react turn).map fun next => (⟨turn,next.1⟩,next.2)) s turns

theorem Stack.execute_run {s t : Stack} {turns : List Turn} {deeds : List Deed}
    (executed : s.execute turns = some (deeds,t)) : Run Deed.Step s deeds t := by
  refine Runs.execute_run ?_ executed
  intro u turn deed v taken
  obtain ⟨⟨move,next⟩,reacted,same⟩ := Option.map_eq_some_iff.mp taken
  cases same
  exact reacted

end Canbuskit.Isotp
