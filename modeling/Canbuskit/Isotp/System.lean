import Canbuskit.Can.Interruption
import Canbuskit.Isotp.Link
import Canbuskit.Isotp.Stack

/-! Two sessions on the endpoints of the in-process link, with everything that `New` starts between
them. Any goroutine of either session may take its next step, and others may use the link too:
they open, close, send and subscribe, but they do not touch the sessions' subscriptions. A `Send`
is interrupted when its context is done meanwhile, and a session's is done from `Close` on. -/
namespace Canbuskit.Isotp
open Can Channel Runs
open Memory (Link)

structure System where
  link : Link
  stack : Side → Stack

def Side.port : Side → Memory.Port
  | .left => .a
  | .right => .b

/-- The turns of a stack in which its driver has no part. -/
def Turn.own : Turn → Bool
  | .pass => true
  | .read => true
  | .select _ => true
  | .finish _ => true
  | .call _ => true
  | .take => true
  | .cancel => true
  | .close => true
  | _ => false

inductive Deal where
  | own (side : Side) (turn : Turn)
  | receive (side : Side)
  | accept (side : Side)
  | drained (side : Side)
  | check (side : Side)
  | transmit (side : Side)
  | interrupt (side : Side) (interruption : Memory.Interruption)
  | unsubscribe (side : Side)
  | leave (side : Side) (goroutine : Goroutine)
  | other (turn : Memory.Turn)
  | interruptOther (port : Memory.Port) (frame : Frame) (interruption : Memory.Interruption)

namespace System

def inbox (s : System) (side : Side) : Inbox Frame := s.link.inbox (s.stack side).subscription

def set (s : System) (side : Side) (stack : Stack) (link : Link) : System :=
  ⟨link,Function.update s.stack side stack⟩

@[simp] theorem set_link (s : System) (side : Side) (stack : Stack) (link : Link) :
    (s.set side stack link).link = link := rfl

@[simp] theorem set_stack (s : System) (side : Side) (stack : Stack) (link : Link) :
    (s.set side stack link).stack side = stack :=
  Function.update_self ..

@[simp] theorem set_other (s : System) (side : Side) (stack : Stack) (link : Link) :
    (s.set side stack link).stack side.other = s.stack side.other :=
  Function.update_of_ne (by cases side <;> simp [Side.other]) ..

/-- A turn of one stack with what becomes of the link. -/
def turn (s : System) (side : Side) (turn : Turn) (link : Link) : Option (Option PairMove × System) :=
  ((s.stack side).react turn).map fun next => (next.1.map (⟨side,·⟩),s.set side next.2 link)

/-- A receive that is given up no longer waits. -/
def leftLink (s : System) (side : Side) : Goroutine → Link
  | .receive =>
    if 0 < (s.inbox side).waiting then
      { s.link with toMailroom := s.link.toMailroom.giveUp (s.stack side).subscription }
    else s.link
  | _ => s.link

def foreign (s : System) : Memory.Turn → Bool
  | .call _ (.unsubscribe channel) =>
    channel ≠ (s.stack .left).subscription ∧ channel ≠ (s.stack .right).subscription
  | .call _ _ => true
  | .receive channel =>
    channel ≠ (s.stack .left).subscription ∧ channel ≠ (s.stack .right).subscription
  | .giveUp channel =>
    channel ≠ (s.stack .left).subscription ∧ channel ≠ (s.stack .right).subscription

def react (s : System) : Deal → Option (Option PairMove × System)
  | .own side turn => if turn.own then s.turn side turn s.link else none
  | .receive side =>
    if (s.stack side).receiver = .waiting ∧ (s.inbox side).waiting = 0 ∧
        (s.inbox side).received.length = (s.stack side).reads then
      some (none,{ s with link := { s.link with
        toMailroom := s.link.toMailroom.receive (s.stack side).subscription } })
    else none
  | .accept side => match (s.inbox side).received[(s.stack side).reads]? with
    | some frame => s.turn side (.accept frame) s.link
    | none => none
  | .drained side =>
    if (s.stack side).subscription ∈ s.link.heap.closed ∧
        (s.inbox side).content.length = (s.stack side).reads then
      s.turn side .drained s.link
    else none
  | .check side => s.turn side (.check (s.link.endpoint side.port).cfg.brs) s.link
  | .transmit side => match (s.stack side).transmitter with
    | .holding (.checked frame) => s.turn side .sent (s.link.send side.port frame).1
    | _ => none
  | .interrupt side interruption => match (s.stack side).transmitter with
    | .holding (.checked frame) =>
      if (s.stack side).closing = .running then none
      else (s.link.interrupt side.port frame interruption).bind fun link => s.turn side .sent link
    | _ => none
  | .unsubscribe side => s.turn side .unsubscribe
      (s.link.call side.port (.unsubscribe (s.stack side).subscription)).1
  | .leave side goroutine => s.turn side (.leave goroutine) (s.leftLink side goroutine)
  | .other turn =>
    if s.foreign turn then (s.link.react turn).map fun next => (none,{ s with link := next.2 })
    else none
  | .interruptOther port frame interruption =>
    (s.link.interrupt port frame interruption).map fun link => (none,{ s with link := link })

end System

/-- A step of the system with the session's move in it. -/
structure Dealt where
  deal : Deal
  move : Option PairMove

def Dealt.Step (s : System) (dealt : Dealt) (t : System) : Prop :=
  s.react dealt.deal = some (dealt.move,t)

/-- The moves of the sessions. -/
def pairMoves (labels : List Dealt) : List PairMove := labels.filterMap Dealt.move

def System.execute (s : System) (deals : List Deal) : Option (List Dealt × System) :=
  Runs.execute (fun s deal => (s.react deal).map fun next => (⟨deal,next.1⟩,next.2)) s deals

theorem System.execute_run {s t : System} {deals : List Deal} {labels : List Dealt}
    (executed : s.execute deals = some (labels,t)) : Run Dealt.Step s labels t := by
  refine Runs.execute_run ?_ executed
  intro u deal label v taken
  obtain ⟨⟨move,next⟩,reacted,same⟩ := Option.map_eq_some_iff.mp taken
  cases same
  exact reacted

inductive NewStackError where
  | session (error : NewSessionError)
  | subscribe (error : Memory.MemoryError)

/-- `New` of the package over an endpoint of the link. -/
def newStack (link : Link) (port : Memory.Port) (address : Option Address) (cfg : Config) :
    Except NewStackError (Stack × Link) :=
  match newSession address cfg ((link.endpoint port).cfg.mode == Mode.fd) with
  | .error error => .error (.session error)
  | .ok session => match link.call port (.subscribe 100) with
    | (next,.subscribed channel (.ok ())) => .ok (.start session channel,next)
    | (_,.subscribed _ (.error error)) => .error (.subscribe error)
    | _ => .error (.subscribe .notOpen)

/-- `New` at both ends. -/
def newSystem (link : Link) (address : Side → Address) (cfg : Side → Config) :
    Except NewStackError System :=
  match newStack link .a (some (address .left)) (cfg .left) with
  | .error error => .error error
  | .ok (left,link) => match newStack link .b (some (address .right)) (cfg .right) with
    | .error error => .error error
    | .ok (right,link) => .ok ⟨link,fun | .left => left | .right => right⟩

end Canbuskit.Isotp
