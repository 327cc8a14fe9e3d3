import Canbuskit.Lib.Mailroom
import Canbuskit.Lib.Runs
import Canbuskit.Can.Config

/-! The in-process link of two endpoints. Every method is one step under the endpoint's lock,
or, for `Send`, one step per endpoint with nothing observable in between; a call whose context
is nil or already cancelled returns before it touches anything and is left out. The channels
outlive their subscription, so they are kept beside the endpoints. -/
namespace Canbuskit.Memory
open Can Channel Runs

inductive Port where
  | a
  | b
  deriving DecidableEq

def Port.peer : Port → Port
  | .a => .b
  | .b => .a

structure Endpoint where
  cfg : BusConfig
  opened : Bool
  closed : Bool
  subscribers : List Nat
  errors : Nat
  dropped : Nat
  frames : Nat

structure Link extends Mailroom Frame where
  endpoint : Port → Endpoint

def newEndpoint (cfg : BusConfig) (heap : Heap) : Endpoint × Heap :=
  let cfg := if cfg.rxBufferSize = 0 then { cfg with rxBufferSize := 1024 } else cfg
  let (errors,heap) := heap.make
  (⟨cfg,false,false,[],errors,0,0⟩,heap)

/-- `Pair` of the package. -/
def newPair (cfg : BusConfig) : Link :=
  let (a,heap) := newEndpoint cfg .empty
  let (b,heap) := newEndpoint cfg heap
  ⟨⟨heap,fun _ => .make 0⟩,fun | .a => a | .b => b⟩

inductive MemoryError where
  | endpointClosed
  | alreadyOpen
  | config (error : BusConfigError)
  | frame (error : FrameError)
  | notOpen
  | classicMode

inductive Call where
  | openBus
  | closeBus
  | send (frame : Frame)
  | subscribe (buffer : Int)
  | unsubscribe (channel : Nat)
  | errors
  deriving DecidableEq

inductive Reply where
  | opened (result : Except MemoryError Unit)
  | closed
  | sent (result : Except MemoryError Unit)
  | subscribed (channel : Nat) (result : Except MemoryError Unit)
  | unsubscribed
  | errors (channel : Nat)

namespace Endpoint

def openBus (e : Endpoint) : Endpoint × Except MemoryError Unit :=
  if e.closed then (e,.error .endpointClosed)
  else if e.opened then (e,.error .alreadyOpen)
  else match e.cfg.normalized with
    | .error error => (e,.error (.config error))
    | .ok cfg => ({ e with cfg := cfg, opened := true },.ok ())

def closeBus (e : Endpoint) (room : Mailroom Frame) : Endpoint × Mailroom Frame :=
  if e.closed then (e,room)
  else ({ e with opened := false, closed := true, subscribers := [] },
    (e.subscribers.foldl .close room).close e.errors)

/-- A subscriber without room loses the frame. -/
def dispatch (e : Endpoint) (room : Mailroom Frame) (frame : Frame) :
    Endpoint × Mailroom Frame × Except MemoryError Unit :=
  if !e.opened || e.closed then (e,room,.error .notOpen)
  else
    let (room,missed) := room.broadcast e.subscribers frame
    ({ e with dropped := e.dropped + missed },room,.ok ())

def checkSend (e : Endpoint) (frame : Frame) : Except MemoryError Unit :=
  match frame.validate with
  | .error error => .error (.frame error)
  | .ok () =>
    if !(e.opened && !e.closed) then .error .notOpen
    else if e.cfg.mode = Mode.classic ∧ frame.fd then .error .classicMode
    else .ok ()

def subscribe (e : Endpoint) (buffer : Int) (room : Mailroom Frame) :
    Endpoint × Mailroom Frame × Nat × Except MemoryError Unit :=
  let (channel,room) := room.make buffer.toNat
  if !e.opened || e.closed then (e,room.close channel,channel,.error .notOpen)
  else ({ e with subscribers := channel :: e.subscribers },room,channel,.ok ())

def unsubscribe (e : Endpoint) (channel : Nat) (room : Mailroom Frame) : Endpoint × Mailroom Frame :=
  if channel ∈ e.subscribers then
    ({ e with subscribers := e.subscribers.erase channel },room.close channel)
  else (e,room)

end Endpoint

namespace Link

def set (link : Link) (port : Port) (e : Endpoint) : Link :=
  { link with endpoint := Function.update link.endpoint port e }

/-- The frame reaches the peer's subscribers, and then, as an echo, the sender's own. -/
def send (link : Link) (port : Port) (frame : Frame) : Link × Except MemoryError Unit :=
  match (link.endpoint port).checkSend frame with
  | .error error => (link,.error error)
  | .ok () =>
    match (link.endpoint port.peer).dispatch link.toMailroom { frame with direction := .receive } with
    | (_,_,.error error) => (link,.error error)
    | (peer,room,.ok ()) =>
      let link := ({ link with toMailroom := room } : Link).set port.peer peer
      let e : Endpoint := link.endpoint port
      let e : Endpoint := { e with frames := e.frames + 1 }
      if e.cfg.includeTxEcho then
        let (e,room,_) := e.dispatch link.toMailroom { frame with direction := .transmit }
        (({ link with toMailroom := room } : Link).set port e,.ok ())
      else (link.set port e,.ok ())

def call (link : Link) (port : Port) : Call → Link × Reply
  | .openBus =>
    let (e,result) := (link.endpoint port).openBus
    (link.set port e,.opened result)
  | .closeBus =>
    let (e,room) := (link.endpoint port).closeBus link.toMailroom
    (({ link with toMailroom := room } : Link).set port e,.closed)
  | .send frame =>
    let (link,result) := link.send port frame
    (link,.sent result)
  | .subscribe buffer =>
    let (e,room,channel,result) := (link.endpoint port).subscribe buffer link.toMailroom
    (({ link with toMailroom := room } : Link).set port e,.subscribed channel result)
  | .unsubscribe channel =>
    let (e,room) := (link.endpoint port).unsubscribe channel link.toMailroom
    (({ link with toMailroom := room } : Link).set port e,.unsubscribed)
  | .errors => (link,.errors (link.endpoint port).errors)

end Link

/-- A call with the states around it and its result. -/
structure Move where
  before : Link
  port : Port
  call : Call
  reply : Reply
  after : Link

def Move.Step (link : Link) (move : Move) (next : Link) : Prop :=
  move.before = link ∧ move.after = next ∧ link.call move.port move.call = (next,move.reply)

end Canbuskit.Memory
