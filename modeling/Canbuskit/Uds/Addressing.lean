import Canbuskit.Isotp.Duplex
import Canbuskit.Isotp.PairSafety
import Canbuskit.Uds.Attempt

/-! The client over its ISO-TP session. The transmit address is a variable of the session that
is read when a frame is built, and a request sets it when it takes the client, while payloads
of requests that have returned may still wait in the session's queue or be half sent. -/
namespace Canbuskit.Isotp.Session
open Can Channel Isotp

variable {s t : Session} {event : Event} {outputs : List Output}

/-- The transmit ID that the session's next frame is built with. -/
def currentTxID (s : Session) : UInt32 := (s.txAddress.getD s.address).txID

theorem Transition.sent_id (step : s.Transition event outputs t) {msg : LinkFrame}
    (member : msg ∈ frames outputs) (sent : (Output.frame msg).sent = true) :
    msg.arbitrationID = s.currentTxID ∧ ((∃ outcome, event = .dequeue outcome) ∨
      s.txState ≠ .idle ∧ ∃ outcome, event = .expireTxSTmin outcome) := by
  have flows (granted : msg ∈ frames s.flow) : False := by
    have silent := s.flow_silent (.frame msg) (by
      obtain ⟨output,inside,shape⟩ := List.mem_filterMap.mp granted
      cases output <;> cases shape
      exact inside)
    rw [sent] at silent
    contradiction
  have busy (transmits : s.SendTransmit) : s.txState ≠ .idle := by
    rw [transmits.state]
    decide
  cases step with
  | unheard _ quiet | singleDropped _ _ quiet | firstRefused _ _ quiet | mismatched _ _ _ quiet
  | completedDropped _ _ _ _ quiet => simp [quiet.frames] at member
  | single _ _ quiet => simp [quiet.frames] at member
  | first _ _ _ quiet => exact (flows (by simpa [quiet.frames] using member)).elim
  | blockCompleted => exact (flows member).elim
  | sentSingle | sentFirst =>
    rw [List.mem_singleton.mp member]
    exact ⟨rfl,.inl ⟨_,rfl⟩⟩
  | sentLast transmits | sentBlock transmits | sentNext transmits =>
    rw [List.mem_singleton.mp member]
    exact ⟨rfl,.inr ⟨busy transmits,_,rfl⟩⟩
  | _ => simp at member

theorem Transition.busy (step : s.Transition event outputs t) (busy : t.txState ≠ .idle) :
    s.txState ≠ .idle ∨ ∃ outcome, event = .dequeue outcome := by
  cases step with
  | sentFirst => exact .inr ⟨_,rfl⟩
  | granted _ waits | delayed _ waits =>
    rw [waits]
    exact .inl (by decide)
  | sentBlock transmits | sentNext transmits =>
    rw [transmits.state]
    exact .inl (by decide)
  | refused | flowControlTimeout | sendCancelled | sentLast => exact absurd rfl busy
  | dequeueCancelled | sentSingle => exact absurd rfl busy
  | _ => exact .inl busy

theorem Transition.txQueue (step : s.Transition event outputs t) :
    match event with
    | .send data => t.txDataChan.buffer = s.txDataChan.buffer ++ [data]
    | .dequeue _ => ∃ payload, s.txDataChan.buffer = payload :: t.txDataChan.buffer
    | _ => t.txDataChan.buffer = s.txDataChan.buffer := by
  cases step with
  | dequeueCancelled _ queue | sentSingle _ queue | sentFirst _ queue =>
    exact ⟨_,(Chan.poll_some queue).1⟩
  | submitted _ room => exact (Chan.offer_some room).1
  | _ => rfl

end Canbuskit.Isotp.Session

namespace Canbuskit.Uds
open Can Channel Isotp Runs

/-- The client with its session. The transmit IDs of the requests whose payloads are in the
session's queue, and of the one whose payload it took last, are kept beside it. -/
structure Client where
  phase : Phase
  stack : Session
  funcAddr : Option Address
  queued : List (Option UInt32)
  sending : Option UInt32

/-- What a caller or the client does, or the session's run loop. -/
inductive ClientEvent where
  | setFunctionalAddress (addr : Option Address)
  | start (r : Request)
  | act (action : Action)
  | stack (event : Event)

def ClientEvent.starts : ClientEvent → Option Request
  | .start r => some r
  | _ => none

/-- The request that holds the client. -/
def Phase.request : Phase → Option Request
  | .idle => none
  | .draining r _ => some r
  | .sending r _ => some r
  | .waiting r _ _ => some r
  | .retrying r _ => some r

namespace Client

def newClient (stack : Session) : Client := ⟨.idle,stack,none,[],none⟩

def setTxAddressLocked (c : Client) (mode : AddressingMode) : Except AddressingError Session :=
  if mode = addressPhysical then (c.stack.setTxAddress none).mapError .setTxAddress
  else if mode = addressFunctional then match c.funcAddr with
    | none => .error .functionalAddressNotSet
    | some addr => (c.stack.setTxAddress (some addr)).mapError .setTxAddress
  else .error (.unknownAddressingMode mode)

/-- The transmit ID of an addressing mode. -/
def modeTxID (c : Client) (mode : AddressingMode) : Option UInt32 :=
  if mode = addressPhysical then some c.stack.address.txID
  else if mode = addressFunctional then c.funcAddr.map Address.txID
  else none

/-- Whether an action of the client can occur: it sees the receive channel as it is. -/
def admits (c : Client) : Action → Bool
  | .start _ => false
  | .drain data => c.stack.rxDataChan.buffer.head? == some data
  | .signal (.received _ data) => c.stack.rxDataChan.buffer.head? == some data
  | .drained => c.stack.rxDataChan.buffer.isEmpty
  | _ => true

/-- The session's part in an action. -/
def stackEvent (c : Client) : Action → Option Event
  | .drain _ => some .receive
  | .signal (.received _ _) => some .receive
  | .sent _ => c.phase.request.map fun r => .send r.payload
  | _ => none

/-- The client after a step of its session: a submitted payload is its request's. -/
def follow (c : Client) (event : Event) (stack : Session) : Client :=
  match event with
  | .send _ => { c with
      stack := stack, queued := c.queued ++ [c.phase.request.bind fun r => c.modeTxID r.mode] }
  | .dequeue _ => { c with stack := stack, queued := c.queued.tail, sending := c.queued.head?.join }
  | _ => { c with stack := stack }

@[simp] theorem follow_stack (c : Client) (event : Event) (stack : Session) :
    (c.follow event stack).stack = stack := by
  cases event <;> rfl

@[simp] theorem follow_phase (c : Client) (event : Event) (stack : Session) :
    (c.follow event stack).phase = c.phase := by
  cases event <;> rfl

@[simp] theorem follow_funcAddr (c : Client) (event : Event) (stack : Session) :
    (c.follow event stack).funcAddr = c.funcAddr := by
  cases event <;> rfl

def runLoop : Event → Bool
  | .frame _ _ => true
  | .dequeue _ => true
  | .expireRxCF => true
  | .expireRxFC => true
  | .expireTxSTmin _ => true
  | _ => false

def step (c : Client) : ClientEvent → Option (Client × List Output × Option Response)
  | .setFunctionalAddress addr => match c.phase with
    | .idle => match Address.validate addr with
      | .ok () => some ({ c with funcAddr := addr },[],none)
      | .error _ => some (c,[],none)
    | _ => none
  | .start r => match c.phase.step (.start r) with
    | none => none
    | some (phase,response) => match c.setTxAddressLocked r.mode with
      | .ok stack => some ({ c with phase := phase, stack := stack },[],response)
      | .error error => some (c,[],some (none,some (.addressing error)))
  | .act action =>
    if !c.admits action then none
    else match c.phase.step action with
      | none => none
      | some (phase,response) => match c.stackEvent action with
        | none => some ({ c with phase := phase },[],response)
        | some event => match c.stack.step event with
          | none => none
          | some (stack,outputs) => some ({ c.follow event stack with phase := phase },outputs,response)
  | .stack event =>
    if !runLoop event then none
    else match c.stack.step event with
      | none => none
      | some (stack,outputs) => some (c.follow event stack,outputs,none)

end Client

structure ClientMove where
  before : Client
  event : ClientEvent
  outputs : List Output
  response : Option Response
  after : Client

namespace ClientMove

def Step (c : Client) (move : ClientMove) (d : Client) : Prop :=
  move.before = c ∧ move.after = d ∧ c.step move.event = some (d,move.outputs,move.response)

/-- The transmit ID of the request whose payload a move sends bytes of. -/
def owner (move : ClientMove) : Option UInt32 :=
  match move.event with
  | .stack (.dequeue _) => move.before.queued.head?.join
  | .stack (.expireTxSTmin _) => move.before.sending
  | _ => none

/-- Each Single, First and Consecutive Frame has the transmit ID of its request. -/
def Addressed (move : ClientMove) : Prop :=
  ∀ msg ∈ frames move.outputs, (Output.frame msg).sent = true → move.owner = some msg.arbitrationID

/-- A request that changes the transmit ID finds nothing left to send. -/
def Settled (move : ClientMove) : Prop :=
  ∀ r ∈ move.event.starts, ∀ id ∈ move.before.modeTxID r.mode, id = move.before.stack.currentTxID ∨
    move.before.stack.txState = .idle ∧ move.before.stack.txDataChan.buffer = []

-- named, because the instance search may prefer to try all transmit IDs
instance (move : ClientMove) : Decidable move.Settled :=
  @Option.decidableForallMem _ _ (fun _ => @Option.decidableForallMem _ _ (fun _ => inferInstance) _) _

end ClientMove

def Client.execute (c : Client) (events : List ClientEvent) : Option (List ClientMove × Client) :=
  Runs.execute (fun c event => match c.step event with
    | none => none
    | some (d,outputs,response) => some (⟨c,event,outputs,response,d⟩,d)) c events

theorem Client.execute_run {c d : Client} {events : List ClientEvent} {moves : List ClientMove}
    (executed : c.execute events = some (moves,d)) : Run ClientMove.Step c moves d := by
  refine Runs.execute_run ?_ executed
  intro u event move v taken
  split at taken
  · contradiction
  · rename_i stepped
    obtain ⟨rfl,rfl⟩ := Prod.mk.inj (Option.some.inj taken)
    exact ⟨rfl,rfl,stepped⟩

/-- Every payload in the session was submitted for the transmit ID that is set. -/
structure Client.Uniform (c : Client) : Prop where
  sound : c.stack.Sound
  waiting : c.queued.length = c.stack.txDataChan.buffer.length
  queued : ∀ id ∈ c.queued, id = some c.stack.currentTxID
  sending : c.stack.txState ≠ .idle → c.sending = some c.stack.currentTxID
  request : ∀ r, c.phase.request = some r → c.modeTxID r.mode = some c.stack.currentTxID

theorem Phase.step_request {p q : Phase} {action : Action} {response : Option Response} {r : Request}
    (taken : p.step action = some (q,response)) (started : ∀ r, action ≠ .start r)
    (holds : q.request = some r) : p.request = some r := by
  have finished (other : Request) (attempt : Int) (outcome : Response)
      (result : some (finish other attempt outcome) = some (q,response)) : other = r := by
    unfold finish at result
    split at result
    · cases result
      exact Option.some.inj holds
    · cases result
      contradiction
  unfold step at taken
  split at taken
  · exact absurd rfl (started _)
  · cases taken
    exact holds
  · cases taken
    exact holds
  · cases taken
    exact holds
  · exact congrArg some (finished _ _ _ taken)
  · split at taken
    · contradiction
    · cases taken
      exact holds
    · exact congrArg some (finished _ _ _ taken)
  · cases taken
    exact holds
  · cases taken
    contradiction
  · contradiction

namespace Client

theorem setTxAddressLocked_ok {c : Client} {mode : AddressingMode} {stack : Session}
    (accepted : c.setTxAddressLocked mode = .ok stack) :
    ∃ address, c.stack.step (.setTxAddress address) = some (stack,[]) ∧
      stack = { c.stack with txAddress := address } ∧ c.modeTxID mode = some stack.currentTxID := by
  unfold setTxAddressLocked at accepted
  unfold modeTxID
  split_ifs at accepted ⊢ with physical functional
  · cases accepted
    exact ⟨none,rfl,rfl,rfl⟩
  · cases address : c.funcAddr with
    | none => simp [address] at accepted
    | some target =>
      simp only [address,Session.setTxAddress] at accepted
      cases valid : Address.validate (some target) with
      | error => simp [valid,Except.mapError] at accepted
      | ok =>
        rw [valid] at accepted
        cases accepted
        exact ⟨some target,by simp only [Session.step,Session.setTxAddress,valid],rfl,rfl⟩

theorem Uniform.head {c : Client} (uniform : c.Uniform) {payload : Bytes} {rest : List Bytes}
    (queue : c.stack.txDataChan.buffer = payload :: rest) :
    c.queued.head?.join = some c.stack.currentTxID := by
  have waiting := uniform.waiting
  rw [queue,List.length_cons] at waiting
  obtain ⟨id,later,shape⟩ := List.exists_cons_of_length_eq_add_one waiting
  rw [shape,List.head?_cons,Option.join_some]
  exact uniform.queued id (by simp [shape])

/-- A step of the session keeps the payloads with their transmit IDs. -/
theorem Uniform.step {c : Client} (uniform : c.Uniform) {event : Event} {stack : Session}
    {outputs : List Output} (taken : c.stack.step event = some (stack,outputs))
    (unaddressed : ∀ address, event ≠ .setTxAddress address)
    (submits : ∀ data, event = .send data → c.phase.request.isSome) :
    (c.follow event stack).Uniform := by
  have step := Session.step_transition uniform.sound taken
  have current : stack.currentTxID = c.stack.currentTxID := by
    unfold Session.currentTxID
    rw [step.txAddress unaddressed,step.address]
  have request (r : Request) (holds : (c.follow event stack).phase.request = some r) :
      (c.follow event stack).modeTxID r.mode = some stack.currentTxID := by
    have before := uniform.request r (by simpa using holds)
    unfold modeTxID at before ⊢
    rw [follow_stack,follow_funcAddr,step.address,current]
    exact before
  have old (id : Option UInt32) (member : id ∈ c.queued) : id = some stack.currentTxID := by
    rw [current]
    exact uniform.queued id member
  have sending (busy : c.stack.txState ≠ .idle) : c.sending = some stack.currentTxID := by
    rw [current]
    exact uniform.sending busy
  have queue := step.txQueue
  have waiting := uniform.waiting
  refine ⟨by simpa using step.sound uniform.sound,?_,?_,?_,by simpa using request⟩
  · rw [follow_stack]
    cases event with
    | send data =>
      simp only [follow,List.length_append,List.length_singleton] at queue ⊢
      rw [queue,List.length_append,List.length_singleton,waiting]
    | dequeue outcome =>
      obtain ⟨payload,queue⟩ := queue
      simp only [follow,List.length_tail]
      rw [waiting,queue,List.length_cons,Nat.add_sub_cancel]
    | _ => exact waiting.trans (congrArg List.length queue.symm)
  · rw [follow_stack]
    intro id member
    cases event with
    | send data =>
      rcases List.mem_append.mp member with before | new
      · exact old id before
      · obtain ⟨r,holds⟩ := Option.isSome_iff_exists.mp (submits data rfl)
        rw [List.mem_singleton.mp new,holds,current]
        exact uniform.request r holds
    | dequeue outcome => exact old id (List.mem_of_mem_tail member)
    | _ => exact old id member
  · rw [follow_stack]
    intro busy
    cases event with
    | dequeue outcome =>
      obtain ⟨payload,queue⟩ := queue
      rw [current]
      exact uniform.head queue
    | _ =>
      rcases step.busy busy with before | ⟨_,impossible⟩
      · exact sending before
      · contradiction

theorem Uniform.phase {c : Client} (uniform : c.Uniform) {phase : Phase}
    (holds : ∀ r, phase.request = some r → c.phase.request = some r) :
    ({ c with phase := phase } : Client).Uniform :=
  ⟨uniform.sound,uniform.waiting,uniform.queued,uniform.sending,
    fun r request => uniform.request r (holds r request)⟩

theorem stackEvent_cases {c : Client} {action : Action} {event : Event}
    (part : c.stackEvent action = some event) :
    event = .receive ∨ ∃ r, c.phase.request = some r ∧ event = .send r.payload := by
  unfold stackEvent at part
  split at part
  · exact .inl (Option.some.inj part).symm
  · exact .inl (Option.some.inj part).symm
  · obtain ⟨r,holds,sends⟩ := Option.map_eq_some_iff.mp part
    exact .inr ⟨r,holds,sends.symm⟩
  · contradiction

theorem Uniform.start {c : Client} (uniform : c.Uniform) {r : Request} {phase : Phase}
    {stack : Session} (accepted : c.setTxAddressLocked r.mode = .ok stack)
    (holds : ∀ other, phase.request = some other → other = r)
    (settled : ∀ id ∈ c.modeTxID r.mode, id = c.stack.currentTxID ∨
      c.stack.txState = .idle ∧ c.stack.txDataChan.buffer = []) :
    ({ c with phase := phase, stack := stack } : Client).Uniform := by
  obtain ⟨address,taken,rfl,mode⟩ := setTxAddressLocked_ok accepted
  have sound := (Session.step_transition uniform.sound taken).sound uniform.sound
  have request (other : Request) (request : phase.request = some other) :
      c.modeTxID other.mode = some ({ c.stack with txAddress := address } : Session).currentTxID := by
    rw [holds other request]
    exact mode
  rcases settled _ mode with same | ⟨rests,empty⟩
  · refine ⟨sound,uniform.waiting,?_,?_,request⟩
    · intro id member
      rw [same]
      exact uniform.queued id member
    · intro busy
      rw [same]
      exact uniform.sending busy
  · have none : c.queued = [] := List.eq_nil_of_length_eq_zero (uniform.waiting.trans (by rw [empty]; rfl))
    exact ⟨sound,uniform.waiting,by simp [none],fun busy => absurd rests busy,request⟩

end Client

theorem ClientMove.Step.uniform {c d : Client} {move : ClientMove} (uniform : c.Uniform)
    (settled : move.Settled) (step : ClientMove.Step c move d) : d.Uniform := by
  obtain ⟨before,event,outputs,response,after⟩ := move
  obtain ⟨rfl,rfl,taken⟩ := step
  dsimp only at taken uniform
  cases event with
  | setFunctionalAddress addr =>
    simp only [Client.step] at taken
    split at taken
    · rename_i idle
      split at taken
      · cases taken
        refine ⟨uniform.sound,uniform.waiting,uniform.queued,uniform.sending,?_⟩
        intro r holds
        simp [idle,Phase.request] at holds
      · cases taken
        exact uniform
    · contradiction
  | start r =>
    simp only [Client.step] at taken
    split at taken
    · contradiction
    · rename_i phase _ started
      have holds (other : Request) (request : phase.request = some other) : other = r := by
        cases idle : before.phase <;> rw [idle] at started <;> cases started
        exact (Option.some.inj request).symm
      split at taken
      · rename_i accepted
        cases taken
        exact uniform.start accepted holds (settled r rfl)
      · cases taken
        exact uniform
  | act action =>
    simp only [Client.step] at taken
    split_ifs at taken with admitted
    have started (r : Request) (same : action = .start r) : False := by
      rw [same] at admitted
      exact admitted rfl
    split at taken
    · contradiction
    · rename_i phase _ stepped
      have holds (r : Request) (request : phase.request = some r) : before.phase.request = some r :=
        Phase.step_request stepped started request
      split at taken
      · cases taken
        exact uniform.phase holds
      · rename_i event part
        split at taken
        · contradiction
        · rename_i stack outputs moved
          cases taken
          refine (uniform.step moved ?_ ?_).phase (by simpa using holds)
          · intro address same
            rcases Client.stackEvent_cases part with receives | ⟨_,_,sends⟩ <;> simp_all
          · intro data same
            rcases Client.stackEvent_cases part with receives | ⟨r,request,_⟩
            · simp [receives] at same
            · simp [request]
  | stack event =>
    simp only [Client.step] at taken
    split_ifs at taken with loop
    split at taken
    · contradiction
    · rename_i stack outputs moved
      cases taken
      refine uniform.step moved ?_ ?_
      · rintro address rfl
        exact loop rfl
      · rintro data rfl
        exact absurd rfl loop

theorem ClientMove.Step.addressed {c d : Client} {move : ClientMove} (uniform : c.Uniform)
    (step : ClientMove.Step c move d) : move.Addressed := by
  obtain ⟨before,event,outputs,response,after⟩ := move
  obtain ⟨rfl,rfl,taken⟩ := step
  dsimp only at taken uniform
  intro msg member sent
  dsimp only at member
  have framed {event : Event} {stack : Session} (moved : before.stack.step event = some (stack,outputs)) :=
    (Session.step_transition uniform.sound moved).sent_id member sent
  cases event with
  | setFunctionalAddress addr =>
    simp only [Client.step] at taken
    split at taken
    · split at taken <;> cases taken <;> simp at member
    · contradiction
  | start r =>
    simp only [Client.step] at taken
    split at taken
    · contradiction
    · split at taken <;> cases taken <;> simp at member
  | act action =>
    simp only [Client.step] at taken
    split_ifs at taken
    split at taken
    · contradiction
    · split at taken
      · cases taken
        simp at member
      · rename_i event part
        split at taken
        · contradiction
        · rename_i stack _ moved
          cases taken
          obtain ⟨_,⟨_,impossible⟩ | ⟨_,_,impossible⟩⟩ := framed moved <;>
            rcases Client.stackEvent_cases part with receives | ⟨_,_,sends⟩ <;> simp_all
  | stack event =>
    simp only [Client.step] at taken
    split_ifs at taken
    split at taken
    · contradiction
    · rename_i stack _ moved
      cases taken
      obtain ⟨id,⟨outcome,rfl⟩ | ⟨busy,outcome,rfl⟩⟩ := framed moved
      · obtain ⟨payload,queue⟩ := (Session.step_transition uniform.sound moved).txQueue
        simp only [ClientMove.owner]
        rw [uniform.head queue,id]
      · simp only [ClientMove.owner]
        rw [uniform.sending busy,id]

theorem ClientMove.Step.sending {c d : Client} {move : ClientMove} (step : ClientMove.Step c move d)
    (within : ∀ outcome, move.event ≠ .stack (.dequeue outcome)) : d.sending = c.sending := by
  obtain ⟨before,event,outputs,response,after⟩ := move
  obtain ⟨rfl,rfl,taken⟩ := step
  dsimp only at taken within ⊢
  cases event with
  | setFunctionalAddress addr =>
    simp only [Client.step] at taken
    split at taken
    · split at taken <;> cases taken <;> rfl
    · contradiction
  | start r =>
    simp only [Client.step] at taken
    split at taken
    · contradiction
    · split at taken <;> cases taken <;> rfl
  | act action =>
    simp only [Client.step] at taken
    split_ifs at taken
    split at taken
    · contradiction
    · split at taken
      · cases taken
        rfl
      · rename_i event part
        split at taken
        · contradiction
        · cases taken
          rcases Client.stackEvent_cases part with rfl | ⟨_,_,rfl⟩ <;> rfl
  | stack event =>
    simp only [Client.step] at taken
    split_ifs at taken
    split at taken
    · contradiction
    · cases taken
      cases event with
      | dequeue outcome => exact absurd rfl (within outcome)
      | _ => rfl

theorem run_sending {c d : Client} {moves : List ClientMove} (run : Run ClientMove.Step c moves d)
    (within : ∀ move ∈ moves, ∀ outcome, move.event ≠ .stack (.dequeue outcome)) :
    d.sending = c.sending := by
  have restricted := Run.restrict_iff.mpr ⟨run,within⟩
  refine restricted.invariant (fun d => d.sending = c.sending) rfl ?_
  rintro d move e same ⟨step,within⟩
  exact (step.sending within).trans same

theorem newClient_uniform {address : Option Address} {cfg : Isotp.Config} {fd : Bool} {stack : Session}
    (created : newSession address cfg fd = .ok stack) : (Client.newClient stack).Uniform := by
  refine ⟨newSession_sound created,?_,by simp [Client.newClient],?_,by simp [Client.newClient,Phase.request]⟩
  all_goals
    obtain ⟨_,_,_,_,_,rfl⟩ := newSession_ok created
    simp [Client.newClient,Session.fresh]

/-- While each request that changes the transmit ID finds nothing left to send, every frame of a
payload has the transmit ID of its request, and those of one message have one. -/
theorem request_frames_addressed {address : Option Address} {cfg : Isotp.Config} {fd : Bool}
    {stack : Session} {c : Client} {moves : List ClientMove}
    (created : newSession address cfg fd = .ok stack)
    (run : Run ClientMove.Step (Client.newClient stack) moves c)
    (settled : ∀ move ∈ moves, move.Settled) :
    (∀ move ∈ moves, move.Addressed) ∧
    ∀ past first middle next later outcome other, moves = past ++ first :: (middle ++ next :: later) →
      first.event = .stack (.dequeue outcome) → next.event = .stack (.expireTxSTmin other) →
      (∀ move ∈ middle, ∀ outcome, move.event ≠ .stack (.dequeue outcome)) →
      ∀ msg ∈ frames first.outputs, ∀ following ∈ frames next.outputs,
        (Output.frame msg).sent = true → (Output.frame following).sent = true →
        following.arbitrationID = msg.arbitrationID := by
  have addressed : ∀ move ∈ moves, move.Addressed := by
    intro move member
    obtain ⟨past,later,before,after,rfl,first,step,_⟩ := run.cut_mem member
    have restricted := Run.restrict_iff.mpr ⟨first,fun move member => settled move (by simp [member])⟩
    refine step.addressed (restricted.invariant _ (newClient_uniform created) ?_)
    rintro _ _ _ uniform ⟨step,settled⟩
    exact step.uniform uniform settled
  refine ⟨addressed,?_⟩
  rintro past first middle next later outcome other rfl dequeues expires within msg sent following sends data more
  obtain ⟨before,after,_,taken,rest⟩ := run.cut
  obtain ⟨last,_,between,⟨rfl,_,_⟩,_⟩ := rest.cut
  have one := addressed first (by simp) msg sent data
  have two := addressed next (by simp) following sends more
  have same : next.before.sending = after.sending := run_sending between within
  simp only [ClientMove.owner,dequeues,expires] at one two
  have taking : after.sending = first.before.queued.head?.join := by
    obtain ⟨rfl,rfl,taken⟩ := taken
    rw [dequeues] at taken
    simp only [Client.step] at taken
    split_ifs at taken
    split at taken
    · contradiction
    · rw [← (Prod.mk.inj (Option.some.inj taken)).1]
      rfl
  rw [same,taking,one] at two
  exact (Option.some.inj two).symm

/-- A write of 17 bytes, in either addressing mode. -/
def writeRequest (mode : AddressingMode) : Request where
  payload := [0x2E,0xF1,0x90,1,2,3,4,5,6,7,8,9,10,11,12,13,14,15,16,17]
  opts := defaultRequestOptions
  mode := mode
  nonempty := List.cons_ne_nil _ _
  valid := normalizeRequestOptions_valid defaultRequestOptions_valid

/-- A physical write that takes three frames, answered, and then a functional request. -/
theorem request_frames_addressed_settled :
    ∃ stack moves c, newSession (some ⟨0x7E0,0x7E8⟩) defaultConfig false = .ok stack ∧
      Run ClientMove.Step (Client.newClient stack) moves c ∧
      moves.flatMap (fun move => (frames move.outputs).map (·.arbitrationID)) =
        [0x7E0,0x7E0,0x7E0,0x7DF] ∧ ∀ move ∈ moves, move.Addressed := by
  have executed : ((Client.newClient (.fresh ⟨0x7E0,0x7E8⟩ defaultConfig false)).execute
      [.setFunctionalAddress (some ⟨0x7DF,0x7E8⟩),.start (writeRequest addressPhysical),.act .drained,
        .act (.sent 0),.stack (.dequeue .queued),.stack (.frame ⟨0x7E8,[0x30,0,0],false⟩ .queued),
        .stack (.expireTxSTmin .queued),.stack (.expireTxSTmin .queued),
        .stack (.frame ⟨0x7E8,[3,0x6E,0xF1,0x90],false⟩ .queued),
        .act (.signal (.received 1 [0x6E,0xF1,0x90])),.start (writeRequest addressFunctional),
        .act .drained,.act (.sent 2),.stack (.dequeue .queued)]).map
      (fun result => (result.1.flatMap fun move => (frames move.outputs).map (·.arbitrationID),
        result.1.all fun move => decide move.Settled)) = some ([0x7E0,0x7E0,0x7E0,0x7DF],true) := by
    decide +kernel
  obtain ⟨⟨moves,c⟩,executed,shown⟩ := Option.map_eq_some_iff.mp executed
  obtain ⟨sent,settled⟩ := Prod.mk.inj shown
  have run := Client.execute_run executed
  have created : newSession (some ⟨0x7E0,0x7E8⟩) defaultConfig false =
      .ok (.fresh ⟨0x7E0,0x7E8⟩ defaultConfig false) := rfl
  have starts : ∀ move ∈ moves, move.Settled :=
    fun move member => of_decide_eq_true (List.all_eq_true.mp settled move member)
  exact ⟨_,moves,c,created,run,sent,(request_frames_addressed created run starts).1⟩

/-- The Consecutive Frames of a physical write that has timed out leave with the transmit ID of
the functional request after it. -/
theorem request_frames_misaddressed :
    ¬ ∀ stack moves c, newSession (some ⟨0x7E0,0x7E8⟩) defaultConfig false = .ok stack →
      Run ClientMove.Step (Client.newClient stack) moves c → ∀ move ∈ moves, move.Addressed := by
  intro addressed
  have executed : ((Client.newClient (.fresh ⟨0x7E0,0x7E8⟩ defaultConfig false)).execute
      [.setFunctionalAddress (some ⟨0x7DF,0x7E8⟩),.start (writeRequest addressPhysical),.act .drained,
        .act (.sent 0),.stack (.dequeue .queued),.act (.signal (.deadline 500000000)),
        .start (writeRequest addressFunctional),.stack (.frame ⟨0x7E8,[0x30,0,0],false⟩ .queued),
        .stack (.expireTxSTmin .queued)]).map
      (fun result => result.1.any fun move => (frames move.outputs).any fun msg =>
        (Output.frame msg).sent && move.owner != some msg.arbitrationID) = some true := by
    decide +kernel
  obtain ⟨⟨moves,c⟩,executed,wrong⟩ := Option.map_eq_some_iff.mp executed
  have run := Client.execute_run executed
  obtain ⟨move,member,wrong⟩ := List.any_eq_true.mp wrong
  obtain ⟨msg,sent,wrong⟩ := List.any_eq_true.mp wrong
  have right := addressed _ moves c rfl run move member msg sent
  simp only [Bool.and_eq_true,bne_iff_ne,ne_eq] at wrong
  exact wrong.2 (right wrong.1)

end Canbuskit.Uds
