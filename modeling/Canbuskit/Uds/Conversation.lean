import Canbuskit.Isotp.EndToEnd
import Canbuskit.Uds.Addressing

/-! A client on the left session of the system. What it does to its session it does at that end of
the link, while the goroutines, the callers of the right session and others on the link go on. A
step of the conversation is a step of the client, a step of the system, or both. -/
namespace Canbuskit.Uds
open Can Channel Isotp Runs

def ClientEvent.own : ClientEvent → Bool
  | .stack _ => false
  | _ => true

namespace Client

variable {c d : Client} {outputs : List Output} {response : Option Response}

theorem step_act {action : Action} (taken : c.step (.act action) = some (d,outputs,response)) :
    c.admits action = true ∧ ∃ phase, c.phase.step action = some (phase,response) ∧
      match c.stackEvent action with
      | none => d = { c with phase := phase } ∧ outputs = []
      | some event => ∃ stack, c.stack.step event = some (stack,outputs) ∧
          d = { c.follow event stack with phase := phase } := by
  simp only [step] at taken
  split_ifs at taken with refused
  split at taken
  · contradiction
  · rename_i phase _ stepped
    refine ⟨by simpa using refused,phase,?_⟩
    cases part : c.stackEvent action with
    | none =>
      rw [part] at taken
      cases taken
      exact ⟨stepped,rfl,rfl⟩
    | some event =>
      rw [part] at taken
      dsimp only at taken ⊢
      cases moved : c.stack.step event with
      | none => simp [moved] at taken
      | some made =>
        obtain ⟨stack,_⟩ := made
        rw [moved] at taken
        cases taken
        exact ⟨stepped,stack,rfl,rfl⟩

theorem step_setFunctionalAddress {addr : Option Address}
    (taken : c.step (.setFunctionalAddress addr) = some (d,outputs,response)) :
    d.stack = c.stack ∧ d.phase = c.phase ∧ outputs = [] ∧ response = none := by
  simp only [step] at taken
  split at taken
  · split at taken
    · cases taken
      exact ⟨rfl,rfl,rfl,rfl⟩
    · cases taken
      exact ⟨rfl,rfl,rfl,rfl⟩
  · contradiction

/-- A physical request leaves the session of a client that made no other as it is. -/
theorem step_start {r : Request} (taken : c.step (.start r) = some (d,outputs,response))
    (physical : r.mode = addressPhysical) (plain : c.stack.txAddress = none) :
    d = { c with phase := .draining r 0 } ∧ outputs = [] ∧ response = none := by
  have same : c.setTxAddressLocked r.mode = .ok c.stack := by
    rw [setTxAddressLocked,if_pos physical,Session.setTxAddress,← plain]
    rfl
  simp only [step,same] at taken
  cases phase : c.phase with
  | idle =>
    rw [phase] at taken
    cases taken
    exact ⟨rfl,rfl,rfl⟩
  | draining | sending | waiting | retrying => simp [phase,Phase.step] at taken

end Client

/-- The client beside a move of its session that it did not make. -/
def Client.heed (c : Client) (made : Option Move) (stack : Session) : Client :=
  match made with
  | none => { c with stack := stack }
  | some made => c.follow made.event stack

@[simp] theorem Client.heed_stack (c : Client) (made : Option Move) (stack : Session) :
    (c.heed made stack).stack = stack := by
  cases made with
  | none => rfl
  | some made => exact c.follow_stack made.event stack

def ClientMove.call (move : ClientMove) : Option Move :=
  match move.event with
  | .act action => (move.before.stackEvent action).map fun event =>
      ⟨move.before.stack,event,move.outputs,move.after.stack⟩
  | _ => none

structure Conversation where
  client : Client
  system : System
  shared : client.stack = (system.stack .left).session

/-- The client is the only caller of the left session. -/
inductive Talk where
  | client (event : ClientEvent)
  | others (deal : Deal)

structure Spoken where
  talk : Talk
  dealt : Option Dealt
  move : Option ClientMove

def Talk.admissible (address : Side → Address) : Talk → Bool
  | .client (.start r) => r.mode = addressPhysical ∧ r.payload.length < 2^32
  | .client _ => true
  | .others deal => deal.admissible address

namespace Conversation

def start (s : System) : Conversation := ⟨Client.newClient (s.stack .left).session,s,rfl⟩

def attach (c : Conversation) (client : Client) : Conversation :=
  ⟨client,c.system.set .left { c.system.stack .left with session := client.stack } c.system.link,by simp⟩

def dealt (move : ClientMove) : Option Dealt :=
  move.call.map fun made => ⟨.own .left (.call made.event),some ⟨.left,made⟩⟩

/-- What a move of the left session is to the client. -/
def heard (c d : Client) (made : Move) : ClientMove := ⟨c,.stack made.event,made.outputs,none,d⟩

def react (c : Conversation) : Talk → Option (Spoken × Conversation)
  | .client event =>
    if event.own then (c.client.step event).map fun next =>
      let move : ClientMove := ⟨c.client,event,next.2.1,next.2.2,next.1⟩
      (⟨.client event,dealt move,some move⟩,c.attach next.1)
    else none
  | .others (.own .left (.call _)) => none
  | .others deal => (c.system.react deal).map fun next =>
      let made := System.moveAt .left next.1
      let client := c.client.heed made (next.2.stack .left).session
      (⟨.others deal,some ⟨deal,next.1⟩,made.map (heard c.client client)⟩,⟨client,next.2,by simp [client]⟩)

end Conversation

def Spoken.Step (c : Conversation) (label : Spoken) (d : Conversation) : Prop :=
  c.react label.talk = some (label,d)

def Conversation.execute (c : Conversation) (talks : List Talk) : Option (List Spoken × Conversation) :=
  Runs.execute Conversation.react c talks

theorem Conversation.react_talk {c d : Conversation} {talk : Talk} {label : Spoken}
    (taken : c.react talk = some (label,d)) : label.talk = talk := by
  unfold react at taken
  split at taken
  · split_ifs at taken
    obtain ⟨next,_,same⟩ := Option.map_eq_some_iff.mp taken
    cases same
    rfl
  · contradiction
  · obtain ⟨next,_,same⟩ := Option.map_eq_some_iff.mp taken
    cases same
    rfl

theorem Conversation.execute_run {c d : Conversation} {talks : List Talk} {labels : List Spoken}
    (executed : c.execute talks = some (labels,d)) : Run Spoken.Step c labels d := by
  refine Runs.execute_run ?_ executed
  intro c talk label d taken
  rw [Spoken.Step,Conversation.react_talk taken]
  exact taken

inductive Conversation.Speaks (c : Conversation) : Spoken → Conversation → Prop
  | client {event client outputs response} (own : event.own)
      (taken : c.client.step event = some (client,outputs,response)) :
      Speaks c ⟨.client event,dealt ⟨c.client,event,outputs,response,client⟩,
        some ⟨c.client,event,outputs,response,client⟩⟩ (c.attach client)
  | others {deal move system client shared} (apart : ∀ event, deal ≠ .own .left (.call event))
      (taken : c.system.react deal = some (move,system))
      (heeds : client = c.client.heed (System.moveAt .left move) (system.stack .left).session) :
      Speaks c ⟨.others deal,some ⟨deal,move⟩,(System.moveAt .left move).map (heard c.client client)⟩
        ⟨client,system,shared⟩

theorem Spoken.Step.speaks {c d : Conversation} {label : Spoken} (step : Spoken.Step c label d) :
    c.Speaks label d := by
  unfold Spoken.Step Conversation.react at step
  split at step
  · split_ifs at step with own
    obtain ⟨⟨client,outputs,response⟩,taken,same⟩ := Option.map_eq_some_iff.mp step
    cases same
    exact .client own taken
  · contradiction
  · rename_i deal apart _
    obtain ⟨⟨move,system⟩,taken,same⟩ := Option.map_eq_some_iff.mp step
    cases same
    exact .others (fun event same => apart event (by rw [same])) taken rfl

namespace Conversation

variable {address : Side → Address} {c d : Conversation} {label : Spoken}

theorem attach_same {client : Client} (same : client.stack = c.client.stack) :
    (c.attach client).system = c.system := by
  have stack : { c.system.stack .left with session := client.stack } = c.system.stack .left := by
    rw [same,c.shared]
  simp only [attach,stack,System.set,Function.update_eq_self]

theorem attach_called {client : Client} {event : Event} {outputs : List Output}
    (called : event.called) (taken : c.client.stack.step event = some (client.stack,outputs)) :
    Dealt.Step c.system
      ⟨.own .left (.call event),some ⟨.left,⟨c.client.stack,event,outputs,client.stack⟩⟩⟩
      (c.attach client).system := by
  rw [c.shared] at taken ⊢
  simp only [Dealt.Step,System.react,Turn.own,if_true,System.turn,Stack.react,called,taken,
    Option.map_some,attach]

theorem others_session {deal : Deal} {move : Option PairMove} {system : System}
    (apart : ∀ event, deal ≠ .own .left (.call event))
    (taken : c.system.react deal = some (move,system)) :
    match System.moveAt .left move with
    | none => (system.stack .left).session = c.client.stack
    | some made => Move.Step c.client.stack made (system.stack .left).session ∧
        made.event.called = false := by
  have session := (System.react_deals taken).session .left
  cases own : System.moveAt .left move with
  | none =>
    rw [own] at session
    exact session.trans c.shared.symm
  | some made =>
    rw [own] at session
    rw [c.shared]
    refine ⟨session.1,?_⟩
    cases called : made.event.called with
    | false => rfl
    | true => exact absurd (session.2 called) (apart made.event)

/-- Every step of the conversation is a step of the client, or leaves it alone. -/
theorem step_client (step : Spoken.Step c label d) :
    match label.move with
    | none => d.client = c.client
    | some move => ClientMove.Step c.client move d.client := by
  cases step.speaks with
  | client own taken => exact ⟨rfl,rfl,taken⟩
  | @others deal move system client shared apart taken heeds =>
    have session := others_session apart taken
    cases own : System.moveAt .left move with
    | none =>
      rw [own] at session heeds
      change client = c.client
      exact heeds.trans (congrArg (c.client.heed none) session)
    | some made =>
      rw [own] at session heeds
      obtain ⟨⟨_,_,stepped⟩,uncalled⟩ := session
      have looped : Client.runLoop made.event = true := by
        cases event : made.event <;> simp_all [Event.called,Client.runLoop]
      refine ⟨rfl,rfl,?_⟩
      simp only [heard,Client.step,looped,stepped,heeds,Client.heed]
      rfl

/-- A client whose session has its own address and whose request the protocol can carry. -/
structure Physical (c : Client) : Prop where
  sound : c.stack.Sound
  plain : c.stack.txAddress = none
  bounded : ∀ r, c.phase.request = some r → r.payload.length < 2^32

theorem Physical.follow {client next : Client} (physical : Physical client) {event : Event}
    {outputs : List Output} (taken : client.stack.step event = some (next.stack,outputs))
    (unaddressed : ∀ address, event ≠ .setTxAddress address)
    (holds : ∀ r, next.phase.request = some r → client.phase.request = some r) : Physical next := by
  have step := Session.step_transition physical.sound taken
  exact ⟨step.sound physical.sound,(step.txAddress unaddressed).trans physical.plain,
    fun r request => physical.bounded r (holds r request)⟩

theorem Physical.same {client next : Client} (physical : Physical client)
    (stack : next.stack = client.stack)
    (holds : ∀ r, next.phase.request = some r → client.phase.request = some r) : Physical next :=
  ⟨stack ▸ physical.sound,stack ▸ physical.plain,fun r request => physical.bounded r (holds r request)⟩

/-- Every step of the conversation is a step of the system, or leaves it alone. -/
theorem step_system (physical : Physical c.client) (admissible : label.talk.admissible address)
    (step : Spoken.Step c label d) : Physical d.client ∧
      match label.dealt with
      | none => d.system = c.system
      | some dealt => Dealt.Step c.system dealt d.system ∧ dealt.deal.admissible address := by
  cases step.speaks with
  | @client event client outputs response own taken =>
    cases event with
    | stack => contradiction
    | setFunctionalAddress addr =>
      obtain ⟨stack,phase,_,_⟩ := Client.step_setFunctionalAddress taken
      exact ⟨physical.same stack (by simp [attach,phase]),attach_same stack⟩
    | start r =>
      obtain ⟨mode,bounded⟩ : r.mode = addressPhysical ∧ r.payload.length < 2^32 := by
        simpa [Talk.admissible] using admissible
      obtain ⟨rfl,_,_⟩ := Client.step_start taken mode physical.plain
      refine ⟨⟨physical.sound,physical.plain,?_⟩,attach_same rfl⟩
      intro other request
      cases request
      exact bounded
    | act action =>
      obtain ⟨admits,phase,stepped,rest⟩ := Client.step_act taken
      have unstarted : ∀ r, action ≠ .start r := by
        rintro r rfl
        contradiction
      have holds (r : Request) : phase.request = some r → c.client.phase.request = some r :=
        Phase.step_request stepped unstarted
      cases part : c.client.stackEvent action with
      | none =>
        rw [part] at rest
        obtain ⟨rfl,_⟩ := rest
        simp only [dealt,ClientMove.call,part,Option.map_none]
        exact ⟨physical.same rfl holds,attach_same rfl⟩
      | some event =>
        rw [part] at rest
        obtain ⟨stack,moved,rfl⟩ := rest
        have call : event.called ∧ (∀ address, event ≠ .setTxAddress address) ∧
            (Deal.own .left (.call event)).admissible address := by
          rcases Client.stackEvent_cases part with rfl | ⟨r,request,rfl⟩
          · exact ⟨rfl,by simp,rfl⟩
          · exact ⟨rfl,by simp,by simpa [Deal.admissible] using ⟨r.nonempty,physical.bounded r request⟩⟩
        have session : c.client.stack.step event =
            some (({ c.client.follow event stack with phase := phase } : Client).stack,outputs) := by
          simpa using moved
        simp only [dealt,ClientMove.call,part,Option.map_some]
        exact ⟨physical.follow session call.2.1 holds,attach_called call.1 session,call.2.2⟩
  | @others deal move system client shared apart taken heeds =>
    refine ⟨?_,taken,admissible⟩
    have session := others_session apart taken
    cases own : System.moveAt .left move with
    | none =>
      rw [own] at session heeds
      exact physical.same (shared.trans session) (by simp [heeds,Client.heed])
    | some made =>
      rw [own] at session heeds
      obtain ⟨⟨_,_,stepped⟩,uncalled⟩ := session
      rw [← shared] at stepped
      refine physical.follow stepped ?_ (by simp [heeds,Client.heed])
      intro target same
      rw [same] at uncalled
      contradiction

end Conversation

def ClientMove.reply (move : ClientMove) : Option Bytes := move.response.bind Prod.fst

def ClientMove.attempt (move : ClientMove) : Option Bytes :=
  match move.event with
  | .act (.sent _) => move.before.phase.request.map Request.payload
  | _ => none

/-- The payload is a reply to the service of the request that holds the client. -/
def ClientMove.Answers (move : ClientMove) (data : Bytes) : Prop :=
  ∃ r, move.before.phase.request = some r ∧ replyTo r.requestSID data ≠ .foreign

/-- What has happened since the client last found the receive channel empty. -/
def SinceDrain (past after : List ClientMove) : Prop :=
  ∃ before drained, past = before ++ drained :: after ∧ drained.event = .act .drained ∧
    ∀ move ∈ after, move.event ≠ .act .drained

/-- The session has delivered the payload since then. -/
def Arrived (past : List ClientMove) (data : Bytes) : Prop :=
  ∃ after, SinceDrain past after ∧ ∃ move ∈ after, data ∈ payloads move.outputs

theorem Request.conclude_data {r : Request} {attempt : Int} {response final : Response} {data : Bytes}
    (concludes : r.conclude attempt response = some final) (carries : final.1 = some data) :
    response.1 = some data := by
  unfold conclude at concludes
  split at concludes
  · cases concludes
    contradiction
  · cases concludes
    contradiction
  · split_ifs at concludes
    cases concludes
    exact carries
  · cases concludes
    exact carries

theorem Request.next_data {r : Request} {w : Waiting} {signal : Signal} {response : Response}
    {data : Bytes} (decides : r.next w signal = some (.inr response)) (carries : response.1 = some data) :
    ∃ now, signal = .received now data ∧ replyTo r.requestSID data ≠ .foreign := by
  cases r.next_decides.mp decides with
  | positive now reply | tooManyPending now reply | negative now reply =>
    cases carries
    exact ⟨now,rfl,by simp [reply]⟩
  | stopped | suppressed | timeout | closed => contradiction

/-- A request returns a payload only when it has just received it and it is a reply. -/
theorem Phase.step_data {p q : Phase} {action : Action} {response : Response} {data : Bytes}
    (taken : p.step action = some (q,some response)) (carries : response.1 = some data) :
    ∃ r attempt w now, p = .waiting r attempt w ∧ action = .signal (.received now data) ∧
      replyTo r.requestSID data ≠ .foreign := by
  have finished {r : Request} {attempt : Int} {outcome : Response}
      (ends : finish r attempt outcome = (q,some response)) : outcome.1 = some data := by
    unfold finish at ends
    split at ends
    · cases ends
    · rename_i concludes
      cases ends
      exact r.conclude_data concludes carries
  unfold step at taken
  split at taken
  · cases taken
  · cases taken
  · cases taken
  · cases taken
  · cases finished (Option.some.inj taken)
  · rename_i r attempt w signal
    split at taken
    · contradiction
    · cases taken
    · rename_i decides
      obtain ⟨now,heard,reply⟩ := r.next_data decides (finished (Option.some.inj taken))
      exact ⟨r,attempt,w,now,rfl,congrArg Action.signal heard,reply⟩
  · cases taken
  · cases taken
    contradiction
  · contradiction

/-- The phases of an attempt between its drain and its outcome. -/
def Phase.drained : Phase → Bool
  | .sending _ _ => true
  | .waiting _ _ _ => true
  | _ => false

theorem Phase.step_drained {p q : Phase} {action : Action} {response : Option Response}
    (taken : p.step action = some (q,response)) (drained : q.drained = true) :
    action = .drained ∨ p.drained = true ∧ action ≠ .drained := by
  have finished {r : Request} {attempt : Int} {outcome : Response}
      (ends : finish r attempt outcome = (q,response)) : False := by
    unfold finish at ends
    split at ends <;> cases ends <;> contradiction
  unfold step at taken
  split at taken
  · cases taken
    contradiction
  · cases taken
    contradiction
  · exact .inl rfl
  · exact .inr ⟨rfl,by simp⟩
  · exact (finished (Option.some.inj taken)).elim
  · exact .inr ⟨rfl,by simp⟩
  · cases taken
    contradiction
  · cases taken
    contradiction
  · contradiction

theorem SinceDrain.snoc {past after : List ClientMove} (since : SinceDrain past after) {move : ClientMove}
    (other : move.event ≠ .act .drained) : SinceDrain (past ++ [move]) (after ++ [move]) := by
  obtain ⟨before,drained,rfl,drains,none⟩ := since
  refine ⟨before,drained,by simp,drains,?_⟩
  intro later member
  rcases List.mem_append.mp member with old | new
  · exact none later old
  · rw [List.mem_singleton.mp new]
    exact other

namespace ClientMove.Step

variable {c d : Client} {move : ClientMove}

theorem session (step : ClientMove.Step c move d) :
    d.stack = c.stack ∨ ∃ event, c.stack.step event = some (d.stack,move.outputs) := by
  obtain ⟨before,event,outputs,response,after⟩ := move
  obtain ⟨rfl,rfl,taken⟩ := step
  dsimp only at taken ⊢
  cases event with
  | setFunctionalAddress addr => exact .inl (Client.step_setFunctionalAddress taken).1
  | start r =>
    simp only [Client.step] at taken
    split at taken
    · contradiction
    · split at taken
      · rename_i accepted
        obtain ⟨target,stepped,_,_⟩ := Client.setTxAddressLocked_ok accepted
        cases taken
        exact .inr ⟨_,stepped⟩
      · cases taken
        exact .inl rfl
  | act action =>
    obtain ⟨_,phase,_,rest⟩ := Client.step_act taken
    split at rest
    · obtain ⟨rfl,_⟩ := rest
      exact .inl rfl
    · obtain ⟨stack,stepped,rfl⟩ := rest
      exact .inr ⟨_,by simpa using stepped⟩
  | stack event =>
    simp only [Client.step] at taken
    split_ifs at taken
    split at taken
    · contradiction
    · rename_i stepped
      cases taken
      exact .inr ⟨event,by simpa using stepped⟩

theorem sound (sound : c.stack.Sound) (step : ClientMove.Step c move d) : d.stack.Sound := by
  rcases step.session with same | ⟨event,taken⟩
  · exact same ▸ sound
  · exact (Session.step_transition sound taken).sound sound

theorem received (sound : c.stack.Sound) (step : ClientMove.Step c move d) {data : Bytes}
    (member : data ∈ d.stack.rxDataChan.buffer) :
    data ∈ c.stack.rxDataChan.buffer ∨ data ∈ payloads move.outputs := by
  rcases step.session with same | ⟨event,taken⟩
  · exact .inl (same ▸ member)
  · have queue := (Session.step_transition sound taken).queues.2
    apply List.mem_append.mp
    rw [queue]
    exact List.mem_append_right _ member

theorem drained (step : ClientMove.Step c move d) (drained : d.phase.drained = true) :
    move.event = .act .drained ∧ d.stack.rxDataChan.buffer = [] ∨
      move.event ≠ .act .drained ∧ c.phase.drained = true := by
  obtain ⟨before,event,outputs,response,after⟩ := move
  obtain ⟨rfl,rfl,taken⟩ := step
  dsimp only at taken drained ⊢
  cases event with
  | setFunctionalAddress addr =>
    rw [(Client.step_setFunctionalAddress taken).2.1] at drained
    exact .inr ⟨by simp,drained⟩
  | start r =>
    simp only [Client.step] at taken
    split at taken
    · contradiction
    · rename_i phase _ stepped
      split at taken
      · cases taken
        rcases Phase.step_drained stepped drained with same | ⟨before,_⟩
        · contradiction
        · exact .inr ⟨by simp,before⟩
      · cases taken
        exact .inr ⟨by simp,drained⟩
  | act action =>
    obtain ⟨admits,phase,stepped,rest⟩ := Client.step_act taken
    have after : (after.phase.drained = phase.drained) := by
      split at rest
      · rw [rest.1]
      · obtain ⟨_,_,rfl⟩ := rest
        rfl
    rcases Phase.step_drained stepped (after ▸ drained) with rfl | ⟨before,other⟩
    · obtain ⟨rfl,_⟩ := rest
      refine .inl ⟨rfl,?_⟩
      simpa [Client.admits] using admits
    · exact .inr ⟨by simpa using other,before⟩
  | stack event =>
    simp only [Client.step] at taken
    split_ifs at taken
    split at taken
    · contradiction
    · cases taken
      exact .inr ⟨by simp,by simpa using drained⟩

/-- A request returns the payload that it takes from the receive channel. -/
theorem reply (step : ClientMove.Step c move d) {data : Bytes} (replies : move.reply = some data) :
    (∃ now, move.event = .act (.signal (.received now data))) ∧ c.phase.drained = true ∧
      data ∈ c.stack.rxDataChan.buffer ∧ move.Answers data := by
  obtain ⟨before,event,outputs,response,after⟩ := move
  obtain ⟨rfl,rfl,taken⟩ := step
  dsimp only at taken ⊢
  obtain ⟨response,rfl,carries⟩ := Option.bind_eq_some_iff.mp replies
  cases event with
  | setFunctionalAddress addr =>
    cases (Client.step_setFunctionalAddress taken).2.2.2
  | start r =>
    simp only [Client.step] at taken
    split at taken
    · contradiction
    · rename_i stepped
      split at taken
      · cases taken
        obtain ⟨_,_,_,_,_,same,_⟩ := Phase.step_data stepped carries
        contradiction
      · cases taken
        contradiction
  | act action =>
    obtain ⟨admits,phase,stepped,_⟩ := Client.step_act taken
    obtain ⟨r,attempt,w,now,waits,rfl,answers⟩ := Phase.step_data stepped carries
    have head : before.stack.rxDataChan.buffer.head? = some data := by
      simpa [Client.admits] using admits
    refine ⟨⟨now,rfl⟩,by rw [waits]; rfl,List.mem_of_head? head,r,?_,answers⟩
    exact congrArg Phase.request waits
  | stack event =>
    simp only [Client.step] at taken
    split_ifs at taken
    split at taken
    · contradiction
    · cases taken

end ClientMove.Step

/-- Every payload that a request returns answers it and arrived since the request found the receive
channel empty. -/
theorem replies_fresh {c d : Client} {moves : List ClientMove} (run : Run ClientMove.Step c moves d)
    (sound : c.stack.Sound) (undrained : c.phase.drained = false) :
    Each (fun past move => ∀ data ∈ move.reply, move.Answers data ∧ Arrived past data) moves := by
  have final : d.stack.Sound ∧
      (d.phase.drained = true → ∃ after, SinceDrain moves after ∧
        ∀ data ∈ d.stack.rxDataChan.buffer, ∃ move ∈ after, data ∈ payloads move.outputs) ∧
      Each (fun past move => ∀ data ∈ move.reply, move.Answers data ∧ Arrived past data) moves := by
    refine run.history (fun past c => c.stack.Sound ∧
      (c.phase.drained = true → ∃ after, SinceDrain past after ∧
        ∀ data ∈ c.stack.rxDataChan.buffer, ∃ move ∈ after, data ∈ payloads move.outputs) ∧
      Each (fun past move => ∀ data ∈ move.reply, move.Answers data ∧ Arrived past data) past)
      ⟨sound,by simp [undrained],each_nil _⟩ ?_
    rintro past c move d - ⟨sound,arrived,each⟩ step
    refine ⟨step.sound sound,?_,each_snoc.mpr ⟨each,?_⟩⟩
    · intro drained
      rcases step.drained drained with ⟨drains,empty⟩ | ⟨other,before⟩
      · exact ⟨[],⟨past,move,rfl,drains,by simp⟩,by simp [empty]⟩
      · obtain ⟨after,since,delivers⟩ := arrived before
        refine ⟨after ++ [move],since.snoc other,?_⟩
        intro data member
        rcases step.received sound member with old | new
        · obtain ⟨earlier,inside,carried⟩ := delivers data old
          exact ⟨earlier,List.mem_append_left _ inside,carried⟩
        · exact ⟨move,by simp,new⟩
    · intro data replies
      obtain ⟨_,drained,member,answers⟩ := step.reply replies
      obtain ⟨after,since,delivers⟩ := arrived drained
      exact ⟨answers,after,since,delivers data member⟩
  exact final.2.2

namespace Conversation

variable {address : Side → Address} {c d : Conversation}

def clientMoves (labels : List Spoken) : List ClientMove := labels.filterMap Spoken.move

def dealings (labels : List Spoken) : List PairMove := pairMoves (labels.filterMap Spoken.dealt)

theorem run_client {labels : List Spoken} (run : Run Spoken.Step c labels d) :
    Run ClientMove.Step c.client (clientMoves labels) d.client := by
  obtain ⟨client,follows,same⟩ := run.simulate ClientMove.Step (fun c client => c.client = client)
    Spoken.move rfl (by
      rintro c label d _ rfl step
      have moved := step_client step
      cases own : label.move with
      | none =>
        rw [own] at moved
        exact moved
      | some move =>
        rw [own] at moved
        exact ⟨d.client,moved,rfl⟩)
  rw [same]
  exact follows

theorem run_system {labels : List Spoken} (run : Run Spoken.Step c labels d)
    (physical : Physical c.client) (admissible : ∀ label ∈ labels, label.talk.admissible address) :
    Run Dealt.Step c.system (labels.filterMap Spoken.dealt) d.system ∧
      ∀ dealt ∈ labels.filterMap Spoken.dealt, dealt.deal.admissible address := by
  have restricted := Run.restrict_iff.mpr ⟨run,admissible⟩
  obtain ⟨system,follows,_,same⟩ := restricted.simulate
    (fun s dealt t => Dealt.Step s dealt t ∧ dealt.deal.admissible address)
    (fun c system => Physical c.client ∧ c.system = system) Spoken.dealt ⟨physical,rfl⟩ (by
      rintro c label d _ ⟨physical,rfl⟩ ⟨step,admissible⟩
      obtain ⟨later,moved⟩ := step_system physical admissible step
      cases dealt : label.dealt with
      | none =>
        rw [dealt] at moved
        exact ⟨later,moved⟩
      | some dealt =>
        rw [dealt] at moved
        exact ⟨d.system,moved,later,rfl⟩)
  rw [same]
  exact Run.restrict_iff.mp follows

theorem dealings_snoc (side : Side) (labels : List Spoken) (label : Spoken) :
    movesOf side (dealings (labels ++ [label])) = movesOf side (dealings labels) ++
      (label.dealt.bind fun dealt => System.moveAt side dealt.move).toList := by
  unfold dealings
  rw [List.filterMap_append]
  cases part : label.dealt with
  | none => simp [part]
  | some dealt =>
    simp only [List.filterMap_cons,part,List.filterMap_nil,Option.bind_some]
    exact System.movesOf_snoc side _ dealt

theorem dealt_call (move : ClientMove) :
    ((dealt move).bind fun dealt => System.moveAt .left dealt.move) = move.call := by
  cases call : move.call <;> simp [dealt,call,System.moveAt]

theorem call_attempt (move : ClientMove) :
    move.attempt.toList = move.call.toList.flatMap fun made => made.event.submission := by
  obtain ⟨before,event,outputs,response,after⟩ := move
  cases event with
  | act action =>
    cases action with
    | sent now =>
      cases request : before.phase.request <;>
        simp [ClientMove.attempt,ClientMove.call,Client.stackEvent,request,Event.submission]
    | signal signal =>
      cases signal <;> simp [ClientMove.attempt,ClientMove.call,Client.stackEvent,Event.submission]
    | _ => simp [ClientMove.attempt,ClientMove.call,Client.stackEvent,Event.submission]
  | _ => simp [ClientMove.attempt,ClientMove.call]

theorem call_reply {client next : Client} {move : ClientMove} (step : ClientMove.Step client move next)
    {data : Bytes} (replies : move.reply = some data) : move.call.bind Move.consumed = some data := by
  obtain ⟨⟨now,event⟩,_,_,_⟩ := step.reply replies
  obtain ⟨rfl,rfl,taken⟩ := step
  rw [event] at taken
  have head : move.before.stack.rxDataChan.buffer.head? = some data := by
    simpa [Client.admits] using (Client.step_act taken).1
  obtain ⟨rest,buffer⟩ := List.head?_eq_some_iff.mp head
  obtain ⟨channel,polled,_⟩ := Chan.poll_cons buffer
  simp only [ClientMove.call,event,Client.stackEvent,Option.map_some,Option.bind_some,Move.consumed,polled]

/-- What a step submits to the client's session, and what it returns of that session's payloads. -/
theorem step_calls {label : Spoken} (step : Spoken.Step c label d) :
    (label.move.bind ClientMove.attempt).toList =
        (label.dealt.bind fun dealt => System.moveAt .left dealt.move).toList.flatMap
          (fun made => made.event.submission) ∧
      ∀ data, label.move.bind ClientMove.reply = some data →
        ((label.dealt.bind fun dealt => System.moveAt .left dealt.move).bind Move.consumed) = some data := by
  have client := step_client step
  cases step.speaks with
  | client own taken =>
    rw [dealt_call]
    exact ⟨call_attempt _,fun data => call_reply client⟩
  | @others deal move system client shared apart taken heeds =>
    have session := others_session apart taken
    simp only [Option.bind_some]
    cases own : System.moveAt .left move with
    | none => simp
    | some made =>
      rw [own] at session
      have silent : made.event.submission = [] := by
        cases event : made.event with
        | send => simp [event,Event.called] at session
        | _ => rfl
      simp [heard,ClientMove.attempt,ClientMove.reply,silent]

theorem run_calls {labels : List Spoken} (run : Run Spoken.Step c labels d) :
    (clientMoves labels).filterMap ClientMove.attempt = submitted .left (dealings labels) ∧
      ((clientMoves labels).filterMap ClientMove.reply).Sublist (received .left (dealings labels)) := by
  induction run with
  | nil => exact ⟨rfl,List.Sublist.refl _⟩
  | @snoc labels label _ _ _ last ih =>
    obtain ⟨attempts,replies⟩ := step_calls last
    have moves (part : ClientMove → Option Bytes) :
        (clientMoves (labels ++ [label])).filterMap part =
          (clientMoves labels).filterMap part ++ (label.move.bind part).toList := by
      cases move : label.move with
      | none => simp [clientMoves,move]
      | some made => cases named : part made <;> simp [clientMoves,move,named]
    constructor
    · rw [moves,ih.1,attempts,submitted,submitted,dealings_snoc,List.flatMap_append]
    · rw [moves,received,dealings_snoc,List.filterMap_append]
      apply ih.2.append
      cases reply : label.move.bind ClientMove.reply with
      | none => exact List.nil_sublist _
      | some data =>
        have consumed := replies data reply
        obtain ⟨made,own,takes⟩ := Option.bind_eq_some_iff.mp consumed
        simp [own,takes]

end Conversation

open Conversation in
/-- A client and the callers of the session at the other end, under any interleaving: what requests
return was submitted at the other end, in order and each payload for at most one request, it answers
the request and came after the request began to wait, and the other end gets payloads of the
requests' attempts, in order and each at most once. -/
theorem conversation_safety {bus : BusConfig} {events : List Memory.Event} {link : Memory.Link}
    {address : Side → Address} {cfg : Side → Config} {s : System} {c : Conversation}
    {labels : List Spoken} (opened : Run Memory.Event.Step (Memory.newPair bus) events link)
    (created : newSystem link address cfg = .ok s)
    (mirrored : ∀ side, address side.other = ⟨(address side).rxID,(address side).txID⟩)
    (run : Run Spoken.Step (Conversation.start s) labels c)
    (admissible : ∀ label ∈ labels, label.talk.admissible address)
    (lossless : ∀ port, (c.system.link.endpoint port).dropped = (s.link.endpoint port).dropped) :
    ((clientMoves labels).filterMap ClientMove.reply).Sublist (submitted .right (dealings labels)) ∧
    (received .right (dealings labels)).Sublist ((clientMoves labels).filterMap ClientMove.attempt) ∧
    Each (fun past move => ∀ data ∈ move.reply, move.Answers data ∧ Arrived past data)
      (clientMoves labels) := by
  obtain ⟨_,_,built,_⟩ := newSystem_ok created
  obtain ⟨_,_,_,_,_,fresh⟩ := newSession_ok (built .left).1
  have sound := newSession_sound (built .left).1
  have physical : Physical (Conversation.start s).client := by
    refine ⟨sound,?_,by simp [Conversation.start,Client.newClient,Phase.request]⟩
    change (s.stack .left).session.txAddress = none
    rw [fresh]
    rfl
  obtain ⟨dealt,allowed⟩ := run_system run physical admissible
  obtain ⟨attempts,replies⟩ := run_calls run
  have callers (side : Side) := run_callers created dealt side
  have carried (side : Side) := run_delivers opened created mirrored dealt allowed lossless side
  refine ⟨?_,?_,replies_fresh (run_client run) sound rfl⟩
  · exact ((replies.trans (callers .left).2).trans (carried .left)).trans (callers .right).1
  · rw [attempts]
    exact ((callers .right).2.trans (carried .right)).trans (callers .left).1

open Conversation in
theorem conversation_safety_read :
    ∃ (s : System) (c : Conversation) (labels : List Spoken),
      Run Spoken.Step (Conversation.start s) labels c ∧
      submitted .right (dealings labels) = [[0x62,0x01],[0x62,0xF1,0x90,0x07]] ∧
      (clientMoves labels).filterMap ClientMove.reply = [[0x62,0xF1,0x90,0x07]] ∧
      (received .right (dealings labels)).Sublist ((clientMoves labels).filterMap ClientMove.attempt) := by
  let address : Side → Address := fun side =>
    if side = .left then ⟨0x7E0,0x7E8⟩ else ⟨0x7E8,0x7E0⟩
  let bus : BusConfig := BusConfig.default Mode.classic 0
  let r : Request := ⟨[0x22,0xF1,0x90],defaultRequestOptions,addressPhysical,by decide,
    normalizeRequestOptions_valid defaultRequestOptions_valid⟩
  let opening : List Memory.Turn := [.call .a .openBus,.call .b .openBus]
  let carry (side : Side) : List Talk := [.own side (.select .dequeue),.own side (.finish .queued),
    .own side .take,.check side,.transmit side,.receive side.other,.accept side.other,
    .own side.other .pass,.own side.other .read,.own side.other (.finish .queued)].map .others
  let talks : List Talk := [.others (.own .right (.call (.send [0x62,0x01])))] ++ carry .right ++
    [.client (.start r),.client (.act (.drain [0x62,0x01])),.client (.act .drained),
      .client (.act (.sent 0))] ++ carry .left ++ [.others (.own .right (.call .receive)),
      .others (.own .right (.call (.send [0x62,0xF1,0x90,0x07])))] ++ carry .right ++
    [.client (.act (.signal (.received 1 [0x62,0xF1,0x90,0x07])))]
  let losses (s : System) : List Nat := [(s.link.endpoint .a).dropped,(s.link.endpoint .b).dropped]
  have observed : ((execute Memory.Link.react (Memory.newPair bus) opening).bind fun opened =>
      (newSystem opened.2 address fun _ => defaultConfig).toOption.bind fun s =>
        ((Conversation.start s).execute talks).map fun result =>
          (submitted .right (dealings result.1),
            (clientMoves result.1).filterMap ClientMove.reply,
            result.1.all fun label => label.talk.admissible address,
            losses s ++ losses result.2.system)) =
      some ([[0x62,0x01],[0x62,0xF1,0x90,0x07]],[[0x62,0xF1,0x90,0x07]],true,[0,0,0,0]) := by
    decide +kernel
  obtain ⟨⟨events,link⟩,opened,observed⟩ := Option.bind_eq_some_iff.mp observed
  obtain ⟨s,created,observed⟩ := Option.bind_eq_some_iff.mp observed
  obtain ⟨⟨labels,c⟩,executed,observed⟩ := Option.map_eq_some_iff.mp observed
  simp only [losses,Prod.mk.injEq,List.cons_append,List.nil_append,List.cons.injEq] at observed
  obtain ⟨sent,replies,admits,sA,sB,tA,tB,_⟩ := observed
  have built : newSystem link address (fun _ => defaultConfig) = .ok s := by
    cases made : newSystem link address fun _ => defaultConfig with
    | error => simp [made,Except.toOption] at created
    | ok => simpa [made,Except.toOption] using created
  have run := Conversation.execute_run executed
  have mirrored : ∀ side, address side.other = ⟨(address side).rxID,(address side).txID⟩ := by
    intro side
    cases side <;> rfl
  have lossless : ∀ port, (c.system.link.endpoint port).dropped = (s.link.endpoint port).dropped := by
    intro port
    cases port with
    | a => exact tA.trans sA.symm
    | b => exact tB.trans sB.symm
  exact ⟨s,c,labels,run,sent,replies,(conversation_safety (execute_run Memory.react_step opened) built
    mirrored run (List.all_eq_true.mp admits) lossless).2.1⟩

end Canbuskit.Uds
