import Canbuskit.Isotp.Emission
import Canbuskit.Isotp.EndToEnd

/-! The window that flow control keeps open, and the stack behind it. No more frames than a block
are ever on their way to the receiver, so the channels of a stack that nothing disturbs have room
for all of them, and each of its turns brings a frame nearer to its end. -/
namespace Canbuskit.Isotp
open Can Channel Runs

theorem Stage.window {payload : Bytes} {inbox : Chan Bytes} {left right : Session}
    {toLeft toRight : List LinkFrame} (matched : Matched payload inbox left right)
    (stage : Stage payload inbox left right toLeft toRight) :
    (toLeft = [] ∨ toRight = []) ∧ toLeft.length ≤ 1 ∧
      (0 < right.config.blockSize → (toRight.length : Int) ≤ right.config.blockSize) := by
  have carried {msgs : List LinkFrame} {chunks : List Bytes}
      (stream : Streaming payload inbox left right msgs chunks) : msgs.length = chunks.length := by
    have sizes := congrArg List.length stream.reads
    have numbers (chunks : List Bytes) : ∀ number, (numbered number chunks).length = chunks.length := by
      induction chunks with
      | nil => exact fun _ => rfl
      | cons chunk chunks ih => exact fun number => congrArg (· + 1) (ih _)
    simpa [numbers] using sizes
  have counted (waits : right.rxState = .waitCF) : 0 ≤ right.rxBlockCounter := by
    rcases matched.rightSound.receiving with idle | collecting
    · rw [idle.state] at waits
      contradiction
    · exact collecting.blockCounter.1
  cases stage with
  | queued | granting | done => exact ⟨.inr rfl,by simp,Int.le_of_lt⟩
  | single | first => exact ⟨.inl rfl,by simp,fun blocks => by rw [List.length_singleton]; omega⟩
  | transmitting sender stream whole number block counter =>
    refine ⟨.inl rfl,by simp,?_⟩
    intro blocks
    have sent := counted stream.waits
    have inside : 0 < left.remoteBlockSize → left.txBlockCounter < left.remoteBlockSize := by
      rcases matched.leftSound.sending with idle | waits | transmits
      · simp [idle.state] at sender
      · simp [waits.state] at sender
      · exact transmits.blockCounter.2
    rw [carried stream]
    omega
  | blockSent sender stream pending whole number blocks counter =>
    refine ⟨.inl rfl,by simp,?_⟩
    intro blocks
    have sent := counted stream.waits
    rw [carried stream]
    omega
  | finishing sender stream whole pending counter =>
    refine ⟨.inl rfl,by simp,?_⟩
    intro blocks
    have sent := counted stream.waits
    have within := counter blocks
    rw [carried stream,List.length_append,List.length_singleton]
    omega

/-- While an exchange runs only one side is spoken to, the sender by one frame and the receiver by
no more than the block it granted. -/
theorem flow_control_window {p q : Pair} {payload : Bytes} {address : Side → Address}
    {cfg : Side → Config} {fd : Bool} {brs : Side → Bool} {labels : List PairMove}
    (begins : p.Exchanges payload address cfg fd) (run : Run (Pair.Exchange brs) p labels q) :
    (∃ side, q.inflight side = []) ∧ (q.inflight .left).length ≤ 1 ∧
      (0 < (p.session .right).config.blockSize →
        ((q.inflight .right).length : Int) ≤ (p.session .right).config.blockSize) := by
  obtain ⟨matched,stage⟩ : q.InStage payload (p.session .right).rxDataChan :=
    run.invariant _ begins.inStage fun _ _ _ stage step => (step.advances stage).1
  obtain ⟨alternates,grants,blocks⟩ := stage.window matched
  have settings : (q.session .right).config = (p.session .right).config := by
    have moved := pair_session (Run.restrict_iff.mp run).1 .right
    have start : (p.session .right).Sound := begins.inStage.1.rightSound
    refine (moved.invariant (fun s => s.Sound ∧ s.config = (p.session .right).config) ⟨start,rfl⟩ ?_).2
    rintro s move t ⟨sound,same⟩ step
    have transition := step.transition sound
    exact ⟨transition.sound sound,transition.settings.1.trans same⟩
  rw [settings] at blocks
  exact ⟨alternates.elim (⟨.left,·⟩) (⟨.right,·⟩),grants,blocks⟩

theorem flow_control_window_full :
    ∃ p labels q, Run (Pair.Exchange fun _ => false) p labels q ∧
      (p.session .right).config.blockSize = 2 ∧ (q.inflight .right).length = 2 ∧
      ((q.inflight .right).length : Int) ≤ (p.session .right).config.blockSize := by
  let address : Side → Address := fun side =>
    if side = .left then ⟨0x7E0,0x7E8⟩ else ⟨0x7E8,0x7E0⟩
  let cfg : Config := { defaultConfig with blockSize := 2 }
  let payload : Bytes := List.replicate 30 7
  let sender : Session := .fresh (address .left) cfg false
  let waiting : Session := { sender with txDataChan := ⟨10,[payload],by decide⟩ }
  let receiver : Session := .fresh (address .right) cfg false
  let p : Pair := ⟨fun side => if side = .left then waiting else receiver,fun _ => []⟩
  have submits : Run Move.Step sender [⟨sender,.send payload,[],waiting⟩] waiting :=
    .single ⟨rfl,rfl,rfl⟩
  have begins : p.Exchanges payload address (fun _ => cfg) false := by
    refine ⟨?_,rfl,?_,?_,?_,⟨rfl,rfl⟩,by decide,fun _ => rfl,by decide,by decide,?_⟩
    · rintro (_ | _)
      · exact ⟨sender,_,rfl,submits⟩
      · exact ⟨receiver,[],rfl,.nil⟩
    all_goals rintro (_ | _) <;> decide
  have executed : (p.execute (fun _ => false) [(.left,some (.dequeue .queued)),(.right,none),
      (.left,none),(.left,some (.expireTxSTmin .queued)),(.left,some (.expireTxSTmin .queued))]).map
        (fun result => (result.1.all fun label => label.move.event.timely,
          (result.2.inflight .right).length)) = some (true,2) := by
    decide +kernel
  obtain ⟨⟨labels,q⟩,executed,observed⟩ := Option.map_eq_some_iff.mp executed
  obtain ⟨timely,full⟩ := Prod.mk.inj observed
  have run : Run (Pair.Exchange fun _ => false) p labels q :=
    Run.restrict_iff.mpr ⟨Pair.execute_run executed,List.all_eq_true.mp timely⟩
  exact ⟨p,labels,q,run,rfl,full,(flow_control_window begins run).2.2 (by decide)⟩

def Turn.undisturbed : Turn → Bool
  | .accept _ => true
  | .pass => true
  | .read => true
  | .select .dequeue => true
  | .select .expireTxSTmin => true
  | .finish .queued => true
  | .take => true
  | .check _ => true
  | .sent => true
  | _ => false

/-- What a turn may add to the work of its stack: a frame that comes in, or one that goes out. -/
def Turn.lifts : Turn → Nat
  | .accept _ => 3
  | .finish _ => 10
  | _ => 0

def Turn.spends : Turn → Nat
  | .accept _ => 0
  | .finish _ => 0
  | .sent => 7
  | _ => 1

theorem Session.Transition.one_frame {s t : Session} {event : Event} {outputs : List Output}
    (step : s.Transition event outputs t) : (frames outputs).length ≤ 1 := by
  have granted : (frames s.flow).length ≤ 1 := by
    unfold Session.flow
    split_ifs <;> simp
  cases step with
  | unheard _ quiet | singleDropped _ _ quiet | firstRefused _ _ quiet | mismatched _ _ _ quiet
  | completedDropped _ _ _ _ quiet => simp [quiet.frames]
  | single _ _ quiet => simp [quiet.frames]
  | first _ _ _ quiet => simpa [quiet.frames] using granted
  | blockCompleted => exact granted
  | _ => simp

namespace Stack

def outgoing (s : Stack) : List Outgoing := s.transmitter.items ++ s.tx.buffer.map .taken

theorem departing_outgoing (s : Stack) : s.departing = s.outgoing.filterMap Outgoing.heard := by
  rw [outgoing,List.filterMap_append,List.filterMap_map]
  rfl

/-- How far the frames in the stack are from their ends, the oldest least. -/
def load (s : Stack) : Nat :=
  (match s.loop with
    | .waiting => 1
    | .holding (.frame _) => 2
    | _ => 0) +
  2 * s.rxMessages.buffer.length + 3 * s.receiver.items.length +
  (match s.transmitter with
    | .holding (.taken _) => 8
    | .holding (.checked _) => 7
    | _ => 0) +
  9 * s.tx.buffer.length

structure Live (s : Stack) (address : Address) : Prop where
  running : s.closing = .running
  receiver : s.receiver ≠ .returned
  loop : s.loop ≠ .returned
  transmitter : s.transmitter ≠ .returned
  inner : s.rxMessages.capacity = 100
  outer : s.tx.capacity = 1024
  timely : ∀ chosen, s.loop = .holding chosen → (chosen.event .queued).timely
  ready : ∀ chosen, s.loop = .holding chosen → chosen.Ready s.session
  coming : ∀ msg ∈ s.front, address.accepts msg.arbitrationID
  going : ∀ item ∈ s.outgoing, ∃ msg, item.heard = some msg ∧ msg.arbitrationID = address.txID

variable {s t : Stack} {turn : Turn} {move : Option Move} {address : Address}

theorem offers_capacity {channel next : Chan LinkFrame} {msgs : List LinkFrame}
    (room : msgs.foldlM Chan.offer channel = some next) : next.capacity = channel.capacity := by
  induction msgs generalizing channel with
  | nil =>
    cases room
    rfl
  | cons msg msgs ih =>
    rw [List.foldlM_cons] at room
    obtain ⟨middle,offered,rest⟩ := Option.bind_eq_some_iff.mp room
    rw [ih rest,(Chan.offer_some offered).2]

theorem Turns.load (stationed : s.Stationed address) (step : s.Turns turn move t)
    (undisturbed : turn.undisturbed) : t.load + turn.spends ≤ s.load + turn.lifts := by
  cases step with
  | ignored waits refused => exact Nat.le_add_right _ _
  | accepted waits heard =>
    simp only [Stack.load,waits,Turn.spends,Turn.lifts,Worker.items_waiting,Worker.items_holding,
      List.length_singleton,List.length_nil]
    omega
  | passed holds room =>
    simp only [Stack.load,holds,(Chan.offer_some room).1,Turn.spends,Turn.lifts,List.length_append,
      Worker.items_waiting,Worker.items_holding,List.length_singleton,List.length_nil]
    omega
  | read waits queue =>
    simp only [Stack.load,waits,(Chan.poll_some queue).1,Turn.spends,Turn.lifts,List.length_cons]
    omega
  | @selected chosen waits =>
    cases chosen with
    | dequeue | expireTxSTmin =>
      simp only [Stack.load,waits,Turn.spends,Turn.lifts]
      omega
    | _ => contradiction
  | @finished outcome chosen session outputs tx holds allowed taken room =>
    have few := (Session.step_transition stationed.sound taken).one_frame
    have added := congrArg List.length (offers_buffer room)
    rw [List.length_append] at added
    cases chosen <;> simp only [Stack.load,holds,Turn.spends,Turn.lifts] <;> omega
  | taken waits queue =>
    simp only [Stack.load,waits,(Chan.poll_some queue).1,Turn.spends,Turn.lifts,List.length_cons]
    omega
  | refused holds | checked holds | aborted holds | sent holds =>
    simp only [Stack.load,holds,Turn.spends,Turn.lifts]
    omega
  | _ => contradiction

theorem Turns.emitted (stationed : s.Stationed address) (step : s.Turns turn move t)
    (undisturbed : turn.undisturbed) : ∀ made ∈ move, ∀ msg ∈ frames made.outputs,
      ∃ heard, carry false msg = some heard ∧ heard.arbitrationID = address.txID := by
  rintro made moved msg member
  have plain : ∀ target, turn ≠ .call (.setTxAddress target) := by
    rintro target rfl
    contradiction
  obtain ⟨own,mode⟩ := (step.stationed stationed plain).2.2 made moved msg member
  have legal : msg.Legal s.session.fd s.session.config.paddingByte := by
    obtain rfl := Option.mem_def.mp moved
    have emits := (step.session.1.transition stationed.sound).emits stationed.sound
    exact emits.legal msg member
  have standard : msg.arbitrationID ≤ 0x7FF := by
    rw [own,← stationed.address]
    exact stationed.sound.configured.address.1
  obtain ⟨fill,arrives,_⟩ := carry_some false standard (mode ▸ legal.length)
  exact ⟨_,arrives,own⟩

theorem Turns.going (live : s.Live address) (stationed : s.Stationed address)
    (step : s.Turns turn move t) (undisturbed : turn.undisturbed) :
    ∀ item ∈ t.outgoing, ∃ msg, item.heard = some msg ∧ msg.arbitrationID = address.txID := by
  have emitted := step.emitted stationed undisturbed
  have going := live.going
  unfold outgoing at going ⊢
  cases step with
  | finished holds allowed taken room =>
    intro item member
    rw [offers_buffer room,List.map_append,← List.append_assoc] at member
    rcases List.mem_append.mp member with old | new
    · exact going item old
    · obtain ⟨msg,inside,rfl⟩ := List.mem_map.mp new
      exact emitted _ rfl msg inside
  | taken waits queue =>
    intro item member
    refine going item ?_
    rw [waits,(Chan.poll_some queue).1]
    exact member
  | refused holds | aborted holds | sent holds =>
    intro item member
    exact going item (List.mem_append_right _ member)
  | checked holds built =>
    intro item member
    rw [holds] at going
    rcases List.mem_cons.mp member with rfl | queued
    · obtain ⟨msg,heard,own⟩ := going _ List.mem_cons_self
      exact ⟨msg,(built_heard built).trans heard,own⟩
    · exact going item (List.mem_cons_of_mem _ queued)
  | ignored | accepted | passed | read | selected => exact going
  | _ => contradiction

theorem Turns.live (live : s.Live address) (stationed : s.Stationed address)
    (step : s.Turns turn move t) (undisturbed : turn.undisturbed)
    (fed : ∀ msg ∈ turn.fed, address.accepts msg.arbitrationID) : t.Live address := by
  have sound : t.Sound := step.sound ⟨live.ready,by simp [live.running]⟩
  have going := step.going live stationed undisturbed
  have coming : ∀ msg ∈ t.front, address.accepts msg.arbitrationID := by
    obtain ⟨dropped,front,_⟩ := step.front
    intro msg member
    have known : msg ∈ s.front ++ turn.fed := by
      rw [front]
      exact List.mem_append_left _ (List.mem_append_right _ member)
    exact (List.mem_append.mp known).elim (live.coming msg) (fed msg)
  obtain ⟨running,receiver,loop,transmitter,inner,outer,timely,_,_,_⟩ := live
  cases step with
  | ignored => exact ⟨running,receiver,loop,transmitter,inner,outer,timely,sound.ready,coming,going⟩
  | accepted => exact ⟨running,by simp,loop,transmitter,inner,outer,timely,sound.ready,coming,going⟩
  | passed holds room =>
    exact ⟨running,by simp,loop,transmitter,(Chan.offer_some room).2.trans inner,outer,timely,sound.ready,
      coming,going⟩
  | read waits queue =>
    refine ⟨running,receiver,by simp,transmitter,(Chan.poll_some queue).2.trans inner,outer,?_,sound.ready,
      coming,going⟩
    rintro chosen ⟨⟩
    rfl
  | @selected chosen =>
    refine ⟨running,receiver,by simp,transmitter,inner,outer,?_,sound.ready,coming,going⟩
    rintro other ⟨⟩
    cases chosen <;> first | rfl | contradiction
  | finished holds allowed taken room =>
    exact ⟨running,receiver,by simp,transmitter,inner,(offers_capacity room).trans outer,by simp,
      sound.ready,coming,going⟩
  | taken waits queue =>
    exact ⟨running,receiver,loop,by simp,inner,(Chan.poll_some queue).2.trans outer,timely,sound.ready,
      coming,going⟩
  | refused | checked | aborted | sent =>
    exact ⟨running,receiver,loop,by simp,inner,outer,timely,sound.ready,coming,going⟩
  | _ => contradiction

/-- No frame of a stack that nothing has disturbed is lost to its peer. -/
theorem Live.departing_length (live : s.Live address) : s.departing.length = s.outgoing.length := by
  rw [departing_outgoing,List.filterMap_length_eq_length]
  intro item member
  obtain ⟨msg,heard,_⟩ := live.going item member
  rw [heard]
  rfl

end Stack

end Canbuskit.Isotp
