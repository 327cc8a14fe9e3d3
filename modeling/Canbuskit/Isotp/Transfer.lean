import Canbuskit.Isotp.Window

/-! One transfer through the whole system. When nothing disturbs it, no channel between the two
sessions ever fills up, every step of a goroutine uses up work, and it ends with the payload at the
receiver's callers. -/
namespace Canbuskit.Isotp
open Can Channel Runs
open Memory (Link)

/-- The goroutines only: no timeout, no caller, no `Close` and no one else on the link. -/
def Deal.undisturbed : Deal → Bool
  | .own _ turn => turn.undisturbed
  | .receive _ => true
  | .accept _ => true
  | .check _ => true
  | .transmit _ => true
  | _ => false

theorem Deal.undisturbed_admissible {deal : Deal} (undisturbed : deal.undisturbed)
    (address : Side → Address) : deal.admissible address := by
  cases deal with
  | own side turn =>
    cases turn with
    | call => contradiction
    | _ => rfl
  | other | interruptOther => contradiction
  | _ => rfl

theorem Turn.eases {turn : Turn} (undisturbed : turn.undisturbed) (stays : turn ≠ .sent)
    (moveless : turn ≠ .finish .queued) : turn.lifts < turn.spends + 4 * turn.taken := by
  cases turn with
  | finish outcome =>
    cases outcome with
    | queued => exact absurd rfl moveless
    | cancelled => contradiction
  | sent => exact absurd rfl stays
  | _ => simp [lifts,spends,taken]

def Side.both (quantity : Side → Nat) : Nat := quantity .left + quantity .right

theorem Side.both_eq (quantity : Side → Nat) (side : Side) :
    Side.both quantity = quantity side + quantity side.other := by
  cases side
  · rfl
  · exact Nat.add_comm ..

namespace Stack

variable {s t : Stack} {turn : Turn} {move : Option Move} {address : Address}

theorem Turns.handles (live : s.Live address) (step : s.Turns turn move t)
    (undisturbed : turn.undisturbed) :
    (turn = .finish .queued ↔ move.isSome) ∧ ∀ made ∈ move, made.event.timely ∧
      ∀ msg ∈ made.arrival, address.accepts msg.arbitrationID := by
  cases step with
  | @finished outcome chosen _ _ _ holds =>
    cases outcome with
    | cancelled => contradiction
    | queued =>
      refine ⟨by simp,?_⟩
      rintro _ ⟨⟩
      refine ⟨live.timely chosen holds,?_⟩
      intro msg arrives
      refine live.coming msg ?_
      rw [Move.arrival,Case.arrival] at arrives
      simp [Stack.front,holds,Option.mem_def.mp arrives]
  | called => contradiction
  | _ => simp

end Stack

/-- A subscription whose frames are all for its session and none of which it has read twice. -/
structure Supply (address : Address) (inbox : Inbox Frame) (reads : Nat) : Prop where
  capacity : inbox.chan.capacity = 100
  read : reads ≤ inbox.received.length
  heard : ∀ frame ∈ inbox.content.drop reads, ∃ msg, fromCANFrame frame = some msg ∧
    address.accepts msg.arbitrationID

def backlog (inbox : Inbox Frame) (reads : Nat) : Nat :=
  4 * (inbox.content.drop reads).length + inbox.load

namespace Supply

variable {address : Address} {inbox next : Inbox Frame} {reads : Nat} {frame : Frame}

theorem buffered (supply : Supply address inbox reads) :
    inbox.chan.buffer.length ≤ (inbox.content.drop reads).length := by
  have read := supply.read
  rw [Inbox.content,List.length_drop,List.length_append]
  omega

theorem first (accepts : inbox.received[reads]? = some frame) :
    inbox.content.drop reads = frame :: inbox.content.drop (reads + 1) := by
  obtain ⟨inside,same⟩ := List.getElem?_eq_some_iff.mp accepts
  have within : reads < inbox.content.length := by
    rw [Inbox.content,List.length_append]
    omega
  rw [List.drop_eq_getElem_cons within]
  congr 1
  simp only [Inbox.content]
  rw [List.getElem_append_left inside,same]

theorem accept (supply : Supply address inbox reads) (accepts : inbox.received[reads]? = some frame) :
    Supply address inbox (reads + 1) ∧ backlog inbox (reads + 1) + 4 = backlog inbox reads := by
  have shape := first accepts
  refine ⟨⟨supply.capacity,?_,?_⟩,?_⟩
  · obtain ⟨inside,_⟩ := List.getElem?_eq_some_iff.mp accepts
    exact inside
  · intro other member
    exact supply.heard other (shape ▸ List.mem_cons_of_mem _ member)
  · rw [backlog,backlog,shape,List.length_cons]
    omega

theorem turn {turn : Turn} (supply : Supply address inbox reads)
    (accepts : ∀ frame, turn = .accept frame → inbox.received[reads]? = some frame) :
    Supply address inbox (reads + turn.taken) ∧
      backlog inbox (reads + turn.taken) + 4 * turn.taken = backlog inbox reads ∧
        ∀ msg ∈ turn.fed, address.accepts msg.arbitrationID := by
  cases turn with
  | accept frame =>
    have unread := accepts frame rfl
    obtain ⟨later,less⟩ := supply.accept unread
    refine ⟨later,less,?_⟩
    intro msg fed
    obtain ⟨other,heard,own⟩ := supply.heard frame (first unread ▸ List.mem_cons_self)
    cases heard.symm.trans (Option.mem_toList.mp fed)
    exact own
  | _ => exact ⟨supply,rfl,by simp [Turn.fed]⟩

theorem receive (supply : Supply address inbox reads) (rests : inbox.waiting = 0) :
    Supply address (inbox.receive false) reads ∧ backlog (inbox.receive false) reads < backlog inbox reads := by
  obtain ⟨less,more,capacity⟩ := inbox.receive_grows rests
  refine ⟨⟨capacity.trans supply.capacity,Nat.le_trans supply.read more,?_⟩,?_⟩
  · rw [Inbox.receive_content]
    exact supply.heard
  · rw [backlog,backlog,Inbox.receive_content]
    omega

theorem offer (supply : Supply address inbox reads) (taken : inbox.offer frame = some next)
    (heard : ∃ msg, fromCANFrame frame = some msg ∧ address.accepts msg.arbitrationID) :
    Supply address next reads ∧ backlog next reads ≤ backlog inbox reads + 5 := by
  obtain ⟨more,received,capacity⟩ := Inbox.offer_grows taken
  have read := supply.read
  have whole : next.content.drop reads = inbox.content.drop reads ++ [frame] := by
    rw [Inbox.offer_content taken,List.drop_append_of_le_length]
    rw [Inbox.content,List.length_append]
    omega
  refine ⟨⟨capacity.trans supply.capacity,Nat.le_trans supply.read received,?_⟩,?_⟩
  · intro other member
    rw [whole] at member
    rcases List.mem_append.mp member with old | new
    · exact supply.heard other old
    · exact List.mem_singleton.mp new ▸ heard
  · rw [backlog,backlog,whole,List.length_append,List.length_singleton]
    omega

end Supply

namespace System

/-- The pair whose frames in flight are all the frames between the two sessions. -/
def pair (s : System) : Pair where
  session side := (s.stack side).session
  inflight side := (s.stack side).front ++ (s.unread side).filterMap fromCANFrame ++
    (s.stack side.other).departing

def load (s : System) (side : Side) : Nat :=
  (s.stack side).load + backlog (s.inbox side) (s.stack side).reads

def weight (s : System) : Nat := 12 * s.pair.work + Side.both s.load

structure Live (s : System) (address : Side → Address) (bus : BusConfig) : Prop where
  joined : s.Joined address bus
  stack : ∀ side, (s.stack side).Live (address side)
  used : ∀ port, (s.link.endpoint port).opened = true ∧ (s.link.endpoint port).closed = false
  alone : ∀ side, (s.link.endpoint side.port).subscribers = [(s.stack side).subscription]
  silent : ∀ port, (s.link.endpoint port).cfg.includeTxEcho = false
  supply : ∀ side, Supply (address side) (s.inbox side) (s.stack side).reads

variable {address : Side → Address} {bus : BusConfig} {s t : System} {deal : Deal}
  {move : Option PairMove}

inductive Eases (s : System) : Deal → Option PairMove → System → Prop
  | turned {deal side turn move stack} (step : (s.stack side).Turns turn move stack)
      (undisturbed : turn.undisturbed) (stays : turn ≠ .sent)
      (accepts : ∀ frame, turn = .accept frame →
        (s.inbox side).received[(s.stack side).reads]? = some frame) :
      Eases s deal (move.map (⟨side,·⟩)) (s.set side stack s.link)
  | received {side} (rests : (s.inbox side).waiting = 0) :
      Eases s (.receive side) none { s with link := { s.link with
        toMailroom := s.link.toMailroom.receive (s.stack side).subscription } }
  | transmitted {side frame stack} (holds : (s.stack side).transmitter = .holding (.checked frame))
      (step : (s.stack side).Turns .sent none stack) :
      Eases s (.transmit side) none (s.set side stack (s.link.send side.port frame).1)

theorem react_eases (undisturbed : deal.undisturbed) (taken : s.react deal = some (move,t)) :
    s.Eases deal move t := by
  cases deal with
  | own side turn =>
    simp only [react] at taken
    split_ifs at taken with own
    obtain ⟨made,stack,step,rfl,rfl⟩ := turn_some taken
    refine .turned step undisturbed ?_ ?_
    · rintro rfl
      contradiction
    · rintro frame rfl
      contradiction
  | receive side =>
    simp only [react] at taken
    split_ifs at taken with ready
    cases taken
    exact .received ready.2.1
  | accept side =>
    simp only [react] at taken
    split at taken
    · rename_i frame unread
      obtain ⟨made,stack,step,rfl,rfl⟩ := turn_some taken
      refine .turned step rfl (by simp) ?_
      rintro other ⟨⟩
      exact unread
    · contradiction
  | check side =>
    obtain ⟨made,stack,step,rfl,rfl⟩ := turn_some taken
    exact .turned step rfl (by simp) (by simp)
  | transmit side =>
    simp only [react] at taken
    split at taken
    · rename_i frame holds
      obtain ⟨made,stack,step,rfl,rfl⟩ := turn_some taken
      cases step with
      | sent held => exact .transmitted holds (.sent held)
    · contradiction
  | drained | unsubscribe | leave | other | interrupt | interruptOther => contradiction

theorem Live.meant_front (live : s.Live address bus) (side : Side) :
    (address side).meant (s.stack side).front = (s.stack side).front :=
  List.filter_eq_self.mpr (live.stack side).coming

theorem Live.meant_unread (live : s.Live address bus) (side : Side) :
    (address side).meant ((s.unread side).filterMap fromCANFrame) =
      (s.unread side).filterMap fromCANFrame := by
  refine List.filter_eq_self.mpr ?_
  intro msg member
  obtain ⟨frame,inside,heard⟩ := List.mem_filterMap.mp member
  obtain ⟨other,same,accepted⟩ := (live.supply side).heard frame inside
  cases heard.symm.trans same
  exact accepted

theorem Live.meant_departing
    (mirrored : ∀ side, address side.other = ⟨(address side).rxID,(address side).txID⟩)
    (live : s.Live address bus) (side : Side) :
    (address side).meant (s.stack side.other).departing = (s.stack side.other).departing := by
  refine List.filter_eq_self.mpr ?_
  intro msg member
  rw [Stack.departing_outgoing] at member
  obtain ⟨item,inside,heard⟩ := List.mem_filterMap.mp member
  obtain ⟨other,same,own⟩ := (live.stack side.other).going item inside
  cases heard.symm.trans same
  rw [own,mirrored side]
  simp [Address.accepts]

/-- Nothing on its way is lost, so the pair is determined. -/
theorem Live.abstracts_iff
    (mirrored : ∀ side, address side.other = ⟨(address side).rxID,(address side).txID⟩)
    (live : s.Live address bus) (p : Pair) : s.Abstracts address p ↔ p = s.pair := by
  have front := live.meant_front
  have unread := live.meant_unread
  have departing := live.meant_departing mirrored
  constructor
  · rintro ⟨sessions,inflight⟩
    have flying (side : Side) : p.inflight side = s.pair.inflight side := by
      obtain ⟨tail,same,stage⟩ := inflight side
      obtain gone | ⟨rest,rfl,stage⟩ := stage
      · exact absurd gone (live.stack side).receiver
      · obtain severed | rfl := stage
        · obtain ⟨port,closed⟩ | unsubscribed | silenced := severed
          · rw [(live.used port).2] at closed
            contradiction
          · exact absurd (by simp [live.alone side]) unsubscribed
          · exact absurd (live.stack side.other).running silenced.1
        · rw [same,front,unread,departing,← List.append_assoc]
          rfl
    obtain ⟨session,flights⟩ := p
    congr 1
    · funext side
      exact sessions side
    · funext side
      exact flying side
  · rintro rfl
    refine ⟨fun _ => rfl,fun side => ⟨_,?_,.inr ⟨_,rfl,.inr rfl⟩⟩⟩
    rw [front,unread,departing,← List.append_assoc]
    rfl

theorem Live.flying (live : s.Live address bus) (side : Side) :
    (s.pair.inflight side).length = (s.stack side).front.length + (s.unread side).length +
      (s.stack side.other).outgoing.length := by
  have unread : ((s.unread side).filterMap fromCANFrame).length = (s.unread side).length := by
    refine List.filterMap_length_eq_length.mpr ?_
    intro frame member
    obtain ⟨msg,heard,_⟩ := (live.supply side).heard frame member
    rw [heard]
    rfl
  simp only [pair,List.length_append,unread,(live.stack side.other).departing_length]

theorem Live.turned (live : s.Live address bus) {side : Side} {turn : Turn} {own : Option Move}
    {stack : Stack} (step : (s.stack side).Turns turn own stack) (undisturbed : turn.undisturbed)
    (accepts : ∀ frame, turn = .accept frame →
      (s.inbox side).received[(s.stack side).reads]? = some frame) :
    stack.Live (address side) ∧ Supply (address side) (s.inbox side) stack.reads ∧
      stack.load + backlog (s.inbox side) stack.reads + turn.spends + 4 * turn.taken ≤
        s.load side + turn.lifts := by
  have stationed := live.joined.stationed side
  obtain ⟨supply,less,fed⟩ := (live.supply side).turn accepts
  have load := step.load stationed undisturbed
  rw [step.subscription.2]
  refine ⟨step.live (live.stack side) stationed undisturbed fed,supply,?_⟩
  unfold System.load
  omega

/-- The driver takes the frame, and its peer's subscription has room for it. -/
theorem Live.sends (live : s.Live address bus) {side : Side} {frame : Frame}
    (mirrored : ∀ side, address side.other = ⟨(address side).rxID,(address side).txID⟩)
    (holds : (s.stack side).transmitter = .holding (.checked frame))
    (room : (s.unread side.other).length < 100) :
    ∃ inbox, (s.link.send side.port frame).1.toMailroom = { s.link.toMailroom with
        inbox := Function.update s.link.inbox (s.stack side.other).subscription inbox } ∧
      Supply (address side.other) inbox (s.stack side.other).reads ∧
      backlog inbox (s.stack side.other).reads ≤ backlog (s.inbox side.other) (s.stack side.other).reads + 5 ∧
      ∀ port, ∃ frames, (s.link.send side.port frame).1.endpoint port =
        { s.link.endpoint port with frames := frames } := by
  have supply := live.supply side.other
  have buffered := supply.buffered
  obtain ⟨inbox,taken⟩ := Inbox.offer_room { frame with direction := .receive } (by
    rw [supply.capacity]
    exact Nat.lt_of_le_of_lt buffered room)
  obtain ⟨valid,mode⟩ := live.joined.sendable side frame holds
  have alone : (s.link.endpoint side.port.peer).subscribers = [(s.stack side.other).subscription] := by
    rw [← Side.port_other]
    exact live.alone side.other
  obtain ⟨mailroom,endpoints⟩ :=
    Memory.send_alone live.used valid mode (live.silent side.port) alone taken
  have heard : ∃ msg, fromCANFrame { frame with direction := .receive } = some msg ∧
      (address side.other).accepts msg.arbitrationID := by
    obtain ⟨msg,heard,own⟩ := (live.stack side).going (.checked frame) (by simp [Stack.outgoing,holds])
    refine ⟨msg,heard,?_⟩
    rw [own,mirrored side]
    simp [Address.accepts]
  obtain ⟨later,more⟩ := supply.offer taken heard
  exact ⟨inbox,mailroom,later,more,endpoints⟩

/-- Whenever a frame is about to be sent, its peer's subscription has room for it. -/
def Roomy (s : System) : Prop :=
  ∀ side frame, (s.stack side).transmitter = .holding (.checked frame) →
    (s.unread side.other).length < 100

theorem inbox_set {side : Side} {turn : Turn} {own : Option Move} {stack : Stack} (link : Link)
    (step : (s.stack side).Turns turn own stack) (which : Side) :
    (s.set side stack link).inbox which = link.inbox (s.stack which).subscription := by
  rcases which.same_or_other side with rfl | rfl
  · rw [inbox,set_stack,set_link,step.subscription.1]
  · rw [inbox,set_other,set_link]

theorem Live.apart (live : s.Live address bus) (side : Side) :
    (s.stack side.other).subscription ≠ (s.stack side).subscription := by
  intro same
  refine live.joined.linked.apart side ?_
  rw [← Side.port_other,live.alone side.other,same]
  exact List.mem_singleton_self _

theorem Eases.endpoints (live : s.Live address bus)
    (mirrored : ∀ side, address side.other = ⟨(address side).rxID,(address side).txID⟩)
    (roomy : s.Roomy) (eases : s.Eases deal move t) (port : Memory.Port) :
    ∃ frames, t.link.endpoint port = { s.link.endpoint port with frames := frames } := by
  cases eases with
  | turned | received => exact ⟨_,rfl⟩
  | transmitted holds =>
    obtain ⟨inbox,_,_,_,endpoints⟩ := live.sends mirrored holds (roomy _ _ holds)
    exact endpoints port

/-- One undisturbed deal, side by side: it leaves both sides alive, and less to do on them unless a
session has moved. -/
theorem Eases.parts (live : s.Live address bus)
    (mirrored : ∀ side, address side.other = ⟨(address side).rxID,(address side).txID⟩)
    (roomy : s.Roomy) (eases : s.Eases deal move t) :
    (∀ side, (t.stack side).Live (address side) ∧
      Supply (address side) (t.inbox side) (t.stack side).reads) ∧
    match move with
    | none => Side.both t.load < Side.both s.load
    | some label => Side.both t.load ≤ Side.both s.load + 10 ∧ label.move.event.timely ∧
        hearing address (some label) = some label := by
  have split (side : Side) {parts : Side → Prop} (own : parts side) (other : parts side.other)
      (which : Side) : parts which := by
    rcases which.same_or_other side with rfl | rfl
    · exact own
    · exact other
  cases eases with
  | @turned _ side turn own stack step undisturbed stays accepts =>
    obtain ⟨alive,supply,load⟩ := live.turned step undisturbed accepts
    have inboxes := inbox_set s.link step
    have loads : Side.both (s.set side stack s.link).load + turn.spends + 4 * turn.taken ≤
        Side.both s.load + turn.lifts := by
      rw [Side.both_eq _ side,Side.both_eq _ side]
      have other : (s.set side stack s.link).load side.other = s.load side.other := by
        rw [System.load,inboxes,set_other]
        rfl
      have changed : (s.set side stack s.link).load side =
          stack.load + backlog (s.inbox side) stack.reads := by
        rw [System.load,inboxes,set_stack]
        rfl
      omega
    refine ⟨?_,?_⟩
    · refine split side ?_ ?_
      · rw [set_stack,inboxes]
        exact ⟨alive,supply⟩
      · rw [set_other,inboxes]
        exact ⟨live.stack _,live.supply _⟩
    · obtain ⟨ends,handles⟩ := step.handles (live.stack side) undisturbed
      cases own with
      | none =>
        have less := Turn.eases undisturbed stays fun finishes => by simpa using ends.mp finishes
        show Side.both (s.set side stack s.link).load < Side.both s.load
        omega
      | some made =>
        obtain ⟨timely,accepted⟩ := handles made rfl
        obtain rfl := ends.mpr rfl
        refine ⟨loads,timely,?_⟩
        simpa [hearing,Option.all_eq_true] using accepted
  | @received side rests =>
    have subscribed : (s.stack side).subscription ∈ (s.link.endpoint side.port).subscribers := by
      rw [live.alone side]
      exact List.mem_singleton_self _
    have unclosed := live.joined.linked.fair.live subscribed
    obtain ⟨supply,less⟩ := (live.supply side).receive rests
    let t : System := { s with link := { s.link with
      toMailroom := s.link.toMailroom.receive (s.stack side).subscription } }
    have own : t.inbox side = (s.inbox side).receive false := by
      simp [t,inbox,Mailroom.receive,unclosed]
    have other : t.inbox side.other = s.inbox side.other :=
      Function.update_of_ne (live.apart side) ..
    refine ⟨split side ⟨live.stack side,?_⟩ ⟨live.stack _,?_⟩,?_⟩
    · exact own ▸ supply
    · exact other ▸ live.supply _
    · show Side.both t.load < Side.both s.load
      rw [Side.both_eq _ side,Side.both_eq _ side,System.load,System.load,own,other]
      exact Nat.add_lt_add_right (Nat.add_lt_add_left less _) _
  | @transmitted side frame stack holds step =>
    obtain ⟨inbox,mailroom,supply,more,_⟩ := live.sends mirrored holds (roomy _ _ holds)
    obtain ⟨alive,kept,load⟩ := live.turned step rfl (by simp)
    have inboxes := inbox_set (s.link.send side.port frame).1 step
    have room := congrArg Mailroom.inbox mailroom
    have own : (s.set side stack (s.link.send side.port frame).1).inbox side = s.inbox side := by
      rw [inboxes,room]
      exact Function.update_of_ne (live.apart side).symm ..
    have other : (s.set side stack (s.link.send side.port frame).1).inbox side.other = inbox := by
      rw [inboxes,room]
      exact Function.update_self ..
    refine ⟨split side ⟨?_,?_⟩ ⟨?_,?_⟩,?_⟩
    · rw [set_stack]
      exact alive
    · rw [own,set_stack]
      exact kept
    · rw [set_other]
      exact live.stack _
    · rw [other,set_other]
      exact supply
    · show Side.both (s.set side stack (s.link.send side.port frame).1).load < Side.both s.load
      rw [Side.both_eq _ side,Side.both_eq _ side,System.load,System.load,own,other,set_stack,set_other,
        System.load]
      simp only [Turn.spends,Turn.lifts,Turn.taken] at load
      simp only [System.load] at load ⊢
      omega

/-- The transfer of a payload, with blocks that the channels have room for. -/
structure Underway (s : System) (address : Side → Address) (bus : BusConfig) (payload : Bytes)
    (inbox : Chan Bytes) : Prop where
  live : s.Live address bus
  stage : s.pair.InStage payload inbox
  blocks : 0 < (s.stack .right).session.config.blockSize ∧
    (s.stack .right).session.config.blockSize ≤ 100

variable {payload : Bytes} {kept : Chan Bytes}

theorem Underway.few (underway : s.Underway address bus payload kept) (side : Side) :
    (s.pair.inflight side).length ≤ 100 := by
  obtain ⟨matched,stage⟩ := underway.stage
  obtain ⟨_,grants,block⟩ := stage.window matched
  have within := block underway.blocks.1
  have most := underway.blocks.2
  cases side with
  | left => exact Nat.le_trans grants (by decide)
  | right =>
    have same : (s.pair.session .right).config.blockSize = (s.stack .right).session.config.blockSize :=
      rfl
    omega

theorem Underway.roomy (underway : s.Underway address bus payload kept) : s.Roomy := by
  intro side frame holds
  have few := underway.few side.other
  have flying := underway.live.flying side.other
  have held : 0 < (s.stack side).outgoing.length := by simp [Stack.outgoing,holds]
  rw [Side.other_other] at flying
  omega

theorem Underway.step
    (mirrored : ∀ side, address side.other = ⟨(address side).rxID,(address side).txID⟩)
    (underway : s.Underway address bus payload kept) (undisturbed : deal.undisturbed)
    (taken : s.react deal = some (move,t)) :
    t.Underway address bus payload kept ∧ t.weight < s.weight ∧
      (∀ port, (t.link.endpoint port).dropped = (s.link.endpoint port).dropped) ∧
        ∀ label ∈ move, label.move.event.timely := by
  obtain ⟨live,stage,blocks⟩ := underway
  have roomy : s.Roomy := Underway.roomy ⟨live,stage,blocks⟩
  have admissible := Deal.undisturbed_admissible undisturbed address
  have eases := react_eases undisturbed taken
  have deals := react_deals taken
  have endpoints := eases.endpoints live mirrored roomy
  have lossless (port : Memory.Port) :
      (t.link.endpoint port).dropped = (s.link.endpoint port).dropped := by
    obtain ⟨frames,same⟩ := endpoints port
    rw [same]
  obtain ⟨parts,loads⟩ := eases.parts live mirrored roomy
  have alive : t.Live address bus := by
    refine ⟨deals.joined live.joined admissible lossless,fun side => (parts side).1,?_,?_,?_,
      fun side => (parts side).2⟩
    · intro port
      obtain ⟨frames,same⟩ := endpoints port
      rw [same]
      exact live.used port
    · intro side
      obtain ⟨frames,same⟩ := endpoints side.port
      rw [same,deals.subscription]
      exact live.alone side
    · intro port
      obtain ⟨frames,same⟩ := endpoints port
      rw [same]
      exact live.silent port
  have config : (t.stack .right).session.config = (s.stack .right).session.config := by
    have session := deals.session .right
    cases moved : moveAt .right move with
    | none =>
      rw [moved] at session
      rw [session]
    | some made =>
      rw [moved] at session
      exact (session.1.transition (live.joined.stationed .right).sound).settings.1
  have follows := deals.follows mirrored live.joined admissible lossless
    ((live.abstracts_iff mirrored s.pair).mpr rfl)
  cases move with
  | none =>
    have same : s.pair = t.pair := (alive.abstracts_iff mirrored s.pair).mp follows
    refine ⟨⟨alive,same ▸ stage,config ▸ blocks⟩,?_,lossless,by simp⟩
    simp only at loads
    rw [weight,weight,← same]
    omega
  | some label =>
    obtain ⟨load,timely,hears⟩ := loads
    rw [hears] at follows
    obtain ⟨q,step,abstracts⟩ := follows
    obtain rfl := (alive.abstracts_iff mirrored q).mp abstracts
    have exchange : Pair.Exchange (fun _ => false) s.pair label t.pair := ⟨step,timely⟩
    obtain ⟨later,less⟩ := exchange.advances stage
    refine ⟨⟨alive,later,config ▸ blocks⟩,?_,lossless,?_⟩
    · rw [weight,weight]
      omega
    · rintro _ ⟨⟩
      exact timely

def Goes (s : System) : Prop := ∃ deal : Deal, deal.undisturbed ∧ (s.react deal).isSome

theorem goes_own (side : Side) (turn : Turn) (own : turn.own) (undisturbed : turn.undisturbed)
    (ready : ((s.stack side).react turn).isSome) : s.Goes := by
  refine ⟨.own side turn,undisturbed,?_⟩
  rw [react,if_pos own,System.turn,Option.isSome_map]
  exact ready

theorem goes_transmitting {side : Side} {item : Outgoing}
    (holds : (s.stack side).transmitter = .holding item) : s.Goes := by
  cases item with
  | taken msg => exact ⟨.check side,rfl,by simp [react,System.turn,Stack.react,holds]⟩
  | checked frame => exact ⟨.transmit side,rfl,by simp [react,System.turn,Stack.react,holds]⟩

/-- The receive goroutine waits with frames behind it: it has one, or it can ask for one. -/
theorem Live.goes_reading (live : s.Live address bus) {side : Side}
    (waits : (s.stack side).receiver = .waiting) (unread : s.unread side ≠ []) : s.Goes := by
  have supply := live.supply side
  by_cases more : (s.stack side).reads < (s.inbox side).received.length
  · have first := List.getElem?_eq_getElem more
    exact ⟨.accept side,rfl,by simp [react,first,System.turn,Stack.react,waits]⟩
  · have all : (s.inbox side).received.length = (s.stack side).reads := by
      have read := supply.read
      omega
    have buffered : (s.inbox side).chan.buffer ≠ [] := by
      rintro empty
      apply unread
      simp [System.unread,Inbox.content,empty,all]
    have rests : (s.inbox side).waiting = 0 := by
      by_contra waiting
      exact buffered ((s.inbox side).idle (Nat.pos_of_ne_zero waiting))
    exact ⟨.receive side,rfl,by rw [react,if_pos ⟨waits,rests,all⟩]; rfl⟩

theorem Live.goes_or_rests (live : s.Live address bus) (side : Side)
    (room : (s.stack side).tx.buffer.length < 1024) :
    s.Goes ∨ (s.stack side).loop = .waiting ∧ (s.stack side).front = [] ∧ s.unread side = [] ∧
      (s.stack side).outgoing = [] := by
  have alive := live.stack side
  have stationed := live.joined.stationed side
  cases loop : (s.stack side).loop with
  | returned => exact absurd loop alive.loop
  | holding chosen =>
    have ready := (Case.ready_iff _ chosen .queued).mp (alive.ready chosen loop)
    obtain ⟨⟨session,outputs⟩,taken⟩ := Option.isSome_iff_exists.mp ready
    have few := (Session.step_transition stationed.sound taken).one_frame
    obtain ⟨tx,offered⟩ : ∃ tx, (frames outputs).foldlM Chan.offer (s.stack side).tx = some tx := by
      cases sent : frames outputs with
      | nil => exact ⟨_,rfl⟩
      | cons msg rest =>
        rw [sent,List.length_cons] at few
        obtain rfl := List.length_eq_zero_iff.mp (Nat.le_zero.mp (Nat.le_of_succ_le_succ few))
        obtain ⟨tx,offered,_⟩ := Chan.offer_room msg (alive.outer ▸ room)
        exact ⟨tx,by simp [offered]⟩
    exact .inl (goes_own side (.finish .queued) rfl rfl (by
      simp [Stack.react,loop,Stack.handle,taken,offered]))
  | waiting =>
    cases queue : (s.stack side).rxMessages.buffer with
    | cons msg rest =>
      obtain ⟨channel,polled,_⟩ := Chan.poll_cons queue
      exact .inl (goes_own side .read rfl rfl (by simp [Stack.react,loop,polled]))
    | nil =>
      cases receiver : (s.stack side).receiver with
      | returned => exact absurd receiver alive.receiver
      | holding msg =>
        have empty : (s.stack side).rxMessages.buffer.length < (s.stack side).rxMessages.capacity := by
          simp [queue,alive.inner]
        obtain ⟨channel,offered,_⟩ := Chan.offer_room msg empty
        exact .inl (goes_own side .pass rfl rfl (by simp [Stack.react,receiver,offered]))
      | waiting =>
        cases unread : s.unread side with
        | cons frame rest => exact .inl (live.goes_reading receiver (by simp [unread]))
        | nil =>
          cases transmitter : (s.stack side).transmitter with
          | returned => exact absurd transmitter alive.transmitter
          | holding item => exact .inl (goes_transmitting transmitter)
          | waiting =>
            cases going : (s.stack side).tx.buffer with
            | cons msg rest =>
              obtain ⟨channel,polled,_⟩ := Chan.poll_cons going
              exact .inl (goes_own side .take rfl rfl (by simp [Stack.react,transmitter,polled]))
            | nil =>
              refine .inr ⟨rfl,?_,rfl,?_⟩
              · simp [Stack.front,loop,queue,receiver]
              · simp [Stack.outgoing,transmitter,going]

/-- A transfer that no goroutine can carry on is at its end. -/
theorem Underway.goes_or_done (underway : s.Underway address bus payload kept) :
    s.Goes ∨ (s.stack .left).session.txState = .idle ∧ (s.stack .right).session.rxState = .idle ∧
      (s.stack .right).session.rxDataChan.buffer = kept.buffer ++ [payload] ∧
        ∀ side, s.pair.inflight side = [] := by
  by_cases goes : s.Goes
  · exact .inl goes
  have live := underway.live
  have rests (side : Side) := (live.goes_or_rests side (by
    have few := underway.few side.other
    have flying := live.flying side.other
    have queued : (s.stack side).tx.buffer.length ≤ (s.stack side).outgoing.length := by
      simp [Stack.outgoing]
    rw [Side.other_other] at flying
    omega)).resolve_left goes
  have empty (side : Side) : s.pair.inflight side = [] := by
    refine List.length_eq_zero_iff.mp ?_
    rw [live.flying,(rests side).2.1,(rests side).2.2.1,(rests side.other).2.2.2]
    rfl
  obtain ⟨label,q,⟨step,timely⟩⟩ | ⟨sender,receiver,delivered,_⟩ :=
    underway.stage.enabled fun _ => false
  · have waits := (rests label.side).1
    have arrives := step.arrives
    have taken : ((s.stack label.side).session.step label.move.event).isSome := by
      have moves : s.pair.session label.side = (s.stack label.side).session := rfl
      rw [← moves,step.moves.2.2]
      rfl
    rw [empty] at arrives
    obtain ⟨side,before,event,outputs,after⟩ := label
    cases event with
    | frame => simp [Move.arrival,Event.arrival] at arrives
    | dequeue outcome =>
      cases outcome with
      | cancelled => contradiction
      | queued => exact .inl (goes_own side (.select .dequeue) rfl rfl (by
          simp only [Stack.react]
          rw [if_pos ⟨waits,taken⟩]
          rfl))
    | expireTxSTmin outcome =>
      cases outcome with
      | cancelled => contradiction
      | queued => exact .inl (goes_own side (.select .expireTxSTmin) rfl rfl (by
          simp only [Stack.react]
          rw [if_pos ⟨waits,taken⟩]
          rfl))
    | _ => contradiction
  · exact .inr ⟨sender,receiver,delivered,empty⟩

theorem newSystem_live {link : Link} {cfg : Side → Config} (fair : link.Fair bus)
    (silent : bus.includeTxEcho = false)
    (alone : ∀ port, (link.endpoint port).subscribers = [])
    (created : newSystem link address cfg = .ok s) :
    s.Live address bus ∧ ∀ side, s.load side = 2 ∧ s.pair.inflight side = [] := by
  obtain ⟨middle,fd,built,first,second⟩ := newSystem_ok created
  obtain ⟨joined,_⟩ := newSystem_starts fair created
  obtain ⟨openedA,liveA,ownA⟩ := Memory.subscribed_opened first
  obtain ⟨openedB,liveB,ownB⟩ := Memory.subscribed_opened second
  obtain ⟨_,_,madeA,stillB⟩ := Memory.subscribed_empty first
  obtain ⟨_,_,_,stillA⟩ := Memory.subscribed_empty second
  obtain ⟨inboxA,_⟩ := Memory.subscribed_inbox first
  obtain ⟨inboxB,others⟩ := Memory.subscribed_inbox second
  have endA : s.link.endpoint .a = middle.endpoint .a := stillA
  have endB : middle.endpoint .b = link.endpoint .b := stillB
  have fresh (side : Side) : s.inbox side = .make 100 := by
    cases side with
    | left => exact (others _ madeA).trans inboxA
    | right => exact inboxB
  refine ⟨⟨joined,?_,?_,?_,?_,?_⟩,?_⟩
  · intro side
    rw [(built side).2.1]
    exact ⟨rfl,by simp [Stack.start],by simp [Stack.start],by simp [Stack.start],rfl,rfl,
      by simp [Stack.start],by simp [Stack.start],by simp [Stack.front,Stack.start],
      by simp [Stack.outgoing,Stack.start]⟩
  · rintro (_ | _)
    · rw [endA,ownA]
      exact ⟨openedA,liveA⟩
    · rw [ownB]
      exact ⟨openedB,liveB⟩
  · rintro (_ | _)
    · show (s.link.endpoint .a).subscribers = _
      rw [endA,ownA,alone]
    · show (s.link.endpoint .b).subscribers = _
      rw [ownB,endB,alone]
  · intro port
    rw [joined.linked.fair.echo,silent]
  · intro side
    rw [fresh side,(built side).2.1]
    exact ⟨rfl,Nat.zero_le _,by simp⟩
  · intro side
    have unread : s.unread side = [] := by simp [unread,fresh side]
    refine ⟨?_,?_⟩
    · rw [System.load,fresh side,(built side).2.1]
      rfl
    · show (s.stack side).front ++ (s.unread side).filterMap fromCANFrame ++
        (s.stack side.other).departing = []
      rw [unread,(built side).2.1,(built side.other).2.1]
      rfl

theorem Live.called (live : s.Live address bus) {side : Side} {event : Event}
    (admissible : (Deal.own side (.call event)).admissible address)
    (taken : s.react (.own side (.call event)) = some (move,t)) :
    t.Live address bus ∧ ∃ session outputs, (s.stack side).session.step event = some (session,outputs) ∧
      t = s.set side { s.stack side with session := session } s.link := by
  have deals := react_deals taken
  simp only [react,Turn.own,if_true] at taken
  obtain ⟨made,stack,step,rfl,rfl⟩ := turn_some taken
  cases step with
  | @called _ session outputs called answered =>
    refine ⟨?_,session,outputs,answered,rfl⟩
    have alive := live.stack side
    have changed : Stack.Live { s.stack side with session := session } (address side) :=
      { alive with
        ready := fun chosen holds =>
          (Session.called_step called answered).2 chosen (alive.ready chosen holds) }
    have step : (s.stack side).Turns (.call event) _ { s.stack side with session := session } :=
      .called called answered
    have inboxes := inbox_set s.link step
    refine ⟨deals.joined live.joined admissible (fun _ => rfl),?_,live.used,?_,live.silent,?_⟩
    · intro which
      rcases which.same_or_other side with rfl | rfl
      · rw [set_stack]
        exact changed
      · rw [set_other]
        exact live.stack _
    · intro which
      rw [deals.subscription]
      exact live.alone which
    · intro which
      rw [inboxes]
      rcases which.same_or_other side with rfl | rfl
      · rw [set_stack]
        exact live.supply _
      · rw [set_other]
        exact live.supply _

end System

theorem newSession_flow {address : Option Address} {cfg : Config} {fd : Bool} {s : Session}
    (created : newSession address cfg fd = .ok s) :
    s.config.blockSize = cfg.blockSize ∧ s.config.manualFlowControl = cfg.manualFlowControl := by
  unfold newSession at created
  split at created
  · contradiction
  · rename_i config normalized
    have same : config.blockSize = cfg.blockSize ∧ config.manualFlowControl = cfg.manualFlowControl := by
      unfold normalizeConfig at normalized
      dsimp only at normalized
      split at normalized
      · contradiction
      · rw [← Except.ok.inj normalized]
        split_ifs <;> exact ⟨rfl,rfl⟩
    split at created
    · contradiction
    · contradiction
    · cases created
      exact same

/-- The sessions as `New` makes them begin a transfer with a payload queued on the left. -/
theorem Pair.fresh_inStage {p : Pair} {payload : Bytes} {own other : Address} {left right : Config}
    {fd : Bool} {channel : Chan Bytes} (sound : ∀ side, (p.session side).Sound)
    (sender : p.session .left = { Session.fresh own left fd with txDataChan := channel })
    (receiver : p.session .right = .fresh other right fd) (mirrored : other = ⟨own.rxID,own.txID⟩)
    (queue : channel.buffer = [payload]) (empty : ∀ side, p.inflight side = [])
    (automatic : right.manualFlowControl = false) (proper : payload ≠ [] ∧ payload.length < 2^32)
    (accepted : payload.length ≤ right.maxPayloadSize) :
    p.InStage payload (Chan.make 10) ∧ p.work = 4 * (payload.length + 1) := by
  have leftSound := sound .left
  have rightSound := sound .right
  unfold InStage Pair.work
  rw [empty,empty,sender,receiver]
  rw [sender] at leftSound
  rw [receiver] at rightSound
  refine ⟨⟨⟨leftSound,rightSound,rfl,rfl,mirrored,automatic,rfl,rfl,proper.1,proper.2,accepted,?_⟩,
    .queued rfl queue rfl rfl⟩,?_⟩
  · simp [Chan.make]
  · simp [Isotp.work,queue,Session.fresh]

namespace System

variable {bus : BusConfig} {link : Link} {address : Side → Address} {cfg : Side → Config} {s t : System}
  {payload : Bytes} {move : Option PairMove}

theorem newSystem_fresh (modes : ∀ port, (link.endpoint port).cfg.mode = bus.mode)
    (created : newSystem link address cfg = .ok s) (side : Side) :
    ∃ config, (s.stack side).session = .fresh (address side) config (bus.mode == Mode.fd) := by
  obtain ⟨middle,fd,built,first,second⟩ := newSystem_ok created
  obtain ⟨target,config,_,_,_,same⟩ := newSession_ok (built side).1
  have own : target = address side := by
    have fresh := (newSession_fresh (built side).1).1
    rwa [same] at fresh
  have mode : (s.link.endpoint side.port).cfg.mode = bus.mode := by
    have early := Memory.call_mode link .a (.subscribe 100) side.port
    have late := Memory.call_mode middle .b (.subscribe 100) side.port
    rw [first] at early
    rw [second] at late
    exact late.trans (early.trans (modes side.port))
  exact ⟨config,by rw [same,own,(built side).2.2,mode]⟩

theorem sent_queues {session : Session} {outputs : List Output}
    (sent : (s.stack .left).session.step (.send payload) = some (session,outputs)) :
    ∃ channel, channel.buffer = (s.stack .left).session.txDataChan.buffer ++ [payload] ∧
      session = { (s.stack .left).session with txDataChan := channel } := by
  simp only [Session.step,Session.sendContext] at sent
  split_ifs at sent
  · contradiction
  · simp only [Option.map_map,Option.map_eq_some_iff] at sent
    obtain ⟨channel,room,same⟩ := sent
    cases same
    exact ⟨channel,(Chan.offer_some room).1,rfl⟩

/-- The system right after a caller has submitted a payload to it. -/
theorem submitted_underway (fair : link.Fair bus)
    (modes : ∀ port, (link.endpoint port).cfg.mode = bus.mode) (silent : bus.includeTxEcho = false)
    (alone : ∀ port, (link.endpoint port).subscribers = [])
    (created : newSystem link address cfg = .ok s)
    (mirrored : ∀ side, address side.other = ⟨(address side).rxID,(address side).txID⟩)
    (automatic : (cfg .right).manualFlowControl = false)
    (blocks : 0 < (cfg .right).blockSize ∧ (cfg .right).blockSize ≤ 100)
    (proper : payload ≠ [] ∧ payload.length < 2^32)
    (accepted : payload.length ≤ (s.stack .right).session.config.maxPayloadSize)
    (submits : s.react (.own .left (.call (.send payload))) = some (move,t)) :
    t.Underway address bus payload (Chan.make 10) ∧ t.weight = 48 * (payload.length + 1) + 4 ∧
      t.link = s.link ∧ (t.stack .right).session.rxDataChan.buffer = [] := by
  obtain ⟨live,starts⟩ := newSystem_live fair silent alone created
  obtain ⟨_,_,built,_⟩ := newSystem_ok created
  obtain ⟨left,sender⟩ := newSystem_fresh modes created .left
  obtain ⟨right,receiver⟩ := newSystem_fresh modes created .right
  have flow := newSession_flow (built .right).1
  rw [receiver] at flow accepted
  obtain ⟨alive,session,outputs,sent,rfl⟩ :=
    live.called (by simpa [Deal.admissible] using proper) submits
  obtain ⟨channel,queue,rfl⟩ := sent_queues sent
  rw [sender] at queue
  set t : System := s.set .left
    { s.stack .left with session := { (s.stack .left).session with txDataChan := channel } } s.link
  have flights : t.pair.inflight = s.pair.inflight := by
    funext side
    cases side <;> rfl
  have loads : t.load = s.load := by
    funext side
    cases side <;> rfl
  have sends : t.pair.session .left =
      { Session.fresh (address .left) left (bus.mode == Mode.fd) with txDataChan := channel } := by
    rw [← sender]
    rfl
  have waits : (t.stack .right).session = .fresh (address .right) right (bus.mode == Mode.fd) := receiver
  obtain ⟨stage,work⟩ := Pair.fresh_inStage (fun side => (alive.joined.stationed side).sound) sends waits
    (mirrored .left) queue (fun side => flights ▸ (starts side).2) (flow.2.trans automatic) proper accepted
  refine ⟨⟨alive,stage,?_⟩,?_,rfl,?_⟩
  · have size : (t.stack .right).session.config.blockSize = (cfg .right).blockSize := by
      rw [waits]
      exact flow.1
    rw [size]
    exact blocks
  · rw [weight,loads,Side.both,(starts .left).1,(starts .right).1,work]
    omega
  · rw [waits]
    rfl

end System

/-- A payload submitted to one end of the link arrives at the other: when only the goroutines of the
two sessions move, in whatever order, they come to an end after a bounded number of steps, no channel
on the way is ever too full for a frame, and they stop only with the payload delivered. -/
theorem transfer_completes {bus : BusConfig} {events : List Memory.Event} {link : Link}
    {address : Side → Address} {cfg : Side → Config} {s t u : System} {payload : Bytes}
    {move : Option PairMove} {labels : List Dealt}
    (opened : Run Memory.Event.Step (Memory.newPair bus) events link)
    (silent : bus.includeTxEcho = false) (alone : ∀ port, (link.endpoint port).subscribers = [])
    (created : newSystem link address cfg = .ok s)
    (mirrored : ∀ side, address side.other = ⟨(address side).rxID,(address side).txID⟩)
    (automatic : (cfg .right).manualFlowControl = false)
    (blocks : 0 < (cfg .right).blockSize ∧ (cfg .right).blockSize ≤ 100)
    (proper : payload ≠ [] ∧ payload.length < 2^32)
    (accepted : payload.length ≤ (s.stack .right).session.config.maxPayloadSize)
    (submits : s.react (.own .left (.call (.send payload))) = some (move,t))
    (run : Run Dealt.Step t labels u) (undisturbed : ∀ label ∈ labels, label.deal.undisturbed) :
    labels.length ≤ 48 * (payload.length + 1) + 4 ∧
      (∀ port, (u.link.endpoint port).dropped = (s.link.endpoint port).dropped) ∧
      (u.Goes ∨ delivered .right (pairMoves labels) = [payload] ∧
        (u.stack .right).session.rxDataChan.buffer = [payload]) := by
  obtain ⟨underway,weight,still,empty⟩ := System.submitted_underway
    (Memory.run_fair opened (Memory.newPair_fair bus)) (Memory.run_mode opened) silent alone created
    mirrored automatic blocks proper accepted submits
  have steps := Run.restrict_iff.mpr ⟨run,undisturbed⟩
  have keeps (v : System) (label : Dealt) (w : System)
      (underway : v.Underway address bus payload (Chan.make 10))
      (step : Dealt.Step v label w ∧ label.deal.undisturbed = true) :=
    underway.step mirrored step.2 step.1
  have arrived : u.Underway address bus payload (Chan.make 10) :=
    steps.invariant _ underway fun v label w underway step => (keeps v label w underway step).1
  have bounded := steps.bounded System.weight underway
    (fun v label w underway step => (keeps v label w underway step).1)
    fun v label w underway step => (keeps v label w underway step).2.1
  have history : (u.Underway address bus payload (Chan.make 10) ∧
      ∀ port, (u.link.endpoint port).dropped = (t.link.endpoint port).dropped) ∧
        ∀ label ∈ labels, ∀ made ∈ label.move, made.move.event.timely := by
    refine steps.history (fun past v => (v.Underway address bus payload (Chan.make 10) ∧
      ∀ port, (v.link.endpoint port).dropped = (t.link.endpoint port).dropped) ∧
        ∀ label ∈ past, ∀ made ∈ label.move, made.move.event.timely = true)
      ⟨⟨underway,fun _ => rfl⟩,by simp⟩ ?_
    rintro past v label w - ⟨⟨underway,lossless⟩,timely⟩ step
    obtain ⟨later,_,kept,moves⟩ := keeps v label w underway step
    refine ⟨⟨later,fun port => (kept port).trans (lossless port)⟩,?_⟩
    intro other member
    rcases List.mem_append.mp member with old | new
    · exact timely other old
    · rw [List.mem_singleton.mp new]
      exact moves
  obtain ⟨⟨_,lossless⟩,timely⟩ := history
  refine ⟨by omega,fun port => (lossless port).trans (by rw [still]),?_⟩
  rcases arrived.goes_or_done with goes | ⟨_,_,inbox,_⟩
  · exact .inl goes
  · refine .inr ⟨?_,inbox⟩
    have sessions := (System.run_session run .right).1
    have collected := inbox_run (underway.live.joined.stationed .right).sound sessions ?_
    · rw [inbox,empty] at collected
      exact collected.symm
    · intro made member
      obtain ⟨label,inside,same⟩ := List.mem_filterMap.mp member
      obtain ⟨dealt,known,moved⟩ := List.mem_filterMap.mp inside
      split_ifs at same
      rw [← Option.some.inj same]
      exact timely dealt known label moved

theorem transfer_completes_steps :
    ∃ (s t u : System) (labels : List Dealt), Run Dealt.Step t labels u ∧
      delivered .right (pairMoves labels) = [List.replicate 10 7] ∧
      labels.length ≤ 48 * (10 + 1) + 4 ∧
      ∀ port, (u.link.endpoint port).dropped = (s.link.endpoint port).dropped := by
  let address : Side → Address := fun side =>
    if side = .left then ⟨0x7E0,0x7E8⟩ else ⟨0x7E8,0x7E0⟩
  let bus : BusConfig := BusConfig.default Mode.classic 0
  let cfg : Config := { defaultConfig with blockSize := 2 }
  let payload : Bytes := List.replicate 10 7
  let opening : List Memory.Turn := [.call .a .openBus,.call .b .openBus]
  let out (side : Side) : List Deal := [.own side .take,.check side,.transmit side]
  let into (side : Side) : List Deal :=
    [.receive side,.accept side,.own side .pass,.own side .read,.own side (.finish .queued)]
  let deals : List Deal := [.own .left (.select .dequeue),.own .left (.finish .queued)] ++ out .left ++
    into .right ++ out .right ++ into .left ++
    [.own .left (.select .expireTxSTmin),.own .left (.finish .queued)] ++ out .left ++ into .right
  have observed : ((execute Memory.Link.react (Memory.newPair bus) opening).bind fun opened =>
      (newSystem opened.2 address fun _ => cfg).toOption.bind fun s =>
        (s.react (.own .left (.call (.send payload)))).bind fun sent => (sent.2.execute deals).map fun result =>
          (delivered .right (pairMoves result.1),result.1.all fun label => label.deal.undisturbed,
            (opened.2.endpoint .a).subscribers ++ (opened.2.endpoint .b).subscribers,
            decide (payload.length ≤ (s.stack .right).session.config.maxPayloadSize))) =
      some ([payload],true,[],true) := by
    decide +kernel
  obtain ⟨⟨events,link⟩,opened,observed⟩ := Option.bind_eq_some_iff.mp observed
  obtain ⟨s,created,observed⟩ := Option.bind_eq_some_iff.mp observed
  obtain ⟨⟨move,t⟩,submits,observed⟩ := Option.bind_eq_some_iff.mp observed
  obtain ⟨⟨labels,u⟩,executed,observed⟩ := Option.map_eq_some_iff.mp observed
  simp only [Prod.mk.injEq,List.append_eq_nil_iff,decide_eq_true_eq] at observed
  obtain ⟨got,undisturbed,⟨first,second⟩,accepted⟩ := observed
  have built : newSystem link address (fun _ => cfg) = .ok s := by
    cases made : newSystem link address fun _ => cfg with
    | error => simp [made,Except.toOption] at created
    | ok => simpa [made,Except.toOption] using created
  have mirrored : ∀ side, address side.other = ⟨(address side).rxID,(address side).txID⟩ := by
    rintro (_ | _) <;> rfl
  have alone : ∀ port, (link.endpoint port).subscribers = [] := by
    rintro (_ | _)
    · exact first
    · exact second
  have run := System.execute_run executed
  obtain ⟨bounded,lossless,_⟩ := transfer_completes (execute_run Memory.react_step opened) rfl alone built
    mirrored rfl ⟨by decide,by decide⟩ ⟨by decide,by decide⟩ accepted submits run
      (List.all_eq_true.mp undisturbed)
  exact ⟨s,t,u,labels,run,got,bounded,lossless⟩

end Canbuskit.Isotp
