import Canbuskit.Can.Construction
import Canbuskit.Can.Delivery
import Canbuskit.Isotp.Passage
import Canbuskit.Isotp.System

/-! The frames on their way through the system. Between the subscription's losses and the end of
either session the goroutines and the link pass the frames of a session on in their order, and
once something is lost for good nothing comes after it. -/
namespace Canbuskit.Isotp
open Can Channel Runs
open Memory (Link)

def Address.meant (address : Address) (msgs : List LinkFrame) : List LinkFrame :=
  msgs.filter fun msg => address.accepts msg.arbitrationID

@[simp] theorem Address.meant_nil (address : Address) : address.meant [] = [] := rfl

@[simp] theorem Address.meant_append (address : Address) (first second : List LinkFrame) :
    address.meant (first ++ second) = address.meant first ++ address.meant second :=
  List.filter_append ..

@[simp] theorem Side.port_other (side : Side) : side.other.port = side.port.peer := by
  cases side <;> rfl

theorem Side.other_ne (side : Side) : side.other ≠ side := by cases side <;> simp [Side.other]

namespace System

/-- What the receive goroutine has not read yet of its subscription. -/
def unread (s : System) (side : Side) : List Frame :=
  (s.inbox side).content.drop (s.stack side).reads

def Severed (s : System) (side : Side) : Prop :=
  (∃ port, (s.link.endpoint port).closed = true) ∨
    (s.stack side).subscription ∉ (s.link.endpoint side.port).subscribers ∨
      (s.stack side.other).Silenced

/-- The frames on their way to a side, as the session there will hear them. Those behind a loss are
not determined any more. -/
def Inflight (s : System) (address : Address) (side : Side) (flying : List LinkFrame) : Prop :=
  ∃ tail, flying = address.meant (s.stack side).front ++ tail ∧
    ((s.stack side).receiver = .returned ∨
      ∃ rest, tail = address.meant ((s.unread side).filterMap fromCANFrame) ++ rest ∧
        (s.Severed side ∨ rest = address.meant (s.stack side.other).departing))

/-- What one step does with the frames on their way to a side. -/
structure Passing (s t : System) (address : Address) (side : Side) (own other : Option Move)
    (taken gained : List Frame) (dropped left : List LinkFrame) : Prop where
  front : (s.stack side).front ++ taken.filterMap fromCANFrame =
    arrivals own ++ (t.stack side).front ++ dropped
  lost : dropped ≠ [] → (t.stack side).receiver = .returned
  untaken : (t.stack side).receiver = .returned → taken.filterMap fromCANFrame = []
  receiver : (s.stack side).receiver = .returned → (t.stack side).receiver = .returned
  unread : s.unread side ++ gained = taken ++ t.unread side
  departing : (s.stack side.other).departing ++ departures other =
    left ++ (t.stack side.other).departing
  severed : s.Severed side → t.Severed side ∧ address.meant (gained.filterMap fromCANFrame) = []
  moved : address.meant (gained.filterMap fromCANFrame) = address.meant left ∨
    address.meant (gained.filterMap fromCANFrame) = [] ∧ t.Severed side

theorem Passing.follow {s t : System} {address : Address} {side : Side} {own other : Option Move}
    {taken gained : List Frame} {dropped left : List LinkFrame}
    (passing : Passing s t address side own other taken gained dropped left)
    {flying : List LinkFrame} (inflight : s.Inflight address side flying) :
    ∃ next, flying ++ address.meant (departures other) = address.meant (arrivals own) ++ next ∧
      t.Inflight address side next := by
  obtain ⟨tail,rfl,stage⟩ := inflight
  have front := congrArg address.meant passing.front
  simp only [Address.meant_append] at front
  by_cases gone : (t.stack side).receiver = .returned
  · rw [passing.untaken gone,Address.meant_nil,List.append_nil] at front
    refine ⟨address.meant (t.stack side).front ++
      (address.meant dropped ++ tail ++ address.meant (departures other)),?_,_,rfl,.inl gone⟩
    simp [front]
  · have whole : dropped = [] := by
      by_contra lost
      exact gone (passing.lost lost)
    rw [whole,Address.meant_nil,List.append_nil] at front
    obtain present | ⟨rest,rfl,rests⟩ := stage
    · exact absurd (passing.receiver present) gone
    have unread := congrArg (fun frames => address.meant (frames.filterMap fromCANFrame)) passing.unread
    have departing := congrArg address.meant passing.departing
    simp only [List.filterMap_append,Address.meant_append] at unread departing
    -- without a gain the frames that leave the other side join whatever is behind the unread ones
    have joined (none : address.meant (gained.filterMap fromCANFrame) = []) (cut : t.Severed side) :
        ∃ next, address.meant (s.stack side).front ++
            (address.meant ((s.unread side).filterMap fromCANFrame) ++ rest) ++
              address.meant (departures other) = address.meant (arrivals own) ++ next ∧
          t.Inflight address side next := by
      rw [none,List.append_nil] at unread
      refine ⟨_,?_,_,rfl,.inr ⟨rest ++ address.meant (departures other),rfl,.inl cut⟩⟩
      rw [unread]
      simp only [← List.append_assoc,← front]
    obtain cut | rfl := rests
    · obtain ⟨later,none⟩ := passing.severed cut
      exact joined none later
    · obtain same | ⟨none,cut⟩ := passing.moved
      · refine ⟨_,?_,_,rfl,.inr ⟨_,rfl,.inr rfl⟩⟩
        rw [same] at unread
        calc _ = address.meant (s.stack side).front ++
              (address.meant ((s.unread side).filterMap fromCANFrame) ++
                (address.meant (s.stack side.other).departing ++ address.meant (departures other))) := by
              simp only [List.append_assoc]
          _ = _ := by
              rw [departing,← List.append_assoc (address.meant ((s.unread side).filterMap _)),unread]
              simp only [← List.append_assoc,← front]
      · exact joined none cut

/-- The link as it stays while both sessions have their subscriptions. -/
structure Linked (bus : BusConfig) (s : System) : Prop where
  fair : s.link.Fair bus
  used : ∀ port, (s.link.endpoint port).opened = true ∨ (s.link.endpoint port).closed = true
  made : ∀ side, (s.stack side).subscription < s.link.heap.made
  apart : ∀ side, (s.stack side).subscription ∉ (s.link.endpoint side.port.peer).subscribers
  reads : ∀ side, (s.stack side).reads ≤ (s.inbox side).content.length

/-- What the link does in one deal. -/
inductive Motion where
  | still
  | event (event : Memory.Event)
  | cut (sender : Memory.Port) (frame : Frame)

def Moved (link : Link) (motion : Motion) (next : Link) : Prop :=
  match motion with
  | .still => next = link
  | .event event => Memory.Event.Step link event next
  | .cut sender frame => ∃ past echoes, link.Interrupted sender frame next past echoes

def heard (bus : BusConfig) (port : Memory.Port) : Motion → List Frame
  | .still => []
  | .event event => event.heard bus port
  | .cut sender frame => [Memory.heardAt sender port frame]

def Sends (s : System) (side : Side) (link : Link) (motion : Motion) : Prop :=
  ∃ frame, (s.stack side).transmitter = .holding (.checked frame) ∧
    ((∃ result, s.link.send side.port frame = (link,result) ∧
        motion = .event (.called ⟨s.link,side.port,.send frame,.sent result,link⟩)) ∨
      (s.stack side).closing ≠ .running ∧ motion = .cut side.port frame)

/-- What one deal can do: a stack takes a turn and the link follows, or only the link moves. -/
inductive Deals (s : System) : Deal → Option PairMove → System → Prop
  | turned {deal side turn move stack motion link} (step : (s.stack side).Turns turn move stack)
      (moved : Moved s.link motion link)
      (accepts : ∀ frame, turn = .accept frame →
        motion = .still ∧ (s.inbox side).received[(s.stack side).reads]? = some frame)
      (quiet : turn ≠ .sent → ∀ bus port, heard bus port motion = [])
      (sends : turn = .sent → s.Sends side link motion)
      (calls : ∀ event, turn = .call event → deal = .own side (.call event)) :
      Deals s deal (move.map (⟨side,·⟩)) (s.set side stack link)
  | awaited {side} : Deals s (.receive side) none { s with link := { s.link with
      toMailroom := s.link.toMailroom.receive (s.stack side).subscription } }
  | foreign {turn event link} (reacted : s.link.react turn = some (event,link)) :
      Deals s (.other turn) none { s with link := link }
  | interrupted {port frame interruption link}
      (cut : s.link.interrupt port frame interruption = some link) :
      Deals s (.interruptOther port frame interruption) none { s with link := link }

theorem turn_some {s t : System} {side : Side} {turn : Turn} {link : Link} {move : Option PairMove}
    (taken : s.turn side turn link = some (move,t)) :
    ∃ own stack, (s.stack side).Turns turn own stack ∧ move = own.map (⟨side,·⟩) ∧
      t = s.set side stack link := by
  obtain ⟨⟨own,stack⟩,reacted,same⟩ := Option.map_eq_some_iff.mp taken
  cases same
  exact ⟨own,stack,Stack.react_turns reacted,rfl,rfl⟩

theorem turned_still {s t : System} {deal : Deal} {side : Side} {turn : Turn} {move : Option PairMove}
    (taken : s.turn side turn s.link = some (move,t)) (unsent : turn ≠ .sent)
    (accepts : ∀ frame, turn = .accept frame →
      (s.inbox side).received[(s.stack side).reads]? = some frame)
    (calls : ∀ event, turn = .call event → deal = .own side (.call event)) : s.Deals deal move t := by
  obtain ⟨own,stack,step,rfl,rfl⟩ := turn_some taken
  have stays : Moved s.link .still s.link := rfl
  exact .turned step stays (fun frame same => ⟨rfl,accepts frame same⟩) (fun _ _ _ => rfl)
    (fun sent => absurd sent unsent) calls

theorem react_deals {s t : System} {deal : Deal} {move : Option PairMove}
    (taken : s.react deal = some (move,t)) : s.Deals deal move t := by
  cases deal with
  | own side turn =>
    simp only [react] at taken
    split_ifs at taken with own
    refine turned_still taken ?_ ?_ ?_
    · rintro rfl
      contradiction
    · rintro frame rfl
      contradiction
    · rintro event rfl
      rfl
  | receive side =>
    simp only [react] at taken
    split_ifs at taken
    cases taken
    exact .awaited
  | accept side =>
    simp only [react] at taken
    split at taken
    · rename_i frame unread
      refine turned_still taken (by simp) ?_ (by simp)
      intro other same
      cases same
      exact unread
    · contradiction
  | drained side =>
    simp only [react] at taken
    split_ifs at taken
    exact turned_still taken (by simp) (by simp) (by simp)
  | check side => exact turned_still taken (by simp) (by simp) (by simp)
  | transmit side =>
    simp only [react] at taken
    split at taken
    · rename_i frame holds
      obtain ⟨own,stack,step,rfl,rfl⟩ := turn_some taken
      have sends : Moved s.link (.event (.called ⟨s.link,side.port,.send frame,
          .sent (s.link.send side.port frame).2,(s.link.send side.port frame).1⟩))
            (s.link.send side.port frame).1 := ⟨rfl,rfl,rfl⟩
      refine .turned step sends (by simp) (fun unsent => absurd rfl unsent) ?_ (by simp)
      exact fun _ => ⟨frame,holds,.inl ⟨_,rfl,rfl⟩⟩
    · contradiction
  | interrupt side interruption =>
    simp only [react] at taken
    split at taken
    · rename_i frame holds
      split_ifs at taken with live
      obtain ⟨link,cut,turns⟩ := Option.bind_eq_some_iff.mp taken
      obtain ⟨own,stack,step,rfl,rfl⟩ := turn_some turns
      have cuts : Moved s.link (.cut side.port frame) link := Memory.interrupt_some cut
      refine .turned step cuts (by simp) (fun unsent => absurd rfl unsent) ?_ (by simp)
      exact fun _ => ⟨frame,holds,.inr ⟨live,rfl⟩⟩
    · contradiction
  | unsubscribe side =>
    obtain ⟨own,stack,step,rfl,rfl⟩ := turn_some taken
    have unsubscribes : Moved s.link (.event (.called ⟨s.link,side.port,
        .unsubscribe (s.stack side).subscription,.unsubscribed,
          (s.link.call side.port (.unsubscribe (s.stack side).subscription)).1⟩)) _ := ⟨rfl,rfl,rfl⟩
    exact .turned step unsubscribes (by simp) (fun _ _ _ => rfl) (by simp) (by simp)
  | leave side goroutine =>
    obtain ⟨own,stack,step,rfl,rfl⟩ := turn_some taken
    by_cases waits : goroutine = .receive ∧ 0 < (s.inbox side).waiting
    · have given : s.leftLink side goroutine =
          { s.link with toMailroom := s.link.toMailroom.giveUp (s.stack side).subscription } := by
        rw [waits.1]
        exact if_pos waits.2
      rw [given]
      have gives : Moved s.link (.event (.gaveUp (s.stack side).subscription)) _ := ⟨waits.2,rfl⟩
      exact .turned step gives (by simp) (fun _ _ _ => rfl) (by simp) (by simp)
    · have still : s.leftLink side goroutine = s.link := by
        cases goroutine with
        | receive => exact if_neg fun positive => waits ⟨rfl,positive⟩
        | run | transmit => rfl
      rw [still]
      have stays : Moved s.link .still s.link := rfl
      exact .turned step stays (by simp) (fun _ _ _ => rfl) (by simp) (by simp)
  | other turn =>
    simp only [react] at taken
    split_ifs at taken
    obtain ⟨⟨event,link⟩,reacted,same⟩ := Option.map_eq_some_iff.mp taken
    cases same
    exact .foreign reacted
  | interruptOther port frame interruption =>
    obtain ⟨link,cut,same⟩ := Option.map_eq_some_iff.mp taken
    cases same
    exact .interrupted cut

theorem Deals.subscription {s t : System} {deal : Deal} {move : Option PairMove}
    (deals : s.Deals deal move t) (side : Side) :
    (t.stack side).subscription = (s.stack side).subscription := by
  cases deals with
  | @turned _ mover _ _ _ _ _ step =>
    rcases side.same_or_other mover with rfl | rfl
    · rw [set_stack]
      exact step.subscription.1
    · rw [set_other]
  | awaited | foreign | interrupted => rfl

theorem moved_later {link next : Link} {motion : Motion} (moved : Moved link motion next)
    (port : Memory.Port) : (link.endpoint port).Later (next.endpoint port) := by
  cases motion with
  | still =>
    cases moved
    exact .refl _
  | event => exact Memory.step_later moved port
  | cut =>
    obtain ⟨_,_,cut⟩ := moved
    exact cut.later port

theorem Deals.later {s t : System} {deal : Deal} {move : Option PairMove} (deals : s.Deals deal move t)
    (port : Memory.Port) : (s.link.endpoint port).Later (t.link.endpoint port) := by
  cases deals with
  | turned _ moved => exact moved_later moved port
  | awaited => exact .refl _
  | foreign reacted => exact Memory.step_later (Memory.react_step _ _ _ _ reacted) port
  | interrupted cut =>
    obtain ⟨_,_,cut⟩ := Memory.interrupt_some cut
    exact cut.later port

section moved

variable {bus : BusConfig} {s : System} {link : Link} {motion : Motion}

theorem Linked.unsubscribed (linked : s.Linked bus) (moved : Moved s.link motion link) {side : Side}
    (gone : (s.stack side).subscription ∉ (s.link.endpoint side.port).subscribers) :
    (link.inbox (s.stack side).subscription).content = (s.inbox side).content := by
  cases motion with
  | still =>
    cases moved
    rfl
  | event event =>
    refine Memory.unsubscribed_gains moved (linked.made side) ?_
    intro port
    rcases side.port.eq_or_peer port with rfl | rfl
    · exact gone
    · exact linked.apart side
  | cut =>
    obtain ⟨_,_,cut⟩ := moved
    obtain ⟨gained,content,_,none⟩ := cut.gains linked.fair side.port (linked.apart side)
    rw [content,none gone,List.append_nil]
    rfl

/-- A subscription gets what its port hears, or is over, or is one that an interrupted `Send` has
not come past. -/
theorem Linked.gains (linked : s.Linked bus) (moved : Moved s.link motion link) (side : Side)
    (kept : (link.endpoint side.port).dropped = (s.link.endpoint side.port).dropped) :
    ∃ gained, (link.inbox (s.stack side).subscription).content = (s.inbox side).content ++ gained ∧
      (gained = heard bus side.port motion ∨
        gained = [] ∧ ((s.stack side).subscription ∉ (s.link.endpoint side.port).subscribers ∨
          ∃ sender frame, motion = .cut sender frame)) := by
  by_cases member : (s.stack side).subscription ∈ (s.link.endpoint side.port).subscribers
  · cases motion with
    | still =>
      cases moved
      exact ⟨[],(List.append_nil _).symm,.inl rfl⟩
    | event event => exact ⟨_,Memory.subscribed_gains linked.fair moved member kept,.inl rfl⟩
    | cut sender frame =>
      obtain ⟨_,_,cut⟩ := moved
      obtain ⟨gained,content,gains,_⟩ := cut.gains linked.fair side.port (linked.apart side)
      refine ⟨gained,content,?_⟩
      rcases List.sublist_singleton.mp gains with none | whole
      · exact .inr ⟨none,.inr ⟨sender,frame,rfl⟩⟩
      · exact .inl whole
  · exact ⟨[],by rw [List.append_nil,linked.unsubscribed moved member],.inr ⟨rfl,.inl member⟩⟩

theorem Linked.made_moved (linked : s.Linked bus) (moved : Moved s.link motion link) :
    link.Fair bus ∧ s.link.heap.made ≤ link.heap.made ∧ ∀ port channel,
      channel < s.link.heap.made → channel ∈ (link.endpoint port).subscribers →
        channel ∈ (s.link.endpoint port).subscribers := by
  cases motion with
  | still =>
    cases moved
    exact ⟨linked.fair,Nat.le_refl _,fun _ _ _ member => member⟩
  | event event =>
    have effect := Memory.step_effect linked.fair moved
    refine ⟨effect.fair,effect.made,?_⟩
    intro port channel made member
    exact (effect.subscribers port channel member).resolve_right (Nat.not_le_of_lt made)
  | cut =>
    obtain ⟨_,_,cut⟩ := moved
    exact ⟨cut.fair linked.fair,cut.heap ▸ Nat.le_refl _,fun port _ _ member => cut.subscribers port ▸ member⟩

end moved

variable {bus : BusConfig} {s t : System} {deal : Deal} {move : Option PairMove}

theorem Deals.moved (linked : s.Linked bus) (deals : s.Deals deal move t) :
    ∃ motion, Moved s.link motion t.link := by
  cases deals with
  | turned _ moved => exact ⟨_,moved⟩
  | @awaited side => exact ⟨.event (.received (s.stack side).subscription),linked.made side,rfl⟩
  | @foreign _ event _ reacted => exact ⟨.event event,Memory.react_step _ _ _ _ reacted⟩
  | @interrupted port frame _ _ cut => exact ⟨.cut port frame,Memory.interrupt_some cut⟩

theorem Deals.linked (linked : s.Linked bus) (deals : s.Deals deal move t)
    (kept : ∀ port, (t.link.endpoint port).dropped = (s.link.endpoint port).dropped) :
    t.Linked bus := by
  obtain ⟨motion,moved⟩ := deals.moved linked
  obtain ⟨fair,made,subscribers⟩ := linked.made_moved moved
  refine ⟨fair,?_,?_,?_,?_⟩
  · exact fun port => ((moved_later moved port).settled (linked.used port)).2
  · intro side
    rw [deals.subscription]
    exact Nat.lt_of_lt_of_le (linked.made side) made
  · intro side
    rw [deals.subscription]
    exact fun member => linked.apart side (subscribers _ _ (linked.made side) member)
  · intro side
    obtain ⟨gained,content,_⟩ := linked.gains moved side (kept side.port)
    rw [inbox,deals.subscription,content,List.length_append]
    have before := linked.reads side
    cases deals with
    | @turned _ mover turn _ _ _ _ step _ accepts =>
      rcases side.same_or_other mover with rfl | rfl
      · rw [set_stack,step.subscription.2]
        cases turn with
        | accept frame =>
          have inside := (List.getElem?_eq_some_iff.mp (accepts frame rfl).2).1
          have whole : (s.inbox side).content =
            (s.inbox side).received ++ (s.inbox side).chan.buffer := rfl
          rw [whole,List.length_append]
          simp only [Turn.taken]
          omega
        | _ => exact Nat.le_add_right_of_le before
      · rw [set_other]
        exact Nat.le_add_right_of_le before
    | awaited | foreign | interrupted => exact Nat.le_add_right_of_le before

theorem Deals.severed (linked : s.Linked bus) (deals : s.Deals deal move t) {side : Side}
    (severed : s.Severed side) : t.Severed side := by
  obtain ⟨motion,moved⟩ := deals.moved linked
  obtain ⟨port,closed⟩ | gone | silenced := severed
  · exact .inl ⟨port,(moved_later moved port).closed closed⟩
  · refine .inr (.inl ?_)
    rw [deals.subscription]
    exact fun member => gone ((linked.made_moved moved).2.2 _ _ (linked.made side) member)
  · refine .inr (.inr ?_)
    cases deals with
    | @turned _ mover _ _ _ _ _ step =>
      rcases side.other.same_or_other mover with rfl | same
      · rw [set_stack]
        exact step.silenced silenced
      · rw [same,set_other,← same]
        exact silenced
    | awaited | foreign | interrupted => exact silenced

theorem unread_still (linked : s.Linked bus) {side : Side} {gained : List Frame}
    (content : (t.inbox side).content = (s.inbox side).content ++ gained)
    (reads : (t.stack side).reads = (s.stack side).reads) :
    s.unread side ++ gained = t.unread side := by
  rw [unread,unread,content,reads,List.drop_append_of_le_length (linked.reads side)]

theorem unread_accepted {side : Side} {frame : Frame}
    (accepts : (s.inbox side).received[(s.stack side).reads]? = some frame)
    (content : (t.inbox side).content = (s.inbox side).content)
    (reads : (t.stack side).reads = (s.stack side).reads + 1) :
    s.unread side = frame :: t.unread side := by
  obtain ⟨inside,same⟩ := List.getElem?_eq_some_iff.mp accepts
  have whole : (s.inbox side).content =
    (s.inbox side).received ++ (s.inbox side).chan.buffer := rfl
  have within : (s.stack side).reads < (s.inbox side).content.length := by
    rw [whole,List.length_append]
    omega
  rw [unread,unread,content,reads,List.drop_eq_getElem_cons within]
  congr 1
  simp only [whole]
  rw [List.getElem_append_left inside,same]

theorem heard_own {s : System} {side : Side} {link : Link} {motion : Motion}
    (sends : s.Sends side link motion) (bus : BusConfig) :
    (heard bus side.port motion).filterMap fromCANFrame = [] := by
  have echo (frame : Frame) : fromCANFrame { frame with direction := .transmit } = none := by
    simp [fromCANFrame]
  obtain ⟨frame,_,⟨result,_,rfl⟩ | ⟨_,rfl⟩⟩ := sends
  · cases result with
    | error => rfl
    | ok => by_cases on : bus.includeTxEcho = true <;> simp [heard,Memory.Event.heard,on,echo]
  · rw [heard,Memory.heardAt_own,List.filterMap_cons,echo,List.filterMap_nil]

theorem heard_peer (bus : BusConfig) (before after : Link) (port : Memory.Port) (frame : Frame) :
    heard bus port.peer (.event (.called ⟨before,port,.send frame,.sent (.ok ()),after⟩)) =
      [{ frame with direction := .receive }] := by
  simp [heard,Memory.Event.heard]

theorem heard_foreign {bus : BusConfig} {address : Address} {link next : Link} {turn : Memory.Turn}
    {event : Memory.Event} (reacted : link.react turn = some (event,next))
    (apart : ∀ port frame, turn = .call port (.send frame) → address.accepts frame.id = false)
    (port : Memory.Port) :
    address.meant ((heard bus port (.event event)).filterMap fromCANFrame) = [] := by
  have other : ∀ frame ∈ heard bus port (.event event), address.accepts frame.id = false := by
    intro frame member
    cases turn with
    | receive channel | giveUp channel =>
      simp only [Memory.Link.react] at reacted
      split_ifs at reacted
      cases reacted
      cases member
    | call caller call =>
      cases reacted
      simp only [heard,Memory.Event.heard] at member
      split at member
      · rename_i same
        simp only [Memory.Event.called.injEq,Memory.Move.mk.injEq] at same
        obtain ⟨_,rfl,rfl,_,_⟩ := same
        have own := apart _ _ rfl
        split_ifs at member
        · cases List.mem_singleton.mp member
          exact own
        · cases List.mem_singleton.mp member
          exact own
        · cases member
      · cases member
  rw [Address.meant,List.filter_eq_nil_iff]
  intro msg member
  obtain ⟨frame,inside,hears⟩ := List.mem_filterMap.mp member
  rw [(fromCANFrame_some hears).2,other frame inside]
  simp

theorem heard_interrupted (bus : BusConfig) {address : Address} {sender : Memory.Port} {frame : Frame}
    (apart : address.accepts frame.id = false) (port : Memory.Port) :
    address.meant ((heard bus port (.cut sender frame)).filterMap fromCANFrame) = [] := by
  rw [Address.meant,List.filter_eq_nil_iff]
  intro msg member
  obtain ⟨other,inside,hears⟩ := List.mem_filterMap.mp member
  rw [(fromCANFrame_some hears).2,List.mem_singleton.mp inside]
  simpa [Memory.heardAt] using apart

/-- What the frames in the transmit goroutines' hands keep: the driver takes them. -/
def Sendable (s : System) : Prop :=
  ∀ side frame, (s.stack side).transmitter = .holding (.checked frame) →
    frame.validate = .ok () ∧
      ((s.link.endpoint side.port).cfg.mode = Mode.classic → frame.fd = false)

def moveAt (side : Side) (move : Option PairMove) : Option Move :=
  move.bind fun label => if label.side = side then some label.move else none

theorem moveAt_own (side : Side) (own : Option Move) : moveAt side (own.map (⟨side,·⟩)) = own := by
  cases own <;> simp [moveAt]

theorem moveAt_apart {side mover : Side} (apart : mover ≠ side) (own : Option Move) :
    moveAt side (own.map (⟨mover,·⟩)) = none := by
  cases own <;> simp [moveAt,apart]

section passes

variable {address : Address} {side : Side} {own : Option Move} {stack : Stack} {link : Link}
  {motion : Motion} {turn : Turn}

/-- A turn as the frames on their way to the stack itself see it. -/
theorem passes_own (linked : s.Linked bus) (step : (s.stack side).Turns turn own stack)
    (moved : Moved s.link motion link)
    (kept : (link.endpoint side.port).dropped = (s.link.endpoint side.port).dropped)
    (accepts : ∀ frame, turn = .accept frame →
      motion = .still ∧ (s.inbox side).received[(s.stack side).reads]? = some frame)
    (quiet : (heard bus side.port motion).filterMap fromCANFrame = [])
    (severs : s.Severed side → (s.set side stack link).Severed side) :
    ∃ taken gained dropped left,
      Passing s (s.set side stack link) address side own none taken gained dropped left := by
  obtain ⟨gained,content,hears⟩ := linked.gains moved side kept
  have silent : gained.filterMap fromCANFrame = [] := by
    obtain rfl | ⟨rfl,_⟩ := hears
    · exact quiet
    · rfl
  obtain ⟨dropped,front,lost⟩ := step.front
  obtain ⟨gone,unfed⟩ := step.receiver
  have subscription := step.subscription
  have inboxes : ((s.set side stack link).inbox side).content = (s.inbox side).content ++ gained := by
    rw [inbox,set_stack,set_link,subscription.1,content]
  have finishes {taken : List Frame} (fed : taken.filterMap fromCANFrame = turn.fed)
      (unread : s.unread side ++ gained = taken ++ (s.set side stack link).unread side) :
      Passing s (s.set side stack link) address side own none taken gained dropped [] :=
    { front := by rw [fed,set_stack,front]
      lost := by rwa [set_stack]
      untaken := by rwa [set_stack,fed]
      receiver := by rwa [set_stack]
      unread := unread
      departing := by rw [set_other]; exact List.append_nil _
      severed := fun cut => ⟨severs cut,by rw [silent]; rfl⟩
      moved := .inl (by rw [silent]) }
  cases turn with
  | accept frame =>
    obtain ⟨still,first⟩ := accepts frame rfl
    subst still
    obtain rfl : link = s.link := moved
    have still : gained = [] := List.self_eq_append_right.mp content
    refine ⟨[frame],gained,dropped,[],finishes ?_ ?_⟩
    · cases heard : fromCANFrame frame <;> simp [Turn.fed,heard]
    · rw [still,List.append_nil,List.singleton_append]
      refine unread_accepted first ?_ ?_
      · rw [inboxes,still,List.append_nil]
      · rw [set_stack]
        exact subscription.2
  | _ =>
    refine ⟨[],gained,dropped,[],finishes rfl ?_⟩
    refine unread_still linked inboxes ?_
    rw [set_stack]
    exact subscription.2

/-- A turn of the other stack. -/
theorem passes_other (address : Address) (linked : s.Linked bus) (sendable : s.Sendable)
    (step : (s.stack side.other).Turns turn own stack) (moved : Moved s.link motion link)
    (kept : (link.endpoint side.port).dropped = (s.link.endpoint side.port).dropped)
    (quiet : turn ≠ .sent → heard bus side.port motion = [])
    (sends : turn = .sent → s.Sends side.other link motion)
    (severs : s.Severed side → (s.set side.other stack link).Severed side) :
    ∃ gained left,
      Passing s (s.set side.other stack link) address side none own [] gained [] left := by
  have same : (s.set side.other stack link).stack side = s.stack side := by
    have other := s.set_other side.other stack link
    rwa [Side.other_other] at other
  have mover : (s.set side.other stack link).stack side.other = stack := s.set_stack ..
  obtain ⟨gained,content,hears⟩ := linked.gains moved side kept
  obtain ⟨left,departing,leaves⟩ := step.departing
  have inboxes : ((s.set side.other stack link).inbox side).content =
      (s.inbox side).content ++ gained := by rw [inbox,same,set_link,content]
  have finishes
      (severed : s.Severed side → address.meant (gained.filterMap fromCANFrame) = [])
      (passed : address.meant (gained.filterMap fromCANFrame) = address.meant left ∨
        address.meant (gained.filterMap fromCANFrame) = [] ∧
          (s.set side.other stack link).Severed side) :
      Passing s (s.set side.other stack link) address side none own [] gained [] left :=
    { front := by rw [same]; simp [arrivals]
      lost := by simp
      untaken := by simp
      receiver := by rw [same]; exact id
      unread := unread_still linked inboxes (by rw [same])
      departing := by rw [mover]; exact departing
      severed := fun cut => ⟨severs cut,severed cut⟩
      moved := passed }
  by_cases sent : turn = .sent
  · obtain ⟨frame,holds,sending⟩ := sends sent
    have gone : left = (fromCANFrame { frame with direction := .receive }).toList := by
      subst sent
      obtain ⟨unmoved,brings⟩ := step.sent_departing holds
      rw [unmoved,List.append_nil,brings] at departing
      exact (List.append_cancel_right departing).symm
    -- What has got through is the frame, and nothing gets through a cut.
    have passed (live : ∀ port, (s.link.endpoint port).closed = false)
        (whole : gained = [{ frame with direction := .receive }]) :
        ∃ gained left, Passing s (s.set side.other stack link) address side none own [] gained [] left := by
      subst whole
      have equal : [{ frame with direction := .receive }].filterMap fromCANFrame = left := by
        rw [gone]
        cases heard : fromCANFrame { frame with direction := .receive } <;> simp [heard]
      refine ⟨_,_,finishes ?_ (.inl (by rw [equal]))⟩
      intro cut
      obtain ⟨port,closed⟩ | unsubscribed | silenced := cut
      · simp [live port] at closed
      · have none := linked.unsubscribed moved unsubscribed
        have itself : (s.inbox side).content = (s.inbox side).content ++
          [{ frame with direction := .receive }] := none.symm.trans content
        simp at itself
      · exact absurd holds (silenced.2 frame)
    obtain ⟨result,delivered,rfl⟩ | ⟨ended,rfl⟩ := sending
    · cases result with
      | error error =>
        have still : gained = [] := by
          obtain rfl | ⟨rfl,_⟩ := hears <;> rfl
        have shut : (s.set side.other stack link).Severed side := by
          obtain ⟨valid,mode⟩ := sendable _ _ holds
          obtain ⟨port,unused⟩ := Memory.send_refused delivered valid mode
          have closed : (s.link.endpoint port).closed = true := by
            rcases linked.used port with opened | closed
            · exact unused.resolve_left (by simp [opened])
            · exact closed
          exact .inl ⟨port,(moved_later moved port).closed closed⟩
        exact ⟨_,_,finishes (fun _ => by rw [still]; rfl) (.inr ⟨by rw [still]; rfl,shut⟩)⟩
      | ok =>
        have brought : heard bus side.port (.event (.called
            ⟨s.link,side.other.port,.send frame,.sent (.ok ()),link⟩)) =
              [{ frame with direction := .receive }] := by
          have peer := heard_peer bus s.link link side.other.port frame
          rw [Side.port_other,Memory.Port.peer_peer] at peer
          rw [Side.port_other]
          exact peer
        rw [brought] at hears
        obtain whole | ⟨rfl,unsubscribed | ⟨_,_,cut⟩⟩ := hears
        · refine passed ?_ whole
          intro port
          by_contra closed
          obtain ⟨error,refused⟩ :=
            Memory.send_closed (eq_true_of_ne_false closed) side.other.port frame
          rw [refused] at delivered
          cases delivered
        · exact ⟨_,_,finishes (fun _ => rfl) (.inr ⟨rfl,severs (.inr (.inl unsubscribed))⟩)⟩
        · cases cut
    · have brought : heard bus side.port (.cut side.other.port frame) =
          [{ frame with direction := .receive }] := by
        have peer := Memory.heardAt_peer side.other.port frame
        rw [Side.port_other,Memory.Port.peer_peer] at peer
        rw [heard,Side.port_other,peer]
      rw [brought] at hears
      obtain whole | ⟨rfl,_⟩ := hears
      · obtain ⟨_,_,cut⟩ := moved
        exact passed cut.live whole
      · -- A session whose `Send` is interrupted sends nothing more.
        have silenced : stack.Silenced := by
          subst sent
          cases step
          exact ⟨ended,by simp⟩
        refine ⟨_,_,finishes (fun _ => rfl) (.inr ⟨rfl,.inr (.inr ?_)⟩)⟩
        rw [mover]
        exact silenced
  · have still : gained = [] := by
      rw [quiet sent] at hears
      obtain rfl | ⟨rfl,_⟩ := hears <;> rfl
    refine ⟨gained,left,finishes (fun _ => by rw [still]; rfl) ?_⟩
    rw [still]
    obtain rfl | silenced | impossible := leaves
    · exact .inl rfl
    · exact .inr ⟨rfl,.inr (.inr (by rw [mover]; exact silenced))⟩
    · exact absurd impossible sent

theorem passes_link (address : Address) (linked : s.Linked bus) (moved : Moved s.link motion link)
    (kept : (link.endpoint side.port).dropped = (s.link.endpoint side.port).dropped)
    (quiet : address.meant ((heard bus side.port motion).filterMap fromCANFrame) = [])
    (severs : s.Severed side → ({ s with link := link } : System).Severed side) :
    ∃ gained, Passing s { s with link := link } address side none none [] gained [] [] := by
  obtain ⟨gained,content,hears⟩ := linked.gains moved side kept
  have silent : address.meant (gained.filterMap fromCANFrame) = [] := by
    obtain rfl | ⟨rfl,_⟩ := hears
    · exact quiet
    · rfl
  exact ⟨gained,{
    front := by simp [arrivals]
    lost := by simp
    untaken := by simp
    receiver := id
    unread := unread_still linked content rfl
    departing := by simp [departures]
    severed := fun cut => ⟨severs cut,silent⟩
    moved := .inl silent }⟩

end passes

end System

end Canbuskit.Isotp
