import Canbuskit.Isotp.Exchange
import Canbuskit.Isotp.SystemFlow

/-! Safety of the whole system. Its runs are runs of the session pair whose frames in flight are
those in the goroutines, the channels and the subscriptions, and so what the callers get is what
the other side's callers submitted, whole and in order, unless the link has counted a loss. -/
namespace Canbuskit.Isotp
open Can Channel Runs
open Memory (Link)

theorem built_valid {brs : Bool} {msg : LinkFrame} {frame : Frame}
    (built : toCANFrame brs msg = .ok frame) : frame.validate = .ok () ∧ frame.fd = msg.fd := by
  obtain ⟨⟨standard,fits⟩,rfl⟩ := (toCANFrame_iff ..).mp built
  refine ⟨?_,rfl⟩
  rw [Frame.validate,@built_length msg.data.length _ fits rfl]
  refine (validateFrame_iff ..).mpr ⟨standard,?_,canLength_fits fits⟩
  simp only [Bool.and_eq_true]
  exact And.left

namespace Stack

structure Uniform (s : Stack) : Prop where
  queued : ∀ msg ∈ s.tx.buffer, msg.fd = s.session.fd
  taken : ∀ msg, s.transmitter = .holding (.taken msg) → msg.fd = s.session.fd
  checked : ∀ frame, s.transmitter = .holding (.checked frame) →
    frame.validate = .ok () ∧ frame.fd = s.session.fd

structure Stationed (s : Stack) (address : Address) : Prop where
  sound : s.session.Sound
  address : s.session.address = address
  plain : s.session.txAddress = none

variable {s t : Stack} {turn : Turn} {move : Option Move}

theorem Turns.session (step : s.Turns turn move t) :
    match move with
    | none => t.session = s.session
    | some made => Move.Step s.session made t.session ∧
        (made.event.called = true → turn = .call made.event) := by
  cases step with
  | @finished _ chosen _ _ _ _ _ taken =>
    refine ⟨⟨rfl,rfl,taken⟩,?_⟩
    intro called
    cases chosen <;> cases called
  | called called taken => exact ⟨⟨rfl,rfl,taken⟩,fun _ => rfl⟩
  | _ => rfl

theorem Turns.stationed {address : Address} (stationed : s.Stationed address)
    (step : s.Turns turn move t) (plain : ∀ target, turn ≠ .call (.setTxAddress target)) :
    t.Stationed address ∧ t.session.fd = s.session.fd ∧ ∀ made ∈ move, ∀ msg ∈ frames made.outputs,
      msg.arbitrationID = address.txID ∧ msg.fd = s.session.fd := by
  have moved := step.session
  cases move with
  | none =>
    simp only at moved
    exact ⟨⟨moved ▸ stationed.sound,moved ▸ stationed.address,moved ▸ stationed.plain⟩,by rw [moved],
      by simp⟩
  | some made =>
    obtain ⟨step,changes⟩ := moved
    have transition := step.transition stationed.sound
    have unaddressed : ∀ target, made.event ≠ .setTxAddress target :=
      fun target same => plain target (same ▸ changes (by rw [same]; rfl))
    refine ⟨⟨transition.sound stationed.sound,transition.address.trans stationed.address,
      (transition.txAddress unaddressed).trans stationed.plain⟩,?_,?_⟩
    · exact transition.settings.2
    · rintro _ ⟨⟩ msg member
      rw [← stationed.address]
      exact transition.outgoing stationed.plain msg member

theorem Turns.uniform {address : Address} (stationed : s.Stationed address) (uniform : s.Uniform)
    (step : s.Turns turn move t) (plain : ∀ target, turn ≠ .call (.setTxAddress target)) :
    t.Uniform := by
  obtain ⟨_,mode,emitted⟩ := step.stationed stationed plain
  obtain ⟨queued,taken,checked⟩ := uniform
  cases step with
  | @finished _ _ session outputs tx _ _ _ room =>
    refine ⟨?_,?_,?_⟩
    · intro msg member
      dsimp only at member mode ⊢
      rw [offers_buffer room] at member
      rw [mode]
      rcases List.mem_append.mp member with old | new
      · exact queued msg old
      · exact (emitted _ rfl msg new).2
    · intro msg holds
      exact (taken msg holds).trans mode.symm
    · intro frame holds
      obtain ⟨valid,same⟩ := checked frame holds
      exact ⟨valid,same.trans mode.symm⟩
  | called =>
    refine ⟨fun msg member => (queued msg member).trans mode.symm,
      fun msg holds => (taken msg holds).trans mode.symm,?_⟩
    intro frame holds
    obtain ⟨valid,same⟩ := checked frame holds
    exact ⟨valid,same.trans mode.symm⟩
  | @taken msg channel _ queue =>
    have buffer := (Chan.poll_some queue).1
    refine ⟨fun other member => queued other (buffer ▸ List.mem_cons_of_mem _ member),?_,by simp⟩
    intro other holds
    cases holds
    exact queued msg (by simp [buffer])
  | checked holds built =>
    refine ⟨queued,by simp,?_⟩
    intro frame holding
    cases holding
    obtain ⟨valid,same⟩ := built_valid built
    exact ⟨valid,same.trans (taken _ holds)⟩
  | refused | aborted | sent | leftTransmit => exact ⟨queued,by simp,by simp⟩
  | _ => exact ⟨queued,taken,checked⟩

end Stack

/-- What others on the link and the callers may do: others keep off the sessions' identifiers, and
callers submit payloads that the protocol can carry and leave the transmit address alone. -/
def Deal.admissible (address : Side → Address) : Deal → Bool
  | .other (.call _ (.send frame)) =>
    !(address .left).accepts frame.id && !(address .right).accepts frame.id
  | .interruptOther _ frame _ => !(address .left).accepts frame.id && !(address .right).accepts frame.id
  | .own _ (.call (.setTxAddress _)) => false
  | .own _ (.call (.send data)) => data ≠ [] && data.length < 2^32
  | _ => true

theorem Deal.apart {address : Side → Address} {port : Memory.Port} {frame : Frame}
    (admissible : (Deal.other (.call port (.send frame))).admissible address) (side : Side) :
    (address side).accepts frame.id = false := by
  simp only [Deal.admissible,Bool.and_eq_true,Bool.not_eq_true'] at admissible
  cases side with
  | left => exact admissible.1
  | right => exact admissible.2

theorem Deal.apart_interrupted {address : Side → Address} {port : Memory.Port} {frame : Frame}
    {interruption : Memory.Interruption}
    (admissible : (Deal.interruptOther port frame interruption).admissible address) (side : Side) :
    (address side).accepts frame.id = false := by
  have foreign : (Deal.other (.call port (.send frame))).admissible address := admissible
  exact Deal.apart foreign side

theorem Deal.plain {address : Side → Address} {deal : Deal} (admissible : deal.admissible address)
    (side : Side) (target : Option Address) : deal ≠ .own side (.call (.setTxAddress target)) := by
  rintro rfl
  contradiction

theorem Deal.submitted {address : Side → Address} {side : Side} {data : Bytes}
    (admissible : (Deal.own side (.call (.send data))).admissible address) :
    data ≠ [] ∧ data.length < 2^32 := by
  simpa [Deal.admissible] using admissible

namespace System

/-- What the link and both stacks keep. -/
structure Joined (address : Side → Address) (bus : BusConfig) (s : System) : Prop where
  linked : s.Linked bus
  stationed : ∀ side, (s.stack side).Stationed (address side)
  uniform : ∀ side, (s.stack side).Uniform
  mode : ∀ side, (s.link.endpoint side.port).cfg.mode = Mode.classic → (s.stack side).session.fd = false

variable {address : Side → Address} {bus : BusConfig} {s t : System} {deal : Deal}
  {move : Option PairMove}

theorem Joined.sendable (joined : s.Joined address bus) : s.Sendable := by
  intro side frame holds
  obtain ⟨valid,same⟩ := (joined.uniform side).checked frame holds
  exact ⟨valid,fun classic => same.trans (joined.mode side classic)⟩

theorem Deals.stationed (joined : s.Joined address bus) (admissible : deal.admissible address)
    (deals : s.Deals deal move t) (side : Side) :
    (t.stack side).Stationed (address side) ∧ (t.stack side).Uniform ∧
      (t.stack side).session.fd = (s.stack side).session.fd ∧
        ∀ msg ∈ departures (moveAt side move), msg.arbitrationID = (address side).txID := by
  have stationed := joined.stationed side
  have uniform := joined.uniform side
  cases deals with
  | @turned _ mover turn own stack _ link step _ _ _ _ calls =>
    have plain : ∀ target, turn ≠ .call (.setTxAddress target) :=
      fun target same => Deal.plain admissible mover target (calls _ same)
    rcases side.same_or_other mover with rfl | rfl
    · obtain ⟨later,mode,emitted⟩ := step.stationed stationed plain
      rw [set_stack,moveAt_own]
      refine ⟨later,step.uniform stationed uniform plain,mode,?_⟩
      intro msg member
      obtain ⟨made,inside,departs⟩ := List.mem_flatMap.mp member
      obtain ⟨sent,out,carried⟩ := List.mem_filterMap.mp departs
      rw [carry_address carried]
      exact (emitted made (Option.mem_toList.mp inside) sent out).1
    · rw [set_other,moveAt_apart mover.other_ne.symm]
      exact ⟨stationed,uniform,rfl,by simp [departures]⟩
  | awaited | foreign | interrupted => exact ⟨stationed,uniform,rfl,by simp [departures,moveAt]⟩

theorem Deals.joined (joined : s.Joined address bus) (admissible : deal.admissible address)
    (deals : s.Deals deal move t)
    (kept : ∀ port, (t.link.endpoint port).dropped = (s.link.endpoint port).dropped) :
    t.Joined address bus := by
  have later := deals.stationed joined admissible
  refine ⟨deals.linked joined.linked kept,fun side => (later side).1,fun side => (later side).2.1,?_⟩
  intro side
  rw [((deals.later side.port).settled (joined.linked.used side.port)).1,(later side).2.2.1]
  exact joined.mode side

theorem Deals.passes (joined : s.Joined address bus) (admissible : deal.admissible address)
    (deals : s.Deals deal move t)
    (kept : ∀ port, (t.link.endpoint port).dropped = (s.link.endpoint port).dropped) (side : Side) :
    ∃ taken gained dropped left, s.Passing t (address side) side (moveAt side move)
      (moveAt side.other move) taken gained dropped left := by
  have severs : s.Severed side → t.Severed side := deals.severed joined.linked
  cases deals with
  | @turned _ mover turn own stack motion link step moved accepts quiet sends =>
    rcases mover.same_or_other side with rfl | rfl
    · rw [moveAt_own,moveAt_apart mover.other_ne.symm]
      refine passes_own joined.linked step moved (kept mover.port) accepts ?_ severs
      by_cases sent : turn = .sent
      · exact heard_own (sends sent) bus
      · rw [quiet sent]
        rfl
    · rw [moveAt_own,moveAt_apart side.other_ne]
      obtain ⟨gained,left,passing⟩ := passes_other (address side) joined.linked
        joined.sendable step moved (kept side.port) (fun sent => quiet sent bus side.port) sends severs
      exact ⟨_,_,_,_,passing⟩
  | @awaited reader =>
    have receives : Moved s.link (.event (.received (s.stack reader).subscription)) _ :=
      ⟨joined.linked.made reader,rfl⟩
    obtain ⟨gained,passing⟩ :=
      passes_link (address side) joined.linked receives (kept side.port) rfl severs
    exact ⟨_,_,_,_,passing⟩
  | foreign reacted =>
    have moves : Moved s.link (.event _) _ := Memory.react_step _ _ _ _ reacted
    obtain ⟨gained,passing⟩ := passes_link (address side) joined.linked moves (kept side.port)
      (heard_foreign reacted (fun port frame same => Deal.apart (same ▸ admissible) side) _)
      severs
    exact ⟨_,_,_,_,passing⟩
  | interrupted cut =>
    have moves : Moved s.link (.cut _ _) _ := Memory.interrupt_some cut
    obtain ⟨gained,passing⟩ := passes_link (address side) joined.linked moves (kept side.port)
      (heard_interrupted bus (Deal.apart_interrupted admissible side) _) severs
    exact ⟨_,_,_,_,passing⟩

theorem Deals.session (deals : s.Deals deal move t) (side : Side) :
    match moveAt side move with
    | none => (t.stack side).session = (s.stack side).session
    | some made => Move.Step (s.stack side).session made (t.stack side).session ∧
        (made.event.called = true → deal = .own side (.call made.event)) := by
  cases deals with
  | @turned _ mover turn own stack event link step _ _ _ _ calls =>
    rcases side.same_or_other mover with rfl | rfl
    · rw [moveAt_own,set_stack]
      have session := step.session
      cases own with
      | none => exact session
      | some made => exact ⟨session.1,fun called => calls _ (session.2 called)⟩
    · rw [moveAt_apart mover.other_ne.symm,set_other]
  | awaited | foreign | interrupted => rfl

def Abstracts (s : System) (address : Side → Address) (p : Pair) : Prop :=
  (∀ side, p.session side = (s.stack side).session) ∧
    ∀ side, s.Inflight (address side) side (p.inflight side)

/-- The move of the pair that a move of the system is: the run loop drops the frames of others. -/
def hearing (address : Side → Address) (move : Option PairMove) : Option PairMove :=
  move.filter fun label => label.move.arrival.all fun msg => (address label.side).accepts msg.arbitrationID

theorem hearing_some {made : PairMove} (hears : hearing address move = some made) : move = some made := by
  simp only [hearing,Option.filter_eq_some_iff] at hears
  exact hears.1

theorem unheard_step {u v : Session} {label : Move} (step : Move.Step u label v)
    {msg : LinkFrame} (arrival : label.arrival = some msg)
    (unheard : u.address.accepts msg.arbitrationID = false) : v = u ∧ label.outputs = [] := by
  obtain ⟨before,event,outputs,after⟩ := label
  obtain ⟨rfl,rfl,taken⟩ := step
  cases event with
  | frame heard outcome =>
    cases arrival
    simp only [Session.step,Session.processRx,unheard,Bool.not_false,if_true,Option.some.injEq,
      Prod.mk.injEq] at taken
    exact ⟨taken.1.symm,taken.2.symm⟩
  | _ => cases arrival

/-- A step of the system is a step of its pair, or none. -/
theorem Deals.follows (mirrored : ∀ side, address side.other = ⟨(address side).rxID,(address side).txID⟩)
    (joined : s.Joined address bus) (admissible : deal.admissible address)
    (deals : s.Deals deal move t)
    (kept : ∀ port, (t.link.endpoint port).dropped = (s.link.endpoint port).dropped) {p : Pair}
    (abstracts : s.Abstracts address p) :
    match hearing address move with
    | some label => ∃ q, Pair.Step (fun _ => false) p label q ∧ t.Abstracts address q
    | none => t.Abstracts address p := by
  obtain ⟨sessions,inflight⟩ := abstracts
  have follows (side : Side) : ∃ next, p.inflight side ++ departures (moveAt side.other move) =
      (address side).meant (arrivals (moveAt side move)) ++ next ∧
        t.Inflight (address side) side next := by
    obtain ⟨taken,gained,dropped,left,passing⟩ := deals.passes joined admissible kept side
    obtain ⟨next,flows,later⟩ := passing.follow (inflight side)
    refine ⟨next,?_,later⟩
    rw [← flows,Address.meant,List.filter_eq_self.mpr]
    intro msg member
    rw [(deals.stationed joined admissible side.other).2.2.2 msg member,mirrored side]
    simp [Address.accepts]
  choose next flows later using follows
  have session := deals.session
  cases move with
  | none =>
    refine ⟨fun side => (sessions side).trans (session side).symm,?_⟩
    intro side
    have same := flows side
    simp only [moveAt,Option.bind_none,departures,arrivals,Option.toList_none,List.flatMap_nil,
      List.append_nil,Address.meant_nil,List.nil_append] at same
    rw [same]
    exact later side
  | some label =>
    have own : moveAt label.side (some label) = some label.move := by simp [moveAt]
    have none : moveAt label.side.other (some label) = none := by
      simp [moveAt,label.side.other_ne.symm]
    obtain ⟨step,calls⟩ : Move.Step (s.stack label.side).session label.move (t.stack label.side).session ∧
        (label.move.event.called = true → deal = .own label.side (.call label.move.event)) := by
      have moved := session label.side
      rwa [own] at moved
    have still : (t.stack label.side.other).session = (s.stack label.side.other).session := by
      have moved := session label.side.other
      rwa [none] at moved
    have arrives := flows label.side
    have departs := flows label.side.other
    rw [own,none] at arrives
    rw [Side.other_other,own,none] at departs
    simp only [departures,arrivals,Option.toList_none,List.flatMap_nil,List.append_nil,Option.bind_none,
      Option.bind_some,Option.toList_some,List.flatMap_singleton,Address.meant_nil,List.nil_append]
      at arrives departs
    cases accepted : label.move.arrival.all fun msg => (address label.side).accepts msg.arbitrationID with
    | true =>
      have hears : hearing address (some label) = some label := by simp [hearing,accepted]
      have whole : (address label.side).meant label.move.arrival.toList = label.move.arrival.toList := by
        rw [Address.meant,List.filter_eq_self]
        intro msg member
        rw [Option.mem_toList.mp member] at accepted
        exact accepted
      rw [whole] at arrives
      rw [hears]
      refine ⟨⟨fun side => (t.stack side).session,next⟩,⟨?_,?_,arrives,departs.symm,?_⟩,
        fun _ => rfl,later⟩
      · rw [sessions]
        exact step
      · exact still.trans (sessions _).symm
      · exact fun target same =>
          Deal.plain admissible label.side target (same ▸ calls (by rw [same]; rfl))
    | false =>
      have hears : hearing address (some label) = .none := by simp [hearing,accepted]
      obtain ⟨msg,arrival,unheard⟩ : ∃ msg, label.move.arrival = some msg ∧
          (address label.side).accepts msg.arbitrationID = false := by
        cases arrival : label.move.arrival with
        | none => simp [arrival] at accepted
        | some msg => exact ⟨msg,rfl,by simpa [arrival] using accepted⟩
      rw [← (joined.stationed label.side).address] at unheard
      obtain ⟨same,silent⟩ := unheard_step step arrival unheard
      rw [(joined.stationed label.side).address] at unheard
      rw [arrival,Option.toList_some,Address.meant,List.filter_singleton,unheard] at arrives
      rw [Move.departures,silent,frames_nil,List.filterMap_nil,List.append_nil] at departs
      rw [hears]
      refine ⟨?_,?_⟩
      · intro side
        rw [sessions]
        rcases side.same_or_other label.side with rfl | rfl
        · exact same.symm
        · exact still.symm
      · intro side
        rcases side.same_or_other label.side with rfl | rfl
        · rw [arrives]
          exact later _
        · rw [departs]
          exact later _

theorem movesOf_snoc (side : Side) (labels : List Dealt) (label : Dealt) :
    movesOf side (pairMoves (labels ++ [label])) =
      movesOf side (pairMoves labels) ++ (moveAt side label.move).toList := by
  rw [pairMoves,List.filterMap_append,movesOf,List.filterMap_append]
  cases moved : label.move with
  | none => simp [moved,moveAt,movesOf,pairMoves]
  | some made =>
    by_cases same : made.side = side <;> simp [moved,moveAt,movesOf,pairMoves,same]

theorem run_session {labels : List Dealt} (run : Run Dealt.Step s labels t) (side : Side) :
    Run Move.Step (s.stack side).session (movesOf side (pairMoves labels)) (t.stack side).session ∧
      ∀ made ∈ movesOf side (pairMoves labels), made.event.called = true →
        ∃ label ∈ labels, label.deal = .own side (.call made.event) := by
  induction run with
  | nil => exact ⟨.nil,by simp [pairMoves,movesOf]⟩
  | @snoc labels label middle t _ last ih =>
    obtain ⟨before,calls⟩ := ih
    have session := (react_deals last).session side
    have earlier : ∀ made ∈ movesOf side (pairMoves labels), made.event.called = true →
        ∃ other ∈ labels ++ [label], other.deal = .own side (.call made.event) := by
      intro made member called
      obtain ⟨other,inside,same⟩ := calls made member called
      exact ⟨other,List.mem_append_left _ inside,same⟩
    rw [movesOf_snoc]
    cases moved : moveAt side label.move with
    | none =>
      rw [moved] at session
      rw [Option.toList_none,List.append_nil,session]
      exact ⟨before,earlier⟩
    | some made =>
      rw [moved] at session
      refine ⟨before.snoc session.1,?_⟩
      intro other member called
      rcases List.mem_append.mp member with old | new
      · exact earlier other old called
      · obtain rfl := List.mem_singleton.mp new
        exact ⟨label,by simp,session.2 called⟩

/-- What the run loop drops puts nothing out. -/
theorem Deals.unheard (joined : s.Joined address bus) {label : PairMove}
    (deals : s.Deals deal (some label) t) (drops : hearing address (some label) = none) :
    label.move.outputs = [] ∧ label.move.dequeued = none := by
  have moved := deals.session label.side
  have own : moveAt label.side (some label) = some label.move := by simp [moveAt]
  rw [own] at moved
  simp only [hearing,Option.filter_eq_none_iff,Option.some.injEq,forall_eq'] at drops
  cases arrival : label.move.arrival with
  | none => simp [arrival] at drops
  | some msg =>
    rw [arrival,← (joined.stationed label.side).address] at drops
    refine ⟨(unheard_step moved.1 arrival (by simpa using drops)).2,?_⟩
    obtain ⟨side,before,event,outputs,after⟩ := label
    cases event with
    | frame => rfl
    | _ => cases arrival

def Kept (address : Side → Address) (s : System) (label : Dealt) (t : System) : Prop :=
  (Dealt.Step s label t ∧ ∀ port, (t.link.endpoint port).dropped = (s.link.endpoint port).dropped) ∧
    label.deal.admissible address

theorem run_kept {labels : List Dealt} (run : Run Dealt.Step s labels t)
    (admissible : ∀ label ∈ labels, label.deal.admissible address)
    (lossless : ∀ port, (t.link.endpoint port).dropped = (s.link.endpoint port).dropped) :
    Run (Kept address) s labels t := by
  have grows (s : System) (label : Dealt) (t : System) (step : Dealt.Step s label t)
      (port : Memory.Port) : (s.link.endpoint port).dropped ≤ (t.link.endpoint port).dropped :=
    ((react_deals step).later port).dropped
  have steady := run.steady
    (fun s => (s.link.endpoint .a).dropped + (s.link.endpoint .b).dropped)
    (fun s label t step => Nat.add_le_add (grows s label t step .a) (grows s label t step .b))
    (by rw [lossless,lossless])
  refine Run.restrict_iff.mpr ⟨steady.mono ?_,admissible⟩
  rintro s label t ⟨step,same⟩
  refine ⟨step,?_⟩
  have left := grows s label t step .a
  have right := grows s label t step .b
  rintro (_ | _) <;> omega

theorem run_pair (mirrored : ∀ side, address side.other = ⟨(address side).rxID,(address side).txID⟩)
    {labels : List Dealt} (run : Run (Kept address) s labels t) (joined : s.Joined address bus)
    {p : Pair} (abstracts : s.Abstracts address p) :
    ∃ q, Run (Pair.Step fun _ => false) p
        (labels.filterMap fun label => hearing address label.move) q ∧
      t.Joined address bus ∧ t.Abstracts address q := by
  refine run.simulate (Pair.Step fun _ => false) (fun s p => s.Joined address bus ∧ s.Abstracts address p)
    (fun label => hearing address label.move) ⟨joined,abstracts⟩ ?_
  rintro s label t p ⟨joined,abstracts⟩ ⟨⟨step,kept⟩,admissible⟩
  have deals := react_deals step
  have later := deals.joined joined admissible kept
  have follows := deals.follows mirrored joined admissible kept abstracts
  cases hears : hearing address label.move with
  | none =>
    rw [hears] at follows
    exact ⟨later,follows⟩
  | some move =>
    rw [hears] at follows
    obtain ⟨q,paired,after⟩ := follows
    exact ⟨q,paired,later,after⟩

theorem run_heard {labels : List Dealt} (run : Run (Kept address) s labels t)
    (joined : s.Joined address bus) (side : Side) :
    delivered side (labels.filterMap fun label => hearing address label.move) =
        delivered side (pairMoves labels) ∧
      dequeued side (labels.filterMap fun label => hearing address label.move) =
        dequeued side (pairMoves labels) := by
  let heard (past : List Dealt) := past.filterMap fun label => hearing address label.move
  have final : t.Joined address bus ∧ delivered side (heard labels) = delivered side (pairMoves labels) ∧
      dequeued side (heard labels) = dequeued side (pairMoves labels) := by
    refine run.history (fun past s => s.Joined address bus ∧
      delivered side (heard past) = delivered side (pairMoves past) ∧
        dequeued side (heard past) = dequeued side (pairMoves past)) ⟨joined,rfl,rfl⟩ ?_
    rintro past s label t - ⟨joined,deliveries,takes⟩ ⟨⟨step,kept⟩,admissible⟩
    have deals := react_deals step
    refine ⟨deals.joined joined admissible kept,?_⟩
    simp only [delivered,dequeued,movesOf,pairMoves,heard] at deliveries takes ⊢
    simp only [List.filterMap_append,List.flatMap_append,deliveries,takes]
    cases moved : label.move with
    | none => simp [hearing,moved]
    | some made =>
      cases hears : hearing address (some made) with
      | some other =>
        obtain rfl : made = other := Option.some.inj (hearing_some hears)
        simp [hears,moved]
      | none =>
        rw [moved] at deals
        obtain ⟨silent,kept⟩ := deals.unheard joined hears
        by_cases same : made.side = side <;> simp [hears,moved,same,silent,kept]
  exact final.2

end System

/-- A sender and a receiver with any lossless queue between them. -/
theorem medium_safe {own target : Address} {cfg other : Config} {fd wide brs : Bool}
    {sender receiver s r : Session} {sent heard : List Move} {flying : List LinkFrame}
    (sends : newSession (some own) cfg fd = .ok sender)
    (receives : newSession (some target) other wide = .ok receiver)
    (mirrored : target.rxID = own.txID) (sending : Run Move.Step sender sent s)
    (receiving : Run Move.Step receiver heard r) (admissible : ∀ move ∈ sent, move.Admissible)
    (fifo : heard.filterMap Move.arrival ++ flying = sent.flatMap (Move.departures brs)) :
    (heard.flatMap fun move => payloads move.outputs).Sublist (sent.filterMap Move.dequeued) := by
  obtain ⟨address,plain,idle,_,queue⟩ := newSession_fresh sends
  obtain ⟨addressed,_,_,rests,_⟩ := newSession_fresh receives
  have sound := newSession_sound receives
  have unaddressed : Unaddressed sender target := ⟨plain,by rw [address,mirrored],by simp [queue]⟩
  obtain ⟨_,puts,segments⟩ :=
    pending_run brs (newSession_sound sends) unaddressed sending admissible
  have gets := reception_run sound receiving
  rw [pending_idle idle] at puts
  rw [Session.reception_idle (by simp [rests])] at gets
  have arrived := arrived_segments (run_address sound receiving)
  rw [addressed] at arrived
  have segmented : (heard.filterMap Move.reading).filterMap Prod.fst ++
      flying.filterMap (segmentFor target) = (sent.map (Move.sends brs target)).filterMap Prod.snd := by
    rw [arrived,← List.filterMap_append,fifo,← segments,List.filterMap_flatMap]
    rfl
  rw [run_payloads sound receiving]
  simpa [List.filterMap_map,Function.comp_def,Move.sends] using
    Segmentation.exchange_safe puts gets segmented

def Move.consumed (move : Move) : Option Bytes :=
  match move.event with
  | .receive => move.before.rxDataChan.poll.map Prod.fst
  | _ => none

theorem Session.Transition.queues {s t : Session} {event : Event} {outputs : List Output}
    (step : s.Transition event outputs t) :
    s.txDataChan.buffer ++ event.submission =
        (Move.dequeued ⟨s,event,outputs,t⟩).toList ++ t.txDataChan.buffer ∧
      s.rxDataChan.buffer ++ payloads outputs =
        (Move.consumed ⟨s,event,outputs,t⟩).toList ++ t.rxDataChan.buffer := by
  have granted : payloads s.flow = [] := Session.flow_payloads s
  cases step with
  | unheard _ quiet | singleDropped _ _ quiet | firstRefused _ _ quiet | mismatched _ _ _ quiet
  | completedDropped _ _ _ _ quiet =>
    simp [Event.submission,Move.dequeued,Move.consumed,quiet.payloads,Session.stopReceiving]
  | single _ room quiet =>
    simp [Event.submission,Move.dequeued,Move.consumed,quiet.payloads,(Chan.offer_some room).1,
      Session.stopReceiving]
  | first _ _ _ quiet =>
    simp [Event.submission,Move.dequeued,Move.consumed,quiet.payloads,granted,Session.startReceiving]
  | completed _ _ _ room =>
    simp [Event.submission,Move.dequeued,Move.consumed,(Chan.offer_some room).1,Session.stopReceiving]
  | blockCompleted =>
    simp [Event.submission,Move.dequeued,Move.consumed,granted,Session.completeBlock,Session.collect]
  | dequeueCancelled _ queue | sentSingle _ queue | sentFirst _ queue =>
    simp [Event.submission,Move.dequeued,Move.consumed,(Chan.poll_some queue).1,
      Session.stopSending,Session.startSending]
  | submitted _ room => simp [Event.submission,Move.dequeued,Move.consumed,(Chan.offer_some room).1]
  | consumed queue =>
    simp [Event.submission,Move.dequeued,Move.consumed,queue,(Chan.poll_some queue).1]
  | _ =>
    simp [Event.submission,Move.dequeued,Move.consumed,Session.grant,Session.delay,Session.stopSending,
      Session.stopReceiving,Session.collect,Session.endBlock,Session.keepSending,Session.separated]

/-- The queues between a session and its callers keep the order. -/
theorem run_queues {s t : Session} {moves : List Move} (sound : s.Sound)
    (run : Run Move.Step s moves t) :
    s.txDataChan.buffer ++ moves.flatMap (fun move => move.event.submission) =
        moves.filterMap Move.dequeued ++ t.txDataChan.buffer ∧
      s.rxDataChan.buffer ++ moves.flatMap (fun move => payloads move.outputs) =
        moves.filterMap Move.consumed ++ t.rxDataChan.buffer := by
  induction run with
  | nil => simp
  | @snoc moves move middle t before step ih =>
    obtain ⟨sent,got⟩ := ih
    obtain ⟨sends,gets⟩ := (step.transition (run_sound sound before)).queues
    obtain ⟨rfl,rfl,_⟩ := step
    simp only [List.flatMap_append,List.filterMap_append,List.flatMap_singleton]
    constructor
    · rw [← List.append_assoc,sent,List.append_assoc,sends,List.append_assoc]
      cases taken : move.dequeued <;> simp [taken]
    · rw [← List.append_assoc,got,List.append_assoc,gets,List.append_assoc]
      cases taken : move.consumed <;> simp [taken]

def submitted (side : Side) (labels : List PairMove) : List Bytes :=
  (movesOf side labels).flatMap fun move => move.event.submission

def received (side : Side) (labels : List PairMove) : List Bytes :=
  (movesOf side labels).filterMap Move.consumed

section start

variable {link next : Link} {port : Memory.Port} {address : Option Address} {cfg : Config} {stack : Stack}

theorem newStack_ok (created : newStack link port address cfg = .ok (stack,next)) :
    ∃ session, newSession address cfg ((link.endpoint port).cfg.mode == Mode.fd) = .ok session ∧
      stack = .start session link.heap.made ∧
      link.call port (.subscribe 100) = (next,.subscribed link.heap.made (.ok ())) := by
  unfold newStack at created
  split at created
  · contradiction
  · rename_i session made
    split at created
    · rename_i other channel called
      cases created
      obtain ⟨rfl,_⟩ := Memory.subscribed_empty called
      exact ⟨session,made,rfl,called⟩
    · contradiction
    · contradiction

theorem newSystem_ok {address : Side → Address} {cfg : Side → Config} {s : System}
    (created : newSystem link address cfg = .ok s) : ∃ (middle : Link) (fd : Side → Bool),
      (∀ side, newSession (some (address side)) (cfg side) (fd side) = .ok (s.stack side).session ∧
        s.stack side = .start (s.stack side).session (s.stack side).subscription ∧
        fd side = ((s.link.endpoint side.port).cfg.mode == Mode.fd)) ∧
      link.call .a (.subscribe 100) = (middle,.subscribed (s.stack .left).subscription (.ok ())) ∧
      middle.call .b (.subscribe 100) = (s.link,.subscribed (s.stack .right).subscription (.ok ())) := by
  unfold newSystem at created
  split at created
  · contradiction
  · rename_i left middle first
    split at created
    · contradiction
    · rename_i right last second
      cases created
      obtain ⟨session,made,rfl,called⟩ := newStack_ok first
      obtain ⟨other,built,rfl,answered⟩ := newStack_ok second
      have own := (Memory.subscribed_opened called).2.2
      have unmoved : middle.endpoint .b = link.endpoint .b := (Memory.subscribed_empty called).2.2.2
      have added := (Memory.subscribed_opened answered).2.2
      have kept : last.endpoint .a = middle.endpoint .a := (Memory.subscribed_empty answered).2.2.2
      refine ⟨middle,fun side => (last.endpoint side.port).cfg.mode == Mode.fd,?_,called,answered⟩
      rintro (_ | _)
      · refine ⟨?_,rfl,rfl⟩
        simp only [Side.port]
        rw [kept,own]
        exact made
      · refine ⟨?_,rfl,rfl⟩
        simp only [Side.port]
        rw [added]
        exact built

theorem newSystem_starts {bus : BusConfig} {address : Side → Address} {cfg : Side → Config} {s : System}
    (fair : link.Fair bus) (created : newSystem link address cfg = .ok s) :
    s.Joined address bus ∧
      s.Abstracts address ⟨fun side => (s.stack side).session,fun _ => []⟩ := by
  obtain ⟨middle,fd,built,first,second⟩ := newSystem_ok created
  obtain ⟨openedA,_,ownA⟩ := Memory.subscribed_opened first
  obtain ⟨openedB,_,ownB⟩ := Memory.subscribed_opened second
  obtain ⟨newA,emptyA,madeA,stillB⟩ := Memory.subscribed_empty first
  obtain ⟨newB,emptyB,madeB,stillA⟩ := Memory.subscribed_empty second
  have stepA : Memory.Event.Step link (.called ⟨link,.a,.subscribe 100,_,middle⟩) middle :=
    ⟨rfl,rfl,first⟩
  have stepB : Memory.Event.Step middle (.called ⟨middle,.b,.subscribe 100,_,s.link⟩) s.link :=
    ⟨rfl,rfl,second⟩
  have fairA := (Memory.step_effect fair stepA).fair
  have effect := Memory.step_effect fairA stepB
  have apartB : (s.stack .left).subscription ∉ (middle.endpoint .b).subscribers := by
    rw [show middle.endpoint .b = link.endpoint .b from stillB,newA]
    exact fun member => Nat.lt_irrefl _ (fair.made member)
  have silent (side : Side) : (s.inbox side).content = [] := by
    cases side with
    | left =>
      obtain ⟨gained,content,heard⟩ := effect.content .a _ madeA apartB
      have nothing : gained = [] := List.sublist_nil.mp heard
      rw [System.inbox,content,emptyA,nothing]
      rfl
    | right => exact emptyB
  have waits (side : Side) : (s.stack side).receiver = .waiting ∧ (s.stack side).loop = .waiting ∧
      (s.stack side).transmitter = .waiting ∧ (s.stack side).rxMessages.buffer = [] ∧
        (s.stack side).tx.buffer = [] := by
    rw [(built side).2.1]
    exact ⟨rfl,rfl,rfl,rfl,rfl⟩
  refine ⟨⟨⟨effect.fair,?_,?_,?_,?_⟩,?_,?_,?_⟩,fun _ => rfl,?_⟩
  · rintro (_ | _)
    · exact .inl (by rw [show s.link.endpoint .a = middle.endpoint .a from stillA,ownA]; exact openedA)
    · exact .inl (by rw [ownB]; exact openedB)
  · rintro (_ | _)
    · exact Nat.lt_of_lt_of_le madeA effect.made
    · exact madeB
  · rintro (_ | _)
    · show (s.stack .left).subscription ∉ (s.link.endpoint .b).subscribers
      rw [ownB,List.mem_cons,not_or]
      exact ⟨by rw [newB]; exact Nat.ne_of_lt madeA,apartB⟩
    · show (s.stack .right).subscription ∉ (s.link.endpoint .a).subscribers
      rw [show s.link.endpoint .a = middle.endpoint .a from stillA,newB]
      exact fun member => Nat.lt_irrefl _ (fairA.made member)
  · intro side
    rw [(built side).2.1]
    exact Nat.zero_le _
  · intro side
    obtain ⟨own,plain,_⟩ := newSession_fresh (built side).1
    exact ⟨newSession_sound (built side).1,own,plain⟩
  · intro side
    obtain ⟨_,_,transmitter,_,tx⟩ := waits side
    exact ⟨by simp [tx],by simp [transmitter],by simp [transmitter]⟩
  · intro side classic
    obtain ⟨_,_,_,_,_,fresh⟩ := newSession_ok (built side).1
    rw [fresh,(built side).2.2,classic]
    rfl
  · intro side
    obtain ⟨receiver,loop,_,rxMessages,_⟩ := waits side
    obtain ⟨_,_,transmitter,_,tx⟩ := waits side.other
    refine ⟨[],by simp [Stack.front,receiver,loop,rxMessages],.inr ⟨[],?_,.inr ?_⟩⟩
    · simp [System.unread,silent side]
    · simp [Stack.departing,transmitter,tx]

end start

section safety

variable {bus : BusConfig} {events : List Memory.Event} {link : Link} {address : Side → Address}
  {cfg : Side → Config} {s t : System} {labels : List Dealt}

/-- What a session delivers, the other session took from its callers, in order and each at most once. -/
theorem run_delivers (opened : Run Memory.Event.Step (Memory.newPair bus) events link)
    (created : newSystem link address cfg = .ok s)
    (mirrored : ∀ side, address side.other = ⟨(address side).rxID,(address side).txID⟩)
    (run : Run Dealt.Step s labels t)
    (admissible : ∀ label ∈ labels, label.deal.admissible address)
    (lossless : ∀ port, (t.link.endpoint port).dropped = (s.link.endpoint port).dropped)
    (side : Side) :
    (delivered side (pairMoves labels)).Sublist (dequeued side.other (pairMoves labels)) := by
  obtain ⟨joined,abstracts⟩ :=
    newSystem_starts (Memory.run_fair opened (Memory.newPair_fair bus)) created
  obtain ⟨_,_,built,_⟩ := newSystem_ok created
  have kept := System.run_kept run admissible lossless
  obtain ⟨q,paired,_⟩ := System.run_pair mirrored kept joined abstracts
  have heard (side : Side) := System.run_heard kept joined side
  have sender := System.run_session run side.other
  have admits : ∀ move ∈ movesOf side.other
      (labels.filterMap fun label => System.hearing address label.move), move.Admissible := by
    intro move member
    refine ⟨pair_addressed paired side.other move member,?_⟩
    intro data sends
    have inside : move ∈ movesOf side.other (pairMoves labels) := by
      obtain ⟨made,known,same⟩ := List.mem_filterMap.mp member
      obtain ⟨label,dealt,hears⟩ := List.mem_filterMap.mp known
      exact List.mem_filterMap.mpr
        ⟨made,List.mem_filterMap.mpr ⟨label,dealt,System.hearing_some hears⟩,same⟩
    obtain ⟨label,known,deal⟩ := sender.2 move inside (by rw [sends]; rfl)
    exact Deal.submitted (sends ▸ deal ▸ admissible label known)
  have queue := pair_fifo paired side
  rw [List.nil_append] at queue
  rw [← (heard side).1,← (heard side.other).2]
  exact medium_safe (built side.other).1 (built side).1 (by rw [mirrored side])
    (pair_session paired side.other) (pair_session paired side) admits queue.symm

theorem run_callers (created : newSystem link address cfg = .ok s) (run : Run Dealt.Step s labels t)
    (side : Side) :
    (dequeued side (pairMoves labels)).Sublist (submitted side (pairMoves labels)) ∧
      (received side (pairMoves labels)).Sublist (delivered side (pairMoves labels)) := by
  obtain ⟨_,_,built,_⟩ := newSystem_ok created
  obtain ⟨_,_,_,_,_,fresh⟩ := newSession_ok (built side).1
  obtain ⟨sent,got⟩ :=
    run_queues (newSession_sound (built side).1) (System.run_session run side).1
  have empty : (s.stack side).session.txDataChan.buffer = [] ∧
      (s.stack side).session.rxDataChan.buffer = [] := by
    rw [fresh]
    exact ⟨rfl,rfl⟩
  rw [empty.1,List.nil_append] at sent
  rw [empty.2,List.nil_append] at got
  constructor
  · rw [submitted,sent]
    exact List.sublist_append_left _ _
  · rw [delivered,got]
    exact List.sublist_append_left _ _

end safety

/-- Whatever the goroutines, the callers and the others on the link do and in whatever order, what
the callers of one session get is what the callers of the other submitted, in order, whole and each
at most once, unless an endpoint has counted a lost frame. -/
theorem system_safety {bus : BusConfig} {events : List Memory.Event} {link : Link}
    {address : Side → Address} {cfg : Side → Config} {s t : System} {labels : List Dealt}
    (opened : Run Memory.Event.Step (Memory.newPair bus) events link)
    (created : newSystem link address cfg = .ok s)
    (mirrored : ∀ side, address side.other = ⟨(address side).rxID,(address side).txID⟩)
    (run : Run Dealt.Step s labels t)
    (admissible : ∀ label ∈ labels, label.deal.admissible address)
    (lossless : ∀ port, (t.link.endpoint port).dropped = (s.link.endpoint port).dropped)
    (side : Side) :
    (received side (pairMoves labels)).Sublist (submitted side.other (pairMoves labels)) := by
  have got := (run_callers created run side).2
  have carried := run_delivers opened created mirrored run admissible lossless side
  have sent := (run_callers created run side.other).1
  exact (got.trans carried).trans sent

/-- Ten bytes from left to right, while a frame of others goes by and the left session is closed
when its last frame has left. -/
theorem system_safety_transfer :
    ∃ (s t : System) (labels : List Dealt), Run Dealt.Step s labels t ∧
      (t.stack .left).closing = .cancelled ∧ received .right (pairMoves labels) = [List.replicate 10 7] ∧
      (received .right (pairMoves labels)).Sublist (submitted .left (pairMoves labels)) := by
  let address : Side → Address := fun side =>
    if side = .left then ⟨0x7E0,0x7E8⟩ else ⟨0x7E8,0x7E0⟩
  let bus : BusConfig := BusConfig.default Mode.classic 0
  let other : Frame := ⟨.transmit,0x123,1,Vector.replicate 64 0,false,false,false,0⟩
  let opening : List Memory.Turn := [.call .a .openBus,.call .b .openBus]
  let out (side : Side) : List Deal := [.own side .take,.check side,.transmit side]
  let into (side : Side) : List Deal :=
    [.receive side,.accept side,.own side .pass,.own side .read,.own side (.finish .queued)]
  let deals : List Deal := [.own .left (.call (.send (List.replicate 10 7))),
      .own .left (.select .dequeue),.own .left (.finish .queued),.other (.call .a (.send other))] ++
    out .left ++ [.receive .right,.accept .right,.own .right .pass,.own .right .read,
      .own .right (.finish .queued)] ++ into .right ++ out .right ++ into .left ++
    [.own .left (.select .expireTxSTmin),.own .left (.finish .queued),.own .left .take,.check .left,
      .own .left .cancel,.transmit .left] ++ into .right ++ [.own .right (.call .receive)]
  let losses (s : System) : List Nat := [(s.link.endpoint .a).dropped,(s.link.endpoint .b).dropped]
  have observed : ((execute Memory.Link.react (Memory.newPair bus) opening).bind fun opened =>
      (newSystem opened.2 address fun _ => defaultConfig).toOption.bind fun s =>
        (s.execute deals).map fun result =>
          (received .right (pairMoves result.1),
            result.1.all fun label => label.deal.admissible address,
            (result.2.stack .left).closing,losses s ++ losses result.2)) =
      some ([List.replicate 10 7],true,.cancelled,[0,0,0,0]) := by
    decide +kernel
  obtain ⟨⟨events,link⟩,opened,observed⟩ := Option.bind_eq_some_iff.mp observed
  obtain ⟨s,created,observed⟩ := Option.bind_eq_some_iff.mp observed
  obtain ⟨⟨labels,t⟩,executed,observed⟩ := Option.map_eq_some_iff.mp observed
  simp only [losses,Prod.mk.injEq,List.cons_append,List.nil_append,List.cons.injEq] at observed
  obtain ⟨got,admits,closing,sA,sB,tA,tB,_⟩ := observed
  have built : newSystem link address (fun _ => defaultConfig) = .ok s := by
    cases made : newSystem link address fun _ => defaultConfig with
    | error => simp [made,Except.toOption] at created
    | ok => simpa [made,Except.toOption] using created
  have run := System.execute_run executed
  have mirrored : ∀ side, address side.other = ⟨(address side).rxID,(address side).txID⟩ := by
    rintro (_ | _) <;> rfl
  have lossless : ∀ port, (t.link.endpoint port).dropped = (s.link.endpoint port).dropped := by
    rintro (_ | _)
    · exact tA.trans sA.symm
    · exact tB.trans sB.symm
  exact ⟨s,t,labels,run,closing,got,system_safety (execute_run Memory.react_step opened) built mirrored
    run (List.all_eq_true.mp admits) lossless .right⟩

end Canbuskit.Isotp
