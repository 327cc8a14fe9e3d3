import Canbuskit.Isotp.Link

/-! Safety of a session pair under arbitrary timing. The transmit half follows the segment
sender, what arrives at the other side is what it sent with some fill, and so the payloads
delivered are among the payloads dequeued, whatever either side gives up on the way. -/
namespace Canbuskit.Isotp
open Can Channel Runs Segmentation

/-- The segment of a link frame for the owner of an address. -/
def segmentFor (address : Address) (msg : LinkFrame) : Option (Segment UInt8) :=
  if address.accepts msg.arbitrationID then (parseFrame msg.data).toOption.bind PDU.segment?
  else none

def Session.pending (s : Session) : Sending UInt8 :=
  if s.txState = .idle then .idle else .pending s.txBuffer s.txSeqNum.toNat

/-- The segments of a move's frames as the owner of an address gets them. -/
def Move.segments (brs : Bool) (target : Address) (move : Move) : List (Segment UInt8) :=
  (move.departures brs).filterMap (segmentFor target)

def Move.sends (brs : Bool) (target : Address) (move : Move) :
    Option Bytes × Option (Segment UInt8) :=
  (move.dequeued,(move.segments brs target).head?)

theorem segmentFor_hears (s : Session) (msg : LinkFrame) :
    segmentFor s.address msg = (s.hears msg).bind PDU.segment? := by
  unfold segmentFor Session.hears
  split_ifs <;> rfl

theorem segmentFor_parsed {address : Address} {bytes : Bytes} {fd : Bool} {pdu : PDU}
    (parsed : parseFrame bytes = .ok pdu) :
    segmentFor address ⟨address.rxID,bytes,fd⟩ = pdu.segment? := by
  simp [segmentFor,Address.accepts,parsed,Except.toOption]

theorem silent_segments {brs : Bool} {target : Address} {move : Move}
    (silent : move.dataFrames = []) : move.segments brs target = [] := by
  unfold Move.segments Move.departures
  rw [List.filterMap_filterMap,List.filterMap_eq_nil_iff]
  intro msg member
  have flow : msg.isFlowControl = true := by
    by_contra data
    have inside : msg ∈ move.dataFrames :=
      List.mem_filter.mpr ⟨member,by simpa using data⟩
    rw [silent] at inside
    contradiction
  cases carried : carry brs msg with
  | none => rfl
  | some heard =>
    obtain ⟨fill,shape⟩ := carry_inv carried
    unfold LinkFrame.isFlowControl at flow
    split at flow
    · rename_i parsed
      simp [segmentFor,shape,parse_flowControl_fill parsed,Except.toOption,PDU.segment?]
    · contradiction

namespace Session

theorem Transition.txAddress {s t : Session} {event : Event} {outputs : List Output}
    (step : s.Transition event outputs t) (unaddressed : ∀ address, event ≠ .setTxAddress address) :
    t.txAddress = s.txAddress := by
  cases step with
  | addressed => exact absurd rfl (unaddressed _)
  | _ => rfl

theorem Transition.address {s t : Session} {event : Event} {outputs : List Output}
    (step : s.Transition event outputs t) : t.address = s.address := by
  cases step <;> rfl

theorem Transition.queue {s t : Session} {event : Event} {outputs : List Output}
    (step : s.Transition event outputs t) {payload : Bytes} (member : payload ∈ t.txDataChan.buffer) :
    payload ∈ s.txDataChan.buffer ∨ event = .send payload := by
  cases step with
  | dequeueCancelled _ queue | sentSingle _ queue | sentFirst _ queue =>
    rw [(Chan.poll_some queue).1]
    exact .inl (List.mem_cons_of_mem _ member)
  | submitted _ room =>
    rw [(Chan.offer_some room).1] at member
    rcases List.mem_append.mp member with old | new
    · exact .inl old
    · exact .inr (by rw [List.mem_singleton.mp new])
  | _ => exact .inl member

end Session

/-- What a session of a pair keeps: its addresses, and payloads the protocol can carry. -/
structure Unaddressed (s : Session) (target : Address) : Prop where
  plain : s.txAddress = none
  mirrored : target.rxID = s.address.txID
  queue : ∀ payload ∈ s.txDataChan.buffer, payload ≠ [] ∧ payload.length < 2^32

theorem sent_segment {s : Session} {target : Address} {brs : Bool} {data : Bytes}
    (configured : s.Configured) (unaddressed : Unaddressed s target)
    (fits : (data.length : Int) ≤ s.maxDataLength) :
    ∃ fill, ((data.length : Int) = s.maxDataLength → fill = []) ∧
      ∀ move : Move, frames move.outputs = [s.makeTxMsg data] → ∀ pdu,
        parseFrame (data ++ fill) = .ok pdu → move.segments brs target = pdu.segment?.toList := by
  obtain ⟨fill,full,arrives⟩ :=
    sent_arrives configured brs unaddressed.plain unaddressed.mirrored fits
  refine ⟨fill,full,?_⟩
  intro move sent pdu parsed
  have segment : segmentFor target ⟨target.rxID,data ++ fill,s.fd⟩ = pdu.segment? :=
    segmentFor_parsed parsed
  simp only [Move.segments,Move.departures,sent,arrives]
  cases shape : pdu.segment? with
  | none => rw [List.filterMap_cons_none (segment.trans shape)]; rfl
  | some value => rw [List.filterMap_cons_some (segment.trans shape)]; rfl

theorem consecutive_length {s : Session} (configured : s.Configured) {data : Bytes} {number : Int}
    (encoded : createConsecutiveFramePayload (s.txBuffer.take s.consecutiveFrameRoom) number =
      .ok data) :
    (data.length : Int) ≤ s.maxDataLength ∧
      (s.consecutiveFrameRoom ≤ s.txBuffer.length → (data.length : Int) = s.maxDataLength) := by
  have shape : data.length = (s.txBuffer.take s.consecutiveFrameRoom).length + 1 := by
    simp only [createConsecutiveFramePayload] at encoded
    split_ifs at encoded
    rw [← Except.ok.inj encoded,List.length_cons]
  have room : (s.consecutiveFrameRoom : Int) = s.maxDataLength - 1 := by
    unfold Session.consecutiveFrameRoom
    rcases configured.width_cases with width | width <;> omega
  rw [List.length_take] at shape
  omega

theorem pending_idle {s : Session} (rests : s.txState = .idle) : s.pending = .idle := if_pos rests

theorem pending_busy {s : Session} (busy : s.txState ≠ .idle) :
    s.pending = .pending s.txBuffer s.txSeqNum.toNat :=
  if_neg busy

/-- One move of a session is one step of the segment sender. -/
theorem Progress.sends {s t : Session} {move : Move} {target : Address} {brs : Bool}
    (progress : Progress s move t) (sound : s.Sound) (unaddressed : Unaddressed s target) :
    Send 16 s.pending (move.sends brs target) t.pending ∧
      move.segments brs target = (move.segments brs target).head?.toList := by
  have head {payload channel} (queue : s.txDataChan.poll = some (payload,channel)) :
      payload ≠ [] ∧ payload.length < 2^32 :=
    unaddressed.queue payload (by rw [(Chan.poll_some queue).1]; simp)
  cases progress with
  | untouched same shows undequeued =>
    have kept : t.pending = s.pending := by rw [same]; rfl
    simp only [Move.sends,undequeued,silent_segments shows.dataFrames,kept]
    exact ⟨.pause _,rfl⟩
  | @granted blockSize stMin waits after shows undequeued =>
    have kept : t.pending = s.pending := by
      rw [after,pending_busy (s := s) (by simp [waits])]
      exact pending_busy (by simp [Session.grant])
    simp only [Move.sends,undequeued,silent_segments shows.dataFrames,kept]
    exact ⟨.pause _,rfl⟩
  | delayed waits _ after shows undequeued =>
    have kept : t.pending = s.pending := by rw [after]; rfl
    simp only [Move.sends,undequeued,silent_segments shows.dataFrames,kept]
    exact ⟨.pause _,rfl⟩
  | refused _ after shows undequeued | cancelled _ after shows undequeued =>
    have stopped : t.pending = .idle := pending_idle (by rw [after]; rfl)
    simp only [Move.sends,undequeued,silent_segments shows.dataFrames,stopped]
    exact ⟨.stop _,rfl⟩
  | dropped _ rests queue after shows dequeued =>
    have stopped : t.pending = .idle := pending_idle (by rw [after]; rfl)
    simp only [Move.sends,dequeued,silent_segments shows.dataFrames,stopped,pending_idle rests]
    exact ⟨.dropped _,rfl⟩
  | @single payload _ data rests queue fits encoded after sent dequeued =>
    have stopped : t.pending = .idle := pending_idle (by rw [after]; rfl)
    obtain ⟨_,same,length⟩ := Session.single_encodes sound.configured fits
    rw [encoded] at same
    obtain rfl := Except.ok.inj same
    obtain ⟨fill,_,segments⟩ := sent_segment sound.configured unaddressed length
    have narrow : s.maxDataLength ≤ 64 := by
      rcases sound.configured.width_cases with width | width <;> omega
    have put : move.segments brs target = [.single payload] :=
      segments move sent _ (parse_single (head queue).1 narrow encoded)
    simp only [Move.sends,dequeued,put,stopped,pending_idle rests]
    exact ⟨.single payload,rfl⟩
  | @started payload channel data rests queue several encoded after sent _ _ _ dequeued =>
    obtain ⟨_,inside,_⟩ := Session.first_encodes sound.configured several
    have full := Session.first_frame_full sound.configured several encoded
    obtain ⟨fill,noFill,segments⟩ :=
      sent_segment sound.configured unaddressed (Int.le_of_eq full)
    obtain rfl := noFill full
    have proper : ((payload.take (s.firstFrameRoom payload.length) ++ []).length : Int) <
        payload.length := by
      simp only [List.append_nil,List.length_take]
      omega
    have put : move.segments brs target =
        [.first payload.length (payload.take (s.firstFrameRoom payload.length))] := by
      have parsed := parse_first (by omega) (by have := (head queue).2; omega) proper encoded
      rw [segments move sent _ parsed]
      simp [PDU.segment?]
    have begins : t.pending =
        .pending (payload.drop (s.firstFrameRoom payload.length)) (1 % 16) := by
      rw [after]
      exact pending_busy (by simp [Session.startSending])
    simp only [Move.sends,dequeued,put,begins,pending_idle rests]
    exact ⟨.first payload _ inside,rfl⟩
  | @sent data transmits encoded after sent _ undequeued =>
    obtain ⟨length,full⟩ := consecutive_length sound.configured encoded
    obtain ⟨fill,noFill,segments⟩ := sent_segment sound.configured unaddressed length
    have range := transmits.seqNum
    have put : move.segments brs target =
        [.next s.txSeqNum.toNat (s.txBuffer.take s.consecutiveFrameRoom ++ fill)] :=
      segments move sent _ (parse_consecutive encoded)
    have number : ((s.txSeqNum + 1) % 16).toNat = (s.txSeqNum.toNat + 1) % 16 := by omega
    rw [pending_busy (s := s) (by simp [transmits.state])]
    simp only [Move.sends,undequeued,put]
    refine ⟨?_,rfl⟩
    rcases after with ⟨last,rfl⟩ | ⟨more,_,_,rfl⟩ | ⟨more,_,rfl⟩
    · rw [List.take_of_length_le last,pending_idle rfl]
      exact .last fill
    · obtain rfl := noFill (full more.le)
      rw [pending_busy (by simp [Session.endBlock]),List.append_nil]
      simp only [Session.endBlock,Session.separated,number]
      exact .next _ more
    · obtain rfl := noFill (full more.le)
      rw [pending_busy (by simp [Session.keepSending,transmits.state]),List.append_nil]
      simp only [Session.keepSending,number]
      exact .next _ more

/-- What the callers of a session of a pair may do: submit payloads the protocol can carry. -/
structure Move.Admissible (move : Move) : Prop where
  unaddressed : ∀ address, move.event ≠ .setTxAddress address
  submitted : ∀ data, move.event = .send data → data ≠ [] ∧ data.length < 2^32

theorem Unaddressed.step {s t : Session} {target : Address} {move : Move}
    (unaddressed : Unaddressed s target) (sound : s.Sound) (step : Move.Step s move t)
    (admissible : move.Admissible) : Unaddressed t target := by
  have transition := step.transition sound
  refine ⟨?_,?_,?_⟩
  · rw [transition.txAddress admissible.unaddressed]
    exact unaddressed.plain
  · rw [transition.address]
    exact unaddressed.mirrored
  · intro payload member
    rcases transition.queue member with old | new
    · exact unaddressed.queue payload old
    · exact admissible.submitted payload new

theorem pending_run {s t : Session} {moves : List Move} {target : Address} (brs : Bool)
    (sound : s.Sound) (unaddressed : Unaddressed s target) (run : Run Move.Step s moves t)
    (admissible : ∀ move ∈ moves, move.Admissible) :
    Unaddressed t target ∧
      Run (Send 16) s.pending (moves.map (Move.sends brs target)) t.pending ∧
      moves.flatMap (Move.segments brs target) =
        (moves.map (Move.sends brs target)).filterMap Prod.snd := by
  induction run with
  | nil => exact ⟨unaddressed,.nil,rfl⟩
  | @snoc moves move middle t before step ih =>
    obtain ⟨plain,sends,segments⟩ := ih fun other member => admissible other (by simp [member])
    have middleSound := run_sound sound before
    obtain ⟨sent,one⟩ := (step.progress middleSound).sends middleSound plain
    refine ⟨plain.step middleSound step (admissible move (by simp)),?_,?_⟩
    · rw [List.map_append]
      exact sends.snoc sent
    · rw [List.flatMap_append,List.map_append,List.filterMap_append,segments,List.flatMap_singleton,
        one]
      cases head : (move.segments brs target).head? <;> simp [Move.sends,head]

theorem run_address {s t : Session} {moves : List Move} (sound : s.Sound)
    (run : Run Move.Step s moves t) : ∀ move ∈ moves, move.before.address = s.address := by
  induction run with
  | nil => simp
  | @snoc moves move middle t before step ih =>
    intro other member
    rcases List.mem_append.mp member with old | new
    · exact ih other old
    · obtain rfl := List.mem_singleton.mp new
      rw [step.1]
      have kept := before.invariant (fun u => u.Sound ∧ u.address = s.address) ⟨sound,rfl⟩
        fun u move v kept step =>
          have transition := step.transition kept.1
          ⟨transition.sound kept.1,transition.address.trans kept.2⟩
      exact kept.2

/-- The inputs of the segment receiver are the segments of the frames that arrived. -/
theorem arrived_segments {address : Address} {moves : List Move}
    (same : ∀ move ∈ moves, move.before.address = address) :
    (moves.filterMap Move.reading).filterMap Prod.fst =
      (moves.filterMap Move.arrival).filterMap (segmentFor address) := by
  rw [List.filterMap_filterMap,List.filterMap_filterMap]
  apply List.filterMap_congr
  intro move member
  unfold Move.reading Move.received Move.arrival
  cases move.event with
  | frame msg outcome =>
    simp only [Event.arrival,Option.bind_some]
    rw [← same move member,segmentFor_hears]
    cases (move.before.hears msg).bind PDU.segment? <;> rfl
  | _ => rfl

def delivered (side : Side) (labels : List PairMove) : List Bytes :=
  (movesOf side labels).flatMap fun move => payloads move.outputs

def dequeued (side : Side) (labels : List PairMove) : List Bytes :=
  (movesOf side labels).filterMap Move.dequeued

/-- The start of a pair: two new sessions in one mode with mirrored addresses, and an
empty link. -/
structure Pair.Begins (p : Pair) (address : Side → Address) (cfg : Side → Config) (fd : Bool) :
    Prop where
  created : ∀ side, newSession (some (address side)) (cfg side) fd = .ok (p.session side)
  mirrored : ∀ side, address side.other = ⟨(address side).rxID,(address side).txID⟩
  empty : ∀ side, p.inflight side = []

theorem newSession_fresh {address : Address} {cfg : Config} {fd : Bool} {s : Session}
    (created : newSession (some address) cfg fd = .ok s) :
    s.address = address ∧ s.txAddress = none ∧ s.txState = .idle ∧ s.rxState = .idle ∧
      s.txDataChan.buffer = [] := by
  unfold newSession at created
  split at created
  · contradiction
  · split at created
    · contradiction
    · contradiction
    · rename_i same _
      cases created
      cases same
      exact ⟨rfl,rfl,rfl,rfl,rfl⟩

/-- No interleaving of a pair's steps delivers anything but payloads the other side took
from its queue, whole, in order and each at most once. -/
theorem pair_safety {p q : Pair} {address : Side → Address} {cfg : Side → Config} {fd : Bool}
    {brs : Side → Bool} {labels : List PairMove} (begins : p.Begins address cfg fd)
    (run : Run (Pair.Step brs) p labels q)
    (submitted : ∀ label ∈ labels, ∀ data, label.move.event = .send data →
      data ≠ [] ∧ data.length < 2^32) (side : Side) :
    (delivered side labels).Sublist (dequeued side.other labels) := by
  have sound : ∀ side, (p.session side).Sound := fun side => newSession_sound (begins.created side)
  have fresh := fun side => newSession_fresh (begins.created side)
  have admissible : ∀ move ∈ movesOf side.other labels, move.Admissible := by
    intro move member
    refine ⟨pair_addressed run side.other move member,?_⟩
    obtain ⟨label,inside,same⟩ := List.mem_filterMap.mp member
    split_ifs at same
    obtain rfl := Option.some.inj same
    exact submitted label inside
  have unaddressed : Unaddressed (p.session side.other) (address side) := by
    obtain ⟨own,plain,_,_,queue⟩ := fresh side.other
    refine ⟨plain,?_,by simp [queue]⟩
    rw [own,begins.mirrored side]
  obtain ⟨_,sends,segments⟩ := pending_run (brs side.other) (sound side.other) unaddressed
    (pair_session run side.other) admissible
  have receives := reception_run (sound side) (pair_session run side)
  obtain ⟨own,_,_,rests,_⟩ := fresh side
  rw [pending_idle (fresh side.other).2.2.1] at sends
  rw [Session.reception_idle (by simp [rests])] at receives
  have link := pair_fifo run side
  rw [begins.empty side,List.nil_append] at link
  have arrived := arrived_segments (run_address (sound side) (pair_session run side))
  rw [own] at arrived
  have fifo : ((movesOf side labels).filterMap Move.reading).filterMap Prod.fst ++
      (q.inflight side).filterMap (segmentFor (address side)) =
        ((movesOf side.other labels).map
          (Move.sends (brs side.other) (address side))).filterMap Prod.snd := by
    rw [arrived,← List.filterMap_append,← link,← segments,List.filterMap_flatMap]
    rfl
  have safe := exchange_safe sends receives fifo
  unfold delivered dequeued
  rw [run_payloads (sound side) (pair_session run side)]
  simpa [List.filterMap_map,Function.comp_def,Move.sends] using safe

def Event.submission : Event → List Bytes
  | .send data => [data]
  | _ => []

/-- One transfer of ten bytes between two sessions with the default configuration. -/
theorem pair_safety_transfer :
    ∃ p labels q, Run (Pair.Step fun _ => false) p labels q ∧
      delivered .right labels = [List.replicate 10 7] ∧
      (delivered .right labels).Sublist (dequeued .left labels) := by
  let address : Side → Address := fun side =>
    if side = .left then ⟨0x7E0,0x7E8⟩ else ⟨0x7E8,0x7E0⟩
  let p : Pair := ⟨fun side => .fresh (address side) defaultConfig false,fun _ => []⟩
  have begins : p.Begins address (fun _ => defaultConfig) false :=
    ⟨fun side => by cases side <;> rfl,fun side => by cases side <;> rfl,fun _ => rfl⟩
  have executed : (p.execute (fun _ => false) [(.left,some (.send (List.replicate 10 7))),
      (.left,some (.dequeue .queued)),(.right,none),(.left,none),
      (.left,some (.expireTxSTmin .queued)),(.right,none)]).map (fun result =>
        (delivered .right result.1,result.1.flatMap fun label => label.move.event.submission)) =
      some ([List.replicate 10 7],[List.replicate 10 7]) := by decide +kernel
  obtain ⟨⟨labels,q⟩,executed,observed⟩ := Option.map_eq_some_iff.mp executed
  obtain ⟨received,submissions⟩ := Prod.mk.inj observed
  have run := Pair.execute_run executed
  refine ⟨p,labels,q,run,received,pair_safety begins run ?_ .right⟩
  intro label member data sends
  have submitted : data ∈ labels.flatMap fun label => label.move.event.submission :=
    List.mem_flatMap.mpr ⟨label,member,by simp [sends,Event.submission]⟩
  rw [submissions,List.mem_singleton] at submitted
  rw [submitted]
  decide

end Canbuskit.Isotp
