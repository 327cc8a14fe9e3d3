import Canbuskit.Isotp.Sender
import Canbuskit.Isotp.Receiver
import Canbuskit.Isotp.Wire

/-! Two sessions on a lossless link. A frame goes through the transmit goroutine's
`can.NewFrame`, over the bus and through `fromCANFrame`; both directions are FIFO queues, and
either side may take any step of its run loop at any time. -/
namespace Canbuskit.Isotp
open Can Channel Runs Segmentation

/-- A frame the session builds reaches the session it is meant for, with some fill unless
it is full. -/
theorem carry_tx {s : Session} (configured : s.Configured) (brs : Bool) {address target : Address}
    (standard : address.txID ≤ 0x7FF) (mirrored : target.rxID = address.txID) {data : Bytes}
    (fits : (data.length : Int) ≤ s.maxDataLength) :
    ∃ fill, carry brs (s.makeTxMsgWithAddr address data) =
        some ⟨target.rxID,data ++ fill,s.fd⟩ ∧
      ((data.length : Int) = s.maxDataLength → fill = []) := by
  have width := configured.width
  have length : (s.makeTxMsgWithAddr address data).data.length ≤ maximumLength s.fd := by
    have bound := Session.padded_length configured fits
    unfold Session.maxDataLength at bound
    rw [width] at bound
    exact_mod_cast bound
  obtain ⟨padding,padded⟩ := s.padded_fill data
  have shape : (s.makeTxMsgWithAddr address data).data = data ++ padding := padded
  obtain ⟨fill,arrives,extra⟩ := carry_some brs standard length
  refine ⟨padding ++ fill,?_,?_⟩
  · rw [arrives,shape,mirrored,List.append_assoc]
    rfl
  · intro full
    have same : s.padded data = data := Session.padded_full configured full
    have noPadding : padding = [] := by
      rw [same] at padded
      exact List.self_eq_append_right.mp padded
    have whole : canLength data.length = data.length := by
      rcases configured.width_cases with classic | wide
      · exact canLength_classic (by omega)
      · have size : data.length = 64 := by omega
        rw [size]
        rfl
    have none : fill.length = 0 := by
      rw [extra,shape,noPadding,List.append_nil,whole]
      omega
    rw [noPadding,List.length_eq_zero_iff.mp none]
    rfl

theorem sent_arrives {s : Session} (configured : s.Configured) (brs : Bool) {target : Address}
    (plain : s.txAddress = none) (mirrored : target.rxID = s.address.txID) {data : Bytes}
    (fits : (data.length : Int) ≤ s.maxDataLength) :
    ∃ fill, ((data.length : Int) = s.maxDataLength → fill = []) ∧
      [s.makeTxMsg data].filterMap (carry brs) = [⟨target.rxID,data ++ fill,s.fd⟩] := by
  have own : s.makeTxMsg data = s.makeTxMsgWithAddr s.address data := by
    simp [Session.makeTxMsg,plain]
  obtain ⟨fill,arrives,full⟩ := carry_tx configured brs configured.address.1 mirrored fits
  exact ⟨fill,full,by rw [own,List.filterMap_cons_some arrives,List.filterMap_nil]⟩

inductive Side where
  | left
  | right
  deriving DecidableEq, Repr

def Side.other : Side → Side
  | .left => .right
  | .right => .left

/-- Two sessions with the frames on their way to each of them. -/
structure Pair where
  session : Side → Session
  inflight : Side → List LinkFrame

structure PairMove where
  side : Side
  move : Move

def Event.arrival : Event → Option LinkFrame
  | .frame msg _ => some msg
  | _ => none

def Move.arrival (move : Move) : Option LinkFrame := move.event.arrival

def Move.departures (brs : Bool) (move : Move) : List LinkFrame :=
  (frames move.outputs).filterMap (carry brs)

/-- One side takes a step: a frame it takes is the first on its way, the frames it emits
queue up behind those on their way to the other side. -/
structure Pair.Step (brs : Side → Bool) (p : Pair) (label : PairMove) (q : Pair) : Prop where
  moves : Move.Step (p.session label.side) label.move (q.session label.side)
  other : q.session label.side.other = p.session label.side.other
  arrives : p.inflight label.side = label.move.arrival.toList ++ q.inflight label.side
  departs : q.inflight label.side.other =
    p.inflight label.side.other ++ label.move.departures (brs label.side)
  addressed : ∀ address, label.move.event ≠ .setTxAddress address

/-- The moves of one side. -/
def movesOf (side : Side) (labels : List PairMove) : List Move :=
  labels.filterMap fun label => if label.side = side then some label.move else none

theorem movesOf_snoc_same (labels : List PairMove) (label : PairMove) :
    movesOf label.side (labels ++ [label]) = movesOf label.side labels ++ [label.move] := by
  simp [movesOf,List.filterMap_append]

theorem movesOf_snoc_other (labels : List PairMove) (label : PairMove) :
    movesOf label.side.other (labels ++ [label]) = movesOf label.side.other labels := by
  have differs : label.side ≠ label.side.other := by cases label.side <;> decide
  simp [movesOf,List.filterMap_append,differs]

theorem Side.same_or_other (side other : Side) : side = other ∨ side = other.other := by
  cases side <;> cases other <;> simp [Side.other]

@[simp] theorem Side.other_other (side : Side) : side.other.other = side := by
  cases side <;> rfl

theorem pair_session {brs : Side → Bool} {start final : Pair} {labels : List PairMove}
    (run : Run (Pair.Step brs) start labels final) (side : Side) :
    Run Move.Step (start.session side) (movesOf side labels) (final.session side) := by
  induction run with
  | nil => exact .nil
  | @snoc labels label middle final before step ih =>
    rcases side.same_or_other label.side with rfl | rfl
    · rw [movesOf_snoc_same]
      exact ih.snoc step.moves
    · rw [movesOf_snoc_other,step.other]
      exact ih

theorem pair_fifo {brs : Side → Bool} {start final : Pair} {labels : List PairMove}
    (run : Run (Pair.Step brs) start labels final) (side : Side) :
    start.inflight side ++ (movesOf side.other labels).flatMap (Move.departures (brs side.other)) =
      (movesOf side labels).filterMap Move.arrival ++ final.inflight side := by
  induction run with
  | nil => simp [movesOf]
  | @snoc labels label middle final before step ih =>
    rcases side.same_or_other label.side with rfl | rfl
    · rw [movesOf_snoc_same,movesOf_snoc_other,ih,step.arrives,List.filterMap_append,
        List.append_assoc]
      cases arrival : label.move.arrival <;> simp [arrival]
    · have back : label.side.other.other = label.side := Side.other_other _
      rw [back] at ih ⊢
      rw [movesOf_snoc_same,movesOf_snoc_other,step.departs,List.flatMap_append,
        ← List.append_assoc,ih,List.append_assoc,List.flatMap_singleton]

theorem pair_addressed {brs : Side → Bool} {start final : Pair} {labels : List PairMove}
    (run : Run (Pair.Step brs) start labels final) (side : Side) :
    ∀ move ∈ movesOf side labels, ∀ address, move.event ≠ .setTxAddress address := by
  induction run with
  | nil => simp [movesOf]
  | @snoc labels label middle final before step ih =>
    rcases side.same_or_other label.side with rfl | rfl
    · rw [movesOf_snoc_same]
      intro move member
      rcases List.mem_append.mp member with old | new
      · exact ih move old
      · rw [List.mem_singleton.mp new]
        exact step.addressed
    · rw [movesOf_snoc_other]
      exact ih

/-- The event a side takes when told to, with what is then still on its way to it: its
next frame when `choice` is `none`, else an event of its own. -/
def Pair.choose (p : Pair) (side : Side) : Option Event → Option (Event × List LinkFrame)
  | none => match p.inflight side with
    | [] => none
    | msg :: rest => some (.frame msg .queued,rest)
  | some (.frame _ _) => none
  | some (.setTxAddress _) => none
  | some event => some (event,p.inflight side)

theorem Pair.choose_some {p : Pair} {side : Side} {choice : Option Event} {event : Event}
    {rest : List LinkFrame} (chosen : p.choose side choice = some (event,rest)) :
    p.inflight side = event.arrival.toList ++ rest ∧ ∀ address, event ≠ .setTxAddress address := by
  cases choice with
  | none =>
    simp only [choose] at chosen
    split at chosen
    · contradiction
    · rename_i queue
      obtain ⟨rfl,rfl⟩ := Prod.mk.inj (Option.some.inj chosen)
      exact ⟨queue,by simp⟩
  | some own =>
    cases own with
    | frame | setTxAddress => contradiction
    | dequeue | expireRxCF | expireRxFC | expireTxSTmin | send | receive =>
      obtain ⟨rfl,rfl⟩ := Prod.mk.inj (Option.some.inj chosen)
      exact ⟨rfl,by simp⟩

def Pair.advance (brs : Side → Bool) (p : Pair) (side : Side) (choice : Option Event) :
    Option (PairMove × Pair) :=
  match p.choose side choice with
  | none => none
  | some (event,rest) => match (p.session side).step event with
    | none => none
    | some (t,outputs) => some (⟨side,⟨p.session side,event,outputs,t⟩⟩,
        { session := fun other => if other = side then t else p.session other
          inflight := fun other => if other = side then rest
            else p.inflight other ++ (frames outputs).filterMap (carry (brs side)) })

theorem Pair.advance_step {brs : Side → Bool} {p q : Pair} {side : Side} {choice : Option Event}
    {label : PairMove} (advanced : p.advance brs side choice = some (label,q)) :
    Pair.Step brs p label q := by
  have differs : side.other ≠ side := by cases side <;> decide
  unfold Pair.advance at advanced
  split at advanced
  · contradiction
  · rename_i event rest chosen
    obtain ⟨queue,plain⟩ := choose_some chosen
    split at advanced
    · contradiction
    · rename_i t outputs taken
      obtain ⟨rfl,rfl⟩ := Prod.mk.inj (Option.some.inj advanced)
      refine ⟨⟨rfl,?_,?_⟩,?_,?_,?_,plain⟩
      · simp
      · simpa using taken
      · simp [differs]
      · simpa [Move.arrival] using queue
      · simp [differs,Move.departures]

theorem Pair.advance_some (brs : Side → Bool) {p : Pair} {side : Side} {choice : Option Event}
    {event : Event} {rest : List LinkFrame} {t : Session} {outputs : List Output}
    (chosen : p.choose side choice = some (event,rest))
    (taken : (p.session side).step event = some (t,outputs)) :
    ∃ q, Pair.Step brs p ⟨side,⟨p.session side,event,outputs,t⟩⟩ q := by
  have advanced : ∃ q, p.advance brs side choice =
      some (⟨side,⟨p.session side,event,outputs,t⟩⟩,q) := by
    simp only [advance,chosen,taken]
    exact ⟨_,rfl⟩
  obtain ⟨q,advanced⟩ := advanced
  exact ⟨q,advance_step advanced⟩

/-- The run that a list of choices determines. -/
def Pair.execute (brs : Side → Bool) (p : Pair) (choices : List (Side × Option Event)) :
    Option (List PairMove × Pair) :=
  Runs.execute (fun p choice => p.advance brs choice.1 choice.2) p choices

theorem Pair.execute_run {brs : Side → Bool} {choices : List (Side × Option Event)} {p q : Pair}
    {labels : List PairMove} (executed : p.execute brs choices = some (labels,q)) :
    Run (Pair.Step brs) p labels q := by
  refine Runs.execute_run ?_ executed
  intro _ _ _ _ advanced
  exact advance_step advanced

end Canbuskit.Isotp
