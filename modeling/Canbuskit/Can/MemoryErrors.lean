import Canbuskit.Can.Memory

/-! The error channel of a memory endpoint. It is made with the endpoint and never replaced,
and `Close` of the endpoint closes it, as nothing else does. -/
namespace Canbuskit.Memory
open Can Channel Runs

/-- The error channel of an endpoint, from its construction on. -/
def Port.errors : Port → Nat
  | .a => 0
  | .b => 1

def Move.errorsRead (port : Port) (move : Move) : Option Nat :=
  if move.port = port then match move.reply with
    | .errors channel => some channel
    | _ => none
  else none

def Move.heapAfter (move : Move) : Heap := move.after.heap

/-- An endpoint with its error channel, closed or not, and subscribers on later channels. -/
structure Endpoint.Sound (channel : Nat) (shut : Bool) (e : Endpoint) : Prop where
  errors : e.errors = channel
  closed : e.closed = shut
  subscribers : ∀ subscriber ∈ e.subscribers, 2 ≤ subscriber

section endpoint

variable {channel : Nat} {shut : Bool} {e : Endpoint}

theorem openBus_sound (sound : e.Sound channel shut) : e.openBus.1.Sound channel shut := by
  unfold Endpoint.openBus
  split_ifs
  · exact sound
  · exact sound
  · split
    · exact sound
    · exact ⟨sound.errors,sound.closed,sound.subscribers⟩

theorem dispatch_sound (room : Mailroom Frame) (frame : Frame) (sound : e.Sound channel shut) :
    (e.dispatch room frame).1.Sound channel shut := by
  unfold Endpoint.dispatch
  split_ifs
  · exact sound
  · exact ⟨sound.errors,sound.closed,sound.subscribers⟩

theorem dispatch_heap (e : Endpoint) (room : Mailroom Frame) (frame : Frame) :
    (e.dispatch room frame).2.1.heap = room.heap := by
  unfold Endpoint.dispatch
  split_ifs
  · rfl
  · exact room.broadcast_heap e.subscribers

theorem subscribe_sound (buffer : Int) {room : Mailroom Frame} (made : 2 ≤ room.heap.made)
    (sound : e.Sound channel shut) : (e.subscribe buffer room).1.Sound channel shut := by
  unfold Endpoint.subscribe
  dsimp only
  split_ifs
  · exact sound
  · refine ⟨sound.errors,sound.closed,?_⟩
    intro subscriber member
    rcases List.mem_cons.mp member with rfl | before
    · exact made
    · exact sound.subscribers subscriber before

theorem unsubscribe_sound (gone : Nat) (room : Mailroom Frame) (sound : e.Sound channel shut) :
    (e.unsubscribe gone room).1.Sound channel shut := by
  unfold Endpoint.unsubscribe
  split_ifs
  · refine ⟨sound.errors,sound.closed,?_⟩
    intro subscriber member
    exact sound.subscribers subscriber (List.mem_of_mem_erase member)
  · exact sound

theorem subscribe_made (e : Endpoint) (buffer : Int) (room : Mailroom Frame)
    (made : 2 ≤ room.heap.made) : 2 ≤ (e.subscribe buffer room).2.1.heap.made := by
  unfold Endpoint.subscribe
  dsimp only
  split_ifs <;> exact Nat.le_succ_of_le made

theorem subscribe_closed (e : Endpoint) (buffer : Int) (room : Mailroom Frame)
    (made : 2 ≤ room.heap.made) (port : Port) :
    port.errors ∈ (e.subscribe buffer room).2.1.heap.closed ↔ port.errors ∈ room.heap.closed := by
  unfold Endpoint.subscribe
  dsimp only
  split_ifs
  · have other : port.errors ≠ room.heap.made := by cases port <;> simp only [Port.errors] <;> omega
    simp [Mailroom.close,Mailroom.make,Heap.close,Heap.make,other]
  · rfl

theorem unsubscribe_made (e : Endpoint) (gone : Nat) (room : Mailroom Frame) :
    (e.unsubscribe gone room).2.heap.made = room.heap.made := by
  unfold Endpoint.unsubscribe
  split_ifs <;> rfl

theorem unsubscribe_closed (gone : Nat) (room : Mailroom Frame) (sound : e.Sound channel shut)
    (port : Port) :
    port.errors ∈ (e.unsubscribe gone room).2.heap.closed ↔ port.errors ∈ room.heap.closed := by
  unfold Endpoint.unsubscribe
  split_ifs with known
  · have later := sound.subscribers gone known
    have other : port.errors ≠ gone := by cases port <;> simp only [Port.errors] <;> omega
    simp [Mailroom.close,Heap.close,other]
  · rfl

theorem closeAll_closed (port : Port) (subscribers : List Nat) :
    ∀ heap : Heap, (∀ subscriber ∈ subscribers, 2 ≤ subscriber) →
      (port.errors ∈ (subscribers.foldl Heap.close heap).closed ↔ port.errors ∈ heap.closed) := by
  induction subscribers with
  | nil => exact fun _ _ => Iff.rfl
  | cons subscriber rest ih =>
    intro heap later
    have other : port.errors ≠ subscriber := by
      have := later subscriber (by simp)
      cases port <;> simp only [Port.errors] <;> omega
    rw [List.foldl_cons,ih (heap.close subscriber) fun s member => later s (by simp [member])]
    simp [Heap.close,other]

theorem closeAll_made (subscribers : List Nat) : ∀ heap : Heap,
    (subscribers.foldl Heap.close heap).made = heap.made := by
  induction subscribers with
  | nil => exact fun _ => rfl
  | cons subscriber rest ih => exact fun heap => ih (heap.close subscriber)

theorem closeBus_sound (room : Mailroom Frame) (sound : e.Sound channel shut) :
    (e.closeBus room).1.Sound channel true := by
  unfold Endpoint.closeBus
  split_ifs with already
  · exact ⟨sound.errors,already,sound.subscribers⟩
  · exact ⟨sound.errors,rfl,by simp⟩

theorem closeBus_closed {room : Mailroom Frame} (sound : e.Sound channel shut)
    (before : channel ∈ room.heap.closed ↔ shut = true) (port : Port) :
    port.errors ∈ (e.closeBus room).2.heap.closed ↔
      port.errors = channel ∨ port.errors ∈ room.heap.closed := by
  unfold Endpoint.closeBus
  split_ifs with already
  · have closed : channel ∈ room.heap.closed := before.mpr (sound.closed.symm.trans already)
    constructor
    · exact .inr
    · rintro (rfl | member)
      · exact closed
      · exact member
  · simp only [Mailroom.close,Heap.close,List.mem_cons,sound.errors,Mailroom.closes_heap]
    exact or_congr_right (closeAll_closed port e.subscribers room.heap sound.subscribers)

theorem closeBus_made (room : Mailroom Frame) : (e.closeBus room).2.heap.made = room.heap.made := by
  unfold Endpoint.closeBus
  split_ifs
  · rfl
  · simp only [Mailroom.close,Heap.close,Mailroom.closes_heap]
    exact closeAll_made e.subscribers room.heap

end endpoint

/-- A link whose endpoints have their error channels, those of `shut` closed. -/
structure Link.Sound (shut : Port → Bool) (link : Link) : Prop where
  made : 2 ≤ link.heap.made
  endpoint : ∀ port, (link.endpoint port).Sound port.errors (shut port)
  closed : ∀ port, port.errors ∈ link.heap.closed ↔ shut port = true

theorem newPair_sound (cfg : BusConfig) : (newPair cfg).Sound fun _ => false where
  made := Nat.le_refl 2
  endpoint port := by cases port <;> exact ⟨rfl,rfl,by simp [newPair,newEndpoint]⟩
  closed port := by simp [newPair,newEndpoint,Heap.make,Heap.empty]

section link

variable {link : Link} {shut : Port → Bool} {port : Port} {e : Endpoint}

theorem set_sound (sound : link.Sound shut) (set : e.Sound port.errors (shut port)) :
    (link.set port e).Sound shut where
  made := sound.made
  endpoint := (Function.forall_update_iff link.endpoint fun p e => e.Sound p.errors (shut p)).mpr
    ⟨set,fun other _ => sound.endpoint other⟩
  closed := sound.closed

theorem room_sound (sound : link.Sound shut) {room : Mailroom Frame} (made : 2 ≤ room.heap.made)
    (closed : ∀ port : Port, port.errors ∈ room.heap.closed ↔ port.errors ∈ link.heap.closed) :
    Link.Sound shut { link with toMailroom := room } :=
  ⟨made,sound.endpoint,fun port => (closed port).trans (sound.closed port)⟩

theorem reached_sound {room : Mailroom Frame} (sound : link.Sound shut)
    (same : room.heap = link.heap) (set : e.Sound port.errors (shut port)) :
    (({ link with toMailroom := room } : Link).set port e).Sound shut :=
  set_sound (room_sound sound (same ▸ sound.made) fun _ => by rw [same]) set

theorem send_sound (port : Port) (frame : Frame) (sound : link.Sound shut) :
    (link.send port frame).1.Sound shut := by
  unfold Link.send
  split
  · exact sound
  · split
    · exact sound
    · rename_i peer room dispatched
      have received := dispatch_sound link.toMailroom { frame with direction := .receive }
        (sound.endpoint port.peer)
      have kept := dispatch_heap (link.endpoint port.peer) link.toMailroom
        { frame with direction := .receive }
      rw [dispatched] at received kept
      have reached := reached_sound sound kept received
      have own := reached.endpoint port
      dsimp only
      split_ifs
      · exact reached_sound reached (dispatch_heap _ _ _)
          (dispatch_sound _ _ ⟨own.errors,own.closed,own.subscribers⟩)
      · exact set_sound reached ⟨own.errors,own.closed,own.subscribers⟩

/-- Only `Close` closes an error channel, and that of its own endpoint. -/
theorem call_sound (port : Port) (call : Call) (sound : link.Sound shut) :
    (link.call port call).1.Sound
      (if call = .closeBus then Function.update shut port true else shut) := by
  have own := sound.endpoint port
  cases call with
  | openBus => exact set_sound sound (openBus_sound own)
  | send frame => exact send_sound port frame sound
  | errors => exact sound
  | closeBus =>
    rw [if_pos rfl]
    refine ⟨?_,?_,?_⟩
    · simpa [Link.call,Link.set,closeBus_made] using sound.made
    · intro other
      by_cases same : other = port
      · subst same
        simpa [Link.call,Link.set] using closeBus_sound link.toMailroom own
      · simpa [Link.call,Link.set,same] using sound.endpoint other
    · intro other
      refine (closeBus_closed own (sound.closed port) other).trans ?_
      by_cases same : other = port
      · simp [same]
      · have apart : other.errors ≠ port.errors := by
          cases other <;> cases port <;> simp [Port.errors] at same ⊢
        simpa [same,apart] using sound.closed other
  | subscribe buffer =>
    refine set_sound (room_sound sound ?_ ?_) (subscribe_sound buffer sound.made own)
    · exact subscribe_made _ _ _ sound.made
    · exact subscribe_closed _ _ _ sound.made
  | unsubscribe channel =>
    refine set_sound (room_sound sound ?_ ?_) (unsubscribe_sound channel link.toMailroom own)
    · exact (unsubscribe_made _ _ _).symm ▸ sound.made
    · exact unsubscribe_closed channel link.toMailroom own

theorem Move.Step.sound {next : Link} {move : Move} (step : Move.Step link move next)
    (sound : link.Sound shut) :
    next.Sound (if move.call = .closeBus then Function.update shut move.port true else shut) := by
  have kept := call_sound move.port move.call sound
  rwa [step.2.2] at kept

theorem run_open {next : Link} {moves : List Move} (run : Run Move.Step link moves next)
    (sound : link.Sound fun _ => false)
    (never : ∀ move ∈ moves, move.port = port → move.call ≠ .closeBus) :
    port.errors ∉ next.heap.closed := by
  have kept : ∃ shut, next.Sound shut ∧ shut port = false := by
    refine (Run.restrict_iff.mpr ⟨run,never⟩).invariant
      (fun link => ∃ shut, link.Sound shut ∧ shut port = false) ⟨_,sound,rfl⟩ ?_
    rintro s move t ⟨shut,sound,live⟩ ⟨step,never⟩
    refine ⟨_,step.sound sound,?_⟩
    split_ifs with closes
    · have other : port ≠ move.port := fun same => never same.symm closes
      simpa [other] using live
    · exact live
  obtain ⟨shut,sound,live⟩ := kept
  simp [sound.closed,live]

theorem run_closed {next : Link} {moves : List Move} (run : Run Move.Step link moves next)
    (sound : link.Sound fun _ => false) {move : Move} (member : move ∈ moves)
    (closes : move.call = .closeBus) : move.port.errors ∈ move.after.heap.closed := by
  have initially : ∃ shut, link.Sound shut := ⟨_,sound⟩
  obtain ⟨_,_,s,t,_,before,taken,_⟩ := run.cut_mem member
  obtain ⟨shut,sound⟩ := before.invariant (fun link => ∃ shut, link.Sound shut) initially
    fun s move t ⟨shut,sound⟩ step => ⟨_,step.sound sound⟩
  rw [taken.2.1,(taken.sound sound).closed,if_pos closes]
  simp

/-- A move that reads a channel is a call of `Errors`. -/
theorem Move.errorsRead_iff (move : Move) (reply : (link.call move.port move.call).2 = move.reply)
    (port : Port) (channel : Nat) : move.errorsRead port = some channel ↔
      move.port = port ∧ move.call = .errors ∧ channel = (link.endpoint port).errors := by
  unfold Move.errorsRead
  rw [← reply]
  split_ifs with same
  · subst same
    cases move.call <;> simp [Link.call,eq_comm]
  · simp [same]

/-- An endpoint keeps the errors contract exactly when it is not both read and closed. -/
theorem stable_iff {next : Link} {moves : List Move} (run : Run Move.Step link moves next)
    (sound : link.Sound fun _ => false) (port : Port) :
    Stable (Move.errorsRead port) Move.heapAfter moves ↔
      (∀ move ∈ moves, move.port = port → move.call ≠ .closeBus) ∨
        ∀ move ∈ moves, move.port = port → move.call ≠ .errors := by
  have reads : ∀ move ∈ moves, ∀ channel, move.errorsRead port = some channel ↔
      move.port = port ∧ move.call = .errors ∧ channel = port.errors := by
    intro move member channel
    obtain ⟨_,_,s,t,_,before,taken,_⟩ := run.cut_mem member
    obtain ⟨shut,sound⟩ := before.invariant (fun link => ∃ shut, link.Sound shut) ⟨_,sound⟩
      fun s move t ⟨shut,sound⟩ step => ⟨_,step.sound sound⟩
    have reply : (s.call move.port move.call).2 = move.reply := by rw [taken.2.2]
    rw [← (sound.endpoint port).errors]
    exact move.errorsRead_iff reply port channel
  constructor
  · intro stable
    by_contra both
    push Not at both
    obtain ⟨⟨close,closing,rfl,closes⟩,⟨call,calling,same,called⟩⟩ := both
    exact stable.live call calling _ ((reads call calling _).mpr ⟨same,called,rfl⟩) close closing
      (run_closed run sound closing closes)
  · intro either
    refine ⟨?_,?_⟩
    · rintro past first middle second later rfl channel other readFirst readSecond
      rw [((reads first (by simp) channel).mp readFirst).2.2,
        ((reads second (by simp) other).mp readSecond).2.2]
    · intro call calling channel read step member
      obtain ⟨same,called,rfl⟩ := (reads call calling channel).mp read
      rcases either with never | never
      · obtain ⟨past,later,s,t,rfl,before,taken,_⟩ := run.cut_mem member
        rw [Move.heapAfter,taken.2.1]
        exact run_open (before.snoc taken) sound fun move member => never move (by
          simp only [List.mem_append,List.mem_cons] at member ⊢
          tauto)
      · exact absurd called (never call calling same)

end link

end Canbuskit.Memory
