import Canbuskit.Lib.Mailroom
import Canbuskit.Lib.Runs
import Canbuskit.Can.Frame
import Mathlib.Algebra.Order.Ring.Int

/-! The receive fan-out of the hardware backends. A region under its lock is one step, and so is
each close of the loop with which `closeAll` ends after it has released the lock; the goroutine of
`newRxFanout`, publishers, subscribers and callers of `Close` take their steps in any order. -/
namespace Canbuskit.Fanout
open Can Channel Runs

inductive Stage where
  | source
  | subscriber
  deriving DecidableEq

structure ReceiveOverflowError where
  stage : Stage
  dropped : Nat
  deriving DecidableEq

structure Telemetry where
  errors : Chan ReceiveOverflowError
  sourceDropped : Nat
  subscriberDropped : Nat

namespace Telemetry

def report (t : Telemetry) (error : ReceiveOverflowError) : Telemetry :=
  { t with errors := (t.errors.offer error).getD t.errors }

def reportSourceDrop (t : Telemetry) : Telemetry :=
  { t with sourceDropped := t.sourceDropped + 1 }.report ⟨.source,t.sourceDropped + 1⟩

def reportSubscriberDrop (t : Telemetry) : Telemetry :=
  { t with subscriberDropped := t.subscriberDropped + 1 }.report ⟨.subscriber,t.subscriberDropped + 1⟩

@[simp] theorem reportSubscriberDrops_count (t : Telemetry) (count : Nat) :
    (reportSubscriberDrop^[count] t).subscriberDropped = t.subscriberDropped + count := by
  induction count generalizing t with
  | zero => rfl
  | succ count ih =>
    rw [Function.iterate_succ_apply,ih]
    show t.subscriberDropped + 1 + count = t.subscriberDropped + (count + 1)
    omega

@[simp] theorem reportSubscriberDrops_source (t : Telemetry) (count : Nat) :
    (reportSubscriberDrop^[count] t).sourceDropped = t.sourceDropped := by
  induction count generalizing t with
  | zero => rfl
  | succ count ih =>
    rw [Function.iterate_succ_apply,ih]
    rfl

end Telemetry

def newTelemetry : Telemetry := ⟨.make 16,0,0⟩

/-- The goroutine of `newRxFanout`: at its `select`, with a frame it has taken, about to call
`closeAll`, in the loop of a `closeAll` that it has marked, and returned. -/
inductive Worker where
  | selecting
  | dispatching (frame : Frame)
  | stopping
  | closing
  | done
  deriving DecidableEq

inductive Caller where
  | worker
  | close
  deriving DecidableEq

/-- The `closeAll` that has marked the fan-out, with the channels it has still to close. -/
structure Closing where
  caller : Caller
  subs : List Nat
  deriving DecidableEq

structure RxFanout extends Mailroom Frame where
  subs : List Nat
  closed : Bool
  telemetry : Telemetry
  worker : Worker
  closing : Option Closing
  source : Chan Frame
  sourceClosed : Bool
  cancelled : Bool

/-- The fan-out over an empty source channel. -/
def newRxFanout (capacity : Nat) (telemetry : Telemetry) : RxFanout where
  toMailroom := .empty
  subs := []
  closed := false
  telemetry := telemetry
  worker := .selecting
  closing := none
  source := .make capacity
  sourceClosed := false
  cancelled := false

/-- The case that the `select` of a publisher takes. A send is received by the goroutine of the
fan-out when that waits at its own `select`, and buffered otherwise. -/
inductive Select where
  | done
  | received
  | buffered
  | default
  deriving DecidableEq

inductive Action where
  | subscribe (buffer : Int)
  | unsubscribe (channel : Nat)
  | publish (frame : Frame) (select : Select)
  | take
  | dispatch
  | stop
  | closeAll (caller : Caller)
  | closeNext (channel : Nat)
  | closeReturn
  | receive (channel : Nat)
  | giveUp (channel : Nat)
  | readError
  | closeSource
  | cancel
  deriving DecidableEq

inductive Reply where
  | subscribed (channel : Nat)
  | published (accepted : Bool)
  | none
  deriving DecidableEq

namespace RxFanout

def subscribe (f : RxFanout) (buffer : Int) : RxFanout × Nat :=
  let (channel,room) := f.toMailroom.make buffer.toNat
  if f.closed then ({ f with toMailroom := room.close channel },channel)
  else ({ f with toMailroom := room, subs := channel :: f.subs },channel)

/-- Only the first call finds the channel among the subscribers. -/
def unsubscribe (f : RxFanout) (channel : Nat) : RxFanout :=
  if channel ∈ f.subs then
    { f with toMailroom := f.toMailroom.close channel, subs := f.subs.erase channel }
  else f

def dispatch (f : RxFanout) (frame : Frame) : RxFanout :=
  let (room,missed) := f.toMailroom.broadcast f.subs frame
  { f with toMailroom := room, telemetry := Telemetry.reportSubscriberDrop^[missed] f.telemetry }

/-- `closeAll` up to where it releases the lock. -/
def closeAll (f : RxFanout) (caller : Caller) : RxFanout :=
  if f.closed then f
  else { f with closed := true, subs := [], closing := some ⟨caller,f.subs⟩ }

def publishObservedRx (f : RxFanout) (frame : Frame) : Select → Option (RxFanout × Bool)
  | .done => if f.cancelled then some (f,false) else none
  | .received =>
    if f.worker = .selecting ∧ f.source.buffer = [] then
      some ({ f with worker := .dispatching frame },true)
    else none
  | .buffered => (f.source.offer frame).map fun source => ({ f with source := source },true)
  | .default =>
    if f.cancelled || (f.source.offer frame).isSome then none
    else some ({ f with telemetry := f.telemetry.reportSourceDrop },false)

def step (f : RxFanout) : Action → Option (RxFanout × Reply)
  | .subscribe buffer =>
    let (f,channel) := f.subscribe buffer
    some (f,.subscribed channel)
  | .unsubscribe channel => some (f.unsubscribe channel,.none)
  | .publish frame select =>
    if f.sourceClosed then none
    else (f.publishObservedRx frame select).map fun (f,accepted) => (f,.published accepted)
  | .take =>
    if f.worker = .selecting then
      f.source.poll.map fun (frame,source) =>
        ({ f with source := source, worker := .dispatching frame },.none)
    else none
  | .dispatch => match f.worker with
    | .dispatching frame => some ({ f.dispatch frame with worker := .selecting },.none)
    | _ => none
  | .stop =>
    if f.worker = .selecting ∧ (f.cancelled ∨ f.sourceClosed ∧ f.source.buffer = []) then
      some ({ f with worker := .stopping },.none)
    else none
  | .closeAll .worker =>
    if f.worker = .stopping then
      some ({ f.closeAll .worker with worker := if f.closed then .done else .closing },.none)
    else none
  | .closeAll .close => some (f.closeAll .close,.none)
  | .closeNext channel => match f.closing with
    | some ⟨caller,subs⟩ =>
      if channel ∈ subs then
        some ({ f with
          toMailroom := f.toMailroom.close channel
          closing := some ⟨caller,subs.erase channel⟩ },.none)
      else none
    | none => none
  | .closeReturn => match f.closing with
    | some ⟨.worker,[]⟩ => some ({ f with closing := none, worker := .done },.none)
    | some ⟨.close,[]⟩ => some ({ f with closing := none },.none)
    | _ => none
  | .receive channel =>
    if channel < f.heap.made then some ({ f with toMailroom := f.toMailroom.receive channel },.none)
    else none
  | .giveUp channel =>
    if 0 < (f.inbox channel).waiting then
      some ({ f with toMailroom := f.toMailroom.giveUp channel },.none)
    else none
  | .readError => f.telemetry.errors.poll.map fun (_,errors) =>
      ({ f with telemetry := { f.telemetry with errors := errors } },.none)
  | .closeSource => if f.sourceClosed then none else some ({ f with sourceClosed := true },.none)
  | .cancel => some ({ f with cancelled := true },.none)

end RxFanout

/-- An action with the states around it and its result. -/
structure Move where
  before : RxFanout
  action : Action
  reply : Reply
  after : RxFanout

def Move.Step (f : RxFanout) (move : Move) (g : RxFanout) : Prop :=
  move.before = f ∧ move.after = g ∧ f.step move.action = some (g,move.reply)

def Worker.held : Worker → List Frame
  | .dispatching frame => [frame]
  | _ => []

/-- The frame of a publisher that was told that it is accepted. -/
def Move.accepted (move : Move) : List Frame :=
  match move.action,move.reply with
  | .publish frame _,.published true => [frame]
  | _,_ => []

/-- A publisher was turned away, and not because the context was cancelled. -/
def Move.rejected (move : Move) : Bool :=
  match move.action,move.reply with
  | .publish _ _,.published false => !move.before.cancelled
  | _,_ => false

def Move.dispatched (move : Move) : List Frame :=
  if move.action = .dispatch then move.before.worker.held else []

/-- The channels that a dispatch offers its frame to. -/
def Move.sentOn (move : Move) : List Nat :=
  if move.action = .dispatch then move.before.subs else []

/-- How many subscribers did not get the frame of a dispatch. -/
def Move.missed (move : Move) : Nat :=
  (move.dispatched.map fun frame => move.before.subs.countP fun channel =>
    (move.after.inbox channel).content ≠ (move.before.inbox channel).content ++ [frame]).sum

/-- The frames accepted and not yet dispatched. -/
def RxFanout.underway (f : RxFanout) : List Frame := f.worker.held ++ f.source.buffer

def RxFanout.unclosed (f : RxFanout) : List Nat :=
  f.subs ++ match f.closing with
    | some closing => closing.subs
    | none => []

/-- Each channel is a subscriber, left to `closeAll`, or closed; and the goroutine leaves its loop
on cancellation, or when the source is closed and drained, to call `closeAll` itself. -/
structure RxFanout.Sound (f : RxFanout) : Prop where
  accounts : f.heap.Accounts f.unclosed
  unsubscribed : f.closed = true → f.subs = []
  marked : f.closing ≠ none → f.closed = true
  caller : ∀ subs, f.closing = some ⟨.worker,subs⟩ → f.worker = .closing
  left : f.worker = .stopping ∨ f.worker = .closing ∨ f.worker = .done →
    f.cancelled = true ∨ f.sourceClosed = true ∧ f.source.buffer = []

/-- What a step does that neither publishes nor takes nor dispatches a frame. -/
structure RxFanout.Quiet (f g : RxFanout) : Prop where
  sound : f.Sound → g.Sound
  made : f.heap.made ≤ g.heap.made
  content : ∀ channel < f.heap.made, (g.inbox channel).content = (f.inbox channel).content
  underway : g.underway = f.underway
  sourceDropped : g.telemetry.sourceDropped = f.telemetry.sourceDropped
  subscriberDropped : g.telemetry.subscriberDropped = f.telemetry.subscriberDropped
  ended : f.closed = true ∧ f.closing = none → g.closed = true ∧ g.closing = none

namespace RxFanout

variable (f : RxFanout)

theorem Quiet.refl : f.Quiet f :=
  ⟨id,Nat.le_refl _,fun _ _ => rfl,rfl,rfl,rfl,id⟩

theorem subscribe_quiet (buffer : Int) : f.Quiet (f.subscribe buffer).1 := by
  have other : ∀ channel < f.heap.made, ((f.make buffer.toNat).2.inbox channel).content =
      (f.inbox channel).content := fun channel made => by rw [f.make_other _ made]
  unfold subscribe
  dsimp only
  split_ifs with closed
  · refine ⟨?_,Nat.le_succ _,?_,rfl,rfl,rfl,id⟩
    · exact fun sound => ⟨sound.accounts.make.close,sound.unsubscribed,sound.marked,sound.caller,
        sound.left⟩
    · exact fun channel made => (Mailroom.close_content _ _ channel).trans (other channel made)
  · refine ⟨?_,Nat.le_succ _,other,rfl,rfl,rfl,id⟩
    exact fun sound => ⟨sound.accounts.make,fun shut => absurd shut closed,sound.marked,sound.caller,
      sound.left⟩

theorem unsubscribe_quiet (channel : Nat) : f.Quiet (f.unsubscribe channel) := by
  unfold unsubscribe
  split_ifs with known
  · refine ⟨?_,Nat.le_refl _,fun other _ => f.close_content channel other,rfl,rfl,rfl,id⟩
    intro sound
    refine ⟨?_,?_,sound.marked,sound.caller,sound.left⟩
    · exact (sound.accounts.perm ((List.perm_cons_erase known).append_right _)).close
    · intro closed
      rw [sound.unsubscribed closed] at known
      cases known
  · exact .refl f

theorem Sound.unclosed_of_open {f : RxFanout} (sound : f.Sound) (closed : ¬ f.closed = true) :
    f.heap.Accounts f.subs := by
  have idle : f.closing = none := by
    by_contra marked
    exact closed (sound.marked marked)
  simpa [unclosed,idle] using sound.accounts

theorem closeAll_quiet : f.Quiet (f.closeAll .close) := by
  unfold closeAll
  split_ifs with closed
  · exact .refl f
  · refine ⟨?_,Nat.le_refl _,fun _ _ => rfl,rfl,rfl,rfl,fun ended => absurd ended.1 closed⟩
    intro sound
    exact ⟨by simpa [unclosed] using sound.unclosed_of_open closed,fun _ => rfl,fun _ => rfl,by simp,
      sound.left⟩

theorem closeAll_worker_quiet (stopping : f.worker = .stopping) : f.Quiet
    { f.closeAll .worker with worker := if f.closed then .done else .closing } := by
  unfold closeAll
  split_ifs with closed
  · refine ⟨?_,Nat.le_refl _,fun _ _ => rfl,by simp [underway,stopping,Worker.held],rfl,rfl,id⟩
    intro sound
    refine ⟨sound.accounts,sound.unsubscribed,sound.marked,?_,fun _ => sound.left (.inl stopping)⟩
    intro subs closing
    cases stopping.symm.trans (sound.caller subs closing)
  · refine ⟨?_,Nat.le_refl _,fun _ _ => rfl,by simp [underway,stopping,Worker.held],rfl,rfl,
      fun ended => absurd ended.1 closed⟩
    intro sound
    exact ⟨by simpa [unclosed] using sound.unclosed_of_open closed,fun _ => rfl,fun _ => rfl,
      fun _ _ => rfl,fun _ => sound.left (.inl stopping)⟩

theorem closeNext_quiet {caller : Caller} {subs : List Nat} (closing : f.closing = some ⟨caller,subs⟩)
    {channel : Nat} (member : channel ∈ subs) : f.Quiet { f with
      toMailroom := f.toMailroom.close channel
      closing := some ⟨caller,subs.erase channel⟩ } := by
  refine ⟨?_,Nat.le_refl _,fun other _ => f.close_content channel other,rfl,rfl,rfl,by simp [closing]⟩
  intro sound
  refine ⟨?_,sound.unsubscribed,fun _ => sound.marked (by simp [closing]),?_,sound.left⟩
  · have accounts := sound.accounts
    simp only [unclosed,closing] at accounts ⊢
    exact Heap.Accounts.close (accounts.perm
      (((List.perm_cons_erase member).append_left f.subs).trans List.perm_middle))
  · intro rest same
    simp only [Option.some.injEq,Closing.mk.injEq] at same
    obtain ⟨rfl,-⟩ := same
    exact sound.caller subs closing

theorem closeReturn_quiet {caller : Caller} (closing : f.closing = some ⟨caller,[]⟩) (worker : Worker)
    (goes : worker = f.worker ∨ worker = .done ∧ f.worker = .closing) :
    f.Quiet { f with closing := none, worker := worker } := by
  refine ⟨?_,Nat.le_refl _,fun _ _ => rfl,?_,rfl,rfl,by simp [closing]⟩
  · intro sound
    refine ⟨by simpa [unclosed,closing] using sound.accounts,sound.unsubscribed,by simp,by simp,?_⟩
    rcases goes with rfl | ⟨-,looping⟩
    · exact sound.left
    · exact fun _ => sound.left (.inr (.inl looping))
  · rcases goes with rfl | ⟨rfl,looping⟩
    · rfl
    · simp [underway,looping,Worker.held]

theorem stop_quiet (selecting : f.worker = .selecting)
    (stops : f.cancelled = true ∨ f.sourceClosed = true ∧ f.source.buffer = []) :
    f.Quiet { f with worker := .stopping } := by
  refine ⟨?_,Nat.le_refl _,fun _ _ => rfl,by simp [underway,selecting,Worker.held],rfl,rfl,id⟩
  intro sound
  refine ⟨sound.accounts,sound.unsubscribed,sound.marked,?_,fun _ => stops⟩
  intro subs closing
  cases selecting.symm.trans (sound.caller subs closing)

variable {f} {g : RxFanout} {action : Action} {reply : Reply}

theorem step_quiet (sound : f.Sound) (taken : f.step action = some (g,reply))
    (unpublished : ∀ frame select, action ≠ .publish frame select) (untaken : action ≠ .take)
    (undispatched : action ≠ .dispatch) : f.Quiet g := by
  cases action with
  | publish frame select => exact absurd rfl (unpublished frame select)
  | take => contradiction
  | dispatch => contradiction
  | subscribe buffer =>
    cases taken
    exact f.subscribe_quiet buffer
  | unsubscribe channel =>
    cases taken
    exact f.unsubscribe_quiet channel
  | stop =>
    simp only [step] at taken
    split_ifs at taken with stops
    cases taken
    exact f.stop_quiet stops.1 stops.2
  | closeAll caller =>
    cases caller with
    | worker =>
      by_cases stopping : f.worker = .stopping
      · rw [step,if_pos stopping] at taken
        cases taken
        exact f.closeAll_worker_quiet stopping
      · rw [step,if_neg stopping] at taken
        contradiction
    | close =>
      cases taken
      exact f.closeAll_quiet
  | closeNext channel =>
    simp only [step] at taken
    split at taken
    · rename_i caller subs closing
      split_ifs at taken with member
      cases taken
      exact f.closeNext_quiet closing member
    · contradiction
  | closeReturn =>
    simp only [step] at taken
    split at taken
    · rename_i closing
      cases taken
      exact f.closeReturn_quiet closing .done (.inr ⟨rfl,sound.caller [] closing⟩)
    · rename_i closing
      cases taken
      exact f.closeReturn_quiet closing f.worker (.inl rfl)
    · contradiction
  | receive channel =>
    simp only [step] at taken
    split_ifs at taken
    cases taken
    exact ⟨fun sound => ⟨sound.accounts,sound.unsubscribed,sound.marked,sound.caller,sound.left⟩,
      Nat.le_refl _,fun other _ => f.receive_content channel other,rfl,rfl,rfl,id⟩
  | giveUp channel =>
    simp only [step] at taken
    split_ifs at taken
    cases taken
    exact ⟨fun sound => ⟨sound.accounts,sound.unsubscribed,sound.marked,sound.caller,sound.left⟩,
      Nat.le_refl _,fun other _ => f.giveUp_content channel other,rfl,rfl,rfl,id⟩
  | readError =>
    obtain ⟨_,_,same⟩ := Option.map_eq_some_iff.mp taken
    cases same
    exact ⟨fun sound => ⟨sound.accounts,sound.unsubscribed,sound.marked,sound.caller,sound.left⟩,
      Nat.le_refl _,fun _ _ => rfl,rfl,rfl,rfl,id⟩
  | closeSource =>
    simp only [step] at taken
    split_ifs at taken with shut
    cases taken
    refine ⟨?_,Nat.le_refl _,fun _ _ => rfl,rfl,rfl,rfl,id⟩
    intro sound
    refine ⟨sound.accounts,sound.unsubscribed,sound.marked,sound.caller,?_⟩
    exact fun left => (sound.left left).imp_right fun drained => ⟨rfl,drained.2⟩
  | cancel =>
    cases taken
    exact ⟨fun sound => ⟨sound.accounts,sound.unsubscribed,sound.marked,sound.caller,fun _ => .inl rfl⟩,
      Nat.le_refl _,fun _ _ => rfl,rfl,rfl,rfl,id⟩

end RxFanout

/-- What a move does to the channels, the frames underway and the counters. -/
structure Move.Effect (move : Move) : Prop where
  sound : move.after.Sound
  made : move.before.heap.made ≤ move.after.heap.made
  content : ∀ channel < move.before.heap.made, ∃ gained,
    (move.after.inbox channel).content = (move.before.inbox channel).content ++ gained ∧
      gained.Sublist move.dispatched
  underway : move.before.underway ++ move.accepted = move.dispatched ++ move.after.underway
  sourceDropped : move.after.telemetry.sourceDropped =
    move.before.telemetry.sourceDropped + if move.rejected then 1 else 0
  subscriberDropped : move.after.telemetry.subscriberDropped =
    move.before.telemetry.subscriberDropped + move.missed
  ended : move.before.closed = true ∧ move.before.closing = none →
    move.after.closed = true ∧ move.after.closing = none

section moves

variable {f g : RxFanout} {reply : Reply}

theorem quiet_effect {action : Action} (sound : f.Sound) (quiet : f.Quiet g)
    (unpublished : ∀ frame select, action ≠ .publish frame select) (undispatched : action ≠ .dispatch) :
    Move.Effect ⟨f,action,reply,g⟩ := by
  have dispatched : Move.dispatched ⟨f,action,reply,g⟩ = [] := if_neg undispatched
  have accepted : Move.accepted ⟨f,action,reply,g⟩ = [] := by
    unfold Move.accepted
    split
    · rename_i same _
      exact absurd same (unpublished _ _)
    · rfl
  have rejected : Move.rejected ⟨f,action,reply,g⟩ = false := by
    unfold Move.rejected
    split
    · rename_i same _
      exact absurd same (unpublished _ _)
    · rfl
  refine ⟨quiet.sound sound,quiet.made,?_,?_,?_,?_,quiet.ended⟩
  · intro channel made
    exact ⟨[],(quiet.content channel made).trans (List.append_nil _).symm,List.nil_sublist _⟩
  · rw [dispatched,accepted,quiet.underway,List.append_nil,List.nil_append]
  · rw [rejected,quiet.sourceDropped]
    rfl
  · rw [Move.missed,dispatched,quiet.subscriberDropped]
    rfl

theorem publish_effect {frame : Frame} {select : Select} (sound : f.Sound)
    (taken : f.step (.publish frame select) = some (g,reply)) :
    Move.Effect ⟨f,.publish frame select,reply,g⟩ := by
  simp only [RxFanout.step] at taken
  split_ifs at taken with shut
  obtain ⟨⟨_,accepted⟩,published,same⟩ := Option.map_eq_some_iff.mp taken
  cases same
  have kept : ∀ channel < f.heap.made, ∃ gained,
      (f.inbox channel).content = (f.inbox channel).content ++ gained ∧ gained.Sublist [] :=
    fun channel _ => ⟨[],(List.append_nil _).symm,.refl _⟩
  cases select with
  | done =>
    simp only [RxFanout.publishObservedRx] at published
    split_ifs at published with cancelled
    cases published
    refine ⟨sound,Nat.le_refl _,kept,?_,?_,rfl,id⟩
    · simp [Move.accepted,Move.dispatched]
    · simp [Move.rejected,cancelled]
  | received =>
    simp only [RxFanout.publishObservedRx] at published
    split_ifs at published with waiting
    cases published
    refine ⟨⟨sound.accounts,sound.unsubscribed,sound.marked,?_,by simp⟩,Nat.le_refl _,kept,?_,rfl,rfl,id⟩
    · intro subs closing
      cases waiting.1.symm.trans (sound.caller subs closing)
    · simp [RxFanout.underway,Move.accepted,Move.dispatched,Worker.held,waiting]
  | buffered =>
    obtain ⟨source,sent,same⟩ := Option.map_eq_some_iff.mp published
    cases same
    refine ⟨⟨sound.accounts,sound.unsubscribed,sound.marked,sound.caller,?_⟩,Nat.le_refl _,kept,?_,rfl,rfl,
      id⟩
    · intro left
      rcases sound.left left with cancelled | drained
      · exact .inl cancelled
      · exact absurd drained.1 shut
    · simp [RxFanout.underway,Move.accepted,Move.dispatched,(Chan.offer_some sent).1]
  | default =>
    simp only [RxFanout.publishObservedRx] at published
    split_ifs at published with ready
    cases published
    refine ⟨⟨sound.accounts,sound.unsubscribed,sound.marked,sound.caller,sound.left⟩,Nat.le_refl _,kept,
      ?_,?_,rfl,id⟩
    · simp [RxFanout.underway,Move.accepted,Move.dispatched]
    · simp only [Bool.or_eq_true,not_or,Bool.not_eq_true] at ready
      simp [Move.rejected,ready.1,Telemetry.reportSourceDrop,Telemetry.report]

theorem take_effect (sound : f.Sound) (taken : f.step .take = some (g,reply)) :
    Move.Effect ⟨f,.take,reply,g⟩ := by
  simp only [RxFanout.step] at taken
  split_ifs at taken with selecting
  obtain ⟨⟨frame,source⟩,polled,same⟩ := Option.map_eq_some_iff.mp taken
  cases same
  refine ⟨⟨sound.accounts,sound.unsubscribed,sound.marked,?_,by simp⟩,Nat.le_refl _,?_,?_,rfl,rfl,id⟩
  · intro subs closing
    cases selecting.symm.trans (sound.caller subs closing)
  · exact fun channel _ => ⟨[],(List.append_nil _).symm,List.nil_sublist _⟩
  · simp [RxFanout.underway,Move.accepted,Move.dispatched,Worker.held,selecting,(Chan.poll_some polled).1]

theorem RxFanout.Sound.distinct (sound : f.Sound) : f.subs.Nodup :=
  (List.nodup_append.mp sound.accounts.live_nodup).1

theorem dispatch_effect (sound : f.Sound) (taken : f.step .dispatch = some (g,reply)) :
    Move.Effect ⟨f,.dispatch,reply,g⟩ := by
  simp only [RxFanout.step] at taken
  split at taken
  · rename_i frame holding
    cases taken
    have heap : (f.broadcast f.subs frame).1.heap = f.heap := f.broadcast_heap f.subs
    have dispatched : ∀ after reply, Move.dispatched ⟨f,.dispatch,reply,after⟩ = [frame] := by
      simp [Move.dispatched,Worker.held,holding]
    refine ⟨⟨?_,sound.unsubscribed,sound.marked,?_,by simp⟩,heap.symm ▸ Nat.le_refl _,?_,?_,?_,?_,id⟩
    · have accounts := sound.accounts
      rw [← heap] at accounts
      exact accounts
    · intro subs closing
      cases holding.symm.trans (sound.caller subs closing)
    · intro channel _
      rw [dispatched]
      exact f.broadcast_gains sound.distinct channel
    · rw [dispatched]
      simp [RxFanout.underway,RxFanout.dispatch,Move.accepted,Worker.held,holding]
    · exact Telemetry.reportSubscriberDrops_source _ _
    · have counted : (f.broadcast f.subs frame).2 = _ := f.broadcast_missed sound.distinct
      rw [Move.missed,dispatched,List.map_singleton,List.sum_singleton]
      exact (Telemetry.reportSubscriberDrops_count _ _).trans (congrArg _ counted)
  · contradiction

/-- What one move does. -/
theorem step_effect {move : Move} (sound : f.Sound) (step : move.Step f g) : move.Effect := by
  obtain ⟨before,action,reply,after⟩ := move
  obtain ⟨rfl,rfl,taken⟩ := step
  by_cases publishes : ∃ frame select, action = .publish frame select
  · obtain ⟨frame,select,rfl⟩ := publishes
    exact publish_effect sound taken
  by_cases takes : action = .take
  · subst takes
    exact take_effect sound taken
  by_cases dispatches : action = .dispatch
  · subst dispatches
    exact dispatch_effect sound taken
  have unpublished : ∀ frame select, action ≠ .publish frame select :=
    fun frame select same => publishes ⟨frame,select,same⟩
  exact quiet_effect sound (RxFanout.step_quiet sound taken unpublished takes dispatches) unpublished
    dispatches

theorem run_sound {moves : List Move} (run : Run Move.Step f moves g) (sound : f.Sound) : g.Sound :=
  run.invariant RxFanout.Sound sound fun _ _ _ sound step => step.2.1 ▸ (step_effect sound step).sound

/-- Each move of a run, with what it does. -/
theorem run_effect {moves : List Move} (run : Run Move.Step f moves g) (sound : f.Sound) {move : Move}
    (member : move ∈ moves) : move.before.Sound ∧ move.Effect := by
  obtain ⟨_,_,s,t,_,earlier,step,_⟩ := run.cut_mem member
  have before := run_sound earlier sound
  exact ⟨step.1 ▸ before,step_effect before step⟩

theorem run_underway {moves : List Move} (run : Run Move.Step f moves g) (sound : f.Sound) :
    f.underway ++ moves.flatMap Move.accepted = moves.flatMap Move.dispatched ++ g.underway := by
  refine run.history (fun past s =>
    f.underway ++ past.flatMap Move.accepted = past.flatMap Move.dispatched ++ s.underway) (by simp) ?_
  intro past s move t before flows step
  have effect := step_effect (run_sound before sound) step
  obtain ⟨rfl,rfl,-⟩ := step
  simp only [List.flatMap_append,List.flatMap_singleton]
  rw [← List.append_assoc,flows,List.append_assoc,effect.underway,List.append_assoc]

/-- A channel gains, in their order, some of the frames dispatched. -/
theorem run_content {moves : List Move} (run : Run Move.Step f moves g) (sound : f.Sound)
    {channel : Nat} (made : channel < f.heap.made) :
    ∃ gained, (g.inbox channel).content = (f.inbox channel).content ++ gained ∧
      gained.Sublist (moves.flatMap Move.dispatched) := by
  have kept : channel < g.heap.made ∧ ∃ gained,
      (g.inbox channel).content = (f.inbox channel).content ++ gained ∧
        gained.Sublist (moves.flatMap Move.dispatched) := by
    refine run.history (fun past s => channel < s.heap.made ∧ ∃ gained,
      (s.inbox channel).content = (f.inbox channel).content ++ gained ∧
        gained.Sublist (past.flatMap Move.dispatched))
      ⟨made,[],(List.append_nil _).symm,.refl _⟩ ?_
    rintro past s move t before ⟨made,earlier,content,sent⟩ step
    have effect := step_effect (run_sound before sound) step
    obtain ⟨rfl,rfl,-⟩ := step
    obtain ⟨new,gains,sends⟩ := effect.content channel made
    refine ⟨Nat.lt_of_lt_of_le made effect.made,earlier ++ new,?_,?_⟩
    · rw [gains,content,List.append_assoc]
    · simpa using sent.append sends
  exact kept.2

theorem run_ended {moves : List Move} (run : Run Move.Step f moves g) (sound : f.Sound)
    (ended : f.closed = true ∧ f.closing = none) : g.closed = true ∧ g.closing = none := by
  have both : g.Sound ∧ g.closed = true ∧ g.closing = none := by
    refine run.invariant (fun s => s.Sound ∧ s.closed = true ∧ s.closing = none) ⟨sound,ended⟩ ?_
    rintro s move t ⟨sound,ended⟩ step
    have effect := step_effect sound step
    obtain ⟨rfl,rfl,-⟩ := step
    exact ⟨effect.sound,effect.ended ended⟩
  exact both.2

theorem return_ended {move : Move} (step : move.Step f g) (sound : f.Sound)
    (returns : move.action = .closeReturn) : g.closed = true ∧ g.closing = none := by
  obtain ⟨before,action,reply,after⟩ := move
  obtain ⟨rfl,rfl,taken⟩ := step
  obtain rfl : action = .closeReturn := returns
  simp only [RxFanout.step] at taken
  split at taken
  · rename_i closing
    cases taken
    exact ⟨sound.marked (by simp [closing]),rfl⟩
  · rename_i closing
    cases taken
    exact ⟨sound.marked (by simp [closing]),rfl⟩
  · contradiction

theorem ended_closed (sound : f.Sound) (ended : f.closed = true ∧ f.closing = none) {channel : Nat}
    (made : channel < f.heap.made) : channel ∈ f.heap.closed := by
  rcases sound.accounts.made_iff.mp made with live | closed
  · simp [RxFanout.unclosed,sound.unsubscribed ended.1,ended.2] at live
  · exact closed

theorem subscribed_new {buffer : Int} {channel : Nat}
    (taken : f.step (.subscribe buffer) = some (g,.subscribed channel)) :
    channel < g.heap.made ∧ (g.inbox channel).content = [] := by
  simp only [RxFanout.step,Option.some.injEq,Prod.mk.injEq,Reply.subscribed.injEq] at taken
  obtain ⟨rfl,rfl⟩ := taken
  unfold RxFanout.subscribe
  dsimp only
  split_ifs
  · exact ⟨Nat.lt_succ_self _,(Mailroom.close_content _ _ _).trans (Mailroom.make_content _ _)⟩
  · exact ⟨Nat.lt_succ_self _,Mailroom.make_content _ _⟩

theorem run_made {moves : List Move} (run : Run Move.Step f moves g) (sound : f.Sound) :
    f.heap.made ≤ g.heap.made := by
  have both : g.Sound ∧ f.heap.made ≤ g.heap.made := by
    refine run.invariant (fun s => s.Sound ∧ f.heap.made ≤ s.heap.made) ⟨sound,Nat.le_refl _⟩ ?_
    rintro s move t ⟨sound,grown⟩ step
    have effect := step_effect sound step
    obtain ⟨rfl,rfl,-⟩ := step
    exact ⟨effect.sound,Nat.le_trans grown effect.made⟩
  exact both.2

theorem subscription_content {past later : List Move} {before after : RxFanout} {buffer : Int}
    {channel : Nat} (sound : f.Sound)
    (run : Run Move.Step f (past ++ ⟨before,.subscribe buffer,.subscribed channel,after⟩ :: later) g) :
    channel < g.heap.made ∧ ((g.inbox channel).received ++ (g.inbox channel).chan.buffer).Sublist
      (later.flatMap Move.dispatched) := by
  obtain ⟨s,t,earlier,step,rest⟩ := run.cut
  have subscribed := (step_effect (run_sound earlier sound) step).sound
  obtain ⟨rfl,rfl,taken⟩ := step
  obtain ⟨made,empty⟩ := subscribed_new taken
  obtain ⟨gained,content,sent⟩ := run_content rest subscribed made
  refine ⟨Nat.lt_of_lt_of_le made (run_made rest subscribed),?_⟩
  rw [empty,List.nil_append,Inbox.content] at content
  rw [content]
  exact sent

end moves

theorem newRxFanout_sound (capacity : Nat) (telemetry : Telemetry) :
    (newRxFanout capacity telemetry).Sound :=
  ⟨.refl _,by simp [newRxFanout],by simp [newRxFanout],by simp [newRxFanout],by simp [newRxFanout]⟩

/-- Losses are counted at both stages, and channels are closed once and not sent on afterwards. -/
theorem fanout_accounted {capacity : Nat} {telemetry : Telemetry} {moves : List Move} {f : RxFanout}
    (run : Run Move.Step (newRxFanout capacity telemetry) moves f) :
    ((∀ move ∈ moves, ∀ channel ∈ move.sentOn, channel ∉ move.before.heap.closed) ∧
      f.heap.closed.Nodup) ∧
    ((∃ move ∈ moves, move.action = .closeReturn) → ∀ before buffer channel after,
      ⟨before,.subscribe buffer,.subscribed channel,after⟩ ∈ moves → channel ∈ f.heap.closed) ∧
    (moves.flatMap Move.accepted = moves.flatMap Move.dispatched ++ f.worker.held ++ f.source.buffer ∧
      (f.worker = .done → f.cancelled = false →
        moves.flatMap Move.dispatched = moves.flatMap Move.accepted)) ∧
    (∀ move ∈ moves, move.after.telemetry.sourceDropped =
      move.before.telemetry.sourceDropped + if move.rejected then 1 else 0) ∧
    (∀ past before buffer channel after later,
      moves = past ++ ⟨before,.subscribe buffer,.subscribed channel,after⟩ :: later →
      ((f.inbox channel).received ++ (f.inbox channel).chan.buffer).Sublist
        (later.flatMap Move.dispatched)) ∧
    ∀ move ∈ moves, move.after.telemetry.subscriberDropped =
      move.before.telemetry.subscriberDropped + move.missed := by
  have start := newRxFanout_sound capacity telemetry
  have sound := run_sound run start
  have flows : moves.flatMap Move.accepted = moves.flatMap Move.dispatched ++ f.underway :=
    run_underway run start
  refine ⟨⟨?_,sound.accounts.closed_nodup⟩,?_,⟨?_,?_⟩,?_,?_,?_⟩
  · intro move member channel sent
    unfold Move.sentOn at sent
    split_ifs at sent
    · exact (run_effect run start member).1.accounts.open_of_live (List.mem_append_left _ sent)
    · cases sent
  · rintro ⟨returned,member,returns⟩ before buffer channel after handed
    obtain ⟨_,_,s,t,_,earlier,step,rest⟩ := run.cut_mem member
    have returning := run_sound earlier start
    have after := (step_effect returning step).sound
    obtain ⟨rfl,rfl,-⟩ := id step
    have ended := run_ended rest after (return_ended step returning returns)
    obtain ⟨past,later,rfl⟩ := List.append_of_mem handed
    exact ended_closed sound ended (subscription_content start run).1
  · rw [flows,List.append_assoc]
    rfl
  · intro done live
    rcases sound.left (.inr (.inr done)) with cancelled | drained
    · cases live.symm.trans cancelled
    · simp [flows,RxFanout.underway,done,drained.2,Worker.held]
  · exact fun move member => (run_effect run start member).2.sourceDropped
  · rintro past before buffer channel after later rfl
    exact (subscription_content start run).2
  · exact fun move member => (run_effect run start member).2.subscriberDropped

def RxFanout.react (f : RxFanout) (action : Action) : Option (Move × RxFanout) :=
  (f.step action).map fun (g,reply) => (⟨f,action,reply,g⟩,g)

theorem react_step (f : RxFanout) (action : Action) (move : Move) (g : RxFanout)
    (taken : f.react action = some (move,g)) : move.Step f g := by
  obtain ⟨⟨_,reply⟩,stepped,same⟩ := Option.map_eq_some_iff.mp taken
  cases same
  exact ⟨rfl,rfl,stepped⟩

/-- A source of one frame, a subscriber with a buffer of one frame and one without a buffer that
waits once. One publisher is turned away; the first frame reaches both and the second none. Then
`Close` marks the fan-out before the goroutine stops, with an unsubscription and two late
subscriptions around it. -/
theorem fanout_accounted_losses :
    ∃ moves f, Run Move.Step (newRxFanout 1 newTelemetry) moves f ∧
      f.telemetry.sourceDropped = 1 ∧ f.telemetry.subscriberDropped = 2 ∧ f.worker = .done ∧
      (moves.flatMap Move.dispatched).map Frame.id = [1,3] ∧
      moves.flatMap Move.accepted =
        moves.flatMap Move.dispatched ++ f.worker.held ++ f.source.buffer ∧
      f.heap.closed = [1,2,3,0] ∧ f.heap.closed.Nodup := by
  let frame : UInt32 → Frame := fun id => ⟨.receive,id,0,Vector.replicate 64 0,false,false,false,0⟩
  let actions : List Action := [.subscribe 1,.subscribe (-1),.receive 1,.publish (frame 1) .buffered,
    .publish (frame 2) .default,.take,.dispatch,.publish (frame 3) .received,.dispatch,.unsubscribe 0,
    .unsubscribe 0,.subscribe 2,.closeAll .close,.subscribe 1,.closeNext 2,.cancel,.stop,
    .closeAll .worker,.closeNext 1,.closeReturn]
  have executed : (execute RxFanout.react (newRxFanout 1 newTelemetry) actions).map (fun result =>
      (result.2.telemetry.sourceDropped,result.2.telemetry.subscriberDropped,result.2.worker,
        (result.1.flatMap Move.dispatched).map Frame.id,result.2.heap.closed)) =
      some (1,2,.done,[1,3],[1,2,3,0]) := by
    decide +kernel
  obtain ⟨⟨moves,f⟩,executed,observed⟩ := Option.map_eq_some_iff.mp executed
  simp only [Prod.mk.injEq] at observed
  obtain ⟨source,subscriber,done,dispatched,closed⟩ := observed
  have run := execute_run react_step executed
  obtain ⟨⟨_,once⟩,_,⟨flows,_⟩,_⟩ := fanout_accounted run
  exact ⟨moves,f,run,source,subscriber,done,dispatched,flows,closed,once⟩

end Canbuskit.Fanout
