import Canbuskit.Lib.Sections
import Canbuskit.Driver.Decoders
import Canbuskit.Driver.Device

/-! What the vendor backends share: the fields that a session sets up and takes down, the steps that
do it under `opMu`, and the calls that reach outside, to the vendor library and to the runtime. The
read goroutine counts as ended when its deferred function has put `running` back. -/
namespace Canbuskit.Driver
open Can Channel Sections

variable {Own Vendor Reply Session Value : Type}

/-- `ctx` is nil or says whether it is cancelled, and `rxChan` is nil or a channel. -/
structure Backend (Own : Type) where
  cfg : BusConfig
  ctx : Option Bool
  rxChan : Option Nat
  made : Nat
  fanout : Bool
  initialized : Bool
  own : Own

/-- Calls of the vendor library, with whether the procedure is there, and those of the runtime that
panic or block for good where they are out of place: on the receive channel, and the wait for the
fanout. -/
inductive BackendCall (Vendor : Type) where
  | vendor (present : Bool) (name : Vendor)
  | make (channel : Nat)
  | send (channel : Nat) (frame : Frame)
  | close (channel : Option Nat)
  | joinFanout (present : Bool) (ctx : Option Bool)

/-- What is outside a backend: what the vendor has open for it, and its channels. -/
structure Outside (Session : Type) where
  session : Session
  heap : Heap

/-- `serve` is the vendor's part. A fanout ends once its context is cancelled. -/
def Outside.accept (serve : Accept Session Vendor Reply) :
    Accept (Outside Session) (BackendCall Vendor) Reply := fun out call reply =>
  match call with
  | .vendor present name =>
    if present then (serve out.session name reply).map fun session => { out with session := session }
    else none
  | .make channel =>
    if channel = out.heap.made then some { out with heap := out.heap.make.2 } else none
  | .send channel _ =>
    if channel < out.heap.made ∧ channel ∉ out.heap.closed then some out else none
  | .close none => none
  | .close (some channel) =>
    if channel < out.heap.made ∧ channel ∉ out.heap.closed then
      some { out with heap := out.heap.close channel }
    else none
  | .joinFanout present ctx => if present = true ∧ ctx = some true then some out else none

abbrev BackendProgram (Own Vendor Reply Value : Type) :=
  Program (Backend Own) (BackendCall Vendor) Reply Value

namespace Backend

open Program

/-- The names that the library of a vendor exports. -/
abbrev Exports := String → Bool

def Exports.Has (exports : Exports) (procedures : List String) : Prop :=
  ∀ name ∈ procedures, exports name = true

theorem Exports.Has.call {exports : Exports} {procedures : List String} (complete : exports.Has procedures)
    {loaded : Bool} (there : loaded = true) {name : String} (member : name ∈ procedures) :
    (loaded && exports name) = true := by
  simp [there,complete name member]

def new (cfg : BusConfig) (own : Own) : Backend Own := ⟨cfg,none,none,0,false,false,own⟩

def setOwn (act : Own → Own) (s : Backend Own) : Backend Own := { s with own := act s.own }

/-- Calling a procedure that is nil, or that the library does not export, panics. -/
def callVendor (present : Own → Bool) (name : Vendor) : BackendProgram Own Vendor Reply Reply := do
  let s ← read
  request (.vendor (present s.own) name)

/-- The first of the candidates that loads, or what each of them failed with. -/
def loadFrom (load : String → Vendor) (failure : Reply → Option String) (found : Own → Own)
    (errs : List String) : List String → BackendProgram Own Vendor Reply (Except (List String) Unit)
  | [] => pure (.error errs)
  | dllPath :: candidates => do
    let reply ← callVendor (fun _ => true) (load dllPath)
    match failure reply with
    | some err => loadFrom load failure found (errs ++ [dllPath ++ ": " ++ err]) candidates
    | none => do
      write (setOwn found)
      pure (.ok ())

/-- The context, the receive channel and the fanout that `initialize` makes. -/
def openReceive : BackendProgram Own Vendor Reply Unit := do
  write fun s => { s with ctx := some false }
  let s ← read
  let _ ← request (.make s.made)
  write fun s => { s with rxChan := some s.made, made := s.made + 1 }
  write fun s => { s with fanout := true }

def cancel : BackendProgram Own Vendor Reply Unit :=
  write fun s => { s with ctx := s.ctx.map fun _ => true }

def closeFanout : BackendProgram Own Vendor Reply Unit := do
  let s ← read
  if s.fanout then do
    let _ ← request (.joinFanout s.fanout s.ctx)
    write fun s => { s with fanout := false }
  else pure ()

def closeRx : BackendProgram Own Vendor Reply Unit := do
  let s ← read
  match s.rxChan with
  | none => pure ()
  | some channel => do
    let _ ← request (.close (some channel))
    write fun s => { s with rxChan := none }

def markInitialized : BackendProgram Own Vendor Reply Unit :=
  write fun s => { s with initialized := true }

def startLoop : BackendProgram Own Vendor Reply Bool := do
  let s ← read
  if s.initialized then start else pure false

def cancelAndWait : BackendProgram Own Vendor Reply Bool := do
  let wasInitialized ← .update (fun s => { s with initialized := false }) fun s => pure s.initialized
  cancel
  wait
  pure wasInitialized

/-- Where a read loop is, with the frames that it has converted and not yet published. -/
inductive ReadPlace where
  | selecting
  | reading
  | publishing (frames : List Frame)
  deriving DecidableEq

inductive ReadChoice (Reply : Type) where
  | leave
  | tick
  | read (reply : Reply)
  | publish (sent : Bool)

/-- The select of a read loop, and `publishObservedRx` for its frames: a frame is dropped when the
context is done or there is no room. `receive` is the call that it reads with, and what it makes of
the answer. -/
def readStep [Inhabited Reply] (present : Own → Bool) (receive : Backend Own → Vendor)
    (handle : Backend Own → Reply → ReadPlace) (published : ReadPlace) (s : Backend Own) :
    ReadPlace → ReadChoice Reply → Option (Option (BackendCall Vendor × Reply) × Option ReadPlace)
  | .selecting, .leave => if s.ctx = some true then some (none,none) else none
  | .selecting, .tick => some (none,some .reading)
  | .reading, .read reply => some (some (.vendor (present s.own) (receive s),reply),some (handle s reply))
  | .publishing [], .publish _ => some (none,some published)
  | .publishing (_ :: frames), .publish false => some (none,some (.publishing frames))
  | .publishing (frame :: frames), .publish true => s.rxChan.map fun channel =>
    (some (.send channel frame,default),some (.publishing frames))
  | _, _ => none

/-- The channels made for the device are closed, but for the one in `rxChan`. -/
structure Receives (s : Backend Own) (heap : Heap) : Prop where
  made : heap.made = s.made
  accounts : heap.Accounts s.rxChan.toList

theorem Receives.open {s : Backend Own} {heap : Heap} (receives : s.Receives heap) {channel : Nat}
    (holds : s.rxChan = some channel) : channel < heap.made ∧ channel ∉ heap.closed := by
  have accounts := receives.accounts
  rw [holds] at accounts
  exact ⟨accounts.made_iff.mpr (.inl (by simp)),accounts.open_of_live (by simp)⟩

theorem Receives.makes {s t : Backend Own} {heap : Heap} (receives : s.Receives heap)
    (without : s.rxChan = none) (made : t.made = s.made + 1) (holds : t.rxChan = some s.made) :
    t.Receives heap.make.2 := by
  have accounts := receives.accounts
  rw [without] at accounts
  refine ⟨?_,?_⟩
  · rw [made,← receives.made]
    rfl
  · rw [holds,← receives.made]
    exact accounts.make

theorem Receives.closes {s t : Backend Own} {heap : Heap} (receives : s.Receives heap) {channel : Nat}
    (holds : s.rxChan = some channel) (made : t.made = s.made) (closed : t.rxChan = none) :
    t.Receives (heap.close channel) := by
  have accounts := receives.accounts
  rw [holds] at accounts
  refine ⟨?_,?_⟩
  · rw [made,← receives.made]
    rfl
  · rw [closed]
    exact accounts.close

theorem Receives.same {s t : Backend Own} {heap : Heap} (receives : s.Receives heap)
    (made : t.made = s.made) (rxChan : t.rxChan = s.rxChan) : t.Receives heap :=
  ⟨receives.made.trans made.symm,by rw [rxChan]; exact receives.accounts⟩

section specs

variable {serve : Accept Session Vendor Reply} {live idle : Own → Session → Prop}

/-- The read loop relies on the session, on the receive channel and on the context. -/
def Up (live : Own → Session → Prop) (s : Backend Own) (out : Outside Session) : Prop :=
  s.Receives out.heap ∧ live s.own out.session ∧ s.rxChan.isSome ∧ s.ctx.isSome

/-- How the programs find the backend and leave it. -/
def Rested (live idle : Own → Session → Prop) (s : Backend Own) (out : Outside Session) : Prop :=
  s.Receives out.heap ∧
    if s.initialized then live s.own out.session ∧ s.rxChan.isSome ∧ s.fanout ∧ s.ctx = some false
    else idle s.own out.session ∧ s.rxChan = none ∧ s.fanout = false

def rules (serve : Accept Session Vendor Reply) (live : Own → Session → Prop) :
    Rules (Backend Own) (Outside Session) (BackendCall Vendor) Reply :=
  ⟨Outside.accept serve,Up live,fun s => s.ctx = some true⟩

theorem Rested.up {s : Backend Own} {out : Outside Session} (rested : Rested live idle s out)
    (initialized : s.initialized = true) : Up live s out := by
  obtain ⟨receives,rest⟩ := rested
  rw [if_pos initialized] at rest
  obtain ⟨live,rxChan,_,ctx⟩ := rest
  exact ⟨receives,live,rxChan,by simp [ctx]⟩

theorem Rested.down {s : Backend Own} {out : Outside Session} (rested : Rested live idle s out)
    (stopped : s.initialized = false) :
    s.Receives out.heap ∧ idle s.own out.session ∧ s.rxChan = none ∧ s.fanout = false := by
  obtain ⟨receives,rest⟩ := rested
  rw [if_neg (by simp [stopped])] at rest
  exact ⟨receives,rest⟩

theorem Rested.found {s : Backend Own} {out : Outside Session} (rested : Rested live idle s out) :
    if s.initialized then live s.own out.session else idle s.own out.session := by
  obtain ⟨_,rest⟩ := rested
  split_ifs at rest ⊢
  · exact rest.1
  · exact rest.1

theorem Rested.runs {s : Backend Own} {out : Outside Session} (rested : Rested live idle s out)
    (present : s.fanout = true) : s.ctx = some false := by
  obtain ⟨_,rest⟩ := rested
  split_ifs at rest
  · exact rest.2.2.2
  · have joined := rest.2.2
    rw [present] at joined
    contradiction

theorem Receives.rested {s : Backend Own} {out : Outside Session} (receives : s.Receives out.heap)
    (down : s.initialized = false) (shut : idle s.own out.session) (without : s.rxChan = none)
    (fanout : s.fanout = false) : Rested live idle s out := by
  refine ⟨receives,?_⟩
  rw [if_neg (by simp [down])]
  exact ⟨shut,without,fanout⟩

/-- A device that is not initialized has no read loop. -/
theorem Rested.alone {s : Backend Own} {out : Outside Session} (rested : Rested live idle s out)
    (stopped : s.initialized = false) {alone : Bool} (beside : alone = false → Up live s out) :
    alone = true := by
  cases alone with
  | true => rfl
  | false =>
    have without := (rested.down stopped).2.2.1
    have channel := (beside rfl).2.2.1
    rw [without] at channel
    contradiction

variable {s : Backend Own} {out : Outside Session}

theorem wp_callVendor {post : Reply → Bool → Backend Own → Outside Session → Prop}
    {present : Own → Bool} {name : Vendor} {alone : Bool} (loaded : present s.own = true)
    (answers : ∀ reply, ∃ session, serve out.session name reply = some session ∧
      (alone = false → live s.own out.session → live s.own session) ∧
      post reply alone s ⟨session,out.heap⟩) :
    (callVendor present name).wp (rules serve live) post alone s out := by
  unfold callVendor
  rw [wp_bind,wp_read]
  intro reply
  obtain ⟨session,served,kept,holds⟩ := answers reply
  refine ⟨⟨session,out.heap⟩,?_,?_,holds⟩
  · simp [rules,Outside.accept,loaded,served]
  · intro beside up
    exact ⟨up.1,kept beside up.2.1,up.2.2⟩

theorem wp_loadFrom {post : Except (List String) Unit → Bool → Backend Own → Outside Session → Prop}
    {load : String → Vendor} {failure : Reply → Option String} {found : Own → Own}
    {errs candidates : List String}
    (loads : ∀ dllPath reply, serve out.session (load dllPath) reply = some out.session)
    (fails : ∀ errs, post (.error errs) true s out) (works : post (.ok ()) true (s.setOwn found) out) :
    (loadFrom load failure found errs candidates).wp (rules serve live) post true s out := by
  induction candidates generalizing errs with
  | nil => exact fails errs
  | cons dllPath candidates ih =>
    unfold loadFrom
    rw [wp_bind]
    apply wp_callVendor rfl
    intro reply
    refine ⟨out.session,loads dllPath reply,by simp,?_⟩
    cases failure reply with
    | some err => exact ih
    | none =>
      rw [wp_bind,wp_write]
      exact ⟨by simp,works⟩

theorem wp_openReceive {post : Unit → Bool → Backend Own → Outside Session → Prop}
    (receives : s.Receives out.heap) (without : s.rxChan = none)
    (later : ∀ heap, let t := { s with
        ctx := some false, rxChan := some s.made, made := s.made + 1, fanout := true }
      t.Receives heap → post () true t ⟨out.session,heap⟩) :
    (openReceive : BackendProgram Own Vendor Reply Unit).wp (rules serve live) post true s out := by
  simp only [openReceive,wp_bind,wp_write,wp_read,wp_request,rules,Outside.accept,receives.made,if_true]
  refine ⟨by simp,fun reply => ⟨_,rfl,by simp,by simp,by simp,?_⟩⟩
  exact later _ (receives.makes without rfl rfl)

theorem wp_cancel {post : Unit → Bool → Backend Own → Outside Session → Prop} {alone : Bool}
    (later : post () alone { s with ctx := s.ctx.map fun _ => true } out) :
    (cancel : BackendProgram Own Vendor Reply Unit).wp (rules serve live) post alone s out :=
  ⟨fun _ up => ⟨up.1.same rfl rfl,up.2.1,up.2.2.1,by simpa using up.2.2.2⟩,later⟩

theorem wp_closeFanout {post : Unit → Bool → Backend Own → Outside Session → Prop}
    (cancelled : s.fanout = true → s.ctx = some true)
    (later : post () true { s with fanout := false } out) :
    (closeFanout : BackendProgram Own Vendor Reply Unit).wp (rules serve live) post true s out := by
  simp only [closeFanout,wp_bind,wp_read]
  split_ifs with present
  · simp only [wp_bind,wp_request,wp_write]
    exact fun reply => ⟨out,if_pos ⟨present,cancelled present⟩,by simp,by simp,later⟩
  · have same : { s with fanout := false } = s := by
      obtain ⟨_,_,_,_,fanout,_,_⟩ := s
      cases fanout
      · rfl
      · exact absurd rfl present
    rw [same] at later
    exact later

theorem wp_closeRx {post : Unit → Bool → Backend Own → Outside Session → Prop}
    (receives : s.Receives out.heap)
    (later : ∀ heap, let t := { s with rxChan := none }
      t.Receives heap → post () true t ⟨out.session,heap⟩) :
    (closeRx : BackendProgram Own Vendor Reply Unit).wp (rules serve live) post true s out := by
  simp only [closeRx,wp_bind,wp_read]
  cases holds : s.rxChan with
  | none =>
    have same : { s with rxChan := none } = s := by
      obtain ⟨_,_,_,_,_,_,_⟩ := s
      cases holds
      rfl
    have holds := later out.heap (receives.same rfl holds.symm)
    rw [same] at holds
    exact holds
  | some channel =>
    have live := receives.open holds
    simp only [wp_bind,wp_request,wp_write,rules,Outside.accept,live.1,live.2,not_false_eq_true,
      and_self,if_true]
    exact fun reply => ⟨_,rfl,by simp,by simp,later _ (receives.closes holds rfl rfl)⟩

theorem wp_cancelAndWait {post : Bool → Bool → Backend Own → Outside Session → Prop} {alone : Bool}
    (later : post s.initialized true
      { s with initialized := false, ctx := s.ctx.map fun _ => true } out) :
    (cancelAndWait : BackendProgram Own Vendor Reply Bool).wp (rules serve live) post alone s out := by
  unfold cancelAndWait
  rw [wp_bind]
  refine ⟨fun _ up => ⟨up.1.same rfl rfl,up.2⟩,?_⟩
  rw [wp_pure,wp_bind]
  apply wp_cancel
  rw [wp_bind,wp_wait,wp_pure]
  refine ⟨?_,later⟩
  intro _ up
  have present : (s.ctx.map fun _ => true).isSome := up.2.2.2
  change s.ctx.map (fun _ => true) = some true
  cases ctx : s.ctx with
  | none => simp [ctx] at present
  | some => rfl

/-- What every `stop` begins with: after it the read loop has ended and the fanout is joined. -/
theorem wp_endReceive {post : Value → Bool → Backend Own → Outside Session → Prop} {alone : Bool}
    {rest : Bool → BackendProgram Own Vendor Reply Value} (rested : Rested live idle s out)
    (later : (rest s.initialized).wp (rules serve live) post true
      { s with initialized := false, ctx := s.ctx.map fun _ => true, fanout := false } out) :
    (do
      let wasInitialized ← cancelAndWait
      closeFanout
      rest wasInitialized).wp (rules serve live) post alone s out := by
  rw [wp_bind]
  apply wp_cancelAndWait
  rw [wp_bind]
  apply wp_closeFanout
  · intro present
    have ctx := rested.runs present
    simp [ctx]
  exact later

theorem wp_startLoop {post : Bool → Bool → Backend Own → Outside Session → Prop} {alone : Bool}
    (up : s.initialized = true → Up live s out)
    (later : ∀ launched alone, post launched alone s out) :
    (startLoop : BackendProgram Own Vendor Reply Bool).wp (rules serve live) post alone s out := by
  simp only [startLoop,wp_bind,wp_read]
  split_ifs with initialized
  · exact ⟨up initialized,later true false,fun _ => later false false⟩
  · exact later false alone

theorem Rested.launches {alone : Bool} (rested : Rested live idle s out) (result : Value) :
    (do
      let _ ← startLoop
      pure result : BackendProgram Own Vendor Reply Value).wp (rules serve live)
      (fun _ _ => Rested live idle) alone s out := by
  rw [wp_bind]
  apply wp_startLoop rested.up
  intro launched alone
  exact rested

/-- The configuration may change while the read loop runs. -/
theorem Rested.configures {alone : Bool} (rested : Rested live idle s out) (cfg : Backend Own → BusConfig)
    (result : Value) :
    (do
      write fun s => { s with cfg := cfg s }
      pure result : BackendProgram Own Vendor Reply Value).wp (rules serve live)
      (fun _ _ => Rested live idle) alone s out := by
  rw [wp_bind,wp_write]
  exact ⟨fun _ up => ⟨up.1.same rfl rfl,up.2⟩,rested.1.same rfl rfl,rested.2⟩

theorem readStep_accepted [Inhabited Reply] {present : Own → Bool} {receive : Backend Own → Vendor}
    {handle : Backend Own → Reply → ReadPlace} {published place : ReadPlace} {choice : ReadChoice Reply}
    {call : BackendCall Vendor} {reply : Reply} {next : Option ReadPlace} (up : Up live s out)
    (loaded : present s.own = true)
    (reads : ∀ reply, serve out.session (receive s) reply = some out.session)
    (taken : readStep present receive handle published s place choice = some (some (call,reply),next)) :
    (rules serve live).accept out call reply = some out := by
  unfold readStep at taken
  split at taken
  · split_ifs at taken
    cases taken
  · cases taken
  · cases taken
    simp [rules,Outside.accept,loaded,reads]
  · cases taken
  · cases taken
  · obtain ⟨channel,holds,same⟩ := Option.map_eq_some_iff.mp taken
    cases same
    have open' := up.1.open holds
    simp [rules,Outside.accept,open']
  · contradiction

variable {Op Result : Type} [Inhabited Reply]
  {machine : Machine (Backend Own) (BackendCall Vendor) Reply Result Op ReadPlace (ReadChoice Reply)}
  {present : Own → Bool} {receive : Backend Own → Vendor} {handle : Backend Own → Reply → ReadPlace}
  {published : ReadPlace}

theorem selecting_ends (reacts : machine.react = readStep present receive handle published)
    (cancelled : s.ctx = some true) : machine.Ends s .selecting := by
  have leaves : machine.react s .selecting .leave = some (none,none) := by
    rw [reacts]
    exact if_pos cancelled
  exact .last leaves

theorem reading_ends (reacts : machine.react = readStep present receive handle published) (reply : Reply)
    (handled : machine.Ends s (handle s reply)) : machine.Ends s .reading := by
  have reads : machine.react s .reading (.read reply) =
      some (some (.vendor (present s.own) (receive s),reply),some (handle s reply)) := by
    rw [reacts]
    rfl
  exact .next reads handled

/-- Without room, every frame is dropped. -/
theorem publishing_ends (reacts : machine.react = readStep present receive handle published)
    (after : machine.Ends s published) (frames : List Frame) : machine.Ends s (.publishing frames) := by
  induction frames with
  | nil =>
    have goes : machine.react s (.publishing []) (.publish false) = some (none,some published) := by
      rw [reacts]
      rfl
    exact .next goes after
  | cons frame frames ih =>
    have drops : machine.react s (.publishing (frame :: frames)) (.publish false) =
        some (none,some (.publishing frames)) := by
      rw [reacts]
      rfl
    exact .next drops ih

end specs

end Backend

end Canbuskit.Driver
