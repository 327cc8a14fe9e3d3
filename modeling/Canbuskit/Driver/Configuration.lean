import Canbuskit.Driver.Bus

/-! Whether sending reconfigures a bus. `Send` hands the frame's BRS flag to the device, the
device stores it in its configuration, and `Config` reads that back, also for the frames of a
session; between two initializations nothing else changes the configuration. -/
namespace Canbuskit.Driver
open Can Channel Isotp Locks Runs

variable {Thread Memory Answer : Type} {device : Device Memory Answer}

/-- How a device treats its configuration once it is initialized. -/
structure Configured (device : Device Memory Answer) : Prop where
  start : ∀ m, device.config (device.start m).1 = device.config m
  stop : ∀ m, device.config (device.stop m) = device.config m
  errors : ∀ m, device.config (device.errors m).1 = device.config m
  setBRS : ∀ enabled m,
    device.config (device.setBRS enabled m) = { device.config m with brs := enabled }

theorem vendor_configured : Configured vendor where
  start m := by
    simp only [vendor,Vendor.start]
    split_ifs <;> rfl
  stop m := rfl
  errors m := rfl
  setBRS enabled m := rfl

theorem auto_configured : Configured auto where
  start m := by cases driver : m.1.driver <;> simp [auto,Auto.start,driver]
  stop m := rfl
  errors m := by cases driver : m.1.driver <;> simp [auto,Auto.errors,driver]
  setBRS enabled m := rfl

theorem newFrame_brs {id : UInt32} {payload : Bytes} {flags : FrameFlags} {frame : Frame}
    (built : newFrame id payload flags = .ok frame) : frame.brs = flags.brs := by
  unfold newFrame at built
  dsimp only at built
  split at built
  · contradiction
  · rw [← Except.ok.inj built]

/-- The step in which `Send` hands a frame's flag to the device. -/
def BusMove.SetsBRS (move : BusMove Thread Memory Answer) (frame : Frame) : Prop :=
  move.before.place move.thread = .sendSetBRS frame

/-- The step in which `Open` initializes the device. -/
def BusMove.Initializes (move : BusMove Thread Memory Answer) : Prop :=
  move.before.place move.thread = .openInitialize

section steps

variable [DecidableEq Thread] {b c : Bus Thread Memory} {thread : Thread} {action : Action Answer}
  {reply : Option Reply}

theorem Bus.Transition.config (laws : Configured device)
    (step : b.Transition device thread action reply c)
    (initialized : b.place thread ≠ .openInitialize) :
    device.config c.device = device.config b.device ∧
        (∀ frame, b.place thread ≠ .sendSetBRS frame) ∨
      ∃ frame, b.place thread = .sendSetBRS frame ∧
        device.config c.device = { device.config b.device with brs := frame.brs } := by
  cases step with
  | sendSet place => exact .inr ⟨_,place,laws.setBRS _ _⟩
  | initialized place | initializeFailed place => exact absurd place initialized
  | started place result | startFailed place result =>
    have same := laws.start b.device
    rw [result] at same
    exact .inl ⟨same,by simp [place]⟩
  | errorsRead place => exact .inl ⟨laws.errors b.device,by simp [place]⟩
  | openStopped place | closeStopped place => exact .inl ⟨laws.stop b.device,by simp [place]⟩
  | openBegun place | closeBegun place | sendRefused place | sendBegun place | subscribeBegun place
  | configRead place | frameRefused place | frameBuilt place | openRefused place
  | openEntered place | openDone place | openFailed place | closeEntered place | closeCleared place
  | closeShut place | closeDone place | sendEntered place | sendChecked place | sendShut place
  | sendWritten place | sendDone place | subscribeEntered place | subscribeShut place
  | subscribeDone place => exact .inl ⟨rfl,by simp [place]⟩

theorem Bus.Transition.built {msg : LinkFrame} {frame : Frame}
    (step : b.Transition device thread (.call (.transmit msg)) (some (.built (.ok frame))) c) :
    frame.brs = (msg.fd && (device.config b.device).brs) := by
  cases step with
  | frameRefused _ _ result | frameBuilt _ _ result => exact newFrame_brs result

theorem Bus.Transition.configRead_eq {cfg : BusConfig}
    (step : b.Transition device thread action (some (.config cfg)) c) :
    cfg = device.config b.device := by
  cases step
  rfl

end steps

/-- The configuration is still `cfg`, for every reader of `Config` and in the flag of every
frame a session sends. -/
structure BusMove.Keeps (device : Device Memory Answer) (cfg : BusConfig)
    (move : BusMove Thread Memory Answer) : Prop where
  stored : device.config move.after.device = cfg
  read : ∀ seen, move.reply = some (.config seen) → seen = cfg
  session : ∀ msg frame, move.action = .call (.transmit msg) →
    move.reply = some (.built (.ok frame)) → frame.brs = (msg.fd && cfg.brs)

section runs

variable [DecidableEq Thread] {b c : Bus Thread Memory} {cfg : BusConfig}
  {move : BusMove Thread Memory Answer} {moves : List (BusMove Thread Memory Answer)}

theorem BusMove.Step.keeps_iff (laws : Configured device) (step : BusMove.Step device b move c)
    (now : device.config b.device = cfg) (initialized : ¬ move.Initializes) :
    move.Keeps device cfg ↔ ∀ frame, move.SetsBRS frame → frame.brs = cfg.brs := by
  have transition := step.transition
  obtain ⟨rfl,rfl,_⟩ := step
  have change := transition.config laws initialized
  constructor
  · intro keeps frame sets
    rcases change with ⟨_,none⟩ | ⟨other,place,changed⟩
    · exact absurd sets (none frame)
    · obtain rfl := Place.sendSetBRS.inj (place.symm.trans sets)
      rw [keeps.stored] at changed
      rw [changed]
  · intro same
    refine ⟨?_,?_,?_⟩
    · rcases change with ⟨unchanged,_⟩ | ⟨frame,place,changed⟩
      · rw [unchanged,now]
      · rw [changed,same frame place,now]
    · intro seen reads
      rw [reads] at transition
      rw [transition.configRead_eq,now]
    · intro msg frame transmits builds
      rw [transmits,builds] at transition
      rw [transition.built,now]

/-- A bus keeps its configuration, and sessions on it their BRS flag, if and only if every frame
that `Send` hands to the device carries the configured flag. -/
theorem config_kept_iff (laws : Configured device) (run : Run (BusMove.Step device) b moves c)
    (initialized : ∀ move ∈ moves, ¬ move.Initializes) :
    (∀ move ∈ moves, move.Keeps device (device.config b.device)) ↔
      ∀ move ∈ moves, ∀ frame, move.SetsBRS frame →
        frame.brs = (device.config b.device).brs := by
  have now {past : List (BusMove Thread Memory Answer)} {middle : Bus Thread Memory}
      (before : Run (BusMove.Step device) b past middle)
      (kept : ∀ move ∈ past, move.Keeps device (device.config b.device)) :
      device.config middle.device = device.config b.device := by
    cases before with
    | nil => rfl
    | @snoc _ move _ _ _ last =>
      rw [← last.2.1]
      exact (kept move (by simp)).stored
  induction run with
  | nil => simp
  | @snoc moves move middle final before last ih =>
    have ih := ih fun other member => initialized other (by simp [member])
    have step (kept : ∀ move ∈ moves, move.Keeps device (device.config b.device)) :=
      last.keeps_iff laws (now before kept) (initialized move (by simp))
    simp only [List.mem_append,List.mem_singleton,or_imp,forall_and,forall_eq]
    constructor
    · rintro ⟨kept,new⟩
      exact ⟨ih.mp kept,(step kept).mp new⟩
    · rintro ⟨same,new⟩
      exact ⟨ih.mpr same,(step (ih.mpr same)).mpr new⟩

end runs

def rawFrame (brs : Bool) : Frame := ⟨.transmit,0x123,1,Vector.replicate 64 0,true,brs,false,0⟩

def diagnostic : LinkFrame := ⟨0x7E0,[0x02,0x3E,0x00],true⟩

instance {move : BusMove Thread Memory Answer} : Decidable move.Initializes :=
  inferInstanceAs (Decidable (_ = _))

/-- A raw frame without bit-rate switching and a session's frame on a bus without it. -/
theorem config_kept_iff_plain :
    ∃ past moves, ∃ b c : Bus Bool (Vendor × Heap),
      Run (BusMove.Step vendor) (newBus (.new .pcan (.default Mode.fd 0),packageHeap)) past b ∧
      b.opened = true ∧ Run (BusMove.Step vendor) b moves c ∧
      ∀ move ∈ moves, move.Keeps vendor (vendor.config b.device) := by
  let start : Bus Bool (Vendor × Heap) := newBus (.new .pcan (.default Mode.fd 0),packageHeap)
  have executed : ((start.execute vendor (undisturbed false .openBus 4)).bind fun first =>
      (first.2.execute vendor (undisturbed true (.send (rawFrame false)) 5 ++
        undisturbed false (.transmit diagnostic) 5)).map fun second =>
          (first,second)).map (fun result => (result.1.2.opened,
        result.2.1.all fun move => !decide move.Initializes && match move.before.place move.thread with
          | .sendSetBRS frame => frame.brs == (vendor.config result.1.2.device).brs
          | _ => true)) = some (true,true) := by
    decide +kernel
  obtain ⟨⟨⟨past,b⟩,⟨moves,c⟩⟩,executed,observed⟩ := Option.map_eq_some_iff.mp executed
  obtain ⟨⟨_,_⟩,first,executed⟩ := Option.bind_eq_some_iff.mp executed
  obtain ⟨⟨_,_⟩,second,same⟩ := Option.map_eq_some_iff.mp executed
  obtain ⟨⟨rfl,rfl⟩,⟨rfl,rfl⟩⟩ : (_ = past ∧ _ = b) ∧ (_ = moves ∧ _ = c) := by
    simpa only [Prod.mk.injEq] using same
  obtain ⟨opened,plain⟩ := Prod.mk.inj observed
  have run := Bus.execute_run second
  refine ⟨_,_,_,_,Bus.execute_run first,opened,run,(config_kept_iff vendor_configured run ?_).mpr ?_⟩
  · intro move member
    have this := List.all_eq_true.mp plain move member
    simp only [Bool.and_eq_true,Bool.not_eq_true',decide_eq_false_iff_not] at this
    exact this.1
  · intro move member frame sets
    have this := List.all_eq_true.mp plain move member
    rw [BusMove.SetsBRS] at sets
    simp only [sets,Bool.and_eq_true,beq_iff_eq] at this
    exact this.2

/-- A raw frame with bit-rate switching turns it on for the session. -/
theorem config_follows_frame :
    ¬ ∀ past moves, ∀ b c : Bus Bool (Vendor × Heap),
      Run (BusMove.Step vendor) (newBus (.new .pcan (.default Mode.fd 0),packageHeap)) past b →
      b.opened = true → Run (BusMove.Step vendor) b moves c →
      (∀ move ∈ moves, ¬ move.Initializes) →
      ∀ move ∈ moves, move.Keeps vendor (vendor.config b.device) := by
  intro kept
  let start : Bus Bool (Vendor × Heap) := newBus (.new .pcan (.default Mode.fd 0),packageHeap)
  have executed : ((start.execute vendor (undisturbed false .openBus 4)).bind fun first =>
      (first.2.execute vendor (undisturbed true (.send (rawFrame true)) 5 ++
        undisturbed false (.transmit diagnostic) 5)).map fun second =>
          (first,second)).map (fun result => (result.1.2.opened,
        (vendor.config result.1.2.device).brs,
        result.2.1.all fun move => !decide move.Initializes,
        result.2.1.any fun move => (vendor.config move.after.device).brs)) =
      some (true,false,true,true) := by
    decide +kernel
  obtain ⟨⟨⟨past,b⟩,⟨moves,c⟩⟩,executed,observed⟩ := Option.map_eq_some_iff.mp executed
  obtain ⟨⟨_,_⟩,first,executed⟩ := Option.bind_eq_some_iff.mp executed
  obtain ⟨⟨_,_⟩,second,same⟩ := Option.map_eq_some_iff.mp executed
  obtain ⟨⟨rfl,rfl⟩,⟨rfl,rfl⟩⟩ : (_ = past ∧ _ = b) ∧ (_ = moves ∧ _ = c) := by
    simpa only [Prod.mk.injEq] using same
  simp only [Prod.mk.injEq] at observed
  obtain ⟨opened,off,plain,on⟩ := observed
  obtain ⟨move,member,switched⟩ := List.any_eq_true.mp on
  have keeps := kept _ _ _ _ (Bus.execute_run first) opened (Bus.execute_run second)
    (fun move member => by simpa using List.all_eq_true.mp plain move member) move member
  rw [keeps.stored,off] at switched
  contradiction

end Canbuskit.Driver
