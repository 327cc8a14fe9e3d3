import Canbuskit.Lib.Runs
import Canbuskit.Lib.Locks
import Canbuskit.Driver.ToomossSession

/-! The process has one Toomoss session. Over any interleaving of any instances one at most holds
it, its flag is up exactly meanwhile, and it is given back by a failed call and by a stop. The
library and the USB device go with it, unless the vendor leaves the device open. -/
namespace Canbuskit.Driver.ToomossSession
open Can Runs Locks

variable {Id : Type}

/-- How far an instance is: whether it is initialized, owns the session, has the library loaded,
and has the USB device open after a call of `USB_OpenDevice` that succeeded. -/
structure Shows (t : Toomoss) (initialized owns loaded opened : Bool) : Prop where
  lifecycle : t.lifecycle.initialized = initialized
  ownsDevice : t.ownsDevice = owns
  dll : t.api.dll ≠ 0 ↔ loaded = true
  close : loaded = true → t.api.close ≠ 0
  usb : opened = false → t.usbOpen = true → t.usbLeft = true

/-- What an instance shows at each place. -/
def Place.Shape (t : Toomoss) : Place → Prop
  | .idle | .returned none | .cancel => ∃ on, Shows t on on on on
  | .returned (some _) | .acquire | .own => Shows t false false false false
  | .load => Shows t false true false false
  | .scan | .openUSB => Shows t false true true false
  | .speed | .init _ | .start _ _ | .clean true _ | .close => Shows t false true true true
  | .clean false _ => ∃ loaded, Shows t false true loaded false
  | .release (some _) => Shows t false true false false
  | .release none => ∃ owns, Shows t false owns false false
  | .disown _ => Shows t false true false false

def Sound (t : Toomoss) : Prop := t.place.Shape t

section Instance
variable {t : Toomoss} {initialized owns loaded opened : Bool}

theorem Shows.moveTo (shows : Shows t initialized owns loaded opened) (place : Place) :
    Shows (t.moveTo place) initialized owns loaded opened :=
  ⟨shows.lifecycle,shows.ownsDevice,shows.dll,shows.close,shows.usb⟩

theorem Shows.opens (shows : Shows t initialized owns loaded false) (answer : Answer) :
    Shows (t.openUSB answer).1 initialized owns loaded ((t.openUSB answer).2.toOption.getD false) := by
  unfold Toomoss.openUSB
  split_ifs
  · exact shows
  · cases syscallN "USB_OpenDevice" answer.reply with
    | error error => exact ⟨shows.lifecycle,shows.ownsDevice,shows.dll,shows.close,fun _ => id⟩
    | ok stateValue =>
      dsimp only
      split_ifs
      · exact ⟨shows.lifecycle,shows.ownsDevice,shows.dll,shows.close,nofun⟩
      · exact ⟨shows.lifecycle,shows.ownsDevice,shows.dll,shows.close,fun _ => id⟩

theorem Shows.unloads (shows : Shows t initialized owns loaded opened) :
    Shows { t with api := t.api.release } initialized owns false opened :=
  ⟨shows.lifecycle,shows.ownsDevice,iff_of_false (not_not_intro t.api.release_dll) nofun,nofun,
    shows.usb⟩

theorem Shows.closes (shows : Shows t initialized owns true opened) (answer : Answer) :
    Shows (t.closeUSB answer).1 initialized owns false false := by
  have loaded : t.api.dll ≠ 0 := shows.dll.mpr rfl
  obtain ⟨lifecycle,ownsDevice,dll,close,_⟩ := shows.unloads
  unfold Toomoss.closeUSB
  rw [if_neg loaded,if_neg (shows.close rfl)]
  cases syscallN "USB_CloseDevice" answer.reply <;> exact ⟨lifecycle,ownsDevice,dll,close,fun _ => id⟩

theorem Shows.configure (shows : Shows t false true true true) : Sound t.configure := by
  unfold Toomoss.configure
  dsimp only
  split_ifs <;> exact ⟨shows.lifecycle,shows.ownsDevice,shows.dll,shows.close,shows.usb⟩

theorem Shows.getSpeed (shows : Shows t false true true true) (reply : Reply) :
    Sound (t.getSpeed reply) := by
  unfold Toomoss.getSpeed
  cases syscallN (if t.legacyCAN then "CAN_GetCANSpeedArg" else "CANFD_GetCANSpeedArg") reply with
  | error error => exact shows.moveTo _
  | ok ret =>
    dsimp only
    split_ifs <;> exact shows.moveTo _

theorem Shows.initChannel (shows : Shows t false true true true) (reply : Reply) (speed : Nat) :
    Sound (t.initChannel reply speed) := by
  unfold Toomoss.initChannel
  cases syscallN (if t.legacyCAN then "CAN_Init" else "CANFD_Init") reply <;> exact shows.moveTo _

theorem Shows.markInitialized (shows : Shows t false true true true) :
    Sound { t with lifecycle := t.lifecycle.markInitialized, place := .returned none } :=
  ⟨true,rfl,shows.ownsDevice,shows.dll,shows.close,shows.usb⟩

theorem Shows.startGetMsg (shows : Shows t false true true true) (reply : Reply) (speed init : Nat) :
    Sound (t.startGetMsg reply speed init) := by
  unfold Toomoss.startGetMsg
  cases syscallN (if t.legacyCAN then "CAN_StartGetMsg" else "CANFD_StartGetMsg") reply with
  | error error => exact shows.moveTo _
  | ok start =>
    dsimp only
    split_ifs
    · exact shows.moveTo _
    · exact shows.markInitialized
    · exact shows.markInitialized
    · exact shows.moveTo _

theorem Sound.begins (sound : Sound t) (free : t.place = .idle) (operation : Operation) :
    Sound (t.begins operation) := by
  rw [Sound,free] at sound
  obtain ⟨on,shows⟩ := sound
  cases operation with
  | stops => exact ⟨on,shows.moveTo _⟩
  | initializes =>
    unfold Toomoss.begins Toomoss.beginInitialize
    dsimp only
    split_ifs with up
    · exact ⟨on,shows.moveTo _⟩
    · have off : on = false := by
        rw [← shows.lifecycle]
        exact eq_false_of_ne_true up
      subst off
      cases t.cfg.normalized with
      | error error => exact shows.moveTo _
      | ok cfg => exact ⟨shows.lifecycle,shows.ownsDevice,shows.dll,shows.close,shows.usb⟩

theorem Sound.proceed (sound : Sound t) (answer : Answer) : Sound (t.proceed answer) := by
  cases place : t.place with
  | idle | acquire | release | returned =>
    simp only [Toomoss.proceed,place]
    exact sound
  | own =>
    rw [Sound,place] at sound
    simp only [Toomoss.proceed,place]
    exact ⟨sound.lifecycle,rfl,sound.dll,sound.close,sound.usb⟩
  | load =>
    rw [Sound,place] at sound
    simp only [Toomoss.proceed,place]
    cases loaded : loadToomossAPI answer.library with
    | error error => exact ⟨false,sound.moveTo _⟩
    | ok api =>
      obtain ⟨dll,close⟩ := ToomossAPI.ready_loaded (loadToomossAPI_ready loaded)
      exact ⟨sound.lifecycle,sound.ownsDevice,iff_of_true dll rfl,fun _ => close,sound.usb⟩
  | scan =>
    rw [Sound,place] at sound
    simp only [Toomoss.proceed,place]
    cases t.scan answer.reply with
    | error error => exact ⟨true,sound.moveTo _⟩
    | ok found =>
      cases found with
      | false => exact ⟨true,sound.moveTo _⟩
      | true => exact sound.moveTo _
  | openUSB =>
    rw [Sound,place] at sound
    simp only [Toomoss.proceed,place]
    have shows := sound.opens answer
    generalize t.openUSB answer = call at shows ⊢
    obtain ⟨called,result⟩ := call
    cases result with
    | error error => exact ⟨true,shows.moveTo _⟩
    | ok opens =>
      cases opens with
      | false => exact ⟨true,shows.moveTo _⟩
      | true => exact shows.configure
  | speed =>
    rw [Sound,place] at sound
    simp only [Toomoss.proceed,place]
    exact sound.getSpeed _
  | init speed =>
    rw [Sound,place] at sound
    simp only [Toomoss.proceed,place]
    exact sound.initChannel _ _
  | start speed init =>
    rw [Sound,place] at sound
    simp only [Toomoss.proceed,place]
    exact sound.startGetMsg _ _ _
  | clean opened error =>
    rw [Sound,place] at sound
    simp only [Toomoss.proceed,place]
    cases opened with
    | true => exact (sound.closes _).moveTo _
    | false =>
      obtain ⟨loaded,sound⟩ := sound
      exact sound.unloads.moveTo _
  | cancel =>
    rw [Sound,place] at sound
    obtain ⟨on,shows⟩ := sound
    simp only [Toomoss.proceed,place]
    cases on with
    | true =>
      rw [shows.lifecycle]
      exact ⟨rfl,shows.ownsDevice,shows.dll,shows.close,shows.usb⟩
    | false =>
      rw [shows.lifecycle]
      exact ⟨false,rfl,shows.ownsDevice,shows.dll,shows.close,shows.usb⟩
  | close =>
    rw [Sound,place] at sound
    simp only [Toomoss.proceed,place]
    exact ⟨true,(sound.closes _).moveTo _⟩
  | disown result =>
    rw [Sound,place] at sound
    simp only [Toomoss.proceed,place]
    have shows : Shows { t with ownsDevice := false, place := .returned result } false false false
        false := ⟨sound.lifecycle,rfl,sound.dll,sound.close,sound.usb⟩
    cases result with
    | none => exact ⟨false,shows⟩
    | some error => exact shows

/-- The instance has acquired the session and has not released it. -/
def Toomoss.holds (t : Toomoss) : Bool :=
  match t.place with
  | .own => true
  | .disown _ => false
  | _ => t.ownsDevice

theorem openUSB_ownsDevice (t : Toomoss) (answer : Answer) :
    (t.openUSB answer).1.ownsDevice = t.ownsDevice := by
  unfold Toomoss.openUSB
  cases syscallN "USB_OpenDevice" answer.reply <;> dsimp only <;> split_ifs <;> rfl

theorem closeUSB_ownsDevice (t : Toomoss) (answer : Answer) :
    (t.closeUSB answer).1.ownsDevice = t.ownsDevice := by
  unfold Toomoss.closeUSB
  cases syscallN "USB_CloseDevice" answer.reply <;> dsimp only <;> split_ifs <;> rfl

theorem begins_holds (free : t.place = .idle) (operation : Operation) :
    (t.begins operation).holds = t.holds := by
  cases operation with
  | stops => simp only [Toomoss.begins,Toomoss.holds,Toomoss.moveTo,free]
  | initializes =>
    unfold Toomoss.begins Toomoss.beginInitialize
    dsimp only
    split_ifs
    · simp only [Toomoss.holds,Toomoss.moveTo,free]
    · cases t.cfg.normalized <;> simp only [Toomoss.holds,Toomoss.moveTo,free]

theorem configure_holds (t : Toomoss) : t.configure.holds = t.ownsDevice := by
  unfold Toomoss.configure
  dsimp only
  split_ifs <;> rfl

theorem getSpeed_holds (t : Toomoss) (reply : Reply) : (t.getSpeed reply).holds = t.ownsDevice := by
  unfold Toomoss.getSpeed
  cases syscallN (if t.legacyCAN then "CAN_GetCANSpeedArg" else "CANFD_GetCANSpeedArg") reply with
  | error error => rfl
  | ok ret =>
    dsimp only
    split_ifs <;> rfl

theorem initChannel_holds (t : Toomoss) (reply : Reply) (speed : Nat) :
    (t.initChannel reply speed).holds = t.ownsDevice := by
  unfold Toomoss.initChannel
  cases syscallN (if t.legacyCAN then "CAN_Init" else "CANFD_Init") reply <;> rfl

theorem startGetMsg_holds (t : Toomoss) (reply : Reply) (speed init : Nat) :
    (t.startGetMsg reply speed init).holds = t.ownsDevice := by
  unfold Toomoss.startGetMsg
  cases syscallN (if t.legacyCAN then "CAN_StartGetMsg" else "CANFD_StartGetMsg") reply with
  | error error => rfl
  | ok start =>
    dsimp only
    split_ifs <;> rfl

theorem proceed_holds (alone : t.place.shared = false) (answer : Answer) :
    (t.proceed answer).holds = t.holds := by
  cases place : t.place with
  | idle | acquire | release | returned => simp [place,Place.shared] at alone
  | own | disown => simp only [Toomoss.proceed,Toomoss.holds,place]
  | load =>
    simp only [Toomoss.proceed,Toomoss.holds,place]
    cases loadToomossAPI answer.library <;> rfl
  | scan =>
    simp only [Toomoss.proceed,Toomoss.holds,place]
    cases t.scan answer.reply with
    | error error => rfl
    | ok found => cases found <;> rfl
  | openUSB =>
    have kept : t.holds = t.ownsDevice := by simp only [Toomoss.holds,place]
    rw [kept,← openUSB_ownsDevice t answer]
    simp only [Toomoss.proceed,place]
    cases (t.openUSB answer).2 with
    | error error => rfl
    | ok opens =>
      cases opens with
      | false => rfl
      | true => exact configure_holds _
  | speed =>
    have kept : t.holds = t.ownsDevice := by simp only [Toomoss.holds,place]
    simp only [Toomoss.proceed,place,kept,getSpeed_holds]
  | init speed =>
    have kept : t.holds = t.ownsDevice := by simp only [Toomoss.holds,place]
    simp only [Toomoss.proceed,place,kept,initChannel_holds]
  | start speed init =>
    have kept : t.holds = t.ownsDevice := by simp only [Toomoss.holds,place]
    simp only [Toomoss.proceed,place,kept,startGetMsg_holds]
  | clean opened error =>
    simp only [Toomoss.proceed,Toomoss.holds,place]
    cases opened with
    | true => exact closeUSB_ownsDevice ..
    | false => rfl
  | cancel =>
    simp only [Toomoss.proceed,Toomoss.holds,place]
    cases t.lifecycle.initialized <;> rfl
  | close =>
    simp only [Toomoss.proceed,Toomoss.holds,place]
    exact closeUSB_ownsDevice ..

end Instance

/-- The session flag is up exactly while an instance holds the session, and one at most does. -/
structure Consistent (w : World Id) : Prop where
  sound : ∀ i, Sound (w.device i)
  session : ∃ holder : Option Id, w.toomossInUse = holder.isSome ∧
    Guards holder Toomoss.holds w.device

theorem new_consistent (cfgs : Id → BusConfig) : Consistent (World.new cfgs) := by
  refine ⟨fun i => ⟨false,rfl,rfl,?_,nofun,fun _ => nofun⟩,none,rfl,fun i => ?_⟩
  · exact iff_of_false (not_not_intro rfl) nofun
  · exact iff_of_false nofun nofun

theorem Consistent.inUse_iff {w : World Id} (consistent : Consistent w) :
    w.toomossInUse = true ↔ ∃ i, (w.device i).holds = true := by
  obtain ⟨_,holder,inUse,guards⟩ := consistent
  rw [inUse,Option.isSome_iff_exists]
  exact exists_congr fun i => (guards i).symm

theorem Consistent.exclusive {w : World Id} (consistent : Consistent w) {i j : Id}
    (first : (w.device i).holds = true) (second : (w.device j).holds = true) : i = j := by
  obtain ⟨_,_,_,guards⟩ := consistent
  exact guards.exclusive first second

theorem Consistent.inUse_others {w : World Id} (consistent : Consistent w) {i : Id}
    (outside : (w.device i).holds = false) :
    w.toomossInUse = true ↔ ∃ j, j ≠ i ∧ (w.device j).holds = true := by
  rw [consistent.inUse_iff]
  constructor
  · rintro ⟨j,held⟩
    refine ⟨j,?_,held⟩
    rintro rfl
    cases outside.symm.trans held
  · rintro ⟨j,_,held⟩
    exact ⟨j,held⟩

variable [DecidableEq Id]

theorem sound_put {w : World Id} (sound : ∀ i, Sound (w.device i)) (i : Id) {t : Toomoss}
    (next : Sound t) : ∀ j, Sound ((w.put i t).device j) := by
  intro j
  by_cases same : j = i
  · subst same
    simpa only [World.put,Function.update_self] using next
  · simpa only [World.put,Function.update_of_ne same] using sound j

theorem Consistent.put {w : World Id} (consistent : Consistent w) (i : Id) {t : Toomoss}
    (next : Sound t) (stays : t.holds = (w.device i).holds) : Consistent (w.put i t) := by
  obtain ⟨sound,holder,inUse,guards⟩ := consistent
  exact ⟨sound_put sound i next,holder,inUse,guards.stay stays⟩

theorem Consistent.acquire {w : World Id} (consistent : Consistent w) {i : Id}
    (place : (w.device i).place = .acquire) : Consistent (w.acquire i) := by
  have sound := consistent.sound i
  rw [Sound,place] at sound
  have outside : (w.device i).holds = false := by
    simp only [Toomoss.holds,place,sound.ownsDevice]
  unfold World.acquire World.acquireToomossSession
  cases inUse : w.toomossInUse with
  | true =>
    simp only [if_true,Bool.false_eq_true,if_false]
    exact consistent.put i (sound.moveTo _) (by rw [outside]; exact sound.ownsDevice)
  | false =>
    simp only [Bool.false_eq_true,if_false,if_true]
    obtain ⟨all,holder,held,guards⟩ := consistent
    have free : holder = none := by
      rw [inUse] at held
      cases holder with
      | none => rfl
      | some other => cases held
    subst free
    exact ⟨sound_put all i (sound.moveTo _),some i,rfl,guards.enter rfl⟩

theorem Consistent.release {w : World Id} (consistent : Consistent w) {i : Id}
    {result : Option ToomossError} (place : (w.device i).place = .release result) :
    Consistent (w.release i result) := by
  have sound := consistent.sound i
  rw [Sound,place] at sound
  have holds : (w.device i).holds = (w.device i).ownsDevice := by
    simp only [Toomoss.holds,place]
  unfold World.release
  split_ifs with owns
  · have shows : Shows (w.device i) false true false false := by
      cases result with
      | some error => exact sound
      | none =>
        obtain ⟨owner,sound⟩ := sound
        rwa [← sound.ownsDevice,owns] at sound
    obtain ⟨all,holder,inUse,guards⟩ := consistent
    exact ⟨sound_put all i (shows.moveTo _),none,rfl,guards.leave (holds.trans owns) rfl⟩
  · cases result with
    | some error => exact absurd sound.ownsDevice owns
    | none =>
      obtain ⟨owner,sound⟩ := sound
      have off : owner = false := by
        rw [← sound.ownsDevice]
        exact eq_false_of_ne_true owns
      subst off
      exact consistent.put i ⟨false,sound.moveTo _⟩ holds.symm

theorem Step.consistent {w v : World Id} {label : Id × Event} (consistent : Consistent w)
    (step : Step w label v) : Consistent v := by
  cases step with
  | @begins i operation free =>
    exact consistent.put i ((consistent.sound i).begins free operation) (begins_holds free operation)
  | acquires place => exact consistent.acquire place
  | @proceeds i answer alone =>
    exact consistent.put i ((consistent.sound i).proceed answer) (proceed_holds alone answer)
  | releases place => exact consistent.release place
  | @returns i result place =>
    have sound := consistent.sound i
    rw [Sound,place] at sound
    refine consistent.put i ?_ (by simp only [Toomoss.holds,Toomoss.moveTo,place])
    cases result with
    | none =>
      obtain ⟨on,sound⟩ := sound
      exact ⟨on,sound.moveTo _⟩
    | some error => exact ⟨false,sound.moveTo _⟩

theorem run_consistent {w : World Id} {cfgs : Id → BusConfig} {labels : List (Id × Event)}
    (run : Run Step (World.new cfgs) labels w) : Consistent w :=
  run.invariant Consistent (new_consistent cfgs) fun _ _ _ consistent step => step.consistent consistent

theorem Step.others {w v : World Id} {label : Id × Event} (step : Step w label v) {j : Id}
    (other : j ≠ label.1) : v.device j = w.device j := by
  cases step with
  | begins | proceeds | returns => exact Function.update_of_ne other ..
  | acquires =>
    unfold World.acquire World.acquireToomossSession
    split_ifs <;> exact Function.update_of_ne other ..
  | releases =>
    unfold World.release
    split_ifs <;> exact Function.update_of_ne other ..

/-- A call that has its result makes no step but its return. -/
theorem run_returned {w v : World Id} {labels : List (Id × Event)} (run : Run Step w labels v) {i : Id}
    {result : Option ToomossError} (place : (w.device i).place = .returned result)
    (calling : ∀ result, (i,.returns result) ∉ labels) : v.device i = w.device i := by
  induction run with
  | nil => rfl
  | @snoc past label middle final before last ih =>
    have same := ih fun result member => calling result (by simp [member])
    rw [← same] at place ⊢
    by_cases other : i = label.1
    · exfalso
      cases last with
      | begins _ free =>
        subst other
        cases free.symm.trans place
      | acquires at' =>
        subst other
        cases at'.symm.trans place
      | proceeds _ alone =>
        subst other
        rw [place] at alone
        cases alone
      | releases at' =>
        subst other
        cases at'.symm.trans place
      | @returns _ result =>
        subst other
        exact calling result (by simp)
    · exact last.others other

theorem call_failed {w v : World Id} {i : Id} {error : ToomossError} {between : List (Id × Event)}
    (call : Run Step w ((i,.begins .initializes) :: between ++ [(i,.returns (some error))]) v)
    (calling : ∀ result, (i,.returns result) ∉ between) (consistent : Consistent w) :
    Shows (w.device i) false false false false ∧ Shows (v.device i) false false false false ∧
      (w.device i).holds = false ∧ (v.device i).holds = false := by
  obtain ⟨begun,first,rest⟩ := call.cons_inv
  obtain ⟨ended,within,last⟩ := rest.snoc_inv
  have before := consistent.sound i
  have after := (within.invariant Consistent (first.consistent consistent) fun _ _ _ consistent step =>
    step.consistent consistent).sound i
  cases last with
  | returns place =>
    rw [Sound,place] at after
    cases first with
    | begins _ free =>
      rw [Sound,free] at before
      obtain ⟨on,before⟩ := before
      have off : on = false := by
        rw [← before.lifecycle]
        cases up : (w.device i).lifecycle.initialized with
        | false => rfl
        | true =>
          have refused : ((w.put i ((w.device i).begins .initializes)).device i).place =
              .returned none := by
            simp only [World.put,Function.update_self,Toomoss.begins,Toomoss.beginInitialize,up,
              if_true,Toomoss.moveTo]
          rw [run_returned within refused calling,refused] at place
          cases place
      subst off
      simp only [World.put,Function.update_self]
      refine ⟨before,after.moveTo _,?_,after.ownsDevice⟩
      simp only [Toomoss.holds,free,before.ownsDevice]

/-- With no call in progress the session flag is up exactly when one instance owns the session, and
the others have neither the library nor the USB device, unless the vendor has left it open. A call of `initialize` that fails leaves its instance as it was, and has no part in the session
afterwards; and no step of an instance takes the session from another. -/
theorem session_exclusive {cfgs : Id → BusConfig} {labels : List (Id × Event)} {w : World Id}
    (run : Run Step (World.new cfgs) labels w) :
    ((∀ i, (w.device i).place = .idle) →
      (w.toomossInUse = true ↔ ∃! i, (w.device i).ownsDevice = true) ∧
      (∀ i j, (w.device i).ownsDevice = true → (w.device j).ownsDevice = true → i = j) ∧
      ∀ i, ((w.device i).api.dll ≠ 0 → (w.device i).ownsDevice = true) ∧
        ((w.device i).usbOpen = true →
          (w.device i).ownsDevice = true ∨ (w.device i).usbLeft = true)) ∧
    (∀ i error between v,
      Run Step w ((i,.begins .initializes) :: between ++ [(i,.returns (some error))]) v →
      (∀ result, (i,.returns result) ∉ between) →
      (v.device i).ownsDevice = (w.device i).ownsDevice ∧
      (v.device i).api.dll = (w.device i).api.dll ∧
      ((v.device i).usbOpen = (w.device i).usbOpen ∨ (w.device i).usbLeft = true ∨
        (v.device i).usbLeft = true) ∧
      (w.toomossInUse = true ↔ ∃ j, j ≠ i ∧ (w.device j).holds = true) ∧
      (v.toomossInUse = true ↔ ∃ j, j ≠ i ∧ (v.device j).holds = true) ∧
      ((∀ j, j ≠ i → (v.device j).holds = (w.device j).holds) → v.toomossInUse = w.toomossInUse)) ∧
    ∀ i event v j, Step w (i,event) v → j ≠ i → (w.device j).holds = true →
      v.toomossInUse = true ∧ (v.device j).holds = true := by
  have consistent := run_consistent run
  refine ⟨fun idle => ?_,fun i error between v call calling => ?_,fun i event v j step other held => ?_⟩
  · have owns : ∀ i, (w.device i).holds = (w.device i).ownsDevice := by
      intro i
      simp only [Toomoss.holds,idle i]
    have shows : ∀ i, ∃ on, Shows (w.device i) on on on on := by
      intro i
      have sound := consistent.sound i
      rwa [Sound,idle i] at sound
    have unique : ∀ i j, (w.device i).ownsDevice = true → (w.device j).ownsDevice = true → i = j := by
      intro i j first second
      exact consistent.exclusive ((owns i).trans first) ((owns j).trans second)
    refine ⟨?_,unique,fun i => ?_⟩
    · rw [consistent.inUse_iff]
      constructor
      · rintro ⟨i,held⟩
        exact ⟨i,(owns i).symm.trans held,fun j owner => unique j i owner ((owns i).symm.trans held)⟩
      · rintro ⟨i,owner,_⟩
        exact ⟨i,(owns i).trans owner⟩
    · obtain ⟨on,shows⟩ := shows i
      rw [shows.ownsDevice]
      refine ⟨shows.dll.mp,fun opened => ?_⟩
      cases on with
      | true => exact .inl rfl
      | false => exact .inr (shows.usb rfl opened)
  · obtain ⟨before,after,outside,outsideAfter⟩ := call_failed call calling consistent
    have final := call.invariant Consistent consistent fun _ _ _ consistent step =>
      step.consistent consistent
    have flag := consistent.inUse_others outside
    have flagAfter := final.inUse_others outsideAfter
    have unloaded : ∀ {t : Toomoss}, Shows t false false false false → t.api.dll = 0 := by
      intro t shows
      by_contra loaded
      cases shows.dll.mp loaded
    refine ⟨after.ownsDevice.trans before.ownsDevice.symm,
      (unloaded after).trans (unloaded before).symm,?_,flag,flagAfter,fun same => ?_⟩
    · cases opened : (w.device i).usbOpen with
      | true => exact .inr (.inl (before.usb rfl opened))
      | false =>
        cases openedAfter : (v.device i).usbOpen with
        | true => exact .inr (.inr (after.usb rfl openedAfter))
        | false => exact .inl rfl
    · rw [Bool.eq_iff_iff,flag,flagAfter]
      refine exists_congr fun j => and_congr_right fun other => ?_
      rw [same j other]
  · have next := step.consistent consistent
    have same : (v.device j).holds = true := by rwa [step.others other]
    exact ⟨next.inUse_iff.mpr ⟨j,same⟩,same⟩

/-- The second instance finds the first one in the session. -/
theorem session_exclusive_busy : ∃ w v : World Bool,
    Run Step (World.new fun _ => .default Mode.fd 0)
      [(false,.begins .initializes),(false,.acquires)] w ∧
    Run Step w [(true,.begins .initializes),(true,.acquires),(true,.returns (some .busy))] v ∧
    (v.device true).ownsDevice = (w.device true).ownsDevice ∧
    (v.device false).holds = true ∧ v.toomossInUse = true := by
  have held : Run Step (World.new fun _ : Bool => .default Mode.fd 0)
      [(false,.begins .initializes),(false,.acquires)] _ :=
    (Run.nil.snoc (.begins _ rfl)).snoc (.acquires rfl)
  have refused : Run Step (((World.new fun _ : Bool => .default Mode.fd 0).put false
      ((Toomoss.new (.default Mode.fd 0)).begins .initializes)).acquire false) [(true,.begins .initializes),(true,.acquires),
      (true,.returns (some .busy))] _ :=
    ((Run.nil.snoc (.begins _ rfl)).snoc (.acquires rfl)).snoc (.returns rfl)
  obtain ⟨_,failed,_⟩ := session_exclusive held
  obtain ⟨kept,_,_,_,inUse,_⟩ := failed true .busy [(true,.acquires)] _ refused (by simp)
  exact ⟨_,_,held,refused,kept,rfl,inUse.mpr ⟨false,by decide,rfl⟩⟩

/-- A library with every procedure, and the same answer to whatever is called. -/
def answering (value : Nat) (usbOpen : Bool) : Answer :=
  ⟨⟨none,some 1,fun _ _ => 1⟩,⟨value,0⟩,usbOpen⟩

/-- `USB_OpenDevice` opens the device, and `GetLastError` is not zero beside its result. -/
def openedReportedFailed : Answer := ⟨⟨none,some 1,fun _ _ => 1⟩,⟨1,5⟩,true⟩

/-- `stop` gives the session up when `USB_CloseDevice` fails, with the USB device left open, and
`initialize` does when an opened device is reported as failed. -/
theorem usb_left_open :
    (¬ ∀ (labels : List (Unit × Event)) (w : World Unit),
      Run Step (World.new fun _ => .default Mode.fd 0) labels w →
      (∀ i, (w.device i).place = .idle) →
      ∀ i, (w.device i).usbOpen = true → (w.device i).ownsDevice = true) ∧
    ¬ ∀ (between : List (Unit × Event)) (error : ToomossError) (w : World Unit),
      Run Step (World.new fun _ => .default Mode.fd 0)
        (((),.begins .initializes) :: between ++ [((),.returns (some error))]) w →
      (w.device ()).usbOpen = false := by
  refine ⟨fun exclusive => ?_,fun closed => ?_⟩
  · have opened : Run Step (World.new fun _ : Unit => .default Mode.fd 0)
        [((),.begins .initializes),((),.acquires),((),.proceeds (answering 0 false)),
          ((),.proceeds (answering 0 false)),((),.proceeds (answering 1 false)),
          ((),.proceeds (answering 1 true)),((),.proceeds (answering 0 true)),
          ((),.proceeds (answering 0 true)),((),.proceeds (answering 0 true)),
          ((),.returns none),((),.begins .stops),((),.proceeds (answering 0 true)),
          ((),.proceeds (answering 0 true)),((),.releases),((),.proceeds (answering 0 true)),
          ((),.returns none)] _ :=
      (((((((((((((((Run.nil.snoc (.begins _ rfl)).snoc (.acquires rfl)).snoc (.proceeds _ rfl)).snoc
        (.proceeds _ rfl)).snoc (.proceeds _ rfl)).snoc (.proceeds _ rfl)).snoc
        (.proceeds _ rfl)).snoc (.proceeds _ rfl)).snoc (.proceeds _ rfl)).snoc (.returns rfl)).snoc
        (.begins _ rfl)).snoc (.proceeds _ rfl)).snoc (.proceeds _ rfl)).snoc (.releases rfl)).snoc
        (.proceeds _ rfl)).snoc (.returns rfl)
    cases exclusive _ _ opened (fun _ => rfl) () rfl
  · have failed : Run Step (World.new fun _ : Unit => .default Mode.fd 0)
        (((),.begins .initializes) :: [((),.acquires),((),.proceeds (answering 0 false)),
          ((),.proceeds (answering 0 false)),((),.proceeds (answering 1 false)),
          ((),.proceeds openedReportedFailed),((),.proceeds (answering 0 false)),((),.releases),
          ((),.proceeds (answering 0 false))] ++
          [((),.returns (some (.syscallFailed "USB_OpenDevice" 5)))]) _ :=
      (((((((((Run.nil.snoc (.begins _ rfl)).snoc (.acquires rfl)).snoc (.proceeds _ rfl)).snoc
        (.proceeds _ rfl)).snoc (.proceeds _ rfl)).snoc (.proceeds _ rfl)).snoc
        (.proceeds _ rfl)).snoc (.releases rfl)).snoc (.proceeds _ rfl)).snoc (.returns rfl)
    cases closed _ _ _ failed

end Canbuskit.Driver.ToomossSession
