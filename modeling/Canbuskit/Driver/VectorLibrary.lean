import Canbuskit.Lib.Runs
import Canbuskit.Driver.VectorOpen

/-! A Vector device keeps the library that it has loaded, complete or not. In a run in which no
attempt is at risk of an incomplete one, whatever is called is there and a library that lacks a
procedure is refused again and again. With an attempt at risk the run is unsafe. -/
namespace Canbuskit.Driver.VectorOpen
open Can Runs

/-- What no vendor call changes. -/
def VectorDevice.frame (v : VectorDevice) : Option Exports × BusConfig × Bool :=
  (v.dll,v.cfg,v.initialized)

/-- The operation ends with these, and does not miss a procedure by looking for it. -/
def Keeps (frame : Option Exports × BusConfig × Bool) : Operation → Prop
  | .ok v => v.frame = frame
  | .error (v,halt) => v.frame = frame ∧ ∀ proc, halt ≠ .failed (.procNotFound proc)

theorem Keeps.bind {frame : Option Exports × BusConfig × Bool} {first : Operation}
    {next : VectorDevice → Operation} (before : Keeps frame first)
    (after : ∀ v : VectorDevice, v.frame = frame → Keeps frame (next v)) :
    Keeps frame (first >>= next) := by
  cases first with
  | ok v => exact after v before
  | error halted => exact before

namespace VectorDevice

variable (v : VectorDevice) (attempt : Attempt)

theorem call_keeps (proc : Procedure) : Keeps v.frame (v.call proc) := by
  unfold call
  dsimp only
  split_ifs
  · rfl
  · exact ⟨rfl,nofun⟩

theorem callStatus_keeps (proc : Procedure) : Keeps v.frame (v.callStatus attempt proc) := by
  unfold callStatus
  split
  · exact ⟨rfl,nofun⟩
  · refine (v.call_keeps proc).bind fun w same => ?_
    split_ifs
    · exact same
    · exact ⟨same,nofun⟩

theorem selectChannel_keeps : Keeps v.frame (v.selectChannel attempt) := by
  unfold selectChannel
  split
  · exact ⟨rfl,nofun⟩
  · refine (v.call_keeps .getChannelIndex).bind fun w same => ?_
    dsimp only
    split_ifs
    · exact ⟨same,nofun⟩
    · exact same

theorem openPort_keeps : Keeps v.frame (v.openPort attempt) := by
  unfold openPort
  split
  · exact ⟨rfl,nofun⟩
  · refine (v.call_keeps .openPort).bind fun w same => ?_
    dsimp only
    split_ifs
    · exact ⟨same,nofun⟩
    · exact ⟨same,nofun⟩
    · exact same

theorem configureChannel_keeps : Keeps v.frame (v.configureChannel attempt) := by
  unfold configureChannel
  split
  · exact ⟨rfl,nofun⟩
  · refine (v.callStatus_keeps attempt _).bind fun w same => ?_
    rw [← same]
    refine (w.callStatus_keeps attempt _).bind fun w same => ?_
    rw [← same]
    refine (w.callStatus_keeps attempt _).bind fun w same => ?_
    rw [← same]
    exact w.callStatus_keeps attempt _

theorem callWhen_keeps (condition : Bool) (proc : Procedure) :
    Keeps v.frame (v.callWhen condition proc) := by
  unfold callWhen
  split
  · exact v.call_keeps proc
  · rfl

theorem cleanup_keeps : Keeps v.frame v.cleanup := by
  unfold cleanup
  refine (v.callWhen_keeps _ _).bind fun w same => ?_
  rw [← same]
  exact (w.callWhen_keeps _ _).bind fun w same => same

theorem call_eq {exports : Exports} (loaded : v.dll = some exports) (proc : Procedure) :
    v.call proc = if exports proc then .ok { v with calls := v.calls ++ [proc] }
      else .error ({ v with calls := v.calls ++ [proc] },.panicked proc) := by
  rw [call,loaded]
  rfl

theorem cleanup_unloaded (unloaded : v.dll = none) :
    v.cleanup = .ok { v with portHandle := vectorInvalidPortHandle } := by
  obtain ⟨cfg,canType,initialized,dll,portHandle,channelMask,permissionMask,calls⟩ := v
  cases unloaded
  rfl

theorem cleanup_loaded {exports : Exports} (loaded : v.dll = some exports)
    (closed : v.portHandle = vectorInvalidPortHandle) :
    v.cleanup = if exports .closeDriver then .ok { v with calls := v.calls ++ [.closeDriver] }
      else .error ({ v with calls := v.calls ++ [.closeDriver] },.panicked .closeDriver) := by
  obtain ⟨cfg,canType,initialized,dll,portHandle,channelMask,permissionMask,calls⟩ := v
  cases loaded
  cases closed
  unfold cleanup
  change (call ⟨cfg,canType,initialized,some exports,vectorInvalidPortHandle,channelMask,
    permissionMask,calls⟩ .closeDriver >>= _) = _
  rw [call_eq _ rfl]
  split_ifs <;> rfl

theorem shutDown_keeps (opened : Bool) : Keeps v.frame (v.shutDown opened) := by
  unfold shutDown
  refine (v.callWhen_keeps _ _).bind fun w same => ?_
  rw [← same]
  refine (w.callWhen_keeps _ _).bind fun w same => ?_
  rw [← same]
  exact (w.callWhen_keeps _ _).bind fun w same => same

theorem loadDLL_stored {exports : Exports} (loaded : v.dll = some exports) :
    v.loadDLL attempt = .ok v := by
  rw [loadDLL,loaded]
  rfl

theorem driverOpened_keeps : Keeps v.frame (do
    let v ← v.callStatus attempt .openDriver
    let v ← v.selectChannel attempt
    let v ← v.openPort attempt
    v.configureChannel attempt) := by
  refine (v.callStatus_keeps attempt _).bind fun w same => ?_
  rw [← same]
  refine (w.selectChannel_keeps attempt).bind fun w same => ?_
  rw [← same]
  refine (w.openPort_keeps attempt).bind fun w same => ?_
  rw [← same]
  exact w.configureChannel_keeps attempt

theorem stop_frame : v.stop.1.frame = (v.dll,v.cfg,false) := by
  have kept := ({ v with initialized := false } : VectorDevice).shutDown_keeps
    (v.initialized && v.dll.isSome)
  unfold stop
  dsimp only
  split
  · rename_i stopped
    rw [stopped] at kept
    exact kept
  · rename_i stopped
    rw [stopped] at kept
    exact kept.1

theorem stop_found (proc : Procedure) : v.stop.2 ≠ .error (.failed (.procNotFound proc)) := by
  have kept := ({ v with initialized := false } : VectorDevice).shutDown_keeps
    (v.initialized && v.dll.isSome)
  unfold stop
  dsimp only
  split
  · exact nofun
  · rename_i stopped
    rw [stopped] at kept
    exact fun equal => kept.2 proc (Except.error.inj equal)

theorem stop_idle (idle : v.initialized = false) : v.stop.1.calls = v.calls := by
  unfold stop
  rw [idle]
  rfl

end VectorDevice

/-- What holds between the calls of a run in which every attempt can trust the library. -/
structure Consistent (v : VectorDevice) : Prop where
  normal : v.dll.isSome → v.cfg.normalized = .ok v.cfg
  opened : v.initialized = true → ∃ exports, v.dll = some exports ∧ Complete exports
  provided : ∀ proc ∈ v.calls, v.Provides proc

theorem Consistent.stop {v : VectorDevice} (consistent : Consistent v) : Consistent v.stop.1 := by
  obtain ⟨normal,opened,provided⟩ := consistent
  have same := v.stop_frame
  obtain ⟨dll,cfg,off⟩ : v.stop.1.dll = v.dll ∧ v.stop.1.cfg = v.cfg ∧ v.stop.1.initialized = false := by
    simpa [VectorDevice.frame] using same
  refine ⟨?_,?_,?_⟩
  · rw [dll,cfg]
    exact normal
  · intro on
    cases off.symm.trans on
  · intro proc member
    cases on : v.initialized with
    | true =>
      obtain ⟨exports,loaded,complete⟩ := opened on
      exact ⟨exports,dll.trans loaded,complete proc⟩
    | false =>
      rw [v.stop_idle on] at member
      obtain ⟨exports,loaded,has⟩ := provided proc member
      exact ⟨exports,dll.trans loaded,has⟩

theorem Keeps.conclude {frame : Option Exports × BusConfig × Bool} {opened : Operation}
    (keeps : Keeps frame opened) :
    (VectorDevice.conclude opened).1.dll = frame.1 ∧ (VectorDevice.conclude opened).1.cfg = frame.2.1 ∧
      ∀ proc, (VectorDevice.conclude opened).2 ≠ .error (.failed (.procNotFound proc)) := by
  cases opened with
  | ok v =>
    cases keeps
    exact ⟨rfl,rfl,nofun⟩
  | error halted =>
    obtain ⟨v,halt⟩ := halted
    obtain ⟨rfl,other⟩ := keeps
    cases halt with
    | panicked => exact ⟨rfl,rfl,nofun⟩
    | failed error =>
      have kept := v.cleanup_keeps
      simp only [VectorDevice.conclude]
      split
      · rename_i cleaned
        rw [cleaned] at kept
        refine ⟨congrArg Prod.fst kept,congrArg (·.2.1) kept,fun proc equal => other proc ?_⟩
        exact congrArg Halt.failed (Halt.failed.inj (Except.error.inj equal))
      · rename_i cleaned
        rw [cleaned] at kept
        refine ⟨congrArg Prod.fst kept.1,congrArg (·.2.1) kept.1,fun proc equal => kept.2 proc ?_⟩
        exact Except.error.inj equal

theorem load_complete {v : VectorDevice} {attempt : Attempt} {cfg : BusConfig}
    (fresh : v.dll = none) {exports : Exports}
    (found : firstLoaded attempt.candidates [] = .ok exports) (complete : Complete exports) :
    (v.prepared cfg).loadDLL attempt = .ok { v.prepared cfg with dll := some exports } := by
  have none_missing : (attempt.order.find? fun proc => !exports proc) = none := by
    simp [complete _]
  simp only [VectorDevice.loadDLL,VectorDevice.prepared,fresh,found,none_missing,Option.isSome_none,
    Bool.false_eq_true,if_false]

section attempt

variable {v w : VectorDevice} {attempt : Attempt} {cfg : BusConfig} (off : v.initialized = false)
  (valid : v.cfg.normalized = .ok cfg)

include off valid

theorem initialize_eq : v.initializeDevice attempt =
    VectorDevice.conclude ((v.prepared cfg).openDevice attempt) := by
  rw [VectorDevice.initializeDevice,off,valid]
  rfl

theorem initialize_loaded (loaded : (v.prepared cfg).loadDLL attempt = .ok w) :
    (v.initializeDevice attempt).1.dll = w.dll ∧ (v.initializeDevice attempt).1.cfg = w.cfg ∧
      ∀ proc, (v.initializeDevice attempt).2 ≠ .error (.failed (.procNotFound proc)) := by
  have kept : Keeps w.frame ((v.prepared cfg).openDevice attempt) := by
    rw [VectorDevice.openDevice,loaded]
    exact w.driverOpened_keeps attempt
  rw [initialize_eq off valid]
  exact kept.conclude

theorem initialize_unloaded (fresh : v.dll = none) {errs : List (String × String)}
    (found : firstLoaded attempt.candidates [] = .error errs) : v.initializeDevice attempt =
      (v.prepared cfg,.error (.failed (.load errs))) := by
  have missing : (v.prepared cfg).loadDLL attempt = .error (v.prepared cfg,.failed (.load errs)) := by
    simp only [VectorDevice.loadDLL,VectorDevice.prepared,fresh,found,Option.isSome_none,
      Bool.false_eq_true,if_false]
  rw [initialize_eq off valid,VectorDevice.openDevice,missing]
  change VectorDevice.conclude (.error (v.prepared cfg,.failed (.load errs))) = _
  rw [VectorDevice.conclude,(v.prepared cfg).cleanup_unloaded fresh]
  rfl

/-- An attempt that finds a library without all procedures calls the one that closes the driver. -/
theorem initialize_partial (fresh : v.dll = none) {exports : Exports}
    (found : firstLoaded attempt.candidates [] = .ok exports) (incomplete : ¬ Complete exports) :
    ∃ proc, exports proc = false ∧ v.initializeDevice attempt =
      ({ v.prepared cfg with dll := some exports, calls := v.calls ++ [.closeDriver] },
        if exports .closeDriver then .error (.failed (.procNotFound proc))
        else .error (.panicked .closeDriver)) := by
  obtain ⟨absent,lacks⟩ := not_forall.mp incomplete
  have some_missing : (attempt.order.find? fun proc => !exports proc).isSome := by
    rw [List.find?_isSome]
    exact ⟨absent,attempt.covers absent,by simpa using lacks⟩
  obtain ⟨proc,missing⟩ := Option.isSome_iff_exists.mp some_missing
  refine ⟨proc,by simpa using List.find?_some missing,?_⟩
  have stuck : (v.prepared cfg).loadDLL attempt =
      .error ({ v.prepared cfg with dll := some exports },.failed (.procNotFound proc)) := by
    simp only [VectorDevice.loadDLL,VectorDevice.prepared,fresh,found,missing,Option.isSome_none,
      Bool.false_eq_true,if_false]
  rw [initialize_eq off valid,VectorDevice.openDevice,stuck]
  change VectorDevice.conclude (.error ({ v.prepared cfg with dll := some exports },
    .failed (.procNotFound proc))) = _
  rw [VectorDevice.conclude,VectorDevice.cleanup_loaded _ rfl rfl]
  split_ifs <;> rfl

end attempt

theorem load_ok {v w : VectorDevice} {attempt : Attempt} (fresh : v.dll = none)
    (loaded : v.loadDLL attempt = .ok w) : ∃ exports, w.dll = some exports ∧ Complete exports := by
  unfold VectorDevice.loadDLL at loaded
  rw [fresh,Option.isSome_none,if_neg Bool.false_ne_true] at loaded
  cases found : firstLoaded attempt.candidates [] with
  | error errs => simp [found] at loaded
  | ok exports =>
    simp only [found] at loaded
    split at loaded
    · cases loaded
    · rename_i none_missing
      cases Except.ok.inj loaded
      refine ⟨exports,rfl,fun proc => ?_⟩
      have here := List.find?_eq_none.mp none_missing proc (attempt.covers proc)
      simpa using here

theorem perform_cases (v : VectorDevice) (request : Request) :
    ((v.perform request).1 = v ∧ ∀ proc, (v.perform request).2 ≠ .error (.failed (.procNotFound proc))) ∨
    (request = .stop ∧ v.perform request = v.stop) ∨
    ∃ attempt cfg, request = .initializeDevice attempt ∧ v.initialized = false ∧
      v.cfg.normalized = .ok cfg := by
  cases request with
  | stop => exact .inr (.inl ⟨rfl,rfl⟩)
  | initializeDevice attempt =>
    simp only [VectorDevice.perform]
    cases on : v.initialized with
    | true =>
      have same : v.initializeDevice attempt = (v,.ok ()) := by rw [VectorDevice.initializeDevice,if_pos on]
      rw [same]
      exact .inl ⟨rfl,nofun⟩
    | false =>
      cases valid : v.cfg.normalized with
      | error error =>
        have same : v.initializeDevice attempt = (v,.error (.failed (.config error))) := by
          rw [VectorDevice.initializeDevice,on,valid]
          rfl
        rw [same]
        exact .inl ⟨rfl,nofun⟩
      | ok cfg => exact .inr (.inr ⟨attempt,cfg,rfl,rfl,rfl⟩)

theorem attempt_cases {v : VectorDevice} (attempt : Attempt) {cfg : BusConfig}
    (off : v.initialized = false) (valid : v.cfg.normalized = .ok cfg) :
    (∃ exports, (v.dll = some exports ∨ v.dll = none ∧ Complete exports) ∧
      (v.initializeDevice attempt).1.dll = some exports ∧ (v.initializeDevice attempt).1.cfg = cfg ∧
      ∀ proc, (v.initializeDevice attempt).2 ≠ .error (.failed (.procNotFound proc))) ∨
    (v.dll = none ∧ ∃ errs, v.initializeDevice attempt =
      (v.prepared cfg,.error (.failed (.load errs)))) ∨
    (v.dll = none ∧ ∃ exports proc, firstLoaded attempt.candidates [] = .ok exports ∧
      exports proc = false ∧ v.initializeDevice attempt =
        ({ v.prepared cfg with dll := some exports, calls := v.calls ++ [.closeDriver] },
          if exports .closeDriver then .error (.failed (.procNotFound proc))
          else .error (.panicked .closeDriver))) := by
  cases stored : v.dll with
  | some exports =>
    obtain ⟨dll,cfgSame,found⟩ := initialize_loaded off valid
      ((v.prepared cfg).loadDLL_stored attempt (show (v.prepared cfg).dll = some exports from stored))
    exact .inl ⟨exports,.inl rfl,dll.trans stored,cfgSame,found⟩
  | none =>
    cases loads : firstLoaded attempt.candidates [] with
    | error errs => exact .inr (.inl ⟨rfl,errs,initialize_unloaded off valid stored loads⟩)
    | ok exports =>
      by_cases complete : Complete exports
      · obtain ⟨dll,cfgSame,found⟩ := initialize_loaded off valid (load_complete stored loads complete)
        exact .inl ⟨exports,.inr ⟨rfl,complete⟩,dll,cfgSame,found⟩
      · obtain ⟨proc,lacks,ended⟩ := initialize_partial off valid stored loads complete
        exact .inr (.inr ⟨rfl,exports,proc,rfl,lacks,ended⟩)

/-- The library is there without some procedure, and an attempt would get to `loadDLL`. -/
def Stuck (v : VectorDevice) : Prop :=
  v.initialized = false ∧ v.cfg.normalized = .ok v.cfg ∧
    ∃ exports, v.dll = some exports ∧ ¬ Complete exports

section step

variable {v w : VectorDevice} {move : Move} (step : Move.Step v move w)

include step

theorem step_consistent (consistent : Consistent v) (trustworthy : move.Trustworthy) : Consistent w := by
  obtain ⟨before,request,result,after⟩ := move
  obtain ⟨rfl,rfl,taken⟩ := step
  dsimp only at *
  rcases perform_cases before request with ⟨same,_⟩ | ⟨_,same⟩ | ⟨attempt,cfg,rfl,off,valid⟩
  · rw [taken] at same
    have kept : after = before := same
    rw [kept]
    exact consistent
  · have stopped : before.stop.1 = after := congrArg Prod.fst (same.symm.trans taken)
    exact stopped ▸ consistent.stop
  · obtain ⟨stored,fresh⟩ := trustworthy attempt cfg ⟨rfl,off,valid⟩
    have normal := BusConfig.normalized_normalized valid
    have ended : before.initializeDevice attempt = (after,result) := taken
    rcases attempt_cases attempt off valid with ⟨exports,whole,dll,cfgSame,_⟩ | ⟨unloaded,errs,failed⟩ |
      ⟨unloaded,exports,proc,loads,_,failed⟩
    · have complete : Complete exports := by
        rcases whole with old | ⟨_,new⟩
        · exact stored exports old
        · exact new
      rw [ended] at dll cfgSame
      refine ⟨fun _ => ?_,fun _ => ⟨exports,dll,complete⟩,fun proc _ => ⟨exports,dll,complete proc⟩⟩
      rw [show after.cfg = cfg from cfgSame]
      exact normal
    · cases ended.symm.trans failed
      refine ⟨fun _ => normal,fun on => (nomatch off.symm.trans on),fun proc member => ?_⟩
      obtain ⟨_,loaded,_⟩ := consistent.provided proc member
      cases unloaded.symm.trans loaded
    · cases ended.symm.trans failed
      refine ⟨fun _ => normal,fun on => (nomatch off.symm.trans on),fun called member => ?_⟩
      rcases List.mem_append.mp member with old | new
      · obtain ⟨_,loaded,_⟩ := consistent.provided called old
        cases unloaded.symm.trans loaded
      · cases List.mem_singleton.mp new
        exact ⟨exports,rfl,fresh unloaded exports loads⟩

theorem step_stuck (stuck : Stuck v) (trustworthy : move.Trustworthy) :
    Stuck w ∧ ∀ attempt, move.request ≠ .initializeDevice attempt := by
  obtain ⟨before,request,result,after⟩ := move
  obtain ⟨rfl,rfl,taken⟩ := step
  dsimp only at *
  obtain ⟨off,valid,exports,loaded,incomplete⟩ := stuck
  have never : ∀ attempt, request ≠ .initializeDevice attempt := by
    rintro attempt rfl
    exact incomplete ((trustworthy attempt before.cfg ⟨rfl,off,valid⟩).1 exports loaded)
  refine ⟨?_,never⟩
  cases request with
  | initializeDevice attempt => exact absurd rfl (never attempt)
  | stop =>
    have stopped : before.stop.1 = after := congrArg Prod.fst taken
    have same := before.stop_frame
    rw [stopped] at same
    simp only [VectorDevice.frame,Prod.mk.injEq] at same
    obtain ⟨dll,cfg,idle⟩ := same
    refine ⟨idle,?_,exports,dll.trans loaded,incomplete⟩
    rw [cfg]
    exact valid

/-- A call that misses a procedure leaves the device with a library that lacks some. -/
theorem step_missing (missing : move.Missing) : Stuck w := by
  obtain ⟨before,request,result,after⟩ := move
  obtain ⟨rfl,rfl,taken⟩ := step
  obtain ⟨proc,missed⟩ := missing
  dsimp only at *
  subst missed
  rcases perform_cases before request with ⟨_,found⟩ | ⟨_,same⟩ | ⟨attempt,cfg,rfl,off,valid⟩
  · exact absurd (congrArg Prod.snd taken) (found proc)
  · exact absurd (congrArg Prod.snd (same.symm.trans taken)) (before.stop_found proc)
  · have normal := BusConfig.normalized_normalized valid
    have ended : before.initializeDevice attempt = (after,.error (.failed (.procNotFound proc))) := taken
    rcases attempt_cases attempt off valid with ⟨_,_,_,_,found⟩ | ⟨_,errs,failed⟩ |
      ⟨_,exports,other,_,lacks,failed⟩
    · exact absurd (congrArg Prod.snd ended) (found proc)
    · cases ended.symm.trans failed
    · have same := congrArg Prod.fst (ended.symm.trans failed)
      dsimp only at same
      rw [same]
      refine ⟨off,normal,exports,rfl,fun complete => ?_⟩
      cases lacks.symm.trans (complete other)

theorem step_trustworthy
    (complete : ∀ attempt cfg u, move.Loads attempt cfg →
      (move.before.prepared cfg).loadDLL attempt = .ok u →
      ∃ exports, u.dll = some exports ∧ Complete exports)
    (provided : ∀ proc ∈ move.after.calls, move.after.Provides proc) : move.Trustworthy := by
  obtain ⟨before,request,result,after⟩ := move
  obtain ⟨rfl,rfl,taken⟩ := step
  dsimp only at *
  rintro attempt cfg ⟨rfl,off,valid⟩
  refine ⟨fun exports stored => ?_,fun fresh exports loads => ?_⟩
  · have loaded : (before.prepared cfg).dll = some exports := stored
    obtain ⟨whole,same,all⟩ := complete attempt cfg _ ⟨rfl,off,valid⟩
      ((before.prepared cfg).loadDLL_stored attempt loaded)
    cases Option.some.inj (loaded.symm.trans same)
    exact all
  · by_cases all : Complete exports
    · exact all .closeDriver
    · obtain ⟨proc,_,failed⟩ := initialize_partial off valid fresh loads all
      have ended : before.initializeDevice attempt = (after,result) := taken
      have same := congrArg Prod.fst (ended.symm.trans failed)
      dsimp only at same
      rw [same] at provided
      obtain ⟨whole,equal,has⟩ := provided .closeDriver (by simp)
      cases Option.some.inj equal
      exact has

end step

theorem new_consistent (cfg : BusConfig) : Consistent (new cfg) :=
  ⟨nofun,nofun,nofun⟩

section run

variable {v w : VectorDevice} {moves : List Move}

theorem run_consistent (run : Run Move.Step v moves w) (consistent : Consistent v)
    (trustworthy : ∀ move ∈ moves, move.Trustworthy) : Consistent w := by
  induction run with
  | nil => exact consistent
  | snoc _ last ih =>
    exact step_consistent last (ih fun move member => trustworthy move (by simp [member]))
      (trustworthy _ (by simp))

theorem run_stuck (run : Run Move.Step v moves w) (stuck : Stuck v)
    (trustworthy : ∀ move ∈ moves, move.Trustworthy) : Stuck w := by
  induction run with
  | nil => exact stuck
  | snoc _ last ih =>
    exact (step_stuck last (ih fun move member => trustworthy move (by simp [member]))
      (trustworthy _ (by simp))).1

end run

/-- In a run from a new device nothing that is missing is trusted or called exactly when every
attempt that gets to `loadDLL` finds a complete library stored, or none and one to load that has
the procedure for closing the driver. -/
theorem safe_iff {cfg : BusConfig} {v : VectorDevice} {moves : List Move}
    (run : Run Move.Step (new cfg) moves v) :
    Safe moves ↔ ∀ move ∈ moves, move.Trustworthy := by
  constructor
  · intro safe move member
    obtain ⟨_,_,_,_,_,_,step,_⟩ := run.cut_mem member
    exact step_trustworthy step (safe.complete move member) (safe.provided move member)
  · intro trustworthy
    refine ⟨?_,?_,?_⟩
    · rintro move member attempt config w ⟨request,off,valid⟩ loaded
      obtain ⟨stored,_⟩ := trustworthy move member attempt config ⟨request,off,valid⟩
      cases dll : move.before.dll with
      | some exports =>
        have same := (move.before.prepared config).loadDLL_stored attempt dll
        cases Except.ok.inj (same.symm.trans loaded)
        exact ⟨exports,dll,stored exports dll⟩
      | none => exact load_ok (v := move.before.prepared config) dll loaded
    · intro move member
      obtain ⟨past,later,before,after,shape,first,step,_⟩ := run.cut_mem member
      have consistent := run_consistent (first.snoc step) (new_consistent cfg) (by
        intro other inside
        apply trustworthy
        rw [shape]
        rcases List.mem_append.mp inside with old | new
        · simp [old]
        · simp [List.mem_singleton.mp new])
      obtain ⟨_,rfl,_⟩ := step
      exact consistent.provided
    · rintro past first between second later rfl missing attempt request
      rw [List.append_assoc,List.cons_append] at run
      obtain ⟨_,after,_,missed,rest⟩ := run.cut
      obtain ⟨before,_,waits,again,_⟩ := rest.cut
      have stuck := run_stuck waits (step_missing missed missing) fun move member =>
        trustworthy move (by simp [member])
      exact absurd request ((step_stuck again stuck (trustworthy second (by simp))).2 attempt)

/-- The run of some calls. -/
def execute (v : VectorDevice) (requests : List Request) : Option (List Move × VectorDevice) :=
  Runs.execute (fun v request =>
    some (⟨v,request,(v.perform request).2,(v.perform request).1⟩,(v.perform request).1)) v requests

theorem execute_run {v w : VectorDevice} {requests : List Request} {moves : List Move}
    (executed : execute v requests = some (moves,w)) : Run Move.Step v moves w := by
  refine Runs.execute_run ?_ executed
  intro u request move t taken
  cases Option.some.inj taken
  exact ⟨rfl,rfl,rfl⟩

def procedures : List Procedure :=
  [.openDriver,.closeDriver,.openPort,.closePort,.getChannelIndex,.activateChannel,
    .deactivateChannel,.canSetChannelBitrate,.canFdSetConfiguration,.canSetChannelOutput,
    .canSetChannelMode,.receive,.canReceive,.canTransmit,.canTransmitEx]

theorem mem_procedures (proc : Procedure) : proc ∈ procedures := by
  cases proc <;> decide

/-- An attempt with one library in which every call succeeds. -/
def willing (exports : Exports) : Attempt :=
  ⟨[("vxlapi64.dll",.ok exports)],procedures,mem_procedures,fun _ => 0,0,1,1⟩

theorem safe_iff_complete : ∃ moves v,
    Run Move.Step (new (.default Mode.fd 0)) moves v ∧ v.initialized = true ∧ Safe moves := by
  have executed : execute (new (.default Mode.fd 0)) [.initializeDevice (willing fun _ => true)] =
      some _ := rfl
  have run := execute_run executed
  refine ⟨_,_,run,rfl,(safe_iff run).mpr ?_⟩
  intro move member attempt cfg loads
  cases List.mem_singleton.mp member
  obtain ⟨request,_⟩ := loads
  cases Request.initializeDevice.inj request
  refine ⟨nofun,fun _ exports found => ?_⟩
  cases Except.ok.inj found
  rfl

/-- A library without `xlReceive` makes the first attempt fail and the second one succeed. -/
theorem partial_library_trusted : ∃ moves v,
    Run Move.Step (new (.default Mode.fd 0)) moves v ∧ v.initialized = true ∧ ¬ Safe moves := by
  have executed : execute (new (.default Mode.fd 0))
      [.initializeDevice (willing fun proc => proc != .receive),.stop,
        .initializeDevice (willing fun proc => proc != .receive)] = some _ := rfl
  refine ⟨_,_,execute_run executed,rfl,fun safe => ?_⟩
  obtain ⟨proc,missed⟩ := safe.again [] _ [_] _ [] rfl ⟨.receive,rfl⟩ _ rfl
  cases missed

end Canbuskit.Driver.VectorOpen
