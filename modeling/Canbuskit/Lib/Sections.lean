import Canbuskit.Lib.Runs

/-! Programs that run one at a time under a lock, beside a goroutine that they launch and wait for
and that reads what they write. Both call an environment that does not accept every call in every
state. Programs that meet their weakest preconditions make only calls that are accepted, and every one
of them can end. -/
namespace Canbuskit.Sections
open Runs

variable {State Call Reply Value Other Env Loop Choice Op : Type}

/-- An update reads the state and changes it in one step. Launching says whether it has launched,
which it has not when the goroutine was there. -/
inductive Program (State Call Reply Value : Type) where
  | done (value : Value)
  | update (act : State → State) (next : State → Program State Call Reply Value)
  | call (name : Call) (next : Reply → Program State Call Reply Value)
  | launch (next : Bool → Program State Call Reply Value)
  | await (next : Program State Call Reply Value)

namespace Program

def bind (p : Program State Call Reply Value) (f : Value → Program State Call Reply Other) :
    Program State Call Reply Other :=
  match p with
  | .done value => f value
  | .update act next => .update act fun state => (next state).bind f
  | .call name next => .call name fun reply => (next reply).bind f
  | .launch next => .launch fun launched => (next launched).bind f
  | .await next => .await (next.bind f)

instance : Monad (Program State Call Reply) where
  pure := .done
  bind := bind

def read : Program State Call Reply State := .update id .done

def write (act : State → State) : Program State Call Reply Unit := .update act fun _ => .done ()

def request (name : Call) : Program State Call Reply Reply := .call name .done

def start : Program State Call Reply Bool := .launch .done

def wait : Program State Call Reply Unit := .await (.done ())

end Program

/-- What an environment makes of a call: `none` is a call that it does not accept. -/
abbrev Accept (Env Call Reply : Type) := Env → Call → Reply → Option Env

def Accepts (accept : Accept Env Call Reply) (env : Env) (calls : List (Call × Reply)) (final : Env) : Prop :=
  calls.foldlM (fun env made => accept env made.1 made.2) env = some final

theorem Accepts.snoc {accept : Accept Env Call Reply} {env middle final : Env}
    {calls : List (Call × Reply)} {name : Call} {reply : Reply} (before : Accepts accept env calls middle)
    (last : accept middle name reply = some final) : Accepts accept env (calls ++ [(name,reply)]) final := by
  unfold Accepts at before ⊢
  rw [List.foldlM_append,before]
  simp [last]

/-- What the goroutine relies on, which the calls of a program must therefore leave, and when it can
be waited for. -/
structure Rules (State Env Call Reply : Type) where
  accept : Accept Env Call Reply
  up : State → Env → Prop
  leaving : State → Prop

namespace Program

variable (rules : Rules State Env Call Reply)

/-- The weakest precondition. A program knows that it is alone once it has waited; before that it
keeps what the goroutine relies on. -/
def wp (post : Value → Bool → State → Env → Prop) :
    Program State Call Reply Value → Bool → State → Env → Prop
  | .done value, alone, state, env => post value alone state env
  | .update act next, alone, state, env =>
    (alone = false → rules.up state env → rules.up (act state) env) ∧
      (next state).wp post alone (act state) env
  | .call name next, alone, state, env => ∀ reply, ∃ later, rules.accept env name reply = some later ∧
      (alone = false → rules.up state env → rules.up state later) ∧
      (next reply).wp post alone state later
  | .launch next, alone, state, env => rules.up state env ∧ (next true).wp post false state env ∧
      (alone = false → (next false).wp post false state env)
  | .await next, alone, state, env =>
    (alone = false → rules.up state env → rules.leaving state) ∧ next.wp post true state env

variable {rules}

theorem wp_bind {post : Other → Bool → State → Env → Prop} {p : Program State Call Reply Value}
    {f : Value → Program State Call Reply Other} {alone : Bool} {state : State} {env : Env} :
    (p >>= f).wp rules post alone state env ↔
      p.wp rules (fun value alone state env => (f value).wp rules post alone state env) alone state env := by
  change (p.bind f).wp rules post alone state env ↔ _
  induction p generalizing alone state env with
  | done => rfl
  | update act next ih | call name next ih | launch next ih | await next ih => simp only [bind,wp,ih]

section primitives

variable {post : Value → Bool → State → Env → Prop} {alone : Bool} {state : State} {env : Env}

@[simp] theorem wp_pure (value : Value) :
    (pure value : Program State Call Reply Value).wp rules post alone state env ↔
      post value alone state env := Iff.rfl

@[simp] theorem wp_read {post : State → Bool → State → Env → Prop} :
    (read : Program State Call Reply State).wp rules post alone state env ↔
      post state alone state env := by
  simp [read,wp]

@[simp] theorem wp_write {post : Unit → Bool → State → Env → Prop} (act : State → State) :
    (write act : Program State Call Reply Unit).wp rules post alone state env ↔
      (alone = false → rules.up state env → rules.up (act state) env) ∧
        post () alone (act state) env := Iff.rfl

@[simp] theorem wp_request {post : Reply → Bool → State → Env → Prop} (name : Call) :
    (request name : Program State Call Reply Reply).wp rules post alone state env ↔
      ∀ reply, ∃ later, rules.accept env name reply = some later ∧
        (alone = false → rules.up state env → rules.up state later) ∧
        post reply alone state later := Iff.rfl

@[simp] theorem wp_start {post : Bool → Bool → State → Env → Prop} :
    (start : Program State Call Reply Bool).wp rules post alone state env ↔
      rules.up state env ∧ post true false state env ∧ (alone = false → post false false state env) :=
  Iff.rfl

@[simp] theorem wp_wait {post : Unit → Bool → State → Env → Prop} :
    (wait : Program State Call Reply Unit).wp rules post alone state env ↔
      (alone = false → rules.up state env → rules.leaving state) ∧ post () true state env :=
  Iff.rfl

theorem wp_ite {condition : Prop} [Decidable condition] {p q : Program State Call Reply Value} :
    (if condition then p else q).wp rules post alone state env ↔
      if condition then p.wp rules post alone state env else q.wp rules post alone state env := by
  split_ifs <;> rfl

theorem wp_mono {weaker : Value → Bool → State → Env → Prop} {p : Program State Call Reply Value}
    (holds : p.wp rules post alone state env)
    (implies : ∀ value alone state env, post value alone state env → weaker value alone state env) :
    p.wp rules weaker alone state env := by
  induction p generalizing alone state env with
  | done value => exact implies _ _ _ _ holds
  | update act next ih => exact ⟨holds.1,ih _ holds.2⟩
  | call name next ih =>
    intro reply
    obtain ⟨later,accepted,kept,rest⟩ := holds reply
    exact ⟨later,accepted,kept,ih _ rest⟩
  | launch next ih => exact ⟨holds.1,ih _ holds.2.1,fun beside => ih _ (holds.2.2 beside)⟩
  | await next ih => exact ⟨holds.1,ih holds.2⟩

end primitives

end Program

/-- The programs that may run under the lock, and the goroutine that they launch. -/
structure Machine (State Call Reply Value Op Loop Choice : Type) where
  body : Op → Program State Call Reply Value
  first : Loop
  react : State → Loop → Choice → Option (Option (Call × Reply) × Option Loop)

/-- The goroutine can end from here, while nothing else goes on. -/
inductive Machine.Ends (machine : Machine State Call Reply Value Op Loop Choice) (state : State) :
    Loop → Prop where
  | last {loop choice call} : machine.react state loop choice = some (call,none) → Ends machine state loop
  | next {loop choice call later} : machine.react state loop choice = some (call,some later) →
    Ends machine state later → Ends machine state loop

structure World (State Call Reply Value Loop : Type) where
  state : State
  holder : Option (Program State Call Reply Value)
  companion : Option Loop

inductive Turn (Reply Op Choice : Type) where
  | begins (op : Op)
  | goes
  | answered (reply : Reply)
  | companion (choice : Choice)

/-- A step with the call that it makes. -/
structure Made (Call Reply Op Choice : Type) where
  turn : Turn Reply Op Choice
  call : Option (Call × Reply)

namespace World

variable (machine : Machine State Call Reply Value Op Loop Choice)

def rest (state : State) : World State Call Reply Value Loop := ⟨state,none,none⟩

def react (w : World State Call Reply Value Loop) :
    Turn Reply Op Choice → Option (Option (Call × Reply) × World State Call Reply Value Loop)
  | .begins op => match w.holder with
    | none => some (none,{ w with holder := some (machine.body op) })
    | some _ => none
  | .goes => match w.holder with
    | some (.done _) => some (none,{ w with holder := none })
    | some (.update act next) =>
      some (none,{ w with state := act w.state, holder := some (next w.state) })
    | some (.launch next) => match w.companion with
      | none => some (none,{ w with holder := some (next true), companion := some machine.first })
      | some _ => some (none,{ w with holder := some (next false) })
    | some (.await next) => match w.companion with
      | none => some (none,{ w with holder := some next })
      | some _ => none
    | some (.call _ _) => none
    | none => none
  | .answered reply => match w.holder with
    | some (.call name next) => some (some (name,reply),{ w with holder := some (next reply) })
    | _ => none
  | .companion choice => match w.companion with
    | none => none
    | some loop => (machine.react w.state loop choice).map fun next =>
        (next.1,{ w with companion := next.2 })

end World

def Made.Step (machine : Machine State Call Reply Value Op Loop Choice)
    (w : World State Call Reply Value Loop) (made : Made Call Reply Op Choice)
    (v : World State Call Reply Value Loop) : Prop :=
  w.react machine made.turn = some (made.call,v)

/-- Every program can start from where the others end, the goroutine's calls are accepted and change
nothing while what it relies on holds, and it can end when it can be waited for. -/
structure Machine.Meets (machine : Machine State Call Reply Value Op Loop Choice)
    (rules : Rules State Env Call Reply) (rested : State → Env → Prop) : Prop where
  body : ∀ op alone state env, rested state env → (alone = false → rules.up state env) →
    (machine.body op).wp rules (fun _ _ state env => rested state env) alone state env
  companion : ∀ state env loop choice name reply next, rules.up state env →
    machine.react state loop choice = some (some (name,reply),next) →
    rules.accept env name reply = some env
  ends : ∀ state env loop, rules.up state env → rules.leaving state → machine.Ends state loop

/-- What holds between the steps: the goroutine finds what it relies on, and the program under the
lock can go on. -/
structure World.Sound (rules : Rules State Env Call Reply) (rested : State → Env → Prop)
    (w : World State Call Reply Value Loop) (env : Env) : Prop where
  companion : w.companion ≠ none → rules.up w.state env
  holder : match w.holder with
    | none => rested w.state env
    | some p => ∃ alone, (alone = true → w.companion = none) ∧
        p.wp rules (fun _ _ state env => rested state env) alone w.state env

/-- The environment's part in a step. -/
def Made.Moves (rules : Rules State Env Call Reply) (made : Made Call Reply Op Choice)
    (env later : Env) : Prop :=
  match made.call with
  | none => later = env
  | some (name,reply) => rules.accept env name reply = some later

variable {machine : Machine State Call Reply Value Op Loop Choice} {rules : Rules State Env Call Reply}
  {rested : State → Env → Prop} {w v : World State Call Reply Value Loop}
  {made : Made Call Reply Op Choice} {env : Env}

theorem Made.Step.sound (meets : machine.Meets rules rested) (sound : w.Sound rules rested env)
    (step : Made.Step machine w made v) : ∃ later, made.Moves rules env later ∧ v.Sound rules rested later := by
  obtain ⟨turn,call⟩ := made
  obtain ⟨state,holder,companion⟩ := w
  obtain ⟨present,held⟩ := sound
  dsimp only at present held
  unfold Made.Step at step
  cases turn with
  | begins op =>
    cases holder with
    | some => contradiction
    | none =>
      cases step
      refine ⟨env,rfl,present,companion.isNone,by simp,meets.body op _ state env held ?_⟩
      intro beside
      exact present (by simpa [← Option.isSome_iff_ne_none] using beside)
  | goes =>
    cases holder with
    | none => contradiction
    | some p =>
      obtain ⟨alone,none,holds⟩ := held
      have gone (beside : companion ≠ .none) : alone = false := by
        by_contra still
        exact beside (none (by simpa using still))
      cases p with
      | call => contradiction
      | done value =>
        cases step
        exact ⟨env,rfl,present,holds⟩
      | update act next =>
        cases step
        refine ⟨env,rfl,?_,alone,none,holds.2⟩
        intro beside
        exact holds.1 (gone beside) (present beside)
      | launch next =>
        cases companion with
        | none =>
          cases step
          exact ⟨env,rfl,fun _ => holds.1,false,by simp,holds.2.1⟩
        | some loop =>
          cases step
          have beside := gone (by simp)
          exact ⟨env,rfl,present,false,by simp,holds.2.2 beside⟩
      | await next =>
        cases companion with
        | some => contradiction
        | none =>
          cases step
          exact ⟨env,rfl,by simp,true,by simp,holds.2⟩
  | answered reply =>
    cases holder with
    | none => contradiction
    | some p =>
      obtain ⟨alone,none,holds⟩ := held
      cases p with
      | call name next =>
        cases step
        obtain ⟨later,accepted,kept,rest⟩ := holds reply
        refine ⟨later,accepted,?_,alone,none,rest⟩
        intro beside
        refine kept ?_ (present beside)
        by_contra still
        exact beside (none (by simpa using still))
      | _ => contradiction
  | companion choice =>
    cases companion with
    | none => contradiction
    | some loop =>
      have up := present (by simp)
      obtain ⟨⟨called,next⟩,reacted,same⟩ := Option.map_eq_some_iff.mp step
      cases same
      have after : (⟨state,holder,next⟩ : World State Call Reply Value Loop).Sound rules rested env := by
        refine ⟨fun _ => up,?_⟩
        cases holder with
        | none => exact held
        | some p =>
          obtain ⟨alone,none,holds⟩ := held
          exact ⟨alone,fun alone => absurd (none alone) (by simp),holds⟩
      cases call with
      | none => exact ⟨env,rfl,after⟩
      | some made => exact ⟨env,meets.companion _ _ _ _ _ _ _ up reacted,after⟩

/-- The environment accepts every call of a run, and whenever nothing holds the lock the programs
have left everything as they must find it. -/
theorem run_accepts (meets : machine.Meets rules rested) {labels : List (Made Call Reply Op Choice)}
    (run : Run (Made.Step machine) w labels v) (sound : w.Sound rules rested env) :
    ∃ later, Accepts rules.accept env (labels.filterMap Made.call) later ∧ v.Sound rules rested later := by
  induction run with
  | nil => exact ⟨env,rfl,sound⟩
  | @snoc labels made _ _ _ last ih =>
    obtain ⟨middle,before,between⟩ := ih
    obtain ⟨later,moves,after⟩ := last.sound meets between
    refine ⟨later,?_,after⟩
    rw [List.filterMap_append]
    cases call : made.call with
    | none =>
      rw [Made.Moves,call] at moves
      simpa [call,moves] using before
    | some called =>
      rw [Made.Moves,call] at moves
      simpa [call] using before.snoc moves

theorem Machine.Ends.run {state : State} {loop : Loop} (ends : machine.Ends state loop)
    (holder : Option (Program State Call Reply Value)) :
    ∃ labels, Run (Made.Step machine) ⟨state,holder,some loop⟩ labels ⟨state,holder,none⟩ := by
  induction ends with
  | @last loop choice call reacted =>
    have step : Made.Step machine ⟨state,holder,some loop⟩ ⟨.companion choice,call⟩ ⟨state,holder,none⟩ := by
      simp [Made.Step,World.react,reacted]
    exact ⟨_,Run.single step⟩
  | @next loop choice call later reacted _ ih =>
    obtain ⟨labels,rest⟩ := ih
    have step : Made.Step machine ⟨state,holder,some loop⟩ ⟨.companion choice,call⟩
        ⟨state,holder,some later⟩ := by
      simp [Made.Step,World.react,reacted]
    exact ⟨_,(Run.single step).append rest⟩

theorem World.Sound.before (meets : machine.Meets rules rested) (sound : w.Sound rules rested env)
    (step : Made.Step machine w made v)
    (rest : ∀ later, v.Sound rules rested later →
      ∃ labels u, Run (Made.Step machine) v labels u ∧ u.holder = none) :
    ∃ labels u, Run (Made.Step machine) w labels u ∧ u.holder = none := by
  obtain ⟨later,_,after⟩ := step.sound meets sound
  obtain ⟨labels,u,run,free⟩ := rest later after
  exact ⟨_,u,(Run.single step).append run,free⟩

/-- Whatever has happened, the program under the lock can end. -/
theorem World.Sound.finishes [Inhabited Reply] (meets : machine.Meets rules rested)
    (sound : w.Sound rules rested env) : ∃ labels v, Run (Made.Step machine) w labels v ∧ v.holder = none := by
  obtain ⟨state,holder,companion⟩ := w
  cases holder with
  | none => exact ⟨[],_,.nil,rfl⟩
  | some p =>
    induction p generalizing state companion env with
    | done value =>
      have step : Made.Step machine ⟨state,some (.done value),companion⟩ ⟨.goes,none⟩
        ⟨state,none,companion⟩ := rfl
      exact ⟨_,_,Run.single step,rfl⟩
    | update act next ih =>
      have step : Made.Step machine ⟨state,some (.update act next),companion⟩ ⟨.goes,none⟩
        ⟨act state,some (next state),companion⟩ := rfl
      exact sound.before meets step fun _ after => ih _ _ _ after
    | call name next ih =>
      have step : Made.Step machine ⟨state,some (.call name next),companion⟩
        ⟨.answered default,some (name,default)⟩ ⟨state,some (next default),companion⟩ := rfl
      exact sound.before meets step fun _ after => ih _ _ _ after
    | launch next ih =>
      cases companion with
      | none =>
        have step : Made.Step machine ⟨state,some (.launch next),none⟩ ⟨.goes,none⟩
          ⟨state,some (next true),some machine.first⟩ := rfl
        exact sound.before meets step fun _ after => ih _ _ _ after
      | some loop =>
        have step : Made.Step machine ⟨state,some (.launch next),some loop⟩ ⟨.goes,none⟩
          ⟨state,some (next false),some loop⟩ := rfl
        exact sound.before meets step fun _ after => ih _ _ _ after
    | await next ih =>
      have step : Made.Step machine ⟨state,some (.await next),none⟩ ⟨.goes,none⟩
        ⟨state,some next,none⟩ := rfl
      cases companion with
      | none => exact sound.before meets step fun _ after => ih _ _ after
      | some loop =>
        have up := sound.companion (by simp)
        obtain ⟨alone,gone,leaves,_⟩ := sound.holder
        have beside : alone = false := by
          by_contra still
          exact absurd (gone (by simpa using still)) (by simp)
        obtain ⟨labels,ended⟩ := (meets.ends _ _ loop up (leaves beside up)).run (some (.await next))
        obtain ⟨_,_,alone⟩ := run_accepts meets ended sound
        obtain ⟨rest,v,run,free⟩ := alone.before meets step fun _ after => ih _ _ after
        exact ⟨labels ++ rest,v,ended.append run,free⟩

theorem rest_sound {state : State} (rests : rested state env) :
    (World.rest state : World State Call Reply Value Loop).Sound rules rested env :=
  ⟨by simp [World.rest],rests⟩

/-- From rest on, whatever the programs, the goroutine and the environment do: every call is accepted, the
goroutine finds what it relies on, the programs leave what they must find, and they can end. -/
theorem run_rests [Inhabited Reply] (meets : machine.Meets rules rested) {state : State}
    {labels : List (Made Call Reply Op Choice)} (run : Run (Made.Step machine) (World.rest state) labels w)
    (rests : rested state env) :
    (∃ later, Accepts rules.accept env (labels.filterMap Made.call) later ∧
      (w.companion ≠ none → rules.up w.state later) ∧ (w.holder = none → rested w.state later)) ∧
    ∃ rest v, Run (Made.Step machine) w rest v ∧ v.holder = none := by
  obtain ⟨later,accepted,sound⟩ := run_accepts meets run (rest_sound rests)
  refine ⟨⟨later,accepted,sound.companion,?_⟩,sound.finishes meets⟩
  intro free
  have holder := sound.holder
  rw [free] at holder
  exact holder

def World.execute (machine : Machine State Call Reply Value Op Loop Choice)
    (w : World State Call Reply Value Loop) (turns : List (Turn Reply Op Choice)) :
    Option (List (Made Call Reply Op Choice) × World State Call Reply Value Loop) :=
  Runs.execute (fun w turn => (w.react machine turn).map fun next => (⟨turn,next.1⟩,next.2)) w turns

theorem World.execute_run {turns : List (Turn Reply Op Choice)} {labels : List (Made Call Reply Op Choice)}
    (executed : w.execute machine turns = some (labels,v)) : Run (Made.Step machine) w labels v := by
  refine Runs.execute_run ?_ executed
  intro w turn made v taken
  obtain ⟨⟨call,next⟩,reacted,same⟩ := Option.map_eq_some_iff.mp taken
  cases same
  exact reacted

end Canbuskit.Sections
