import Canbuskit.Lib.Runs
import Canbuskit.Uds.Attempt

/-! A request over an ISO-TP session while its client is closed. Every step of the request, of
the session and of `Close` is one event, and where a select has several cases ready any of them
may be taken. The events of `Close` can be taken out of a run unless they show. -/
namespace Canbuskit.Uds.Closing
open Can Runs

/-- What `Session.SendContext` fails with. -/
inductive StackError where
  | context (error : ContextError)
  | sessionClosed
  | payloadTooLong
  deriving DecidableEq

/-- Where a request stands in `SendContext`. -/
inductive SendPoint where
  | entered
  | queueing
  | failed (error : StackError)
  deriving DecidableEq

/-- How far `Close` has come: the client's context and then the session's are cancelled, the
session's goroutines have ended, and the receive channel is closed. -/
inductive Shutdown where
  | running
  | clientCancelled
  | sessionCancelled
  | joined
  | closed
  deriving DecidableEq

def Shutdown.clientDone : Shutdown → Bool
  | .running => false
  | _ => true

def Shutdown.sessionDone : Shutdown → Bool
  | .running | .clientCancelled => false
  | _ => true

/-- What the request returns, with the error of `SendContext` where that is passed on. -/
abbrev Outcome := Response × Option StackError

def Outcome.clientClosed (outcome : Outcome) : Bool :=
  outcome.1.2 == some (.stopped .clientClosed) || outcome.1.2 == some (.send (.stopped .clientClosed))

def channelSize : Nat := 10

structure World where
  maxPayloadSize : Int
  phase : Phase
  point : SendPoint
  caller : Option ContextError
  shutdown : Shutdown
  sessionRuns : Bool
  rxData : List Bytes
  txData : List Bytes
  returned : Option Outcome

inductive Event where
  | drain
  | drained
  | enterSend
  | enqueue (now : Int)
  | sendContextDone (error : ContextError)
  | sendSessionDone
  | sendFailed
  | receive (now : Int)
  | receiveClosed
  | deadline (now : Int)
  | stopped (reason : Stop)
  | retry
  | retryFailed (reason : Stop)
  | cancel (error : ContextError)
  | deliver (data : Bytes)
  | transmit
  | cancelClient
  | cancelSession
  | endSession
  | join
  | closeReceive
  deriving DecidableEq

def Event.closes : Event → Bool
  | .cancelClient | .cancelSession | .endSession | .join | .closeReceive => true
  | _ => false

namespace World

/-- A request that holds the client over a session in use. -/
def start (r : Request) (maxPayloadSize : Int) (caller : Option ContextError)
    (rxData txData : List Bytes) : World :=
  ⟨maxPayloadSize,.draining r 0,.entered,caller,.running,true,rxData,txData,none⟩

def done (w : World) : Stop → Bool
  | .context error => w.caller == some error
  | .clientClosed => w.shutdown.clientDone

def act (w : World) (action : Action) (passedOn : Option StackError) : Option World :=
  (w.phase.step action).map fun result =>
    { w with phase := result.1, point := .entered, returned := result.2.map fun response =>
      (response,passedOn) }

/-- `sendPayload` on an error: whatever it is, a closed client comes first. -/
def sendError (w : World) (error : StackError) : SendError × Option StackError :=
  if w.shutdown.clientDone then (.stopped .clientClosed,none)
  else match error with
    | .context error => (.stopped (.context error),none)
    | error => (.transport,some error)

/-- The two selects of `SendContext`. The context it is given is done with the caller's, and
some time after the client's. -/
def send (w : World) (r : Request) : Event → Option World
  | .enterSend =>
    if w.point ≠ .entered then none
    else if w.maxPayloadSize < r.payload.length then some { w with point := .failed .payloadTooLong }
    else if w.shutdown.sessionDone then some { w with point := .failed .sessionClosed }
    else some { w with point := .queueing }
  | .enqueue now =>
    if w.point = .queueing ∧ w.txData.length < channelSize then
      ({ w with txData := w.txData ++ [r.payload] }).act (.sent now) none
    else none
  | .sendContextDone error =>
    if w.point = .queueing ∧ (w.caller = some error ∨ w.shutdown.clientDone ∧ error = .canceled) then
      some { w with point := .failed (.context error) }
    else none
  | .sendSessionDone =>
    if w.point = .queueing ∧ w.shutdown.sessionDone then
      some { w with point := .failed .sessionClosed }
    else none
  | .sendFailed => match w.point with
    | .failed error => w.act (.sendFailed (w.sendError error).1) (w.sendError error).2
    | _ => none
  | _ => none

/-- The steps of the request outside of `SendContext`. -/
def request (w : World) : Event → Option World
  | .drain => match w.rxData with
    | [] => none
    | stale :: rest => ({ w with rxData := rest }).act (.drain stale) none
  | .drained => if w.rxData = [] then w.act .drained none else none
  | .receive now => match w.rxData with
    | [] => none
    | data :: rest => ({ w with rxData := rest }).act (.signal (.received now data)) none
  | .receiveClosed =>
    if w.rxData = [] ∧ w.shutdown = .closed then w.act (.signal .receiveClosed) none else none
  | .deadline now => w.act (.signal (.deadline now)) none
  | .stopped reason => if w.done reason then w.act (.signal (.stopped reason)) none else none
  | .retry => w.act .retry none
  | .retryFailed reason => match w.phase with
    | .retrying r _ =>
      if r.opts.retryDelay ≠ 0 ∧ w.done reason then w.act (.retryFailed reason) none else none
    | _ => none
  | _ => none

/-- The caller and the session, which drops a payload when its channel is full. -/
def surroundings (w : World) : Event → Option World
  | .cancel error => if w.caller = none then some { w with caller := some error } else none
  | .deliver data =>
    if w.sessionRuns ∧ w.rxData.length < channelSize then some { w with rxData := w.rxData ++ [data] }
    else none
  | .transmit => match w.txData with
    | [] => none
    | _ :: rest => if w.sessionRuns then some { w with txData := rest } else none
  | .cancelClient => if w.shutdown = .running then some { w with shutdown := .clientCancelled } else none
  | .cancelSession =>
    if w.shutdown = .clientCancelled then some { w with shutdown := .sessionCancelled } else none
  | .endSession => if w.shutdown.sessionDone then some { w with sessionRuns := false } else none
  | .join =>
    if w.shutdown = .sessionCancelled ∧ w.sessionRuns = false then some { w with shutdown := .joined }
    else none
  | .closeReceive => if w.shutdown = .joined then some { w with shutdown := .closed } else none
  | _ => none

inductive Step (w : World) (event : Event) (v : World) : Prop
  | request (moved : w.request event = some v) : Step w event v
  | send {r attempt} (sends : w.phase = .sending r attempt) (moved : w.send r event = some v) :
      Step w event v
  | surroundings (moved : w.surroundings event = some v) : Step w event v

def calm (w : World) : World := { w with shutdown := .running, sessionRuns := true }

variable {w v : World} {event : Event} {action : Action} {passedOn : Option StackError}

theorem act_calm (acts : w.act action passedOn = some v) :
    w.calm.act action passedOn = some v.calm := by
  obtain ⟨result,taken,rfl⟩ := Option.map_eq_some_iff.mp acts
  simp only [act,calm,taken,Option.map_some]

end World

theorem finish_cases (r : Request) (attempt : Int) (response : Response) :
    (∃ later, Phase.finish r attempt response = (.retrying r later,none)) ∨
    ∃ returned : Response, Phase.finish r attempt response = (.idle,some returned) ∧
      returned.2 = response.2 := by
  unfold Phase.finish
  cases concluded : r.conclude attempt response with
  | none => exact .inl ⟨_,rfl⟩
  | some returned =>
    refine .inr ⟨returned,rfl,?_⟩
    unfold Request.conclude at concluded
    split at concluded
    · cases concluded
      simp_all
    · cases concluded
      simp_all
    · split_ifs at concluded
      cases concluded
      rfl
    · cases concluded
      rfl

theorem finish_returns (r : Request) (attempt : Int) {response : Response}
    (final : ∀ error, response.2 ≠ some (.negative error)) :
    ∃ returned : Response, Phase.finish r attempt response = (.idle,some returned) ∧
      returned.2 = response.2 := by
  rcases finish_cases r attempt response with ⟨later,retries⟩ | returns
  · unfold Phase.finish at retries
    cases concluded : r.conclude attempt response with
    | some returned => simp [concluded] at retries
    | none =>
      unfold Request.conclude at concluded
      split at concluded <;> simp_all
  · exact returns

namespace World

variable {w v : World} {event : Event} {action : Action} {passedOn : Option StackError}

theorem act_finish {r : Request} {attempt : Int} {response : Response}
    (ends : w.phase.step action = some (Phase.finish r attempt response))
    (final : ∀ error, response.2 ≠ some (.negative error)) (passedOn : Option StackError) :
    ∃ u : World, ∃ outcome : Outcome, w.act action passedOn = some u ∧ u.phase = .idle ∧
      u.returned = some outcome ∧ outcome.1.2 = response.2 ∧ outcome.2 = passedOn := by
  obtain ⟨returned,finished,same⟩ := finish_returns r attempt final
  rw [finished] at ends
  exact ⟨_,(returned,passedOn),by rw [act,ends]; rfl,rfl,rfl,same,rfl⟩

/-- The client has returned that it is closed. -/
def Answered (w : World) : Prop :=
  w.phase = .idle ∧ ∃ outcome, w.returned = some outcome ∧ outcome.clientClosed = true

/-- `SendContext` has failed, and the client will find itself closed. -/
def Lost (w : World) : Prop :=
  w.shutdown.clientDone = true ∧ ∃ r attempt error, w.phase = .sending r attempt ∧
    w.point = .failed error

def Settled (w : World) : Prop := w.Lost ∨ w.Answered

theorem surroundings_request (taken : w.surroundings event = some v) :
    v.phase = w.phase ∧ v.point = w.point ∧ v.returned = w.returned ∧
      (w.shutdown.clientDone = true → v.shutdown.clientDone = true) := by
  cases event with
  | cancel | deliver | cancelClient | cancelSession | endSession | join | closeReceive =>
    simp only [surroundings] at taken
    split_ifs at taken
    cases taken
    simp_all [Shutdown.clientDone]
  | transmit =>
    simp only [surroundings] at taken
    split at taken
    · contradiction
    · split_ifs at taken
      cases taken
      simp
  | _ => simp [surroundings] at taken

theorem request_still (still : w.phase = .idle ∨ ∃ r attempt, w.phase = .sending r attempt) :
    w.request event = none := by
  cases event with
  | drain | receive =>
    simp only [request]
    split
    · rfl
    · rcases still with still | ⟨_,_,still⟩ <;> simp [act,still,Phase.step]
  | drained | receiveClosed | stopped =>
    simp only [request]
    split_ifs
    · rcases still with still | ⟨_,_,still⟩ <;> simp [act,still,Phase.step]
    · rfl
  | deadline | retry | retryFailed =>
    rcases still with still | ⟨_,_,still⟩ <;> simp [request,act,still,Phase.step]
  | _ => rfl

theorem Lost.fails {r : Request} (lost : w.Lost) (taken : w.send r event = some v) : v.Answered := by
  obtain ⟨done,sender,attempt,error,sends,failed⟩ := lost
  cases event with
  | sendFailed =>
    simp only [send,failed,sendError,done,if_true] at taken
    have ends : w.phase.step (.sendFailed (.stopped .clientClosed)) =
        some (Phase.finish sender attempt (none,some (.send (.stopped .clientClosed)))) := by
      rw [sends]
      rfl
    obtain ⟨u,outcome,acts,idle,returned,same,_⟩ :=
      act_finish ends (by simp) none
    cases acts.symm.trans taken
    exact ⟨idle,outcome,returned,by simp [Outcome.clientClosed,same]⟩
  | _ => simp [send,failed] at taken

theorem Settled.keeps (settled : w.Settled) (taken : Step w event v) : v.Settled := by
  rcases settled with lost | ⟨idle,outcome,returned,closed⟩
  · obtain ⟨done,r,attempt,error,sends,failed⟩ := id lost
    cases taken with
    | request moved => simp [request_still (.inr ⟨r,attempt,sends⟩)] at moved
    | send _ moved => exact .inr (lost.fails moved)
    | surroundings moved =>
      obtain ⟨phase,point,_,stays⟩ := surroundings_request moved
      exact .inl ⟨stays done,r,attempt,error,phase.trans sends,point.trans failed⟩
  · cases taken with
    | request moved => simp [request_still (.inl idle)] at moved
    | send sends => simp [idle] at sends
    | surroundings moved =>
      obtain ⟨phase,_,same,_⟩ := surroundings_request moved
      exact .inr ⟨phase.trans idle,outcome,same.trans returned,closed⟩

theorem signal_returns {signal : Signal} {response : Response}
    (decides : ∀ (r : Request) waiting, r.next waiting signal = some (.inr response))
    (final : ∀ error, response.2 ≠ some (.negative error))
    (acts : w.act (.signal signal) passedOn = some v) :
    v.phase = .idle ∧ ∃ outcome, v.returned = some outcome ∧ outcome.1.2 = response.2 := by
  obtain ⟨result,taken,_⟩ := Option.map_eq_some_iff.mp acts
  cases waits : w.phase with
  | waiting r attempt waiting =>
    have ends : w.phase.step (.signal signal) = some (Phase.finish r attempt response) := by
      simp only [waits,Phase.step,decides]
    obtain ⟨u,outcome,ended,idle,returned,same,_⟩ := act_finish ends final passedOn
    cases ended.symm.trans acts
    exact ⟨idle,outcome,returned,same⟩
  | idle | draining | sending | retrying => simp [waits,Phase.step] at taken

theorem retryFailed_answers (acts : w.act (.retryFailed .clientClosed) none = some v) :
    v.Answered := by
  obtain ⟨result,taken,rfl⟩ := Option.map_eq_some_iff.mp acts
  cases waits : w.phase with
  | retrying r attempt =>
    simp only [waits,Phase.step,Option.some.injEq] at taken
    subst taken
    exact ⟨rfl,_,rfl,rfl⟩
  | idle | draining | sending | waiting => simp [waits,Phase.step] at taken

/-- Every step of the request but the receive from the closed channel is a step without the
`Close`, or makes the request return that the client is closed. -/
theorem request_calm (moved : w.request event = some v) (receives : event ≠ .receiveClosed) :
    v.Settled ∨ w.calm.request event = some v.calm := by
  cases event with
  | drain | receive =>
    simp only [request] at moved ⊢
    split at moved
    · contradiction
    · rename_i waiting
      refine .inr ?_
      simpa only [calm,waiting] using act_calm moved
  | drained =>
    simp only [request] at moved ⊢
    split_ifs at moved with empty
    refine .inr ?_
    rw [if_pos (by simpa [calm] using empty)]
    exact act_calm moved
  | receiveClosed => exact absurd rfl receives
  | deadline | retry => exact .inr (act_calm moved)
  | stopped reason =>
    simp only [request] at moved ⊢
    split_ifs at moved with done
    cases reason with
    | context error =>
      refine .inr ?_
      rw [if_pos (by simpa [calm,World.done] using done)]
      exact act_calm moved
    | clientClosed =>
      obtain ⟨idle,outcome,returned,same⟩ := signal_returns (fun _ _ => rfl) (by simp) moved
      exact .inl (.inr ⟨idle,outcome,returned,by simp [Outcome.clientClosed,same]⟩)
  | retryFailed reason =>
    simp only [request] at moved ⊢
    split at moved
    · rename_i r attempt retries
      split_ifs at moved with waits
      cases reason with
      | context error =>
        refine .inr ?_
        simp only [calm,retries] at waits ⊢
        rw [if_pos (by simpa [World.done] using waits)]
        simpa only [calm,retries] using act_calm moved
      | clientClosed => exact .inl (.inr (retryFailed_answers moved))
    · contradiction
  | _ => simp [request] at moved

theorem Shutdown.clientDone_of_sessionDone {shutdown : Shutdown}
    (done : shutdown.sessionDone = true) : shutdown.clientDone = true := by
  cases shutdown <;> simp_all [Shutdown.sessionDone,Shutdown.clientDone]

theorem send_calm {r : Request} {attempt : Int} (sends : w.phase = .sending r attempt)
    (moved : w.send r event = some v) : v.Settled ∨ w.calm.send r event = some v.calm := by
  cases event with
  | enterSend =>
    simp only [send] at moved ⊢
    split_ifs at moved with entered long done
    · cases moved
      refine .inr ?_
      simp [calm,entered,long]
    · cases moved
      exact .inl (.inl ⟨Shutdown.clientDone_of_sessionDone done,r,attempt,_,sends,rfl⟩)
    · cases moved
      refine .inr ?_
      simp [calm,entered,long,Shutdown.sessionDone]
  | enqueue now =>
    simp only [send] at moved ⊢
    split_ifs at moved with room
    refine .inr ?_
    rw [if_pos (by simpa [calm] using room)]
    exact act_calm moved
  | sendContextDone error =>
    simp only [send] at moved ⊢
    split_ifs at moved with done
    cases moved
    rcases done with ⟨queueing,caller | ⟨client,rfl⟩⟩
    · refine .inr ?_
      simp [calm,queueing,caller]
    · exact .inl (.inl ⟨client,r,attempt,_,sends,rfl⟩)
  | sendSessionDone =>
    simp only [send] at moved ⊢
    split_ifs at moved with done
    cases moved
    exact .inl (.inl ⟨Shutdown.clientDone_of_sessionDone done.2,r,attempt,_,sends,rfl⟩)
  | sendFailed =>
    cases failed : w.point with
    | failed error =>
      cases done : w.shutdown.clientDone with
      | true => exact .inl (.inr (Lost.fails ⟨done,r,attempt,error,sends,failed⟩ moved))
      | false =>
        have same : w.calm.sendError error = w.sendError error := by
          simp only [sendError,done]
          rfl
        simp only [send,failed] at moved
        refine .inr ?_
        simp only [send,show w.calm.point = _ from failed,same]
        exact act_calm moved
    | entered | queueing => simp [send,failed] at moved
  | _ => simp [send] at moved

theorem surroundings_calm (moved : w.surroundings event = some v) :
    if event.closes then v.calm = w.calm else w.calm.surroundings event = some v.calm := by
  cases event with
  | cancel | deliver =>
    simp only [surroundings] at moved ⊢
    split_ifs at moved with ready
    cases moved
    simp_all [Event.closes,calm]
  | transmit =>
    simp only [surroundings] at moved ⊢
    split at moved
    · contradiction
    · split_ifs at moved with runs
      cases moved
      simp_all [Event.closes,calm]
  | cancelClient | cancelSession | endSession | join | closeReceive =>
    simp only [surroundings] at moved
    split_ifs at moved
    cases moved
    simp [Event.closes,calm]
  | _ => simp [surroundings] at moved

theorem run_calm {initial : World} {events : List Event} (run : Run Step initial events w)
    (receives : Event.receiveClosed ∉ events) :
    w.Settled ∨ Run Step initial.calm (events.filter fun event => !event.closes) w.calm := by
  induction run with
  | nil => exact .inr .nil
  | @snoc events event w v _ taken ih =>
    rw [List.mem_append,not_or,List.mem_singleton] at receives
    rcases ih receives.1 with settled | before
    · exact .inl (settled.keeps taken)
    rw [List.filter_append]
    -- A step of `Close` is left out, and any other is a step without it.
    have kept (open' : event.closes = false) (after : v.Settled ∨ Step w.calm event v.calm) :
        v.Settled ∨ Run Step initial.calm ((events.filter fun event => !event.closes) ++
          [event].filter fun event => !event.closes) v.calm := by
      rcases after with settled | taken
      · exact .inl settled
      · simpa [open'] using .inr (before.snoc taken)
    cases taken with
    | request moved =>
      refine kept ?_ ?_
      · cases event <;> simp_all [request,Event.closes]
      · rcases request_calm moved (Ne.symm receives.2) with settled | calm
        · exact .inl settled
        · exact .inr (.request calm)
    | send sends moved =>
      refine kept ?_ ?_
      · cases event <;> simp_all [send,Event.closes]
      · rcases send_calm sends moved with settled | calm
        · exact .inl settled
        · exact .inr (.send sends calm)
    | surroundings moved =>
      have calm := surroundings_calm moved
      cases closes : event.closes with
      | true =>
        rw [if_pos closes] at calm
        rw [calm]
        simpa [closes] using .inr before
      | false =>
        rw [if_neg (by simp [closes])] at calm
        exact kept closes (.inr (.surroundings calm))

/-- A response ends the request, and only the closed channel makes it report that channel. -/
theorem step_returns {p q : Phase} {response : Response}
    (taken : p.step action = some (q,some response)) :
    q = .idle ∧ (response.2 = some .receiveChannelClosed → action = .signal .receiveClosed) := by
  have finished {r : Request} {attempt : Int} {ended : Response}
      (finish : Phase.finish r attempt ended = (q,some response)) :
      q = .idle ∧ response.2 = ended.2 := by
    rcases finish_cases r attempt ended with ⟨_,again⟩ | ⟨returned,ends,same⟩
    · simp [again] at finish
    · rw [ends] at finish
      cases finish
      exact ⟨rfl,same⟩
  cases p with
  | waiting r attempt waiting =>
    cases action with
    | signal signal =>
      simp only [Phase.step] at taken
      split at taken
      · contradiction
      · simp at taken
      · rename_i ended decides
        obtain ⟨idle,same⟩ := finished (Option.some.inj taken)
        refine ⟨idle,fun closed => ?_⟩
        rw [same] at closed
        cases r.next_decides.mp decides with
        | closed => rfl
        | stopped | suppressed | timeout | positive | tooManyPending | negative => simp at closed
    | _ => simp [Phase.step] at taken
  | sending r attempt =>
    cases action with
    | sendFailed error =>
      obtain ⟨idle,same⟩ := finished (Option.some.inj taken)
      exact ⟨idle,fun closed => by simp [same] at closed⟩
    | _ => simp [Phase.step] at taken
  | retrying r attempt =>
    cases action with
    | retryFailed reason =>
      cases taken
      exact ⟨rfl,by simp⟩
    | _ => simp [Phase.step] at taken
  | idle | draining => cases action <;> simp [Phase.step] at taken

theorem act_shutdown (acts : w.act action passedOn = some v) : v.shutdown = w.shutdown := by
  obtain ⟨_,_,rfl⟩ := Option.map_eq_some_iff.mp acts
  rfl

theorem request_acts (moved : w.request event = some v) : ∃ u : World, ∃ action,
    u.act action none = some v ∧ u.shutdown = w.shutdown ∧
      (action = .signal .receiveClosed → event = .receiveClosed ∧ w.shutdown = .closed) := by
  cases event with
  | drain | receive =>
    simp only [request] at moved
    split at moved
    · contradiction
    · exact ⟨_,_,moved,rfl,by simp⟩
  | drained | stopped =>
    simp only [request] at moved
    split_ifs at moved
    exact ⟨_,_,moved,rfl,by simp⟩
  | receiveClosed =>
    simp only [request] at moved
    split_ifs at moved with closed
    exact ⟨_,_,moved,rfl,fun _ => ⟨rfl,closed.2⟩⟩
  | deadline | retry => exact ⟨_,_,moved,rfl,by simp⟩
  | retryFailed =>
    simp only [request] at moved
    split at moved
    · split_ifs at moved
      exact ⟨_,_,moved,rfl,by simp⟩
    · contradiction
  | _ => simp [request] at moved

theorem send_acts {r : Request} (moved : w.send r event = some v) :
    (v.returned = w.returned ∧ v.phase = w.phase ∧ v.shutdown = w.shutdown) ∨
    ∃ u : World, ∃ action passedOn, u.act action passedOn = some v ∧ u.shutdown = w.shutdown ∧
      action ≠ .signal .receiveClosed := by
  cases event with
  | enterSend | sendContextDone | sendSessionDone =>
    simp only [send] at moved
    split_ifs at moved
    all_goals
      cases moved
      exact .inl ⟨rfl,rfl,rfl⟩
  | enqueue =>
    simp only [send] at moved
    split_ifs at moved
    exact .inr ⟨_,_,_,moved,rfl,by simp⟩
  | sendFailed =>
    simp only [send] at moved
    split at moved
    · exact .inr ⟨_,_,_,moved,rfl,by simp⟩
    · contradiction
  | _ => simp [send] at moved

/-- A request that has returned holds the client no more, and reports the closed channel only
after it has received from it. -/
structure Accounted (events : List Event) (w : World) : Prop where
  ended : w.returned = none ∨ w.phase = .idle
  received : ∀ outcome, w.returned = some outcome →
    outcome.1.2 = some .receiveChannelClosed → Event.receiveClosed ∈ events

theorem act_accounted {events : List Event} (acts : w.act action passedOn = some v)
    (receives : action = .signal .receiveClosed → Event.receiveClosed ∈ events) :
    v.Accounted events := by
  obtain ⟨⟨q,response⟩,taken,rfl⟩ := Option.map_eq_some_iff.mp acts
  cases response with
  | none => exact ⟨.inl rfl,by simp⟩
  | some response =>
    obtain ⟨idle,closed⟩ := step_returns taken
    refine ⟨.inr idle,?_⟩
    rintro _ ⟨⟩ reports
    exact receives (closed reports)

theorem Accounted.step {events : List Event} (accounted : w.Accounted events)
    (taken : Step w event v) : v.Accounted (events ++ [event]) := by
  have stays (returned : v.returned = w.returned) (phase : v.phase = w.phase) :
      v.Accounted (events ++ [event]) := by
    refine ⟨by rw [returned,phase]; exact accounted.ended,fun outcome shown reports => ?_⟩
    rw [returned] at shown
    exact List.mem_append_left _ (accounted.received outcome shown reports)
  cases taken with
  | request moved =>
    obtain ⟨u,action,acts,_,closed⟩ := request_acts moved
    exact act_accounted acts fun receives => by simp [(closed receives).1]
  | send sends moved =>
    rcases send_acts moved with ⟨returned,phase,_⟩ | ⟨u,action,_,acts,_,other⟩
    · exact stays returned phase
    · exact act_accounted acts fun receives => absurd receives other
  | surroundings moved =>
    obtain ⟨phase,_,returned,_⟩ := surroundings_request moved
    exact stays returned phase

theorem run_accounted {r : Request} {maxPayloadSize : Int} {caller : Option ContextError}
    {rxData txData : List Bytes} {events : List Event}
    (run : Run Step (start r maxPayloadSize caller rxData txData) events w) : w.Accounted events :=
  run.history (fun events w => w.Accounted events) ⟨.inl rfl,by simp [start]⟩
    fun _ _ _ _ _ accounted taken => accounted.step taken

theorem step_open (running : w.shutdown = .running) (taken : Step w event v)
    (undisturbed : event.closes = false) : v.shutdown = .running ∧ event ≠ .receiveClosed := by
  cases taken with
  | request moved =>
    obtain ⟨u,action,acts,same,_⟩ := request_acts moved
    refine ⟨((act_shutdown acts).trans same).trans running,?_⟩
    rintro rfl
    simp [request,running] at moved
  | send sends moved =>
    refine ⟨?_,?_⟩
    · rcases send_acts moved with ⟨_,_,same⟩ | ⟨u,action,_,acts,same,_⟩
      · exact same.trans running
      · exact ((act_shutdown acts).trans same).trans running
    · rintro rfl
      simp [send] at moved
  | surroundings moved =>
    cases event with
    | cancel | deliver =>
      simp only [surroundings] at moved
      split_ifs at moved
      cases moved
      exact ⟨running,by simp⟩
    | transmit =>
      simp only [surroundings] at moved
      split at moved
      · contradiction
      · split_ifs at moved
        cases moved
        exact ⟨running,by simp⟩
    | cancelClient | cancelSession | endSession | join | closeReceive => contradiction
    | _ => simp [surroundings] at moved

theorem run_open {initial : World} {events : List Event} (running : initial.shutdown = .running)
    (run : Run Step initial events w) (undisturbed : ∀ event ∈ events, event.closes = false) :
    w.shutdown = .running ∧ Event.receiveClosed ∉ events := by
  induction run with
  | nil => exact ⟨running,by simp⟩
  | snoc _ taken ih =>
    obtain ⟨still,none⟩ := ih fun event member => undisturbed event (by simp [member])
    obtain ⟨after,other⟩ := step_open still taken (undisturbed _ (by simp))
    exact ⟨after,by simp [none,other.symm]⟩

/-- The request returned that the client is closed, or what the same run without the steps of
`Close` returns. -/
def Excused (initial : World) (events : List Event) (w : World) : Prop :=
  ∀ outcome, w.returned = some outcome → outcome.clientClosed = true ∨
    ∃ v, Run Step initial (events.filter fun event => !event.closes) v ∧ v.returned = some outcome

theorem not_excused {r : Request} {maxPayloadSize : Int} {caller : Option ContextError}
    {rxData txData : List Bytes} {events : List Event} {outcome : Outcome}
    (returned : w.returned = some outcome) (closed : outcome.1.2 = some .receiveChannelClosed) :
    ¬ Excused (start r maxPayloadSize caller rxData txData) events w := by
  intro excused
  rcases excused outcome returned with client | ⟨v,calm,shown⟩
  · simp [Outcome.clientClosed,closed] at client
  · have undisturbed : ∀ event ∈ events.filter fun event => !event.closes, event.closes = false :=
      fun event member => by simpa using (List.mem_filter.mp member).2
    exact (run_open rfl calm undisturbed).2 ((run_accounted calm).received outcome shown closed)

theorem run_reports {initial : World} {events : List Event} (run : Run Step initial events w)
    (receives : Event.receiveClosed ∈ events) :
    ∃ outcome, w.returned = some outcome ∧ outcome.1.2 = some .receiveChannelClosed := by
  obtain ⟨past,later,before,after,rfl,_,taken,rest⟩ := run.cut_mem receives
  refine (rest.invariant (fun u => u.phase = .idle ∧ ∃ outcome, u.returned = some outcome ∧
    outcome.1.2 = some .receiveChannelClosed) ?_ ?_).2
  · cases taken with
    | request moved =>
      simp only [request] at moved
      split_ifs at moved
      exact signal_returns (fun _ _ => rfl) (by simp) moved
    | send _ moved => simp [send] at moved
    | surroundings moved => simp [surroundings] at moved
  · rintro u event t ⟨idle,outcome,returned,closed⟩ taken
    cases taken with
    | request moved => simp [request_still (.inl idle)] at moved
    | send sends => simp [idle] at sends
    | surroundings moved =>
      obtain ⟨phase,_,same,_⟩ := surroundings_request moved
      exact ⟨phase.trans idle,outcome,same.trans returned,closed⟩

/-- Closing a client shows in what its request returns exactly when the request receives from
the channel that the session has closed. -/
theorem close_excused_iff {r : Request} {maxPayloadSize : Int} {caller : Option ContextError}
    {rxData txData : List Bytes} {events : List Event}
    (run : Run Step (start r maxPayloadSize caller rxData txData) events w) :
    Excused (start r maxPayloadSize caller rxData txData) events w ↔ Event.receiveClosed ∉ events := by
  constructor
  · intro excused receives
    obtain ⟨outcome,returned,closed⟩ := run_reports run receives
    exact not_excused returned closed excused
  · intro receives outcome returned
    rcases run_calm run receives with (⟨_,_,_,_,sends,_⟩ | ⟨_,answer,answered,closed⟩) | calm
    · rcases (run_accounted run).ended with none | idle
      · simp [none] at returned
      · simp [sends] at idle
    · cases returned.symm.trans answered
      exact .inl closed
    · exact .inr ⟨_,calm,returned⟩

end World

def readIdentifier : Request where
  payload := [0x22,0xF1,0x90]
  opts := defaultRequestOptions
  mode := addressPhysical
  nonempty := by decide
  valid := normalizeRequestOptions_valid defaultRequestOptions_valid

/-- The client and its session while the request waits for the response, and both closed. -/
def waitingWorld : World where
  maxPayloadSize := 4095
  phase := .waiting readIdentifier 0 (readIdentifier.startWaiting 0)
  point := .entered
  caller := none
  shutdown := .running
  sessionRuns := true
  rxData := []
  txData := [[0x22,0xF1,0x90]]
  returned := none

def closedWorld : World := { waitingWorld with shutdown := .closed, sessionRuns := false }

def beginning : World := .start readIdentifier 4095 none [] []

theorem closes : Run World.Step beginning [.drained,.enterSend,.enqueue 0,.cancelClient,
    .cancelSession,.endSession,.join,.closeReceive] closedWorld := by
  have waits : Run World.Step beginning [.drained,.enterSend,.enqueue 0] waitingWorld :=
    ((Run.single (.request rfl)).snoc (.send rfl rfl)).snoc (.send rfl rfl)
  have closing : Run World.Step waitingWorld [.cancelClient,.cancelSession,.endSession,.join,
      .closeReceive] closedWorld :=
    ((((Run.single (.surroundings rfl)).snoc (.surroundings rfl)).snoc (.surroundings rfl)).snoc
      (.surroundings rfl)).snoc (.surroundings rfl)
  exact waits.append closing

def returnedWorld (response : Response) : World :=
  { closedWorld with phase := .idle, returned := some (response,none) }

/-- The select may take the closed channel although the client's context is done as well. -/
theorem close_reported : ∃ events w, Run World.Step beginning events w ∧
    ¬ World.Excused beginning events w := by
  have receives : World.Step closedWorld .receiveClosed
      (returnedWorld (none,some .receiveChannelClosed)) := .request rfl
  exact ⟨_,_,closes.snoc receives,World.not_excused rfl rfl⟩

theorem close_excused_iff_stopped :
    World.Excused beginning ([.drained,.enterSend,.enqueue 0,.cancelClient,.cancelSession,.endSession,
      .join,.closeReceive] ++ [.stopped .clientClosed]) (returnedWorld (none,some (.stopped .clientClosed))) := by
  have stops : World.Step closedWorld (.stopped .clientClosed)
      (returnedWorld (none,some (.stopped .clientClosed))) := .request rfl
  exact (World.close_excused_iff (closes.snoc stops)).mpr (by decide)

end Canbuskit.Uds.Closing
