import Canbuskit.Lib.Await
import Canbuskit.Isotp.Types
import Canbuskit.Uds.Types

/-! The UDS client: the receive loop of one attempt, what the retry loop makes of its outcome,
and the phases that a request goes through while it holds the client. A response is the pair
that Go returns, with `none` for nil. -/
namespace Canbuskit.Uds
open Can Isotp Await

inductive ContextError where
  | canceled
  | deadlineExceeded
  deriving DecidableEq

/-- Why a select that also waits for the caller and the client gives up. -/
inductive Stop where
  | context (error : ContextError)
  | clientClosed
  deriving DecidableEq

inductive SendError where
  | stopped (reason : Stop)
  | transport
  deriving DecidableEq

/-- An `int` in the source, which `setTxAddressLocked` checks. -/
abbrev AddressingMode := Int

def addressPhysical : AddressingMode := 0
def addressFunctional : AddressingMode := 1

inductive AddressingError where
  | functionalAddressNotSet
  | unknownAddressingMode (mode : AddressingMode)
  | setTxAddress (error : AddressError)
  deriving DecidableEq

inductive RequestError where
  | emptyPayload
  | options (error : OptionsError)
  | addressing (error : AddressingError)
  | send (error : SendError)
  | stopped (reason : Stop)
  | requestTimeout (after : Int)
  | receiveChannelClosed
  | tooManyResponsePending (count : Int)
  | negative (error : UDSError)
  deriving DecidableEq

abbrev Response := Option Bytes × Option RequestError

/-- A request that passed the checks of `requestWithContext`. -/
structure Request where
  payload : Bytes
  opts : RequestOptions
  mode : AddressingMode
  nonempty : payload ≠ []
  valid : opts.Valid

def newRequest (payload : Bytes) (opts : RequestOptions) (mode : Option AddressingMode) :
    Except RequestError Request :=
  if nonempty : payload = [] then .error .emptyPayload
  else match normalized : normalizeRequestOptions opts with
    | .error error => .error (.options error)
    | .ok opts => .ok ⟨payload,opts,mode.getD addressPhysical,nonempty,
        normalizeRequestOptions_valid normalized⟩

theorem newRequest_self (r : Request) : newRequest r.payload r.opts (some r.mode) = .ok r := by
  unfold newRequest
  rw [dif_neg r.nonempty]
  split
  · rename_i error normalized
    rw [normalizeRequestOptions_of_valid r.valid] at normalized
    contradiction
  · rename_i opts normalized
    rw [normalizeRequestOptions_of_valid r.valid] at normalized
    cases normalized
    rfl

/-- What a case of `singleRequest`'s select sees, with the time it is taken at. -/
inductive Signal where
  | stopped (reason : Stop)
  | deadline (now : Int)
  | received (now : Int) (data : Bytes)
  | receiveClosed
  deriving DecidableEq

/-- The variables of the receive loop; the timer fires at `deadline`. -/
structure Waiting where
  deadline : Int
  currentTimeout : Int
  pendingCount : Int
  deriving DecidableEq

namespace Request

def requestSID (r : Request) : UInt8 := r.payload.head r.nonempty
def expectedResponseSID (r : Request) : UInt8 := r.requestSID + 0x40

def suppressPositive (r : Request) : Bool :=
  hasSubFunctionSuppressPositive r.requestSID && decide (2 ≤ r.payload.length) &&
    (r.payload.getD 1 0 &&& 0x80 != 0)

/-- The case of the select that receives a payload. -/
def receive (r : Request) (w : Waiting) (now : Int) (data : Bytes) : Waiting ⊕ Response :=
  if 3 ≤ data.length ∧ data.getD 0 0 = 0x7F then
    let nrc : NRC := data.getD 2 0
    let serviceSID := data.getD 1 0
    if serviceSID ≠ r.requestSID then .inl w
    else if nrc = NRC.requestCorrectlyReceivedResponsePending then
      let pendingCount := w.pendingCount + 1
      if r.opts.maxResponsePending < pendingCount then
        .inr (some data,some (.tooManyResponsePending pendingCount))
      else .inl ⟨now + r.opts.responsePendingTimeout,r.opts.responsePendingTimeout,pendingCount⟩
    else .inr (some data,some (.negative ⟨serviceSID,nrc,getNRCDescription nrc⟩))
  else if data.length = 0 ∨ data.getD 0 0 ≠ r.expectedResponseSID then .inl w
  else .inr (some data,none)

/-- One pass through the receive loop; the timer does not fire before its deadline. -/
def next (r : Request) (w : Waiting) : Signal → Option (Waiting ⊕ Response)
  | .stopped reason => some (.inr (none,some (.stopped reason)))
  | .deadline now =>
    if now < w.deadline then none
    else if r.suppressPositive then some (.inr (none,none))
    else some (.inr (none,some (.requestTimeout w.currentTimeout)))
  | .received now data => some (r.receive w now data)
  | .receiveClosed => some (.inr (none,some .receiveChannelClosed))

def startWaiting (r : Request) (now : Int) : Waiting := ⟨now + r.opts.timeout,r.opts.timeout,0⟩

/-- An attempt after its drain: the payload is sent, and the loop sees the signals. -/
def singleRequest (r : Request) (sent : Except SendError Unit) (now : Int)
    (signals : List Signal) : Option (Waiting ⊕ Response) :=
  match sent with
  | .error error => some (.inr (none,some (.send error)))
  | .ok () => await r.next (r.startWaiting now) signals

/-- The retry loop on an attempt's response: `none` to try again. The loop's end after the
last attempt is never reached, since only an earlier attempt is retried. -/
def conclude (r : Request) (attempt : Int) (response : Response) : Option Response :=
  match response.2 with
  | some (.stopped (.context error)) => some (none,some (.stopped (.context error)))
  | some (.send (.stopped (.context error))) => some (none,some (.send (.stopped (.context error))))
  | some (.negative error) =>
    if error.isRetryable && decide (attempt < r.opts.maxRetries) then none else some response
  | _ => some response

end Request

/-- Where a request stands that holds the client, with the attempt it makes. -/
inductive Phase where
  | idle
  | draining (r : Request) (attempt : Int)
  | sending (r : Request) (attempt : Int)
  | waiting (r : Request) (attempt : Int) (w : Waiting)
  | retrying (r : Request) (attempt : Int)

inductive Action where
  | start (r : Request)
  | drain (data : Bytes)
  | drained
  | sent (now : Int)
  | sendFailed (error : SendError)
  | signal (signal : Signal)
  | retry
  | retryFailed (reason : Stop)

/-- A call of `requestWithContext` starts the request that its checks let through. -/
def Action.ofCall (payload : Bytes) (opts : RequestOptions) (mode : Option AddressingMode) :
    Except RequestError Action :=
  (newRequest payload opts mode).map .start

/-- The requests that are started are those that the checks let through. -/
theorem started_iff_checked (action : Action) :
    (∃ r, action = .start r) ↔ ∃ payload opts mode, Action.ofCall payload opts mode = .ok action := by
  constructor
  · rintro ⟨r,rfl⟩
    refine ⟨r.payload,r.opts,some r.mode,?_⟩
    rw [Action.ofCall,newRequest_self]
    rfl
  · rintro ⟨payload,opts,mode,called⟩
    unfold Action.ofCall at called
    cases checked : newRequest payload opts mode with
    | error error =>
      rw [checked] at called
      contradiction
    | ok r =>
      rw [checked] at called
      cases called
      exact ⟨r,rfl⟩

namespace Phase

/-- The attempt's response ends the request, or the next attempt. -/
def finish (r : Request) (attempt : Int) (response : Response) : Phase × Option Response :=
  match r.conclude attempt response with
  | none => (.retrying r (attempt + 1),none)
  | some response => (.idle,some response)

/-- `none` when the action does not belong to the phase. -/
def step : Phase → Action → Option (Phase × Option Response)
  | .idle, .start r => some (.draining r 0,none)
  | .draining r attempt, .drain _ => some (.draining r attempt,none)
  | .draining r attempt, .drained => some (.sending r attempt,none)
  | .sending r attempt, .sent now => some (.waiting r attempt (r.startWaiting now),none)
  | .sending r attempt, .sendFailed error => some (finish r attempt (none,some (.send error)))
  | .waiting r attempt w, .signal signal => match r.next w signal with
    | none => none
    | some (.inl w) => some (.waiting r attempt w,none)
    | some (.inr response) => some (finish r attempt response)
  | .retrying r attempt, .retry => some (.draining r attempt,none)
  | .retrying _ _, .retryFailed reason => some (.idle,some (none,some (.stopped reason)))
  | _, _ => none

end Phase

end Canbuskit.Uds
