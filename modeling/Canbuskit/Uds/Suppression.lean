import Canbuskit.Uds.Retry

/-! Requests that succeed without a response. A set suppress bit turns the expiry of the timer
into success; the client does so for one service without a sub-function as well, and also after
a pending reply has announced a response. -/
namespace Canbuskit.Uds
open Can Await

/-- The services of ISO 14229-1 that take a sub-function after the service byte. -/
def hasSubFunction (sid : UInt8) : Bool :=
  [0x10,0x11,0x19,0x27,0x28,0x29,0x2C,0x31,0x3E,0x83,0x85,0x86,0x87].contains sid

def inputOutputControlByIdentifier : UInt8 := 0x2F

theorem hasSubFunctionSuppressPositive_iff (sid : UInt8)
    (suppresses : hasSubFunctionSuppressPositive sid = true) :
    hasSubFunction sid = true ↔ sid ≠ inputOutputControlByIdentifier := by
  simp only [hasSubFunctionSuppressPositive,List.contains_iff_mem,List.mem_cons,List.not_mem_nil,
    or_false] at suppresses
  rcases suppresses with rfl | rfl | rfl | rfl | rfl | rfl | rfl | rfl | rfl | rfl | rfl <;> decide

namespace Request

variable (r : Request)

def SuppressBit : Prop := ∃ sub, r.payload[1]? = some sub ∧ sub &&& 0x80 ≠ 0

theorem suppressPositive_iff :
    r.suppressPositive = true ↔ hasSubFunctionSuppressPositive r.requestSID = true ∧ r.SuppressBit := by
  unfold suppressPositive SuppressBit
  rcases r.payload with _ | ⟨first,_ | ⟨sub,rest⟩⟩ <;> simp

end Request

namespace Pass

variable {r : Request}

/-- The timer of an attempt expires after signals that left it waiting. -/
def Expires (pass : Pass r) (past : List Signal) : Prop :=
  pass.sent = .ok () ∧ ∃ now later, pass.signals = past ++ .deadline now :: later ∧
    (∀ earlier ∈ past, r.passes earlier = true) ∧ r.pendings past ≤ r.opts.maxResponsePending ∧
    (r.waitingAfter pass.start past).deadline ≤ now

/-- An attempt is answered busy after signals that left it waiting. -/
def AnsweredBusy (pass : Pass r) : Prop :=
  pass.sent = .ok () ∧ ∃ past now data later, pass.signals = past ++ .received now data :: later ∧
    (∀ earlier ∈ past, r.passes earlier = true) ∧ r.pendings past ≤ r.opts.maxResponsePending ∧
    replyTo r.requestSID data = .negative NRC.busyRepeatRequest

theorem response_eq {pass : Pass r} {past later : List Signal} {signal : Signal} {response : Response}
    (sent : pass.sent = .ok ()) (arrived : pass.signals = past ++ signal :: later)
    (passed : ∀ earlier ∈ past, r.passes earlier = true)
    (few : r.pendings past ≤ r.opts.maxResponsePending)
    (decided : r.Decides (r.waitingAfter pass.start past) signal response) :
    pass.response = response := by
  have returns := pass.returns
  rw [sent] at returns
  have same := r.await_decided.mpr ⟨past,signal,later,arrived,passed,few,r.next_decides.mpr decided⟩
  exact Sum.inr.inj (Option.some.inj (returns.symm.trans same))

theorem busy_iff (pass : Pass r) : pass.Busy ↔ pass.AnsweredBusy := by
  constructor
  · rintro ⟨error,negative,busy⟩
    rcases pass.decided with ⟨failure,_,failed⟩ | ⟨past,signal,later,sent,arrived,passed,few,decided⟩
    · simp [failed] at negative
    · generalize pass.response = response at decided negative
      cases decided with
      | negative now reply =>
        cases negative
        exact ⟨sent,past,now,_,later,arrived,passed,few,busy ▸ reply⟩
      | stopped | suppressed | timeout | positive | tooManyPending | closed => simp at negative
  · rintro ⟨sent,past,now,data,later,arrived,passed,few,reply⟩
    rw [Busy,response_eq sent arrived passed few (.negative now reply)]
    exact ⟨_,rfl,rfl⟩

/-- An attempt succeeds without a response exactly when its timer expires on a request that
suppresses the positive response. -/
theorem silent_iff (pass : Pass r) :
    pass.response = (none,none) ↔ r.suppressPositive = true ∧ ∃ past, pass.Expires past := by
  constructor
  · intro silent
    rcases pass.decided with ⟨failure,_,failed⟩ | ⟨past,signal,later,sent,arrived,passed,few,decided⟩
    · simp [failed] at silent
    · rw [silent] at decided
      cases decided with
      | suppressed expired suppress =>
        exact ⟨suppress,past,sent,_,later,arrived,passed,few,expired⟩
  · rintro ⟨suppress,past,sent,now,later,arrived,passed,few,expired⟩
    exact response_eq sent arrived passed few (.suppressed expired suppress)

theorem Expires.past_eq {pass : Pass r} {past : List Signal} (expires : pass.Expires past) :
    past = pass.signals.takeWhile r.passes := by
  obtain ⟨_,now,later,arrived,passed,_⟩ := expires
  have decides : r.passes (.deadline now) = false := rfl
  simp [arrived,List.takeWhile_append_of_pos passed,decides]

end Pass

namespace Request

/-- The request makes an attempt: it may, no wait is interrupted, and earlier ones are busy. -/
structure ComesTo (r : Request) (passes : Nat → Pass r) (n : Nat) : Prop where
  allowed : n ≤ r.opts.maxRetries
  waited : ∀ m ≤ n, r.waitBefore passes m = none
  busy : ∀ m < n, (passes m).AnsweredBusy

theorem comesTo_iff {r : Request} {passes : Nat → Pass r} {n : Nat} :
    r.ComesTo passes n ↔ r.Reached passes n := by
  constructor
  · intro comes
    exact ⟨comes.allowed,comes.waited,fun m before => (passes m).busy_iff.mpr (comes.busy m before)⟩
  · intro reached
    exact ⟨reached.allowed,reached.waited,fun m before => (passes m).busy_iff.mp (reached.busy m before)⟩

theorem silent_request {r : Request} {passes : Nat → Pass r} {last : Nat} :
    r.requestWithContext passes = (List.replicate (1 + last) r.payload,.returned (none,none)) ↔
      r.ComesTo passes last ∧ r.suppressPositive = true ∧ ∃ past, (passes last).Expires past := by
  constructor
  · intro silent
    obtain ⟨n,_,reached,ended⟩ := (reached_zero passes).ends
    rcases ended with final | ⟨busy,left,reason,interrupted⟩
    · have returns := reached.returns final
      rw [ReturnsAt,silent] at returns
      obtain ⟨calls,response⟩ := Prod.mk.inj returns
      obtain rfl : last = n := by simpa using congrArg List.length calls
      exact ⟨comesTo_iff.mpr reached,(passes last).silent_iff.mp (Ending.returned.inj response).symm⟩
    · rw [reached.interrupted busy left interrupted] at silent
      simp at silent
  · rintro ⟨comes,expires⟩
    have silent := (passes last).silent_iff.mpr expires
    have final : ¬ ((passes last).Busy ∧ last < r.opts.maxRetries) := by
      rintro ⟨⟨error,negative,_⟩,_⟩
      simp [silent] at negative
    rw [← silent]
    exact (comesTo_iff.mp comes).returns final

/-- Success without a response means a sub-function with its suppress bit set, on an attempt
whose timer expired without a pending reply. -/
def NoFalseSuccess (r : Request) (passes : Nat → Pass r) : Prop :=
  ∀ last, r.requestWithContext passes = (List.replicate (1 + last) r.payload,.returned (none,none)) →
    hasSubFunction r.requestSID = true ∧ r.SuppressBit ∧
      ∃ past, (passes last).Expires past ∧ r.pendings past = 0

/-- The timer of an attempt expires on a request whose suppress bit the client minds, and the
service is 2F or a pending reply came before. -/
def FalselySilent (r : Request) (passes : Nat → Pass r) (n : Nat) : Prop :=
  r.suppressPositive = true ∧ ∃ past, (passes n).Expires past ∧
    (r.requestSID = inputOutputControlByIdentifier ∨ 0 < r.pendings past)

theorem noFalseSuccess_iff (r : Request) (passes : Nat → Pass r) :
    r.NoFalseSuccess passes ↔ ∀ n, r.ComesTo passes n → ¬ r.FalselySilent passes n := by
  constructor
  · rintro honest n comes ⟨suppress,past,expires,wrong⟩
    obtain ⟨sub,_,before,quiet,none⟩ := honest n (silent_request.mpr ⟨comes,suppress,past,expires⟩)
    have known := (r.suppressPositive_iff.mp suppress).1
    rcases wrong with control | pending
    · exact (hasSubFunctionSuppressPositive_iff _ known).mp sub control
    · rw [expires.past_eq,← quiet.past_eq] at pending
      omega
  · intro honest last silent
    obtain ⟨comes,suppress,past,expires⟩ := silent_request.mp silent
    obtain ⟨known,bit⟩ := r.suppressPositive_iff.mp suppress
    have right : ¬ (r.requestSID = inputOutputControlByIdentifier ∨ 0 < r.pendings past) :=
      fun wrong => honest last comes ⟨suppress,past,expires,wrong⟩
    rw [not_or] at right
    exact ⟨(hasSubFunctionSuppressPositive_iff _ known).mpr right.1,bit,past,expires,by omega⟩

end Request

def suppressing (payload : Bytes) (nonempty : payload ≠ []) : Request where
  payload := payload
  opts := defaultRequestOptions
  mode := addressPhysical
  nonempty := nonempty
  valid := normalizeRequestOptions_valid defaultRequestOptions_valid

def controlOutput : Request := suppressing [0x2F,0x80,0x01,0x03] (by decide)

def testerPresent : Request := suppressing [0x3E,0x80] (by decide)

def controlOutputUnanswered : Pass controlOutput where
  interrupted := none
  sent := .ok ()
  start := 0
  signals := [.deadline 500000000]
  response := (none,none)
  returns := by decide

def testerPresentPending : Pass testerPresent where
  interrupted := none
  sent := .ok ()
  start := 0
  signals := [.received 1 [0x7F,0x3E,0x78],.deadline 5000000001]
  response := (none,none)
  returns := by decide

theorem falsely_silent : (¬ controlOutput.NoFalseSuccess fun _ => controlOutputUnanswered) ∧
    ¬ testerPresent.NoFalseSuccess fun _ => testerPresentPending := by
  have first {r : Request} (passes : Nat → Pass r) : r.ComesTo passes 0 :=
    Request.comesTo_iff.mpr (Request.reached_zero passes)
  constructor
  · intro honest
    have expires : controlOutputUnanswered.Expires [] := ⟨rfl,_,[],rfl,by decide⟩
    have sub := honest 0 (Request.silent_request.mpr ⟨first _,by decide,_,expires⟩)
    exact absurd sub.1 (by decide)
  · intro honest
    have expires : testerPresentPending.Expires [.received 1 [0x7F,0x3E,0x78]] :=
      ⟨rfl,_,[],rfl,by decide⟩
    have quiet := honest 0 (Request.silent_request.mpr ⟨first _,by decide,_,expires⟩)
    obtain ⟨_,_,past,expires,none⟩ := quiet
    rw [expires.past_eq] at none
    exact absurd none (by decide)

end Canbuskit.Uds
