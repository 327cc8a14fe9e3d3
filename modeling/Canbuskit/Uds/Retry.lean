import Canbuskit.Uds.Attempt

/-! The retry loop of a request. A pass waits, unless it is the first, and makes one attempt;
the loop goes on only after a busy reply, and only while retries are left, so that it always
returns from inside. -/
namespace Canbuskit.Uds
open Can Await

/-- What a pass of the loop meets: what interrupts the wait before it, and an attempt with how
it ended. -/
structure Pass (r : Request) where
  interrupted : Option Stop
  sent : Except SendError Unit
  start : Int
  signals : List Signal
  response : Response
  returns : r.singleRequest sent start signals = some (.inr response)

inductive Ending where
  | returned (response : Response)
  | maximumRetryCountReached (lastResp : Option Bytes) (maxRetries : Int) (lastErr : RequestError)
  | failedWithoutResponse
  deriving DecidableEq

structure RetryLoop where
  attempt : Nat
  lastErr : Option RequestError
  lastResp : Option Bytes
  deriving DecidableEq

/-- The error of the wait; its timer fires unless something interrupts it. -/
def waitForRetry (delay : Int) (interrupted : Option Stop) : Option Stop :=
  if delay = 0 then none else interrupted

namespace Request

variable (r : Request)

def afterLoop (l : RetryLoop) : Ending := match l.lastErr with
  | some lastErr => .maximumRetryCountReached l.lastResp r.opts.maxRetries lastErr
  | none => .failedWithoutResponse

def waitBefore (passes : Nat → Pass r) (attempt : Nat) : Option Stop :=
  if 0 < attempt then waitForRetry r.opts.retryDelay (passes attempt).interrupted else none

/-- The loop from a pass on, with the payloads of its calls of `SendContext`. -/
def retryLoop (passes : Nat → Pass r) (l : RetryLoop) : List Bytes × Ending :=
  if l.attempt ≤ r.opts.maxRetries then
    match r.waitBefore passes l.attempt with
    | some reason => ([],.returned (none,some (.stopped reason)))
    | none =>
      let response := (passes l.attempt).response
      match r.conclude l.attempt response with
      | some response => ([r.payload],.returned response)
      | none =>
        let rest := retryLoop passes ⟨l.attempt + 1,response.2,response.1⟩
        (r.payload :: rest.1,rest.2)
  else ([],r.afterLoop l)
termination_by (r.opts.maxRetries + 1 - l.attempt).toNat

def requestWithContext (passes : Nat → Pass r) : List Bytes × Ending :=
  r.retryLoop passes ⟨0,none,none⟩

end Request

namespace Pass

variable {r : Request}

def Busy (pass : Pass r) : Prop :=
  ∃ error, pass.response.2 = some (.negative error) ∧ error.nrc = NRC.busyRepeatRequest

theorem decided (pass : Pass r) :
    (∃ error, pass.sent = .error error ∧ pass.response = (none,some (.send error))) ∨
    ∃ past signal later, pass.sent = .ok () ∧ pass.signals = past ++ signal :: later ∧
      (∀ earlier ∈ past, r.passes earlier = true) ∧ r.pendings past ≤ r.opts.maxResponsePending ∧
      r.Decides (r.waitingAfter pass.start past) signal pass.response := by
  have returns := pass.returns
  cases sent : pass.sent with
  | error error =>
    rw [sent] at returns
    exact .inl ⟨error,rfl,(Sum.inr.inj (Option.some.inj returns)).symm⟩
  | ok =>
    rw [sent] at returns
    obtain ⟨past,signal,later,arrived,passed,few,decides⟩ := r.await_decided.mp returns
    exact .inr ⟨past,signal,later,rfl,arrived,passed,few,r.next_decides.mp decides⟩

/-- After an attempt that is busy with retries left the loop goes on, else it returns what the
attempt returned. -/
theorem conclude_eq (pass : Pass r) (attempt : Int) :
    (pass.Busy ∧ attempt < r.opts.maxRetries ∧ r.conclude attempt pass.response = none) ∨
    (¬ (pass.Busy ∧ attempt < r.opts.maxRetries) ∧
      r.conclude attempt pass.response = some pass.response) := by
  unfold Busy
  rcases pass.decided with ⟨error,_,failed⟩ | ⟨past,signal,later,_,_,_,_,decided⟩
  · rw [failed]
    refine .inr ⟨by simp,?_⟩
    rcases error with reason | _
    · cases reason <;> rfl
    · rfl
  · generalize pass.response = response at decided ⊢
    cases decided with
    | stopped reason => cases reason <;> exact .inr ⟨by simp,rfl⟩
    | suppressed | timeout | positive | tooManyPending | closed => exact .inr ⟨by simp,rfl⟩
    | @negative data nrc now reply =>
      have final := (replyTo_negative.mp reply).2
      by_cases retried : nrc = NRC.busyRepeatRequest ∧ attempt < r.opts.maxRetries
      · refine .inl ⟨⟨_,rfl,retried.1⟩,retried.2,?_⟩
        simp [Request.conclude,UDSError.isRetryable,retried]
      · refine .inr ⟨by simpa using retried,?_⟩
        have last : nrc = NRC.busyRepeatRequest → r.opts.maxRetries ≤ attempt := by
          simpa using retried
        simpa [Request.conclude,UDSError.isRetryable,final] using last

end Pass

namespace Request

variable {r : Request} {passes : Nat → Pass r} {n : Nat}

/-- The loop comes to a pass: retries were left, the waits ended, and earlier attempts were busy. -/
structure Reached (passes : Nat → Pass r) (n : Nat) : Prop where
  allowed : n ≤ r.opts.maxRetries
  waited : ∀ m ≤ n, r.waitBefore passes m = none
  busy : ∀ m < n, (passes m).Busy

theorem reached_zero (passes : Nat → Pass r) : r.Reached passes 0 where
  allowed := r.valid.maxRetries
  waited := by
    intro m first
    obtain rfl := Nat.le_zero.mp first
    rfl
  busy := by simp

theorem Reached.earlier (reached : r.Reached passes (n + 1)) : r.Reached passes n where
  allowed := by
    have := reached.allowed
    omega
  waited := fun m before => reached.waited m (by omega)
  busy := fun m before => reached.busy m (by omega)

theorem Reached.later (reached : r.Reached passes n) (busy : (passes n).Busy)
    (left : n < r.opts.maxRetries) (waited : r.waitBefore passes (n + 1) = none) :
    r.Reached passes (n + 1) where
  allowed := by omega
  waited := by
    intro m before
    rcases Nat.lt_or_eq_of_le before with early | rfl
    · exact reached.waited m (by omega)
    · exact waited
  busy := by
    intro m before
    rcases Nat.lt_or_eq_of_le (Nat.lt_succ_iff.mp before) with early | rfl
    · exact reached.busy m early
    · exact busy

theorem retryLoop_interrupted {l : RetryLoop} {reason : Stop} (left : l.attempt ≤ r.opts.maxRetries)
    (interrupted : r.waitBefore passes l.attempt = some reason) :
    r.retryLoop passes l = ([],.returned (none,some (.stopped reason))) := by
  rw [retryLoop,if_pos left,interrupted]

theorem retryLoop_again {l : RetryLoop} (waited : r.waitBefore passes l.attempt = none)
    (busy : (passes l.attempt).Busy) (left : l.attempt < r.opts.maxRetries) :
    ∃ next : RetryLoop, next.attempt = l.attempt + 1 ∧ r.retryLoop passes l =
      (r.payload :: (r.retryLoop passes next).1,(r.retryLoop passes next).2) := by
  rcases (passes l.attempt).conclude_eq l.attempt with ⟨_,_,again⟩ | ⟨last,_⟩
  · refine ⟨⟨l.attempt + 1,(passes l.attempt).response.2,(passes l.attempt).response.1⟩,rfl,?_⟩
    rw [retryLoop,if_pos (Int.le_of_lt left),waited]
    simp only [again]
  · exact absurd ⟨busy,left⟩ last

theorem retryLoop_last {l : RetryLoop} (allowed : l.attempt ≤ r.opts.maxRetries)
    (waited : r.waitBefore passes l.attempt = none)
    (last : ¬ ((passes l.attempt).Busy ∧ l.attempt < r.opts.maxRetries)) :
    r.retryLoop passes l = ([r.payload],.returned (passes l.attempt).response) := by
  rcases (passes l.attempt).conclude_eq l.attempt with ⟨busy,left,_⟩ | ⟨_,ends⟩
  · exact absurd ⟨busy,left⟩ last
  · rw [retryLoop,if_pos allowed,waited]
    simp only [ends]

theorem Reached.resumes (reached : r.Reached passes n) : ∃ l : RetryLoop, l.attempt = n ∧
    r.requestWithContext passes =
      (List.replicate n r.payload ++ (r.retryLoop passes l).1,(r.retryLoop passes l).2) := by
  induction n with
  | zero => exact ⟨⟨0,none,none⟩,rfl,rfl⟩
  | succ n ih =>
    obtain ⟨l,rfl,resumed⟩ := ih reached.earlier
    have left : l.attempt < r.opts.maxRetries := by
      have := reached.allowed
      omega
    obtain ⟨next,counted,again⟩ := retryLoop_again (reached.waited l.attempt (by omega))
      (reached.busy l.attempt (by omega)) left
    refine ⟨next,counted,?_⟩
    rw [resumed,again]
    simp [List.replicate_succ']

/-- The request returns what an attempt returned, after one call for it and each one before. -/
def ReturnsAt (passes : Nat → Pass r) (last : Nat) : Prop :=
  r.requestWithContext passes =
    (List.replicate (1 + last) r.payload,.returned (passes last).response)

theorem Reached.returns (reached : r.Reached passes n)
    (last : ¬ ((passes n).Busy ∧ n < r.opts.maxRetries)) : r.ReturnsAt passes n := by
  obtain ⟨l,rfl,resumed⟩ := reached.resumes
  rw [ReturnsAt,resumed,retryLoop_last reached.allowed (reached.waited _ (Nat.le_refl _)) last]
  simp [Nat.add_comm 1,List.replicate_succ']

theorem Reached.interrupted {reason : Stop} (reached : r.Reached passes n) (busy : (passes n).Busy)
    (left : n < r.opts.maxRetries) (interrupted : r.waitBefore passes (n + 1) = some reason) :
    r.requestWithContext passes =
      (List.replicate (1 + n) r.payload,.returned (none,some (.stopped reason))) := by
  obtain ⟨l,rfl,resumed⟩ := reached.resumes
  obtain ⟨next,counted,again⟩ := retryLoop_again (reached.waited _ (Nat.le_refl _)) busy left
  rw [← counted] at interrupted
  rw [resumed,again,retryLoop_interrupted (by omega) interrupted]
  simp [Nat.add_comm 1,List.replicate_succ']

theorem Reached.ends (reached : r.Reached passes n) : ∃ last, n ≤ last ∧ r.Reached passes last ∧
    (¬ ((passes last).Busy ∧ last < r.opts.maxRetries) ∨
      (passes last).Busy ∧ last < r.opts.maxRetries ∧
        ∃ reason, r.waitBefore passes (last + 1) = some reason) := by
  generalize remaining : (r.opts.maxRetries - n).toNat = left
  induction left generalizing n with
  | zero => exact ⟨n,Nat.le_refl n,reached,.inl (by omega)⟩
  | succ left ih =>
    by_cases busy : (passes n).Busy
    · cases waited : r.waitBefore passes (n + 1) with
      | none =>
        obtain ⟨last,after,ended⟩ := ih (reached.later busy (by omega) waited) (by omega)
        exact ⟨last,by omega,ended⟩
      | some reason => exact ⟨n,Nat.le_refl n,reached,.inr ⟨busy,by omega,reason,waited⟩⟩
    · exact ⟨n,Nat.le_refl n,reached,.inl (by simp [busy])⟩

/-- A request makes one attempt more than it is told to be busy, within its limit, and returns
its last attempt's outcome. However the waits end, it only repeats a busy attempt, and it never
leaves its loop at the end. -/
theorem retries_busy_only (r : Request) (passes : Nat → Pass r) :
    (∃ (last : Nat) (response : Response), last ≤ r.opts.maxRetries ∧
      (∀ n < last, (passes n).Busy) ∧
      r.requestWithContext passes = (List.replicate (1 + last) r.payload,.returned response)) ∧
    ((∀ n, (passes n).interrupted = none) →
      (∀ k, (∀ n < k, (passes n).Busy) → ¬ (passes k).Busy →
        r.ReturnsAt passes (min k r.opts.maxRetries.toNat)) ∧
      ((∀ n, (passes n).Busy) → r.ReturnsAt passes r.opts.maxRetries.toNat)) := by
  have positive := r.valid.maxRetries
  constructor
  · obtain ⟨last,_,reached,final | ⟨busy,left,reason,interrupted⟩⟩ := (reached_zero passes).ends
    · exact ⟨last,_,reached.allowed,reached.busy,reached.returns final⟩
    · exact ⟨last,_,reached.allowed,reached.busy,reached.interrupted busy left interrupted⟩
  · intro uninterrupted
    have reached (m : Nat) (few : m ≤ r.opts.maxRetries) (busy : ∀ n < m, (passes n).Busy) :
        r.Reached passes m := by
      refine ⟨few,fun n _ => ?_,busy⟩
      simp [waitBefore,waitForRetry,uninterrupted]
    constructor
    · intro k leading other
      refine (reached _ (by omega) fun n before => leading n (by omega)).returns ?_
      rintro ⟨busy,left⟩
      rcases Nat.lt_or_ge k r.opts.maxRetries.toNat with fewer | more
      · rw [Nat.min_eq_left (Nat.le_of_lt fewer)] at busy
        exact other busy
      · omega
    · intro always
      exact (reached _ (by omega) fun n _ => always n).returns (by omega)

end Request

def readTwice : Request where
  payload := [0x22,0xF1,0x8C]
  opts := ⟨1000000,2,1000,1000000,1⟩
  mode := addressPhysical
  nonempty := by decide
  valid := by constructor <;> decide

def readTwiceBusy : Pass readTwice where
  interrupted := none
  sent := .ok ()
  start := 0
  signals := [.received 1 [0x7F,0x22,0x21]]
  response := (some [0x7F,0x22,0x21],some (.negative ⟨0x22,0x21,"BusyRepeatRequest"⟩))
  returns := by decide

theorem retries_busy_only_always : readTwice.ReturnsAt (fun _ => readTwiceBusy) 2 :=
  ((readTwice.retries_busy_only fun _ => readTwiceBusy).2 fun _ => rfl).2 fun _ => ⟨_,rfl,rfl⟩

end Canbuskit.Uds
