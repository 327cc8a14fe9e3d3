import Canbuskit.Uds.Client

/-! One attempt against any traffic: what decides it, which replies it tolerates and which it
does not notice. A payload is read as a reply to a service in one place, and the receive loop
is described by how many pending replies it has seen and when the last one came. -/
namespace Canbuskit.Uds
open Can Await

/-- A payload as a reply to a service. -/
inductive Reply where
  | positive
  | pending
  | negative (nrc : NRC)
  | foreign
  deriving DecidableEq

def replyTo (sid : UInt8) : Bytes → Reply
  | [] => .foreign
  | first :: service :: nrc :: _ =>
    if first = 0x7F then
      if service ≠ sid then .foreign
      else if nrc = NRC.requestCorrectlyReceivedResponsePending then .pending
      else .negative nrc
    else if first = sid + 0x40 then .positive else .foreign
  | first :: _ => if first = sid + 0x40 then .positive else .foreign

/-- Payloads that are no reply: empty ones, negative ones of other services, and those with
another first byte, also `7F` when they are too short for a negative reply. -/
theorem replyTo_foreign {sid : UInt8} {data : Bytes} :
    replyTo sid data = .foreign ↔ data = [] ∨
      (∃ service nrc rest, data = 0x7F :: service :: nrc :: rest ∧ service ≠ sid) ∨
      ∃ first rest, data = first :: rest ∧ first ≠ sid + 0x40 ∧ (first = 0x7F → rest.length < 2) := by
  rcases data with _ | ⟨first,_ | ⟨service,_ | ⟨nrc,rest⟩⟩⟩
  · simp [replyTo]
  · simp [replyTo]
  · simp [replyTo]
  · simp only [replyTo]
    split_ifs with negative other pending positive <;> simp_all

theorem replyTo_negative {sid : UInt8} {data : Bytes} {nrc : NRC} :
    replyTo sid data = .negative nrc ↔ (∃ rest, data = 0x7F :: sid :: nrc :: rest) ∧
      nrc ≠ NRC.requestCorrectlyReceivedResponsePending := by
  rcases data with _ | ⟨first,_ | ⟨service,_ | ⟨code,rest⟩⟩⟩
  · simp [replyTo]
  · simp only [replyTo]
    split_ifs <;> simp
  · simp only [replyTo]
    split_ifs <;> simp
  · simp only [replyTo]
    split_ifs with negative other pending positive <;> (simp_all; try grind)

theorem replyTo_pending {sid : UInt8} {data : Bytes} :
    replyTo sid data = .pending ↔
      ∃ rest, data = 0x7F :: sid :: NRC.requestCorrectlyReceivedResponsePending :: rest := by
  rcases data with _ | ⟨first,_ | ⟨service,_ | ⟨code,rest⟩⟩⟩
  · simp [replyTo]
  · simp only [replyTo]
    split_ifs <;> simp
  · simp only [replyTo]
    split_ifs <;> simp
  · simp only [replyTo]
    split_ifs with negative other pending positive <;> simp_all

theorem replyTo_positive {sid : UInt8} {data : Bytes} (positive : replyTo sid data = .positive) :
    data.head? = some (sid + 0x40) := by
  rcases data with _ | ⟨first,_ | ⟨service,_ | ⟨code,rest⟩⟩⟩
  · simp [replyTo] at positive
  · simpa [replyTo] using positive
  · simpa [replyTo] using positive
  · simp only [replyTo] at positive
    split_ifs at positive with negative other pending answers
    simp [answers]

namespace Request

variable (r : Request)

theorem receive_eq (w : Waiting) (now : Int) (data : Bytes) :
    r.receive w now data = match replyTo r.requestSID data with
      | .foreign => .inl w
      | .pending =>
        if r.opts.maxResponsePending < w.pendingCount + 1 then
          .inr (some data,some (.tooManyResponsePending (w.pendingCount + 1)))
        else .inl ⟨now + r.opts.responsePendingTimeout,r.opts.responsePendingTimeout,w.pendingCount + 1⟩
      | .negative nrc => .inr (some data,some (.negative ⟨r.requestSID,nrc,getNRCDescription nrc⟩))
      | .positive => .inr (some data,none) := by
  unfold receive expectedResponseSID
  rcases data with _ | ⟨first,_ | ⟨service,_ | ⟨code,rest⟩⟩⟩
  · simp [replyTo]
  · simp only [replyTo]
    split_ifs <;> simp_all
  · simp only [replyTo]
    split_ifs <;> simp_all
  · simp only [replyTo]
    split_ifs <;> simp_all

/-- Signals that leave the loop waiting while there are not too many of them. -/
def passes : Signal → Bool
  | .received _ data => replyTo r.requestSID data == .foreign || replyTo r.requestSID data == .pending
  | _ => false

/-- The time of a pending reply. -/
def pendingAt : Signal → Option Int
  | .received now data => if replyTo r.requestSID data = .pending then some now else none
  | _ => none

def pendings (signals : List Signal) : Nat := (signals.filterMap r.pendingAt).length

/-- The loop's variables after signals that left it waiting: the timer runs from the start, or
from the last pending reply. -/
def waitingAfter (start : Int) (signals : List Signal) : Waiting :=
  match (signals.filterMap r.pendingAt).getLast? with
  | none => r.startWaiting start
  | some now => ⟨now + r.opts.responsePendingTimeout,r.opts.responsePendingTimeout,r.pendings signals⟩

/-- Signals other than payloads that are no reply to the request. -/
def hears : Signal → Bool
  | .received _ data => replyTo r.requestSID data != .foreign
  | _ => true

theorem next_unheard (w : Waiting) {signal : Signal} (unheard : r.hears signal = false) :
    r.next w signal = some (.inl w) := by
  cases signal with
  | received now data =>
    have foreign : replyTo r.requestSID data = .foreign := by simpa [hears] using unheard
    rw [next,receive_eq,foreign]
  | stopped | deadline | receiveClosed => simp [hears] at unheard

theorem next_waits {w v : Waiting} {signal : Signal} :
    r.next w signal = some (.inl v) ↔ r.passes signal = true ∧
      match r.pendingAt signal with
      | none => v = w
      | some now => w.pendingCount < r.opts.maxResponsePending ∧
        v = ⟨now + r.opts.responsePendingTimeout,r.opts.responsePendingTimeout,w.pendingCount + 1⟩ := by
  cases signal with
  | received now data =>
    rw [next,receive_eq]
    cases reply : replyTo r.requestSID data with
    | foreign => simp [passes,pendingAt,reply,eq_comm]
    | pending =>
      simp only [passes,pendingAt,reply]
      split_ifs with many
      · simp
        omega
      · simp [eq_comm]
        omega
    | positive => simp [passes,reply]
    | negative => simp [passes,reply]
  | deadline now =>
    simp only [next,passes]
    split_ifs <;> simp
  | stopped | receiveClosed => simp [next,passes]

theorem waitingAfter_count (start : Int) (signals : List Signal) :
    (r.waitingAfter start signals).pendingCount = r.pendings signals := by
  unfold waitingAfter pendings
  cases last : (signals.filterMap r.pendingAt).getLast? with
  | none =>
    rw [List.getLast?_eq_none_iff.mp last]
    rfl
  | some => rfl

theorem waitingAfter_snoc (start : Int) (past : List Signal) (signal : Signal) :
    r.waitingAfter start (past ++ [signal]) = match r.pendingAt signal with
      | none => r.waitingAfter start past
      | some now => ⟨now + r.opts.responsePendingTimeout,r.opts.responsePendingTimeout,
          (r.waitingAfter start past).pendingCount + 1⟩ := by
  rw [waitingAfter_count]
  unfold waitingAfter pendings
  rw [List.filterMap_append]
  cases pending : r.pendingAt signal with
  | none => simp [pending]
  | some now => simp [pending]

theorem pendings_snoc (past : List Signal) (signal : Signal) :
    r.pendings (past ++ [signal]) = r.pendings past + (r.pendingAt signal).toList.length := by
  unfold pendings
  rw [List.filterMap_append]
  cases pending : r.pendingAt signal <;> simp [pending]

/-- The loop still waits exactly after signals that pass, among them at most the tolerated
number of pending replies. -/
theorem await_waits {start : Int} {signals : List Signal} {w : Waiting} :
    await r.next (r.startWaiting start) signals = some (.inl w) ↔
      (∀ signal ∈ signals, r.passes signal = true) ∧
        r.pendings signals ≤ r.opts.maxResponsePending ∧ w = r.waitingAfter start signals := by
  induction signals using List.reverseRecOn generalizing w with
  | nil =>
    have allowed : ((r.pendings [] : Nat) : Int) ≤ r.opts.maxResponsePending :=
      Int.le_of_lt r.valid.maxResponsePending
    constructor
    · rintro ⟨⟩
      exact ⟨by simp,allowed,rfl⟩
    · rintro ⟨_,_,rfl⟩
      rfl
  | append_singleton past signal ih =>
    rw [await_snoc,waitingAfter_snoc,pendings_snoc]
    constructor
    · rintro ⟨u,before,taken⟩
      obtain ⟨passed,few,rfl⟩ := ih.mp before
      obtain ⟨passes,result⟩ := r.next_waits.mp taken
      have all : ∀ earlier ∈ past ++ [signal], r.passes earlier = true := by
        simpa [or_imp,forall_and] using ⟨passed,passes⟩
      cases pending : r.pendingAt signal with
      | none =>
        rw [pending] at result
        exact ⟨all,by simpa using few,result⟩
      | some now =>
        rw [pending,waitingAfter_count] at result
        refine ⟨all,?_,?_⟩
        · simp only [Option.toList_some,List.length_singleton]
          omega
        · rw [waitingAfter_count]
          exact result.2
    · rintro ⟨all,few,rfl⟩
      refine ⟨r.waitingAfter start past,ih.mpr ⟨?_,by omega,rfl⟩,r.next_waits.mpr ⟨all signal (by simp),?_⟩⟩
      · intro earlier member
        exact all earlier (by simp [member])
      · cases pending : r.pendingAt signal with
        | none => rfl
        | some now =>
          rw [pending] at few
          simp only [Option.toList_some,List.length_singleton] at few
          dsimp only
          rw [waitingAfter_count]
          exact ⟨by omega,rfl⟩

theorem await_decided {start : Int} {signals : List Signal} {response : Response} :
    await r.next (r.startWaiting start) signals = some (.inr response) ↔
      ∃ past signal later, signals = past ++ signal :: later ∧
        (∀ earlier ∈ past, r.passes earlier = true) ∧ r.pendings past ≤ r.opts.maxResponsePending ∧
        r.next (r.waitingAfter start past) signal = some (.inr response) := by
  rw [await_returned]
  constructor
  · rintro ⟨past,signal,later,w,rfl,waits,decides⟩
    obtain ⟨passed,few,rfl⟩ := r.await_waits.mp waits
    exact ⟨past,signal,later,rfl,passed,few,decides⟩
  · rintro ⟨past,signal,later,rfl,passed,few,decides⟩
    exact ⟨past,signal,later,_,rfl,r.await_waits.mpr ⟨passed,few,rfl⟩,decides⟩

/-- The ways a signal decides the attempt. -/
inductive Decides (w : Waiting) : Signal → Response → Prop
  | stopped (reason : Stop) : Decides w (.stopped reason) (none,some (.stopped reason))
  | suppressed {now : Int} (expired : w.deadline ≤ now) (suppress : r.suppressPositive = true) :
      Decides w (.deadline now) (none,none)
  | timeout {now : Int} (expired : w.deadline ≤ now) (expects : r.suppressPositive = false) :
      Decides w (.deadline now) (none,some (.requestTimeout w.currentTimeout))
  | positive {data : Bytes} (now : Int) (reply : replyTo r.requestSID data = .positive) :
      Decides w (.received now data) (some data,none)
  | tooManyPending {data : Bytes} (now : Int) (reply : replyTo r.requestSID data = .pending)
      (many : r.opts.maxResponsePending < w.pendingCount + 1) :
      Decides w (.received now data) (some data,some (.tooManyResponsePending (w.pendingCount + 1)))
  | negative {data : Bytes} {nrc : NRC} (now : Int) (reply : replyTo r.requestSID data = .negative nrc) :
      Decides w (.received now data)
        (some data,some (.negative ⟨r.requestSID,nrc,getNRCDescription nrc⟩))
  | closed : Decides w .receiveClosed (none,some .receiveChannelClosed)

theorem next_decides {w : Waiting} {signal : Signal} {response : Response} :
    r.next w signal = some (.inr response) ↔ r.Decides w signal response := by
  constructor
  · intro decides
    cases signal with
    | stopped reason =>
      cases decides
      exact .stopped reason
    | deadline now =>
      simp only [next] at decides
      split_ifs at decides with early suppress
      · cases decides
        exact .suppressed (Int.not_lt.mp early) suppress
      · cases decides
        exact .timeout (Int.not_lt.mp early) (by simpa using suppress)
    | received now data =>
      rw [next,receive_eq] at decides
      cases reply : replyTo r.requestSID data with
      | foreign => simp [reply] at decides
      | pending =>
        simp only [reply] at decides
        split_ifs at decides with many
        · cases decides
          exact .tooManyPending now reply many
        · simp at decides
      | positive =>
        simp only [reply] at decides
        cases decides
        exact .positive now reply
      | negative nrc =>
        simp only [reply] at decides
        cases decides
        exact .negative now reply
    | receiveClosed =>
      cases decides
      exact .closed
  · intro decided
    cases decided with
    | stopped | closed => rfl
    | suppressed expired suppress => simp only [next,if_neg (Int.not_lt.mpr expired),suppress,if_true]
    | timeout expired expects =>
      simp only [next,if_neg (Int.not_lt.mpr expired),expects,Bool.false_eq_true,if_false]
    | positive now reply | negative now reply => simp only [next,receive_eq,reply]
    | tooManyPending now reply many => simp only [next,receive_eq,reply,if_pos many]

theorem next_positive {w : Waiting} {signal : Signal} {data : Bytes}
    (decides : r.next w signal = some (.inr (some data,none))) :
    data.head? = some r.expectedResponseSID := by
  cases r.next_decides.mp decides with
  | positive now reply => exact replyTo_positive reply

theorem next_negative {w : Waiting} {signal : Signal} {response : Option Bytes} {error : UDSError}
    (decides : r.next w signal = some (.inr (response,some (.negative error)))) :
    (∃ rest, response = some (0x7F :: r.requestSID :: error.nrc :: rest)) ∧
      error.nrc ≠ NRC.requestCorrectlyReceivedResponsePending := by
  cases r.next_decides.mp decides with
  | negative now reply =>
    obtain ⟨⟨rest,shape⟩,final⟩ := replyTo_negative.mp reply
    exact ⟨⟨rest,congrArg some shape⟩,final⟩

theorem next_pending {w : Waiting} {now : Int} {data : Bytes}
    (pending : replyTo r.requestSID data = .pending)
    (last : w.pendingCount = r.opts.maxResponsePending) :
    r.next w (.received now data) =
      some (.inr (some data,some (.tooManyResponsePending (r.opts.maxResponsePending + 1)))) := by
  rw [← last]
  exact r.next_decides.mpr (.tooManyPending now pending (by omega))

/-- An attempt returns with the first signal that decides: a payload that answers the service,
a final negative reply, one pending reply too many, or an end of waiting. Everything else it
passes over, and only pending replies move the deadline. -/
theorem singleRequest_any_traffic (start : Int) (signals : List Signal) :
    (∀ data, r.singleRequest (.ok ()) start signals = some (.inr (some data,none)) →
      data.head? = some (r.requestSID + 0x40)) ∧
    (∀ response error,
      r.singleRequest (.ok ()) start signals = some (.inr (response,some (.negative error))) →
      (∃ rest, response = some (0x7F :: r.requestSID :: error.nrc :: rest)) ∧
        error.nrc ≠ NRC.requestCorrectlyReceivedResponsePending) ∧
    (∀ w, r.singleRequest (.ok ()) start signals = some (.inl w) ↔
      (∀ signal ∈ signals, r.passes signal = true) ∧
        r.pendings signals ≤ r.opts.maxResponsePending ∧ w = r.waitingAfter start signals) ∧
    (∀ past now data later, signals = past ++ .received now data :: later →
      (∀ earlier ∈ past, r.passes earlier = true) → r.pendings past = r.opts.maxResponsePending →
      replyTo r.requestSID data = .pending → r.singleRequest (.ok ()) start signals =
        some (.inr (some data,some (.tooManyResponsePending (r.opts.maxResponsePending + 1))))) ∧
    (∀ response, r.singleRequest (.ok ()) start signals = some (.inr response) ↔
      ∃ past signal later, signals = past ++ signal :: later ∧
        (∀ earlier ∈ past, r.passes earlier = true) ∧ r.pendings past ≤ r.opts.maxResponsePending ∧
        r.next (r.waitingAfter start past) signal = some (.inr response)) ∧
    ∀ noisy, noisy.filter r.hears = signals.filter r.hears →
      r.singleRequest (.ok ()) start noisy = r.singleRequest (.ok ()) start signals := by
  have ignores (w : Waiting) (signal : Signal) (unheard : r.hears signal = false) :
      r.next w signal = some (.inl w) := r.next_unheard w unheard
  refine ⟨?_,?_,fun w => r.await_waits,?_,fun response => r.await_decided,?_⟩
  · intro data returns
    obtain ⟨past,signal,later,_,_,_,decides⟩ := r.await_decided.mp returns
    exact r.next_positive decides
  · intro response error returns
    obtain ⟨past,signal,later,_,_,_,decides⟩ := r.await_decided.mp returns
    exact r.next_negative decides
  · rintro past now data later rfl passed full pending
    refine r.await_decided.mpr ⟨past,_,later,rfl,passed,by omega,r.next_pending pending ?_⟩
    rw [waitingAfter_count,full]
  · intro noisy same
    have quiet := await_filter ignores (r.startWaiting start)
    calc r.singleRequest (.ok ()) start noisy
        = await r.next (r.startWaiting start) (noisy.filter r.hears) := (quiet noisy).symm
      _ = await r.next (r.startWaiting start) (signals.filter r.hears) := by rw [same]
      _ = r.singleRequest (.ok ()) start signals := quiet signals

end Request

/-- A late pending reply restarts the timer, and the answer to another service does not. -/
example : ∃ r : Request, r.payload = [0x22,0xF1,0x90] ∧
    r.singleRequest (.ok ()) 0 [.received 1 [0x7F,0x22,0x78],.received 2 [0x50,0x01],
      .deadline 5000000001] = some (.inr (none,some (.requestTimeout 5000000000))) :=
  ⟨⟨[0x22,0xF1,0x90],defaultRequestOptions,addressPhysical,by decide,
    normalizeRequestOptions_valid defaultRequestOptions_valid⟩,rfl,by decide⟩

end Canbuskit.Uds
