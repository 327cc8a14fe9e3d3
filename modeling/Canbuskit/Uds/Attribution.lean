import Canbuskit.Lib.Runs
import Canbuskit.Uds.Attempt

/-! Which request a reply was produced for. The client runs over a lossless FIFO transport to
an ECU that answers each transmission at most once, at any later time. The client drains stale
replies before it sends and then matches the service byte only, so a reply that is still on
its way at the drain can be taken by a later request of the same service. -/
namespace Canbuskit.Uds
open Can Runs

/-- Not a reply that announces another one. -/
def finalReply (data : Bytes) : Bool := match data with
  | 0x7F :: _ :: nrc :: _ => nrc != NRC.requestCorrectlyReceivedResponsePending
  | _ => true

/-- A reply with the number of the transmission it was produced for. -/
structure Tagged where
  transmission : Nat
  data : Bytes
  deriving DecidableEq

/-- The client with the replies it has not read, those on their way to it, the request that
each transmission was made for, and the transmissions that have their final reply. -/
structure World where
  phase : Phase
  current : Nat
  inbox : List Tagged
  wire : List Tagged
  transmissions : List Nat
  answered : List Nat

inductive Occurrence where
  | start (r : Request)
  | drain
  | drained
  | sent (now : Int)
  | sendFailed (error : SendError)
  | receive (now : Int)
  | deadline (now : Int)
  | stopped (reason : Stop)
  | retry
  | retryFailed (reason : Stop)
  | reply (tagged : Tagged)
  | arrive

namespace World

def initial : World := ⟨.idle,0,[],[],[],[]⟩

/-- An action of the client, with what else it changes. -/
def act (w : World) (action : Action) (change : World → World) : Option (World × Option Response) :=
  (w.phase.step action).map fun result => (change { w with phase := result.1 },result.2)

def step (w : World) : Occurrence → Option (World × Option Response)
  | .start r => w.act (.start r) fun w => { w with current := w.current + 1 }
  | .drain => match w.inbox with
    | [] => none
    | stale :: rest => w.act (.drain stale.data) fun w => { w with inbox := rest }
  | .drained => if w.inbox = [] then w.act .drained id else none
  | .sent now => w.act (.sent now) fun w => { w with transmissions := w.transmissions ++ [w.current] }
  | .sendFailed error => w.act (.sendFailed error) id
  | .receive now => match w.inbox with
    | [] => none
    | first :: rest => w.act (.signal (.received now first.data)) fun w => { w with inbox := rest }
  | .deadline now => w.act (.signal (.deadline now)) id
  | .stopped reason => w.act (.signal (.stopped reason)) id
  | .retry => w.act .retry id
  | .retryFailed reason => w.act (.retryFailed reason) id
  | .reply tagged =>
    if w.transmissions.length ≤ tagged.transmission then none
    else if !finalReply tagged.data then some ({ w with wire := w.wire ++ [tagged] },none)
    else if tagged.transmission ∈ w.answered then none
    else some ({ w with wire := w.wire ++ [tagged], answered := tagged.transmission :: w.answered },none)
  | .arrive => match w.wire with
    | [] => none
    | first :: rest => some ({ w with wire := rest, inbox := w.inbox ++ [first] },none)

/-- The request a reply was produced for. -/
def owner (w : World) (tagged : Tagged) : Option Nat := w.transmissions[tagged.transmission]?

/-- The final reply to a transmission has not arrived. -/
def Outstanding (w : World) (transmission : Nat) : Prop :=
  transmission ∉ w.answered ∨
    ∃ tagged ∈ w.wire, tagged.transmission = transmission ∧ finalReply tagged.data = true

end World

structure Happening where
  before : World
  occurrence : Occurrence
  response : Option Response
  after : World

def Happening.Step (w : World) (happening : Happening) (v : World) : Prop :=
  happening.before = w ∧ happening.after = v ∧ w.step happening.occurrence = some (v,happening.response)

def Happening.returns (happening : Happening) : Option Tagged :=
  match happening.occurrence, happening.response with
  | .receive _, some (some _,none) => happening.before.inbox.head?
  | .receive _, some (some _,some (.negative _)) => happening.before.inbox.head?
  | _, _ => none

def World.execute (w : World) (occurrences : List Occurrence) : Option (List Happening × World) :=
  Runs.execute (fun w occurrence => match w.step occurrence with
    | none => none
    | some (v,response) => some (⟨w,occurrence,response,v⟩,v)) w occurrences

theorem World.execute_run {w v : World} {occurrences : List Occurrence} {happenings : List Happening}
    (executed : w.execute occurrences = some (happenings,v)) :
    Run Happening.Step w happenings v := by
  refine Runs.execute_run ?_ executed
  intro u occurrence happening v taken
  split at taken
  · contradiction
  · rename_i stepped
    obtain ⟨rfl,rfl⟩ := Prod.mk.inj (Option.some.inj taken)
    exact ⟨rfl,rfl,stepped⟩

theorem finalReply_replyTo {sid : UInt8} {data : Bytes}
    (answers : replyTo sid data = .positive ∨ ∃ nrc, replyTo sid data = .negative nrc) :
    finalReply data = true := by
  unfold finalReply
  split
  · rename_i service nrc rest
    rcases answers with positive | ⟨code,negative⟩
    · simp only [replyTo,if_true] at positive
      split_ifs at positive
    · obtain ⟨⟨_,shape⟩,final⟩ := replyTo_negative.mp negative
      simp only [List.cons.injEq] at shape
      obtain ⟨_,_,rfl,_⟩ := shape
      simpa using final
  · rfl

def Phase.attempt : Phase → Option (Request × Int)
  | .sending r attempt => some (r,attempt)
  | .waiting r attempt _ => some (r,attempt)
  | _ => none

theorem Phase.finish_attempt (r : Request) (attempt : Int) (response : Response) :
    (finish r attempt response).1.attempt = none := by
  unfold finish
  cases r.conclude attempt response <;> rfl

theorem Phase.step_attempt {p q : Phase} {action : Action} {response : Option Response} {r : Request}
    {attempt : Int} (taken : p.step action = some (q,response))
    (drained : q.attempt = some (r,attempt)) :
    action = .drained ∧ p = .draining r attempt ∨
      p.attempt = some (r,attempt) ∧ action ≠ .drained ∧ ∀ r, action ≠ .start r := by
  have finished (other : Request) (tried : Int) (outcome : Response)
      (result : some (finish other tried outcome) = some (q,response)) : False := by
    have none := finish_attempt other tried outcome
    rw [Option.some.inj result,drained] at none
    contradiction
  unfold step at taken
  split at taken
  · cases taken
    contradiction
  · cases taken
    contradiction
  · cases taken
    cases drained
    exact .inl ⟨rfl,rfl⟩
  · cases taken
    exact .inr ⟨drained,by simp,by simp⟩
  · exact (finished _ _ _ taken).elim
  · split at taken
    · contradiction
    · cases taken
      exact .inr ⟨drained,by simp,by simp⟩
    · exact (finished _ _ _ taken).elim
  · cases taken
    contradiction
  · cases taken
    contradiction
  · contradiction

namespace World

variable {w v : World} {occurrence : Occurrence} {response : Option Response}

theorem act_some {action : Action} {change : World → World}
    (taken : w.act action change = some (v,response)) :
    ∃ phase, w.phase.step action = some (phase,response) ∧ v = change { w with phase := phase } := by
  obtain ⟨⟨phase,_⟩,stepped,result⟩ := Option.map_eq_some_iff.mp taken
  obtain ⟨rfl,rfl⟩ := Prod.mk.inj result
  exact ⟨phase,stepped,rfl⟩

/-- What a step leaves of the transmissions and their replies. -/
structure Follows (w v : World) : Prop where
  current : w.current ≤ v.current
  transmissions : v.transmissions = w.transmissions ∨ v.transmissions = w.transmissions ++ [w.current]
  answered : ∀ transmission ∈ w.answered, transmission ∈ v.answered
  replies : ∀ tagged ∈ v.inbox ++ v.wire, tagged ∈ w.inbox ++ w.wire ∨
    tagged.transmission < w.transmissions.length ∧
      (finalReply tagged.data = true → tagged.transmission ∉ w.answered)

theorem step_follows (taken : w.step occurrence = some (v,response)) : w.Follows v := by
  cases occurrence with
  | start r =>
    simp only [step] at taken
    obtain ⟨phase,_,rfl⟩ := act_some taken
    exact ⟨Nat.le_succ _,.inl rfl,fun _ => id,fun _ => .inl⟩
  | sent now =>
    simp only [step] at taken
    obtain ⟨phase,_,rfl⟩ := act_some taken
    exact ⟨Nat.le_refl _,.inr rfl,fun _ => id,fun _ => .inl⟩
  | drain | receive =>
    simp only [step] at taken
    split at taken
    · contradiction
    · rename_i first rest queue
      obtain ⟨phase,_,rfl⟩ := act_some taken
      refine ⟨Nat.le_refl _,.inl rfl,fun _ => id,?_⟩
      intro tagged member
      rw [queue]
      exact .inl (List.mem_cons_of_mem _ member)
  | drained =>
    simp only [step] at taken
    split_ifs at taken
    obtain ⟨phase,_,rfl⟩ := act_some taken
    exact ⟨Nat.le_refl _,.inl rfl,fun _ => id,fun _ => .inl⟩
  | sendFailed | deadline | stopped | retry | retryFailed =>
    simp only [step] at taken
    obtain ⟨phase,_,rfl⟩ := act_some taken
    exact ⟨Nat.le_refl _,.inl rfl,fun _ => id,fun _ => .inl⟩
  | reply tagged =>
    simp only [step] at taken
    split_ifs at taken with unknown pending again
    · obtain ⟨rfl,_⟩ := Prod.mk.inj (Option.some.inj taken)
      refine ⟨Nat.le_refl _,.inl rfl,fun _ => id,?_⟩
      intro other member
      rw [← List.append_assoc,List.mem_append,List.mem_singleton] at member
      rcases member with old | rfl
      · exact .inl old
      · exact .inr ⟨by omega,fun final => by simp [final] at pending⟩
    · obtain ⟨rfl,_⟩ := Prod.mk.inj (Option.some.inj taken)
      refine ⟨Nat.le_refl _,.inl rfl,fun _ => List.mem_cons_of_mem _,?_⟩
      intro other member
      rw [← List.append_assoc,List.mem_append,List.mem_singleton] at member
      rcases member with old | rfl
      · exact .inl old
      · exact .inr ⟨by omega,fun _ => again⟩
  | arrive =>
    simp only [step] at taken
    split at taken
    · contradiction
    · rename_i first rest queue
      obtain ⟨rfl,_⟩ := Prod.mk.inj (Option.some.inj taken)
      refine ⟨Nat.le_refl _,.inl rfl,fun _ => id,?_⟩
      intro tagged member
      rw [queue]
      exact .inl (by simpa using member)

theorem step_attempt (taken : w.step occurrence = some (v,response)) {r : Request} {attempt : Int}
    (drained : v.phase.attempt = some (r,attempt)) :
    v.current = w.current ∧
      ((occurrence = .drained ∧ w.phase = .draining r attempt ∧ v.inbox = []) ∨
      (w.phase.attempt = some (r,attempt) ∧ ∀ tagged ∈ v.inbox, tagged ∈ w.inbox ∨
        occurrence = .arrive ∧ w.wire.head? = some tagged)) := by
  cases occurrence with
  | start r =>
    simp only [step] at taken
    obtain ⟨phase,stepped,rfl⟩ := act_some taken
    rcases Phase.step_attempt stepped drained with ⟨impossible,_⟩ | ⟨_,_,impossible⟩
    · contradiction
    · exact absurd rfl (impossible r)
  | drain | receive =>
    simp only [step] at taken
    split at taken
    · contradiction
    · rename_i first rest queue
      obtain ⟨phase,stepped,rfl⟩ := act_some taken
      rcases Phase.step_attempt stepped drained with ⟨impossible,_⟩ | ⟨before,_⟩
      · contradiction
      · refine ⟨rfl,.inr ⟨before,?_⟩⟩
        intro tagged member
        rw [queue]
        exact .inl (List.mem_cons_of_mem _ member)
  | drained =>
    simp only [step] at taken
    split_ifs at taken with empty
    obtain ⟨phase,stepped,rfl⟩ := act_some taken
    rcases Phase.step_attempt stepped drained with ⟨_,before⟩ | ⟨_,impossible,_⟩
    · exact ⟨rfl,.inl ⟨rfl,before,empty⟩⟩
    · contradiction
  | sent | sendFailed | deadline | stopped | retry | retryFailed =>
    simp only [step] at taken
    obtain ⟨phase,stepped,rfl⟩ := act_some taken
    rcases Phase.step_attempt stepped drained with ⟨impossible,_⟩ | ⟨before,_⟩
    · contradiction
    · exact ⟨rfl,.inr ⟨before,fun _ => .inl⟩⟩
  | reply tagged =>
    simp only [step] at taken
    split_ifs at taken
    · obtain ⟨rfl,_⟩ := Prod.mk.inj (Option.some.inj taken)
      exact ⟨rfl,.inr ⟨drained,fun _ => .inl⟩⟩
    · obtain ⟨rfl,_⟩ := Prod.mk.inj (Option.some.inj taken)
      exact ⟨rfl,.inr ⟨drained,fun _ => .inl⟩⟩
  | arrive =>
    simp only [step] at taken
    split at taken
    · contradiction
    · rename_i first rest queue
      obtain ⟨rfl,_⟩ := Prod.mk.inj (Option.some.inj taken)
      refine ⟨rfl,.inr ⟨drained,?_⟩⟩
      intro tagged member
      rcases List.mem_append.mp member with old | new
      · exact .inl old
      · rw [queue,List.mem_singleton.mp new]
        exact .inr ⟨rfl,rfl⟩

end World

/-- After its drain an attempt sees only replies that arrived since. -/
theorem since_drain {w : World} {happenings : List Happening}
    (run : Run Happening.Step World.initial happenings w) {r : Request} {attempt : Int}
    (drained : w.phase.attempt = some (r,attempt)) :
    ∃ earlier drain between, happenings = earlier ++ drain :: between ∧
      drain.occurrence = .drained ∧ drain.before.phase = .draining r attempt ∧
      drain.before.current = w.current ∧
      ∀ tagged ∈ w.inbox, ∃ arrival ∈ between,
        arrival.occurrence = .arrive ∧ arrival.before.wire.head? = some tagged := by
  induction run with
  | nil => contradiction
  | @snoc happenings happening u v before last ih =>
    obtain ⟨rfl,rfl,taken⟩ := last
    obtain ⟨same,start | ⟨waited,arrived⟩⟩ := World.step_attempt taken drained
    · obtain ⟨occurrence,phase,empty⟩ := start
      exact ⟨happenings,happening,[],rfl,occurrence,phase,same.symm,by simp [empty]⟩
    · obtain ⟨earlier,drain,between,rfl,occurrence,phase,current,since⟩ := ih waited
      refine ⟨earlier,drain,between ++ [happening],by simp,occurrence,phase,current.trans same.symm,?_⟩
      intro tagged member
      rcases arrived tagged member with old | ⟨arrival,head⟩
      · obtain ⟨arrival,found,facts⟩ := since tagged old
        exact ⟨arrival,by simp [found],facts⟩
      · exact ⟨happening,by simp,arrival,head⟩

theorem replies_owned {w : World} {happenings : List Happening}
    (run : Run Happening.Step World.initial happenings w) :
    (∀ tagged ∈ w.inbox ++ w.wire, tagged.transmission < w.transmissions.length) ∧
      ∀ owner ∈ w.transmissions, owner ≤ w.current := by
  refine run.invariant (fun w => (∀ tagged ∈ w.inbox ++ w.wire,
    tagged.transmission < w.transmissions.length) ∧ ∀ owner ∈ w.transmissions, owner ≤ w.current)
    (by simp [World.initial]) ?_
  rintro w happening v ⟨sent,begun⟩ ⟨rfl,rfl,taken⟩
  have follows := World.step_follows taken
  have grows : happening.before.transmissions.length ≤ happening.after.transmissions.length := by
    rcases follows.transmissions with same | more
    · exact Nat.le_of_eq (by rw [same])
    · rw [more,List.length_append]
      omega
  constructor
  · intro tagged member
    rcases follows.replies tagged member with old | ⟨known,_⟩
    · exact Nat.lt_of_lt_of_le (sent tagged old) grows
    · exact Nat.lt_of_lt_of_le known grows
  · intro owner member
    rcases follows.transmissions with same | more
    · rw [same] at member
      exact Nat.le_trans (begun owner member) follows.current
    · rw [more,List.mem_append,List.mem_singleton] at member
      rcases member with old | rfl
      · exact Nat.le_trans (begun owner old) follows.current
      · exact follows.current

/-- Once its final reply has arrived and was drained, a transmission has none to come. -/
theorem settled_stays {d w : World} {happenings : List Happening} {transmission : Nat}
    (run : Run Happening.Step d happenings w) (empty : d.inbox = [])
    (settled : ¬ d.Outstanding transmission) :
    ∀ tagged ∈ w.inbox ++ w.wire, tagged.transmission = transmission →
      finalReply tagged.data = false := by
  have kept := run.invariant (fun w => transmission ∈ w.answered ∧ ∀ tagged ∈ w.inbox ++ w.wire,
    tagged.transmission = transmission → finalReply tagged.data = false) ?initially ?keeps
  case initially =>
    unfold World.Outstanding at settled
    push Not at settled
    refine ⟨settled.1,?_⟩
    rw [empty,List.nil_append]
    intro tagged member same
    simpa using settled.2 tagged member same
  case keeps =>
    rintro w happening v ⟨answered,none⟩ ⟨rfl,rfl,taken⟩
    have follows := World.step_follows taken
    refine ⟨follows.answered _ answered,?_⟩
    intro tagged member same
    rcases follows.replies tagged member with old | ⟨_,fresh⟩
    · exact none tagged old same
    · by_contra final
      exact fresh (by simpa using final) (same ▸ answered)
  exact kept.2

theorem Request.conclude_some {r : Request} {attempt : Int} {response concluded : Response}
    {data : Bytes} (ends : r.conclude attempt response = some concluded)
    (returned : concluded.1 = some data) : response = concluded := by
  unfold conclude at ends
  split at ends
  · cases ends
    contradiction
  · cases ends
    contradiction
  · split_ifs at ends
    exact Option.some.inj ends
  · exact Option.some.inj ends

theorem Request.next_returns {r : Request} {w : Waiting} {now : Int} {data payload : Bytes}
    {error : Option RequestError}
    (returned : r.next w (.received now data) = some (.inr (some payload,error))) :
    payload = data ∧ (error = none → replyTo r.requestSID data = .positive) ∧
      ∀ negative, error = some (.negative negative) → ∃ nrc, replyTo r.requestSID data = .negative nrc := by
  rw [next,receive_eq] at returned
  cases reply : replyTo r.requestSID data with
  | foreign => simp [reply] at returned
  | pending =>
    simp only [reply] at returned
    split_ifs at returned
    · cases returned
      exact ⟨rfl,by simp,by simp⟩
    · simp at returned
  | negative nrc =>
    rw [reply] at returned
    cases returned
    exact ⟨rfl,by simp,fun _ _ => ⟨nrc,rfl⟩⟩
  | positive =>
    rw [reply] at returned
    cases returned
    exact ⟨rfl,fun _ => rfl,by simp⟩

theorem Phase.step_signal {p q : Phase} {signal : Signal} {concluded : Response}
    (taken : p.step (.signal signal) = some (q,some concluded)) :
    ∃ r attempt w response, p = .waiting r attempt w ∧ r.next w signal = some (.inr response) ∧
      r.conclude attempt response = some concluded := by
  cases p with
  | waiting r attempt w =>
    simp only [step] at taken
    split at taken
    · contradiction
    · simp at taken
    · rename_i response decides
      refine ⟨r,attempt,w,response,rfl,decides,?_⟩
      unfold finish at taken
      split at taken
      · simp at taken
      · rename_i ends
        obtain ⟨_,same⟩ := Prod.mk.inj (Option.some.inj taken)
        rw [ends,same]
  | idle | draining | sending | retrying => contradiction

theorem returns_reply {w v : World} {happening : Happening} {reply : Tagged}
    (taken : Happening.Step w happening v) (returned : happening.returns = some reply) :
    (∃ r attempt waiting, w.phase = .waiting r attempt waiting ∧
      (replyTo r.requestSID reply.data = .positive ∨
        ∃ nrc, replyTo r.requestSID reply.data = .negative nrc)) ∧
    (∃ error, happening.response = some (some reply.data,error)) ∧ reply ∈ w.inbox := by
  obtain ⟨rfl,rfl,taken⟩ := taken
  obtain ⟨now,data,error,occurrence,response,head,kind⟩ : ∃ now data error,
      happening.occurrence = .receive now ∧ happening.response = some (some data,error) ∧
      happening.before.inbox.head? = some reply ∧
      (error = none ∨ ∃ negative, error = some (.negative negative)) := by
    unfold Happening.returns at returned
    split at returned
    · rename_i now data occurrence response
      exact ⟨now,data,none,occurrence,response,returned,.inl rfl⟩
    · rename_i now data negative occurrence response
      exact ⟨now,data,_,occurrence,response,returned,.inr ⟨negative,rfl⟩⟩
    · contradiction
  rw [occurrence,response] at taken
  simp only [World.step] at taken
  split at taken
  · contradiction
  · rename_i first rest queue
    rw [queue] at head
    cases Option.some.inj head
    obtain ⟨phase,stepped,_⟩ := World.act_some taken
    obtain ⟨r,attempt,waiting,outcome,before,decides,ends⟩ := Phase.step_signal stepped
    cases Request.conclude_some ends rfl
    obtain ⟨rfl,positive,negative⟩ := Request.next_returns decides
    refine ⟨⟨r,attempt,waiting,before,?_⟩,⟨error,response⟩,by simp [queue]⟩
    rcases kind with accepted | ⟨refusal,refused⟩
    · exact .inl (positive accepted)
    · exact .inr (negative refusal refused)

/-- A payload that a request returns is a reply to its service that arrived after the attempt's
drain. It was produced for the request, or for an earlier one whose final reply had not arrived
when the drain ended. -/
theorem returned_reply_attributed {w : World} {happenings : List Happening}
    (run : Run Happening.Step World.initial happenings w) :
    ∀ past happening later reply, happenings = past ++ happening :: later →
      happening.returns = some reply →
      ∃ r attempt waiting, happening.before.phase = .waiting r attempt waiting ∧
        (∃ error, happening.response = some (some reply.data,error)) ∧
        (replyTo r.requestSID reply.data = .positive ∨
          ∃ nrc, replyTo r.requestSID reply.data = .negative nrc) ∧
        ∃ earlier drain between, past = earlier ++ drain :: between ∧
          drain.occurrence = .drained ∧ drain.before.phase = .draining r attempt ∧
          drain.before.current = happening.before.current ∧
          (∃ arrival ∈ between, arrival.occurrence = .arrive ∧ arrival.before.wire.head? = some reply) ∧
          ∃ owner, happening.before.owner reply = some owner ∧
            (owner = happening.before.current ∨
              owner < happening.before.current ∧ drain.before.Outstanding reply.transmission) := by
  rintro past happening later reply rfl returned
  obtain ⟨before,after,first,taken,_⟩ := run.cut
  obtain ⟨⟨r,attempt,waiting,phase,answers⟩,response,member⟩ := returns_reply taken returned
  obtain ⟨rfl,rfl,_⟩ := taken
  obtain ⟨earlier,drain,between,rfl,occurrence,draining,current,since⟩ :=
    since_drain first (by rw [phase]; rfl)
  refine ⟨r,attempt,waiting,phase,response,answers,earlier,drain,between,rfl,occurrence,draining,
    current,since reply member,?_⟩
  obtain ⟨sent,begun⟩ := replies_owned first
  have known := sent reply (List.mem_append_left _ member)
  have owned : happening.before.owner reply = some happening.before.transmissions[reply.transmission] :=
    List.getElem?_eq_getElem known
  refine ⟨_,owned,?_⟩
  rcases Nat.lt_or_eq_of_le (begun _ (List.getElem_mem known)) with less | same
  · refine .inr ⟨less,?_⟩
    by_contra settled
    obtain ⟨middle,_,head,⟨rfl,rfl,emptied⟩,rest⟩ := first.cut
    have empty : drain.before.inbox = [] := by
      rw [occurrence] at emptied
      simp only [World.step] at emptied
      split_ifs at emptied with empty
      exact empty
    have tail : Run Happening.Step drain.before (drain :: between) happening.before :=
      (Run.single ⟨rfl,rfl,emptied⟩).append rest
    have pending := settled_stays tail empty settled reply (List.mem_append_left _ member) rfl
    rw [finalReply_replyTo answers] at pending
    contradiction
  · exact .inl same

def readDataByIdentifier (low : UInt8) : Request where
  payload := [0x22,0xF1,low]
  opts := defaultRequestOptions
  mode := addressPhysical
  nonempty := List.cons_ne_nil _ _
  valid := normalizeRequestOptions_valid defaultRequestOptions_valid

theorem returned_reply_attributed_own :
    ∃ happenings w happening reply owner, Run Happening.Step World.initial happenings w ∧
      happening ∈ happenings ∧ happening.returns = some reply ∧
      happening.before.owner reply = some owner ∧
      ∃ drain ∈ happenings, drain.occurrence = .drained ∧ (owner = happening.before.current ∨
        owner < happening.before.current ∧ drain.before.Outstanding reply.transmission) := by
  have executed : (World.initial.execute [.start (readDataByIdentifier 0x90),.drained,.sent 0,
      .reply ⟨0,[0x62,0xF1,0x90,7]⟩,.arrive,.receive 1]).map
      (fun result => result.1.any fun happening => happening.returns.isSome) = some true := by
    decide +kernel
  obtain ⟨⟨happenings,w⟩,executed,answered⟩ := Option.map_eq_some_iff.mp executed
  have run := World.execute_run executed
  obtain ⟨happening,member,returned⟩ := List.any_eq_true.mp answered
  obtain ⟨reply,returned⟩ := Option.isSome_iff_exists.mp returned
  obtain ⟨past,later,rfl⟩ := List.append_of_mem member
  obtain ⟨_,_,_,_,_,_,_,drain,_,rfl,drained,_,_,_,owner,owned,attributed⟩ :=
    returned_reply_attributed run past happening later reply rfl returned
  exact ⟨_,w,happening,reply,owner,run,member,returned,owned,drain,by simp,drained,attributed⟩

/-- The late reply to a first request is returned to a second one of the same service. -/
theorem returned_reply_of_earlier :
    ¬ ∀ happenings w, Run Happening.Step World.initial happenings w → ∀ happening ∈ happenings,
      ∀ reply, happening.returns = some reply →
        happening.before.owner reply = some happening.before.current := by
  intro attributed
  have executed : (World.initial.execute [.start (readDataByIdentifier 0x90),.drained,.sent 0,
      .deadline 500000000,.start (readDataByIdentifier 0x91),.drained,.sent 600000000,
      .reply ⟨0,[0x62,0xF1,0x90,7]⟩,.arrive,.receive 600000001]).map
      (fun result => result.1.any fun happening => happening.returns.any fun reply =>
        !decide (happening.before.owner reply = some happening.before.current)) = some true := by
    decide +kernel
  obtain ⟨⟨happenings,w⟩,executed,wrong⟩ := Option.map_eq_some_iff.mp executed
  have run := World.execute_run executed
  obtain ⟨happening,member,wrong⟩ := List.any_eq_true.mp wrong
  obtain ⟨reply,returned,differs⟩ := (Option.any_eq_true _ _).mp wrong
  have own := attributed happenings w run happening member reply returned
  simp [own] at differs

end Canbuskit.Uds
