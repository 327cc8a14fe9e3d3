import Canbuskit.Lib.Segmentation

/-! The receiver of a segmented stream. It collects a `first` segment and the continuations
that follow it in number, and may give up at any segment. What it delivers is read off the
history of its inputs, and over a stream of begun messages it delivers only whole ones, in
order. -/
namespace Canbuskit.Segmentation
open Runs

variable {α : Type} {modulus : Nat}

inductive Reception (α : Type) where
  | idle
  | waiting (total : Nat) (buffer : List α) (number : Nat)

def receive (modulus : Nat) (state : Reception α) : Segment α → Reception α × Option (List α)
  | .single data => (.idle,some data)
  | .first total data =>
    if total ≤ data.length then (.idle,none) else (.waiting total data (1 % modulus),none)
  | .next actual data => match state with
    | .idle => (.idle,none)
    | .waiting total buffer number =>
      if actual ≠ number then (.idle,none)
      else
        let joined := buffer ++ data.take (total - buffer.length)
        if total ≤ joined.length then (.idle,some joined)
        else (.waiting total joined ((number + 1) % modulus),none)

/-- One input of the receiver, `none` being a reset from outside, with what it delivers.
A delivery can be lost and a reception given up at any segment. -/
inductive Receive (modulus : Nat) :
    Reception α → Option (Segment α) × Option (List α) → Reception α → Prop
  | accept (state segment) : Receive modulus state
      (some segment,(receive modulus state segment).2) (receive modulus state segment).1
  | lost (state segment) : Receive modulus state
      (some segment,none) (receive modulus state segment).1
  | abandon (state segment) : Receive modulus state (some segment,none) .idle
  | reset (state) : Receive modulus state (none,none) .idle

theorem Receive.waiting_inv {state : Reception α} {label} {total number : Nat} {buffer : List α}
    (step : Receive modulus state label (.waiting total buffer number)) :
    buffer.length < total ∧
      ((label = (some (.first total buffer),none) ∧ number = 1 % modulus) ∨
        ∃ old expected data, state = .waiting total old expected ∧
          label = (some (.next expected data),none) ∧ buffer = old ++ data ∧
          number = (expected + 1) % modulus) := by
  have taken : ∀ segment, (receive modulus state segment).1 = .waiting total buffer number →
      (receive modulus state segment).2 = none ∧ buffer.length < total ∧
        ((segment = .first total buffer ∧ number = 1 % modulus) ∨
          ∃ old expected data, state = .waiting total old expected ∧
            segment = .next expected data ∧ buffer = old ++ data ∧
            number = (expected + 1) % modulus) := by
    intro segment result
    cases segment with
    | single data => simp [receive] at result
    | first declared data =>
      simp only [receive] at result ⊢
      split_ifs at result ⊢ with whole
      cases result
      exact ⟨rfl,by omega,.inl ⟨rfl,rfl⟩⟩
    | next actual data =>
      cases state with
      | idle => simp [receive] at result
      | waiting declared old expected =>
        simp only [receive] at result ⊢
        split_ifs at result ⊢ with wrong complete
        cases result
        have all : data.take (total - old.length) = data := by
          apply List.take_of_length_le
          simp only [List.length_append,List.length_take] at complete
          omega
        rw [all] at complete ⊢
        obtain rfl : actual = expected := Decidable.not_not.mp wrong
        exact ⟨rfl,by omega,.inr ⟨old,actual,data,rfl,rfl,rfl,rfl⟩⟩
  generalize final : Reception.waiting total buffer number = next at step
  cases step with
  | accept segment =>
    obtain ⟨silent,short,shape⟩ := taken segment final.symm
    rw [silent]
    refine ⟨short,?_⟩
    rcases shape with ⟨rfl,first⟩ | ⟨old,expected,data,waits,rfl,rest⟩
    · exact .inl ⟨rfl,first⟩
    · exact .inr ⟨old,expected,data,waits,rfl,rest⟩
  | lost segment =>
    obtain ⟨_,short,shape⟩ := taken segment final.symm
    refine ⟨short,?_⟩
    rcases shape with ⟨rfl,first⟩ | ⟨old,expected,data,waits,rfl,rest⟩
    · exact .inl ⟨rfl,first⟩
    · exact .inr ⟨old,expected,data,waits,rfl,rest⟩
  | abandon => contradiction
  | reset => contradiction

theorem take_joined {buffer data : List α} {total : Nat} (short : buffer.length ≤ total) :
    buffer ++ data.take (total - buffer.length) = (buffer ++ data).take total := by
  rw [List.take_append,List.take_of_length_le short]

theorem Receive.delivered_inv {state next : Reception α} {input} {data : List α}
    (step : Receive modulus state (input,some data) next) :
    next = .idle ∧ (input = some (.single data) ∨
      ∃ total buffer number chunk, state = .waiting total buffer number ∧
        input = some (.next number chunk) ∧
        data = buffer ++ chunk.take (total - buffer.length) ∧ total ≤ data.length) := by
  generalize shape : (input,some data) = label at step
  cases step with
  | accept segment =>
    obtain ⟨rfl,delivered⟩ := Prod.mk.inj shape
    cases segment with
    | single whole =>
      cases Option.some.inj delivered
      exact ⟨rfl,.inl rfl⟩
    | first declared head =>
      simp only [receive] at delivered
      split_ifs at delivered
    | next actual chunk =>
      cases state with
      | idle => simp [receive] at delivered
      | waiting total buffer number =>
        simp only [receive] at delivered ⊢
        split_ifs at delivered ⊢ with wrong complete
        cases Option.some.inj delivered
        obtain rfl : actual = number := Decidable.not_not.mp wrong
        exact ⟨rfl,.inr ⟨total,buffer,actual,chunk,rfl,rfl,rfl,complete⟩⟩
  | lost => simp at shape
  | abandon => simp at shape
  | reset => simp at shape

/-- The labels of a reception in progress: its first segment, then the continuations it
took, none of which delivered anything. -/
def collecting (modulus total : Nat) (head : List α) (chunks : List (List α)) :
    List (Option (Segment α) × Option (List α)) :=
  (some (.first total head),none) ::
    (continuations modulus chunks).map fun segment => (some segment,none)

theorem collecting_snoc (total : Nat) (head : List α) (chunks : List (List α)) (chunk : List α) :
    collecting modulus total head (chunks ++ [chunk]) = collecting modulus total head chunks ++
      [(some (.next ((chunks.length + 1) % modulus) chunk),none)] := by
  simp [collecting,continuations_snoc]

theorem waiting_history {labels} {state : Reception α}
    (run : Run (Receive modulus) .idle labels state) :
    ∀ total buffer number, state = .waiting total buffer number →
      ∃ past head chunks, labels = past ++ collecting modulus total head chunks ∧
        buffer = head ++ chunks.flatten ∧ head.length < total ∧ buffer.length < total ∧
        number = (chunks.length + 1) % modulus := by
  induction run with
  | nil => intro _ _ _ impossible; contradiction
  | @snoc labels label _ _ _ last ih =>
    intro total buffer number waits
    subst waits
    obtain ⟨short,⟨rfl,rfl⟩ | ⟨old,expected,data,waits,rfl,rfl,rfl⟩⟩ := last.waiting_inv
    · exact ⟨labels,buffer,[],by simp [collecting],by simp,short,short,by simp⟩
    · obtain ⟨past,head,chunks,rfl,rfl,headShort,_,rfl⟩ := ih _ _ _ waits
      refine ⟨past,head,chunks ++ [data],?_,by simp,headShort,short,?_⟩
      · rw [collecting_snoc,List.append_assoc]
      · simp

/-- What a delivery consists of: the data of one single segment, or exactly the declared
total of a first segment taken from that segment and all the inputs since, which are the
continuations in number. -/
theorem delivery_history {labels} {input} {data : List α} {state : Reception α}
    (run : Run (Receive modulus) .idle (labels ++ [(input,some data)]) state) :
    input = some (.single data) ∨
      ∃ past total head chunks chunk, labels = past ++ collecting modulus total head chunks ∧
        input = some (.next ((chunks.length + 1) % modulus) chunk) ∧ head.length < total ∧
        data.length = total ∧ data = (head ++ (chunks ++ [chunk]).flatten).take total := by
  obtain ⟨middle,before,last⟩ := run.snoc_inv
  obtain ⟨_,single | ⟨total,buffer,number,chunk,waits,rfl,joined,complete⟩⟩ := last.delivered_inv
  · exact .inl single
  · right
    obtain ⟨past,head,chunks,rfl,rfl,headShort,short,rfl⟩ := waiting_history before _ _ _ waits
    rw [take_joined short.le] at joined
    refine ⟨past,total,head,chunks,chunk,rfl,rfl,headShort,?_,?_⟩
    · have bound : data.length ≤ total := by
        rw [joined]
        exact List.length_take_le _ _
      omega
    · simpa using joined

def opens : Option (Segment α) × Option (List α) → Prop
  | (some (.single _),_) => True
  | (some (.first _ _),_) => True
  | _ => False

theorem Receive.idle_closed {label} {next : Reception α}
    (step : Receive modulus .idle label next) (closed : ¬ opens label) :
    next = .idle ∧ label.2 = none := by
  cases step with
  | accept segment | lost segment =>
    cases segment with
    | next => exact ⟨rfl,rfl⟩
    | single | first => exact absurd trivial closed
  | abandon => exact ⟨rfl,rfl⟩
  | reset => exact ⟨rfl,rfl⟩

theorem idle_silent {labels} {state : Reception α} (run : Run (Receive modulus) .idle labels state)
    (closed : ∀ label ∈ labels, ¬ opens label) :
    state = .idle ∧ labels.filterMap Prod.snd = [] := by
  induction run with
  | nil => exact ⟨rfl,rfl⟩
  | @snoc labels label middle final before last ih =>
    obtain ⟨rfl,silent⟩ := ih fun other member => closed other (by simp [member])
    obtain ⟨idle,nothing⟩ := last.idle_closed (closed label (by simp))
    refine ⟨idle,?_⟩
    rw [List.filterMap_append,silent,List.filterMap_cons_none nothing]
    rfl

/-- While no reception is opened, at most one payload goes out. -/
theorem one_delivery {labels} {start state : Reception α}
    (run : Run (Receive modulus) start labels state) (closed : ∀ label ∈ labels, ¬ opens label) :
    (labels.filterMap Prod.snd).length ≤ 1 ∧
      ((labels.filterMap Prod.snd).length = 1 → state = .idle) := by
  induction run with
  | nil => simp
  | @snoc labels label middle final before last ih =>
    obtain ⟨few,done⟩ := ih fun other member => closed other (by simp [member])
    have shut := closed label (by simp)
    obtain ⟨input,delivered⟩ := label
    rw [List.filterMap_append,List.length_append]
    cases delivered with
    | none =>
      rw [List.filterMap_cons_none rfl,List.filterMap_nil,List.length_nil,Nat.add_zero]
      refine ⟨few,fun one => ?_⟩
      obtain rfl := done one
      exact (last.idle_closed shut).1
    | some data =>
      have none : (labels.filterMap Prod.snd).length ≠ 1 := by
        intro one
        obtain rfl := done one
        simpa using (last.idle_closed shut).2
      have one : List.filterMap Prod.snd [(input,some data)] = [data] := rfl
      rw [one,List.length_singleton]
      exact ⟨by omega,fun _ => last.delivered_inv.1⟩

/-- Where a receiver stands in a stream of messages: what it delivered are some of their
payloads in order, and what it is waiting for is the last of them, not delivered yet. -/
structure Follows (modulus : Nat) (messages : List (List α × List (Segment α)))
    (delivered : List (List α)) (state : Reception α) : Prop where
  ordered : delivered.Sublist (messages.map Prod.fst)
  current : ∀ total buffer number, state = .waiting total buffer number →
    ∃ before payload head chunks,
      messages = before ++ [(payload,.first payload.length head :: continuations modulus chunks)] ∧
      delivered.Sublist (before.map Prod.fst) ∧ total = payload.length ∧
      buffer = head ++ chunks.flatten ∧ number = (chunks.length + 1) % modulus

theorem Follows.idle {messages : List (List α × List (Segment α))} {delivered : List (List α)}
    (ordered : delivered.Sublist (messages.map Prod.fst)) :
    Follows modulus messages delivered .idle :=
  ⟨ordered,fun _ _ _ impossible => by contradiction⟩

theorem Follows.opens {before : List (List α × List (Segment α))} {delivered : List (List α)}
    {payload : List α} {segment : Segment α} {label} {state next : Reception α}
    (follows : Follows modulus before delivered state)
    (opening : segment = .single payload ∨
      ∃ head, head.length < payload.length ∧ segment = .first payload.length head)
    (step : Receive modulus state (some segment,label) next) :
    Follows modulus (before ++ [(payload,[segment])]) (delivered ++ label.toList) next := by
  have kept : delivered.Sublist ((before ++ [(payload,[segment])]).map Prod.fst) := by
    rw [List.map_append]
    exact follows.ordered.trans (List.sublist_append_left _ _)
  cases step with
  | abandon => simpa using Follows.idle kept
  | accept =>
    rcases opening with rfl | ⟨head,proper,rfl⟩
    · refine .idle ?_
      rw [List.map_append]
      exact follows.ordered.append (List.Sublist.refl _)
    · simp only [receive,if_neg (Nat.not_le.mpr proper)]
      refine ⟨by simpa using kept,?_⟩
      rintro total buffer number ⟨⟩
      exact ⟨before,payload,head,[],rfl,by simpa using follows.ordered,rfl,by simp,by simp⟩
  | lost =>
    rcases opening with rfl | ⟨head,proper,rfl⟩
    · simpa [receive] using Follows.idle kept
    · simp only [receive,if_neg (Nat.not_le.mpr proper)]
      refine ⟨by simpa using kept,?_⟩
      rintro total buffer number ⟨⟩
      exact ⟨before,payload,head,[],rfl,by simpa using follows.ordered,rfl,by simp,by simp⟩

theorem Follows.continues {before : List (List α × List (Segment α))} {delivered : List (List α)}
    {payload head chunk : List α} {chunks : List (List α)} {label} {state next : Reception α}
    (follows : Follows modulus
      (before ++ [(payload,.first payload.length head :: continuations modulus chunks)]) delivered state)
    (agrees : payload <+: head ++ (chunks ++ [chunk]).flatten ∨
      head ++ (chunks ++ [chunk]).flatten <+: payload)
    (reached : (head ++ chunks.flatten).length < payload.length)
    (step : Receive modulus state (some (.next ((chunks.length + 1) % modulus) chunk),label) next) :
    Follows modulus (before ++
      [(payload,.first payload.length head :: continuations modulus (chunks ++ [chunk]))])
      (delivered ++ label.toList) next := by
  have kept : delivered.Sublist ((before ++
      [(payload,.first payload.length head :: continuations modulus (chunks ++ [chunk]))]).map
        Prod.fst) := by
    simpa using follows.ordered
  have whole : payload.length ≤ (head ++ (chunks ++ [chunk]).flatten).length →
      (head ++ (chunks ++ [chunk]).flatten).take payload.length = payload := by
    intro long
    rcases agrees with past | within
    · exact List.prefix_iff_eq_take.mp past |>.symm
    · rw [List.IsPrefix.eq_of_length_le within long]
      exact List.take_length
  -- a waiting receiver waits for this very continuation, so it takes it
  have taken : state ≠ .idle → delivered.Sublist (before.map Prod.fst) ∧
      receive modulus state (.next ((chunks.length + 1) % modulus) chunk) =
        if payload.length ≤ (head ++ (chunks ++ [chunk]).flatten).length then (.idle,some payload)
        else (.waiting payload.length (head ++ (chunks ++ [chunk]).flatten)
          (((chunks ++ [chunk]).length + 1) % modulus),none) := by
    intro waiting
    cases state with
    | idle => contradiction
    | waiting total buffer number =>
      obtain ⟨earlier,payload',head',chunks',same,ordered,rfl,rfl,rfl⟩ := follows.current _ _ _ rfl
      obtain ⟨rfl,last⟩ := List.append_inj' same rfl
      simp only [List.cons.injEq,Prod.mk.injEq,Segment.first.injEq,and_true] at last
      obtain ⟨rfl,⟨_,rfl⟩,chunksEq⟩ := last
      obtain rfl := continuations_injective chunksEq
      refine ⟨ordered,?_⟩
      have joined : head ++ chunks.flatten ++ chunk = head ++ (chunks ++ [chunk]).flatten := by simp
      simp only [receive,ne_eq,not_true_eq_false,if_false,take_joined reached.le,joined]
      split_ifs with long full full
      · rw [whole full]
      · simp only [List.length_take] at long
        omega
      · simp only [List.length_take] at long
        omega
      · rw [List.take_of_length_le (by omega)]
        simp
  by_cases idle : state = .idle
  · subst idle
    obtain ⟨rfl,rfl⟩ : next = .idle ∧ label = none := step.idle_closed id
    simpa using Follows.idle kept
  · obtain ⟨ordered,result⟩ := taken idle
    have delivers : (delivered ++ [payload]).Sublist ((before ++
        [(payload,.first payload.length head :: continuations modulus (chunks ++ [chunk]))]).map
          Prod.fst) := by
      rw [List.map_append]
      exact ordered.append (List.Sublist.refl _)
    have waits : ¬ payload.length ≤ (head ++ (chunks ++ [chunk]).flatten).length →
        Follows modulus (before ++
          [(payload,.first payload.length head :: continuations modulus (chunks ++ [chunk]))])
          delivered (.waiting payload.length (head ++ (chunks ++ [chunk]).flatten)
            (((chunks ++ [chunk]).length + 1) % modulus)) := by
      intro _
      refine ⟨kept,?_⟩
      rintro total buffer number ⟨⟩
      exact ⟨before,payload,head,chunks ++ [chunk],rfl,ordered,rfl,rfl,rfl⟩
    cases step with
    | abandon => simpa using Follows.idle kept
    | accept =>
      rw [result]
      split_ifs with full
      · exact .idle delivers
      · simpa using waits full
    | lost =>
      rw [result]
      split_ifs with full
      · simpa using Follows.idle kept
      · simpa using waits full

/-- Over a stream of begun messages a receiver delivers some of the payloads, whole, each
at most once and in the order of the messages, whatever it loses or gives up. -/
theorem delivered_follows {labels} {state : Reception α}
    (run : Run (Receive modulus) .idle labels state) :
    ∀ messages : List (List α × List (Segment α)),
      (∀ message ∈ messages, Begun modulus message.1 message.2) →
      labels.filterMap Prod.fst = messages.flatMap Prod.snd →
      Follows modulus messages (labels.filterMap Prod.snd) state := by
  induction run with
  | nil => intro messages _ _; exact .idle (by simp)
  | @snoc labels label middle final before last ih =>
    intro messages begun stream
    obtain ⟨input,delivered⟩ := label
    have output : (labels ++ [(input,delivered)]).filterMap Prod.snd =
        labels.filterMap Prod.snd ++ delivered.toList := by
      cases delivered <;> simp
    rw [output]
    cases input with
    | none =>
      cases last
      simpa using Follows.idle (ih messages begun (by simpa using stream)).ordered
    | some segment =>
      have inputs : labels.filterMap Prod.fst ++ [segment] = messages.flatMap Prod.snd := by
        simpa using stream
      rcases List.eq_nil_or_concat' messages with rfl | ⟨earlier,⟨payload,sent⟩,rfl⟩
      · simp at inputs
      have current : Begun modulus payload sent := begun (payload,sent) (by simp)
      have others : ∀ message ∈ earlier, Begun modulus message.1 message.2 :=
        fun message member => begun message (by simp [member])
      rcases List.eq_nil_or_concat' sent with rfl | ⟨sent,end_,rfl⟩
      · exact absurd rfl current.ne_nil
      have split : labels.filterMap Prod.fst = earlier.flatMap Prod.snd ++ sent ∧
          segment = end_ := by
        simp only [List.flatMap_append,List.flatMap_cons,List.flatMap_nil,List.append_nil,
          ← List.append_assoc] at inputs
        obtain ⟨same,last⟩ := List.append_inj' inputs rfl
        exact ⟨same,List.singleton_inj.mp last⟩
      obtain ⟨past,rfl⟩ := split
      rcases current.snoc_inv with ⟨rfl,opening⟩ | ⟨head,chunks,chunk,rfl,rfl,begunBefore,reached,agrees⟩
      · exact (ih earlier others (by simpa using past)).opens opening last
      · have follows := ih
          (earlier ++ [(payload,.first payload.length head :: continuations modulus chunks)])
          (by
            intro message member
            rcases List.mem_append.mp member with old | new
            · exact others message old
            · obtain rfl := List.mem_singleton.mp new
              exact begunBefore)
          (by simpa using past)
        have := follows.continues agrees reached last
        rwa [continuations_snoc] at this

/-- A sender and a receiver with a FIFO between them: whatever either gives up, and whatever
is still in flight, the receiver delivers payloads the sender took, whole and in order. -/
theorem exchange_safe {put got} {sender : Sending α} {receiver : Reception α}
    (sends : Run (Send modulus) .idle put sender) (receives : Run (Receive modulus) .idle got receiver)
    {flying : List (Segment α)}
    (fifo : got.filterMap Prod.fst ++ flying = put.filterMap Prod.snd) :
    (got.filterMap Prod.snd).Sublist (put.filterMap Prod.fst) := by
  obtain ⟨messages,streams⟩ := send_history sends
  obtain ⟨kept,begun,arrived,sub⟩ := begun_prefix streams.begun (fifo.trans streams.stream)
  exact ((delivered_follows receives kept begun arrived).ordered.trans sub).trans streams.ordered

end Canbuskit.Segmentation
