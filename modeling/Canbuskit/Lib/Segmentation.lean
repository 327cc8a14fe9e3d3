import Canbuskit.Lib.Runs
import Mathlib.Algebra.Order.Ring.Int
import Mathlib.Data.List.Infix

/-! Segmentation of payloads with numbered continuations, over any alphabet and any
numbering modulus. A sender turns each payload it takes into one `single` segment or into a
`first` segment and continuations; it may give up at any point, and the last continuation
may carry fill. -/
namespace Canbuskit.Segmentation
open Runs

variable {α : Type} {modulus : Nat}

inductive Segment (α : Type) where
  | single (data : List α)
  | first (total : Nat) (data : List α)
  | next (number : Nat) (data : List α)

def Segment.data : Segment α → List α
  | .single data => data
  | .first _ data => data
  | .next _ data => data

def continuations (modulus : Nat) (chunks : List (List α)) : List (Segment α) :=
  chunks.mapIdx fun index chunk => .next ((index + 1) % modulus) chunk

@[simp] theorem continuations_nil : continuations modulus ([] : List (List α)) = [] := rfl

theorem continuations_snoc (chunks : List (List α)) (chunk : List α) :
    continuations modulus (chunks ++ [chunk]) =
      continuations modulus chunks ++ [.next ((chunks.length + 1) % modulus) chunk] := by
  simp [continuations,List.mapIdx_append]

theorem continuations_data (modulus : Nat) (chunks : List (List α)) :
    (continuations modulus chunks).map Segment.data = chunks := by
  apply List.ext_getElem
  · simp [continuations]
  · intro index _ _
    simp [continuations,Segment.data]

theorem mem_continuations {chunks : List (List α)} {segment : Segment α}
    (member : segment ∈ continuations modulus chunks) :
    ∃ number data, segment = .next number data := by
  obtain ⟨index,_,rfl⟩ := List.mem_mapIdx.mp member
  exact ⟨_,_,rfl⟩

theorem continuations_injective {first second : List (List α)}
    (same : continuations modulus first = continuations modulus second) : first = second := by
  rw [← continuations_data modulus first,same,continuations_data]

/-- A non-empty beginning of a segmentation of the payload. The last chunk may carry fill
beyond the payload; no chunk before it reaches the end. -/
inductive Begun (modulus : Nat) : List α → List (Segment α) → Prop
  | single (data) : Begun modulus data [.single data]
  | several {payload head : List α} {chunks : List (List α)}
      (proper : head.length < payload.length)
      (agrees : payload <+: head ++ chunks.flatten ∨ head ++ chunks.flatten <+: payload)
      (short : ∀ n < chunks.length, (head ++ (chunks.take n).flatten).length < payload.length) :
      Begun modulus payload (.first payload.length head :: continuations modulus chunks)

theorem Begun.ne_nil {payload : List α} {sent : List (Segment α)} (begun : Begun modulus payload sent) :
    sent ≠ [] := by
  cases begun <;> simp

theorem Begun.first {payload head : List α} (proper : head.length < payload.length)
    (agrees : head <+: payload) : Begun modulus payload [.first payload.length head] := by
  have begun : Begun modulus payload (.first payload.length head :: continuations modulus []) :=
    .several proper (.inr (by simpa using agrees)) (by simp)
  simpa using begun

theorem prefix_of_append {payload front back : List α} (short : front.length < payload.length)
    (agrees : payload <+: front ++ back ∨ front ++ back <+: payload) : front <+: payload := by
  rcases agrees with past | within
  · exact List.prefix_of_prefix_length_le (List.prefix_append front back) past short.le
  · exact (List.prefix_append front back).trans within

/-- The last segment of a begun message either opens it or continues the rest of it. -/
theorem Begun.snoc_inv {payload : List α} {sent : List (Segment α)} {segment : Segment α}
    (begun : Begun modulus payload (sent ++ [segment])) :
    (sent = [] ∧ (segment = .single payload ∨
      ∃ head, head.length < payload.length ∧ segment = .first payload.length head)) ∨
    ∃ head chunks chunk, sent = .first payload.length head :: continuations modulus chunks ∧
      segment = .next ((chunks.length + 1) % modulus) chunk ∧ Begun modulus payload sent ∧
      (head ++ chunks.flatten).length < payload.length ∧
      (payload <+: head ++ (chunks ++ [chunk]).flatten ∨
        head ++ (chunks ++ [chunk]).flatten <+: payload) := by
  generalize shape : sent ++ [segment] = all at begun
  cases begun with
  | single =>
    have only : sent ++ [segment] = [] ++ [.single payload] := shape
    obtain ⟨rfl,last⟩ := List.append_inj' only rfl
    exact .inl ⟨rfl,.inl (List.singleton_inj.mp last)⟩
  | @several head chunks proper agrees short =>
    rcases List.eq_nil_or_concat' chunks with rfl | ⟨before,chunk,rfl⟩
    · have only : sent ++ [segment] = [] ++ [.first payload.length head] := shape
      obtain ⟨rfl,last⟩ := List.append_inj' only rfl
      exact .inl ⟨rfl,.inr ⟨head,proper,List.singleton_inj.mp last⟩⟩
    · rw [continuations_snoc,← List.cons_append] at shape
      obtain ⟨rfl,last⟩ := List.append_inj' shape rfl
      have reached : (head ++ before.flatten).length < payload.length := by
        simpa using short before.length (by simp)
      have joined : payload <+: (head ++ before.flatten) ++ chunk ∨
          (head ++ before.flatten) ++ chunk <+: payload := by simpa using agrees
      refine .inr ⟨head,before,chunk,rfl,List.singleton_inj.mp last,?_,reached,agrees⟩
      refine .several proper (.inr (prefix_of_append reached joined)) ?_
      intro n small
      have := short n (by simp; omega)
      rwa [List.take_append_of_le_length small.le] at this

theorem Begun.proper {payload head : List α} {chunks : List (List α)}
    (begun : Begun modulus payload (.first payload.length head :: continuations modulus chunks)) :
    head.length < payload.length ∧
      ∀ n < chunks.length, (head ++ (chunks.take n).flatten).length < payload.length := by
  generalize shape : Segment.first payload.length head :: continuations modulus chunks = sent at begun
  cases begun with
  | single => simp at shape
  | several proper agrees short =>
    simp only [List.cons.injEq,Segment.first.injEq,true_and] at shape
    obtain ⟨rfl,same⟩ := shape
    rw [continuations_injective same]
    exact ⟨proper,short⟩

/-- A begun message that has not reached the end of its payload can be continued. -/
theorem Begun.extend {payload head chunk : List α} {chunks : List (List α)}
    (begun : Begun modulus payload (.first payload.length head :: continuations modulus chunks))
    (reached : (head ++ chunks.flatten).length < payload.length)
    (agrees : payload <+: head ++ (chunks ++ [chunk]).flatten ∨
      head ++ (chunks ++ [chunk]).flatten <+: payload) :
    Begun modulus payload
      (.first payload.length head :: continuations modulus (chunks ++ [chunk])) := by
  obtain ⟨proper,short⟩ := begun.proper
  refine .several proper agrees ?_
  intro n small
  rw [List.length_append,List.length_singleton] at small
  rcases Nat.lt_or_eq_of_le (Nat.le_of_lt_succ small) with inside | rfl
  · rw [List.take_append_of_le_length inside.le]
    exact short n inside
  · simpa using reached

/-- A stream of begun messages cut anywhere is again one, of the messages up to the cut. -/
theorem begun_prefix {front back : List (Segment α)} :
    ∀ {messages : List (List α × List (Segment α))},
      (∀ message ∈ messages, Begun modulus message.1 message.2) →
      front ++ back = messages.flatMap Prod.snd →
      ∃ kept : List (List α × List (Segment α)), (∀ message ∈ kept, Begun modulus message.1 message.2) ∧
        front = kept.flatMap Prod.snd ∧ (kept.map Prod.fst).Sublist (messages.map Prod.fst) := by
  induction back using List.reverseRecOn with
  | nil =>
    intro messages begun stream
    exact ⟨messages,begun,by simpa using stream,List.Sublist.refl _⟩
  | append_singleton back segment ih =>
    intro messages begun stream
    rcases List.eq_nil_or_concat' messages with rfl | ⟨earlier,⟨payload,sent⟩,rfl⟩
    · simp at stream
    have current : Begun modulus payload sent := begun (payload,sent) (by simp)
    have others : ∀ message ∈ earlier, Begun modulus message.1 message.2 :=
      fun message member => begun message (by simp [member])
    rcases List.eq_nil_or_concat' sent with rfl | ⟨sent,last,rfl⟩
    · exact absurd rfl current.ne_nil
    simp only [List.flatMap_append,List.flatMap_cons,List.flatMap_nil,List.append_nil,
      ← List.append_assoc] at stream
    obtain ⟨shorter,_⟩ := List.append_inj' stream rfl
    rcases current.snoc_inv with ⟨rfl,_⟩ | ⟨head,chunks,chunk,rfl,_,begunBefore,_⟩
    · obtain ⟨kept,keptBegun,front,sub⟩ := ih others (by simpa using shorter)
      refine ⟨kept,keptBegun,front,?_⟩
      rw [List.map_append]
      exact sub.trans (List.sublist_append_left _ _)
    · have all : ∀ message ∈ earlier ++
          [(payload,Segment.first payload.length head :: continuations modulus chunks)],
          Begun modulus message.1 message.2 := by
        intro message member
        rcases List.mem_append.mp member with old | new
        · exact others message old
        · obtain rfl := List.mem_singleton.mp new
          exact begunBefore
      obtain ⟨kept,keptBegun,front,sub⟩ := ih all (by simpa using shorter)
      exact ⟨kept,keptBegun,front,by simpa using sub⟩

inductive Sending (α : Type) where
  | idle
  | pending (rest : List α) (number : Nat)

/-- One step of a sender: the payload it takes, if any, and the segment it puts out. -/
inductive Send (modulus : Nat) :
    Sending α → Option (List α) × Option (Segment α) → Sending α → Prop
  | single (payload) : Send modulus .idle (some payload,some (.single payload)) .idle
  | first (payload) (n) (inside : n < payload.length) : Send modulus .idle
      (some payload,some (.first payload.length (payload.take n)))
      (.pending (payload.drop n) (1 % modulus))
  | dropped (payload) : Send modulus .idle (some payload,none) .idle
  | next {rest number} (n) (inside : n < rest.length) : Send modulus (.pending rest number)
      (none,some (.next number (rest.take n))) (.pending (rest.drop n) ((number + 1) % modulus))
  | last {rest number} (fill) : Send modulus (.pending rest number)
      (none,some (.next number (rest ++ fill))) .idle
  | stop (state) : Send modulus state (none,none) .idle
  | pause (state) : Send modulus state (none,none) state

/-- Where a sender stands: what it put out are begun messages of payloads it took, and what
is pending is the rest of the last of them. -/
structure Streams (modulus : Nat) (taken : List (List α)) (put : List (Segment α))
    (state : Sending α) (messages : List (List α × List (Segment α))) : Prop where
  stream : put = messages.flatMap Prod.snd
  begun : ∀ message ∈ messages, Begun modulus message.1 message.2
  ordered : (messages.map Prod.fst).Sublist taken
  current : ∀ rest number, state = .pending rest number → ∃ before payload head chunks,
    messages = before ++ [(payload,.first payload.length head :: continuations modulus chunks)] ∧
    payload = head ++ chunks.flatten ++ rest ∧ rest ≠ [] ∧ number = (chunks.length + 1) % modulus

theorem Streams.opens {taken : List (List α)} {put : List (Segment α)} {state next : Sending α}
    {messages : List (List α × List (Segment α))} {payload : List α} {segment : Segment α}
    (streams : Streams modulus taken put state messages)
    (begun : Begun modulus payload [segment])
    (current : ∀ rest number, next = .pending rest number → ∃ head,
      segment = .first payload.length head ∧ payload = head ++ rest ∧ rest ≠ [] ∧
        number = 1 % modulus) :
    Streams modulus (taken ++ [payload]) (put ++ [segment]) next
      (messages ++ [(payload,[segment])]) := by
  refine ⟨by simp [streams.stream],?_,?_,?_⟩
  · intro message member
    rcases List.mem_append.mp member with old | new
    · exact streams.begun message old
    · obtain rfl := List.mem_singleton.mp new
      exact begun
  · rw [List.map_append]
    exact streams.ordered.append (List.Sublist.refl _)
  · intro rest number waits
    obtain ⟨head,rfl,content,remains,first⟩ := current rest number waits
    exact ⟨messages,payload,head,[],rfl,by simpa using content,remains,by simpa using first⟩

theorem Streams.continues {taken : List (List α)} {put : List (Segment α)} {next : Sending α}
    {messages : List (List α × List (Segment α))} {rest chunk : List α} {number : Nat}
    (streams : Streams modulus taken put (.pending rest number) messages)
    (agrees : rest <+: chunk ∨ chunk <+: rest)
    (current : ∀ later number', next = .pending later number' →
      rest = chunk ++ later ∧ later ≠ [] ∧ number' = (number + 1) % modulus) :
    ∃ messages', Streams modulus taken (put ++ [.next number chunk]) next messages' := by
  obtain ⟨before,payload,head,chunks,rfl,content,remains,rfl⟩ := streams.current _ _ rfl
  have begun : Begun modulus payload
      (.first payload.length head :: continuations modulus chunks) :=
    streams.begun (payload,_) (by simp)
  have reached : (head ++ chunks.flatten).length < payload.length := by
    have positive := List.length_pos_iff.mpr remains
    have whole := congrArg List.length content
    rw [List.length_append] at whole
    omega
  have joined : payload <+: head ++ (chunks ++ [chunk]).flatten ∨
      head ++ (chunks ++ [chunk]).flatten <+: payload := by
    rw [content]
    simpa [List.prefix_append_right_inj] using agrees
  refine ⟨before ++
    [(payload,.first payload.length head :: continuations modulus (chunks ++ [chunk]))],?_,?_,?_,?_⟩
  · simp [streams.stream,continuations_snoc]
  · intro message member
    rcases List.mem_append.mp member with old | new
    · exact streams.begun message (by simp [old])
    · obtain rfl := List.mem_singleton.mp new
      exact begun.extend reached joined
  · simpa using streams.ordered
  · intro later number' waits
    obtain ⟨rfl,more,rfl⟩ := current later number' waits
    refine ⟨before,payload,head,chunks ++ [chunk],rfl,by simp [content],more,?_⟩
    simp

/-- What a sender put out over a run: the beginnings of messages, each of a payload it took
and in the order it took them. -/
theorem send_history {labels} {state : Sending α} (run : Run (Send modulus) .idle labels state) :
    ∃ messages, Streams modulus (labels.filterMap Prod.fst) (labels.filterMap Prod.snd)
      state messages := by
  induction run with
  | nil => exact ⟨[],rfl,by simp,by simp,fun _ _ impossible => by contradiction⟩
  | @snoc labels label middle final before step ih =>
    obtain ⟨messages,streams⟩ := ih
    simp only [List.filterMap_append]
    cases step with
    | single payload =>
      exact ⟨_,streams.opens (.single payload) fun _ _ impossible => by contradiction⟩
    | first payload n inside =>
      have proper : (payload.take n).length < payload.length := by
        rw [List.length_take]
        omega
      refine ⟨_,streams.opens (.first proper (List.take_prefix _ _)) ?_⟩
      rintro rest number ⟨⟩
      exact ⟨_,rfl,(List.take_append_drop n payload).symm,
        List.ne_nil_of_length_pos (by rw [List.length_drop]; omega),rfl⟩
    | dropped payload =>
      refine ⟨messages,by simpa using streams.stream,streams.begun,?_,
        fun _ _ impossible => by contradiction⟩
      exact streams.ordered.trans (List.sublist_append_left _ _)
    | @next rest number n inside =>
      obtain ⟨messages',continued⟩ : ∃ messages', Streams modulus _ (_ ++ [_])
          (.pending (rest.drop n) ((number + 1) % modulus)) messages' :=
        streams.continues (.inr (List.take_prefix n rest)) (by
          rintro later number' ⟨⟩
          exact ⟨(List.take_append_drop n rest).symm,
            List.ne_nil_of_length_pos (by rw [List.length_drop]; omega),rfl⟩)
      exact ⟨messages',by simpa using continued⟩
    | @last rest number fill =>
      obtain ⟨messages',continued⟩ : ∃ messages', Streams modulus _ (_ ++ [_]) .idle messages' :=
        streams.continues (.inl (List.prefix_append rest fill))
          (fun _ _ impossible => by contradiction)
      exact ⟨messages',by simpa using continued⟩
    | stop =>
      exact ⟨messages,by simpa using streams.stream,streams.begun,by simpa using streams.ordered,
        fun _ _ impossible => by contradiction⟩
    | pause => exact ⟨messages,by simpa using streams⟩

end Canbuskit.Segmentation
