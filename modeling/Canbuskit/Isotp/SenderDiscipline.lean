import Canbuskit.Isotp.Sender

/-! What the transmit half does with a payload that needs several frames, however Flow
Control frames, expiries and the traffic of the receive half are interleaved: an invariant
ties the emitted frames to the bytes not yet sent, the sequence number and the state. -/
namespace Canbuskit.Isotp
open Can Channel Runs

/-- The transfer goes on: the context is live and no other payload is dequeued. -/
def Event.continues : Event → Bool
  | .dequeue _ => false
  | event => event.live

abbrev Move.Continues (move : Move) : Prop := move.event.continues = true

theorem Move.Continues.live {move : Move} (continues : move.Continues) :
    move.event.live = true := by
  unfold Move.Continues Event.continues at continues
  split at continues
  · contradiction
  · exact continues

theorem Move.Continues.undequeued {move : Move} (continues : move.Continues) :
    move.dequeued = none := by
  unfold Move.dequeued
  split
  · rename_i shape
    simp [Move.Continues,Event.continues,shape] at continues
  · rfl

theorem Progress.setup {s t : Session} {move : Move} (progress : Progress s move t) :
    t.config = s.config ∧ t.fd = s.fd := by
  cases progress with
  | untouched same =>
    rw [same]
    exact ⟨rfl,rfl⟩
  | granted _ after | delayed _ _ after | refused _ after | cancelled _ after
  | dropped _ _ _ after | single _ _ _ _ after | started _ _ _ _ after =>
    subst after
    exact ⟨rfl,rfl⟩
  | sent _ _ after =>
    rcases after with ⟨_,rfl⟩ | ⟨_,_,_,rfl⟩ | ⟨_,_,rfl⟩ <;> exact ⟨rfl,rfl⟩

theorem Progress.padded {s t : Session} {move : Move} (progress : Progress s move t) :
    t.padded = s.padded := by
  obtain ⟨config,fd⟩ := progress.setup
  funext data
  simp only [Session.padded,Session.makeTxMsgWithAddr,config,fd]

/-- The encoded frames of a payload, cut into a first chunk and the chunks after it. -/
def consecutiveFrames (chunks : List Bytes) : List Bytes :=
  chunks.mapIdx fun index chunk =>
    (pciTypeConsecutiveFrame ||| byteOf ((index + 1) % 16 : Nat)) :: chunk

def planned (payload head : Bytes) (chunks : List Bytes) : List Bytes :=
  (firstFramePCI payload.length ++ head) :: consecutiveFrames chunks

theorem planned_snoc (payload head : Bytes) (chunks : List Bytes) (chunk : Bytes) :
    planned payload head (chunks ++ [chunk]) = planned payload head chunks ++
      [(pciTypeConsecutiveFrame ||| byteOf ((chunks.length + 1) % 16 : Nat)) :: chunk] := by
  simp [planned,consecutiveFrames,List.mapIdx_append]

theorem first_encoded {head data : Bytes} {total maxDataLength : Int}
    (encoded : createFirstFramePayload head total maxDataLength = .ok data) :
    data = firstFramePCI total ++ head := by
  simp only [createFirstFramePayload] at encoded
  split_ifs at encoded
  exact (Except.ok.inj encoded).symm

theorem consecutive_encoded {chunk data : Bytes} {number : Int}
    (encoded : createConsecutiveFramePayload chunk number = .ok data) :
    data = (pciTypeConsecutiveFrame ||| byteOf number) :: chunk := by
  simp only [createConsecutiveFramePayload] at encoded
  split_ifs at encoded
  exact (Except.ok.inj encoded).symm

theorem planned_parse {payload head : Bytes} {maxDataLength : Int} (bound : payload.length < 2^32)
    (proper : head.length < payload.length)
    (fits : createFirstFramePayload head payload.length maxDataLength =
      .ok (firstFramePCI payload.length ++ head)) (chunks : List Bytes) :
    (planned payload head chunks).map parseFrame =
      (PDU.firstFrame payload.length head :: chunks.mapIdx fun index chunk =>
        PDU.consecutiveFrame ((index + 1) % 16 : Nat) chunk).map .ok := by
  have first : parseFrame (_ ++ []) = _ :=
    parse_first (by omega) (by omega) (by simpa using proper) fits
  have rest : (consecutiveFrames chunks).map parseFrame = (chunks.mapIdx fun index chunk =>
      PDU.consecutiveFrame ((index + 1) % 16 : Nat) chunk).map .ok := by
    apply List.ext_getElem
    · simp [consecutiveFrames]
    · intro index _ _
      have parsed : ∀ chunk, parseFrame
          ((pciTypeConsecutiveFrame ||| byteOf ((index + 1) % 16 : Nat)) :: chunk ++ []) =
            .ok (.consecutiveFrame ((index + 1) % 16 : Nat) (chunk ++ [])) :=
        fun chunk => parse_consecutive (if_neg (by omega))
      simpa [consecutiveFrames] using parsed _
  simp only [planned,List.map_cons,rest]
  simpa using first

/-- The data frames of the moves carry the first chunk and the chunks, padded. -/
structure Emitted (s : Session) (payload : Bytes) (moves : List Move) (head : Bytes)
    (chunks : List Bytes) : Prop where
  proper : head.length < payload.length
  fits : ∃ maxDataLength, createFirstFramePayload head payload.length maxDataLength =
    .ok (firstFramePCI payload.length ++ head)
  frames : (moves.flatMap Move.dataFrames).map LinkFrame.data =
    (planned payload head chunks).map s.padded

theorem Emitted.silent {s t : Session} {payload head : Bytes} {moves : List Move} {move : Move}
    {chunks : List Bytes} (emitted : Emitted s payload moves head chunks)
    (same : t.padded = s.padded) (nothing : move.dataFrames = []) :
    Emitted t payload (moves ++ [move]) head chunks :=
  ⟨emitted.proper,emitted.fits,by simpa [nothing,same] using emitted.frames⟩

theorem Emitted.continued {s t : Session} {payload head chunk data : Bytes} {moves : List Move}
    {move : Move} {chunks : List Bytes} (emitted : Emitted s payload moves head chunks)
    (same : t.padded = s.padded) (sent : move.dataFrames = [s.makeTxMsg data])
    (encoded : createConsecutiveFramePayload chunk ((chunks.length + 1) % 16 : Nat) = .ok data) :
    Emitted t payload (moves ++ [move]) head (chunks ++ [chunk]) := by
  refine ⟨emitted.proper,emitted.fits,?_⟩
  rw [planned_snoc,List.map_append,same,← emitted.frames,← consecutive_encoded encoded]
  simp [sent,Session.makeTxMsg_data]

/-- Where the transfer of one payload stands after some moves. -/
inductive Transfer (payload : Bytes) (moves : List Move) (s : Session) : Prop
  | active {head chunks} (emitted : Emitted s payload moves head chunks) (busy : s.txState ≠ .idle)
      (content : payload = head ++ chunks.flatten ++ s.txBuffer)
      (number : s.txSeqNum = ((chunks.length + 1) % 16 : Nat))
      (clean : ∀ move ∈ moves, move.failed = false)
  | finished {head chunks} (emitted : Emitted s payload moves head chunks)
      (rests : s.txState = .idle) (content : payload = head ++ chunks.flatten)
      (clean : ∀ move ∈ moves, move.failed = false)
  | aborted {head chunks rest} (emitted : Emitted s payload moves head chunks)
      (rests : s.txState = .idle) (content : payload = head ++ chunks.flatten ++ rest)
      (remains : rest ≠ []) (failed : ∃ move ∈ moves, move.failed = true)

/-- A move without data that keeps the bytes, the number and the busy state. -/
theorem Transfer.kept {payload : Bytes} {moves : List Move} {move : Move} {s t : Session}
    (transfer : Transfer payload moves s) (same : t.padded = s.padded)
    (nothing : move.dataFrames = []) (clean : move.failed = false)
    (state : t.txState = .idle ↔ s.txState = .idle) (buffer : t.txBuffer = s.txBuffer)
    (seqNum : t.txSeqNum = s.txSeqNum) : Transfer payload (moves ++ [move]) t := by
  have extended : (∀ other ∈ moves, other.failed = false) →
      ∀ other ∈ moves ++ [move], other.failed = false := by
    intro all other member
    rcases List.mem_append.mp member with old | new
    · exact all other old
    · rw [List.mem_singleton.mp new]
      exact clean
  cases transfer with
  | active emitted busy content number all =>
    exact .active (emitted.silent same nothing) (mt state.mp busy) (by rw [buffer]; exact content)
      (by rw [seqNum]; exact number) (extended all)
  | finished emitted rests content all =>
    exact .finished (emitted.silent same nothing) (state.mpr rests) content (extended all)
  | aborted emitted rests content remains failed =>
    obtain ⟨other,member,reported⟩ := failed
    exact .aborted (emitted.silent same nothing) (state.mpr rests) content remains
      ⟨other,by simp [member],reported⟩

theorem Transfer.busy_active {payload : Bytes} {moves : List Move} {s : Session}
    (transfer : Transfer payload moves s) (busy : s.txState ≠ .idle) :
    ∃ head chunks, Emitted s payload moves head chunks ∧
      payload = head ++ chunks.flatten ++ s.txBuffer ∧
      s.txSeqNum = ((chunks.length + 1) % 16 : Nat) ∧ ∀ move ∈ moves, move.failed = false := by
  cases transfer with
  | active emitted _ content number clean => exact ⟨_,_,emitted,content,number,clean⟩
  | finished _ rests => exact absurd rests busy
  | aborted _ rests => exact absurd rests busy

/-- One move of a transfer keeps its account in order. -/
theorem Transfer.step {payload : Bytes} {moves : List Move} {move : Move} {s t : Session}
    (transfer : Transfer payload moves s) (sound : s.Sound) (continues : move.Continues)
    (progress : Progress s move t) : Transfer payload (moves ++ [move]) t := by
  have padded := progress.padded
  have undequeued := continues.undequeued
  cases progress with
  | untouched same shows =>
    refine transfer.kept padded shows.dataFrames shows.failed ?_ ?_ ?_ <;> rw [same]
  | granted waits after shows =>
    subst after
    exact transfer.kept padded shows.dataFrames shows.failed (by simp [Session.grant,waits]) rfl rfl
  | delayed waits _ after shows =>
    subst after
    exact transfer.kept padded shows.dataFrames shows.failed Iff.rfl rfl rfl
  | refused waits after shows =>
    subst after
    obtain ⟨head,chunks,emitted,content,_,_⟩ := transfer.busy_active (by simp [waits])
    exact .aborted (emitted.silent padded shows.dataFrames) rfl content
      (sound.sendWaitFC waits).pending ⟨move,by simp,shows.failed⟩
  | cancelled dead => simp [continues.live] at dead
  | dropped dead => simp [continues.live] at dead
  | single _ _ _ _ _ _ dequeued => simp [undequeued] at dequeued
  | started _ _ _ _ _ _ _ _ _ dequeued => simp [undequeued] at dequeued
  | @sent data transmits encoded after _ shows =>
    obtain ⟨head,chunks,emitted,content,number,clean⟩ :=
      transfer.busy_active (by simp [transmits.state])
    rw [number] at encoded
    have extended := emitted.continued padded shows.dataFrames encoded
    have all : ∀ other ∈ moves ++ [move], other.failed = false := by
      intro other member
      rcases List.mem_append.mp member with old | new
      · exact clean other old
      · rw [List.mem_singleton.mp new]
        exact shows.failed
    have split : payload = head ++ (chunks ++ [s.txBuffer.take s.consecutiveFrameRoom]).flatten ++
        s.txBuffer.drop s.consecutiveFrameRoom := by
      rw [content]
      simp
    have next : (s.txSeqNum + 1) % 16 =
        (((chunks ++ [s.txBuffer.take s.consecutiveFrameRoom]).length + 1) % 16 : Nat) := by
      rw [number,List.length_append,List.length_singleton]
      omega
    rcases after with ⟨last,rfl⟩ | ⟨_,_,_,rfl⟩ | ⟨_,_,rfl⟩
    · rw [List.drop_eq_nil_of_le last,List.append_nil] at split
      exact .finished extended rfl split all
    · exact .active extended (by simp [Session.endBlock]) split next all
    · exact .active extended (by simp [Session.keepSending,transmits.state]) split next all

theorem idle_silent {s t : Session} {moves : List Move} (sound : s.Sound)
    (rests : s.txState = .idle) (run : Run Move.Step s moves t)
    (continues : ∀ move ∈ moves, move.Continues) :
    t.txState = .idle ∧ moves.flatMap Move.dataFrames = [] := by
  induction run with
  | nil => exact ⟨rests,rfl⟩
  | @snoc moves move middle t before last ih =>
    obtain ⟨idle,nothing⟩ := ih fun other member => continues other (by simp [member])
    have continuing := continues move (by simp)
    cases last.progress (run_sound sound before) with
    | untouched same shows =>
      refine ⟨by rw [same]; exact idle,?_⟩
      simp [nothing,shows.dataFrames]
    | granted waits | delayed waits | refused waits => simp [idle] at waits
    | cancelled dead | dropped dead => simp [continuing.live] at dead
    | single _ _ _ _ _ _ dequeued => simp [continuing.undequeued] at dequeued
    | started _ _ _ _ _ _ _ _ _ dequeued => simp [continuing.undequeued] at dequeued
    | sent transmits => simp [transmits.state] at idle

/-- From one accepted ContinueToSend to the next the block counter counts the data frames. -/
theorem block_bounded {s t : Session} {moves : List Move} {blockSize : Int} (sound : s.Sound)
    (transmits : s.txState = .transmit) (counter : s.txBlockCounter = 0)
    (granted : s.remoteBlockSize = blockSize) (positive : 0 < blockSize)
    (run : Run Move.Step s moves t) (continues : ∀ move ∈ moves, move.Continues)
    (ungranted : ∀ move ∈ moves, move.granted = none) :
    t.txState = .transmit ∧ t.remoteBlockSize = blockSize ∧
        ((moves.flatMap Move.dataFrames).length : Int) = t.txBlockCounter ∨
      t.txState ≠ .transmit ∧ ((moves.flatMap Move.dataFrames).length : Int) ≤ blockSize := by
  induction run with
  | nil => exact .inl ⟨transmits,granted,by simp [counter]⟩
  | @snoc moves move middle t before last ih =>
    have account := ih (fun other member => continues other (by simp [member]))
      (fun other member => ungranted other (by simp [member]))
    have continuing := continues move (by simp)
    have noGrant := ungranted move (by simp)
    rw [List.flatMap_append,List.flatMap_singleton,List.length_append]
    cases last.progress (run_sound sound before) with
    | untouched same shows =>
      rw [shows.dataFrames,same]
      simpa using account
    | granted waits after shows => simp [shows.granted] at noGrant
    | delayed waits _ after shows =>
      rw [shows.dataFrames,after]
      simpa [Session.delay,waits] using account
    | refused waits after shows =>
      rw [shows.dataFrames,after]
      simpa [Session.stopSending,waits] using account
    | cancelled dead | dropped dead => simp [continuing.live] at dead
    | single _ _ _ _ _ _ dequeued => simp [continuing.undequeued] at dequeued
    | started _ _ _ _ _ _ _ _ _ dequeued => simp [continuing.undequeued] at dequeued
    | sent transmits _ after _ shows =>
      rw [shows.dataFrames]
      obtain ⟨_,block,count⟩ := account.resolve_right (by simp [transmits.state])
      have inside := transmits.blockCounter.2 (by omega)
      rcases after with ⟨_,rfl⟩ | ⟨_,_,_,rfl⟩ | ⟨_,_,rfl⟩
      · refine .inr ⟨by simp [Session.stopSending],?_⟩
        simp only [List.length_singleton]
        omega
      · refine .inr ⟨by simp [Session.endBlock],?_⟩
        simp only [List.length_singleton]
        omega
      · refine .inl ⟨transmits.state,block,?_⟩
        simp only [List.length_singleton,Session.keepSending]
        omega

/-- Without a ContinueToSend between them, the accepted Wait frames are counted. -/
theorem waits_bounded {s t : Session} {moves : List Move} (sound : s.Sound)
    (limited : 0 ≤ s.config.maxWaitFrames) (run : Run Move.Step s moves t)
    (continues : ∀ move ∈ moves, move.Continues)
    (ungranted : ∀ move ∈ moves, move.granted = none) :
    t.config = s.config ∧
      (t.txState = .waitFC ∧ (moves.countP Move.delayed : Int) ≤ t.txWaitFrames ∨
        t.txState = .transmit ∧ moves.countP Move.delayed = 0 ∨
        t.txState = .idle ∧ (moves.countP Move.delayed : Int) ≤ s.config.maxWaitFrames) := by
  induction run with
  | nil =>
    refine ⟨rfl,?_⟩
    rcases sound.sending with idle | waits | transmits
    · exact .inr (.inr ⟨idle.state,by simpa using limited⟩)
    · exact .inl ⟨waits.state,by simpa using waits.waitFrames.1⟩
    · exact .inr (.inl ⟨transmits.state,rfl⟩)
  | @snoc moves move middle t before last ih =>
    obtain ⟨config,account⟩ := ih (fun other member => continues other (by simp [member]))
      (fun other member => ungranted other (by simp [member]))
    have continuing := continues move (by simp)
    have noGrant := ungranted move (by simp)
    have middleSound := run_sound sound before
    have progress := last.progress middleSound
    refine ⟨progress.setup.1.trans config,?_⟩
    rw [List.countP_append,List.countP_singleton]
    cases progress with
    | untouched same shows =>
      rw [shows.delayed,same]
      simpa using account
    | granted waits after shows => simp [shows.granted] at noGrant
    | delayed waits within after shows =>
      rw [shows.delayed,after]
      have counted : (moves.countP Move.delayed : Int) ≤ middle.txWaitFrames := by
        simpa [waits] using account
      refine .inl ⟨waits,?_⟩
      simp only [Session.delay,if_true]
      omega
    | refused waits after shows =>
      rw [shows.delayed,after]
      have counted : (moves.countP Move.delayed : Int) ≤ middle.txWaitFrames := by
        simpa [waits] using account
      have within := (middleSound.sendWaitFC waits).waitFrames.2
      rw [config] at within
      refine .inr (.inr ⟨rfl,?_⟩)
      simp only [Bool.false_eq_true,if_false]
      omega
    | cancelled dead | dropped dead => simp [continuing.live] at dead
    | single _ _ _ _ _ _ dequeued => simp [continuing.undequeued] at dequeued
    | started _ _ _ _ _ _ _ _ _ dequeued => simp [continuing.undequeued] at dequeued
    | sent transmits _ after _ shows =>
      rw [shows.delayed]
      have none : moves.countP Move.delayed = 0 := by simpa [transmits.state] using account
      have waited := transmits.waitFrames
      rcases after with ⟨_,rfl⟩ | ⟨_,_,_,rfl⟩ | ⟨_,_,rfl⟩
      · exact .inr (.inr ⟨rfl,by simpa [none] using limited⟩)
      · exact .inl ⟨rfl,by simp [none,Session.endBlock,Session.separated,waited]⟩
      · exact .inr (.inl ⟨transmits.state,by simp [none]⟩)

/-- The transmit state is entered by an accepted ContinueToSend only. -/
theorem transmit_granted {s t : Session} {moves : List Move} (sound : s.Sound)
    (waits : s.txState ≠ .transmit) (run : Run Move.Step s moves t)
    (transmits : t.txState = .transmit) : ∃ grant ∈ moves, grant.granted.isSome := by
  induction run with
  | nil => exact absurd transmits waits
  | @snoc moves move middle t before last ih =>
    have earlier : middle.txState = .transmit →
        ∃ grant ∈ moves ++ [move], grant.granted.isSome := by
      intro sending
      obtain ⟨grant,member,accepted⟩ := ih sending
      exact ⟨grant,by simp [member],accepted⟩
    cases last.progress (run_sound sound before) with
    | untouched same =>
      rw [same] at transmits
      exact earlier transmits
    | granted _ _ shows => exact ⟨move,by simp,by simp [shows.granted]⟩
    | delayed _ _ after =>
      rw [after] at transmits
      exact earlier transmits
    | refused _ after | cancelled _ after | dropped _ _ _ after | single _ _ _ _ after
    | started _ _ _ _ after =>
      rw [after] at transmits
      simp [Session.stopSending,Session.startSending] at transmits
    | sent sending => exact earlier sending.state

theorem sending_transmits {s t : Session} {move : Move} (continues : move.Continues)
    (progress : Progress s move t) (sends : move.dataFrames ≠ []) : s.txState = .transmit := by
  cases progress with
  | untouched _ shows | granted _ _ shows | delayed _ _ _ shows | refused _ _ shows
  | cancelled _ _ shows | dropped _ _ _ _ shows => exact absurd shows.dataFrames sends
  | single _ _ _ _ _ _ dequeued => simp [continues.undequeued] at dequeued
  | started _ _ _ _ _ _ _ _ _ dequeued => simp [continues.undequeued] at dequeued
  | sent transmits => exact transmits.state

/-- The data frames are one First Frame with the length, then Consecutive Frames in number.
They carry a prefix of the payload, and all of it exactly when the transmit half rests and
has reported no error. -/
def CarriesPrefix (payload : Bytes) (moves : List Move) (t : Session) : Prop :=
  ∃ (encoded : List Bytes) (head : Bytes) (chunks : List Bytes),
    (moves.flatMap Move.dataFrames).map LinkFrame.data = encoded.map t.padded ∧
    encoded.map parseFrame = (PDU.firstFrame payload.length head ::
      chunks.mapIdx fun index chunk => PDU.consecutiveFrame ((index + 1) % 16 : Nat) chunk).map .ok ∧
    head ++ chunks.flatten <+: payload ∧
    (head ++ chunks.flatten = payload ↔
      t.txState = .idle ∧ ∀ move ∈ moves, move.failed = false)

/-- The discipline of a transfer, over the moves from its dequeue on. -/
structure Disciplined (payload : Bytes) (moves : List Move) (t : Session) : Prop where
  frames : CarriesPrefix payload moves t
  granted : ∀ past move later, moves = past ++ move :: later → past ≠ [] → move.dataFrames ≠ [] →
    ∃ grant ∈ past, grant.granted.isSome
  blocks : ∀ past grant between later blockSize, moves = past ++ grant :: (between ++ later) →
    grant.granted = some blockSize → 0 < blockSize → (∀ move ∈ between, move.granted = none) →
    ((between.flatMap Move.dataFrames).length : Int) ≤ blockSize
  waits : 0 ≤ t.config.maxWaitFrames → ∀ past between later, moves = past ++ (between ++ later) →
    (∀ move ∈ between, move.granted = none) →
    (between.countP Move.delayed : Int) ≤ t.config.maxWaitFrames
  aborted : ∀ past abort later, moves = past ++ abort :: later → abort.failed = true →
    later.flatMap Move.dataFrames = []

theorem Transfer.carries {payload : Bytes} {moves : List Move} {t : Session}
    (transfer : Transfer payload moves t) (sound : t.Sound) (bound : payload.length < 2^32) :
    CarriesPrefix payload moves t := by
  cases transfer with
  | @active head chunks emitted busy content number clean =>
    obtain ⟨_,fits⟩ := emitted.fits
    refine ⟨_,head,chunks,emitted.frames,planned_parse bound emitted.proper fits chunks,
      ⟨t.txBuffer,content.symm⟩,?_⟩
    have pending : t.txBuffer ≠ [] := by
      rcases sound.sending with idle | waits | transmits
      · exact absurd idle.state busy
      · exact waits.pending
      · exact transmits.pending
    constructor
    · intro whole
      rw [whole] at content
      exact absurd (List.self_eq_append_right.mp content) pending
    · exact fun done => absurd done.1 busy
  | @finished head chunks emitted rests content clean =>
    obtain ⟨_,fits⟩ := emitted.fits
    exact ⟨_,head,chunks,emitted.frames,planned_parse bound emitted.proper fits chunks,
      ⟨[],by rw [List.append_nil,content]⟩,fun _ => ⟨rests,clean⟩,fun _ => content.symm⟩
  | @aborted head chunks rest emitted rests content remains failed =>
    obtain ⟨_,fits⟩ := emitted.fits
    refine ⟨_,head,chunks,emitted.frames,planned_parse bound emitted.proper fits chunks,
      ⟨rest,content.symm⟩,?_⟩
    constructor
    · intro whole
      rw [whole] at content
      exact absurd (List.self_eq_append_right.mp content) remains
    · rintro ⟨_,clean⟩
      obtain ⟨move,member,reported⟩ := failed
      simp [clean move member] at reported

theorem transfer_opens {s t : Session} {move : Move} {payload : Bytes} {queue : List Bytes}
    (sound : s.Sound) (step : Move.Step s move t) (dequeues : move.event = .dequeue .queued)
    (taken : s.txDataChan.buffer = payload :: queue) (several : ¬ s.fitsSingleFrame payload)
    (bound : payload.length < 2^32) :
    Transfer payload [move] t ∧ t.txState = .waitFC ∧ t.config = s.config ∧
      move.granted = none ∧ move.delayed = false ∧ move.failed = false := by
  have before := step.1
  have dequeued : move.dequeued = some payload := by
    simp [Move.dequeued,dequeues,before,taken]
  have progress := step.progress sound
  have padded := progress.padded
  cases progress with
  | untouched _ _ undequeued | granted _ _ _ undequeued | delayed _ _ _ _ undequeued
  | refused _ _ _ undequeued | cancelled _ _ _ undequeued | sent _ _ _ _ _ undequeued =>
    simp [undequeued] at dequeued
  | dropped dead => simp [dequeues,Event.live] at dead
  | single _ _ fits _ _ _ dequeued' =>
    obtain rfl := Option.some.inj (dequeued.symm.trans dequeued')
    exact absurd fits several
  | @started _ channel data rests queue _ encoded after sent granted delayed failed dequeued' =>
    obtain rfl := Option.some.inj (dequeued.symm.trans dequeued')
    obtain ⟨_,rest,_⟩ := Session.first_encodes sound.configured several
    have proper : (payload.take (s.firstFrameRoom payload.length)).length < payload.length := by
      rw [List.length_take]
      omega
    obtain rfl := first_encoded encoded
    have full := Session.first_frame_full sound.configured several encoded
    have data : (s.makeTxMsg (firstFramePCI payload.length ++
        payload.take (s.firstFrameRoom payload.length))).isFlowControl = false := by
      simp only [LinkFrame.isFlowControl,Session.makeTxMsg_data,
        Session.padded_full sound.configured full]
      have parsed : parseFrame (_ ++ []) = _ :=
        parse_first (by omega) (by omega) (by simpa using proper) encoded
      rw [List.append_nil] at parsed
      rw [parsed]
    have emitted : Emitted t payload [move] (payload.take (s.firstFrameRoom payload.length)) [] := by
      refine ⟨proper,⟨_,encoded⟩,?_⟩
      rw [padded]
      simp [Move.dataFrames,sent,data,planned,consecutiveFrames,Session.makeTxMsg_data]
    subst after
    refine ⟨.active emitted (by simp [Session.startSending]) ?_ rfl (by simpa using failed),
      rfl,rfl,granted,delayed,failed⟩
    simp [Session.startSending]

theorem run_transfer {payload : Bytes} {first : Move} {moves : List Move} {s t : Session}
    (sound : s.Sound) (opened : Transfer payload [first] s) (run : Run Move.Step s moves t)
    (continues : ∀ move ∈ moves, move.Continues) : Transfer payload (first :: moves) t := by
  induction run with
  | nil => exact opened
  | @snoc moves move middle t before last ih =>
    have transfer := ih fun other member => continues other (by simp [member])
    have middleSound := run_sound sound before
    exact transfer.step middleSound (continues move (by simp)) (last.progress middleSound)

theorem failed_idle {s t : Session} {move : Move} (continues : move.Continues)
    (progress : Progress s move t) (failed : move.failed = true) : t.txState = .idle := by
  cases progress with
  | untouched _ shows | granted _ _ shows | delayed _ _ _ shows | cancelled _ _ shows
  | dropped _ _ _ _ shows | sent _ _ _ _ shows => simp [shows.failed] at failed
  | refused _ after =>
    rw [after]
    rfl
  | single _ _ _ _ _ _ dequeued => simp [continues.undequeued] at dequeued
  | started _ _ _ _ _ _ _ _ _ dequeued => simp [continues.undequeued] at dequeued

theorem granted_state {s t : Session} {move : Move} {blockSize : Int}
    (progress : Progress s move t) (granted : move.granted = some blockSize)
    (continues : move.Continues) :
    t.txState = .transmit ∧ t.txBlockCounter = 0 ∧ t.remoteBlockSize = blockSize := by
  cases progress with
  | untouched _ shows | delayed _ _ _ shows | refused _ _ shows | cancelled _ _ shows
  | dropped _ _ _ _ shows | sent _ _ _ _ shows => simp [shows.granted] at granted
  | granted _ after shows =>
    rw [shows.granted] at granted
    obtain rfl := Option.some.inj granted
    rw [after]
    exact ⟨rfl,rfl,rfl⟩
  | single _ _ _ _ _ _ dequeued => simp [continues.undequeued] at dequeued
  | started _ _ _ _ _ _ _ _ _ dequeued => simp [continues.undequeued] at dequeued

theorem run_setup {s t : Session} {moves : List Move} (sound : s.Sound)
    (run : Run Move.Step s moves t) : t.config = s.config := by
  induction run with
  | nil => rfl
  | snoc before last ih =>
    exact ((last.progress (run_sound sound before)).setup.1).trans ih

/-- Sender discipline, whatever Flow Control frames and expiries come: over the moves from
the dequeue of a payload that needs several frames up to the next dequeue. -/
theorem sender_discipline {address : Option Address} {cfg : Config} {fd : Bool}
    {start t : Session} {before moves : List Move} {first : Move} {payload : Bytes}
    {queue : List Bytes} (created : newSession address cfg fd = .ok start)
    (run : Run Move.Step start (before ++ first :: moves) t)
    (dequeues : first.event = .dequeue .queued)
    (taken : first.before.txDataChan.buffer = payload :: queue)
    (several : ¬ first.before.fitsSingleFrame payload) (bound : payload.length < 2^32)
    (continues : ∀ move ∈ moves, move.Continues) : Disciplined payload (first :: moves) t := by
  obtain ⟨s,toFirst,fromFirst⟩ := run.split
  obtain ⟨opened,step,rest⟩ := fromFirst.cons_inv
  obtain rfl := step.1
  have sound := run_sound (newSession_sound created) toFirst
  have openedSound := (step.transition sound).sound sound
  obtain ⟨transfer,waits,_,ungranted,undelayed,clean⟩ :=
    transfer_opens sound step dequeues taken several bound
  have later : ∀ {past later : List Move} {move : Move}, first :: moves = past ++ move :: later →
      past ≠ [] → ∃ inner, past = first :: inner ∧ moves = inner ++ move :: later := by
    intro past later move shape nonempty
    obtain ⟨head,inner,rfl⟩ := List.exists_cons_of_ne_nil nonempty
    obtain ⟨rfl,tail⟩ := List.cons.inj shape
    exact ⟨inner,rfl,tail⟩
  refine ⟨(run_transfer openedSound transfer rest continues).carries (run_sound openedSound rest)
    bound,?granted,?blocks,?waits,?aborted⟩
  case granted =>
    intro past move after shape nonempty sends
    obtain ⟨inner,rfl,rfl⟩ := later shape nonempty
    obtain ⟨middle,toMiddle,fromMiddle⟩ := rest.split
    obtain ⟨_,last,_⟩ := fromMiddle.cons_inv
    have transmits := sending_transmits (continues move (by simp))
      (last.progress (run_sound openedSound toMiddle)) sends
    obtain ⟨grant,member,accepted⟩ :=
      transmit_granted openedSound (by simp [waits]) toMiddle transmits
    exact ⟨grant,by simp [member],accepted⟩
  case blocks =>
    intro past grant between after blockSize shape granted positive noGrant
    have nonempty : past ≠ [] := by
      rintro rfl
      obtain ⟨rfl,_⟩ := List.cons.inj shape
      simp [ungranted] at granted
    obtain ⟨inner,rfl,rfl⟩ := later shape nonempty
    obtain ⟨middle,toMiddle,fromMiddle⟩ := rest.split
    obtain ⟨allowed,last,fromAllowed⟩ := fromMiddle.cons_inv
    obtain ⟨final,block,_⟩ := fromAllowed.split
    have middleSound := run_sound openedSound toMiddle
    have allowedSound := (last.transition middleSound).sound middleSound
    obtain ⟨transmits,counter,remote⟩ :=
      granted_state (last.progress middleSound) granted (continues grant (by simp))
    have finalSound := run_sound allowedSound block
    rcases block_bounded allowedSound transmits counter remote positive block
      (fun move member => continues move (by simp [member])) noGrant with
      ⟨sending,size,count⟩ | ⟨_,count⟩
    · have inside : 0 < final.remoteBlockSize → final.txBlockCounter < final.remoteBlockSize := by
        rcases finalSound.sending with idle | waiting | transmitting
        · simp [idle.state] at sending
        · simp [waiting.state] at sending
        · exact transmitting.blockCounter.2
      omega
    · exact count
  case waits =>
    intro limited past between after shape noGrant
    -- the dequeue itself accepts no Wait, so it may be left out of the count
    have counted : ∀ inner between' after', moves = inner ++ (between' ++ after') →
        (∀ move ∈ between', move.granted = none) →
        (between'.countP Move.delayed : Int) ≤ t.config.maxWaitFrames := by
      rintro inner between' after' rfl noGrant'
      obtain ⟨middle,toMiddle,fromMiddle⟩ := rest.split
      obtain ⟨final,waiting,fromFinal⟩ := fromMiddle.split
      have middleSound := run_sound openedSound toMiddle
      have config : t.config = middle.config := run_setup middleSound fromMiddle
      rw [config] at limited ⊢
      obtain ⟨same,account⟩ := waits_bounded middleSound limited waiting
        (fun move member => continues move (by simp [member])) noGrant'
      have finalSound := run_sound middleSound waiting
      rcases account with ⟨state,count⟩ | ⟨_,count⟩ | ⟨_,count⟩
      · have within := (finalSound.sendWaitFC state).waitFrames.2
        rw [same] at within
        omega
      · omega
      · exact count
    cases past with
    | cons head inner => exact counted inner between after (List.cons.inj shape).2 noGrant
    | nil =>
      cases between with
      | nil => simpa using limited
      | cons head between =>
        obtain ⟨rfl,tail⟩ := List.cons.inj shape
        rw [List.countP_cons_of_neg (by simp [undelayed])]
        exact counted [] between after tail fun move member => noGrant move (by simp [member])
  case aborted =>
    intro past abort after shape failed
    have nonempty : past ≠ [] := by
      rintro rfl
      obtain ⟨rfl,_⟩ := List.cons.inj shape
      simp [clean] at failed
    obtain ⟨inner,rfl,rfl⟩ := later shape nonempty
    obtain ⟨middle,toMiddle,fromMiddle⟩ := rest.split
    obtain ⟨stopped,last,fromStopped⟩ := fromMiddle.cons_inv
    have middleSound := run_sound openedSound toMiddle
    have idle := failed_idle (continues abort (by simp)) (last.progress middleSound) failed
    exact (idle_silent ((last.transition middleSound).sound middleSound) idle fromStopped
      fun move member => continues move (by simp [member])).2

/-- Twenty bytes on classic CAN, with a Wait frame between two blocks of one frame. -/
theorem sender_discipline_transfer :
    ∃ first moves t, first.event = .dequeue .queued ∧ t.txState = .idle ∧
      Disciplined (List.replicate 20 7) (first :: moves) t := by
  have created : newSession (some ⟨0x7E0,0x7E8⟩) defaultConfig false =
      .ok (.fresh ⟨0x7E0,0x7E8⟩ defaultConfig false) := rfl
  have executed : (Session.fresh ⟨0x7E0,0x7E8⟩ defaultConfig false).execute
      [.send (List.replicate 20 7),.dequeue .queued,.frame ⟨0x7E8,[0x30,1,0],false⟩ .queued,
        .expireTxSTmin .queued,.frame ⟨0x7E8,[0x31,0,0],false⟩ .queued,
        .frame ⟨0x7E8,[0x30,1,0],false⟩ .queued,.expireTxSTmin .queued] = some _ := rfl
  have run : Run Move.Step _ ([_] ++ _ :: _) _ := Session.execute_run executed
  exact ⟨_,_,_,rfl,rfl,sender_discipline created run rfl rfl
    (by simp [Session.fitsSingleFrame,Session.maxDataLength,Session.fresh]) (by simp) (by decide)⟩

end Canbuskit.Isotp
