import Canbuskit.Isotp.Canonical
import Canbuskit.Isotp.SenderDiscipline
import Canbuskit.Isotp.Link

/-! What a session puts on the wire, in every state it can reach: each frame is legal for the
link, and the padding and the DLC rounding insert nothing inside a message. Two encodings are
not what they should be: an empty Single Frame that is padded in a classic frame, and the
First Frame of a message whose length exceeds the length field. -/
namespace Canbuskit.Isotp
open Can Channel Runs

def pciTypeOf (data : Bytes) : UInt8 := data.headD 0 &&& 0xF0

/-- The data lengths of padded frames. -/
def paddedLengths (fd : Bool) : List Nat := if fd then [8,12,16,20,24,32,48,64] else [8]

/-- A link frame that `can.NewFrame` takes with the session's format, and whose bytes it does
not extend when padding is on. -/
structure LinkFrame.Legal (fd : Bool) (paddingByte : Option UInt8) (msg : LinkFrame) : Prop where
  mode : msg.fd = fd
  length : msg.data.length ≤ maximumLength fd
  accepted : ∀ brs, ∃ frame, toCANFrame brs msg = .ok frame ∧
    (paddingByte.isSome → frame.payload = msg.data)
  padded : paddingByte.isSome → msg.data.length ∈ paddedLengths fd

/-- A legal frame of a message, full unless it may be its last. -/
structure Move.Emits (fd : Bool) (paddingByte : Option UInt8) (move : Move) : Prop where
  legal : ∀ msg ∈ frames move.outputs, msg.Legal fd paddingByte
  first : ∀ msg ∈ frames move.outputs, pciTypeOf msg.data = pciTypeFirstFrame →
    msg.data.length = maximumLength fd
  consecutive : ∀ msg ∈ frames move.outputs, pciTypeOf msg.data = pciTypeConsecutiveFrame →
    move.after.txBuffer ≠ [] → msg.data.length = maximumLength fd

theorem canLength_padded {fd : Bool} {length : Nat} (padded : length ∈ paddedLengths fd) :
    canLength length = length := by
  cases fd <;> simp only [paddedLengths,if_true,Bool.false_eq_true,if_false,List.mem_cons,
    List.not_mem_nil,or_false] at padded
  · subst padded
    rfl
  · rcases padded with rfl | rfl | rfl | rfl | rfl | rfl | rfl | rfl <;> rfl

namespace Session

variable {s : Session}

theorem padded_lengths (configured : s.Configured) {data : Bytes}
    (fits : (data.length : Int) ≤ s.maxDataLength) (on : s.config.paddingByte.isSome) :
    (s.padded data).length ∈ paddedLengths s.fd := by
  obtain ⟨padding,on⟩ := Option.isSome_iff_exists.mp on
  have width := configured.width
  unfold maxDataLength at fits
  rw [width] at fits
  unfold padded makeTxMsgWithAddr
  rw [on]
  dsimp only
  cases fd : s.fd with
  | false =>
    simp only [fd,maximumLength,Bool.false_eq_true,if_false,paddedLengths,List.mem_singleton] at fits ⊢
    split_ifs
    · simp only [List.length_append,List.length_replicate]
      omega
    · omega
  | true =>
    simp only [fd,maximumLength,if_true,paddedLengths,nextFDTargetLength,List.mem_cons,
      List.not_mem_nil,or_false] at fits ⊢
    split_ifs <;> first | (simp only [List.length_append,List.length_replicate]; omega) | omega

theorem makeTxMsg_legal (configured : s.Configured) {address : Address}
    (standard : address.txID ≤ 0x7FF) {data : Bytes} (fits : (data.length : Int) ≤ s.maxDataLength) :
    (s.makeTxMsgWithAddr address data).Legal s.fd s.config.paddingByte := by
  have bound : (s.padded data).length ≤ maximumLength s.fd := by
    have padded := padded_length configured fits
    unfold maxDataLength at padded
    rw [configured.width] at padded
    exact_mod_cast padded
  refine ⟨rfl,bound,?_,padded_lengths configured fits⟩
  intro brs
  have switched : (s.fd && brs) = true → s.fd = true := by
    intro on
    simp only [Bool.and_eq_true] at on
    exact on.1
  obtain ⟨frame,built,_,_,_,_,length,bytes⟩ := newFrame_standard standard bound switched
  refine ⟨frame,built,?_⟩
  intro on
  rw [Frame.payload,length]
  dsimp only
  rw [bytes,canLength_padded (padded_lengths configured fits on),Nat.sub_self,List.replicate_zero,
    List.append_nil]
  rfl

theorem Configured.standard (configured : s.Configured) :
    (s.txAddress.getD s.address).txID ≤ 0x7FF := by
  cases address : s.txAddress with
  | none => exact configured.address.1
  | some target => exact configured.txAddress target address

theorem makeTxMsg_standard (configured : s.Configured) {data : Bytes}
    (fits : (data.length : Int) ≤ s.maxDataLength) :
    (s.makeTxMsg data).Legal s.fd s.config.paddingByte :=
  makeTxMsg_legal configured configured.standard fits

theorem pciTypeOf_padded (s : Session) {pci : UInt8} {data rest : Bytes} (shape : data = pci :: rest) :
    pciTypeOf (s.padded data) = pci &&& 0xF0 := by
  obtain ⟨fill,padded⟩ := s.padded_fill data
  rw [padded,shape]
  rfl

theorem single_bytes {data bytes : Bytes} {maxDataLength : Int}
    (encoded : createSingleFramePayload data maxDataLength = .ok bytes) :
    (∃ pci rest, bytes = pci :: rest ∧ pci &&& 0xF0 = pciTypeSingleFrame) ∧
      (bytes.length : Int) ≤ maxDataLength := by
  have nibble : ∀ n : Fin 8, (pciTypeSingleFrame ||| UInt8.ofNat n.val) &&& 0xF0 = pciTypeSingleFrame := by
    decide
  simp only [createSingleFramePayload] at encoded
  generalize header : (if data.length = 0 ∧ 8 < maxDataLength then [pciTypeSingleFrame,0]
    else if data.length ≤ 7 then [pciTypeSingleFrame ||| UInt8.ofNat data.length]
    else [pciTypeSingleFrame,UInt8.ofNat data.length] : Bytes) = pci at encoded
  split at encoded
  · contradiction
  · cases Except.ok.inj encoded
    refine ⟨?_,by simp only [List.length_append]; omega⟩
    rw [← header]
    split_ifs with empty short
    · exact ⟨_,_,rfl,rfl⟩
    · exact ⟨_,_,rfl,nibble ⟨data.length,by omega⟩⟩
    · exact ⟨_,_,rfl,rfl⟩

end Session

theorem Move.Emits.of_frames {fd : Bool} {paddingByte : Option UInt8} {move : Move}
    {sent : List LinkFrame} (shape : frames move.outputs = sent)
    (legal : ∀ msg ∈ sent, msg.Legal fd paddingByte)
    (full : ∀ msg ∈ sent, msg.data.length = maximumLength fd ∨
      pciTypeOf msg.data ≠ pciTypeFirstFrame ∧
        (pciTypeOf msg.data = pciTypeConsecutiveFrame → move.after.txBuffer = [])) :
    move.Emits fd paddingByte where
  legal := shape ▸ legal
  first msg member kind := by
    rw [shape] at member
    exact (full msg member).resolve_right fun other => other.1 kind
  consecutive msg member kind more := by
    rw [shape] at member
    exact (full msg member).resolve_right fun other => more (other.2 kind)

section emits

variable {s t : Session} {event : Event} {outputs : List Output}

theorem emits_flow (sound : s.Sound) (shape : frames outputs = [] ∨ frames outputs = frames s.flow) :
    Move.Emits s.fd s.config.paddingByte ⟨s,event,outputs,t⟩ := by
  have none : frames outputs = [] → Move.Emits s.fd s.config.paddingByte ⟨s,event,outputs,t⟩ :=
    fun empty => .of_frames empty (by simp) (by simp)
  rcases shape with empty | granted
  · exact none empty
  · unfold Session.flow at granted
    split_ifs at granted
    · exact none granted
    · refine .of_frames granted ?_ ?_
      · intro msg member
        cases List.mem_singleton.mp member
        refine Session.makeTxMsg_legal sound.configured sound.configured.address.1 ?_
        have size (status blockSize stMin) :
            (createFlowControlPayload status blockSize stMin).length = 3 := rfl
        rw [size]
        rcases sound.configured.width_cases with width | width <;> omega
      · intro msg member
        cases List.mem_singleton.mp member
        have kind : pciTypeOf (s.makeFlowControlMsg FlowStatus.continueToSend).data = pciTypeFlowControl :=
          s.pciTypeOf_padded rfl
        rw [kind]
        exact .inr ⟨by decide,fun impossible => absurd impossible (by decide)⟩

theorem emits_consecutive (sound : s.Sound) {data : Bytes}
    (encoded : createConsecutiveFramePayload (s.txBuffer.take s.consecutiveFrameRoom)
      s.txSeqNum = .ok data) (shape : frames outputs = [s.makeTxMsg data])
    (ends : t.txBuffer = [] ∨ s.consecutiveFrameRoom < s.txBuffer.length) :
    Move.Emits s.fd s.config.paddingByte ⟨s,event,outputs,t⟩ := by
  have width := sound.configured.width
  have room : (s.consecutiveFrameRoom : Int) + 1 = s.maxDataLength := by
    unfold Session.consecutiveFrameRoom
    rcases sound.configured.width_cases with width | width <;> omega
  unfold createConsecutiveFramePayload at encoded
  split_ifs at encoded with range
  have bytes := (Except.ok.inj encoded).symm
  have size : data.length = (s.txBuffer.take s.consecutiveFrameRoom).length + 1 := by rw [bytes]; rfl
  rw [List.length_take] at size
  refine .of_frames shape ?_ ?_
  · intro msg member
    cases List.mem_singleton.mp member
    exact Session.makeTxMsg_standard sound.configured (by omega)
  · intro msg member
    cases List.mem_singleton.mp member
    rcases ends with done | more
    · have kind : pciTypeOf (s.makeTxMsg data).data =
          (pciTypeConsecutiveFrame ||| byteOf s.txSeqNum) &&& 0xF0 := s.pciTypeOf_padded bytes
      have nibble : ∀ n : Fin 16, (pciTypeConsecutiveFrame ||| UInt8.ofNat n.val) &&& 0xF0 ≠
          pciTypeFirstFrame := by
        decide
      refine .inr ⟨?_,fun _ => done⟩
      rw [kind,byteOf_small (by omega) (by omega)]
      exact nibble ⟨s.txSeqNum.toNat,by omega⟩
    · have full : (data.length : Int) = s.maxDataLength := by omega
      rw [Session.makeTxMsg_data,Session.padded_full sound.configured full]
      unfold Session.maxDataLength at full
      rw [width] at full
      exact .inl (by exact_mod_cast full)

end emits

theorem Session.Transition.emits {s t : Session} {event : Event} {outputs : List Output}
    (sound : s.Sound) (step : s.Transition event outputs t) :
    Move.Emits s.fd s.config.paddingByte ⟨s,event,outputs,t⟩ := by
  have width := sound.configured.width
  cases step with
  | unheard _ quiet | singleDropped _ _ quiet | firstRefused _ _ quiet | mismatched _ _ _ quiet
  | completedDropped _ _ _ _ quiet => exact emits_flow sound (.inl quiet.frames)
  | single _ _ quiet => exact emits_flow sound (.inl (by simp [quiet.frames]))
  | first _ _ _ quiet => exact emits_flow sound (.inr (by simp [quiet.frames]))
  | blockCompleted => exact emits_flow sound (.inr rfl)
  | @sentSingle payload channel data rests queue fits encoded =>
    obtain ⟨⟨pci,rest,bytes,kind⟩,size⟩ := Session.single_bytes encoded
    refine .of_frames rfl ?_ ?_
    · intro msg member
      cases List.mem_singleton.mp member
      exact Session.makeTxMsg_standard sound.configured size
    · intro msg member
      cases List.mem_singleton.mp member
      have single : pciTypeOf (s.makeTxMsg data).data = pciTypeSingleFrame :=
        (s.pciTypeOf_padded bytes).trans kind
      rw [single]
      exact .inr ⟨by decide,fun impossible => absurd impossible (by decide)⟩
  | @sentFirst payload channel data rests queue several encoded =>
    have full := Session.first_frame_full sound.configured several encoded
    refine .of_frames rfl ?_ ?_
    · intro msg member
      cases List.mem_singleton.mp member
      exact Session.makeTxMsg_standard sound.configured (Int.le_of_eq full)
    · intro msg member
      cases List.mem_singleton.mp member
      rw [Session.makeTxMsg_data,Session.padded_full sound.configured full]
      unfold Session.maxDataLength at full
      rw [width] at full
      exact .inl (by exact_mod_cast full)
  | sentLast _ encoded => exact emits_consecutive sound encoded rfl (.inl rfl)
  | sentBlock _ encoded more => exact emits_consecutive sound encoded rfl (.inr more)
  | sentNext _ encoded more => exact emits_consecutive sound encoded rfl (.inr more)
  | _ => exact emits_flow sound (.inl rfl)

theorem run_fd {s t : Session} {moves : List Move} (sound : s.Sound)
    (run : Run Move.Step s moves t) : t.fd = s.fd := by
  induction run with
  | nil => rfl
  | snoc before last ih =>
    exact ((last.progress (run_sound sound before)).setup.2).trans ih

theorem newSession_setup {address : Option Address} {cfg : Config} {fd : Bool} {s : Session}
    (created : newSession address cfg fd = .ok s) :
    s.fd = fd ∧ s.config.paddingByte = cfg.paddingByte := by
  unfold newSession at created
  cases normalized : normalizeConfig cfg with
  | error => simp [normalized] at created
  | ok config =>
    have padding : config.paddingByte = cfg.paddingByte := by
      unfold normalizeConfig at normalized
      dsimp only at normalized
      split at normalized
      · contradiction
      · rw [← Except.ok.inj normalized]
        split_ifs <;> rfl
    cases address with
    | none => simp [normalized] at created
    | some target =>
      cases valid : Address.validate (some target) with
      | error => simp [normalized,valid] at created
      | ok =>
        simp only [normalized,valid,Except.ok.injEq] at created
        subst created
        exact ⟨rfl,padding⟩

/-- Whatever a session sends, in whatever run, is legal on the wire. -/
theorem emitted_frames_legal {address : Option Address} {cfg : Config} {fd : Bool}
    {start t : Session} {moves : List Move} (created : newSession address cfg fd = .ok start)
    (run : Run Move.Step start moves t) :
    ∀ move ∈ moves, move.Emits fd cfg.paddingByte := by
  intro move member
  have sound := newSession_sound created
  obtain ⟨_,_,s,u,_,before,taken,_⟩ := run.cut_mem member
  have emits := (taken.transition (run_sound sound before)).emits (run_sound sound before)
  obtain ⟨mode,padding⟩ := newSession_setup created
  rw [run_fd sound before,run_setup sound before,mode,padding] at emits
  obtain ⟨rfl,rfl,_⟩ := taken
  exact emits

/-- A padded message of two Consecutive Frames, in a run with its Flow Control. -/
theorem emitted_frames_legal_padded :
    ∃ moves t, Run Move.Step (Session.fresh ⟨0x7E0,0x7E8⟩ { defaultConfig with paddingByte := some 0xCC } false)
        moves t ∧
      moves.flatMap (fun move => (frames move.outputs).map (·.data)) =
        [[0x10,15,0,1,2,3,4,5],[0x21,6,7,8,9,10,11,12],[0x22,13,14,0xCC,0xCC,0xCC,0xCC,0xCC]] ∧
      ∀ move ∈ moves, move.Emits false (some 0xCC) := by
  let cfg : Config := { defaultConfig with paddingByte := some 0xCC }
  have created : newSession (some ⟨0x7E0,0x7E8⟩) cfg false = .ok (.fresh ⟨0x7E0,0x7E8⟩ cfg false) := rfl
  have executed : ((Session.fresh ⟨0x7E0,0x7E8⟩ cfg false).execute
      [.send [0,1,2,3,4,5,6,7,8,9,10,11,12,13,14],.dequeue .queued,
        .frame ⟨0x7E8,[0x30,0,0],false⟩ .queued,.expireTxSTmin .queued,.expireTxSTmin .queued]).map
      (fun result => result.1.flatMap fun move => (frames move.outputs).map (·.data)) =
      some [[0x10,15,0,1,2,3,4,5],[0x21,6,7,8,9,10,11,12],[0x22,13,14,0xCC,0xCC,0xCC,0xCC,0xCC]] := by
    decide +kernel
  obtain ⟨⟨moves,t⟩,executed,emitted⟩ := Option.map_eq_some_iff.mp executed
  have run := Session.execute_run executed
  exact ⟨moves,t,run,emitted,emitted_frames_legal created run⟩

/-- The First Frame declares the payload's length, or the session reports why it sends none. -/
def Session.Declares (s : Session) (payload : Bytes) : Prop :=
  (∃ msg chunk, frames (s.initiateTx payload .queued).2 = [msg] ∧
    parseFrame msg.data = .ok (.firstFrame payload.length chunk)) ∨
  errors (s.initiateTx payload .queued).2 ≠ [] ∧ frames (s.initiateTx payload .queued).2 = [] ∧
    (s.initiateTx payload .queued).1.txState = .idle

/-- The session sends a First Frame exactly when `EncodeFirstFrame` takes its arguments. -/
def Session.Agrees (s : Session) (payload : Bytes) : Prop :=
  frames (s.initiateTx payload .queued).2 ≠ [] ↔
    ∃ bytes, encodeFirstFrame (payload.take (s.firstFrameRoom payload.length)) payload.length s.fd =
      .ok bytes

section declared

variable {s : Session} {payload : Bytes}

theorem encodeFirstFrame_iff (configured : s.Configured) (several : ¬ s.fitsSingleFrame payload) :
    (∃ bytes, encodeFirstFrame (payload.take (s.firstFrameRoom payload.length)) payload.length s.fd =
      .ok bytes) ↔ payload.length < 2^32 := by
  obtain ⟨positive,rest,data,encoded,_⟩ := Session.first_encodes configured several
  have width : s.maxDataLength = frameDataLength s.fd := by
    have width := configured.width
    unfold Session.maxDataLength
    cases fd : s.fd <;> simpa [fd,maximumLength,frameDataLength] using width
  constructor
  · rintro ⟨bytes,accepted⟩
    have limit := (encodeFirstFrame_ok accepted).2.1
    omega
  · intro limit
    refine ⟨data,?_⟩
    rw [encodeFirstFrame,if_neg (by omega),if_neg (by omega),
      if_neg (by simp only [List.length_take]; omega),← width]
    exact encoded

theorem declares_iff (configured : s.Configured) (several : ¬ s.fitsSingleFrame payload) :
    s.Declares payload ↔ payload.length < 2^32 := by
  obtain ⟨positive,rest,_⟩ := Session.first_encodes configured several
  rcases Session.initiateTx_cases configured payload .queued with
    ⟨impossible,_⟩ | ⟨_,fits,_⟩ | ⟨_,_,data,encoded,result⟩
  · contradiction
  · exact absurd fits several
  have full := Session.first_frame_full configured several encoded
  have bytes : (s.makeTxMsg data).data = data := Session.padded_full configured full
  unfold Session.Declares
  rw [result]
  simp only [frames_frame,errors_frame,ne_eq,not_true_eq_false,false_and,or_false,List.cons.injEq,
    and_true,exists_and_left,exists_eq_left',bytes]
  constructor
  · rintro ⟨chunk,parsed⟩
    have fits : (data.length : Int) ≤ frameDataLength true := by
      rcases configured.width_cases with width | width <;> simp only [frameDataLength,if_true] <;> omega
    have limit := (encodeFirstFrame_ok (parseFrame_canonical fits parsed).2).2.1
    omega
  · intro limit
    have parsed : parseFrame (data ++ []) = .ok (.firstFrame payload.length
        (payload.take (s.firstFrameRoom payload.length) ++ [])) :=
      parse_first (by omega) (by omega) (by simp only [List.length_append,List.length_take,List.length_nil]; omega)
        encoded
    rw [List.append_nil] at parsed
    exact ⟨_,parsed⟩

theorem agrees_iff (configured : s.Configured) (several : ¬ s.fitsSingleFrame payload) :
    s.Agrees payload ↔ payload.length < 2^32 := by
  rcases Session.initiateTx_cases configured payload .queued with
    ⟨impossible,_⟩ | ⟨_,fits,_⟩ | ⟨_,_,data,_,result⟩
  · contradiction
  · exact absurd fits several
  · rw [Session.Agrees,result,encodeFirstFrame_iff configured several]
    simp

end declared

/-- A session declares the length of a message of several frames, and agrees with
`EncodeFirstFrame`, exactly when the length fits its field. -/
theorem declared_length_iff {address : Option Address} {cfg : Config} {fd : Bool}
    {start t : Session} {moves : List Move} {payload : Bytes}
    (created : newSession address cfg fd = .ok start) (run : Run Move.Step start moves t)
    (several : ¬ t.fitsSingleFrame payload) :
    t.Declares payload ∧ t.Agrees payload ↔ payload.length < 2^32 := by
  have configured := (run_sound (newSession_sound created) run).configured
  rw [declares_iff configured several,agrees_iff configured several,and_self]

theorem declared_length_iff_twenty :
    (Session.fresh ⟨0x7E0,0x7E8⟩ defaultConfig false).Declares (List.replicate 20 7) ∧
      (Session.fresh ⟨0x7E0,0x7E8⟩ defaultConfig false).Agrees (List.replicate 20 7) := by
  have created : newSession (some ⟨0x7E0,0x7E8⟩) defaultConfig false =
      .ok (.fresh ⟨0x7E0,0x7E8⟩ defaultConfig false) := rfl
  exact (declared_length_iff created .nil (by unfold Session.fitsSingleFrame; decide)).mpr (by decide)

/-- The session sends a message of 2^32 bytes, whose length no First Frame can declare. -/
theorem declared_length_truncated :
    ¬ ∀ address cfg fd start moves t payload, newSession address cfg fd = .ok start →
      Run Move.Step start moves t → payload.length ≤ t.config.maxPayloadSize →
      ¬ t.fitsSingleFrame payload → t.Declares payload ∧ t.Agrees payload := by
  intro declared
  let cfg : Config := { defaultConfig with maxPayloadSize := 2^32 }
  obtain ⟨payload,length⟩ : ∃ payload : Bytes, payload.length = 2^32 :=
    ⟨List.replicate (2^32) 0,List.length_replicate⟩
  have created : newSession (some ⟨0x7E0,0x7E8⟩) cfg false = .ok (.fresh ⟨0x7E0,0x7E8⟩ cfg false) := rfl
  have width : (Session.fresh ⟨0x7E0,0x7E8⟩ cfg false).maxDataLength = 8 := rfl
  have several : ¬ (Session.fresh ⟨0x7E0,0x7E8⟩ cfg false).fitsSingleFrame payload := by
    rw [Session.fitsSingleFrame,width,length]
    split_ifs <;> omega
  have limit : (payload.length : Int) ≤ (Session.fresh ⟨0x7E0,0x7E8⟩ cfg false).config.maxPayloadSize := by
    have size : (Session.fresh ⟨0x7E0,0x7E8⟩ cfg false).config.maxPayloadSize = 2^32 := rfl
    rw [size,length]
    omega
  have configured := (newSession_sound created).configured
  have short := (declares_iff configured several).mp (declared _ _ _ _ _ _ _ created .nil limit several).1
  omega

/-- The receiver of a Single Frame reads the payload in what arrives. -/
def LinkFrame.Delivers (brs : Bool) (msg : LinkFrame) (payload : Bytes) : Prop :=
  ∃ heard, carry brs msg = some heard ∧ parseFrame heard.data = .ok (.singleFrame payload)

section single

variable {s : Session} {payload data : Bytes}

theorem single_delivers (configured : s.Configured) (brs : Bool) (nonempty : payload ≠ [])
    (encoded : createSingleFramePayload payload s.maxDataLength = .ok data) :
    (s.makeTxMsg data).Delivers brs payload := by
  obtain ⟨_,size⟩ := Session.single_bytes encoded
  obtain ⟨fill,arrives,_⟩ := @carry_tx s configured brs _ ⟨0,(s.txAddress.getD s.address).txID⟩
    configured.standard rfl data size
  refine ⟨_,arrives,parse_single nonempty ?_ encoded⟩
  rcases configured.width_cases with width | width <;> omega

theorem empty_delivers_fd (configured : s.Configured) (brs : Bool) (wide : s.fd = true)
    (encoded : createSingleFramePayload [] s.maxDataLength = .ok data) :
    (s.makeTxMsg data).Delivers brs [] := by
  have width : s.maxDataLength = 64 := by
    have width := configured.width
    simpa [wide,maximumLength,Session.maxDataLength] using width
  obtain ⟨_,size⟩ := Session.single_bytes encoded
  obtain ⟨fill,arrives,_⟩ := @carry_tx s configured brs _ ⟨0,(s.txAddress.getD s.address).txID⟩
    configured.standard rfl data size
  rw [width] at encoded
  cases (show Except.ok [0,0] = Except.ok data from encoded)
  exact ⟨_,arrives,by simp [parseFrame,parseSingleFrame]⟩

theorem empty_delivers_classic (configured : s.Configured) (brs : Bool) (classic : s.fd = false)
    (encoded : createSingleFramePayload [] s.maxDataLength = .ok data) :
    (s.makeTxMsg data).Delivers brs [] ↔
      s.config.paddingByte = none ∨ s.config.paddingByte = some 0 := by
  have width : s.maxDataLength = 8 := by
    have width := configured.width
    simpa [classic,maximumLength,Session.maxDataLength] using width
  rw [width] at encoded
  cases (show Except.ok [0] = Except.ok data from encoded)
  have legal : (s.makeTxMsg [0]).Legal s.fd s.config.paddingByte :=
    Session.makeTxMsg_standard configured (by rw [width]; decide)
  have standard : (s.makeTxMsg [0]).arbitrationID ≤ 0x7FF := configured.standard
  have mode : (s.makeTxMsg [0]).fd = false := classic
  obtain ⟨fill,arrives,extra⟩ := carry_some brs standard (by rw [mode,← classic]; exact legal.length)
  have short : (s.makeTxMsg [0]).data.length ≤ 8 := by
    have length := legal.length
    rwa [classic] at length
  have none : fill = [] := List.length_eq_zero_iff.mp (by rw [extra,canLength_classic short,Nat.sub_self])
  rw [none,List.append_nil] at arrives
  have heard : (s.makeTxMsg [0]).Delivers brs [] ↔ parseFrame (s.padded [0]) = .ok (.singleFrame []) := by
    constructor
    · rintro ⟨heard,carried,parsed⟩
      rw [arrives] at carried
      rw [← Option.some.inj carried] at parsed
      exact parsed
    · exact fun parsed => ⟨_,arrives,parsed⟩
  rw [heard,Session.padded,Session.makeTxMsgWithAddr]
  cases padding : s.config.paddingByte with
  | none => simp [parseFrame,parseSingleFrame]
  | some byte =>
    have shape : ([0] ++ List.replicate 7 byte : Bytes) = 0 :: byte :: List.replicate 6 byte := rfl
    have parsed (rest : Bytes) : parseFrame (0 :: byte :: rest) =
        if rest.length < byte.toNat then .error .escapedSingleIncomplete
        else .ok (.singleFrame (rest.take byte.toNat)) := by
      simp [parseFrame,parseSingleFrame]
    simp only [classic,Bool.false_eq_true,if_false,List.length_singleton]
    rw [if_pos (by decide),show ((8 : Int) - ((1 : Nat) : Int)).toNat = 7 from rfl,shape,parsed,
      List.length_replicate,List.take_replicate]
    simp only [reduceCtorEq,Option.some.injEq,false_or]
    constructor
    · intro empty
      split_ifs at empty with long
      have none := PDU.singleFrame.inj (Except.ok.inj empty)
      have zero : byte.toNat = 0 := by
        have size := congrArg List.length none
        simp only [List.length_replicate,List.length_nil] at size
        omega
      exact UInt8.toNat_inj.mp zero
    · rintro rfl
      rfl

end single

/-- A Single Frame delivers its payload, except that an empty one in a classic frame must not
be padded with anything but zeros. -/
theorem single_wire_round_trip {address : Option Address} {cfg : Config} {fd : Bool}
    {start t : Session} {moves : List Move} {payload : Bytes}
    (created : newSession address cfg fd = .ok start) (run : Run Move.Step start moves t)
    (fits : t.fitsSingleFrame payload) (brs : Bool) :
    ∃ msg, t.initiateTx payload .queued = (t.stopSending,[.frame msg]) ∧
      (msg.Delivers brs payload ↔
        payload ≠ [] ∨ fd = true ∨ cfg.paddingByte = none ∨ cfg.paddingByte = some 0) := by
  have sound := newSession_sound created
  have configured := (run_sound sound run).configured
  obtain ⟨mode,padding⟩ := newSession_setup created
  rw [← run_fd sound run] at mode
  rw [← run_setup sound run] at padding
  rw [← mode,← padding]
  rcases Session.initiateTx_cases configured payload .queued with
    ⟨impossible,_⟩ | ⟨_,_,data,encoded,result⟩ | ⟨_,several,_⟩
  · contradiction
  · refine ⟨_,result,?_⟩
    by_cases empty : payload = []
    · subst empty
      cases wide : t.fd with
      | false => simpa using empty_delivers_classic configured brs wide encoded
      | true => simpa using empty_delivers_fd configured brs wide encoded
    · simpa [empty] using single_delivers configured brs empty encoded
  · exact absurd fits several

/-- The empty payload in CAN FD mode, padded with a byte that is not zero. -/
theorem single_wire_round_trip_empty :
    ∃ msg, (Session.fresh ⟨0x7E0,0x7E8⟩ { defaultConfig with paddingByte := some 0xCC } true).initiateTx
        [] .queued = ((Session.fresh ⟨0x7E0,0x7E8⟩ { defaultConfig with paddingByte := some 0xCC }
          true).stopSending,[.frame msg]) ∧ msg.Delivers false [] := by
  let cfg : Config := { defaultConfig with paddingByte := some 0xCC }
  have created : newSession (some ⟨0x7E0,0x7E8⟩) cfg true = .ok (.fresh ⟨0x7E0,0x7E8⟩ cfg true) := rfl
  obtain ⟨msg,result,delivers⟩ := @single_wire_round_trip _ _ _ _ _ _ [] created .nil
    (by unfold Session.fitsSingleFrame; decide) false
  exact ⟨msg,result,delivers.mpr (.inr (.inl rfl))⟩

/-- Padded with that byte in a classic frame, it is rejected as an incomplete escape. -/
theorem single_wire_empty_lost :
    ¬ ∀ address cfg fd start moves t payload brs, newSession address cfg fd = .ok start →
      Run Move.Step start moves t → t.fitsSingleFrame payload →
      ∃ msg, t.initiateTx payload .queued = (t.stopSending,[.frame msg]) ∧ msg.Delivers brs payload := by
  intro delivered
  let cfg : Config := { defaultConfig with paddingByte := some 0xCC }
  have created : newSession (some ⟨0x7E0,0x7E8⟩) cfg false = .ok (.fresh ⟨0x7E0,0x7E8⟩ cfg false) := rfl
  have configured := (newSession_sound created).configured
  obtain ⟨msg,result,delivers⟩ := delivered _ _ _ _ _ _ [] false created .nil
    (by unfold Session.fitsSingleFrame; decide)
  have sent : (Session.fresh ⟨0x7E0,0x7E8⟩ cfg false).initiateTx [] .queued =
      ((Session.fresh ⟨0x7E0,0x7E8⟩ cfg false).stopSending,
        [.frame ((Session.fresh ⟨0x7E0,0x7E8⟩ cfg false).makeTxMsg [0])]) := rfl
  rw [sent] at result
  obtain rfl : (Session.fresh ⟨0x7E0,0x7E8⟩ cfg false).makeTxMsg [0] = msg := by simpa using result
  have padding := (empty_delivers_classic configured false rfl rfl).mp delivers
  exact absurd padding (by decide)

end Canbuskit.Isotp
