import Canbuskit.Lib.Crc
import Canbuskit.Lib.Stuffing
import Canbuskit.Can.Frame

/-! The on-wire bits of a frame, counted in one pass that serialises the frame, computes the CRC
and stuffs, against the bit stream written out. A bit is a byte in the counters. -/
namespace Canbuskit.BusLoad
open Can Stuffing

/-- What both counters keep of the stream: the last bit and the length of its run. -/
structure RunState where
  run : Nat := 0
  prev : UInt8 := 0
  set : Bool := false
  deriving DecidableEq

/-- The run state after a bit, and whether a stuff bit follows it. -/
def RunState.count (s : RunState) (bit : UInt8) : RunState × Bool :=
  let bit := bit &&& 1
  let s := if s.set && bit == s.prev then { s with run := s.run + 1 }
    else { s with prev := bit, run := 1, set := true }
  if s.run = 5 then ({ s with prev := s.prev ^^^ 1, run := 1 },true) else (s,false)

structure CanBitCounter extends RunState where
  crc : UInt16 := 0
  total : Nat := 0
  deriving DecidableEq

structure CanFDStuffCounter extends RunState where
  nominal : Nat := 0
  data : Nat := 0
  deriving DecidableEq

def bitAt (value : UInt32) (i : Nat) : UInt8 := ((value >>> UInt32.ofNat i) &&& 1).toUInt8

namespace CanBitCounter

def count (c : CanBitCounter) (bit : UInt8) : CanBitCounter :=
  let counted := c.toRunState.count bit
  { c with toRunState := counted.1, total := c.total + 1 + counted.2.toNat }

def shiftCRC (crc : UInt16) (bit : UInt8) : UInt16 :=
  let msb := ((crc >>> 14) &&& 1).toUInt8
  let crc := (crc <<< 1) &&& 0x7fff
  if msb ^^^ bit = 1 then crc ^^^ 0x4599 else crc

def addCRC (value : UInt32) : Nat → CanBitCounter → CanBitCounter
  | 0, c => c
  | i + 1, c => addCRC value i
      ({ c with crc := shiftCRC c.crc (bitAt value i) }.count (bitAt value i))

def add (value : UInt32) : Nat → CanBitCounter → CanBitCounter
  | 0, c => c
  | i + 1, c => add value i (c.count (bitAt value i))

end CanBitCounter

namespace CanFDStuffCounter

def increment (c : CanFDStuffCounter) (dataPhase : Bool) : CanFDStuffCounter :=
  if dataPhase then { c with data := c.data + 1 } else { c with nominal := c.nominal + 1 }

def count (c : CanFDStuffCounter) (bit : UInt8) (dataPhase : Bool) : CanFDStuffCounter :=
  let counted := c.toRunState.count bit
  let c := { c.increment dataPhase with toRunState := counted.1 }
  if counted.2 then c.increment dataPhase else c

def add (value : UInt32) (dataPhase : Bool) : Nat → CanFDStuffCounter → CanFDStuffCounter
  | 0, c => c
  | i + 1, c => add value dataPhase i (c.count (bitAt value i) dataPhase)

end CanFDStuffCounter

def classicCANFrameBits (frame : Frame) : Nat :=
  let payload := if 8 < frame.dataLength then 8 else frame.dataLength
  let counter : CanBitCounter := {}
  let counter := counter.addCRC 0 1
  let counter := counter.addCRC frame.id 11
  let counter := counter.addCRC 0 1
  let counter := counter.addCRC 0 1
  let counter := counter.addCRC 0 1
  let counter := counter.addCRC (frame.dlc &&& 0xF).toUInt32 4
  let counter := (frame.data.toList.take payload).foldl
    (fun counter byte => counter.addCRC byte.toUInt32 8) counter
  let counter := counter.add counter.crc.toUInt32 15
  counter.total + 1 + 1 + 1 + 7 + 3

def canFDCrc17FieldBits : Nat := 4 + 17 + 6 + 1
def canFDCrc21FieldBits : Nat := 4 + 21 + 7 + 1
def canFDAckTrailerBits : Nat := 1 + 1 + 7 + 3

/-- The bits of the arbitration and of the data phase. -/
def canFDFrameBits (frame : Frame) : Nat × Nat :=
  let payload := if 64 < frame.dataLength then 64 else frame.dataLength
  let counter : CanFDStuffCounter := {}
  let counter := counter.add 0 false 1
  let counter := counter.add frame.id false 11
  let counter := counter.add 0 false 1
  let counter := counter.add 0 false 1
  let counter := counter.add 1 false 1
  let counter := counter.add 0 false 1
  let counter := if frame.brs then counter.add 1 false 1 else counter.add 0 false 1
  let dataPhase := frame.brs
  let counter := counter.add 0 dataPhase 1
  let counter := counter.add (frame.dlc &&& 0xF).toUInt32 dataPhase 4
  let counter := (frame.data.toList.take payload).foldl
    (fun counter byte => counter.add byte.toUInt32 dataPhase 8) counter
  let crcFieldBits := if 16 < payload then canFDCrc21FieldBits else canFDCrc17FieldBits
  let arbBits := if frame.brs then counter.nominal else counter.nominal + crcFieldBits
  let dataBits := if frame.brs then counter.data + crcFieldBits else counter.data
  (arbBits + canFDAckTrailerBits,dataBits)

/-- The low bits of a value, the highest first. -/
def bitsOf (value : Nat) : Nat → List Bool
  | 0 => []
  | n + 1 => value.testBit n :: bitsOf value n

def toByte (b : Bool) : UInt8 := if b then 1 else 0

theorem length_bitsOf (value n : Nat) : (bitsOf value n).length = n := by
  induction n with
  | zero => rfl
  | succ n ih => simp [bitsOf,ih]

theorem bitsOf_congr {v w n : Nat} (same : ∀ i < n, v.testBit i = w.testBit i) :
    bitsOf v n = bitsOf w n := by
  induction n with
  | zero => rfl
  | succ n ih => rw [bitsOf,bitsOf,same n (by omega),ih fun i less => same i (by omega)]

theorem bitsOf_xor (v w n : Nat) :
    bitsOf (v ^^^ w) n = List.zipWith xor (bitsOf v n) (bitsOf w n) := by
  induction n with
  | zero => rfl
  | succ n ih => simp [bitsOf,ih]

theorem bitsOf_double (v n : Nat) : bitsOf (v <<< 1) (n + 1) = bitsOf v n ++ [false] := by
  induction n with
  | zero => simp [bitsOf]
  | succ n ih => rw [bitsOf,ih,bitsOf]; simp

theorem bitAt_eq (value : UInt32) {i : Nat} (inside : i < 32) :
    bitAt value i = toByte (value.toNat.testBit i) := by
  have shift : (UInt32.ofNat i).toNat = i := by
    rw [UInt32.toNat_ofNat']
    omega
  apply UInt8.toNat_inj.mp
  simp only [bitAt,toByte,UInt32.toNat_toUInt8,UInt32.toNat_and,UInt32.toNat_shiftRight,shift,
    Nat.mod_eq_of_lt inside,UInt32.toNat_one,Nat.and_one_is_mod]
  rw [Nat.testBit_eq_decide_div_mod_eq,Nat.shiftRight_eq_div_pow]
  rcases Nat.mod_two_eq_zero_or_one (value.toNat / 2 ^ i) with even | odd
  · simp [even]
  · simp [odd]

def RunState.Follows (s : RunState) : Option (Bool × Nat) → Prop
  | none => s.set = false
  | some (last,run) => s.set = true ∧ s.prev = toByte last ∧ s.run = run

theorem RunState.count_follows {s : RunState} {tail : Option (Bool × Nat)} (follows : s.Follows tail)
    (b : Bool) : (s.count (toByte b)).1.Follows (some (advance tail b)) ∧
      (s.count (toByte b)).2 = decide (extend tail b = 5) := by
  have low : toByte b &&& 1 = toByte b := by cases b <;> rfl
  have flip : toByte b ^^^ 1 = toByte (!b) := by cases b <;> rfl
  -- The state before the stuff bit has the run that the bit extends or begins.
  have extended : (if s.set && toByte b == s.prev then { s with run := s.run + 1 }
      else { s with prev := toByte b, run := 1, set := true } : RunState) =
      ⟨extend tail b,toByte b,true⟩ := by
    rcases tail with _ | ⟨last,run⟩
    · have unset : s.set = false := follows
      simp [unset,extend]
    · obtain ⟨set,prev,rfl⟩ := follows
      rw [set,prev]
      cases last <;> cases b <;> simp [toByte,extend]
  simp only [RunState.count,low,extended]
  unfold advance
  by_cases full : extend tail b = 5
  · simp [full,Follows,flip]
  · simp [full,Follows]

namespace CanBitCounter

/-- A bit of the part that the CRC is computed over. -/
def countCRC (c : CanBitCounter) (b : Bool) : CanBitCounter :=
  { c with crc := shiftCRC c.crc (toByte b) }.count (toByte b)

theorem addCRC_eq (value : UInt32) {n : Nat} (inside : n ≤ 32) (c : CanBitCounter) :
    c.addCRC value n = (bitsOf value.toNat n).foldl countCRC c := by
  induction n generalizing c with
  | zero => rfl
  | succ n ih =>
    rw [addCRC,bitAt_eq value (by omega),ih (by omega)]
    rfl

theorem add_eq (value : UInt32) {n : Nat} (inside : n ≤ 32) (c : CanBitCounter) :
    c.add value n = (bitsOf value.toNat n).foldl (fun c b => c.count (toByte b)) c := by
  induction n generalizing c with
  | zero => rfl
  | succ n ih =>
    rw [add,bitAt_eq value (by omega),ih (by omega)]
    rfl

/-- The counter has counted an output. -/
def Counts (c : CanBitCounter) (output : List (Bool × Unit)) : Prop :=
  c.total = output.length ∧ ∃ tail, Ends output tail ∧ c.toRunState.Follows tail

theorem Counts.count {c : CanBitCounter} {output : List (Bool × Unit)} (counts : c.Counts output)
    (b : Bool) : (c.count (toByte b)).Counts (push output (b,())) := by
  obtain ⟨total,tail,ends,follows⟩ := counts
  obtain ⟨pushed,after⟩ := push_ends ends (b,())
  obtain ⟨state,stuffs⟩ := RunState.count_follows follows b
  refine ⟨?_,_,after,state⟩
  simp only [CanBitCounter.count,stuffs,pushed,total]
  by_cases full : extend tail b = 5 <;> simp [full]

theorem Counts.countCRC {c : CanBitCounter} {output : List (Bool × Unit)} (counts : c.Counts output)
    (b : Bool) : (c.countCRC b).Counts (push output (b,())) := by
  refine Counts.count ?_ b
  exact counts

/-- The polynomial of the CRC, without its leading term. -/
def crcTaps : List Bool := bitsOf 0x4599 15

theorem msb_eq (crc : UInt16) : ((crc >>> 14) &&& 1).toUInt8 = toByte (crc.toNat.testBit 14) := by
  apply UInt8.toNat_inj.mp
  have low : ((crc >>> 14) &&& 1).toNat = crc.toNat / 2 ^ 14 % 2 := by
    rw [UInt16.toNat_and,UInt16.toNat_shiftRight,UInt16.toNat_one,Nat.and_one_is_mod,
      ← Nat.shiftRight_eq_div_pow]
    rfl
  rw [UInt16.toNat_toUInt8,low,Nat.testBit_eq_decide_div_mod_eq,toByte]
  rcases Nat.mod_two_eq_zero_or_one (crc.toNat / 2 ^ 14) with even | odd
  · rw [even]
    rfl
  · rw [odd]
    rfl

theorem shifted_eq (crc : UInt16) :
    bitsOf ((crc <<< 1) &&& 0x7fff).toNat 15 = bitsOf crc.toNat 14 ++ [false] := by
  rw [← bitsOf_double]
  apply bitsOf_congr
  intro i inside
  have mask : (0x7fff : UInt16).toNat = 2 ^ 15 - 1 := by decide
  have left : (crc <<< 1).toNat = crc.toNat <<< 1 % 2 ^ 16 := UInt16.toNat_shiftLeft _ _
  rw [UInt16.toNat_and,mask,left,Nat.testBit_and,Nat.testBit_two_pow_sub_one,
    Nat.testBit_mod_two_pow]
  have small : i < 16 := by omega
  simp [inside,small]

theorem shiftCRC_eq (crc : UInt16) (b : Bool) :
    bitsOf (shiftCRC crc (toByte b)).toNat 15 = Crc.shift crcTaps (bitsOf crc.toNat 15) b := by
  have carry : toByte (crc.toNat.testBit 14) ^^^ toByte b = 1 ↔
      (crc.toNat.testBit 14 ^^ b) = true := by
    cases crc.toNat.testBit 14 <;> cases b <;> decide
  have taps : (0x4599 : UInt16).toNat = 0x4599 := rfl
  have top : bitsOf crc.toNat 15 = crc.toNat.testBit 14 :: bitsOf crc.toNat 14 := rfl
  simp only [shiftCRC,msb_eq,carry,top,Crc.shift]
  split
  · rw [UInt16.toNat_xor,bitsOf_xor,shifted_eq,taps,crcTaps]
  · exact shifted_eq crc

theorem foldl_countCRC_crc (bits : List Bool) (c : CanBitCounter) :
    bitsOf (bits.foldl CanBitCounter.countCRC c).crc.toNat 15 =
      bits.foldl (Crc.shift crcTaps) (bitsOf c.crc.toNat 15) := by
  induction bits generalizing c with
  | nil => rfl
  | cons b bits ih =>
    rw [List.foldl_cons,List.foldl_cons,ih,← shiftCRC_eq]
    rfl

/-- A counter that computes the CRC over some bits and then sends it has counted the stuffed
stream of both. -/
theorem counts_frame (bits : List Bool) :
    let c := bits.foldl CanBitCounter.countCRC {}
    (c.add c.crc.toUInt32 15).total =
      (stuff ((bits ++ Crc.register crcTaps bits).map (·,()))).length := by
  intro c
  have check : bitsOf c.crc.toUInt32.toNat 15 = Crc.register crcTaps bits :=
    foldl_countCRC_crc bits {}
  have start : Counts {} ([] : List (Bool × Unit)) := ⟨rfl,none,.nil,rfl⟩
  have body := foldl_follows start (fun _ _ bit counts => Counts.countCRC counts bit.1)
    (bits.map (·,()))
  have whole := foldl_follows body (fun _ _ bit counts => Counts.count counts bit.1)
    ((Crc.register crcTaps bits).map (·,()))
  rw [add_eq _ (by omega),check]
  rw [List.foldl_map,List.foldl_map,← List.foldl_append,← List.map_append] at whole
  exact whole.1

end CanBitCounter

namespace CanFDStuffCounter

/-- The counter has counted an output whose marks tell the data phase. -/
def Counts (c : CanFDStuffCounter) (output : List (Bool × Bool)) : Prop :=
  c.nominal = output.countP (fun bit => !bit.2) ∧ c.data = output.countP (fun bit => bit.2) ∧
    ∃ tail, Ends output tail ∧ c.toRunState.Follows tail

theorem Counts.count {c : CanFDStuffCounter} {output : List (Bool × Bool)} (counts : c.Counts output)
    (bit : Bool × Bool) : (c.count (toByte bit.1) bit.2).Counts (push output bit) := by
  obtain ⟨nominal,data,tail,ends,follows⟩ := counts
  obtain ⟨pushed,after⟩ := push_ends ends bit
  obtain ⟨state,stuffs⟩ := RunState.count_follows follows bit.1
  rw [pushed] at after ⊢
  rcases bit with ⟨b,phase⟩
  by_cases full : extend tail b = 5
  · simp only [CanFDStuffCounter.count,stuffs,full,decide_true,if_true] at after state ⊢
    cases phase with
    | false => exact ⟨by simp [increment,nominal],by simp [increment,data],_,after,state⟩
    | true => exact ⟨by simp [increment,nominal],by simp [increment,data],_,after,state⟩
  · simp only [CanFDStuffCounter.count,stuffs,full,decide_false,if_false] at after state ⊢
    cases phase with
    | false => exact ⟨by simp [increment,nominal],by simp [increment,data],_,after,state⟩
    | true => exact ⟨by simp [increment,nominal],by simp [increment,data],_,after,state⟩

def countBit (c : CanFDStuffCounter) (bit : Bool × Bool) : CanFDStuffCounter :=
  c.count (toByte bit.1) bit.2

theorem add_eq (value : UInt32) (phase : Bool) {n : Nat} (inside : n ≤ 32) (c : CanFDStuffCounter) :
    c.add value phase n = ((bitsOf value.toNat n).map (·,phase)).foldl countBit c := by
  induction n generalizing c with
  | zero => rfl
  | succ n ih =>
    rw [add,bitAt_eq value (by omega),ih (by omega)]
    rfl

end CanFDStuffCounter

/-- The data bytes that a frame sends in a format with a maximum. -/
def sentBytes (frame : Frame) (maximum : Nat) : Bytes :=
  frame.data.toList.take (min frame.dataLength maximum)

def byteBits (bytes : Bytes) : List Bool := bytes.flatMap fun byte => bitsOf byte.toNat 8

/-- SOF, identifier, RTR, IDE, r0, DLC and data of a classic frame. -/
def classicBits (frame : Frame) : List Bool :=
  [false] ++ bitsOf frame.id.toNat 11 ++ [false] ++ [false] ++ [false] ++
    bitsOf frame.dlc.toNat 4 ++ byteBits (sentBytes frame 8)

/-- SOF to the data field of an FD frame, each bit with whether it is in the data phase. -/
def fdBits (frame : Frame) : List (Bool × Bool) :=
  ([false] ++ bitsOf frame.id.toNat 11 ++ [false] ++ [false] ++ [true] ++ [false] ++
    [frame.brs]).map (·,false) ++
  ([false] ++ bitsOf frame.dlc.toNat 4 ++ byteBits (sentBytes frame 64)).map (·,frame.brs)

/-- The CRC field of an FD frame: the stuff count and the CRC, a fixed stuff bit before them and
after every four of their bits, and the delimiter. -/
def fdCRCFieldBits (payload : Nat) : Nat :=
  let sequence := 4 + if 16 < payload then 21 else 17
  sequence + (1 + sequence / 4) + 1

theorem bitsOf_dlc (dlc : UInt8) : bitsOf (dlc &&& 0xF).toUInt32.toNat 4 = bitsOf dlc.toNat 4 := by
  apply bitsOf_congr
  intro i inside
  have mask : (0xF : UInt8).toNat = 2 ^ 4 - 1 := by decide
  rw [UInt8.toNat_toUInt32,UInt8.toNat_and,mask,Nat.testBit_and,Nat.testBit_two_pow_sub_one]
  simp [inside]

theorem length_byteBits (sent : Bytes) : (byteBits sent).length = 8 * sent.length := by
  induction sent with
  | nil => rfl
  | cons byte sent ih =>
    simp only [byteBits,List.flatMap_cons,List.length_append,length_bitsOf,List.length_cons] at ih ⊢
    omega

theorem length_sentBytes (frame : Frame) {maximum : Nat} (fits : maximum ≤ 64) :
    (sentBytes frame maximum).length = min frame.dataLength maximum := by
  rw [sentBytes,List.length_take,Vector.length_toList]
  omega

theorem length_classicBits (frame : Frame) :
    (classicBits frame).length = 19 + 8 * min frame.dataLength 8 := by
  simp [classicBits,length_byteBits,length_bitsOf,length_sentBytes]
  omega

theorem length_fdBits (frame : Frame) :
    (fdBits frame).length = 22 + 8 * min frame.dataLength 64 := by
  simp [fdBits,length_byteBits,length_bitsOf,length_sentBytes]
  omega

theorem payload_eq (length maximum : Nat) :
    (if maximum < length then maximum else length) = min length maximum := by
  split_ifs <;> omega

theorem classicCANFrameBits_eq (frame : Frame) : classicCANFrameBits frame = 13 +
    (stuff ((classicBits frame ++
      Crc.register CanBitCounter.crcTaps (classicBits frame)).map (·,()))).length := by
  have bytes (sent : Bytes) (c : CanBitCounter) :
      sent.foldl (fun c byte => c.addCRC byte.toUInt32 8) c =
        (byteBits sent).foldl CanBitCounter.countCRC c := by
    simp only [byteBits,List.foldl_flatMap,CanBitCounter.addCRC_eq _ (by omega : 8 ≤ 32),
      UInt8.toNat_toUInt32]
  have zero (c : CanBitCounter) : c.addCRC 0 1 = [false].foldl CanBitCounter.countCRC c :=
    CanBitCounter.addCRC_eq 0 (by omega) c
  rw [← CanBitCounter.counts_frame]
  simp only [classicCANFrameBits,zero,bytes,payload_eq,bitsOf_dlc,
    CanBitCounter.addCRC_eq _ (by omega : 11 ≤ 32),CanBitCounter.addCRC_eq _ (by omega : 4 ≤ 32),
    ← List.foldl_append]
  rw [classicBits,sentBytes]
  omega

theorem classicCANFrameBits_bounds (frame : Frame) :
    47 + 8 * min frame.dataLength 8 ≤ classicCANFrameBits frame ∧
      classicCANFrameBits frame ≤ 55 + 10 * min frame.dataLength 8 := by
  have counted := classicCANFrameBits_eq frame
  have check : (Crc.register CanBitCounter.crcTaps (classicBits frame)).length = 15 :=
    (Crc.register_remainder _ _).1.trans (length_bitsOf _ _)
  obtain ⟨shortest,longest⟩ := length_stuff ((classicBits frame ++
    Crc.register CanBitCounter.crcTaps (classicBits frame)).map (·,()))
  simp only [List.length_map,List.length_append,length_classicBits,check] at shortest longest
  omega

/-- The counter over the region of an FD frame that is stuffed dynamically. -/
theorem fdCounter_counts (frame : Frame) :
    CanFDStuffCounter.Counts ((fdBits frame).foldl CanFDStuffCounter.countBit {})
      (stuff (fdBits frame)) := by
  have start : CanFDStuffCounter.Counts {} [] := ⟨rfl,rfl,none,.nil,rfl⟩
  exact foldl_follows start (fun _ _ bit counts => CanFDStuffCounter.Counts.count counts bit) _

theorem canFDFrameBits_eq (frame : Frame) : canFDFrameBits frame =
    ((stuff (fdBits frame)).countP (fun bit => !bit.2) +
      (if frame.brs then 0 else fdCRCFieldBits (sentBytes frame 64).length) + 12,
     (stuff (fdBits frame)).countP (fun bit => bit.2) +
      (if frame.brs then fdCRCFieldBits (sentBytes frame 64).length else 0)) := by
  have bytes (phase : Bool) (sent : Bytes) (c : CanFDStuffCounter) :
      sent.foldl (fun c byte => c.add byte.toUInt32 phase 8) c =
        ((byteBits sent).map (·,phase)).foldl CanFDStuffCounter.countBit c := by
    simp only [byteBits,List.foldl_map,List.foldl_flatMap,UInt8.toNat_toUInt32,
      CanFDStuffCounter.add_eq _ phase (by omega : 8 ≤ 32)]
  have zero (phase : Bool) (c : CanFDStuffCounter) :
      c.add 0 phase 1 = ([false].map (·,phase)).foldl CanFDStuffCounter.countBit c :=
    CanFDStuffCounter.add_eq 0 phase (by omega) c
  have one (c : CanFDStuffCounter) :
      c.add 1 false 1 = ([true].map (·,false)).foldl CanFDStuffCounter.countBit c :=
    CanFDStuffCounter.add_eq 1 false (by omega) c
  have switch (c : CanFDStuffCounter) : (if frame.brs then
      ([true].map (·,false)).foldl CanFDStuffCounter.countBit c
      else ([false].map (·,false)).foldl CanFDStuffCounter.countBit c) =
        ([frame.brs].map (·,false)).foldl CanFDStuffCounter.countBit c := by
    cases frame.brs <;> rfl
  have sent := length_sentBytes frame (Nat.le_refl 64)
  have field : (if 16 < min frame.dataLength 64 then canFDCrc21FieldBits else canFDCrc17FieldBits) =
      fdCRCFieldBits (min frame.dataLength 64) := by
    unfold fdCRCFieldBits
    split_ifs <;> rfl
  obtain ⟨nominal,data,_⟩ := fdCounter_counts frame
  rw [← nominal,← data,sent]
  simp only [canFDFrameBits,zero,one,switch,bytes,payload_eq,field,bitsOf_dlc,
    CanFDStuffCounter.add_eq _ _ (by omega : 11 ≤ 32),
    CanFDStuffCounter.add_eq _ _ (by omega : 4 ≤ 32)]
  rw [fdBits,sentBytes]
  simp only [← List.foldl_append,List.map_append,List.append_assoc]
  generalize List.foldl CanFDStuffCounter.countBit {} _ = c
  cases frame.brs <;> simp [canFDAckTrailerBits]

/-- The counters count the explicit bit stream of a frame: its header and data with the CRC
behind them, stuffed, and the fixed bits of the rest. -/
theorem frame_bits (frame : Frame) :
    (∃! check, Crc.IsCheck CanBitCounter.crcTaps (classicBits frame) check) ∧
    (∀ check, Crc.IsCheck CanBitCounter.crcTaps (classicBits frame) check →
      classicCANFrameBits frame = 13 + (stuff ((classicBits frame ++ check).map (·,()))).length) ∧
    47 + 8 * min frame.dataLength 8 ≤ classicCANFrameBits frame ∧
    classicCANFrameBits frame ≤ 55 + 10 * min frame.dataLength 8 ∧
    canFDFrameBits frame =
      ((stuff (fdBits frame)).countP (fun bit => !bit.2) +
        (if frame.brs then 0 else fdCRCFieldBits (sentBytes frame 64).length) + 12,
       (stuff (fdBits frame)).countP (fun bit => bit.2) +
        (if frame.brs then fdCRCFieldBits (sentBytes frame 64).length else 0)) := by
  have checks := Crc.isCheck_iff CanBitCounter.crcTaps (classicBits frame)
  obtain ⟨shortest,longest⟩ := classicCANFrameBits_bounds frame
  refine ⟨⟨_,(checks _).mpr rfl,fun other => (checks other).mp⟩,?_,shortest,longest,
    canFDFrameBits_eq frame⟩
  intro other isCheck
  rw [(checks other).mp isCheck]
  exact classicCANFrameBits_eq frame

end Canbuskit.BusLoad
