import Canbuskit.Isotp.Types

/-! How a link frame becomes a bus frame and back: the transmit goroutine's `can.NewFrame`,
with its zero fill up to the next DLC length, and `fromCANFrame` at the other end. -/
namespace Canbuskit.Isotp
open Can

def fromCANFrame (frame : Frame) : Option LinkFrame :=
  if frame.direction = .transmit ∨ 0x7FF < frame.id then none
  else match frame.validDataLength with
    | none => none
    | some length => some ⟨frame.id,frame.data.toList.take length,frame.fd⟩

/-- The frame the transmit goroutine builds; `brs` is the bus configuration's flag. -/
def toCANFrame (brs : Bool) (msg : LinkFrame) : Except FrameError Frame :=
  newFrame msg.arbitrationID msg.data ⟨msg.fd,msg.fd && brs,false⟩

def carry (brs : Bool) (msg : LinkFrame) : Option LinkFrame :=
  match toCANFrame brs msg with
  | .error _ => none
  | .ok frame => fromCANFrame { frame with direction := .receive }

/-- A standard frame of legal length arrives with nothing but zero fill after its bytes. -/
theorem carry_some (brs : Bool) {msg : LinkFrame} (standard : msg.arbitrationID ≤ 0x7FF)
    (fits : msg.data.length ≤ maximumLength msg.fd) :
    ∃ fill, carry brs msg = some ⟨msg.arbitrationID,msg.data ++ fill,msg.fd⟩ ∧
      fill.length = canLength msg.data.length - msg.data.length := by
  have switched : (msg.fd && brs) = true → msg.fd = true := by
    intro on
    simp only [Bool.and_eq_true] at on
    exact on.1
  obtain ⟨frame,built,id,fd,_,_,length,data⟩ := newFrame_standard standard fits switched
  refine ⟨List.replicate (canLength msg.data.length - msg.data.length) 0,?_,by simp⟩
  have received : ({ frame with direction := .receive } : Frame).validDataLength =
      some (canLength msg.data.length) := length
  have accepted : ¬ (({ frame with direction := .receive } : Frame).direction = .transmit ∨
      (0x7FF : UInt32) < frame.id) := by
    rw [id]
    exact fun refused => refused.elim (by simp) (UInt32.not_lt.mpr standard)
  simp only [carry,toCANFrame,built]
  rw [fromCANFrame,if_neg accepted,received]
  simp only [id,fd,data]

theorem carry_inv {brs : Bool} {msg heard : LinkFrame} (carried : carry brs msg = some heard) :
    ∃ fill, heard.data = msg.data ++ fill := by
  cases built : toCANFrame brs msg with
  | error => simp [carry,built] at carried
  | ok frame =>
    have valid : validateFrame ⟨.transmit,msg.arbitrationID,0,Vector.replicate 64 0,msg.fd,
        msg.fd && brs,false,0⟩ msg.data.length = .ok () := by
      unfold toCANFrame newFrame at built
      dsimp only at built
      split at built
      · contradiction
      · assumption
    have bounds : msg.arbitrationID ≤ 0x7FF ∧ msg.data.length ≤ maximumLength msg.fd := by
      unfold validateFrame at valid
      unfold maximumLength
      simp only [Bool.false_eq_true,if_false] at valid
      split_ifs at valid with excess negative switched wide long
      · exact ⟨UInt32.not_lt.mp excess,by rw [if_pos wide]; omega⟩
      · exact ⟨UInt32.not_lt.mp excess,by rw [if_neg wide]; omega⟩
    obtain ⟨fill,arrives,_⟩ := carry_some brs bounds.1 bounds.2
    rw [arrives] at carried
    exact ⟨fill,by rw [← Option.some.inj carried]⟩

end Canbuskit.Isotp
