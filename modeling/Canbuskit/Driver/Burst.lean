import Canbuskit.Lib.Await
import Canbuskit.Driver.Decoders

/-! The read burst of the PCAN backend. It reads until a status ends it, and looks at nothing
else. A status is a mask, and the end of the queue is compared as a whole before the bits of a
disturbed bus are tested, so that an empty queue on a disturbed bus is read forever. -/
namespace Canbuskit.Driver
open Can Await

def pcanErrorOK : UInt32 := 0x00000
def pcanErrorQRCVEmpty : UInt32 := 0x00020
def pcanErrorBusLight : UInt32 := 0x00004
def pcanErrorBusHeavy : UInt32 := 0x00008
def pcanErrorIllData : UInt32 := 0x20000

def handleReadStatus (status : UInt32) : Bool :=
  if status = pcanErrorOK then true
  else if status = pcanErrorQRCVEmpty then false
  else if status &&& (pcanErrorBusLight ||| pcanErrorBusHeavy) ≠ 0 then true
  else if status = pcanErrorIllData then true
  else false

/-- What `CAN_Read` or, on an FD channel, `CAN_ReadFD` hands over. -/
inductive PcanRecord where
  | classic (msg : PcanMsg) (ts : PcanTimestamp)
  | fd (msg : PcanMsgFD) (ts : UInt64)

def PcanRecord.enqueue (cfg : BusConfig) : PcanRecord → Option Frame
  | .classic msg ts =>
    enqueueMessage cfg msg.id msg.len msg.data.toList msg.msgType (pcanClassicTimestampUS ts)
  | .fd msg ts => enqueueMessage cfg msg.id msg.dlc msg.data.toList msg.msgType ts

structure PcanRead where
  status : UInt32
  record : PcanRecord

/-- One pass through the loop of `readBurst`, after the frames published so far. -/
def readPass (cfg : BusConfig) (published : List Frame) (read : PcanRead) :
    Option (List Frame ⊕ List Frame) :=
  if !handleReadStatus read.status then some (.inr published)
  else if read.status ≠ pcanErrorOK then some (.inl published)
  else some (.inl (published ++ (read.record.enqueue cfg).toList))

/-- The reads of a queue: its records, and then nothing but reports that it is empty. -/
structure PcanQueue where
  queued : List PcanRead
  empty : Nat → PcanRead
  reports : ∀ n, (empty n).status &&& pcanErrorQRCVEmpty ≠ 0

def PcanQueue.read (queue : PcanQueue) (i : Nat) : PcanRead :=
  queue.queued[i]?.getD (queue.empty (i - queue.queued.length))

/-- `readBurst` has returned after some reads. -/
def PcanQueue.Returns (queue : PcanQueue) (cfg : BusConfig) (n : Nat) : Prop :=
  ∃ published, await (readPass cfg) [] ((List.range n).map queue.read) = some (.inr published)

/-- Statuses other than success and invalid data, without the bits of a disturbed bus. -/
def EndsBurst (status : UInt32) : Prop :=
  status ≠ pcanErrorOK ∧ status ≠ pcanErrorIllData ∧
    status &&& (pcanErrorBusLight ||| pcanErrorBusHeavy) = 0

theorem handleReadStatus_false {status : UInt32} :
    handleReadStatus status = false ↔ EndsBurst status := by
  have empty : EndsBurst pcanErrorQRCVEmpty := ⟨by decide,by decide,by decide⟩
  unfold handleReadStatus
  split_ifs with ok end' disturbed invalid
  · simp [EndsBurst,ok]
  · simpa [end'] using empty
  · simpa [EndsBurst] using fun _ _ => disturbed
  · simp [EndsBurst,invalid]
  · simpa [EndsBurst,ok,invalid] using disturbed

/-- The loop returns with the first status that ends it, whatever it has published. -/
theorem await_readPass {cfg : BusConfig} {published : List Frame} {reads : List PcanRead} :
    (∃ result, await (readPass cfg) published reads = some (.inr result)) ↔
      ∃ read ∈ reads, EndsBurst read.status := by
  induction reads generalizing published with
  | nil => simp [await]
  | cons read reads ih =>
    have ends : handleReadStatus read.status = false ↔ _ := handleReadStatus_false
    simp only [List.mem_cons,exists_eq_or_imp,await,readPass]
    cases handled : handleReadStatus read.status with
    | false => simp [ends.mp handled]
    | true =>
      have goes : ¬ EndsBurst read.status := fun end' => by simp [ends.mpr end'] at handled
      simp only [goes,false_or,Bool.not_true,Bool.false_eq_true,if_false]
      split_ifs
      · exact ih
      · exact ih

theorem PcanQueue.empty_ends (queue : PcanQueue) (n : Nat) : EndsBurst (queue.empty n).status ↔
    (queue.empty n).status &&& (pcanErrorBusLight ||| pcanErrorBusHeavy) = 0 := by
  have reports := queue.reports n
  have ok : (queue.empty n).status ≠ pcanErrorOK := by
    intro ok
    rw [ok] at reports
    exact reports (by decide)
  have invalid : (queue.empty n).status ≠ pcanErrorIllData := by
    intro invalid
    rw [invalid] at reports
    exact reports (by decide)
  simp [EndsBurst,ok,invalid]

/-- The burst ends exactly when a queued record is read with a status that ends it, or the
queue is once found empty without a disturbed bus. -/
theorem readBurst_returns_iff (queue : PcanQueue) (cfg : BusConfig) :
    (∃ n, queue.Returns cfg n) ↔ (∃ read ∈ queue.queued, EndsBurst read.status) ∨
      ∃ n, (queue.empty n).status &&& (pcanErrorBusLight ||| pcanErrorBusHeavy) = 0 := by
  simp only [PcanQueue.Returns,await_readPass,← PcanQueue.empty_ends]
  constructor
  · rintro ⟨n,read,member,ends⟩
    obtain ⟨i,_,rfl⟩ := List.mem_map.mp member
    rcases Nat.lt_or_ge i queue.queued.length with inside | past
    · refine .inl ⟨queue.queued[i],List.getElem_mem inside,?_⟩
      simpa [PcanQueue.read,inside] using ends
    · refine .inr ⟨i - queue.queued.length,?_⟩
      simpa [PcanQueue.read,past] using ends
  · rintro (⟨read,queued,ends⟩ | ⟨m,ends⟩)
    · obtain ⟨i,inside,rfl⟩ := List.mem_iff_getElem.mp queued
      refine ⟨i + 1,_,List.mem_map_of_mem (List.mem_range.mpr (Nat.lt_succ_self i)),?_⟩
      simpa [PcanQueue.read,inside] using ends
    · refine ⟨queue.queued.length + m + 1,_,
        List.mem_map_of_mem (List.mem_range.mpr (Nat.lt_succ_self _)),?_⟩
      simpa [PcanQueue.read] using ends

/-- A queue without records on a bus whose error counters have reached the light limit. -/
def disturbedQueue : PcanQueue where
  queued := []
  empty := fun _ => ⟨pcanErrorQRCVEmpty ||| pcanErrorBusLight,.fd ⟨0,0,0,Vector.replicate 64 0⟩ 0⟩
  reports := fun _ => by decide

theorem disturbedQueue_never_returns :
    ¬ ∃ n, disturbedQueue.Returns (.default Mode.fd 0) n := by
  rintro ⟨n,returns⟩
  obtain ⟨read,member,ends⟩ := await_readPass.mp returns
  obtain ⟨i,_,rfl⟩ := List.mem_map.mp member
  have stays : ¬ EndsBurst (pcanErrorQRCVEmpty ||| pcanErrorBusLight) := by
    rintro ⟨_,_,clear⟩
    exact absurd clear (by decide)
  exact stays ends

end Canbuskit.Driver
