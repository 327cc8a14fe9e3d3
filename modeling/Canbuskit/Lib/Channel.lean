import Mathlib.Algebra.Order.Ring.Int
import Mathlib.Data.List.Induction

/-! A buffered channel of fixed capacity, seen through the two operations that do not
wait: `offer` is a send that a `select` takes only when there is room, `poll` a receive
that it takes only when something is buffered. The bound is a field, so no state of a
system can hold an overfull channel. Where only the identity of channels and their being
closed matters, a channel is a number and a heap hands the numbers out. -/
namespace Canbuskit.Channel

variable {α : Type}

structure Chan (α : Type) where
  capacity : Nat
  buffer : List α
  bounded : buffer.length ≤ capacity

namespace Chan

def make (capacity : Nat) : Chan α := ⟨capacity,[],Nat.zero_le _⟩

def offer (channel : Chan α) (item : α) : Option (Chan α) :=
  if room : channel.buffer.length < channel.capacity then
    some ⟨channel.capacity,channel.buffer ++ [item],by
      simp only [List.length_append,List.length_singleton]
      omega⟩
  else none

def poll (channel : Chan α) : Option (α × Chan α) :=
  match shape : channel.buffer with
  | [] => none
  | item :: rest => some (item,⟨channel.capacity,rest,by
      have bounded := channel.bounded
      simp only [shape,List.length_cons] at bounded
      omega⟩)

@[simp] theorem make_buffer (capacity : Nat) : (make capacity : Chan α).buffer = [] := rfl

theorem offer_room {channel : Chan α} (item : α)
    (room : channel.buffer.length < channel.capacity) :
    ∃ next, channel.offer item = some next ∧ next.buffer = channel.buffer ++ [item] ∧
      next.capacity = channel.capacity := by
  simp [offer,room]

theorem offer_some {channel next : Chan α} {item : α} (taken : channel.offer item = some next) :
    next.buffer = channel.buffer ++ [item] ∧ next.capacity = channel.capacity := by
  unfold offer at taken
  split at taken
  · cases taken
    exact ⟨rfl,rfl⟩
  · contradiction

theorem poll_cons {channel : Chan α} {item : α} {rest : List α}
    (shape : channel.buffer = item :: rest) :
    ∃ next, channel.poll = some (item,next) ∧ next.buffer = rest ∧
      next.capacity = channel.capacity := by
  obtain ⟨capacity,buffer,bounded⟩ := channel
  subst shape
  exact ⟨⟨capacity,rest,_⟩,rfl,rfl,rfl⟩

theorem poll_some {channel next : Chan α} {item : α} (taken : channel.poll = some (item,next)) :
    channel.buffer = item :: next.buffer ∧ next.capacity = channel.capacity := by
  obtain ⟨capacity,buffer,bounded⟩ := channel
  cases buffer with
  | nil => simp [poll] at taken
  | cons head rest =>
    simp only [poll,Option.some.injEq,Prod.mk.injEq] at taken
    obtain ⟨rfl,rfl⟩ := taken
    exact ⟨rfl,rfl⟩

theorem poll_none {channel : Chan α} (empty : channel.poll = none) : channel.buffer = [] := by
  obtain ⟨capacity,buffer,bounded⟩ := channel
  cases buffer with
  | nil => rfl
  | cons => simp [poll] at empty

end Chan

/-- The channels made so far, by number, and those of them that are closed. -/
structure Heap where
  made : Nat
  closed : List Nat
  deriving DecidableEq

namespace Heap

def empty : Heap := ⟨0,[]⟩

def make (heap : Heap) : Nat × Heap := (heap.made,{ heap with made := heap.made + 1 })
def close (heap : Heap) (channel : Nat) : Heap := { heap with closed := channel :: heap.closed }

/-- Channels were made and none was closed. -/
structure Grows (heap next : Heap) : Prop where
  closed : next.closed = heap.closed
  made : heap.made ≤ next.made

theorem Grows.refl (heap : Heap) : heap.Grows heap := ⟨rfl,Nat.le_refl _⟩

theorem Grows.trans {heap middle next : Heap} (first : heap.Grows middle)
    (second : middle.Grows next) : heap.Grows next :=
  ⟨second.closed.trans first.closed,Nat.le_trans first.made second.made⟩

theorem grows_make (heap : Heap) : heap.Grows heap.make.2 := ⟨rfl,Nat.le_succ _⟩

/-- The channel was made between two heaps. -/
def Fresh (heap next : Heap) (channel : Nat) : Prop := heap.made ≤ channel ∧ channel < next.made

theorem Fresh.extend {heap middle next last : Heap} {channel : Nat} (fresh : middle.Fresh next channel)
    (before : heap.Grows middle) (after : next.Grows last) : heap.Fresh last channel :=
  ⟨Nat.le_trans before.made fresh.1,Nat.lt_of_lt_of_le fresh.2 after.made⟩

/-- Each channel made is either live or closed, and closed once: none is in both lists or
twice in one. -/
def Accounts (heap : Heap) (live : List Nat) : Prop :=
  (live ++ heap.closed).Perm (List.range heap.made)

section accounts

variable {heap : Heap} {live : List Nat}

theorem Accounts.distinct (accounts : heap.Accounts live) : (live ++ heap.closed).Nodup :=
  accounts.nodup_iff.mpr List.nodup_range

theorem Accounts.live_nodup (accounts : heap.Accounts live) : live.Nodup :=
  (List.nodup_append.mp accounts.distinct).1

theorem Accounts.closed_nodup (accounts : heap.Accounts live) : heap.closed.Nodup :=
  (List.nodup_append.mp accounts.distinct).2.1

theorem Accounts.open_of_live (accounts : heap.Accounts live) {channel : Nat}
    (member : channel ∈ live) : channel ∉ heap.closed :=
  fun closed => (List.nodup_append.mp accounts.distinct).2.2 channel member channel closed rfl

theorem Accounts.made_iff (accounts : heap.Accounts live) {channel : Nat} :
    channel < heap.made ↔ channel ∈ live ∨ channel ∈ heap.closed := by
  rw [← List.mem_range,← accounts.mem_iff,List.mem_append]

theorem Accounts.perm (accounts : heap.Accounts live) {other : List Nat} (same : live.Perm other) :
    heap.Accounts other :=
  (same.symm.append_right heap.closed).trans accounts

theorem Accounts.make (accounts : heap.Accounts live) : heap.make.2.Accounts (heap.made :: live) := by
  unfold Accounts Heap.make
  rw [List.range_succ]
  exact (accounts.cons heap.made).trans (List.perm_append_singleton _ _).symm

theorem Accounts.close {channel : Nat} (accounts : heap.Accounts (channel :: live)) :
    (heap.close channel).Accounts live :=
  List.perm_middle.trans accounts

theorem Accounts.closes (channels : List Nat) : ∀ {heap : Heap}, heap.Accounts (channels ++ live) →
    (channels.foldl Heap.close heap).Accounts live := by
  induction channels with
  | nil => exact fun accounts => accounts
  | cons first rest ih => exact fun accounts => ih accounts.close

end accounts

end Heap

/-- Of the steps of a run, two that read a channel read the same one, and it is closed after
none of the steps. -/
structure Stable {Step : Type} (reads : Step → Option Nat) (heap : Step → Heap) (steps : List Step) :
    Prop where
  same : ∀ past first middle second later, steps = past ++ first :: middle ++ second :: later →
    ∀ c d, reads first = some c → reads second = some d → c = d
  live : ∀ call ∈ steps, ∀ c, reads call = some c → ∀ step ∈ steps, c ∉ (heap step).closed

end Canbuskit.Channel
