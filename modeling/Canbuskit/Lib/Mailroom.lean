import Canbuskit.Lib.Channel
import Mathlib.Algebra.Order.Ring.Int

/-! Channels with their consumers. An inbox is a channel with the receives that wait on it and
what its consumers have got, so that a send is handed to a waiting receive, the only way through
a channel without a buffer. A mailroom keeps the inboxes by channel number, and its loop offers
one item to a list of channels and counts those that miss it. -/
namespace Canbuskit.Channel

variable {α : Type}

structure Inbox (α : Type) where
  chan : Chan α
  waiting : Nat
  received : List α
  idle : 0 < waiting → chan.buffer = []

namespace Inbox

def make (capacity : Nat) : Inbox α := ⟨.make capacity,0,[],fun _ => rfl⟩

/-- All that went through the channel so far: what its consumers got, and what it buffers. -/
def content (inbox : Inbox α) : List α := inbox.received ++ inbox.chan.buffer

def offer (inbox : Inbox α) (item : α) : Option (Inbox α) :=
  if ready : 0 < inbox.waiting then
    some ⟨inbox.chan,inbox.waiting - 1,inbox.received ++ [item],fun _ => inbox.idle ready⟩
  else match inbox.chan.offer item with
    | none => none
    | some chan => some ⟨chan,inbox.waiting,inbox.received,fun waits => absurd waits ready⟩

/-- A receive takes what is buffered, returns at once when the channel is closed, or waits. -/
def receive (inbox : Inbox α) (closed : Bool) : Inbox α :=
  match taken : inbox.chan.poll with
  | some (item,chan) => ⟨chan,inbox.waiting,inbox.received ++ [item],by
      intro waits
      have empty := (Chan.poll_some taken).1
      simp [inbox.idle waits] at empty⟩
  | none =>
    if closed then inbox
    else ⟨inbox.chan,inbox.waiting + 1,inbox.received,fun _ => Chan.poll_none taken⟩

def giveUp (inbox : Inbox α) : Inbox α :=
  ⟨inbox.chan,inbox.waiting - 1,inbox.received,fun waits => inbox.idle (by omega)⟩

/-- The waiting receives return without an item. -/
def close (inbox : Inbox α) : Inbox α :=
  ⟨inbox.chan,0,inbox.received,fun waits => absurd waits (Nat.lt_irrefl 0)⟩

@[simp] theorem make_content (capacity : Nat) : (make capacity : Inbox α).content = [] := rfl
@[simp] theorem giveUp_content (inbox : Inbox α) : inbox.giveUp.content = inbox.content := rfl
@[simp] theorem close_content (inbox : Inbox α) : inbox.close.content = inbox.content := rfl

theorem offer_content {inbox next : Inbox α} {item : α} (taken : inbox.offer item = some next) :
    next.content = inbox.content ++ [item] := by
  unfold offer at taken
  split at taken
  · rename_i ready
    cases taken
    simp [content,inbox.idle ready]
  · split at taken
    · contradiction
    · rename_i chan sent
      cases taken
      simp [content,(Chan.offer_some sent).1]

@[simp] theorem receive_content (inbox : Inbox α) (closed : Bool) :
    (inbox.receive closed).content = inbox.content := by
  unfold receive
  split
  · rename_i item chan taken
    simp [content,(Chan.poll_some taken).1]
  · split_ifs <;> rfl

/-- What is left to hand over: the buffered items, and the first receive to wait. -/
def load (inbox : Inbox α) : Nat := inbox.chan.buffer.length + if inbox.waiting = 0 then 1 else 0

theorem offer_room {inbox : Inbox α} (item : α)
    (room : inbox.chan.buffer.length < inbox.chan.capacity) : ∃ next, inbox.offer item = some next := by
  obtain ⟨chan,sent,_⟩ := Chan.offer_room item room
  unfold offer
  split_ifs with ready
  · exact ⟨_,rfl⟩
  · split
    · rename_i full
      rw [sent] at full
      contradiction
    · exact ⟨_,rfl⟩

theorem offer_grows {inbox next : Inbox α} {item : α} (taken : inbox.offer item = some next) :
    next.load ≤ inbox.load + 1 ∧ inbox.received.length ≤ next.received.length ∧
      next.chan.capacity = inbox.chan.capacity := by
  unfold offer at taken
  split at taken
  · cases taken
    refine ⟨?_,by simp,rfl⟩
    simp only [load]
    split_ifs <;> omega
  · split at taken
    · contradiction
    · rename_i chan sent
      obtain ⟨buffer,capacity⟩ := Chan.offer_some sent
      cases taken
      refine ⟨?_,Nat.le_refl _,capacity⟩
      simp only [load,buffer,List.length_append,List.length_singleton]
      omega

/-- The only consumer of an open channel takes an item, or begins to wait. -/
theorem receive_grows (inbox : Inbox α) (alone : inbox.waiting = 0) :
    (inbox.receive false).load < inbox.load ∧
      inbox.received.length ≤ (inbox.receive false).received.length ∧
        (inbox.receive false).chan.capacity = inbox.chan.capacity := by
  unfold receive
  split
  · rename_i item chan polled
    obtain ⟨buffer,capacity⟩ := Chan.poll_some polled
    refine ⟨?_,by simp,capacity⟩
    simp only [load,buffer,List.length_cons]
    omega
  · simp [load,alone]

end Inbox

structure Mailroom (α : Type) where
  heap : Heap
  inbox : Nat → Inbox α

namespace Mailroom

def empty : Mailroom α := ⟨.empty,fun _ => .make 0⟩

def make (room : Mailroom α) (capacity : Nat) : Nat × Mailroom α :=
  let (channel,heap) := room.heap.make
  (channel,⟨heap,Function.update room.inbox channel (.make capacity)⟩)

def close (room : Mailroom α) (channel : Nat) : Mailroom α :=
  ⟨room.heap.close channel,Function.update room.inbox channel (room.inbox channel).close⟩

def receive (room : Mailroom α) (channel : Nat) : Mailroom α :=
  let inbox := (room.inbox channel).receive (decide (channel ∈ room.heap.closed))
  { room with inbox := Function.update room.inbox channel inbox }

def giveUp (room : Mailroom α) (channel : Nat) : Mailroom α :=
  { room with inbox := Function.update room.inbox channel (room.inbox channel).giveUp }

def offer (item : α) (served : Mailroom α × Nat) (channel : Nat) : Mailroom α × Nat :=
  match (served.1.inbox channel).offer item with
  | some inbox =>
    ({ served.1 with inbox := Function.update served.1.inbox channel inbox },served.2)
  | none => (served.1,served.2 + 1)

def broadcast (room : Mailroom α) (channels : List Nat) (item : α) : Mailroom α × Nat :=
  channels.foldl (offer item) (room,0)

section content

variable (room : Mailroom α)

theorem content_update (inboxes : Nat → Inbox α) (changed : Nat) {inbox : Inbox α}
    (same : inbox.content = (inboxes changed).content) (channel : Nat) :
    (Function.update inboxes changed inbox channel).content = (inboxes channel).content := by
  by_cases which : channel = changed
  · subst which
    rw [Function.update_self,same]
  · rw [Function.update_of_ne which]

@[simp] theorem close_content (closed channel : Nat) :
    ((room.close closed).inbox channel).content = (room.inbox channel).content :=
  content_update room.inbox closed (Inbox.close_content _) channel

@[simp] theorem receive_content (reader channel : Nat) :
    ((room.receive reader).inbox channel).content = (room.inbox channel).content :=
  content_update room.inbox reader (Inbox.receive_content _ _) channel

@[simp] theorem giveUp_content (reader channel : Nat) :
    ((room.giveUp reader).inbox channel).content = (room.inbox channel).content :=
  content_update room.inbox reader (Inbox.giveUp_content _) channel

theorem make_content (capacity : Nat) : ((room.make capacity).2.inbox room.heap.made).content = [] := by
  simp [make,Heap.make]

theorem make_other (capacity : Nat) {channel : Nat} (made : channel < room.heap.made) :
    (room.make capacity).2.inbox channel = room.inbox channel :=
  Function.update_of_ne (Nat.ne_of_lt made) _ _

theorem closes_heap (closed : List Nat) : ∀ room : Mailroom α,
    (closed.foldl close room).heap = closed.foldl Heap.close room.heap := by
  induction closed with
  | nil => exact fun _ => rfl
  | cons first rest ih => exact fun room => ih (room.close first)

theorem closes_content (closed : List Nat) (channel : Nat) : ∀ room : Mailroom α,
    ((closed.foldl close room).inbox channel).content = (room.inbox channel).content := by
  induction closed with
  | nil => exact fun _ => rfl
  | cons first rest ih => exact fun room => (ih _).trans (close_content room first channel)

end content

section broadcast

variable {item : α}

theorem offer_heap (served : Mailroom α × Nat) (channel : Nat) :
    (offer item served channel).1.heap = served.1.heap := by
  unfold offer
  split <;> rfl

theorem offer_other (served : Mailroom α × Nat) {asked channel : Nat} (other : channel ≠ asked) :
    (offer item served asked).1.inbox channel = served.1.inbox channel := by
  unfold offer
  split
  · exact Function.update_of_ne other _ _
  · rfl

theorem offers_heap (channels : List Nat) : ∀ served : Mailroom α × Nat,
    (channels.foldl (offer item) served).1.heap = served.1.heap := by
  induction channels with
  | nil => exact fun _ => rfl
  | cons first rest ih => exact fun served => (ih _).trans (offer_heap served first)

theorem offers_other (channels : List Nat) {channel : Nat} (other : channel ∉ channels) :
    ∀ served : Mailroom α × Nat,
      (channels.foldl (offer item) served).1.inbox channel = served.1.inbox channel := by
  induction channels with
  | nil => exact fun _ => rfl
  | cons first rest ih =>
    obtain ⟨apart,later⟩ := not_or.mp (List.mem_cons.not.mp other)
    exact fun served => (ih later _).trans (offer_other served apart)

theorem offers_inbox {channels : List Nat} (distinct : channels.Nodup) {channel : Nat}
    (member : channel ∈ channels) : ∀ served : Mailroom α × Nat,
      (channels.foldl (offer item) served).1.inbox channel =
        ((served.1.inbox channel).offer item).getD (served.1.inbox channel) := by
  induction channels with
  | nil => cases member
  | cons first rest ih =>
    intro served
    obtain ⟨apart,distinct⟩ := List.nodup_cons.mp distinct
    rw [List.foldl_cons]
    rcases List.mem_cons.mp member with rfl | later
    · rw [offers_other rest apart]
      cases taken : (served.1.inbox channel).offer item <;> simp [offer,taken]
    · have other : channel ≠ first := fun same => apart (same ▸ later)
      rw [ih distinct later,offer_other served other]

theorem offers_missed {channels : List Nat} (distinct : channels.Nodup) :
    ∀ served : Mailroom α × Nat, (channels.foldl (offer item) served).2 =
      served.2 + channels.countP fun channel => ((served.1.inbox channel).offer item).isNone := by
  induction channels with
  | nil => exact fun _ => rfl
  | cons first rest ih =>
    intro served
    obtain ⟨apart,distinct⟩ := List.nodup_cons.mp distinct
    have unmoved : rest.countP (fun channel =>
          (((offer item served first).1.inbox channel).offer item).isNone) =
        rest.countP fun channel => ((served.1.inbox channel).offer item).isNone := by
      refine List.countP_congr fun channel later => ?_
      have other : channel ≠ first := fun same => apart (same ▸ later)
      rw [offer_other served other]
    rw [List.foldl_cons,ih distinct,unmoved,List.countP_cons]
    cases taken : (served.1.inbox first).offer item with
    | none =>
      simp only [offer,taken,Option.isNone_none,if_true]
      omega
    | some => simp [offer,taken]

variable (room : Mailroom α)

@[simp] theorem broadcast_heap (channels : List Nat) :
    (room.broadcast channels item).1.heap = room.heap :=
  offers_heap channels (room,0)

/-- A broadcast to one channel with room. -/
theorem broadcast_one {channel : Nat} {inbox : Inbox α}
    (taken : (room.inbox channel).offer item = some inbox) : room.broadcast [channel] item =
      ({ room with inbox := Function.update room.inbox channel inbox },0) := by
  simp [broadcast,offer,taken]

theorem broadcast_other {channels : List Nat} {channel : Nat} (other : channel ∉ channels) :
    (room.broadcast channels item).1.inbox channel = room.inbox channel :=
  offers_other channels other (room,0)

/-- A channel of the loop gets the item, or misses it and stays as it is. -/
theorem broadcast_content {channels : List Nat} (distinct : channels.Nodup) {channel : Nat}
    (member : channel ∈ channels) :
    ((room.broadcast channels item).1.inbox channel).content =
      (room.inbox channel).content ++ if ((room.inbox channel).offer item).isNone then [] else [item] := by
  rw [broadcast,offers_inbox distinct member]
  cases taken : (room.inbox channel).offer item with
  | none => simp
  | some next => simpa using Inbox.offer_content taken

theorem broadcast_gains {channels : List Nat} (distinct : channels.Nodup) (channel : Nat) :
    ∃ gained, ((room.broadcast channels item).1.inbox channel).content =
      (room.inbox channel).content ++ gained ∧ gained.Sublist [item] := by
  by_cases member : channel ∈ channels
  · refine ⟨_,room.broadcast_content distinct member,?_⟩
    split_ifs
    · exact List.nil_sublist _
    · exact .refl _
  · exact ⟨[],by rw [room.broadcast_other member,List.append_nil],List.nil_sublist _⟩

theorem broadcast_missed [DecidableEq α] {channels : List Nat} (distinct : channels.Nodup) :
    (room.broadcast channels item).2 = channels.countP fun channel =>
      ((room.broadcast channels item).1.inbox channel).content ≠ (room.inbox channel).content ++ [item] := by
  rw [broadcast,offers_missed distinct,Nat.zero_add]
  refine List.countP_congr fun channel member => ?_
  have after : ((room.broadcast channels item).1.inbox channel).content = _ :=
    room.broadcast_content distinct member
  rw [broadcast] at after
  rw [after]
  cases taken : (room.inbox channel).offer item <;> simp

end broadcast

end Mailroom

end Canbuskit.Channel
