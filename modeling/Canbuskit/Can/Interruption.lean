import Canbuskit.Can.Delivery

/-! A `Send` whose context is done while it dispatches. The loop over the subscribers then returns
in front of one of them, and those before it, in whatever order the map has, got the frame as from
a whole `Send`. At the peer this fails the `Send`, and at the sender only echoes are lost. -/
namespace Canbuskit.Memory
open Can Channel

/-- Which of the two loops is left, with the subscribers it has come past. -/
inductive Interruption where
  | peer (reached : List Nat)
  | echo (reached : List Nat)
  deriving DecidableEq

namespace Endpoint

def dispatchPart (e : Endpoint) (room : Mailroom Frame) (reached : List Nat) (frame : Frame) :
    Option (Endpoint × Mailroom Frame) :=
  if !e.opened || e.closed then none
  else if reached.Nodup ∧ reached ⊆ e.subscribers ∧ reached.length < e.subscribers.length then
    let (room,missed) := room.broadcast reached frame
    some ({ e with dropped := e.dropped + missed },room)
  else none

theorem dispatchPart_some {e after : Endpoint} {room later : Mailroom Frame} {reached : List Nat}
    {frame : Frame} (parts : e.dispatchPart room reached frame = some (after,later)) :
    e.opened = true ∧ e.closed = false ∧ reached.Nodup ∧ reached ⊆ e.subscribers ∧
      after = { e with dropped := e.dropped + (room.broadcast reached frame).2 } ∧
      later = (room.broadcast reached frame).1 := by
  unfold dispatchPart at parts
  split_ifs at parts with shut within
  simp only [Bool.or_eq_true,Bool.not_eq_true',not_or,Bool.not_eq_false,Bool.not_eq_true] at shut
  obtain ⟨rfl,rfl⟩ := Prod.mk.inj (Option.some.inj parts)
  exact ⟨shut.1,shut.2,within.1,within.2.1,rfl,rfl⟩

end Endpoint

/-- `Send` up to where its context is found done. -/
def Link.interrupt (link : Link) (port : Port) (frame : Frame) : Interruption → Option Link
  | .peer reached => match (link.endpoint port).checkSend frame with
    | .error _ => none
    | .ok () =>
      ((link.endpoint port.peer).dispatchPart link.toMailroom reached
        { frame with direction := .receive }).map fun (peer,room) =>
          ({ link with toMailroom := room } : Link).set port.peer peer
  | .echo reached => match (link.endpoint port).checkSend frame with
    | .error _ => none
    | .ok () =>
      match (link.endpoint port.peer).dispatch link.toMailroom { frame with direction := .receive } with
      | (_,_,.error _) => none
      | (peer,room,.ok ()) =>
        let link := ({ link with toMailroom := room } : Link).set port.peer peer
        let e : Endpoint := link.endpoint port
        let e : Endpoint := { e with frames := e.frames + 1 }
        if e.cfg.includeTxEcho then
          (e.dispatchPart link.toMailroom reached { frame with direction := .transmit }).map
            fun (e,room) => ({ link with toMailroom := room } : Link).set port e
        else none

def heardAt (sender port : Port) (frame : Frame) : Frame :=
  { frame with direction := if port = sender.peer then .receive else .transmit }

variable {cfg : BusConfig} {link next : Link} {sender : Port} {frame : Frame}
  {interruption : Interruption} {past echoes : List Nat}

/-- What an interrupted `Send` does when its loops come past these subscribers. -/
structure Link.Interrupted (link : Link) (sender : Port) (frame : Frame) (next : Link)
    (past echoes : List Nat) : Prop where
  live : ∀ port, (link.endpoint port).closed = false
  peers : past ⊆ (link.endpoint sender.peer).subscribers
  own : echoes ⊆ (link.endpoint sender).subscribers
  distinct : past.Nodup ∨ past = (link.endpoint sender.peer).subscribers
  echoed : echoes.Nodup
  room : next.toMailroom = ((link.toMailroom.broadcast past (heardAt sender sender.peer frame)).1.broadcast
    echoes (heardAt sender sender frame)).1
  endpoint : ∀ port, ∃ frames missed, next.endpoint port = { link.endpoint port with
    frames := frames, dropped := (link.endpoint port).dropped + missed }

theorem heardAt_peer (sender : Port) (frame : Frame) :
    heardAt sender sender.peer frame = { frame with direction := .receive } := by
  rw [heardAt,if_pos rfl]

theorem heardAt_own (sender : Port) (frame : Frame) :
    heardAt sender sender frame = { frame with direction := .transmit } := by
  rw [heardAt,if_neg sender.ne_peer]

theorem interrupt_some (cut : link.interrupt sender frame interruption = some next) :
    ∃ past echoes, link.Interrupted sender frame next past echoes := by
  cases interruption with
  | peer reached =>
    simp only [Link.interrupt] at cut
    cases checked : (link.endpoint sender).checkSend frame with
    | error error =>
      rw [checked] at cut
      cases cut
    | ok =>
      rw [checked] at cut
      obtain ⟨⟨peer,room⟩,parts,rfl⟩ := Option.map_eq_some_iff.mp cut
      obtain ⟨_,live,distinct,within,rfl,rfl⟩ := Endpoint.dispatchPart_some parts
      refine ⟨reached,[],?_,within,by simp,.inl distinct,.nil,?_,?_⟩
      · intro port
        rcases sender.eq_or_peer port with rfl | rfl
        · exact (checkSend_opened checked).2
        · exact live
      · rw [heardAt_peer]
        rfl
      · intro port
        rcases sender.eq_or_peer port with rfl | rfl
        · exact ⟨_,0,Function.update_of_ne port.ne_peer _ _⟩
        · exact ⟨_,_,Function.update_self _ _ _⟩
  | echo reached =>
    simp only [Link.interrupt] at cut
    cases checked : (link.endpoint sender).checkSend frame with
    | error error =>
      rw [checked] at cut
      cases cut
    | ok =>
      rw [checked] at cut
      by_cases shut : !(link.endpoint sender.peer).opened || (link.endpoint sender.peer).closed
      · rw [Endpoint.dispatch,if_pos shut] at cut
        cases cut
      · obtain ⟨opened,live⟩ :
            (link.endpoint sender.peer).opened = true ∧ (link.endpoint sender.peer).closed = false := by
          simpa using shut
        have own (room : Mailroom Frame) (e : Endpoint) :
            (({ link with toMailroom := room } : Link).set sender.peer e).endpoint sender =
              link.endpoint sender := Function.update_of_ne sender.ne_peer _ _
        simp only [dispatch_opened opened live,own] at cut
        split_ifs at cut with echo
        obtain ⟨⟨e,room⟩,parts,rfl⟩ := Option.map_eq_some_iff.mp cut
        obtain ⟨_,_,distinct,within,rfl,rfl⟩ := Endpoint.dispatchPart_some parts
        refine ⟨_,reached,?_,List.Subset.refl _,within,.inr rfl,distinct,?_,?_⟩
        · intro port
          rcases sender.eq_or_peer port with rfl | rfl
          · exact (checkSend_opened checked).2
          · exact live
        · rw [heardAt_peer,heardAt_own]
          rfl
        · intro port
          rcases sender.eq_or_peer port with rfl | rfl
          · exact ⟨_,_,Function.update_self _ _ _⟩
          · exact ⟨_,_,(Function.update_of_ne sender.peer_ne _ _).trans (Function.update_self _ _ _)⟩

namespace Link.Interrupted

theorem later (cut : link.Interrupted sender frame next past echoes) (port : Port) :
    (link.endpoint port).Later (next.endpoint port) := by
  obtain ⟨frames,missed,after⟩ := cut.endpoint port
  rw [after]
  exact ⟨Nat.le_add_right _ _,id,fun used => ⟨rfl,used⟩⟩

theorem heap (cut : link.Interrupted sender frame next past echoes) : next.heap = link.heap := by
  rw [cut.room,Mailroom.broadcast_heap,Mailroom.broadcast_heap]

theorem subscribers (cut : link.Interrupted sender frame next past echoes) (port : Port) :
    (next.endpoint port).subscribers = (link.endpoint port).subscribers := by
  obtain ⟨frames,missed,after⟩ := cut.endpoint port
  rw [after]

theorem fair (cut : link.Interrupted sender frame next past echoes) (fair : link.Fair cfg) :
    next.Fair cfg where
  accounts port := by
    have same (port : Port) : (next.endpoint port).channels = (link.endpoint port).channels := by
      obtain ⟨frames,missed,after⟩ := cut.endpoint port
      rw [after]
      rfl
    rw [cut.heap,same,same]
    exact fair.accounts port
  echo port := by
    obtain ⟨frames,missed,after⟩ := cut.endpoint port
    rw [after]
    exact fair.echo port

theorem gains (cut : link.Interrupted sender frame next past echoes) (fair : link.Fair cfg)
    (port : Port) {channel : Nat} (apart : channel ∉ (link.endpoint port.peer).subscribers) :
    ∃ gained, (next.inbox channel).content = (link.inbox channel).content ++ gained ∧
      gained.Sublist [heardAt sender port frame] ∧
      (channel ∉ (link.endpoint port).subscribers → gained = []) := by
  have distinct : past.Nodup := by
    rcases cut.distinct with distinct | whole
    · exact distinct
    · exact whole ▸ fair.distinct sender.peer
  rw [cut.room]
  rcases sender.eq_or_peer port with rfl | rfl
  · have other : channel ∉ past := fun member => apart (cut.peers member)
    by_cases member : channel ∈ echoes
    · obtain ⟨gained,content,gains⟩ := (link.toMailroom.broadcast past
        (heardAt port port.peer frame)).1.broadcast_gains cut.echoed channel
      rw [Mailroom.broadcast_other _ other] at content
      exact ⟨gained,content,gains,fun absent => absurd (cut.own member) absent⟩
    · rw [Mailroom.broadcast_other _ member,Mailroom.broadcast_other _ other]
      exact ⟨[],(List.append_nil _).symm,List.nil_sublist _,fun _ => rfl⟩
  · rw [Port.peer_peer] at apart
    have other : channel ∉ echoes := fun member => apart (cut.own member)
    rw [Mailroom.broadcast_other _ other]
    by_cases member : channel ∈ past
    · obtain ⟨gained,content,gains⟩ := link.toMailroom.broadcast_gains distinct channel
      exact ⟨gained,content,gains,fun absent => absurd (cut.peers member) absent⟩
    · rw [Mailroom.broadcast_other _ member]
      exact ⟨[],(List.append_nil _).symm,List.nil_sublist _,fun _ => rfl⟩

end Link.Interrupted

end Canbuskit.Memory
