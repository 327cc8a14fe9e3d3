import Canbuskit.Can.MemoryErrors

/-! The in-process link as a broadcast that accounts for its losses. The consumers of the
subscriptions are added to the calls of the endpoints; what a channel was given is compared with
the frames that its port heard since the subscription. -/
namespace Canbuskit.Memory
open Can Channel Runs

/-- A call of an endpoint, or a consumer that receives from a channel or stops waiting for it. -/
inductive Event where
  | called (move : Move)
  | received (channel : Nat)
  | gaveUp (channel : Nat)

def Event.Step (link : Link) (event : Event) (next : Link) : Prop :=
  match event with
  | .called move => Move.Step link move next
  | .received channel =>
    channel < link.heap.made ∧ next = { link with toMailroom := link.toMailroom.receive channel }
  | .gaveUp channel =>
    0 < (link.inbox channel).waiting ∧
      next = { link with toMailroom := link.toMailroom.giveUp channel }

/-- The frames that a successful `Send` brings to a port: those of its peer, and its own as echoes. -/
def Event.heard (cfg : BusConfig) (port : Port) : Event → List Frame
  | .called ⟨_,sender,.send frame,.sent (.ok ()),_⟩ =>
    if sender = port.peer then [{ frame with direction := .receive }]
    else if cfg.includeTxEcho then [{ frame with direction := .transmit }]
    else []
  | _ => []

/-- The channels that a call offers a frame to at a port. -/
def Event.sentOn (cfg : BusConfig) (port : Port) (event : Event) : List Nat :=
  match event with
  | .called move =>
    if event.heard cfg port = [] then [] else (move.before.endpoint port).subscribers
  | _ => []

/-- How many subscriptions of the port did not get a frame it heard, summed over the frames. -/
def Event.missed (cfg : BusConfig) (port : Port) (event : Event) : Nat :=
  match event with
  | .called move =>
    ((event.heard cfg port).map fun frame => (move.before.endpoint port).subscribers.countP fun channel =>
      (move.after.inbox channel).content ≠ (move.before.inbox channel).content ++ [frame]).sum
  | _ => 0

@[simp] theorem Port.peer_peer (port : Port) : port.peer.peer = port := by cases port <;> rfl
@[simp] theorem Port.peer_ne (port : Port) : port.peer ≠ port := by cases port <;> simp [Port.peer]
@[simp] theorem Port.ne_peer (port : Port) : port ≠ port.peer := port.peer_ne.symm

theorem Port.eq_or_peer (port other : Port) : other = port ∨ other = port.peer := by
  cases port <;> cases other <;> simp [Port.peer]

/-- The channels an endpoint has to close. -/
def Endpoint.channels (e : Endpoint) : List Nat :=
  if e.closed then e.subscribers else e.errors :: e.subscribers

theorem Endpoint.subscriber_channel {e : Endpoint} {channel : Nat} (member : channel ∈ e.subscribers) :
    channel ∈ e.channels := by
  unfold Endpoint.channels
  split_ifs
  · exact member
  · exact List.mem_cons_of_mem _ member

theorem Endpoint.subscribers_sublist (e : Endpoint) : e.subscribers.Sublist e.channels := by
  unfold Endpoint.channels
  split_ifs
  · exact .refl _
  · exact List.sublist_cons_self _ _

/-- What a call other than `Send` does: frames neither come nor get lost, and of the channels
only a new one starts to be sent to. -/
structure Endpoint.Quiet (e : Endpoint) (room : Mailroom Frame) (next : Endpoint)
    (after : Mailroom Frame) : Prop where
  dropped : next.dropped = e.dropped
  echo : next.cfg.includeTxEcho = e.cfg.includeTxEcho
  made : room.heap.made ≤ after.heap.made
  content : ∀ channel < room.heap.made, (after.inbox channel).content = (room.inbox channel).content
  subscribers : ∀ channel ∈ next.subscribers, channel ∈ e.subscribers ∨ room.heap.made ≤ channel
  accounts : ∀ others, room.heap.Accounts (e.channels ++ others) →
    after.heap.Accounts (next.channels ++ others)

theorem Endpoint.Quiet.refl (e : Endpoint) (room : Mailroom Frame) : e.Quiet room e room :=
  ⟨rfl,rfl,Nat.le_refl _,fun _ _ => rfl,fun _ member => .inl member,fun _ accounts => accounts⟩

section endpoint

variable (e : Endpoint) (room : Mailroom Frame)

theorem ite_echo {condition : Prop} [Decidable condition] {changed cfg : BusConfig}
    (same : changed.includeTxEcho = cfg.includeTxEcho) :
    (if condition then changed else cfg).includeTxEcho = cfg.includeTxEcho := by
  split_ifs
  · exact same
  · rfl

theorem normalized_echo {cfg normal : BusConfig} (normalized : cfg.normalized = .ok normal) :
    normal.includeTxEcho = cfg.includeTxEcho := by
  unfold BusConfig.normalized at normalized
  iterate 6
    split at normalized
    · contradiction
  extract_lets nominal data buffer at normalized
  split at normalized
  · contradiction
  rename_i polling _
  split at normalized
  · contradiction
  rw [← Except.ok.inj normalized]
  calc polling.includeTxEcho = buffer.includeTxEcho := ite_echo rfl
    _ = data.includeTxEcho := ite_echo rfl
    _ = nominal.includeTxEcho := ite_echo rfl
    _ = cfg.includeTxEcho := ite_echo rfl

theorem openBus_quiet : e.Quiet room e.openBus.1 room := by
  unfold Endpoint.openBus
  split_ifs
  · exact .refl e room
  · exact .refl e room
  · split
    · exact .refl e room
    · rename_i cfg normalized
      exact ⟨rfl,normalized_echo normalized,Nat.le_refl _,fun _ _ => rfl,fun _ member => .inl member,
        fun _ accounts => accounts⟩

theorem closeBus_quiet : e.Quiet room (e.closeBus room).1 (e.closeBus room).2 := by
  have made : (e.closeBus room).2.heap.made = room.heap.made := closeBus_made room
  unfold Endpoint.closeBus at made ⊢
  split_ifs at made ⊢ with already
  · exact .refl e room
  · refine ⟨rfl,rfl,made.ge,?_,by simp,?_⟩
    · exact fun channel _ => (room.closes_content _ channel ▸ Mailroom.close_content _ _ channel)
    · intro others accounts
      rw [Endpoint.channels,if_neg already] at accounts
      have moved : (e.subscribers ++ e.errors :: others).Perm (e.errors :: e.subscribers ++ others) :=
        List.perm_middle
      have closed := Heap.Accounts.closes e.subscribers (accounts.perm moved.symm)
      simpa [Endpoint.channels,Mailroom.close,Mailroom.closes_heap] using closed.close

theorem subscribe_quiet (buffer : Int) :
    e.Quiet room (e.subscribe buffer room).1 (e.subscribe buffer room).2.1 := by
  have other : ∀ channel < room.heap.made, ((room.make buffer.toNat).2.inbox channel).content =
      (room.inbox channel).content := fun channel made => by rw [room.make_other _ made]
  unfold Endpoint.subscribe
  dsimp only
  split_ifs with shut
  · refine ⟨rfl,rfl,Nat.le_succ _,?_,fun _ member => .inl member,fun _ accounts => accounts.make.close⟩
    exact fun channel made => (Mailroom.close_content _ _ channel).trans (other channel made)
  · refine ⟨rfl,rfl,Nat.le_succ _,other,?_,?_⟩
    · intro channel member
      rcases List.mem_cons.mp member with rfl | before
      · exact .inr (Nat.le_refl _)
      · exact .inl before
    · intro others accounts
      have live : e.closed = false := by
        simp only [Bool.or_eq_true,not_or,Bool.not_eq_true] at shut
        exact shut.2
      have made := accounts.make
      rw [Endpoint.channels,live] at made
      refine Heap.Accounts.perm made ?_
      simpa [Endpoint.channels,live,Mailroom.make,Heap.make] using
        List.Perm.swap e.errors room.heap.made (e.subscribers ++ others)

theorem unsubscribe_quiet (gone : Nat) :
    e.Quiet room (e.unsubscribe gone room).1 (e.unsubscribe gone room).2 := by
  unfold Endpoint.unsubscribe
  split_ifs with known
  · refine ⟨rfl,rfl,Nat.le_refl _,fun channel _ => room.close_content gone channel,?_,?_⟩
    · exact fun channel member => .inl (List.mem_of_mem_erase member)
    · intro others accounts
      refine Heap.Accounts.close (accounts.perm ?_)
      have out := (List.perm_cons_erase known).append_right others
      unfold Endpoint.channels
      dsimp only
      split_ifs
      · exact out
      · exact (out.cons e.errors).trans (List.Perm.swap _ _ _)
  · exact .refl e room

end endpoint

/-- Every channel of the link is accounted for, and its endpoints echo as configured. -/
structure Link.Fair (cfg : BusConfig) (link : Link) : Prop where
  accounts : ∀ port, link.heap.Accounts
    ((link.endpoint port).channels ++ (link.endpoint port.peer).channels)
  echo : ∀ port, (link.endpoint port).cfg.includeTxEcho = cfg.includeTxEcho

theorem newPair_fair (cfg : BusConfig) : (newPair cfg).Fair cfg where
  accounts port := by
    cases port with
    | a => exact (by decide : ([0,1] ++ [] : List Nat).Perm (List.range 2))
    | b => exact (by decide : ([1,0] ++ [] : List Nat).Perm (List.range 2))
  echo port := by cases port <;> exact ite_echo rfl

section link

variable {cfg : BusConfig} {link : Link}

theorem Link.Fair.live (fair : link.Fair cfg) {port : Port} {channel : Nat}
    (member : channel ∈ (link.endpoint port).subscribers) : channel ∉ link.heap.closed :=
  (fair.accounts port).open_of_live
    (List.mem_append_left _ (Endpoint.subscriber_channel member))

theorem Link.Fair.made (fair : link.Fair cfg) {port : Port} {channel : Nat}
    (member : channel ∈ (link.endpoint port).subscribers) : channel < link.heap.made :=
  (fair.accounts port).made_iff.mpr
    (.inl (List.mem_append_left _ (Endpoint.subscriber_channel member)))

theorem Link.Fair.distinct (fair : link.Fair cfg) (port : Port) :
    (link.endpoint port).subscribers.Nodup :=
  (List.nodup_append.mp (fair.accounts port).live_nodup).1.sublist (Endpoint.subscribers_sublist _)

theorem Link.Fair.apart (fair : link.Fair cfg) {port : Port} {channel : Nat}
    (member : channel ∈ (link.endpoint port).subscribers) :
    channel ∉ (link.endpoint port.peer).subscribers :=
  fun other => (List.nodup_append.mp (fair.accounts port).live_nodup).2.2 channel
    (Endpoint.subscriber_channel member) channel (Endpoint.subscriber_channel other) rfl

theorem set_endpoint (link : Link) (room : Mailroom Frame) (port : Port) (e : Endpoint) :
    (({ link with toMailroom := room } : Link).set port e).endpoint port = e :=
  Function.update_self _ _ _

theorem set_peer (link : Link) (room : Mailroom Frame) (port : Port) (e : Endpoint) :
    (({ link with toMailroom := room } : Link).set port e).endpoint port.peer =
      link.endpoint port.peer :=
  Function.update_of_ne port.peer_ne _ _

theorem set_fair (fair : link.Fair cfg) {port : Port} {e : Endpoint} {room : Mailroom Frame}
    (accounts : room.heap.Accounts (e.channels ++ (link.endpoint port.peer).channels))
    (echo : e.cfg.includeTxEcho = (link.endpoint port).cfg.includeTxEcho) :
    (({ link with toMailroom := room } : Link).set port e).Fair cfg where
  accounts other := by
    rcases port.eq_or_peer other with rfl | rfl
    · rw [set_endpoint,set_peer]
      exact accounts
    · rw [Port.peer_peer,set_endpoint,set_peer]
      exact accounts.perm List.perm_append_comm
  echo other := by
    rcases port.eq_or_peer other with rfl | rfl
    · rw [set_endpoint,echo]
      exact fair.echo other
    · rw [set_peer]
      exact fair.echo port.peer

theorem call_quiet (link : Link) (port : Port) {call : Call} (silent : ∀ frame, call ≠ .send frame) :
    ∃ e room, (link.call port call).1 = ({ link with toMailroom := room } : Link).set port e ∧
      (link.endpoint port).Quiet link.toMailroom e room := by
  cases call with
  | send frame => exact absurd rfl (silent frame)
  | openBus => exact ⟨_,_,rfl,openBus_quiet _ _⟩
  | closeBus => exact ⟨_,_,rfl,closeBus_quiet _ _⟩
  | subscribe buffer => exact ⟨_,_,rfl,subscribe_quiet _ _ buffer⟩
  | unsubscribe channel => exact ⟨_,_,rfl,unsubscribe_quiet _ _ channel⟩
  | errors =>
    refine ⟨_,link.toMailroom,?_,.refl _ _⟩
    simp [Link.call,Link.set]

/-- The deliveries of a successful `Send`: first the peer's, then, if configured, the echoes. -/
def Link.received (link : Link) (sender : Port) (frame : Frame) : Mailroom Frame × Nat :=
  link.toMailroom.broadcast (link.endpoint sender.peer).subscribers { frame with direction := .receive }

def Link.echoed (link : Link) (sender : Port) (frame : Frame) : Mailroom Frame × Nat :=
  if (link.endpoint sender).cfg.includeTxEcho then
    (link.received sender frame).1.broadcast (link.endpoint sender).subscribers
      { frame with direction := .transmit }
  else ((link.received sender frame).1,0)

theorem dispatch_opened {e : Endpoint} (opened : e.opened = true) (live : e.closed = false)
    (room : Mailroom Frame) (frame : Frame) : e.dispatch room frame =
      ({ e with dropped := e.dropped + (room.broadcast e.subscribers frame).2 },
        (room.broadcast e.subscribers frame).1,.ok ()) := by
  simp [Endpoint.dispatch,opened,live]

theorem checkSend_opened {e : Endpoint} {frame : Frame} (checked : e.checkSend frame = .ok ()) :
    e.opened = true ∧ e.closed = false := by
  unfold Endpoint.checkSend at checked
  split at checked
  · contradiction
  · split_ifs at checked with shut
    simpa using shut

/-- A `Send` fails and leaves the link as it is, or reaches both endpoints. -/
theorem send_cases (link : Link) (sender : Port) (frame : Frame) :
    (∃ error, link.send sender frame = (link,.error error)) ∨
      ∃ next, link.send sender frame = (next,.ok ()) ∧
        next.toMailroom = (link.echoed sender frame).1 ∧
        next.endpoint sender.peer = { link.endpoint sender.peer with
          dropped := (link.endpoint sender.peer).dropped + (link.received sender frame).2 } ∧
        next.endpoint sender = { link.endpoint sender with
          frames := (link.endpoint sender).frames + 1,
          dropped := (link.endpoint sender).dropped + (link.echoed sender frame).2 } := by
  unfold Link.send
  cases checked : (link.endpoint sender).checkSend frame with
  | error error => exact .inl ⟨error,rfl⟩
  | ok =>
    obtain ⟨opened,live⟩ := checkSend_opened checked
    dsimp only
    by_cases closed : !(link.endpoint sender.peer).opened || (link.endpoint sender.peer).closed
    · refine .inl ⟨.notOpen,?_⟩
      rw [Endpoint.dispatch,if_pos closed]
    · obtain ⟨peerOpened,peerLive⟩ :
          (link.endpoint sender.peer).opened = true ∧ (link.endpoint sender.peer).closed = false := by
        simpa using closed
      refine .inr ?_
      have own : ∀ (room : Mailroom Frame) (e : Endpoint),
          (({ link with toMailroom := room } : Link).set sender.peer e).endpoint sender =
            link.endpoint sender := fun room e => Function.update_of_ne sender.ne_peer _ _
      simp only [dispatch_opened peerOpened peerLive,own]
      by_cases echo : (link.endpoint sender).cfg.includeTxEcho = true
      · simp only [echo,if_true,dispatch_opened,opened,live]
        refine ⟨_,rfl,?_,?_,?_⟩
        · simp [Link.echoed,Link.received,Link.set,echo]
        · simp [Link.received,Link.set]
        · simp [Link.echoed,Link.received,Link.set,echo]
      · simp only [echo]
        refine ⟨_,rfl,?_,?_,?_⟩
        · simp [Link.echoed,Link.received,Link.set,echo]
        · simp [Link.received,Link.set]
        · simp [Link.echoed,Link.set,echo]

theorem received_heap (link : Link) (sender : Port) (frame : Frame) :
    (link.received sender frame).1.heap = link.heap :=
  link.toMailroom.broadcast_heap _

theorem echoed_heap (link : Link) (sender : Port) (frame : Frame) :
    (link.echoed sender frame).1.heap = link.heap := by
  unfold Link.echoed
  split_ifs
  · exact ((link.received sender frame).1.broadcast_heap _).trans (received_heap link sender frame)
  · exact received_heap link sender frame

theorem received_other {sender : Port} (frame : Frame) {channel : Nat}
    (other : channel ∉ (link.endpoint sender.peer).subscribers) :
    (link.received sender frame).1.inbox channel = link.inbox channel :=
  link.toMailroom.broadcast_other other

theorem echoed_other {sender : Port} (frame : Frame) {channel : Nat}
    (other : channel ∉ (link.endpoint sender).subscribers) :
    (link.echoed sender frame).1.inbox channel = (link.received sender frame).1.inbox channel := by
  unfold Link.echoed
  split_ifs
  · exact (link.received sender frame).1.broadcast_other other
  · rfl

end link

/-- What an event does to the channels and counters of the link, read off the event. -/
structure Event.Effect (cfg : BusConfig) (link : Link) (event : Event) (next : Link) : Prop where
  fair : next.Fair cfg
  made : link.heap.made ≤ next.heap.made
  subscribers : ∀ port, ∀ channel ∈ (next.endpoint port).subscribers,
    channel ∈ (link.endpoint port).subscribers ∨ link.heap.made ≤ channel
  dropped : ∀ port, (next.endpoint port).dropped = (link.endpoint port).dropped + event.missed cfg port
  content : ∀ port : Port, ∀ channel < link.heap.made,
    channel ∉ (link.endpoint port.peer).subscribers →
      ∃ gained, (next.inbox channel).content = (link.inbox channel).content ++ gained ∧
        gained.Sublist (event.heard cfg port)

section events

variable {cfg : BusConfig} {link next : Link}

theorem quiet_effect {event : Event} (fair : next.Fair cfg)
    (silent : ∀ port, event.heard cfg port = []) (made : link.heap.made ≤ next.heap.made)
    (subscribers : ∀ port, ∀ channel ∈ (next.endpoint port).subscribers,
      channel ∈ (link.endpoint port).subscribers ∨ link.heap.made ≤ channel)
    (dropped : ∀ port, (next.endpoint port).dropped = (link.endpoint port).dropped)
    (content : ∀ channel < link.heap.made,
      (next.inbox channel).content = (link.inbox channel).content) :
    event.Effect cfg link next where
  fair := fair
  made := made
  subscribers := subscribers
  dropped port := by
    have missed : event.missed cfg port = 0 := by
      unfold Event.missed
      split
      · rw [silent]
        rfl
      · rfl
    rw [dropped,missed,Nat.add_zero]
  content _ channel earlier _ := ⟨[],by rw [content channel earlier,List.append_nil],List.nil_sublist _⟩

theorem received_effect (fair : link.Fair cfg) {sender : Port} (frame : Frame) :
    (link.received sender frame).2 = (link.endpoint sender.peer).subscribers.countP fun channel =>
      ((link.echoed sender frame).1.inbox channel).content ≠
        (link.inbox channel).content ++ [{ frame with direction := .receive }] := by
  rw [Link.received,link.toMailroom.broadcast_missed (fair.distinct sender.peer)]
  refine List.countP_congr fun channel member => ?_
  have other : channel ∉ (link.endpoint sender).subscribers := by
    simpa using fair.apart member
  rw [echoed_other frame other]
  rfl

theorem echoed_effect (fair : link.Fair cfg) {sender : Port} (frame : Frame)
    (echo : (link.endpoint sender).cfg.includeTxEcho = true) :
    (link.echoed sender frame).2 = (link.endpoint sender).subscribers.countP fun channel =>
      ((link.echoed sender frame).1.inbox channel).content ≠
        (link.inbox channel).content ++ [{ frame with direction := .transmit }] := by
  rw [Link.echoed,if_pos echo,Mailroom.broadcast_missed _ (fair.distinct sender)]
  refine List.countP_congr fun channel member => ?_
  rw [received_other frame (fair.apart member)]

theorem sent_fair (fair : link.Fair cfg) {sender : Port} {frame : Frame}
    (room : next.toMailroom = (link.echoed sender frame).1)
    (peer : next.endpoint sender.peer = { link.endpoint sender.peer with
      dropped := (link.endpoint sender.peer).dropped + (link.received sender frame).2 })
    (own : next.endpoint sender = { link.endpoint sender with
      frames := (link.endpoint sender).frames + 1,
      dropped := (link.endpoint sender).dropped + (link.echoed sender frame).2 }) :
    next.Fair cfg where
  accounts port := by
    have heap : next.heap = link.heap := by rw [room,echoed_heap]
    have same : ∀ port, (next.endpoint port).channels = (link.endpoint port).channels := by
      intro port
      rcases sender.eq_or_peer port with rfl | rfl
      · rw [own]
        rfl
      · rw [peer]
        rfl
    rw [heap,same,same]
    exact fair.accounts port
  echo port := by
    rcases sender.eq_or_peer port with rfl | rfl
    · rw [own]
      exact fair.echo port
    · rw [peer]
      exact fair.echo sender.peer

theorem sent_effect (fair : link.Fair cfg) {sender : Port} {frame : Frame}
    (sent : link.send sender frame = (next,.ok ())) :
    (Event.called ⟨link,sender,.send frame,.sent (.ok ()),next⟩).Effect cfg link next := by
  obtain ⟨error,failed⟩ | ⟨_,succeeded,room,peer,own⟩ := send_cases link sender frame
  · rw [failed] at sent
    cases sent
  cases sent.symm.trans succeeded
  have echo := fair.echo sender
  have heap : next.heap = link.heap := by rw [room,echoed_heap]
  refine ⟨sent_fair fair room peer own,heap ▸ Nat.le_refl _,?_,?_,?_⟩
  · intro port channel member
    rcases sender.eq_or_peer port with rfl | rfl
    · exact .inl (by simpa [own] using member)
    · exact .inl (by simpa [peer] using member)
  · intro port
    rcases sender.eq_or_peer port with rfl | rfl
    · rw [own]
      by_cases on : cfg.includeTxEcho = true
      · simpa [Event.missed,Event.heard,on,room] using echoed_effect fair frame (echo.trans on)
      · simp [Event.missed,Event.heard,on,Link.echoed,echo]
    · rw [peer]
      simpa [Event.missed,Event.heard,room] using received_effect fair frame
  · intro port channel _ other
    rw [room]
    rcases sender.eq_or_peer port with rfl | rfl
    · rw [← received_other frame other]
      by_cases on : cfg.includeTxEcho = true
      · simpa [Event.heard,on,Link.echoed,echo] using
          (link.received port frame).1.broadcast_gains (fair.distinct port) channel
      · simp [Event.heard,on,Link.echoed,echo]
    · rw [Port.peer_peer] at other
      rw [echoed_other frame other]
      simpa [Event.heard,Link.received] using
        link.toMailroom.broadcast_gains (fair.distinct sender.peer) channel

theorem silent_effect (fair : link.Fair cfg) {move : Move} (step : Move.Step link move next)
    (silent : ∀ frame, move.call ≠ .send frame) : (Event.called move).Effect cfg link next := by
  obtain ⟨e,room,called,quiet⟩ := call_quiet link move.port silent
  rw [step.2.2] at called
  dsimp only at called
  subst called
  refine quiet_effect (set_fair fair (quiet.accounts _ (fair.accounts move.port)) quiet.echo)
    ?_ quiet.made ?_ ?_ quiet.content
  · intro port
    obtain ⟨before,sender,call,reply,after⟩ := move
    cases call with
    | send frame => exact absurd rfl (silent frame)
    | openBus | closeBus | subscribe | unsubscribe | errors => rfl
  · intro port channel member
    rcases move.port.eq_or_peer port with rfl | rfl
    · exact quiet.subscribers channel (by rwa [set_endpoint] at member)
    · exact .inl (by rwa [set_peer] at member)
  · intro port
    rcases move.port.eq_or_peer port with rfl | rfl
    · rw [set_endpoint,quiet.dropped]
    · rw [set_peer]

theorem failed_same {sender : Port} {frame : Frame} {error : MemoryError}
    (failed : link.send sender frame = (next,.error error)) : next = link := by
  obtain ⟨_,same⟩ | ⟨_,succeeded,-⟩ := send_cases link sender frame
  · cases failed.symm.trans same
    rfl
  · rw [succeeded] at failed
    cases failed

theorem unchanged_effect {event : Event} (fair : link.Fair cfg)
    (silent : ∀ port, event.heard cfg port = []) : event.Effect cfg link link :=
  quiet_effect fair silent (Nat.le_refl _) (fun _ _ member => .inl member) (fun _ => rfl) fun _ _ => rfl

/-- What one event does. -/
theorem step_effect (fair : link.Fair cfg) {event : Event} (step : Event.Step link event next) :
    event.Effect cfg link next := by
  cases event with
  | called move =>
    by_cases sends : ∃ frame, move.call = .send frame
    · obtain ⟨frame,sends⟩ := sends
      obtain ⟨before,sender,call,reply,after⟩ := move
      obtain ⟨rfl,rfl,called⟩ := step
      obtain rfl : call = .send frame := sends
      simp only [Link.call,Prod.mk.injEq] at called
      obtain ⟨delivered,rfl⟩ := called
      cases result : (before.send sender frame).2 with
      | error error =>
        obtain rfl : after = before := failed_same (Prod.ext delivered result)
        exact unchanged_effect fair fun _ => rfl
      | ok => exact sent_effect fair (Prod.ext delivered result)
    · exact silent_effect fair step fun frame same => sends ⟨frame,same⟩
  | received channel =>
    obtain ⟨-,rfl⟩ := step
    exact quiet_effect ⟨fair.accounts,fair.echo⟩ (fun _ => rfl) (Nat.le_refl _)
      (fun _ _ member => .inl member) (fun _ => rfl)
      fun other _ => link.toMailroom.receive_content channel other
  | gaveUp channel =>
    obtain ⟨-,rfl⟩ := step
    exact quiet_effect ⟨fair.accounts,fair.echo⟩ (fun _ => rfl) (Nat.le_refl _)
      (fun _ _ member => .inl member) (fun _ => rfl)
      fun other _ => link.toMailroom.giveUp_content channel other

theorem run_fair {events : List Event} (run : Run Event.Step link events next)
    (fair : link.Fair cfg) : next.Fair cfg :=
  run.invariant (Link.Fair cfg) fair fun _ _ _ fair step => (step_effect fair step).fair

theorem run_dropped {events : List Event} (run : Run Event.Step link events next)
    (fair : link.Fair cfg) (port : Port) : (next.endpoint port).dropped =
      (link.endpoint port).dropped + (events.map (Event.missed cfg port)).sum := by
  refine run.history (fun past s => (s.endpoint port).dropped =
    (link.endpoint port).dropped + (past.map (Event.missed cfg port)).sum) rfl ?_
  intro past s event t before counted step
  rw [(step_effect (run_fair before fair) step).dropped,counted]
  simp [Nat.add_assoc]

/-- A channel of one port gains, in their order, some of the frames that the port hears. -/
theorem run_content {events : List Event} (run : Run Event.Step link events next)
    (fair : link.Fair cfg) {port : Port} {channel : Nat} (made : channel < link.heap.made)
    (apart : channel ∉ (link.endpoint port.peer).subscribers) :
    ∃ gained, (next.inbox channel).content = (link.inbox channel).content ++ gained ∧
      gained.Sublist (events.flatMap (Event.heard cfg port)) := by
  have kept : (channel < next.heap.made ∧ channel ∉ (next.endpoint port.peer).subscribers) ∧
      ∃ gained, (next.inbox channel).content = (link.inbox channel).content ++ gained ∧
        gained.Sublist (events.flatMap (Event.heard cfg port)) := by
    refine run.history (fun past s =>
      (channel < s.heap.made ∧ channel ∉ (s.endpoint port.peer).subscribers) ∧
        ∃ gained, (s.inbox channel).content = (link.inbox channel).content ++ gained ∧
          gained.Sublist (past.flatMap (Event.heard cfg port)))
      ⟨⟨made,apart⟩,[],(List.append_nil _).symm,.refl _⟩ ?_
    rintro past s event t before ⟨⟨made,apart⟩,earlier,content,heard⟩ step
    have effect := step_effect (run_fair before fair) step
    obtain ⟨new,gains,hears⟩ := effect.content port channel made apart
    refine ⟨⟨Nat.lt_of_lt_of_le made effect.made,?_⟩,earlier ++ new,?_,?_⟩
    · intro member
      rcases effect.subscribers port.peer channel member with old | late
      · exact apart old
      · exact Nat.not_le_of_lt made late
    · rw [gains,content,List.append_assoc]
    · simpa using heard.append hears
  exact kept.2

theorem subscribed_empty {port : Port} {buffer : Int} {channel : Nat}
    {result : Except MemoryError Unit}
    (called : link.call port (.subscribe buffer) = (next,.subscribed channel result)) :
    channel = link.heap.made ∧ (next.inbox channel).content = [] ∧ channel < next.heap.made ∧
      next.endpoint port.peer = link.endpoint port.peer := by
  simp only [Link.call,Prod.mk.injEq,Reply.subscribed.injEq] at called
  obtain ⟨rfl,rfl,-⟩ := called
  rw [set_peer]
  unfold Endpoint.subscribe
  dsimp only
  split_ifs
  · refine ⟨rfl,?_,Nat.lt_succ_self _,rfl⟩
    exact (Mailroom.close_content _ _ _).trans (Mailroom.make_content _ _)
  · exact ⟨rfl,Mailroom.make_content _ _,Nat.lt_succ_self _,rfl⟩

theorem subscription_content {past later : List Event} {before after : Link} {port : Port}
    {buffer : Int} {channel : Nat} {result : Except MemoryError Unit}
    (run : Run Event.Step (newPair cfg) (past ++ .called
      ⟨before,port,.subscribe buffer,.subscribed channel result,after⟩ :: later) link) :
    ((link.inbox channel).received ++ (link.inbox channel).chan.buffer).Sublist
      (later.flatMap (Event.heard cfg port)) := by
  obtain ⟨s,t,earlier,step,rest⟩ := run.cut
  have fair := run_fair earlier (newPair_fair cfg)
  have subscribed := (step_effect fair step).fair
  obtain ⟨rfl,rfl,called⟩ := step
  obtain ⟨new,empty,made,peer⟩ := subscribed_empty called
  have apart : channel ∉ (after.endpoint port.peer).subscribers := by
    rw [peer,new]
    exact fun member => Nat.lt_irrefl _ (fair.made member)
  obtain ⟨gained,content,heard⟩ := run_content rest subscribed made apart
  rw [empty,List.nil_append,Inbox.content] at content
  rw [content]
  exact heard

/-- The link is a broadcast that accounts for its losses. -/
theorem broadcast_accounted {events : List Event} (run : Run Event.Step (newPair cfg) events link) :
    (∀ past before port buffer channel result after later,
      events = past ++ .called ⟨before,port,.subscribe buffer,.subscribed channel result,after⟩ :: later →
      ((link.inbox channel).received ++ (link.inbox channel).chan.buffer).Sublist
        (later.flatMap (Event.heard cfg port))) ∧
    (∀ port, (link.endpoint port).dropped = (events.map (Event.missed cfg port)).sum) ∧
    (∀ before port frame error after,
      .called ⟨before,port,.send frame,.sent (.error error),after⟩ ∈ events → after = before) ∧
    (∀ move, .called move ∈ events → ∀ port, ∀ channel ∈ (Event.called move).sentOn cfg port,
      channel ∉ move.before.heap.closed) ∧
    link.heap.closed.Nodup := by
  refine ⟨?_,?_,?_,?_,?_⟩
  · rintro past before port buffer channel result after later rfl
    exact subscription_content run
  · intro port
    have counted := run_dropped run (newPair_fair cfg) port
    rwa [show ((newPair cfg).endpoint port).dropped = 0 by cases port <;> rfl,Nat.zero_add] at counted
  · intro before port frame error after member
    obtain ⟨_,_,_,_,_,_,step,_⟩ := run.cut_mem member
    obtain ⟨rfl,rfl,called⟩ := step
    simp only [Link.call,Prod.mk.injEq,Reply.sent.injEq] at called
    exact failed_same (Prod.ext called.1 called.2)
  · intro move member port channel sent
    obtain ⟨_,_,_,_,_,earlier,step,_⟩ := run.cut_mem member
    obtain ⟨rfl,-,-⟩ := step
    unfold Event.sentOn at sent
    dsimp only at sent
    split_ifs at sent
    · cases sent
    · exact (run_fair earlier (newPair_fair cfg)).live sent
  · exact ((run_fair run (newPair_fair cfg)).accounts .a).closed_nodup

end events

inductive Turn where
  | call (port : Port) (call : Call)
  | receive (channel : Nat)
  | giveUp (channel : Nat)

def Link.react (link : Link) : Turn → Option (Event × Link)
  | .call port call =>
    let (next,reply) := link.call port call
    some (.called ⟨link,port,call,reply,next⟩,next)
  | .receive channel =>
    if channel < link.heap.made then
      some (.received channel,{ link with toMailroom := link.toMailroom.receive channel })
    else none
  | .giveUp channel =>
    if 0 < (link.inbox channel).waiting then
      some (.gaveUp channel,{ link with toMailroom := link.toMailroom.giveUp channel })
    else none

theorem react_step (link : Link) (turn : Turn) (event : Event) (next : Link)
    (taken : link.react turn = some (event,next)) : Event.Step link event next := by
  cases turn with
  | call =>
    cases taken
    exact ⟨rfl,rfl,rfl⟩
  | receive channel =>
    simp only [Link.react] at taken
    split_ifs at taken with made
    cases taken
    exact ⟨made,rfl⟩
  | giveUp channel =>
    simp only [Link.react] at taken
    split_ifs at taken with waits
    cases taken
    exact ⟨waits,rfl⟩

/-- One endpoint has a subscription without a buffer, whose consumer waits for one frame, and one
that buffers one frame; the sender sees its echoes. Of three frames the first reaches both. -/
theorem broadcast_accounted_losses :
    ∃ cfg events link, Run Event.Step (newPair cfg) events link ∧ cfg.includeTxEcho = true ∧
      (events.map (Event.missed cfg .b)).sum = 4 ∧
      [2,3,4].map (fun channel => (link.inbox channel).content.length) = [1,1,3] ∧
      link.heap.closed.length = 2 ∧ link.heap.closed.Nodup := by
  let cfg : BusConfig := { BusConfig.default Mode.fd 0 with includeTxEcho := true }
  let frame : Frame := ⟨.transmit,0x123,1,Vector.replicate 64 0,false,false,false,0⟩
  let turns : List Turn := [.call .a .openBus,.call .b .openBus,.call .b (.subscribe (-1)),
    .call .b (.subscribe 1),.call .a (.subscribe 4),.receive 2,.call .a (.send frame),
    .call .a (.send frame),.call .a (.send frame),.call .b (.unsubscribe 3),.call .b (.unsubscribe 3),
    .receive 3,.call .a (.unsubscribe 4)]
  have executed : (execute Link.react (newPair cfg) turns).map (fun result =>
      ((result.2.endpoint .b).dropped,
        [2,3,4].map (fun channel => (result.2.inbox channel).content.length),
        result.2.heap.closed.length)) = some (4,[1,1,3],2) := by
    decide +kernel
  obtain ⟨⟨events,link⟩,executed,observed⟩ := Option.map_eq_some_iff.mp executed
  simp only [Prod.mk.injEq] at observed
  obtain ⟨dropped,contents,closed⟩ := observed
  have run := execute_run react_step executed
  obtain ⟨_,counted,_,_,once⟩ := broadcast_accounted run
  exact ⟨cfg,events,link,run,rfl,(counted .b).symm.trans dropped,contents,closed,once⟩

end Canbuskit.Memory
