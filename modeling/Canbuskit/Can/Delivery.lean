import Canbuskit.Can.Broadcast

/-! What one subscription gets from the in-process link. While its port loses nothing it gets every
frame the port hears, and without a subscription it gets none. -/
namespace Canbuskit.Memory
open Can Channel Runs

/-- What no step takes back: the losses, a closed endpoint, and the configuration of one in use. -/
structure Endpoint.Later (e next : Endpoint) : Prop where
  dropped : e.dropped ≤ next.dropped
  closed : e.closed = true → next.closed = true
  settled : e.opened = true ∨ e.closed = true →
    next.cfg = e.cfg ∧ (next.opened = true ∨ next.closed = true)

namespace Endpoint

theorem Later.refl (e : Endpoint) : e.Later e := ⟨Nat.le_refl _,id,fun used => ⟨rfl,used⟩⟩

variable (e : Endpoint) (room : Mailroom Frame)

theorem openBus_later : e.Later e.openBus.1 := by
  unfold openBus
  split_ifs with shut opened
  · exact .refl e
  · exact .refl e
  · split
    · exact .refl e
    · refine ⟨Nat.le_refl _,fun closed => absurd closed shut,?_⟩
      exact fun used => used.elim (fun on => absurd on opened) fun closed => absurd closed shut

theorem closeBus_later : e.Later (e.closeBus room).1 := by
  unfold closeBus
  split_ifs
  · exact .refl e
  · exact ⟨Nat.le_refl _,fun _ => rfl,fun _ => ⟨rfl,.inr rfl⟩⟩

theorem subscribe_later (buffer : Int) : e.Later (e.subscribe buffer room).1 := by
  unfold subscribe
  dsimp only
  split_ifs
  · exact .refl e
  · exact ⟨Nat.le_refl _,id,fun used => ⟨rfl,used⟩⟩

theorem unsubscribe_later (channel : Nat) : e.Later (e.unsubscribe channel room).1 := by
  unfold unsubscribe
  split_ifs
  · exact ⟨Nat.le_refl _,id,fun used => ⟨rfl,used⟩⟩
  · exact .refl e

end Endpoint

variable {cfg : BusConfig} {link next : Link} {event : Event} {port : Port}

theorem set_later {own : Port} {e : Endpoint} (room : Mailroom Frame)
    (later : (link.endpoint own).Later e) (port : Port) :
    (link.endpoint port).Later ((({ link with toMailroom := room } : Link).set own e).endpoint port) := by
  rcases own.eq_or_peer port with rfl | rfl
  · rw [set_endpoint]
    exact later
  · rw [set_peer]
    exact .refl _

theorem call_later (link : Link) (own : Port) (call : Call) (port : Port) :
    (link.endpoint port).Later ((link.call own call).1.endpoint port) := by
  cases call with
  | openBus => exact set_later _ (Endpoint.openBus_later _) port
  | closeBus => exact set_later _ (Endpoint.closeBus_later _ _) port
  | subscribe buffer => exact set_later _ (Endpoint.subscribe_later _ _ buffer) port
  | unsubscribe channel => exact set_later _ (Endpoint.unsubscribe_later _ _ channel) port
  | errors => exact .refl _
  | send frame =>
    simp only [Link.call]
    rcases send_cases link own frame with ⟨error,failed⟩ | ⟨next,sent,_,peer,self⟩
    · rw [failed]
      exact .refl _
    · rw [sent]
      rcases own.eq_or_peer port with rfl | rfl
      · rw [self]
        exact ⟨Nat.le_add_right _ _,id,fun used => ⟨rfl,used⟩⟩
      · rw [peer]
        exact ⟨Nat.le_add_right _ _,id,fun used => ⟨rfl,used⟩⟩

theorem step_later (step : Event.Step link event next) (port : Port) :
    (link.endpoint port).Later (next.endpoint port) := by
  cases event with
  | called move =>
    obtain ⟨_,_,called⟩ := step
    have later := call_later link move.port move.call port
    rwa [called] at later
  | received | gaveUp =>
    obtain ⟨_,rfl⟩ := step
    exact .refl _

/-- A port that counts no loss in a step gives each of its subscriptions what it hears. -/
theorem subscribed_gains (fair : link.Fair cfg) (step : Event.Step link event next) {channel : Nat}
    (member : channel ∈ (link.endpoint port).subscribers)
    (kept : (next.endpoint port).dropped = (link.endpoint port).dropped) :
    (next.inbox channel).content = (link.inbox channel).content ++ event.heard cfg port := by
  have effect := step_effect fair step
  obtain ⟨gained,content,heard⟩ := effect.content port channel (fair.made member) (fair.apart member)
  have none := effect.dropped port
  rw [kept] at none
  cases event with
  | called move =>
    obtain ⟨rfl,rfl,_⟩ := step
    have missed : Event.missed cfg port (.called move) = 0 := by omega
    generalize hears : Event.heard cfg port (.called move) = frames at heard missed
    have short : frames.length ≤ 1 := by
      rw [← hears]
      unfold Event.heard
      split
      · split_ifs <;> simp
      · simp
    match frames,short with
    | [],_ => rw [content,List.sublist_nil.mp heard]
    | [frame],_ =>
      simp only [Event.missed,hears,List.map_cons,List.map_nil,List.sum_cons,List.sum_nil,Nat.add_zero,
        List.countP_eq_zero,decide_eq_true_eq,not_not] at missed
      exact missed channel member
  | received | gaveUp => rw [content,List.sublist_nil.mp heard]; rfl

/-- Without a subscription nothing arrives. -/
theorem unsubscribed_gains (step : Event.Step link event next) {channel : Nat}
    (made : channel < link.heap.made) (apart : ∀ port, channel ∉ (link.endpoint port).subscribers) :
    (next.inbox channel).content = (link.inbox channel).content := by
  cases event with
  | called move =>
    obtain ⟨_,_,called⟩ := step
    by_cases sends : ∃ frame, move.call = .send frame
    · obtain ⟨frame,sends⟩ := sends
      rw [sends] at called
      simp only [Link.call,Prod.mk.injEq] at called
      rcases send_cases link move.port frame with ⟨error,failed⟩ | ⟨after,sent,room,_,_⟩
      · rw [failed] at called
        rw [← called.1]
      · rw [sent] at called
        obtain rfl := called.1
        rw [room,echoed_other frame (apart _),received_other frame (apart _)]
    · obtain ⟨e,room,same,quiet⟩ := call_quiet link move.port fun frame same => sends ⟨frame,same⟩
      rw [called] at same
      dsimp only at same
      rw [same]
      exact quiet.content channel made
  | received reader =>
    obtain ⟨_,rfl⟩ := step
    exact link.toMailroom.receive_content reader channel
  | gaveUp reader =>
    obtain ⟨_,rfl⟩ := step
    exact link.toMailroom.giveUp_content reader channel

/-- A subscription is made at an endpoint in use. -/
theorem subscribed_opened {buffer : Int} {channel : Nat}
    (called : link.call port (.subscribe buffer) = (next,.subscribed channel (.ok ()))) :
    (link.endpoint port).opened = true ∧ (link.endpoint port).closed = false ∧
      next.endpoint port = { link.endpoint port with
        subscribers := channel :: (link.endpoint port).subscribers } := by
  simp only [Link.call,Prod.mk.injEq,Reply.subscribed.injEq] at called
  obtain ⟨rfl,rfl,accepted⟩ := called
  rw [set_endpoint]
  unfold Endpoint.subscribe at accepted ⊢
  dsimp only at accepted ⊢
  split_ifs at accepted ⊢ with shut
  simp only [Bool.or_eq_true,Bool.not_eq_true',not_or,Bool.not_eq_false,Bool.not_eq_true] at shut
  exact ⟨shut.1,shut.2,rfl⟩

/-- Nothing goes through a link with a closed endpoint. -/
theorem send_closed (closed : (link.endpoint port).closed = true) (sender : Port) (frame : Frame) :
    ∃ error, link.send sender frame = (link,.error error) := by
  unfold Link.send
  cases checked : (link.endpoint sender).checkSend frame with
  | error error => exact ⟨error,rfl⟩
  | ok =>
    obtain ⟨_,live⟩ := checkSend_opened checked
    rcases sender.eq_or_peer port with rfl | rfl
    · rw [closed] at live
      contradiction
    · exact ⟨.notOpen,by simp [Endpoint.dispatch,closed]⟩

/-- A valid frame of the bus's mode is refused only when an endpoint is not in use. -/
theorem send_refused {sender : Port} {frame : Frame} {error : MemoryError}
    (failed : link.send sender frame = (next,.error error)) (valid : frame.validate = .ok ())
    (mode : (link.endpoint sender).cfg.mode = Mode.classic → frame.fd = false) :
    ∃ port, (link.endpoint port).opened = false ∨ (link.endpoint port).closed = true := by
  by_contra! used
  obtain ⟨opened,live⟩ := used sender
  obtain ⟨peerOpened,peerLive⟩ := used sender.peer
  have accepted : (link.endpoint sender).checkSend frame = .ok () := by
    simp only [Endpoint.checkSend,valid]
    simp_all
  rcases send_cases link sender frame with ⟨error,refused⟩ | ⟨_,sent,_⟩
  · simp only [Link.send,accepted] at refused
    rw [dispatch_opened (by simpa using peerOpened) (by simpa using peerLive)] at refused
    dsimp only at refused
    split_ifs at refused <;> cases (Prod.mk.inj refused).2
  · rw [sent] at failed
    cases failed

/-- A valid frame of the bus's mode, sent to an endpoint with one subscription that has room. -/
theorem send_alone {sender : Port} {frame : Frame} {channel : Nat} {inbox : Inbox Frame}
    (used : ∀ port, (link.endpoint port).opened = true ∧ (link.endpoint port).closed = false)
    (valid : frame.validate = .ok ())
    (mode : (link.endpoint sender).cfg.mode = Mode.classic → frame.fd = false)
    (silent : (link.endpoint sender).cfg.includeTxEcho = false)
    (alone : (link.endpoint sender.peer).subscribers = [channel])
    (taken : (link.inbox channel).offer { frame with direction := .receive } = some inbox) :
    (link.send sender frame).1.toMailroom =
        { link.toMailroom with inbox := Function.update link.inbox channel inbox } ∧
      ∀ port, ∃ frames, (link.send sender frame).1.endpoint port =
        { link.endpoint port with frames := frames } := by
  have received : link.received sender frame =
      ({ link.toMailroom with inbox := Function.update link.inbox channel inbox },0) := by
    rw [Link.received,alone,Mailroom.broadcast_one _ taken]
  have echoed : link.echoed sender frame = link.received sender frame := by
    simp [Link.echoed,silent,received]
  rcases send_cases link sender frame with ⟨error,refused⟩ | ⟨next,sent,room,peer,self⟩
  · obtain ⟨port,unused⟩ := send_refused refused valid mode
    obtain ⟨opened,live⟩ := used port
    simp [opened,live] at unused
  · rw [sent]
    rw [echoed,received] at room self
    rw [received] at peer
    refine ⟨room,?_⟩
    intro port
    rcases sender.eq_or_peer port with rfl | rfl
    · exact ⟨_,self⟩
    · exact ⟨_,peer⟩

section mode

theorem ite_mode {condition : Prop} [Decidable condition] {changed cfg : BusConfig}
    (same : changed.mode = cfg.mode) : (if condition then changed else cfg).mode = cfg.mode := by
  split_ifs
  · exact same
  · rfl

theorem normalized_mode {cfg normal : BusConfig} (normalized : cfg.normalized = .ok normal) :
    normal.mode = cfg.mode := by
  unfold BusConfig.normalized at normalized
  iterate 6
    split at normalized
    · contradiction
  extract_lets nominal data buffer at normalized
  split at normalized
  · contradiction
  rename_i polling _
  split at normalized
  · contradiction
  rw [← Except.ok.inj normalized]
  calc polling.mode = buffer.mode := ite_mode rfl
    _ = data.mode := ite_mode rfl
    _ = nominal.mode := ite_mode rfl
    _ = cfg.mode := ite_mode rfl

theorem openBus_mode (e : Endpoint) : e.openBus.1.cfg.mode = e.cfg.mode := by
  unfold Endpoint.openBus
  split_ifs
  · rfl
  · rfl
  · split
    · rfl
    · rename_i normalized
      exact normalized_mode normalized

theorem closeBus_mode (e : Endpoint) (room : Mailroom Frame) :
    (e.closeBus room).1.cfg.mode = e.cfg.mode := by
  unfold Endpoint.closeBus
  split_ifs <;> rfl

theorem subscribe_mode (e : Endpoint) (buffer : Int) (room : Mailroom Frame) :
    (e.subscribe buffer room).1.cfg.mode = e.cfg.mode := by
  unfold Endpoint.subscribe
  dsimp only
  split_ifs <;> rfl

theorem unsubscribe_mode (e : Endpoint) (channel : Nat) (room : Mailroom Frame) :
    (e.unsubscribe channel room).1.cfg.mode = e.cfg.mode := by
  unfold Endpoint.unsubscribe
  split_ifs <;> rfl

/-- Nothing changes the mode of an endpoint. -/
theorem call_mode (link : Link) (own : Port) (call : Call) (port : Port) :
    ((link.call own call).1.endpoint port).cfg.mode = (link.endpoint port).cfg.mode := by
  have set (room : Mailroom Frame) {e : Endpoint} (same : e.cfg.mode = (link.endpoint own).cfg.mode) :
      ((({ link with toMailroom := room } : Link).set own e).endpoint port).cfg.mode =
        (link.endpoint port).cfg.mode := by
    rcases own.eq_or_peer port with rfl | rfl
    · rw [set_endpoint,same]
    · rw [set_peer]
  cases call with
  | openBus => exact set _ (openBus_mode _)
  | closeBus => exact set _ (closeBus_mode _ _)
  | subscribe buffer => exact set _ (subscribe_mode _ buffer _)
  | unsubscribe channel => exact set _ (unsubscribe_mode _ channel _)
  | errors => rfl
  | send frame =>
    simp only [Link.call]
    rcases send_cases link own frame with ⟨error,failed⟩ | ⟨next,sent,_,peer,self⟩
    · rw [failed]
    · rw [sent]
      rcases own.eq_or_peer port with rfl | rfl
      · rw [self]
      · rw [peer]

theorem run_mode {bus : BusConfig} {events : List Event} (run : Run Event.Step (newPair bus) events link)
    (port : Port) : (link.endpoint port).cfg.mode = bus.mode := by
  refine run.invariant (fun link => (link.endpoint port).cfg.mode = bus.mode) ?_ ?_
  · cases port <;> exact ite_mode rfl
  · intro link event next same step
    cases event with
    | called move =>
      obtain ⟨_,_,called⟩ := step
      have kept := call_mode link move.port move.call port
      rw [called] at kept
      exact kept.trans same
    | received | gaveUp =>
      obtain ⟨_,rfl⟩ := step
      exact same

end mode

/-- A new subscription has its channel to itself. -/
theorem subscribed_inbox {buffer : Int} {channel : Nat}
    (called : link.call port (.subscribe buffer) = (next,.subscribed channel (.ok ()))) :
    next.inbox channel = .make buffer.toNat ∧
      ∀ other, other < link.heap.made → next.inbox other = link.inbox other := by
  simp only [Link.call,Prod.mk.injEq,Reply.subscribed.injEq] at called
  obtain ⟨rfl,rfl,accepted⟩ := called
  unfold Endpoint.subscribe at accepted ⊢
  dsimp only at accepted ⊢
  split_ifs at accepted ⊢
  refine ⟨Function.update_self .., ?_⟩
  intro other made
  exact link.toMailroom.make_other _ made

end Canbuskit.Memory
