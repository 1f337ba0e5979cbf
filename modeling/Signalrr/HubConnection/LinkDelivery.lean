import Signalrr.Automata.ReplayChannel
import Signalrr.HubConnection.Link

set_option relaxedAutoImplicit false
set_option autoImplicit false

/-!
# Exactly-once delivery between two peers

Each direction of a `Link` carries a `Replay.Channel`: the sending end's buffer holds the packets
of the channel that are not acknowledged, the receiving end's counters are the positions of the
channel, and the frames on the two wires are its packets. Every action of the link is an operation
of the channel, so the invariant of the channel holds in every reachable state.

## Main definitions

* `Signalrr.HubConnection.Link.packet`, `Signalrr.HubConnection.Link.backOf` — what a frame means
  to the direction it travels in, and to the opposite one.
* `Signalrr.HubConnection.Link.SenderTracks`, `ReceiverTracks`, `Tracks` — an end, or the link,
  carries a given channel.

## Main results

* `Signalrr.HubConnection.Link.delivers_next` — every action of the link is an operation of the
  channel and keeps its invariant.
* `Signalrr.HubConnection.Link.accepted_isPrefix_sent` — the accepted messages are a first part of
  the messages passed to `send`, and the rest is still in the sender's buffer.
* `Signalrr.HubConnection.Link.sequence_not_ahead` — no `Sequence` is ahead of the count of the end
  that receives it.
-/

namespace Signalrr.HubConnection.Link

open Hub Numbering Replay

/-- What a frame is to the receiver of its direction. -/
def packet (f : Frame) : Packet HubMessage :=
  if isInvocationMessage f.message then .data f.message
  else match f.message.sequenceId? with
    | some k => .announce k
    | none => .other

/-- What a frame is to the sender of the opposite direction. -/
def backOf (f : Frame) : Option ℤ := f.message.ackId?

lemma packet_of_isInvocationMessage {f : Frame} (h : isInvocationMessage f.message = true) :
    packet f = .data f.message := by simp [packet, h]

lemma packet_of_other {f : Frame} (h : isInvocationMessage f.message = false)
    (hs : f.message.sequenceId? = none) : packet f = .other := by simp [packet, h, hs]

lemma packet_sequence (k : ℤ) (bytes : Bytes) :
    packet ⟨.sequence ⟨k⟩, bytes⟩ = .announce k := rfl

/-! ## The two ends -/

/-- The buffer of an end holds the unacknowledged packets of the channel. -/
structure SenderTracks (x : Peer) (c : Channel HubMessage) : Prop where
  sent : c.sent = x.sent
  inv : ∀ m ∈ x.sent, isInvocationMessage m = true
  numbered : Numbered Prod.fst (c.base : ℤ) x.buffer.keys
  kept : (x.buffer.keys.map fun key => key.2.message) = x.sent.drop c.base
  total : x.buffer.totalMessageCount = x.sent.length
  held : c.held = x.buffer.reconnectInProgress
  resumed : c.resumed = x.resumed

/-- The counters of an end are the positions of the channel; `t` is the current transport. -/
structure ReceiverTracks (x : Peer) (t : ℕ) (c : Channel HubMessage) : Prop where
  next : x.buffer.nextReceivingSequenceId = c.pos + 1
  latest : x.buffer.latestReceivedSequenceId = c.seen
  waiting : c.waiting = x.buffer.waitForSequenceMessage
  accepted : x.accepted = c.sent.take c.seen
  armed : c.armed = true ↔ x.timer = some t
  timer_le : ∀ u, x.timer = some u → u ≤ t

/-- The link carries the channel in the direction from `s` to the other end. -/
structure Tracks (ℓ : Link) (s : Side) (c : Channel HubMessage) : Prop where
  up : c.up = ℓ.up
  sender : SenderTracks (ℓ.peer s) c
  receiver : ReceiverTracks (ℓ.peer s.other) ℓ.transport c
  out : c.out = (ℓ.wire s.other).map packet
  back : c.back = (ℓ.wire s).map backOf

/-- The number of kept packets. -/
lemma SenderTracks.length_keys {x : Peer} {c : Channel HubMessage} (h : SenderTracks x c) :
    x.buffer.keys.length = x.sent.length - c.base := by
  have := congrArg List.length h.kept
  simpa using this

/-- What an end announces in a replay. -/
lemma SenderTracks.resendSequenceId {x : Peer} {c : Channel HubMessage} (h : SenderTracks x c)
    (hb : c.base ≤ x.sent.length) : x.buffer.resendSequenceId = c.base + 1 := by
  refine MessageBuffer.resendSequenceId_eq h.numbered ?_
  have hlen := h.length_keys
  rw [MessageBuffer.keys, List.length_map] at hlen
  rw [h.total, hlen]
  omega

/-- Storing a message in the buffer keeps a packet. -/
lemma SenderTracks.enqueue {x : Peer} {c : Channel HubMessage} (h : SenderTracks x c)
    (hb : c.base ≤ x.sent.length) {f : Frame} (hf : isInvocationMessage f.message = true)
    (w : Waiter) :
    SenderTracks { x with buffer := x.buffer.enqueue f w, sent := x.sent ++ [f.message] }
      (c.store f.message) := by
  have hlen := h.length_keys
  refine ⟨?_, ?_, ?_, ?_, ?_, ?_, h.resumed⟩
  · simp only [Channel.store, h.sent]
  · intro m hm
    rcases List.mem_append.mp hm with hm | hm
    · exact h.inv m hm
    · rwa [List.mem_singleton.mp hm]
  · rw [MessageBuffer.keys_enqueue w hf]
    refine h.numbered.concat ?_
    simp only [h.total, hlen]
    omega
  · rw [MessageBuffer.keys_enqueue w hf, List.map_append, h.kept]
    simp only [Channel.store, List.map_cons, List.map_nil]
    rw [List.drop_append_of_le_length hb]
  · rw [MessageBuffer.totalMessageCount_enqueue w hf, h.total]
    simp
  · simp only [Channel.store, MessageBuffer.enqueue_reconnectInProgress, h.held]

/-- Writing more packets does not change what the buffer holds. -/
lemma SenderTracks.of_eq {x : Peer} {c d : Channel HubMessage} (h : SenderTracks x c)
    (hsent : d.sent = c.sent) (hbase : d.base = c.base) (hheld : d.held = c.held)
    (hres : d.resumed = c.resumed) : SenderTracks x d :=
  ⟨hsent.trans h.sent, h.inv, hbase ▸ h.numbered, hbase ▸ h.kept, h.total, hheld.trans h.held,
    hres.trans h.resumed⟩

/-- What the sender does to the channel leaves the receiver's counters alone. -/
lemma ReceiverTracks.of_eq {x : Peer} {t : ℕ} {c d : Channel HubMessage}
    (h : ReceiverTracks x t c) (hpos : d.pos = c.pos) (hseen : d.seen = c.seen)
    (hw : d.waiting = c.waiting) (ha : d.armed = c.armed)
    (hsent : d.sent.take c.seen = c.sent.take c.seen) : ReceiverTracks x t d :=
  ⟨hpos ▸ h.next, hseen ▸ h.latest, hw.trans h.waiting, by rw [hseen, hsent, h.accepted],
    ha ▸ h.armed, h.timer_le⟩

/-- Extending what was sent does not change what was accepted. -/
lemma take_seen_append {c : Channel HubMessage} (hc : c.Ok) (m : HubMessage) :
    (c.sent ++ [m]).take c.seen = c.sent.take c.seen :=
  List.take_append_of_le_length hc.seen_le

/-- A disconnected sender holds. -/
lemma SenderTracks.disconnected {x : Peer} {c : Channel HubMessage} (h : SenderTracks x c) :
    SenderTracks { x with buffer := x.buffer.disconnected } c.hold :=
  ⟨h.sent, h.inv, h.numbered, h.kept, h.total, rfl, h.resumed⟩

/-- A disconnected receiver waits. -/
lemma ReceiverTracks.disconnected {x : Peer} {t : ℕ} {c : Channel HubMessage}
    (h : ReceiverTracks x t c) :
    ReceiverTracks { x with buffer := x.buffer.disconnected } t c.wait :=
  ⟨h.next, h.latest, rfl, h.accepted, h.armed, h.timer_le⟩

/-- The receiver's counters do not depend on what the end sends itself. -/
lemma ReceiverTracks.enqueue {x : Peer} {t : ℕ} {c : Channel HubMessage}
    (h : ReceiverTracks x t c) (f : Frame) (w : Waiter) (sent : List HubMessage) :
    ReceiverTracks { x with buffer := x.buffer.enqueue f w, sent := sent } t c :=
  ⟨by simpa using h.next, by simpa using h.latest, by simpa using h.waiting, h.accepted, h.armed,
    h.timer_le⟩

/-! ## What an end does with a received message -/

/-- While it waits for a `Sequence`, an end ignores invocation-type messages. -/
lemma dispatch_of_waiting {x : Peer} (t : ℕ) {m : HubMessage}
    (hm : isInvocationMessage m = true) (hw : x.buffer.waitForSequenceMessage = true) :
    x.dispatch t m = x := by
  simp [Peer.dispatch, MessageBuffer.shouldProcessMessage, hw,
    sequenceId?_of_isInvocationMessage hm]

/-- A message that is neither of invocation type nor a `Sequence` changes the buffer only if it
is an `Ack`, and then only the items of the buffer. -/
lemma dispatch_of_other (x : Peer) (t : ℕ) {m : HubMessage} (hm : isInvocationMessage m = false)
    (hs : m.sequenceId? = none) :
    x.dispatch t m = x ∨
      ∃ k, m.ackId? = some k ∧ x.dispatch t m = { x with buffer := x.buffer.ack ⟨k⟩ } := by
  cases hw : x.buffer.waitForSequenceMessage with
  | true => exact .inl (by simp [Peer.dispatch, MessageBuffer.shouldProcessMessage, hw, hs])
  | false =>
    cases m
    case ack k =>
      exact .inr ⟨k.sequenceId, rfl, by
        simp [Peer.dispatch, MessageBuffer.shouldProcessMessage, hw, hm]⟩
    case sequence k => simp [HubMessage.sequenceId?] at hs
    all_goals exact .inl (by simp [Peer.dispatch, MessageBuffer.shouldProcessMessage, hw, hm])

/-- A `Sequence` that is not ahead of the end's count is obeyed, waiting or not. -/
lemma dispatch_sequence {x : Peer} (t : ℕ) {k : ℤ} (hk : k ≤ x.buffer.nextReceivingSequenceId) :
    x.dispatch t (.sequence ⟨k⟩) = { x with buffer := { x.buffer with
      nextReceivingSequenceId := k, waitForSequenceMessage := false } } := by
  have hn : ¬ x.buffer.nextReceivingSequenceId < k := by omega
  cases hw : x.buffer.waitForSequenceMessage <;>
    simp [Peer.dispatch, MessageBuffer.shouldProcessMessage, hw, isInvocationMessage,
      HubMessage.messageType, HubMessage.sequenceId?, MessageBuffer.resetSequence, hn]

/-- An invocation-type message is counted and, when its number is new, accepted; the ack timer is
only started when the end has caught up. -/
lemma dispatch_of_isInvocationMessage {x : Peer} (t : ℕ) {m : HubMessage}
    (hm : isInvocationMessage m = true) (hw : x.buffer.waitForSequenceMessage = false) :
    ∃ timer ackScheduled,
      (timer = x.timer ∨
        timer = some t ∧ x.buffer.latestReceivedSequenceId ≤ x.buffer.nextReceivingSequenceId) ∧
      x.dispatch t m = { x with
        buffer := { x.buffer with
          nextReceivingSequenceId := x.buffer.nextReceivingSequenceId + 1
          latestReceivedSequenceId :=
            max x.buffer.latestReceivedSequenceId x.buffer.nextReceivingSequenceId
          ackScheduled := ackScheduled }
        timer := timer
        accepted := if x.buffer.latestReceivedSequenceId < x.buffer.nextReceivingSequenceId
          then x.accepted ++ [m] else x.accepted } := by
  rcases lt_trichotomy x.buffer.nextReceivingSequenceId x.buffer.latestReceivedSequenceId with
    hlt | heq | hgt
  · refine ⟨x.timer, x.buffer.ackScheduled, .inl rfl, ?_⟩
    simp [Peer.dispatch, MessageBuffer.shouldProcessMessage, hw, hm, hlt.le, hlt.ne,
      not_lt.mpr hlt.le]
  · cases hs : x.buffer.ackScheduled with
    | true =>
      refine ⟨x.timer, true, .inl rfl, ?_⟩
      simp [Peer.dispatch, MessageBuffer.shouldProcessMessage, MessageBuffer.scheduleAckTimer, hw,
        hm, heq, hs]
    | false =>
      refine ⟨some t, true, .inr ⟨rfl, heq.ge⟩, ?_⟩
      simp [Peer.dispatch, MessageBuffer.shouldProcessMessage, MessageBuffer.scheduleAckTimer, hw,
        hm, heq, hs]
  · have hle : ¬ x.buffer.nextReceivingSequenceId ≤ x.buffer.latestReceivedSequenceId := by omega
    have hmax : max x.buffer.latestReceivedSequenceId x.buffer.nextReceivingSequenceId =
        x.buffer.nextReceivingSequenceId := max_eq_right hgt.le
    cases hs : x.buffer.ackScheduled with
    | true =>
      refine ⟨x.timer, true, .inl rfl, ?_⟩
      cases m
      case ping | close | ack | sequence =>
        simp [isInvocationMessage, HubMessage.messageType] at hm
      all_goals
        simp [Peer.dispatch, MessageBuffer.shouldProcessMessage, MessageBuffer.scheduleAckTimer,
          isInvocationMessage, HubMessage.messageType, hw, hle, hs, hmax, hgt]
    | false =>
      refine ⟨some t, true, .inr ⟨rfl, hgt.le⟩, ?_⟩
      cases m
      case ping | close | ack | sequence =>
        simp [isInvocationMessage, HubMessage.messageType] at hm
      all_goals
        simp [Peer.dispatch, MessageBuffer.shouldProcessMessage, MessageBuffer.scheduleAckTimer,
          isInvocationMessage, HubMessage.messageType, hw, hle, hs, hmax, hgt]

/-- Of the sending side of an end, a received message changes at most the buffered items, and
only by acknowledging them. -/
lemma dispatch_sender (x : Peer) (t : ℕ) (m : HubMessage) :
    (x.dispatch t m).sent = x.sent ∧ (x.dispatch t m).resumed = x.resumed ∧
    (x.dispatch t m).buffer.totalMessageCount = x.buffer.totalMessageCount ∧
    (x.dispatch t m).buffer.reconnectInProgress = x.buffer.reconnectInProgress ∧
    ((x.dispatch t m).buffer.keys = x.buffer.keys ∨
      ∃ k, m.ackId? = some k ∧ (x.dispatch t m).buffer.keys = (x.buffer.ack ⟨k⟩).keys) := by
  obtain ⟨hm, ht, hz, hb, hr⟩ := MessageBuffer.shouldProcessMessage_sender x.buffer m
  unfold Peer.dispatch
  dsimp only
  split
  · split
    · rename_i ack _
      refine ⟨rfl, rfl, ht, hr, .inr ⟨ack.sequenceId, rfl, ?_⟩⟩
      simp [MessageBuffer.ack, MessageBuffer.keys, hm, hz, hb]
    · split
      · rename_i buffer hreset
        unfold MessageBuffer.resetSequence at hreset
        split at hreset
        · cases hreset
        · cases hreset
          exact ⟨rfl, rfl, ht, hr, .inl (by simp [MessageBuffer.keys, hm])⟩
      · exact ⟨rfl, rfl, ht, hr, .inl (by simp [MessageBuffer.keys, hm])⟩
    · split <;> exact ⟨rfl, rfl, ht, hr, .inl (by simp [MessageBuffer.keys, hm])⟩
  · exact ⟨rfl, rfl, ht, hr, .inl (by simp [MessageBuffer.keys, hm])⟩

/-! ## Steps of one end -/

section Steps

variable {ℓ : Link} {s : Side} {c d : Channel HubMessage} {x : Peer} {fs : List Frame}

@[simp] lemma setPeer_peer (ℓ : Link) (p : Side) (x : Peer) : (ℓ.setPeer p x).peer p = x := by
  simp [setPeer]

@[simp] lemma setPeer_other_peer (ℓ : Link) (p : Side) (x : Peer) :
    (ℓ.setPeer p.other x).peer p = ℓ.peer p := by simp [setPeer]

@[simp] lemma write_peer (ℓ : Link) (p : Side) (fs : List Frame) :
    (ℓ.write p fs).peer = ℓ.peer := by
  unfold write
  split <;> rfl

@[simp] lemma write_up (ℓ : Link) (p : Side) (fs : List Frame) : (ℓ.write p fs).up = ℓ.up := by
  unfold write
  split <;> simp_all

@[simp] lemma write_transport (ℓ : Link) (p : Side) (fs : List Frame) :
    (ℓ.write p fs).transport = ℓ.transport := by
  unfold write
  split <;> rfl

/-- What is written arrives behind what is in flight, on a live transport. -/
lemma write_wire_other (ℓ : Link) (p : Side) (fs : List Frame) :
    (ℓ.write p fs).wire p.other = ℓ.wire p.other ++ if ℓ.up then fs else [] := by
  unfold write
  split <;> simp_all

/-- Nothing is written to the own wire. -/
lemma write_wire (ℓ : Link) (p : Side) (fs : List Frame) : (ℓ.write p fs).wire p = ℓ.wire p := by
  unfold write
  split <;> simp

/-- Writing nothing. -/
lemma write_nil (ℓ : Link) (p : Side) : ℓ.write p [] = ℓ := by
  simp [write]

/-- Writing to a transport that is gone. -/
lemma write_of_down (ℓ : Link) (p : Side) (fs : List Frame) (h : ℓ.up = false) :
    ℓ.write p fs = ℓ := by
  simp [write, h]

/-- A step of the sending end: its peer changes and it writes frames. -/
lemma Tracks.sender_step (h : Tracks ℓ s c) (hs : SenderTracks x d)
    (hr : ReceiverTracks (ℓ.peer s.other) ℓ.transport d) (hup : d.up = c.up)
    (hout : d.out = c.out ++ (if ℓ.up then fs else []).map packet) (hback : d.back = c.back) :
    Tracks ((ℓ.setPeer s x).write s fs) s d := by
  refine ⟨?_, ?_, ?_, ?_, ?_⟩
  · rw [write_up, hup]
    exact h.up
  · simpa using hs
  · simpa [setPeer] using hr
  · rw [write_wire_other, hout, h.out, ← List.map_append]
    rfl
  · rw [write_wire, hback, h.back]
    rfl

/-- A step of the receiving end: its peer changes and it writes frames. -/
lemma Tracks.receiver_step (h : Tracks ℓ s c) (hs : SenderTracks (ℓ.peer s) d)
    (hr : ReceiverTracks x ℓ.transport d) (hup : d.up = c.up) (hout : d.out = c.out)
    (hback : d.back = c.back ++ (if ℓ.up then fs else []).map backOf) :
    Tracks ((ℓ.setPeer s.other x).write s.other fs) s d := by
  have hwire := write_wire_other (ℓ.setPeer s.other x) s.other fs
  rw [Side.other_other] at hwire
  refine ⟨?_, ?_, ?_, ?_, ?_⟩
  · rw [write_up, hup]
    exact h.up
  · simpa using hs
  · simpa [setPeer] using hr
  · rw [write_wire, hout, h.out]
    rfl
  · rw [hwire, hback, h.back, ← List.map_append]
    rfl

/-- Frames that are neither data nor announcements are noise to their own direction. -/
lemma map_packet_of_other (b : Bool) {fs : List Frame} (h : ∀ f ∈ fs, packet f = .other) :
    (if b then fs else []).map packet = List.replicate (if b then fs.length else 0) .other := by
  cases b with
  | false => rfl
  | true =>
    rw [if_pos rfl, if_pos rfl, List.map_congr_left h, List.map_const']

/-- Frames that are no acknowledgements are noise to the opposite direction. -/
lemma map_backOf_of_none (b : Bool) {fs : List Frame} (h : ∀ f ∈ fs, backOf f = none) :
    (if b then fs else []).map backOf = List.replicate (if b then fs.length else 0) none := by
  cases b with
  | false => rfl
  | true =>
    rw [if_pos rfl, if_pos rfl, List.map_congr_left h, List.map_const']

/-- The sending end writes noise. -/
lemma Tracks.sender_noise (h : Tracks ℓ s c) (hc : c.Ok) (hs : SenderTracks x c)
    (hfs : ∀ f ∈ fs, packet f = .other) :
    ∃ d, Tracks ((ℓ.setPeer s x).write s fs) s d ∧ d.Ok := by
  refine ⟨c.noise (if ℓ.up then fs.length else 0) 0, ?_, hc.noise _ _⟩
  refine h.sender_step (hs.of_eq rfl rfl rfl rfl) (h.receiver.of_eq rfl rfl rfl rfl rfl) rfl ?_ ?_
  · rw [map_packet_of_other _ hfs]
    rfl
  · simp [Channel.noise]

/-- The receiving end writes noise. -/
lemma Tracks.receiver_noise (h : Tracks ℓ s c) (hc : c.Ok) (hr : ReceiverTracks x ℓ.transport c)
    (hfs : ∀ f ∈ fs, backOf f = none) :
    ∃ d, Tracks ((ℓ.setPeer s.other x).write s.other fs) s d ∧ d.Ok := by
  refine ⟨c.noise 0 (if ℓ.up then fs.length else 0), ?_, hc.noise _ _⟩
  refine h.receiver_step (h.sender.of_eq rfl rfl rfl rfl) (hr.of_eq rfl rfl rfl rfl rfl) rfl ?_ ?_
  · simp [Channel.noise]
  · rw [map_backOf_of_none _ hfs]
    rfl

/-! ### Sending -/

/-- `send`, seen by the direction it sends in.

**Proof sketch.** The cases of `MessageBuffer.send_cases`. A message that is not written is kept:
the sender holds, or the write has failed and it holds from now on, or the transport is gone. A
message that is written is kept and, on a live transport, in flight. -/
lemma tracks_send_sender (cfg : LinkConfig) (h : Tracks ℓ s c) (hc : c.Ok) {m : HubMessage}
    (hseq : m.sequenceId? = none) (w : Waiter) (outcome : Except Error Unit) :
    ∃ d, Tracks (ℓ.send cfg s m w outcome) s d ∧ d.Ok := by
  have hb : c.base ≤ (ℓ.peer s).sent.length :=
    h.sender.sent ▸ hc.base_le.trans (hc.pos_le.trans hc.seen_le)
  have hheld := h.sender.held
  unfold send
  rcases MessageBuffer.send_cases cfg.protocol cfg.transferFormat (fun _ => outcome) m w
    (ℓ.peer s).buffer with ⟨e, he, ho⟩ | ⟨f, hf, rfl, hcases⟩
  · -- refused
    simp only [he, ho]
    exact h.sender_noise hc h.sender (by simp)
  · cases hinv : isInvocationMessage f.message with
    | false =>
      have hpkt : ∀ g ∈ [f], packet g = .other := by
        simpa using packet_of_other hinv hseq
      have hnil : ∀ g ∈ ([] : List Frame), packet g = .other := by simp
      rcases hcases with ⟨-, ho⟩ | ⟨-, -, ho⟩ | ⟨-, e, -, ho⟩
      all_goals
        simp only [hf, ho, MessageBuffer.enqueue_of_not_isInvocationMessage w hinv]
      · exact h.sender_noise hc h.sender hnil
      · exact h.sender_noise hc h.sender hpkt
      · refine ⟨c.hold, h.sender_step h.sender.disconnected
          (h.receiver.of_eq rfl rfl rfl rfl rfl) rfl ?_ rfl, hc.hold⟩
        simp [Channel.hold]
    | true =>
      have hstore := h.sender.enqueue hb hinv w
      have hrecv : ReceiverTracks (ℓ.peer s.other) ℓ.transport (c.store f.message) :=
        h.receiver.of_eq rfl rfl rfl rfl (take_seen_append hc f.message)
      rcases hcases with ⟨hr, ho⟩ | ⟨hr, -, ho⟩ | ⟨-, e, -, ho⟩
      all_goals simp only [hf, ho, if_true]
      · refine ⟨c.store f.message, h.sender_step hstore hrecv rfl ?_ rfl,
          hc.store _ fun _ => hheld.trans hr⟩
        simp [Channel.store]
      · cases hup : ℓ.up with
        | true =>
          refine ⟨c.post f.message, h.sender_step (hstore.of_eq rfl rfl rfl rfl)
            (hrecv.of_eq rfl rfl rfl rfl rfl) rfl ?_ rfl,
            hc.post _ (h.up.trans hup) (hheld.trans hr)⟩
          simp [Channel.post, hup, packet_of_isInvocationMessage hinv]
        | false =>
          refine ⟨c.store f.message, h.sender_step hstore hrecv rfl ?_ rfl,
            hc.store _ fun hu => ?_⟩
          · simp [Channel.store, hup]
          · simp [h.up, hup] at hu
      · refine ⟨(c.store f.message).hold, h.sender_step hstore.disconnected
          (hrecv.of_eq rfl rfl rfl rfl rfl) rfl ?_ rfl, hc.hold.store _ fun _ => rfl⟩
        simp [Channel.hold, Channel.store]

/-- `send`, seen by the opposite direction: noise, or the receiver starts to wait. -/
lemma tracks_send_receiver (cfg : LinkConfig) (h : Tracks ℓ s c) (hc : c.Ok) {m : HubMessage}
    (hack : m.ackId? = none) (w : Waiter) (outcome : Except Error Unit) :
    ∃ d, Tracks (ℓ.send cfg s.other m w outcome) s d ∧ d.Ok := by
  unfold send
  rcases MessageBuffer.send_cases cfg.protocol cfg.transferFormat (fun _ => outcome) m w
    (ℓ.peer s.other).buffer with ⟨e, he, ho⟩ | ⟨f, hf, rfl, hcases⟩
  · simp only [he, ho]
    exact h.receiver_noise hc h.receiver (by simp)
  · rcases hcases with ⟨-, ho⟩ | ⟨-, -, ho⟩ | ⟨-, e, -, ho⟩
    all_goals simp only [hf, ho]
    · exact h.receiver_noise hc (h.receiver.enqueue f w _) (by simp)
    · exact h.receiver_noise hc (h.receiver.enqueue f w _) (by simpa [backOf] using hack)
    · refine ⟨c.wait, h.receiver_step (h.sender.of_eq rfl rfl rfl rfl)
        (h.receiver.enqueue f w _).disconnected rfl rfl ?_, hc.wait⟩
      simp [Channel.wait]

/-! ### Receiving -/

/-- The sending end takes a frame of the way back. -/
lemma Tracks.sender_take (h : Tracks ℓ s c) {rest : List Frame} (hs : SenderTracks x d)
    (hr : ReceiverTracks (ℓ.peer s.other) ℓ.transport d) (hup : d.up = c.up)
    (hout : d.out = c.out) (hback : d.back = rest.map backOf) :
    Tracks ({ ℓ with wire := Function.update ℓ.wire s rest }.setPeer s x) s d := by
  refine ⟨hup.trans h.up, ?_, ?_, ?_, ?_⟩
  · simpa using hs
  · simpa [setPeer] using hr
  · rw [hout, h.out]
    simp [setPeer]
  · rw [hback]
    simp [setPeer]

/-- The receiving end takes a frame. -/
lemma Tracks.receiver_take (h : Tracks ℓ s c) {rest : List Frame} (hs : SenderTracks (ℓ.peer s) d)
    (hr : ReceiverTracks x ℓ.transport d) (hup : d.up = c.up) (hout : d.out = rest.map packet)
    (hback : d.back = c.back) :
    Tracks ({ ℓ with wire := Function.update ℓ.wire s.other rest }.setPeer s.other x) s d := by
  refine ⟨hup.trans h.up, ?_, ?_, ?_, ?_⟩
  · simpa using hs
  · simpa [setPeer] using hr
  · rw [hout]
    simp [setPeer]
  · rw [hback, h.back]
    simp [setPeer]

/-- A received frame, seen by the direction its receiver sends in: an acknowledgement drops kept
packets, everything else is noise.

**Proof sketch.** `dispatch_sender` leaves two cases. An `Ack` of `k` drops the first
`k - base` items of the buffer (`MessageBuffer.keys_ack`), and the channel drops as many. -/
lemma tracks_receive_sender (h : Tracks ℓ s c) (hc : c.Ok) {f : Frame} {rest : List Frame}
    (hwire : ℓ.wire s = f :: rest) :
    ∃ d, Tracks ({ ℓ with wire := Function.update ℓ.wire s rest }.setPeer s
      ((ℓ.peer s).dispatch ℓ.transport f.message)) s d ∧ d.Ok := by
  have hback : c.back = backOf f :: rest.map backOf := by rw [h.back, hwire, List.map_cons]
  obtain ⟨hsent, hres, htotal, hrip, hkeys | ⟨k, hk, hkeys⟩⟩ :=
    dispatch_sender (ℓ.peer s) ℓ.transport f.message
  · have hd : (c.takeAck (rest.map backOf) 0).Ok := hc.takeAck hback (.inl rfl)
    refine ⟨c.takeAck (rest.map backOf) 0, h.sender_take ?_ ?_ rfl rfl rfl, hd⟩
    · have hbase : (c.takeAck (rest.map backOf) 0).base = c.base := Nat.max_eq_left (Nat.zero_le _)
      have hy := h.sender.of_eq (d := c.takeAck (rest.map backOf) 0) rfl hbase rfl rfl
      exact ⟨hy.sent.trans hsent.symm, hsent ▸ hy.inv, hkeys ▸ hy.numbered,
        by rw [hkeys, hsent]; exact hy.kept, by rw [htotal, hsent]; exact hy.total,
        hy.held.trans hrip.symm, hy.resumed.trans hres.symm⟩
    · exact h.receiver.of_eq rfl rfl rfl rfl rfl
  · have hack : k.toNat = 0 ∨ backOf f = some (k.toNat : ℤ) := by
      rcases le_or_gt k 0 with hneg | hpos
      · exact .inl (Int.toNat_of_nonpos hneg)
      · exact .inr (by rw [Int.toNat_of_nonneg hpos.le]; exact hk)
    have hd : (c.takeAck (rest.map backOf) k.toNat).Ok := hc.takeAck hback hack
    have hbase : (c.takeAck (rest.map backOf) k.toNat).base = c.base + (k - c.base).toNat := by
      simp only [Channel.takeAck]
      omega
    have hle : c.base + (k - c.base).toNat ≤ (ℓ.peer s).sent.length := by
      rw [← hbase, ← h.sender.sent]
      exact hd.base_le.trans (hd.pos_le.trans hd.seen_le)
    refine ⟨c.takeAck (rest.map backOf) k.toNat, h.sender_take ?_ ?_ rfl rfl rfl, hd⟩
    · rw [MessageBuffer.keys_ack h.sender.numbered] at hkeys
      refine ⟨h.sender.sent.trans hsent.symm, hsent ▸ h.sender.inv, ?_, ?_, ?_,
        h.sender.held.trans hrip.symm, h.sender.resumed.trans hres.symm⟩
      · rw [hkeys, hbase]
        push_cast
        refine h.sender.numbered.drop _ ?_
        rw [h.sender.length_keys]
        omega
      · rw [hkeys, hbase, hsent, List.map_drop, h.sender.kept, List.drop_drop]
      · rw [htotal, hsent]
        exact h.sender.total
    · exact h.receiver.of_eq rfl rfl rfl rfl rfl

/-- One more accepted message. -/
lemma take_succ_of_drop {α : Type*} {l : List α} {n : ℕ} {a : α} {rest : List α}
    (h : l.drop n = a :: rest) : l.take (n + 1) = l.take n ++ [a] := by
  have hget : l[n]? = some a := by
    rw [← List.head?_drop, h]
    rfl
  rw [List.take_add_one, hget]
  rfl

/-- A received frame, seen by the direction it travels in.

**Proof sketch.** An invocation-type message is ignored while the receiver waits, and otherwise is
the one the receiver has counted to (`Channel.Ok.head_data`), so accepting it extends the accepted
messages by the next one sent. A `Sequence` names the first kept packet
(`Channel.Ok.head_announce`), which is not ahead of the receiver. -/
lemma tracks_receive_receiver (h : Tracks ℓ s c) (hc : c.Ok) {f : Frame} {rest : List Frame}
    (hwire : ℓ.wire s.other = f :: rest) :
    ∃ d, Tracks ({ ℓ with wire := Function.update ℓ.wire s.other rest }.setPeer s.other
      ((ℓ.peer s.other).dispatch ℓ.transport f.message)) s d ∧ d.Ok := by
  have hout : c.out = packet f :: rest.map packet := by rw [h.out, hwire, List.map_cons]
  have hr := h.receiver
  cases hinv : isInvocationMessage f.message with
  | true =>
    rw [packet_of_isInvocationMessage hinv] at hout
    cases hw : c.waiting with
    | true =>
      rw [dispatch_of_waiting _ hinv (hr.waiting.symm.trans hw)]
      exact ⟨c.skipData (rest.map packet), h.receiver_take (h.sender.of_eq rfl rfl rfl rfl)
        (hr.of_eq rfl rfl rfl rfl rfl) rfl rfl rfl, hc.skipData hout hw⟩
    | false =>
      have hhead := hc.head_data hout hw
      have hpos := hc.pos_le
      obtain ⟨timer, sched, htimer, hdisp⟩ :=
        dispatch_of_isInvocationMessage ℓ.transport hinv (hr.waiting.symm.trans hw)
      have harmed : decide (timer = some ℓ.transport) = true →
          c.armed = true ∨ c.seen ≤ c.pos + 1 := by
        intro ht
        rcases htimer with rfl | ⟨-, hle⟩
        · exact .inl (hr.armed.mpr (of_decide_eq_true ht))
        · rw [hr.next, hr.latest] at hle
          exact .inr (by omega)
      rw [hdisp]
      refine ⟨c.takeData (rest.map packet) (decide (timer = some ℓ.transport)),
        h.receiver_take (h.sender.of_eq rfl rfl rfl rfl) ⟨?_, ?_, ?_, ?_, ?_, ?_⟩ rfl rfl rfl,
        hc.takeData hout hw harmed⟩
      · simp only [Channel.takeData, hr.next]
        push_cast
        ring
      · simp only [Channel.takeData, hr.next, hr.latest]
        split <;> omega
      · exact hr.waiting
      · simp only [Channel.takeData, hr.next, hr.latest, hr.accepted]
        by_cases hlt : c.pos < c.seen
        · rw [if_pos hlt, if_neg (by omega)]
        · have heq : c.seen = c.pos := by omega
          rw [if_neg hlt, if_pos (by omega), heq, take_succ_of_drop hhead]
      · simp [Channel.takeData]
      · intro u hu
        rcases htimer with rfl | ⟨rfl, -⟩
        · exact hr.timer_le u hu
        · simp only [Option.some.injEq] at hu
          omega
  | false =>
    cases hseq : f.message.sequenceId? with
    | some k =>
      obtain ⟨m, bytes⟩ := f
      obtain rfl : m = .sequence ⟨k⟩ := HubMessage.eq_of_sequenceId? hseq
      rw [packet_sequence] at hout
      obtain ⟨rfl, -⟩ := hc.head_announce hout
      have hb := hc.base_le
      rw [dispatch_sequence _ (by rw [hr.next]; omega)]
      exact ⟨c.takeAnnounce (rest.map packet), h.receiver_take (h.sender.of_eq rfl rfl rfl rfl)
        ⟨rfl, hr.latest, rfl, hr.accepted, hr.armed, hr.timer_le⟩ rfl rfl rfl,
        hc.takeAnnounce hout⟩
    | none =>
      rw [packet_of_other hinv hseq] at hout
      refine ⟨c.takeOther (rest.map packet), h.receiver_take (h.sender.of_eq rfl rfl rfl rfl)
        ?_ rfl rfl rfl, hc.takeOther hout⟩
      rcases dispatch_of_other (ℓ.peer s.other) ℓ.transport hinv hseq with hd | ⟨k, -, hd⟩
      · rw [hd]
        exact hr.of_eq rfl rfl rfl rfl rfl
      · rw [hd]
        exact ⟨hr.next, hr.latest, hr.waiting, hr.accepted, hr.armed, hr.timer_le⟩

/-! ### Timers -/

/-- The ack timer and the direction its end sends in: noise. -/
lemma tracks_ackTimer_sender (cfg : LinkConfig) (h : Tracks ℓ s c) (hc : c.Ok) (t : ℕ)
    (outcome : Except Error Unit) : ∃ d, Tracks (ℓ.ackTimer cfg s t outcome) s d ∧ d.Ok := by
  have hs : SenderTracks { ℓ.peer s with
      buffer := { (ℓ.peer s).buffer with ackScheduled := false }, timer := none } c :=
    ⟨h.sender.sent, h.sender.inv, h.sender.numbered, h.sender.kept, h.sender.total, h.sender.held,
      h.sender.resumed⟩
  unfold ackTimer
  dsimp only
  split
  · refine h.sender_noise hc hs fun f hf => ?_
    split at hf
    · cases hf
    · rcases MessageBuffer.sendHubMessage_cases cfg.protocol cfg.transferFormat (fun _ => outcome)
        (.ack ⟨(ℓ.peer s).buffer.latestReceivedSequenceId⟩) with ⟨e, he⟩ | ⟨g, hg, he⟩
      · simp [he] at hf
      · rw [he] at hf
        obtain rfl := List.mem_singleton.mp hf
        exact packet_of_other (by rw [hg]; rfl) (by rw [hg]; rfl)
  · rw [← write_nil (ℓ.setPeer s _) s]
    exact h.sender_noise hc hs (by simp)

/-- The ack timer and the direction its end receives in: when it writes to the current transport,
the receiver has caught up and acknowledges what it has accepted; otherwise the acknowledgement is
given up. -/
lemma tracks_ackTimer_receiver (cfg : LinkConfig) (h : Tracks ℓ s c) (hc : c.Ok) {t : ℕ}
    (ht : (ℓ.peer s.other).timer = some t) (outcome : Except Error Unit) :
    ∃ d, Tracks (ℓ.ackTimer cfg s.other t outcome) s d ∧ d.Ok := by
  have hr := h.receiver
  have hgive : ∃ d, Tracks ((ℓ.setPeer s.other { ℓ.peer s.other with
      buffer := { (ℓ.peer s.other).buffer with ackScheduled := false }, timer := none }).write
        s.other []) s d ∧ d.Ok := by
    refine ⟨c.disarm, h.receiver_step (h.sender.of_eq rfl rfl rfl rfl)
      ⟨hr.next, hr.latest, hr.waiting, hr.accepted, by simp [Channel.disarm], by simp⟩ rfl rfl ?_,
      hc.disarm⟩
    simp [Channel.disarm]
  unfold ackTimer
  dsimp only
  split
  · rename_i htr
    have harmed : c.armed = true := hr.armed.mpr (ht.trans (congrArg some htr))
    split
    · exact hgive
    · rcases MessageBuffer.sendHubMessage_cases cfg.protocol cfg.transferFormat (fun _ => outcome)
        (.ack ⟨(ℓ.peer s.other).buffer.latestReceivedSequenceId⟩) with ⟨e, he⟩ | ⟨f, hf, he⟩
      · rw [he]
        exact hgive
      · cases hup : ℓ.up with
        | false =>
          obtain ⟨d, hd, hok⟩ := hgive
          refine ⟨d, ?_, hok⟩
          rwa [write_of_down _ _ _ (by exact hup)] at hd ⊢
        | true =>
          refine ⟨c.acknowledge, h.receiver_step (h.sender.of_eq rfl rfl rfl rfl)
            ⟨hr.next, hr.latest, hr.waiting, hr.accepted, by simp [Channel.acknowledge], by simp⟩
            rfl rfl ?_, hc.acknowledge harmed⟩
          rw [he, hup]
          simp [Channel.acknowledge, backOf, hf, HubMessage.ackId?, hr.latest]
  · rw [← write_nil (ℓ.setPeer s.other _) s.other]
    exact hgive

/-- A keep-alive ping is noise to both directions. -/
lemma tracks_ping (cfg : LinkConfig) (h : Tracks ℓ s c) (hc : c.Ok) (p : Side)
    (outcome : Except Error Unit) :
    ∃ d, Tracks (ℓ.write p (sendHubMessage cfg.protocol cfg.transferFormat (fun _ => outcome)
      .ping).1) s d ∧ d.Ok := by
  have hping : ∀ f ∈ (sendHubMessage cfg.protocol cfg.transferFormat (fun _ => outcome)
      .ping).1, f.message = .ping := by
    rcases MessageBuffer.sendHubMessage_cases cfg.protocol cfg.transferFormat (fun _ => outcome)
      .ping with ⟨e, he⟩ | ⟨f, hf, he⟩
    · simp [he]
    · simpa [he] using hf
  have hself : ℓ.setPeer p (ℓ.peer p) = ℓ := by simp [setPeer]
  rw [← hself]
  rcases Side.eq_or_eq_other p s with rfl | rfl
  · refine h.sender_noise hc h.sender fun f hf => packet_of_other ?_ ?_
    · rw [hping f hf]
      rfl
    · rw [hping f hf]
      rfl
  · refine h.receiver_noise hc h.receiver fun f hf => ?_
    rw [backOf, hping f hf]
    rfl

/-- A call of `disconnected`: a sender holds, a receiver waits. -/
lemma tracks_disconnected (h : Tracks ℓ s c) (hc : c.Ok) (p : Side) :
    ∃ d, Tracks (ℓ.setPeer p { ℓ.peer p with buffer := (ℓ.peer p).buffer.disconnected }) s d ∧
      d.Ok := by
  rw [← write_nil (ℓ.setPeer p _) p]
  rcases Side.eq_or_eq_other p s with rfl | rfl
  · refine ⟨c.hold, h.sender_step h.sender.disconnected (h.receiver.of_eq rfl rfl rfl rfl rfl) rfl
      ?_ rfl, hc.hold⟩
    simp [Channel.hold]
  · refine ⟨c.wait, h.receiver_step (h.sender.of_eq rfl rfl rfl rfl) h.receiver.disconnected rfl
      rfl ?_, hc.wait⟩
    simp [Channel.wait]

/-! ### Transports -/

/-- A drop. -/
lemma tracks_drop (h : Tracks ℓ s c) (hc : c.Ok) (keep : Side → ℕ) :
    ∃ d, Tracks { ℓ with up := false, wire := fun p => (ℓ.wire p).take (keep p) } s d ∧ d.Ok := by
  refine ⟨c.drop (keep s.other) (keep s), ⟨rfl, h.sender.of_eq rfl rfl rfl rfl,
    h.receiver.of_eq rfl rfl rfl rfl rfl, ?_, ?_⟩, hc.drop _ _⟩
  · simp only [Channel.drop, h.out, List.map_take]
  · simp only [Channel.drop, h.back, List.map_take]

/-- A new transport. The timer task of the receiver has captured an earlier one. -/
lemma tracks_reopen (h : Tracks ℓ s c) (hc : c.Ok)
    (hrip : (ℓ.peer s).buffer.reconnectInProgress = true) :
    ∃ d, Tracks { ℓ with
      up := true
      transport := ℓ.transport + 1
      wire := fun _ => []
      peer := fun p => { ℓ.peer p with resumed := false } } s d ∧ d.Ok := by
  have hs := h.sender
  have hr := h.receiver
  refine ⟨c.reopen, ⟨rfl, ⟨hs.sent, hs.inv, hs.numbered, hs.kept, hs.total, hs.held, rfl⟩,
    ⟨hr.next, hr.latest, hr.waiting, hr.accepted, ?_, ?_⟩, rfl, rfl⟩,
    hc.reopen (hs.held.trans hrip)⟩
  · simp only [Channel.reopen, Bool.false_eq_true, false_iff]
    intro ht
    have := hr.timer_le _ ht
    omega
  · intro u hu
    have := hr.timer_le u hu
    show u ≤ ℓ.transport + 1
    omega

/-- The buffered frames carry the kept packets. -/
lemma SenderTracks.messages (h : SenderTracks x c) :
    (x.buffer.messages.map BufferedItem.message).map Frame.message = x.sent.drop c.base := by
  rw [← h.kept, MessageBuffer.keys, List.map_map, List.map_map]
  rfl

/-- Buffered frames are of invocation type. -/
lemma SenderTracks.isInvocationMessage (h : SenderTracks x c) {f : Frame}
    (hf : f ∈ x.buffer.messages.map BufferedItem.message) :
    isInvocationMessage f.message = true := by
  have hmem : f.message ∈ x.sent.drop c.base := by
    rw [← h.messages]
    exact List.mem_map_of_mem hf
  exact h.inv _ (List.mem_of_mem_drop hmem)

/-- `resend`, seen by the direction it sends in: the announcement and a first part of the kept
packets. -/
lemma tracks_resend_sender (cfg : LinkConfig) (h : Tracks ℓ s c) (hc : c.Ok) (hup : ℓ.up = true)
    (hres : (ℓ.peer s).resumed = false) (outcome : ℕ → Except Error Unit) :
    ∃ d, Tracks (ℓ.resend cfg s outcome) s d ∧ d.Ok := by
  have hs := h.sender
  have hb : c.base ≤ (ℓ.peer s).sent.length :=
    hs.sent ▸ hc.base_le.trans (hc.pos_le.trans hc.seen_le)
  have hres' : c.resumed = false := hs.resumed.trans hres
  unfold resend
  dsimp only
  rcases MessageBuffer.resend_cases cfg.protocol cfg.transferFormat (fun k _ => outcome k)
    (ℓ.peer s).buffer with ⟨hw, hbuf⟩ | ⟨f, fs, hf, hw, hpfx, hbuf⟩
  · rw [hw, hbuf]
    refine ⟨c.replay [] false, h.sender_step ⟨hs.sent, hs.inv, hs.numbered, hs.kept, hs.total,
      hs.held, rfl⟩ (h.receiver.of_eq rfl rfl rfl rfl rfl) rfl ?_ rfl,
      hc.replay (h.up.trans hup) hres' (.inl ⟨rfl, rfl⟩)⟩
    simp [Channel.replay]
  · have hann : packet f = .announce (c.base + 1) := by
      obtain ⟨m, bytes⟩ := f
      obtain rfl : m = _ := hf
      rw [packet_sequence, hs.resendSequenceId hb]
    have hdata : fs.map packet = (fs.map Frame.message).map .data := by
      rw [List.map_map]
      refine List.map_congr_left fun g hg => ?_
      exact packet_of_isInvocationMessage (hs.isInvocationMessage (hpfx.subset hg))
    have hkept : fs.map Frame.message <+: c.sent.drop c.base := by
      rw [hs.sent, ← hs.messages]
      exact hpfx.map _
    rw [hw]
    rcases hbuf with hbuf | ⟨hbuf, rfl⟩
    · rw [hbuf]
      refine ⟨c.replay (.announce (c.base + 1) :: (fs.map Frame.message).map .data) false,
        h.sender_step ⟨hs.sent, hs.inv, hs.numbered, hs.kept, hs.total, hs.held, rfl⟩
          (h.receiver.of_eq rfl rfl rfl rfl rfl) rfl ?_ rfl,
        hc.replay (h.up.trans hup) hres' (.inr ⟨_, rfl, hkept, fun hd => by cases hd⟩)⟩
      rw [if_pos hup, List.map_cons, hann, hdata]
      rfl
    · -- everything was written
      rw [hbuf]
      refine ⟨c.replay (.announce (c.base + 1) ::
          (((ℓ.peer s).buffer.messages.map BufferedItem.message).map Frame.message).map .data) true,
        h.sender_step ⟨hs.sent, hs.inv, hs.numbered, hs.kept, hs.total, rfl, rfl⟩
          (h.receiver.of_eq rfl rfl rfl rfl rfl) rfl ?_ rfl,
        hc.replay (h.up.trans hup) hres' (.inr ⟨_, rfl, hkept, fun _ => ?_⟩)⟩
      · rw [if_pos hup, List.map_cons, hann, hdata]
        rfl
      · rw [hs.sent, hs.messages]

/-- `resend`, seen by the opposite direction: no acknowledgement is written. -/
lemma tracks_resend_receiver (cfg : LinkConfig) (h : Tracks ℓ s c) (hc : c.Ok)
    (hs : SenderTracks (ℓ.peer s.other) d) (outcome : ℕ → Except Error Unit) :
    ∃ d, Tracks (ℓ.resend cfg s.other outcome) s d ∧ d.Ok := by
  have hr := h.receiver
  unfold resend
  dsimp only
  rcases MessageBuffer.resend_cases cfg.protocol cfg.transferFormat (fun k _ => outcome k)
    (ℓ.peer s.other).buffer with ⟨hw, hbuf⟩ | ⟨f, fs, hf, hw, hpfx, hbuf⟩
  · rw [hw, hbuf]
    exact h.receiver_noise hc ⟨hr.next, hr.latest, hr.waiting, hr.accepted, hr.armed, hr.timer_le⟩
      (by simp)
  · have hnone : ∀ g ∈ f :: fs, backOf g = none := by
      intro g hg
      rcases List.mem_cons.mp hg with rfl | hg
      · rw [backOf, hf]
        rfl
      · exact ackId?_of_isInvocationMessage (hs.isInvocationMessage (hpfx.subset hg))
    rw [hw]
    rcases hbuf with hbuf | ⟨hbuf, -⟩
    all_goals
      rw [hbuf]
      exact h.receiver_noise hc
        ⟨hr.next, hr.latest, hr.waiting, hr.accepted, hr.armed, hr.timer_le⟩ hnone

end Steps
/-! ## Runs -/

/-- Both directions of the link carry a channel that satisfies its invariant. -/
def Delivers (ℓ : Link) : Prop := ∀ s, ∃ c, Tracks ℓ s c ∧ c.Ok

/-- A fresh connection. -/
lemma delivers_init (cfg : LinkConfig) : Delivers (init cfg) := fun _ =>
  ⟨.fresh, ⟨rfl, ⟨rfl, by simp [init], by simp [init], by simp [init], rfl, rfl, rfl⟩,
    ⟨rfl, rfl, rfl, rfl, by simp [init, Channel.fresh], by simp [init]⟩, rfl, rfl⟩,
    Channel.ok_fresh⟩

/-- **One step**: every action of the link is an operation of the channel in each direction.

**Proof sketch.** An action of an end is, for the direction `s`, an action of the sender or of the
receiver of that direction; the lemmas above treat the two. -/
theorem delivers_next {cfg : LinkConfig} {ℓ ℓ' : Link} {a : Action} (h : Delivers ℓ)
    (hstep : next cfg ℓ a = some ℓ') : Delivers ℓ' := by
  intro s
  obtain ⟨c, hc, hok⟩ := h s
  cases a with
  | send p m w outcome =>
    simp only [next, Option.ite_none_right_eq_some, Option.some.injEq] at hstep
    obtain ⟨⟨hseq, hack⟩, rfl⟩ := hstep
    rcases Side.eq_or_eq_other p s with rfl | rfl
    · exact tracks_send_sender cfg hc hok hseq w outcome
    · exact tracks_send_receiver cfg hc hok hack w outcome
  | receive p =>
    simp only [next] at hstep
    split at hstep
    · cases hstep
    · rename_i frame rest hwire
      cases hstep
      rcases Side.eq_or_eq_other p s with rfl | rfl
      · exact tracks_receive_sender hc hok hwire
      · exact tracks_receive_receiver hc hok hwire
  | ackTimer p outcome =>
    simp only [next, Option.map_eq_some_iff] at hstep
    obtain ⟨t, ht, rfl⟩ := hstep
    rcases Side.eq_or_eq_other p s with rfl | rfl
    · exact tracks_ackTimer_sender cfg hc hok t outcome
    · exact tracks_ackTimer_receiver cfg hc hok ht outcome
  | ping p outcome =>
    simp only [next, Option.some.injEq] at hstep
    subst hstep
    exact tracks_ping cfg hc hok p outcome
  | drop keep =>
    simp only [next, Option.ite_none_right_eq_some, Option.some.injEq] at hstep
    obtain ⟨-, rfl⟩ := hstep
    exact tracks_drop hc hok keep
  | disconnected p =>
    simp only [next, Option.some.injEq] at hstep
    subst hstep
    exact tracks_disconnected hc hok p
  | reopen =>
    simp only [next, Option.ite_none_right_eq_some, Option.some.injEq] at hstep
    obtain ⟨⟨-, hrip⟩, rfl⟩ := hstep
    exact tracks_reopen hc hok (hrip s (by cases s <;> decide))
  | resend p outcome =>
    simp only [next, Option.ite_none_right_eq_some, Option.some.injEq] at hstep
    obtain ⟨⟨hup, hres⟩, rfl⟩ := hstep
    rcases Side.eq_or_eq_other p s with rfl | rfl
    · exact tracks_resend_sender cfg hc hok hup hres outcome
    · obtain ⟨d, hd, -⟩ := h s.other
      exact tracks_resend_receiver cfg hc hok hd.sender outcome

/-- In every run both directions carry a channel that satisfies its invariant. -/
theorem delivers_of_reachable {cfg : LinkConfig} {ℓ : Link} (h : (system cfg).Reachable ℓ) :
    Delivers ℓ :=
  h.invariant (delivers_init cfg) fun _ _ _ hℓ hstep => delivers_next hℓ hstep

/-- **Exactly-once, in-order delivery**: in every run, what an end has accepted is a first part of
what the other end passed to `send`, and everything behind it is still in the buffer of the
sender. -/
theorem accepted_isPrefix_sent (cfg : LinkConfig) {ℓ : Link} (h : (system cfg).Reachable ℓ)
    (p : Side) :
    (ℓ.peer p.other).accepted <+: (ℓ.peer p).sent ∧
    (ℓ.peer p).sent.drop (ℓ.peer p.other).accepted.length <:+
      (ℓ.peer p).buffer.messages.map fun item => item.message.message := by
  obtain ⟨c, hc, hok⟩ := delivers_of_reachable h p
  have hseen := hok.seen_le
  rw [hc.sender.sent] at hseen
  have hlen : (ℓ.peer p.other).accepted.length = c.seen := by
    rw [hc.receiver.accepted, hc.sender.sent, List.length_take]
    omega
  refine ⟨?_, ?_⟩
  · rw [hc.receiver.accepted, hc.sender.sent]
    exact List.take_prefix _ _
  · have hmsgs := hc.sender.messages
    rw [List.map_map] at hmsgs
    rw [hlen, show (fun item : BufferedItem => item.message.message) =
      Frame.message ∘ BufferedItem.message from rfl, hmsgs]
    have hle : c.base ≤ c.seen := hok.base_le.trans hok.pos_le
    rw [← Nat.add_sub_cancel' hle, ← List.drop_drop]
    exact List.drop_suffix _ _


/-- A run with a drop behind the first message: it is sent again on the second transport and
skipped there, the next one is accepted. -/
theorem accepted_isPrefix_sent_resumed :
    let cfg : LinkConfig := ⟨.typeOnly, .binary, fun _ => defaultStatefulReconnectBufferSize⟩
    let first : HubMessage := .cancelInvocation ⟨[], "1"⟩
    let second : HubMessage := .cancelInvocation ⟨[], "2"⟩
    ∃ ℓ, (system cfg).Reachable ℓ ∧ (ℓ.peer .server).accepted = [first, second] ∧
      (ℓ.peer Side.client.other).accepted <+: (ℓ.peer .client).sent ∧
      (ℓ.peer .client).sent.drop (ℓ.peer Side.client.other).accepted.length <:+
        (ℓ.peer .client).buffer.messages.map fun item => item.message.message := by
  intro cfg first second
  have hrun : (system cfg).Reachable _ := ⟨[.send .client first 0 (.ok ()), .receive .server,
    .drop fun _ => 0, .disconnected .client, .disconnected .server, .reopen,
    .resend .client fun _ => .ok (), .resend .server fun _ => .ok (), .receive .server,
    .receive .server, .send .client second 1 (.ok ()), .receive .server], rfl⟩
  exact ⟨_, hrun, rfl, accepted_isPrefix_sent cfg hrun .client⟩

/-- A `Sequence` at the head of a wire names a packet the receiver has counted, or the next one. -/
lemma Delivers.sequenceId_le {ℓ : Link} (h : Delivers ℓ) {p : Side} {f : Frame}
    {rest : List Frame} (hwire : ℓ.wire p = f :: rest) {m : SequenceMessage}
    (hm : f.message = .sequence m) :
    m.sequenceId ≤ (ℓ.peer p).buffer.nextReceivingSequenceId := by
  obtain ⟨c, hc, hok⟩ := h p.other
  have hrec := hc.receiver
  have hout := hc.out
  rw [Side.other_other] at hrec hout
  have hhead : c.out = .announce m.sequenceId :: rest.map packet := by
    rw [hout, hwire, List.map_cons]
    simp [packet, hm, isInvocationMessage, HubMessage.messageType, HubMessage.sequenceId?]
  have hk := (hok.head_announce hhead).1
  have hb := hok.base_le
  rw [hrec.next]
  omega

/-- **A conforming peer is never rejected**: in every run the next id an end expects is at most one
ahead of the latest it has received, and a `Sequence` it receives is not ahead of the next id, so
that `reset_sequence` accepts it. -/
theorem sequence_not_ahead (cfg : LinkConfig) {ℓ : Link} (h : (system cfg).Reachable ℓ)
    (p : Side) :
    (ℓ.peer p).buffer.nextReceivingSequenceId ≤
      (ℓ.peer p).buffer.latestReceivedSequenceId + 1 ∧
    ∀ (f : Frame) (rest : List Frame) (m : SequenceMessage), ℓ.wire p = f :: rest →
      f.message = .sequence m →
        m.sequenceId ≤ (ℓ.peer p).buffer.nextReceivingSequenceId ∧
        ∃ b, ((ℓ.peer p).buffer.shouldProcessMessage f.message).buffer.resetSequence m = .ok b := by
  have hd := delivers_of_reachable h
  refine ⟨?_, fun f rest m hwire hm => ?_⟩
  · obtain ⟨c, hc, hok⟩ := hd p.other
    have hrec := hc.receiver
    rw [Side.other_other] at hrec
    have hp := hok.pos_le
    rw [hrec.next, hrec.latest]
    omega
  · have hle := hd.sequenceId_le hwire hm
    -- a `Sequence` does not touch the counters before it is processed
    have hsame : ((ℓ.peer p).buffer.shouldProcessMessage f.message).buffer =
        (ℓ.peer p).buffer := by
      rw [hm]
      cases hw : (ℓ.peer p).buffer.waitForSequenceMessage <;>
        simp [MessageBuffer.shouldProcessMessage, hw, isInvocationMessage, HubMessage.messageType]
    refine ⟨hle, ?_⟩
    rw [hsame, MessageBuffer.resetSequence, if_neg (by omega)]
    exact ⟨_, rfl⟩

/-- A drop in the middle of a replay: the server has gone back to the first message when the second
transport drops, and the `Sequence` of the third one is not ahead of it. -/
theorem sequence_not_ahead_unfinished :
    let cfg : LinkConfig := ⟨.typeOnly, .binary, fun _ => defaultStatefulReconnectBufferSize⟩
    ∃ (ℓ : Link) (f : Frame) (rest : List Frame), (system cfg).Reachable ℓ ∧
      ℓ.wire .server = f :: rest ∧ f.message = .sequence ⟨1⟩ ∧
      (ℓ.peer .server).buffer.nextReceivingSequenceId = 1 ∧
      (ℓ.peer .server).buffer.latestReceivedSequenceId = 2 ∧
      ∃ b, ((ℓ.peer .server).buffer.shouldProcessMessage f.message).buffer.resetSequence ⟨1⟩ =
        .ok b := by
  intro cfg
  have hrun : (system cfg).Reachable _ := ⟨[
    .send .client (.cancelInvocation ⟨[], "1"⟩) 0 (.ok ()), .receive .server,
    .send .client (.cancelInvocation ⟨[], "2"⟩) 1 (.ok ()), .receive .server,
    .drop fun _ => 0, .disconnected .client, .disconnected .server, .reopen,
    .resend .client fun _ => .ok (), .resend .server fun _ => .ok (), .receive .server,
    .drop fun _ => 0, .disconnected .client, .disconnected .server, .reopen,
    .resend .client fun _ => .ok ()], rfl⟩
  exact ⟨_, _, _, hrun, rfl, rfl, rfl, rfl,
    ((sequence_not_ahead cfg hrun .server).2 _ _ ⟨1⟩ rfl rfl).2⟩

end Signalrr.HubConnection.Link
