import Signalrr.Hub.ProtocolKind
import Signalrr.Transport.SendResults

set_option relaxedAutoImplicit false
set_option autoImplicit false

/-!
# Messages on the wire

A client serializes its messages (`send_hub_message` of `src/hub_connection/dispatch.rs`), the send
queue batches them (`src/transport/send_queue.rs`), and the other end parses every frame by itself.
Whatever the callers of `send` and `stop` do, and whatever flushes fail, the other end reads whole
messages in the order of the sends, and the answers of the queue say which.

## Main definitions

* `Signalrr.Hub.ProtocolKind.Writes` — what is handed to the transport for a message.
* `Signalrr.Hub.ProtocolKind.Readable` — the messages a protocol reads back.
* `Signalrr.Transport.TransportSendQueue.Carries` — the frames of a queue carry the messages of some
  senders, and the answers agree.

## Main results

* `Signalrr.Hub.ProtocolKind.parseMessages_batch` — a batch is read as the messages in it.
* `Signalrr.Transport.TransportSendQueue.carries_of_run` — every run of the queue carries messages.

## Design

A drain that finds `Shutdown` tells the senders of the payloads in the buffer that the connection
has stopped and lets the flush write these payloads, so that answer says nothing about the wire.
Every other answer does, in every run.
-/

namespace Signalrr

open Framing Hub

/-! ## Batches of payloads -/

namespace Transport

/-- How a frame of the transport reaches the parser: `process_text` and `process_binary`. -/
def OutboundPayload.input : OutboundPayload → HubProtocolInput
  | text t => .text t
  | binary b => .binary b

/-- A projection undoes what it is made for, on all of a list. -/
lemma mapM_map {α β : Type} {make : α → β} {proj : β → Option α} (h : ∀ x, proj (make x) = some x)
    (xs : List α) : (xs.map make).mapM proj = some xs := by
  induction xs with
  | nil => rfl
  | cons x xs ih =>
    rw [List.map_cons, List.mapM_cons, h, ih]
    rfl

/-- The batch of texts. -/
lemma batch_map_text {ts : List String} (h : ts ≠ []) :
    batch (ts.map .text) = some (.text (String.join ts)) := by
  cases ts with
  | nil => exact absurd rfl h
  | cons t ts =>
    have hproj : ∀ u, (OutboundPayload.text u).text? = some u := fun _ => rfl
    rw [List.map_cons, batch, mapM_map hproj]
    rfl

/-- The batch of binaries. -/
lemma batch_map_binary {bs : List Bytes} (h : bs ≠ []) :
    batch (bs.map .binary) = some (.binary bs.flatten) := by
  cases bs with
  | nil => exact absurd rfl h
  | cons b bs =>
    have hproj : ∀ u, (OutboundPayload.binary u).binary? = some u := fun _ => rfl
    rw [List.map_cons, batch, mapM_map hproj]
    rfl

end Transport

open Transport

/-! ## What the protocols read of a batch -/

/-- `send_hub_message` behind `write_message`: the frame a payload is sent as. -/
def Hub.TransferFormat.outbound : TransferFormat → Bytes → Option OutboundPayload
  | .text, payload => (ofUtf8 payload).map .text
  | .binary, payload => some (.binary payload)

namespace Hub.ProtocolKind

variable {rmp : Rmp} {serde : SerdeJson} {decoder : BrotliDecoder} {w : ℕ} {kind : ProtocolKind}

/-- `send_hub_message` hands this payload to the transport. -/
def Writes (rmp : Rmp) (serde : SerdeJson) (kind : ProtocolKind) (m : HubMessage)
    (p : OutboundPayload) : Prop :=
  ∃ payload, kind.writeMessage rmp serde m = .ok payload ∧
    kind.transferFormat.outbound payload = some p

/-- What a protocol relies on in the crates it uses. -/
def Relies (rmp : Rmp) (serde : SerdeJson) : ProtocolKind → Prop
  | json => serde.WritesLines
  | messagePack | messagePackBrotli => rmp.Lawful ∧ serde.InvertsJson

/-- The messages a protocol reads back: those whose JSON is read back from its text, and for the
MessagePack protocols those that can be encoded into less than 2 GB. -/
def Readable (rmp : Rmp) (serde : SerdeJson) (kind : ProtocolKind) (m : HubMessage) : Prop :=
  match kind with
  | json => m.WellFormed ∧ RoundTripsText rmp serde m
  | messagePack | messagePackBrotli => Encodable m ∧
    ∀ packed, kind.writeMessage rmp serde m = .ok (BinaryMessageFormat.write packed) →
      packed.length < 2 ^ 31

/-- A message is written as at most one payload. -/
lemma writes_rightUnique : Relator.RightUnique (kind.Writes rmp serde) := by
  rintro m p q ⟨payload, hpayload, hp⟩ ⟨payload', hpayload', hq⟩
  obtain rfl : payload = payload' := Except.ok.inj (hpayload.symm.trans hpayload')
  exact Option.some.inj (hp.symm.trans hq)

/-- A batch of JSON messages is read as the messages in it. -/
lemma parseMessages_batch_json (hlines : serde.WritesLines) {ms : List HubMessage}
    (hms : ∀ m ∈ ms, json.Readable rmp serde m) {ps : List OutboundPayload}
    (hps : List.Forall₂ (json.Writes rmp serde) ms ps) {p : OutboundPayload}
    (hbatch : batch ps = some p) :
    ∃ ms', json.parseMessages rmp serde decoder w p.input = pure ms' ∧
      List.Forall₂ (HubMessage.Same rmp serde) ms ms' := by
  have hsome : ms ≠ [] := by
    rintro rfl
    cases hps
    cases hbatch
  obtain ⟨texts, ms', hwrites, hparse, hsames⟩ :=
    JsonProtocol.parseMessages_written hlines hsome hms
  have htexts : ps = (texts.map TextMessageFormat.write).map .text := by
    refine List.right_unique_forall₂' writes_rightUnique hps ?_
    rw [List.map_map, List.forall₂_map_right_iff]
    refine hwrites.imp fun m json hwrite => ⟨_, hwrite, ?_⟩
    show (ofUtf8 _).map OutboundPayload.text = _
    rw [ofUtf8_utf8]
    rfl
  have hne : texts.map TextMessageFormat.write ≠ [] := by
    intro hnil
    rw [hnil] at htexts
    rw [htexts] at hbatch
    cases hbatch
  obtain rfl : OutboundPayload.text (String.join (texts.map TextMessageFormat.write)) = p := by
    rw [htexts, batch_map_text hne] at hbatch
    exact Option.some.inj hbatch
  refine ⟨ms', ?_, hsames⟩
  show Checked.ofExcept (JsonProtocol.parseMessages serde (.text _)) = _
  rw [hparse, Checked.ofExcept_ok]

/-- A batch of MessagePack messages that fits into memory is read as the messages in it. -/
lemma parseMessages_batch_binary (hkind : kind.transferFormat = .binary)
    {ms : List HubMessage}
    (hread : ms ≠ [] → BatchReadsBack rmp serde w (kind.writeMessage rmp serde)
      (kind.parseMessages rmp serde decoder w) ms)
    (hshort : ∀ m ∈ ms, ∀ packed,
      kind.writeMessage rmp serde m = .ok (BinaryMessageFormat.write packed) →
        packed.length < 2 ^ 31)
    {ps : List OutboundPayload} (hps : List.Forall₂ (kind.Writes rmp serde) ms ps)
    {p : OutboundPayload} (hbatch : batch ps = some p) (hfit : p.content.length < 2 ^ (w - 1)) :
    ∃ ms', kind.parseMessages rmp serde decoder w p.input = pure ms' ∧
      List.Forall₂ (HubMessage.Same rmp serde) ms ms' := by
  have hsome : ms ≠ [] := by
    rintro rfl
    cases hps
    cases hbatch
  obtain ⟨payloads, hpayloads, hread⟩ := hread hsome
  have hbinaries : ps = payloads.map .binary := by
    refine List.right_unique_forall₂' writes_rightUnique hps ?_
    rw [List.forall₂_map_right_iff]
    exact hpayloads.imp fun m payload hwrite => ⟨payload, hwrite, by rw [hkind]; rfl⟩
  have hne : payloads ≠ [] := by
    rintro rfl
    cases hpayloads
    exact hsome rfl
  obtain rfl : OutboundPayload.binary payloads.flatten = p := by
    rw [hbinaries, batch_map_binary hne] at hbatch
    exact Option.some.inj hbatch
  have hsmall : ∀ packed, BinaryMessageFormat.write packed ∈ payloads →
      packed.length < 2 ^ 31 := by
    intro packed hmem
    obtain ⟨i, hi, hget⟩ := List.mem_iff_getElem.mp hmem
    have hlt : i < ms.length := by rwa [hpayloads.length_eq]
    refine hshort ms[i] (List.getElem_mem hlt) packed ?_
    rw [← hget]
    exact hpayloads.get hlt hi
  exact hread hsmall hfit

/-- **A batch is read as the messages in it**, in order, by each of the protocols. -/
lemma parseMessages_batch (hrel : kind.Relies rmp serde) (hw : w = 32 ∨ w = 64)
    {ms : List HubMessage} (hms : ∀ m ∈ ms, kind.Readable rmp serde m) {ps : List OutboundPayload}
    (hps : List.Forall₂ (kind.Writes rmp serde) ms ps) {p : OutboundPayload}
    (hbatch : batch ps = some p) (hfit : p.content.length < 2 ^ (w - 1)) :
    ∃ ms', kind.parseMessages rmp serde decoder w p.input = pure ms' ∧
      List.Forall₂ (HubMessage.Same rmp serde) ms ms' := by
  have hwide : 32 ≤ w := by omega
  cases kind with
  | json => exact parseMessages_batch_json hrel hms hps hbatch
  | messagePack =>
    obtain ⟨hlaw, hserde⟩ := hrel
    refine parseMessages_batch_binary rfl (fun hsome => ?_) (fun m hm => (hms m hm).2) hps hbatch
      hfit
    exact batchReadsBack hw _ hsome fun m hm =>
      MessagePackProtocol.readsBack hlaw hserde hwide (hms m hm).1
  | messagePackBrotli =>
    obtain ⟨hlaw, hserde⟩ := hrel
    refine parseMessages_batch_binary rfl (fun hsome => ?_) (fun m hm => (hms m hm).2) hps hbatch
      hfit
    exact batchReadsBack hw _ hsome fun m hm =>
      MessagePackBrotliProtocol.readsBack hlaw hserde hwide (hms m hm).1

end Hub.ProtocolKind

/-! ## Every run of the queue -/

namespace Transport

open TransportSendQueue

/-- A payload that is not refused is the last one in the buffer. -/
lemma eq_concat_of_pushPayload {buffer buffer' : List OutboundPayload} {p : OutboundPayload}
    (h : pushPayload buffer p = .ok buffer') : buffer' = buffer ++ [p] := by
  cases buffer with
  | nil =>
    cases h
    rfl
  | cons first ps =>
    simp only [pushPayload] at h
    split at h
    · cases h
      rfl
    · cases h

/-- What the senders are told whose payloads a drain found in the buffer together with a `Shutdown`
in the channel. -/
def connectionStopped : Error := .protocol (Error.protocol "connection stopped").toText

/-- What was answered so far, when the transport has taken the payloads of `taken`, and `live` lists
these senders, then those with a payload in the buffer, then those in the channel. -/
structure Told (count : ℕ) (taken live : List Response)
    (answers : List (Response × Except Error Unit)) : Prop where
  order : live.Pairwise (· < ·)
  bound : ∀ r ∈ live, r < count
  answered : ∀ r result, (r, result) ∈ answers → r < count
  ok : ∀ r, (r, .ok ()) ∈ answers → r ∈ taken
  taken : ∀ r ∈ taken, (r, .ok ()) ∈ answers ∨ (r, .error connectionStopped) ∈ answers
  failed : ∀ r error, (r, .error error) ∈ answers → error ≠ connectionStopped → r ∉ live

namespace Told

variable {count : ℕ} {taken live : List Response} {answers : List (Response × Except Error Unit)}

/-- More answers leave those given before. -/
lemma taken_append (h : Told count taken live answers)
    (more : List (Response × Except Error Unit)) : ∀ r ∈ taken,
      (r, .ok ()) ∈ answers ++ more ∨ (r, .error connectionStopped) ∈ answers ++ more :=
  fun r hr => (h.taken r hr).imp (List.mem_append_left _) (List.mem_append_left _)

/-- A payload is sent and its sender waits. -/
lemma send (h : Told count taken live answers) :
    Told (count + 1) taken (live ++ [count]) answers where
  order := by
    refine List.pairwise_append.mpr ⟨h.order, List.pairwise_singleton _ _, ?_⟩
    intro r hr s hs
    rw [List.mem_singleton.mp hs]
    exact h.bound r hr
  bound := by
    simp only [List.forall_mem_append, List.forall_mem_singleton]
    exact ⟨fun r hr => Nat.lt_succ_of_lt (h.bound r hr), Nat.lt_succ_self _⟩
  answered := fun r result hr => Nat.lt_succ_of_lt (h.answered r result hr)
  ok := h.ok
  taken := h.taken
  failed := by
    intro r error hr herror hmem
    rcases List.mem_append.mp hmem with hmem | hmem
    · exact h.failed r error hr herror hmem
    · exact absurd (List.mem_singleton.mp hmem) (Nat.ne_of_lt (h.answered r _ hr))

/-- A payload is sent and refused. -/
lemma sendRefused (h : Told count taken live answers) (error : Error) :
    Told (count + 1) taken live (answers ++ [(count, .error error)]) where
  order := h.order
  bound := fun r hr => Nat.lt_succ_of_lt (h.bound r hr)
  answered := by
    intro r result hr
    rcases List.mem_append.mp hr with hr | hr
    · exact Nat.lt_succ_of_lt (h.answered r result hr)
    · cases List.mem_singleton.mp hr
      exact Nat.lt_succ_self _
  ok := by simpa using h.ok
  taken := h.taken_append _
  failed := by
    intro r error' hr herror hmem
    rcases List.mem_append.mp hr with hr | hr
    · exact h.failed r error' hr herror hmem
    · cases List.mem_singleton.mp hr
      exact absurd (h.bound _ hmem) (Nat.lt_irrefl _)

/-- Some senders get an error; of these, those that stay listed are told that the connection has
stopped. -/
lemma fail (h : Told count taken live answers) {live' : List Response}
    {errors : List (Response × Except Error Unit)} (hsub : live'.Sublist live)
    (herrors : ∀ x ∈ errors, x.2.isOk = false ∧ x.1 ∈ live ∧
      (x.1 ∈ live' → x.2 = .error connectionStopped)) :
    Told count taken live' (answers ++ errors) where
  order := h.order.sublist hsub
  bound := fun r hr => h.bound r (hsub.mem hr)
  answered := by
    intro r result hr
    rcases List.mem_append.mp hr with hr | hr
    · exact h.answered r result hr
    · exact h.bound r (herrors _ hr).2.1
  ok := by
    intro r hr
    rcases List.mem_append.mp hr with hr | hr
    · exact h.ok r hr
    · cases (herrors _ hr).1
  taken := h.taken_append _
  failed := by
    intro r error hr herror hmem
    rcases List.mem_append.mp hr with hr | hr
    · exact h.failed r error hr herror (hsub.mem hmem)
    · exact herror (Except.error.inj ((herrors _ hr).2.2 hmem))

/-- The payloads of a batch are taken, and its senders get `Ok` unless they have been told that the
connection has stopped. -/
lemma take (h : Told count taken live answers) {rs pending : List Response}
    (hrs : ∀ r ∈ rs, r ∈ live) (hpending : ∀ r ∈ pending, r ∈ rs)
    (hstopped : ∀ r ∈ rs, r ∈ pending ∨ (r, .error connectionStopped) ∈ answers) :
    Told count (taken ++ rs) live (answers ++ pending.map fun r => (r, .ok ())) where
  order := h.order
  bound := h.bound
  answered := by
    intro r result hr
    rcases List.mem_append.mp hr with hr | hr
    · exact h.answered r result hr
    · obtain ⟨s, hs, heq⟩ := List.mem_map.mp hr
      cases heq
      exact h.bound _ (hrs _ (hpending _ hs))
  ok := by
    intro r hr
    rcases List.mem_append.mp hr with hr | hr
    · exact List.mem_append_left _ (h.ok r hr)
    · obtain ⟨s, hs, heq⟩ := List.mem_map.mp hr
      cases heq
      exact List.mem_append_right _ (hpending _ hs)
  taken := by
    intro r hr
    rcases List.mem_append.mp hr with hr | hr
    · exact h.taken_append _ r hr
    · rcases hstopped r hr with hr | hr
      · exact .inl (List.mem_append_right _ (List.mem_map_of_mem hr))
      · exact .inr (List.mem_append_left _ hr)
  failed := by
    intro r error hr
    rcases List.mem_append.mp hr with hr | hr
    · exact h.failed r error hr
    · obtain ⟨s, -, heq⟩ := List.mem_map.mp hr
      cases heq

end Told

namespace Ledger

/-- What every step preserves. -/
structure Traced (l : Ledger) : Prop where
  pending : ∀ r ∈ l.queue.pendingResponses, r ∈ l.batch
  /-- Who waits no more for the batch in the buffer was told that the connection has stopped. -/
  stopped : ∀ r ∈ l.batch, r ∈ l.queue.pendingResponses ∨
    (r, .error connectionStopped) ∈ l.queue.answers
  buffer : l.queue.buffer = payloads l.queue.sent l.batch
  waiting : l.queue.worker = .receive → l.batch = []
  channel : ∀ p r, .send p r ∈ l.queue.channel → l.queue.sent[r]? = some p
  told : Told l.queue.sent.length l.written.flatten l.live l.queue.answers
  batches : List.Forall₂ (IsBatch l.queue.sent) l.written l.queue.flushed

namespace Traced

variable {l : Ledger}

/-- The senders whose payloads are in the buffer are among all senders. -/
lemma batch_lt (h : Traced l) : ∀ r ∈ l.batch, r < l.queue.sent.length :=
  fun r hr => h.told.bound r (by simp [live, hr])

/-- Every sender is listed once. -/
lemma nodup (h : Traced l) : l.live.Nodup := h.told.order.imp fun hlt => Nat.ne_of_lt hlt

/-- A sender whose payload is in the buffer is in no other place. -/
lemma batch_notMem (h : Traced l) : ∀ r ∈ l.batch, r ∉ l.written.flatten ++ l.queued := by
  intro r hr hmem
  obtain ⟨hleft, -, hqueued⟩ := List.nodup_append'.mp h.nodup
  rcases List.mem_append.mp hmem with hmem | hmem
  · exact (List.nodup_append'.mp hleft).2.2 hmem hr
  · exact hqueued (List.mem_append_right _ hr) hmem

/-- Nobody waits for an empty buffer. -/
lemma pending_eq_nil (h : Traced l) (hbatch : l.batch = []) : l.queue.pendingResponses = [] := by
  refine List.eq_nil_iff_forall_not_mem.mpr fun r hr => ?_
  have hmem := h.pending r hr
  rw [hbatch] at hmem
  cases hmem

/-- Answers that are given leave what was told. -/
lemma stopped_append (h : Traced l) (more : List (Response × Except Error Unit)) : ∀ r ∈ l.batch,
    r ∈ l.queue.pendingResponses ∨
      (r, .error connectionStopped) ∈ l.queue.answers ++ more :=
  fun r hr => (h.stopped r hr).imp id (List.mem_append_left _)

/-- A payload is sent: those sent before stay what they were. -/
lemma batches_append (h : Traced l) (p : OutboundPayload) :
    List.Forall₂ (IsBatch (l.queue.sent ++ [p])) l.written l.queue.flushed := by
  refine h.batches.imp fun rs q hb => ⟨fun r hr => ?_, ?_⟩
  · rw [List.length_append]
    exact Nat.lt_add_right _ (hb.1 r hr)
  · rw [payloads_append p hb.1]
    exact hb.2

/-- A payload is sent and its command enters the channel. -/
lemma send (h : Traced l) (p : OutboundPayload) :
    Traced ⟨{ l.queue with
      sent := l.queue.sent ++ [p]
      channel := l.queue.channel ++ [.send p l.queue.sent.length] }, l.batch, l.written⟩ where
  pending := h.pending
  stopped := h.stopped
  buffer := by
    rw [payloads_append p h.batch_lt]
    exact h.buffer
  waiting := h.waiting
  channel := by
    intro p' r hr
    rcases List.mem_append.mp hr with hr | hr
    · have hsent := h.channel p' r hr
      rw [List.getElem?_append_left (List.getElem?_eq_some_iff.mp hsent).1]
      exact hsent
    · cases List.mem_singleton.mp hr
      simp
  told := by simpa [live, queued, QueueCommand.response?] using h.told.send
  batches := h.batches_append p

/-- A payload is sent and refused. -/
lemma sendRefused (h : Traced l) (p : OutboundPayload) (error : Error) :
    Traced ⟨{ l.queue with
      sent := l.queue.sent ++ [p]
      answers := l.queue.answers ++ [(l.queue.sent.length, .error error)] },
      l.batch, l.written⟩ where
  pending := h.pending
  stopped := h.stopped_append _
  buffer := by
    rw [payloads_append p h.batch_lt]
    exact h.buffer
  waiting := h.waiting
  channel := by
    intro p' r hr
    have hsent := h.channel p' r hr
    rw [List.getElem?_append_left (List.getElem?_eq_some_iff.mp hsent).1]
    exact hsent
  told := by simpa [live, queued] using h.told.sendRefused error
  batches := h.batches_append p

/-- The worker takes a payload out of the channel. -/
lemma take (h : Traced l) {p : OutboundPayload} {r : Response} {rest : List QueueCommand}
    (hch : l.queue.channel = .send p r :: rest) :
    Traced ⟨{ l.queue with channel := rest }.take p r .drain, l.nextBatch .recv, l.written⟩ := by
  have hr : l.queue.sent[r]? = some p := h.channel p r (by simp [hch])
  have hlive : l.live = l.written.flatten ++ l.batch ++
      r :: rest.filterMap QueueCommand.response? := by
    simp [live, queued, hch, QueueCommand.response?]
  have hrest : ∀ p' r', .send p' r' ∈ rest → l.queue.sent[r']? = some p' :=
    fun p' r' hr' => h.channel p' r' (by simp [hch, hr'])
  simp only [TransportSendQueue.take, nextBatch, hch]
  cases hpush : pushPayload l.queue.buffer p with
  | ok buffer =>
    refine ⟨?_, ?_, ?_, fun hw => (by cases hw), hrest, ?_, h.batches⟩
    · exact List.forall_mem_append.mpr
        ⟨fun s hs => List.mem_append_left _ (h.pending s hs), by simp⟩
    · refine List.forall_mem_append.mpr ⟨fun s hs => ?_, by simp⟩
      exact (h.stopped s hs).imp (List.mem_append_left _) id
    · show buffer = payloads l.queue.sent (l.batch ++ [r])
      rw [eq_concat_of_pushPayload hpush, h.buffer]
      simp [payloads, hr]
    · have htold := h.told
      rw [hlive] at htold
      simpa [live, queued] using htold
  | error error =>
    refine ⟨h.pending, h.stopped_append _, h.buffer, h.waiting, hrest, ?_, h.batches⟩
    have hsub : (l.written.flatten ++ l.batch ++ rest.filterMap QueueCommand.response?).Sublist
        l.live := by
      rw [hlive]
      exact (List.sublist_cons_self r _).append_left _
    -- the senders are listed once, so the refused one is not among the others
    have hnot : r ∉ l.written.flatten ++ l.batch ++ rest.filterMap QueueCommand.response? := by
      have hnodup := h.nodup
      rw [hlive] at hnodup
      exact (List.nodup_middle.mp hnodup).notMem
    refine h.told.fail hsub fun x hx => ?_
    cases List.mem_singleton.mp hx
    exact ⟨rfl, by simp [hlive], fun hmem => absurd hmem hnot⟩

/-- A `Shutdown` that a drain finds is told to everyone who waits, and the buffer stays. -/
lemma drainShutdown (h : Traced l) {rest : List QueueCommand}
    (hch : l.queue.channel = .shutdown :: rest) :
    Traced ⟨{ { l.queue with channel := rest, shutdownTaken := true }.stopPending with
      worker := .flush }, l.batch, l.written⟩ := by
  have hqueued : rest.filterMap QueueCommand.response? = l.queued := by
    rw [queued, hch, List.filterMap_cons_none rfl]
  have hrest : ∀ p r, .send p r ∈ rest → l.queue.sent[r]? = some p :=
    fun p r hr => h.channel p r (by simp [hch, hr])
  have hstop : ∀ x ∈ failPending l.queue.pendingResponses (.protocol "connection stopped"),
      x.2.isOk = false ∧ x.1 ∈ l.live ∧ (x.1 ∈ l.live → x.2 = .error connectionStopped) := by
    intro x hx
    obtain ⟨r, hr, rfl⟩ := List.mem_map.mp hx
    exact ⟨rfl, by simp [live, h.pending r hr], fun _ => rfl⟩
  refine ⟨fun r hr => (by cases hr), fun r hr => .inr ?_, h.buffer, fun hw => (by cases hw),
    hrest, ?_, h.batches⟩
  · -- who still waited is told now
    rcases h.stopped r hr with hr | hr
    · exact List.mem_append_right _ (List.mem_map_of_mem hr)
    · exact List.mem_append_left _ hr
  · have htold := h.told.fail (List.Sublist.refl l.live) hstop
    rw [live, ← hqueued] at htold
    simpa [live, queued, stopPending] using htold

/-- A worker that waits for a command leaves its loop. -/
lemma finish (h : Traced l) (hw : l.queue.worker = .receive) (channel : List QueueCommand)
    (taken : Bool) (hqueued : channel.filterMap QueueCommand.response? = l.queued) :
    Traced ⟨{ l.queue with channel := channel, shutdownTaken := taken }.stopPending.finish,
      l.batch, l.written⟩ := by
  have hbatch : l.batch = [] := h.waiting hw
  have hpending : l.queue.pendingResponses = [] := h.pending_eq_nil hbatch
  have hlive : l.live = l.written.flatten ++ l.queued := by simp [live, hbatch]
  have hnodup := h.nodup
  have hdrop : ∀ x ∈ dropCommands channel, x.2.isOk = false ∧ x.1 ∈ l.queued := by
    intro x hx
    obtain ⟨c, hc, hx⟩ := List.mem_filterMap.mp hx
    cases c with
    | send p r =>
      cases hx
      refine ⟨rfl, ?_⟩
      rw [← hqueued]
      exact List.mem_filterMap.mpr ⟨_, hc, rfl⟩
    | shutdown => cases hx
  have htold : Told l.queue.sent.length l.written.flatten l.written.flatten
      (l.queue.answers ++ dropCommands channel) := by
    refine h.told.fail ?_ fun x hx => ?_
    · rw [hlive]
      exact List.sublist_append_left _ _
    · obtain ⟨hok, hmem⟩ := hdrop x hx
      rw [hlive] at hnodup ⊢
      exact ⟨hok, List.mem_append_right _ hmem,
        fun htaken => absurd hmem ((List.nodup_append'.mp hnodup).2.2 htaken)⟩
  refine ⟨fun r hr => (by cases hr), ?_, h.buffer, fun hw => (by cases hw),
    fun p r hr => (by cases hr), ?_, h.batches⟩
  · rw [hbatch]
    simp
  · simpa [live, queued, hbatch, stopPending, TransportSendQueue.finish, hpending, failPending]
      using htold

/-- A flush ends. -/
lemma flush (h : Traced l) {outcome : Except Error Unit} {p : OutboundPayload}
    (hbuf : Transport.batch l.queue.buffer = some p) :
    Traced ⟨l.queue.complete outcome (writtenBy outcome p), [],
      l.nextWritten (.flush outcome)⟩ := by
  have hne : l.queue.buffer ≠ [] := by
    intro hnil
    rw [hnil] at hbuf
    cases hbuf
  cases outcome with
  | ok u =>
    have hwritten : l.nextWritten (.flush (.ok u)) = l.written ++ [l.batch] := if_neg hne
    rw [hwritten]
    refine ⟨fun r hr => (by cases hr), by simp, rfl, fun _ => rfl, h.channel, ?_, ?_⟩
    · have htold := h.told.take (fun r hr => by simp [live, hr]) h.pending h.stopped
      simpa [live, queued, complete, completePending, Except.mapError] using htold
    · refine List.rel_append h.batches (List.Forall₂.cons ⟨h.batch_lt, ?_⟩ .nil)
      rw [← h.buffer]
      exact hbuf
  | error error =>
    have hwritten : l.nextWritten (.flush (.error error)) = l.written := rfl
    rw [hwritten]
    refine ⟨fun r hr => (by cases hr), by simp, rfl, fun _ => rfl, h.channel, ?_, ?_⟩
    · have hsub : (l.written.flatten ++ l.queued).Sublist l.live :=
        (List.sublist_append_left _ _).append_right _
      have hfailed : ∀ x ∈ completePending l.queue.pendingResponses (.error error),
          x.2.isOk = false ∧ x.1 ∈ l.live ∧
            (x.1 ∈ l.written.flatten ++ l.queued → x.2 = .error connectionStopped) := by
        intro x hx
        obtain ⟨r, hr, rfl⟩ := List.mem_map.mp hx
        have hbatch := h.pending r hr
        exact ⟨rfl, by simp [live, hbatch], fun hmem => absurd hmem (h.batch_notMem r hbatch)⟩
      simpa [live, queued, complete] using h.told.fail hsub hfailed
    · simpa [complete, writtenBy] using h.batches

/-- A flush of an empty buffer ends. -/
lemma flushNothing (h : Traced l) (hbuf : l.queue.buffer = []) (outcome : Except Error Unit) :
    Traced ⟨l.queue.complete (.ok ()) [], [], l.nextWritten (.flush outcome)⟩ := by
  have hbatch : l.batch = [] := by
    have hlen := length_payloads h.batch_lt
    rw [← h.buffer, hbuf] at hlen
    exact List.length_eq_zero_iff.mp hlen.symm
  have hpending : l.queue.pendingResponses = [] := h.pending_eq_nil hbatch
  have hwritten : l.nextWritten (.flush outcome) = l.written := by
    cases outcome with
    | ok u => exact if_pos hbuf
    | error error => rfl
  rw [hwritten]
  refine ⟨fun r hr => (by cases hr), by simp, rfl, fun _ => rfl, h.channel, ?_, ?_⟩
  · simpa [live, queued, hbatch, complete, completePending, hpending] using h.told
  · simpa [complete] using h.batches

/-- **One step**, whatever the drain finds.

**Proof sketch.** A payload and its response channel enter the two vectors together and leave them
together, except in a drain that finds `Shutdown`: there the response channels leave alone, and all
of them with the same answer. -/
lemma step (h : Traced l) {a : Action} {l' : Ledger} (hstep : l.next a = some l') : Traced l' := by
  obtain ⟨q, hq, rfl⟩ := Option.map_eq_some_iff.mp hstep
  cases step_of_next hq with
  | sendRefused p hended => exact h.sendRefused p _
  | send p hended => exact h.send p
  | stopRefused hended =>
    exact ⟨h.pending, h.stopped, h.buffer, h.waiting, h.channel, h.told, h.batches⟩
  | stop hended =>
    refine ⟨h.pending, h.stopped, h.buffer, h.waiting, fun p r hr => h.channel p r ?_, ?_,
      h.batches⟩
    · simpa using hr
    · have hqueued : [QueueCommand.shutdown].filterMap QueueCommand.response? = [] := rfl
      simpa [live, queued, hqueued, nextWritten, nextBatch] using h.told
  | stopReturn hended =>
    exact ⟨h.pending, h.stopped, h.buffer, h.waiting, h.channel, h.told, h.batches⟩
  | drop hstop => exact ⟨h.pending, h.stopped, h.buffer, h.waiting, h.channel, h.told, h.batches⟩
  | recvSend p r rest hw hch => exact h.take hch
  | recvShutdown rest hw hch =>
    have hqueued : rest.filterMap QueueCommand.response? = l.queued := by
      rw [queued, hch, List.filterMap_cons_none rfl]
    have hfinish := h.finish hw rest true hqueued
    simpa only [nextBatch, nextWritten, hch] using hfinish
  | recvClosed hw hch halive =>
    have hbatch : l.nextBatch .recv = l.batch := by simp only [nextBatch, hch]
    rw [hbatch]
    exact h.finish hw l.queue.channel l.queue.shutdownTaken rfl
  | drainSend p r rest hw hch => exact h.take hch
  | drainShutdown rest hw hch =>
    have hdrain := h.drainShutdown hch
    simpa only [nextBatch, nextWritten, hch] using hdrain
  | drainEmpty hw hch =>
    have hbatch : l.nextBatch .tryRecv = l.batch := by simp only [nextBatch, hch]
    rw [hbatch]
    exact ⟨h.pending, h.stopped, h.buffer, fun hw => (by cases hw), h.channel, h.told, h.batches⟩
  | flushNothing outcome hw hbuf => exact h.flushNothing hbuf outcome
  | flush outcome p hw hbuf => exact h.flush hbuf

end Traced

/-- Every run is traced. -/
lemma traced_of_reachable {l : Ledger} (h : system.Reachable l) : Traced l := by
  have hinit : Traced system.init := by
    refine ⟨fun r hr => (by cases hr), fun r hr => (by cases hr), rfl, fun _ => rfl,
      fun p r hr => (by cases hr), ?_, .nil⟩
    constructor <;> simp [system, new, live, queued, TransportSendQueue.new]
  exact h.invariant hinit fun _ _ _ hl hstep => hl.step hstep

end Ledger

/-! ## What the other end reads -/

namespace TransportSendQueue

variable {rmp : Rmp} {serde : SerdeJson} {decoder : BrotliDecoder} {w : ℕ} {kind : ProtocolKind}

/-- The messages of some senders. -/
def messagesOf (ms : List HubMessage) (rs : List Response) : List HubMessage :=
  rs.filterMap fun r => ms[r]?

/-- The frames of a queue carry the messages of these senders, of all the messages sent. -/
structure Carries (rmp : Rmp) (serde : SerdeJson) (decoder : BrotliDecoder) (w : ℕ)
    (kind : ProtocolKind) (ms : List HubMessage) (q : TransportSendQueue)
    (senders : List Response) : Prop where
  /-- In the order in which they were sent, and each once. -/
  order : senders.Pairwise (· < ·)
  /-- Every frame is parsed, and what is parsed of all frames is what was sent. -/
  read : ∃ mss, List.Forall₂ (fun p ms' =>
      kind.parseMessages rmp serde decoder w p.input = pure ms') q.flushed mss ∧
    List.Forall₂ (HubMessage.Same rmp serde) (messagesOf ms senders) mss.flatten
  /-- A sender that got `Ok` is among them. -/
  ok : ∀ r, (r, .ok ()) ∈ q.answers → r ∈ senders
  /-- The others among them were told that the connection has stopped. -/
  answered : ∀ r ∈ senders, (r, .ok ()) ∈ q.answers ∨ (r, .error connectionStopped) ∈ q.answers
  /-- Who got any other error is not among them. -/
  failed : ∀ r error, (r, .error error) ∈ q.answers → error ≠ connectionStopped → r ∉ senders

/-- The messages of some senders are written as their payloads. -/
lemma writes_payloads {ms : List HubMessage} {sent : List OutboundPayload}
    (h : List.Forall₂ (kind.Writes rmp serde) ms sent) (rs : List Response) :
    List.Forall₂ (kind.Writes rmp serde) (messagesOf ms rs) (Ledger.payloads sent rs) := by
  refine List.rel_filterMap (R := (· = ·)) ?_ (List.forall₂_same.mpr fun _ _ => rfl)
  rintro r _ rfl
  show Option.Rel _ ms[r]? sent[r]?
  by_cases hr : r < ms.length
  · have hr' : r < sent.length := by rwa [← h.length_eq]
    rw [List.getElem?_eq_getElem hr, List.getElem?_eq_getElem hr']
    exact .some (h.get hr hr')
  · have hr' : ¬ r < sent.length := by rwa [← h.length_eq]
    rw [List.getElem?_eq_none (Nat.le_of_not_lt hr), List.getElem?_eq_none (Nat.le_of_not_lt hr')]
    exact .none

/-- Batches are read one after the other. -/
lemma read_batches (hrel : kind.Relies rmp serde) (hw : w = 32 ∨ w = 64) {ms : List HubMessage}
    (hms : ∀ m ∈ ms, kind.Readable rmp serde m) {sent : List OutboundPayload}
    (hsent : List.Forall₂ (kind.Writes rmp serde) ms sent) {rss : List (List Response)}
    {ps : List OutboundPayload} (hbatches : List.Forall₂ (Ledger.IsBatch sent) rss ps)
    (hfit : ∀ p ∈ ps, p.content.length < 2 ^ (w - 1)) :
    ∃ mss, List.Forall₂ (fun p ms' =>
        kind.parseMessages rmp serde decoder w p.input = pure ms') ps mss ∧
      List.Forall₂ (HubMessage.Same rmp serde) (messagesOf ms rss.flatten) mss.flatten := by
  induction hbatches with
  | nil => exact ⟨[], .nil, .nil⟩
  | @cons rs p rss ps hbatch _ ih =>
    obtain ⟨hp, hps⟩ := List.forall_mem_cons.mp hfit
    have hreadable : ∀ m ∈ messagesOf ms rs, kind.Readable rmp serde m := by
      intro m hm
      obtain ⟨r, -, hr⟩ := List.mem_filterMap.mp hm
      exact hms m (List.mem_of_getElem? hr)
    obtain ⟨ms', hparse, hsame⟩ : ∃ ms', kind.parseMessages rmp serde decoder w p.input = pure ms' ∧
        List.Forall₂ (HubMessage.Same rmp serde) (messagesOf ms rs) ms' :=
      ProtocolKind.parseMessages_batch hrel hw hreadable (writes_payloads hsent rs) hbatch.2 hp
    obtain ⟨mss, hparses, hsames⟩ := ih hps
    refine ⟨ms' :: mss, .cons hparse hparses, ?_⟩
    rw [List.flatten_cons, List.flatten_cons, messagesOf, List.filterMap_append]
    exact List.rel_append hsame hsames

/-- **The wire carries messages**, in every run of the queue: in whatever order sends and stops
arrive, however they are batched and whatever flushes fail, the other end reads whole messages, in
the order in which they were sent and none twice. Those that got `Ok` are all among them. -/
theorem carries_of_run (hrel : kind.Relies rmp serde) (hw : w = 32 ∨ w = 64) {as : List Action}
    {q : TransportSendQueue} (hrun : system.run as = some q) {ms : List HubMessage}
    (hms : ∀ m ∈ ms, kind.Readable rmp serde m)
    (hsent : List.Forall₂ (kind.Writes rmp serde) ms q.sent)
    (hfit : ∀ p ∈ q.flushed, p.content.length < 2 ^ (w - 1)) :
    ∃ senders, Carries rmp serde decoder w kind ms q senders := by
  obtain ⟨l, hl, rfl⟩ := Option.map_eq_some_iff.mp ((Ledger.run_queue as).trans hrun)
  have htraced : Ledger.Traced l := Ledger.traced_of_reachable ⟨as, hl⟩
  have hsub : l.written.flatten.Sublist l.live :=
    (List.sublist_append_left _ _).trans (List.sublist_append_left _ _)
  exact ⟨l.written.flatten, {
    order := htraced.told.order.sublist hsub
    read := read_batches hrel hw hms hsent htraced.batches hfit
    ok := htraced.told.ok
    answered := htraced.told.taken
    failed := fun r error hr herror hmem =>
      htraced.told.failed r error hr herror (hsub.mem hmem) }⟩

/-- Two sends and a stop that a drain finds behind them. -/
def stoppedRun (first second : String) : List Action :=
  [.send (.text first), .send (.text second), .stop, .recv, .tryRecv, .tryRecv, .flush (.ok ())]

/-- A `Ping` and a `Close` are sent in one frame while the queue is stopped: both senders are told
that the connection has stopped, and the other end reads both messages. -/
theorem carries_of_run_stopped :
    ∃ q, system.run (stoppedRun (TextMessageFormat.write SerdeJson.pingText)
        (TextMessageFormat.write SerdeJson.closeText)) = some q ∧
      q.answers = [(0, .error connectionStopped), (1, .error connectionStopped)] ∧
      ∃ senders, Carries Rmp.reference SerdeJson.samples (fun bytes => .ok bytes) 64 .json
        [.ping, .close ⟨none, some false⟩] q senders := by
  have hrel : ProtocolKind.json.Relies Rmp.reference SerdeJson.samples :=
    SerdeJson.samples_writesLines
  have hwrites : ∀ text, TransferFormat.text.outbound (utf8 text) = some (.text text) := by
    intro text
    show (ofUtf8 _).map OutboundPayload.text = _
    rw [ofUtf8_utf8]
    rfl
  obtain ⟨q, hrun, hq⟩ := Option.map_eq_some_iff.mp
    (show (system.run (stoppedRun (TextMessageFormat.write SerdeJson.pingText)
        (TextMessageFormat.write SerdeJson.closeText))).map
          (fun q => (q.sent, q.flushed, q.answers)) =
        some ([.text (TextMessageFormat.write SerdeJson.pingText),
            .text (TextMessageFormat.write SerdeJson.closeText)],
          [.text (String.join [TextMessageFormat.write SerdeJson.pingText,
            TextMessageFormat.write SerdeJson.closeText])],
          [(0, .error connectionStopped), (1, .error connectionStopped)]) by rfl)
  obtain ⟨hsent, hflushed, hanswers⟩ : q.sent = _ ∧ q.flushed = _ ∧ q.answers = _ :=
    ⟨congrArg Prod.fst hq, congrArg (fun x => x.2.1) hq, congrArg (fun x => x.2.2) hq⟩
  refine ⟨q, hrun, hanswers, carries_of_run hrel (.inr rfl) hrun ?_ ?_ ?_⟩
  · obtain ⟨hping, hclose⟩ := SerdeJson.roundTripsText_samples Rmp.reference
    simp only [List.forall_mem_cons]
    exact ⟨⟨trivial, hping⟩, ⟨trivial, hclose⟩, by simp⟩
  · rw [hsent]
    exact .cons ⟨_, rfl, hwrites _⟩ (.cons ⟨_, rfl, hwrites _⟩ .nil)
  · rw [hflushed]
    decide

end TransportSendQueue

end Transport

end Signalrr
