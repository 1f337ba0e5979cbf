import Mathlib.Data.List.Sort
import Signalrr.Transport.SendQueue

set_option relaxedAutoImplicit false
set_option autoImplicit false

/-!
# Results of the send queue and the wire

`src/transport/send_queue.rs`: the worker keeps the payloads of a batch and the response channels of
their senders in two vectors, `buffer` and `pending_responses`. A `Ledger` records, next to the
queue, whose payloads are in the buffer and whose payloads the transport has taken, so that the
answers the senders got can be compared with the wire.

## Main definitions

* `Signalrr.Transport.Ledger` — the queue, the senders of the payloads in its buffer, and the
  senders of each batch the transport has taken.
* `Signalrr.Transport.Ledger.okSenders` — the senders that got `Ok`, in the order of the queue.
* `Signalrr.Transport.Ledger.Agrees` — the answers agree with the wire.

## Main results

* `Signalrr.Transport.Ledger.run_queue` — the ledger does not influence the queue.
* `Signalrr.Transport.Ledger.agrees_of_meets` — answers and wire agree in runs in which no drain
  finds `Shutdown` at the head of the channel.
* `Signalrr.Transport.Ledger.not_agrees` — in general they do not.
-/

namespace Signalrr.Transport

open Hub TransportSendQueue

/-- The bytes of a payload. -/
def OutboundPayload.content : OutboundPayload → Bytes
  | text t => t.toByteArray.data.toList
  | binary b => b

/-- The sender of a command. -/
def QueueCommand.response? : QueueCommand → Option Response
  | send _ response => some response
  | shutdown => none

/-! ## Ledgers -/

/-- A queue, the senders of the payloads in its buffer, and the senders of the payloads of each
batch the transport has taken. -/
structure Ledger where
  queue : TransportSendQueue
  batch : List Response
  written : List (List Response)

namespace Ledger

/-- Nothing has been sent. -/
def new : Ledger := ⟨.new, [], []⟩

/-- The senders of the payloads in the buffer after a step. -/
def nextBatch (l : Ledger) : Action → List Response
  | .recv | .tryRecv =>
    match l.queue.channel with
    | .send payload response :: _ =>
      match pushPayload l.queue.buffer payload with
      | .ok _ => l.batch ++ [response]
      | .error _ => l.batch
    | _ => l.batch
  | .flush _ => []
  | .send _ | .stop | .stopReturn | .drop => l.batch

/-- The senders of the batches the transport has taken after a step. -/
def nextWritten (l : Ledger) : Action → List (List Response)
  | .flush (.ok ()) => if l.queue.buffer = [] then l.written else l.written ++ [l.batch]
  | _ => l.written

/-- One step of the queue, with its ledger. -/
def next (l : Ledger) (a : Action) : Option Ledger :=
  (l.queue.next a).map fun q => ⟨q, l.nextBatch a, l.nextWritten a⟩

/-- The runs of a send queue, with its ledger. -/
def system : Automata.System Ledger Action := ⟨new, next⟩

/-- The ledger does not influence the queue. -/
theorem run_queue (as : List Action) :
    (system.run as).map queue = TransportSendQueue.system.run as := by
  have hrun : ∀ l : Ledger, (system.runFrom l as).map queue =
      TransportSendQueue.system.runFrom l.queue as := by
    induction as with
    | nil => exact fun _ => rfl
    | cons a as ih =>
      intro l
      show ((l.next a).bind fun l' => system.runFrom l' as).map queue =
        (l.queue.next a).bind fun q => TransportSendQueue.system.runFrom q as
      unfold next
      cases l.queue.next a with
      | none => rfl
      | some q => exact ih _
  exact hrun new

/-- The payloads of some senders. -/
def payloads (sent : List OutboundPayload) (rs : List Response) : List OutboundPayload :=
  rs.filterMap fun r => sent[r]?

/-- The senders of the commands in the channel. -/
def queued (l : Ledger) : List Response := l.queue.channel.filterMap QueueCommand.response?

/-- A sender got `Ok`. -/
def gotOk (l : Ledger) (r : Response) : Bool :=
  l.queue.answers.any fun answer => answer.1 == r && answer.2.isOk

/-- The senders that got `Ok`, in the order in which their payloads were enqueued. -/
def okSenders (l : Ledger) : List Response := (List.range l.queue.sent.length).filter l.gotOk

/-- The answers agree with the wire. -/
structure Agrees (l : Ledger) : Prop where
  /-- A batch the transport has taken is made of the payloads of its senders. -/
  batches : List.Forall₂ (fun rs p => Transport.batch (payloads l.queue.sent rs) = some p)
    l.written l.queue.flushed
  /-- These senders are the ones that got `Ok`, in the order of the queue and each once. -/
  written : l.written.flatten = l.okSenders
  /-- The bytes on the wire are those of their payloads. -/
  content : l.queue.flushed.flatMap OutboundPayload.content =
    (payloads l.queue.sent l.okSenders).flatMap OutboundPayload.content
  /-- The payload of a sender that got an error is in none of the batches. -/
  failed : ∀ r error, (r, .error error) ∈ l.queue.answers → ∀ rs ∈ l.written, r ∉ rs

end Ledger

/-! ## The bytes of a batch -/

/-- The bytes of joined texts. -/
lemma content_join (ts : List String) :
    (OutboundPayload.text (String.join ts)).content =
      (ts.map OutboundPayload.text).flatMap OutboundPayload.content := by
  have hfold : ∀ acc : String, (OutboundPayload.text (ts.foldl (fun r s => r ++ s) acc)).content =
      acc.toByteArray.data.toList ++
        (ts.map OutboundPayload.text).flatMap OutboundPayload.content := by
    induction ts with
    | nil =>
      intro acc
      simp [OutboundPayload.content]
    | cons t ts ih =>
      intro acc
      rw [List.foldl_cons, ih]
      simp [OutboundPayload.content, String.toByteArray_append, ByteArray.data_append]
  simpa [String.join] using hfold ""

/-- The bytes of joined parts. -/
lemma content_flatten (parts : List Bytes) :
    (OutboundPayload.binary parts.flatten).content =
      (parts.map OutboundPayload.binary).flatMap OutboundPayload.content := by
  induction parts with
  | nil => rfl
  | cons b parts ih => simpa [OutboundPayload.content] using ih

/-- Payloads that all answer a projection are the images of the answers. -/
lemma eq_map_of_mapM {β : Type} {proj : OutboundPayload → Option β} {mk : β → OutboundPayload}
    (hproj : ∀ p b, proj p = some b → p = mk b) {ps : List OutboundPayload} {bs : List β}
    (h : ps.mapM proj = some bs) : ps = bs.map mk := by
  induction ps generalizing bs with
  | nil =>
    cases h
    rfl
  | cons p ps ih =>
    simp only [List.mapM_cons, Option.bind_eq_bind, Option.bind_eq_some_iff] at h
    obtain ⟨b, hb, bs', hbs, h⟩ := h
    cases h
    rw [hproj p b hb, ih hbs, List.map_cons]

/-- The bytes of a batch are those of its payloads, in order. -/
lemma content_batch {ps : List OutboundPayload} {p : OutboundPayload} (h : batch ps = some p) :
    p.content = ps.flatMap OutboundPayload.content := by
  cases ps with
  | nil => cases h
  | cons first rest =>
    cases first with
    | text t =>
      obtain ⟨ts, hts, rfl⟩ := Option.map_eq_some_iff.mp h
      have hrest : rest = ts.map OutboundPayload.text :=
        eq_map_of_mapM (fun p b hb => by cases p <;> cases hb; rfl) hts
      rw [content_join, hrest, List.map_cons]
    | binary b =>
      obtain ⟨parts, hparts, rfl⟩ := Option.map_eq_some_iff.mp h
      have hrest : rest = parts.map OutboundPayload.binary :=
        eq_map_of_mapM (fun p b hb => by cases p <;> cases hb; rfl) hparts
      rw [content_flatten, hrest, List.map_cons]

namespace Ledger

/-! ## Payloads and their senders -/

/-- A further payload does not change those sent before. -/
lemma payloads_append {sent : List OutboundPayload} (p : OutboundPayload) {rs : List Response}
    (h : ∀ r ∈ rs, r < sent.length) : payloads (sent ++ [p]) rs = payloads sent rs := by
  refine List.filterMap_congr fun r hr => ?_
  rw [List.getElem?_append_left (h r hr)]

/-- Every sender has a payload. -/
lemma length_payloads {sent : List OutboundPayload} {rs : List Response}
    (h : ∀ r ∈ rs, r < sent.length) : (payloads sent rs).length = rs.length := by
  induction rs with
  | nil => rfl
  | cons r rs ih =>
    obtain ⟨hr, hrs⟩ := List.forall_mem_cons.mp h
    have hcons : payloads sent (r :: rs) = sent[r] :: payloads sent rs := by
      simp [payloads, List.getElem?_eq_getElem hr]
    rw [hcons, List.length_cons, ih hrs, List.length_cons]

/-- What a batch of these senders is. -/
def IsBatch (sent : List OutboundPayload) (rs : List Response) (p : OutboundPayload) : Prop :=
  (∀ r ∈ rs, r < sent.length) ∧ Transport.batch (payloads sent rs) = some p

/-- The bytes of batches are those of the payloads of their senders. -/
lemma content_batches {sent : List OutboundPayload} {rss : List (List Response)}
    {ps : List OutboundPayload} (h : List.Forall₂ (IsBatch sent) rss ps) :
    ps.flatMap OutboundPayload.content =
      (payloads sent rss.flatten).flatMap OutboundPayload.content := by
  induction h with
  | nil => rfl
  | cons hbatch _ ih =>
    rw [List.flatMap_cons, ih, content_batch hbatch.2, List.flatten_cons]
    simp [payloads]

/-! ## Answers -/

/-- The answers given so far and the senders whose payloads were taken by the transport, when `live`
lists these senders followed by the ones that wait for an answer, and `count` payloads were sent. -/
structure Answered (count : ℕ) (taken live : List Response)
    (answers : List (Response × Except Error Unit)) : Prop where
  order : live.Pairwise (· < ·)
  bound : ∀ r ∈ live, r < count
  answered : ∀ r result, (r, result) ∈ answers → r < count
  ok : ∀ r, r ∈ taken ↔ (r, .ok ()) ∈ answers
  failed : ∀ r error, (r, .error error) ∈ answers → r ∉ live

namespace Answered

variable {count : ℕ} {taken live : List Response} {answers : List (Response × Except Error Unit)}

/-- A payload is sent and its sender waits. -/
lemma send (h : Answered count taken live answers) :
    Answered (count + 1) taken (live ++ [count]) answers where
  order := by
    refine List.pairwise_append.mpr ⟨h.order, List.pairwise_singleton _ _, ?_⟩
    intro r hr s hs
    rw [List.mem_singleton.mp hs]
    exact h.bound r hr
  bound := by
    intro r hr
    rcases List.mem_append.mp hr with hr | hr
    · exact Nat.lt_succ_of_lt (h.bound r hr)
    · rw [List.mem_singleton.mp hr]
      exact Nat.lt_succ_self _
  answered := fun r result hr => Nat.lt_succ_of_lt (h.answered r result hr)
  ok := h.ok
  failed := by
    intro r error hr hmem
    rcases List.mem_append.mp hmem with hmem | hmem
    · exact h.failed r error hr hmem
    · exact absurd (List.mem_singleton.mp hmem) (Nat.ne_of_lt (h.answered r _ hr))

/-- A payload is sent and refused. -/
lemma sendRefused (h : Answered count taken live answers) (error : Error) :
    Answered (count + 1) taken live (answers ++ [(count, .error error)]) where
  order := h.order
  bound := fun r hr => Nat.lt_succ_of_lt (h.bound r hr)
  answered := by
    intro r result hr
    rcases List.mem_append.mp hr with hr | hr
    · exact Nat.lt_succ_of_lt (h.answered r result hr)
    · cases List.mem_singleton.mp hr
      exact Nat.lt_succ_self _
  ok := by simpa using h.ok
  failed := by
    intro r error' hr hmem
    rcases List.mem_append.mp hr with hr | hr
    · exact h.failed r error' hr hmem
    · cases List.mem_singleton.mp hr
      exact absurd (h.bound _ hmem) (Nat.lt_irrefl _)

/-- Some waiting senders get an error, and their payloads are dropped. -/
lemma fail (h : Answered count taken live answers) {live' : List Response}
    {errors : List (Response × Except Error Unit)} (hsub : live'.Sublist live)
    (herrors : ∀ x ∈ errors, x.2.isOk = false ∧ x.1 ∈ live ∧ x.1 ∉ live') :
    Answered count taken live' (answers ++ errors) where
  order := h.order.sublist hsub
  bound := fun r hr => h.bound r (hsub.mem hr)
  answered := by
    intro r result hr
    rcases List.mem_append.mp hr with hr | hr
    · exact h.answered r result hr
    · exact h.bound r (herrors _ hr).2.1
  ok := by
    intro r
    rw [List.mem_append, h.ok r]
    refine ⟨Or.inl, fun hr => hr.resolve_right fun hr => ?_⟩
    cases (herrors _ hr).1
  failed := by
    intro r error hr hmem
    rcases List.mem_append.mp hr with hr | hr
    · exact h.failed r error hr (hsub.mem hmem)
    · exact (herrors _ hr).2.2 hmem

/-- Some waiting senders get `Ok`, and their payloads are taken. -/
lemma take (h : Answered count taken live answers) {rs : List Response}
    (hrs : ∀ r ∈ rs, r ∈ live) :
    Answered count (taken ++ rs) live (answers ++ rs.map fun r => (r, .ok ())) where
  order := h.order
  bound := h.bound
  answered := by
    intro r result hr
    rcases List.mem_append.mp hr with hr | hr
    · exact h.answered r result hr
    · obtain ⟨s, hs, heq⟩ := List.mem_map.mp hr
      cases heq
      exact h.bound _ (hrs _ hs)
  ok := by
    intro r
    rw [List.mem_append, List.mem_append, h.ok r]
    simp
  failed := by
    intro r error hr
    rcases List.mem_append.mp hr with hr | hr
    · exact h.failed r error hr
    · obtain ⟨s, -, heq⟩ := List.mem_map.mp hr
      cases heq

end Answered

/-! ## Every payload is accounted for -/

/-- The senders whose payloads the transport has taken, then those whose payloads are in the buffer,
then those whose payloads are in the channel. -/
def live (l : Ledger) : List Response := l.written.flatten ++ l.batch ++ l.queued

/-- What the steps preserve under the condition. -/
structure Accounted (l : Ledger) : Prop where
  /-- The two vectors of the worker are in step. -/
  pending : l.queue.pendingResponses = l.batch
  buffer : l.queue.buffer = payloads l.queue.sent l.batch
  /-- A worker that waits for a command has nothing in its buffer. -/
  waiting : l.queue.worker = .receive → l.batch = []
  channel : ∀ p r, .send p r ∈ l.queue.channel → l.queue.sent[r]? = some p
  answered : Answered l.queue.sent.length l.written.flatten l.live l.queue.answers
  batches : List.Forall₂ (IsBatch l.queue.sent) l.written l.queue.flushed

namespace Accounted

variable {l : Ledger}

/-- The senders whose payloads are in the buffer are among all senders. -/
lemma batch_lt (h : Accounted l) : ∀ r ∈ l.batch, r < l.queue.sent.length :=
  fun r hr => h.answered.bound r (by simp [live, hr])

/-- Every sender is listed once. -/
lemma nodup (h : Accounted l) : l.live.Nodup := h.answered.order.imp fun hlt => Nat.ne_of_lt hlt

/-- A sender whose payload is in the buffer is in no other place. -/
lemma batch_notMem (h : Accounted l) : ∀ r ∈ l.batch, r ∉ l.written.flatten ++ l.queued := by
  intro r hr hmem
  obtain ⟨hleft, -, hqueued⟩ := List.nodup_append'.mp h.nodup
  rcases List.mem_append.mp hmem with hmem | hmem
  · exact (List.nodup_append'.mp hleft).2.2 hmem hr
  · exact hqueued (List.mem_append_right _ hr) hmem

/-- **Accounted ledgers agree with the wire.**

**Proof sketch.** The taken senders and the ones that got `Ok` are the same set, and both lists are
increasing. -/
lemma agrees (h : Accounted l) : Agrees l := by
  have hok : ∀ r, l.gotOk r = true ↔ (r, .ok ()) ∈ l.queue.answers := by
    intro r
    simp only [gotOk, List.any_eq_true, Bool.and_eq_true, beq_iff_eq]
    constructor
    · rintro ⟨⟨s, result⟩, hmem, rfl, hresult⟩
      cases result with
      | ok u => exact hmem
      | error e => cases hresult
    · exact fun hmem => ⟨_, hmem, rfl, rfl⟩
  have hwritten : l.written.flatten = l.okSenders := by
    have hsub : l.written.flatten.Sublist l.live :=
      (List.sublist_append_left _ _).trans (List.sublist_append_left _ _)
    have hrange : l.okSenders.Pairwise (· < ·) := List.pairwise_lt_range.filter _
    refine (h.answered.order.sublist hsub).eq_of_mem_iff hrange fun r => ?_
    rw [okSenders, List.mem_filter, List.mem_range, hok, h.answered.ok r]
    exact ⟨fun hr => ⟨h.answered.answered r _ hr, hr⟩, And.right⟩
  refine ⟨h.batches.imp fun _ _ hb => hb.2, hwritten, ?_, fun r error hr rs hrs hmem => ?_⟩
  · rw [content_batches h.batches, hwritten]
  · refine h.answered.failed r error hr ?_
    simp only [live, List.mem_append]
    exact .inl (.inl (List.mem_flatten_of_mem hrs hmem))

/-- A payload is sent: those sent before stay what they were. -/
lemma batches_append (h : Accounted l) (p : OutboundPayload) :
    List.Forall₂ (IsBatch (l.queue.sent ++ [p])) l.written l.queue.flushed := by
  refine h.batches.imp fun rs q hb => ⟨fun r hr => ?_, ?_⟩
  · rw [List.length_append]
    exact Nat.lt_add_right _ (hb.1 r hr)
  · rw [payloads_append p hb.1]
    exact hb.2

/-- A payload is sent and its command enters the channel. -/
lemma send (h : Accounted l) (p : OutboundPayload) :
    Accounted ⟨{ l.queue with
      sent := l.queue.sent ++ [p]
      channel := l.queue.channel ++ [.send p l.queue.sent.length] }, l.batch, l.written⟩ where
  pending := h.pending
  buffer := by
    rw [payloads_append p h.batch_lt]
    exact h.buffer
  waiting := h.waiting
  channel := by
    intro p' r hr
    rcases List.mem_append.mp hr with hr | hr
    · have hsent := h.channel p' r hr
      rw [List.getElem?_append_left (List.getElem?_eq_some_iff.mp hsent).1]
      exact hsent
    · cases List.mem_singleton.mp hr
      simp
  answered := by
    simpa [live, queued, QueueCommand.response?] using h.answered.send
  batches := h.batches_append p

/-- A payload is sent and refused. -/
lemma sendRefused (h : Accounted l) (p : OutboundPayload) (error : Error) :
    Accounted ⟨{ l.queue with
      sent := l.queue.sent ++ [p]
      answers := l.queue.answers ++ [(l.queue.sent.length, .error error)] },
      l.batch, l.written⟩ where
  pending := h.pending
  buffer := by
    rw [payloads_append p h.batch_lt]
    exact h.buffer
  waiting := h.waiting
  channel := by
    intro p' r hr
    have hsent := h.channel p' r hr
    rw [List.getElem?_append_left (List.getElem?_eq_some_iff.mp hsent).1]
    exact hsent
  answered := by
    simpa [live, queued] using h.answered.sendRefused error
  batches := h.batches_append p

/-- The worker takes a payload out of the channel. -/
lemma take (h : Accounted l) {p : OutboundPayload} {r : Response} {rest : List QueueCommand}
    (hch : l.queue.channel = .send p r :: rest) :
    Accounted ⟨{ l.queue with channel := rest }.take p r .drain,
      match pushPayload l.queue.buffer p with
      | .ok _ => l.batch ++ [r]
      | .error _ => l.batch, l.written⟩ := by
  have hr : l.queue.sent[r]? = some p := h.channel p r (by simp [hch])
  have hlive : l.live = l.written.flatten ++ l.batch ++
      r :: rest.filterMap QueueCommand.response? := by
    simp [live, queued, hch, QueueCommand.response?]
  have hrest : ∀ p' r', .send p' r' ∈ rest → l.queue.sent[r']? = some p' :=
    fun p' r' hr' => h.channel p' r' (by simp [hch, hr'])
  unfold TransportSendQueue.take
  cases hpush : pushPayload l.queue.buffer p with
  | ok buffer =>
    have hbuffer : buffer = l.queue.buffer ++ [p] := by
      cases hbuf : l.queue.buffer with
      | nil =>
        rw [hbuf] at hpush
        cases hpush
        rfl
      | cons first ps =>
        rw [hbuf] at hpush
        simp only [pushPayload] at hpush
        split at hpush
        · cases hpush
          rfl
        · cases hpush
    refine ⟨?_, ?_, fun hw => (by cases hw), hrest, ?_, h.batches⟩
    · show l.queue.pendingResponses ++ [r] = l.batch ++ [r]
      rw [h.pending]
    · show buffer = payloads l.queue.sent (l.batch ++ [r])
      rw [hbuffer, h.buffer]
      simp [payloads, hr]
    · have := h.answered
      rw [hlive] at this
      simpa [live, queued] using this
  | error error =>
    refine ⟨h.pending, h.buffer, h.waiting, hrest, ?_, h.batches⟩
    have hsub : (l.written.flatten ++ l.batch ++ rest.filterMap QueueCommand.response?).Sublist
        l.live := by
      rw [hlive]
      exact (List.sublist_cons_self r _).append_left _
    -- the senders are listed once, so the refused one is not among the others
    have hnot : r ∉ l.written.flatten ++ l.batch ++ rest.filterMap QueueCommand.response? := by
      have hnodup := h.nodup
      rw [hlive] at hnodup
      exact (List.nodup_middle.mp hnodup).notMem
    refine h.answered.fail hsub fun x hx => ?_
    cases List.mem_singleton.mp hx
    exact ⟨rfl, by simp [hlive], hnot⟩

/-- A worker that waits for a command leaves its loop. -/
lemma finish (h : Accounted l) (hw : l.queue.worker = .receive) (channel : List QueueCommand)
    (taken : Bool) (hqueued : channel.filterMap QueueCommand.response? = l.queued) :
    Accounted ⟨{ l.queue with channel := channel, shutdownTaken := taken }.stopPending.finish,
      l.batch, l.written⟩ := by
  have hbatch : l.batch = [] := h.waiting hw
  have hpending : l.queue.pendingResponses = [] := by rw [h.pending, hbatch]
  refine ⟨hbatch.symm, h.buffer, fun hw => (by cases hw), fun p r hr => (by cases hr), ?_,
    h.batches⟩
  have hlive : l.live = l.written.flatten ++ l.queued := by simp [live, hbatch]
  have hnodup := h.nodup
  have hdrop : ∀ x ∈ dropCommands channel, x.2.isOk = false ∧ x.1 ∈ l.queued := by
    intro x hx
    obtain ⟨c, hc, hx⟩ := List.mem_filterMap.mp hx
    cases c with
    | send p r =>
      cases hx
      refine ⟨rfl, ?_⟩
      rw [← hqueued]
      exact List.mem_filterMap.mpr ⟨_, hc, rfl⟩
    | shutdown => cases hx
  have hanswered : Answered l.queue.sent.length l.written.flatten l.written.flatten
      (l.queue.answers ++ dropCommands channel) := by
    refine h.answered.fail ?_ fun x hx => ?_
    · rw [hlive]
      exact List.sublist_append_left _ _
    · obtain ⟨hok, hmem⟩ := hdrop x hx
      rw [hlive] at hnodup ⊢
      exact ⟨hok, List.mem_append_right _ hmem,
        fun htaken => (List.nodup_append'.mp hnodup).2.2 htaken hmem⟩
  simpa [live, queued, hbatch, stopPending, TransportSendQueue.finish, hpending, failPending]
    using hanswered

/-- A flush ends. -/
lemma flush (h : Accounted l) {outcome : Except Error Unit} {p : OutboundPayload}
    (hbuf : Transport.batch l.queue.buffer = some p) :
    Accounted ⟨l.queue.complete outcome (writtenBy outcome p), [],
      l.nextWritten (.flush outcome)⟩ := by
  have hne : l.queue.buffer ≠ [] := by
    intro hnil
    rw [hnil] at hbuf
    cases hbuf
  cases outcome with
  | ok u =>
    have hwritten : l.nextWritten (.flush (.ok u)) = l.written ++ [l.batch] := if_neg hne
    rw [hwritten]
    refine ⟨rfl, rfl, fun _ => rfl, h.channel, ?_, ?_⟩
    · have := h.answered.take fun r (hr : r ∈ l.batch) => (by simp [live, hr])
      simpa [live, queued, complete, completePending, Except.mapError, h.pending] using this
    · refine List.rel_append h.batches (List.Forall₂.cons ⟨h.batch_lt, ?_⟩ .nil)
      rw [← h.buffer]
      exact hbuf
  | error error =>
    have hwritten : l.nextWritten (.flush (.error error)) = l.written := rfl
    rw [hwritten]
    refine ⟨rfl, rfl, fun _ => rfl, h.channel, ?_, ?_⟩
    · have hsub : (l.written.flatten ++ l.queued).Sublist l.live :=
        (List.sublist_append_left _ _).append_right _
      have hfailed : ∀ x ∈ completePending l.batch (.error error),
          x.2.isOk = false ∧ x.1 ∈ l.live ∧ x.1 ∉ l.written.flatten ++ l.queued := by
        intro x hx
        obtain ⟨r, hr, rfl⟩ := List.mem_map.mp hx
        exact ⟨rfl, by simp [live, hr], h.batch_notMem r hr⟩
      simpa [live, queued, complete, h.pending] using h.answered.fail hsub hfailed
    · simpa [complete, writtenBy] using h.batches

/-- A flush of an empty buffer ends. -/
lemma flushNothing (h : Accounted l) (hbuf : l.queue.buffer = []) (outcome : Except Error Unit) :
    Accounted ⟨l.queue.complete (.ok ()) [], [], l.nextWritten (.flush outcome)⟩ := by
  have hbatch : l.batch = [] := by
    have hlen := length_payloads h.batch_lt
    rw [← h.buffer, hbuf] at hlen
    exact List.length_eq_zero_iff.mp hlen.symm
  have hwritten : l.nextWritten (.flush outcome) = l.written := by
    cases outcome with
    | ok u => exact if_pos hbuf
    | error error => rfl
  rw [hwritten]
  refine ⟨rfl, rfl, fun _ => rfl, h.channel, ?_, ?_⟩
  · simpa [live, queued, hbatch, complete, completePending, h.pending] using h.answered
  · simpa [complete] using h.batches

/-- **One step** under the condition.

**Proof sketch.** A payload and its response channel enter the two vectors together. A flush empties
both. `Shutdown` empties one of them only: it is taken by `recv`, when both are empty, and by the
condition not by the drain. -/
lemma step (h : Accounted l) {a : Action} {l' : Ledger} (hok : DrainsNoShutdown l.queue a)
    (hstep : l.next a = some l') : Accounted l' := by
  obtain ⟨q, hq, rfl⟩ := Option.map_eq_some_iff.mp hstep
  cases step_of_next hq with
  | sendRefused p hended => exact h.sendRefused p _
  | send p hended => exact h.send p
  | stopRefused hended =>
    exact ⟨h.pending, h.buffer, h.waiting, h.channel, h.answered, h.batches⟩
  | stop hended =>
    refine ⟨h.pending, h.buffer, h.waiting, fun p r hr => h.channel p r ?_, ?_, h.batches⟩
    · simpa using hr
    · have hqueued : [QueueCommand.shutdown].filterMap QueueCommand.response? = [] := rfl
      simpa [live, queued, hqueued, nextWritten, nextBatch] using h.answered
  | stopReturn hended =>
    exact ⟨h.pending, h.buffer, h.waiting, h.channel, h.answered, h.batches⟩
  | drop hstop => exact ⟨h.pending, h.buffer, h.waiting, h.channel, h.answered, h.batches⟩
  | recvSend p r rest hw hch =>
    have := h.take hch
    simpa only [nextBatch, nextWritten, hch] using this
  | recvShutdown rest hw hch =>
    have hqueued : rest.filterMap QueueCommand.response? = l.queued := by
      rw [queued, hch, List.filterMap_cons_none rfl]
    have := h.finish hw rest true hqueued
    simpa only [nextBatch, nextWritten, hch] using this
  | recvClosed hw hch halive =>
    have hbatch : l.nextBatch .recv = l.batch := by simp only [nextBatch, hch]
    rw [hbatch]
    exact h.finish hw l.queue.channel l.queue.shutdownTaken rfl
  | drainSend p r rest hw hch =>
    have := h.take hch
    simpa only [nextBatch, nextWritten, hch] using this
  | drainShutdown rest hw hch =>
    have := hok rfl
    simp [hch] at this
  | drainEmpty hw hch =>
    have hbatch : l.nextBatch .tryRecv = l.batch := by simp only [nextBatch, hch]
    rw [hbatch]
    exact ⟨h.pending, h.buffer, fun hw => (by cases hw), h.channel, h.answered, h.batches⟩
  | flushNothing outcome hw hbuf => exact h.flushNothing hbuf outcome
  | flush outcome p hw hbuf => exact h.flush hbuf

end Accounted

/-- The condition on a step: a drain does not find `Shutdown` at the head of the channel. -/
def DrainsNoShutdown (l : Ledger) (a : Action) : Prop :=
  TransportSendQueue.DrainsNoShutdown l.queue a

instance (l : Ledger) : ∀ a, Decidable (l.DrainsNoShutdown a)
  | .tryRecv =>
    decidable_of_iff (l.queue.channel.head? ≠ some .shutdown) ⟨fun h _ => h, fun h => h rfl⟩
  | .send _ | .stop | .stopReturn | .drop | .recv | .flush _ => .isTrue fun h => by cases h

/-- **Answers agree with the wire** in a run in which no drain finds `Shutdown` at the head of the
channel. -/
theorem agrees_of_meets {as : List Action} {l : Ledger} (hrun : system.run as = some l)
    (hm : system.Meets DrainsNoShutdown as) : Agrees l := by
  have hinit : Accounted system.init := by
    refine ⟨rfl, rfl, fun _ => rfl, fun p r hr => (by cases hr), ?_, .nil⟩
    constructor <;> simp [system, new, live, queued, TransportSendQueue.new]
  have h : Accounted l := Automata.System.invariant_of_meets hinit
    (fun _ _ _ hl hok hstep => hl.step hok hstep) hrun hm
  exact h.agrees

/-- Two texts are batched and taken, a third is lost in a failing flush. -/
theorem agrees_of_meets_batched :
    ∃ l, system.run [.send (.text "a"), .send (.text "b"), .recv, .tryRecv, .tryRecv,
        .flush (.ok ()), .send (.text "c"), .recv, .tryRecv,
        .flush (.error (.webSocket "broken pipe")), .stop, .recv] = some l ∧
      l.queue.flushed = [.text "ab"] ∧ Agrees l := by
  obtain ⟨l, hrun, hflushed⟩ := Option.map_eq_some_iff.mp
    (show (system.run [.send (.text "a"), .send (.text "b"), .recv, .tryRecv, .tryRecv,
      .flush (.ok ()), .send (.text "c"), .recv, .tryRecv,
      .flush (.error (.webSocket "broken pipe")), .stop, .recv]).map
        (fun l => l.queue.flushed) = some [.text "ab"] by rfl)
  exact ⟨l, hrun, hflushed, agrees_of_meets hrun (by decide)⟩

/-- **Answers and wire may disagree**: a drain that finds `Shutdown` behind a payload tells its
sender that the connection has stopped, and the flush that follows writes the payload. -/
theorem not_agrees : ¬ ∀ as l, system.run as = some l → Agrees l := by
  intro h
  have hagrees := h [.send (.text "a"), .stop, .recv, .tryRecv, .flush (.ok ())] _ rfl
  refine hagrees.failed 0 (.protocol (Error.protocol "connection stopped").toText) ?_ [0] ?_ ?_
  · decide
  · decide
  · decide

end Ledger

end Signalrr.Transport
