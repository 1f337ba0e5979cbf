import Signalrr.Connection.Connect
import Signalrr.HubConnection.ReceivedMessages

set_option relaxedAutoImplicit false
set_option autoImplicit false

/-!
# From the wire to the dispatch

The messages of the server pass through `read_loop`, `connect` and the receive task before they are
dispatched. The first ones may come in the frame of the handshake response, and the others are put
into frames as the server likes, with control frames in between.

## Main definitions

* `Signalrr.HubConnection.received` — `process_text` and `process_binary` up to the dispatch.
* `Signalrr.HubConnection.OpensWith` — the frame of the handshake response.
* `Signalrr.HubConnection.Streams` — what the server sends.

## Main results

* `Signalrr.HubConnection.delivered_of_run` — the messages are dispatched as they were sent, for
  each of the hub protocols.
-/

namespace Signalrr.HubConnection

open Framing Handshake Hub Transport

/-! ## The receiving end -/

/-- What the receive task makes of a message of the web socket: `process_text` and `process_binary`
parse it. `none` is a panic. -/
def received (parseMessages : HubProtocolInput → Checked (List HubMessage)) :
    Transport.TransportMessage → Option TransportMessage
  | .text text => (parseMessages (.text text)).run.map fun messages =>
      .frame (messages.mapError fun error => .protocol error.toText)
  | .binary bytes => (parseMessages (.binary bytes)).run.map fun messages =>
      .frame (messages.mapError fun error => .protocol error.toText)
  | .closed reason => some (.closed reason)

/-- What `incoming.recv()` returns. -/
def incoming? : RuntimeAction → Option (Option TransportMessage)
  | .incoming message => some message
  | _ => none

/-- A frame that is parsed is received as its messages. -/
lemma received_of_parse {parseMessages : HubProtocolInput → Checked (List HubMessage)}
    {p : OutboundPayload} {messages : List HubMessage} (h : parseMessages p.input = pure messages) :
    received parseMessages p.received = some (.frame (.ok messages)) := by
  cases p with
  | text t =>
    show ((parseMessages (OutboundPayload.text t).input).run.map _) = _
    rw [h]
    rfl
  | binary b =>
    show ((parseMessages (OutboundPayload.binary b).input).run.map _) = _
    rw [h]
    rfl

/-! ## The sending end -/

section

variable {rmp : Rmp} {serde : SerdeJson} {decoder : BrotliDecoder} {w : ℕ} {kind : ProtocolKind}

/-- A frame that consists of the payloads of these messages, and fits into memory. -/
def WritesFrame (rmp : Rmp) (serde : SerdeJson) (w : ℕ) (kind : ProtocolKind)
    (messages : List HubMessage) (p : OutboundPayload) : Prop :=
  ∃ payloads, List.Forall₂ (kind.Writes rmp serde) messages payloads ∧ batch payloads = some p ∧
    p.content.length < 2 ^ (w - 1)

/-- The frame of the handshake response, with what follows the response in it. -/
inductive OpensWith (json : String) : Option OutboundPayload → OutboundPayload → Prop
  | text : OpensWith json none (.text (TextMessageFormat.write json))
  | binary : OpensWith json none (.binary (utf8 (TextMessageFormat.write json)))
  | textThen (t : String) :
      OpensWith json (some (.text t)) (.text (TextMessageFormat.write json ++ t))
  | binaryThen (b : Bytes) :
      OpensWith json (some (.binary b)) (.binary (utf8 (TextMessageFormat.write json) ++ b))

/-- The messages that follow the response are a frame, if there are any. -/
def WritesRest (rmp : Rmp) (serde : SerdeJson) (w : ℕ) (kind : ProtocolKind)
    (messages : List HubMessage) : Option OutboundPayload → Prop
  | none => messages = []
  | some p => WritesFrame rmp serde w kind messages p

/-- What the server sends: the handshake response, together with the messages `first`, and then the
groups of messages, a frame each. Between the frames there may be control frames. -/
structure Streams (rmp : Rmp) (serde : SerdeJson) (w : ℕ) (kind : ProtocolKind) (json : String)
    (first : List HubMessage) (groups : List (List HubMessage)) (items : List WebSocketItem) :
    Prop where
  /-- The stream does not end. -/
  goesOn : ∀ item ∈ items, item.ending? = none
  frames : ∃ rest opening payloads,
    items.filterMap WebSocketItem.payload? = opening :: payloads ∧ OpensWith json rest opening ∧
      WritesRest rmp serde w kind first rest ∧
        List.Forall₂ (WritesFrame rmp serde w kind) groups payloads

/-! ## The handshake response -/

/-- What is left behind the response. -/
def remainingOf : Option OutboundPayload → Option RemainingData
  | none => none
  | some (.text t) => remainingText t.toList
  | some (.binary b) => remainingBytes b

/-- The response is cut off, whatever follows it. -/
lemma parseTransportHandshake_opensWith {crates : HandshakeCrates} {json : String}
    {response : HandshakeResponse} {rest : Option OutboundPayload} {opening : OutboundPayload}
    (hjson : crates.fromJson json = .ok response) (hfull : json ≠ "")
    (hsep : TextMessageFormat.recordSeparator ∉ json.toList) (h : OpensWith json rest opening) :
    parseTransportHandshake crates opening.received = some (.ok ⟨response, remainingOf rest⟩) := by
  have hparse : ∀ remaining,
      parseMessageData crates (TextMessageFormat.write json) remaining =
        .ok ⟨response, remaining⟩ := by
    intro remaining
    have hone := TextMessageFormat.parse_write (List.cons_ne_nil json [])
      (by simpa using hfull) (by simpa using hsep)
    rw [List.map_singleton, String.join_cons, String.join_nil, String.append_empty] at hone
    simp only [parseMessageData, hone, hjson]
  have hwrite : (TextMessageFormat.write json).toList =
      json.toList ++ [TextMessageFormat.recordSeparator] := by simp [TextMessageFormat.write]
  have htext : ∀ t : String,
      splitTextHandshake (TextMessageFormat.write json ++ t) =
        some (.ok (TextMessageFormat.write json, remainingText t.toList)) := by
    intro t
    have hcut : CutsAtFirst TextMessageFormat.recordSeparator
        (TextMessageFormat.write json ++ t).toList (TextMessageFormat.write json).toList t.toList :=
      ⟨json.toList, hsep, hwrite, String.toList_append⟩
    rw [splitTextHandshake_eq hcut, String.ofList_toList]
  have hbinary : ∀ b : Bytes,
      splitBinaryHandshake crates.invalidUtf8 (utf8 (TextMessageFormat.write json) ++ b) =
        .ok (TextMessageFormat.write json, remainingBytes b) := by
    intro b
    have hcut : CutsAtFirst 0x1e (utf8 (TextMessageFormat.write json) ++ b)
        (utf8 (TextMessageFormat.write json)) b := by
      refine ⟨utf8 json, ?_, ?_, rfl⟩
      · have hnone := separator_notMem_utf8 hsep
        rwa [String.ofList_toList] at hnone
      · rw [TextMessageFormat.write, utf8_append]
        rfl
    rw [splitBinaryHandshake_eq crates.invalidUtf8 hcut, ofUtf8_utf8]
  cases h with
  | text =>
    have hsplit := htext ""
    rw [String.append_empty] at hsplit
    show (splitTextHandshake _).map _ = _
    rw [hsplit]
    exact congrArg some (hparse none)
  | textThen t =>
    show (splitTextHandshake _).map _ = _
    rw [htext]
    exact congrArg some (hparse _)
  | binary =>
    have hsplit := hbinary []
    rw [List.append_nil] at hsplit
    show some ((splitBinaryHandshake _ _).bind _) = _
    rw [hsplit]
    exact congrArg some (hparse none)
  | binaryThen b =>
    show some ((splitBinaryHandshake _ _).bind _) = _
    rw [hbinary]
    exact congrArg some (hparse _)

/-- An empty input is not parsed. -/
lemma content_ne_nil_of_parseMessages {p : OutboundPayload} {messages : List HubMessage}
    (h : kind.parseMessages rmp serde decoder w p.input = pure messages) : p.content ≠ [] := by
  intro hempty
  cases p with
  | text t =>
    have htext : t = "" := by
      have hvalid := ofUtf8_utf8 t
      rw [show utf8 t = [] from hempty] at hvalid
      exact (Option.some.inj hvalid).symm
    subst htext
    cases kind <;> cases h
  | binary b =>
    obtain rfl : b = [] := hempty
    cases kind <;> cases h

/-- What is left of a frame that is not empty is what was put behind the response. -/
lemma exists_remainingOf {p : OutboundPayload} (h : p.content ≠ []) :
    ∃ remaining, remainingOf (some p) = some remaining ∧ remaining.input = p.input := by
  cases p with
  | text t =>
    have hne : t.toList ≠ [] := by
      intro hempty
      obtain rfl : t = "" := String.toList_eq_nil_iff.mp hempty
      exact h rfl
    refine ⟨.text t, ?_, rfl⟩
    rw [remainingOf, remainingText, if_neg hne, String.ofList_toList]
  | binary b =>
    have hne : b ≠ [] := h
    refine ⟨.bytes b, ?_, rfl⟩
    rw [remainingOf, remainingBytes, if_neg hne]

/-- The messages that follow the response are parsed as the initial messages. -/
lemma parseInitialMessages_rest (hrel : kind.Relies rmp serde) (hw : w = 32 ∨ w = 64)
    {first : List HubMessage} (hfirst : ∀ m ∈ first, kind.Readable rmp serde m)
    {rest : Option OutboundPayload} (hrest : WritesRest rmp serde w kind first rest)
    (response : HandshakeResponse) :
    ∃ initial, parseInitialMessages (kind.parseMessages rmp serde decoder w)
        ⟨response, remainingOf rest⟩ = some (.ok initial) ∧
      List.Forall₂ (HubMessage.Same rmp serde) first initial := by
  cases rest with
  | none =>
    obtain rfl : first = [] := hrest
    exact ⟨[], rfl, .nil⟩
  | some p =>
    obtain ⟨payloads, hwrites, hbatch, hfit⟩ := hrest
    obtain ⟨initial, hparse, hsame⟩ : ∃ initial,
        kind.parseMessages rmp serde decoder w p.input = pure initial ∧
          List.Forall₂ (HubMessage.Same rmp serde) first initial :=
      ProtocolKind.parseMessages_batch hrel hw hfirst hwrites hbatch hfit
    obtain ⟨remaining, hremaining, hinput⟩ :=
      exists_remainingOf (content_ne_nil_of_parseMessages hparse)
    refine ⟨initial, ?_, hsame⟩
    rw [parseInitialMessages, hremaining]
    dsimp only
    rw [hinput, hparse]
    rfl

/-- The other frames are received as their groups. -/
lemma received_frames (hrel : kind.Relies rmp serde) (hw : w = 32 ∨ w = 64)
    {groups : List (List HubMessage)} (hgroups : ∀ g ∈ groups, ∀ m ∈ g, kind.Readable rmp serde m)
    {payloads : List OutboundPayload}
    (h : List.Forall₂ (WritesFrame rmp serde w kind) groups payloads) :
    ∃ parsed, List.Forall₂ (fun message messages =>
        received (kind.parseMessages rmp serde decoder w) message =
          some (.frame (.ok messages))) (payloads.map OutboundPayload.received) parsed ∧
      List.Forall₂ (List.Forall₂ (HubMessage.Same rmp serde)) groups parsed := by
  induction h with
  | nil => exact ⟨[], .nil, .nil⟩
  | @cons g p groups payloads hframe _ ih =>
    obtain ⟨hg, hrest⟩ := List.forall_mem_cons.mp hgroups
    obtain ⟨ps, hwrites, hbatch, hfit⟩ := hframe
    obtain ⟨messages, hparse, hsame⟩ : ∃ messages,
        kind.parseMessages rmp serde decoder w p.input = pure messages ∧
          List.Forall₂ (HubMessage.Same rmp serde) g messages :=
      ProtocolKind.parseMessages_batch hrel hw hg hwrites hbatch hfit
    obtain ⟨parsed, hreceived, hsames⟩ := ih hrest
    exact ⟨messages :: parsed, .cons (received_of_parse hparse) hreceived, .cons hsame hsames⟩

end

/-! ## Delivery -/

/-- The receive task was given these frames. -/
lemma filterMap_parsedFrame {parsed : List (List HubMessage)} {actions : List RuntimeAction}
    (h : actions.filterMap incoming? = parsed.map fun messages => some (.frame (.ok messages))) :
    actions.filterMap RuntimeTasks.parsedFrame = parsed := by
  have hboth : RuntimeTasks.parsedFrame = fun a => (incoming? a).bind fun message =>
      RuntimeTasks.parsedFrame (.incoming message) := by
    funext a
    cases a <;> rfl
  rw [hboth, ← List.filterMap_filterMap, h, List.filterMap_map]
  exact List.filterMap_some

section

variable {rmp : Rmp} {serde : SerdeJson} {decoder : BrotliDecoder} {w : ℕ} {kind : ProtocolKind}
  {crates : ConnectCrates} {options : Signalrr.ConnectionOptions} {env : Environment}
  {c : Connection}

/-- **Messages are dispatched as they were sent.** A client has connected to a server that sends the
messages `first` together with the handshake response and then the others, in groups of any size. A
receive task that waits, after `k` more frames and without a dispatch that failed, has dispatched
exactly the messages of these frames, in order, whatever the other tasks did in between and whatever
comes behind these frames.

**Proof sketch.** Data frames are forwarded one by one. The first is cut behind the response, and
what is left is parsed by `connect` as the frame it was; the others are parsed by the receive task.
-/
theorem delivered_of_run (hrel : kind.Relies rmp serde) (hw : w = 32 ∨ w = 64)
    (hparser : options.parseMessages = kind.parseMessages rmp serde decoder w)
    (hconnect : (Connection.connect crates options env).result = some (.ok c)) {json : String}
    {response : HandshakeResponse} (hjson : crates.handshake.fromJson json = .ok response)
    (hfull : json ≠ "") (hsep : TextMessageFormat.recordSeparator ∉ json.toList)
    {first : List HubMessage} {groups : List (List HubMessage)} {items tail : List WebSocketItem}
    (hreadable : ∀ g ∈ first :: groups, ∀ m ∈ g, kind.Readable rmp serde m)
    (hstreams : Streams rmp serde w kind json first groups items)
    (hfirst : env.first = some (readLoop (items ++ tail)).head?) {k : ℕ} (hk : k ≤ groups.length) :
    ∃ frames, List.Forall₂
        (fun message frame => received options.parseMessages message = some frame)
        ((readLoop (items ++ tail)).tail.take k) frames ∧
      ∀ actions s, (RuntimeTasks.system c.initialMessages).run actions = some s →
        s.receive = .select → actions.filterMap incoming? = frames.map some →
          (∀ x ∈ (RuntimeTasks.transcript c.initialMessages actions).done, x.2.isOk = true) →
            List.Forall₂ (HubMessage.Same rmp serde) (first :: groups.take k).flatten
              ((RuntimeTasks.transcript c.initialMessages actions).done.map Prod.fst) := by
  obtain ⟨hfirstReadable, hgroups⟩ := List.forall_mem_cons.mp hreadable
  obtain ⟨rest, opening, payloads, hdata, hopens, hrest, hframes⟩ := hstreams.frames
  have hforwarded := readLoop_append hstreams.goesOn tail
  rw [hdata, List.map_cons, List.cons_append] at hforwarded
  rw [hforwarded, List.head?_cons] at hfirst
  rw [hforwarded, List.tail_cons]
  -- the first frame
  have hstaged : (Connection.connect crates options env).Staged crates options env :=
    Connection.connect_staged
  obtain ⟨-, message, hmessage, hhandshake, -, hinitial⟩ := hstaged.result c hconnect
  obtain rfl : opening.received = message :=
    Option.some.inj (Option.some.inj (hfirst.symm.trans hmessage))
  rw [parseTransportHandshake_opensWith hjson hfull hsep hopens] at hhandshake
  rw [← Except.ok.inj (Option.some.inj hhandshake), hparser] at hinitial
  obtain ⟨initial, hparsed, hsameFirst⟩ : ∃ initial,
      parseInitialMessages (kind.parseMessages rmp serde decoder w) ⟨response, remainingOf rest⟩ =
        some (.ok initial) ∧ List.Forall₂ (HubMessage.Same rmp serde) first initial :=
    parseInitialMessages_rest hrel hw hfirstReadable hrest response
  obtain rfl : initial = c.initialMessages :=
    Except.ok.inj (Option.some.inj (hparsed.symm.trans hinitial))
  -- the other frames
  have hlength : k ≤ (payloads.map OutboundPayload.received).length := by
    rw [List.length_map, ← hframes.length_eq]
    exact hk
  rw [List.take_append_of_le_length hlength, ← List.map_take, hparser]
  obtain ⟨parsed, hreceived, hsame⟩ : ∃ parsed, List.Forall₂ (fun message messages =>
        received (kind.parseMessages rmp serde decoder w) message =
          some (.frame (.ok messages)))
        ((payloads.take k).map OutboundPayload.received) parsed ∧
      List.Forall₂ (List.Forall₂ (HubMessage.Same rmp serde)) (groups.take k) parsed :=
    received_frames hrel hw (fun g hg => hgroups g (List.mem_of_mem_take hg))
      (List.forall₂_take k hframes)
  refine ⟨parsed.map fun messages => .frame (.ok messages), ?_, ?_⟩
  · rw [List.forall₂_map_right_iff]
    exact hreceived
  · intro actions s hrun hselect hincoming hok
    rw [List.map_map] at hincoming
    rw [RuntimeTasks.dispatched_of_run hrun hselect hok, filterMap_parsedFrame hincoming,
      List.flatten_cons, List.flatten_cons]
    exact List.rel_append hsameFirst (List.rel_flatten hsame)

end

/-- The JSON protocol on the samples. -/
def exampleParser : HubProtocolInput → Checked (List HubMessage) :=
  ProtocolKind.json.parseMessages Rmp.reference SerdeJson.samples (fun bytes => .ok bytes) 64

/-- A `Ping` comes with the handshake response and a `Close` behind a control frame. -/
def exampleItems : List WebSocketItem :=
  [.text (TextMessageFormat.write "\x7b\x7d" ++ TextMessageFormat.write SerdeJson.pingText), .ping,
    .text (TextMessageFormat.write SerdeJson.closeText)]

/-- The messages are received and dispatched. -/
def exampleRun : List RuntimeAction :=
  [.receive, .dispatched (.ok ()), .receive, .receive,
    .incoming (some (.frame (.ok [.close ⟨none, some false⟩]))), .handleClose, .receive,
    .dispatched (.ok ()), .receive]

/-- A frame with one text is written. -/
lemma writesFrame_text {serde : SerdeJson} {m : HubMessage} {text : String}
    (h : JsonProtocol.writeMessage Rmp.reference serde m = .ok (utf8 text))
    (hfit : (utf8 text).length < 2 ^ 63) :
    WritesFrame Rmp.reference serde 64 .json [m] (.text text) := by
  have hone : String.join [text] = text := by
    rw [String.join_cons, String.join_nil, String.append_empty]
  refine ⟨[.text text], .cons ⟨_, h, ?_⟩ .nil, congrArg (some ∘ OutboundPayload.text) hone, hfit⟩
  show (ofUtf8 _).map OutboundPayload.text = _
  rw [ofUtf8_utf8]
  rfl

/-- What the server of the example sends. -/
lemma streams_example :
    Streams Rmp.reference SerdeJson.samples 64 .json "\x7b\x7d" [.ping]
      [[.close ⟨none, some false⟩]] exampleItems where
  goesOn := by simp [exampleItems, WebSocketItem.ending?]
  frames := by
    have hping : WritesFrame Rmp.reference SerdeJson.samples 64 .json [.ping]
        (.text (TextMessageFormat.write SerdeJson.pingText)) := writesFrame_text rfl (by decide)
    have hclose : WritesFrame Rmp.reference SerdeJson.samples 64 .json [.close ⟨none, some false⟩]
        (.text (TextMessageFormat.write SerdeJson.closeText)) := writesFrame_text rfl (by decide)
    exact ⟨some (.text (TextMessageFormat.write SerdeJson.pingText)),
      .text (TextMessageFormat.write "\x7b\x7d" ++ TextMessageFormat.write SerdeJson.pingText),
      [.text (TextMessageFormat.write SerdeJson.closeText)], rfl, .textThen _, hping,
      .cons hclose .nil⟩

/-- The run ends with a receive task that waits and no dispatch that failed. -/
lemma run_example : ∃ s, (RuntimeTasks.system [.ping]).run exampleRun = some s ∧
    s.receive = .select ∧
      ∀ x ∈ (RuntimeTasks.transcript [.ping] exampleRun).done, x.2.isOk = true := by
  have hdone : (RuntimeTasks.transcript [.ping] exampleRun).done =
      [(.ping, .ok ()), (.close ⟨none, some false⟩, .ok ())] := rfl
  refine ⟨_, rfl, rfl, ?_⟩
  rw [hdone]
  simp [Except.isOk, Except.toBool]

/-- A `Ping` and a `Close` are read back as they are. -/
lemma eq_of_same_samples {ms : List HubMessage} (m : HubMessage)
    (hm : m = .ping ∨ m = .close ⟨none, some false⟩)
    (h : List.Forall₂ (HubMessage.Same Rmp.reference SerdeJson.samples) [m] ms) : ms = [m] := by
  cases h with
  | @cons _ m' _ _ hsame hrest =>
    cases hrest
    rcases hm with rfl | rfl
    · cases m' <;> first | rfl | cases hsame
    · cases m' with
      | close message =>
        obtain rfl : ⟨none, some false⟩ = message := hsame
        rfl
      | _ => cases hsame

/-- A `Ping` and a `Close` are dispatched as they were sent. -/
theorem delivered_of_run_example :
    ∃ c s, (Connection.connect exampleCrates (exampleOptions exampleParser)
        (exampleEnvironment (some (readLoop (exampleItems ++ [])).head?))).result = some (.ok c) ∧
      (RuntimeTasks.system c.initialMessages).run exampleRun = some s ∧
      List.Forall₂ (HubMessage.Same Rmp.reference SerdeJson.samples)
        [.ping, .close ⟨none, some false⟩]
        ((RuntimeTasks.transcript c.initialMessages exampleRun).done.map Prod.fst) := by
  have hrel : ProtocolKind.json.Relies Rmp.reference SerdeJson.samples :=
    SerdeJson.samples_writesLines
  obtain ⟨hping, hclose⟩ := SerdeJson.roundTripsText_samples Rmp.reference
  have hreadable : ∀ g ∈ [[HubMessage.ping], [.close ⟨none, some false⟩]], ∀ m ∈ g,
      ProtocolKind.json.Readable Rmp.reference SerdeJson.samples m := by
    simp only [List.forall_mem_cons]
    exact ⟨⟨⟨trivial, hping⟩, by simp⟩, ⟨⟨trivial, hclose⟩, by simp⟩, by simp⟩
  have hjson : exampleCrates.handshake.fromJson "\x7b\x7d" = .ok ⟨none, none⟩ := rfl
  -- the handshake of the example
  have hrest : WritesRest Rmp.reference SerdeJson.samples 64 .json [.ping]
      (some (.text (TextMessageFormat.write SerdeJson.pingText))) :=
    writesFrame_text rfl (by decide)
  obtain ⟨initial, hinitial, hsame⟩ : ∃ initial, parseInitialMessages exampleParser
      ⟨⟨none, none⟩, remainingOf (some (.text (TextMessageFormat.write SerdeJson.pingText)))⟩ =
        some (.ok initial) ∧
      List.Forall₂ (HubMessage.Same Rmp.reference SerdeJson.samples) [.ping] initial :=
    parseInitialMessages_rest hrel (.inr rfl) (hreadable _ (List.mem_cons_self)) hrest _
  obtain rfl := eq_of_same_samples _ (.inl rfl) hsame
  have hhandshake := parseTransportHandshake_opensWith hjson (by decide) (by decide)
    (OpensWith.textThen (TextMessageFormat.write SerdeJson.pingText))
  have hawait : awaitHandshake exampleCrates (exampleOptions exampleParser)
      (some (readLoop (exampleItems ++ [])).head?) = some (.ok (⟨⟨none, none⟩,
        remainingOf (some (.text (TextMessageFormat.write SerdeJson.pingText)))⟩, [.ping])) := by
    change awaitHandshake exampleCrates (exampleOptions exampleParser) (some (some
      (OutboundPayload.received (.text (TextMessageFormat.write "\x7b\x7d" ++
        TextMessageFormat.write SerdeJson.pingText))))) = _
    rw [awaitHandshake, hhandshake]
    dsimp only [exampleOptions]
    rw [hinitial]
    rfl
  obtain ⟨c, hconnect, hc, -⟩ := Connection.exists_connect_example hawait
  obtain ⟨s, hrun, hselect, hok⟩ := run_example
  rw [← hc] at hrun hok
  have hparser : (exampleOptions exampleParser).parseMessages = ProtocolKind.json.parseMessages
      Rmp.reference SerdeJson.samples (fun bytes => .ok bytes) 64 := rfl
  have hk : 1 ≤ [[HubMessage.close ⟨none, some false⟩]].length := Nat.le_refl 1
  obtain ⟨frames, hframes, hdelivered⟩ := delivered_of_run hrel (.inr rfl) hparser hconnect hjson
    (by decide) (by decide) hreadable streams_example rfl hk
  have hframe : List.Forall₂ (WritesFrame Rmp.reference SerdeJson.samples 64 .json)
      [[.close ⟨none, some false⟩]] [.text (TextMessageFormat.write SerdeJson.closeText)] :=
    .cons (writesFrame_text rfl (by decide)) .nil
  obtain ⟨parsed, hreceived, hsames⟩ : ∃ parsed, List.Forall₂ (fun message messages =>
        received exampleParser message = some (.frame (.ok messages)))
        [Transport.TransportMessage.text (TextMessageFormat.write SerdeJson.closeText)] parsed ∧
      List.Forall₂ (List.Forall₂ (HubMessage.Same Rmp.reference SerdeJson.samples))
        [[.close ⟨none, some false⟩]] parsed :=
    received_frames hrel (.inr rfl) (List.forall_mem_cons.mp hreadable).2 hframe
  refine ⟨c, s, hconnect, hrun, hdelivered _ _ hrun hselect ?_ hok⟩
  cases hsames with
  | cons hsame hnil =>
    cases hnil
    obtain rfl := eq_of_same_samples _ (.inr rfl) hsame
    change List.Forall₂ _ [Transport.TransportMessage.text
      (TextMessageFormat.write SerdeJson.closeText)] frames at hframes
    cases hframes with
    | cons hone hnil =>
      cases hnil
      cases hreceived with
      | cons hclosed _ =>
        obtain rfl := Option.some.inj (hone.symm.trans hclosed)
        rfl

end Signalrr.HubConnection
