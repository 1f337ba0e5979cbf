import Signalrr.Connection.Handshake
import Signalrr.Connection.Negotiate
import Signalrr.Connection.WebSocketUrl
import Signalrr.Hub.MessagePack.Decode
import Signalrr.Transport.ReadLoop

set_option relaxedAutoImplicit false
set_option autoImplicit false

/-!
# Connecting and reopening

`Connection::connect` of `src/connection.rs` negotiates, opens the web socket and completes the
handshake. Where the server agreed to stateful reconnect it keeps a `ResumeTarget`, from which the
web socket is reopened without another negotiation, as often as it is lost.

## Main definitions

* `Signalrr.Connection.connect` — the function, with a record of what it does.
* `Signalrr.ResumeTarget.reopen` — the function, with a record of what it does.
* `Signalrr.ConnectRun.Staged` — each step of `connect` follows the ones before it.
* `Signalrr.Connection.Resumes` — a connection and the reopenings of its web socket.

## Main results

* `Signalrr.Connection.connect_isSome` — a run does not panic.
* `Signalrr.Connection.connect_staged` — what is done in every run, also in those that fail.
* `Signalrr.Connection.resumes_of_connect` — the web socket is reopened only where both ends agreed,
  at the same URL, with the most recent token.

## Design

What the calls of `connect` end with is an `Environment`. The parser of the hub protocol may panic,
as `none`. A reopening has an environment of its own, as the token factory answers anew.
-/

namespace Signalrr

open Framing Handshake Hub Negotiate Transport

/-! ## The parts of `connect` -/

/-- `websocket_token`: the token used in the query parameter `id`. -/
def Negotiate.NegotiateResponse.websocketToken (response : NegotiateResponse) :
    Except Error String :=
  match response.error with
  | some error => .error (.negotiate error)
  | none =>
    match response.connectionToken.or response.connectionId with
    | some token => .ok token
    | none => .error (.negotiate "missing connectionToken and connectionId")

/-- `From<ProtocolError>` of the error of the client. -/
def Hub.ProtocolError.toError : ProtocolError → Error
  | .json message => .json message
  | .framing message => .framing message
  | .invalidInput message => .protocol (ProtocolError.invalidInput message).toText
  | .invalidPayload message => .protocol (ProtocolError.invalidPayload message).toText
  | .messagePack message => .protocol (ProtocolError.messagePack message).toText

/-- Client handshake request payload. -/
structure HandshakeRequest where
  protocol : String
  version : ℤ
  deriving DecidableEq, Repr

/-- `LEGACY_HANDSHAKE_VERSION`. -/
def legacyHandshakeVersion : ℤ := 1

/-- `resolve_handshake_version`. -/
def resolveHandshakeVersion (useStatefulReconnect : Bool) (hubProtocolVersion : ℤ)
    (overrideVersion : Option ℤ) : ℤ :=
  overrideVersion.getD (if useStatefulReconnect then hubProtocolVersion else legacyHandshakeVersion)

/-- What `connect` uses of other crates: URLs, and the JSON of the handshake. -/
structure ConnectCrates where
  url : UrlCrate
  handshake : HandshakeCrates
  requestJson : HandshakeRequest → Except String String

/-- `write_request`. -/
def ConnectCrates.writeRequest (crates : ConnectCrates) (request : HandshakeRequest) :
    Except Error String :=
  match crates.requestJson request with
  | .error error => .error (.json error)
  | .ok json => .ok (TextMessageFormat.write json)

/-- `parse_transport_handshake`. -/
def parseTransportHandshake (crates : HandshakeCrates) :
    Transport.TransportMessage → Option (Except Error HandshakeResult)
  | .text text => parseResponse crates (.text text)
  | .binary bytes => parseResponse crates (.binary bytes)
  | .closed reason =>
    some (.error (.handshake
      ("connection closed during handshake: " ++ reason.getD "unknown reason")))

/-- The input of the hub protocol that follows the handshake. -/
def Handshake.RemainingData.input : RemainingData → HubProtocolInput
  | .text t => .text t
  | .bytes b => .binary b

/-- `parse_initial_messages`. -/
def parseInitialMessages (parseMessages : HubProtocolInput → Checked (List HubMessage))
    (handshakeResult : HandshakeResult) : Option (Except Error (List HubMessage)) :=
  match handshakeResult.remaining with
  | none => some (.ok [])
  | some remaining =>
    (parseMessages remaining.input).run.map (Except.mapError ProtocolError.toError)

/-! ## Connecting -/

/-- Configuration for establishing a connection. -/
structure ConnectionOptions where
  baseUrl : String
  useStatefulReconnect : Bool
  /-- The protocol of the handshake request. -/
  protocol : String
  handshakeVersionOverride : Option ℤ
  /-- `hub_protocol.version()`. -/
  protocolVersion : ℤ
  /-- `hub_protocol.parse_messages`. -/
  parseMessages : HubProtocolInput → Checked (List HubMessage)
  /-- There is an access token factory. -/
  hasFactory : Bool
  /-- There is an HTTP client. -/
  hasClient : Bool

/-- The version that is sent in the handshake. -/
def ConnectionOptions.handshakeRequest (options : ConnectionOptions) : HandshakeRequest :=
  ⟨options.protocol, resolveHandshakeVersion options.useStatefulReconnect options.protocolVersion
    options.handshakeVersionOverride⟩

/-- What the calls of `connect` end with. -/
structure Environment where
  /-- `Client::build`, where no client is given. -/
  client : Except Error Unit
  /-- The requests of the negotiation, and the calls of the token factory. -/
  outcomes : Outcomes
  /-- `connect_async`. -/
  connectAsync : String → Except Error Unit
  /-- `send_text`. -/
  sendText : String → Except Error Unit
  /-- The first message of the web socket: `none` when the time is up, and `some none` when the
  channel is closed. -/
  first : Option (Option Transport.TransportMessage)

/-- What a stateful reconnect needs to reopen the transport of an established connection. -/
structure ResumeTarget where
  url : String
  serverToken : Option String
  deriving DecidableEq, Repr

/-- Established SignalR transport connection. -/
structure Connection where
  baseUrl : String
  connectionId : Option String
  connectionToken : String
  handshakeResult : HandshakeResult
  initialMessages : List HubMessage
  resume : Option ResumeTarget

/-- What a run of `connect` has done: the negotiation, the URL that was dialed, the text that was
sent and the result, which is `none` after a panic. -/
structure ConnectRun where
  negotiation : Option Run := none
  dialed : Option String := none
  sent : Option String := none
  result : Option (Except Error Connection)

/-- The `ResumeTarget` of `connect`. -/
def resumeTarget (crate : UrlCrate) (negotiated : NegotiateResult) (connectionToken : String) :
    Except Error (Option ResumeTarget) :=
  match negotiated.response.useStatefulReconnect with
  | some true => do
    let url ← crate.buildWebsocketUrl negotiated.url connectionToken none
    return some ⟨url, if negotiated.tokenFromServer then negotiated.accessToken else none⟩
  | _ => .ok none

/-- `connect` behind the negotiation, up to the web socket: the connection token, the URL and the
target. -/
def webSocketTarget (crate : UrlCrate) (negotiated : NegotiateResult) :
    Except Error (String × String × Option ResumeTarget) := do
  let connectionToken ← negotiated.response.websocketToken
  let websocketUrl ←
    crate.buildWebsocketUrl negotiated.url connectionToken negotiated.accessToken
  let resume ← resumeTarget crate negotiated connectionToken
  return (connectionToken, websocketUrl, resume)

/-- `connect` behind `send_text`: the answer of the server, and the messages that follow it. -/
def awaitHandshake (crates : ConnectCrates) (options : ConnectionOptions) :
    Option (Option Transport.TransportMessage) →
      Option (Except Error (HandshakeResult × List HubMessage))
  | none => some (.error (.handshake "handshake timeout"))
  | some none => some (.error (.handshake "connection closed during handshake"))
  | some (some message) =>
    match parseTransportHandshake crates.handshake message with
    | none => none
    | some (.error error) => some (.error error)
    | some (.ok handshakeResult) =>
      match handshakeResult.response.error with
      | some error => some (.error (.handshake error))
      | none =>
        (parseInitialMessages options.parseMessages handshakeResult).map fun initialMessages =>
          initialMessages.map fun messages => (handshakeResult, messages)

/-- The handshake: the text that is sent, and what comes back. -/
def completeHandshake (crates : ConnectCrates) (options : ConnectionOptions) (env : Environment) :
    Option String × Option (Except Error (HandshakeResult × List HubMessage)) :=
  match crates.writeRequest options.handshakeRequest with
  | .error error => (none, some (.error error))
  | .ok payload =>
    match env.sendText payload with
    | .error error => (some payload, some (.error error))
    | .ok () => (some payload, awaitHandshake crates options env.first)

/-- `Connection::connect`. -/
def Connection.connect (crates : ConnectCrates) (options : ConnectionOptions) (env : Environment) :
    ConnectRun :=
  match if options.hasClient then .ok () else env.client with
  | .error error => { result := some (.error error) }
  | .ok () =>
    let run := negotiateWithTokenFactory env.outcomes options.useStatefulReconnect
      options.hasFactory options.baseUrl
    match run.result with
    | .error error => { negotiation := some run, result := some (.error error) }
    | .ok negotiated =>
      match webSocketTarget crates.url negotiated with
      | .error error => { negotiation := some run, result := some (.error error) }
      | .ok (connectionToken, websocketUrl, resume) =>
        match env.connectAsync websocketUrl with
        | .error error =>
          { negotiation := some run, dialed := some websocketUrl, result := some (.error error) }
        | .ok () =>
          let handshake := completeHandshake crates options env
          { negotiation := some run
            dialed := some websocketUrl
            sent := handshake.1
            result := handshake.2.map fun outcome =>
              outcome.map fun (handshakeResult, initialMessages) =>
                { baseUrl := options.baseUrl
                  connectionId := negotiated.response.connectionId
                  connectionToken := connectionToken
                  handshakeResult := handshakeResult
                  initialMessages := initialMessages
                  resume := resume } }

/-! ## Reopening -/

/-- What a reopening has done: the call of the token factory, the URL that was dialed and the
result. -/
structure Reopening where
  call : Option (Except Error String) := none
  dialed : Option String := none
  result : Except Error Unit

/-- What the calls of a reopening end with. -/
structure ReopenEnvironment where
  token : Except Error String
  connectAsync : String → Except Error Unit

/-- `reopen` with the token it has got. -/
def ResumeTarget.dial (target : ResumeTarget) (crate : UrlCrate) (env : ReopenEnvironment)
    (call : Option (Except Error String)) (token : Option String) : Reopening :=
  match crate.appendAccessToken target.url token with
  | .error error => { call := call, result := .error error }
  | .ok url => { call := call, dialed := some url, result := env.connectAsync url }

/-- `ResumeTarget::reopen`. -/
def ResumeTarget.reopen (target : ResumeTarget) (crate : UrlCrate) (options : ConnectionOptions)
    (env : ReopenEnvironment) : Reopening :=
  match target.serverToken, options.hasFactory with
  | some token, _ => target.dial crate env none (some token)
  | none, false => target.dial crate env none none
  | none, true =>
    match env.token with
    | .error error => { call := some (.error error), result := .error error }
    | .ok token => target.dial crate env (some (.ok token)) (nonEmpty token)

/-! ## What a run does -/

/-- Without a token factory no call is made. -/
lemma Negotiate.callsOf_negotiate {outcomes : Outcomes} {useStatefulReconnect : Bool}
    {hubUrl : String} {run : Run}
    (hrun : negotiateWithTokenFactory outcomes useStatefulReconnect false hubUrl = run) :
    callsOf run.start run.visits = [] := by
  have hstart : run.start = none := by
    rw [← hrun]
    rfl
  have hrefreshed : run.visits.filterMap Visit.refreshed = [] := by
    rw [List.filterMap_eq_nil_iff]
    intro v hv
    obtain ⟨pre, post, hsplit⟩ := List.append_of_mem hv
    have hproper := (followed_of_negotiate hrun).visits pre v post hsplit
    rw [← Option.not_isSome_iff_eq_none, hproper.refreshed]
    simp
  rw [callsOf, hstart, hrefreshed]
  rfl

/-- A handshake response is parsed without a panic. -/
lemma parseTransportHandshake_isSome (crates : HandshakeCrates)
    (message : Transport.TransportMessage) :
    (parseTransportHandshake crates message).isSome = true := by
  cases message with
  | text text =>
    have hsplit : (splitTextHandshake text).isSome = true := by
      by_cases hsep : TextMessageFormat.recordSeparator ∈ text.toList
      · obtain ⟨part, rest, hcut⟩ := exists_cutsAtFirst hsep
        rw [splitTextHandshake_eq hcut]
        rfl
      · rw [splitTextHandshake_none hsep]
        rfl
    rw [parseTransportHandshake, parseResponse, Option.isSome_map]
    exact hsplit
  | binary bytes => rfl
  | closed reason => rfl

section

variable {crates : ConnectCrates} {options : ConnectionOptions} {env : Environment}

/-- A run does not panic when the parser of the hub protocol does not.

**Proof sketch.** The handshake response is cut at a separator, which is never inside of a
character. -/
theorem Connection.connect_isSome
    (hparse : ∀ input, (options.parseMessages input).run.isSome = true) :
    (Connection.connect crates options env).result.isSome = true := by
  have hmessages : ∀ result, (parseInitialMessages options.parseMessages result).isSome = true := by
    intro result
    unfold parseInitialMessages
    split
    · rfl
    · rw [Option.isSome_map]
      exact hparse _
  have hawait : ∀ first, (awaitHandshake crates options first).isSome = true := by
    intro first
    unfold awaitHandshake
    split
    · rfl
    · rfl
    next message =>
      have hsome := parseTransportHandshake_isSome crates.handshake message
      split
      next hnone => rw [hnone] at hsome; cases hsome
      next => rfl
      next =>
        split
        · rfl
        · rw [Option.isSome_map]
          exact hmessages _
  have hcomplete : (completeHandshake crates options env).2.isSome = true := by
    unfold completeHandshake
    split
    · rfl
    · split
      · rfl
      · exact hawait _
  unfold Connection.connect
  split
  · rfl
  · dsimp only
    split
    · rfl
    · split
      · rfl
      · split
        · rfl
        · rw [Option.isSome_map]
          exact hcomplete

/-- Each step of `connect` follows the ones before it. -/
structure ConnectRun.Staged (crates : ConnectCrates) (options : ConnectionOptions)
    (env : Environment) (run : ConnectRun) : Prop where
  /-- The web socket is opened after a negotiation that succeeded, for the connection it is about.
  -/
  dialed : ∀ url, run.dialed = some url → ∃ negotiation negotiated connectionToken,
    run.negotiation = some negotiation ∧ negotiation.result = .ok negotiated ∧
      negotiated.response.websocketToken = .ok connectionToken ∧
        crates.url.buildWebsocketUrl negotiated.url connectionToken negotiated.accessToken = .ok url
  /-- The handshake request is sent over a web socket that is open. -/
  sent : ∀ text, run.sent = some text →
    (∃ url, run.dialed = some url ∧ env.connectAsync url = .ok ()) ∧
      ∃ json, crates.requestJson options.handshakeRequest = .ok json ∧
        text = TextMessageFormat.write json
  /-- A connection is established with the answer to a request that was sent. -/
  result : ∀ c, run.result = some (.ok c) →
    (∃ text, run.sent = some text ∧ env.sendText text = .ok ()) ∧
      ∃ message, env.first = some (some message) ∧
        parseTransportHandshake crates.handshake message = some (.ok c.handshakeResult) ∧
          c.handshakeResult.response.error = none ∧
            parseInitialMessages options.parseMessages c.handshakeResult =
              some (.ok c.initialMessages)

/-- What the answer of the server has to be for a handshake that succeeds. -/
lemma awaitHandshake_ok {first : Option (Option Transport.TransportMessage)}
    {handshakeResult : HandshakeResult} {initialMessages : List HubMessage}
    (h : awaitHandshake crates options first = some (.ok (handshakeResult, initialMessages))) :
    ∃ message, first = some (some message) ∧
      parseTransportHandshake crates.handshake message = some (.ok handshakeResult) ∧
        handshakeResult.response.error = none ∧
          parseInitialMessages options.parseMessages handshakeResult =
            some (.ok initialMessages) := by
  unfold awaitHandshake at h
  split at h
  next => cases h
  next => cases h
  next message =>
    split at h
    next => cases h
    next => cases h
    next result hresult =>
      split at h
      next => cases h
      next hnone =>
        obtain ⟨outcome, houtcome, h⟩ := Option.map_eq_some_iff.mp h
        cases outcome with
        | error error => cases h
        | ok messages =>
          obtain ⟨rfl, rfl⟩ := Prod.mk.inj (Except.ok.inj h)
          exact ⟨message, rfl, hresult, hnone, houtcome⟩

/-- What was sent is the handshake request. -/
lemma completeHandshake_sent {text : String}
    (h : (completeHandshake crates options env).1 = some text) :
    ∃ json, crates.requestJson options.handshakeRequest = .ok json ∧
      text = TextMessageFormat.write json := by
  have hwrite : ∀ payload, crates.writeRequest options.handshakeRequest = .ok payload →
      ∃ json, crates.requestJson options.handshakeRequest = .ok json ∧
        payload = TextMessageFormat.write json := by
    intro payload hpayload
    unfold ConnectCrates.writeRequest at hpayload
    split at hpayload
    · cases hpayload
    next json hjson => exact ⟨json, hjson, (Except.ok.inj hpayload).symm⟩
  unfold completeHandshake at h
  split at h
  · cases h
  next payload hpayload =>
    split at h <;> exact Option.some.inj h ▸ hwrite payload hpayload

/-- A handshake that succeeds was sent and answered. -/
lemma completeHandshake_ok {handshakeResult : HandshakeResult} {initialMessages : List HubMessage}
    (h : (completeHandshake crates options env).2 =
      some (.ok (handshakeResult, initialMessages))) :
    (∃ text, (completeHandshake crates options env).1 = some text ∧ env.sendText text = .ok ()) ∧
      awaitHandshake crates options env.first = some (.ok (handshakeResult, initialMessages)) := by
  unfold completeHandshake at h ⊢
  split at h
  · cases h
  next payload hpayload =>
    split at h
    · cases h
    next hsent => exact ⟨⟨payload, rfl, hsent⟩, h⟩

/-- What a token and a URL are made of. -/
lemma webSocketTarget_ok {crate : UrlCrate} {negotiated : NegotiateResult}
    {connectionToken url : String} {resume : Option ResumeTarget}
    (h : webSocketTarget crate negotiated = .ok (connectionToken, url, resume)) :
    negotiated.response.websocketToken = .ok connectionToken ∧
      crate.buildWebsocketUrl negotiated.url connectionToken negotiated.accessToken = .ok url ∧
        resumeTarget crate negotiated connectionToken = .ok resume := by
  obtain ⟨connectionToken', htoken, h⟩ := bind_eq_ok.mp h
  obtain ⟨url', hurl, h⟩ := bind_eq_ok.mp h
  obtain ⟨resume', hresume, h⟩ := bind_eq_ok.mp h
  cases h
  exact ⟨htoken, hurl, hresume⟩

/-- **The steps of `connect`**, in every run: nothing is dialed without a negotiation, nothing is
sent before the web socket is open, and a connection comes from an answer without an error. -/
theorem Connection.connect_staged :
    (Connection.connect crates options env).Staged crates options env := by
  unfold Connection.connect
  split
  next => exact ⟨by simp, by simp, by simp⟩
  next =>
    dsimp only
    split
    next => exact ⟨by simp, by simp, by simp⟩
    next negotiated hnegotiated =>
      split
      next => exact ⟨by simp, by simp, by simp⟩
      next connectionToken websocketUrl resume htarget =>
        obtain ⟨htoken, hurl, -⟩ := webSocketTarget_ok htarget
        split
        next =>
          refine ⟨?_, by simp, by simp⟩
          rintro url ⟨⟩
          exact ⟨_, negotiated, connectionToken, rfl, hnegotiated, htoken, hurl⟩
        next hopen =>
          refine ⟨?_, ?_, ?_⟩
          · rintro url ⟨⟩
            exact ⟨_, negotiated, connectionToken, rfl, hnegotiated, htoken, hurl⟩
          · intro text hsent
            exact ⟨⟨websocketUrl, rfl, hopen⟩, completeHandshake_sent hsent⟩
          · intro c hc
            obtain ⟨outcome, houtcome, hc⟩ := Option.map_eq_some_iff.mp hc
            cases outcome with
            | error error => cases hc
            | ok answer =>
              obtain ⟨hsent, hawait⟩ := completeHandshake_ok houtcome
              obtain rfl := Except.ok.inj hc
              exact ⟨hsent, awaitHandshake_ok hawait⟩

/-- A connection that is established, with the negotiation it comes from. -/
lemma Connection.connect_ok {c : Connection}
    (h : (Connection.connect crates options env).result = some (.ok c)) :
    ∃ negotiated url, (Connection.connect crates options env).negotiation =
        some (negotiateWithTokenFactory env.outcomes options.useStatefulReconnect options.hasFactory
          options.baseUrl) ∧
      (negotiateWithTokenFactory env.outcomes options.useStatefulReconnect options.hasFactory
          options.baseUrl).result = .ok negotiated ∧
        (Connection.connect crates options env).dialed = some url ∧
          webSocketTarget crates.url negotiated = .ok (c.connectionToken, url, c.resume) := by
  unfold Connection.connect at h ⊢
  split at h
  next => cases h
  next =>
    dsimp only at h ⊢
    split at h
    next => cases h
    next negotiated hnegotiated =>
      split at h
      next => cases h
      next connectionToken websocketUrl resume htarget =>
        split at h
        next => cases h
        next hopen =>
          obtain ⟨outcome, houtcome, h⟩ := Option.map_eq_some_iff.mp h
          cases outcome with
          | error error => cases h
          | ok answer =>
            obtain rfl := Except.ok.inj h
            exact ⟨negotiated, websocketUrl, rfl, hnegotiated, rfl, htarget⟩

end

/-! ## Connections that are resumed -/

/-- A reopening does what it should, for a connection to `hubUrl`, after some calls of the token
factory and with the replies of the negotiation: the factory is called unless the server has issued
a token, and the URL is that of the connection with the most recent token. -/
structure Reopening.Proper (crate : UrlCrate) (hasFactory : Bool) (hubUrl connectionToken : String)
    (calls : List (Except Error String)) (replies : List NegotiateResponse)
    (env : ReopenEnvironment) (r : Reopening) : Prop where
  call : r.call =
    if hasFactory && (serverToken replies).isNone then some env.token else none
  /-- A factory that fails ends the reopening. -/
  refused : ∀ error, r.call = some (.error error) → r.dialed = none ∧ r.result = .error error
  dialed : (∀ error, r.call ≠ some (.error error)) →
    ∃ url, crate.buildWebsocketUrl hubUrl connectionToken
        (mostRecent (calls ++ r.call.toList) replies) = url ∧
      r.dialed = url.toOption ∧ r.result = url.bind env.connectAsync

/-- A connection and all reopenings of its web socket. -/
structure Connection.Resumes (crates : ConnectCrates) (options : ConnectionOptions)
    (run : ConnectRun) (negotiation : Run) (c : Connection) : Prop where
  /-- Both ends agreed when the web socket can be reopened. -/
  agreed : c.resume.isSome = true ↔
    options.useStatefulReconnect = true ∧ ∃ reply ∈ (repliesOf negotiation.visits).getLast?,
      reply.useStatefulReconnect = some true
  /-- The first URL has the most recent token. -/
  dialed : ∃ url, run.dialed = some url ∧
    crates.url.buildWebsocketUrl (currentUrl options.baseUrl (repliesOf negotiation.visits))
      c.connectionToken (mostRecent (callsOf negotiation.start negotiation.visits)
        (repliesOf negotiation.visits)) = .ok url
  /-- And so has the URL of every reopening, after the calls of those before it. -/
  reopened : ∀ target, c.resume = some target → ∀ (before : List ReopenEnvironment) env,
    (target.reopen crates.url options env).Proper crates.url options.hasFactory
      (currentUrl options.baseUrl (repliesOf negotiation.visits)) c.connectionToken
      (callsOf negotiation.start negotiation.visits ++
        before.filterMap fun e => (target.reopen crates.url options e).call)
      (repliesOf negotiation.visits) env

section

variable {crate : UrlCrate}

/-- The target is there when the server agreed, with its token if it issued one. -/
lemma resumeTarget_ok {negotiated : NegotiateResult} {connectionToken : String}
    {resume : Option ResumeTarget}
    (h : resumeTarget crate negotiated connectionToken = .ok resume) :
    (resume.isSome = true ↔ negotiated.response.useStatefulReconnect = some true) ∧
      ∀ target, resume = some target →
        crate.buildWebsocketUrl negotiated.url connectionToken none = .ok target.url ∧
          target.serverToken =
            if negotiated.tokenFromServer then negotiated.accessToken else none := by
  unfold resumeTarget at h
  split at h
  next hagreed =>
    obtain ⟨url, hurl, h⟩ := bind_eq_ok.mp h
    cases h
    refine ⟨by simp [hagreed], ?_⟩
    rintro target ⟨⟩
    exact ⟨hurl, rfl⟩
  next hother =>
    cases h
    refine ⟨?_, by simp⟩
    constructor
    · intro hsome
      cases hsome
    · intro hagreed
      exact absurd hagreed hother

/-- The token is appended to the URL without one. -/
lemma UrlCrate.buildWebsocketUrl_append {baseUrl connectionToken url : String}
    (h : crate.buildWebsocketUrl baseUrl connectionToken none = .ok url)
    (accessToken : Option String) :
    crate.buildWebsocketUrl baseUrl connectionToken accessToken =
      crate.appendAccessToken url accessToken := by
  unfold buildWebsocketUrl at h ⊢
  cases hparsed : crate.parseUrl baseUrl with
  | error error =>
    rw [hparsed] at h
    cases h
  | ok parsed =>
    rw [hparsed] at h
    obtain rfl := Except.ok.inj h
    rfl

variable {target : ResumeTarget} {env : ReopenEnvironment} {hubUrl connectionToken : String}
  {calls : List (Except Error String)} {replies : List NegotiateResponse} {hasFactory : Bool}

/-- A reopening that dials with the most recent token is a proper one. -/
lemma ResumeTarget.dial_proper {call : Option (Except Error String)} {token : Option String}
    (hurl : crate.buildWebsocketUrl hubUrl connectionToken none = .ok target.url)
    (hcall : call =
      if hasFactory && (Negotiate.serverToken replies).isNone then some env.token else none)
    (hok : ∀ error, call ≠ some (.error error))
    (htoken : token = mostRecent (calls ++ call.toList) replies) :
    (target.dial crate env call token).Proper crate hasFactory hubUrl connectionToken calls replies
      env := by
  have hsame : (target.dial crate env call token).call = call := by
    unfold dial
    split <;> rfl
  refine ⟨hsame.trans hcall, ?_, ?_⟩
  · intro error herror
    exact absurd (hsame.symm.trans herror) (hok error)
  · intro _
    rw [hsame, ← htoken, UrlCrate.buildWebsocketUrl_append hurl]
    refine ⟨_, rfl, ?_⟩
    unfold dial
    split
    next error herror =>
      rw [herror]
      exact ⟨rfl, rfl⟩
    next url hok =>
      rw [hok]
      exact ⟨rfl, rfl⟩

/-- Every reopening is a proper one.

**Proof sketch.** With a token of the server the factory is not called, and the token is the most
recent one whatever the calls were. Without, it is the token of the new call; and without a factory
there are no calls and no token. -/
lemma ResumeTarget.reopen_proper {options : ConnectionOptions}
    (hurl : crate.buildWebsocketUrl hubUrl connectionToken none = .ok target.url)
    (hserver : target.serverToken = Negotiate.serverToken replies)
    (hcalls : options.hasFactory = false → calls = []) :
    (target.reopen crate options env).Proper crate options.hasFactory hubUrl connectionToken calls
      replies env := by
  unfold reopen
  rw [hserver]
  cases hissued : Negotiate.serverToken replies with
  | some token =>
    refine dial_proper hurl (by simp [hissued]) (by simp) ?_
    simp [mostRecent, hissued]
  | none =>
    cases hfactory : options.hasFactory with
    | false =>
      refine dial_proper hurl (by simp) (by simp) ?_
      simp [mostRecent, hissued, hcalls hfactory, factoryToken]
    | true =>
      cases htoken : env.token with
      | error error =>
        refine ⟨by simp [hissued, htoken], ?_, ?_⟩
        · rintro _ ⟨⟩
          exact ⟨rfl, rfl⟩
        · intro hne
          exact absurd rfl (hne error)
      | ok token =>
        refine dial_proper hurl (by simp [hissued, htoken]) (by simp) ?_
        simp [mostRecent, hissued]

end

section

variable {crates : ConnectCrates} {options : ConnectionOptions} {env : Environment}
  {c : Connection}

/-- **A connection and its reopenings.** The web socket of an established connection can be reopened
exactly if the client asked for stateful reconnect and the last reply of the server agreed. The
first URL and that of every reopening are those of the hub the negotiation ended at, with the
connection token and the most recent access token: the last one the server issued, and else the one
of the last call of the factory, which every reopening makes anew.

**Proof sketch.** The negotiation that succeeded has the most recent token and says whether the
server issued it; the target keeps it only then. -/
theorem Connection.resumes_of_connect
    (h : (Connection.connect crates options env).result = some (.ok c)) :
    ∃ negotiation, (Connection.connect crates options env).negotiation = some negotiation ∧
      c.Resumes crates options (Connection.connect crates options env) negotiation := by
  obtain ⟨negotiated, url, hnegotiation, hnegotiated, hdialed, htarget⟩ := Connection.connect_ok h
  generalize hrun : negotiateWithTokenFactory env.outcomes options.useStatefulReconnect
    options.hasFactory options.baseUrl = negotiation at hnegotiation hnegotiated
  have hsuccess := (followed_of_negotiate hrun).success negotiated hnegotiated
  rw [List.nil_append] at hsuccess
  obtain ⟨-, hurl, hresume⟩ := webSocketTarget_ok htarget
  obtain ⟨hagreed, htargets⟩ := resumeTarget_ok hresume
  rw [hsuccess.url] at hurl htargets
  refine ⟨negotiation, hnegotiation, ?_, ⟨url, hdialed, ?_⟩, ?_⟩
  · have hlast := hsuccess.response
    have hmem : negotiated.response ∈ repliesOf negotiation.visits :=
      List.mem_of_getLast? hlast
    rw [hagreed, hlast]
    constructor
    · intro hyes
      exact ⟨(hsuccess.accepted _ hmem).2 hyes, negotiated.response, rfl, hyes⟩
    · rintro ⟨-, reply, hreply, hyes⟩
      obtain rfl : negotiated.response = reply := Option.some.inj hreply
      exact hyes
  · rw [← hsuccess.accessToken]
    exact hurl
  · intro target hsome before reopenEnv
    obtain ⟨htargetUrl, hserver⟩ := htargets target hsome
    have hissued := hsuccess.tokenFromServer.trans (serverToken_isSome _).symm
    have hsame : target.serverToken = serverToken (repliesOf negotiation.visits) := by
      rw [hserver, hsuccess.accessToken, mostRecent]
      cases htoken : serverToken (repliesOf negotiation.visits) with
      | some token =>
        rw [if_pos (hissued.mpr (by rw [htoken]; rfl))]
        rfl
      | none =>
        have hnot : ¬ negotiated.tokenFromServer = true := by
          rw [hissued, htoken]
          decide
        rw [if_neg hnot]
    refine ResumeTarget.reopen_proper htargetUrl hsame ?_
    intro hfactory
    rw [hfactory] at hrun
    rw [callsOf_negotiate hrun, List.nil_append, List.filterMap_eq_nil_iff]
    intro e _
    unfold ResumeTarget.reopen ResumeTarget.dial
    rw [hfactory]
    cases target.serverToken <;> dsimp only <;> split <;> rfl

end

/-- The crates of an example: the handshake of the JSON protocol. -/
def exampleCrates : ConnectCrates where
  url := CanonicalUrl.crate
  handshake :=
    { fromJson := fun json =>
        if json = "\x7b\x7d" then .ok ⟨none, none⟩ else .error "expected value"
      invalidUtf8 := fun _ => "invalid utf-8 sequence" }
  requestJson := fun request =>
    .ok ("\x7b\"protocol\":\"" ++ request.protocol ++ "\",\"version\":" ++
      toString request.version ++ "\x7d")

/-- A client with a token factory that asks for stateful reconnect. -/
def exampleOptions (parseMessages : HubProtocolInput → Checked (List HubMessage)) :
    ConnectionOptions where
  baseUrl := "https://example.com/signalr?client=web"
  useStatefulReconnect := true
  protocol := "json"
  handshakeVersionOverride := none
  protocolVersion := 2
  parseMessages := parseMessages
  hasFactory := true
  hasClient := true

/-- The first token is refused, and the server agrees to stateful reconnect. -/
def exampleEnvironment (first : Option (Option Transport.TransportMessage)) : Environment where
  client := .ok ()
  outcomes :=
    { replies := fun n =>
        if n = 0 then .error (.unauthorized "negotiate returned 401 Unauthorized")
        else .ok { connectionToken := some "token", useStatefulReconnect := some true }
      tokens := fun k => .ok (if k = 0 then "expired" else "fresh") }
  connectAsync := fun _ => .ok ()
  sendText := fun _ => .ok ()
  first := first

/-- A connection is established when each step of `connect` succeeds. -/
lemma Connection.result_of_target {crates : ConnectCrates} {options : ConnectionOptions}
    {env : Environment} (hclient : options.hasClient = true) {negotiated : NegotiateResult}
    (hnegotiated : (negotiateWithTokenFactory env.outcomes options.useStatefulReconnect
      options.hasFactory options.baseUrl).result = .ok negotiated)
    {connectionToken url : String} {resume : Option ResumeTarget}
    (htarget : webSocketTarget crates.url negotiated = .ok (connectionToken, url, resume))
    (hopen : env.connectAsync url = .ok ()) {handshakeResult : HandshakeResult}
    {initialMessages : List HubMessage}
    (hhandshake : (completeHandshake crates options env).2 =
      some (.ok (handshakeResult, initialMessages))) :
    (Connection.connect crates options env).result = some (.ok
      { baseUrl := options.baseUrl
        connectionId := negotiated.response.connectionId
        connectionToken := connectionToken
        handshakeResult := handshakeResult
        initialMessages := initialMessages
        resume := resume }) := by
  simp only [Connection.connect, hclient, if_true, hnegotiated, htarget, hopen, hhandshake,
    Option.map_some]
  rfl

/-- The client of the example connects when the handshake is completed. -/
lemma Connection.exists_connect_example
    {parseMessages : HubProtocolInput → Checked (List HubMessage)}
    {first : Option (Option Transport.TransportMessage)} {handshakeResult : HandshakeResult}
    {initialMessages : List HubMessage}
    (h : awaitHandshake exampleCrates (exampleOptions parseMessages) first =
      some (.ok (handshakeResult, initialMessages))) :
    ∃ c, (Connection.connect exampleCrates (exampleOptions parseMessages)
        (exampleEnvironment first)).result = some (.ok c) ∧
      c.initialMessages = initialMessages ∧ c.resume.isSome = true := by
  have hparse : CanonicalUrl.crate.parse exampleHub.serialize = .ok exampleHub :=
    CanonicalUrl.crate_parse_serialize (by decide)
  have htext : exampleHub.serialize = "https://example.com/signalr?client=web" := by decide
  rw [htext] at hparse
  have hbuild : ∀ token, ∃ url, CanonicalUrl.crate.buildWebsocketUrl
      (exampleOptions parseMessages).baseUrl "token" token = .ok url := by
    intro token
    obtain ⟨query, h, -⟩ := UrlCrate.buildWebsocketUrl_eq CanonicalUrl.crate_standard hparse
      (.inr rfl) "token" token
    exact ⟨_, h⟩
  obtain ⟨opened, hopened⟩ := hbuild (some "fresh")
  obtain ⟨later, hlater⟩ := hbuild none
  have hnegotiated : (negotiateWithTokenFactory (exampleEnvironment first).outcomes
      (exampleOptions parseMessages).useStatefulReconnect (exampleOptions parseMessages).hasFactory
      (exampleOptions parseMessages).baseUrl).result =
        .ok { response := { connectionToken := some "token", useStatefulReconnect := some true }
              accessToken := some "fresh"
              url := (exampleOptions parseMessages).baseUrl
              tokenFromServer := false } := by
    simp [negotiateWithTokenFactory, followRedirects, visitUrl, exampleEnvironment, nonEmpty,
      exampleOptions, Request.unauthorized, TokenSource.token]
  have htarget : webSocketTarget exampleCrates.url
      { response := { connectionToken := some "token", useStatefulReconnect := some true }
        accessToken := some "fresh"
        url := (exampleOptions parseMessages).baseUrl
        tokenFromServer := false } = .ok ("token", opened, some ⟨later, none⟩) := by
    refine bind_eq_ok.mpr ⟨"token", rfl, bind_eq_ok.mpr ⟨opened, hopened, ?_⟩⟩
    refine bind_eq_ok.mpr ⟨some ⟨later, none⟩, ?_, rfl⟩
    exact bind_eq_ok.mpr ⟨later, hlater, rfl⟩
  have hhandshake : (completeHandshake exampleCrates (exampleOptions parseMessages)
      (exampleEnvironment first)).2 = some (.ok (handshakeResult, initialMessages)) := h
  exact ⟨_, Connection.result_of_target rfl hnegotiated htarget rfl hhandshake, rfl, rfl⟩

/-- A connection whose token was refused once can be resumed. -/
theorem Connection.resumes_of_connect_refused :
    ∃ c negotiation, (Connection.connect exampleCrates (exampleOptions fun _ => pure [])
        (exampleEnvironment (some (some (.text (TextMessageFormat.write "\x7b\x7d")))))).result =
          some (.ok c) ∧ c.resume.isSome = true ∧
      c.Resumes exampleCrates (exampleOptions fun _ => pure [])
        (Connection.connect exampleCrates (exampleOptions fun _ => pure [])
          (exampleEnvironment (some (some (.text (TextMessageFormat.write "\x7b\x7d"))))))
        negotiation := by
  have hhandshake : awaitHandshake exampleCrates (exampleOptions fun _ => pure [])
      (some (some (.text (TextMessageFormat.write "\x7b\x7d")))) =
        some (.ok (⟨⟨none, none⟩, none⟩, [])) := by rfl
  obtain ⟨c, hconnect, -, hresume⟩ := Connection.exists_connect_example hhandshake
  obtain ⟨negotiation, -, hresumes⟩ := Connection.resumes_of_connect hconnect
  exact ⟨c, negotiation, hconnect, hresume, hresumes⟩

end Signalrr
