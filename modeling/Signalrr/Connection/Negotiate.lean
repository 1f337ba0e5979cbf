import Mathlib.Data.List.Basic
import Signalrr.Hub.Message

set_option relaxedAutoImplicit false
set_option autoImplicit false

/-!
# Negotiation

`negotiate_with_token_factory` of `src/negotiate.rs`: the client asks the hub for a connection and
follows redirects. A request that is refused as unauthorized is made once more with a fresh token,
unless the server has issued a token of its own.

## Main definitions

* `Signalrr.Negotiate.Outcomes` — what requests and calls of the token factory end with.
* `Signalrr.Negotiate.visitUrl` — the requests at one URL.
* `Signalrr.Negotiate.followRedirects` — the loop, with a record of the URLs that are visited.
* `Signalrr.Negotiate.negotiateWithTokenFactory` — the function.
* `Signalrr.Negotiate.mostRecent`, `currentUrl` — the token and the URL, in terms of what has been
  received.
* `Signalrr.Negotiate.Visit.Proper` — what is done at a URL, given what has been received before.
* `Signalrr.Negotiate.Visit.Redirects`, `Visit.Ends` — when a run goes on behind a URL, and how it
  ends there.
* `Signalrr.Negotiate.Run.Proper` — what a run does.

## Main results

* `Signalrr.Negotiate.negotiate_follows` — redirects and tokens are followed as they should be.

## Design

The `n`-th request ends with `replies n` and the `k`-th call of the factory with `tokens k`, so that
every sequence of outcomes is one. The loop is total, as it stops at `maxNegotiateRedirects`.
-/

namespace Signalrr.Negotiate

open Hub

/-! ## Outcomes -/

/-- Response from the SignalR `/negotiate` endpoint. -/
structure NegotiateResponse where
  url : Option String := none
  accessToken : Option String := none
  error : Option String := none
  connectionId : Option String := none
  connectionToken : Option String := none
  negotiateVersion : Option ℕ := none
  useStatefulReconnect : Option Bool := none
  deriving DecidableEq, Repr

/-- Result of a completed negotiate sequence. -/
structure NegotiateResult where
  response : NegotiateResponse
  accessToken : Option String
  url : String
  tokenFromServer : Bool
  deriving DecidableEq, Repr

/-- What the requests end with, and what the calls of the token factory do. -/
structure Outcomes where
  replies : ℕ → Except Error NegotiateResponse
  tokens : ℕ → Except Error String

/-- `MAX_NEGOTIATE_REDIRECTS`. -/
def maxNegotiateRedirects : ℕ := 100

/-- `access_token::resolve` on a token: an empty one is none. -/
def nonEmpty (token : String) : Option String := if token.isEmpty then none else some token

/-- Where tokens come from. -/
inductive TokenSource where
  | fixed (token : Option String)
  | factory (token : Option String)
  deriving DecidableEq, Repr

/-- `TokenSource::token`, `TokenSource::into_token`. -/
def TokenSource.token : TokenSource → Option String
  | fixed token => token
  | factory token => token

/-! ## Visits -/

/-- A request: its token and what it ends with. -/
structure Request where
  token : Option String
  outcome : Except Error NegotiateResponse

/-- What is done at one URL: a request, and where it is made once more, the call of the factory and
the second request. -/
structure Visit where
  url : String
  first : Request
  refreshed : Option (Except Error String) := none
  second : Option Request := none

namespace Visit

/-- The requests at a URL. -/
def requests (v : Visit) : List Request := v.first :: v.second.toList

/-- The reply a URL gives in the end. -/
def reply (v : Visit) : Option NegotiateResponse := (v.second.getD v.first).outcome.toOption

/-- What a visit ends with: the error of the factory, or what the last request ends with. -/
def outcome (v : Visit) : Except Error NegotiateResponse :=
  match v.refreshed with
  | some (.error error) => .error error
  | _ => (v.second.getD v.first).outcome

end Visit

/-- A request that is refused as unauthorized. -/
def Request.unauthorized (request : Request) : Bool :=
  match request.outcome with
  | .error (.unauthorized _) => true
  | _ => false

/-- The match on `negotiate_once` with its guard, at the `n`-th request and the `k`-th call of the
factory: what is done, the tokens afterwards and the reply. -/
def visitUrl (outcomes : Outcomes) (n k : ℕ) (source : TokenSource) (url : String) :
    Visit × TokenSource × Except Error NegotiateResponse :=
  let first : Request := ⟨source.token, outcomes.replies n⟩
  match first.unauthorized, source with
  | true, .factory _ =>
    match outcomes.tokens k with
    | .error error => (⟨url, first, some (.error error), none⟩, source, .error error)
    | .ok token =>
      let second : Request := ⟨nonEmpty token, outcomes.replies (n + 1)⟩
      (⟨url, first, some (.ok token), some second⟩, .factory (nonEmpty token), second.outcome)
  | _, _ => (⟨url, first, none, none⟩, source, first.outcome)

/-- The loop of `negotiate_with_source`, after some redirects, requests and calls of the factory. -/
def followRedirects (outcomes : Outcomes) (useStatefulReconnect : Bool) (redirects n k : ℕ)
    (source : TokenSource) (tokenFromServer : Bool) (currentUrl : String) :
    List Visit × Except Error NegotiateResult :=
  match visitUrl outcomes n k source currentUrl with
  | (visit, _, .error error) => ([visit], .error error)
  | (visit, source, .ok response) =>
    match response.error with
    | some error => ([visit], .error (.negotiate error))
    | none =>
      if response.useStatefulReconnect.getD false && !useStatefulReconnect then
        ([visit], .error (.negotiate
          "client did not negotiate stateful reconnect but the server did"))
      else
        let (source, tokenFromServer) :=
          match response.accessToken with
          | some serverToken => (TokenSource.fixed (some serverToken), true)
          | none => (source, tokenFromServer)
        match response.url with
        | none => ([visit], .ok ⟨response, source.token, currentUrl, tokenFromServer⟩)
        | some redirectUrl =>
          if redirects ≥ maxNegotiateRedirects then
            ([visit], .error (.negotiate "negotiate redirection limit exceeded"))
          else
            let r := followRedirects outcomes useStatefulReconnect (redirects + 1)
              (n + visit.requests.length) (k + visit.refreshed.toList.length) source
              tokenFromServer redirectUrl
            (visit :: r.1, r.2)
  termination_by maxNegotiateRedirects - redirects

/-- A run: the first call of the factory, the URLs that are visited and the result. -/
structure Run where
  start : Option (Except Error String)
  visits : List Visit
  result : Except Error NegotiateResult

/-- `negotiate_with_token_factory`, with a factory or without. -/
def negotiateWithTokenFactory (outcomes : Outcomes) (useStatefulReconnect hasFactory : Bool)
    (hubUrl : String) : Run :=
  if hasFactory then
    match outcomes.tokens 0 with
    | .error error => ⟨some (.error error), [], .error error⟩
    | .ok token =>
      let r := followRedirects outcomes useStatefulReconnect 0 0 1
        (.factory (nonEmpty token)) false hubUrl
      ⟨some (.ok token), r.1, r.2⟩
  else
    let r := followRedirects outcomes useStatefulReconnect 0 0 0
      (.fixed none) false hubUrl
    ⟨none, r.1, r.2⟩

/-! ## What has been received -/

/-- The replies at the URLs that have been visited. -/
def repliesOf (visits : List Visit) : List NegotiateResponse := visits.filterMap Visit.reply

/-- What the calls of the factory have ended with: the one at the start, and those that follow a
refused request. -/
def callsOf (start : Option (Except Error String)) (visits : List Visit) :
    List (Except Error String) :=
  start.toList ++ visits.filterMap Visit.refreshed

/-- The last token the server has issued, if there is any. -/
def serverToken (replies : List NegotiateResponse) : Option String :=
  (replies.filterMap NegotiateResponse.accessToken).getLast?

/-- The last token of the factory, where an empty one is none. -/
def factoryToken (calls : List (Except Error String)) : Option String :=
  (calls.filterMap Except.toOption).getLast?.bind nonEmpty

/-- The most recent token: that of the server if there is any, and else that of the factory. -/
def mostRecent (calls : List (Except Error String)) (replies : List NegotiateResponse) :
    Option String :=
  (serverToken replies).or (factoryToken calls)

/-- The last redirect target, and the URL of the hub if there is none. -/
def currentUrl (hubUrl : String) (replies : List NegotiateResponse) : String :=
  (replies.filterMap NegotiateResponse.url).getLast?.getD hubUrl

/-- A reply that is accepted: it has no error, and stateful reconnect only where the client has
asked for it. -/
def NegotiateResponse.Accepted (useStatefulReconnect : Bool) (response : NegotiateResponse) :
    Prop :=
  response.error = none ∧
    (response.useStatefulReconnect = some true → useStatefulReconnect = true)

/-- A visit whose reply is accepted and is a redirect. -/
def Visit.Redirects (useStatefulReconnect : Bool) (v : Visit) : Prop :=
  ∃ response, v.outcome = .ok response ∧ response.Accepted useStatefulReconnect ∧
    response.url ≠ none

/-- What a run that ends behind a visit gives: the error of the visit, an error where the reply is
not accepted, a success where it is accepted and no redirect, and an error where it is one redirect
too many. -/
def Visit.Ends (useStatefulReconnect : Bool) (v : Visit) (result : Except Error NegotiateResult) :
    Prop :=
  match v.outcome with
  | .error error => result = .error error
  | .ok response =>
    (¬ response.Accepted useStatefulReconnect → result = .error (.negotiate (response.error.getD
      "client did not negotiate stateful reconnect but the server did"))) ∧
    (response.Accepted useStatefulReconnect → response.url = none →
      ∃ success, result = .ok success) ∧
    (response.Accepted useStatefulReconnect → response.url ≠ none →
      result = .error (.negotiate "negotiate redirection limit exceeded"))

/-- What is done at a URL is proper, after the visits `before`: the URL is the current one, the
requests have the most recent token, and the factory is called again when the first request is
unauthorized and the server has not issued a token. -/
structure Visit.Proper (hasFactory : Bool) (hubUrl : String) (start : Option (Except Error String))
    (before : List Visit) (v : Visit) : Prop where
  url : v.url = currentUrl hubUrl (repliesOf before)
  firstToken : v.first.token = mostRecent (callsOf start before) (repliesOf before)
  refreshed : v.refreshed.isSome = true ↔ hasFactory = true ∧ v.first.unauthorized = true ∧
    ∀ reply ∈ repliesOf before, reply.accessToken = none
  second : v.second.isSome = true ↔ ∃ token, v.refreshed = some (.ok token)
  secondToken : ∀ request ∈ v.second,
    request.token = mostRecent (callsOf start before ++ v.refreshed.toList) (repliesOf before)

/-- The tokens after some calls and replies: the factory is there until the server issues a
token. -/
def sourceOf (hasFactory : Bool) (calls : List (Except Error String))
    (replies : List NegotiateResponse) : TokenSource :=
  if hasFactory && (serverToken replies).isNone then .factory (mostRecent calls replies)
  else .fixed (mostRecent calls replies)

/-- The requests and the calls of the factory are those of the outcomes, in order and without a gap:
`n` requests and `k` calls. -/
structure Drawn (outcomes : Outcomes) (start : Option (Except Error String)) (n k : ℕ)
    (visits : List Visit) : Prop where
  requests : (visits.flatMap Visit.requests).map Request.outcome =
    (List.range n).map outcomes.replies
  calls : callsOf start visits = (List.range k).map outcomes.tokens

/-- What a success says about the visits: the last reply is returned, with the current URL, the most
recent token and whether the server has issued one, and all replies are accepted. -/
structure Succeeded (useStatefulReconnect : Bool) (hubUrl : String)
    (start : Option (Except Error String)) (visits : List Visit) (result : NegotiateResult) :
    Prop where
  response : (repliesOf visits).getLast? = some result.response
  url : result.url = currentUrl hubUrl (repliesOf visits)
  accessToken : result.accessToken = mostRecent (callsOf start visits) (repliesOf visits)
  tokenFromServer : result.tokenFromServer = true ↔
    ∃ reply ∈ repliesOf visits, reply.accessToken.isSome = true
  accepted : ∀ reply ∈ repliesOf visits, reply.Accepted useStatefulReconnect

/-- A run that does all of this. -/
structure Run.Proper (outcomes : Outcomes) (useStatefulReconnect hasFactory : Bool)
    (hubUrl : String) (run : Run) : Prop where
  /-- At most 101 URLs are visited. -/
  visits_le : run.visits.length ≤ 101
  /-- There are at most two requests at a URL. -/
  requests_le : ∀ v ∈ run.visits, v.requests.length ≤ 2
  /-- The factory is called at the start. -/
  start : run.start = if hasFactory then some (outcomes.tokens 0) else none
  /-- Requests and calls take the outcomes in order. -/
  drawn : ∃ n k, Drawn outcomes run.start n k run.visits
  /-- A URL is visited unless the first call of the factory fails. -/
  first : run.visits = [] ↔ ∃ error, run.start = some (.error error)
  /-- Then the run ends with its error. -/
  startFails : ∀ error, run.start = some (.error error) → run.result = .error error
  /-- What is done at each URL. -/
  visits : ∀ before v after, run.visits = before ++ v :: after →
    v.Proper hasFactory hubUrl run.start before
  /-- Another URL is visited exactly behind a redirect, up to the 101st. -/
  continues : ∀ before v after, run.visits = before ++ v :: after →
    (after ≠ [] ↔ v.Redirects useStatefulReconnect ∧ before.length < 100)
  /-- How the run ends. -/
  ends : ∀ before v, run.visits = before ++ [v] → v.Ends useStatefulReconnect run.result
  /-- What a success says. -/
  success : ∀ result, run.result = .ok result →
    Succeeded useStatefulReconnect hubUrl run.start run.visits result

/-! ### One more visit -/

section

variable (start : Option (Except Error String)) (before : List Visit) (v : Visit)
variable (calls : List (Except Error String)) (replies : List NegotiateResponse)
variable (response : NegotiateResponse)

/-- The replies after one more visit. -/
@[simp]
theorem repliesOf_append : repliesOf (before ++ [v]) = repliesOf before ++ v.reply.toList := by
  cases h : v.reply <;> simp [repliesOf, h]

/-- The calls of the factory after one more visit. -/
@[simp]
theorem callsOf_append :
    callsOf start (before ++ [v]) = callsOf start before ++ v.refreshed.toList := by
  cases h : v.refreshed <;> simp [callsOf, h]

/-- A token in a reply is the last one of the server. -/
@[simp]
theorem serverToken_append :
    serverToken (replies ++ [response]) = response.accessToken.or (serverToken replies) := by
  cases h : response.accessToken <;> simp [serverToken, h]

/-- A reply with a URL is a redirect to it. -/
@[simp]
theorem currentUrl_append (hubUrl : String) :
    currentUrl hubUrl (replies ++ [response]) = response.url.getD (currentUrl hubUrl replies) := by
  cases h : response.url <;> simp [currentUrl, h]

/-- A token of the factory is its last one. -/
@[simp]
theorem factoryToken_append (token : String) :
    factoryToken (calls ++ [.ok token]) = nonEmpty token := by
  simp [factoryToken, Except.toOption]

/-- The server has not issued a token when no reply has one. -/
theorem serverToken_eq_none :
    serverToken replies = none ↔ ∀ reply ∈ replies, reply.accessToken = none := by
  simp [serverToken]

/-- The server has issued a token when some reply has one. -/
theorem serverToken_isSome :
    (serverToken replies).isSome = true ↔
      ∃ reply ∈ replies, reply.accessToken.isSome = true := by
  rw [← Option.ne_none_iff_isSome, ne_eq, serverToken_eq_none]
  simp [Option.isSome_iff_ne_none]

/-- The tokens have the most recent one. -/
@[simp]
theorem sourceOf_token (hasFactory : Bool) :
    (sourceOf hasFactory calls replies).token = mostRecent calls replies := by
  unfold sourceOf
  split <;> rfl

/-- A token in a reply takes the place of the factory. -/
theorem sourceOf_append (hasFactory : Bool) :
    sourceOf hasFactory calls (replies ++ [response]) =
      match response.accessToken with
      | some token => .fixed (some token)
      | none => sourceOf hasFactory calls replies := by
  cases h : response.accessToken <;> simp [sourceOf, mostRecent, h]

/-- A call of the factory that fails gives no token. -/
@[simp]
theorem factoryToken_append_error (error : Error) :
    factoryToken (calls ++ [.error error]) = factoryToken calls := by
  simp [factoryToken, Except.toOption]

end

/-! ### The requests at a URL -/

section

variable (outcomes : Outcomes) (hasFactory : Bool) (hubUrl : String)
variable (start : Option (Except Error String)) (n k : ℕ) (before : List Visit)

/-- What a visit after `before` does, with what it leaves behind: it is proper, it takes the next
outcomes, and the tokens and the reply are as they should be. -/
structure Visited (r : Visit × TokenSource × Except Error NegotiateResponse) : Prop where
  proper : r.1.Proper hasFactory hubUrl start before
  requests : r.1.requests.map Request.outcome =
    (List.range r.1.requests.length).map fun i => outcomes.replies (n + i)
  calls : r.1.refreshed.toList =
    (List.range r.1.refreshed.toList.length).map fun i => outcomes.tokens (k + i)
  source : r.2.1 =
    sourceOf hasFactory (callsOf start before ++ r.1.refreshed.toList) (repliesOf before)
  reply : r.1.reply = r.2.2.toOption
  outcome : r.1.outcome = r.2.2

/-- The first request at a URL, with what has been received before. -/
def firstRequest : Request :=
  ⟨mostRecent (callsOf start before) (repliesOf before), outcomes.replies n⟩

/-- A first request that is not refused, or cannot be made again, is the only one. -/
theorem visited_once
    (h : ¬ (hasFactory = true ∧ (firstRequest outcomes start n before).unauthorized = true ∧
      serverToken (repliesOf before) = none)) :
    Visited outcomes hasFactory hubUrl start n k before
      (⟨currentUrl hubUrl (repliesOf before), firstRequest outcomes start n before, none, none⟩,
        sourceOf hasFactory (callsOf start before) (repliesOf before), outcomes.replies n) where
  proper :=
    { url := rfl
      firstToken := rfl
      refreshed := by simpa [serverToken_eq_none] using h
      second := by simp
      secondToken := by simp }
  requests := by simp [Visit.requests, firstRequest]
  calls := by simp
  source := by simp
  reply := rfl
  outcome := rfl

/-- The factory is called when the first request is refused and the server has issued no token. -/
theorem visited_again (token : Except Error String) (second : Option Request)
    (hfactory : hasFactory = true) (hnone : serverToken (repliesOf before) = none)
    (hrefused : (firstRequest outcomes start n before).unauthorized = true)
    (htoken : outcomes.tokens k = token)
    (hsecond : second = token.toOption.map fun t => ⟨nonEmpty t, outcomes.replies (n + 1)⟩) :
    Visited outcomes hasFactory hubUrl start n k before
      (⟨currentUrl hubUrl (repliesOf before), firstRequest outcomes start n before, some token,
        second⟩, .factory (factoryToken (callsOf start before ++ [token])),
        token.bind fun _ => outcomes.replies (n + 1)) where
  proper :=
    { url := rfl
      firstToken := rfl
      refreshed := by simpa [hfactory, hrefused] using (serverToken_eq_none _).mp hnone
      second := by cases token <;> simp [hsecond, Except.toOption]
      secondToken := by cases token <;> simp [hsecond, Except.toOption, mostRecent, hnone] }
  requests := by
    cases token <;>
      simp [Visit.requests, hsecond, Except.toOption, firstRequest, List.range_succ]
  calls := by simp [htoken]
  source := by simp [sourceOf, hfactory, hnone, mostRecent]
  reply := by
    cases token with
    | error error =>
      have hfirst : ∃ text, outcomes.replies n = .error (.unauthorized text) := by
        unfold firstRequest Request.unauthorized at hrefused
        split at hrefused
        · exact ⟨_, ‹_›⟩
        · cases hrefused
      obtain ⟨text, hfirst⟩ := hfirst
      simp [Visit.reply, hsecond, Except.toOption, Except.bind, firstRequest, hfirst]
    | ok token => simp [Visit.reply, hsecond, Except.toOption, Except.bind]
  outcome := by
    cases token with
    | error error => rfl
    | ok token => simp [Visit.outcome, hsecond, Except.toOption, Except.bind]

/-- A visit with the tokens and the URL that have been received does what it should.

**Proof sketch.** With the factory still there, an unauthorized first request is followed by a call
of the factory, which fails or gives the token of the second request. In all other cases there is
one request. -/
theorem visitUrl_visited :
    Visited outcomes hasFactory hubUrl start n k before
      (visitUrl outcomes n k (sourceOf hasFactory (callsOf start before) (repliesOf before))
        (currentUrl hubUrl (repliesOf before))) := by
  have hfirst : (⟨(sourceOf hasFactory (callsOf start before) (repliesOf before)).token,
      outcomes.replies n⟩ : Request) = firstRequest outcomes start n before := by
    rw [sourceOf_token]
    rfl
  unfold visitUrl
  dsimp only
  rw [hfirst]
  split
  next source token hrefused hsource =>
    obtain ⟨hfactory, hnone⟩ : hasFactory = true ∧ serverToken (repliesOf before) = none := by
      unfold sourceOf at hsource
      split at hsource
      next h => simpa using h
      next => cases hsource
    have htoken : token = factoryToken (callsOf start before) := by
      have h := sourceOf_token (callsOf start before) (repliesOf before) hasFactory
      rw [hsource, mostRecent, hnone] at h
      exact h
    split
    next error ht =>
      have h := visited_again outcomes hasFactory hubUrl start n k before _ none hfactory hnone
        hrefused ht rfl
      rw [factoryToken_append_error, ← htoken, ← hsource] at h
      exact h
    next t ht =>
      have h := visited_again outcomes hasFactory hubUrl start n k before _ _ hfactory hnone
        hrefused ht rfl
      rw [factoryToken_append] at h
      exact h
  next hother =>
    apply visited_once
    rintro ⟨hfactory, hrefused, hnone⟩
    have hsource : sourceOf hasFactory (callsOf start before) (repliesOf before) =
        .factory (mostRecent (callsOf start before) (repliesOf before)) := by
      simp [sourceOf, hfactory, hnone]
    exact hother _ hrefused hsource

/-- The outcomes are still taken in order after a visit. -/
theorem Drawn.append {outcomes hasFactory hubUrl start n k before}
    {r : Visit × TokenSource × Except Error NegotiateResponse}
    (hdrawn : Drawn outcomes start n k before)
    (hvisited : Visited outcomes hasFactory hubUrl start n k before r) :
    Drawn outcomes start (n + r.1.requests.length) (k + r.1.refreshed.toList.length)
      (before ++ [r.1]) where
  requests := by
    rw [List.flatMap_append, List.map_append, hdrawn.requests, List.flatMap_singleton,
      hvisited.requests, List.range_add, List.map_append, List.map_map]
    rfl
  calls := by
    rw [callsOf_append, hdrawn.calls, hvisited.calls, List.range_add, List.map_append, List.map_map]
    simp [Function.comp_def]

end

/-! ### The redirects -/

section

variable (outcomes : Outcomes) (useStatefulReconnect hasFactory : Bool) (hubUrl : String)
variable (start : Option (Except Error String))

/-- The rest of a run, after the visits `before` and with some redirects left. -/
structure Followed (left : ℕ) (before : List Visit)
    (r : List Visit × Except Error NegotiateResult) : Prop where
  visits_le : r.1.length ≤ left + 1
  drawn : ∃ n k, Drawn outcomes start n k (before ++ r.1)
  visits : ∀ pre v post, r.1 = pre ++ v :: post → v.Proper hasFactory hubUrl start (before ++ pre)
  continues : ∀ pre v post, r.1 = pre ++ v :: post →
    (post ≠ [] ↔ v.Redirects useStatefulReconnect ∧ pre.length < left)
  ends : ∀ pre v, r.1 = pre ++ [v] → v.Ends useStatefulReconnect r.2
  success : ∀ result, r.2 = .ok result →
    Succeeded useStatefulReconnect hubUrl start (before ++ r.1) result

variable {outcomes useStatefulReconnect hasFactory hubUrl start}

/-- The run may end at a URL. -/
theorem Followed.last {n k left : ℕ} {before : List Visit}
    {r : Visit × TokenSource × Except Error NegotiateResponse}
    {result : Except Error NegotiateResult} (hdrawn : Drawn outcomes start n k before)
    (hvisited : Visited outcomes hasFactory hubUrl start n k before r)
    (hlast : r.1.Redirects useStatefulReconnect → left = 0)
    (hends : r.1.Ends useStatefulReconnect result)
    (hsuccess : ∀ x, result = .ok x →
      Succeeded useStatefulReconnect hubUrl start (before ++ [r.1]) x) :
    Followed outcomes useStatefulReconnect hasFactory hubUrl start left before ([r.1], result) where
  visits_le := by simp
  drawn := ⟨_, _, hdrawn.append hvisited⟩
  visits := by
    intro pre v post h
    cases pre with
    | nil =>
      obtain ⟨rfl, -⟩ := List.cons.inj h
      simpa using hvisited.proper
    | cons u pre => simp at h
  continues := by
    intro pre v post h
    cases pre with
    | nil =>
      obtain ⟨rfl, rfl⟩ := List.cons.inj h
      refine ⟨fun hpost => absurd rfl hpost, fun ⟨hredirects, hlt⟩ => ?_⟩
      rw [hlast hredirects] at hlt
      cases hlt
    | cons u pre => simp at h
  ends := by
    intro pre v h
    cases pre with
    | nil =>
      obtain ⟨rfl, -⟩ := List.cons.inj h
      exact hends
    | cons u pre => simp at h
  success := hsuccess

/-- The run may go on with a redirect. -/
theorem Followed.cons {left : ℕ} {before : List Visit} {v : Visit}
    {r : List Visit × Except Error NegotiateResult}
    (hv : v.Proper hasFactory hubUrl start before) (hredirects : v.Redirects useStatefulReconnect)
    (hne : r.1 ≠ [])
    (hrest : Followed outcomes useStatefulReconnect hasFactory hubUrl start left
      (before ++ [v]) r) :
    Followed outcomes useStatefulReconnect hasFactory hubUrl start (left + 1) before
      (v :: r.1, r.2) where
  visits_le := by
    have h := hrest.visits_le
    simp only [List.length_cons]
    omega
  drawn := by simpa using hrest.drawn
  visits := by
    intro pre w post h
    cases pre with
    | nil =>
      obtain ⟨rfl, -⟩ := List.cons.inj h
      simpa using hv
    | cons u pre =>
      obtain ⟨rfl, htail⟩ := List.cons.inj h
      simpa using hrest.visits pre w post htail
  continues := by
    intro pre w post h
    cases pre with
    | nil =>
      obtain ⟨rfl, rfl⟩ := List.cons.inj h
      exact ⟨fun _ => ⟨hredirects, Nat.succ_pos _⟩, fun _ => hne⟩
    | cons u pre =>
      obtain ⟨rfl, htail⟩ := List.cons.inj h
      simpa using hrest.continues pre w post htail
  ends := by
    intro pre w h
    cases pre with
    | nil =>
      obtain ⟨-, hnil⟩ := List.cons.inj h
      exact absurd hnil hne
    | cons u pre =>
      obtain ⟨rfl, htail⟩ := List.cons.inj h
      exact hrest.ends pre w htail
  success := by simpa using hrest.success

/-- The loop visits a URL. -/
theorem followRedirects_ne_nil (outcomes : Outcomes) (useStatefulReconnect : Bool)
    (redirects n k : ℕ) (source : TokenSource) (tokenFromServer : Bool) (url : String) :
    (followRedirects outcomes useStatefulReconnect redirects n k source tokenFromServer url).1 ≠
      [] := by
  unfold followRedirects
  split
  · simp
  · repeat' split
    all_goals simp

/-- The tokens after a reply, and whether the server has issued one. -/
theorem Visited.source_after {n k : ℕ} {before : List Visit} {v : Visit} {source : TokenSource}
    {response : NegotiateResponse}
    (hvisited : Visited outcomes hasFactory hubUrl start n k before (v, source, .ok response)) :
    (match response.accessToken with
      | some token => (TokenSource.fixed (some token), true)
      | none => (source, (serverToken (repliesOf before)).isSome)) =
      (sourceOf hasFactory (callsOf start (before ++ [v])) (repliesOf (before ++ [v])),
        (serverToken (repliesOf (before ++ [v]))).isSome) := by
  have hreply : v.reply = some response := hvisited.reply
  have hsource : source = _ := hvisited.source
  rw [repliesOf_append, callsOf_append, hreply, hsource, Option.toList_some, sourceOf_append,
    serverToken_append]
  cases response.accessToken <;> rfl

/-- One more reply that is accepted. -/
theorem Visited.accepted {n k : ℕ} {before : List Visit} {v : Visit} {source : TokenSource}
    {response : NegotiateResponse}
    (hvisited : Visited outcomes hasFactory hubUrl start n k before (v, source, .ok response))
    (hbefore : ∀ reply ∈ repliesOf before, reply.Accepted useStatefulReconnect)
    (hresponse : response.Accepted useStatefulReconnect) :
    ∀ reply ∈ repliesOf (before ++ [v]), reply.Accepted useStatefulReconnect := by
  have hreply : v.reply = some response := hvisited.reply
  intro reply hmem
  rw [repliesOf_append, hreply, List.mem_append] at hmem
  rcases hmem with hmem | hmem
  · exact hbefore reply hmem
  · obtain rfl : reply = response := by simpa using hmem
    exact hresponse

/-- The loop follows redirects and tokens, whatever has been received before.

**Proof sketch.** Induction on the redirects that are left. The visit is a proper one by
`visitUrl_visited`. It is the last one unless its reply is accepted and has a URL; then the loop
goes on with the source, the flag and the URL that one more reply gives. -/
theorem followRedirects_followed (left redirects n k : ℕ) (before : List Visit)
    (hleft : redirects + left = maxNegotiateRedirects)
    (hdrawn : Drawn outcomes start n k before)
    (haccepted : ∀ reply ∈ repliesOf before, reply.Accepted useStatefulReconnect) :
    Followed outcomes useStatefulReconnect hasFactory hubUrl start left before
      (followRedirects outcomes useStatefulReconnect redirects n k
        (sourceOf hasFactory (callsOf start before) (repliesOf before))
        (serverToken (repliesOf before)).isSome (currentUrl hubUrl (repliesOf before))) := by
  induction left using Nat.strongRecOn generalizing redirects n k before with
  | ind left ih =>
    have hvisited := visitUrl_visited outcomes hasFactory hubUrl start n k before
    unfold followRedirects
    split
    next v _ error hvisit =>
      rw [hvisit] at hvisited
      have houtcome : v.outcome = .error error := hvisited.outcome
      refine .last hdrawn hvisited ?_ (by simp [Visit.Ends, houtcome]) (by simp)
      rintro ⟨response, hok, -⟩
      cases houtcome.symm.trans hok
    next v source response hvisit =>
      rw [hvisit] at hvisited
      have hreply : v.reply = some response := hvisited.reply
      have houtcome : v.outcome = .ok response := hvisited.outcome
      have hredirects : v.Redirects useStatefulReconnect ↔
          response.Accepted useStatefulReconnect ∧ response.url ≠ none := by
        simp [Visit.Redirects, houtcome]
      split
      next error herror =>
        have hnot : ¬ response.Accepted useStatefulReconnect := fun h => by simp [h.1] at herror
        refine .last hdrawn hvisited (fun h => absurd (hredirects.mp h).1 hnot) ?_ (by simp)
        simp [Visit.Ends, houtcome, hnot, herror]
      next herror =>
        by_cases hstateful :
            (response.useStatefulReconnect.getD false && !useStatefulReconnect) = true
        · rw [if_pos hstateful]
          have hnot : ¬ response.Accepted useStatefulReconnect := by
            intro h
            have himp := h.2
            cases hr : response.useStatefulReconnect with
            | none => simp [hr] at hstateful
            | some b => cases b <;> simp_all
          refine .last hdrawn hvisited (fun h => absurd (hredirects.mp h).1 hnot) ?_ (by simp)
          simp [Visit.Ends, houtcome, hnot, herror]
        · rw [if_neg hstateful]
          have hresponse : response.Accepted useStatefulReconnect := by
            refine ⟨herror, fun hsome => ?_⟩
            simpa [hsome] using hstateful
          have hnow := hvisited.accepted haccepted hresponse
          have hsource := hvisited.source_after
          rw [hsource]
          dsimp only
          have hurl : response.url.getD (currentUrl hubUrl (repliesOf before)) =
              currentUrl hubUrl (repliesOf (before ++ [v])) := by simp [hreply]
          split
          next hlast =>
            refine .last hdrawn hvisited (fun h => absurd hlast (hredirects.mp h).2) ?_ ?_
            · simp [Visit.Ends, houtcome, hresponse, hlast]
            · rintro _ ⟨⟩
              exact
                { response := by simp [hreply]
                  url := by simpa [hlast] using hurl
                  accessToken := sourceOf_token _ _ _
                  tokenFromServer := serverToken_isSome _
                  accepted := hnow }
          next redirectUrl hredirect =>
            split_ifs with hlimit
            · refine .last hdrawn hvisited (fun _ => by omega) ?_ (by simp)
              simp [Visit.Ends, houtcome, hresponse, hredirect]
            · obtain ⟨rest, rfl⟩ : ∃ rest, left = rest + 1 := ⟨left - 1, by omega⟩
              have hrest := ih rest (by omega) (redirects + 1) _ _ _ (by omega)
                (hdrawn.append hvisited) hnow
              rw [hredirect, Option.getD_some] at hurl
              rw [← hurl] at hrest
              exact .cons hvisited.proper (hredirects.mpr ⟨hresponse, by simp [hredirect]⟩)
                (followRedirects_ne_nil _ _ _ _ _ _ _ _) hrest

/-- A negotiation follows redirects and tokens from its start.

**Proof sketch.** Before the first visit nothing has been received, and the tokens are those of the
first call of the factory. -/
lemma followed_of_negotiate {run : Run}
    (hrun : negotiateWithTokenFactory outcomes useStatefulReconnect hasFactory hubUrl = run) :
    Followed outcomes useStatefulReconnect hasFactory hubUrl run.start maxNegotiateRedirects []
      (run.visits, run.result) := by
  subst hrun
  have hnone : ∀ reply ∈ repliesOf [], reply.Accepted useStatefulReconnect := by simp [repliesOf]
  unfold negotiateWithTokenFactory
  cases hasFactory with
  | false =>
    have hdrawn : Drawn outcomes none 0 0 [] := ⟨rfl, rfl⟩
    exact followRedirects_followed _ _ _ _ _ (Nat.zero_add _) hdrawn hnone
  | true =>
    cases htoken : outcomes.tokens 0 with
    | error error =>
      exact
        { visits_le := by simp
          drawn := ⟨0, 1, rfl, by simp [callsOf, htoken]⟩
          visits := by simp
          continues := by simp
          ends := by simp
          success := by simp }
    | ok token =>
      have hdrawn : Drawn outcomes (some (.ok token)) 0 1 [] := ⟨rfl, by simp [callsOf, htoken]⟩
      have hsource : sourceOf true (callsOf (some (.ok token)) []) (repliesOf []) =
          .factory (nonEmpty token) := by
        simp [sourceOf, callsOf, repliesOf, serverToken, mostRecent, factoryToken, Except.toOption]
      have h : Followed outcomes useStatefulReconnect true hubUrl (some (.ok token)) _ _ _ :=
        followRedirects_followed _ _ _ _ _ (Nat.zero_add _) hdrawn hnone
      rw [hsource] at h
      exact h

end

/-- The start of a negotiation: the factory is called if there is one; a URL is visited unless it
fails, and then the negotiation fails with its error. -/
lemma start_negotiate (outcomes : Outcomes) (useStatefulReconnect hasFactory : Bool)
    (hubUrl : String) :
    let run := negotiateWithTokenFactory outcomes useStatefulReconnect hasFactory hubUrl
    run.start = (if hasFactory then some (outcomes.tokens 0) else none) ∧
      (run.visits = [] ↔ ∃ error, run.start = some (.error error)) ∧
      ∀ error, run.start = some (.error error) → run.result = .error error := by
  unfold negotiateWithTokenFactory
  cases hasFactory with
  | false => simp [followRedirects_ne_nil]
  | true => cases htoken : outcomes.tokens 0 <;> simp [followRedirects_ne_nil]

end Signalrr.Negotiate
