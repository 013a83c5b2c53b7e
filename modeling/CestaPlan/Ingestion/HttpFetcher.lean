import CestaPlan.Library.Dict
import CestaPlan.Library.Runs
import CestaPlan.Library.Text
import Mathlib.Algebra.Order.Ring.Rat
import Mathlib.Data.List.Infix
import Mathlib.Logic.Function.Basic

/-! The HTTP fetcher (`ingestion/http_fetcher.py`) and the circuit breaker of each host.

    A fetch polls its caller before each attempt and at each chunk of the body. What comes of the attempts is recorded whatever it is,
    so that a fetch that is cancelled among them counts as a failure of its host, and an error page with the hash of the prior capture
    as a success. -/

namespace CestaPlan.Ingestion.Fetching

/-! ### What a fetch is given -/

abbrev Bytes := List UInt8

structure PriorCapture where
  etag : Option String := none
  lastModified : Option String := none
  bodyHash : Option String := none

structure Settings where
  scrapingMaxRetries : ℤ := 3
  scrapingMaxResponseMb : ℤ := 5
  connectorFailureThreshold : ℤ := 5
  connectorCircuitOpenMinutes : ℤ := 30

def Settings.scrapingMaxResponseBytes (settings : Settings) : ℤ := max 1 settings.scrapingMaxResponseMb * 1024 * 1024

/-- `max(1, connector_failure_threshold)` -/
def Settings.threshold (settings : Settings) : ℕ := (max 1 settings.connectorFailureThreshold).toNat

/-- What the fetcher uses of the language and of its libraries. -/
structure Platform where
  lower : String → String
  /-- `decode("utf-8", errors="ignore")` -/
  decode : Bytes → String
  sha256 : Bytes → String
  /-- `int(text)`, where it does not raise. -/
  parseInt : String → Option ℤ
  /-- The scheme and the host of a URL. -/
  urlsplit : String → String × Option String
  isAddress : String → Bool
  isForbidden : String → Bool
  /-- The instant so many seconds after another, as floats add up. -/
  after : ℚ → ℤ → ℚ

structure Call where
  url : String
  allowedDomains : List String := []
  prior : Option PriorCapture := none
  allowedContentTypes : Option (List String) := none

/-- What a transfer ends with before the body is complete. -/
inductive Interruption where
  | timeout
  | transportError (type : String)

structure Chunk where
  bytes : Bytes
  /-- What the caller answers when it is asked at this chunk. -/
  cancelled : Bool := false

/-- The names of the headers are in lower case. -/
structure Response where
  status : ℕ
  headers : List (String × String) := []
  chunks : List Chunk := []
  interruption : Option Interruption := none

inductive Exchange where
  | failed (how : Interruption)
  | response (r : Response)

/-- What happens at an attempt, should it come to it. -/
structure Turn where
  /-- What the caller answers before the attempt. -/
  cancelled : Bool := false
  requestedAt : ℚ
  exchange : Exchange

/-- What happens during a fetch. -/
structure Surroundings where
  cancelledAtStart : Bool := false
  addresses : List String := []
  checkedAt : ℚ
  cancelledAfterDelay : Bool := false
  turns : ℕ → Turn
  recordedAt : ℚ

/-! ### What comes of a fetch -/

inductive FetchError where
  | cancelled | schemeNotAllowed | invalidUrl | domainNotAllowed | dnsResolutionFailed | ssrfBlocked | circuitOpen
  | responseTooLarge | mimeNotAllowed | timeout
  | transportError (type : String)
  | blockPage
  | http (status : ℕ)
deriving DecidableEq

def FetchError.text : FetchError → String
  | .cancelled => "cancelled"
  | .schemeNotAllowed => "scheme_not_allowed"
  | .invalidUrl => "invalid_url"
  | .domainNotAllowed => "domain_not_allowed"
  | .dnsResolutionFailed => "dns_resolution_failed"
  | .ssrfBlocked => "ssrf_blocked"
  | .circuitOpen => "circuit_open"
  | .responseTooLarge => "response_too_large"
  | .mimeNotAllowed => "mime_not_allowed"
  | .timeout => "timeout"
  | .transportError type => "transport_error: " ++ type
  | .blockPage => "block_page"
  | .http status => "http_" ++ toString status

structure HttpFetchResult where
  url : String
  ok : Bool := false
  statusCode : Option ℕ := none
  headers : List (String × String) := []
  content : Option Bytes := none
  contentType : Option String := none
  bodyHash : Option String := none
  fromCache : Bool := false
  notModified : Bool := false
  isBlockPage : Bool := false
  circuitOpen : Bool := false
  redirectLocation : Option String := none
  error : Option FetchError := none
deriving DecidableEq

/-! ### Headers and block pages -/

def redactHeaderNames : List String :=
  ["authorization", "proxy-authorization", "cookie", "set-cookie", "x-api-key", "api-key", "x-auth-token", "x-csrf-token"]

def redactHeaderSubstrings : List String := ["authorization", "cookie", "token", "secret", "api-key"]

def blockMarkers : List String :=
  ["captcha", "recaptcha", "hcaptcha", "px-captcha", "cf-chl", "cf-challenge", "just a moment", "attention required", "access denied",
    "are you a robot", "are you human", "verify you are human", "unusual traffic", "bot detection",
    "please enable javascript and cookies", "distil", "incapsula"]

def loginMarkers : List String := ["captcha", "log in", "login", "sign in", "iniciar sesión"]

/-- `part in text` -/
def contains (text part : String) : Bool := part.toList <:+: text.toList

section Responses
variable (p : Platform) (settings : Settings)

def isSensitiveHeader (name : String) : Bool :=
  redactHeaderNames.contains (p.lower name) || redactHeaderSubstrings.any (contains (p.lower name))

def redactHeaders (headers : List (String × String)) : Dict String String :=
  headers.foldl (fun out h => out.set h.1 (if isSensitiveHeader p h.1 then "REDACTED" else h.2)) .empty

/-- `response.headers.get(name)` joins the headers of one name. -/
def header (headers : List (String × String)) (name : String) : Option String :=
  match (headers.filter (·.1 = name)).map (·.2) with
  | [] => none
  | values => some (", ".intercalate values)

def detectBlockPage (status : ℕ) (headers : List (String × String)) (body : Bytes) : Bool :=
  if [403, 429].contains status then true
  else if body = [] then false
  else
    let text := p.lower (p.decode (body.take 65536))
    if blockMarkers.any (contains text) then true
    else if body.length ≤ 2048 && loginMarkers.any (contains text) then true
    else contains (p.lower (((redactHeaders p headers).get? "server").getD "")) "cloudflare" && status = 503

/-- `_host_in_allowlist` -/
def hostInAllowlist (host : String) (allowed : List String) : Bool :=
  allowed.any fun entry => p.lower host = entry || ("." ++ entry).toList <:+ (p.lower host).toList

/-- `_content_length` -/
def contentLength (headers : List (String × String)) : Option ℤ := (header headers "content-length").bind p.parseInt

/-- The part of a content type before its parameters. -/
def baseType (contentType : String) : String :=
  p.lower (Text.strip (String.ofList (contentType.toList.takeWhile (· ≠ ';'))))

/-- `_mime_allowed` -/
def mimeAllowed (contentType : Option String) (allowed : List String) : Bool :=
  contentType.any fun contentType => (allowed.map p.lower).contains (baseType p contentType)

/-! ### One attempt -/

/-- The loop over the chunks of the body. -/
def readBody (maxBytes : ℤ) (total : ℕ) : List Chunk → Except FetchError Bytes
  | [] => .ok []
  | chunk :: rest =>
    if chunk.cancelled then .error .cancelled
    else if maxBytes < total + chunk.bytes.length then .error .responseTooLarge
    else (readBody maxBytes (total + chunk.bytes.length) rest).map (chunk.bytes ++ ·)

/-- The result of a response whose body is complete. -/
def completed (call : Call) (r : Response) (body : Bytes) : HttpFetchResult :=
  let isBlock := detectBlockPage p r.status r.headers body
  let notModified := call.prior.any fun prior => prior.bodyHash = some (p.sha256 body)
  let ok := (200 ≤ r.status && r.status < 300) && !isBlock
  { url := call.url
    statusCode := some r.status
    headers := (redactHeaders p r.headers).entries
    content := some body
    contentType := header r.headers "content-type"
    bodyHash := some (p.sha256 body)
    notModified := notModified
    fromCache := notModified
    isBlockPage := isBlock
    ok := ok
    error := if ok then none else if isBlock then some .blockPage else some (.http r.status) }

/-- `_single_attempt`; what interrupts the transfer is raised. -/
def singleAttempt (call : Call) : Exchange → Except Interruption HttpFetchResult
  | .failed how => .error how
  | .response r =>
    let result : HttpFetchResult :=
      { url := call.url
        statusCode := some r.status
        headers := (redactHeaders p r.headers).entries
        contentType := header r.headers "content-type" }
    if r.status = 304 then
      .ok { result with bodyHash := call.prior.bind (·.bodyHash), notModified := true, fromCache := true }
    else if 300 ≤ r.status && r.status < 400 then .ok { result with redirectLocation := header r.headers "location" }
    else if (contentLength p r.headers).any (settings.scrapingMaxResponseBytes < ·) then
      .ok { result with error := some .responseTooLarge }
    else if call.allowedContentTypes.any (!mimeAllowed p (header r.headers "content-type") ·) then
      .ok { result with error := some .mimeNotAllowed }
    else match readBody settings.scrapingMaxResponseBytes 0 r.chunks, r.interruption with
      | .error error, _ => .ok { result with error := some error }
      | .ok _, some how => .error how
      | .ok body, none => .ok (completed p call r body)

/-! ### The retries -/

/-- A request that is sent, and until when the circuit of its host is open then. -/
structure Request where
  host : String
  requestedAt : ℚ
  openUntil : Option ℚ

def retryableStatus : List ℕ := [500, 502, 503, 504]

/-- The result of an attempt, and whether it may be retried. -/
def attempted (call : Call) (exchange : Exchange) : HttpFetchResult × Bool :=
  match singleAttempt p settings call exchange with
  | .ok result => (result, result.statusCode.any retryableStatus.contains && !result.isBlockPage)
  | .error .timeout => ({ url := call.url, error := some .timeout }, true)
  | .error (.transportError type) => ({ url := call.url, error := some (.transportError type) }, true)

/-- `_attempt_with_retries`, with so many retries left; the requests are counted too. -/
def attemptWithRetries (call : Call) (host : String) (openUntil : Option ℚ) (turns : ℕ → Turn) :
    ℕ → ℕ → List Request × HttpFetchResult
  | left, attempt =>
    let turn := turns attempt
    if turn.cancelled then ([], { url := call.url, error := some .cancelled })
    else
      let request : Request := { host := host, requestedAt := turn.requestedAt, openUntil := openUntil }
      let (last, retryable) := attempted p settings call turn.exchange
      match left with
      | 0 => ([request], last)
      | left + 1 =>
        if last.ok || last.notModified || !retryable then ([request], last)
        else
          let (requests, result) := attemptWithRetries call host openUntil turns left (attempt + 1)
          (request :: requests, result)

end Responses

/-! ### The circuit breaker -/

structure Breaker where
  failures : ℕ := 0
  openUntil : Option ℚ := none

/-- `_breaker`; a host that is absent has had no failure. -/
abbrev Breakers := String → Breaker

def Breaker.expired (b : Breaker) (now : ℚ) : Bool := b.openUntil.any (· ≤ now)

section Fetch
variable (p : Platform) (settings : Settings)

/-- `_circuit_is_open`: a circuit whose time is over is closed too. -/
def circuitIsOpen (s : Breakers) (domain : String) (now : ℚ) : Breakers × Bool :=
  if (s domain).expired now then (Function.update s domain {}, false)
  else (s, (s domain).openUntil.isSome)

def HttpFetchResult.succeeded (result : HttpFetchResult) : Bool :=
  result.ok || result.notModified || result.statusCode.any fun status => 300 ≤ status && status < 400

/-- `_record_outcome` -/
def recordOutcome (s : Breakers) (domain : String) (result : HttpFetchResult) (now : ℚ) : Breakers :=
  if result.succeeded then Function.update s domain {}
  else
    let failures := (s domain).failures + 1
    Function.update s domain
      { failures := failures
        openUntil := if settings.threshold ≤ failures then some (p.after now (settings.connectorCircuitOpenMinutes * 60)) else none }

/-- `_resolve_for_ssrf` -/
def resolveForSsrf (host : String) (addresses : List String) : Option (List String) :=
  if p.isAddress host then some [host] else if addresses = [] then none else some addresses

/-- `_preflight` -/
def preflight (call : Call) (addresses : List String) : Option FetchError :=
  let (scheme, host) := p.urlsplit call.url
  if !(["http", "https"].contains scheme) then some .schemeNotAllowed
  else match host.filter (· ≠ "") with
    | none => some .invalidUrl
    | some host =>
      let allowed := call.allowedDomains.map p.lower
      if allowed ≠ [] && !hostInAllowlist p host allowed then some .domainNotAllowed
      else match resolveForSsrf p host addresses with
        | none => some .dnsResolutionFailed
        | some addresses => if addresses.any p.isForbidden then some .ssrfBlocked else none

/-- What a fetch leaves behind: its result, its requests, and whether it found the circuit of the host with its time over. -/
structure Fetched where
  host : String
  result : HttpFetchResult
  requests : List Request := []
  halfOpened : Bool := false
  recordedAt : ℚ

/-- `fetch` -/
def fetch (s : Breakers) (call : Call) (env : Surroundings) : Breakers × Fetched :=
  let domain := (p.urlsplit call.url).2.getD ""
  let fetched : Fetched := { host := domain, result := { url := call.url }, recordedAt := env.recordedAt }
  if env.cancelledAtStart then (s, { fetched with result := { url := call.url, error := some .cancelled } })
  else match preflight p call env.addresses with
    | some error => (s, { fetched with result := { url := call.url, error := some error } })
    | none =>
      let fetched := { fetched with halfOpened := (s domain).expired env.checkedAt }
      let (s, isOpen) := circuitIsOpen s domain env.checkedAt
      if isOpen then (s, { fetched with result := { url := call.url, circuitOpen := true, error := some .circuitOpen } })
      else if env.cancelledAfterDelay then (s, { fetched with result := { url := call.url, error := some .cancelled } })
      else
        let (requests, result) := attemptWithRetries p settings call domain (s domain).openUntil env.turns
          settings.scrapingMaxRetries.toNat 0
        (recordOutcome p settings s domain result env.recordedAt, { fetched with result := result, requests := requests })

end Fetch

/-! ### Runs of fetches -/

structure Step where
  call : Call
  env : Surroundings

/-- The breakers after some fetches, and what these left behind, the last one first. -/
structure Session where
  breakers : Breakers := fun _ => {}
  log : List Fetched := []

/-- What a fetch means for the failures of its host. -/
inductive Mark where
  | success
  | failure (at_ : ℚ)
  /-- The time of an open circuit is found to be over. -/
  | halfOpen
deriving DecidableEq

/-- Neither the caller's cancellation nor a refusal says anything of the host. -/
def FetchError.uncounted : FetchError → Bool
  | .cancelled | .schemeNotAllowed | .invalidUrl | .domainNotAllowed | .dnsResolutionFailed | .ssrfBlocked | .circuitOpen => true
  | _ => false

def Fetched.verdict (f : Fetched) : Option Mark :=
  match f.result.error with
  | none => some .success
  | some error => if error.uncounted then none else some (.failure f.recordedAt)

/-- The marks that a fetch leaves, the last one first. -/
def Fetched.marks (f : Fetched) : List Mark := f.verdict.toList ++ if f.halfOpened then [.halfOpen] else []

/-- The marks of a host, the last one first. -/
def marks (log : List Fetched) (host : String) : List Mark := (log.filter (·.host = host)).flatMap Fetched.marks

/-- The consecutive failures since the last success, or since the circuit was last half open. -/
def streak : List Mark → ℕ
  | .failure _ :: rest => streak rest + 1
  | _ => 0

section Runs
variable (p : Platform) (settings : Settings)

def Session.visit (s : Session) (step : Step) : Session :=
  let (breakers, fetched) := fetch p settings s.breakers step.call step.env
  { breakers := breakers, log := fetched :: s.log }

def Session.run (steps : List Step) : Session := steps.foldl (Session.visit p settings) {}

/-- Until when a circuit is open whose host has these marks. -/
def openedUntil (marks : List Mark) : Option ℚ :=
  match marks with
  | .failure at_ :: _ =>
    if streak marks = settings.threshold then some (p.after at_ (settings.connectorCircuitOpenMinutes * 60)) else none
  | _ => none

/-- A breaker counts the consecutive failures, and its circuit is open from the one with which they reach the threshold. -/
structure Breaker.Reads (b : Breaker) (marks : List Mark) : Prop where
  counted : b.failures = streak marks
  opened : b.openUntil = openedUntil p settings marks
  bounded : streak marks ≤ settings.threshold

/-- The breaker of each host reads its marks, and no request is sent to a host while its circuit is open. -/
structure Session.Guarded (s : Session) : Prop where
  reads : ∀ host, (s.breakers host).Reads p settings (marks s.log host)
  quiet : ∀ f ∈ s.log, ∀ r ∈ f.requests, ∀ u, r.openUntil = some u → u ≤ r.requestedAt

/-- The attempt failed in a way that may be retried. -/
structure Retried (call : Call) (turn : Turn) : Prop where
  ok : (attempted p settings call turn.exchange).1.ok = false
  notModified : (attempted p settings call turn.exchange).1.notModified = false
  retryable : (attempted p settings call turn.exchange).2 = true

/-- The attempts come to this one. -/
def Comes (call : Call) (turns : ℕ → Turn) : ℕ → Prop
  | 0 => True
  | k + 1 => Comes call turns k ∧ (turns k).cancelled = false ∧ Retried p settings call (turns k)

/-- The caller does not cancel before the attempt, nor while its response is read if it is the last one; and the response is not an error
    with the body of the prior capture. -/
structure Turn.Regular (call : Call) (turn : Turn) (left : ℕ) : Prop where
  polled : turn.cancelled = false
  read : ∀ result, singleAttempt p settings call turn.exchange = .ok result → result.error = some .cancelled →
    left ≠ 0 ∧ Retried p settings call turn
  unchanged : ∀ result, singleAttempt p settings call turn.exchange = .ok result → result.notModified = true → result.error = none

/-- Each attempt from the `k`th on that the fetch comes to is regular, with so many retries left. -/
def AllRegular (call : Call) (turns : ℕ → Turn) (left k : ℕ) : Prop :=
  ∀ j rest, j + rest = left → Comes p settings call turns (k + j) → (turns (k + j)).Regular p settings call rest

/-- The fetch gets as far as its first attempt. -/
structure Begins (s : Breakers) (step : Step) : Prop where
  uncancelled : step.env.cancelledAtStart = false ∧ step.env.cancelledAfterDelay = false
  passed : preflight p step.call step.env.addresses = none
  closed : (circuitIsOpen s ((p.urlsplit step.call.url).2.getD "") step.env.checkedAt).2 = false

/-- Each attempt that the fetch comes to is regular. -/
def Step.Regular (s : Breakers) (step : Step) : Prop :=
  Begins p s step → AllRegular p settings step.call step.env.turns settings.scrapingMaxRetries.toNat 0

end Runs

section Guarding
variable {p : Platform} {settings : Settings} {call : Call} {turns : ℕ → Turn} {host : String} {openUntil : Option ℚ}
  {result : HttpFetchResult} {r : Response} {exchange : Exchange}

/-! #### The attempts -/

/-- A result that is recorded as what it is: it is no cancellation or refusal, and a success if and only if there is no error. -/
structure Accounted (result : HttpFetchResult) : Prop where
  counted : ∀ error, result.error = some error → error.uncounted = false
  succeeded : result.succeeded = result.error.isNone

theorem Accounted.of_none (herror : result.error = none) (hsucceeded : result.succeeded = true) : Accounted result where
  counted _ h := by rw [herror] at h; cases h
  succeeded := by rw [hsucceeded, herror]; rfl

theorem Accounted.of_some {error : FetchError} (herror : result.error = some error) (hcounted : error.uncounted = false)
    (hsucceeded : result.succeeded = false) : Accounted result where
  counted _ h := by rw [herror] at h; cases h; exact hcounted
  succeeded := by rw [hsucceeded, herror]; rfl

theorem readBody_error {maxBytes : ℤ} {chunks : List Chunk} {total : ℕ} {error : FetchError}
    (h : readBody maxBytes total chunks = .error error) : error = .cancelled ∨ error = .responseTooLarge := by
  induction chunks generalizing total with
  | nil => cases h
  | cons chunk rest ih =>
    unfold readBody at h
    split at h
    · cases h
      exact .inl rfl
    split at h
    · cases h
      exact .inr rfl
    · cases hrest : readBody maxBytes (total + chunk.bytes.length) rest with
      | ok body =>
        rw [hrest] at h
        cases h
      | error error' =>
        rw [hrest] at h
        cases h
        exact ih hrest

/-- What an attempt can return: a success without an error; an error that is recorded as a failure; or an error with the body of the prior
    capture, which is recorded as a success. -/
inductive Outcome (result : HttpFetchResult) : Prop
  | success (herror : result.error = none) (hsucceeded : result.succeeded = true)
  | failure (error : FetchError) (herror : result.error = some error) (hcounted : error = .cancelled ∨ error.uncounted = false)
      (hsucceeded : result.succeeded = false)
  | unchanged (error : FetchError) (herror : result.error = some error) (hcounted : error.uncounted = false)
      (hsame : result.notModified = true)

theorem completed_outcome {body : Bytes} (hstatus : (300 ≤ r.status && r.status < 400) = false) : Outcome (completed p call r body) := by
  cases hok : (completed p call r body).ok with
  | true =>
    refine .success (if_pos hok) ?_
    rw [HttpFetchResult.succeeded, hok]
    rfl
  | false =>
    obtain ⟨error, herror, hcounted⟩ : ∃ error, (completed p call r body).error = some error ∧ error.uncounted = false := by
      have herror : (completed p call r body).error =
          if detectBlockPage p r.status r.headers body then some .blockPage else some (.http r.status) :=
        if_neg (Bool.eq_false_iff.1 hok)
      split at herror
      · exact ⟨_, herror, rfl⟩
      · exact ⟨_, herror, rfl⟩
    cases hsame : (completed p call r body).notModified with
    | true => exact .unchanged error herror hcounted hsame
    | false =>
      refine .failure error herror (.inr hcounted) ?_
      rw [HttpFetchResult.succeeded, hok, hsame]
      exact hstatus

theorem singleAttempt_outcome (h : singleAttempt p settings call exchange = .ok result) : Outcome result := by
  rcases exchange with how | r
  · cases h
  unfold singleAttempt at h
  dsimp only at h
  by_cases hnotModified : r.status = 304
  · rw [if_pos hnotModified] at h
    cases h
    exact .success rfl (by simp [HttpFetchResult.succeeded])
  rw [if_neg hnotModified] at h
  cases hstatus : (300 ≤ r.status && r.status < 400 : Bool) with
  | true =>
    rw [hstatus] at h
    cases h
    exact .success rfl hstatus
  | false =>
    rw [hstatus, if_neg Bool.false_ne_true] at h
    split at h
    · cases h
      exact .failure _ rfl (.inr rfl) hstatus
    split at h
    · cases h
      exact .failure _ rfl (.inr rfl) hstatus
    split at h
    · next error hbody =>
      cases h
      rcases readBody_error hbody with rfl | rfl
      · exact .failure _ rfl (.inl rfl) hstatus
      · exact .failure _ rfl (.inr rfl) hstatus
    · cases h
    · cases h
      exact completed_outcome hstatus

theorem attempted_outcome : Outcome (attempted p settings call exchange).1 := by
  unfold attempted
  cases hattempt : singleAttempt p settings call exchange with
  | ok result => exact singleAttempt_outcome hattempt
  | error how =>
    rcases how with - | type
    · exact .failure _ rfl (.inr rfl) rfl
    · exact .failure _ rfl (.inr rfl) rfl

theorem Outcome.accounted (h : Outcome result) (hread : result.error ≠ some .cancelled)
    (hunchanged : result.notModified = true → result.error = none) : Accounted result := by
  rcases h with ⟨herror, hsucceeded⟩ | ⟨error, herror, rfl | hcounted, hsucceeded⟩ | ⟨error, herror, hcounted, hsame⟩
  · exact .of_none herror hsucceeded
  · exact absurd herror hread
  · exact .of_some herror hcounted hsucceeded
  · exact nomatch herror.symm.trans (hunchanged hsame)

theorem Outcome.uncounted (h : Outcome result) {error : FetchError} (herror : result.error = some error) (huncounted : error.uncounted = true) :
    result.succeeded = false := by
  rcases h with ⟨hnone, -⟩ | ⟨_, -, -, hsucceeded⟩ | ⟨error', herror', hcounted, -⟩
  · exact nomatch herror.symm.trans hnone
  · exact hsucceeded
  · cases herror.symm.trans herror'
    exact absurd (huncounted.symm.trans hcounted) (by decide)

theorem Accounted.regular (h : Accounted result) :
    result.error ≠ some .cancelled ∧ (result.notModified = true → result.error = none) := by
  refine ⟨fun hcancelled => absurd (h.counted _ hcancelled) (by decide), fun hsame => ?_⟩
  have hsucceeded : result.succeeded = true := by
    rw [HttpFetchResult.succeeded, hsame]
    simp
  rw [h.succeeded] at hsucceeded
  exact Option.isNone_iff_eq_none.1 hsucceeded

theorem attempted_accounted_iff : Accounted (attempted p settings call exchange).1 ↔
    ∀ result, singleAttempt p settings call exchange = .ok result →
      result.error ≠ some .cancelled ∧ (result.notModified = true → result.error = none) := by
  unfold attempted
  cases hattempt : singleAttempt p settings call exchange with
  | ok result =>
    constructor
    · rintro h _ ⟨⟩
      exact h.regular
    · intro h
      obtain ⟨hread, hunchanged⟩ := h result rfl
      exact (singleAttempt_outcome hattempt).accounted hread hunchanged
  | error how =>
    refine iff_of_true ?_ fun _ h => nomatch h
    rcases how with - | type
    · exact .of_some rfl rfl rfl
    · exact .of_some rfl rfl rfl

theorem comes_one_of_comes {k j : ℕ} (h : Comes p settings call turns (k + 1 + j)) : Comes p settings call turns (k + 1) := by
  induction j with
  | zero => exact h
  | succ j ih => exact ih h.1

theorem last_accounted_iff {turn : Turn} {left : ℕ} (hpolled : turn.cancelled = false)
    (hlast : left = 0 ∨ ¬Retried p settings call turn) :
    Accounted (attempted p settings call turn.exchange).1 ↔ turn.Regular p settings call left := by
  rw [attempted_accounted_iff]
  constructor
  · exact fun h => ⟨hpolled, fun result hr hcancelled => absurd hcancelled (h result hr).1, fun result hr => (h result hr).2⟩
  · refine fun h result hr => ⟨fun hcancelled => ?_, h.unchanged result hr⟩
    obtain ⟨hleft, hretried⟩ := h.read result hr hcancelled
    exact hlast.elim hleft (· hretried)

theorem retried_iff {turn : Turn} : Retried p settings call turn ↔
    ¬((attempted p settings call turn.exchange).1.ok || (attempted p settings call turn.exchange).1.notModified ||
      !(attempted p settings call turn.exchange).2) = true := by
  simp only [Bool.or_eq_true, Bool.not_eq_true', not_or, Bool.not_eq_true, Bool.not_eq_false]
  exact ⟨fun h => ⟨⟨h.ok, h.notModified⟩, h.retryable⟩, fun h => ⟨h.1.1, h.1.2, h.2⟩⟩

/-- An attempt that is retried and was not cancelled before is regular. -/
theorem Retried.regular {turn : Turn} {left : ℕ} (h : Retried p settings call turn) (hpolled : turn.cancelled = false) (hleft : left ≠ 0) :
    turn.Regular p settings call left := by
  refine ⟨hpolled, fun _ _ _ => ⟨hleft, h⟩, fun result hr hsame => ?_⟩
  have hchanged := h.notModified
  unfold attempted at hchanged
  rw [hr] at hchanged
  exact absurd (hsame.symm.trans hchanged) (by decide)

theorem allRegular_of_last {left k : ℕ} (hcomes : Comes p settings call turns k)
    (hlast : left = 0 ∨ ¬Retried p settings call (turns k)) :
    AllRegular p settings call turns left k ↔ (turns k).Regular p settings call left := by
  refine ⟨fun h => h 0 left (Nat.zero_add left) hcomes, fun h j rest hsum hreach => ?_⟩
  rcases j with - | j
  · rw [← hsum, Nat.zero_add] at h
    exact h
  · have hnext : Comes p settings call turns (k + 1) := by
      rw [Nat.add_comm j 1, ← Nat.add_assoc] at hreach
      exact comes_one_of_comes hreach
    exact absurd hnext.2.2 (hlast.resolve_left (by omega))

theorem allRegular_succ {left k : ℕ} (hpolled : (turns k).cancelled = false)
    (hretried : Retried p settings call (turns k)) :
    AllRegular p settings call turns (left + 1) k ↔ AllRegular p settings call turns left (k + 1) := by
  constructor
  · intro h j rest hsum hreach
    rw [Nat.add_assoc, Nat.add_comm 1 j] at hreach ⊢
    exact h (j + 1) rest (by omega) hreach
  · intro h j rest hsum hreach
    rcases j with - | j
    · exact hretried.regular hpolled (by omega)
    · rw [Nat.add_comm j 1, ← Nat.add_assoc] at hreach ⊢
      exact h j rest (by omega) hreach

/-- What comes of the attempts is recorded as what it is, if and only if each attempt that the fetch comes to is regular. -/
theorem attemptWithRetries_accounted_iff (left k : ℕ) (hcomes : Comes p settings call turns k) :
    Accounted (attemptWithRetries p settings call host openUntil turns left k).2 ↔ AllRegular p settings call turns left k := by
  induction left generalizing k with
  | zero =>
    unfold attemptWithRetries
    dsimp only
    rw [allRegular_of_last hcomes (.inl rfl)]
    split
    · next hcancelled =>
      exact iff_of_false (fun h => h.regular.1 rfl) fun h => absurd (hcancelled.symm.trans h.polled) (by decide)
    · next hpolled => exact last_accounted_iff (Bool.eq_false_iff.2 hpolled) (.inl rfl)
  | succ left ih =>
    unfold attemptWithRetries
    dsimp only
    split
    · next hcancelled =>
      refine iff_of_false (fun h => h.regular.1 rfl) fun h => ?_
      exact absurd (hcancelled.symm.trans (h 0 (left + 1) (Nat.zero_add _) hcomes).polled) (by decide)
    · next hpolled =>
      have hpolled : (turns k).cancelled = false := Bool.eq_false_iff.2 hpolled
      split
      · next hends =>
        have hlast : ¬Retried p settings call (turns k) := fun h => retried_iff.1 h hends
        rw [allRegular_of_last hcomes (.inr hlast)]
        exact last_accounted_iff hpolled (.inr hlast)
      · next hgoes =>
        have hretried := retried_iff.2 hgoes
        rw [allRegular_succ hpolled hretried]
        exact ih (k + 1) ⟨hcomes, hpolled, hretried⟩

theorem attemptWithRetries_outcome (left k : ℕ) : Outcome (attemptWithRetries p settings call host openUntil turns left k).2 := by
  induction left generalizing k with
  | zero =>
    unfold attemptWithRetries
    dsimp only
    split
    · exact .failure _ rfl (.inl rfl) rfl
    · exact attempted_outcome
  | succ left ih =>
    unfold attemptWithRetries
    dsimp only
    split
    · exact .failure _ rfl (.inl rfl) rfl
    split
    · exact attempted_outcome
    · exact ih (k + 1)

theorem attemptWithRetries_requests (left k : ℕ) :
    ∀ request ∈ (attemptWithRetries p settings call host openUntil turns left k).1, request.openUntil = openUntil := by
  induction left generalizing k with
  | zero =>
    unfold attemptWithRetries
    dsimp only
    split
    · simp
    · simp
  | succ left ih =>
    unfold attemptWithRetries
    dsimp only
    split
    · simp
    split
    · simp
    · intro request hrequest
      rcases List.mem_cons.1 hrequest with rfl | hrest
      · rfl
      · exact ih (k + 1) request hrest

/-! #### The breaker -/

section Breakers
variable {s : Breakers} {b : Breaker} {ms : List Mark} {now : ℚ} {domain other : String}

theorem threshold_pos (settings : Settings) : 0 < settings.threshold := by
  unfold Settings.threshold
  omega

theorem openedUntil_failure {at_ : ℚ} : openedUntil p settings (.failure at_ :: ms) =
    if streak (.failure at_ :: ms) = settings.threshold then some (p.after at_ (settings.connectorCircuitOpenMinutes * 60)) else none := rfl

theorem reads_fresh (h : streak ms = 0) : Breaker.Reads p settings {} ms where
  counted := h.symm
  opened := by
    unfold openedUntil
    split
    · cases h
    · rfl
  bounded := h ▸ Nat.zero_le _

/-- While the circuit is closed the threshold is not reached. -/
theorem Breaker.Reads.below (h : b.Reads p settings ms) (hclosed : b.openUntil = none) : b.failures < settings.threshold := by
  rw [h.counted]
  refine lt_of_le_of_ne h.bounded fun hreached => ?_
  have hopened := h.opened
  rw [hclosed] at hopened
  rcases ms with - | ⟨- | at_ | -, rest⟩
  · exact absurd hreached.symm (threshold_pos settings).ne'
  · exact absurd hreached.symm (threshold_pos settings).ne'
  · rw [openedUntil_failure, if_pos hreached] at hopened
    cases hopened
  · exact absurd hreached.symm (threshold_pos settings).ne'

theorem circuitIsOpen_other (h : other ≠ domain) : (circuitIsOpen s domain now).1 other = s other := by
  unfold circuitIsOpen
  split
  · exact Function.update_of_ne h _ _
  · rfl

theorem recordOutcome_other (h : other ≠ domain) : recordOutcome p settings s domain result now other = s other := by
  unfold recordOutcome
  dsimp only
  split
  · exact Function.update_of_ne h _ _
  · exact Function.update_of_ne h _ _

/-- The check leaves a breaker that reads the marks with the half open one, if the time of the circuit was over. -/
theorem circuitIsOpen_reads (h : (s domain).Reads p settings ms) : ((circuitIsOpen s domain now).1 domain).Reads p settings
    ((if (s domain).expired now then [.halfOpen] else []) ++ ms) := by
  unfold circuitIsOpen
  by_cases hexpired : (s domain).expired now = true
  · rw [if_pos hexpired, if_pos hexpired]
    dsimp only
    rw [Function.update_self]
    exact reads_fresh rfl
  · rw [if_neg hexpired, if_neg hexpired]
    exact h

theorem circuitIsOpen_closed (h : (circuitIsOpen s domain now).2 = false) : ((circuitIsOpen s domain now).1 domain).openUntil = none := by
  unfold circuitIsOpen at h ⊢
  split
  · dsimp only
    rw [Function.update_self]
  · next hexpired =>
    rw [if_neg hexpired] at h
    exact Option.not_isSome_iff_eq_none.1 (Bool.eq_false_iff.1 h)

theorem circuitIsOpen_expired (h : (circuitIsOpen s domain now).2 = true) : (s domain).expired now = false ∧ (circuitIsOpen s domain now).1 = s := by
  unfold circuitIsOpen at h ⊢
  split
  · next hexpired =>
    rw [if_pos hexpired] at h
    cases h
  · next hexpired => exact ⟨Bool.eq_false_iff.2 hexpired, rfl⟩

theorem recordOutcome_of_succeeded (h : result.succeeded = true) : recordOutcome p settings s domain result now domain = {} := by
  unfold recordOutcome
  rw [if_pos h, Function.update_self]

theorem recordOutcome_of_failed (h : result.succeeded = false) : recordOutcome p settings s domain result now domain =
    { failures := (s domain).failures + 1
      openUntil := if settings.threshold ≤ (s domain).failures + 1 then some (p.after now (settings.connectorCircuitOpenMinutes * 60))
        else none } := by
  unfold recordOutcome
  rw [if_neg (Bool.eq_false_iff.1 h)]
  exact Function.update_self _ _ _

theorem Breaker.Reads.fail (h : b.Reads p settings ms) (hclosed : b.openUntil = none) : Breaker.Reads p settings
    { failures := b.failures + 1
      openUntil := if settings.threshold ≤ b.failures + 1 then some (p.after now (settings.connectorCircuitOpenMinutes * 60)) else none }
    (.failure now :: ms) := by
  have hbelow := h.below hclosed
  have hstreak : streak (.failure now :: ms) = b.failures + 1 := congrArg (· + 1) h.counted.symm
  refine ⟨hstreak.symm, ?_, hstreak.trans_le hbelow⟩
  rw [openedUntil_failure, hstreak]
  exact if_congr (by omega) rfl rfl

/-- The breaker reads the verdict of a fetch after it is recorded, if and only if the result is recorded as what it is. -/
theorem recordOutcome_reads_iff {f : Fetched} (h : (s domain).Reads p settings ms) (hclosed : (s domain).openUntil = none)
    (houtcome : Outcome f.result) :
    (recordOutcome p settings s domain f.result f.recordedAt domain).Reads p settings (f.verdict.toList ++ ms) ↔ Accounted f.result := by
  unfold Fetched.verdict
  cases herror : f.result.error with
  | none =>
    cases hsucceeded : f.result.succeeded with
    | true =>
      rw [recordOutcome_of_succeeded hsucceeded]
      exact iff_of_true (reads_fresh rfl) (.of_none herror hsucceeded)
    | false =>
      rw [recordOutcome_of_failed hsucceeded]
      refine iff_of_false (fun hreads => absurd hreads.counted (Nat.succ_ne_zero _)) fun haccounted => ?_
      exact absurd (hsucceeded.symm.trans (haccounted.succeeded.trans (Option.isNone_iff_eq_none.2 herror))) (by decide)
  | some error =>
    cases huncounted : error.uncounted with
    | true =>
      rw [recordOutcome_of_failed (houtcome.uncounted herror huncounted)]
      dsimp only
      rw [huncounted, if_pos rfl]
      refine iff_of_false (fun hreads => ?_) fun haccounted => ?_
      · exact absurd (hreads.counted.trans h.counted.symm) (Nat.succ_ne_self _)
      · exact absurd (huncounted.symm.trans (haccounted.counted error herror)) (by decide)
    | false =>
      dsimp only
      rw [huncounted, if_neg Bool.false_ne_true]
      cases hsucceeded : f.result.succeeded with
      | true =>
        rw [recordOutcome_of_succeeded hsucceeded]
        refine iff_of_false (fun hreads => ?_) fun haccounted => ?_
        · exact absurd hreads.counted.symm (Nat.succ_ne_zero _)
        · rw [haccounted.succeeded, herror] at hsucceeded
          cases hsucceeded
      | false =>
        rw [recordOutcome_of_failed hsucceeded]
        exact iff_of_true (h.fail hclosed) (.of_some herror huncounted hsucceeded)

end Breakers

/-! #### The run -/

section Visits
variable {s : Session} {step : Step}

theorem marks_cons {f : Fetched} {log : List Fetched} {host : String} :
    marks (f :: log) host = (if f.host = host then f.marks else []) ++ marks log host := by
  unfold marks
  by_cases h : f.host = host
  · simp [h]
  · simp [h]

theorem Session.Guarded.skip (h : s.Guarded p settings) {f : Fetched} (hmarks : f.marks = []) (hrequests : f.requests = []) :
    Session.Guarded p settings { breakers := s.breakers, log := f :: s.log } where
  reads host := by
    rw [marks_cons, hmarks, ite_self]
    exact h.reads host
  quiet f' hf' r hr := by
    rcases List.mem_cons.1 hf' with rfl | hold
    · rw [hrequests] at hr
      cases hr
    · exact h.quiet f' hold r hr

theorem Session.Guarded.update_iff (h : s.Guarded p settings) {f : Fetched} {breakers : Breakers}
    (hother : ∀ other, other ≠ f.host → breakers other = s.breakers other) (hquiet : ∀ r ∈ f.requests, r.openUntil = none) :
    Session.Guarded p settings { breakers := breakers, log := f :: s.log } ↔
      (breakers f.host).Reads p settings (f.marks ++ marks s.log f.host) := by
  constructor
  · intro hguarded
    have hreads := hguarded.reads f.host
    rwa [marks_cons, if_pos rfl] at hreads
  · refine fun hreads => ⟨fun host => ?_, fun f' hf' r hr u hu => ?_⟩
    · rw [marks_cons]
      by_cases hhost : f.host = host
      · rw [if_pos hhost, ← hhost]
        exact hreads
      · rw [if_neg hhost]
        dsimp only
        rw [hother host (Ne.symm hhost)]
        exact h.reads host
    · rcases List.mem_cons.1 hf' with rfl | hold
      · rw [hquiet r hr] at hu
        cases hu
      · exact h.quiet f' hold r hr u hu

theorem preflight_uncounted {addresses : List String} {error : FetchError} (h : preflight p call addresses = some error) :
    error.uncounted = true := by
  unfold preflight at h
  dsimp only at h
  split at h
  · cases h
    rfl
  split at h
  · cases h
    rfl
  split at h
  · cases h
    rfl
  split at h
  · cases h
    rfl
  split at h
  · cases h
    rfl
  · cases h

theorem guarded_empty : Session.Guarded p settings {} :=
  ⟨fun _ => reads_fresh rfl, fun _ hf => absurd hf List.not_mem_nil⟩

theorem Session.Guarded.visit_iff (h : s.Guarded p settings) : (s.visit p settings step).Guarded p settings ↔ step.Regular p settings s.breakers := by
  unfold Session.visit fetch
  dsimp only
  by_cases hstart : step.env.cancelledAtStart = true
  · rw [if_pos hstart]
    exact iff_of_true (h.skip rfl rfl) fun hbegins => absurd (hstart.symm.trans hbegins.uncancelled.1) (by decide)
  rw [if_neg hstart]
  cases hpreflight : preflight p step.call step.env.addresses with
  | some error =>
    refine iff_of_true (h.skip ?_ rfl) fun hbegins => nomatch hpreflight.symm.trans hbegins.passed
    rw [Fetched.marks, Fetched.verdict]
    dsimp only
    rw [preflight_uncounted hpreflight]
    rfl
  | none =>
    dsimp only
    generalize hdomain : (p.urlsplit step.call.url).2.getD "" = domain
    cases hopen : (circuitIsOpen s.breakers domain step.env.checkedAt).2 with
    | true =>
      obtain ⟨hexpired, hsame⟩ := circuitIsOpen_expired hopen
      rw [if_pos rfl, hsame, hexpired]
      refine iff_of_true (h.skip rfl rfl) fun hbegins => ?_
      have hclosed := hbegins.closed
      rw [hdomain, hopen] at hclosed
      cases hclosed
    | false =>
      rw [if_neg Bool.false_ne_true]
      have hreads : ((circuitIsOpen s.breakers domain step.env.checkedAt).1 domain).Reads p settings _ :=
        circuitIsOpen_reads (h.reads domain)
      by_cases hdelay : step.env.cancelledAfterDelay = true
      · rw [if_pos hdelay]
        refine iff_of_true ?_ fun hbegins => absurd (hdelay.symm.trans hbegins.uncancelled.2) (by decide)
        refine (h.update_iff ?_ ?_).2 hreads
        · exact fun other hother => circuitIsOpen_other hother
        · exact fun _ hr => absurd hr List.not_mem_nil
      · rw [if_neg hdelay]
        have hclosed := circuitIsOpen_closed hopen
        have hbegins : Begins p s.breakers step :=
          ⟨⟨Bool.eq_false_iff.2 hstart, Bool.eq_false_iff.2 hdelay⟩, hpreflight, hdomain ▸ hopen⟩
        have hregular : step.Regular p settings s.breakers ↔ AllRegular p settings step.call step.env.turns settings.scrapingMaxRetries.toNat 0 :=
          ⟨fun h => h hbegins, fun h _ => h⟩
        refine Iff.trans (h.update_iff ?_ ?_) ?_
        · exact fun other hother => (recordOutcome_other hother).trans (circuitIsOpen_other hother)
        · exact fun r hr => (attemptWithRetries_requests _ 0 r hr).trans hclosed
        rw [Fetched.marks, List.append_assoc]
        refine (recordOutcome_reads_iff (f := ⟨domain, _, _, _, step.env.recordedAt⟩) hreads hclosed ?_).trans ?_
        · exact attemptWithRetries_outcome _ 0
        · exact (attemptWithRetries_accounted_iff _ 0 trivial).trans hregular.symm

/-- In a run of fetches, to any hosts, every state is guarded if and only if every attempt of every fetch is regular: each breaker counts
    the consecutive failures of its host, its circuit is opened by just the failure with which they reach the threshold, a success resets
    the count, a fetch that was cancelled or refused leaves no mark, and no request is sent to a host while its circuit is open. -/
theorem guarded_iff (p : Platform) (settings : Settings) (steps : List Step) :
    (∀ pre, pre <+: steps → (Session.run p settings pre).Guarded p settings) ↔
      ∀ pre step, pre ++ [step] <+: steps → step.Regular p settings (Session.run p settings pre).breakers :=
  Runs.forall_prefix_iff (I := fun _ => True) (K := fun s step => Step.Regular p settings s.breakers step) (fun _ _ _ _ => trivial)
    (fun _ _ h _ _ => h.visit_iff) trivial guarded_empty

/-! #### One shop -/

/-- A network with one host, and no bodies. -/
def oneShop : Platform where
  lower := Text.lowerAscii
  decode _ := ""
  sha256 _ := "e3b0c44298fc1c149afbf4c8996fb92427ae41e4649b934ca495991b7852b855"
  parseInt := String.toInt?
  urlsplit url := if url = "https://shop.example/milk" then ("https", some "shop.example") else ("", none)
  isAddress _ := false
  isForbidden address := address ≠ "93.184.216.34"
  after now seconds := now + seconds

def milkPage : Call := { url := "https://shop.example/milk" }

def fetchMilk (turn : Turn) : Step where
  call := milkPage
  env := { addresses := ["93.184.216.34"], checkedAt := 0, turns := fun _ => turn, recordedAt := 1 }

def timedOut : Turn := { requestedAt := 0, exchange := .failed .timeout }

/-- The caller cancels just before the first attempt, and the host has a failure more. -/
theorem not_guarded_cancelled :
    ¬(Session.run oneShop {} [fetchMilk { timedOut with cancelled := true }]).Guarded oneShop {} := by
  intro h
  have hcounted := (h.reads "shop.example").counted
  exact absurd hcounted (by decide +kernel)

end Visits

end Guarding
end CestaPlan.Ingestion.Fetching
