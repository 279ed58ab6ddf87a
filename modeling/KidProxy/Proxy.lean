import KidProxy.Capture

/-!
# Proxy — how a request is handled

`ProxyService::handle` runs from one await point to the next: `start` up to the call of the upstream
client, `onUpstream` from its outcome, `onCollected` from the collected response body.  Each part is
atomic; what the environment decides is passed in, and so are the readings of the clock.
-/

namespace KidProxy

/-- The body of a response that `handle` returns: generated text, or an observed upstream body. -/
inductive ServedBody
  | generated (body : Body)
  | observed (body : ObservedBody Body)

def generatedAnswer (status : StatusCode) (message : String) : Response ServedBody :=
  let response := makeGatewayError status message
  { response with body := .generated response.body }

/-- What `client.serve` within `request_timeout` comes to. -/
inductive UpstreamOutcome
  | response (response : Response Body)
  | error (text : String)
  | timeout

/-- Where `handle` stands: at its first await, at its second one with the response whose body is being
collected, or returned. -/
inductive Handling
  | upstream (requestUrl : String)
  | collecting (requestUrl : String) (response : Response Body) (startIndex : ℕ)
      (responseStartedAt : OffsetDateTime)
  | answered (response : Response ServedBody)

structure ProxyService where
  cfg : RuntimeConfig

namespace ProxyService

variable [Net] [Glob] [Digest] (svc : ProxyService)

/-- An answer that the proxy generates after the capture got its error. -/
def answerError (x : SharedExchangeCapture) (status : StatusCode) (message : String)
    (now : OffsetDateTime) : SharedExchangeCapture × Handling :=
  (x.finalizeAndSend now, .answered (generatedAnswer status message))

/-- The answer to every failure after the upstream response. -/
def badGateway (x : SharedExchangeCapture) (error : ErrorInfo) (now : OffsetDateTime) :
    SharedExchangeCapture × Handling :=
  answerError (x.setUpstreamError error) .badGateway "bad gateway" now

/-- Up to the call of the upstream client, which gets the request in the last component. -/
def start (req : Request Body) (x : SharedExchangeCapture) (now : OffsetDateTime) :
    SharedExchangeCapture × Handling × Option (Request (ObservedBody Body)) :=
  if !hostMatchesFrontend req svc.cfg.frontendDomain then
    let (x, handling) := answerError
      (x.setRejection .misdirectedRequest
        ⟨.clientProtocol, "request host does not match configured frontend domain"⟩)
      .misdirectedRequest "misdirected request" now
    (x, handling, none)
  else
    let requestUrl := requestUrl (req.uri.path.getD "/") req.uri.query
    let forceIdentityEncoding := svc.cfg.transforms.needsPlaintextUpstreamBody requestUrl
    match svc.cfg.buildBackendUri (req.uri.path.getD "/") req.uri.query with
    | .error err =>
      let (x, handling) := answerError
        (x.setRejection .badRequest
          ⟨.config, s!"failed to construct upstream URI: {err.message}"⟩)
        .badRequest "bad request" now
      (x, handling, none)
    | .ok uri =>
      let headers := req.headers.remove .host
      let headers :=
        if forceIdentityEncoding then headers.insert .acceptEncoding .identity else headers
      (x, .upstream requestUrl,
        some { req with uri, headers := stripHopByHopHeaders headers, body := .request req.body })

/-- From the outcome of the upstream call. -/
def onUpstream (requestUrl : String) (outcome : UpstreamOutcome) (responseStartedAt now : OffsetDateTime)
    (x : SharedExchangeCapture) : SharedExchangeCapture × Handling :=
  match outcome with
  | .error text => badGateway x ⟨.upstreamProtocol, text⟩ now
  | .timeout =>
    answerError (x.setUpstreamError ⟨.timeout, "upstream request timed out"⟩) .gatewayTimeout
      "gateway timeout" now
  | .response response =>
    match svc.cfg.transforms.applyUntilBody requestUrl (stripHopByHopHeaders response.headers) with
    | (.error err, _) => badGateway x ⟨.internal, err.message⟩ now
    | (.ok ⟨.stream, headersChanged⟩, headers) =>
      let headers := if headersChanged then headers.remove .contentLength else headers
      let response := { response with headers, body := ServedBody.observed (.response response.body) }
      (x.setUpstreamResponse svc.cfg response responseStartedAt, .answered response)
    | (.ok ⟨.bufferFrom startIndex, _⟩, headers) =>
      (x, .collecting requestUrl { response with headers } startIndex responseStartedAt)

/-- From the collected response body. -/
def onCollected (requestUrl : String) (response : Response Body) (startIndex : ℕ)
    (responseStartedAt now : OffsetDateTime) (collected : Except String (List UInt8))
    (x : SharedExchangeCapture) : SharedExchangeCapture × Handling :=
  match collected with
  | .error err => badGateway x ⟨.upstreamProtocol, err⟩ now
  | .ok bytes =>
    match svc.cfg.transforms.applyWithBody startIndex requestUrl response.headers bytes with
    | (.error err, _) => badGateway x ⟨.internal, err.message⟩ now
    | (.ok _, headers, bytes) =>
      let headers := headers.remove .contentLength
      match HeaderValue.fromStr (Nat.toDigits 10 bytes.length) with
      | none =>
        badGateway x ⟨.internal,
          "failed to build content-length header: failed to parse header value"⟩ now
      | some contentLength =>
        let response := { response with
          headers := headers.insert .contentLength contentLength
          body := ServedBody.observed (.response (.fromBytes bytes)) }
        (x.setUpstreamResponse svc.cfg response responseStartedAt, .answered response)

/-- `handle` from the request to its answer, when it is not dropped. -/
def handle (req : Request Body) (x : SharedExchangeCapture) (outcome : UpstreamOutcome)
    (responseStartedAt now : OffsetDateTime) : SharedExchangeCapture × Handling :=
  match svc.start req x now with
  | (x, .upstream requestUrl, _) =>
    match svc.onUpstream requestUrl outcome responseStartedAt now x with
    | (x, .collecting requestUrl response startIndex responseStartedAt) =>
      svc.onCollected requestUrl response startIndex responseStartedAt now response.body.collect x
    | (x, handling) => (x, handling)
  | (x, handling, _) => (x, handling)

end ProxyService

/-! ### Samples -/

/-- No sample body has bytes to hash. -/
@[reducible] def sampleDigest : Digest := ⟨fun _ => [], fun _ => ""⟩

def sampleRequest : Request Body where
  method := "GET"
  uri := ⟨none, none, some "/", none⟩
  version := .http11
  headers := MultiMap.empty.append .host ⟨Text.utf8 "example.test".toList, by decide⟩
  socketInfo := none
  frontendTls := ⟨none, none, none, none, none, none⟩
  body := .fromBytes []

/-- An empty answer, which has no `Content-Length`. -/
def sampleNoContent : Response Body := ⟨.noContent, .http11, .empty, .fromBytes []⟩

/-- The sample configuration with one rule that rewrites bodies. -/
def sampleBodyRule : RuntimeConfig :=
  { sampleConfig with transforms := ⟨[⟨.everything, .replace "a" "b" (by decide), .body, false⟩]⟩ }

end KidProxy
