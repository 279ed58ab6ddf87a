import KidProxy.Event
import KidProxy.Headers

/-!
# Capture — what an exchange records, and the bodies that observe it

`SharedExchangeCapture` is the record that the handler, the request body and the response body of one
exchange share; here it is passed along.  `ObservedBody` forwards the polls of an inner body and
finalizes the capture when the response body ends, fails or is dropped.
-/

namespace KidProxy

/-- `Sha256` and the standard base64 alphabet. -/
class Digest where
  sha256 : List UInt8 → List UInt8
  base64 : List UInt8 → String

/-! ### Body accumulator -/

/-- The bytes of a body that were seen so far, of which the first `maxBytes` are retained. -/
structure BodyAccumulator where
  maxBytes : ℕ
  /-- What the hasher was fed with. -/
  hashed : List UInt8
  retainedBytes : List UInt8
  truncated : Bool
  sawBytes : Bool
  retained_eq : retainedBytes = hashed.take maxBytes
  truncated_iff : truncated = true ↔ maxBytes < hashed.length
  sawBytes_iff : sawBytes = true ↔ hashed ≠ []

structure BodySummary where
  sha256 : Option String
  previewBase64 : Option String
  truncated : Option Bool
  deriving DecidableEq, Repr

namespace BodyAccumulator

def new (maxBytes : ℕ) : BodyAccumulator where
  maxBytes := maxBytes
  hashed := []
  retainedBytes := []
  truncated := false
  sawBytes := false
  retained_eq := by simp
  truncated_iff := by simp
  sawBytes_iff := by simp

/-- While there is room, everything was retained. -/
theorem retained_of_room {a : BodyAccumulator} (h : a.retainedBytes.length < a.maxBytes) :
    a.hashed.length < a.maxBytes ∧ a.retainedBytes = a.hashed := by
  have hlen : a.retainedBytes.length = min a.maxBytes a.hashed.length := by
    rw [a.retained_eq, List.length_take]
  have hroom : a.hashed.length < a.maxBytes := by omega
  exact ⟨hroom, by rw [a.retained_eq, List.take_of_length_le (Nat.le_of_lt hroom)]⟩

theorem full_of_no_room {a : BodyAccumulator} (h : ¬ a.retainedBytes.length < a.maxBytes) :
    a.maxBytes ≤ a.hashed.length := by
  have hlen : a.retainedBytes.length = min a.maxBytes a.hashed.length := by
    rw [a.retained_eq, List.length_take]
  omega

def observe (a : BodyAccumulator) (chunk : List UInt8) : BodyAccumulator :=
  if hc : chunk = [] then a
  else if h : a.retainedBytes.length < a.maxBytes then
    let take := min (a.maxBytes - a.retainedBytes.length) chunk.length
    { maxBytes := a.maxBytes
      hashed := a.hashed ++ chunk
      retainedBytes := a.retainedBytes ++ chunk.take take
      truncated := if take < chunk.length then true else a.truncated
      sawBytes := true
      retained_eq := by
        obtain ⟨hroom, hr⟩ := retained_of_room h
        rw [hr, List.take_append, List.take_of_length_le (Nat.le_of_lt hroom)]
        congr 1
        rcases Nat.le_total (a.maxBytes - a.hashed.length) chunk.length with hle | hle
        · rw [show take = a.maxBytes - a.hashed.length by simp only [take, hr]; omega]
        · rw [List.take_of_length_le hle, List.take_of_length_le]
          simp only [take, hr]
          omega
      truncated_iff := by
        obtain ⟨hroom, hr⟩ := retained_of_room h
        have hold : a.truncated = false := by
          have := a.truncated_iff
          rw [← Bool.not_eq_true, this]
          omega
        rw [hold, List.length_append]
        simp only [take, hr]
        split_ifs with ht
        · exact ⟨fun _ => by omega, fun _ => rfl⟩
        · exact ⟨fun h => absurd h (by simp), fun h => by omega⟩
      sawBytes_iff := by simp [hc] }
  else
    { maxBytes := a.maxBytes
      hashed := a.hashed ++ chunk
      retainedBytes := a.retainedBytes
      truncated := true
      sawBytes := true
      retained_eq := by
        rw [a.retained_eq, List.take_append_of_le_length (full_of_no_room h)]
      truncated_iff := by
        have hfull := full_of_no_room h
        have hpos := List.length_pos_of_ne_nil hc
        rw [List.length_append]
        exact ⟨fun _ => by omega, fun _ => rfl⟩
      sawBytes_iff := by simp [hc] }

def finish [Digest] (a : BodyAccumulator) : BodySummary where
  sha256 := if a.sawBytes then some (Text.hexEncode (Digest.sha256 a.hashed)) else none
  previewBase64 := if !a.retainedBytes.isEmpty then some (Digest.base64 a.retainedBytes) else none
  truncated := some a.truncated

end BodyAccumulator

/-! ### The capture -/

structure BackendTlsMetadata where
  version : Option String
  cipherSuite : Option String
  alpn : Option String
  sni : Option String
  certLeafSha256 : Option String
  certSubject : Option String
  certIssuer : Option String
  certNotBefore : Option OffsetDateTime
  certNotAfter : Option OffsetDateTime

def BackendTlsMetadata.default : BackendTlsMetadata :=
  ⟨none, none, none, none, none, none, none, none, none⟩

structure ExchangeCapture where
  eventId : Uuid
  connectionId : Uuid
  requestStartTs : OffsetDateTime
  clientIp : Option String
  clientPort : Option ℕ
  proxyLocalIp : Option String
  proxyLocalPort : Option ℕ
  frontendServerName : Option String
  frontendHttpVersion : Option String
  frontendScheme : String
  backendUrl : String
  backendHost : String
  backendIp : Option String
  backendPort : Option ℕ
  backendHttpVersion : Option String
  upstreamConnectionReused : Option Bool
  method : String
  authority : Option String
  path : String
  query : Option String
  requestHeadersJson : String
  requestCookieHeader : Option String
  requestCookiesJson : Option String
  requestContentLength : Option ℤ
  requestTransferEncoding : Option String
  requestContentType : Option String
  responseHeadersJson : Option String
  responseSetCookieJson : Option String
  responseContentLength : Option ℤ
  responseTransferEncoding : Option String
  responseContentType : Option String
  responseContentEncoding : Option String
  statusCode : Option StatusCode
  reasonPhrase : Option String
  frontendTls : FrontendTlsMetadata
  backendTls : BackendTlsMetadata
  upstreamFirstByteMs : Option ℤ
  responseStartedAt : Option OffsetDateTime
  proxyResult : ProxyResult
  error : Option ErrorInfo
  requestBody : BodyAccumulator
  responseBody : BodyAccumulator
  finalized : Bool

/-- `ExchangeCapture::build_event`, at the time `endedAt`. -/
def ExchangeCapture.buildEvent [Digest] (c : ExchangeCapture) (endedAt : OffsetDateTime) : ProxyEvent :=
  let requestBody := c.requestBody.finish
  let responseBody := c.responseBody.finish
  { eventId := c.eventId
    connectionId := c.connectionId
    requestStartTs := c.requestStartTs
    requestEndTs := endedAt
    durationMs := endedAt.millisSince c.requestStartTs
    clientIp := c.clientIp
    clientPort := c.clientPort
    proxyLocalIp := c.proxyLocalIp
    proxyLocalPort := c.proxyLocalPort
    frontendServerName := c.frontendServerName
    frontendHttpVersion := c.frontendHttpVersion
    frontendScheme := c.frontendScheme
    backendUrl := c.backendUrl
    backendHost := c.backendHost
    backendIp := c.backendIp
    backendPort := c.backendPort
    backendHttpVersion := c.backendHttpVersion
    upstreamConnectionReused := c.upstreamConnectionReused
    method := c.method
    authority := c.authority
    path := c.path
    query := c.query
    requestHeadersJson := c.requestHeadersJson
    requestCookieHeader := c.requestCookieHeader
    requestCookiesJson := c.requestCookiesJson
    requestContentLength := c.requestContentLength
    requestTransferEncoding := c.requestTransferEncoding
    requestContentType := c.requestContentType
    requestBodySha256 := requestBody.sha256
    requestBodyPreviewBase64 := requestBody.previewBase64
    requestBodyTruncated := requestBody.truncated
    statusCode := c.statusCode
    reasonPhrase := c.reasonPhrase
    responseHeadersJson := c.responseHeadersJson
    responseSetCookieJson := c.responseSetCookieJson
    responseContentLength := c.responseContentLength
    responseTransferEncoding := c.responseTransferEncoding
    responseContentType := c.responseContentType
    responseContentEncoding := c.responseContentEncoding
    responseBodySha256 := responseBody.sha256
    responseBodyPreviewBase64 := responseBody.previewBase64
    responseBodyTruncated := responseBody.truncated
    frontendTlsVersion := c.frontendTls.version
    frontendTlsCipherSuite := c.frontendTls.cipherSuite
    frontendTlsAlpn := c.frontendTls.alpn
    frontendTlsSni := c.frontendTls.sni
    frontendTlsJa3 := c.frontendTls.ja3
    frontendTlsJa4 := c.frontendTls.ja4
    backendTlsVersion := c.backendTls.version
    backendTlsCipherSuite := c.backendTls.cipherSuite
    backendTlsAlpn := c.backendTls.alpn
    backendTlsSni := c.backendTls.sni
    backendCertLeafSha256 := c.backendTls.certLeafSha256
    backendCertSubject := c.backendTls.certSubject
    backendCertIssuer := c.backendTls.certIssuer
    backendCertNotBefore := c.backendTls.certNotBefore
    backendCertNotAfter := c.backendTls.certNotAfter
    dnsDurationMs := none
    connectDurationMs := none
    tlsHandshakeDurationMs := none
    upstreamFirstByteMs := c.upstreamFirstByteMs
    responseStreamDurationMs := c.responseStartedAt.map fun value => endedAt.millisSince value
    errorKind := c.error.map (·.kind)
    errorText := c.error.map (·.text)
    proxyResult := c.proxyResult }

/-- The lock guard, and as a ghost the events handed to `SqliteWriterHandle::try_send` so far. -/
structure SharedExchangeCapture where
  guard : ExchangeCapture
  sent : List ProxyEvent

namespace SharedExchangeCapture

/-- `SharedExchangeCapture::new`, with the clock and the generated identifiers. -/
def new [Net] {B : Type} (cfg : RuntimeConfig) (req : Request B) (now : OffsetDateTime)
    (eventId connectionId : Uuid) : SharedExchangeCapture where
  sent := []
  guard :=
    { eventId
      connectionId
      requestStartTs := now
      clientIp :=
        match if cfg.trustProxyHeaders then forwardedClientIp req.headers else none with
        | some clientIp => some clientIp
        | none => req.socketInfo.map fun info => info.peerAddr.ip
      clientPort := req.socketInfo.map fun info => info.peerAddr.port
      proxyLocalIp := (req.socketInfo.bind SocketInfo.localAddr).map fun addr => addr.ip
      proxyLocalPort :=
        match req.socketInfo.bind SocketInfo.localAddr with
        | some addr => some addr.port
        | none => some cfg.listenAddr.port
      frontendServerName := some cfg.frontendDomain
      frontendHttpVersion := some (formatHttpVersion req.version)
      frontendScheme :=
        (if cfg.trustProxyHeaders then forwardedProto req.headers else none).getD "https"
      backendUrl := Net.urlText cfg.backendUrl
      backendHost := cfg.backendHost
      backendIp := none
      backendPort := some cfg.backendPort
      backendHttpVersion := none
      upstreamConnectionReused := none
      method := req.method
      authority := requestAuthority req
      path := req.uri.path.getD "/"
      query := req.uri.query
      requestHeadersJson := serializeHeaders req.headers cfg.headerLogPolicy
      requestCookieHeader := headerValue req.headers .cookie
      requestCookiesJson := parseCookies (req.headers.get .cookie)
      requestContentLength := parseContentLength req.headers
      requestTransferEncoding := headerValue req.headers .transferEncoding
      requestContentType := headerValue req.headers .contentType
      responseHeadersJson := none
      responseSetCookieJson := none
      responseContentLength := none
      responseTransferEncoding := none
      responseContentType := none
      responseContentEncoding := none
      statusCode := none
      reasonPhrase := none
      frontendTls := req.frontendTls
      backendTls := .default
      upstreamFirstByteMs := none
      responseStartedAt := none
      proxyResult := .inflight
      error := none
      requestBody := .new cfg.bodyMaxBytes
      responseBody := .new cfg.bodyMaxBytes
      finalized := false }

variable (x : SharedExchangeCapture)

def setRejection (status : StatusCode) (error : ErrorInfo) : SharedExchangeCapture :=
  { x with guard := { x.guard with
      statusCode := some status
      reasonPhrase := status.canonicalReason
      proxyResult := .clientRejected
      error := some error } }

def setUpstreamResponse {B : Type} (cfg : RuntimeConfig) (resp : Response B)
    (responseStartedAt : OffsetDateTime) : SharedExchangeCapture :=
  { x with guard := { x.guard with
      statusCode := some resp.status
      reasonPhrase := resp.status.canonicalReason
      responseHeadersJson := some (serializeHeaders resp.headers cfg.headerLogPolicy)
      responseSetCookieJson := parseSetCookies resp.headers
      responseContentLength := parseContentLength resp.headers
      responseTransferEncoding := headerValue resp.headers .transferEncoding
      responseContentType := headerValue resp.headers .contentType
      responseContentEncoding := headerValue resp.headers .contentEncoding
      backendHttpVersion := some (formatHttpVersion resp.version)
      responseStartedAt := some responseStartedAt
      upstreamFirstByteMs := some (responseStartedAt.millisSince x.guard.requestStartTs)
      proxyResult := .success } }

def setUpstreamError (error : ErrorInfo) : SharedExchangeCapture :=
  { x with guard := { x.guard with proxyResult := .upstreamError, error := some error } }

def observeRequestBytes (chunk : List UInt8) : SharedExchangeCapture :=
  { x with guard := { x.guard with requestBody := x.guard.requestBody.observe chunk } }

def observeResponseBytes (chunk : List UInt8) : SharedExchangeCapture :=
  { x with guard := { x.guard with responseBody := x.guard.responseBody.observe chunk } }

/-- The first block of `finalize_with_body_error_and_send`: an error that is already there is kept. -/
def setBodyError (error : ErrorInfo) : SharedExchangeCapture :=
  match x.guard.error with
  | none => { x with guard := { x.guard with proxyResult := .streamError, error := some error } }
  | some _ => x

variable [Digest]

/-- `finalize_and_send`, at the time `now`: only the first call sends. -/
def finalizeAndSend (now : OffsetDateTime) : SharedExchangeCapture :=
  if x.guard.finalized then x
  else
    { guard := { x.guard with finalized := true }
      sent := x.sent ++ [{ x.guard with finalized := true }.buildEvent now] }

def finalizeWithBodyErrorAndSend (error : ErrorInfo) (now : OffsetDateTime) : SharedExchangeCapture :=
  (x.setBodyError error).finalizeAndSend now

end SharedExchangeCapture

/-! ### Observed bodies -/

inductive BodyDirection
  | request
  | response
  deriving DecidableEq, Repr

structure ObservedBody (B : Type) where
  inner : B
  /-- It holds a writer handle. -/
  writer : Bool
  direction : BodyDirection
  finalized : Bool
  completed : Bool

namespace ObservedBody

variable {B : Type}

/-- `ObservedBody::request`. -/
def request (inner : B) : ObservedBody B := ⟨inner, false, .request, false, false⟩

/-- `ObservedBody::response`. -/
def response (inner : B) : ObservedBody B := ⟨inner, true, .response, false, false⟩

/-- `StreamingBody::poll_frame` of an observed body, at the time `now`. -/
def pollFrame [Digest] [StreamingBody B] (body : ObservedBody B) (x : SharedExchangeCapture)
    (now : OffsetDateTime) : Poll × ObservedBody B × SharedExchangeCapture :=
  match StreamingBody.pollFrame body.inner with
  | (.pending, inner) => (.pending, { body with inner }, x)
  | (.frame frame, inner) =>
    let x := match frame.dataRef with
      | some chunk =>
        match body.direction with
        | .request => x.observeRequestBytes chunk
        | .response => x.observeResponseBytes chunk
      | none => x
    (.frame frame, { body with inner, completed := StreamingBody.isEndStream inner }, x)
  | (.err err, inner) =>
    if body.direction = .response && body.writer then
      (.err err, { body with inner, finalized := true },
        x.finalizeWithBodyErrorAndSend ⟨.upstreamProtocol, err⟩ now)
    else (.err err, { body with inner }, x)
  | (.done, inner) =>
    if body.direction = .response && body.writer && !body.finalized then
      (.done, { body with inner, completed := true, finalized := true }, x.finalizeAndSend now)
    else (.done, { body with inner, completed := true }, x)

def isEndStream [StreamingBody B] (body : ObservedBody B) : Bool := StreamingBody.isEndStream body.inner

/-- `Drop for ObservedBody`, at the time `now`. -/
def drop [Digest] (body : ObservedBody B) (x : SharedExchangeCapture) (now : OffsetDateTime) :
    SharedExchangeCapture :=
  if body.direction = .response && !body.finalized && body.writer then
    if body.completed then x.finalizeAndSend now
    else x.finalizeWithBodyErrorAndSend
      ⟨.clientProtocol, "response body dropped before completion"⟩ now
  else x

end ObservedBody

end KidProxy
