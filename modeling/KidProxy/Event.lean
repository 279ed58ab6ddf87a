import KidProxy.Error
import KidProxy.Time

/-!
# Event — the logged event and its row

`ProxyEvent` is what an exchange leaves behind; `eventToActiveModel` turns it into a row of the table
`proxy_events`.  The conversion fails only where a timestamp cannot be printed.
-/

namespace KidProxy

/-- A UUID as its 128 bits. -/
structure Uuid where
  bits : BitVec 128
  deriving DecidableEq, Repr

/-- Lower-case hexadecimal digits in groups of 8, 4, 4, 4 and 12. -/
def Uuid.toText (uuid : Uuid) : String :=
  let digits := (Nat.toDigits 16 uuid.bits.toNat)
  let digits := List.replicate (32 - digits.length) '0' ++ digits
  String.ofList (digits.take 8 ++ '-' :: (digits.drop 8).take 4 ++ '-' :: (digits.drop 12).take 4 ++
    '-' :: (digits.drop 16).take 4 ++ '-' :: digits.drop 20)

structure ProxyEvent where
  eventId : Uuid
  connectionId : Uuid
  requestStartTs : OffsetDateTime
  requestEndTs : OffsetDateTime
  durationMs : ℤ
  clientIp : Option String
  clientPort : Option ℕ
  proxyLocalIp : Option String
  proxyLocalPort : Option ℕ
  frontendServerName : Option String
  frontendHttpVersion : Option String
  frontendScheme : String
  backendUrl : String
  backendHost : String
  backendIp : Option String
  backendPort : Option ℕ
  backendHttpVersion : Option String
  upstreamConnectionReused : Option Bool
  method : String
  authority : Option String
  path : String
  query : Option String
  requestHeadersJson : String
  requestCookieHeader : Option String
  requestCookiesJson : Option String
  requestContentLength : Option ℤ
  requestTransferEncoding : Option String
  requestContentType : Option String
  requestBodySha256 : Option String
  requestBodyPreviewBase64 : Option String
  requestBodyTruncated : Option Bool
  statusCode : Option ℕ
  reasonPhrase : Option String
  responseHeadersJson : Option String
  responseSetCookieJson : Option String
  responseContentLength : Option ℤ
  responseTransferEncoding : Option String
  responseContentType : Option String
  responseContentEncoding : Option String
  responseBodySha256 : Option String
  responseBodyPreviewBase64 : Option String
  responseBodyTruncated : Option Bool
  frontendTlsVersion : Option String
  frontendTlsCipherSuite : Option String
  frontendTlsAlpn : Option String
  frontendTlsSni : Option String
  frontendTlsJa3 : Option String
  frontendTlsJa4 : Option String
  backendTlsVersion : Option String
  backendTlsCipherSuite : Option String
  backendTlsAlpn : Option String
  backendTlsSni : Option String
  backendCertLeafSha256 : Option String
  backendCertSubject : Option String
  backendCertIssuer : Option String
  backendCertNotBefore : Option OffsetDateTime
  backendCertNotAfter : Option OffsetDateTime
  dnsDurationMs : Option ℤ
  connectDurationMs : Option ℤ
  tlsHandshakeDurationMs : Option ℤ
  upstreamFirstByteMs : Option ℤ
  responseStreamDurationMs : Option ℤ
  errorKind : Option ErrorKind
  errorText : Option String
  proxyResult : ProxyResult

/-- `entity::Model`, in the order of the columns. -/
structure ActiveModel where
  eventId : String
  connectionId : String
  requestStartTs : String
  requestEndTs : String
  durationMs : ℤ
  clientIp : Option String
  clientPort : Option ℤ
  proxyLocalIp : Option String
  proxyLocalPort : Option ℤ
  frontendServerName : Option String
  frontendHttpVersion : Option String
  frontendScheme : String
  backendUrl : String
  backendHost : String
  backendIp : Option String
  backendPort : Option ℤ
  backendHttpVersion : Option String
  upstreamConnectionReused : Option Bool
  method : String
  authority : Option String
  path : String
  query : Option String
  requestHeadersJson : String
  requestCookieHeader : Option String
  requestCookiesJson : Option String
  requestContentLength : Option ℤ
  requestTransferEncoding : Option String
  requestContentType : Option String
  requestBodySha256 : Option String
  requestBodyPreviewBase64 : Option String
  requestBodyTruncated : Option Bool
  statusCode : Option ℤ
  reasonPhrase : Option String
  responseHeadersJson : Option String
  responseSetCookieJson : Option String
  responseContentLength : Option ℤ
  responseTransferEncoding : Option String
  responseContentType : Option String
  responseContentEncoding : Option String
  responseBodySha256 : Option String
  responseBodyPreviewBase64 : Option String
  responseBodyTruncated : Option Bool
  frontendTlsVersion : Option String
  frontendTlsCipherSuite : Option String
  frontendTlsAlpn : Option String
  frontendTlsSni : Option String
  frontendTlsJa3 : Option String
  frontendTlsJa4 : Option String
  backendTlsVersion : Option String
  backendTlsCipherSuite : Option String
  backendTlsAlpn : Option String
  backendTlsSni : Option String
  backendCertLeafSha256 : Option String
  backendCertSubject : Option String
  backendCertIssuer : Option String
  backendCertNotBefore : Option String
  backendCertNotAfter : Option String
  dnsDurationMs : Option ℤ
  connectDurationMs : Option ℤ
  tlsHandshakeDurationMs : Option ℤ
  upstreamFirstByteMs : Option ℤ
  responseStreamDurationMs : Option ℤ
  errorKind : Option String
  errorText : Option String
  proxyResult : String

/-- The columns of `proxy_events`. -/
def columns : List String :=
  ["event_id", "connection_id", "request_start_ts", "request_end_ts", "duration_ms", "client_ip",
   "client_port", "proxy_local_ip", "proxy_local_port", "frontend_server_name",
   "frontend_http_version", "frontend_scheme", "backend_url", "backend_host", "backend_ip",
   "backend_port", "backend_http_version", "upstream_connection_reused", "method", "authority",
   "path", "query", "request_headers_json", "request_cookie_header", "request_cookies_json",
   "request_content_length", "request_transfer_encoding", "request_content_type",
   "request_body_sha256", "request_body_preview_base64", "request_body_truncated", "status_code",
   "reason_phrase", "response_headers_json", "response_set_cookie_json", "response_content_length",
   "response_transfer_encoding", "response_content_type", "response_content_encoding",
   "response_body_sha256", "response_body_preview_base64", "response_body_truncated",
   "frontend_tls_version", "frontend_tls_cipher_suite", "frontend_tls_alpn", "frontend_tls_sni",
   "frontend_tls_ja3", "frontend_tls_ja4", "backend_tls_version", "backend_tls_cipher_suite",
   "backend_tls_alpn", "backend_tls_sni", "backend_cert_leaf_sha256", "backend_cert_subject",
   "backend_cert_issuer", "backend_cert_not_before", "backend_cert_not_after", "dns_duration_ms",
   "connect_duration_ms", "tls_handshake_duration_ms", "upstream_first_byte_ms",
   "response_stream_duration_ms", "error_kind", "error_text", "proxy_result"]

theorem columns_length : columns.length = 65 := by decide

def formatTimestamp (timestamp : OffsetDateTime) : Except AnyError String :=
  contextSome "format timestamp for SQLite storage" timestamp.formatRfc3339

def formatOptionalTimestamp : Option OffsetDateTime → Except AnyError (Option String)
  | none => .ok none
  | some timestamp => (formatTimestamp timestamp).map some

/-- `event_to_active_model`. -/
def eventToActiveModel (event : ProxyEvent) : Except AnyError ActiveModel := do
  let requestStartTs ← formatTimestamp event.requestStartTs
  let requestEndTs ← formatTimestamp event.requestEndTs
  let backendCertNotBefore ← formatOptionalTimestamp event.backendCertNotBefore
  let backendCertNotAfter ← formatOptionalTimestamp event.backendCertNotAfter
  return {
    eventId := event.eventId.toText
    connectionId := event.connectionId.toText
    requestStartTs
    requestEndTs
    durationMs := event.durationMs
    clientIp := event.clientIp
    clientPort := event.clientPort.map fun n => (n : ℤ)
    proxyLocalIp := event.proxyLocalIp
    proxyLocalPort := event.proxyLocalPort.map fun n => (n : ℤ)
    frontendServerName := event.frontendServerName
    frontendHttpVersion := event.frontendHttpVersion
    frontendScheme := event.frontendScheme
    backendUrl := event.backendUrl
    backendHost := event.backendHost
    backendIp := event.backendIp
    backendPort := event.backendPort.map fun n => (n : ℤ)
    backendHttpVersion := event.backendHttpVersion
    upstreamConnectionReused := event.upstreamConnectionReused
    method := event.method
    authority := event.authority
    path := event.path
    query := event.query
    requestHeadersJson := event.requestHeadersJson
    requestCookieHeader := event.requestCookieHeader
    requestCookiesJson := event.requestCookiesJson
    requestContentLength := event.requestContentLength
    requestTransferEncoding := event.requestTransferEncoding
    requestContentType := event.requestContentType
    requestBodySha256 := event.requestBodySha256
    requestBodyPreviewBase64 := event.requestBodyPreviewBase64
    requestBodyTruncated := event.requestBodyTruncated
    statusCode := event.statusCode.map fun n => (n : ℤ)
    reasonPhrase := event.reasonPhrase
    responseHeadersJson := event.responseHeadersJson
    responseSetCookieJson := event.responseSetCookieJson
    responseContentLength := event.responseContentLength
    responseTransferEncoding := event.responseTransferEncoding
    responseContentType := event.responseContentType
    responseContentEncoding := event.responseContentEncoding
    responseBodySha256 := event.responseBodySha256
    responseBodyPreviewBase64 := event.responseBodyPreviewBase64
    responseBodyTruncated := event.responseBodyTruncated
    frontendTlsVersion := event.frontendTlsVersion
    frontendTlsCipherSuite := event.frontendTlsCipherSuite
    frontendTlsAlpn := event.frontendTlsAlpn
    frontendTlsSni := event.frontendTlsSni
    frontendTlsJa3 := event.frontendTlsJa3
    frontendTlsJa4 := event.frontendTlsJa4
    backendTlsVersion := event.backendTlsVersion
    backendTlsCipherSuite := event.backendTlsCipherSuite
    backendTlsAlpn := event.backendTlsAlpn
    backendTlsSni := event.backendTlsSni
    backendCertLeafSha256 := event.backendCertLeafSha256
    backendCertSubject := event.backendCertSubject
    backendCertIssuer := event.backendCertIssuer
    backendCertNotBefore
    backendCertNotAfter
    dnsDurationMs := event.dnsDurationMs
    connectDurationMs := event.connectDurationMs
    tlsHandshakeDurationMs := event.tlsHandshakeDurationMs
    upstreamFirstByteMs := event.upstreamFirstByteMs
    responseStreamDurationMs := event.responseStreamDurationMs
    errorKind := event.errorKind.map ErrorKind.asStr
    errorText := event.errorText
    proxyResult := event.proxyResult.asStr }

/-- The four timestamps of the event can be printed. -/
def ProxyEvent.Printable (event : ProxyEvent) : Prop :=
  0 ≤ event.requestStartTs.year ∧ 0 ≤ event.requestEndTs.year ∧
    (∀ t, event.backendCertNotBefore = some t → 0 ≤ t.year) ∧
    ∀ t, event.backendCertNotAfter = some t → 0 ≤ t.year

theorem formatTimestamp_isOk {t : OffsetDateTime} : (∃ s, formatTimestamp t = .ok s) ↔ 0 ≤ t.year := by
  rw [← OffsetDateTime.formatRfc3339_isSome, formatTimestamp]
  cases t.formatRfc3339 <;> simp [contextSome]

theorem formatOptionalTimestamp_isOk {o : Option OffsetDateTime} :
    (∃ s, formatOptionalTimestamp o = .ok s) ↔ ∀ t, o = some t → 0 ≤ t.year := by
  cases o with
  | none => simp [formatOptionalTimestamp]
  | some t =>
    have h := formatTimestamp_isOk (t := t)
    cases hf : formatTimestamp t with
    | error err => rw [hf] at h; simpa [formatOptionalTimestamp, hf, Except.map] using h
    | ok s => rw [hf] at h; simpa [formatOptionalTimestamp, hf, Except.map] using h

/-- An event becomes a row exactly when its timestamps can be printed. -/
theorem eventToActiveModel_isOk {event : ProxyEvent} :
    (∃ m, eventToActiveModel event = .ok m) ↔ event.Printable := by
  unfold ProxyEvent.Printable
  rw [← formatTimestamp_isOk, ← formatTimestamp_isOk, ← formatOptionalTimestamp_isOk,
    ← formatOptionalTimestamp_isOk]
  unfold eventToActiveModel
  constructor
  · rintro ⟨m, h⟩
    obtain ⟨a, ha, h⟩ := bind_eq_ok.mp h
    obtain ⟨b, hb, h⟩ := bind_eq_ok.mp h
    obtain ⟨c, hc, h⟩ := bind_eq_ok.mp h
    obtain ⟨d, hd, -⟩ := bind_eq_ok.mp h
    exact ⟨⟨a, ha⟩, ⟨b, hb⟩, ⟨c, hc⟩, d, hd⟩
  · rintro ⟨⟨a, ha⟩, ⟨b, hb⟩, ⟨c, hc⟩, d, hd⟩
    exact ⟨_, bind_eq_ok.mpr ⟨a, ha, bind_eq_ok.mpr ⟨b, hb, bind_eq_ok.mpr ⟨c, hc,
      bind_eq_ok.mpr ⟨d, hd, rfl⟩⟩⟩⟩⟩

/-- The event of a GET request that was answered with an empty 204. -/
def sampleEvent : ProxyEvent where
  eventId := ⟨0x1⟩
  connectionId := ⟨0x2⟩
  requestStartTs := sampleTime
  requestEndTs := ⟨2026, 1, 2, 3, 4, 6, 0, by decide⟩
  durationMs := 1000
  clientIp := some "127.0.0.1"
  clientPort := some 50000
  proxyLocalIp := some "127.0.0.1"
  proxyLocalPort := some 8443
  frontendServerName := some "example.test"
  frontendHttpVersion := some "HTTP/1.1"
  frontendScheme := "https"
  backendUrl := "https://backend.example/"
  backendHost := "backend.example"
  backendIp := none
  backendPort := some 443
  backendHttpVersion := some "HTTP/1.1"
  upstreamConnectionReused := none
  method := "GET"
  authority := some "example.test"
  path := "/"
  query := none
  requestHeadersJson := "\x7b\x7d"
  requestCookieHeader := none
  requestCookiesJson := none
  requestContentLength := none
  requestTransferEncoding := none
  requestContentType := none
  requestBodySha256 := none
  requestBodyPreviewBase64 := none
  requestBodyTruncated := some false
  statusCode := some 204
  reasonPhrase := some "No Content"
  responseHeadersJson := some "\x7b\x7d"
  responseSetCookieJson := none
  responseContentLength := none
  responseTransferEncoding := none
  responseContentType := none
  responseContentEncoding := none
  responseBodySha256 := none
  responseBodyPreviewBase64 := none
  responseBodyTruncated := some false
  frontendTlsVersion := none
  frontendTlsCipherSuite := none
  frontendTlsAlpn := none
  frontendTlsSni := none
  frontendTlsJa3 := none
  frontendTlsJa4 := none
  backendTlsVersion := none
  backendTlsCipherSuite := none
  backendTlsAlpn := none
  backendTlsSni := none
  backendCertLeafSha256 := none
  backendCertSubject := none
  backendCertIssuer := none
  backendCertNotBefore := none
  backendCertNotAfter := none
  dnsDurationMs := none
  connectDurationMs := none
  tlsHandshakeDurationMs := none
  upstreamFirstByteMs := some 900
  responseStreamDurationMs := some 100
  errorKind := none
  errorText := none
  proxyResult := .success

theorem sampleEvent_printable : sampleEvent.Printable :=
  ⟨by decide, by decide, by simp [sampleEvent], by simp [sampleEvent]⟩

end KidProxy
