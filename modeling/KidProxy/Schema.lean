import KidProxy.Lib.Table
import KidProxy.Serving
import KidProxy.WriterCapacity

/-!
# Schema — the table that the migration creates, and the batches of the writer

`CreateProxyEvents` declares what each column may hold, `entity::Model` what a row binds, and the writer
builds the rows.  The three agree: every row fits the table, and no two rows have the same key, so that a
batch is refused for its size only.
-/

namespace KidProxy

open Table

/-! ### The migration -/

namespace Migration

def string (column : String) : Column := ⟨column, .text, true, false⟩

def stringNull (column : String) : Column := ⟨column, .text, false, false⟩

def text (column : String) : Column := ⟨column, .text, true, false⟩

def textNull (column : String) : Column := ⟨column, .text, false, false⟩

def integerNull (column : String) : Column := ⟨column, .integer, false, false⟩

def bigInteger (column : String) : Column := ⟨column, .integer, true, false⟩

def bigIntegerNull (column : String) : Column := ⟨column, .integer, false, false⟩

/-- A boolean is bound as an integer. -/
def booleanNull (column : String) : Column := ⟨column, .integer, false, false⟩

/-- `CreateProxyEvents::up`. -/
def createProxyEvents : List Column :=
  [{ string "event_id" with primaryKey := true }, string "connection_id", string "request_start_ts",
   string "request_end_ts", bigInteger "duration_ms", stringNull "client_ip",
   integerNull "client_port", stringNull "proxy_local_ip", integerNull "proxy_local_port",
   stringNull "frontend_server_name", stringNull "frontend_http_version", string "frontend_scheme",
   string "backend_url", string "backend_host", stringNull "backend_ip", integerNull "backend_port",
   stringNull "backend_http_version", booleanNull "upstream_connection_reused", string "method",
   stringNull "authority", string "path", stringNull "query", text "request_headers_json",
   textNull "request_cookie_header", textNull "request_cookies_json",
   bigIntegerNull "request_content_length", stringNull "request_transfer_encoding",
   stringNull "request_content_type", stringNull "request_body_sha256",
   textNull "request_body_preview_base64", booleanNull "request_body_truncated",
   integerNull "status_code", stringNull "reason_phrase", textNull "response_headers_json",
   textNull "response_set_cookie_json", bigIntegerNull "response_content_length",
   stringNull "response_transfer_encoding", stringNull "response_content_type",
   stringNull "response_content_encoding", stringNull "response_body_sha256",
   textNull "response_body_preview_base64", booleanNull "response_body_truncated",
   stringNull "frontend_tls_version", stringNull "frontend_tls_cipher_suite",
   stringNull "frontend_tls_alpn", stringNull "frontend_tls_sni", stringNull "frontend_tls_ja3",
   stringNull "frontend_tls_ja4", stringNull "backend_tls_version",
   stringNull "backend_tls_cipher_suite", stringNull "backend_tls_alpn",
   stringNull "backend_tls_sni", stringNull "backend_cert_leaf_sha256",
   textNull "backend_cert_subject", textNull "backend_cert_issuer",
   stringNull "backend_cert_not_before", stringNull "backend_cert_not_after",
   bigIntegerNull "dns_duration_ms", bigIntegerNull "connect_duration_ms",
   bigIntegerNull "tls_handshake_duration_ms", bigIntegerNull "upstream_first_byte_ms",
   bigIntegerNull "response_stream_duration_ms", stringNull "error_kind", textNull "error_text",
   string "proxy_result"]

theorem names_createProxyEvents : createProxyEvents.map Column.name = columns := by decide

theorem nodup_columns : (createProxyEvents.map Column.name).Nodup := by
  rw [names_createProxyEvents]
  decide

end Migration

/-! ### What a row binds -/

namespace Cells

open Migration

def ofText (o : Option String) : Cell := o.elim .null .text

def ofInt (o : Option ℤ) : Cell := o.elim .null .int

def ofBool (o : Option Bool) : Cell := o.elim .null fun b => .int b.toNat

variable (column : String)

theorem takes_string (s : String) : (string column).Takes (column, .text s) := ⟨rfl, nofun, rfl⟩

theorem takes_text (s : String) : (text column).Takes (column, .text s) := ⟨rfl, nofun, rfl⟩

theorem takes_bigInteger (n : ℤ) : (bigInteger column).Takes (column, .int n) := ⟨rfl, nofun, rfl⟩

theorem takes_stringNull (o : Option String) : (stringNull column).Takes (column, ofText o) :=
  ⟨rfl, nofun, by cases o <;> rfl⟩

theorem takes_textNull (o : Option String) : (textNull column).Takes (column, ofText o) :=
  ⟨rfl, nofun, by cases o <;> rfl⟩

theorem takes_integerNull (o : Option ℤ) : (integerNull column).Takes (column, ofInt o) :=
  ⟨rfl, nofun, by cases o <;> rfl⟩

theorem takes_bigIntegerNull (o : Option ℤ) : (bigIntegerNull column).Takes (column, ofInt o) :=
  ⟨rfl, nofun, by cases o <;> rfl⟩

theorem takes_booleanNull (o : Option Bool) : (booleanNull column).Takes (column, ofBool o) :=
  ⟨rfl, nofun, by cases o <;> rfl⟩

theorem takes_key (s : String) :
    Column.Takes { string column with primaryKey := true } (column, .text s) := ⟨rfl, nofun, rfl⟩

end Cells

namespace ActiveModel

open Cells Migration

/-- In the order of the fields of `entity::Model`. -/
def cells (row : ActiveModel) : List Cell :=
  [.text row.eventId, .text row.connectionId, .text row.requestStartTs, .text row.requestEndTs,
   .int row.durationMs, ofText row.clientIp, ofInt row.clientPort, ofText row.proxyLocalIp,
   ofInt row.proxyLocalPort, ofText row.frontendServerName, ofText row.frontendHttpVersion,
   .text row.frontendScheme, .text row.backendUrl, .text row.backendHost, ofText row.backendIp,
   ofInt row.backendPort, ofText row.backendHttpVersion, ofBool row.upstreamConnectionReused,
   .text row.method, ofText row.authority, .text row.path, ofText row.query,
   .text row.requestHeadersJson, ofText row.requestCookieHeader, ofText row.requestCookiesJson,
   ofInt row.requestContentLength, ofText row.requestTransferEncoding,
   ofText row.requestContentType, ofText row.requestBodySha256,
   ofText row.requestBodyPreviewBase64, ofBool row.requestBodyTruncated, ofInt row.statusCode,
   ofText row.reasonPhrase, ofText row.responseHeadersJson, ofText row.responseSetCookieJson,
   ofInt row.responseContentLength, ofText row.responseTransferEncoding,
   ofText row.responseContentType, ofText row.responseContentEncoding,
   ofText row.responseBodySha256, ofText row.responseBodyPreviewBase64,
   ofBool row.responseBodyTruncated, ofText row.frontendTlsVersion,
   ofText row.frontendTlsCipherSuite, ofText row.frontendTlsAlpn, ofText row.frontendTlsSni,
   ofText row.frontendTlsJa3, ofText row.frontendTlsJa4, ofText row.backendTlsVersion,
   ofText row.backendTlsCipherSuite, ofText row.backendTlsAlpn, ofText row.backendTlsSni,
   ofText row.backendCertLeafSha256, ofText row.backendCertSubject, ofText row.backendCertIssuer,
   ofText row.backendCertNotBefore, ofText row.backendCertNotAfter, ofInt row.dnsDurationMs,
   ofInt row.connectDurationMs, ofInt row.tlsHandshakeDurationMs, ofInt row.upstreamFirstByteMs,
   ofInt row.responseStreamDurationMs, ofText row.errorKind, ofText row.errorText,
   .text row.proxyResult]

/-- The row as the `INSERT` writes it. -/
def written (row : ActiveModel) : Written := columns.zip row.cells

/-- Every row fits the table: nothing that must be there is missing, and nothing is converted. -/
theorem fits_written (row : ActiveModel) : Table.Fits createProxyEvents row.written := by
  unfold Table.Fits written createProxyEvents columns cells
  simp only [List.zip_cons_cons, List.zip_nil_left, List.forall₂_cons, takes_key, takes_string, takes_text,
    takes_bigInteger, takes_stringNull, takes_textNull, takes_integerNull, takes_bigIntegerNull,
    takes_booleanNull, true_and]
  exact .nil

end ActiveModel

/-! ### The batches of the writer -/

open Transition Writer Migration

/-- The database, with these rows in the table, takes a statement exactly where it binds no more parameters
than allowed and the table takes the rows. -/
def AcceptsInto (table : List ActiveModel) (tx : Transaction) : Prop :=
  ∀ models, tx.insertMany models = .ok () ↔ boundParameters models ≤ maxVariables ∧ ∃ rows,
    insertMany createProxyEvents (table.map ActiveModel.cells) (models.map ActiveModel.written) = .ok rows

/-- What a flush of a buffer that is not empty needs. -/
theorem flush_isOk_iff {w : Writer} {tx : Transaction} (hb : w.buffer ≠ []) :
    (∃ w', w.flush tx = .ok w') ↔ tx.begin = .ok () ∧ tx.commit = .ok () ∧
      ∃ models, w.buffer.mapM eventToActiveModel = .ok models ∧ tx.insertMany models = .ok () := by
  constructor
  · rintro ⟨w', h⟩
    unfold flush at h
    rw [if_neg (by simpa using hb)] at h
    obtain ⟨models, hm, h⟩ := bind_eq_ok.mp h
    obtain ⟨_, hbegin, h⟩ := bind_eq_ok.mp h
    obtain ⟨_, hinsert, h⟩ := bind_eq_ok.mp h
    obtain ⟨_, hcommit, -⟩ := bind_eq_ok.mp h
    exact ⟨context_eq_ok.mp hbegin, context_eq_ok.mp hcommit, models, hm, context_eq_ok.mp hinsert⟩
  · rintro ⟨hbegin, hcommit, models, hm, hinsert⟩
    exact ⟨_, flush_of_ok hm hbegin hinsert hcommit⟩

/-- Rows with different keys go into the table. -/
theorem insertMany_written {table models : List ActiveModel}
    (hkeys : ((table ++ models).map ActiveModel.eventId).Nodup) :
    insertMany createProxyEvents (table.map ActiveModel.cells) (models.map ActiveModel.written) =
      .ok ((table ++ models).map ActiveModel.cells) := by
  have hcells : (models.map ActiveModel.written).map (List.map Prod.snd) = models.map ActiveModel.cells :=
    List.map_map
  have hnodup : ((table.map ActiveModel.cells ++ models.map ActiveModel.cells).map
      (keyOf createProxyEvents)).Nodup := by
    rw [← List.map_append, List.map_map]
    have hinj : Function.Injective fun eventId : String => [Cell.text eventId] := fun a b h => by
      simpa using h
    have hmap := hkeys.map hinj
    rwa [List.map_map] at hmap
  rw [insertMany_of_fits (fun written hw => ?_) nodup_columns (by rwa [hcells]), hcells, List.map_append]
  obtain ⟨row, -, rfl⟩ := List.mem_map.mp hw
  exact row.fits_written

section Batches

variable [Net] [Glob] [Digest] {cfg : RuntimeConfig} {stored : List ActiveModel} {s : Serving}
  {as : List ServingAction}

/-- **A batch is refused for its size only**: for requests with fresh identifiers, in every state that
exchanges and writer reach, the table of the migration takes the rows of the next batch, unchanged and behind
those that are there; so where the database refuses a statement only for its parameters and by the table, a
flush of events succeeds exactly where the transaction begins and commits, the batch fits one statement and
its instants can be printed. -/
theorem batch_refused_for_size (hrun : run Serving.step (.start cfg stored) as = some s)
    (hids : Serving.FreshIds stored as) :
    (∀ models, s.writer.buffer.mapM eventToActiveModel = .ok models →
      insertMany createProxyEvents (s.writer.table.map ActiveModel.cells)
        (models.map ActiveModel.written) = .ok ((s.writer.table ++ models).map ActiveModel.cells)) ∧
    ∀ tx, AcceptsInto s.writer.table tx → s.writer.buffer ≠ [] →
      ((∃ w, s.writer.flush tx = .ok w) ↔
        tx.begin = .ok () ∧ tx.commit = .ok () ∧ Writer.Fits s.writer) := by
  have hinsert : ∀ models, s.writer.buffer.mapM eventToActiveModel = .ok models →
      insertMany createProxyEvents (s.writer.table.map ActiveModel.cells)
        (models.map ActiveModel.written) = .ok ((s.writer.table ++ models).map ActiveModel.cells) := by
    intro models hmodels
    refine insertMany_written ?_
    rw [List.map_append, keys_of_rows (rows_of_mapM hmodels)]
    exact nodup_table_keys hrun hids
  refine ⟨hinsert, fun tx htx hb => ?_⟩
  rw [flush_isOk_iff hb]
  refine and_congr_right fun _ => and_congr_right fun _ => ⟨?_, fun hfits => ?_⟩
  · rintro ⟨models, hm, hi⟩
    have hlen := boundParameters_le_iff.mp ((htx models).mp hi).1
    rw [(rows_of_mapM hm).length_eq] at hlen
    exact ⟨hlen, mapM_isOk.mp ⟨models, hm⟩⟩
  · obtain ⟨models, hm⟩ := mapM_isOk.mpr hfits.printable
    have hlen : models.length ≤ maxBatch := (rows_of_mapM hm).length_eq ▸ hfits.length_le
    exact ⟨models, hm, (htx models).mpr ⟨boundParameters_le_iff.mpr hlen, _, hinsert models hm⟩⟩

end Batches

/-- A database without failures of its own. -/
def sampleDatabase (table : List ActiveModel) : Transaction where
  begin := .ok ()
  insertMany models :=
    if maxVariables < boundParameters models then .error (.msg "too many SQL variables")
    else
      match insertMany createProxyEvents (table.map ActiveModel.cells) (models.map ActiveModel.written) with
      | .ok _ => .ok ()
      | .error _ => .error (.msg "constraint failed")
  commit := .ok ()

theorem acceptsInto_sample (table : List ActiveModel) : AcceptsInto table (sampleDatabase table) := by
  intro models
  unfold sampleDatabase
  dsimp only
  by_cases hlarge : maxVariables < boundParameters models
  · rw [if_pos hlarge]
    exact iff_of_false (fun h => nomatch h) fun h => absurd h.1 (not_le.mpr hlarge)
  · rw [if_neg hlarge]
    cases hrows : insertMany createProxyEvents (table.map ActiveModel.cells)
        (models.map ActiveModel.written) with
    | ok rows => exact iff_of_true rfl ⟨not_lt.mp hlarge, rows, rfl⟩
    | error refusal =>
      refine iff_of_false (fun h => nomatch h) ?_
      rintro ⟨-, rows, h⟩
      cases h

/-- After the visit its event is in the buffer, and its row goes into the empty table. -/
theorem batch_refused_for_size_sample : ∃ s, sampleServing (sampleVisit ++ [.writer .recv]) = some s ∧
    s.writer.buffer.length = 1 ∧ ∃ w, s.writer.flush (sampleDatabase s.writer.table) = .ok w := by
  obtain ⟨s, hrun, hlen, hmodels⟩ : ∃ s, sampleServing (sampleVisit ++ [.writer .recv]) = some s ∧
      s.writer.buffer.length = 1 ∧ ∃ models, s.writer.buffer.mapM eventToActiveModel = .ok models :=
    ⟨_, rfl, rfl, _, rfl⟩
  have h := @batch_refused_for_size sampleNet sampleGlob sampleDigest _ _ _ _ hrun (by decide)
  have hb : s.writer.buffer ≠ [] := fun hnil => by
    rw [hnil] at hlen
    cases hlen
  refine ⟨s, hrun, hlen, (h.2 _ (acceptsInto_sample _) hb).mpr ⟨rfl, rfl, ?_, mapM_isOk.mp hmodels⟩⟩
  rw [hlen]
  decide

end KidProxy
