import KidProxy.Cookies
import KidProxy.EventRow
import KidProxy.ExchangeRecord
import KidProxy.HeaderPolicy
import KidProxy.Lib.Base64
import KidProxy.Lib.JsonText
import KidProxy.Lib.Utf8Pieces
import KidProxy.Observation
import KidProxy.Results

/-!
# EventDetail — the page of one event

`load_event_detail` indents the stored JSON and decodes the previews of the bodies; `ResultDetailPage`
shows them in six blocks of text.
`detail_keeps_json`: of every event, a JSON column is shown indented and reads back as the same value, and
an empty object stands where there is none.
`detail_shows_bodies`: the previews show the bytes that went through the exchange, as far as they were kept.
-/

namespace KidProxy

open Transition

/-! ### The page -/

structure EventDetail where
  requestStartTs : String
  method : String
  path : String
  statusCode : String
  durationMs : ℤ
  backendHost : String
  proxyResult : String
  frontendTlsSni : Option String
  requestHeadersJson : String
  responseHeadersJson : Option String
  requestCookiesJson : Option String
  responseSetCookieJson : Option String
  requestBodyPreview : String
  responseBodyPreview : String
  deriving DecidableEq, Repr

def decodePreview (value : Option String) : String :=
  match value with
  | none => "n/a"
  | some encoded =>
    match Base64.decode encoded.toList with
    | some bytes =>
      match Utf8.fromUtf8 bytes with
      | some text => String.ofList text
      | none => String.ofList (Utf8.fromUtf8Lossy bytes)
    | none => encoded

def prettifyJson (value : String) : String :=
  match Json.parse value.toList with
  | some parsed => parsed.toValue.prettyText
  | none => value

def EventDetail.ofRow (row : ActiveModel) : EventDetail where
  requestStartTs := row.requestStartTs
  method := row.method
  path := row.path
  statusCode := match row.statusCode with
    | some value => toString value
    | none => "n/a"
  durationMs := row.durationMs
  backendHost := row.backendHost
  proxyResult := row.proxyResult
  frontendTlsSni := row.frontendTlsSni
  requestHeadersJson := prettifyJson row.requestHeadersJson
  responseHeadersJson := row.responseHeadersJson.map prettifyJson
  requestCookiesJson := row.requestCookiesJson.map prettifyJson
  responseSetCookieJson := row.responseSetCookieJson.map prettifyJson
  requestBodyPreview := decodePreview row.requestBodyPreviewBase64
  responseBodyPreview := decodePreview row.responseBodyPreviewBase64

/-- The titles and texts of `ResultDetailPage`. -/
def EventDetail.textBlocks (detail : EventDetail) : List (String × String) :=
  [("Request headers", detail.requestHeadersJson),
    ("Response headers", detail.responseHeadersJson.getD "\x7b\x7d"),
    ("Request body preview", detail.requestBodyPreview),
    ("Response body preview", detail.responseBodyPreview),
    ("Request cookies", detail.requestCookiesJson.getD "\x7b\x7d"),
    ("Response set-cookie", detail.responseSetCookieJson.getD "\x7b\x7d")]

/-- `find_by_id` selects by the primary key; `found` is what the database answers to the query. -/
def loadEventDetail (rows : List ActiveModel) (eventId : String) (found : Except AnyError Unit) :
    Except AnyError (Option EventDetail) := do
  context "load event detail" found
  return (rows.find? fun row => row.eventId = eventId).map EventDetail.ofRow

/-! ### The JSON columns -/

/-- A text that holds a JSON value with sorted objects. -/
def HoldsJson (text : String) : Prop := ∃ v : Json, text = v.text ∧ v.toValue = v

/-- The text shown is the stored value on lines indented by two spaces a level, and reads back as it. -/
def Indented (stored shown : String) : Prop :=
  ∃ v, Json.parse stored.toList = some v ∧ shown = v.prettyText ∧ Json.parse shown.toList = some v

/-- What a block shows of a column: an empty object if there is none. -/
def ShowsJson : Option String → String → Prop
  | none, shown => shown = "\x7b\x7d"
  | some stored, shown => Indented stored shown

theorem HoldsJson.indented {text : String} (h : HoldsJson text) : Indented text (prettifyJson text) := by
  obtain ⟨v, rfl, hv⟩ := h
  have hparse := Json.parse_text v
  have hshown : prettifyJson v.text = v.prettyText := by
    unfold prettifyJson
    rw [hparse]
    dsimp only
    rw [hv]
  refine ⟨v, hparse, hshown, ?_⟩
  rw [hshown]
  exact Json.parse_prettyText v

theorem holdsJson_serializeHeaders (headers : HeaderMap) (policy : HeaderLogPolicy) :
    HoldsJson (serializeHeaders headers policy) := by
  refine ⟨_, serializeHeaders_eq headers policy, Json.toValue_obj ?_ fun e he => ?_⟩
  · rw [List.pairwise_map]
    exact (SortedMap.sorted _)
  · obtain ⟨e', -, rfl⟩ := List.mem_map.mp he
    refine Json.toValue_arr fun v hv => ?_
    obtain ⟨text, -, rfl⟩ := List.mem_map.mp hv
    rfl

theorem holdsJson_parseCookies {value : Option HeaderValue} {text : String}
    (h : parseCookies value = some text) : HoldsJson text := by
  obtain ⟨raw, -, rfl⟩ := Option.map_eq_some_iff.mp h
  refine ⟨_, rfl, Json.toValue_obj ?_ fun e he => ?_⟩
  · rw [List.pairwise_map]
    exact (SortedMap.sorted _)
  · obtain ⟨e', -, rfl⟩ := List.mem_map.mp he
    rfl

/-- The attributes of a cookie are strings and flags. -/
theorem toValue_of_mem_attributes (attributes : List (List Char)) {attrs : SortedMap String Json}
    (h : ∀ e ∈ attrs.entries, e.2.toValue = e.2) :
    ∀ e ∈ (attributes.foldl insertAttribute attrs).entries, e.2.toValue = e.2 := by
  induction attributes generalizing attrs with
  | nil => exact h
  | cons attr attributes ih =>
    refine ih fun e he => ?_
    unfold insertAttribute at he
    dsimp only at he
    rcases hsplit : Text.splitOnce '=' (Text.trim attr) with _ | ⟨key, val⟩
    · rw [hsplit] at he
      dsimp only at he
      split_ifs at he
      · exact h e he
      · rcases SortedMap.of_mem_insert he with hv | hmem
        · rw [hv]
          rfl
        · exact h e hmem
    · rw [hsplit] at he
      rcases SortedMap.of_mem_insert he with hv | hmem
      · rw [hv]
        rfl
      · exact h e hmem

theorem toValue_parseSetCookieValue (raw : List Char) :
    (parseSetCookieValue raw).toValue = parseSetCookieValue raw := by
  have hattrs : ∀ e ∈ (((raw.splitOn ';').tail).foldl insertAttribute SortedMap.empty).entries,
      e.2.toValue = e.2 := toValue_of_mem_attributes _ fun e he => absurd he List.not_mem_nil
  have hobj := Json.toValue_obj (SortedMap.sorted _) hattrs
  have hkeys : ["attributes", "name", "raw", "value"].Pairwise (· < ·) := by decide
  refine Json.toValue_obj ?_ ?_
  · exact (List.pairwise_map (f := Prod.fst) (R := (· < ·))).mp hkeys
  · exact List.forall_mem_cons.mpr ⟨hobj, List.forall_mem_cons.mpr ⟨rfl,
      List.forall_mem_cons.mpr ⟨rfl, List.forall_mem_singleton.mpr rfl⟩⟩⟩

theorem holdsJson_parseSetCookies {headers : HeaderMap} {text : String}
    (h : parseSetCookies headers = some text) : HoldsJson text := by
  unfold parseSetCookies at h
  dsimp only at h
  split_ifs at h with hnil
  obtain rfl := Option.some.inj h
  refine ⟨_, rfl, Json.toValue_arr fun v hv => ?_⟩
  obtain ⟨raw, -, rfl⟩ := List.mem_map.mp hv
  exact toValue_parseSetCookieValue raw

/-- What an event says in JSON is JSON. -/
structure ProxyEvent.LogsJson (event : ProxyEvent) : Prop where
  requestHeaders : HoldsJson event.requestHeadersJson
  responseHeaders : ∀ text, event.responseHeadersJson = some text → HoldsJson text
  requestCookies : ∀ text, event.requestCookiesJson = some text → HoldsJson text
  responseSetCookie : ∀ text, event.responseSetCookieJson = some text → HoldsJson text

theorem Outcome.logsJson [Net] [Digest] (cfg : RuntimeConfig) (req : Request Body)
    (startedAt endedAt : OffsetDateTime) (eventId connectionId : Uuid) (outcome : Outcome)
    (requestBody responseBody : BodyAccumulator) :
    ({ (outcome.record cfg (.new cfg req startedAt eventId connectionId)).guard with
      requestBody, responseBody }.buildEvent endedAt).LogsJson := by
  have hheaders := holdsJson_serializeHeaders req.headers cfg.headerLogPolicy
  have hcookies : ∀ text, parseCookies (req.headers.get .cookie) = some text → HoldsJson text :=
    fun _ => holdsJson_parseCookies
  cases outcome with
  | rejected status err => exact ⟨hheaders, nofun, hcookies, nofun⟩
  | failed err => exact ⟨hheaders, nofun, hcookies, nofun⟩
  | handed head responseStartedAt err =>
    have hresponse : ∀ text, some (serializeHeaders head.headers cfg.headerLogPolicy) = some text →
        HoldsJson text := by
      rintro text ⟨rfl⟩
      exact holdsJson_serializeHeaders head.headers cfg.headerLogPolicy
    have hset : ∀ text, parseSetCookies head.headers = some text → HoldsJson text :=
      fun _ => holdsJson_parseSetCookies
    cases err with
    | none => exact ⟨hheaders, hresponse, hcookies, hset⟩
    | some err => exact ⟨hheaders, hresponse, hcookies, hset⟩

/-- The columns that the page works on. -/
theorem stored_columns {event : ProxyEvent} {row : ActiveModel} (h : eventToActiveModel event = .ok row) :
    row.requestHeadersJson = event.requestHeadersJson ∧
      row.responseHeadersJson = event.responseHeadersJson ∧
      row.requestCookiesJson = event.requestCookiesJson ∧
      row.responseSetCookieJson = event.responseSetCookieJson ∧
      row.requestBodyPreviewBase64 = (event.summary .request).previewBase64 ∧
      row.responseBodyPreviewBase64 = (event.summary .response).previewBase64 := by
  obtain ⟨_, -, h⟩ := bind_eq_ok.mp h
  obtain ⟨_, -, h⟩ := bind_eq_ok.mp h
  obtain ⟨_, -, h⟩ := bind_eq_ok.mp h
  obtain ⟨_, -, h⟩ := bind_eq_ok.mp h
  obtain rfl := Except.ok.inj h
  exact ⟨rfl, rfl, rfl, rfl, rfl, rfl⟩

theorem showsJson_option {stored : Option String} (h : ∀ text, stored = some text → HoldsJson text) :
    ShowsJson stored ((stored.map prettifyJson).getD "\x7b\x7d") := by
  cases stored with
  | none => rfl
  | some text => exact (h text rfl).indented

/-! ### The previews -/

/-- The documented encoding of the standard engine. -/
structure Digest.Standard [Digest] : Prop where
  base64 : ∀ bytes, Digest.base64 bytes = String.ofList (Base64.encode bytes)

def EventDetail.preview (detail : EventDetail) : BodyDirection → String
  | .request => detail.requestBodyPreview
  | .response => detail.responseBodyPreview

/-- What the page shows of a body. -/
def shownPreview (maxBytes : ℕ) (bytes : List UInt8) : String :=
  if bytes = [] then "n/a" else String.ofList (Utf8.fromUtf8Lossy (bytes.take maxBytes))

theorem decodePreview_encode (bytes : List UInt8) :
    decodePreview (some (String.ofList (Base64.encode bytes))) =
      String.ofList (Utf8.fromUtf8Lossy bytes) := by
  unfold decodePreview
  dsimp only
  rw [String.toList_ofList, Base64.decode_encode]
  dsimp only
  unfold Utf8.fromUtf8
  split_ifs
  · rfl
  · rfl

theorem decodePreview_summary [Digest] (h : Digest.Standard) (maxBytes : ℕ) (bytes : List UInt8) :
    decodePreview (BodySummary.of maxBytes bytes).previewBase64 = shownPreview maxBytes bytes := by
  unfold BodySummary.of shownPreview
  dsimp only
  split_ifs with hnil
  · rfl
  · have htake : bytes.take (min bytes.length maxBytes) = bytes.take maxBytes := by
      rw [List.take_eq_take_iff]
      omega
    rw [h.base64, decodePreview_encode, htake]

/-- A body of text is shown up to the character that the limit cuts. -/
theorem shownPreview_utf8 (maxBytes : ℕ) {cs : List Char} (hcs : cs ≠ []) :
    shownPreview maxBytes (Text.utf8 cs) = String.ofList (Utf8.fitting maxBytes cs ++
      if (Text.utf8 (Utf8.fitting maxBytes cs)).length = min maxBytes (Text.utf8 cs).length then []
      else [Utf8.replacement]) := by
  have hne : Text.utf8 cs ≠ [] := by
    obtain ⟨b, rest, hb, -⟩ := Utf8.exists_cons_utf8 hcs
    rw [hb]
    exact List.cons_ne_nil b rest
  unfold shownPreview
  rw [if_neg hne, Utf8.fromUtf8Lossy_take]

theorem shownPreview_whole {maxBytes : ℕ} {cs : List Char} (hcs : cs ≠ [])
    (h : (Text.utf8 cs).length ≤ maxBytes) : shownPreview maxBytes (Text.utf8 cs) = String.ofList cs := by
  have hne : Text.utf8 cs ≠ [] := by
    obtain ⟨b, rest, hb, -⟩ := Utf8.exists_cons_utf8 hcs
    rw [hb]
    exact List.cons_ne_nil b rest
  unfold shownPreview
  rw [if_neg hne, List.take_of_length_le h, Utf8.fromUtf8Lossy_utf8]

/-! ### The page of a logged event -/

section Page

open Exchange

variable [Net] [Glob] [Digest] {svc : ProxyService} {req : Request Body}
  {startedAt now : OffsetDateTime} {eventId connectionId : Uuid} {as : List ExchangeAction}
  {e : Exchange} {row : ActiveModel}

/-- **The JSON shown is the JSON recorded**: for the event of every run of an exchange, the page shows the
headers and cookies as the stored JSON values, indented, which read back as the same; where no JSON is
stored, it shows an empty object. -/
theorem detail_keeps_json (hrun : run step (init svc req startedAt eventId connectionId now) as = some e)
    {event : ProxyEvent} (hevent : event ∈ e.shared.sent) (hrow : eventToActiveModel event = .ok row) :
    ∃ requestHeaders responseHeaders requestCookies responseSetCookie,
      (EventDetail.ofRow row).textBlocks =
        [("Request headers", requestHeaders), ("Response headers", responseHeaders),
          ("Request body preview", (EventDetail.ofRow row).requestBodyPreview),
          ("Response body preview", (EventDetail.ofRow row).responseBodyPreview),
          ("Request cookies", requestCookies), ("Response set-cookie", responseSetCookie)] ∧
      Indented event.requestHeadersJson requestHeaders ∧
      ShowsJson event.responseHeadersJson responseHeaders ∧
      ShowsJson event.requestCookiesJson requestCookies ∧
      ShowsJson event.responseSetCookieJson responseSetCookie := by
  obtain ⟨outcome, endedAt, rb, sb, hbuild, -⟩ := (story_run hrun).told event hevent
  have hlogs : event.LogsJson := by
    rw [hbuild]
    exact outcome.logsJson svc.cfg req startedAt endedAt eventId connectionId rb sb
  obtain ⟨hheaders, hresponse, hcookies, hset, -, -⟩ := stored_columns hrow
  refine ⟨_, _, _, _, rfl, ?_, ?_, ?_, ?_⟩
  · show Indented _ (prettifyJson row.requestHeadersJson)
    rw [hheaders]
    exact hlogs.requestHeaders.indented
  · show ShowsJson _ ((row.responseHeadersJson.map prettifyJson).getD _)
    rw [hresponse]
    exact showsJson_option hlogs.responseHeaders
  · show ShowsJson _ ((row.requestCookiesJson.map prettifyJson).getD _)
    rw [hcookies]
    exact showsJson_option hlogs.requestCookies
  · show ShowsJson _ ((row.responseSetCookieJson.map prettifyJson).getD _)
    rw [hset]
    exact showsJson_option hlogs.responseSetCookie

/-- **The bodies shown are the bodies seen**: for the event of every run of an exchange, the page shows of
each direction the bytes handed out until the event was built, up to the limit; a body of text is shown
whole if it fits, and else up to the character that the limit cuts, which is shown as U+FFFD. -/
theorem detail_shows_bodies (hdigest : Digest.Standard) (hpos : 0 < svc.cfg.bodyMaxBytes)
    (hrun : run step (init svc req startedAt eventId connectionId now) as = some e)
    {event : ProxyEvent} (hevent : event ∈ e.shared.sent) (hrow : eventToActiveModel event = .ok row) :
    ∃ bs, BuiltAfter (init svc req startedAt eventId connectionId now) as bs event ∧ ∀ d bytes,
      bytes = gathered step (handed d) (init svc req startedAt eventId connectionId now) bs →
      (EventDetail.ofRow row).preview d = shownPreview svc.cfg.bodyMaxBytes bytes ∧
      ∀ cs, cs ≠ [] → bytes = Text.utf8 cs →
        ((Text.utf8 cs).length ≤ svc.cfg.bodyMaxBytes →
          (EventDetail.ofRow row).preview d = String.ofList cs) ∧
        (EventDetail.ofRow row).preview d = String.ofList (Utf8.fitting svc.cfg.bodyMaxBytes cs ++
          if (Text.utf8 (Utf8.fitting svc.cfg.bodyMaxBytes cs)).length =
            min svc.cfg.bodyMaxBytes (Text.utf8 cs).length then [] else [Utf8.replacement]) := by
  obtain ⟨bs, hbuilt, hsummary⟩ := built_summary hpos hrun hevent
  obtain ⟨-, -, -, -, hrequest, hresponse⟩ := stored_columns hrow
  have hshown : ∀ d, (EventDetail.ofRow row).preview d = shownPreview svc.cfg.bodyMaxBytes
      (gathered step (handed d) (init svc req startedAt eventId connectionId now) bs) := by
    intro d
    rw [← decodePreview_summary hdigest, ← hsummary d]
    cases d with
    | request => exact congrArg decodePreview hrequest
    | response => exact congrArg decodePreview hresponse
  refine ⟨bs, hbuilt, ?_⟩
  rintro d _ rfl
  refine ⟨hshown d, fun cs hcs htext => ⟨fun hfits => ?_, ?_⟩⟩
  · rw [hshown d, htext]
    exact shownPreview_whole hcs hfits
  · rw [hshown d, htext]
    exact shownPreview_utf8 _ hcs

end Page

/-- The upload, read in base64 by the standard engine. -/
@[reducible] def standardDigest : Digest :=
  { uploadDigest with base64 := fun bytes => String.ofList (Base64.encode bytes) }

theorem detail_keeps_json_sample : ∃ e event row shown, sampleRun sampleConfig sampleRead = some e ∧
    e.shared.sent = [event] ∧ eventToActiveModel event = .ok row ∧
    ("Request headers", shown) ∈ (EventDetail.ofRow row).textBlocks ∧
    Indented event.requestHeadersJson shown := by
  obtain ⟨e, event, row, hrun, hsent, hrow⟩ : ∃ e event row, sampleRun sampleConfig sampleRead = some e ∧
      e.shared.sent = [event] ∧ eventToActiveModel event = .ok row := ⟨_, _, _, rfl, rfl, rfl⟩
  obtain ⟨requestHeaders, _, _, _, hblocks, hshown, -⟩ :=
    @detail_keeps_json sampleNet sampleGlob sampleDigest _ _ _ _ _ _ _ _ _ hrun event
      (by rw [hsent]; exact List.mem_singleton.mpr rfl) hrow
  refine ⟨e, event, row, requestHeaders, hrun, hsent, hrow, ?_, hshown⟩
  rw [hblocks]
  exact List.mem_cons_self

theorem detail_shows_bodies_sample : ∃ e event row bs,
    run (@Exchange.step sampleGlob standardDigest) uploadInit readFirst = some e ∧ e.shared.sent = [event] ∧
      eventToActiveModel event = .ok row ∧
      @Exchange.BuiltAfter sampleGlob standardDigest uploadInit readFirst bs event ∧
      (EventDetail.ofRow row).preview .request = shownPreview sampleConfig.bodyMaxBytes
        (gathered (@Exchange.step sampleGlob standardDigest) (@Exchange.handed standardDigest .request)
          uploadInit bs) := by
  obtain ⟨e, event, row, hrun, hsent, hrow⟩ : ∃ e event row,
      run (@Exchange.step sampleGlob standardDigest) uploadInit readFirst = some e ∧
        e.shared.sent = [event] ∧ eventToActiveModel event = .ok row := ⟨_, _, _, rfl, rfl, rfl⟩
  obtain ⟨bs, hbuilt, hshows⟩ := @detail_shows_bodies sampleNet sampleGlob standardDigest ⟨sampleConfig⟩
    sampleUpload sampleTime sampleTime ⟨1⟩ ⟨2⟩ readFirst e row
    (@Digest.Standard.mk standardDigest fun _ => rfl)
    (by decide) hrun event (by rw [hsent]; exact List.mem_singleton.mpr rfl) hrow
  exact ⟨e, event, row, bs, hrun, hsent, hrow, hbuilt, (hshows .request _ rfl).1⟩

end KidProxy
