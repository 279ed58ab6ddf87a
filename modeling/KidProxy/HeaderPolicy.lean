import KidProxy.Exchange
import KidProxy.Lib.JsonText

/-!
# HeaderPolicy — what the header lists of the configuration do

The lists decide which headers the logged JSON objects name, and nothing else in an exchange depends on
them: `runs_differ_in_headers_only` compares two runs of one exchange under two policies.
-/

namespace KidProxy

/-! ### The logged object -/

/-- The policy of the lists of a configuration. -/
def loggingPolicy (allowlist denylist : List String) : HeaderLogPolicy :=
  ⟨normalizeHeaderNames allowlist, normalizeHeaderNames denylist⟩

/-- The list names the header, up to white space around the name and the case of its letters. -/
def ListsHeader (names : List String) (key : String) : Prop :=
  ∃ name ∈ names, Text.asciiLower (Text.trim name.toList) = Text.asciiLower key.toList

/-- A header is logged if the allowlist names it or, where that names nothing, the denylist does not. -/
def LogsHeader (allowlist denylist : List String) (key : String) : Prop :=
  ((∃ name ∈ allowlist, Text.trim name.toList ≠ []) → ListsHeader allowlist key) ∧
    ((∀ name ∈ allowlist, Text.trim name.toList = []) → ¬ ListsHeader denylist key)

theorem mem_normalizeHeaderNames {names : List String} {key : String} :
    key ∈ normalizeHeaderNames names ↔ key.toList ≠ [] ∧
      ∃ name ∈ names, Text.asciiLower (Text.trim name.toList) = key.toList := by
  unfold normalizeHeaderNames
  rw [List.mem_filter, List.mem_map, Bool.not_eq_true', and_comm]
  refine and_congr ?_ (exists_congr fun name => and_congr_right fun _ => ?_)
  · rw [Bool.eq_false_iff, ne_eq, String.isEmpty_iff, String.ext_iff]
    rfl
  · rw [String.ext_iff, String.toList_ofList]

theorem normalizeHeaderNames_eq_nil {names : List String} :
    normalizeHeaderNames names = [] ↔ ∀ name ∈ names, Text.trim name.toList = [] := by
  rw [List.eq_nil_iff_forall_not_mem]
  constructor
  · intro h name hname
    by_contra hne
    refine h (String.ofList (Text.asciiLower (Text.trim name.toList))) (mem_normalizeHeaderNames.mpr ?_)
    rw [String.toList_ofList]
    exact ⟨fun hnil => hne (List.map_eq_nil_iff.mp hnil), name, hname, rfl⟩
  · intro h key hkey
    obtain ⟨hne, name, hname, heq⟩ := mem_normalizeHeaderNames.mp hkey
    rw [h name hname] at heq
    exact hne heq.symm

/-- The compiled policy allows what the lists say. -/
theorem allows_loggingPolicy (allowlist denylist : List String) {key : String} (hkey : key.toList ≠ []) :
    (loggingPolicy allowlist denylist).allows key = true ↔ LogsHeader allowlist denylist key := by
  have hcontains : ∀ names : List String,
      (normalizeHeaderNames names).contains (String.ofList (Text.asciiLower key.toList)) = true ↔
        ListsHeader names key := by
    intro names
    rw [List.contains_iff_mem, mem_normalizeHeaderNames, String.toList_ofList]
    exact and_iff_right fun hnil => hkey (List.map_eq_nil_iff.mp hnil)
  unfold HeaderLogPolicy.allows loggingPolicy LogsHeader
  dsimp only
  by_cases hempty : normalizeHeaderNames allowlist = []
  · have hblank := normalizeHeaderNames_eq_nil.mp hempty
    rw [hempty]
    show (!(normalizeHeaderNames denylist).contains _) = true ↔ _
    rw [Bool.not_eq_true', Bool.eq_false_iff, ne_eq, hcontains]
    refine ⟨fun h => ⟨?_, fun _ => h⟩, fun h => h.2 hblank⟩
    rintro ⟨name, hname, hne⟩
    exact absurd (hblank name hname) hne
  · have hnamed : ∃ name ∈ allowlist, Text.trim name.toList ≠ [] := by
      by_contra hnone
      push Not at hnone
      exact hempty (normalizeHeaderNames_eq_nil.mpr hnone)
    have hfalse : (normalizeHeaderNames allowlist).isEmpty = false := by
      rw [Bool.eq_false_iff, ne_eq, List.isEmpty_iff]
      exact hempty
    rw [hfalse, Bool.not_false, if_pos rfl, hcontains]
    refine ⟨fun h => ⟨fun _ => h, fun hblank => ?_⟩, fun h => h.1 hnamed⟩
    obtain ⟨name, hname, hne⟩ := hnamed
    exact absurd (hblank name hname) hne

namespace HeaderName

theorem toLower_of_isNameChar {c : Char} (h : isNameChar c = true) : c.toLower = c := by
  have hlist : ("!#$%&'*+-.^_`|~".toList.all fun d => d.toNat < 65 || 90 < d.toNat) = true := by decide
  have hrange : c.toNat < 65 ∨ 90 < c.toNat := by
    unfold isNameChar at h
    rw [Bool.or_eq_true, Bool.or_eq_true, Bool.and_eq_true, Bool.and_eq_true, decide_eq_true_iff,
      decide_eq_true_iff, decide_eq_true_iff, decide_eq_true_iff, List.contains_iff_mem] at h
    rcases h with (⟨hlow, -⟩ | ⟨-, hhigh⟩) | hmem
    · have hlow : 97 ≤ c.toNat := hlow
      exact .inr (by omega)
    · have hhigh : c.toNat ≤ 57 := hhigh
      exact .inl (by omega)
    · have hmark := List.all_eq_true.mp hlist c hmem
      rw [Bool.or_eq_true, decide_eq_true_iff, decide_eq_true_iff] at hmark
      exact hmark
  refine Char.toNat_inj.mp ?_
  rw [Text.toNat_toLower, if_neg (by omega)]

theorem asciiLower_text (name : HeaderName) : Text.asciiLower name.text.toList = name.text.toList := by
  have hvalid := List.all_eq_true.mp (Bool.and_eq_true_iff.mp name.valid).2
  unfold Text.asciiLower
  exact (List.map_congr_left fun c hc => toLower_of_isNameChar (hvalid c hc)).trans (List.map_id _)

theorem text_ne_nil (name : HeaderName) : name.text.toList ≠ [] := by
  have hvalid := (Bool.and_eq_true_iff.mp name.valid).1
  rw [Bool.not_eq_true', Bool.eq_false_iff, ne_eq, List.isEmpty_iff] at hvalid
  exact hvalid

theorem text_injective {a b : HeaderName} (h : a.text = b.text) : a = b := by
  cases a
  cases b
  cases h
  rfl

end HeaderName

/-- The headers that are logged, under their lower-cased names. -/
def loggedEntries (headers : HeaderMap) (policy : HeaderLogPolicy) : List (String × String) :=
  (headers.entries.filter fun e => policy.allows e.1.text).map fun e => (e.1.text, stringifyHeaderValue e.2)

theorem serializeHeaders_eq (headers : HeaderMap) (policy : HeaderLogPolicy) :
    serializeHeaders headers policy = (Json.obj
      ((SortedMap.group (loggedEntries headers policy) SortedMap.empty).entries.map fun e =>
        (e.1, .arr (e.2.map .str)))).text := by
  have hname : ∀ name : HeaderName, String.ofList (Text.asciiLower name.text.toList) = name.text :=
    fun name => by
    rw [name.asciiLower_text, String.ofList_toList]
  unfold serializeHeaders SortedMap.group loggedEntries
  rw [List.foldl_map, List.foldl_filter]
  simp only [hname]

theorem mem_keys_loggedEntries {headers : HeaderMap} {policy : HeaderLogPolicy} {key : String} :
    key ∈ (loggedEntries headers policy).map Prod.fst ↔
      ∃ name : HeaderName, name.text = key ∧ headers.getAll name ≠ [] ∧ policy.allows key = true := by
  unfold loggedEntries
  rw [List.map_map, List.mem_map]
  constructor
  · rintro ⟨e, he, rfl⟩
    obtain ⟨hmem, hallows⟩ := List.mem_filter.mp he
    refine ⟨e.1, rfl, fun hnil => ?_, hallows⟩
    have hnone := List.filter_eq_nil_iff.mp (List.map_eq_nil_iff.mp hnil) e hmem
    exact hnone (decide_eq_true rfl)
  · rintro ⟨name, rfl, hvalues, hallows⟩
    obtain ⟨e, he⟩ := List.exists_mem_of_ne_nil _ (mt List.map_eq_nil_iff.mpr hvalues)
    obtain ⟨hmem, hkey⟩ := List.mem_filter.mp he
    obtain rfl := of_decide_eq_true hkey
    exact ⟨e, List.mem_filter.mpr ⟨hmem, hallows⟩, rfl⟩

/-- The values of a logged header, in order. -/
theorem values_loggedEntries (headers : HeaderMap) {policy : HeaderLogPolicy} {name : HeaderName}
    (h : policy.allows name.text = true) :
    ((loggedEntries headers policy).filter fun e => e.1 = name.text).map Prod.snd =
      (headers.getAll name).map stringifyHeaderValue := by
  unfold loggedEntries MultiMap.getAll
  rw [List.filter_map, List.map_map, List.map_map, List.filter_filter]
  congr 1
  refine List.filter_congr fun e _ => ?_
  rw [Bool.eq_iff_iff, Bool.and_eq_true, decide_eq_true_iff]
  constructor
  · rintro ⟨htext, -⟩
    exact HeaderName.text_injective (of_decide_eq_true htext)
  · rintro rfl
    exact ⟨decide_eq_true rfl, h⟩

/-- **The logged object** has one key for each header that the lists log, with the values of that
header in order. -/
theorem serializeHeaders_exact (headers : HeaderMap) (allowlist denylist : List String) :
    ∃ members, Json.parse (serializeHeaders headers (loggingPolicy allowlist denylist)).toList =
        some (.obj members) ∧
      (members.map Prod.fst).Nodup ∧
      ∀ key value, (key, value) ∈ members ↔ ∃ name : HeaderName, name.text = key ∧
        headers.getAll name ≠ [] ∧ LogsHeader allowlist denylist key ∧
        value = .arr ((headers.getAll name).map fun v => .str (stringifyHeaderValue v)) := by
  rw [serializeHeaders_eq]
  refine ⟨_, Json.parse_text _, ?_, fun key value => ?_⟩
  · rw [List.map_map]
    exact SortedMap.nodup_keys _
  · rw [List.mem_map]
    constructor
    · rintro ⟨⟨_, values⟩, hmem, heq⟩
      obtain ⟨rfl, rfl⟩ := Prod.mk.inj heq
      obtain ⟨hkey, rfl⟩ := SortedMap.mem_group_empty.mp hmem
      obtain ⟨name, rfl, hvalues, hallows⟩ := mem_keys_loggedEntries.mp hkey
      refine ⟨name, rfl, hvalues, (allows_loggingPolicy _ _ name.text_ne_nil).mp hallows, ?_⟩
      rw [values_loggedEntries headers hallows, List.map_map]
      rfl
    · rintro ⟨name, rfl, hvalues, hlogs, rfl⟩
      have hallows := (allows_loggingPolicy _ _ name.text_ne_nil).mpr hlogs
      refine ⟨(name.text, _), SortedMap.mem_group_empty.mpr
        ⟨mem_keys_loggedEntries.mpr ⟨name, rfl, hvalues, hallows⟩, rfl⟩, ?_⟩
      rw [values_loggedEntries headers hallows, List.map_map]
      rfl

/-! ### What the policy leaves alone -/

def ProxyEvent.withoutHeaders (event : ProxyEvent) : ProxyEvent :=
  { event with requestHeadersJson := "", responseHeadersJson := none }

def ExchangeCapture.withoutHeaders (c : ExchangeCapture) : ExchangeCapture :=
  { c with requestHeadersJson := "", responseHeadersJson := none }

def RuntimeConfig.withPolicy (cfg : RuntimeConfig) (policy : HeaderLogPolicy) : RuntimeConfig :=
  { cfg with headerLogPolicy := policy }

namespace SharedExchangeCapture

/-- The capture and its events without the header objects. -/
def withoutHeaders (x : SharedExchangeCapture) : SharedExchangeCapture :=
  ⟨x.guard.withoutHeaders, x.sent.map ProxyEvent.withoutHeaders⟩

variable (x : SharedExchangeCapture)

@[simp] theorem withoutHeaders_withoutHeaders : x.withoutHeaders.withoutHeaders = x.withoutHeaders := by
  unfold withoutHeaders
  rw [List.map_map]
  rfl

theorem setBodyError_withoutHeaders (error : ErrorInfo) :
    x.withoutHeaders.setBodyError error = (x.setBodyError error).withoutHeaders := by
  have herror : x.withoutHeaders.guard.error = x.guard.error := rfl
  unfold setBodyError
  rw [herror]
  cases x.guard.error <;> rfl

theorem setUpstreamResponse_withoutHeaders {B : Type} (cfg : RuntimeConfig) (policy : HeaderLogPolicy)
    (resp : Response B) (startedAt : OffsetDateTime) :
    (x.withoutHeaders.setUpstreamResponse (cfg.withPolicy policy) resp startedAt).withoutHeaders =
      (x.setUpstreamResponse cfg resp startedAt).withoutHeaders := by
  have hsent : (x.sent.map ProxyEvent.withoutHeaders).map ProxyEvent.withoutHeaders =
      x.sent.map ProxyEvent.withoutHeaders := by
    rw [List.map_map]
    rfl
  exact congrArg (SharedExchangeCapture.mk _) hsent

variable [Digest]

theorem finalizeAndSend_withoutHeaders (now : OffsetDateTime) :
    x.withoutHeaders.finalizeAndSend now = (x.finalizeAndSend now).withoutHeaders := by
  have hfinalized : x.withoutHeaders.guard.finalized = x.guard.finalized := rfl
  unfold finalizeAndSend
  rw [hfinalized]
  split_ifs
  · rfl
  · unfold withoutHeaders
    dsimp only
    rw [List.map_append]
    rfl

theorem finalizeWithBodyError_withoutHeaders (error : ErrorInfo) (now : OffsetDateTime) :
    x.withoutHeaders.finalizeWithBodyErrorAndSend error now =
      (x.finalizeWithBodyErrorAndSend error now).withoutHeaders := by
  unfold finalizeWithBodyErrorAndSend
  rw [setBodyError_withoutHeaders, finalizeAndSend_withoutHeaders]

end SharedExchangeCapture

namespace ObservedBody

variable [Digest] (body : ObservedBody Body) (x : SharedExchangeCapture)

theorem pollFrame_withoutHeaders (now : OffsetDateTime) : body.pollFrame x.withoutHeaders now =
    ((body.pollFrame x now).1, (body.pollFrame x now).2.1, (body.pollFrame x now).2.2.withoutHeaders) := by
  unfold pollFrame
  rcases StreamingBody.pollFrame body.inner with ⟨_ | frame | err | _, inner⟩
  · rfl
  · dsimp only
    cases frame.dataRef with
    | none => rfl
    | some chunk => cases body.direction <;> rfl
  · dsimp only
    split_ifs
    · rw [x.finalizeWithBodyError_withoutHeaders]
    · rfl
  · dsimp only
    split_ifs
    · rw [x.finalizeAndSend_withoutHeaders]
    · rfl

theorem drop_withoutHeaders (now : OffsetDateTime) :
    body.drop x.withoutHeaders now = (body.drop x now).withoutHeaders := by
  unfold drop
  split_ifs
  · exact x.finalizeAndSend_withoutHeaders now
  · exact x.finalizeWithBodyError_withoutHeaders _ now
  · rfl

end ObservedBody

namespace ProxyService

/-- The service under another policy. -/
def withPolicy (svc : ProxyService) (policy : HeaderLogPolicy) : ProxyService := ⟨svc.cfg.withPolicy policy⟩

variable [Net] [Glob] [Digest] (svc : ProxyService) (policy : HeaderLogPolicy) (x : SharedExchangeCapture)

omit [Net] [Glob] in
theorem answerError_withoutHeaders (status : StatusCode) (message : String) (now : OffsetDateTime) :
    answerError x.withoutHeaders status message now =
      ((answerError x status message now).1.withoutHeaders, (answerError x status message now).2) := by
  unfold answerError
  rw [x.finalizeAndSend_withoutHeaders]

omit [Net] [Glob] in
theorem badGateway_withoutHeaders (error : ErrorInfo) (now : OffsetDateTime) :
    badGateway x.withoutHeaders error now =
      ((badGateway x error now).1.withoutHeaders, (badGateway x error now).2) :=
  answerError_withoutHeaders (x.setUpstreamError error) _ _ _

/-- The first part of `handle` does not look at the policy. -/
theorem start_withoutHeaders (req : Request Body) (now : OffsetDateTime) :
    (svc.withPolicy policy).start req x.withoutHeaders now =
      ((svc.start req x now).1.withoutHeaders, (svc.start req x now).2) := by
  have hdomain : (svc.withPolicy policy).cfg.frontendDomain = svc.cfg.frontendDomain := rfl
  have htransforms : (svc.withPolicy policy).cfg.transforms = svc.cfg.transforms := rfl
  have huri : (svc.withPolicy policy).cfg.buildBackendUri = svc.cfg.buildBackendUri := rfl
  unfold start
  rw [hdomain, htransforms, huri]
  split_ifs
  · exact congrArg (fun r => (r.1, r.2, none)) (answerError_withoutHeaders (x.setRejection _ _) _ _ now)
  · dsimp only
    cases svc.cfg.buildBackendUri (req.uri.path.getD "/") req.uri.query with
    | error err =>
      exact congrArg (fun r => (r.1, r.2, none)) (answerError_withoutHeaders (x.setRejection _ _) _ _ now)
    | ok uri => rfl

omit [Net] [Glob] in
theorem badGateway_erased (error : ErrorInfo) (now : OffsetDateTime) :
    Prod.map SharedExchangeCapture.withoutHeaders id (badGateway x.withoutHeaders error now) =
      Prod.map SharedExchangeCapture.withoutHeaders id (badGateway x error now) := by
  rw [badGateway_withoutHeaders]
  exact congrArg (·, _) (badGateway x error now).1.withoutHeaders_withoutHeaders

omit [Net] in
/-- Neither does the part after the upstream call, but for the header object of the response. -/
theorem onUpstream_withoutHeaders (requestUrl : String) (outcome : UpstreamOutcome)
    (startedAt now : OffsetDateTime) :
    Prod.map SharedExchangeCapture.withoutHeaders id
        ((svc.withPolicy policy).onUpstream requestUrl outcome startedAt now x.withoutHeaders) =
      Prod.map SharedExchangeCapture.withoutHeaders id
        (svc.onUpstream requestUrl outcome startedAt now x) := by
  have htransforms : (svc.withPolicy policy).cfg.transforms = svc.cfg.transforms := rfl
  cases outcome with
  | error text => exact badGateway_erased x _ now
  | timeout =>
    show Prod.map _ id (answerError (x.setUpstreamError _).withoutHeaders _ _ now) = _
    rw [answerError_withoutHeaders]
    exact congrArg (·, _) (SharedExchangeCapture.withoutHeaders_withoutHeaders _)
  | response response =>
    unfold onUpstream
    dsimp only
    rw [htransforms]
    rcases svc.cfg.transforms.applyUntilBody requestUrl (stripHopByHopHeaders response.headers) with
      ⟨err | ⟨_ | startIndex, headersChanged⟩, headers⟩
    · exact badGateway_erased x _ now
    · exact congrArg (·, _) (x.setUpstreamResponse_withoutHeaders svc.cfg policy _ startedAt)
    · exact congrArg (·, _) x.withoutHeaders_withoutHeaders

omit [Net] in
theorem onCollected_withoutHeaders (requestUrl : String) (response : Response Body) (startIndex : ℕ)
    (startedAt now : OffsetDateTime) (collected : Except String (List UInt8)) :
    Prod.map SharedExchangeCapture.withoutHeaders id ((svc.withPolicy policy).onCollected requestUrl response
        startIndex startedAt now collected x.withoutHeaders) =
      Prod.map SharedExchangeCapture.withoutHeaders id
        (svc.onCollected requestUrl response startIndex startedAt now collected x) := by
  have htransforms : (svc.withPolicy policy).cfg.transforms = svc.cfg.transforms := rfl
  cases collected with
  | error err => exact badGateway_erased x _ now
  | ok bytes =>
    unfold onCollected
    dsimp only
    rw [htransforms]
    rcases svc.cfg.transforms.applyWithBody startIndex requestUrl response.headers bytes with
      ⟨err | outcome, headers, bytes⟩
    · exact badGateway_erased x _ now
    · dsimp only
      cases HeaderValue.fromStr (Nat.toDigits 10 bytes.length) with
      | none => exact badGateway_erased x _ now
      | some contentLength =>
        exact congrArg (·, _) (x.setUpstreamResponse_withoutHeaders svc.cfg policy _ startedAt)

end ProxyService

namespace Exchange

/-- The exchange without the policy and the header objects. -/
def withoutHeaders (e : Exchange) : Exchange :=
  { e with svc := e.svc.withPolicy ⟨[], []⟩, shared := e.shared.withoutHeaders }

theorem goOn_withoutHeaders (e : Exchange) {next next' : SharedExchangeCapture × Handling}
    (h : Prod.map SharedExchangeCapture.withoutHeaders id next' =
      Prod.map SharedExchangeCapture.withoutHeaders id next) :
    (e.withoutHeaders.goOn next').withoutHeaders = (e.goOn next).withoutHeaders := by
  obtain ⟨shared, handling⟩ := next
  obtain ⟨shared', handling'⟩ := next'
  obtain ⟨hshared, hhandling⟩ := Prod.mk.inj h
  obtain rfl : handling' = handling := hhandling
  exact congrArg (Exchange.mk _ · _ _ _ _ _) hshared

variable [Digest]

theorem pollResponse_withoutHeaders (e : Exchange) (response : Response ServedBody) (now : OffsetDateTime) :
    (e.withoutHeaders.pollResponse response now).withoutHeaders =
      (e.pollResponse response now).withoutHeaders := by
  obtain ⟨status, version, headers, body⟩ := response
  cases body with
  | generated body => exact congrArg (Exchange.mk _ · _ _ _ _ _) e.shared.withoutHeaders_withoutHeaders
  | observed body =>
    have hpoll := body.pollFrame_withoutHeaders e.shared now
    unfold pollResponse
    show withoutHeaders
      { e.withoutHeaders.serve _ (.observed (body.pollFrame e.shared.withoutHeaders now).2.1) with
      shared := (body.pollFrame e.shared.withoutHeaders now).2.2
      polls := ((body.pollFrame e.shared.withoutHeaders now).1,
        (body.pollFrame e.shared.withoutHeaders now).2.1.isEndStream) :: e.polls } = _
    rw [hpoll]
    exact congrArg (Exchange.mk _ · _ _ _ _ _) (SharedExchangeCapture.withoutHeaders_withoutHeaders _)

theorem dropResponse_withoutHeaders (e : Exchange) (response : Response ServedBody) (now : OffsetDateTime) :
    (e.withoutHeaders.dropResponse response now).withoutHeaders =
      (e.dropResponse response now).withoutHeaders := by
  obtain ⟨status, version, headers, body⟩ := response
  cases body with
  | generated body => exact congrArg (Exchange.mk _ · _ _ _ _ _) e.shared.withoutHeaders_withoutHeaders
  | observed body =>
    have hdrop := body.drop_withoutHeaders e.shared now
    refine congrArg (Exchange.mk _ · _ _ _ _ _) ?_
    show (body.drop e.shared.withoutHeaders now).withoutHeaders = (body.drop e.shared now).withoutHeaders
    rw [hdrop, SharedExchangeCapture.withoutHeaders_withoutHeaders]

theorem step_pollRequest_withoutHeaders [Glob] (e : Exchange) (now : OffsetDateTime) :
    (e.withoutHeaders.step (.pollRequest now)).map withoutHeaders =
      (e.step (.pollRequest now)).map withoutHeaders := by
  have hbody : e.withoutHeaders.requestBody = e.requestBody := rfl
  simp only [step]
  rw [hbody]
  cases e.requestBody with
  | none => rfl
  | some body =>
    have hpoll := body.pollFrame_withoutHeaders e.shared now
    show some (withoutHeaders { e.withoutHeaders with
      requestBody := some (body.pollFrame e.shared.withoutHeaders now).2.1
      shared := (body.pollFrame e.shared.withoutHeaders now).2.2 }) = _
    rw [hpoll]
    exact congrArg (fun shared => some (Exchange.mk _ shared _ _ _ _ _))
      (SharedExchangeCapture.withoutHeaders_withoutHeaders _)

theorem step_dropRequest_withoutHeaders [Glob] (e : Exchange) (now : OffsetDateTime) :
    (e.withoutHeaders.step (.dropRequest now)).map withoutHeaders =
      (e.step (.dropRequest now)).map withoutHeaders := by
  have hbody : e.withoutHeaders.requestBody = e.requestBody := rfl
  simp only [step]
  rw [hbody]
  cases e.requestBody with
  | none => rfl
  | some body =>
    have hdrop := body.drop_withoutHeaders e.shared now
    refine congrArg (fun shared => some (Exchange.mk _ shared _ _ _ _ _)) ?_
    show (body.drop e.shared.withoutHeaders now).withoutHeaders = (body.drop e.shared now).withoutHeaders
    rw [hdrop, SharedExchangeCapture.withoutHeaders_withoutHeaders]

variable [Glob]

/-- **Step**: what an action does apart from the header objects does not depend on the policy. -/
theorem step_withoutHeaders (e : Exchange) (a : ExchangeAction) :
    (e.withoutHeaders.step a).map withoutHeaders = (e.step a).map withoutHeaders := by
  have hstage : e.withoutHeaders.stage = e.stage := rfl
  have htwice := e.shared.withoutHeaders_withoutHeaders
  cases a with
  | pollRequest now => exact e.step_pollRequest_withoutHeaders now
  | dropRequest now => exact e.step_dropRequest_withoutHeaders now
  | upstream outcome startedAt now =>
    simp only [step]
    rw [hstage]
    split
    · exact congrArg some
        (e.goOn_withoutHeaders (e.svc.onUpstream_withoutHeaders _ e.shared _ outcome startedAt now))
    · rfl
  | collected now =>
    simp only [step]
    rw [hstage]
    split
    · exact congrArg some
        (e.goOn_withoutHeaders (e.svc.onCollected_withoutHeaders _ e.shared _ _ _ _ now _))
    · rfl
  | cancel =>
    simp only [step]
    rw [hstage]
    split
    · exact congrArg (fun shared => some (Exchange.mk _ shared _ _ _ _ _)) htwice
    · exact congrArg (fun shared => some (Exchange.mk _ shared _ _ _ _ _)) htwice
    · rfl
  | pollResponse now =>
    simp only [step]
    rw [hstage]
    split
    · exact congrArg some (e.pollResponse_withoutHeaders _ now)
    · rfl
  | advance inner =>
    simp only [step]
    rw [hstage]
    split
    · split
      · exact congrArg (fun shared => some (Exchange.mk _ shared _ _ _ _ _)) htwice
      · rfl
    · rfl
  | dropResponse now =>
    simp only [step]
    rw [hstage]
    split
    · exact congrArg some (e.dropResponse_withoutHeaders _ now)
    · rfl

/-- **Run**: so neither does what a run does. -/
theorem run_withoutHeaders {e f : Exchange} (h : e.withoutHeaders = f.withoutHeaders)
    (as : List ExchangeAction) :
    (Transition.run step e as).map withoutHeaders = (Transition.run step f as).map withoutHeaders := by
  refine Transition.run_erased (fun s t a hst => ?_) h as
  rw [← step_withoutHeaders s, hst, step_withoutHeaders t]

/-- The two exchanges differ in the policy and the logged header objects only. -/
structure SameButHeaders (e f : Exchange) : Prop where
  requestBody : f.requestBody = e.requestBody
  stage : f.stage = e.stage
  called : f.called = e.called
  answer : f.answer = e.answer
  polls : f.polls = e.polls
  guard : f.shared.guard = { e.shared.guard with
    requestHeadersJson := f.shared.guard.requestHeadersJson
    responseHeadersJson := f.shared.guard.responseHeadersJson }
  sent : List.Forall₂ (fun a b : ProxyEvent => b = { a with
    requestHeadersJson := b.requestHeadersJson
    responseHeadersJson := b.responseHeadersJson }) e.shared.sent f.shared.sent

omit [Digest] [Glob] in
theorem sameButHeaders_of_eq {e f : Exchange} (h : e.withoutHeaders = f.withoutHeaders) :
    SameButHeaders e f := by
  have hguard : e.shared.guard.withoutHeaders = f.shared.guard.withoutHeaders :=
    congrArg (fun e => e.shared.guard) h
  have hsent : e.shared.sent.map ProxyEvent.withoutHeaders = f.shared.sent.map ProxyEvent.withoutHeaders :=
    congrArg (fun e => e.shared.sent) h
  have hevents : List.Forall₂ (fun a b : ProxyEvent => a.withoutHeaders = b.withoutHeaders)
      e.shared.sent f.shared.sent := by
    have heq : List.Forall₂ Eq (e.shared.sent.map ProxyEvent.withoutHeaders)
        (f.shared.sent.map ProxyEvent.withoutHeaders) := by
      rw [hsent]
      exact List.forall₂_refl _
    rw [List.forall₂_map_left_iff, List.forall₂_map_right_iff] at heq
    exact heq
  refine
    { requestBody := (congrArg Exchange.requestBody h).symm
      stage := (congrArg Exchange.stage h).symm
      called := (congrArg Exchange.called h).symm
      answer := (congrArg Exchange.answer h).symm
      polls := (congrArg Exchange.polls h).symm
      guard := ?_
      sent := hevents.imp fun a b hab => ?_ }
  · calc f.shared.guard = { f.shared.guard.withoutHeaders with
          requestHeadersJson := f.shared.guard.requestHeadersJson
          responseHeadersJson := f.shared.guard.responseHeadersJson } := rfl
      _ = { e.shared.guard.withoutHeaders with
          requestHeadersJson := f.shared.guard.requestHeadersJson
          responseHeadersJson := f.shared.guard.responseHeadersJson } := by rw [hguard]
  · calc b = { b.withoutHeaders with
          requestHeadersJson := b.requestHeadersJson
          responseHeadersJson := b.responseHeadersJson } := rfl
      _ = { a.withoutHeaders with
          requestHeadersJson := b.requestHeadersJson
          responseHeadersJson := b.responseHeadersJson } := by rw [hab]

variable [Net] (svc : ProxyService) (policy policy' : HeaderLogPolicy) (req : Request Body)
  (startedAt : OffsetDateTime) (eventId connectionId : Uuid) (now : OffsetDateTime)

/-- The first part of `handle` under two policies. -/
theorem start_same :
    Prod.map SharedExchangeCapture.withoutHeaders id ((svc.withPolicy policy).start req
        (.new (svc.cfg.withPolicy policy) req startedAt eventId connectionId) now) =
      Prod.map SharedExchangeCapture.withoutHeaders id ((svc.withPolicy policy').start req
        (.new (svc.cfg.withPolicy policy') req startedAt eventId connectionId) now) := by
  have hnew : (SharedExchangeCapture.new (svc.cfg.withPolicy policy) req startedAt eventId
        connectionId).withoutHeaders =
      (SharedExchangeCapture.new (svc.cfg.withPolicy policy') req startedAt eventId
        connectionId).withoutHeaders := rfl
  have hstart := (svc.withPolicy policy).start_withoutHeaders ⟨[], []⟩
    (.new (svc.cfg.withPolicy policy) req startedAt eventId connectionId) req now
  have hstart' := (svc.withPolicy policy').start_withoutHeaders ⟨[], []⟩
    (.new (svc.cfg.withPolicy policy') req startedAt eventId connectionId) req now
  rw [hnew] at hstart
  exact hstart.symm.trans hstart'

theorem init_withoutHeaders :
    (init (svc.withPolicy policy) req startedAt eventId connectionId now).withoutHeaders =
      (init (svc.withPolicy policy') req startedAt eventId connectionId now).withoutHeaders :=
  congrArg (fun r : SharedExchangeCapture × Handling × Option (Request (ObservedBody Body)) =>
    Exchange.mk (svc.withPolicy ⟨[], []⟩) r.1 (r.2.2.map Request.body) (.running r.2.1)
      r.2.2.isSome r.2.1.answer [])
    (start_same svc policy policy' req startedAt eventId connectionId now)

end Exchange

/-- **The header policy filters the logged objects and nothing else.** -/
theorem header_policy_filters_logs_only [Net] [Glob] [Digest] :
    (∀ headers allowlist denylist, ∃ members,
      Json.parse (serializeHeaders headers (loggingPolicy allowlist denylist)).toList = some (.obj members) ∧
      (members.map Prod.fst).Nodup ∧
      ∀ key value, (key, value) ∈ members ↔ ∃ name : HeaderName, name.text = key ∧
        headers.getAll name ≠ [] ∧ LogsHeader allowlist denylist key ∧
        value = .arr ((headers.getAll name).map fun v => .str (stringifyHeaderValue v))) ∧
    ∀ (svc : ProxyService) (policy policy' : HeaderLogPolicy) (req : Request Body)
      (startedAt : OffsetDateTime)
      (eventId connectionId : Uuid) (now : OffsetDateTime) (as : List ExchangeAction),
      ((svc.withPolicy policy).start req
          (.new (svc.cfg.withPolicy policy) req startedAt eventId connectionId) now).2.2 =
        ((svc.withPolicy policy').start req
          (.new (svc.cfg.withPolicy policy') req startedAt eventId connectionId) now).2.2 ∧
      ∀ e, Transition.run Exchange.step
          (.init (svc.withPolicy policy) req startedAt eventId connectionId now) as = some e →
        ∃ f, Transition.run Exchange.step
          (.init (svc.withPolicy policy') req startedAt eventId connectionId now) as = some f ∧
          e.SameButHeaders f := by
  refine ⟨serializeHeaders_exact, fun svc policy policy' req startedAt eventId connectionId now as =>
    ⟨?_, ?_⟩⟩
  · have hstart := Exchange.start_same svc policy policy' req startedAt eventId connectionId now
    exact congrArg (fun r => r.2.2) hstart
  · intro e he
    have hinit := Exchange.init_withoutHeaders svc policy policy' req startedAt eventId connectionId now
    have hrun := Exchange.run_withoutHeaders hinit as
    rw [he] at hrun
    obtain ⟨f, hf, hsame⟩ := Option.map_eq_some_iff.mp hrun.symm
    exact ⟨f, hf, Exchange.sameButHeaders_of_eq hsame.symm⟩

end KidProxy
