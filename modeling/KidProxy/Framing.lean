import KidProxy.Proxy
import KidProxy.TransformPass

/-!
# Framing — the `Content-Length` of a response

A response is well framed when its `Content-Length` fits its body, and where there is no body, the
representation it stands for.  `handle` removes a `Content-Length` whose headers were rewritten, and
sets one after it buffered the body; `framedAnswer_iff` says exactly when the answer is well framed.
-/

namespace KidProxy

/-! ### Header names under the transforms -/

/-- The same names in the same order. -/
def SameNames (headers headers' : HeaderMap) : Prop :=
  headers'.entries.map Prod.fst = headers.entries.map Prod.fst

theorem getAll_eq_nil_iff {headers : HeaderMap} {name : HeaderName} :
    headers.getAll name = [] ↔ name ∉ headers.entries.map Prod.fst := by
  unfold MultiMap.getAll
  rw [List.map_eq_nil_iff, List.filter_eq_nil_iff]
  simp only [decide_eq_true_eq, List.mem_map, not_exists, not_and]

theorem SameNames.getAll_eq_nil {headers headers' : HeaderMap} {name : HeaderName}
    (h : SameNames headers headers') (hn : headers.getAll name = []) : headers'.getAll name = [] := by
  rw [getAll_eq_nil_iff] at hn ⊢
  rw [h]
  exact hn

theorem TransformRule.rewriteEntries_names {rule : TransformRule} {selector : HeaderName → Bool}
    {entries entries' : List (HeaderName × HeaderValue)} {changed : Bool}
    (h : rule.rewriteEntries selector entries = .ok (entries', changed)) :
    entries'.map Prod.fst = entries.map Prod.fst := by
  induction entries generalizing entries' changed with
  | nil =>
    obtain ⟨rfl, -⟩ := Prod.mk.inj (Except.ok.inj h)
    rfl
  | cons e rest ih =>
    obtain ⟨name, value⟩ := e
    unfold rewriteEntries at h
    cases hr : rule.rewriteEntries selector rest with
    | error err =>
      rw [hr] at h
      split at h
      · split at h
        · cases h
        · split at h <;> cases h
      · cases h
    | ok p =>
      obtain ⟨rest', changed'⟩ := p
      rw [hr] at h
      split at h
      · split at h
        · cases h
        · split at h
          · cases h
          · obtain ⟨rfl, -⟩ := Prod.mk.inj (Except.ok.inj h)
            rw [List.map_cons, List.map_cons, ih hr]
      · obtain ⟨rfl, -⟩ := Prod.mk.inj (Except.ok.inj h)
        rw [List.map_cons, List.map_cons, ih hr]

theorem TransformRule.applySelectedHeaders_names (rule : TransformRule) (headers : HeaderMap)
    (selector : HeaderName → Bool) :
    SameNames headers (rule.applySelectedHeaders headers selector).2 := by
  unfold applySelectedHeaders
  cases hr : rule.rewriteEntries selector headers.entries with
  | error err => rfl
  | ok p =>
    obtain ⟨entries, changed⟩ := p
    cases changed with
    | true =>
      show (List.foldl (fun m e => m.append e.1 e.2) MultiMap.empty entries).entries.map Prod.fst = _
      rw [MultiMap.foldl_append_empty]
      exact rewriteEntries_names hr
    | false => rfl

theorem TransformRule.applyHeaders_names (rule : TransformRule) (headers : HeaderMap) :
    SameNames headers (rule.applyHeaders headers).2 := by
  unfold applyHeaders
  cases rule.target with
  | everything => exact rule.applySelectedHeaders_names headers _
  | body => rfl
  | allHeaders => exact rule.applySelectedHeaders_names headers _
  | header name => exact rule.applySelectedHeaders_names headers _
  | cookies => exact rule.applySelectedHeaders_names headers _

/-- An empty body stays empty. -/
theorem TransformRule.applyBody_nil (rule : TransformRule) : (rule.applyBody []).2 = [] := by
  obtain ⟨matcher, ⟨fromText, toText, nonempty⟩, target, stop⟩ := rule
  simp [applyBody, replaceText]

theorem TransformRule.apply_names (rule : TransformRule) (headers : HeaderMap) (body : List UInt8) :
    SameNames headers (rule.apply headers body).2.1 ∧ (body = [] → (rule.apply headers body).2.2 = []) := by
  have hnames := rule.applyHeaders_names headers
  unfold apply
  rcases hr : rule.applyHeaders headers with ⟨_ | changed, headers'⟩ <;> rw [hr] at hnames
  · exact ⟨hnames, id⟩
  · refine ⟨hnames, fun hb => ?_⟩
    rw [hb]
    cases rule.target with
    | everything => exact rule.applyBody_nil
    | body => exact rule.applyBody_nil
    | allHeaders => rfl
    | header name => rfl
    | cookies => rfl

section Loops

variable [Glob] (requestUrl : String)

theorem TransformConfig.applyUntilBodyFrom_names (rules : List TransformRule) (index : ℕ)
    (changed : Bool) (headers : HeaderMap) :
    SameNames headers (applyUntilBodyFrom requestUrl rules index changed headers).2 := by
  induction rules generalizing index changed headers with
  | nil => rfl
  | cons rule rules ih =>
    unfold applyUntilBodyFrom
    split_ifs with hm hb
    · exact ih (index + 1) changed headers
    · rfl
    · have hnames := rule.applyHeaders_names headers
      rcases hr : rule.applyHeaders headers with ⟨_ | triggered, headers'⟩ <;> rw [hr] at hnames
      · exact hnames
      · dsimp only
        split_ifs with hs
        · exact hnames
        · exact (ih (index + 1) (changed || triggered) headers').trans hnames

theorem TransformConfig.applyWithBodyFrom_names (rules : List TransformRule) (outcome : ApplyOutcome)
    (headers : HeaderMap) (body : List UInt8) :
    SameNames headers (applyWithBodyFrom requestUrl rules outcome headers body).2.1 ∧
      (body = [] → (applyWithBodyFrom requestUrl rules outcome headers body).2.2 = []) := by
  induction rules generalizing outcome headers body with
  | nil => exact ⟨rfl, id⟩
  | cons rule rules ih =>
    unfold applyWithBodyFrom
    split_ifs with hm
    · exact ih outcome headers body
    · obtain ⟨hnames, hnil⟩ := rule.apply_names headers body
      rcases hr : rule.apply headers body with ⟨_ | triggered, headers', body'⟩ <;>
        rw [hr] at hnames hnil
      · exact ⟨hnames, hnil⟩
      · dsimp only
        split_ifs with hs
        · exact ⟨hnames, hnil⟩
        · obtain ⟨hrest, hrest'⟩ := ih _ headers' body'
          exact ⟨hrest.trans hnames, fun hb => hrest' (hnil hb)⟩

end Loops

section Phases

variable [Glob] {url : String} {cfg : TransformConfig} {headers headers' : HeaderMap}

/-- The first phase adds no header. -/
theorem TransformConfig.applyUntilBody_names {plan : Except AnyError PrebufferOutcome}
    (h : cfg.applyUntilBody url headers = (plan, headers')) : SameNames headers headers' := by
  have hnames := applyUntilBodyFrom_names url cfg.transforms 0 false headers
  rwa [show applyUntilBodyFrom url cfg.transforms 0 false headers = _ from h] at hnames

/-- The second phase adds no header either, and leaves an empty body empty. -/
theorem TransformConfig.applyWithBody_names {index : ℕ} {body body' : List UInt8}
    {outcome : Except AnyError ApplyOutcome}
    (h : cfg.applyWithBody index url headers body = (outcome, headers', body')) :
    SameNames headers headers' ∧ (body = [] → body' = []) := by
  have hnames := applyWithBodyFrom_names url (cfg.transforms.drop index) ⟨false, false⟩
    headers body
  rwa [show applyWithBodyFrom url (cfg.transforms.drop index) ⟨false, false⟩ headers body = _
    from h] at hnames

end Phases

/-! ### Header names under the hop-by-hop stripping -/

/-- The values of a name are left alone, or all gone. -/
def KeptOrGone (name : HeaderName) (headers headers' : HeaderMap) : Prop :=
  headers'.getAll name = headers.getAll name ∨ headers'.getAll name = []

theorem keptOrGone_remove (name key : HeaderName) (headers : HeaderMap) :
    KeptOrGone name headers (headers.remove key) := by
  by_cases h : name = key
  · rw [h]
    exact .inr (headers.getAll_remove_self key)
  · exact .inl (headers.getAll_remove_of_ne h)

theorem KeptOrGone.trans {name : HeaderName} {headers headers' headers'' : HeaderMap}
    (h : KeptOrGone name headers headers') (h' : KeptOrGone name headers' headers'') :
    KeptOrGone name headers headers'' := by
  rcases h' with h' | h'
  · rw [KeptOrGone, h']
    exact h
  · exact .inr h'

theorem keptOrGone_foldl {α : Type} {f : HeaderMap → α → HeaderMap} {name : HeaderName}
    (hf : ∀ headers a, KeptOrGone name headers (f headers a)) (as : List α) (headers : HeaderMap) :
    KeptOrGone name headers (as.foldl f headers) := by
  induction as generalizing headers with
  | nil => exact .inl rfl
  | cons a as ih => exact (hf headers a).trans (ih (f headers a))

theorem keptOrGone_strip (name : HeaderName) (headers : HeaderMap) :
    KeptOrGone name headers (stripHopByHopHeaders headers) := by
  refine (keptOrGone_foldl (fun headers token => ?_) (connectionTokens headers) headers).trans
    (keptOrGone_foldl (fun headers key => keptOrGone_remove name key headers) hopByHop _)
  unfold removeToken
  cases HeaderName.fromChars token with
  | none => exact .inl rfl
  | some key => exact keptOrGone_remove name key headers

theorem getAll_foldl_remove {name : HeaderName} {keys : List HeaderName} (h : name ∈ keys)
    (headers : HeaderMap) : (keys.foldl MultiMap.remove headers).getAll name = [] := by
  induction keys generalizing headers with
  | nil => exact absurd h List.not_mem_nil
  | cons key keys ih =>
    rcases List.mem_cons.mp h with rfl | h
    · rcases keptOrGone_foldl (fun headers key => keptOrGone_remove name key headers) keys
        (headers.remove name) with hk | hk
      · exact hk.trans (headers.getAll_remove_self name)
      · exact hk
    · exact ih h (headers.remove key)

theorem getAll_strip_transferEncoding (headers : HeaderMap) :
    (stripHopByHopHeaders headers).getAll .transferEncoding = [] :=
  getAll_foldl_remove (by decide) _

/-! ### Well-framed messages -/

def parseLength (value : HeaderValue) : Option ℕ := value.toStr.bind parseDigits

/-- The lengths that the headers declare. -/
def declared (headers : HeaderMap) : List (Option ℕ) :=
  (headers.getAll .contentLength).map parseLength

def BodyAllowed (method : String) (status : StatusCode) : Prop :=
  method ≠ "HEAD" ∧ status ≠ .notModified ∧ status ≠ .noContent

/-- `representation` are the lengths that may stand for a body that is left out. -/
structure WellFramed (method : String) (status : StatusCode) (headers : HeaderMap) (body : Body)
    (representation : List (Option ℕ)) : Prop where
  single : (declared headers).length ≤ 1
  full : BodyAllowed method status → declared headers = [] ∨
    ∃ n, declared headers = [some n] ∧ ∀ bytes, body.collect = .ok bytes → bytes.length = n
  bodyless : method = "HEAD" ∨ status = .notModified →
    declared headers = [] ∨ declared headers = representation
  noContent : status = .noContent → declared headers = []

structure UpstreamFramed (method : String) (upstream : Response Body) : Prop where
  framed : WellFramed method upstream.status upstream.headers upstream.body (declared upstream.headers)
  empty : method = "HEAD" ∨ upstream.status = .notModified →
    ∀ bytes, upstream.body.collect = .ok bytes → bytes = []

/-- The body whose bytes a served body yields. -/
def ServedBody.inner : ServedBody → Body
  | .generated body => body
  | .observed body => body.inner

/-- An answer to a request that is well framed given what the upstream declared. -/
structure FramedAnswer (method : String) (upstream : Response Body) (answer : Response ServedBody) :
    Prop where
  framed : WellFramed method answer.status answer.headers answer.body.inner
    (declared upstream.headers)
  transferEncoding : answer.headers.getAll .transferEncoding = []

/-- Dropping the declared length keeps a message well framed. -/
theorem WellFramed.of_declared {method : String} {status : StatusCode} {headers headers' : HeaderMap}
    {body : Body} {representation : List (Option ℕ)}
    (h : WellFramed method status headers body representation)
    (hd : declared headers' = declared headers ∨ declared headers' = []) :
    WellFramed method status headers' body representation := by
  rcases hd with hd | hd
  · constructor <;> rw [hd]
    · exact h.single
    · exact h.full
    · exact h.bodyless
    · exact h.noContent
  · constructor <;> rw [hd]
    · exact Nat.zero_le 1
    · exact fun _ => .inl rfl
    · exact fun _ => .inl rfl
    · exact fun _ => rfl

theorem declared_of_keptOrGone {headers headers' : HeaderMap}
    (h : KeptOrGone .contentLength headers headers') :
    declared headers' = declared headers ∨ declared headers' = [] := by
  unfold declared
  rcases h with h | h
  · exact .inl (by rw [h])
  · exact .inr (by rw [h]; rfl)

theorem declared_remove (headers : HeaderMap) : declared (headers.remove .contentLength) = [] := by
  unfold declared
  rw [MultiMap.getAll_remove_self]
  rfl

/-- The length that `handle` sets reads back. -/
theorem fromStr_length (n : ℕ) :
    ∃ v, HeaderValue.fromStr (Nat.toDigits 10 n) = some v ∧ parseLength v = some n := by
  have hdigits : ∀ c ∈ Nat.toDigits 10 n, 32 ≤ c.toNat ∧ c.toNat < 127 := by
    intro c hc
    have hdigit := Nat.isDigit_of_mem_toDigits (by decide) (by decide) hc
    simp only [Char.isDigit, Bool.and_eq_true, decide_eq_true_eq] at hdigit
    have hlow : 48 ≤ c.toNat := UInt32.le_iff_toNat_le.mp hdigit.1
    have hhigh : c.toNat ≤ 57 := UInt32.le_iff_toNat_le.mp hdigit.2
    omega
  obtain ⟨v, hv, hs⟩ := HeaderValue.toStr_fromStr hdigits
  refine ⟨v, hv, ?_⟩
  unfold parseLength
  rw [hs, Option.bind_some, parseDigits_toDigits]

/-! ### The answers of `handle` -/

theorem framedAnswer_generated (method : String) (upstream : Response Body) (status : StatusCode)
    (message : String) : FramedAnswer method upstream (generatedAnswer status message) := by
  have hheaders : (generatedAnswer status message).headers =
    MultiMap.empty.insert .contentType .textPlain := rfl
  have hcl : declared (generatedAnswer status message).headers = [] := by
    rw [hheaders]
    decide
  refine ⟨⟨?_, fun _ => .inl hcl, fun _ => .inl hcl, fun _ => hcl⟩, ?_⟩
  · rw [hcl]
    exact Nat.zero_le 1
  · rw [hheaders]
    decide

variable {upstream : Response Body} {method : String}

/-- A streamed answer has the headers of the upstream, or no length. -/
theorem framedAnswer_stream [Glob] {cfg : TransformConfig} {url : String} {headersChanged : Bool}
    {headers : HeaderMap}
    (hup : UpstreamFramed method upstream)
    (h : cfg.applyUntilBody url (stripHopByHopHeaders upstream.headers) =
      (.ok ⟨.stream, headersChanged⟩, headers)) :
    FramedAnswer method upstream
      ⟨upstream.status, upstream.version,
        if headersChanged then headers.remove .contentLength else headers,
        .observed (.response upstream.body)⟩ := by
  have hnames := TransformConfig.applyUntilBody_names h
  have hte := hnames.getAll_eq_nil (getAll_strip_transferEncoding upstream.headers)
  cases headersChanged with
  | true =>
    refine ⟨hup.framed.of_declared (.inr (declared_remove headers)), ?_⟩
    exact (headers.getAll_remove_of_ne (by decide)).trans hte
  | false =>
    -- nothing was rewritten, so these are the stripped headers of the upstream
    obtain ⟨-, rfl⟩ := TransformConfig.applyUntilBodyFrom_unchanged h rfl
    exact ⟨hup.framed.of_declared (declared_of_keptOrGone (keptOrGone_strip _ _)), hte⟩

/-- The length of a buffered body may be declared. -/
def LengthStands (method : String) (upstream : Response Body) : Prop :=
  upstream.status ≠ .noContent ∧
    (method = "HEAD" ∨ upstream.status = .notModified → declared upstream.headers = [some 0])

/-- A buffered answer declares the length of its body, whatever the method and the status. -/
theorem framedAnswer_buffered {headers : HeaderMap} {bytes : List UInt8} {contentLength : HeaderValue}
    {version : Version}
    (hte : headers.getAll .transferEncoding = []) (hlen : parseLength contentLength = some bytes.length)
    (hempty : method = "HEAD" ∨ upstream.status = .notModified → bytes = []) :
    FramedAnswer method upstream
      ⟨upstream.status, version, (headers.remove .contentLength).insert .contentLength contentLength,
        .observed (.response (.fromBytes bytes))⟩ ↔ LengthStands method upstream := by
  have hd : declared ((headers.remove .contentLength).insert .contentLength contentLength) =
      [some bytes.length] := by
    unfold declared
    rw [MultiMap.getAll_insert_self, List.map_singleton, hlen]
  constructor
  · intro h
    refine ⟨fun hs => ?_, fun hb => ?_⟩
    · have hnone := h.framed.noContent hs
      rw [hd] at hnone
      cases hnone
    · rcases h.framed.bodyless hb with hnone | hrep
      · rw [hd] at hnone
        cases hnone
      · rw [← hrep, hd, hempty hb]
        rfl
  · rintro ⟨hs, hb⟩
    refine ⟨⟨?_, fun _ => .inr ⟨bytes.length, hd, fun bytes' hc => ?_⟩, fun hm => .inr ?_,
      fun h => absurd h hs⟩, ?_⟩
    · rw [hd]
      exact Nat.le_refl 1
    · have hcollect : (Body.fromBytes bytes).collect = .ok bytes' := hc
      rw [Body.collect_fromBytes] at hcollect
      rw [Except.ok.inj hcollect]
    · rw [hd, hempty hm, hb hm]
      rfl
    · rw [MultiMap.getAll_insert_of_ne _ _ (by decide), MultiMap.getAll_remove_of_ne _ (by decide)]
      exact hte

section Handle

variable [Glob] {x : SharedExchangeCapture} {startedAt now : OffsetDateTime}

/-- The request is passed on: its host fits, and the upstream URI can be built. -/
def Forwarded [Net] (svc : ProxyService) (req : Request Body) : Prop :=
  hostMatchesFrontend req svc.cfg.frontendDomain = true ∧
    ∃ uri, svc.cfg.buildBackendUri (req.uri.path.getD "/") req.uri.query = .ok uri

/-- The body of the upstream is collected for a rule, and the rules succeed on it. -/
def Buffered (svc : ProxyService) (url : String) (upstream : Response Body) : Prop :=
  ∃ index changed headers bytes outcome rewritten,
    svc.cfg.transforms.applyUntilBody url (stripHopByHopHeaders upstream.headers) =
      (.ok ⟨.bufferFrom index, changed⟩, headers) ∧
    upstream.body.collect = .ok bytes ∧
    svc.cfg.transforms.applyWithBody index url headers bytes = (.ok outcome, rewritten)

theorem not_buffered_of_until {svc : ProxyService} {url : String}
    {plan : Except AnyError PrebufferOutcome} {headers : HeaderMap}
    (hu : svc.cfg.transforms.applyUntilBody url (stripHopByHopHeaders upstream.headers) = (plan, headers))
    (hplan : ∀ index changed, plan ≠ .ok ⟨.bufferFrom index, changed⟩) :
    ¬ Buffered svc url upstream := by
  rintro ⟨index, changed, _, _, _, _, hu', -, -⟩
  rw [hu] at hu'
  exact hplan index changed (Prod.mk.inj hu').1

theorem not_buffered_of_collect {svc : ProxyService} {url err : String}
    (hc : upstream.body.collect = .error err) : ¬ Buffered svc url upstream := by
  rintro ⟨_, _, _, _, _, _, -, hc', -⟩
  rw [hc] at hc'
  cases hc'

theorem not_buffered_of_with {svc : ProxyService} {url : String} {index : ℕ} {changed : Bool}
    {headers : HeaderMap} {bytes : List UInt8} {err : AnyError} {rewritten : HeaderMap × List UInt8}
    (hu : svc.cfg.transforms.applyUntilBody url (stripHopByHopHeaders upstream.headers) =
      (.ok ⟨.bufferFrom index, changed⟩, headers))
    (hc : upstream.body.collect = .ok bytes)
    (hw : svc.cfg.transforms.applyWithBody index url headers bytes = (.error err, rewritten)) :
    ¬ Buffered svc url upstream := by
  rintro ⟨_, _, _, _, _, _, hu', hc', hw'⟩
  rw [hu] at hu'
  obtain ⟨hplan, rfl⟩ := Prod.mk.inj hu'
  cases hplan
  obtain rfl := Except.ok.inj (hc.symm.trans hc')
  rw [hw] at hw'
  cases hw'

variable [Digest]

theorem start_cases [Net] (svc : ProxyService) (req : Request Body) (x : SharedExchangeCapture)
    (now : OffsetDateTime) :
    (Forwarded svc req ∧ ∃ forwarded, svc.start req x now =
      (x, .upstream (requestUrl (req.uri.path.getD "/") req.uri.query), some forwarded)) ∨
    ¬ Forwarded svc req ∧ ∃ y status message,
      svc.start req x now = (y, .answered (generatedAnswer status message), none) := by
  unfold ProxyService.start Forwarded
  by_cases hh : hostMatchesFrontend req svc.cfg.frontendDomain = true
  · rw [if_neg (by simp [hh])]
    cases svc.cfg.buildBackendUri (req.uri.path.getD "/") req.uri.query with
    | error err => exact .inr ⟨by simp, _, .badRequest, "bad request", rfl⟩
    | ok uri => exact .inl ⟨⟨hh, uri, rfl⟩, _, rfl⟩
  · rw [if_pos (by simp [hh])]
    exact .inr ⟨by simp [hh], _, .misdirectedRequest, "misdirected request", rfl⟩

/-- What `handle` answers once the upstream has responded. -/
theorem onUpstream_framed (svc : ProxyService) {url : String} (hup : UpstreamFramed method upstream) :
    ∃ y answer,
      (match svc.onUpstream url (.response upstream) startedAt now x with
        | (x, .collecting requestUrl response startIndex startedAt) =>
          svc.onCollected requestUrl response startIndex startedAt now response.body.collect x
        | (x, handling) => (x, handling)) = (y, .answered answer) ∧
      (FramedAnswer method upstream answer ↔
        (Buffered svc url upstream → LengthStands method upstream)) := by
  unfold ProxyService.onUpstream
  dsimp only
  rcases hu : svc.cfg.transforms.applyUntilBody url (stripHopByHopHeaders upstream.headers) with
    ⟨_ | ⟨_ | index, changed⟩, headers⟩
  · -- a rule failed on the headers
    have hn : ¬ Buffered svc url upstream := not_buffered_of_until hu (by simp)
    exact ⟨_, _, rfl, fun _ hb => absurd hb hn, fun _ => framedAnswer_generated _ _ _ _⟩
  · have hn : ¬ Buffered svc url upstream := not_buffered_of_until hu (by simp)
    exact ⟨_, _, rfl, fun _ hb => absurd hb hn, fun _ => framedAnswer_stream hup hu⟩
  · dsimp only
    unfold ProxyService.onCollected
    cases hc : upstream.body.collect with
    | error err =>
      exact ⟨_, _, rfl, fun _ hb => absurd hb (not_buffered_of_collect hc),
        fun _ => framedAnswer_generated _ _ _ _⟩
    | ok bytes =>
      dsimp only
      rcases hw : svc.cfg.transforms.applyWithBody index url headers bytes with
        ⟨_ | outcome, headers', bytes'⟩
      · -- a rule failed on the body
        exact ⟨_, _, rfl, fun _ hb => absurd hb (not_buffered_of_with hu hc hw),
          fun _ => framedAnswer_generated _ _ _ _⟩
      · have hbuffered : Buffered svc url upstream :=
          ⟨index, changed, headers, bytes, outcome, (headers', bytes'), hu, hc, hw⟩
        obtain ⟨v, hv, hlen⟩ := fromStr_length bytes'.length
        dsimp only
        rw [hv]
        have huntil := TransformConfig.applyUntilBody_names hu
        obtain ⟨hwith, hnil⟩ := TransformConfig.applyWithBody_names hw
        have hte := hwith.getAll_eq_nil
          (huntil.getAll_eq_nil (getAll_strip_transferEncoding upstream.headers))
        refine ⟨_, _, rfl, ?_⟩
        rw [framedAnswer_buffered hte hlen fun hm => hnil (hup.empty hm bytes hc)]
        exact ⟨fun h _ => h, fun h => h hbuffered⟩

end Handle

/-- **Response framing**: `handle` answers every request, and the answer to a well-framed upstream
response is well framed exactly when the length of a buffered body may be declared: the status is not
204, and with HEAD or 304 the upstream declared 0. -/
theorem framedAnswer_iff [Net] [Glob] [Digest] (svc : ProxyService) (req : Request Body)
    (x : SharedExchangeCapture) (startedAt now : OffsetDateTime) {upstream : Response Body}
    (hup : UpstreamFramed req.method upstream) :
    ∃ y answer, svc.handle req x (.response upstream) startedAt now = (y, .answered answer) ∧
      (FramedAnswer req.method upstream answer ↔
        (Forwarded svc req → Buffered svc (requestUrl (req.uri.path.getD "/") req.uri.query) upstream →
          LengthStands req.method upstream)) := by
  unfold ProxyService.handle
  rcases start_cases svc req x now with ⟨hf, forwarded, hs⟩ | ⟨hf, y, status, message, hs⟩
  · rw [hs]
    obtain ⟨y, answer, hanswer, hframed⟩ := onUpstream_framed svc hup
    exact ⟨y, answer, hanswer, hframed.trans ⟨fun h _ => h, fun h => h hf⟩⟩
  · rw [hs]
    exact ⟨y, _, rfl, fun _ hf' => absurd hf' hf, fun _ => framedAnswer_generated _ _ _ _⟩

/-- `handle` on a sample request, with the rule that rewrites bodies. -/
def sampleHandle (method : String) (upstream : Response Body) : SharedExchangeCapture × Handling :=
  letI := sampleNet; letI := sampleGlob; letI := sampleDigest
  ProxyService.handle ⟨sampleBodyRule⟩ { sampleRequest with method }
    (.new sampleBodyRule sampleRequest sampleTime ⟨1⟩ ⟨2⟩) (.response upstream) sampleTime sampleTime

/-- A response that declares four bytes. -/
def sampleUpstreamOk (body : Body) : Response Body :=
  ⟨200, .http11, MultiMap.empty.append .contentLength ⟨Text.utf8 "4".toList, by decide⟩, body⟩

theorem upstreamFramed_head : UpstreamFramed "HEAD" (sampleUpstreamOk (.fromBytes [])) where
  framed := ⟨by decide, fun h => absurd rfl h.1, fun _ => .inr rfl, by decide⟩
  empty _ _ hc := (Except.ok.inj hc).symm

theorem upstreamFramed_noContent : UpstreamFramed "GET" sampleNoContent where
  framed := ⟨by decide, fun _ => .inl rfl, fun _ => .inl rfl, fun _ => rfl⟩
  empty _ _ hc := (Except.ok.inj hc).symm

theorem upstreamFramed_get :
    UpstreamFramed "GET" (sampleUpstreamOk (.fromBytes [97, 97, 97, 97])) where
  framed := by
    refine ⟨by decide, fun _ => .inr ⟨4, by decide, fun bytes hc => ?_⟩, by decide, by decide⟩
    rw [← Except.ok.inj hc]
    rfl
  empty h := absurd h (by decide)

/-- The answer to HEAD declares 0 where the upstream declared 4, and the answer with status 204
declares 0 where nothing may be declared. -/
theorem buffered_bodyless_misframed :
    (UpstreamFramed "HEAD" (sampleUpstreamOk (.fromBytes [])) ∧
      ∃ y answer, sampleHandle "HEAD" (sampleUpstreamOk (.fromBytes [])) = (y, .answered answer) ∧
        declared answer.headers = [some 0] ∧
        ¬ FramedAnswer "HEAD" (sampleUpstreamOk (.fromBytes [])) answer) ∧
    UpstreamFramed "GET" sampleNoContent ∧
      ∃ y answer, sampleHandle "GET" sampleNoContent = (y, .answered answer) ∧
        answer.status = .noContent ∧ declared answer.headers = [some 0] ∧
        ¬ FramedAnswer "GET" sampleNoContent answer := by
  refine ⟨⟨upstreamFramed_head, ?_⟩, upstreamFramed_noContent, ?_⟩
  · obtain ⟨y, answer, hh, hd⟩ : ∃ y answer,
        sampleHandle "HEAD" (sampleUpstreamOk (.fromBytes [])) = (y, .answered answer) ∧
          declared answer.headers = [some 0] := ⟨_, _, rfl, by decide⟩
    refine ⟨y, answer, hh, hd, fun h => ?_⟩
    rcases h.framed.bodyless (.inl rfl) with hnone | hsame
    · rw [hd] at hnone
      cases hnone
    · rw [hd] at hsame
      exact absurd hsame (by decide)
  · obtain ⟨y, answer, hh, hs, hd⟩ : ∃ y answer,
        sampleHandle "GET" sampleNoContent = (y, .answered answer) ∧ answer.status = .noContent ∧
          declared answer.headers = [some 0] := ⟨_, _, rfl, rfl, by decide⟩
    refine ⟨y, answer, hh, hs, hd, fun h => ?_⟩
    have hnone := h.framed.noContent hs
    rw [hd] at hnone
    cases hnone

theorem framedAnswer_iff_sample : ∃ y answer,
    sampleHandle "GET" (sampleUpstreamOk (.fromBytes [97, 97, 97, 97])) = (y, .answered answer) ∧
      FramedAnswer "GET" (sampleUpstreamOk (.fromBytes [97, 97, 97, 97])) answer := by
  obtain ⟨y, answer, hh, hiff⟩ := @framedAnswer_iff sampleNet sampleGlob sampleDigest ⟨sampleBodyRule⟩
    sampleRequest (@SharedExchangeCapture.new sampleNet _ sampleBodyRule sampleRequest sampleTime ⟨1⟩ ⟨2⟩)
    sampleTime sampleTime _ upstreamFramed_get
  exact ⟨y, answer, hh, hiff.mpr fun _ _ => ⟨by decide, by decide⟩⟩

end KidProxy
