import KidProxy.Framing

/-!
# Encoding — the encoding in which a body is requested

`start` decides from the URL alone whether a rule may need the body of the answer, and then asks the
upstream for an unencoded one.  The hop-by-hop headers are stripped after that, and the client chooses
what its `Connection` line lists: `bufferFrom_identity_iff` says when the request survives.
-/

namespace KidProxy

/-! ### What the stripping leaves -/

/-- The header names that the first `Connection` field line lists. -/
def listedNames (headers : HeaderMap) : List HeaderName :=
  (connectionTokens headers).filterMap HeaderName.fromChars

theorem foldl_removeToken (tokens : List (List Char)) (headers : HeaderMap) :
    tokens.foldl removeToken headers =
      (tokens.filterMap HeaderName.fromChars).foldl MultiMap.remove headers := by
  induction tokens generalizing headers with
  | nil => rfl
  | cons token tokens ih =>
    rw [List.foldl_cons, ih, removeToken]
    cases hn : HeaderName.fromChars token with
    | none => rw [List.filterMap_cons_none hn]
    | some name => rw [List.filterMap_cons_some hn, List.foldl_cons]

theorem getAll_foldl_remove_of_notMem {name : HeaderName} {keys : List HeaderName} (h : name ∉ keys)
    (headers : HeaderMap) : (keys.foldl MultiMap.remove headers).getAll name = headers.getAll name := by
  induction keys generalizing headers with
  | nil => rfl
  | cons key keys ih =>
    obtain ⟨hkey, hkeys⟩ := not_or.mp (mt List.mem_cons.mpr h)
    rw [List.foldl_cons, ih hkeys, headers.getAll_remove_of_ne hkey]

/-- A header that does not end at each hop goes exactly when it is listed. -/
theorem getAll_strip {name : HeaderName} (hn : name ∉ hopByHop) (headers : HeaderMap) :
    (stripHopByHopHeaders headers).getAll name =
      if name ∈ listedNames headers then [] else headers.getAll name := by
  unfold stripHopByHopHeaders
  rw [getAll_foldl_remove_of_notMem hn, foldl_removeToken]
  split_ifs with hl
  · exact getAll_foldl_remove hl headers
  · exact getAll_foldl_remove_of_notMem hl headers

theorem listedNames_congr {headers headers' : HeaderMap}
    (h : headers'.getAll .connection = headers.getAll .connection) :
    listedNames headers' = listedNames headers := by
  unfold listedNames connectionTokens MultiMap.get
  rw [h]

/-! ### The prediction made from the URL -/

/-- A rule that matches some headers and needs the body is predicted. -/
theorem TransformConfig.needsPlaintext_of_matches [Glob] {cfg : TransformConfig} {url : String}
    {rule : TransformRule} {headers : HeaderMap} (hrule : rule ∈ cfg.transforms)
    (hm : rule.ruleMatches url headers = true) (hb : rule.requiresBody = true) :
    cfg.needsPlaintextUpstreamBody url = true := by
  unfold needsPlaintextUpstreamBody
  refine List.any_eq_true.mpr ⟨rule, hrule, ?_⟩
  rw [hb, Bool.true_and]
  unfold TransformRule.ruleMatches at hm
  cases hmatcher : rule.matcher with
  | urlGlob pattern => rw [hmatcher] at hm; exact hm
  | contentTypeGlob pattern => rfl
  | everything => rfl

/-- `apply_until_body` asks for the body of this answer. -/
def AsksForBody [Glob] (cfg : TransformConfig) (url : String) (upstream : Response Body) : Prop :=
  ∃ index changed headers, cfg.applyUntilBody url (stripHopByHopHeaders upstream.headers) =
    (.ok ⟨.bufferFrom index, changed⟩, headers)

/-- Whatever the headers of the answer and the rules before did to them, the need was predicted. -/
theorem AsksForBody.predicted [Glob] {cfg : TransformConfig} {url : String} {upstream : Response Body}
    (h : AsksForBody cfg url upstream) : cfg.needsPlaintextUpstreamBody url = true := by
  obtain ⟨index, changed, headers, hu⟩ := h
  obtain ⟨rule, hrule, hm, hb⟩ := TransformConfig.applyUntilBody_handsOver hu
  exact TransformConfig.needsPlaintext_of_matches (List.mem_of_getElem? hrule) hm hb

/-! ### The request handed to the upstream client -/

section Start

variable [Net] [Glob] [Digest] {svc : ProxyService} {req : Request Body} {x y : SharedExchangeCapture}
  {now : OffsetDateTime} {url : String} {forwarded : Request (ObservedBody Body)}

/-- What `start` hands over: the headers without `Host`, asked for unencoded, then stripped. -/
theorem start_forwarded (h : svc.start req x now = (y, .upstream url, some forwarded)) :
    forwarded.headers = stripHopByHopHeaders
      (if svc.cfg.transforms.needsPlaintextUpstreamBody url then
        (req.headers.remove .host).insert .acceptEncoding .identity
      else req.headers.remove .host) := by
  unfold ProxyService.start at h
  split_ifs at h with hh
  · cases h
  · revert h
    cases svc.cfg.buildBackendUri (req.uri.path.getD "/") req.uri.query with
    | error err => intro h; cases h
    | ok uri =>
      intro h
      obtain ⟨-, hup⟩ := Prod.mk.inj h
      obtain ⟨hurl, hfw⟩ := Prod.mk.inj hup
      rw [← Option.some.inj hfw, ← Handling.upstream.inj hurl]

/-- **A body that may be rewritten was requested unencoded**, except where the client listed
`Accept-Encoding` as a hop-by-hop header: for every request, rule list and answer for which
`apply_until_body` asks for the body. -/
theorem bufferFrom_identity_iff (h : svc.start req x now = (y, .upstream url, some forwarded))
    {upstream : Response Body} (hask : AsksForBody svc.cfg.transforms url upstream) :
    forwarded.headers.getAll .acceptEncoding = [.identity] ↔
      HeaderName.acceptEncoding ∉ listedNames req.headers := by
  have hlisted : listedNames ((req.headers.remove .host).insert .acceptEncoding .identity) =
      listedNames req.headers := by
    refine listedNames_congr ?_
    rw [MultiMap.getAll_insert_of_ne _ _ (by decide), MultiMap.getAll_remove_of_ne _ (by decide)]
  rw [start_forwarded h, if_pos hask.predicted, getAll_strip (by decide), hlisted]
  by_cases hl : HeaderName.acceptEncoding ∈ listedNames req.headers
  · rw [if_pos hl]
    exact ⟨fun hnil => absurd hnil (List.cons_ne_nil _ _).symm, fun hn => absurd hl hn⟩
  · rw [if_neg hl]
    exact ⟨fun _ => hl, fun _ => MultiMap.getAll_insert_self _ _ _⟩

end Start

/-- The request whose `Connection` line is the given text. -/
def sampleConnection (text : String) (h : (Text.utf8 text.toList).all isValueByte = true) :
    Request Body :=
  { sampleRequest with headers := sampleRequest.headers.append .connection ⟨Text.utf8 text.toList, h⟩ }

/-- `start` on a sample request, with the rule that rewrites bodies. -/
def sampleStart (req : Request Body) :
    SharedExchangeCapture × Handling × Option (Request (ObservedBody Body)) :=
  letI := sampleNet; letI := sampleGlob; letI := sampleDigest
  ProxyService.start ⟨sampleBodyRule⟩ req (.new sampleBodyRule req sampleTime ⟨1⟩ ⟨2⟩) sampleTime

theorem sampleBodyRule_asks :
    @AsksForBody sampleGlob sampleBodyRule.transforms "/" (sampleUpstreamOk (.fromBytes [])) :=
  ⟨0, false, _, rfl⟩

/-- The client's `Connection: Accept-Encoding` takes the header away that was set for the rule. -/
theorem listed_not_requested_identity : ∃ y forwarded,
    sampleStart (sampleConnection "Accept-Encoding" (by decide)) = (y, .upstream "/", some forwarded) ∧
      @AsksForBody sampleGlob sampleBodyRule.transforms "/" (sampleUpstreamOk (.fromBytes [])) ∧
      forwarded.headers.getAll .acceptEncoding = [] := by
  refine ⟨_, _, rfl, sampleBodyRule_asks, ?_⟩
  decide

theorem bufferFrom_identity_iff_sample : ∃ y forwarded,
    sampleStart (sampleConnection "keep-alive" (by decide)) = (y, .upstream "/", some forwarded) ∧
      forwarded.headers.getAll .acceptEncoding = [.identity] := by
  obtain ⟨y, forwarded, h⟩ : ∃ y forwarded,
      sampleStart (sampleConnection "keep-alive" (by decide)) = (y, .upstream "/", some forwarded) :=
    ⟨_, _, rfl⟩
  have hiff := @bufferFrom_identity_iff sampleNet sampleGlob sampleDigest _ _ _ _ _ _ _ h _
    sampleBodyRule_asks
  exact ⟨y, forwarded, h, hiff.mpr (by decide)⟩

end KidProxy
