import KidProxy.HeaderPolicy
import KidProxy.RuleTrace
import KidProxy.Serving

/-!
# Unseen — the headers that leave no trace

Of a message the proxy looks at the headers that the lists of the configuration log, at those that the
capture and `handle` read by name, and at those that a rule selects.  All others are only passed on: take
them out of every request and every response, and the exchanges go the same way and the writer gets the
same events (`unseen_headers_leave_no_trace`).
-/

namespace KidProxy

open Transition

/-! ### The headers that are looked at -/

/-- The headers that are read by name. -/
def readHeaders : List HeaderName :=
  [.connection, .contentEncoding, .contentLength, .contentType, .cookie, .forwarded, .host, .setCookie,
   .transferEncoding, .xForwardedFor, .xForwardedProto]

/-- The exchanges of a runtime look at this header: it is logged, read or selected by a rule. -/
def seen (cfg : RuntimeConfig) (name : HeaderName) : Bool :=
  cfg.headerLogPolicy.allows name.text || readHeaders.contains name ||
    cfg.transforms.transforms.any fun rule => rule.target.selects name

theorem seen_of_read {cfg : RuntimeConfig} {name : HeaderName} (h : readHeaders.contains name = true) :
    seen cfg name = true := by
  unfold seen
  rw [h, Bool.or_true, Bool.true_or]

theorem seen_of_selected {cfg : RuntimeConfig} {rule : TransformRule}
    (hmem : rule ∈ cfg.transforms.transforms)
    {name : HeaderName} (h : rule.target.selects name = true) : seen cfg name = true := by
  unfold seen
  rw [List.any_eq_true.mpr ⟨rule, hmem, h⟩, Bool.or_true]

/-! ### Reading -/

section

variable (cfg : RuntimeConfig) (headers : HeaderMap)

theorem get_seen {name : HeaderName} (h : readHeaders.contains name = true) :
    (headers.only (seen cfg)).get name = headers.get name :=
  headers.get_only (seen_of_read h)

theorem headerValue_only {name : HeaderName} (h : readHeaders.contains name = true) :
    headerValue (headers.only (seen cfg)) name = headerValue headers name := by
  unfold headerValue
  rw [get_seen cfg headers h]

theorem serializeHeaders_only :
    serializeHeaders (headers.only (seen cfg)) cfg.headerLogPolicy =
      serializeHeaders headers cfg.headerLogPolicy := by
  have hlogged : loggedEntries (headers.only (seen cfg)) cfg.headerLogPolicy =
      loggedEntries headers cfg.headerLogPolicy := by
    unfold loggedEntries MultiMap.only
    rw [List.filter_filter]
    congr 1
    refine List.filter_congr fun e _ => ?_
    unfold seen
    cases cfg.headerLogPolicy.allows e.1.text with
    | true => rfl
    | false => rfl
  rw [serializeHeaders_eq, serializeHeaders_eq, hlogged]

theorem parseContentLength_only :
    parseContentLength (headers.only (seen cfg)) = parseContentLength headers := by
  unfold parseContentLength
  rw [get_seen cfg headers (by decide)]

theorem parseSetCookies_only : parseSetCookies (headers.only (seen cfg)) = parseSetCookies headers := by
  unfold parseSetCookies
  rw [headers.getAll_only (seen_of_read (by decide))]

theorem forwardedParameter_only (parameter : String) :
    forwardedParameter (headers.only (seen cfg)) parameter = forwardedParameter headers parameter := by
  unfold forwardedParameter
  rw [get_seen cfg headers (by decide)]

theorem forwardedClientIp_only : forwardedClientIp (headers.only (seen cfg)) = forwardedClientIp headers := by
  unfold forwardedClientIp
  rw [forwardedParameter_only, get_seen cfg headers (by decide)]

theorem forwardedProto_only : forwardedProto (headers.only (seen cfg)) = forwardedProto headers := by
  unfold forwardedProto
  rw [forwardedParameter_only, get_seen cfg headers (by decide)]

theorem normalizedContentType_only :
    normalizedContentType (headers.only (seen cfg)) = normalizedContentType headers := by
  unfold normalizedContentType
  rw [get_seen cfg headers (by decide)]

theorem stripHopByHopHeaders_only : stripHopByHopHeaders (headers.only (seen cfg)) =
    (stripHopByHopHeaders headers).only (seen cfg) := by
  have htoken : ∀ (headers : HeaderMap) (token : List Char),
      removeToken (headers.only (seen cfg)) token = (removeToken headers token).only (seen cfg) := by
    intro headers token
    unfold removeToken
    cases HeaderName.fromChars token with
    | none => rfl
    | some name => exact headers.remove_only name
  have htokens : connectionTokens (headers.only (seen cfg)) = connectionTokens headers := by
    unfold connectionTokens
    rw [get_seen cfg headers (by decide)]
  unfold stripHopByHopHeaders
  rw [htokens, List.foldl_hom _ htoken, List.foldl_hom _ MultiMap.remove_only]

end

/-! ### The rules -/

namespace TransformRule

variable {p : HeaderName → Bool} {rule : TransformRule}

theorem rewriteEntries_only {selector : HeaderName → Bool} (h : ∀ name, selector name = true → p name = true)
    (entries : List (HeaderName × HeaderValue)) :
    rule.rewriteEntries selector (entries.filter fun e => p e.1) =
      (rule.rewriteEntries selector entries).map fun r => (r.1.filter fun e => p e.1, r.2) := by
  induction entries with
  | nil => rfl
  | cons e entries ih =>
    obtain ⟨name, value⟩ := e
    have hkeep : p name = true → ((name, value) :: entries).filter (fun e => p e.1) =
        (name, value) :: entries.filter fun e => p e.1 := fun hp => by simp [hp]
    by_cases hsel : selector name = true
    · rw [hkeep (h name hsel)]
      unfold rewriteEntries
      rw [if_pos hsel, if_pos hsel, ih]
      cases value.toStr with
      | none => rfl
      | some current =>
        dsimp only
        cases HeaderValue.fromStr (rule.replaceText current) with
        | none => rfl
        | some updated =>
          dsimp only
          rcases rule.rewriteEntries selector entries with err | ⟨out, changed⟩
          · rfl
          · simp [Except.map, h name hsel]
    · have hskip : rule.rewriteEntries selector ((name, value) :: entries) =
          (rule.rewriteEntries selector entries).map fun r => ((name, value) :: r.1, r.2) := by
        conv_lhs => unfold rewriteEntries
        rw [if_neg hsel]
        rcases rule.rewriteEntries selector entries with err | ⟨out, changed⟩
        · rfl
        · rfl
      rw [hskip]
      by_cases hp : p name = true
      · rw [hkeep hp]
        conv_lhs => unfold rewriteEntries
        rw [if_neg hsel, ih]
        rcases rule.rewriteEntries selector entries with err | ⟨out, changed⟩
        · rfl
        · simp [Except.map, hp]
      · have hdrop : ((name, value) :: entries).filter (fun e => p e.1) =
            entries.filter fun e => p e.1 := by simp [hp]
        rw [hdrop, ih]
        rcases rule.rewriteEntries selector entries with err | ⟨out, changed⟩
        · rfl
        · simp [Except.map, hp]

theorem applyHeaders_only (h : ∀ name, rule.target.selects name = true → p name = true)
    (headers : HeaderMap) :
    rule.applyHeaders (headers.only p) = Prod.map id (MultiMap.only p) (rule.applyHeaders headers) := by
  rw [applyHeaders_eq_selected, applyHeaders_eq_selected]
  unfold applySelectedHeaders
  rw [show (headers.only p).entries = headers.entries.filter fun e => p e.1 from rfl,
    rewriteEntries_only h]
  rcases rule.rewriteEntries rule.target.selects headers.entries with err | ⟨out, changed⟩
  · rfl
  · cases changed with
    | false => rfl
    | true =>
      show (_, (out.filter fun e => p e.1).foldl _ _) = (_, MultiMap.only p (out.foldl _ _))
      rw [MultiMap.foldl_append_empty, MultiMap.foldl_append_empty]
      rfl

theorem apply_only (h : ∀ name, rule.target.selects name = true → p name = true) (headers : HeaderMap)
    (body : List UInt8) : rule.apply (headers.only p) body =
      Prod.map id (Prod.map (MultiMap.only p) id) (rule.apply headers body) := by
  unfold apply
  rw [applyHeaders_only h]
  rcases rule.applyHeaders headers with ⟨err | changed, out⟩
  · rfl
  · rfl

end TransformRule

section

variable [Glob] (cfg : RuntimeConfig) {url : String}

theorem ruleMatches_only (rule : TransformRule) (headers : HeaderMap) :
    rule.ruleMatches url (headers.only (seen cfg)) = rule.ruleMatches url headers := by
  unfold TransformRule.ruleMatches
  rw [normalizedContentType_only]

theorem applyUntilBodyFrom_only {rules : List TransformRule}
    (h : ∀ rule ∈ rules, rule ∈ cfg.transforms.transforms) (index : ℕ) (changed : Bool)
    (headers : HeaderMap) :
    TransformConfig.applyUntilBodyFrom url rules index changed (headers.only (seen cfg)) =
      Prod.map id (MultiMap.only (seen cfg))
        (TransformConfig.applyUntilBodyFrom url rules index changed headers) := by
  induction rules generalizing index changed headers with
  | nil => rfl
  | cons rule rules ih =>
    have hrest := ih fun r hr => h r (List.mem_cons_of_mem rule hr)
    unfold TransformConfig.applyUntilBodyFrom
    rw [ruleMatches_only, TransformRule.applyHeaders_only fun _ => seen_of_selected
      (h rule List.mem_cons_self)]
    split_ifs with hm hb
    · exact hrest (index + 1) changed headers
    · rfl
    · rcases rule.applyHeaders headers with ⟨err | triggered, out⟩
      · rfl
      · dsimp only [Prod.map, id]
        split_ifs
        · rfl
        · exact hrest (index + 1) (changed || triggered) out

theorem applyWithBodyFrom_only {rules : List TransformRule}
    (h : ∀ rule ∈ rules, rule ∈ cfg.transforms.transforms) (outcome : ApplyOutcome) (headers : HeaderMap)
    (body : List UInt8) :
    TransformConfig.applyWithBodyFrom url rules outcome (headers.only (seen cfg)) body =
      Prod.map id (Prod.map (MultiMap.only (seen cfg)) id)
        (TransformConfig.applyWithBodyFrom url rules outcome headers body) := by
  induction rules generalizing outcome headers body with
  | nil => rfl
  | cons rule rules ih =>
    have hrest := ih fun r hr => h r (List.mem_cons_of_mem rule hr)
    unfold TransformConfig.applyWithBodyFrom
    rw [ruleMatches_only, TransformRule.apply_only fun _ => seen_of_selected
      (h rule List.mem_cons_self)]
    split_ifs with hm
    · exact hrest outcome headers body
    · rcases rule.apply headers body with ⟨err | triggered, out, body'⟩
      · rfl
      · dsimp only [Prod.map, id]
        split_ifs
        · rfl
        · exact hrest _ out body'

end

/-! ### Messages, stages and actions -/

section

variable (p : HeaderName → Bool)

/-- The message with these headers only. -/
def Request.only {B : Type} (req : Request B) : Request B := { req with headers := req.headers.only p }

def Response.only {B : Type} (response : Response B) : Response B :=
  { response with headers := response.headers.only p }

def UpstreamOutcome.only : UpstreamOutcome → UpstreamOutcome
  | .response upstream => .response (upstream.only p)
  | .error text => .error text
  | .timeout => .timeout

def Handling.only : Handling → Handling
  | .upstream requestUrl => .upstream requestUrl
  | .collecting requestUrl response startIndex startedAt =>
    .collecting requestUrl (response.only p) startIndex startedAt
  | .answered response => .answered (response.only p)

def Stage.only : Stage → Stage
  | .running handling => .running (handling.only p)
  | .closed => .closed
  | .cancelled => .cancelled

def Exchange.only (e : Exchange) : Exchange := { e with stage := e.stage.only p }

def ExchangeAction.only : ExchangeAction → ExchangeAction
  | .upstream outcome startedAt now => .upstream (outcome.only p) startedAt now
  | a => a

theorem Handling.answer_only (handling : Handling) : (handling.only p).answer = handling.answer := by
  rcases handling with requestUrl | ⟨requestUrl, response, startIndex, startedAt⟩ |
    ⟨status, version, headers, body | body⟩ <;> rfl

end

/-! ### The service -/

section

variable (cfg : RuntimeConfig) (x : SharedExchangeCapture)

theorem setUpstreamResponse_only {B : Type} (response : Response B) (startedAt : OffsetDateTime) :
    x.setUpstreamResponse cfg (response.only (seen cfg)) startedAt =
      x.setUpstreamResponse cfg response startedAt := by
  unfold SharedExchangeCapture.setUpstreamResponse Response.only
  dsimp only
  rw [serializeHeaders_only, parseSetCookies_only, parseContentLength_only,
    headerValue_only cfg _ (by decide), headerValue_only cfg _ (by decide),
    headerValue_only cfg _ (by decide)]

theorem generatedAnswer_only (status : StatusCode) (message : String) :
    (generatedAnswer status message).only (seen cfg) = generatedAnswer status message := by
  have hheaders : (MultiMap.empty.insert .contentType .textPlain : HeaderMap).only (seen cfg) =
      MultiMap.empty.insert .contentType .textPlain :=
    (MultiMap.insert_only MultiMap.empty _ (seen_of_read (by decide))).symm
  unfold generatedAnswer makeGatewayError Response.only
  dsimp only
  rw [hheaders]

variable [Digest]

theorem answerError_only (status : StatusCode) (message : String) (now : OffsetDateTime) :
    Prod.map id (Handling.only (seen cfg)) (ProxyService.answerError x status message now) =
      ProxyService.answerError x status message now := by
  unfold ProxyService.answerError
  show (_, Handling.answered _) = _
  rw [generatedAnswer_only]
  rfl

variable [Glob] (svc : ProxyService)

theorem onUpstream_only (url : String) (outcome : UpstreamOutcome) (startedAt now : OffsetDateTime) :
    svc.onUpstream url (outcome.only (seen svc.cfg)) startedAt now x =
      Prod.map id (Handling.only (seen svc.cfg)) (svc.onUpstream url outcome startedAt now x) := by
  cases outcome with
  | error text => exact (answerError_only svc.cfg _ _ _ now).symm
  | timeout => exact (answerError_only svc.cfg _ _ _ now).symm
  | response response =>
    unfold ProxyService.onUpstream UpstreamOutcome.only
    dsimp only [Response.only]
    rw [stripHopByHopHeaders_only]
    unfold TransformConfig.applyUntilBody
    rw [applyUntilBodyFrom_only svc.cfg fun _ h => h]
    rcases TransformConfig.applyUntilBodyFrom url svc.cfg.transforms.transforms 0 false
      (stripHopByHopHeaders response.headers) with ⟨err | ⟨_ | index, changed⟩, headers⟩
    · exact (answerError_only svc.cfg _ _ _ now).symm
    · dsimp only [Prod.map, id]
      cases changed with
      | false => exact congrArg (·, _) (setUpstreamResponse_only svc.cfg x ⟨_, _, headers, _⟩ startedAt)
      | true =>
        simp only [if_true, MultiMap.remove_only]
        exact congrArg (·, _) (setUpstreamResponse_only svc.cfg x ⟨_, _, headers.remove _, _⟩ startedAt)
    · rfl

theorem onCollected_only (url : String) (response : Response Body) (index : ℕ)
    (startedAt now : OffsetDateTime) (collected : Except String (List UInt8)) :
    svc.onCollected url (response.only (seen svc.cfg)) index startedAt now collected x =
      Prod.map id (Handling.only (seen svc.cfg))
        (svc.onCollected url response index startedAt now collected x) := by
  unfold ProxyService.onCollected
  cases collected with
  | error err => exact (answerError_only svc.cfg _ _ _ now).symm
  | ok bytes =>
    dsimp only [Response.only]
    unfold TransformConfig.applyWithBody
    rw [applyWithBodyFrom_only svc.cfg fun _ h => List.mem_of_mem_drop h]
    rcases TransformConfig.applyWithBodyFrom url (svc.cfg.transforms.transforms.drop index) ⟨false, false⟩
      response.headers bytes with ⟨err | outcome, headers, body⟩
    · exact (answerError_only svc.cfg _ _ _ now).symm
    · dsimp only [Prod.map, id]
      cases HeaderValue.fromStr (Nat.toDigits 10 body.length) with
      | none => exact (answerError_only svc.cfg _ _ _ now).symm
      | some contentLength =>
        dsimp only
        rw [MultiMap.remove_only, MultiMap.insert_only _ _ (seen_of_read (by decide))]
        exact congrArg (·, _) (setUpstreamResponse_only svc.cfg x ⟨_, _, _, _⟩ startedAt)

end

/-! ### One exchange -/

section

variable [Net] (cfg : RuntimeConfig) (req : Request Body)

omit [Net] in
theorem requestAuthority_only : requestAuthority (req.only (seen cfg)) = requestAuthority req := by
  unfold requestAuthority Request.only
  dsimp only
  rw [headerValue_only cfg _ (by decide)]

omit [Net] in
theorem hostMatchesFrontend_only (domain : String) :
    hostMatchesFrontend (req.only (seen cfg)) domain = hostMatchesFrontend req domain := by
  unfold hostMatchesFrontend
  rw [requestAuthority_only]

theorem new_only (startedAt : OffsetDateTime) (eventId connectionId : Uuid) :
    SharedExchangeCapture.new cfg (req.only (seen cfg)) startedAt eventId connectionId =
      .new cfg req startedAt eventId connectionId := by
  unfold SharedExchangeCapture.new
  rw [requestAuthority_only]
  unfold Request.only
  dsimp only
  rw [serializeHeaders_only, forwardedClientIp_only, forwardedProto_only, parseContentLength_only,
    get_seen cfg _ (by decide), headerValue_only cfg _ (by decide), headerValue_only cfg _ (by decide),
    headerValue_only cfg _ (by decide)]

end

namespace Exchange

variable [Net] [Glob] [Digest]

omit [Net] [Glob] [Digest] in
theorem goOn_only (p : HeaderName → Bool) (e : Exchange) (next : SharedExchangeCapture × Handling) :
    (e.only p).goOn (Prod.map id (Handling.only p) next) = (e.goOn next).only p := by
  unfold goOn
  dsimp only [Prod.map, id]
  rw [next.2.answer_only p]
  rfl

/-- The first part of `handle` goes the same way. -/
theorem start_only (svc : ProxyService) (req : Request Body) (x : SharedExchangeCapture)
    (now : OffsetDateTime) :
    (svc.start (req.only (seen svc.cfg)) x now).1 = (svc.start req x now).1 ∧
      (svc.start (req.only (seen svc.cfg)) x now).2.1 = (svc.start req x now).2.1.only (seen svc.cfg) ∧
      (svc.start (req.only (seen svc.cfg)) x now).2.2.map Request.body =
        (svc.start req x now).2.2.map Request.body := by
  have hanswer : ∀ (status : StatusCode) (message : String),
      Handling.answered (generatedAnswer status message) =
        (Handling.answered (generatedAnswer status message)).only (seen svc.cfg) := fun status message =>
    congrArg Handling.answered (generatedAnswer_only svc.cfg status message).symm
  have huri : (req.only (seen svc.cfg)).uri = req.uri := rfl
  unfold ProxyService.start
  rw [hostMatchesFrontend_only, huri]
  split_ifs with hhost
  · exact ⟨rfl, hanswer _ _, rfl⟩
  · dsimp only
    cases svc.cfg.buildBackendUri (req.uri.path.getD "/") req.uri.query with
    | error err => exact ⟨rfl, hanswer _ _, rfl⟩
    | ok uri => exact ⟨rfl, rfl, rfl⟩

theorem init_only (svc : ProxyService) (req : Request Body) (startedAt : OffsetDateTime)
    (eventId connectionId : Uuid) (now : OffsetDateTime) :
    init svc (req.only (seen svc.cfg)) startedAt eventId connectionId now =
      (init svc req startedAt eventId connectionId now).only (seen svc.cfg) := by
  unfold init
  rw [new_only]
  obtain ⟨hshared, hhandling, hbody⟩ := start_only svc req
    (.new svc.cfg req startedAt eventId connectionId) now
  revert hshared hhandling hbody
  generalize svc.start (req.only (seen svc.cfg)) _ now = first
  generalize svc.start req _ now = second
  obtain ⟨x, handling, forwarded⟩ := first
  obtain ⟨y, handling', forwarded'⟩ := second
  dsimp only
  rintro rfl rfl hbody
  have hsome : forwarded.isSome = forwarded'.isSome := by
    have hboth := congrArg Option.isSome hbody
    rw [Option.isSome_map, Option.isSome_map] at hboth
    exact hboth
  dsimp only [Exchange.only, Stage.only]
  rw [Handling.answer_only, hsome]
  exact congrArg (fun body => Exchange.mk svc x body _ _ _ _) hbody

omit [Net] in
/-- **Step**: what an action does to the rest of the exchange, it does without the unseen headers. -/
theorem step_only (e : Exchange) (a : ExchangeAction) :
    (e.only (seen e.svc.cfg)).step (a.only (seen e.svc.cfg)) =
      (e.step a).map (Exchange.only (seen e.svc.cfg)) := by
  obtain ⟨svc, shared, requestBody, stage, called, answer, polls⟩ := e
  cases a with
  | pollRequest now => cases requestBody <;> rfl
  | dropRequest now => cases requestBody <;> rfl
  | upstream outcome startedAt now =>
    rcases stage with (requestUrl | _ | _) | _ | _
    · refine congrArg some (Eq.trans ?_ (goOn_only (seen svc.cfg) _ _))
      exact congrArg _ (onUpstream_only shared svc requestUrl outcome startedAt now)
    · rfl
    · rfl
    · rfl
    · rfl
  | collected now =>
    rcases stage with (_ | ⟨requestUrl, response, startIndex, startedAt⟩ | _) | _ | _
    · rfl
    · refine congrArg some (Eq.trans ?_ (goOn_only (seen svc.cfg) _ _))
      exact congrArg _ (onCollected_only shared svc requestUrl response startIndex startedAt now _)
    · rfl
    · rfl
    · rfl
  | cancel => rcases stage with (_ | _ | _) | _ | _ <;> rfl
  | pollResponse now =>
    rcases stage with (_ | _ | ⟨status, version, headers, body | body⟩) | _ | _ <;> rfl
  | advance inner =>
    rcases stage with (_ | _ | ⟨status, version, headers, body | body⟩) | _ | _ <;> rfl
  | dropResponse now =>
    rcases stage with (_ | _ | ⟨status, version, headers, body | body⟩) | _ | _ <;> rfl

omit [Net] in
theorem svc_of_step {e t : Exchange} {a : ExchangeAction} (hs : e.step a = some t) : t.svc = e.svc := by
  cases step_effect hs with
  | @pollResponse response now hst =>
    obtain ⟨status, version, headers, body | body⟩ := response <;> rfl
  | @dropResponse response now hst =>
    obtain ⟨status, version, headers, body | body⟩ := response <;> rfl
  | _ => rfl

omit [Net] [Glob] [Digest] in
theorem holdsWriter_only (p : HeaderName → Bool) (e : Exchange) :
    (e.only p).holdsWriter = e.holdsWriter := by
  obtain ⟨svc, shared, requestBody, stage, called, answer, polls⟩ := e
  rcases stage with (_ | _ | ⟨status, version, headers, body | body⟩) | _ | _ <;> rfl

omit [Net] [Glob] [Digest] in
theorem writerCalls_only (p : HeaderName → Bool) (t : Exchange) (sent : List ProxyEvent) (held : Bool) :
    (t.only p).writerCalls sent held = t.writerCalls sent held := by
  unfold writerCalls
  rw [holdsWriter_only]
  rfl

end Exchange

/-! ### All exchanges and the writer -/

def ServingAction.only (p : HeaderName → Bool) : ServingAction → ServingAction
  | .accept req startedAt eventId connectionId now =>
    .accept (req.only p) startedAt eventId connectionId now
  | .exchange i a => .exchange i (a.only p)
  | .writer a => .writer a

namespace Serving

def only (p : HeaderName → Bool) (s : Serving) : Serving :=
  { s with exchanges := s.exchanges.map (Exchange.only p) }

/-- Every exchange runs under the configuration. -/
structure Under (cfg : RuntimeConfig) (s : Serving) : Prop where
  svc : s.svc = ⟨cfg⟩
  exchanges : ∀ e ∈ s.exchanges, e.svc = ⟨cfg⟩

theorem held_only (p : HeaderName → Bool) (s : Serving) : (s.only p).held = s.held := by
  unfold held only
  dsimp only
  rw [List.countP_map]
  exact List.countP_congr fun e _ => by rw [Function.comp_apply, Exchange.holdsWriter_only]

theorem sent_only (p : HeaderName → Bool) (s : Serving) : (s.only p).sent = s.sent := by
  unfold sent only
  dsimp only
  rw [List.flatMap_map]
  rfl

variable [Net] [Glob] [Digest] {cfg : RuntimeConfig} {s t : Serving}

theorem under_step {a : ServingAction} (h : Under cfg s) (hs : s.step a = some t) : Under cfg t := by
  cases step_effect hs with
  | accept hh hw =>
    refine ⟨h.svc, fun e he => ?_⟩
    rcases List.mem_append.mp he with hmem | hmem
    · exact h.exchanges e hmem
    · obtain rfl := List.mem_singleton.mp hmem
      exact h.svc
  | exchange he ht hw =>
    refine ⟨h.svc, fun e hmem => ?_⟩
    rcases List.mem_or_eq_of_mem_set hmem with hmem | rfl
    · exact h.exchanges e hmem
    · exact (Exchange.svc_of_step ht).trans (h.exchanges _ (List.mem_of_getElem? he))
  | writer hsend hh hw => exact ⟨h.svc, h.exchanges⟩

theorem exchangesAfter_only (h : Under cfg s) (a : ServingAction) :
    (s.only (seen cfg)).exchangesAfter (a.only (seen cfg)) =
      (s.exchangesAfter a).map (List.map (Exchange.only (seen cfg))) := by
  have hheld := held_only (seen cfg) s
  have hwriter : (s.only (seen cfg)).writer = s.writer := rfl
  cases a with
  | accept req startedAt eventId connectionId now =>
    have hinit := Exchange.init_only s.svc req startedAt eventId connectionId now
    rw [h.svc] at hinit
    have hsvc : (s.only (seen cfg)).svc = ⟨cfg⟩ := h.svc
    unfold ServingAction.only exchangesAfter
    dsimp only
    rw [hheld, hwriter, hsvc, h.svc, hinit]
    split_ifs
    · show some _ = some (List.map _ (s.exchanges ++ [_]))
      rw [List.map_append]
      rfl
    · rfl
  | exchange i a =>
    have hget : (s.only (seen cfg)).exchanges[i]? = (s.exchanges[i]?).map (Exchange.only (seen cfg)) :=
      List.getElem?_map
    unfold ServingAction.only exchangesAfter
    dsimp only
    rw [hget]
    cases he : s.exchanges[i]? with
    | none => rfl
    | some e =>
      have hstep := e.step_only a
      rw [h.exchanges e (List.mem_of_getElem? he)] at hstep
      simp only [Option.map_some, Option.bind_eq_bind, Option.bind_some]
      rw [hstep]
      cases e.step a with
      | none => rfl
      | some u => exact congrArg some (List.map_set ..).symm
  | writer a =>
    unfold ServingAction.only exchangesAfter
    dsimp only
    rw [hheld, hwriter]
    split_ifs
    · rfl
    · rfl

theorem writerActions_only (h : Under cfg s) (a : ServingAction) :
    (s.only (seen cfg)).writerActions (a.only (seen cfg)) = s.writerActions a := by
  cases a with
  | accept req startedAt eventId connectionId now =>
    have hinit := Exchange.init_only s.svc req startedAt eventId connectionId now
    rw [h.svc] at hinit
    have hsvc : (s.only (seen cfg)).svc = ⟨cfg⟩ := h.svc
    unfold ServingAction.only writerActions
    dsimp only
    rw [hsvc, h.svc, hinit, Exchange.writerCalls_only]
  | exchange i a =>
    have hget : (s.only (seen cfg)).exchanges[i]? = (s.exchanges[i]?).map (Exchange.only (seen cfg)) :=
      List.getElem?_map
    unfold ServingAction.only writerActions
    dsimp only
    rw [hget]
    cases he : s.exchanges[i]? with
    | none => rfl
    | some e =>
      have hstep := e.step_only a
      rw [h.exchanges e (List.mem_of_getElem? he)] at hstep
      dsimp only [Option.map_some]
      rw [hstep]
      cases e.step a with
      | none => rfl
      | some u =>
        dsimp only [Option.map_some]
        rw [Exchange.writerCalls_only, Exchange.holdsWriter_only]
        rfl
  | writer a => rfl

/-- **Step** of the whole system. -/
theorem step_only (h : Under cfg s) (a : ServingAction) :
    (s.only (seen cfg)).step (a.only (seen cfg)) = (s.step a).map (only (seen cfg)) := by
  unfold step
  rw [exchangesAfter_only h, writerActions_only h]
  cases s.exchangesAfter a with
  | none => rfl
  | some exchanges =>
    show (run Writer.step s.writer (s.writerActions a)).bind _ =
      ((run Writer.step s.writer (s.writerActions a)).bind _).map _
    cases run Writer.step s.writer (s.writerActions a) with
    | none => rfl
    | some w => rfl

theorem run_only (cfg : RuntimeConfig) (stored : List ActiveModel) (as : List ServingAction) :
    run step (start cfg stored) (as.map (ServingAction.only (seen cfg))) =
      (run step (start cfg stored) as).map (only (seen cfg)) :=
  run_image (fun _ a h => step_only h a) (fun _ _ _ h hs => under_step h hs)
    (⟨rfl, fun _ he => absurd he List.not_mem_nil⟩ : Under cfg (start cfg stored)) as

end Serving

open Serving

/-- **The headers that nobody looks at leave no trace**: two histories of a runtime that differ in such
headers only, of any requests and any responses of the upstream, go the same way; the writer gets the
same events and comes to the same rows, and the exchanges differ in such headers only. -/
theorem unseen_headers_leave_no_trace [Net] [Glob] [Digest] {cfg : RuntimeConfig}
    {stored : List ActiveModel} {as bs : List ServingAction} {s : Serving}
    (hsame : as.map (ServingAction.only (seen cfg)) = bs.map (ServingAction.only (seen cfg)))
    (hrun : run Serving.step (start cfg stored) as = some s) :
    ∃ t, run Serving.step (start cfg stored) bs = some t ∧ t.writer = s.writer ∧ t.sent = s.sent ∧
      t.exchanges.map (Exchange.only (seen cfg)) = s.exchanges.map (Exchange.only (seen cfg)) := by
  have hboth : (run Serving.step (start cfg stored) bs).map (Serving.only (seen cfg)) =
      some (s.only (seen cfg)) := by
    rw [← run_only, ← hsame, run_only, hrun]
    rfl
  obtain ⟨t, ht, heq⟩ := Option.map_eq_some_iff.mp hboth
  have hwriter := congrArg Serving.writer heq
  have hexchanges := congrArg Serving.exchanges heq
  refine ⟨t, ht, hwriter, ?_, hexchanges⟩
  rw [← sent_only (seen cfg) t, heq, sent_only]

/-- The sample request with credentials, which the policy does not log. -/
def sampleSecret : Request Body :=
  { sampleRequest with headers := sampleRequest.headers.append ⟨"authorization", by decide⟩ .identity }

def sampleDenying : RuntimeConfig := sampleConfig.withPolicy (loggingPolicy [] ["Authorization"])

/-- The sample visit with this request. -/
def sampleSecretVisit : List ServingAction :=
  .accept sampleSecret sampleTime ⟨1⟩ ⟨2⟩ sampleTime :: sampleVisit.tail

theorem unseen_headers_leave_no_trace_sample : ∃ s t,
    @run _ _ (@Serving.step sampleNet sampleGlob sampleDigest) (start sampleDenying []) sampleSecretVisit =
      some s ∧
    @run _ _ (@Serving.step sampleNet sampleGlob sampleDigest) (start sampleDenying []) sampleVisit =
      some t ∧ t.writer = s.writer ∧ s.sent.length = 1 := by
  obtain ⟨s, hrun, hone⟩ : ∃ s, @run _ _ (@Serving.step sampleNet sampleGlob sampleDigest)
      (start sampleDenying []) sampleSecretVisit = some s ∧ s.sent.length = 1 := ⟨_, rfl, rfl⟩
  obtain ⟨t, ht, hwriter, -, -⟩ := @unseen_headers_leave_no_trace sampleNet sampleGlob sampleDigest _ _ _
    sampleVisit _ rfl hrun
  exact ⟨s, t, hrun, ht, hwriter, hone⟩

end KidProxy
