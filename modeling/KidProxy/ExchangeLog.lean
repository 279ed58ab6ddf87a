import KidProxy.Exchange

/-!
# ExchangeLog — the one event of an exchange

Every exchange whose `handle` returns leaves exactly one event, and the event says what became of the
exchange.  The induction runs over `Phase`, which ties the capture to the place where `handle` and the
response body stand; a `handle` that is dropped while it waits leaves no event at all.
-/

namespace KidProxy

open Transition

/-! ### Coherent events -/

/-- What an event must say about the exchange it belongs to. -/
structure Coherent (called : Bool) (answer : Answer) (event : ProxyEvent) : Prop where
  notInflight : event.proxyResult ≠ .inflight
  errorKind : event.errorKind.isSome ↔ event.proxyResult ≠ .success
  errorText : event.errorText.isSome ↔ event.proxyResult ≠ .success
  clientRejected : event.proxyResult = .clientRejected ↔ called = false ∧ answer.generated = true ∧
    (answer.status = .misdirectedRequest ∨ answer.status = .badRequest)
  upstreamError : event.proxyResult = .upstreamError ↔ called = true ∧ answer.generated = true ∧
    (answer.status = .badGateway ∨ answer.status = .gatewayTimeout)
  handed : event.proxyResult = .success ∨ event.proxyResult = .streamError ↔ answer.generated = false
  statusCode : ∀ status, event.statusCode = some status → status = answer.status

/-- The combinations of result, error and status that `handle` and the response body leave. -/
inductive Classified (called : Bool) : Answer → ProxyResult → Option ErrorInfo → Option StatusCode → Prop
  | rejected {status err} (hc : called = false)
      (hs : status = StatusCode.misdirectedRequest ∨ status = StatusCode.badRequest) :
      Classified called ⟨status, true⟩ .clientRejected (some err) (some status)
  | failed {status err} (hc : called = true)
      (hs : status = StatusCode.badGateway ∨ status = StatusCode.gatewayTimeout) :
      Classified called ⟨status, true⟩ .upstreamError (some err) none
  | succeeded {status} : Classified called ⟨status, false⟩ .success none (some status)
  | broken {status err} : Classified called ⟨status, false⟩ .streamError (some err) (some status)

theorem coherent_of_classified {called : Bool} {answer : Answer} {result : ProxyResult}
    {err : Option ErrorInfo} {code : Option StatusCode} {event : ProxyEvent}
    (h : Classified called answer result err code) (hresult : event.proxyResult = result)
    (hkind : event.errorKind = err.map (·.kind)) (htext : event.errorText = err.map (·.text))
    (hcode : event.statusCode = code) : Coherent called answer event := by
  cases h with
  | rejected hc hs => constructor <;> simp [hresult, hkind, htext, hcode, hc, hs]
  | failed hc hs => constructor <;> simp [hresult, hkind, htext, hcode, hc, hs]
  | succeeded => constructor <;> simp [hresult, hkind, htext, hcode]
  | broken => constructor <;> simp [hresult, hkind, htext, hcode]

theorem SharedExchangeCapture.Sent.coherent {x : SharedExchangeCapture} {called : Bool}
    {answer : Answer} {result : ProxyResult} {err : Option ErrorInfo} {code : Option StatusCode}
    (hx : x.Sent result err code) (h : Classified called answer result err code) :
    ∃ event, x.sent = [event] ∧ Coherent called answer event := by
  obtain ⟨event, hs, hresult, hkind, htext, hcode⟩ := hx.sent
  exact ⟨event, hs, coherent_of_classified h hresult hkind htext hcode⟩

/-! ### Where `handle` stands and what the capture holds -/

/-- What `is_end_stream()` said after the last poll that was ready; the newest poll is the first. -/
def lastReady : List (Poll × Bool) → Bool
  | [] => false
  | (.pending, _) :: polls => lastReady polls
  | (_, atEnd) :: _ => atEnd

/-- No poll answered an error or `None`. -/
def NotEnded (polls : List (Poll × Bool)) : Prop :=
  ∀ p ∈ polls, p.1 ≠ .done ∧ ∀ err, p.1 ≠ .err err

/-- A response body that has not sent the event yet. -/
structure ObservedBody.Live (body : ObservedBody Body) (polls : List (Poll × Bool)) : Prop where
  direction : body.direction = .response
  writer : body.writer = true
  finalized : body.finalized = false
  completed : body.completed = lastReady polls
  notEnded : NotEnded polls

theorem live_response (inner : Body) : (ObservedBody.response inner).Live [] :=
  ⟨rfl, rfl, rfl, rfl, fun _ h => absurd h List.not_mem_nil⟩

/-- A response body that has sent the event, because it ended or failed. -/
structure ObservedBody.Ended (body : ObservedBody Body) : Prop where
  direction : body.direction = .response
  writer : body.writer = true
  finalized : body.finalized = true

/-- The end or the error that the event was sent for. -/
def Recorded (polls : List (Poll × Bool)) (result : ProxyResult) (err : Option ErrorInfo) : Prop :=
  (∃ p ∈ polls, p.1 = .done) ∧ result = .success ∧ err = none ∨
    (∃ p ∈ polls, ∃ text, p.1 = .err text) ∧ result = .streamError ∧ ∃ info, err = some info

inductive Phase (called : Bool) (x : SharedExchangeCapture) (polls : List (Poll × Bool)) :
    Handling → Prop
  | upstream {requestUrl} (hc : called = true) (hp : polls = [])
      (hx : x.Pending .inflight none none) : Phase called x polls (.upstream requestUrl)
  | collecting {requestUrl response startIndex startedAt} (hc : called = true) (hp : polls = [])
      (hx : x.Pending .inflight none none) :
      Phase called x polls (.collecting requestUrl response startIndex startedAt)
  | generated {status version headers body result err code} (hx : x.Sent result err code)
      (hcl : Classified called ⟨status, true⟩ result err code) :
      Phase called x polls (.answered ⟨status, version, headers, .generated body⟩)
  | serving {status version headers body} (hx : x.Pending .success none (some status))
      (hb : body.Live polls) : Phase called x polls (.answered ⟨status, version, headers, .observed body⟩)
  | served {status version headers body result err} (hx : x.Sent result err (some status))
      (hb : body.Ended) (hr : Recorded polls result err) :
      Phase called x polls (.answered ⟨status, version, headers, .observed body⟩)

theorem Recorded.classified {called : Bool} {status : StatusCode} {polls : List (Poll × Bool)}
    {result : ProxyResult} {err : Option ErrorInfo} (h : Recorded polls result err) :
    Classified called ⟨status, false⟩ result err (some status) := by
  rcases h with ⟨-, rfl, rfl⟩ | ⟨-, rfl, info, rfl⟩
  · exact .succeeded
  · exact .broken

theorem Recorded.cons {polls : List (Poll × Bool)} {result : ProxyResult} {err : Option ErrorInfo}
    (h : Recorded polls result err) (p : Poll × Bool) : Recorded (p :: polls) result err := by
  rcases h with ⟨⟨q, hq, hd⟩, hr⟩ | ⟨⟨q, hq, hd⟩, hr⟩
  · exact .inl ⟨⟨q, List.mem_cons_of_mem _ hq, hd⟩, hr⟩
  · exact .inr ⟨⟨q, List.mem_cons_of_mem _ hq, hd⟩, hr⟩

/-- Observing bytes does not touch the classification. -/
theorem Phase.congr {called : Bool} {x y : SharedExchangeCapture} {polls : List (Poll × Bool)}
    {handling : Handling} (hs : x.Same y) (h : Phase called x polls handling) :
    Phase called y polls handling := by
  cases h with
  | upstream hc hp hx => exact .upstream hc hp (hx.congr hs)
  | collecting hc hp hx => exact .collecting hc hp (hx.congr hs)
  | generated hx hcl => exact .generated (hx.congr hs) hcl
  | serving hx hb => exact .serving (hx.congr hs) hb
  | served hx hb hr => exact .served (hx.congr hs) hb hr

theorem phase_serve (cfg : RuntimeConfig) {x : SharedExchangeCapture}
    (hx : x.Pending .inflight none none) (status : StatusCode) (version : Version)
    (headers : HeaderMap) (inner : Body) (startedAt : OffsetDateTime) :
    Phase true
      (x.setUpstreamResponse cfg
        (⟨status, version, headers, .observed (.response inner)⟩ : Response ServedBody) startedAt) []
      (.answered ⟨status, version, headers, .observed (.response inner)⟩) :=
  .serving (SharedExchangeCapture.pending_setUpstreamResponse hx cfg _ startedAt) (live_response inner)

section Handle

variable [Digest]

theorem phase_answerError {called : Bool} {x : SharedExchangeCapture} {result : ProxyResult}
    {err : Option ErrorInfo} {code : Option StatusCode} {status : StatusCode}
    (hx : x.Pending result err code) (hcl : Classified called ⟨status, true⟩ result err code)
    (message : String) (now : OffsetDateTime) (polls : List (Poll × Bool)) :
    Phase called (ProxyService.answerError x status message now).1 polls
      (ProxyService.answerError x status message now).2 :=
  .generated (SharedExchangeCapture.sent_finalize hx now) hcl

theorem phase_badGateway {x : SharedExchangeCapture} (hx : x.Pending .inflight none none)
    (err : ErrorInfo) (now : OffsetDateTime) (polls : List (Poll × Bool)) :
    Phase true (ProxyService.badGateway x err now).1 polls (ProxyService.badGateway x err now).2 :=
  phase_answerError (SharedExchangeCapture.pending_setUpstreamError hx err)
    (.failed rfl (.inl rfl)) "bad gateway" now polls

theorem phase_start [Net] [Glob] (svc : ProxyService) (req : Request Body) {x : SharedExchangeCapture}
    (hx : x.Pending .inflight none none) (now : OffsetDateTime) :
    Phase (svc.start req x now).2.2.isSome (svc.start req x now).1 [] (svc.start req x now).2.1 := by
  unfold ProxyService.start
  by_cases hh : hostMatchesFrontend req svc.cfg.frontendDomain = true
  · rw [if_neg (by simp [hh])]
    cases svc.cfg.buildBackendUri (req.uri.path.getD "/") req.uri.query with
    | error err =>
      exact phase_answerError (SharedExchangeCapture.pending_setRejection hx _ _)
        (.rejected rfl (.inr rfl)) _ now []
    | ok uri => exact .upstream rfl rfl hx
  · rw [if_pos (by simp [hh])]
    exact phase_answerError (SharedExchangeCapture.pending_setRejection hx _ _)
      (.rejected rfl (.inl rfl)) _ now []

theorem phase_onUpstream [Glob] (svc : ProxyService) (requestUrl : String) (outcome : UpstreamOutcome)
    (startedAt now : OffsetDateTime) {x : SharedExchangeCapture} (hx : x.Pending .inflight none none) :
    Phase true (svc.onUpstream requestUrl outcome startedAt now x).1 []
      (svc.onUpstream requestUrl outcome startedAt now x).2 := by
  cases outcome with
  | error text => exact phase_badGateway hx _ now []
  | timeout =>
    exact phase_answerError (SharedExchangeCapture.pending_setUpstreamError hx _)
      (.failed rfl (.inr rfl)) _ now []
  | response response =>
    unfold ProxyService.onUpstream
    simp only
    rcases svc.cfg.transforms.applyUntilBody requestUrl (stripHopByHopHeaders response.headers) with
      ⟨_ | ⟨_ | startIndex, headersChanged⟩, headers⟩
    · exact phase_badGateway hx _ now []
    · exact phase_serve svc.cfg hx _ _ _ _ _
    · exact .collecting rfl rfl hx

theorem phase_onCollected [Glob] (svc : ProxyService) (requestUrl : String) (response : Response Body)
    (startIndex : ℕ) (startedAt now : OffsetDateTime) (collected : Except String (List UInt8))
    {x : SharedExchangeCapture} (hx : x.Pending .inflight none none) :
    Phase true (svc.onCollected requestUrl response startIndex startedAt now collected x).1 []
      (svc.onCollected requestUrl response startIndex startedAt now collected x).2 := by
  unfold ProxyService.onCollected
  cases collected with
  | error err => exact phase_badGateway hx _ now []
  | ok bytes =>
    simp only
    rcases svc.cfg.transforms.applyWithBody startIndex requestUrl response.headers bytes with
      ⟨_ | outcome, headers, body⟩
    · exact phase_badGateway hx _ now []
    · simp only
      cases HeaderValue.fromStr (Nat.toDigits 10 body.length) with
      | none => exact phase_badGateway hx _ now []
      | some contentLength => exact phase_serve svc.cfg hx _ _ _ _ _

end Handle

/-! ### The bodies -/

theorem same_observeRequestBytes (x : SharedExchangeCapture) (chunk : List UInt8) :
    x.Same (x.observeRequestBytes chunk) := ⟨rfl, rfl, rfl, rfl, rfl⟩

theorem same_observeResponseBytes (x : SharedExchangeCapture) (chunk : List UInt8) :
    x.Same (x.observeResponseBytes chunk) := ⟨rfl, rfl, rfl, rfl, rfl⟩

/-- What the event says once the response body was dropped. -/
inductive Dropped (polls : List (Poll × Bool)) : ProxyResult → Option ErrorInfo → Prop
  | recorded {result err} (hr : Recorded polls result err) : Dropped polls result err
  | completed (hn : NotEnded polls) (hl : lastReady polls = true) : Dropped polls .success none
  | aborted {info} (hn : NotEnded polls) (hl : lastReady polls = false) :
      Dropped polls .streamError (some info)

theorem Dropped.classified {called : Bool} {status : StatusCode} {polls : List (Poll × Bool)}
    {result : ProxyResult} {err : Option ErrorInfo} (h : Dropped polls result err) :
    Classified called ⟨status, false⟩ result err (some status) := by
  cases h with
  | recorded hr => exact hr.classified
  | completed hn hl => exact .succeeded
  | aborted hn hl => exact .broken

section Bodies

variable [Digest]

/-- The request side only observes. -/
theorem pollFrame_request {body : ObservedBody Body} (h : body.direction = .request)
    (x : SharedExchangeCapture) (now : OffsetDateTime) :
    (body.pollFrame x now).2.1.direction = .request ∧ x.Same (body.pollFrame x now).2.2 := by
  unfold ObservedBody.pollFrame
  rcases StreamingBody.pollFrame body.inner with ⟨_ | frame | err | _, inner⟩
  · exact ⟨h, .refl x⟩
  · refine ⟨h, ?_⟩
    cases frame with
    | data bytes => simp only [Frame.dataRef, h]; exact same_observeRequestBytes x bytes
    | trailers headers => exact .refl x
  · dsimp only
    rw [if_neg (by simp [h])]
    exact ⟨h, .refl x⟩
  · dsimp only
    rw [if_neg (by simp [h])]
    exact ⟨h, .refl x⟩

theorem drop_request {body : ObservedBody Body} (h : body.direction = .request)
    (x : SharedExchangeCapture) (now : OffsetDateTime) : body.drop x now = x := by
  unfold ObservedBody.drop
  simp [h]

/-- **Poll lemma**: a poll of the response body keeps the phase; at the first end or error the event
is sent. -/
theorem phase_pollFrame {called : Bool} {x : SharedExchangeCapture} {polls : List (Poll × Bool)}
    {status : StatusCode} {version : Version} {headers : HeaderMap} {body : ObservedBody Body}
    (h : Phase called x polls (.answered ⟨status, version, headers, .observed body⟩))
    (now : OffsetDateTime) :
    Phase called (body.pollFrame x now).2.2
      (((body.pollFrame x now).1, (body.pollFrame x now).2.1.isEndStream) :: polls)
      (.answered ⟨status, version, headers, .observed (body.pollFrame x now).2.1⟩) := by
  unfold ObservedBody.pollFrame
  cases h with
  | serving hx hb =>
    rcases StreamingBody.pollFrame body.inner with ⟨_ | frame | err | _, inner⟩
    · exact .serving hx ⟨hb.direction, hb.writer, hb.finalized, hb.completed,
        List.forall_mem_cons.mpr ⟨by simp, hb.notEnded⟩⟩
    · refine .serving (hx.congr ?_) ⟨hb.direction, hb.writer, hb.finalized, rfl,
        List.forall_mem_cons.mpr ⟨by simp, hb.notEnded⟩⟩
      cases frame with
      | data bytes => simp only [Frame.dataRef, hb.direction]; exact same_observeResponseBytes x bytes
      | trailers headers => exact .refl x
    · dsimp only
      rw [if_pos (by simp [hb.direction, hb.writer])]
      exact .served (SharedExchangeCapture.sent_finalizeWithBodyError hx _ now)
        ⟨hb.direction, hb.writer, rfl⟩ (.inr ⟨⟨_, List.mem_cons_self, err, rfl⟩, rfl, _, rfl⟩)
    · dsimp only
      rw [if_pos (by simp [hb.direction, hb.writer, hb.finalized])]
      exact .served (SharedExchangeCapture.sent_finalize hx now)
        ⟨hb.direction, hb.writer, rfl⟩ (.inl ⟨⟨_, List.mem_cons_self, rfl⟩, rfl, rfl⟩)
  | served hx hb hr =>
    rcases StreamingBody.pollFrame body.inner with ⟨_ | frame | err | _, inner⟩
    · exact .served hx ⟨hb.direction, hb.writer, hb.finalized⟩ (hr.cons _)
    · refine .served (hx.congr ?_) ⟨hb.direction, hb.writer, hb.finalized⟩ (hr.cons _)
      cases frame with
      | data bytes => simp only [Frame.dataRef, hb.direction]; exact same_observeResponseBytes x bytes
      | trailers headers => exact .refl x
    · dsimp only
      rw [if_pos (by simp [hb.direction, hb.writer])]
      exact .served (hx.finalizeWithBodyError _ now) ⟨hb.direction, hb.writer, rfl⟩ (hr.cons _)
    · dsimp only
      rw [if_neg (by simp [hb.finalized])]
      exact .served hx ⟨hb.direction, hb.writer, hb.finalized⟩ (hr.cons _)

/-- **Drop lemma**: a response body that was not finalized by its polls is finalized by its drop. -/
theorem drop_response {called : Bool} {x : SharedExchangeCapture} {polls : List (Poll × Bool)}
    {status : StatusCode} {version : Version} {headers : HeaderMap} {body : ObservedBody Body}
    (h : Phase called x polls (.answered ⟨status, version, headers, .observed body⟩))
    (now : OffsetDateTime) :
    ∃ result err, (body.drop x now).Sent result err (some status) ∧ Dropped polls result err := by
  unfold ObservedBody.drop
  cases h with
  | serving hx hb =>
    rw [if_pos (by simp [hb.direction, hb.writer, hb.finalized]), hb.completed]
    by_cases hl : lastReady polls = true
    · rw [if_pos hl]
      exact ⟨_, _, SharedExchangeCapture.sent_finalize hx now, .completed hb.notEnded hl⟩
    · rw [if_neg hl]
      exact ⟨_, _, SharedExchangeCapture.sent_finalizeWithBodyError hx _ now,
        .aborted hb.notEnded (by simpa using hl)⟩
  | served hx hb hr =>
    rw [if_neg (by simp [hb.finalized])]
    exact ⟨_, _, hx, .recorded hr⟩

end Bodies

/-! ### Over a run -/

namespace Exchange

inductive StageGood (called : Bool) (x : SharedExchangeCapture) (polls : List (Poll × Bool))
    (answer : Option Answer) : Stage → Prop
  | running {handling} (hp : Phase called x polls handling) (ha : answer = handling.answer) :
      StageGood called x polls answer (.running handling)
  | closed {given result err code} (ha : answer = some given) (hx : x.Sent result err code)
      (hcl : Classified called given result err code) : StageGood called x polls answer .closed
  | cancelled (hx : x.Pending .inflight none none) : StageGood called x polls answer .cancelled

/-- The invariant of an exchange. -/
structure Good (e : Exchange) : Prop where
  request : ∀ body, e.requestBody = some body → body.direction = .request
  stage : StageGood e.called e.shared e.polls e.answer e.stage

theorem StageGood.congr {called : Bool} {x y : SharedExchangeCapture} {polls : List (Poll × Bool)}
    {answer : Option Answer} {stage : Stage} (hs : x.Same y)
    (h : StageGood called x polls answer stage) : StageGood called y polls answer stage := by
  cases h with
  | running hp ha => exact .running (hp.congr hs) ha
  | closed ha hx hcl => exact .closed ha (hx.congr hs) hcl
  | cancelled hx => exact .cancelled (hx.congr hs)

theorem StageGood.phase {called : Bool} {x : SharedExchangeCapture} {polls : List (Poll × Bool)}
    {answer : Option Answer} {stage : Stage} {handling : Handling}
    (h : StageGood called x polls answer stage) (hs : stage = .running handling) :
    Phase called x polls handling ∧ answer = handling.answer := by
  rw [hs] at h
  cases h with
  | running hp ha => exact ⟨hp, ha⟩

/-- A phase whose upstream was called and whose response body was not polled. -/
theorem good_goOn {e : Exchange} {next : SharedExchangeCapture × Handling} (h : Good e)
    (hc : e.called = true) (hp : e.polls = []) (hn : Phase true next.1 [] next.2) :
    Good (e.goOn next) := by
  refine ⟨h.request, ?_⟩
  show StageGood e.called next.1 e.polls next.2.answer (.running next.2)
  rw [hc, hp]
  exact .running hn rfl

theorem stage_dropResponse [Digest] (e : Exchange) (response : Response ServedBody)
    (now : OffsetDateTime) : (e.dropResponse response now).stage = .closed := by
  obtain ⟨status, version, headers, body | body⟩ := response <;> rfl

variable [Glob] [Digest]

/-- The forwarded request carries the observed request body. -/
theorem start_forwarded [Net] {svc : ProxyService} {req : Request Body} {x : SharedExchangeCapture}
    {now : OffsetDateTime} {forwarded : Request (ObservedBody Body)}
    (h : (svc.start req x now).2.2 = some forwarded) : forwarded.body = .request req.body := by
  unfold ProxyService.start at h
  by_cases hh : hostMatchesFrontend req svc.cfg.frontendDomain = true
  · rw [if_neg (by simp [hh])] at h
    cases hu : svc.cfg.buildBackendUri (req.uri.path.getD "/") req.uri.query with
    | error err => simp [hu] at h
    | ok uri =>
      simp only [hu, Option.some.injEq] at h
      rw [← h]
  · rw [if_pos (by simp [hh])] at h
    cases h

theorem good_init [Net] (svc : ProxyService) (req : Request Body) (startedAt : OffsetDateTime)
    (eventId connectionId : Uuid) (now : OffsetDateTime) :
    Good (init svc req startedAt eventId connectionId now) := by
  have hx : (SharedExchangeCapture.new svc.cfg req startedAt eventId connectionId).Pending
      .inflight none none := ⟨rfl, rfl, rfl, rfl, rfl⟩
  refine ⟨fun body hb => ?_, .running (phase_start svc req hx now) rfl⟩
  have hb : ((svc.start req (.new svc.cfg req startedAt eventId connectionId) now).2.2.map (·.body)) =
    some body := hb
  obtain ⟨forwarded, hf, rfl⟩ := Option.map_eq_some_iff.mp hb
  rw [start_forwarded hf]
  rfl

/-- **Step lemma**. -/
theorem good_step {e t : Exchange} {a : ExchangeAction} (h : Good e) (hs : e.step a = some t) :
    Good t := by
  have hstage := h.stage
  cases step_effect hs with
  | @pollRequest body now hb =>
    obtain ⟨hdir, hsame⟩ := pollFrame_request (h.request body hb) e.shared now
    refine ⟨fun body' hb' => ?_, hstage.congr hsame⟩
    obtain rfl := Option.some.inj hb'
    exact hdir
  | @dropRequest body now hb =>
    refine ⟨fun body' hb' => by simp at hb', ?_⟩
    show StageGood e.called (body.drop e.shared now) e.polls e.answer e.stage
    rw [drop_request (h.request body hb)]
    exact hstage
  | @upstream requestUrl outcome startedAt now hrun =>
    obtain ⟨hp, ha⟩ := hstage.phase hrun
    cases hp with
    | upstream hc hpolls hx =>
      exact good_goOn h hc hpolls (phase_onUpstream e.svc requestUrl outcome startedAt now hx)
  | @collected requestUrl response startIndex startedAt now hrun =>
    obtain ⟨hp, ha⟩ := hstage.phase hrun
    cases hp with
    | collecting hc hpolls hx =>
      exact good_goOn h hc hpolls (phase_onCollected e.svc requestUrl response startIndex
        startedAt now response.body.collect hx)
  | cancelUpstream hrun =>
    obtain ⟨hp, ha⟩ := hstage.phase hrun
    cases hp with
    | upstream hc hpolls hx => exact ⟨h.request, .cancelled hx⟩
  | cancelCollecting hrun =>
    obtain ⟨hp, ha⟩ := hstage.phase hrun
    cases hp with
    | collecting hc hpolls hx => exact ⟨h.request, .cancelled hx⟩
  | @pollResponse response now hrun =>
    obtain ⟨hp, ha⟩ := hstage.phase hrun
    obtain ⟨status, version, headers, body | body⟩ := response
    · cases hp with
      | generated hx hcl => exact ⟨h.request, .running (.generated hx hcl) ha⟩
    · exact ⟨h.request, .running (phase_pollFrame hp now) ha⟩
  | @advance response body inner hrun hb =>
    obtain ⟨hp, ha⟩ := hstage.phase hrun
    obtain ⟨status, version, headers, served⟩ := response
    obtain rfl : served = .observed body := hb
    cases hp with
    | serving hx hb =>
      have hlive : ObservedBody.Live { body with inner } e.polls :=
        ⟨hb.direction, hb.writer, hb.finalized, hb.completed, hb.notEnded⟩
      exact ⟨h.request, .running (.serving hx hlive) ha⟩
    | served hx hb hr =>
      have hended : ObservedBody.Ended { body with inner } := ⟨hb.direction, hb.writer, hb.finalized⟩
      exact ⟨h.request, .running (.served hx hended hr) ha⟩
  | @dropResponse response now hrun =>
    obtain ⟨hp, ha⟩ := hstage.phase hrun
    obtain ⟨status, version, headers, body | body⟩ := response
    · cases hp with
      | generated hx hcl => exact ⟨h.request, .closed ha hx hcl⟩
    · obtain ⟨result, err, hx, hd⟩ := drop_response hp now
      exact ⟨h.request, .closed ha hx hd.classified⟩

/-- **Run lemma**. -/
theorem good_run [Net] {svc : ProxyService} {req : Request Body} {startedAt now : OffsetDateTime}
    {eventId connectionId : Uuid} {as : List ExchangeAction} {e : Exchange}
    (hrun : run step (init svc req startedAt eventId connectionId now) as = some e) : Good e :=
  run_invariant (fun _ _ _ => good_step) (good_init svc req startedAt eventId connectionId now) hrun

/-- An exchange whose `handle` future was dropped stays as it is but for the request body. -/
theorem cancelled_step {e t : Exchange} {a : ExchangeAction} (hc : e.stage = .cancelled)
    (hs : e.step a = some t) : t.stage = .cancelled := by
  cases step_effect hs with
  | pollRequest hb => exact hc
  | dropRequest hb => exact hc
  | cancelUpstream hrun => rfl
  | cancelCollecting hrun => rfl
  | upstream hrun | collected hrun | pollResponse hrun | advance hrun | dropResponse hrun =>
    rw [hc] at hrun
    cases hrun

theorem stage_of_cancel {e t : Exchange} (h : e.step .cancel = some t) : t.stage = .cancelled := by
  cases step_effect h with
  | cancelUpstream hs => rfl
  | cancelCollecting hs => rfl

theorem step_dropResponse {e t : Exchange} {response : Response ServedBody} {now : OffsetDateTime}
    (hr : e.stage = .running (.answered response)) (h : e.step (.dropResponse now) = some t) :
    t = e.dropResponse response now := by
  cases step_effect h with
  | dropResponse hs =>
    rw [hr] at hs
    cases hs
    rfl

end Exchange

/-! ### Calls on a capture that has sent its event -/

inductive CaptureCall
  | setRejection (status : StatusCode) (error : ErrorInfo)
  | setUpstreamResponse (cfg : RuntimeConfig) (response : Response ServedBody)
      (responseStartedAt : OffsetDateTime)
  | setUpstreamError (error : ErrorInfo)
  | observeRequestBytes (chunk : List UInt8)
  | observeResponseBytes (chunk : List UInt8)
  | finalizeAndSend (now : OffsetDateTime)
  | finalizeWithBodyErrorAndSend (error : ErrorInfo) (now : OffsetDateTime)

namespace SharedExchangeCapture

variable [Digest]

def call (x : SharedExchangeCapture) : CaptureCall → SharedExchangeCapture
  | .setRejection status error => x.setRejection status error
  | .setUpstreamResponse cfg response startedAt => x.setUpstreamResponse cfg response startedAt
  | .setUpstreamError error => x.setUpstreamError error
  | .observeRequestBytes chunk => x.observeRequestBytes chunk
  | .observeResponseBytes chunk => x.observeResponseBytes chunk
  | .finalizeAndSend now => x.finalizeAndSend now
  | .finalizeWithBodyErrorAndSend error now => x.finalizeWithBodyErrorAndSend error now

theorem call_of_finalized {x : SharedExchangeCapture} (h : x.guard.finalized = true)
    (c : CaptureCall) : (x.call c).sent = x.sent ∧ (x.call c).guard.finalized = true := by
  cases c with
  | finalizeAndSend now =>
    show (x.finalizeAndSend now).sent = x.sent ∧ _
    rw [call, finalize_of_finalized h]
    exact ⟨rfl, h⟩
  | finalizeWithBodyErrorAndSend error now => exact finalizeWithBodyError_of_finalized h error now
  | _ => exact ⟨rfl, h⟩

theorem calls_of_finalized {x : SharedExchangeCapture} (h : x.guard.finalized = true)
    (calls : List CaptureCall) : (calls.foldl call x).sent = x.sent := by
  induction calls generalizing x with
  | nil => rfl
  | cons c calls ih =>
    obtain ⟨hs, hf⟩ := call_of_finalized h c
    rw [List.foldl_cons, ih hf, hs]

end SharedExchangeCapture

/-! ### The event of an exchange -/

namespace Exchange

/-- Either no event was sent and the capture is open, or one was sent and it fits the answer. -/
theorem Good.sent {e : Exchange} (h : Good e) :
    e.shared.sent = [] ∨ e.shared.guard.finalized = true ∧
      ∃ event answer, e.shared.sent = [event] ∧ e.answer = some answer ∧
        Coherent e.called answer event := by
  have hstage := h.stage
  cases hs : e.stage with
  | running handling =>
    rw [hs] at hstage
    cases hstage with
    | running hp ha =>
      cases hp with
      | upstream hc hpolls hx => exact .inl hx.sent
      | collecting hc hpolls hx => exact .inl hx.sent
      | serving hx hb => exact .inl hx.sent
      | generated hx hcl =>
        obtain ⟨event, hsent, hcoh⟩ := hx.coherent hcl
        exact .inr ⟨hx.finalized, event, _, hsent, ha, hcoh⟩
      | served hx hb hr =>
        obtain ⟨event, hsent, hcoh⟩ := hx.coherent hr.classified
        exact .inr ⟨hx.finalized, event, _, hsent, ha, hcoh⟩
  | closed =>
    rw [hs] at hstage
    cases hstage with
    | closed ha hx hcl =>
      obtain ⟨event, hsent, hcoh⟩ := hx.coherent hcl
      exact .inr ⟨hx.finalized, event, _, hsent, ha, hcoh⟩
  | cancelled =>
    rw [hs] at hstage
    cases hstage with
    | cancelled hx => exact .inl hx.sent

theorem Good.sent_closed {e : Exchange} (h : Good e) (hc : e.stage = .closed) :
    ∃ event, e.shared.sent = [event] := by
  have hstage := h.stage
  rw [hc] at hstage
  cases hstage with
  | closed ha hx hcl =>
    obtain ⟨event, hsent, -⟩ := hx.sent
    exact ⟨event, hsent⟩

end Exchange

section Events

variable [Net] [Glob] [Digest] {svc : ProxyService} {req : Request Body}
  {startedAt now : OffsetDateTime} {eventId connectionId : Uuid} {as : List ExchangeAction}
  {e : Exchange}

open Exchange

/-- **One event per answered exchange**: an exchange never sends two events; when its response is
dropped, whatever the polls before were, it has sent exactly one; and no later call sends another. -/
theorem answered_oneEvent
    (hrun : run step (init svc req startedAt eventId connectionId now) as = some e) :
    e.shared.sent.length ≤ 1 ∧ (e.stage = .closed → ∃ event, e.shared.sent = [event]) ∧
      (∀ response later, e.stage = .running (.answered response) →
        ∃ t event, e.step (.dropResponse later) = some t ∧ t.shared.sent = [event]) ∧
      (e.shared.sent ≠ [] → ∀ calls : List CaptureCall,
        (calls.foldl SharedExchangeCapture.call e.shared).sent = e.shared.sent) := by
  have h := good_run hrun
  refine ⟨?_, h.sent_closed, fun response later hr => ?_, fun hne calls => ?_⟩
  · rcases h.sent with hs | ⟨-, event, answer, hs, -, -⟩
    · rw [hs]
      exact Nat.zero_le 1
    · rw [hs]
      exact Nat.le_refl 1
  · have hs : e.step (.dropResponse later) = some (e.dropResponse response later) := by
      simp only [step, hr]
    obtain ⟨event, hsent⟩ := (good_step h hs).sent_closed (stage_dropResponse e response later)
    exact ⟨_, event, hs, hsent⟩
  · rcases h.sent with hs | ⟨hf, -⟩
    · exact absurd hs hne
    · exact SharedExchangeCapture.calls_of_finalized hf calls

/-- **Coherent classification**: the event of an exchange agrees with whether the upstream was called
and with what the client was given. -/
theorem event_coherent
    (hrun : run step (init svc req startedAt eventId connectionId now) as = some e)
    {event : ProxyEvent} (hevent : event ∈ e.shared.sent) :
    ∃ answer, e.answer = some answer ∧ Coherent e.called answer event := by
  rcases (good_run hrun).sent with hs | ⟨-, event', answer, hs, ha, hcoh⟩
  · rw [hs] at hevent
    exact absurd hevent List.not_mem_nil
  · rw [hs, List.mem_singleton] at hevent
    exact ⟨answer, ha, hevent ▸ hcoh⟩

/-- **Cancelled exchanges are not logged**: when the server drops the future of `handle` at either of
its await points, no event is sent, then or later. -/
theorem cancelled_noEvent
    (hrun : run step (init svc req startedAt eventId connectionId now) as = some e) {t u : Exchange}
    (hcancel : e.step .cancel = some t) {bs : List ExchangeAction} (hafter : run step t bs = some u) :
    u.shared.sent = [] := by
  have hcancelled : u.stage = .cancelled :=
    run_invariant (P := fun e : Exchange => e.stage = .cancelled) (fun _ _ _ => cancelled_step)
      (stage_of_cancel hcancel) hafter
  have hu : Good u := run_invariant (fun _ _ _ => good_step) (good_step (good_run hrun) hcancel) hafter
  have hstage := hu.stage
  rw [hcancelled] at hstage
  cases hstage with
  | cancelled hx => exact hx.sent

end Events

theorem answered_oneEvent_sample : ∃ e event,
    sampleRun sampleConfig [sampleUpstream, .pollResponse sampleTime, .pollResponse sampleTime,
      .dropResponse sampleTime] = some e ∧ e.shared.sent = [event] := by
  obtain ⟨e, hrun, hclosed⟩ : ∃ e,
      sampleRun sampleConfig [sampleUpstream, .pollResponse sampleTime, .pollResponse sampleTime,
        .dropResponse sampleTime] = some e ∧ e.stage = .closed := ⟨_, rfl, rfl⟩
  obtain ⟨event, hevent⟩ :=
    (@answered_oneEvent sampleNet sampleGlob sampleDigest _ _ _ _ _ _ _ _ hrun).2.1 hclosed
  exact ⟨e, event, hrun, hevent⟩

theorem event_coherent_sample : ∃ e event answer,
    sampleRun sampleConfig [sampleUpstream, .pollResponse sampleTime] = some e ∧
      e.shared.sent = [event] ∧ e.answer = some answer ∧ Coherent e.called answer event := by
  obtain ⟨e, event, hrun, hsent⟩ : ∃ e event,
      sampleRun sampleConfig [sampleUpstream, .pollResponse sampleTime] = some e ∧
        e.shared.sent = [event] := ⟨_, _, rfl, rfl⟩
  obtain ⟨answer, ha, hcoh⟩ :=
    @event_coherent sampleNet sampleGlob sampleDigest _ _ _ _ _ _ _ _ hrun event (by rw [hsent]; simp)
  exact ⟨e, event, answer, hrun, hsent, ha, hcoh⟩

/-- At both await points a dropped future leaves no event: while the upstream is asked, and while a
body is collected for a rule. -/
theorem cancelled_unlogged :
    (∃ t, sampleRun sampleConfig [.cancel] = some t ∧ t.stage = .cancelled ∧ t.called = true ∧
      t.shared.sent = []) ∧
    ∃ t, sampleRun sampleBodyRule [sampleUpstream, .cancel] = some t ∧ t.stage = .cancelled ∧
      t.called = true ∧ t.shared.sent = [] :=
  ⟨⟨_, rfl, rfl, rfl, rfl⟩, _, rfl, rfl, rfl, rfl⟩

theorem cancelled_noEvent_sample : ∃ e t,
    sampleRun sampleBodyRule [sampleUpstream] = some e ∧
      @Exchange.step sampleGlob sampleDigest e .cancel = some t ∧ t.shared.sent = [] := by
  obtain ⟨e, t, hrun, hcancel⟩ : ∃ e t, sampleRun sampleBodyRule [sampleUpstream] = some e ∧
      @Exchange.step sampleGlob sampleDigest e .cancel = some t := ⟨_, _, rfl, rfl⟩
  exact ⟨e, t, hrun, hcancel,
    @cancelled_noEvent sampleNet sampleGlob sampleDigest _ _ _ _ _ _ _ _ hrun t t hcancel [] rfl⟩

end KidProxy
