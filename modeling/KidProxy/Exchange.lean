import KidProxy.Lib.Run
import KidProxy.Proxy

/-!
# Exchange — the life of one exchange

The handler, the upstream client that reads the request body and the server that reads the response
body share one capture.  `step` is one move of one of them; the server may drop the future of
`handle` at an await point and the response at any time.
-/

namespace KidProxy

/-- What the client was given. -/
structure Answer where
  status : StatusCode
  /-- The proxy made the answer itself. -/
  generated : Bool
  deriving DecidableEq, Repr

inductive Stage
  | running (handling : Handling)
  /-- The server dropped the response. -/
  | closed
  /-- The server dropped the future of `handle`. -/
  | cancelled

structure Exchange where
  svc : ProxyService
  shared : SharedExchangeCapture
  /-- The request body that the upstream client holds. -/
  requestBody : Option (ObservedBody Body)
  stage : Stage
  /-- Ghost: the upstream client was called. -/
  called : Bool
  /-- Ghost: what `handle` returned. -/
  answer : Option Answer
  /-- Ghost: what the polls of the observed response body answered, newest first, each with what
  `is_end_stream()` said after it. -/
  polls : List (Poll × Bool)

/-- Between two polls an inner body may change what it will answer. -/
inductive ExchangeAction
  | pollRequest (now : OffsetDateTime)
  | dropRequest (now : OffsetDateTime)
  | upstream (outcome : UpstreamOutcome) (responseStartedAt now : OffsetDateTime)
  | collected (now : OffsetDateTime)
  | cancel
  | pollResponse (now : OffsetDateTime)
  | advance (inner : Body)
  | dropResponse (now : OffsetDateTime)

def Handling.answer : Handling → Option Answer
  | .answered ⟨status, _, _, .generated _⟩ => some ⟨status, true⟩
  | .answered ⟨status, _, _, .observed _⟩ => some ⟨status, false⟩
  | _ => none

namespace Exchange

section Step

variable [Net] [Glob] [Digest]

/-- The capture of the request and the first part of `handle`. -/
def init (svc : ProxyService) (req : Request Body) (startedAt : OffsetDateTime)
    (eventId connectionId : Uuid) (now : OffsetDateTime) : Exchange :=
  let (shared, handling, forwarded) :=
    svc.start req (.new svc.cfg req startedAt eventId connectionId) now
  { svc, shared
    requestBody := forwarded.map (·.body)
    stage := .running handling
    called := forwarded.isSome
    answer := handling.answer
    polls := [] }

/-- `handle` goes on. -/
def goOn (e : Exchange) (next : SharedExchangeCapture × Handling) : Exchange :=
  { e with shared := next.1, stage := .running next.2, answer := next.2.answer }

/-- The response with another body. -/
def serve (e : Exchange) (response : Response ServedBody) (body : ServedBody) : Exchange :=
  { e with stage := .running (.answered { response with body }) }

def pollResponse (e : Exchange) (response : Response ServedBody) (now : OffsetDateTime) : Exchange :=
  match response.body with
  | .generated body => e.serve response (.generated body.pollFrame.2)
  | .observed body =>
    let (poll, body, shared) := body.pollFrame e.shared now
    { e.serve response (.observed body) with shared, polls := (poll, body.isEndStream) :: e.polls }

def dropResponse (e : Exchange) (response : Response ServedBody) (now : OffsetDateTime) : Exchange :=
  match response.body with
  | .generated _ => { e with stage := .closed }
  | .observed body => { e with stage := .closed, shared := body.drop e.shared now }

def step (e : Exchange) : ExchangeAction → Option Exchange
  | .pollRequest now =>
    e.requestBody.map fun body =>
      let (_, body, shared) := body.pollFrame e.shared now
      { e with requestBody := some body, shared }
  | .dropRequest now =>
    e.requestBody.map fun body =>
      { e with requestBody := none, shared := body.drop e.shared now }
  | .upstream outcome responseStartedAt now =>
    match e.stage with
    | .running (.upstream requestUrl) =>
      some (e.goOn (e.svc.onUpstream requestUrl outcome responseStartedAt now e.shared))
    | _ => none
  | .collected now =>
    match e.stage with
    | .running (.collecting requestUrl response startIndex responseStartedAt) =>
      some (e.goOn (e.svc.onCollected requestUrl response startIndex responseStartedAt now
        response.body.collect e.shared))
    | _ => none
  | .cancel =>
    match e.stage with
    | .running (.upstream _) | .running (.collecting ..) => some { e with stage := .cancelled }
    | _ => none
  | .pollResponse now =>
    match e.stage with
    | .running (.answered response) => some (e.pollResponse response now)
    | _ => none
  | .advance inner =>
    match e.stage with
    | .running (.answered response) =>
      match response.body with
      | .observed body => some (e.serve response (.observed { body with inner }))
      | .generated _ => none
    | _ => none
  | .dropResponse now =>
    match e.stage with
    | .running (.answered response) => some (e.dropResponse response now)
    | _ => none

/-- The effect of each action, from the stage in which it is possible. -/
inductive Effect (e : Exchange) : ExchangeAction → Exchange → Prop
  | pollRequest {body now} (hb : e.requestBody = some body) :
      Effect e (.pollRequest now) { e with
        requestBody := some (body.pollFrame e.shared now).2.1
        shared := (body.pollFrame e.shared now).2.2 }
  | dropRequest {body now} (hb : e.requestBody = some body) :
      Effect e (.dropRequest now) { e with requestBody := none, shared := body.drop e.shared now }
  | upstream {requestUrl outcome startedAt now} (hs : e.stage = .running (.upstream requestUrl)) :
      Effect e (.upstream outcome startedAt now)
        (e.goOn (e.svc.onUpstream requestUrl outcome startedAt now e.shared))
  | collected {requestUrl response startIndex startedAt now}
      (hs : e.stage = .running (.collecting requestUrl response startIndex startedAt)) :
      Effect e (.collected now) (e.goOn (e.svc.onCollected requestUrl response startIndex startedAt
        now response.body.collect e.shared))
  | cancelUpstream {requestUrl} (hs : e.stage = .running (.upstream requestUrl)) :
      Effect e .cancel { e with stage := .cancelled }
  | cancelCollecting {requestUrl response startIndex startedAt}
      (hs : e.stage = .running (.collecting requestUrl response startIndex startedAt)) :
      Effect e .cancel { e with stage := .cancelled }
  | pollResponse {response now} (hs : e.stage = .running (.answered response)) :
      Effect e (.pollResponse now) (e.pollResponse response now)
  | advance {response body inner} (hs : e.stage = .running (.answered response))
      (hb : response.body = .observed body) :
      Effect e (.advance inner) (e.serve response (.observed { body with inner }))
  | dropResponse {response now} (hs : e.stage = .running (.answered response)) :
      Effect e (.dropResponse now) (e.dropResponse response now)

omit [Net] in
/-- **Inversion**: a step has one of the effects. -/
theorem step_effect {e t : Exchange} {a : ExchangeAction} (h : e.step a = some t) : Effect e a t := by
  cases a with
  | pollRequest now =>
    obtain ⟨body, hb, rfl⟩ := Option.map_eq_some_iff.mp h
    exact .pollRequest hb
  | dropRequest now =>
    obtain ⟨body, hb, rfl⟩ := Option.map_eq_some_iff.mp h
    exact .dropRequest hb
  | upstream outcome startedAt now =>
    simp only [step] at h
    split at h
    · next requestUrl hs =>
      obtain rfl := Option.some.inj h
      exact .upstream hs
    · cases h
  | collected now =>
    simp only [step] at h
    split at h
    · next requestUrl response startIndex startedAt hs =>
      obtain rfl := Option.some.inj h
      exact .collected hs
    · cases h
  | cancel =>
    simp only [step] at h
    split at h
    · next requestUrl hs =>
      obtain rfl := Option.some.inj h
      exact .cancelUpstream hs
    · next requestUrl response startIndex startedAt hs =>
      obtain rfl := Option.some.inj h
      exact .cancelCollecting hs
    · cases h
  | pollResponse now =>
    simp only [step] at h
    split at h
    · next response hs =>
      obtain rfl := Option.some.inj h
      exact .pollResponse hs
    · cases h
  | advance inner =>
    simp only [step] at h
    split at h
    · next response hs =>
      split at h
      · next body hb =>
        obtain rfl := Option.some.inj h
        exact .advance hs hb
      · cases h
    · cases h
  | dropResponse now =>
    simp only [step] at h
    split at h
    · next response hs =>
      obtain rfl := Option.some.inj h
      exact .dropResponse hs
    · cases h

end Step

end Exchange

/-- A run of the exchange of the sample request. -/
def sampleRun (cfg : RuntimeConfig) (as : List ExchangeAction) : Option Exchange :=
  letI := sampleNet; letI := sampleGlob; letI := sampleDigest
  Transition.run Exchange.step (.init ⟨cfg⟩ sampleRequest sampleTime ⟨1⟩ ⟨2⟩ sampleTime) as

/-- The upstream answers the sample request with an empty 204. -/
def sampleUpstream : ExchangeAction := .upstream (.response sampleNoContent) sampleTime sampleTime

/-! ### The capture before and after its event -/

namespace SharedExchangeCapture

/-- What the classification of the event depends on. -/
structure Same (x y : SharedExchangeCapture) : Prop where
  sent : y.sent = x.sent
  finalized : y.guard.finalized = x.guard.finalized
  proxyResult : y.guard.proxyResult = x.guard.proxyResult
  error : y.guard.error = x.guard.error
  statusCode : y.guard.statusCode = x.guard.statusCode

theorem Same.refl (x : SharedExchangeCapture) : Same x x := ⟨rfl, rfl, rfl, rfl, rfl⟩

/-- No event was sent, and the capture holds this result, error and status. -/
structure Pending (x : SharedExchangeCapture) (proxyResult : ProxyResult) (error : Option ErrorInfo)
    (statusCode : Option StatusCode) : Prop where
  sent : x.sent = []
  finalized : x.guard.finalized = false
  proxyResult_eq : x.guard.proxyResult = proxyResult
  error_eq : x.guard.error = error
  statusCode_eq : x.guard.statusCode = statusCode

/-- One event was sent, with this result, error and status. -/
structure Sent (x : SharedExchangeCapture) (proxyResult : ProxyResult) (error : Option ErrorInfo)
    (statusCode : Option StatusCode) : Prop where
  finalized : x.guard.finalized = true
  sent : ∃ event, x.sent = [event] ∧ event.proxyResult = proxyResult ∧
    event.errorKind = error.map (·.kind) ∧ event.errorText = error.map (·.text) ∧
    event.statusCode = statusCode

variable {x y : SharedExchangeCapture} {proxyResult : ProxyResult} {error : Option ErrorInfo}
  {statusCode : Option StatusCode}

theorem Pending.congr (h : Same x y) (hx : Pending x proxyResult error statusCode) :
    Pending y proxyResult error statusCode :=
  ⟨h.sent.trans hx.sent, h.finalized.trans hx.finalized, h.proxyResult.trans hx.proxyResult_eq,
    h.error.trans hx.error_eq, h.statusCode.trans hx.statusCode_eq⟩

theorem Sent.congr (h : Same x y) (hx : Sent x proxyResult error statusCode) :
    Sent y proxyResult error statusCode := by
  refine ⟨h.finalized.trans hx.finalized, ?_⟩
  rw [h.sent]
  exact hx.sent

theorem pending_setRejection (hx : Pending x proxyResult error statusCode) (status : StatusCode)
    (err : ErrorInfo) : Pending (x.setRejection status err) .clientRejected (some err) (some status) :=
  ⟨hx.sent, hx.finalized, rfl, rfl, rfl⟩

theorem pending_setUpstreamError (hx : Pending x proxyResult error statusCode) (err : ErrorInfo) :
    Pending (x.setUpstreamError err) .upstreamError (some err) statusCode :=
  ⟨hx.sent, hx.finalized, rfl, rfl, hx.statusCode_eq⟩

theorem pending_setUpstreamResponse {B : Type} (hx : Pending x proxyResult error statusCode)
    (cfg : RuntimeConfig) (resp : Response B) (startedAt : OffsetDateTime) :
    Pending (x.setUpstreamResponse cfg resp startedAt) .success error (some resp.status) :=
  ⟨hx.sent, hx.finalized, rfl, hx.error_eq, rfl⟩

theorem pending_setBodyError (hx : Pending x proxyResult none statusCode) (err : ErrorInfo) :
    Pending (x.setBodyError err) .streamError (some err) statusCode := by
  unfold setBodyError
  rw [hx.error_eq]
  exact ⟨hx.sent, hx.finalized, rfl, rfl, hx.statusCode_eq⟩

theorem setBodyError_frame (x : SharedExchangeCapture) (err : ErrorInfo) :
    (x.setBodyError err).sent = x.sent ∧
      (x.setBodyError err).guard.finalized = x.guard.finalized := by
  unfold setBodyError
  split <;> exact ⟨rfl, rfl⟩

variable [Digest]

/-- The first finalization sends one event. -/
theorem sent_finalize (hx : Pending x proxyResult error statusCode) (now : OffsetDateTime) :
    Sent (x.finalizeAndSend now) proxyResult error statusCode := by
  unfold finalizeAndSend
  rw [if_neg (by rw [hx.finalized]; simp)]
  refine ⟨rfl, { x.guard with finalized := true }.buildEvent now, ?_, hx.proxyResult_eq, ?_, ?_,
    hx.statusCode_eq⟩
  · show x.sent ++ [_] = [_]
    rw [hx.sent, List.nil_append]
  · rw [← hx.error_eq]
    rfl
  · rw [← hx.error_eq]
    rfl

theorem sent_finalizeWithBodyError (hx : Pending x proxyResult none statusCode) (err : ErrorInfo)
    (now : OffsetDateTime) :
    Sent (x.finalizeWithBodyErrorAndSend err now) .streamError (some err) statusCode :=
  sent_finalize (pending_setBodyError hx err) now

/-- Later finalizations change neither the events nor the flag. -/
theorem finalize_of_finalized (h : x.guard.finalized = true) (now : OffsetDateTime) :
    x.finalizeAndSend now = x := by
  unfold finalizeAndSend
  rw [if_pos h]

theorem finalizeWithBodyError_of_finalized (h : x.guard.finalized = true) (err : ErrorInfo)
    (now : OffsetDateTime) : (x.finalizeWithBodyErrorAndSend err now).sent = x.sent ∧
      (x.finalizeWithBodyErrorAndSend err now).guard.finalized = true := by
  obtain ⟨hs, hf⟩ := setBodyError_frame x err
  unfold finalizeWithBodyErrorAndSend
  rw [finalize_of_finalized (hf.trans h)]
  exact ⟨hs, hf.trans h⟩

theorem Sent.finalizeWithBodyError (hx : Sent x proxyResult error statusCode) (err : ErrorInfo)
    (now : OffsetDateTime) :
    Sent (x.finalizeWithBodyErrorAndSend err now) proxyResult error statusCode := by
  obtain ⟨hs, hf⟩ := finalizeWithBodyError_of_finalized hx.finalized err now
  refine ⟨hf, ?_⟩
  rw [hs]
  exact hx.sent

end SharedExchangeCapture

end KidProxy
