import KidProxy.ExchangeLog

/-!
# ExchangeRecord — what the event of an exchange says

`event_describes_exchange` gives the event of every run in closed form: it is built from the capture of
the request as it was received, changed by the outcome of the exchange, where a response is recorded
with the head that the client got, and every error is that of the step that met it.  The body columns are
the only ones left open here.  The times of the event are those of the run, so that with a clock that does
not go back its three durations fit together.
-/

namespace KidProxy

open Transition

/-! ### Captures that differ in the bodies -/

/-- The same record, but for the bodies seen and the flag that the event was sent. -/
def ExchangeCapture.Alike (c d : ExchangeCapture) : Prop :=
  ∃ requestBody responseBody finalized, c = { d with requestBody, responseBody, finalized }

namespace ExchangeCapture

variable {c d f : ExchangeCapture}

theorem Alike.refl (c : ExchangeCapture) : Alike c c := ⟨_, _, _, rfl⟩

theorem Alike.trans (h : Alike c d) (h' : Alike d f) : Alike c f := by
  obtain ⟨rb, sb, fin, rfl⟩ := h
  obtain ⟨rb', sb', fin', rfl⟩ := h'
  exact ⟨rb, sb, fin, rfl⟩

theorem Alike.buildEvent [Digest] (h : Alike c d) (now : OffsetDateTime) :
    ∃ requestBody responseBody, c.buildEvent now = { d with requestBody, responseBody }.buildEvent now := by
  obtain ⟨rb, sb, fin, rfl⟩ := h
  exact ⟨rb, sb, rfl⟩

end ExchangeCapture

open ExchangeCapture (Alike)

/-! ### How a body and an exchange end -/

namespace ObservedBody

/-- What the next poll ends the body with: an error, or nothing; `none` where the body goes on. -/
def pollEnd (body : ObservedBody Body) : Option (Option ErrorInfo) :=
  match (StreamingBody.pollFrame body.inner).1 with
  | .err err => some (some ⟨.upstreamProtocol, err⟩)
  | .done => some none
  | .pending | .frame _ => none

/-- A body that was not read to its end is cut off by its drop. -/
def dropEnd (body : ObservedBody Body) : Option ErrorInfo :=
  if body.completed then none else some ⟨.clientProtocol, "response body dropped before completion"⟩

end ObservedBody

namespace ProxyService

variable [Net] [Glob] (svc : ProxyService)

/-- The status and the error with which a request is turned away. -/
def rejection (req : Request Body) : Option (StatusCode × ErrorInfo) :=
  if hostMatchesFrontend req svc.cfg.frontendDomain then
    match svc.cfg.buildBackendUri (req.uri.path.getD "/") req.uri.query with
    | .ok _ => none
    | .error err =>
      some (.badRequest, ⟨.config, s!"failed to construct upstream URI: {err.message}"⟩)
  else
    some (.misdirectedRequest,
      ⟨.clientProtocol, "request host does not match configured frontend domain"⟩)

omit [Net] in
/-- The error of an upstream call, or of the rules on the head of its response. -/
def upstreamFailure (requestUrl : String) : UpstreamOutcome → Option ErrorInfo
  | .error text => some ⟨.upstreamProtocol, text⟩
  | .timeout => some ⟨.timeout, "upstream request timed out"⟩
  | .response response =>
    match (svc.cfg.transforms.applyUntilBody requestUrl (stripHopByHopHeaders response.headers)).1 with
    | .error err => some ⟨.internal, err.message⟩
    | .ok _ => none

omit [Net] in
/-- The error of collecting a response body, or of the rules on it. -/
def collectFailure (requestUrl : String) (response : Response Body) (startIndex : ℕ) : Option ErrorInfo :=
  match response.body.collect with
  | .error err => some ⟨.upstreamProtocol, err⟩
  | .ok bytes =>
    match svc.cfg.transforms.applyWithBody startIndex requestUrl response.headers bytes with
    | (.error err, _) => some ⟨.internal, err.message⟩
    | (.ok _, _, body) =>
      match HeaderValue.fromStr (Nat.toDigits 10 body.length) with
      | some _ => none
      | none =>
        some ⟨.internal, "failed to build content-length header: failed to parse header value"⟩

end ProxyService

namespace Exchange

variable [Glob]

/-- The error with which the step gives up the call of the upstream. -/
def failure (e : Exchange) (a : ExchangeAction) : Option ErrorInfo :=
  match e.stage, a with
  | .running (.upstream requestUrl), .upstream outcome _ _ => e.svc.upstreamFailure requestUrl outcome
  | .running (.collecting requestUrl response startIndex _), .collected _ =>
    e.svc.collectFailure requestUrl response startIndex
  | _, _ => none

omit [Glob] in
/-- What the step ends the body of the response with. -/
def bodyEnd (e : Exchange) (a : ExchangeAction) : Option (Option ErrorInfo) :=
  match e.stage, a with
  | .running (.answered ⟨_, _, _, .observed body⟩), .pollResponse _ => body.pollEnd
  | .running (.answered ⟨_, _, _, .observed body⟩), .dropResponse _ => some body.dropEnd
  | _, _ => none

end Exchange

namespace SharedExchangeCapture

variable {x y : SharedExchangeCapture}

theorem alike_setUpstreamError (h : Alike x.guard y.guard) (err : ErrorInfo) :
    Alike (x.setUpstreamError err).guard (y.setUpstreamError err).guard := by
  obtain ⟨rb, sb, fin, h⟩ := h
  refine ⟨rb, sb, fin, ?_⟩
  unfold setUpstreamError
  rw [h]

/-- The recorded response is its head: the body is not looked at. -/
theorem alike_setUpstreamResponse {B : Type} (h : Alike x.guard y.guard) (cfg : RuntimeConfig)
    (status : StatusCode) (version : Version) (headers : HeaderMap) (body : B)
    (startedAt : OffsetDateTime) :
    Alike (x.setUpstreamResponse cfg ⟨status, version, headers, body⟩ startedAt).guard
      (y.setUpstreamResponse cfg (⟨status, version, headers, ()⟩ : Response Unit) startedAt).guard := by
  obtain ⟨rb, sb, fin, h⟩ := h
  refine ⟨rb, sb, fin, ?_⟩
  unfold setUpstreamResponse
  rw [h]

/-- The end of a response body, with the error it ended in. -/
def endWith (x : SharedExchangeCapture) : Option ErrorInfo → SharedExchangeCapture
  | none => x
  | some err => x.setBodyError err

theorem alike_endWith (h : Alike x.guard y.guard) (err : Option ErrorInfo) :
    Alike (x.endWith err).guard (y.endWith err).guard := by
  cases err with
  | none => exact h
  | some err =>
    obtain ⟨rb, sb, fin, h⟩ := h
    show Alike (x.setBodyError err).guard (y.setBodyError err).guard
    unfold setBodyError
    rw [h]
    cases y.guard.error with
    | none => exact ⟨rb, sb, fin, rfl⟩
    | some _ => exact ⟨rb, sb, fin, h⟩

theorem endWith_frame (x : SharedExchangeCapture) (err : Option ErrorInfo) :
    (x.endWith err).sent = x.sent ∧ (x.endWith err).guard.finalized = x.guard.finalized := by
  cases err with
  | none => exact ⟨rfl, rfl⟩
  | some err => exact x.setBodyError_frame err

variable [Digest]

theorem sent_finalizeAndSend (hf : x.guard.finalized = false) (hs : x.sent = []) (now : OffsetDateTime) :
    (x.finalizeAndSend now).sent = [x.guard.buildEvent now] := by
  unfold finalizeAndSend
  rw [if_neg (by rw [hf]; exact Bool.false_ne_true)]
  show x.sent ++ [_] = [_]
  rw [hs]
  rfl

/-- Bytes were observed, or the body came to this end. -/
def Progress (x z : SharedExchangeCapture) (ended : Option (Option ErrorInfo)) (now : OffsetDateTime) :
    Prop :=
  (z.sent = x.sent ∧ z.guard.finalized = x.guard.finalized ∧ Alike z.guard x.guard) ∨
    ∃ err, ended = some err ∧ z = (x.endWith err).finalizeAndSend now

theorem progress_pollFrame (body : ObservedBody Body) (x : SharedExchangeCapture) (now : OffsetDateTime) :
    x.Progress (body.pollFrame x now).2.2 body.pollEnd now := by
  unfold ObservedBody.pollFrame ObservedBody.pollEnd
  rcases StreamingBody.pollFrame body.inner with ⟨_ | frame | err | _, inner⟩
  · exact .inl ⟨rfl, rfl, .refl _⟩
  · cases frame with
    | data bytes =>
      cases hd : body.direction with
      | request => exact .inl ⟨rfl, rfl, _, _, _, rfl⟩
      | response => exact .inl ⟨rfl, rfl, _, _, _, rfl⟩
    | trailers headers => exact .inl ⟨rfl, rfl, .refl _⟩
  · dsimp only
    split_ifs with hf
    · exact .inr ⟨some ⟨.upstreamProtocol, err⟩, rfl, rfl⟩
    · exact .inl ⟨rfl, rfl, .refl _⟩
  · dsimp only
    split_ifs with hf
    · exact .inr ⟨none, rfl, rfl⟩
    · exact .inl ⟨rfl, rfl, .refl _⟩

/-- The request body only observes. -/
theorem alike_pollFrame_request {body : ObservedBody Body} (hd : body.direction = .request)
    (x : SharedExchangeCapture) (now : OffsetDateTime) :
    (body.pollFrame x now).2.2.sent = x.sent ∧
      (body.pollFrame x now).2.2.guard.finalized = x.guard.finalized ∧
      Alike (body.pollFrame x now).2.2.guard x.guard := by
  have hsame := (pollFrame_request hd x now).2
  refine ⟨hsame.sent, hsame.finalized, ?_⟩
  unfold ObservedBody.pollFrame
  rcases StreamingBody.pollFrame body.inner with ⟨_ | frame | err | _, inner⟩
  · exact .refl _
  · cases frame with
    | data bytes =>
      simp only [Frame.dataRef, hd]
      exact ⟨_, _, _, rfl⟩
    | trailers headers => exact .refl _
  · simp only [hd]
    exact .refl _
  · simp only [hd]
    exact .refl _

theorem progress_drop (body : ObservedBody Body) (x : SharedExchangeCapture) (now : OffsetDateTime) :
    x.Progress (body.drop x now) (some body.dropEnd) now := by
  unfold ObservedBody.drop
  split_ifs with hd hc
  · exact .inr ⟨none, congrArg some (if_pos hc), rfl⟩
  · exact .inr ⟨some ⟨.clientProtocol, "response body dropped before completion"⟩,
      congrArg some (if_neg hc), rfl⟩
  · exact .inl ⟨rfl, rfl, .refl _⟩

end SharedExchangeCapture

/-! ### The outcome of an exchange -/

/-- What became of an exchange that has sent its event: the proxy rejected it, the upstream failed, or
the client was handed a response, whose body may have ended in an error. -/
inductive Outcome
  | rejected (status : StatusCode) (error : ErrorInfo)
  | failed (error : ErrorInfo)
  | handed (head : Response Unit) (responseStartedAt : OffsetDateTime) (error : Option ErrorInfo)

/-- The capture `x` of the request with the outcome recorded. -/
def Outcome.record (cfg : RuntimeConfig) (x : SharedExchangeCapture) : Outcome → SharedExchangeCapture
  | .rejected status error => x.setRejection status error
  | .failed error => x.setUpstreamError error
  | .handed head startedAt error => (x.setUpstreamResponse cfg head startedAt).endWith error

/-- The readings of the clock in an action; the request body never reads it. -/
def ExchangeAction.clock : ExchangeAction → List OffsetDateTime
  | .upstream _ responseStartedAt now => [responseStartedAt, now]
  | .collected now | .pollResponse now | .dropResponse now => [now]
  | .pollRequest _ | .dropRequest _ | .cancel | .advance _ => []

section Story

variable [Glob] [Digest]

/-- At some point of the run the client held a response with this head, whose body is observed. -/
def Exchange.Answered (start : Exchange) (as : List ExchangeAction) (head : Response Unit) : Prop :=
  ∃ bs s body, bs <+: as ∧ run Exchange.step start bs = some s ∧
    s.stage = .running (.answered ⟨head.status, head.version, head.headers, .observed body⟩)

/-- The step of the run that met this: it was taken before any event was sent, and the event was built at
its last reading of the clock. -/
def Exchange.EndedBy (start : Exchange) (as : List ExchangeAction) (endedAt : OffsetDateTime)
    (met : Exchange → ExchangeAction → Prop) : Prop :=
  ∃ bs s a, bs ++ [a] <+: as ∧ run Exchange.step start bs = some s ∧ s.shared.sent = [] ∧
    a.clock.getLast? = some endedAt ∧ met s a

/-- The outcome is one of the run, and the event was built at `endedAt` in it. -/
def Outcome.Fits [Net] (req : Request Body) (start : Exchange) (now : OffsetDateTime)
    (as : List ExchangeAction) (endedAt : OffsetDateTime) : Outcome → Prop
  | .rejected status error => start.svc.rejection req = some (status, error) ∧ endedAt = now
  | .failed error => start.EndedBy as endedAt fun s a => s.failure a = some error
  | .handed head startedAt error => start.Answered as head ∧
      [startedAt, endedAt].Sublist (as.flatMap ExchangeAction.clock) ∧
      start.EndedBy as endedAt fun s a => s.bodyEnd a = some error

theorem Exchange.EndedBy.mono {start : Exchange} {as bs : List ExchangeAction} {endedAt : OffsetDateTime}
    {met : Exchange → ExchangeAction → Prop} (h : start.EndedBy as endedAt met) :
    start.EndedBy (as ++ bs) endedAt met := by
  obtain ⟨cs, s, a, hcs, hrest⟩ := h
  exact ⟨cs, s, a, hcs.trans (List.prefix_append _ _), hrest⟩

/-- The event is built at a reading of the clock. -/
theorem Exchange.EndedBy.mem_clock {start : Exchange} {as : List ExchangeAction} {endedAt : OffsetDateTime}
    {met : Exchange → ExchangeAction → Prop} (h : start.EndedBy as endedAt met) :
    endedAt ∈ as.flatMap ExchangeAction.clock := by
  obtain ⟨cs, s, a, hcs, -, -, hlast, -⟩ := h
  have hmem : a ∈ as := hcs.subset (List.mem_append_right cs (List.mem_singleton_self a))
  exact List.mem_flatMap.mpr ⟨a, hmem, List.mem_of_getLast? hlast⟩

namespace Exchange

variable [Net]

/-- What the capture holds while no event was sent, by the place where the exchange stands. -/
def Underway (cfg : RuntimeConfig) (first : SharedExchangeCapture) (as : List ExchangeAction)
    (c : ExchangeCapture) : Stage → Prop
  | .running (.answered ⟨status, version, headers, .observed _⟩) =>
    ∃ startedAt ∈ as.flatMap ExchangeAction.clock,
      Alike c (first.setUpstreamResponse cfg (⟨status, version, headers, ()⟩ : Response Unit)
        startedAt).guard
  | .running (.collecting _ _ _ startedAt) =>
    startedAt ∈ as.flatMap ExchangeAction.clock ∧ Alike c first.guard
  | _ => Alike c first.guard

/-- The event is built from the capture of the request and an outcome of the run. -/
def Told (cfg : RuntimeConfig) (first : SharedExchangeCapture) (req : Request Body) (start : Exchange)
    (now : OffsetDateTime) (as : List ExchangeAction) (event : ProxyEvent) : Prop :=
  ∃ outcome endedAt requestBody responseBody,
    event = { (Outcome.record cfg first outcome).guard with requestBody, responseBody }.buildEvent endedAt ∧
      outcome.Fits req start now as endedAt

/-- The invariant, over the run `as` from `start`. -/
structure Story (first : SharedExchangeCapture) (req : Request Body) (start : Exchange)
    (now : OffsetDateTime) (as : List ExchangeAction) (e : Exchange) : Prop where
  good : Good e
  svc : e.svc = start.svc
  called : e.called = start.called
  run : run step start as = some e
  underway : e.shared.guard.finalized = false → Underway start.svc.cfg first as e.shared.guard e.stage
  told : ∀ event ∈ e.shared.sent, Told start.svc.cfg first req start now as event

variable {first : SharedExchangeCapture} {req : Request Body} {start e t : Exchange} {now : OffsetDateTime}
  {as : List ExchangeAction} {cfg : RuntimeConfig}

omit [Net] in
theorem Answered.mono {head : Response Unit} {bs : List ExchangeAction} (h : start.Answered as head) :
    start.Answered (as ++ bs) head := by
  obtain ⟨cs, s, body, hcs, hs, hstage⟩ := h
  exact ⟨cs, s, body, hcs.trans (List.prefix_append _ _), hs, hstage⟩

theorem Told.mono {event : ProxyEvent} {bs : List ExchangeAction}
    (h : Told cfg first req start now as event) : Told cfg first req start now (as ++ bs) event := by
  obtain ⟨outcome, endedAt, rb, sb, hevent, hfits⟩ := h
  refine ⟨outcome, endedAt, rb, sb, hevent, ?_⟩
  cases outcome with
  | rejected status err => exact hfits
  | failed err => exact hfits.mono
  | handed head startedAt err =>
    refine ⟨hfits.1.mono, ?_, hfits.2.2.mono⟩
    rw [List.flatMap_append]
    exact hfits.2.1.trans (List.sublist_append_left _ _)

omit [Glob] [Digest] [Net] in
theorem Underway.mono {c : ExchangeCapture} {stage : Stage} {bs : List ExchangeAction}
    (h : Underway cfg first as c stage) : Underway cfg first (as ++ bs) c stage := by
  have hmem : ∀ u ∈ as.flatMap ExchangeAction.clock, u ∈ (as ++ bs).flatMap ExchangeAction.clock := by
    intro u hu
    rw [List.flatMap_append]
    exact List.mem_append_left _ hu
  rcases stage with (_ | _ | ⟨status, version, headers, _ | _⟩) | _ | _
  · exact h
  · exact ⟨hmem _ h.1, h.2⟩
  · exact h
  · obtain ⟨startedAt, hs, ha⟩ := h
    exact ⟨startedAt, hmem _ hs, ha⟩
  · exact h
  · exact h

omit [Glob] [Digest] [Net] in
theorem Underway.alike {c d : ExchangeCapture} {stage : Stage} (h : Underway cfg first as c stage)
    (hd : Alike d c) : Underway cfg first as d stage := by
  rcases stage with (_ | _ | ⟨status, version, headers, _ | _⟩) | _ | _
  · exact hd.trans h
  · exact ⟨h.1, hd.trans h.2⟩
  · exact hd.trans h
  · obtain ⟨startedAt, hs, ha⟩ := h
    exact ⟨startedAt, hs, hd.trans ha⟩
  · exact hd.trans h
  · exact hd.trans h

/-- A step of an exchange is the last one of the run. -/
theorem Story.run_step {a : ExchangeAction} (h : Story first req start now as e) (hs : e.step a = some t) :
    Transition.run step start (as ++ [a]) = some t := by
  refine run_append_some h.run ?_
  rw [run_cons, hs]
  rfl

omit [Glob] [Digest] [Net] in
theorem Good.called_of_upstream {requestUrl : String} (h : Good e)
    (hs : e.stage = .running (.upstream requestUrl)) :
    e.called = true ∧ e.shared.Pending .inflight none none := by
  obtain ⟨hp, -⟩ := h.stage.phase hs
  cases hp with
  | upstream hc hpolls hx => exact ⟨hc, hx⟩

omit [Glob] [Digest] [Net] in
theorem Good.called_of_collecting {requestUrl : String} {response : Response Body} {startIndex : ℕ}
    {startedAt : OffsetDateTime} (h : Good e)
    (hs : e.stage = .running (.collecting requestUrl response startIndex startedAt)) :
    e.called = true ∧ e.shared.Pending .inflight none none := by
  obtain ⟨hp, -⟩ := h.stage.phase hs
  cases hp with
  | collecting hc hpolls hx => exact ⟨hc, hx⟩

/-- A failure after the upstream was called. -/
theorem told_failed {x : SharedExchangeCapture} (hx : x.Pending .inflight none none)
    (halike : Alike x.guard first.guard) (err : ErrorInfo) {endedAt : OffsetDateTime}
    (hend : start.EndedBy as endedAt fun s a => s.failure a = some err) :
    ∀ event ∈ ((x.setUpstreamError err).finalizeAndSend endedAt).sent,
      Told cfg first req start now as event := by
  intro event hevent
  have hsent : ((x.setUpstreamError err).finalizeAndSend endedAt).sent =
      [(x.setUpstreamError err).guard.buildEvent endedAt] :=
    SharedExchangeCapture.sent_finalizeAndSend (x := x.setUpstreamError err) hx.finalized hx.sent endedAt
  rw [hsent, List.mem_singleton] at hevent
  obtain ⟨rb, sb, hbuild⟩ := (SharedExchangeCapture.alike_setUpstreamError halike err).buildEvent endedAt
  exact ⟨.failed err, endedAt, rb, sb, hevent.trans hbuild, hend⟩

omit [Glob] [Net] in
theorem finalized_finalizeAndSend (x : SharedExchangeCapture) (now : OffsetDateTime) :
    (x.finalizeAndSend now).guard.finalized = true := by
  unfold SharedExchangeCapture.finalizeAndSend
  split_ifs with h
  · exact h
  · rfl

/-- A poll or the drop of the response body that the client holds. -/
theorem told_progress {x z : SharedExchangeCapture} {head : Response Unit}
    {ended : Option (Option ErrorInfo)} {endedAt : OffsetDateTime} (hprog : x.Progress z ended endedAt)
    (hans : start.Answered as head)
    (hend : x.sent = [] → ∀ err, ended = some err →
      start.EndedBy as endedAt fun s a => s.bodyEnd a = some err)
    (hopen : x.guard.finalized = false → x.sent = [] ∧ ∃ startedAt,
      Alike x.guard (first.setUpstreamResponse cfg head startedAt).guard ∧
        [startedAt, endedAt].Sublist (as.flatMap ExchangeAction.clock))
    (htold : ∀ event ∈ x.sent, Told cfg first req start now as event) :
    (∀ event ∈ z.sent, Told cfg first req start now as event) ∧
      (z.guard.finalized = false → x.guard.finalized = false ∧ Alike z.guard x.guard) := by
  rcases hprog with ⟨hsent, hfin, halike⟩ | ⟨err, hended, rfl⟩
  · rw [hsent, hfin]
    exact ⟨htold, fun hf => ⟨hf, halike⟩⟩
  · obtain ⟨hsent, hfin⟩ := x.endWith_frame err
    refine ⟨fun event hevent => ?_, fun hf => ?_⟩
    · by_cases hf : x.guard.finalized = true
      · rw [SharedExchangeCapture.finalize_of_finalized (hfin.trans hf), hsent] at hevent
        exact htold event hevent
      · have hf : x.guard.finalized = false := by simpa using hf
        obtain ⟨hnil, startedAt, halike, hsub⟩ := hopen hf
        rw [SharedExchangeCapture.sent_finalizeAndSend (hfin.trans hf) (hsent.trans hnil),
          List.mem_singleton] at hevent
        obtain ⟨rb, sb, hbuild⟩ :=
          (SharedExchangeCapture.alike_endWith halike err).buildEvent endedAt
        exact ⟨.handed head startedAt err, endedAt, rb, sb, hevent.trans hbuild, hans, hsub,
          hend hnil err hended⟩
    · rw [finalized_finalizeAndSend] at hf
      cases hf

/-- What a part of `handle` after the call of the upstream leaves. -/
def Continues (first : SharedExchangeCapture) (req : Request Body) (start : Exchange)
    (now : OffsetDateTime) (as : List ExchangeAction) (next : SharedExchangeCapture × Handling) : Prop :=
  (∀ event ∈ next.1.sent, Told start.svc.cfg first req start now as event) ∧
    (next.1.guard.finalized = false →
      Underway start.svc.cfg first as next.1.guard (.running next.2))

theorem continues_answerError {x : SharedExchangeCapture} (hx : x.Pending .inflight none none)
    (halike : Alike x.guard first.guard) (err : ErrorInfo) {endedAt : OffsetDateTime}
    (hend : start.EndedBy as endedAt fun s a => s.failure a = some err) (status : StatusCode)
    (message : String) : Continues first req start now as
      (ProxyService.answerError (x.setUpstreamError err) status message endedAt) := by
  refine ⟨told_failed hx halike err hend, fun hf => ?_⟩
  have hfin := finalized_finalizeAndSend (x.setUpstreamError err) endedAt
  rw [show ((x.setUpstreamError err).finalizeAndSend endedAt).guard.finalized = false from hf] at hfin
  cases hfin

theorem continues_serve {x : SharedExchangeCapture} (hx : x.Pending .inflight none none)
    (halike : Alike x.guard first.guard) {startedAt : OffsetDateTime}
    (hmem : startedAt ∈ as.flatMap ExchangeAction.clock) (status : StatusCode) (version : Version)
    (headers : HeaderMap) (body : ObservedBody Body) : Continues first req start now as
      (x.setUpstreamResponse start.svc.cfg
          (⟨status, version, headers, .observed body⟩ : Response ServedBody) startedAt,
        .answered ⟨status, version, headers, .observed body⟩) := by
  refine ⟨fun event hevent => ?_, fun _ => ⟨startedAt, hmem, ?_⟩⟩
  · rw [show (x.setUpstreamResponse start.svc.cfg
      (⟨status, version, headers, .observed body⟩ : Response ServedBody) startedAt).sent = [] from
      hx.sent] at hevent
    exact absurd hevent List.not_mem_nil
  · exact SharedExchangeCapture.alike_setUpstreamResponse halike _ status version headers _ startedAt

theorem continues_onUpstream {x : SharedExchangeCapture} (hx : x.Pending .inflight none none)
    (halike : Alike x.guard first.guard) (requestUrl : String) (outcome : UpstreamOutcome)
    {startedAt endedAt : OffsetDateTime} (hstarted : startedAt ∈ as.flatMap ExchangeAction.clock)
    (hend : ∀ err, start.svc.upstreamFailure requestUrl outcome = some err →
      start.EndedBy as endedAt fun s a => s.failure a = some err) :
    Continues first req start now as (start.svc.onUpstream requestUrl outcome startedAt endedAt x) := by
  cases outcome with
  | error text => exact continues_answerError hx halike _ (hend _ rfl) _ _
  | timeout => exact continues_answerError hx halike _ (hend _ rfl) _ _
  | response response =>
    unfold ProxyService.onUpstream
    simp only
    rcases hpass : start.svc.cfg.transforms.applyUntilBody requestUrl
      (stripHopByHopHeaders response.headers) with ⟨_ | ⟨_ | startIndex, headersChanged⟩, headers⟩
    · refine continues_answerError hx halike _ (hend _ ?_) _ _
      unfold ProxyService.upstreamFailure
      simp only [hpass]
    · exact continues_serve hx halike hstarted _ _ _ _
    · refine ⟨fun event hevent => ?_, fun _ => ⟨hstarted, halike⟩⟩
      rw [show x.sent = [] from hx.sent] at hevent
      exact absurd hevent List.not_mem_nil

theorem continues_onCollected {x : SharedExchangeCapture} (hx : x.Pending .inflight none none)
    (halike : Alike x.guard first.guard) (requestUrl : String) (response : Response Body) (startIndex : ℕ)
    {startedAt endedAt : OffsetDateTime} (hstarted : startedAt ∈ as.flatMap ExchangeAction.clock)
    (hend : ∀ err, start.svc.collectFailure requestUrl response startIndex = some err →
      start.EndedBy as endedAt fun s a => s.failure a = some err) :
    Continues first req start now as
      (start.svc.onCollected requestUrl response startIndex startedAt endedAt response.body.collect x) := by
  unfold ProxyService.onCollected
  cases hcollect : response.body.collect with
  | error err =>
    refine continues_answerError hx halike _ (hend _ ?_) _ _
    unfold ProxyService.collectFailure
    simp only [hcollect]
  | ok bytes =>
    simp only
    rcases hpass : start.svc.cfg.transforms.applyWithBody startIndex requestUrl response.headers bytes with
      ⟨_ | outcome, headers, body⟩
    · refine continues_answerError hx halike _ (hend _ ?_) _ _
      unfold ProxyService.collectFailure
      simp only [hcollect, hpass]
    · simp only
      cases hlength : HeaderValue.fromStr (Nat.toDigits 10 body.length) with
      | none =>
        refine continues_answerError hx halike _ (hend _ ?_) _ _
        unfold ProxyService.collectFailure
        simp only [hcollect, hpass, hlength]
      | some contentLength => exact continues_serve hx halike hstarted _ _ _ _

omit [Glob] [Digest] [Net] in
theorem bodyEnd_poll {status : StatusCode} {version : Version} {headers : HeaderMap}
    {body : ObservedBody Body}
    (hst : e.stage = .running (.answered ⟨status, version, headers, .observed body⟩))
    (now : OffsetDateTime) : e.bodyEnd (.pollResponse now) = body.pollEnd := by
  simp only [bodyEnd, hst]

omit [Glob] [Digest] [Net] in
theorem bodyEnd_drop {status : StatusCode} {version : Version} {headers : HeaderMap}
    {body : ObservedBody Body}
    (hst : e.stage = .running (.answered ⟨status, version, headers, .observed body⟩))
    (now : OffsetDateTime) : e.bodyEnd (.dropResponse now) = some body.dropEnd := by
  simp only [bodyEnd, hst]

/-- A poll or the drop of the response body, as the last action of the run. -/
theorem Story.progress {a : ExchangeAction} {status : StatusCode} {version : Version}
    {headers : HeaderMap} {body : ObservedBody Body} {z : SharedExchangeCapture}
    {endedAt : OffsetDateTime} (h : Story first req start now as e)
    (hst : e.stage = .running (.answered ⟨status, version, headers, .observed body⟩))
    (ha : a.clock = [endedAt]) (hprog : e.shared.Progress z (e.bodyEnd a) endedAt) :
    (∀ event ∈ z.sent, Told start.svc.cfg first req start now (as ++ [a]) event) ∧
      (z.guard.finalized = false → Underway start.svc.cfg first (as ++ [a]) z.guard e.stage) := by
  have hunder : e.shared.guard.finalized = false →
      Underway start.svc.cfg first as e.shared.guard e.stage := h.underway
  have hans : start.Answered (as ++ [a]) ⟨status, version, headers, ()⟩ :=
    ⟨as, e, body, List.prefix_append _ _, h.run, hst⟩
  have hopen : e.shared.guard.finalized = false → e.shared.sent = [] ∧ ∃ startedAt,
      Alike e.shared.guard (first.setUpstreamResponse start.svc.cfg
          (⟨status, version, headers, ()⟩ : Response Unit) startedAt).guard ∧
        [startedAt, endedAt].Sublist ((as ++ [a]).flatMap ExchangeAction.clock) := by
    intro hf
    have hsent : e.shared.sent = [] := by
      rcases h.good.sent with hs | ⟨hfin, -⟩
      · exact hs
      · rw [hf] at hfin
        cases hfin
    have hu := hunder hf
    rw [hst] at hu
    obtain ⟨startedAt, hmem, halike⟩ := hu
    refine ⟨hsent, startedAt, halike, ?_⟩
    rw [List.flatMap_append, List.flatMap_singleton, ha]
    exact (List.singleton_sublist.mpr hmem).append (List.Sublist.refl [endedAt])
  have hend : e.shared.sent = [] → ∀ err, e.bodyEnd a = some err →
      start.EndedBy (as ++ [a]) endedAt fun s a => s.bodyEnd a = some err := fun hnil err herr =>
    ⟨as, e, a, List.prefix_refl _, h.run, hnil, by rw [ha]; rfl, herr⟩
  obtain ⟨htold, hlater⟩ := told_progress hprog hans hend hopen
    (fun event hevent => (h.told event hevent).mono)
  exact ⟨htold, fun hf => ((hunder (hlater hf).1).mono).alike (hlater hf).2⟩

/-- The part of `handle` from the outcome of the upstream call, as the last action of the run. -/
theorem Story.continues_upstream (h : Story first req start now as e) {requestUrl : String}
    (hst : e.stage = .running (.upstream requestUrl)) (outcome : UpstreamOutcome)
    (startedAt endedAt : OffsetDateTime) :
    Continues first req start now (as ++ [.upstream outcome startedAt endedAt])
      (e.svc.onUpstream requestUrl outcome startedAt endedAt e.shared) := by
  obtain ⟨-, hx⟩ := h.good.called_of_upstream hst
  have halike : Alike e.shared.guard first.guard := by
    have hu := h.underway hx.finalized
    rwa [hst] at hu
  rw [h.svc]
  refine continues_onUpstream hx halike requestUrl outcome (by simp [ExchangeAction.clock])
    fun err herr => ⟨as, e, _, List.prefix_refl _, h.run, hx.sent, rfl, ?_⟩
  rw [← h.svc] at herr
  simp only [failure, hst, herr]

/-- The part from the collected body. -/
theorem Story.continues_collected (h : Story first req start now as e) {requestUrl : String}
    {response : Response Body} {startIndex : ℕ} {startedAt : OffsetDateTime}
    (hst : e.stage = .running (.collecting requestUrl response startIndex startedAt))
    (endedAt : OffsetDateTime) :
    Continues first req start now (as ++ [.collected endedAt])
      (e.svc.onCollected requestUrl response startIndex startedAt endedAt response.body.collect
        e.shared) := by
  obtain ⟨-, hx⟩ := h.good.called_of_collecting hst
  have hu := h.underway hx.finalized
  rw [hst] at hu
  have hstarted : startedAt ∈ (as ++ [ExchangeAction.collected endedAt]).flatMap ExchangeAction.clock := by
    rw [List.flatMap_append]
    exact List.mem_append_left _ hu.1
  rw [h.svc]
  refine continues_onCollected hx hu.2 requestUrl response startIndex hstarted
    fun err herr => ⟨as, e, _, List.prefix_refl _, h.run, hx.sent, rfl, ?_⟩
  rw [← h.svc] at herr
  simp only [failure, hst, herr]

/-- A step that leaves the capture alone. -/
theorem Story.untouched {a : ExchangeAction} (h : Story first req start now as e) (hs : e.step a = some t)
    (hshared : t.shared = e.shared) (hsvc : t.svc = e.svc) (hcalled : t.called = e.called)
    (hstage : Underway start.svc.cfg first (as ++ [a]) e.shared.guard e.stage →
      Underway start.svc.cfg first (as ++ [a]) e.shared.guard t.stage) :
    Story first req start now (as ++ [a]) t where
  good := good_step h.good hs
  svc := hsvc.trans h.svc
  called := hcalled.trans h.called
  run := h.run_step hs
  underway hf := by
    rw [hshared] at hf ⊢
    exact hstage (h.underway hf).mono
  told event hevent := (h.told event (hshared ▸ hevent)).mono

omit [Glob] [Digest] [Net] in
/-- A closed exchange has sent its event. -/
theorem Good.finalized_of_closed (h : Good e) (hclosed : e.stage = .closed) :
    e.shared.guard.finalized = true := by
  obtain ⟨event, hsent⟩ := h.sent_closed hclosed
  rcases h.sent with hnil | ⟨hfin, -⟩
  · rw [hnil] at hsent
    cases hsent
  · exact hfin

/-- **Step lemma**. -/
theorem story_step {a : ExchangeAction} (h : Story first req start now as e) (hs : e.step a = some t) :
    Story first req start now (as ++ [a]) t := by
  have hgood := good_step h.good hs
  have hrun := h.run_step hs
  cases step_effect hs with
  | @pollRequest body now' hb =>
    obtain ⟨hsent, hfin, halike⟩ := SharedExchangeCapture.alike_pollFrame_request
      (h.good.request body hb) e.shared now'
    refine ⟨hgood, h.svc, h.called, hrun, fun hf => ?_, fun event hevent => ?_⟩
    · exact (h.underway (hfin.symm.trans hf)).mono.alike halike
    · exact (h.told event (hsent ▸ hevent)).mono
  | @dropRequest body now' hb =>
    exact h.untouched hs (drop_request (h.good.request body hb) e.shared now') rfl rfl id
  | @upstream requestUrl outcome startedAt now' hst =>
    obtain ⟨htold, hlater⟩ := h.continues_upstream hst outcome startedAt now'
    exact ⟨hgood, h.svc, h.called, hrun, hlater, htold⟩
  | @collected requestUrl response startIndex startedAt now' hst =>
    obtain ⟨htold, hlater⟩ := h.continues_collected hst now'
    exact ⟨hgood, h.svc, h.called, hrun, hlater, htold⟩
  | cancelUpstream hst =>
    refine h.untouched hs rfl rfl rfl fun hu => ?_
    rwa [hst] at hu
  | cancelCollecting hst =>
    refine h.untouched hs rfl rfl rfl fun hu => ?_
    rw [hst] at hu
    exact hu.2
  | @pollResponse response now' hst =>
    obtain ⟨status, version, headers, body | body⟩ := response
    · refine h.untouched hs rfl rfl rfl fun hu => ?_
      rwa [hst] at hu
    · have hprog := SharedExchangeCapture.progress_pollFrame body e.shared now'
      rw [← bodyEnd_poll hst now'] at hprog
      obtain ⟨htold, hlater⟩ := h.progress hst rfl hprog
      refine ⟨hgood, h.svc, h.called, hrun, fun hf => ?_, htold⟩
      have hu := hlater hf
      rwa [hst] at hu
  | @advance response body inner hst hb =>
    obtain ⟨status, version, headers, served⟩ := response
    obtain rfl : served = .observed body := hb
    refine h.untouched hs rfl rfl rfl fun hu => ?_
    rwa [hst] at hu
  | @dropResponse response now' hst =>
    obtain ⟨status, version, headers, body | body⟩ := response
    · refine h.untouched hs rfl rfl rfl fun hu => ?_
      rwa [hst] at hu
    · have hprog := SharedExchangeCapture.progress_drop body e.shared now'
      rw [← bodyEnd_drop hst now'] at hprog
      obtain ⟨htold, -⟩ := h.progress hst rfl hprog
      refine ⟨hgood, h.svc, h.called, hrun, fun hf => ?_, htold⟩
      cases hf.symm.trans (hgood.finalized_of_closed rfl)

/-- An answer before the upstream was called. -/
theorem told_rejected (svc : ProxyService) (first : SharedExchangeCapture)
    (hf : first.guard.finalized = false) (hs : first.sent = []) {status : StatusCode} {err : ErrorInfo}
    (hreject : start.svc.rejection req = some (status, err)) :
    ∀ event ∈ ((first.setRejection status err).finalizeAndSend now).sent,
      Told svc.cfg first req start now [] event := by
  intro event hevent
  have hsent : ((first.setRejection status err).finalizeAndSend now).sent =
      [(first.setRejection status err).guard.buildEvent now] :=
    SharedExchangeCapture.sent_finalizeAndSend (x := first.setRejection status err) hf hs now
  rw [hsent, List.mem_singleton] at hevent
  exact ⟨.rejected status err, now, _, _, hevent, hreject, rfl⟩

/-- The first part of `handle` rejects the request or asks the upstream, with the capture untouched. -/
theorem start_cases (svc : ProxyService) (req : Request Body) (x : SharedExchangeCapture)
    (now : OffsetDateTime) :
    (∃ status err message, svc.rejection req = some (status, err) ∧
      svc.start req x now = ((x.setRejection status err).finalizeAndSend now,
        .answered (generatedAnswer status message), none)) ∨
    ∃ requestUrl forwarded, svc.start req x now = (x, .upstream requestUrl, some forwarded) := by
  unfold ProxyService.start ProxyService.rejection
  by_cases hh : hostMatchesFrontend req svc.cfg.frontendDomain = true
  · rw [if_pos hh, if_neg (by simp [hh])]
    cases svc.cfg.buildBackendUri (req.uri.path.getD "/") req.uri.query with
    | error err => exact .inl ⟨_, _, _, rfl, rfl⟩
    | ok uri => exact .inr ⟨_, _, rfl⟩
  · rw [if_neg hh, if_pos (by simp [hh])]
    exact .inl ⟨_, _, _, rfl, rfl⟩

theorem story_init (svc : ProxyService) (req : Request Body) (startedAt : OffsetDateTime)
    (eventId connectionId : Uuid) (now : OffsetDateTime) :
    Story (.new svc.cfg req startedAt eventId connectionId) req
      (init svc req startedAt eventId connectionId now) now []
      (init svc req startedAt eventId connectionId now) := by
  generalize hfirst : SharedExchangeCapture.new svc.cfg req startedAt eventId connectionId = first
  have hf : first.guard.finalized = false := hfirst ▸ rfl
  have hs : first.sent = [] := hfirst ▸ rfl
  have hgood := good_init svc req startedAt eventId connectionId now
  have hinit : init svc req startedAt eventId connectionId now =
      { svc, shared := (svc.start req first now).1
        requestBody := (svc.start req first now).2.2.map (·.body)
        stage := .running (svc.start req first now).2.1
        called := (svc.start req first now).2.2.isSome
        answer := (svc.start req first now).2.1.answer
        polls := [] } := by
    rw [← hfirst]
    rfl
  refine ⟨hgood, rfl, rfl, rfl, ?_, ?_⟩
  · rw [hinit]
    rcases start_cases svc req first now with ⟨status, err, message, -, h⟩ | ⟨requestUrl, forwarded, h⟩
    · intro hfin
      rw [h] at hfin
      have hsent := finalized_finalizeAndSend (first.setRejection status err) now
      rw [show ((first.setRejection status err).finalizeAndSend now).guard.finalized = false from hfin]
        at hsent
      cases hsent
    · intro hfin
      rw [h]
      exact .refl _
  · rw [hinit]
    rcases start_cases svc req first now with ⟨status, err, message, hreject, h⟩ | ⟨requestUrl, forwarded, h⟩
    · rw [h]
      exact told_rejected svc first hf hs hreject
    · rw [h]
      intro event hevent
      rw [show first.sent = [] from hs] at hevent
      exact absurd hevent List.not_mem_nil

/-- **Run lemma**. -/
theorem story_run {svc : ProxyService} {req : Request Body} {startedAt now : OffsetDateTime}
    {eventId connectionId : Uuid}
    (hrun : run step (init svc req startedAt eventId connectionId now) as = some e) :
    Story (.new svc.cfg req startedAt eventId connectionId) req
      (init svc req startedAt eventId connectionId now) now as e :=
  run_history (P := fun as e => Story (.new svc.cfg req startedAt eventId connectionId) req
      (init svc req startedAt eventId connectionId now) now as e)
    (fun _ _ _ _ => story_step) (story_init svc req startedAt eventId connectionId now) hrun

/-! ### The head of the response that the client holds -/

/-- The client holds, or held, a response with this head. -/
def Holds (head : Response Unit) (e : Exchange) : Prop :=
  e.answer = some ⟨head.status, false⟩ ∧
    (e.stage = .closed ∨ ∃ body,
      e.stage = .running (.answered ⟨head.status, head.version, head.headers, .observed body⟩))

omit [Net] in
theorem holds_step {head : Response Unit} {a : ExchangeAction} (h : Holds head e)
    (hs : e.step a = some t) : Holds head t := by
  obtain ⟨hans, hclosed | ⟨body, hstage⟩⟩ := h
  · cases step_effect hs with
    | pollRequest hb => exact ⟨hans, .inl hclosed⟩
    | dropRequest hb => exact ⟨hans, .inl hclosed⟩
    | upstream hst | collected hst | cancelUpstream hst | cancelCollecting hst | pollResponse hst
    | advance hst _ | dropResponse hst =>
      rw [hclosed] at hst
      cases hst
  · cases step_effect hs with
    | pollRequest hb => exact ⟨hans, .inr ⟨body, hstage⟩⟩
    | dropRequest hb => exact ⟨hans, .inr ⟨body, hstage⟩⟩
    | upstream hst | collected hst | cancelUpstream hst | cancelCollecting hst =>
      rw [hstage] at hst
      cases hst
    | @pollResponse response now' hst =>
      rw [hstage] at hst
      cases hst
      exact ⟨hans, .inr ⟨_, rfl⟩⟩
    | @advance response body' inner hst hb =>
      rw [hstage] at hst
      cases hst
      exact ⟨hans, .inr ⟨_, rfl⟩⟩
    | @dropResponse response now' hst =>
      rw [hstage] at hst
      cases hst
      exact ⟨hans, .inl rfl⟩

omit [Net] in
theorem holds_of_answered {head : Response Unit} (hstart : Good start)
    (hrun : run step start as = some e) (h : start.Answered as head) : Holds head e := by
  obtain ⟨bs, s, body, ⟨cs, rfl⟩, hs, hstage⟩ := h
  have hgood : Good s := run_invariant (fun _ _ _ => good_step) hstart hs
  obtain ⟨-, ha⟩ := hgood.stage.phase hstage
  rw [run_append, hs] at hrun
  exact run_invariant (P := Holds head) (fun _ _ _ => holds_step) ⟨ha, .inr ⟨body, hstage⟩⟩ hrun

omit [Net] in
/-- The head of the response never changes. -/
theorem answered_unique {head head' : Response Unit} (hstart : Good start) (h : start.Answered as head)
    (h' : start.Answered as head') : head = head' := by
  obtain ⟨bs, s, body, hbs, hs, hstage⟩ := h
  obtain ⟨bs', s', body', hbs', hs', hstage'⟩ := h'
  rcases List.prefix_or_prefix_of_prefix hbs hbs' with hpre | hpre
  · obtain ⟨-, hc | ⟨_, hst⟩⟩ := holds_of_answered hstart hs' ⟨bs, s, body, hpre, hs, hstage⟩
    · rw [hstage'] at hc
      cases hc
    · rw [hstage'] at hst
      cases head
      cases head'
      cases hst
      rfl
  · obtain ⟨-, hc | ⟨_, hst⟩⟩ := holds_of_answered hstart hs ⟨bs', s', body', hpre, hs', hstage'⟩
    · rw [hstage] at hc
      cases hc
    · rw [hstage] at hst
      cases head
      cases head'
      cases hst
      rfl

/-- An outcome in which the client got no response of the upstream is not one of a run in which it
held one. -/
theorem outcome_of_answered {head : Response Unit} {outcome : Outcome} {event : ProxyEvent}
    {endedAt : OffsetDateTime} {requestBody responseBody : BodyAccumulator}
    (h : Story first req start now as e)
    (hstart : Good start) (hevent : event ∈ e.shared.sent)
    (hbuild : event = { (Outcome.record cfg first outcome).guard with
      requestBody, responseBody }.buildEvent endedAt)
    (hfits : outcome.Fits req start now as endedAt) (hans : start.Answered as head) :
    ∃ startedAt error, outcome = .handed head startedAt error := by
  have hholds := holds_of_answered hstart h.run hans
  rcases h.good.sent with hnil | ⟨-, event', answer, hsent, ha, hcoh⟩
  · rw [hnil] at hevent
    exact absurd hevent List.not_mem_nil
  · rw [hsent, List.mem_singleton] at hevent
    obtain rfl : answer = ⟨head.status, false⟩ := Option.some.inj (ha.symm.trans hholds.1)
    have hhanded := (hevent ▸ hcoh).handed.mpr rfl
    cases outcome with
    | rejected status err =>
      have hresult : event.proxyResult = .clientRejected := by rw [hbuild]; rfl
      rw [hresult] at hhanded
      rcases hhanded with hr | hr <;> cases hr
    | failed err =>
      have hresult : event.proxyResult = .upstreamError := by rw [hbuild]; rfl
      rw [hresult] at hhanded
      rcases hhanded with hr | hr <;> cases hr
    | handed head' startedAt err =>
      rw [answered_unique hstart hans hfits.1]
      exact ⟨startedAt, err, rfl⟩

end Exchange

end Story

namespace OffsetDateTime

variable {t u v : OffsetDateTime}

theorem millisSince_nonneg (h : t.unixNanos ≤ u.unixNanos) : 0 ≤ u.millisSince t := by
  unfold millisSince
  exact Int.tdiv_nonneg (by omega) (by omega)

/-- Two spans that follow each other lose at most one millisecond when they are cut off apart. -/
theorem millisSince_add (h : t.unixNanos ≤ u.unixNanos) (h' : u.unixNanos ≤ v.unixNanos) :
    u.millisSince t + v.millisSince u ≤ v.millisSince t ∧
      v.millisSince t ≤ u.millisSince t + v.millisSince u + 1 := by
  unfold millisSince
  rw [Int.tdiv_eq_ediv_of_nonneg (by omega), Int.tdiv_eq_ediv_of_nonneg (by omega),
    Int.tdiv_eq_ediv_of_nonneg (by omega)]
  omega

end OffsetDateTime

/-! ### The event in closed form -/

section Record

open Exchange

variable [Net] [Glob] [Digest] {svc : ProxyService} {req : Request Body}
  {startedAt now : OffsetDateTime} {eventId connectionId : Uuid} {as : List ExchangeAction}
  {e : Exchange}

/-- **The event in closed form**: for every run, an event is the one built from the capture of the
request as it was received, with the outcome of the exchange recorded and the bodies seen so far: the status
and error of the check that turned it away, the error of the step that gave the call up, or the response with
the end of its body.  If the client ever held a response of the upstream, rewritten or not, that is the
response recorded. -/
theorem event_describes_exchange
    (hrun : run step (init svc req startedAt eventId connectionId now) as = some e)
    {event : ProxyEvent} (hevent : event ∈ e.shared.sent) :
    ∃ outcome endedAt requestBody responseBody,
      event = { (Outcome.record svc.cfg (.new svc.cfg req startedAt eventId connectionId) outcome).guard with
        requestBody, responseBody }.buildEvent endedAt ∧
      outcome.Fits req (init svc req startedAt eventId connectionId now) now as endedAt ∧
      ∀ head, (init svc req startedAt eventId connectionId now).Answered as head →
        ∃ responseStartedAt error, outcome = .handed head responseStartedAt error := by
  have hstory := story_run hrun
  obtain ⟨outcome, endedAt, rb, sb, hbuild, hfits⟩ := hstory.told event hevent
  refine ⟨outcome, endedAt, rb, sb, hbuild, hfits, fun head hans => ?_⟩
  exact outcome_of_answered hstory (good_init svc req startedAt eventId connectionId now) hevent hbuild
    hfits hans

/-- **Durations**: with a clock that does not go back, the event ends after it started, and where a
response was handed out the time to its first byte and the time of its body add up to the whole, up to the
millisecond that cutting off the fractions costs; elsewhere neither is there. -/
theorem durations_fit_together
    (hrun : run step (init svc req startedAt eventId connectionId now) as = some e)
    (hclock : (startedAt :: now :: as.flatMap ExchangeAction.clock).Pairwise
      fun t u => t.unixNanos ≤ u.unixNanos) {event : ProxyEvent} (hevent : event ∈ e.shared.sent) :
    event.requestStartTs.unixNanos ≤ event.requestEndTs.unixNanos ∧ 0 ≤ event.durationMs ∧
      ((event.proxyResult = .clientRejected ∨ event.proxyResult = .upstreamError) ∧
          event.upstreamFirstByteMs = none ∧ event.responseStreamDurationMs = none ∨
        (event.proxyResult = .success ∨ event.proxyResult = .streamError) ∧
          ∃ firstByte stream, event.upstreamFirstByteMs = some firstByte ∧
            event.responseStreamDurationMs = some stream ∧ 0 ≤ firstByte ∧ 0 ≤ stream ∧
            firstByte + stream ≤ event.durationMs ∧ event.durationMs ≤ firstByte + stream + 1) := by
  obtain ⟨outcome, endedAt, rb, sb, rfl, hfits⟩ := (story_run hrun).told event hevent
  obtain ⟨hstart, hclock⟩ := List.pairwise_cons.mp hclock
  cases outcome with
  | rejected status err =>
    obtain ⟨-, rfl⟩ := hfits
    have hle := hstart endedAt List.mem_cons_self
    exact ⟨hle, OffsetDateTime.millisSince_nonneg hle, .inl ⟨.inl rfl, rfl, rfl⟩⟩
  | failed err =>
    have hle := hstart endedAt (List.mem_cons_of_mem _ hfits.mem_clock)
    exact ⟨hle, OffsetDateTime.millisSince_nonneg hle, .inl ⟨.inr rfl, rfl, rfl⟩⟩
  | handed head responseStartedAt err =>
    obtain ⟨-, hsub, -⟩ := hfits
    have hfirst := hstart responseStartedAt (List.mem_cons_of_mem _ (hsub.subset List.mem_cons_self))
    have hpair := ((List.pairwise_cons.mp hclock).2.sublist hsub)
    have hsecond := (List.pairwise_cons.mp hpair).1 endedAt List.mem_cons_self
    have hle := hfirst.trans hsecond
    obtain ⟨hlow, hhigh⟩ := OffsetDateTime.millisSince_add hfirst hsecond
    cases err with
    | none =>
      exact ⟨hle, OffsetDateTime.millisSince_nonneg hle, .inr ⟨.inl rfl, _, _, rfl, rfl,
        OffsetDateTime.millisSince_nonneg hfirst, OffsetDateTime.millisSince_nonneg hsecond, hlow, hhigh⟩⟩
    | some err =>
      exact ⟨hle, OffsetDateTime.millisSince_nonneg hle, .inr ⟨.inr rfl, _, _, rfl, rfl,
        OffsetDateTime.millisSince_nonneg hfirst, OffsetDateTime.millisSince_nonneg hsecond, hlow, hhigh⟩⟩

end Record

/-- The sample run: an empty 204 that the client reads to its end. -/
def sampleRead : List ExchangeAction := [sampleUpstream, .pollResponse sampleTime]

theorem event_describes_exchange_sample : ∃ e event, sampleRun sampleConfig sampleRead = some e ∧
    e.shared.sent = [event] ∧ event.statusCode = some StatusCode.noContent := by
  obtain ⟨e, event, hrun, hsent⟩ : ∃ e event, sampleRun sampleConfig sampleRead = some e ∧
      e.shared.sent = [event] := ⟨_, _, rfl, rfl⟩
  obtain ⟨outcome, endedAt, rb, sb, hbuild, -, hall⟩ :=
    @event_describes_exchange sampleNet sampleGlob sampleDigest _ _ _ _ _ _ _ _ hrun event
      (by rw [hsent]; exact List.mem_singleton.mpr rfl)
  -- after the first action the client holds the 204
  obtain ⟨startedAt, err, rfl⟩ := hall ⟨StatusCode.noContent, .http11, .empty, ()⟩
    ⟨[sampleUpstream], _, _, List.prefix_append [sampleUpstream] _, rfl, rfl⟩
  refine ⟨e, event, hrun, hsent, ?_⟩
  rw [hbuild]
  cases err with
  | none => rfl
  | some err => rfl

theorem durations_fit_together_sample : ∃ e event,
    sampleRun sampleConfig sampleRead = some e ∧ e.shared.sent = [event] ∧ 0 ≤ event.durationMs := by
  obtain ⟨e, event, hrun, hsent⟩ : ∃ e event, sampleRun sampleConfig sampleRead = some e ∧
      e.shared.sent = [event] := ⟨_, _, rfl, rfl⟩
  have hd := @durations_fit_together sampleNet sampleGlob sampleDigest _ _ _ _ _ _ _ _ hrun (by decide)
    event (by rw [hsent]; exact List.mem_singleton.mpr rfl)
  exact ⟨e, event, hrun, hsent, hd.2.1⟩

end KidProxy
