import KidProxy.ExchangeLog

/-!
# Observation — what the event says about the bodies

An observed body answers what its inner body answers, and the capture is fed with the bytes that it
hands out.  `event_summaries` says that the event describes the bytes handed out up to the moment it
was built, and `request_summary_whole` when these are all bytes of the request body.
-/

namespace KidProxy

open Transition

/-! ### The accumulator -/

section Summary

variable [Digest]

/-- The summary that the bytes of a body ask for. -/
def BodySummary.of (maxBytes : ℕ) (bytes : List UInt8) : BodySummary where
  sha256 := if bytes = [] then none else some (Text.hexEncode (Digest.sha256 bytes))
  previewBase64 :=
    if bytes = [] then none else some (Digest.base64 (bytes.take (min bytes.length maxBytes)))
  truncated := some (decide (maxBytes < bytes.length))

namespace BodyAccumulator

omit [Digest] in
theorem observe_hashed (a : BodyAccumulator) (chunk : List UInt8) :
    (a.observe chunk).hashed = a.hashed ++ chunk ∧ (a.observe chunk).maxBytes = a.maxBytes := by
  unfold observe
  split_ifs with hc
  · rw [hc, List.append_nil]
    exact ⟨rfl, rfl⟩
  · exact ⟨rfl, rfl⟩
  · exact ⟨rfl, rfl⟩

theorem finish_eq {a : BodyAccumulator} (h : 0 < a.maxBytes) :
    a.finish = .of a.maxBytes a.hashed := by
  have htruncated : a.truncated = decide (a.maxBytes < a.hashed.length) :=
    Bool.eq_iff_iff.mpr (a.truncated_iff.trans decide_eq_true_iff.symm)
  unfold finish BodySummary.of
  rw [htruncated]
  by_cases hb : a.hashed = []
  · have hsaw : a.sawBytes = false := by simpa [hb] using a.sawBytes_iff
    have hretained : a.retainedBytes = [] := by rw [a.retained_eq, hb, List.take_nil]
    rw [hsaw, hretained, if_pos hb, if_pos hb]
    rfl
  · have hsaw : a.sawBytes = true := a.sawBytes_iff.mpr hb
    have hpos := List.length_pos_of_ne_nil hb
    have hretained : a.retainedBytes = a.hashed.take (min a.hashed.length a.maxBytes) := by
      rw [a.retained_eq, List.take_eq_take_iff]
      omega
    have hne : a.retainedBytes.isEmpty = false := by
      rw [List.isEmpty_eq_false_iff, ← List.length_pos_iff, hretained, List.length_take]
      omega
    rw [hsaw, hne, if_neg hb, if_neg hb, hretained]
    rfl

omit [Digest] in
theorem foldl_observe (chunks : List (List UInt8)) (a : BodyAccumulator) :
    (chunks.foldl observe a).hashed = a.hashed ++ chunks.flatten ∧
      (chunks.foldl observe a).maxBytes = a.maxBytes := by
  induction chunks generalizing a with
  | nil => exact ⟨(List.append_nil _).symm, rfl⟩
  | cons chunk chunks ih =>
    obtain ⟨hh, hm⟩ := a.observe_hashed chunk
    obtain ⟨hh', hm'⟩ := ih (a.observe chunk)
    rw [List.foldl_cons, List.flatten_cons, hh', hm', hh, hm, List.append_assoc]
    exact ⟨rfl, rfl⟩

/-- How the bytes were cut into chunks leaves no trace. -/
theorem finish_chunks {maxBytes : ℕ} (h : 0 < maxBytes) (chunks : List (List UInt8)) :
    (chunks.foldl observe (.new maxBytes)).finish = .of maxBytes chunks.flatten := by
  obtain ⟨hh, hm⟩ := foldl_observe chunks (.new maxBytes)
  rw [finish_eq (by rw [hm]; exact h), hh, hm]
  rfl

end BodyAccumulator

end Summary

/-! ### One observed body -/

/-- The data bytes that a poll hands out. -/
def Poll.bytes : Poll → List UInt8
  | .frame (.data bytes) => bytes
  | .frame (.trailers _) | .pending | .err _ | .done => []

section Body

variable {B : Type} [StreamingBody B]

/-- The answers of a body to `n` polls in a row. -/
def StreamingBody.polls (inner : B) : ℕ → List Poll × B
  | 0 => ([], inner)
  | n + 1 =>
    let (poll, inner) := StreamingBody.pollFrame inner
    let (polls, inner) := StreamingBody.polls inner n
    (poll :: polls, inner)

variable [Digest]

/-- The answers of an observed body to polls at the given times. -/
def ObservedBody.polls (body : ObservedBody B) (x : SharedExchangeCapture) :
    List OffsetDateTime → List Poll × ObservedBody B × SharedExchangeCapture
  | [] => ([], body, x)
  | now :: nows =>
    let (poll, body, x) := body.pollFrame x now
    let (polls, rest) := body.polls x nows
    (poll :: polls, rest)

/-- Observing does not change what a body answers. -/
theorem ObservedBody.pollFrame_inner (body : ObservedBody B) (x : SharedExchangeCapture)
    (now : OffsetDateTime) : (body.pollFrame x now).1 = (StreamingBody.pollFrame body.inner).1 ∧
      (body.pollFrame x now).2.1.inner = (StreamingBody.pollFrame body.inner).2 := by
  unfold ObservedBody.pollFrame
  rcases StreamingBody.pollFrame body.inner with ⟨_ | frame | err | _, inner⟩
  · exact ⟨rfl, rfl⟩
  · exact ⟨rfl, rfl⟩
  · dsimp only
    split_ifs <;> exact ⟨rfl, rfl⟩
  · dsimp only
    split_ifs <;> exact ⟨rfl, rfl⟩

theorem ObservedBody.polls_inner (body : ObservedBody B) (x : SharedExchangeCapture)
    (nows : List OffsetDateTime) :
    (body.polls x nows).1 = (StreamingBody.polls body.inner nows.length).1 ∧
      (body.polls x nows).2.1.inner = (StreamingBody.polls body.inner nows.length).2 := by
  induction nows generalizing body x with
  | nil => exact ⟨rfl, rfl⟩
  | cons now nows ih =>
    obtain ⟨hpoll, hinner⟩ := body.pollFrame_inner x now
    obtain ⟨hrest, hlast⟩ := ih (body.pollFrame x now).2.1 (body.pollFrame x now).2.2
    rw [hinner] at hrest hlast
    exact ⟨congrArg₂ List.cons hpoll hrest, hlast⟩

end Body

/-! ### What a step adds to the capture -/

namespace SharedExchangeCapture

/-- The accumulator of a direction. -/
def seen (x : SharedExchangeCapture) : BodyDirection → BodyAccumulator
  | .request => x.guard.requestBody
  | .response => x.guard.responseBody

/-- The bodies and the events are the same. -/
structure Quiet (x y : SharedExchangeCapture) : Prop where
  seen : ∀ d, y.seen d = x.seen d
  sent : y.sent = x.sent

variable [Digest]

/-- The capture saw the bytes `got`; or it saw none, and sent an event built from what it had seen. -/
structure Observes (x y : SharedExchangeCapture) (got : BodyDirection → List UInt8) : Prop where
  hashed : ∀ d, (y.seen d).hashed = (x.seen d).hashed ++ got d
  maxBytes : ∀ d, (y.seen d).maxBytes = (x.seen d).maxBytes
  sent : y.sent = x.sent ∨ ∃ (c : ExchangeCapture) (now : OffsetDateTime),
    y.sent = x.sent ++ [c.buildEvent now] ∧
    c.requestBody = x.seen .request ∧ c.responseBody = x.seen .response ∧ ∀ d, got d = []

variable {x y : SharedExchangeCapture}

theorem Observes.congr {got got' : BodyDirection → List UInt8} (h : Observes x y got)
    (hg : ∀ d, got' d = got d) : Observes x y got' :=
  ⟨fun d => by rw [hg, h.hashed], h.maxBytes, by simpa only [hg] using h.sent⟩

theorem Quiet.observes (h : Quiet x y) : Observes x y fun _ => [] where
  hashed d := by rw [h.seen, List.append_nil]
  maxBytes d := by rw [h.seen]
  sent := .inl h.sent

theorem observes_finalize (h : Quiet x y) (now : OffsetDateTime) :
    Observes x (y.finalizeAndSend now) fun _ => [] := by
  unfold finalizeAndSend
  split_ifs with hf
  · exact h.observes
  · refine ⟨fun d => ?_, fun d => ?_,
      .inr ⟨{ y.guard with finalized := true }, now, ?_, h.seen .request, h.seen .response,
        fun _ => rfl⟩⟩
    · rw [List.append_nil, ← h.seen]
      cases d <;> rfl
    · rw [← h.seen]
      cases d <;> rfl
    · show y.sent ++ _ = x.sent ++ _
      rw [h.sent]

omit [Digest] in
theorem quiet_setBodyError (x : SharedExchangeCapture) (err : ErrorInfo) : Quiet x (x.setBodyError err) := by
  unfold setBodyError
  split
  · exact ⟨fun d => by cases d <;> rfl, rfl⟩
  · exact ⟨fun _ => rfl, rfl⟩

omit [Digest] in
theorem quiet_setUpstreamError (x : SharedExchangeCapture) (err : ErrorInfo) :
    Quiet x (x.setUpstreamError err) := ⟨fun d => by cases d <;> rfl, rfl⟩

omit [Digest] in
theorem quiet_setRejection (x : SharedExchangeCapture) (status : StatusCode) (err : ErrorInfo) :
    Quiet x (x.setRejection status err) := ⟨fun d => by cases d <;> rfl, rfl⟩

omit [Digest] in
theorem quiet_setUpstreamResponse {B : Type} (x : SharedExchangeCapture) (cfg : RuntimeConfig)
    (resp : Response B) (startedAt : OffsetDateTime) :
    Quiet x (x.setUpstreamResponse cfg resp startedAt) := ⟨fun d => by cases d <;> rfl, rfl⟩

theorem observes_badGateway (x : SharedExchangeCapture) (err : ErrorInfo) (now : OffsetDateTime) :
    Observes x (ProxyService.badGateway x err now).1 fun _ => [] :=
  observes_finalize (quiet_setUpstreamError x err) now

/-- What a poll of an observed body adds: the data bytes that it hands out. -/
theorem observes_pollFrame (body : ObservedBody Body) (x : SharedExchangeCapture) (now : OffsetDateTime) :
    Observes x (body.pollFrame x now).2.2
      fun d => if d = body.direction then (body.pollFrame x now).1.bytes else [] := by
  unfold ObservedBody.pollFrame
  rcases StreamingBody.pollFrame body.inner with ⟨_ | frame | err | _, inner⟩
  · exact ⟨fun d => by simp [Poll.bytes], fun _ => rfl, .inl rfl⟩
  · cases frame with
    | data bytes =>
      cases hd : body.direction with
      | request =>
        obtain ⟨hh, hm⟩ := x.guard.requestBody.observe_hashed bytes
        refine ⟨fun d => ?_, fun d => ?_, .inl rfl⟩
        · cases d with
          | request => exact hh
          | response => exact (List.append_nil _).symm
        · cases d with
          | request => exact hm
          | response => rfl
      | response =>
        obtain ⟨hh, hm⟩ := x.guard.responseBody.observe_hashed bytes
        refine ⟨fun d => ?_, fun d => ?_, .inl rfl⟩
        · cases d with
          | request => exact (List.append_nil _).symm
          | response => exact hh
        · cases d with
          | request => rfl
          | response => exact hm
    | trailers headers => exact ⟨fun d => by simp [Frame.dataRef, Poll.bytes], fun _ => rfl, .inl rfl⟩
  · dsimp only
    split_ifs with hf
    · simp only [Poll.bytes, ite_self]
      exact observes_finalize (quiet_setBodyError x _) now
    · exact ⟨fun d => by simp [Poll.bytes], fun _ => rfl, .inl rfl⟩
  · dsimp only
    split_ifs with hf
    · simp only [Poll.bytes, ite_self]
      exact observes_finalize ⟨fun _ => rfl, rfl⟩ now
    · exact ⟨fun d => by simp [Poll.bytes], fun _ => rfl, .inl rfl⟩

theorem observes_drop (body : ObservedBody Body) (x : SharedExchangeCapture) (now : OffsetDateTime) :
    Observes x (body.drop x now) fun _ => [] := by
  unfold ObservedBody.drop
  split_ifs with hd hc
  · exact observes_finalize ⟨fun _ => rfl, rfl⟩ now
  · exact observes_finalize (quiet_setBodyError x _) now
  · exact ⟨fun _ => (List.append_nil _).symm, fun _ => rfl, .inl rfl⟩

theorem observes_start [Net] [Glob] (svc : ProxyService) (req : Request Body)
    (x : SharedExchangeCapture) (now : OffsetDateTime) :
    Observes x (svc.start req x now).1 fun _ => [] := by
  unfold ProxyService.start
  by_cases hh : hostMatchesFrontend req svc.cfg.frontendDomain = true
  · rw [if_neg (by simp [hh])]
    cases svc.cfg.buildBackendUri (req.uri.path.getD "/") req.uri.query with
    | error err => exact observes_finalize (quiet_setRejection x _ _) now
    | ok uri => exact ⟨fun _ => (List.append_nil _).symm, fun _ => rfl, .inl rfl⟩
  · rw [if_pos (by simp [hh])]
    exact observes_finalize (quiet_setRejection x _ _) now

theorem observes_onUpstream [Glob] (svc : ProxyService) (requestUrl : String)
    (outcome : UpstreamOutcome) (startedAt now : OffsetDateTime) (x : SharedExchangeCapture) :
    Observes x (svc.onUpstream requestUrl outcome startedAt now x).1 fun _ => [] := by
  cases outcome with
  | error text => exact observes_badGateway x _ now
  | timeout => exact observes_finalize (quiet_setUpstreamError x _) now
  | response response =>
    unfold ProxyService.onUpstream
    simp only
    rcases svc.cfg.transforms.applyUntilBody requestUrl (stripHopByHopHeaders response.headers) with
      ⟨_ | ⟨_ | startIndex, headersChanged⟩, headers⟩
    · exact observes_badGateway x _ now
    · exact (quiet_setUpstreamResponse x _ _ _).observes
    · exact ⟨fun _ => (List.append_nil _).symm, fun _ => rfl, .inl rfl⟩

theorem observes_onCollected [Glob] (svc : ProxyService) (requestUrl : String)
    (response : Response Body) (startIndex : ℕ) (startedAt now : OffsetDateTime)
    (collected : Except String (List UInt8)) (x : SharedExchangeCapture) :
    Observes x (svc.onCollected requestUrl response startIndex startedAt now collected x).1
      fun _ => [] := by
  unfold ProxyService.onCollected
  cases collected with
  | error err => exact observes_badGateway x _ now
  | ok bytes =>
    simp only
    rcases svc.cfg.transforms.applyWithBody startIndex requestUrl response.headers bytes with
      ⟨_ | outcome, headers, body⟩
    · exact observes_badGateway x _ now
    · simp only
      cases HeaderValue.fromStr (Nat.toDigits 10 body.length) with
      | none => exact observes_badGateway x _ now
      | some contentLength => exact (quiet_setUpstreamResponse x _ _ _).observes

end SharedExchangeCapture

/-- What an event says of the body of a direction. -/
def ProxyEvent.summary (event : ProxyEvent) : BodyDirection → BodySummary
  | .request =>
    ⟨event.requestBodySha256, event.requestBodyPreviewBase64, event.requestBodyTruncated⟩
  | .response =>
    ⟨event.responseBodySha256, event.responseBodyPreviewBase64, event.responseBodyTruncated⟩

theorem summary_buildEvent [Digest] {x : SharedExchangeCapture} {c : ExchangeCapture}
    {now : OffsetDateTime} (hreq : c.requestBody = x.seen .request)
    (hres : c.responseBody = x.seen .response) (d : BodyDirection) :
    (c.buildEvent now).summary d = (x.seen d).finish := by
  cases d with
  | request => rw [← hreq]; rfl
  | response => rw [← hres]; rfl

theorem eq_singleton_of_prefix {α : Type} {l : List α} {a : α} (h : l <+: [a]) (hne : l ≠ []) :
    l = [a] :=
  h.eq_of_length (Nat.le_antisymm h.length_le (List.length_pos_of_ne_nil hne))

/-! ### What a step hands out -/

namespace Exchange

variable [Glob] [Digest]

/-- The data bytes that a step hands out through the observed body of a direction. -/
def handed (d : BodyDirection) (e : Exchange) : ExchangeAction → List UInt8
  | .pollRequest now =>
    match d, e.requestBody with
    | .request, some body => (body.pollFrame e.shared now).1.bytes
    | _, _ => []
  | .pollResponse now =>
    match d, e.stage with
    | .response, .running (.answered ⟨_, _, _, .observed body⟩) =>
      (body.pollFrame e.shared now).1.bytes
    | _, _ => []
  | _ => []

/-- **Step lemma**. -/
theorem observes_step {e t : Exchange} {a : ExchangeAction} (h : Good e) (hs : e.step a = some t) :
    e.shared.Observes t.shared fun d => handed d e a := by
  have hstage := h.stage
  cases step_effect hs with
  | @pollRequest body now hb =>
    have hobs := SharedExchangeCapture.observes_pollFrame body e.shared now
    rw [h.request body hb] at hobs
    exact hobs.congr fun d => by cases d <;> simp [handed, hb]
  | @dropRequest body now hb => exact SharedExchangeCapture.observes_drop body e.shared now
  | upstream hrun => exact SharedExchangeCapture.observes_onUpstream e.svc _ _ _ _ e.shared
  | collected hrun => exact SharedExchangeCapture.observes_onCollected e.svc _ _ _ _ _ _ e.shared
  | cancelUpstream hrun => exact SharedExchangeCapture.Quiet.observes ⟨fun _ => rfl, rfl⟩
  | cancelCollecting hrun => exact SharedExchangeCapture.Quiet.observes ⟨fun _ => rfl, rfl⟩
  | @pollResponse response now hrun =>
    obtain ⟨hp, -⟩ := hstage.phase hrun
    obtain ⟨status, version, headers, body | body⟩ := response
    · have hquiet : SharedExchangeCapture.Quiet e.shared e.shared := ⟨fun _ => rfl, rfl⟩
      exact hquiet.observes.congr fun d => by cases d <;> simp [handed, hrun]
    · have hdir : body.direction = .response := by
        cases hp with
        | serving hx hb => exact hb.direction
        | served hx hb hr => exact hb.direction
      have hobs := SharedExchangeCapture.observes_pollFrame body e.shared now
      rw [hdir] at hobs
      exact hobs.congr fun d => by cases d <;> simp [handed, hrun]
  | advance hrun hb => exact SharedExchangeCapture.Quiet.observes ⟨fun _ => rfl, rfl⟩
  | @dropResponse response now hrun =>
    obtain ⟨status, version, headers, body | body⟩ := response
    · exact SharedExchangeCapture.Quiet.observes ⟨fun _ => rfl, rfl⟩
    · exact SharedExchangeCapture.observes_drop body e.shared now

section Run

variable [Net] {svc : ProxyService} {req : Request Body} {startedAt now : OffsetDateTime}
  {eventId connectionId : Uuid} {as : List ExchangeAction} {e : Exchange}

omit [Glob] [Digest] in
theorem seen_new (cfg : RuntimeConfig) (req : Request Body) (startedAt : OffsetDateTime)
    (eventId connectionId : Uuid) (d : BodyDirection) :
    (SharedExchangeCapture.new cfg req startedAt eventId connectionId).seen d = .new cfg.bodyMaxBytes := by
  cases d <;> rfl

/-- **Run lemma**: the capture has seen what was handed out. -/
theorem seen_run (d : BodyDirection)
    (hrun : run step (init svc req startedAt eventId connectionId now) as = some e) :
    Good e ∧ (e.shared.seen d).maxBytes = svc.cfg.bodyMaxBytes ∧ (e.shared.seen d).hashed =
      gathered step (handed d) (init svc req startedAt eventId connectionId now) as := by
  have hstart := SharedExchangeCapture.observes_start svc req
    (.new svc.cfg req startedAt eventId connectionId) now
  have hmax : ((init svc req startedAt eventId connectionId now).shared.seen d).maxBytes =
      svc.cfg.bodyMaxBytes := (hstart.maxBytes d).trans (by rw [seen_new]; rfl)
  have hhashed : ((init svc req startedAt eventId connectionId now).shared.seen d).hashed = [] :=
    (hstart.hashed d).trans (by rw [seen_new]; rfl)
  refine run_gathered (P := fun l e => Good e ∧ (e.shared.seen d).maxBytes = svc.cfg.bodyMaxBytes ∧
    (e.shared.seen d).hashed = l) ?_
    ⟨good_init svc req startedAt eventId connectionId now, hmax, hhashed⟩ hrun
  rintro l s a t ⟨hg, hm, hh⟩ hst
  have hobs := observes_step hg hst
  refine ⟨good_step hg hst, (hobs.maxBytes d).trans hm, ?_⟩
  rw [hobs.hashed d, hh]

omit [Net] in
/-- No step takes an event back. -/
theorem sent_step {e t : Exchange} {a : ExchangeAction} (h : Good e) (hs : e.step a = some t) :
    e.shared.sent <+: t.shared.sent := by
  rcases (observes_step h hs).sent with hsent | ⟨c, at', hsent, -⟩
  · exact hsent ▸ List.prefix_refl _
  · rw [hsent]
    exact List.prefix_append _ _

omit [Net] in
theorem sent_run {e t : Exchange} {as : List ExchangeAction} (h : Good e)
    (hrun : run step e as = some t) : e.shared.sent <+: t.shared.sent :=
  run_rel (P := Good) (R := fun e t : Exchange => e.shared.sent <+: t.shared.sent)
    (fun _ => List.prefix_refl _) (fun _ _ _ => List.IsPrefix.trans) (fun _ _ _ => good_step)
    (fun _ _ _ => sent_step) h hrun

/-- The event was built when the actions `bs` had been taken: by the first part of `handle`, or by the
step after them. -/
def BuiltAfter (e : Exchange) (as bs : List ExchangeAction) (event : ProxyEvent) : Prop :=
  bs = [] ∧ e.shared.sent = [event] ∨
    ∃ a cs t v, as = bs ++ a :: cs ∧ run step e bs = some t ∧ t.shared.sent = [] ∧
      step t a = some v ∧ v.shared.sent = [event]

/-- **The moment the event was built**: then it described what had been handed out. -/
theorem built_summary (hpos : 0 < svc.cfg.bodyMaxBytes)
    (hrun : run step (init svc req startedAt eventId connectionId now) as = some e)
    {event : ProxyEvent} (hevent : event ∈ e.shared.sent) :
    ∃ bs, BuiltAfter (init svc req startedAt eventId connectionId now) as bs event ∧
      ∀ d, event.summary d = .of svc.cfg.bodyMaxBytes
        (gathered step (handed d) (init svc req startedAt eventId connectionId now) bs) := by
  have hgood := good_init svc req startedAt eventId connectionId now
  have hsent : e.shared.sent = [event] := by
    rcases (good_run hrun).sent with hs | ⟨-, event', -, hs, -⟩
    · rw [hs] at hevent
      cases hevent
    · rw [hs] at hevent ⊢
      rw [List.mem_singleton.mp hevent]
  by_cases hstart : (init svc req startedAt eventId connectionId now).shared.sent = []
  · obtain ⟨bs, a, cs, t, v, rfl, hbs, ht, hstep, hv, hcs⟩ := run_enters
      (Q := fun e : Exchange => e.shared.sent ≠ []) hrun (not_not.mpr hstart) (by simp [hsent])
    have ht := not_not.mp ht
    obtain ⟨hgt, -⟩ := seen_run .request hbs
    have hvsent : v.shared.sent = [event] :=
      eq_singleton_of_prefix (hsent ▸ sent_run (good_step hgt hstep) hcs) hv
    refine ⟨bs, .inr ⟨a, cs, t, v, rfl, hbs, ht, hstep, hvsent⟩, fun d => ?_⟩
    rcases (observes_step hgt hstep).sent with hs | ⟨c, at', hs, hreq, hres, -⟩
    · exact absurd (hs.trans ht) hv
    · rw [hvsent, ht, List.nil_append] at hs
      obtain ⟨-, hmax, hhashed⟩ := seen_run d hbs
      rw [(List.cons_eq_cons.mp hs).1, summary_buildEvent hreq hres, ← hmax, ← hhashed]
      exact BodyAccumulator.finish_eq (hmax.symm ▸ hpos)
  · have hs₀ := eq_singleton_of_prefix (hsent ▸ sent_run hgood hrun) hstart
    refine ⟨[], .inl ⟨rfl, hs₀⟩, fun d => ?_⟩
    rcases (SharedExchangeCapture.observes_start svc req
      (.new svc.cfg req startedAt eventId connectionId) now).sent with hs | ⟨c, at', hs, hreq, hres, -⟩
    · exact absurd hs hstart
    · rw [show (svc.start req _ now).1.sent = [event] from hs₀] at hs
      rw [(List.cons_eq_cons.mp hs).1, summary_buildEvent hreq hres, seen_new]
      exact BodyAccumulator.finish_eq hpos

omit [Net] in
theorem gathered_of_sent {t : Exchange} {cs : List ExchangeAction} {d : BodyDirection} (h : Good t)
    (hne : t.shared.sent ≠ [])
    (hC : Along step (fun e a => e.shared.sent ≠ [] → handed d e a = []) t cs) :
    gathered step (handed d) t cs = [] := by
  refine gathered_eq_nil (I := fun e => Good e ∧ e.shared.sent ≠ []) ?_ ⟨h, hne⟩ ?_
  · rintro s a u ⟨hg, hs⟩ hst
    exact ⟨good_step hg hst, fun hu => hs (List.prefix_nil.mp (hu ▸ sent_step hg hst))⟩
  · exact along_mono (fun s a hsa hI => hsa hI.2) hC

end Run

end Exchange

section Recorded

open Exchange

/-- Once the event was sent, the step reads no data from the request body. -/
def ReadsBefore [Glob] [Digest] (e : Exchange) (a : ExchangeAction) : Prop :=
  e.shared.sent ≠ [] → handed .request e a = []

variable [Net] [Glob] [Digest]

/-- **Observation is transparent and faithful**: an observed body answers the polls as its inner body
does; the event of an exchange describes, for both directions, the data handed out up to the moment it
was built; and how bytes were cut into chunks does not matter. -/
theorem observation_faithful :
    (∀ (B : Type) [StreamingBody B] (body : ObservedBody B) (x : SharedExchangeCapture)
        (nows : List OffsetDateTime),
      (body.polls x nows).1 = (StreamingBody.polls body.inner nows.length).1 ∧
        (body.polls x nows).2.1.inner = (StreamingBody.polls body.inner nows.length).2) ∧
    (∀ (svc : ProxyService) (req : Request Body) (startedAt now : OffsetDateTime)
        (eventId connectionId : Uuid) (as : List ExchangeAction) (e : Exchange),
      0 < svc.cfg.bodyMaxBytes →
      run step (init svc req startedAt eventId connectionId now) as = some e →
      ∀ event ∈ e.shared.sent,
        ∃ bs, BuiltAfter (init svc req startedAt eventId connectionId now) as bs event ∧
          ∀ d, event.summary d = .of svc.cfg.bodyMaxBytes
            (gathered step (handed d) (init svc req startedAt eventId connectionId now) bs)) ∧
    ∀ (maxBytes : ℕ) (chunks chunks' : List (List UInt8)), 0 < maxBytes →
      chunks.flatten = chunks'.flatten →
      (chunks.foldl BodyAccumulator.observe (.new maxBytes)).finish =
        (chunks'.foldl BodyAccumulator.observe (.new maxBytes)).finish := by
  refine ⟨fun B _ body x nows => body.polls_inner x nows, ?_, ?_⟩
  · intro svc req startedAt now eventId connectionId as e hpos hrun event hevent
    exact built_summary hpos hrun hevent
  · intro maxBytes chunks chunks' hpos hflat
    rw [BodyAccumulator.finish_chunks hpos, BodyAccumulator.finish_chunks hpos, hflat]

variable {svc : ProxyService} {req : Request Body} {startedAt now : OffsetDateTime}
  {eventId connectionId : Uuid} {as : List ExchangeAction} {e : Exchange}

/-- **The request digest covers the whole body** in every run that reads no data from the request body
after the event was sent; then it does for an event of any result. -/
theorem request_summary_whole (hpos : 0 < svc.cfg.bodyMaxBytes)
    (hrun : run step (init svc req startedAt eventId connectionId now) as = some e)
    (hread : Along step ReadsBefore (init svc req startedAt eventId connectionId now) as)
    {event : ProxyEvent} (hevent : event ∈ e.shared.sent) :
    event.summary .request = .of svc.cfg.bodyMaxBytes
      (gathered step (handed .request) (init svc req startedAt eventId connectionId now) as) := by
  obtain ⟨bs, hbuilt, hsummary⟩ := built_summary hpos hrun hevent
  rw [hsummary .request]
  rcases hbuilt with ⟨rfl, hstart⟩ | ⟨a, cs, t, v, rfl, hbs, ht, hstep, hv⟩
  · rw [gathered_of_sent (good_init svc req startedAt eventId connectionId now) (by simp [hstart]) hread]
    rfl
  · obtain ⟨hgt, -⟩ := seen_run .request hbs
    have hlater := (along_append hbs hread).2 v hstep
    rw [gathered_append hbs, gathered, hstep]
    simp only
    rw [gathered_of_sent (good_step hgt hstep) (by simp [hv]) hlater, List.append_nil]
    -- the step that sends the event hands out no data
    rcases (observes_step hgt hstep).sent with hs | ⟨c, at', -, -, -, hnone⟩
    · rw [hs, ht] at hv
      cases hv
    · rw [hnone .request, List.append_nil]

end Recorded

/-! ### An upload of two bytes -/

/-- The digest and the encoding of the two bytes of `hi`. -/
@[reducible] def uploadDigest : Digest where
  sha256 bytes :=
    if bytes = [104, 105] then
      [0x8f, 0x43, 0x43, 0x46, 0x64, 0x8f, 0x6b, 0x96, 0xdf, 0x89, 0xdd, 0xa9, 0x01, 0xc5, 0x17, 0x6b,
        0x10, 0xa6, 0xd8, 0x39, 0x61, 0xdd, 0x3c, 0x1a, 0xc8, 0x8b, 0x59, 0xb2, 0xdc, 0x32, 0x7a, 0xa4]
    else []
  base64 bytes := if bytes = [104, 105] then "aGk=" else ""

/-- The sample request with the body `hi`. -/
def sampleUpload : Request Body :=
  { sampleRequest with method := "POST", body := .fromBytes [104, 105] }

/-- The exchange of the upload, at its start. -/
def uploadInit : Exchange :=
  letI := sampleNet; letI := sampleGlob; letI := uploadDigest
  .init ⟨sampleConfig⟩ sampleUpload sampleTime ⟨1⟩ ⟨2⟩ sampleTime

def uploadRun (as : List ExchangeAction) : Option Exchange :=
  letI := sampleGlob; letI := uploadDigest
  run Exchange.step uploadInit as

/-- The request bytes that the upload hands out. -/
def uploadHanded (as : List ExchangeAction) : List UInt8 :=
  letI := sampleGlob; letI := uploadDigest
  gathered Exchange.step (Exchange.handed .request) uploadInit as

/-- What an event has to say of these bytes. -/
def uploadSummary (as : List ExchangeAction) : BodySummary :=
  letI := uploadDigest
  .of sampleConfig.bodyMaxBytes (uploadHanded as)

/-- The upstream reads the upload, then answers. -/
def readFirst : List ExchangeAction :=
  [.pollRequest sampleTime, sampleUpstream, .pollResponse sampleTime]

/-- The upstream answers with an empty body, which ends before the upload is read. -/
def answerFirst : List ExchangeAction :=
  [sampleUpstream, .pollResponse sampleTime, .pollRequest sampleTime]

theorem observation_faithful_sample : ∃ e event bs,
    uploadRun readFirst = some e ∧ event ∈ e.shared.sent ∧
      @Exchange.BuiltAfter sampleGlob uploadDigest uploadInit readFirst bs event ∧
      event.summary .request = uploadSummary bs := by
  obtain ⟨e, event, hrun, hsent⟩ : ∃ e event, uploadRun readFirst = some e ∧ e.shared.sent = [event] :=
    ⟨_, _, rfl, rfl⟩
  have hevent : event ∈ e.shared.sent := by simp [hsent]
  obtain ⟨bs, hbuilt, hsummary⟩ := (@observation_faithful sampleNet sampleGlob uploadDigest).2.1
    ⟨sampleConfig⟩ sampleUpload sampleTime sampleTime ⟨1⟩ ⟨2⟩ readFirst e (by decide) hrun event hevent
  exact ⟨e, event, bs, hrun, hevent, hbuilt, hsummary .request⟩

theorem request_summary_whole_sample : ∃ e event,
    uploadRun readFirst = some e ∧ e.shared.sent = [event] ∧ event.proxyResult = .success ∧
      uploadHanded readFirst = [104, 105] ∧ event.summary .request = uploadSummary readFirst := by
  obtain ⟨e, event, hrun, hsent, hresult, hbytes⟩ : ∃ e event, uploadRun readFirst = some e ∧
      e.shared.sent = [event] ∧ event.proxyResult = .success ∧ uploadHanded readFirst = [104, 105] :=
    ⟨_, _, rfl, rfl, rfl, rfl⟩
  have hread : @Along _ _ (@Exchange.step sampleGlob uploadDigest)
      (@ReadsBefore sampleGlob uploadDigest) uploadInit readFirst := by
    refine ⟨fun h => absurd rfl h, fun t ht => ⟨fun _ => ?_, fun u hu => ⟨fun _ => ?_, fun _ _ => trivial⟩⟩⟩
    · rfl
    · rfl
  exact ⟨e, event, hrun, hsent, hresult, hbytes, @request_summary_whole sampleNet sampleGlob
    uploadDigest _ _ _ _ _ _ _ _ (by decide) hrun hread event (by simp [hsent])⟩

/-- The upload is read after the response ended: the event of a success says that the request body was
empty and not truncated. -/
theorem unread_upload_undigested : ∃ e event,
    uploadRun answerFirst = some e ∧ e.shared.sent = [event] ∧ event.proxyResult = .success ∧
      event.requestBodyTruncated = some false ∧ uploadHanded answerFirst = [104, 105] ∧
      event.requestBodySha256 = none ∧ event.requestBodyPreviewBase64 = none ∧
      event.summary .request ≠ uploadSummary answerFirst :=
  ⟨_, _, rfl, rfl, rfl, rfl, rfl, rfl, rfl, fun h => by cases h⟩

end KidProxy
