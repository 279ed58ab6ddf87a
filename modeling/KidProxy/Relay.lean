import KidProxy.Encoding
import KidProxy.Exchange

/-!
# Relay — what the client gets of the answer of the upstream

`relay` is the meaning of the response path: the hop-by-hop headers go, and one pass of the rules
rewrites headers and body.  `answer_relays`: whatever else happens around `handle`, what it returns is
this message, streamed as it came or in one piece, or the answer `bad gateway` where the message does not
exist.  Only `Content-Length` is set apart, which tells the length of what is sent, or nothing, or is
the line of an answer that no rule changed.
-/

namespace KidProxy

open Transition

section

variable [Glob]

/-- **The reference**: the response that stands for the one of the upstream. -/
def relay (cfg : TransformConfig) (url : String) (upstream : Response (List UInt8)) :
    Except AnyError (Response (List UInt8)) :=
  match cfg.onePass url (stripHopByHopHeaders upstream.headers) upstream.body with
  | ((headers, body), .ok ()) => .ok { upstream with headers, body }
  | (_, .error err) => .error err

/-- The response with these bytes as its body. -/
def Response.withBytes (upstream : Response Body) (bytes : List UInt8) : Response (List UInt8) :=
  { upstream with body := bytes }

/-- The head of the answer is that of the message, and its `Content-Length` fits. -/
structure Heads (upstream : Response Body) (meant : Response (List UInt8)) (answer : Response ServedBody) :
    Prop where
  status : answer.status = meant.status
  version : answer.version = meant.version
  headers : ∀ name, name ≠ .contentLength → answer.headers.getAll name = meant.headers.getAll name
  length : declared answer.headers = [] ∨ declared answer.headers = [some meant.body.length] ∨
    answer.headers = stripHopByHopHeaders upstream.headers ∧ meant.headers = answer.headers

/-- What the response of the upstream comes to. -/
inductive Reply (cfg : TransformConfig) (url : String) (upstream : Response Body) :
    Response ServedBody → Prop
  /-- No rule wants the body, which is passed on as it comes. -/
  | streamed {answer} (hask : ¬ AsksForBody cfg url upstream)
      (hmeant : ∀ bytes, ∃ meant, relay cfg url (upstream.withBytes bytes) = .ok meant ∧
        meant.body = bytes ∧ Heads upstream meant answer)
      (hbody : answer.body = .observed (.response upstream.body)) : Reply cfg url upstream answer
  | buffered {answer bytes meant} (hask : AsksForBody cfg url upstream)
      (hbytes : upstream.body.collect = .ok bytes)
      (hmeant : relay cfg url (upstream.withBytes bytes) = .ok meant)
      (hhead : Heads upstream meant answer) (hlength : declared answer.headers = [some meant.body.length])
      (hbody : answer.body = .observed (.response (.fromBytes meant.body))) :
      Reply cfg url upstream answer
  /-- A rule wants the body, and it ends in an error. -/
  | unread {err} (hask : AsksForBody cfg url upstream) (hbytes : upstream.body.collect = .error err) :
      Reply cfg url upstream (generatedAnswer .badGateway "bad gateway")
  /-- A rule fails before one wants the body. -/
  | failed (hask : ¬ AsksForBody cfg url upstream)
      (hmeant : ∀ bytes, ∃ err, relay cfg url (upstream.withBytes bytes) = .error err) :
      Reply cfg url upstream (generatedAnswer .badGateway "bad gateway")
  | failedBuffered {bytes err} (hask : AsksForBody cfg url upstream)
      (hbytes : upstream.body.collect = .ok bytes)
      (hmeant : relay cfg url (upstream.withBytes bytes) = .error err) :
      Reply cfg url upstream (generatedAnswer .badGateway "bad gateway")

/-- What `handle` answers to an outcome of the upstream call. -/
def Replies (cfg : TransformConfig) (url : String) (outcome : UpstreamOutcome)
    (answer : Response ServedBody) : Prop :=
  match outcome with
  | .response upstream => Reply cfg url upstream answer
  | .error _ => answer = generatedAnswer .badGateway "bad gateway"
  | .timeout => answer = generatedAnswer .gatewayTimeout "gateway timeout"

/-! ### The two phases give the message -/

variable {cfg : TransformConfig} {url : String} {upstream : Response Body} {headers : HeaderMap}

/-- The message of a pass that the two phases finish. -/
theorem relay_of_twoPhase {bytes : List UInt8} {s : HeaderMap × List UInt8} {outcome : ApplyOutcome}
    (h : cfg.twoPhase url (stripHopByHopHeaders upstream.headers) bytes = (s, .ok outcome)) :
    relay cfg url (upstream.withBytes bytes) =
      .ok { upstream.withBytes bytes with headers := s.1, body := s.2 } := by
  have hpass := @TransformConfig.twoPhase_pass _ url cfg (stripHopByHopHeaders upstream.headers) bytes
  rw [h] at hpass
  unfold relay
  rw [show cfg.onePass url (stripHopByHopHeaders (upstream.withBytes bytes).headers)
    (upstream.withBytes bytes).body = (s, .ok ()) from hpass.symm]

theorem relay_of_twoPhase_error {bytes : List UInt8} {s : HeaderMap × List UInt8} {err : AnyError}
    (h : cfg.twoPhase url (stripHopByHopHeaders upstream.headers) bytes = (s, .error err)) :
    relay cfg url (upstream.withBytes bytes) = .error err := by
  have hpass := @TransformConfig.twoPhase_pass _ url cfg (stripHopByHopHeaders upstream.headers) bytes
  rw [h] at hpass
  unfold relay
  rw [show cfg.onePass url (stripHopByHopHeaders (upstream.withBytes bytes).headers)
    (upstream.withBytes bytes).body = (s, .error err) from hpass.symm]

theorem not_asksForBody {plan : Except AnyError PrebufferOutcome}
    (hu : cfg.applyUntilBody url (stripHopByHopHeaders upstream.headers) = (plan, headers))
    (hplan : ∀ index changed, plan ≠ .ok ⟨.bufferFrom index, changed⟩) :
    ¬ AsksForBody cfg url upstream := by
  rintro ⟨index, changed, _, hu'⟩
  rw [hu] at hu'
  exact hplan index changed (Prod.mk.inj hu').1

/-- The streamed response has the head of the message, whatever the body will be. -/
theorem reply_streamed {changed : Bool}
    (hu : cfg.applyUntilBody url (stripHopByHopHeaders upstream.headers) =
      (.ok ⟨.stream, changed⟩, headers)) :
    Reply cfg url upstream ⟨upstream.status, upstream.version,
      if changed then headers.remove .contentLength else headers, .observed (.response upstream.body)⟩ := by
  refine .streamed (not_asksForBody hu (by simp)) (fun bytes => ?_) rfl
  have htwo : cfg.twoPhase url (stripHopByHopHeaders upstream.headers) bytes =
      ((headers, bytes), .ok ⟨changed, false⟩) := by
    unfold TransformConfig.twoPhase
    rw [hu]
  refine ⟨_, relay_of_twoPhase htwo, rfl, rfl, rfl, fun name hname => ?_, ?_⟩
  · show (if changed then headers.remove .contentLength else headers).getAll name = headers.getAll name
    cases changed with
    | true => exact headers.getAll_remove_of_ne hname
    | false => rfl
  · cases changed with
    | true => exact .inl (declared_remove headers)
    | false =>
      -- no rule reports a change, so the headers are those that came
      obtain ⟨-, hsame⟩ := TransformConfig.applyUntilBodyFrom_unchanged hu rfl
      exact .inr (.inr ⟨hsame, rfl⟩)

/-- The buffered response is the message, with its own length declared. -/
theorem reply_buffered {index : ℕ} {changed : Bool} {headers' : HeaderMap} {bytes bytes' : List UInt8}
    {outcome : ApplyOutcome} {contentLength : HeaderValue}
    (hu : cfg.applyUntilBody url (stripHopByHopHeaders upstream.headers) =
      (.ok ⟨.bufferFrom index, changed⟩, headers))
    (hc : upstream.body.collect = .ok bytes)
    (hw : cfg.applyWithBody index url headers bytes = (.ok outcome, headers', bytes'))
    (hlength : parseLength contentLength = some bytes'.length) :
    Reply cfg url upstream ⟨upstream.status, upstream.version,
      (headers'.remove .contentLength).insert .contentLength contentLength,
      .observed (.response (.fromBytes bytes'))⟩ := by
  have htwo : cfg.twoPhase url (stripHopByHopHeaders upstream.headers) bytes =
      ((headers', bytes'), .ok ⟨changed || outcome.headersChanged, outcome.bodyChanged⟩) := by
    unfold TransformConfig.twoPhase
    rw [hu]
    simp only [hw]
  have hd : declared ((headers'.remove .contentLength).insert .contentLength contentLength) =
      [some bytes'.length] := by
    unfold declared
    rw [MultiMap.getAll_insert_self, List.map_singleton, hlength]
  refine .buffered ⟨index, changed, headers, hu⟩ hc (relay_of_twoPhase htwo) ⟨rfl, rfl, ?_, .inr (.inl hd)⟩
    hd rfl
  intro name hname
  show ((headers'.remove .contentLength).insert .contentLength contentLength).getAll name =
    headers'.getAll name
  rw [MultiMap.getAll_insert_of_ne _ _ hname, MultiMap.getAll_remove_of_ne _ hname]

/-! ### The two parts of `handle` -/

variable [Digest] {svc : ProxyService}

/-- Where `handle` stands after the upstream call: it answered, or collects the body for a rule. -/
theorem onUpstream_replies (svc : ProxyService) (url : String) (outcome : UpstreamOutcome)
    (startedAt now : OffsetDateTime) (x : SharedExchangeCapture) :
    (∃ answer, (svc.onUpstream url outcome startedAt now x).2 = .answered answer ∧
      Replies svc.cfg.transforms url outcome answer) ∨
    ∃ upstream headers index changed, outcome = .response upstream ∧
      (svc.onUpstream url outcome startedAt now x).2 =
        .collecting url { upstream with headers } index startedAt ∧
      svc.cfg.transforms.applyUntilBody url (stripHopByHopHeaders upstream.headers) =
        (.ok ⟨.bufferFrom index, changed⟩, headers) := by
  cases outcome with
  | error text => exact .inl ⟨_, rfl, rfl⟩
  | timeout => exact .inl ⟨_, rfl, rfl⟩
  | response upstream =>
    unfold ProxyService.onUpstream
    dsimp only
    rcases hu : svc.cfg.transforms.applyUntilBody url (stripHopByHopHeaders upstream.headers) with
      ⟨err | ⟨_ | index, changed⟩, headers⟩
    · have htwo : ∀ bytes, svc.cfg.transforms.twoPhase url (stripHopByHopHeaders upstream.headers) bytes =
          ((headers, bytes), .error err) := by
        intro bytes
        unfold TransformConfig.twoPhase
        rw [hu]
      exact .inl ⟨_, rfl, .failed (not_asksForBody hu (by simp)) fun bytes =>
        ⟨err, relay_of_twoPhase_error (htwo bytes)⟩⟩
    · exact .inl ⟨_, rfl, reply_streamed hu⟩
    · exact .inr ⟨upstream, headers, index, changed, rfl, rfl, hu⟩

/-- What `handle` answers once the body was collected. -/
theorem onCollected_replies {index : ℕ} {changed : Bool} (startedAt now : OffsetDateTime)
    (x : SharedExchangeCapture)
    (hu : svc.cfg.transforms.applyUntilBody url (stripHopByHopHeaders upstream.headers) =
      (.ok ⟨.bufferFrom index, changed⟩, headers)) :
    ∃ answer, (svc.onCollected url { upstream with headers } index startedAt now upstream.body.collect x).2 =
      .answered answer ∧ Reply svc.cfg.transforms url upstream answer := by
  have hask : AsksForBody svc.cfg.transforms url upstream := ⟨index, changed, headers, hu⟩
  unfold ProxyService.onCollected
  cases hc : upstream.body.collect with
  | error err => exact ⟨_, rfl, .unread hask hc⟩
  | ok bytes =>
    dsimp only
    rcases hw : svc.cfg.transforms.applyWithBody index url headers bytes with
      ⟨err | outcome, headers', bytes'⟩
    · have htwo : svc.cfg.transforms.twoPhase url (stripHopByHopHeaders upstream.headers) bytes =
          ((headers', bytes'), .error err) := by
        unfold TransformConfig.twoPhase
        rw [hu]
        simp only [hw]
      exact ⟨_, rfl, .failedBuffered hask hc (relay_of_twoPhase_error htwo)⟩
    · obtain ⟨contentLength, hv, hlength⟩ := fromStr_length bytes'.length
      dsimp only
      rw [hv]
      exact ⟨_, rfl, reply_buffered hu hc hw hlength⟩

/-! ### The answer in a run -/

/-- The outcomes of the upstream call among the actions. -/
def upstreamOutcomes (as : List ExchangeAction) : List UpstreamOutcome :=
  as.filterMap fun a => match a with
    | .upstream outcome _ _ => some outcome
    | _ => none

/-- What `handle` knows where it waits after the actions `as`. -/
def Handling.Waits (cfg : TransformConfig) (url : String) (as : List ExchangeAction) : Handling → Prop
  | .upstream requestUrl => requestUrl = url ∧ upstreamOutcomes as = []
  | .collecting requestUrl response index _ => requestUrl = url ∧ ∃ upstream headers changed,
      upstreamOutcomes as = [.response upstream] ∧ response = { upstream with headers } ∧
      cfg.applyUntilBody url (stripHopByHopHeaders upstream.headers) =
        (.ok ⟨.bufferFrom index, changed⟩, headers)
  | .answered _ => True

namespace Exchange

variable {service : ProxyService} {as : List ExchangeAction} {e t : Exchange} {a : ExchangeAction}

/-- The invariant over the actions `as`: while `handle` runs, it knows of one outcome at most. -/
structure OneOutcome (service : ProxyService) (url : String) (as : List ExchangeAction) (e : Exchange) :
    Prop where
  svc : e.svc = service
  waits : ∀ handling, e.stage = .running handling → handling.Waits service.cfg.transforms url as
  returned : ∀ answer, e.stage = .running (.answered answer) → e.answer ≠ none

omit [Glob] [Digest] in
theorem answer_answered (answer : Response ServedBody) : (Handling.answered answer).answer ≠ none := by
  obtain ⟨status, version, headers, body | body⟩ := answer
  · exact Option.some_ne_none _
  · exact Option.some_ne_none _

omit [Glob] [Digest] in
theorem upstreamOutcomes_concat (as : List ExchangeAction) (a : ExchangeAction) :
    upstreamOutcomes (as ++ [a]) = upstreamOutcomes as ++ upstreamOutcomes [a] := by
  unfold upstreamOutcomes
  exact List.filterMap_append

omit [Digest] in
/-- An action that is no outcome leaves `handle` waiting where it waited. -/
theorem OneOutcome.keep (h : OneOutcome service url as e) (hsvc : t.svc = e.svc)
    (hstage : t.stage = e.stage) (hanswer : t.answer = e.answer) (ha : upstreamOutcomes [a] = []) :
    OneOutcome service url (as ++ [a]) t := by
  have hsame : upstreamOutcomes (as ++ [a]) = upstreamOutcomes as := by
    rw [upstreamOutcomes_concat, ha, List.append_nil]
  refine ⟨hsvc.trans h.svc, fun handling hrun => ?_, fun answer hrun => ?_⟩
  · have hwaits := h.waits handling (hstage ▸ hrun)
    cases handling with
    | upstream requestUrl => exact ⟨hwaits.1, hsame.trans hwaits.2⟩
    | collecting requestUrl response index startedAt =>
      obtain ⟨hurl, upstream, headers, changed, houtcome, hrest⟩ := hwaits
      exact ⟨hurl, upstream, headers, changed, hsame.trans houtcome, hrest⟩
    | answered answer => trivial
  · rw [hanswer]
    exact h.returned answer (hstage ▸ hrun)

omit [Digest] in
/-- The response is read or dropped, or the future of `handle` is. -/
theorem OneOutcome.later (h : OneOutcome service url as e) (hsvc : t.svc = e.svc)
    (hanswer : t.answer = e.answer)
    (hstage : ∀ handling, t.stage = .running handling → handling.answer ≠ none ∧ e.answer ≠ none) :
    OneOutcome service url (as ++ [a]) t := by
  refine ⟨hsvc.trans h.svc, fun handling hrun => ?_, fun answer hrun => ?_⟩
  · have hsome := (hstage handling hrun).1
    cases handling with
    | upstream requestUrl => exact absurd rfl hsome
    | collecting requestUrl response index startedAt => exact absurd rfl hsome
    | answered answer => trivial
  · rw [hanswer]
    exact (hstage _ hrun).2

omit [Digest] in
/-- The stage to which `handle` goes on. -/
theorem OneOutcome.next {next : SharedExchangeCapture × Handling} (h : OneOutcome service url as e)
    (hnext : next.2.Waits service.cfg.transforms url (as ++ [a])) :
    OneOutcome service url (as ++ [a]) (e.goOn next) := by
  refine ⟨h.svc, fun handling hrun => ?_, fun answer hrun => ?_⟩
  · obtain rfl : next.2 = handling := Stage.running.inj hrun
    exact hnext
  · have hrun : next.2 = .answered answer := Stage.running.inj hrun
    show next.2.answer ≠ none
    rw [hrun]
    exact answer_answered answer

theorem oneOutcome_step (h : OneOutcome service url as e) (hs : e.step a = some t) :
    OneOutcome service url (as ++ [a]) t ∧
      ∀ answer, e.answer = none → t.stage = .running (.answered answer) →
        ∃ outcome, upstreamOutcomes (as ++ [a]) = [outcome] ∧
          Replies service.cfg.transforms url outcome answer := by
  have hopen : ∀ {answer : Response ServedBody} {P : Prop}, e.answer = none →
      e.stage = .running (.answered answer) → P := fun hn hst => absurd hn (h.returned _ hst)
  cases step_effect hs with
  | pollRequest hb => exact ⟨h.keep rfl rfl rfl rfl, fun answer hn hst => hopen hn hst⟩
  | dropRequest hb => exact ⟨h.keep rfl rfl rfl rfl, fun answer hn hst => hopen hn hst⟩
  | @upstream requestUrl outcome startedAt now hst =>
    obtain ⟨rfl, hnil⟩ := h.waits _ hst
    have hone : upstreamOutcomes (as ++ [.upstream outcome startedAt now]) = [outcome] := by
      rw [upstreamOutcomes_concat, hnil]
      rfl
    rw [h.svc]
    rcases onUpstream_replies service requestUrl outcome startedAt now e.shared with
      ⟨answer, hanswer, hreplies⟩ | ⟨upstream, headers, index, changed, rfl, hcollect, hu⟩
    · refine ⟨h.next (by rw [hanswer]; trivial), fun answer' _ hrun => ⟨outcome, hone, ?_⟩⟩
      have hrun := hanswer.symm.trans (Stage.running.inj hrun)
      obtain rfl := Handling.answered.inj hrun
      exact hreplies
    · refine ⟨h.next ?_, fun answer' _ hrun => ?_⟩
      · rw [hcollect]
        exact ⟨rfl, upstream, headers, changed, hone, rfl, hu⟩
      · have hrun := hcollect.symm.trans (Stage.running.inj hrun)
        cases hrun
  | @collected requestUrl response index startedAt now hst =>
    obtain ⟨rfl, upstream, headers, changed, hone, rfl, hu⟩ := h.waits _ hst
    have hone : upstreamOutcomes (as ++ [.collected now]) = [.response upstream] := by
      rw [upstreamOutcomes_concat, hone]
      rfl
    rw [h.svc]
    obtain ⟨answer, hanswer, hreply⟩ := onCollected_replies startedAt now e.shared hu
    refine ⟨h.next (by rw [hanswer]; trivial), fun answer' _ hrun => ⟨_, hone, ?_⟩⟩
    have hrun := hanswer.symm.trans (Stage.running.inj hrun)
    obtain rfl := Handling.answered.inj hrun
    exact hreply
  | cancelUpstream hst =>
    exact ⟨h.later rfl rfl fun _ hrun => (by cases hrun), fun _ _ hrun => (by cases hrun)⟩
  | cancelCollecting hst =>
    exact ⟨h.later rfl rfl fun _ hrun => (by cases hrun), fun _ _ hrun => (by cases hrun)⟩
  | @pollResponse response now hst =>
    have hans := h.returned response hst
    obtain ⟨status, version, headers, body | body⟩ := response
    · refine ⟨h.later rfl rfl fun handling hrun => ?_, fun _ hn _ => absurd hn hans⟩
      obtain rfl := Stage.running.inj hrun
      exact ⟨answer_answered _, hans⟩
    · refine ⟨h.later rfl rfl fun handling hrun => ?_, fun _ hn _ => absurd hn hans⟩
      obtain rfl := Stage.running.inj hrun
      exact ⟨answer_answered _, hans⟩
  | @advance response body inner hst hb =>
    have hans := h.returned response hst
    refine ⟨h.later rfl rfl fun handling hrun => ?_, fun _ hn _ => absurd hn hans⟩
    obtain rfl := Stage.running.inj hrun
    exact ⟨answer_answered _, hans⟩
  | @dropResponse response now hst =>
    have hans := h.returned response hst
    obtain ⟨status, version, headers, body | body⟩ := response
    · exact ⟨h.later rfl rfl fun _ hrun => (by cases hrun), fun _ hn _ => absurd hn hans⟩
    · exact ⟨h.later rfl rfl fun _ hrun => (by cases hrun), fun _ hn _ => absurd hn hans⟩

variable [Net] {req : Request Body} {startedAt now : OffsetDateTime} {eventId connectionId : Uuid}

theorem oneOutcome_init (svc : ProxyService) (req : Request Body) (startedAt now : OffsetDateTime)
    (eventId connectionId : Uuid) :
    OneOutcome svc (requestUrl (req.uri.path.getD "/") req.uri.query) []
      (init svc req startedAt eventId connectionId now) := by
  generalize hfirst : SharedExchangeCapture.new svc.cfg req startedAt eventId connectionId = first
  have hstage : (init svc req startedAt eventId connectionId now).stage =
      .running (svc.start req first now).2.1 := by
    rw [← hfirst]
    rfl
  have hanswer : (init svc req startedAt eventId connectionId now).answer =
      (svc.start req first now).2.1.answer := by
    rw [← hfirst]
    rfl
  refine ⟨rfl, fun handling hrun => ?_, fun answer hrun => ?_⟩
  · obtain rfl := Stage.running.inj (hstage.symm.trans hrun)
    rcases KidProxy.start_cases svc req first now with ⟨-, forwarded, hs⟩ | ⟨-, y, status, message, hs⟩
    · rw [hs]
      exact ⟨rfl, rfl⟩
    · rw [hs]
      trivial
  · rw [hanswer, Stage.running.inj (hstage.symm.trans hrun)]
    exact answer_answered answer

/-- **The relayed response**: in every run, whatever is read of the request body meanwhile, the step with
which `handle` returns after the upstream was called comes with exactly one outcome of that call,
and the answer is what that outcome comes to. -/
theorem answer_relays {svc : ProxyService} {answer : Response ServedBody}
    (hrun : run step (init svc req startedAt eventId connectionId now) as = some e)
    (hstep : e.step a = some t) (hopen : e.answer = none) (hanswer : t.stage = .running (.answered answer)) :
    ∃ outcome, upstreamOutcomes (as ++ [a]) = [outcome] ∧
      Replies svc.cfg.transforms (requestUrl (req.uri.path.getD "/") req.uri.query) outcome answer := by
  have hone : OneOutcome svc (requestUrl (req.uri.path.getD "/") req.uri.query) as e :=
    run_history (fun _ _ _ _ h hs => (oneOutcome_step h hs).1)
      (oneOutcome_init svc req startedAt now eventId connectionId) hrun
  exact (oneOutcome_step hone hstep).2 answer hopen hanswer

end Exchange

end

/-- The rule of the sample configuration rewrites the body that it asked for. -/
theorem answer_relays_sample : ∃ e t answer,
    sampleRun sampleBodyRule
      [.upstream (.response (sampleUpstreamOk (.fromBytes [97, 97]))) sampleTime sampleTime] = some e ∧
    @Exchange.step sampleGlob sampleDigest e (.collected sampleTime) = some t ∧
    t.stage = .running (.answered answer) ∧ @Reply sampleGlob sampleBodyRule.transforms "/"
      (sampleUpstreamOk (.fromBytes [97, 97])) answer := by
  obtain ⟨e, t, answer, hrun, hstep, hopen, hanswer⟩ : ∃ e t answer,
      sampleRun sampleBodyRule
        [.upstream (.response (sampleUpstreamOk (.fromBytes [97, 97]))) sampleTime sampleTime] = some e ∧
      @Exchange.step sampleGlob sampleDigest e (.collected sampleTime) = some t ∧
      e.answer = none ∧ t.stage = .running (.answered answer) := ⟨_, _, _, rfl, rfl, rfl, rfl⟩
  obtain ⟨outcome, hone, hreplies⟩ :=
    @Exchange.answer_relays sampleGlob sampleDigest _ _ _ _ sampleNet _ _ _ _ _ _ _ hrun hstep hopen hanswer
  obtain rfl := (List.singleton_inj.mp hone).symm
  exact ⟨e, t, answer, hrun, hstep, hanswer, hreplies⟩

end KidProxy
