import KidProxy.Observation
import KidProxy.Relay

/-!
# Reading — what a client has that reads its response

The client polls the observed body of the relayed message.  `Delivering` says how far it has read, and
`Logged` that the event tells of the same bytes; both are kept by every step that does not replace the
inner body.  A client that reads to the end has the message, and the event says so.
-/

namespace KidProxy

open Transition

/-! ### Polls and bytes -/

/-- The data bytes of the polls, of which the newest is the first. -/
def readBytes (polls : List (Poll × Bool)) : List UInt8 := (polls.reverse.map (·.1.bytes)).flatten

/-- The newest poll is the first to answer `None`, and none answered an error. -/
def ReadToEnd (polls : List (Poll × Bool)) : Prop :=
  ∃ atEnd earlier, polls = (.done, atEnd) :: earlier ∧ NotEnded earlier

theorem readBytes_cons (poll : Poll) (atEnd : Bool) (polls : List (Poll × Bool)) :
    readBytes ((poll, atEnd) :: polls) = readBytes polls ++ poll.bytes := by
  unfold readBytes
  simp

theorem NotEnded.tail {poll : Poll × Bool} {polls : List (Poll × Bool)} (h : NotEnded (poll :: polls)) :
    NotEnded polls := fun p hp => h p (List.mem_cons_of_mem poll hp)

theorem ReadToEnd.earlier {poll : Poll} {atEnd : Bool} {polls : List (Poll × Bool)}
    (h : ReadToEnd ((poll, atEnd) :: polls)) : poll = .done ∧ NotEnded polls := by
  obtain ⟨atEnd', earlier, hpolls, hearlier⟩ := h
  obtain ⟨hhead, rfl⟩ := List.cons_eq_cons.mp hpolls
  exact ⟨(Prod.mk.inj hhead).1, hearlier⟩

/-- A poll that is no end takes its bytes off what there is to read. -/
theorem Body.readAll_of_poll {body rest : Body} {poll : Poll} (h : body.pollFrame = (poll, rest))
    (hdone : poll ≠ .done) (herr : ∀ err, poll ≠ .err err) :
    body.readAll = rest.readAll.map (poll.bytes ++ ·) id := by
  obtain ⟨answers, atEnd⟩ := body
  cases answers with
  | nil => exact absurd (Prod.mk.inj h).1.symm hdone
  | cons answer answers =>
    obtain ⟨answer, last⟩ := answer
    obtain ⟨rfl, rfl⟩ := Prod.mk.inj h
    cases answer with
    | pending => rfl
    | frame frame => cases frame <;> rfl
    | err err => exact absurd rfl (herr err)
    | done => exact absurd rfl hdone

theorem Body.readAll_of_done {body rest : Body} (h : body.pollFrame = (.done, rest)) :
    body.readAll = ([], none) := by
  obtain ⟨answers, atEnd⟩ := body
  cases answers with
  | nil => rfl
  | cons answer answers =>
    obtain ⟨answer, last⟩ := answer
    obtain rfl : answer = .done := (Prod.mk.inj h).1
    rfl

/-- What was read of `whole`, of which `rest` is left. -/
structure Body.ReadSoFar (whole rest : Body) (polls : List (Poll × Bool)) : Prop where
  left : NotEnded polls → whole.readAll = rest.readAll.map (readBytes polls ++ ·) id
  ended : ReadToEnd polls → whole.readAll = (readBytes polls, none)

theorem Body.readSoFar_nil (whole : Body) : whole.ReadSoFar whole [] where
  left _ := rfl
  ended := by
    rintro ⟨_, _, h, -⟩
    cases h

/-- As long as the end was not read, a prefix was. -/
theorem Body.ReadSoFar.prefix_of_collect {whole rest : Body} {polls : List (Poll × Bool)}
    {bytes : List UInt8} (h : whole.ReadSoFar rest polls) (hnot : NotEnded polls)
    (hbytes : whole.collect = .ok bytes) : readBytes polls <+: bytes := by
  rw [Body.collect_eq_ok, h.left hnot] at hbytes
  exact ⟨rest.readAll.1, (Prod.mk.inj hbytes).1⟩

theorem Body.ReadSoFar.collect_of_ended {whole rest : Body} {polls : List (Poll × Bool)}
    (h : whole.ReadSoFar rest polls) (hend : ReadToEnd polls) : whole.collect = .ok (readBytes polls) :=
  Body.collect_eq_ok.mpr (h.ended hend)

/-- **One poll** of the inner body. -/
theorem Body.ReadSoFar.poll {whole body rest : Body} {polls : List (Poll × Bool)} {poll : Poll}
    (h : whole.ReadSoFar body polls) (hpoll : body.pollFrame = (poll, rest)) (atEnd : Bool) :
    whole.ReadSoFar rest ((poll, atEnd) :: polls) where
  left hnot := by
    have hhead := hnot _ List.mem_cons_self
    rw [h.left hnot.tail, Body.readAll_of_poll hpoll hhead.1 hhead.2, readBytes_cons]
    simp [Prod.map]
  ended hend := by
    obtain ⟨rfl, hnot⟩ := hend.earlier
    rw [h.left hnot, Body.readAll_of_done hpoll, readBytes_cons]
    simp [Prod.map, Poll.bytes]

namespace Exchange

/-! ### The event tells of the bytes read -/

variable [Glob] [Digest] {e t : Exchange} {a : ExchangeAction}

/-- A step polls the observed body that the client holds, or no response body. -/
theorem polls_step (hs : e.step a = some t) :
    t.polls = e.polls ∧ handed .response e a = [] ∨
    ∃ poll atEnd response body, t.polls = (poll, atEnd) :: e.polls ∧ handed .response e a = poll.bytes ∧
      e.stage = .running (.answered response) ∧ response.body = .observed body := by
  cases step_effect hs with
  | pollRequest hb => exact .inl ⟨rfl, by simp [handed]⟩
  | @pollResponse response now hst =>
    obtain ⟨status, version, headers, body | body⟩ := response
    · exact .inl ⟨rfl, by simp [handed, hst]⟩
    · have hhanded : handed .response e (.pollResponse now) = (body.pollFrame e.shared now).1.bytes := by
        simp only [handed, hst]
      exact .inr ⟨_, _, _, body, rfl, hhanded, hst, rfl⟩
  | @dropResponse response now hst =>
    obtain ⟨status, version, headers, body | body⟩ := response
    · exact .inl ⟨rfl, rfl⟩
    · exact .inl ⟨rfl, rfl⟩
  | dropRequest hb => exact .inl ⟨rfl, rfl⟩
  | upstream hst => exact .inl ⟨rfl, rfl⟩
  | collected hst => exact .inl ⟨rfl, rfl⟩
  | cancelUpstream hst => exact .inl ⟨rfl, rfl⟩
  | cancelCollecting hst => exact .inl ⟨rfl, rfl⟩
  | advance hst hb => exact .inl ⟨rfl, rfl⟩

omit [Glob] [Digest] in
/-- While the client holds an observed body that has not ended, no event was sent. -/
theorem Good.unsent (h : Good e) {response : Response ServedBody} {body : ObservedBody Body}
    (hstage : e.stage = .running (.answered response)) (hbody : response.body = .observed body)
    (hnot : NotEnded e.polls) : e.shared.sent = [] := by
  obtain ⟨status, version, headers, served⟩ := response
  obtain rfl : served = .observed body := hbody
  cases (h.stage.phase hstage).1 with
  | serving hx hb => exact hx.sent
  | served hx hb hr =>
    rcases hr with ⟨⟨p, hp, hdone⟩, -⟩ | ⟨⟨p, hp, text, herr⟩, -⟩
    · exact absurd hdone (hnot p hp).1
    · exact absurd herr ((hnot p hp).2 text)

/-- The capture has seen what was read, and an event that was sent when the client had read to the end
tells of that. -/
structure Logged (limit : ℕ) (e : Exchange) : Prop where
  hashed : (e.shared.seen .response).hashed = readBytes e.polls
  maxBytes : (e.shared.seen .response).maxBytes = limit
  summary : ∀ event ∈ e.shared.sent, ReadToEnd e.polls →
    event.summary .response = .of limit (readBytes e.polls)

theorem logged_step {limit : ℕ} (hpos : 0 < limit) (hg : Good e) (h : Logged limit e)
    (hs : e.step a = some t) : Logged limit t := by
  have hobs := observes_step hg hs
  have hread : readBytes t.polls = readBytes e.polls ++ handed .response e a := by
    rcases polls_step hs with ⟨hpolls, hnone⟩ | ⟨poll, atEnd, response, body, hpolls, hhanded, -, -⟩
    · rw [hpolls, hnone, List.append_nil]
    · rw [hpolls, hhanded, readBytes_cons]
  refine ⟨?_, (hobs.maxBytes .response).trans h.maxBytes, fun event hevent hend => ?_⟩
  · rw [hobs.hashed .response, h.hashed, hread]
  · rcases hobs.sent with hsent | ⟨c, now, hsent, -, hres, hnone⟩
    · rw [hsent] at hevent
      rcases polls_step hs with ⟨hpolls, -⟩ | ⟨poll, atEnd, response, body, hpolls, -, hst, hb⟩
      · rw [hpolls] at hend ⊢
        exact h.summary event hevent hend
      · -- the end that was read now had sent no event before
        rw [hpolls] at hend
        rw [hg.unsent hst hb hend.earlier.2] at hevent
        cases hevent
    · have hone : event = c.buildEvent now := by
        rcases (good_step hg hs).sent with hnil | ⟨-, only, answer, honly, -⟩
        · rw [hnil] at hevent
          cases hevent
        · have hlast : c.buildEvent now ∈ t.shared.sent := by
            rw [hsent]
            exact List.mem_append_right _ (List.mem_singleton_self _)
          rw [honly, List.mem_singleton] at hevent hlast
          exact hevent.trans hlast.symm
      rw [hone, hread, hnone .response, List.append_nil, ← h.hashed, ← h.maxBytes]
      show BodyAccumulator.finish c.responseBody = _
      rw [hres]
      exact BodyAccumulator.finish_eq (h.maxBytes.symm ▸ hpos)

/-! ### The client reads the message -/

/-- No inner body is replaced between two polls. -/
def Steady (as : List ExchangeAction) : Prop := ∀ inner, .advance inner ∉ as

/-- How far the client has read the message that the response of the upstream comes to. -/
def Delivering (cfg : TransformConfig) (url : String) (as : List ExchangeAction) (e : Exchange) : Prop :=
  ∀ response body, e.stage = .running (.answered response) → response.body = .observed body →
    ∃ upstream answer whole, upstreamOutcomes as = [.response upstream] ∧
      Reply cfg url upstream answer ∧ answer.body = .observed (.response whole) ∧
      response = { answer with body := .observed body } ∧
      whole.ReadSoFar body.inner e.polls

variable {cfg : TransformConfig} {url : String} {service : ProxyService} {as : List ExchangeAction}

omit [Digest] in
/-- Only the answer to a response of the upstream is observed. -/
theorem whole_of_replies {outcome : UpstreamOutcome} {answer : Response ServedBody}
    {body : ObservedBody Body} (h : Replies cfg url outcome answer) (hbody : answer.body = .observed body) :
    ∃ upstream whole, outcome = .response upstream ∧ Reply cfg url upstream answer ∧
      body = .response whole := by
  cases outcome with
  | error text =>
    obtain rfl : answer = generatedAnswer .badGateway "bad gateway" := h
    cases hbody
  | timeout =>
    obtain rfl : answer = generatedAnswer .gatewayTimeout "gateway timeout" := h
    cases hbody
  | response upstream =>
    have hreply : Reply cfg url upstream answer := h
    cases h with
    | streamed hask hmeant hb =>
      exact ⟨upstream, _, rfl, hreply, ServedBody.observed.inj (hbody.symm.trans hb)⟩
    | buffered hask hbytes hmeant hhead hlength hb =>
      exact ⟨upstream, _, rfl, hreply, ServedBody.observed.inj (hbody.symm.trans hb)⟩
    | unread hask hbytes => cases hbody
    | failed hask hmeant => cases hbody
    | failedBuffered hask hbytes hmeant => cases hbody

omit [Digest] in
/-- What there is to read is the body of the message. -/
theorem whole_of_reply {upstream : Response Body} {answer : Response ServedBody} {whole : Body}
    (h : Reply cfg url upstream answer) (hwhole : answer.body = .observed (.response whole)) :
    (∀ bytes, upstream.body.collect = .ok bytes → ∃ meant,
      relay cfg url (upstream.withBytes bytes) = .ok meant ∧ whole.collect = .ok meant.body) ∧
    ∀ read, whole.collect = .ok read → ∃ bytes meant, upstream.body.collect = .ok bytes ∧
      relay cfg url (upstream.withBytes bytes) = .ok meant ∧ Heads upstream meant answer ∧
      read = meant.body := by
  have hinner : ∀ {inner : Body}, answer.body = .observed (.response inner) → inner = whole := by
    intro inner hbody
    have hsame := ServedBody.observed.inj (hbody.symm.trans hwhole)
    exact congrArg ObservedBody.inner hsame
  cases h with
  | streamed hask hmeant hbody =>
    obtain rfl := hinner hbody
    refine ⟨fun bytes hbytes => ?_, fun read hread => ?_⟩
    · obtain ⟨meant, hrelay, hsame, -⟩ := hmeant bytes
      exact ⟨meant, hrelay, hsame ▸ hbytes⟩
    · obtain ⟨meant, hrelay, hsame, hhead⟩ := hmeant read
      exact ⟨read, meant, hread, hrelay, hhead, hsame.symm⟩
  | @buffered _ bytes meant hask hbytes hmeant hhead hlength hbody =>
    obtain rfl := hinner hbody
    refine ⟨fun bytes' hbytes' => ?_, fun read hread => ?_⟩
    · obtain rfl := Except.ok.inj (hbytes.symm.trans hbytes')
      exact ⟨meant, hmeant, Body.collect_fromBytes meant.body⟩
    · rw [Body.collect_fromBytes] at hread
      exact ⟨bytes, meant, hbytes, hmeant, hhead, (Except.ok.inj hread).symm⟩
  | unread hask hbytes => cases hwhole
  | failed hask hmeant => cases hwhole
  | failedBuffered hask hbytes hmeant => cases hwhole

omit [Digest] in
/-- A step that leaves the response where it is. -/
theorem Delivering.keep (h : Delivering cfg url as e) (hstage : t.stage = e.stage)
    (hpolls : t.polls = e.polls) (ha : upstreamOutcomes [a] = []) :
    Delivering cfg url (as ++ [a]) t := by
  intro response body hrun hbody
  obtain ⟨upstream, answer, whole, hone, hrest⟩ := h response body (hstage ▸ hrun) hbody
  rw [upstreamOutcomes_concat, ha, List.append_nil, hpolls]
  exact ⟨upstream, answer, whole, hone, hrest⟩

/-- The step with which `handle` returns. -/
theorem delivering_returned (hone : OneOutcome service url as e) (hs : e.step a = some t)
    (hopen : e.answer = none) (hpolls : t.polls = []) :
    Delivering service.cfg.transforms url (as ++ [a]) t := by
  intro response body hrun hbody
  obtain ⟨outcome, houtcomes, hreplies⟩ := (oneOutcome_step hone hs).2 response hopen hrun
  obtain ⟨upstream, whole, rfl, hreply, rfl⟩ := whole_of_replies hreplies hbody
  obtain ⟨status, version, headers, served⟩ := response
  obtain rfl : served = .observed (.response whole) := hbody
  rw [hpolls]
  exact ⟨upstream, _, whole, houtcomes, hreply, rfl, rfl, whole.readSoFar_nil⟩

/-- **One step** of the exchange. -/
theorem delivering_step (hg : Good e) (hone : OneOutcome service url as e)
    (h : Delivering service.cfg.transforms url as e) (hs : e.step a = some t)
    (hsteady : ∀ inner, a ≠ .advance inner) :
    Delivering service.cfg.transforms url (as ++ [a]) t := by
  have heffect := step_effect hs
  cases heffect with
  | pollRequest hb => exact h.keep rfl rfl rfl
  | dropRequest hb => exact h.keep rfl rfl rfl
  | upstream hst =>
    obtain ⟨hp, hans⟩ := hg.stage.phase hst
    cases hp with
    | upstream hc hpolls hx => exact delivering_returned hone hs hans hpolls
  | collected hst =>
    obtain ⟨hp, hans⟩ := hg.stage.phase hst
    cases hp with
    | collecting hc hpolls hx => exact delivering_returned hone hs hans hpolls
  | cancelUpstream hst =>
    intro response body hrun
    cases hrun
  | cancelCollecting hst =>
    intro response body hrun
    cases hrun
  | @pollResponse response now hst =>
    obtain ⟨status, version, headers, body | body⟩ := response
    · intro response' body' hrun hbody
      obtain rfl := Handling.answered.inj (Stage.running.inj hrun)
      cases hbody
    · intro response' body' hrun hbody
      obtain rfl := Handling.answered.inj (Stage.running.inj hrun)
      obtain rfl := ServedBody.observed.inj hbody
      obtain ⟨upstream, answer, whole, houtcome, hreply, hwhole, hsame, hread⟩ := h _ body hst rfl
      obtain ⟨hpoll, hinner⟩ := body.pollFrame_inner e.shared now
      refine ⟨upstream, answer, whole, ?_, hreply, hwhole, ?_, ?_⟩
      · rw [upstreamOutcomes_concat, houtcome]
        rfl
      · obtain ⟨status', version', headers', served⟩ := answer
        cases hsame
        rfl
      · exact hread.poll (Prod.ext hpoll.symm hinner.symm) _
  | advance hst hb => exact absurd rfl (hsteady _)
  | @dropResponse response now hst =>
    obtain ⟨status, version, headers, body | body⟩ := response
    · intro response' body' hrun
      cases hrun
    · intro response' body' hrun
      cases hrun

section Run

variable [Net] {svc : ProxyService} {req : Request Body} {startedAt now : OffsetDateTime}
  {eventId connectionId : Uuid}

/-- At the start the client holds no observed body. -/
theorem delivering_init (svc : ProxyService) (req : Request Body) (startedAt now : OffsetDateTime)
    (eventId connectionId : Uuid) (cfg : TransformConfig) (url : String) :
    Delivering cfg url [] (init svc req startedAt eventId connectionId now) := by
  intro response body hrun hbody
  have hstart : (svc.start req (.new svc.cfg req startedAt eventId connectionId) now).2.1 =
      .answered response := Stage.running.inj hrun
  rcases KidProxy.start_cases svc req (.new svc.cfg req startedAt eventId connectionId) now with
    ⟨-, forwarded, hs⟩ | ⟨-, y, status, message, hs⟩
  · rw [hs] at hstart
    cases hstart
  · rw [hs] at hstart
    obtain rfl := Handling.answered.inj hstart
    cases hbody

theorem logged_init (svc : ProxyService) (req : Request Body) (startedAt now : OffsetDateTime)
    (eventId connectionId : Uuid) :
    Logged svc.cfg.bodyMaxBytes (init svc req startedAt eventId connectionId now) := by
  obtain ⟨-, hmax, hhashed⟩ := seen_run .response
    (run_nil step (init svc req startedAt eventId connectionId now))
  refine ⟨hhashed, hmax, ?_⟩
  rintro event - ⟨atEnd, earlier, hpolls, -⟩
  cases hpolls

/-- The invariants of a run that replaces no inner body. -/
theorem delivering_run (hpos : 0 < svc.cfg.bodyMaxBytes) (hsteady : Steady as)
    (hrun : run step (init svc req startedAt eventId connectionId now) as = some e) :
    Good e ∧ Logged svc.cfg.bodyMaxBytes e ∧
      Delivering svc.cfg.transforms (requestUrl (req.uri.path.getD "/") req.uri.query) as e := by
  have hall := run_history (P := fun bs e => Good e ∧ Logged svc.cfg.bodyMaxBytes e ∧
    OneOutcome svc (requestUrl (req.uri.path.getD "/") req.uri.query) bs e ∧
    (Steady bs → Delivering svc.cfg.transforms (requestUrl (req.uri.path.getD "/") req.uri.query) bs e))
    ?_ ⟨good_init svc req startedAt eventId connectionId now,
      logged_init svc req startedAt now eventId connectionId,
      oneOutcome_init svc req startedAt now eventId connectionId,
      fun _ => delivering_init svc req startedAt now eventId connectionId _ _⟩ hrun
  · exact ⟨hall.1, hall.2.1, hall.2.2.2 hsteady⟩
  · rintro bs s a t ⟨hg, hl, hone, hd⟩ hs
    refine ⟨good_step hg hs, logged_step hpos hg hl hs, (oneOutcome_step hone hs).1, fun hsteady => ?_⟩
    refine delivering_step hg hone (hd fun inner hmem => ?_) hs fun inner ha => ?_
    · exact hsteady inner (List.mem_append_left _ hmem)
    · exact hsteady inner (ha ▸ List.mem_append_right _ (List.mem_singleton_self _))

omit [Net] [Glob] [Digest] in
/-- The event of a response that was read to its end. -/
theorem success_of_readToEnd (hg : Good e) {response : Response ServedBody} {body : ObservedBody Body}
    (hstage : e.stage = .running (.answered response)) (hbody : response.body = .observed body)
    (hend : ReadToEnd e.polls) : ∃ event, e.shared.sent = [event] ∧ event.proxyResult = .success ∧
      event.statusCode = some response.status := by
  obtain ⟨atEnd, earlier, hpolls, hearlier⟩ := hend
  obtain ⟨status, version, headers, served⟩ := response
  obtain rfl : served = .observed body := hbody
  cases (hg.stage.phase hstage).1 with
  | serving hx hb =>
    have hdone := (hb.notEnded (.done, atEnd) (by rw [hpolls]; exact List.mem_cons_self)).1
    exact absurd rfl hdone
  | served hx hb hr =>
    obtain ⟨event, hsent, hresult, -, -, hstatus⟩ := hx.sent
    rcases hr with ⟨-, rfl, -⟩ | ⟨⟨p, hp, text, herr⟩, -⟩
    · exact ⟨event, hsent, hresult, hstatus⟩
    · rw [hpolls] at hp
      rcases List.mem_cons.mp hp with rfl | hp
      · cases herr
      · exact absurd herr ((hearlier p hp).2 text)

end Run

end Exchange

section

variable [Net] [Glob] [Digest]

open Exchange

/-- **A client reads the message**: as far as it has read, it has a prefix of the body of the message
that the rules make of the response; once it has read to the end, it has all of it, under the head of the
message, and the one event of the exchange is a success with the digest and preview of these bytes. -/
theorem client_reads_message {svc : ProxyService} {req : Request Body} {startedAt now : OffsetDateTime}
    {eventId connectionId : Uuid} {as : List ExchangeAction} {e : Exchange} (hpos : 0 < svc.cfg.bodyMaxBytes)
    (hsteady : Steady as)
    (hrun : run step (init svc req startedAt eventId connectionId now) as = some e)
    {response : Response ServedBody} {body : ObservedBody Body}
    (hstage : e.stage = .running (.answered response)) (hbody : response.body = .observed body) :
    ∃ upstream, upstreamOutcomes as = [.response upstream] ∧
      (NotEnded e.polls → ∀ bytes, upstream.body.collect = .ok bytes → ∃ meant,
        relay svc.cfg.transforms (requestUrl (req.uri.path.getD "/") req.uri.query)
          (upstream.withBytes bytes) = .ok meant ∧ readBytes e.polls <+: meant.body) ∧
      (ReadToEnd e.polls → ∃ bytes meant event, upstream.body.collect = .ok bytes ∧
        relay svc.cfg.transforms (requestUrl (req.uri.path.getD "/") req.uri.query)
          (upstream.withBytes bytes) = .ok meant ∧ Heads upstream meant response ∧
        readBytes e.polls = meant.body ∧ e.shared.sent = [event] ∧ event.proxyResult = .success ∧
        event.statusCode = some meant.status ∧
        event.summary .response = .of svc.cfg.bodyMaxBytes meant.body) := by
  obtain ⟨hg, hlogged, hdelivering⟩ := delivering_run hpos hsteady hrun
  obtain ⟨upstream, answer, whole, hone, hreply, hwhole, hsame, hread⟩ :=
    hdelivering response body hstage hbody
  obtain ⟨hpre, hall⟩ := whole_of_reply hreply hwhole
  refine ⟨upstream, hone, fun hnot bytes hbytes => ?_, fun hend => ?_⟩
  · obtain ⟨meant, hrelay, hmeant⟩ := hpre bytes hbytes
    exact ⟨meant, hrelay, hread.prefix_of_collect hnot hmeant⟩
  · obtain ⟨bytes, meant, hbytes, hrelay, hhead, hmeant⟩ := hall _ (hread.collect_of_ended hend)
    obtain ⟨event, hsent, hresult, hstatus⟩ := success_of_readToEnd hg hstage hbody hend
    have hsummary := hlogged.summary event (by rw [hsent]; exact List.mem_singleton_self _) hend
    subst hsame
    refine ⟨bytes, meant, event, hbytes, hrelay, ?_, hmeant, hsent, hresult, ?_, ?_⟩
    · exact ⟨hhead.status, hhead.version, hhead.headers, hhead.length⟩
    · rw [hstatus, ← hhead.status]
    · rw [hsummary, hmeant]

end

/-- The upstream answers with two bytes, which the rule of the sample rewrites; the client reads on to the
end. -/
def sampleReading : List ExchangeAction :=
  [.upstream (.response (sampleUpstreamOk (.fromBytes [97, 97]))) sampleTime sampleTime,
    .collected sampleTime, .pollResponse sampleTime, .pollResponse sampleTime]

theorem steady_sampleReading : Exchange.Steady sampleReading := by
  intro inner hmem
  simp [sampleReading] at hmem

theorem client_reads_message_sample : ∃ e event, sampleRun sampleBodyRule sampleReading = some e ∧
    readBytes e.polls = [98, 98] ∧ e.shared.sent = [event] ∧ event.proxyResult = .success ∧
    @ProxyEvent.summary event .response =
      @BodySummary.of sampleDigest sampleBodyRule.bodyMaxBytes (readBytes e.polls) := by
  obtain ⟨e, response, body, hrun, hstage, hbody, hpolls, hread⟩ : ∃ e response body,
      sampleRun sampleBodyRule sampleReading = some e ∧ e.stage = .running (.answered response) ∧
      response.body = .observed body ∧
      e.polls = [(.done, true), (.frame (.data [98, 98]), true)] ∧ readBytes e.polls = [98, 98] :=
    ⟨_, _, _, rfl, rfl, rfl, rfl, rfl⟩
  obtain ⟨upstream, -, -, hall⟩ := @client_reads_message sampleNet sampleGlob sampleDigest _ _ _ _ _ _ _ _
    (by decide) steady_sampleReading hrun _ _ hstage hbody
  obtain ⟨bytes, meant, event, -, -, -, hmeant, hsent, hresult, -, hsummary⟩ :=
    hall ⟨true, _, hpolls, fun p hp => by rw [List.mem_singleton.mp hp]; simp⟩
  exact ⟨e, event, hrun, hread, hsent, hresult, hmeant ▸ hsummary⟩

end KidProxy
