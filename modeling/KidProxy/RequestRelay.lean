import KidProxy.HopByHop
import KidProxy.Reading

/-!
# RequestRelay — what the upstream gets of a request

`handle` calls the upstream for a request that fits and for no other.  The request it hands over is that
of the client but for the URI, the headers that end here and the encoding that a rule asks for; and what
the upstream client reads of its body is what the client sent, from the start on.
-/

namespace KidProxy

open Transition

/-! ### The head -/

/-- The header is not passed on. -/
def Withheld (headers : HeaderMap) (name : HeaderName) : Prop :=
  name = .host ∨ name ∈ hopByHop ∨ FirstLineNames headers name

/-- The head of the request for the upstream. -/
structure RequestHead [Net] [Glob] (svc : ProxyService) (req : Request Body)
    (forwarded : Request (ObservedBody Body)) : Prop where
  method : forwarded.method = req.method
  version : forwarded.version = req.version
  uri : svc.cfg.buildBackendUri (req.uri.path.getD "/") req.uri.query = .ok forwarded.uri
  withheld : ∀ name, Withheld req.headers name → forwarded.headers.getAll name = []
  encoding : svc.cfg.transforms.needsPlaintextUpstreamBody
      (requestUrl (req.uri.path.getD "/") req.uri.query) = true →
    ¬ Withheld req.headers .acceptEncoding → forwarded.headers.getAll .acceptEncoding = [.identity]
  kept : ∀ name, ¬ Withheld req.headers name → name ≠ .acceptEncoding ∨
      svc.cfg.transforms.needsPlaintextUpstreamBody
        (requestUrl (req.uri.path.getD "/") req.uri.query) = false →
    forwarded.headers.getAll name = req.headers.getAll name

theorem firstLineNames_congr {headers headers' : HeaderMap} {name : HeaderName}
    (h : headers'.getAll .connection = headers.getAll .connection) :
    FirstLineNames headers' name ↔ FirstLineNames headers name := by
  unfold FirstLineNames MultiMap.get
  rw [h]

/-- The headers as they are stripped: without `Host`, and asked for unencoded where a rule needs it. -/
def askedHeaders (headers : HeaderMap) (plaintext : Bool) : HeaderMap :=
  if plaintext then (headers.remove .host).insert .acceptEncoding .identity else headers.remove .host

theorem getAll_askedHeaders_of_ne {headers : HeaderMap} {name : HeaderName} (plaintext : Bool)
    (hhost : name ≠ .host) (h : name ≠ .acceptEncoding ∨ plaintext = false) :
    (askedHeaders headers plaintext).getAll name = headers.getAll name := by
  unfold askedHeaders
  cases plaintext with
  | false => exact headers.getAll_remove_of_ne hhost
  | true =>
    have hne : name ≠ .acceptEncoding := h.resolve_right Bool.noConfusion
    exact (MultiMap.getAll_insert_of_ne _ _ hne).trans (headers.getAll_remove_of_ne hhost)

theorem getAll_askedHeaders_host (headers : HeaderMap) (plaintext : Bool) :
    (askedHeaders headers plaintext).getAll .host = [] := by
  unfold askedHeaders
  cases plaintext with
  | false => exact headers.getAll_remove_self .host
  | true => exact (MultiMap.getAll_insert_of_ne _ _ (by decide)).trans (headers.getAll_remove_self .host)

/-- **The stripping** of these headers. -/
theorem getAll_strip_askedHeaders (headers : HeaderMap) (plaintext : Bool) (name : HeaderName) :
    (Withheld headers name →
      (stripHopByHopHeaders (askedHeaders headers plaintext)).getAll name = []) ∧
    (¬ Withheld headers name → (stripHopByHopHeaders (askedHeaders headers plaintext)).getAll name =
      (askedHeaders headers plaintext).getAll name) := by
  have hconnection : (askedHeaders headers plaintext).getAll .connection = headers.getAll .connection :=
    getAll_askedHeaders_of_ne plaintext (by decide) (.inl (by decide))
  obtain ⟨hgone, hkept⟩ := getAll_stripHopByHop (askedHeaders headers plaintext) name
  rw [firstLineNames_congr hconnection] at hgone hkept
  constructor
  · rintro (rfl | hends)
    · by_cases hends : HeaderName.host ∈ hopByHop ∨ FirstLineNames headers .host
      · exact hgone hends
      · rw [hkept hends, getAll_askedHeaders_host]
    · exact hgone hends
  · intro hstays
    exact hkept fun hends => hstays (.inr hends)

section

variable [Net] [Glob] [Digest] {svc : ProxyService} {req : Request Body} {x y : SharedExchangeCapture}
  {now : OffsetDateTime} {url : String} {forwarded : Request (ObservedBody Body)}

/-- What `start` hands over. -/
theorem requestHead_of_start (h : svc.start req x now = (y, .upstream url, some forwarded)) :
    RequestHead svc req forwarded ∧ forwarded.body = .request req.body := by
  unfold ProxyService.start at h
  split_ifs at h with hh
  · cases h
  · revert h
    cases huri : svc.cfg.buildBackendUri (req.uri.path.getD "/") req.uri.query with
    | error err =>
      intro h
      cases h
    | ok uri =>
      intro h
      obtain rfl := Option.some.inj (Prod.mk.inj (Prod.mk.inj h).2).2
      have hstrip := getAll_strip_askedHeaders req.headers
        (svc.cfg.transforms.needsPlaintextUpstreamBody (requestUrl (req.uri.path.getD "/") req.uri.query))
      refine ⟨⟨rfl, rfl, huri, fun name hname => (hstrip name).1 hname, fun hplain hname => ?_,
        fun name hname hsame => ?_⟩, rfl⟩
      · refine ((hstrip .acceptEncoding).2 hname).trans ?_
        rw [hplain]
        exact MultiMap.getAll_insert_self _ _ _
      · refine ((hstrip name).2 hname).trans ?_
        exact getAll_askedHeaders_of_ne _ (fun hhost => hname (.inl hhost)) hsame

end

/-! ### The body -/

namespace Exchange

variable [Glob] [Digest] {e t : Exchange} {a : ExchangeAction} {polls : List (Poll × Bool)} {whole : Body}

/-- What the upstream client polls of the request body, with what `is_end_stream()` says after it. -/
def requestPoll (e : Exchange) : ExchangeAction → List (Poll × Bool)
  | .pollRequest now =>
    match e.requestBody with
    | some body => [((body.pollFrame e.shared now).1, (body.pollFrame e.shared now).2.1.isEndStream)]
    | none => []
  | _ => []

/-- How far the upstream client has read, of the polls the oldest first; it may have dropped the body. -/
def Uploading (whole : Body) (polls : List (Poll × Bool)) (e : Exchange) : Prop :=
  ∃ rest, whole.ReadSoFar rest polls.reverse ∧ ∀ body, e.requestBody = some body → body.inner = rest

theorem uploading_step (h : Uploading whole polls e) (hs : e.step a = some t) :
    Uploading whole (polls ++ requestPoll e a) t := by
  obtain ⟨rest, hread, hrest⟩ := h
  have hkeep : ∀ {t : Exchange}, requestPoll e a = [] →
      (∀ body, t.requestBody = some body → e.requestBody = some body) →
      Uploading whole (polls ++ requestPoll e a) t := by
    intro t hnone hbody
    rw [hnone, List.append_nil]
    exact ⟨rest, hread, fun body hb => hrest body (hbody body hb)⟩
  cases step_effect hs with
  | @pollRequest body now hb =>
    obtain ⟨hpoll, hinner⟩ := body.pollFrame_inner e.shared now
    have hone : requestPoll e (.pollRequest now) =
        [((body.pollFrame e.shared now).1, (body.pollFrame e.shared now).2.1.isEndStream)] := by
      simp only [requestPoll, hb]
    refine ⟨(body.pollFrame e.shared now).2.1.inner, ?_, ?_⟩
    · rw [hone, List.reverse_append]
      obtain rfl := hrest body hb
      exact hread.poll (Prod.ext hpoll.symm hinner.symm) _
    · intro body' hbody'
      rw [← Option.some.inj hbody']
  | dropRequest hb => exact hkeep rfl fun _ hbody => nomatch hbody
  | upstream hst => exact hkeep rfl fun _ hbody => hbody
  | collected hst => exact hkeep rfl fun _ hbody => hbody
  | cancelUpstream hst => exact hkeep rfl fun _ hbody => hbody
  | cancelCollecting hst => exact hkeep rfl fun _ hbody => hbody
  | @pollResponse response now hst =>
    obtain ⟨status, version, headers, body | body⟩ := response
    · exact hkeep rfl fun _ hbody => hbody
    · exact hkeep rfl fun _ hbody => hbody
  | advance hst hb => exact hkeep rfl fun _ hbody => hbody
  | @dropResponse response now hst =>
    obtain ⟨status, version, headers, body | body⟩ := response
    · exact hkeep rfl fun _ hbody => hbody
    · exact hkeep rfl fun _ hbody => hbody

/-- Whether the upstream is called is decided at the start. -/
theorem called_step (hs : e.step a = some t) : t.called = e.called := by
  cases step_effect hs with
  | @pollResponse response now hst =>
    obtain ⟨status, version, headers, body | body⟩ := response
    · rfl
    · rfl
  | @dropResponse response now hst =>
    obtain ⟨status, version, headers, body | body⟩ := response
    · rfl
    · rfl
  | _ => rfl

/-- The upstream client holds a request body exactly where it was called. -/
theorem unheld_step (hnone : e.requestBody = none) (hs : e.step a = some t) :
    t.requestBody = none ∧ requestPoll e a = [] := by
  have hpoll : requestPoll e a = [] := by
    unfold requestPoll
    rw [hnone]
    cases a <;> rfl
  refine ⟨?_, hpoll⟩
  cases step_effect hs with
  | pollRequest hb => exact absurd (hnone.symm.trans hb) (Option.some_ne_none _).symm
  | dropRequest hb => rfl
  | @pollResponse response now hst =>
    obtain ⟨status, version, headers, body | body⟩ := response
    · exact hnone
    · exact hnone
  | @dropResponse response now hst =>
    obtain ⟨status, version, headers, body | body⟩ := response
    · exact hnone
    · exact hnone
  | _ => exact hnone

/-- The polls of the request body in a run, the newest first. -/
def requestPolls (e : Exchange) (as : List ExchangeAction) : List (Poll × Bool) :=
  (gathered step requestPoll e as).reverse

section Run

variable {start : Exchange} {as : List ExchangeAction}

theorem requestPolls_of_unheld (hnone : start.requestBody = none)
    (hrun : run step start as = some e) : start.requestPolls as = [] := by
  have hall := @run_gathered _ _ step _ requestPoll (fun l e => e.requestBody = none ∧ l = []) []
    _ _ _ ?_ ⟨hnone, rfl⟩ hrun
  · unfold requestPolls
    rw [← List.nil_append (gathered step requestPoll start as), hall.2]
    rfl
  · rintro l u a v ⟨hu, rfl⟩ hs
    obtain ⟨hv, hpoll⟩ := unheld_step hu hs
    exact ⟨hv, hpoll⟩

theorem readSoFar_requestPolls {body : ObservedBody Body}
    (hbody : start.requestBody = some body) (hrun : run step start as = some e) :
    ∃ rest, body.inner.ReadSoFar rest (start.requestPolls as) := by
  have hstart : Uploading body.inner [] start := by
    refine ⟨body.inner, body.inner.readSoFar_nil, fun other hother => ?_⟩
    rw [← Option.some.inj (hbody.symm.trans hother)]
  obtain ⟨rest, hread, -⟩ := @run_gathered _ _ step _ requestPoll (Uploading body.inner) []
    _ _ _ (fun _ _ _ _ => uploading_step) hstart hrun
  exact ⟨rest, hread⟩

end Run

end Exchange

section

variable [Net] [Glob] [Digest]

open Exchange

/-- **The upstream gets the request**: it is called exactly for a request that fits; then with the head of
the client's request, but for what `RequestHead` says; and in every run what its client reads of the body
is the client's body, as far as it reads and whole where it reads to the end. -/
theorem upstream_gets_request {svc : ProxyService} {req : Request Body} {startedAt now : OffsetDateTime}
    {eventId connectionId : Uuid} {as : List ExchangeAction} {e : Exchange}
    (hrun : run step (init svc req startedAt eventId connectionId now) as = some e) :
    (e.called = true ↔ Forwarded svc req) ∧
    (¬ Forwarded svc req → (init svc req startedAt eventId connectionId now).requestPolls as = []) ∧
    (Forwarded svc req →
      (∃ y url forwarded, svc.start req (.new svc.cfg req startedAt eventId connectionId) now =
        (y, .upstream url, some forwarded) ∧ RequestHead svc req forwarded) ∧
      (NotEnded ((init svc req startedAt eventId connectionId now).requestPolls as) →
        ∀ bytes, req.body.collect = .ok bytes →
          readBytes ((init svc req startedAt eventId connectionId now).requestPolls as) <+: bytes) ∧
      (ReadToEnd ((init svc req startedAt eventId connectionId now).requestPolls as) →
        req.body.collect =
          .ok (readBytes ((init svc req startedAt eventId connectionId now).requestPolls as)))) := by
  have hcalled : e.called = (init svc req startedAt eventId connectionId now).called :=
    run_invariant (P := fun t : Exchange =>
      t.called = (init svc req startedAt eventId connectionId now).called)
      (fun _ _ _ h hs => (called_step hs).trans h) rfl hrun
  rcases KidProxy.start_cases svc req (.new svc.cfg req startedAt eventId connectionId) now with
    ⟨hfits, forwarded, hstart⟩ | ⟨hunfit, y, status, message, hstart⟩
  · obtain ⟨hhead, hbody⟩ := requestHead_of_start hstart
    have hcall : (init svc req startedAt eventId connectionId now).called = true := by
      show (svc.start req _ now).2.2.isSome = true
      rw [hstart]
      rfl
    have hheld : (init svc req startedAt eventId connectionId now).requestBody =
        some (.request req.body) := by
      show (svc.start req _ now).2.2.map (·.body) = _
      rw [hstart, ← hbody]
      rfl
    obtain ⟨rest, hread⟩ := readSoFar_requestPolls hheld hrun
    refine ⟨⟨fun _ => hfits, fun _ => hcalled.trans hcall⟩, fun hn => absurd hfits hn, fun _ =>
      ⟨⟨_, _, forwarded, hstart, hhead⟩, fun hnot bytes hbytes => ?_, hread.collect_of_ended⟩⟩
    exact hread.prefix_of_collect hnot hbytes
  · have hcall : (init svc req startedAt eventId connectionId now).called = false := by
      show (svc.start req _ now).2.2.isSome = false
      rw [hstart]
      rfl
    have hheld : (init svc req startedAt eventId connectionId now).requestBody = none := by
      show (svc.start req _ now).2.2.map (·.body) = none
      rw [hstart]
      rfl
    refine ⟨⟨fun h => ?_, fun h => absurd h hunfit⟩, fun _ => requestPolls_of_unheld hheld hrun,
      fun h => absurd h hunfit⟩
    rw [hcalled, hcall] at h
    cases h

end

/-- The upstream client reads the upload to its end. -/
theorem upstream_gets_request_sample : ∃ e, uploadRun [.pollRequest sampleTime, .pollRequest sampleTime] =
      some e ∧ e.called = true ∧ sampleUpload.body.collect =
        .ok (readBytes (@Exchange.requestPolls sampleGlob uploadDigest uploadInit
          [.pollRequest sampleTime, .pollRequest sampleTime])) := by
  obtain ⟨e, hrun, hcalled, hpolls⟩ : ∃ e,
      uploadRun [.pollRequest sampleTime, .pollRequest sampleTime] = some e ∧ e.called = true ∧
      @Exchange.requestPolls sampleGlob uploadDigest uploadInit
        [.pollRequest sampleTime, .pollRequest sampleTime] =
        [(.done, true), (.frame (.data [104, 105]), true)] := ⟨_, rfl, rfl, rfl⟩
  obtain ⟨hiff, -, hall⟩ := @upstream_gets_request sampleNet sampleGlob uploadDigest ⟨sampleConfig⟩
    sampleUpload sampleTime sampleTime ⟨1⟩ ⟨2⟩ _ _ hrun
  refine ⟨e, hrun, hcalled, (hall (hiff.mp hcalled)).2.2 ⟨true, _, hpolls, fun p hp => ?_⟩⟩
  rw [List.mem_singleton.mp hp]
  simp

end KidProxy
