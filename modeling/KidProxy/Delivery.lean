import KidProxy.ExchangeLog

/-!
# Delivery — how the end of a response body is recorded

A server may stop as soon as `is_end_stream()` is true, before it ever gets `None`.  The event then
depends on the flag `completed`, which only a poll updates: `recordedRight_iff` says exactly when that
agrees with the body contract.
-/

namespace KidProxy

open Transition Exchange

/-- What the event of a response must say after the polls of its body, the newest first, when
`is_end_stream()` says `atEnd` as the body is dropped. -/
structure RecordedRight (polls : List (Poll × Bool)) (atEnd : Bool) (event : ProxyEvent) : Prop where
  success : (∀ p ∈ polls, ∀ err, p.1 ≠ .err err) → (∃ p ∈ polls, p.1 = .done) ∨ atEnd = true →
    event.proxyResult = .success ∧ event.errorKind = none ∧ event.errorText = none
  streamError : event.proxyResult = .streamError →
    (∃ p ∈ polls, ∃ err, p.1 = .err err) ∨ atEnd = false ∧ ∀ p ∈ polls, p.1 ≠ .done

/-- Unless the body was polled to its end or to an error, an end that is there when the body is
dropped was there right after the last poll that was ready. -/
def EndSeen (polls : List (Poll × Bool)) (atEnd : Bool) : Prop :=
  NotEnded polls → atEnd = true → lastReady polls = true

/-- An event that a poll sent is right, whatever came later. -/
theorem Recorded.right {polls : List (Poll × Bool)} {atEnd : Bool} {result : ProxyResult}
    {err : Option ErrorInfo} {event : ProxyEvent} (h : Recorded polls result err)
    (hresult : event.proxyResult = result) (hkind : event.errorKind = err.map (·.kind))
    (htext : event.errorText = err.map (·.text)) : RecordedRight polls atEnd event := by
  rcases h with ⟨hdone, rfl, rfl⟩ | ⟨⟨p, hp, text, ht⟩, rfl, info, rfl⟩
  · exact ⟨fun _ _ => ⟨hresult, hkind, htext⟩, fun hs => by rw [hresult] at hs; cases hs⟩
  · exact ⟨fun hno => absurd ht (hno p hp text), fun _ => .inl ⟨p, hp, text, ht⟩⟩

/-- **Drop and contract**: the event is right exactly when the end was seen. -/
theorem Dropped.right_iff {polls : List (Poll × Bool)} {atEnd : Bool} {result : ProxyResult}
    {err : Option ErrorInfo} {event : ProxyEvent} (h : Dropped polls result err)
    (hresult : event.proxyResult = result) (hkind : event.errorKind = err.map (·.kind))
    (htext : event.errorText = err.map (·.text)) :
    RecordedRight polls atEnd event ↔ EndSeen polls atEnd := by
  cases h with
  | recorded hr =>
    refine ⟨fun _ hn _ => ?_, fun _ => hr.right hresult hkind htext⟩
    rcases hr with ⟨⟨p, hp, hd⟩, -⟩ | ⟨⟨p, hp, text, ht⟩, -⟩
    · exact absurd hd (hn p hp).1
    · exact absurd ht ((hn p hp).2 text)
  | completed hn hl =>
    refine ⟨fun _ _ _ => hl, fun _ => ⟨fun _ _ => ⟨hresult, hkind, htext⟩, fun hs => ?_⟩⟩
    rw [hresult] at hs
    cases hs
  | aborted hn hl =>
    constructor
    · intro hright _ hend
      -- a body at its end must not be recorded as a stream error
      rcases hright.streamError hresult with ⟨p, hp, text, ht⟩ | ⟨hend', -⟩
      · exact absurd ht ((hn p hp).2 text)
      · rw [hend] at hend'
        cases hend'
    · intro hseen
      have hend : atEnd = false := by
        by_contra hne
        rw [hseen hn (by simpa using hne)] at hl
        cases hl
      refine ⟨fun _ hstop => ?_, fun _ => .inr ⟨hend, fun p hp => (hn p hp).1⟩⟩
      rcases hstop with ⟨p, hp, hd⟩ | hend'
      · exact absurd hd (hn p hp).1
      · rw [hend] at hend'
        cases hend'

/-- **Delivered responses**: after any polls of the body of a response, the event sent when it is
dropped is right exactly when the end of the body, if it is there, was seen by a poll. -/
theorem recordedRight_iff [Net] [Glob] [Digest] {svc : ProxyService} {req : Request Body}
    {startedAt now later : OffsetDateTime} {eventId connectionId : Uuid} {as : List ExchangeAction}
    {e t : Exchange} {response : Response ServedBody} {body : ObservedBody Body}
    (hrun : run step (init svc req startedAt eventId connectionId now) as = some e)
    (hstage : e.stage = .running (.answered response)) (hbody : response.body = .observed body)
    (hdrop : e.step (.dropResponse later) = some t) :
    (∀ event ∈ t.shared.sent, RecordedRight e.polls body.isEndStream event) ↔
      EndSeen e.polls body.isEndStream := by
  have hgood := (good_run hrun).stage
  rw [hstage] at hgood
  obtain rfl := step_dropResponse hstage hdrop
  obtain ⟨status, version, headers, served⟩ := response
  obtain rfl : served = .observed body := hbody
  cases hgood with
  | running hp ha =>
    obtain ⟨result, err, hx, hd⟩ := drop_response hp later
    obtain ⟨event, hsent, hresult, hkind, htext, -⟩ := hx.sent
    have hsent' : (e.dropResponse ⟨status, version, headers, .observed body⟩ later).shared.sent =
      [event] := hsent
    rw [hsent', List.forall_mem_singleton]
    exact hd.right_iff hresult hkind htext

/-- The server that sees the end of an empty 204 drops it unpolled, and the event is a stream error. -/
theorem unpolled_streamError : ∃ e t response body event,
    sampleRun sampleConfig [sampleUpstream] = some e ∧
      e.stage = .running (.answered response) ∧ response.body = .observed body ∧
      response.status = .noContent ∧ e.polls = [] ∧ body.isEndStream = true ∧
      sampleRun sampleConfig [sampleUpstream, .dropResponse sampleTime] = some t ∧
      t.shared.sent = [event] ∧ event.proxyResult = .streamError ∧
      ¬ RecordedRight e.polls body.isEndStream event := by
  obtain ⟨e, t, response, body, event, hrun, hstage, hbody, hstatus, hpolls, hend, hdrop, hsent,
      hresult⟩ : ∃ e t response body event,
      sampleRun sampleConfig [sampleUpstream] = some e ∧
        e.stage = .running (.answered response) ∧ response.body = .observed body ∧
        response.status = .noContent ∧ e.polls = [] ∧ body.isEndStream = true ∧
        sampleRun sampleConfig [sampleUpstream, .dropResponse sampleTime] = some t ∧
        t.shared.sent = [event] ∧ event.proxyResult = .streamError :=
    ⟨_, _, _, _, _, rfl, rfl, rfl, rfl, rfl, rfl, rfl, rfl, rfl⟩
  refine ⟨e, t, response, body, event, hrun, hstage, hbody, hstatus, hpolls, hend, hdrop, hsent,
    hresult, fun h => ?_⟩
  have hsuccess := (h.success (by rw [hpolls]; simp) (.inr hend)).1
  rw [hresult] at hsuccess
  cases hsuccess

theorem recordedRight_iff_sample : ∃ e t body,
    sampleRun sampleConfig [sampleUpstream, .pollResponse sampleTime] = some e ∧
      sampleRun sampleConfig [sampleUpstream, .pollResponse sampleTime, .dropResponse sampleTime] =
        some t ∧
      (EndSeen e.polls body → ∀ event ∈ t.shared.sent, RecordedRight e.polls body event) := by
  obtain ⟨e, t, response, body, hrun, hstage, hbody, hdrop, ht⟩ :
      ∃ e t response body, sampleRun sampleConfig [sampleUpstream, .pollResponse sampleTime] = some e ∧
        e.stage = .running (.answered response) ∧ response.body = .observed body ∧
        @Exchange.step sampleGlob sampleDigest e (.dropResponse sampleTime) = some t ∧
        sampleRun sampleConfig [sampleUpstream, .pollResponse sampleTime, .dropResponse sampleTime] =
          some t := ⟨_, _, _, _, rfl, rfl, rfl, rfl, rfl⟩
  exact ⟨e, t, body.isEndStream, hrun, ht, (@recordedRight_iff sampleNet sampleGlob sampleDigest
    _ _ _ _ _ _ _ _ _ _ _ _ hrun hstage hbody hdrop).mpr⟩

end KidProxy
