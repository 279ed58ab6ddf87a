import KidProxy.EventDetail
import KidProxy.Reading
import KidProxy.ResultPages

/-!
# ReadRecord — what a client has read is what the admin page shows

From the body that the client polls to the detail page: a response that was read to the end has one event,
a success with its status and its bytes; a clean stop of the writer brings it into the table, and the page
of its row shows that status and these bytes, unless the event was refused and counted.
-/

namespace KidProxy

open Transition

namespace Exchange

variable [Glob] [Digest] {e t : Exchange} {a : ExchangeAction}

/-! ### The event of a response that was read to the end -/

/-- Once the response was read to the end, its event is a success with the status that was handed out. -/
def Finished (e : Exchange) : Prop :=
  ReadToEnd e.polls → ∃ event status, e.shared.sent = [event] ∧ e.answer = some ⟨status, false⟩ ∧
    event.proxyResult = .success ∧ event.statusCode = some status

/-- The answer is given once, before the response is polled. -/
theorem answer_step (hg : Good e) (hs : e.step a = some t) : t.answer = e.answer ∨ e.polls = [] := by
  cases step_effect hs with
  | upstream hst =>
    cases (hg.stage.phase hst).1 with
    | upstream hc hp hx => exact .inr hp
  | collected hst =>
    cases (hg.stage.phase hst).1 with
    | collecting hc hp hx => exact .inr hp
  | @pollResponse response now hst =>
    obtain ⟨status, version, headers, body | body⟩ := response
    · exact .inl rfl
    · exact .inl rfl
  | @dropResponse response now hst =>
    obtain ⟨status, version, headers, body | body⟩ := response
    · exact .inl rfl
    · exact .inl rfl
  | _ => exact .inl rfl

/-- An event that was sent stays the only one. -/
theorem sent_stays (hg : Good e) (hs : e.step a = some t) {event : ProxyEvent}
    (hsent : e.shared.sent = [event]) : t.shared.sent = [event] := by
  have hmore := sent_step hg hs
  rw [hsent] at hmore
  exact (hmore.eq_of_length_le (good_step hg hs).sent_length).symm

/-- The observed body is still there when it has been polled. -/
theorem stage_of_polled {poll : Poll × Bool} (hs : e.step a = some t) (hpolls : t.polls = poll :: e.polls) :
    ∃ response body, t.stage = .running (.answered response) ∧ response.body = .observed body := by
  have hne : poll :: e.polls ≠ e.polls := List.cons_ne_self _ _
  cases step_effect hs with
  | @pollResponse response now hst =>
    obtain ⟨status, version, headers, body | body⟩ := response
    · exact absurd hpolls.symm hne
    · exact ⟨_, _, rfl, rfl⟩
  | @dropResponse response now hst =>
    obtain ⟨status, version, headers, body | body⟩ := response
    · exact absurd hpolls.symm hne
    · exact absurd hpolls.symm hne
  | _ => exact absurd hpolls.symm hne

theorem finished_step (hg : Good e) (h : Finished e) (hs : e.step a = some t) : Finished t := by
  intro hend
  rcases polls_step hs with ⟨hpolls, -⟩ | ⟨poll, atEnd, -, -, hpolls, -⟩
  · rw [hpolls] at hend
    obtain ⟨event, status, hsent, hanswer, hresult, hcode⟩ := h hend
    refine ⟨event, status, sent_stays hg hs hsent, ?_, hresult, hcode⟩
    rcases answer_step hg hs with hsame | hnil
    · exact hsame.trans hanswer
    · obtain ⟨atEnd, earlier, hcons, -⟩ := hend
      exact absurd (hcons.symm.trans hnil) (List.cons_ne_nil _ _)
  · -- the poll that has just been answered is the end
    have hgood := good_step hg hs
    obtain ⟨response, body, hstage, hbody⟩ := stage_of_polled hs hpolls
    obtain ⟨event, hsent, hresult, hcode⟩ := success_of_readToEnd hgood hstage hbody hend
    refine ⟨event, response.status, hsent, ?_, hresult, hcode⟩
    rw [(hgood.stage.phase hstage).2]
    obtain ⟨status, version, headers, served⟩ := response
    obtain rfl : served = .observed body := hbody
    rfl

variable [Net] {svc : ProxyService} {req : Request Body} {startedAt now : OffsetDateTime}
  {eventId connectionId : Uuid} {as : List ExchangeAction}

theorem finished_run (hpos : 0 < svc.cfg.bodyMaxBytes)
    (hrun : run step (init svc req startedAt eventId connectionId now) as = some e) :
    Finished e ∧ Logged svc.cfg.bodyMaxBytes e := by
  have hstart : Finished (init svc req startedAt eventId connectionId now) := by
    rintro ⟨atEnd, earlier, hpolls, -⟩
    cases hpolls
  have hall := run_invariant
    (P := fun e => Good e ∧ Finished e ∧ Logged svc.cfg.bodyMaxBytes e)
    (fun _ _ _ ⟨hg, hf, hl⟩ hs => ⟨good_step hg hs, finished_step hg hf hs, logged_step hpos hg hl hs⟩)
    ⟨good_init svc req startedAt eventId connectionId now, hstart,
      logged_init svc req startedAt now eventId connectionId⟩ hrun
  exact hall.2

end Exchange

/-! ### The page of the row -/

/-- The columns that say how the exchange ended. -/
theorem stored_result {event : ProxyEvent} {row : ActiveModel} (h : eventToActiveModel event = .ok row) :
    row.eventId = event.eventId.toText ∧ row.statusCode = event.statusCode.map (fun n => (n : ℤ)) ∧
      row.proxyResult = event.proxyResult.asStr := by
  obtain ⟨_, -, h⟩ := bind_eq_ok.mp h
  obtain ⟨_, -, h⟩ := bind_eq_ok.mp h
  obtain ⟨_, -, h⟩ := bind_eq_ok.mp h
  obtain ⟨_, -, h⟩ := bind_eq_ok.mp h
  obtain rfl := Except.ok.inj h
  exact ⟨rfl, rfl, rfl⟩

section

open Serving Exchange

variable [Net] [Glob] [Digest] {cfg : RuntimeConfig} {stored : List ActiveModel} {as : List ServingAction}
  {s u : Serving}

/-- **From the client's last read to the admin page**: after a clean stop of the writer, for every exchange
whose response had been read to the end when the shutdown message was received, the page of its one event
says success, shows the status that the client got, and of the body the bytes that the client read, up to
the limit; or the event had been refused and counted. -/
theorem read_response_shown (hdigest : Digest.Standard) (hpos : 0 < cfg.bodyMaxBytes)
    (h : CleanStop cfg stored s u as) (hids : FreshIds stored as) :
    ∃ refused : List ProxyEvent, refused.length = s.writer.droppedEvents ∧
      ∀ e ∈ s.exchanges, ReadToEnd e.polls → ∃ event status, e.shared.sent = [event] ∧
        e.answer = some ⟨status, false⟩ ∧ (event ∈ refused ∨ ∃ detail,
          loadEventDetail u.writer.table event.eventId.toText (.ok ()) = .ok (some detail) ∧
          detail.proxyResult = "success" ∧ detail.statusCode = toString (status : ℤ) ∧
          detail.preview .response = shownPreview cfg.bodyMaxBytes (readBytes e.polls)) := by
  obtain ⟨bs, hbefore⟩ := h.before
  have hacc := accounted_run hbefore
  obtain ⟨refused, hlen, hperm⟩ := hacc.took
  have hkeys : (u.writer.table.map ActiveModel.eventId).Nodup :=
    (List.nodup_append.mp (nodup_table_keys h.run hids)).1
  refine ⟨refused, hlen, fun e he hend => ?_⟩
  obtain ⟨id, -, req, startedAt, connectionId, now, cs, hrun⟩ := Components.forall₂_of_mem hacc.ran he
  rw [svc_run hbefore] at hrun
  obtain ⟨hfinished, hlogged⟩ := finished_run hpos hrun
  obtain ⟨event, status, hsent, hanswer, hresult, hcode⟩ := hfinished hend
  refine ⟨event, status, hsent, hanswer, ?_⟩
  have hmem : event ∈ e.shared.sent := by
    rw [hsent]
    exact List.mem_singleton_self event
  rcases List.mem_append.mp (hperm.mem_iff.mp (List.mem_flatMap.mpr ⟨e, he, hmem⟩)) with hin | href
  · obtain ⟨row, hrow, hmodel⟩ := h.row_of_accepted hin
    obtain ⟨hid, hstored, htext⟩ := stored_result hmodel
    obtain ⟨-, -, -, -, -, hpreview⟩ := stored_columns hmodel
    refine .inr ⟨.ofRow row, ?_, ?_, ?_, ?_⟩
    · rw [← hid]
      show Except.ok ((u.writer.table.find? fun r => r.eventId = row.eventId).map EventDetail.ofRow) = _
      rw [find_eventId hkeys hrow]
      rfl
    · show row.proxyResult = "success"
      rw [htext, hresult]
      rfl
    · unfold EventDetail.ofRow
      rw [hstored, hcode]
      rfl
    · show decodePreview row.responseBodyPreviewBase64 = _
      rw [hpreview, hlogged.summary event hmem hend, decodePreview_summary hdigest]
  · exact .inl href

end

/-- A visit whose client reads two bytes, and the end, and stays; then the writer stops. -/
def sampleReadStop : List ServingAction :=
  [.accept sampleRequest sampleTime ⟨1⟩ ⟨2⟩ sampleTime,
    .exchange 0 (.upstream (.response (sampleUpstreamOk (.fromBytes [104, 105]))) sampleTime sampleTime),
    .exchange 0 (.pollResponse sampleTime), .exchange 0 (.pollResponse sampleTime),
    .writer (.sendShutdown 0), .writer .recv] ++ .writer .recv ::
    ([.writer .drain, .writer .timeout] ++
      .writer (.flush ⟨.ok (), fun _ => .ok (), .ok ()⟩) :: [.writer .dropReceiver])

theorem read_response_shown_sample : ∃ s u detail,
    @Serving.CleanStop sampleNet sampleGlob standardDigest sampleConfig [] s u sampleReadStop ∧
      loadEventDetail u.writer.table (Uuid.toText ⟨1⟩) (.ok ()) = .ok (some detail) ∧
      detail.preview .response = shownPreview sampleConfig.bodyMaxBytes [104, 105] := by
  obtain ⟨s, u, e, event, hstop, hex, hread, hbytes, hsent, hid, hdrop⟩ : ∃ s u e event,
      @Serving.CleanStop sampleNet sampleGlob standardDigest sampleConfig [] s u sampleReadStop ∧
        s.exchanges = [e] ∧ e.polls = [(.done, true), (.frame (.data [104, 105]), true)] ∧
        readBytes e.polls = [104, 105] ∧ e.shared.sent = [event] ∧ event.eventId = ⟨1⟩ ∧
        s.writer.droppedEvents = 0 :=
    ⟨_, _, _, _, @Serving.CleanStop.mk sampleNet sampleGlob standardDigest _ _ _ _ _ _ _ _ _ _ _ _ rfl rfl
      rfl rfl rfl rfl rfl rfl, rfl, rfl, rfl, rfl, rfl, rfl⟩
  obtain ⟨refused, hlen, hall⟩ := @read_response_shown sampleNet sampleGlob standardDigest _ _ _ _ _
    (@Digest.Standard.mk standardDigest fun _ => rfl) (by decide) hstop (by decide)
  rw [hdrop, List.length_eq_zero_iff] at hlen
  obtain ⟨event', status, hsent', -, hshown⟩ := hall e (hex ▸ List.mem_singleton.mpr rfl)
    ⟨true, _, hread, fun p hp => by rw [List.mem_singleton.mp hp]; simp⟩
  obtain rfl := List.singleton_inj.mp (hsent.symm.trans hsent')
  rw [hlen, hid, hbytes] at hshown
  obtain ⟨detail, hload, -, -, hpreview⟩ := hshown.resolve_left List.not_mem_nil
  exact ⟨s, u, detail, hstop, hload, hpreview⟩

end KidProxy
