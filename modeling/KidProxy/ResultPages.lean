import KidProxy.EventDetail
import KidProxy.Lib.Paging
import KidProxy.ListingRange
import KidProxy.Serving

/-!
# ResultPages — the results pages of a running proxy

The listing shows a part of the rows of the table, page by page, and each line links to the page of its
event.  The rows were stored by an earlier run, or come from any number of exchanges and the writer in any
interleaving; `listed_once` says that the pages show each of them once and that the links lead to them.
-/

namespace KidProxy

open Transition

/-! ### Rows with different keys -/

/-- The primary key selects its row. -/
theorem find_eventId {rows : List ActiveModel} (h : (rows.map ActiveModel.eventId).Nodup)
    {row : ActiveModel} (hrow : row ∈ rows) : (rows.find? fun r => r.eventId = row.eventId) = some row := by
  induction rows with
  | nil => exact absurd hrow List.not_mem_nil
  | cons first rows ih =>
    rw [List.map_cons, List.nodup_cons] at h
    rw [List.find?_cons]
    by_cases heq : first.eventId = row.eventId
    · rw [decide_eq_true heq]
      rcases List.mem_cons.mp hrow with rfl | hmem
      · rfl
      · exact absurd (List.mem_map.mpr ⟨row, hmem, heq.symm⟩) h.1
    · rw [decide_eq_false heq]
      rcases List.mem_cons.mp hrow with rfl | hmem
      · exact absurd rfl heq
      · exact ih h.2 hmem

theorem nodup_selectRows {rows : List ActiveModel} (h : (rows.map ActiveModel.eventId).Nodup)
    (filter : EventListFilter) (since : Option String) : (selectRows rows filter since).Nodup := by
  unfold selectRows
  exact (List.perm_insertionSort Later _).nodup_iff.mpr (h.of_map.filter _)

/-- Lines of rows with different keys differ. -/
theorem ofRow_injOn {rows : List ActiveModel} (h : (rows.map ActiveModel.eventId).Nodup)
    {a b : ActiveModel} (ha : a ∈ rows) (hb : b ∈ rows)
    (heq : EventListItem.ofRow a = EventListItem.ofRow b) : a = b :=
  List.inj_on_of_nodup_map h ha hb (congrArg EventListItem.eventId heq)

theorem toFilter_perPage_pos (query : EventListFilterQuery) : 0 < query.toFilter.perPage :=
  Nat.lt_of_lt_of_le Nat.one_pos (Nat.le_max_left _ _)

section Listing

variable [HourArithmetic] {rows : List ActiveModel} {filter : EventListFilter} {env : ListEnv}
  {since : Option String}

/-- A page whose offset is an `i64` is fetched. -/
theorem listEvents_page (hsince : sinceText env.now filter.sinceHours = .ok since) (hpos : 0 < filter.perPage)
    (hcount : env.count = .ok ()) (hfetch : env.fetch = .ok ()) {p : ℕ} (hp : p * filter.perPage < 2 ^ 63) :
    listEvents rows { filter with page := p } env = .ok {
      items := (Paging.page (selectRows rows filter since) filter.perPage p).map EventListItem.ofRow
      total := (selectRows rows filter since).length } := by
  unfold listEvents
  refine bind_eq_ok.mpr ⟨since, hsince, bind_eq_ok.mpr ⟨(), ?_, bind_eq_ok.mpr ⟨(), ?_,
    bind_eq_ok.mpr ⟨p * filter.perPage, ?_, bind_eq_ok.mpr ⟨(), ?_, rfl⟩⟩⟩⟩⟩
  · unfold paginate
    exact if_neg hpos.ne'
  · rw [hcount]
    rfl
  · exact pageOffset_of_lt hp
  · rw [hfetch]
    rfl

/-- What a page that was fetched shows. -/
theorem items_of_listEvents (hsince : sinceText env.now filter.sinceHours = .ok since) {p : ℕ}
    {page : EventListPage} (h : listEvents rows { filter with page := p } env = .ok page) :
    page.items = (Paging.page (selectRows rows filter since) filter.perPage p).map EventListItem.ofRow := by
  obtain ⟨since', hsince', hitems, -⟩ := listEvents_eq_ok h
  obtain rfl := Except.ok.inj (hsince.symm.trans hsince')
  exact hitems

end Listing

section Pages

open Writer Serving

variable [Net] [Glob] [Digest] [HourArithmetic] {cfg : RuntimeConfig} {stored : List ActiveModel}
  {as : List ServingAction} {s : Serving} {query : EventListFilterQuery} {env : ListEnv}
  {since : Option String}

omit [HourArithmetic] in
/-- A row is one of an earlier run, or the event of an exchange. -/
theorem exchange_of_row (hrun : run Serving.step (start cfg stored) as = some s) {row : ActiveModel}
    (hrow : row ∈ s.writer.table) : row ∈ stored ∨
      ∃ e ∈ s.exchanges, ∃ event ∈ e.shared.sent, eventToActiveModel event = .ok row := by
  have hcons : Conserved stored s.writer := conserved_run (conserved_spawn cfg) (run_writer hrun)
  obtain ⟨refused, -, hperm⟩ := (accounted_run hrun).took
  obtain ⟨rows, htable, hrows⟩ := hcons.rows
  rw [htable] at hrow
  refine (List.mem_append.mp hrow).imp id fun hnew => ?_
  obtain ⟨event, hwritten, hevent⟩ := Components.forall₂_of_mem hrows hnew
  have haccepted : event ∈ s.writer.accepted := hcons.taken.subset (List.mem_append_left _ hwritten)
  have hsent : event ∈ s.sent := hperm.mem_iff.mpr (List.mem_append_left _ haccepted)
  obtain ⟨e, he, hmem⟩ := List.mem_flatMap.mp hsent
  exact ⟨e, he, event, hmem, hevent⟩

/-- **The results pages**: in every state that exchanges with fresh identifiers and the writer reach, and
for every query that can be listed, each row of the table that the query selects stands once on exactly one
page; each line of a page is such a row, stored by an earlier run or the event of an exchange, and its link
opens the page of that row. -/
theorem listed_once (hrun : run Serving.step (start cfg stored) as = some s) (hids : FreshIds stored as)
    (hsince : sinceText env.now query.sinceHours = .ok since) (hcount : env.count = .ok ())
    (hfetch : env.fetch = .ok ()) (hsize : s.writer.table.length < 2 ^ 63) :
    (∀ row ∈ s.writer.table, query.toFilter.Passes since row →
      ∃ p page, listEvents s.writer.table { query.toFilter with page := p } env = .ok page ∧
        page.items.count (.ofRow row) = 1 ∧
        ∀ q page', listEvents s.writer.table { query.toFilter with page := q } env = .ok page' →
          EventListItem.ofRow row ∈ page'.items → q = p) ∧
    ∀ p page, listEvents s.writer.table { query.toFilter with page := p } env = .ok page →
      ∀ item ∈ page.items, ∃ row ∈ s.writer.table, query.toFilter.Passes since row ∧ item = .ofRow row ∧
        loadEventDetail s.writer.table item.eventId (.ok ()) = .ok (some (.ofRow row)) ∧
        (row ∈ stored ∨
          ∃ e ∈ s.exchanges, ∃ event ∈ e.shared.sent, eventToActiveModel event = .ok row) := by
  have hkeys : (s.writer.table.map ActiveModel.eventId).Nodup :=
    (List.nodup_append.mp (nodup_table_keys hrun hids)).1
  have hnodup := nodup_selectRows hkeys query.toFilter since
  have hpos := toFilter_perPage_pos query
  have hsince : sinceText env.now query.toFilter.sinceHours = .ok since := hsince
  constructor
  · intro row hrow hpasses
    have hselected : row ∈ selectRows s.writer.table query.toFilter since :=
      mem_selectRows.mpr ⟨hrow, hpasses⟩
    obtain ⟨p, hpage, hbegin⟩ := Paging.exists_page hpos hselected
    have hlength : (selectRows s.writer.table query.toFilter since).length ≤ s.writer.table.length := by
      unfold selectRows
      rw [List.length_insertionSort]
      exact List.length_filter_le _ _
    refine ⟨p, _, listEvents_page hsince hpos hcount hfetch (by omega), ?_, fun q page' hq hmem => ?_⟩
    · have hitems := (Paging.nodup_page (n := query.toFilter.perPage) (p := p) hnodup).map_on
        (f := EventListItem.ofRow) fun a ha b hb heq => ofRow_injOn hkeys
          (mem_selectRows.mp (Paging.mem_of_mem_page ha)).1
          (mem_selectRows.mp (Paging.mem_of_mem_page hb)).1 heq
      exact List.count_eq_one_of_mem hitems (List.mem_map.mpr ⟨row, hpage, rfl⟩)
    · rw [items_of_listEvents hsince hq] at hmem
      obtain ⟨row', hpage', heq⟩ := List.mem_map.mp hmem
      have hsame := ofRow_injOn hkeys (mem_selectRows.mp (Paging.mem_of_mem_page hpage')).1 hrow heq
      exact Paging.page_unique hpos hnodup (hsame ▸ hpage') hpage
  · intro p page hp item hmem
    rw [items_of_listEvents hsince hp] at hmem
    obtain ⟨row, hpage, rfl⟩ := List.mem_map.mp hmem
    obtain ⟨hrow, hpasses⟩ := mem_selectRows.mp (Paging.mem_of_mem_page hpage)
    refine ⟨row, hrow, hpasses, rfl, ?_, exchange_of_row hrun hrow⟩
    show Except.ok ((s.writer.table.find? fun r => r.eventId = row.eventId).map EventDetail.ofRow) = _
    rw [find_eventId hkeys hrow]
    rfl

end Pages

/-- The query of an address without parameters, at the time of the samples. -/
def sampleQuery : EventListFilterQuery := ⟨none, none, none, none, none, none, none⟩

theorem listed_once_sample : ∃ s row p page, sampleServing sampleStop = some s ∧ s.writer.table = [row] ∧
    @listEvents ⟨crateMinusHours⟩ s.writer.table { sampleQuery.toFilter with page := p }
      ⟨sampleTime, .ok (), .ok ()⟩ = .ok page ∧
    page.items.count (.ofRow row) = 1 := by
  obtain ⟨s, row, hrun, htable⟩ : ∃ s row, sampleServing sampleStop = some s ∧ s.writer.table = [row] :=
    ⟨_, _, rfl, rfl⟩
  have hsize : s.writer.table.length < 2 ^ 63 := by
    rw [htable]
    show 1 < 2 ^ 63
    decide
  obtain ⟨hall, -⟩ := @listed_once sampleNet sampleGlob sampleDigest ⟨crateMinusHours⟩ _ _ _ _ sampleQuery
    ⟨sampleTime, .ok (), .ok ()⟩ none hrun (by decide) rfl rfl rfl hsize
  obtain ⟨p, page, hpage, hcount, -⟩ := hall row (htable ▸ List.mem_singleton.mpr rfl) ⟨rfl, rfl⟩
  exact ⟨s, row, p, page, hrun, htable, hpage, hcount⟩

end KidProxy
