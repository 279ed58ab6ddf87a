import KidProxy.Event
import KidProxy.Lib.Text
import KidProxy.TimeOrder
import Mathlib.Data.List.Lex
import Mathlib.Data.List.Pairwise
import Mathlib.Data.List.Sort

/-!
# Results — the listing of recorded events

`list_events` filters the rows of `proxy_events`, orders them by the text of `request_start_ts` and cuts
out one page.  SQLite compares these texts byte by byte, so the order of the listing and the `since_hours`
filter follow the time exactly where no two of the instants are swapped (`listing_follows_time_iff`).
-/

namespace KidProxy

/-! ### The query -/

/-- The `time` crate: an instant minus `Duration::hours`, which panics where the hours or the result are
out of range. -/
class HourArithmetic where
  minusHours : OffsetDateTime → ℤ → Except Fault OffsetDateTime

structure EventListFilter where
  method : Option String
  pathSubstring : Option String
  statusCode : Option ℤ
  proxyResult : Option String
  sinceHours : Option ℤ
  page : ℕ
  perPage : ℕ
  deriving DecidableEq, Repr

structure EventListFilterQuery where
  method : Option String
  pathSubstring : Option String
  statusCode : Option ℤ
  proxyResult : Option String
  sinceHours : Option ℤ
  page : Option ℕ
  perPage : Option ℕ
  deriving DecidableEq, Repr

/-- `EventListFilterQuery::to_filter`. -/
def EventListFilterQuery.toFilter (query : EventListFilterQuery) : EventListFilter where
  method := query.method.filter fun value => !value.isEmpty
  pathSubstring := query.pathSubstring.filter fun value => !value.isEmpty
  statusCode := query.statusCode
  proxyResult := query.proxyResult.filter fun value => !value.isEmpty
  sinceHours := query.sinceHours
  page := query.page.getD 0
  perPage := max 1 (min (query.perPage.getD 50) 200)

structure EventListItem where
  eventId : String
  requestStartTs : String
  method : String
  path : String
  statusCode : String
  durationMs : ℤ
  backendHost : String
  proxyResult : String
  deriving DecidableEq, Repr

structure EventListPage where
  items : List EventListItem
  total : ℕ
  deriving DecidableEq, Repr

namespace Sql

/-- What the `BINARY` collation compares: the bytes of a text. -/
def binaryKey (s : String) : List ℕ := (Text.utf8 s.toList).map UInt8.toNat

/-- `LIKE` without `ESCAPE`: `%` is any text, `_` any character, and the case of ASCII letters does not
matter. -/
def like : List Char → List Char → Bool
  | [], text => text.isEmpty
  | '%' :: pattern, text => text.tails.any (like pattern)
  | '_' :: pattern, text =>
    match text with
    | [] => false
    | _ :: text => like pattern text
  | c :: pattern, text =>
    match text with
    | [] => false
    | d :: text => c.toLower = d.toLower && like pattern text

/-- `ColumnTrait::contains`. -/
def contains (text substring : String) : Bool :=
  like ('%' :: substring.toList ++ ['%']) text.toList

end Sql

/-- The conditions of `list_events` but the one on the start; a missing status equals no number. -/
def EventListFilter.keeps (filter : EventListFilter) (row : ActiveModel) : Bool :=
  (match filter.method with
    | some method => row.method.toList = method.toList.map Char.toUpper
    | none => true) &&
  (match filter.pathSubstring with
    | some pathSubstring => Sql.contains row.path pathSubstring
    | none => true) &&
  (match filter.statusCode with
    | some statusCode => row.statusCode = some statusCode
    | none => true) &&
  (match filter.proxyResult with
    | some proxyResult => row.proxyResult = proxyResult
    | none => true)

/-- The condition on the start. -/
def startedSince (since : Option String) (row : ActiveModel) : Bool :=
  match since with
  | some since => Sql.binaryKey since ≤ Sql.binaryKey row.requestStartTs
  | none => true

/-- The row meets all conditions. -/
def EventListFilter.Passes (filter : EventListFilter) (since : Option String) (row : ActiveModel) : Prop :=
  filter.keeps row = true ∧ startedSince since row = true

/-- `order_by_desc(RequestStartTs)`; SQLite leaves the order of equal texts open, and here it is that of
the table. -/
def Later (a b : ActiveModel) : Prop :=
  Sql.binaryKey b.requestStartTs ≤ Sql.binaryKey a.requestStartTs

instance : DecidableRel Later := fun a b =>
  inferInstanceAs (Decidable (Sql.binaryKey b.requestStartTs ≤ Sql.binaryKey a.requestStartTs))

/-- The rows that the query selects, in its order. -/
def selectRows (rows : List ActiveModel) (filter : EventListFilter) (since : Option String) :
    List ActiveModel :=
  (rows.filter fun row => filter.keeps row && startedSince since row).insertionSort Later

def EventListItem.ofRow (row : ActiveModel) : EventListItem where
  eventId := row.eventId
  requestStartTs := row.requestStartTs
  method := row.method
  path := row.path
  statusCode := match row.statusCode with
    | some value => toString value
    | none => "n/a"
  durationMs := row.durationMs
  backendHost := row.backendHost
  proxyResult := row.proxyResult

/-- What the clock and the database answer during one listing. -/
structure ListEnv where
  now : OffsetDateTime
  count : Except AnyError Unit
  fetch : Except AnyError Unit

section List

variable [HourArithmetic]

/-- The text of the cut-off. -/
def sinceText (now : OffsetDateTime) : Option ℤ → Except Fault (Option String)
  | none => .ok none
  | some sinceHours => do
    let since ← HourArithmetic.minusHours now sinceHours
    let text ← returning (contextSome "format results since timestamp" since.formatRfc3339)
    return some text

/-- `paginate`, which refuses pages of no rows. -/
def paginate (perPage : ℕ) : Except Fault Unit :=
  if perPage = 0 then .error (.panicked "page_size should not be zero") else .ok ()

/-- The offset that `fetch_page` asks for: a product in 64 bits, with the overflow checks of a debug build,
which is bound to the statement as an `i64`. -/
def pageOffset (page perPage : ℕ) : Except Fault ℕ :=
  if page * perPage < 2 ^ 64 then
    if page * perPage < 2 ^ 63 then .ok (page * perPage)
    else .error (.panicked "called `Result::unwrap()` on an `Err` value: TryFromIntError(())")
  else .error (.panicked "attempt to multiply with overflow")

omit [HourArithmetic] in
theorem pageOffset_of_lt {page perPage : ℕ} (h : page * perPage < 2 ^ 63) :
    pageOffset page perPage = .ok (page * perPage) := by
  unfold pageOffset
  rw [if_pos (h.trans (by decide)), if_pos h]

omit [HourArithmetic] in
theorem pageOffset_of_le {page perPage : ℕ} (h : 2 ^ 63 ≤ page * perPage) :
    ∃ message, pageOffset page perPage = .error (.panicked message) := by
  unfold pageOffset
  by_cases hlarge : page * perPage < 2 ^ 64
  · rw [if_pos hlarge, if_neg (not_lt.mpr h)]
    exact ⟨_, rfl⟩
  · rw [if_neg hlarge]
    exact ⟨_, rfl⟩

def listEvents (rows : List ActiveModel) (filter : EventListFilter) (env : ListEnv) :
    Except Fault EventListPage := do
  let since ← sinceText env.now filter.sinceHours
  let selected := selectRows rows filter since
  paginate filter.perPage
  returning (context "count result rows" env.count)
  let offset ← pageOffset filter.page filter.perPage
  returning (context "fetch result page" env.fetch)
  return {
    items := ((selected.drop offset).take filter.perPage).map EventListItem.ofRow
    total := selected.length }

/-- A page is a part of what the query selects. -/
theorem listEvents_eq_ok {rows : List ActiveModel} {filter : EventListFilter} {env : ListEnv}
    {page : EventListPage} (h : listEvents rows filter env = .ok page) :
    ∃ since, sinceText env.now filter.sinceHours = .ok since ∧
      page.items = (((selectRows rows filter since).drop (filter.page * filter.perPage)).take
        filter.perPage).map EventListItem.ofRow ∧
      page.total = (selectRows rows filter since).length := by
  obtain ⟨since, hsince, h⟩ := bind_eq_ok.mp h
  refine ⟨since, hsince, ?_⟩
  obtain ⟨_, -, h⟩ := bind_eq_ok.mp h
  obtain ⟨_, -, h⟩ := bind_eq_ok.mp h
  obtain ⟨offset, hoffset, h⟩ := bind_eq_ok.mp h
  obtain ⟨_, -, h⟩ := bind_eq_ok.mp h
  obtain rfl := Except.ok.inj h
  have hmul : offset = filter.page * filter.perPage := by
    by_cases hlt : filter.page * filter.perPage < 2 ^ 63
    · exact (Except.ok.inj ((pageOffset_of_lt hlt).symm.trans hoffset)).symm
    · obtain ⟨message, hpanics⟩ := pageOffset_of_le (not_lt.mp hlt)
      cases hpanics.symm.trans hoffset
  rw [hmul]
  exact ⟨rfl, rfl⟩

end List

/-! ### The listing and the time -/

namespace Sql

theorem binaryKey_ofList {cs : List Char} (h : ∀ c ∈ cs, c.toNat < 128) :
    binaryKey (String.ofList cs) = cs.map Char.toNat := by
  unfold binaryKey
  rw [String.toList_ofList, Text.utf8_ascii h, List.map_map]
  refine List.map_congr_left fun c hc => ?_
  have hc := h c hc
  show (UInt8.ofNat c.toNat).toNat = c.toNat
  rw [UInt8.toNat_ofNat']
  omega

/-- ASCII texts are compared by their characters. -/
theorem binaryKey_lt_iff {as bs : List Char} (ha : ∀ c ∈ as, c.toNat < 128)
    (hb : ∀ c ∈ bs, c.toNat < 128) :
    binaryKey (String.ofList as) < binaryKey (String.ofList bs) ↔ as < bs := by
  rw [binaryKey_ofList ha, binaryKey_ofList hb]
  exact Lex.map_lt_map_iff fun a _ b _ => ⟨Iff.rfl, Char.toNat_inj⟩

end Sql

namespace OffsetDateTime

variable {t u : OffsetDateTime} {a b : String}

theorem formatTimestamp_eq_ok : formatTimestamp t = .ok a ↔ t.formatRfc3339 = some a :=
  contextSome_eq_ok

/-- Stored texts are compared like the instants, except where these are swapped. -/
theorem binaryKey_lt_iff (ha : t.formatRfc3339 = some a) (hb : u.formatRfc3339 = some b)
    (h : t.unixNanos < u.unixNanos) : Sql.binaryKey a < Sql.binaryKey b ↔ ¬ Swapped t u := by
  obtain ⟨ht, rfl⟩ := formatRfc3339_eq_some.mp ha
  obtain ⟨hu, rfl⟩ := formatRfc3339_eq_some.mp hb
  have hascii : ∀ v : OffsetDateTime, ∀ c ∈ v.text, c.toNat < 128 := fun v c hc =>
    Nat.lt_of_le_of_lt (show c.toNat ≤ 90 from le_of_mem_text hc) (by decide)
  rw [Sql.binaryKey_lt_iff (hascii t) (hascii u), text_lt_iff ht hu h]

theorem binaryKey_injective (ha : t.formatRfc3339 = some a) (hb : u.formatRfc3339 = some b)
    (h : Sql.binaryKey a = Sql.binaryKey b) : t.unixNanos = u.unixNanos := by
  obtain ⟨ht, rfl⟩ := formatRfc3339_eq_some.mp ha
  obtain ⟨hu, rfl⟩ := formatRfc3339_eq_some.mp hb
  have hbytes := List.map_injective_iff.mpr (fun _ _ => UInt8.toNat_inj.mp) h
  have htext := Text.utf8_injective hbytes
  rw [String.toList_ofList, String.toList_ofList] at htext
  exact unixNanos_eq_of_text ht hu htext

/-- Two swapped instants are compared the wrong way round. -/
theorem Swapped.binaryKey_gt (h : Swapped t u) (ha : t.formatRfc3339 = some a)
    (hb : u.formatRfc3339 = some b) : Sql.binaryKey b < Sql.binaryKey a := by
  rcases lt_trichotomy (Sql.binaryKey a) (Sql.binaryKey b) with hlt | heq | hgt
  · exact absurd h ((binaryKey_lt_iff ha hb h.1).mp hlt)
  · have := binaryKey_injective ha hb heq
    have := h.1
    omega
  · exact hgt

/-- At or after, by the texts and by the time. -/
theorem binaryKey_le_iff (ha : t.formatRfc3339 = some a) (hb : u.formatRfc3339 = some b) :
    (Sql.binaryKey a ≤ Sql.binaryKey b ↔ t.unixNanos ≤ u.unixNanos) ↔
      ¬ Swapped t u ∧ ¬ Swapped u t := by
  rcases lt_trichotomy t.unixNanos u.unixNanos with hlt | heq | hgt
  · have hback : ¬ Swapped u t := fun hs => absurd hs.1 (not_lt.mpr hlt.le)
    rw [← binaryKey_lt_iff ha hb hlt]
    have hne : Sql.binaryKey a ≠ Sql.binaryKey b := fun h =>
      absurd (binaryKey_injective ha hb h) hlt.ne
    refine ⟨fun h => ⟨lt_of_le_of_ne (h.mpr hlt.le) hne, hback⟩, fun h => ?_⟩
    exact ⟨fun _ => hlt.le, fun _ => h.1.le⟩
  · have hsame : a = b := by
      obtain ⟨ht, rfl⟩ := formatRfc3339_eq_some.mp ha
      obtain ⟨hu, rfl⟩ := formatRfc3339_eq_some.mp hb
      rw [unixNanos_eq, unixNanos_eq] at heq
      have htn : t.nanosecond < 10 ^ 9 := t.valid.2.2.2.2.2.2.2.2.2
      have hun : u.nanosecond < 10 ^ 9 := u.valid.2.2.2.2.2.2.2.2.2
      have hseconds : t.unixSeconds = u.unixSeconds := by omega
      have hnanos : t.nanosecond = u.nanosecond := by omega
      unfold text
      rw [(secondsText_eq_iff ht hu).mpr hseconds, hnanos]
    rw [hsame]
    refine ⟨fun _ => ⟨fun hs => absurd hs.1 heq.not_lt, fun hs => absurd hs.1 heq.not_gt⟩, fun _ => ?_⟩
    exact ⟨fun _ => heq.le, fun _ => le_refl _⟩
  · have hforth : ¬ Swapped t u := fun hs => absurd hs.1 (not_lt.mpr hgt.le)
    have hkeys := binaryKey_lt_iff hb ha hgt
    refine ⟨fun h => ⟨hforth, hkeys.mp (not_le.mp fun hle => ?_)⟩, fun h => ?_⟩
    · exact absurd (h.mp hle) (not_le.mpr hgt)
    · have hlt := hkeys.mpr h.2
      exact ⟨fun hle => absurd hle (not_le.mpr hlt), fun hle => absurd hle (not_le.mpr hgt)⟩

end OffsetDateTime

open OffsetDateTime (Swapped)

/-- The row is of a request that started then. -/
def StartedAt (row : ActiveModel) (t : OffsetDateTime) : Prop :=
  formatTimestamp t = .ok row.requestStartTs

/-- Two rows in descending order of their starts. -/
def NotEarlier (a b : ActiveModel) : Prop :=
  ∀ t u, StartedAt a t → StartedAt b u → u.unixNanos ≤ t.unixNanos

theorem mem_selectRows {rows : List ActiveModel} {filter : EventListFilter} {since : Option String}
    {row : ActiveModel} : row ∈ selectRows rows filter since ↔
      row ∈ rows ∧ filter.Passes since row := by
  unfold selectRows EventListFilter.Passes
  rw [List.mem_insertionSort, List.mem_filter, Bool.and_eq_true]

theorem pairwise_selectRows (rows : List ActiveModel) (filter : EventListFilter)
    (since : Option String) : (selectRows rows filter since).Pairwise Later := by
  have : Std.Total Later := ⟨fun a b => le_total _ _⟩
  have : IsTrans ActiveModel Later := ⟨fun a b c hab hbc => le_trans hbc hab⟩
  exact List.pairwise_insertionSort Later _

/-- The query's order is descending in time exactly where no two selected rows are swapped. -/
theorem selectRows_descending_iff (rows : List ActiveModel) (filter : EventListFilter)
    (since : Option String) :
    (selectRows rows filter since).Pairwise NotEarlier ↔
      ∀ a ∈ selectRows rows filter since, ∀ b ∈ selectRows rows filter since, ∀ t u,
        StartedAt a t → StartedAt b u → ¬ Swapped t u := by
  have hsorted := pairwise_selectRows rows filter since
  constructor
  · intro hdesc a ha b hb t u hat hbu hswapped
    have hgt := hswapped.binaryKey_gt (OffsetDateTime.formatTimestamp_eq_ok.mp hat)
      (OffsetDateTime.formatTimestamp_eq_ok.mp hbu)
    have hne : a ≠ b := fun heq => absurd hgt (heq ▸ lt_irrefl _)
    -- the row with the greater text comes first, and it started earlier
    have hboth : (selectRows rows filter since).Pairwise fun x y =>
        (Later x y ∧ NotEarlier x y) ∨ (Later y x ∧ NotEarlier y x) :=
      (hsorted.and hdesc).imp fun h => .inl h
    have hsymm : Std.Symm fun x y : ActiveModel =>
        (Later x y ∧ NotEarlier x y) ∨ (Later y x ∧ NotEarlier y x) := ⟨fun _ _ h => h.symm⟩
    rcases hboth.forall ha hb hne with ⟨-, hnot⟩ | ⟨hlater, -⟩
    · exact absurd (hnot t u hat hbu) (not_le.mpr hswapped.1)
    · exact absurd hlater (not_le.mpr hgt)
  · intro hcond
    refine hsorted.imp_of_mem fun {a b} ha hb hlater t u hat hbu => ?_
    by_contra hlt
    have hlt := not_le.mp hlt
    have hkey := (OffsetDateTime.binaryKey_lt_iff (OffsetDateTime.formatTimestamp_eq_ok.mp hat)
      (OffsetDateTime.formatTimestamp_eq_ok.mp hbu) hlt).mpr (hcond a ha b hb t u hat hbu)
    exact absurd hlater (not_le.mpr hkey)

section Listing

variable [HourArithmetic]

/-- The cut-off of a filter by hours, as it is printed. -/
theorem sinceText_of_hours {now cut : OffsetDateTime} {hours : ℤ} {since : Option String}
    (hcut : HourArithmetic.minusHours now hours = .ok cut) (hsince : sinceText now (some hours) = .ok since) :
    ∃ text, since = some text ∧ cut.formatRfc3339 = some text := by
  obtain ⟨cut', hcut', hsince⟩ := bind_eq_ok.mp hsince
  obtain rfl : cut = cut' := Except.ok.inj (hcut.symm.trans hcut')
  obtain ⟨text, htext, hsince⟩ := bind_eq_ok.mp hsince
  obtain rfl := Except.ok.inj hsince
  exact ⟨text, rfl, contextSome_eq_ok.mp (returning_eq_ok.mp htext)⟩

omit [HourArithmetic] in
/-- A row that the filter keeps is selected by its time exactly where it is not swapped with the cut-off. -/
theorem mem_selectRows_since_iff {rows : List ActiveModel} {filter : EventListFilter} {text : String}
    {cut t : OffsetDateTime} (hprints : cut.formatRfc3339 = some text) {row : ActiveModel}
    (hmem : row ∈ rows) (hstart : StartedAt row t) (hkeeps : filter.keeps row = true) :
    (row ∈ selectRows rows filter (some text) ↔ cut.unixNanos ≤ t.unixNanos) ↔
      ¬ Swapped cut t ∧ ¬ Swapped t cut := by
  have hselected : row ∈ selectRows rows filter (some text) ↔
      Sql.binaryKey text ≤ Sql.binaryKey row.requestStartTs := by
    rw [mem_selectRows]
    exact ⟨fun h => of_decide_eq_true h.2.2, fun h => ⟨hmem, hkeeps, decide_eq_true h⟩⟩
  rw [hselected]
  exact OffsetDateTime.binaryKey_le_iff hprints (OffsetDateTime.formatTimestamp_eq_ok.mp hstart)

/-- **Stored timestamps sort like time** except where two instants are swapped: for every two instants
that can be printed; for the order of every listing, of which each page is a part; and for the
`since_hours` filter, which compares the rows with the cut-off. -/
theorem listing_follows_time_iff :
    (∀ t u a b, formatTimestamp t = .ok a → formatTimestamp u = .ok b → t.unixNanos < u.unixNanos →
      (Sql.binaryKey a < Sql.binaryKey b ↔ ¬ Swapped t u)) ∧
    ∀ rows filter env since, sinceText env.now filter.sinceHours = .ok since →
      ((selectRows rows filter since).Pairwise NotEarlier ↔
        ∀ a ∈ rows, ∀ b ∈ rows, filter.Passes since a → filter.Passes since b → ∀ t u,
          StartedAt a t → StartedAt b u → ¬ Swapped t u) ∧
      (∀ hours cut, filter.sinceHours = some hours →
        HourArithmetic.minusHours env.now hours = .ok cut →
        ((∀ row ∈ rows, ∀ t, StartedAt row t → filter.keeps row = true →
            (row ∈ selectRows rows filter since ↔ cut.unixNanos ≤ t.unixNanos)) ↔
          ∀ row ∈ rows, ∀ t, StartedAt row t → filter.keeps row = true →
            ¬ Swapped cut t ∧ ¬ Swapped t cut)) ∧
      ∀ page, listEvents rows filter env = .ok page →
        page.items = (((selectRows rows filter since).drop (filter.page * filter.perPage)).take
          filter.perPage).map EventListItem.ofRow := by
  refine ⟨fun t u a b ha hb h => ?_, fun rows filter env since hsince => ⟨?_, ?_, ?_⟩⟩
  · exact OffsetDateTime.binaryKey_lt_iff (OffsetDateTime.formatTimestamp_eq_ok.mp ha)
      (OffsetDateTime.formatTimestamp_eq_ok.mp hb) h
  · rw [selectRows_descending_iff]
    constructor
    · intro h a ha b hb hpa hpb
      exact h a (mem_selectRows.mpr ⟨ha, hpa⟩) b (mem_selectRows.mpr ⟨hb, hpb⟩)
    · intro h a ha b hb
      obtain ⟨ha, hpa⟩ := mem_selectRows.mp ha
      obtain ⟨hb, hpb⟩ := mem_selectRows.mp hb
      exact h a ha b hb hpa hpb
  · intro hours cut hhours hcut
    rw [hhours] at hsince
    obtain ⟨text, rfl, hprints⟩ := sinceText_of_hours hcut hsince
    constructor
    · intro h row hmem t hstart hkeeps
      exact (mem_selectRows_since_iff hprints hmem hstart hkeeps).mp (h row hmem t hstart hkeeps)
    · intro h row hmem t hstart hkeeps
      exact (mem_selectRows_since_iff hprints hmem hstart hkeeps).mpr (h row hmem t hstart hkeeps)
  · intro page hpage
    obtain ⟨since', hsince', hitems, -⟩ := listEvents_eq_ok hpage
    obtain rfl : since = since' := Except.ok.inj (hsince.symm.trans hsince')
    exact hitems

end Listing

/-- Half a second after `sampleTime`. -/
def sampleHalfSecond : OffsetDateTime := ⟨2026, 1, 2, 3, 4, 5, 500000000, by decide⟩

/-- The later instant has the smaller text. -/
theorem half_second_sorts_before : sampleTime.unixNanos < sampleHalfSecond.unixNanos ∧
    formatTimestamp sampleTime = .ok "2026-01-02T03:04:05Z" ∧
    formatTimestamp sampleHalfSecond = .ok "2026-01-02T03:04:05.5Z" ∧
    Sql.binaryKey "2026-01-02T03:04:05.5Z" < Sql.binaryKey "2026-01-02T03:04:05Z" := by
  refine ⟨by decide, by decide, by decide, by decide⟩

end KidProxy
