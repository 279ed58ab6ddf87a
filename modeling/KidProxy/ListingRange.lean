import KidProxy.AdminForm
import KidProxy.Calendar
import KidProxy.Headers
import KidProxy.Results

/-!
# ListingRange — the numbers of a results query

A query may give any `i64` of hours and any `u64` as the page; the cut-off and the offset of the page are
computed from them.
-/

namespace KidProxy

open OffsetDateTime (first last)

/-! ### The query string -/

/-- `parse::<i32>`. -/
def parseI32 (cs : List Char) : Option ℤ := (parseI64 cs).filter fun z => -(2 ^ 31) ≤ z && z < 2 ^ 31

/-- `deserialize_optional_number`; `none` is an error. -/
def deserializeOptionalNumber {α : Type} (parse : List Char → Option α) (raw : Option String) :
    Option (Option α) :=
  match raw with
  | none => some none
  | some raw =>
    let value := Text.trim raw.toList
    if value.isEmpty then some none else (parse value).map some

namespace EventListFilterQuery

def fieldNames : List String :=
  ["method", "path_substring", "status_code", "proxy_result", "since_hours", "page", "per_page"]

/-- The query of the decoded pairs of a query string; a field that stands twice is an error. -/
def deserialize (pairs : List (String × String)) : Option EventListFilterQuery :=
  if ((pairs.map Prod.fst).filter fieldNames.contains).Nodup then do
    let statusCode ← deserializeOptionalNumber parseI32 (pairs.lookup "status_code")
    let sinceHours ← deserializeOptionalNumber parseI64 (pairs.lookup "since_hours")
    let page ← deserializeOptionalNumber (fun cs => parseU64 (String.ofList cs)) (pairs.lookup "page")
    let perPage ← deserializeOptionalNumber (fun cs => parseU64 (String.ofList cs)) (pairs.lookup "per_page")
    return {
      method := pairs.lookup "method"
      pathSubstring := pairs.lookup "path_substring"
      statusCode
      proxyResult := pairs.lookup "proxy_result"
      sinceHours
      page
      perPage }
  else none

end EventListFilterQuery

/-! ### The arithmetic of the cut-off -/

/-- `Duration::hours` takes hours whose seconds are an `i64`. -/
def FitsSeconds (hours : ℤ) : Prop := -(2 ^ 63) ≤ hours * 3600 ∧ hours * 3600 < 2 ^ 63

instance (hours : ℤ) : Decidable (FitsSeconds hours) :=
  inferInstanceAs (Decidable (-(2 ^ 63) ≤ hours * 3600 ∧ hours * 3600 < 2 ^ 63))

/-- The cut-off, in nanoseconds since 1970. -/
def cutOff (now : OffsetDateTime) (hours : ℤ) : ℤ := now.unixNanos - hours * 3600 * 1000000000

/-- What the `time` crate documents of the subtraction of hours. -/
structure HourArithmetic.Documented [HourArithmetic] : Prop where
  overflow : ∀ now hours, ¬ FitsSeconds hours → ∃ message, minusHours now hours = .error (.panicked message)
  outOfRange : ∀ now hours, FitsSeconds hours → (¬ ∃ t : OffsetDateTime, t.unixNanos = cutOff now hours) →
    ∃ message, minusHours now hours = .error (.panicked message)
  inRange : ∀ now hours, FitsSeconds hours → (∃ t : OffsetDateTime, t.unixNanos = cutOff now hours) →
    ∃ t, minusHours now hours = .ok t ∧ t.unixNanos = cutOff now hours

/-- The beginning of the year 0, before which nothing is printed. -/
def OffsetDateTime.yearZero : OffsetDateTime := ⟨0, 1, 1, 0, 0, 0, 0, by decide⟩

theorem OffsetDateTime.formatRfc3339_isSome_iff (t : OffsetDateTime) :
    t.formatRfc3339.isSome ↔ yearZero.unixNanos ≤ t.unixNanos := by
  have hvalid := t.valid
  have hzero : yearZero.nanosecond = 0 := rfl
  rw [formatRfc3339_isSome, unixNanos_eq, unixNanos_eq, hzero]
  have hseconds : t.unixSeconds < yearZero.unixSeconds ↔ t.year < 0 := by
    rw [unixSeconds_lt_iff]
    unfold SecondBefore yearZero
    dsimp only
    omega
  omega

/-- The cut-off and the offset of the page are in range; a cut-off that is not printed ends the listing
before the offset is computed. -/
structure ListingInRange (filter : EventListFilter) (now : OffsetDateTime) : Prop where
  cut : ∀ hours ∈ filter.sinceHours, FitsSeconds hours ∧ first.unixNanos ≤ cutOff now hours ∧
    cutOff now hours ≤ last.unixNanos
  offset : filter.page * filter.perPage < 2 ^ 63 ∨
    ∃ hours ∈ filter.sinceHours, cutOff now hours < OffsetDateTime.yearZero.unixNanos

section Listing

variable [HourArithmetic]

theorem sinceText_panicked {now : OffsetDateTime} {hours : ℤ} (hdocumented : HourArithmetic.Documented)
    (h : ¬ (FitsSeconds hours ∧ first.unixNanos ≤ cutOff now hours ∧ cutOff now hours ≤ last.unixNanos)) :
    ∃ message, sinceText now (some hours) = .error (.panicked message) := by
  have hpanics : ∃ message, HourArithmetic.minusHours now hours = .error (.panicked message) := by
    by_cases hfits : FitsSeconds hours
    · refine hdocumented.outOfRange now hours hfits fun hexists => h ⟨hfits, ?_⟩
      exact (OffsetDateTime.exists_unixNanos_eq_iff _).mp hexists
    · exact hdocumented.overflow now hours hfits
  obtain ⟨message, hminus⟩ := hpanics
  refine ⟨message, ?_⟩
  unfold sinceText
  dsimp only
  rw [hminus]
  rfl

theorem sinceText_of_minusHours {now t : OffsetDateTime} {hours : ℤ}
    (h : HourArithmetic.minusHours now hours = .ok t) : sinceText now (some hours) =
      (returning (contextSome "format results since timestamp" t.formatRfc3339)).map some := by
  unfold sinceText
  dsimp only
  rw [h]
  show (returning (contextSome "format results since timestamp" t.formatRfc3339) >>= fun text =>
    pure (some text)) = _
  cases returning (contextSome "format results since timestamp" t.formatRfc3339) <;> rfl

theorem sinceText_in_range {now : OffsetDateTime} {hours : ℤ} (hdocumented : HourArithmetic.Documented)
    (h : FitsSeconds hours ∧ first.unixNanos ≤ cutOff now hours ∧ cutOff now hours ≤ last.unixNanos) :
    (OffsetDateTime.yearZero.unixNanos ≤ cutOff now hours ∧
      ∃ since, sinceText now (some hours) = .ok since) ∨
    (cutOff now hours < OffsetDateTime.yearZero.unixNanos ∧
      ∃ err, sinceText now (some hours) = .error (.error err)) := by
  obtain ⟨t, hminus, hcut⟩ :=
    hdocumented.inRange now hours h.1 ((OffsetDateTime.exists_unixNanos_eq_iff _).mpr h.2)
  have hprints := t.formatRfc3339_isSome_iff
  rw [hcut] at hprints
  rw [sinceText_of_minusHours hminus]
  cases htext : t.formatRfc3339 with
  | some text =>
    rw [htext] at hprints
    exact .inl ⟨hprints.mp rfl, _, rfl⟩
  | none =>
    rw [htext] at hprints
    refine .inr ⟨not_le.mp fun hle => ?_, _, rfl⟩
    exact absurd (hprints.mpr hle) (by decide)

/-- Behind a cut-off that is there, only the offset can be out of range. -/
theorem listEvents_of_since {rows : List ActiveModel} {filter : EventListFilter} {now : OffsetDateTime}
    {count fetch : Except AnyError Unit} {since : Option String} (hperPage : filter.perPage ≠ 0)
    (hsince : sinceText now filter.sinceHours = .ok since) :
    (∃ message, listEvents rows filter ⟨now, count, fetch⟩ = .error (.panicked message)) ↔
      count = .ok () ∧ ¬ filter.page * filter.perPage < 2 ^ 63 := by
  have hpaginate : paginate filter.perPage = .ok () := if_neg hperPage
  unfold listEvents
  dsimp only
  rw [hsince, hpaginate]
  cases count with
  | error err =>
    refine iff_of_false ?_ fun h => nomatch h.1
    rintro ⟨message, h⟩
    cases h
  | ok u =>
    by_cases hoffset : filter.page * filter.perPage < 2 ^ 63
    · rw [pageOffset_of_lt hoffset]
      refine iff_of_false ?_ fun h => h.2 hoffset
      rintro ⟨message, h⟩
      cases fetch with
      | ok v => cases h
      | error err => cases h
    · obtain ⟨message, hpanics⟩ := pageOffset_of_le (not_lt.mp hoffset)
      rw [hpanics]
      exact iff_of_true ⟨_, rfl⟩ ⟨rfl, hoffset⟩

/-- The listing of `results_page`; `none` is a query that is not accepted. -/
def resultsListing (rows : List ActiveModel) (pairs : List (String × String)) (env : ListEnv) :
    Option (Except Fault EventListPage) :=
  (EventListFilterQuery.deserialize pairs).map fun query => listEvents rows query.toFilter env

/-- No table and no answer of the database makes the listing of this query panic. -/
def NeverPanics (pairs : List (String × String)) (now : OffsetDateTime) : Prop :=
  ∀ rows count fetch message,
    resultsListing rows pairs ⟨now, count, fetch⟩ ≠ some (.error (.panicked message))

omit [HourArithmetic] in
theorem perPage_toFilter_ne_zero (query : EventListFilterQuery) : query.toFilter.perPage ≠ 0 := by
  show max 1 _ ≠ 0
  omega

theorem cut_of_never_panics {filter : EventListFilter} {now : OffsetDateTime}
    (hdocumented : HourArithmetic.Documented)
    (hnever : ∀ message, listEvents [] filter ⟨now, .ok (), .ok ()⟩ ≠ .error (.panicked message)) :
    ∀ hours ∈ filter.sinceHours, FitsSeconds hours ∧ first.unixNanos ≤ cutOff now hours ∧
      cutOff now hours ≤ last.unixNanos := by
  intro hours hhours
  by_contra hout
  obtain ⟨message, hsince⟩ := sinceText_panicked hdocumented hout
  refine hnever message ?_
  unfold listEvents
  dsimp only
  rw [show filter.sinceHours = some hours from hhours, hsince]
  rfl

theorem offset_of_never_panics {filter : EventListFilter} {now : OffsetDateTime}
    (hdocumented : HourArithmetic.Documented) (hperPage : filter.perPage ≠ 0)
    (hnever : ∀ message, listEvents [] filter ⟨now, .ok (), .ok ()⟩ ≠ .error (.panicked message)) :
    filter.page * filter.perPage < 2 ^ 63 ∨
      ∃ hours ∈ filter.sinceHours, cutOff now hours < OffsetDateTime.yearZero.unixNanos := by
  have hcut := cut_of_never_panics hdocumented hnever
  by_contra hout
  rw [not_or] at hout
  obtain ⟨hoffset, hprinted⟩ := hout
  have hsince : ∃ since, sinceText now filter.sinceHours = .ok since := by
    cases hhours : filter.sinceHours with
    | none => exact ⟨none, rfl⟩
    | some hours =>
      rcases sinceText_in_range hdocumented (hcut hours hhours) with ⟨-, hok⟩ | ⟨hlt, -⟩
      · exact hok
      · exact absurd ⟨hours, hhours, hlt⟩ hprinted
  obtain ⟨since, hsince⟩ := hsince
  have hpanics : ∃ message, listEvents [] filter ⟨now, .ok (), .ok ()⟩ = .error (.panicked message) :=
    (listEvents_of_since hperPage hsince).mpr ⟨rfl, hoffset⟩
  obtain ⟨message, hpanics⟩ := hpanics
  exact hnever message hpanics

theorem listEvents_of_inRange {rows : List ActiveModel} {filter : EventListFilter} {now : OffsetDateTime}
    {count fetch : Except AnyError Unit} {message : String} (hdocumented : HourArithmetic.Documented)
    (hperPage : filter.perPage ≠ 0) (hrange : ListingInRange filter now) :
    listEvents rows filter ⟨now, count, fetch⟩ ≠ .error (.panicked message) := by
  intro hpanics
  cases hsince : sinceText now filter.sinceHours with
  | ok since =>
    obtain ⟨-, hlarge⟩ := (listEvents_of_since hperPage hsince).mp ⟨message, hpanics⟩
    obtain ⟨hours, hhours, hlt⟩ := hrange.offset.resolve_left hlarge
    -- a cut-off before the year 0 is not printed
    rcases sinceText_in_range hdocumented (hrange.cut hours hhours) with ⟨hle, -⟩ | ⟨-, err, herr⟩
    · exact absurd hle (not_le.mpr hlt)
    · rw [show filter.sinceHours = some hours from hhours, herr] at hsince
      cases hsince
  | error fault =>
    have hfault : fault = .panicked message := by
      unfold listEvents at hpanics
      dsimp only at hpanics
      rw [hsince] at hpanics
      exact Except.error.inj hpanics
    rw [hfault] at hsince
    cases hhours : filter.sinceHours with
    | none =>
      rw [hhours] at hsince
      cases hsince
    | some hours =>
      rw [hhours] at hsince
      rcases sinceText_in_range hdocumented (hrange.cut hours hhours) with ⟨-, since, hok⟩ | ⟨-, err, herr⟩
      · rw [hok] at hsince
        cases hsince
      · rw [herr] at hsince
        cases hsince

/-- The listing of a query that is accepted never panics exactly when its numbers are in range. -/
theorem listing_never_panics_iff (hdocumented : HourArithmetic.Documented) (pairs : List (String × String))
    (query : EventListFilterQuery) (hquery : EventListFilterQuery.deserialize pairs = some query)
    (now : OffsetDateTime) : NeverPanics pairs now ↔ ListingInRange query.toFilter now := by
  have hperPage := perPage_toFilter_ne_zero query
  have hlisting : ∀ rows env,
      resultsListing rows pairs env = some (listEvents rows query.toFilter env) := by
    intro rows env
    unfold resultsListing
    rw [hquery]
    rfl
  constructor
  · intro hnever
    have hempty : ∀ message,
        listEvents [] query.toFilter ⟨now, .ok (), .ok ()⟩ ≠ .error (.panicked message) := by
      intro message hpanics
      refine hnever [] (.ok ()) (.ok ()) message ?_
      rw [hlisting, hpanics]
    exact ⟨cut_of_never_panics hdocumented hempty, offset_of_never_panics hdocumented hperPage hempty⟩
  · intro hrange rows count fetch message hpanics
    rw [hlisting] at hpanics
    exact listEvents_of_inRange hdocumented hperPage hrange (Option.some.inj hpanics)

end Listing

/-! ### The crate's own subtraction -/

/-- The subtraction as the `time` crate does it. -/
def crateMinusHours (now : OffsetDateTime) (hours : ℤ) : Except Fault OffsetDateTime :=
  if FitsSeconds hours then
    match OffsetDateTime.ofUnixNanos (cutOff now hours) with
    | some t => .ok t
    | none => .error (.panicked "resulting value is out of range")
  else .error (.panicked "overflow constructing time::Duration")

theorem crateMinusHours_documented : @HourArithmetic.Documented ⟨crateMinusHours⟩ := by
  let _ : HourArithmetic := ⟨crateMinusHours⟩
  refine ⟨fun now hours h => ⟨_, if_neg h⟩, fun now hours hfits hnone => ?_,
    fun now hours hfits hexists => ?_⟩
  · have hout : OffsetDateTime.ofUnixNanos (cutOff now hours) = none := by
      refine Option.eq_none_iff_forall_ne_some.mpr fun t ht => hnone ⟨t, ?_⟩
      exact OffsetDateTime.unixNanos_of_ofUnixNanos ht
    refine ⟨"resulting value is out of range", ?_⟩
    show crateMinusHours now hours = _
    unfold crateMinusHours
    rw [if_pos hfits, hout]
  · obtain ⟨hlow, hhigh⟩ := (OffsetDateTime.exists_unixNanos_eq_iff _).mp hexists
    obtain ⟨t, ht⟩ := OffsetDateTime.exists_ofUnixNanos hlow hhigh
    refine ⟨t, ?_, OffsetDateTime.unixNanos_of_ofUnixNanos ht⟩
    show crateMinusHours now hours = _
    unfold crateMinusHours
    rw [if_pos hfits, ht]

/-- The first second of 2024. -/
def newYear : OffsetDateTime := ⟨2024, 1, 1, 0, 0, 0, 0, by decide⟩

/-- The last hour of the day, the first page: nothing is out of range. -/
theorem listing_of_last_hours_never_panics :
    @NeverPanics ⟨crateMinusHours⟩ [("since_hours", " 24 "), ("page", "0")] newYear := by
  have hquery : EventListFilterQuery.deserialize [("since_hours", " 24 "), ("page", "0")] =
      some ⟨none, none, none, none, some 24, some 0, none⟩ := by decide +kernel
  refine (@listing_never_panics_iff ⟨crateMinusHours⟩ crateMinusHours_documented _ _ hquery newYear).mpr ?_
  refine ⟨fun hours hhours => ?_, .inl (by decide)⟩
  obtain rfl : 24 = hours := Option.some.inj hhours
  decide +kernel

/-- Any hours are accepted, and the cut-off of these is not an instant; any page is accepted too, one that
overflows 64 bits and one whose offset is no `i64`. -/
theorem listing_of_all_hours_panics :
    (EventListFilterQuery.deserialize [("since_hours", "9223372036854775807")]).isSome ∧
    ¬ @NeverPanics ⟨crateMinusHours⟩ [("since_hours", "9223372036854775807")] newYear ∧
    (EventListFilterQuery.deserialize [("page", "18446744073709551615")]).isSome ∧
    ¬ @NeverPanics ⟨crateMinusHours⟩ [("page", "18446744073709551615")] newYear ∧
    (EventListFilterQuery.deserialize [("page", "9223372036854775808"), ("per_page", "1")]).isSome ∧
    ¬ @NeverPanics ⟨crateMinusHours⟩ [("page", "9223372036854775808"), ("per_page", "1")] newYear := by
  have hhours : EventListFilterQuery.deserialize [("since_hours", "9223372036854775807")] =
      some ⟨none, none, none, none, some 9223372036854775807, none, none⟩ := by decide +kernel
  have hpage : EventListFilterQuery.deserialize [("page", "18446744073709551615")] =
      some ⟨none, none, none, none, none, some 18446744073709551615, none⟩ := by decide +kernel
  have hlarge : EventListFilterQuery.deserialize [("page", "9223372036854775808"), ("per_page", "1")] =
      some ⟨none, none, none, none, none, some 9223372036854775808, some 1⟩ := by decide +kernel
  refine ⟨by rw [hhours]; rfl, fun hnever => ?_, by rw [hpage]; rfl, fun hnever => ?_,
    by rw [hlarge]; rfl, fun hnever => ?_⟩
  · refine hnever [] (.ok ()) (.ok ()) "overflow constructing time::Duration" ?_
    unfold resultsListing
    rw [hhours]
    rfl
  · refine hnever [] (.ok ()) (.ok ()) "attempt to multiply with overflow" ?_
    unfold resultsListing
    rw [hpage]
    rfl
  · refine hnever [] (.ok ()) (.ok ())
      "called `Result::unwrap()` on an `Err` value: TryFromIntError(())" ?_
    unfold resultsListing
    rw [hlarge]
    rfl

end KidProxy
