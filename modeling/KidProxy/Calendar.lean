import KidProxy.TimeOrder

/-!
# Calendar — the instants between the first and the last year

Every number of nanoseconds between the beginning of the year -9999 and the end of the year 9999 is that of
an instant; the date of a day is found century by century, four years by four years and year by year.
-/

namespace KidProxy.OffsetDateTime

/-! ### The date of a day -/

/-- The year that starts in March in which a day lies, counted from 1 March of the year 0, and the day in
that year. -/
def yearOfDay (day : ℤ) : ℤ × ℕ :=
  let era := day / 146097
  let dayOfEra := (day % 146097).toNat
  let century := min (dayOfEra / 36524) 3
  let dayOfCentury := dayOfEra - 36524 * century
  let olympiad := dayOfCentury / 1461
  let dayOfOlympiad := dayOfCentury - 1461 * olympiad
  let year := min (dayOfOlympiad / 365) 3
  (400 * era + (100 * century + 4 * olympiad + year : ℕ), dayOfOlympiad - 365 * year)

/-- The day lies in the year, and a leap day only in a leap year. -/
theorem yearOfDay_spec (day : ℤ) :
    daysBefore (yearOfDay day).1 + (yearOfDay day).2 = day ∧ (yearOfDay day).2 ≤ 365 ∧
      ((yearOfDay day).2 = 365 → isLeapYear ((yearOfDay day).1 + 1) = true) := by
  have hmod : 0 ≤ day % 146097 ∧ day % 146097 < 146097 := by omega
  have hday : day = 146097 * (day / 146097) + day % 146097 := (Int.mul_ediv_add_emod day 146097).symm
  unfold yearOfDay
  dsimp only
  generalize day / 146097 = era at hday ⊢
  obtain ⟨dayOfEra, hera⟩ := Int.eq_ofNat_of_zero_le hmod.1
  rw [hera] at hday hmod ⊢
  rw [Int.toNat_natCast]
  have hlt : dayOfEra < 146097 := by omega
  obtain ⟨century, hcentury⟩ : ∃ century, century = min (dayOfEra / 36524) 3 := ⟨_, rfl⟩
  rw [← hcentury]
  have hc : 36524 * century ≤ dayOfEra ∧ dayOfEra - 36524 * century ≤ 36524 ∧ century ≤ 3 ∧
      (dayOfEra - 36524 * century = 36524 → century = 3) := by omega
  obtain ⟨dayOfCentury, hr⟩ : ∃ r, r = dayOfEra - 36524 * century := ⟨_, rfl⟩
  rw [← hr] at hc ⊢
  obtain ⟨olympiad, hq⟩ : ∃ q, q = dayOfCentury / 1461 := ⟨_, rfl⟩
  rw [← hq]
  have ho : olympiad ≤ 24 ∧ dayOfCentury - 1461 * olympiad ≤ 1460 ∧ 1461 * olympiad ≤ dayOfCentury := by omega
  obtain ⟨dayOfOlympiad, hs⟩ : ∃ s, s = dayOfCentury - 1461 * olympiad := ⟨_, rfl⟩
  rw [← hs] at ho ⊢
  obtain ⟨year, hy⟩ : ∃ y, y = min (dayOfOlympiad / 365) 3 := ⟨_, rfl⟩
  rw [← hy]
  have hyear : year ≤ 3 ∧ 365 * year ≤ dayOfOlympiad ∧ dayOfOlympiad - 365 * year ≤ 365 ∧
      (dayOfOlympiad - 365 * year = 365 → year = 3 ∧ dayOfOlympiad = 1460) := by omega
  refine ⟨?_, hyear.2.2.1, ?_⟩
  · have hfour : (400 * era + (100 * century + 4 * olympiad + year : ℕ)) / 4 =
        100 * era + 25 * century + olympiad := by omega
    have hhundred : (400 * era + (100 * century + 4 * olympiad + year : ℕ)) / 100 = 4 * era + century := by
      omega
    have hera : (400 * era + (100 * century + 4 * olympiad + year : ℕ)) / 400 = era := by omega
    unfold daysBefore
    rw [hfour, hhundred, hera]
    omega
  · intro hleap
    simp only [isLeapYear, Bool.and_eq_true, Bool.or_eq_true, decide_eq_true_eq]
    omega

/-- The month and the day of a day of a year that starts in March. -/
def monthOfDay (day : ℕ) : ℕ × ℕ :=
  let month := (5 * day + 2) / 153
  (if month < 10 then month + 3 else month - 9, day - (153 * month + 2) / 5 + 1)

theorem monthOfDay_spec {day : ℕ} (h : day ≤ 365) :
    1 ≤ (monthOfDay day).1 ∧ (monthOfDay day).1 ≤ 12 ∧ 1 ≤ (monthOfDay day).2 ∧
      (153 * (((monthOfDay day).1 + 9) % 12) + 2) / 5 + (monthOfDay day).2 - 1 = day ∧
      (monthOfDay day).2 ≤ daysInMonth 4 (monthOfDay day).1 ∧
      ((monthOfDay day).1 = 2 → (monthOfDay day).2 = 29 → day = 365) ∧
      ((monthOfDay day).1 ≤ 2 ↔ 306 ≤ day) := by
  have hall : ∀ day ≤ 365, 1 ≤ (monthOfDay day).1 ∧ (monthOfDay day).1 ≤ 12 ∧ 1 ≤ (monthOfDay day).2 ∧
      (153 * (((monthOfDay day).1 + 9) % 12) + 2) / 5 + (monthOfDay day).2 - 1 = day ∧
      (monthOfDay day).2 ≤ daysInMonth 4 (monthOfDay day).1 ∧
      ((monthOfDay day).1 = 2 → (monthOfDay day).2 = 29 → day = 365) ∧
      ((monthOfDay day).1 ≤ 2 ↔ 306 ≤ day) := by decide +kernel
  exact hall day h

/-- A day before 29 February is in every year. -/
theorem le_daysInMonth {year : ℤ} {month day : ℕ} (h : day ≤ daysInMonth 4 month)
    (hleap : month = 2 → day = 29 → isLeapYear year = true) : day ≤ daysInMonth year month := by
  have hfour : isLeapYear 4 = true := by decide
  unfold daysInMonth at h ⊢
  rw [hfour] at h
  by_cases hmonth : month = 2
  · rw [if_pos hmonth, if_pos rfl] at h
    rw [if_pos hmonth]
    by_cases hyear : isLeapYear year = true
    · rw [if_pos hyear]
      exact h
    · have hne : day ≠ 29 := fun hday => hyear (hleap hmonth hday)
      rw [if_neg hyear]
      omega
  · rw [if_neg hmonth] at h ⊢
    exact h

/-- The year, the month and the day of a day. -/
def ofUnixDays (days : ℤ) : ℤ × ℕ × ℕ :=
  let year := yearOfDay (days + 719468)
  let month := monthOfDay year.2
  (if month.1 ≤ 2 then year.1 + 1 else year.1, month)

/-- The first and the last instant. -/
def first : OffsetDateTime := ⟨-9999, 1, 1, 0, 0, 0, 0, by decide⟩

def last : OffsetDateTime := ⟨9999, 12, 31, 23, 59, 59, 999999999, by decide⟩

theorem ofUnixDays_spec {days : ℤ} (h : first.unixDays ≤ days) (h' : days ≤ last.unixDays) :
    -9999 ≤ (ofUnixDays days).1 ∧ (ofUnixDays days).1 ≤ 9999 ∧ 1 ≤ (ofUnixDays days).2.1 ∧
      (ofUnixDays days).2.1 ≤ 12 ∧ 1 ≤ (ofUnixDays days).2.2 ∧
      (ofUnixDays days).2.2 ≤ daysInMonth (ofUnixDays days).1 (ofUnixDays days).2.1 := by
  obtain ⟨hday, hle, hleap⟩ := yearOfDay_spec (days + 719468)
  obtain ⟨hmonth, hmonth', hone, hsum, hlength, hfeb, hnext⟩ := monthOfDay_spec hle
  have hfirst : first.unixDays + 719468 = daysBefore (-10000) + 306 := by decide
  have hlast : last.unixDays + 719468 = daysBefore 9999 + 305 := by decide
  unfold ofUnixDays
  dsimp only
  generalize yearOfDay (days + 719468) = year at *
  obtain ⟨marchYear, dayOfYear⟩ := year
  dsimp only at *
  have hlow : -10000 ≤ marchYear := by
    by_contra hlt
    have hmono : daysBefore marchYear ≤ daysBefore (-10001) := daysBefore_mono (by omega)
    have hgap : daysBefore (-10001) + 365 < daysBefore (-10000) + 306 := by decide
    omega
  have hhigh : marchYear ≤ 9999 := by
    by_contra hlt
    have hmono : daysBefore 10000 ≤ daysBefore marchYear := daysBefore_mono (by omega)
    have hgap : daysBefore 9999 + 305 < daysBefore 10000 := by decide
    omega
  refine ⟨?_, ?_, hmonth, hmonth', hone, ?_⟩
  · split_ifs with hm
    · omega
    · by_contra hlt
      have hyear : marchYear = -10000 := by omega
      rw [hyear] at hday
      omega
  · split_ifs with hm
    · by_contra hlt
      have hyear : marchYear = 9999 := by omega
      rw [hyear] at hday
      omega
    · exact hhigh
  · refine le_daysInMonth hlength fun hm hd => ?_
    rw [if_pos (by omega)]
    exact hleap (hfeb hm hd)

/-- The instant of a number of nanoseconds, where there is one. -/
def ofUnixNanos (nanos : ℤ) : Option OffsetDateTime :=
  let date := ofUnixDays (nanos / 86400000000000)
  let rest := (nanos % 86400000000000).toNat
  let seconds := rest / 1000000000
  if h : first.unixDays ≤ nanos / 86400000000000 ∧ nanos / 86400000000000 ≤ last.unixDays then
    some ⟨date.1, date.2.1, date.2.2, seconds / 3600, seconds / 60 % 60, seconds % 60, rest % 1000000000, by
      obtain ⟨hyear, hyear', hmonth, hmonth', hday, hday'⟩ := ofUnixDays_spec h.1 h.2
      have hrest : rest < 86400000000000 := by
        have hmod := Int.emod_lt_of_pos nanos (show (0 : ℤ) < 86400000000000 by decide)
        have hnonneg := Int.emod_nonneg nanos (show (86400000000000 : ℤ) ≠ 0 by decide)
        omega
      refine ⟨hyear, hyear', hmonth, hmonth', hday, hday', ?_, ?_, ?_, ?_⟩
      all_goals omega⟩
  else none

theorem unixDays_ofUnixDays {t : OffsetDateTime} {days : ℤ} (h : (t.year, t.month, t.day) = ofUnixDays days) :
    t.unixDays = days := by
  obtain ⟨hday, hle, -⟩ := yearOfDay_spec (days + 719468)
  obtain ⟨-, -, -, hsum, -, -, -⟩ := monthOfDay_spec hle
  obtain ⟨hyear, hmonth⟩ := Prod.mk.inj h
  have hmonth1 : t.month = (monthOfDay (yearOfDay (days + 719468)).2).1 := congrArg Prod.fst hmonth
  have hmonth2 : t.day = (monthOfDay (yearOfDay (days + 719468)).2).2 := congrArg Prod.snd hmonth
  have hmarch : t.marchYear = (yearOfDay (days + 719468)).1 := by
    unfold marchYear
    rw [hyear, hmonth1]
    split_ifs <;> omega
  have hfrom : t.dayFromMarch = (yearOfDay (days + 719468)).2 := by
    unfold dayFromMarch monthFromMarch
    rw [hmonth1, hmonth2]
    exact hsum
  rw [unixDays_eq, hmarch, hfrom, hday]
  omega

theorem unixNanos_of_ofUnixNanos {nanos : ℤ} {t : OffsetDateTime} (h : ofUnixNanos nanos = some t) :
    t.unixNanos = nanos := by
  unfold ofUnixNanos at h
  dsimp only at h
  split_ifs at h with hrange
  obtain rfl := Option.some.inj h
  rw [unixNanos_eq, unixSeconds]
  dsimp only
  rw [unixDays_ofUnixDays rfl]
  have hmod := Int.emod_lt_of_pos nanos (show (0 : ℤ) < 86400000000000 by decide)
  have hnonneg := Int.emod_nonneg nanos (show (86400000000000 : ℤ) ≠ 0 by decide)
  have hsplit := Int.mul_ediv_add_emod nanos 86400000000000
  obtain ⟨rest, hrest⟩ : ∃ rest, rest = (nanos % 86400000000000).toNat := ⟨_, rfl⟩
  rw [← hrest]
  have hseconds : (rest / 1000000000 / 3600 * 60 + rest / 1000000000 / 60 % 60) * 60 +
      rest / 1000000000 % 60 = rest / 1000000000 := by omega
  rw [hseconds]
  omega

/-- No instant lies outside. -/
theorem unixNanos_bounds (t : OffsetDateTime) :
    first.unixNanos ≤ t.unixNanos ∧ t.unixNanos ≤ last.unixNanos := by
  have hvalid := t.valid
  have hlength : daysInMonth t.year t.month ≤ 31 := by
    unfold daysInMonth
    split_ifs <;> decide
  have hlow : first.unixSeconds ≤ t.unixSeconds := by
    refine not_lt.mp fun hlt => ?_
    have hbefore := unixSeconds_lt_iff.mp hlt
    unfold SecondBefore first at hbefore
    dsimp only at hbefore
    omega
  have hhigh : t.unixSeconds ≤ last.unixSeconds := by
    refine not_lt.mp fun hlt => ?_
    have hbefore := unixSeconds_lt_iff.mp hlt
    unfold SecondBefore last at hbefore
    dsimp only at hbefore
    omega
  have hfirst : first.nanosecond = 0 := rfl
  have hlast : last.nanosecond = 999999999 := rfl
  rw [unixNanos_eq, unixNanos_eq, unixNanos_eq, hfirst, hlast]
  omega

theorem exists_ofUnixNanos {nanos : ℤ} (hlow : first.unixNanos ≤ nanos) (hhigh : nanos ≤ last.unixNanos) :
    ∃ t, ofUnixNanos nanos = some t := by
  have hfirst : first.unixNanos = first.unixDays * 86400000000000 := by decide
  have hlast : last.unixNanos = last.unixDays * 86400000000000 + 86399999999999 := by decide
  have hrange : first.unixDays ≤ nanos / 86400000000000 ∧ nanos / 86400000000000 ≤ last.unixDays := by
    omega
  exact ⟨_, dif_pos hrange⟩

/-- The numbers of nanoseconds of instants. -/
theorem exists_unixNanos_eq_iff (nanos : ℤ) :
    (∃ t : OffsetDateTime, t.unixNanos = nanos) ↔ first.unixNanos ≤ nanos ∧ nanos ≤ last.unixNanos := by
  constructor
  · rintro ⟨t, rfl⟩
    exact t.unixNanos_bounds
  · rintro ⟨hlow, hhigh⟩
    obtain ⟨t, ht⟩ := exists_ofUnixNanos hlow hhigh
    exact ⟨t, unixNanos_of_ofUnixNanos ht⟩

end KidProxy.OffsetDateTime
