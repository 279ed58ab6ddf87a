import KidProxy.Lib.Lex
import KidProxy.Time
import Mathlib.Tactic.IntervalCases

/-!
# TimeOrder — printed instants compared with the instants

The date and the time of day are printed with fixed widths, so they sort like the instants
(`secondsText_lt_iff`).  The fraction is not: its trailing zeros are left out and `Z` is greater than any
digit and than the point, so that an instant whose printed fraction starts that of a later one of the same
second sorts after it (`text_lt_iff`).
-/

namespace KidProxy

namespace OffsetDateTime

variable {t u : OffsetDateTime}

/-! ### Instants by their fields -/

/-- The year that starts in March. -/
def marchYear (t : OffsetDateTime) : ℤ := if t.month ≤ 2 then t.year - 1 else t.year

def monthFromMarch (t : OffsetDateTime) : ℕ := (t.month + 9) % 12

/-- The day in the year that starts in March. -/
def dayFromMarch (t : OffsetDateTime) : ℕ := (153 * t.monthFromMarch + 2) / 5 + t.day - 1

/-- The days before 1 March of the year. -/
def daysBefore (year : ℤ) : ℤ := 365 * year + year / 4 - year / 100 + year / 400

theorem unixDays_eq (t : OffsetDateTime) :
    t.unixDays = daysBefore t.marchYear + t.dayFromMarch - 719468 := by
  show (t.marchYear.fdiv 400) * 146097 + (t.marchYear - (t.marchYear.fdiv 400) * 400) * 365 +
    (t.marchYear - (t.marchYear.fdiv 400) * 400) / 4 - (t.marchYear - (t.marchYear.fdiv 400) * 400) / 100 +
    (t.dayFromMarch : ℤ) - 719468 = _
  rw [Int.fdiv_eq_ediv_of_nonneg _ (by decide)]
  unfold daysBefore
  omega

/-- No month is longer than the distance to the next one. -/
theorem dayFromMarch_lt_month (h : t.monthFromMarch ≤ 10) :
    t.dayFromMarch < (153 * (t.monthFromMarch + 1) + 2) / 5 := by
  obtain ⟨-, -, hlow, hhigh, hday, hlen, -⟩ := t.valid
  have hne : t.month ≠ 2 := fun heq => by
    rw [monthFromMarch, heq] at h
    omega
  unfold daysInMonth at hlen
  rw [if_neg hne] at hlen
  unfold dayFromMarch
  unfold monthFromMarch at h ⊢
  generalize t.month = month at *
  interval_cases month
  all_goals simp at hlen h ⊢
  all_goals omega

/-- No year is longer than the distance to the next one; its last month is February. -/
theorem dayFromMarch_lt_year (t : OffsetDateTime) :
    daysBefore t.marchYear + t.dayFromMarch < daysBefore (t.marchYear + 1) := by
  by_cases hm : t.monthFromMarch ≤ 10
  · have hlt := dayFromMarch_lt_month hm
    have hoffset : (153 * (t.monthFromMarch + 1) + 2) / 5 ≤ 337 := by omega
    unfold daysBefore
    omega
  · obtain ⟨-, -, hlow, hhigh, hday, hlen, -⟩ := t.valid
    have hmonth : t.month = 2 := by
      unfold monthFromMarch at hm
      omega
    have hmarch : t.monthFromMarch = 11 := by rw [monthFromMarch, hmonth]
    have hyear : t.marchYear + 1 = t.year := by
      rw [marchYear, if_pos (by omega)]
      omega
    unfold daysInMonth at hlen
    rw [if_pos hmonth] at hlen
    unfold dayFromMarch
    rw [hmarch, hyear]
    have hbefore : t.marchYear = t.year - 1 := by omega
    rw [hbefore]
    unfold daysBefore
    by_cases hleap : isLeapYear t.year = true
    · rw [if_pos hleap] at hlen
      simp only [isLeapYear, Bool.and_eq_true, Bool.or_eq_true, decide_eq_true_eq] at hleap
      omega
    · rw [if_neg hleap] at hlen
      omega

theorem daysBefore_mono {x y : ℤ} (h : x ≤ y) : daysBefore x ≤ daysBefore y := by
  unfold daysBefore
  omega

/-- The date of `t` is before that of `u`. -/
def DateBefore (t u : OffsetDateTime) : Prop :=
  t.year < u.year ∨ t.year = u.year ∧ (t.month < u.month ∨ t.month = u.month ∧ t.day < u.day)

theorem unixDays_lt (h : DateBefore t u) : t.unixDays < u.unixDays := by
  have htv := t.valid
  have huv := u.valid
  have ht : 12 * t.marchYear + t.monthFromMarch = 12 * t.year + t.month - 3 := by
    unfold marchYear monthFromMarch
    split_ifs <;> omega
  have hu : 12 * u.marchYear + u.monthFromMarch = 12 * u.year + u.month - 3 := by
    unfold marchYear monthFromMarch
    split_ifs <;> omega
  have htm : t.monthFromMarch < 12 := Nat.mod_lt _ (by decide)
  have hum : u.monthFromMarch < 12 := Nat.mod_lt _ (by decide)
  rw [unixDays_eq, unixDays_eq]
  unfold DateBefore at h
  rcases lt_trichotomy t.marchYear u.marchYear with hlt | heq | hgt
  · have hyear := t.dayFromMarch_lt_year
    have hmono : daysBefore (t.marchYear + 1) ≤ daysBefore u.marchYear := daysBefore_mono hlt
    omega
  · rw [heq]
    by_cases hmonth : t.monthFromMarch < u.monthFromMarch
    · have hnext := dayFromMarch_lt_month (t := t) (by omega)
      have hfirst : (153 * u.monthFromMarch + 2) / 5 ≤ u.dayFromMarch := by
        unfold dayFromMarch
        omega
      omega
    · have hsame : t.monthFromMarch = u.monthFromMarch := by omega
      unfold dayFromMarch
      rw [hsame]
      omega
  · omega

/-- Whole seconds since 1970. -/
def unixSeconds (t : OffsetDateTime) : ℤ :=
  t.unixDays * 86400 + ((t.hour * 60 + t.minute) * 60 + t.second : ℕ)

theorem unixNanos_eq (t : OffsetDateTime) : t.unixNanos = t.unixSeconds * 1000000000 + t.nanosecond := by
  unfold unixNanos unixSeconds
  push_cast
  ring

/-- The whole second of `t` is before that of `u`, field by field. -/
def SecondBefore (t u : OffsetDateTime) : Prop :=
  t.year < u.year ∨ t.year = u.year ∧ (t.month < u.month ∨ t.month = u.month ∧ (t.day < u.day ∨
    t.day = u.day ∧ (t.hour < u.hour ∨ t.hour = u.hour ∧ (t.minute < u.minute ∨
      t.minute = u.minute ∧ t.second < u.second))))

theorem unixSeconds_lt (h : SecondBefore t u) : t.unixSeconds < u.unixSeconds := by
  obtain ⟨-, -, -, -, -, -, hth, htm, hts, -⟩ := t.valid
  obtain ⟨-, -, -, -, -, -, huh, hum, hus, -⟩ := u.valid
  unfold unixSeconds
  by_cases hdate : DateBefore t u
  · have hdays := unixDays_lt hdate
    omega
  · unfold SecondBefore at h
    unfold DateBefore at hdate
    have hy : t.year = u.year := by omega
    have hm : t.month = u.month := by omega
    have hd : t.day = u.day := by omega
    have hdays : t.unixDays = u.unixDays := by
      rw [unixDays_eq, unixDays_eq]
      unfold marchYear dayFromMarch monthFromMarch
      rw [hy, hm, hd]
    omega

/-- Two instants are in the same second or one second is before the other. -/
theorem secondBefore_cases (t u : OffsetDateTime) : SecondBefore t u ∨ SecondBefore u t ∨
    (t.year = u.year ∧ t.month = u.month ∧ t.day = u.day ∧ t.hour = u.hour ∧ t.minute = u.minute ∧
      t.second = u.second) := by
  unfold SecondBefore
  omega

theorem unixSeconds_lt_iff : t.unixSeconds < u.unixSeconds ↔ SecondBefore t u := by
  refine ⟨fun h => ?_, unixSeconds_lt⟩
  rcases secondBefore_cases t u with hlt | hgt | ⟨hy, hmo, hd, hh, hmi, hs⟩
  · exact hlt
  · have := unixSeconds_lt hgt
    omega
  · have heq : t.unixSeconds = u.unixSeconds := by
      unfold unixSeconds
      rw [unixDays_eq, unixDays_eq]
      unfold marchYear dayFromMarch monthFromMarch
      rw [hy, hmo, hd, hh, hmi, hs]
    omega

/-! ### The printed text -/

/-- The date and the time of day, up to the second. -/
def secondsText (t : OffsetDateTime) : List Char :=
  padded 4 t.year.toNat ++ '-' :: padded 2 t.month ++ '-' :: padded 2 t.day ++
    'T' :: padded 2 t.hour ++ ':' :: padded 2 t.minute ++ ':' :: padded 2 t.second

/-- What `format(&Rfc3339)` prints of a year that it can print. -/
def text (t : OffsetDateTime) : List Char := t.secondsText ++ (fraction t.nanosecond ++ ['Z'])

theorem formatRfc3339_eq_some {s : String} :
    t.formatRfc3339 = some s ↔ 0 ≤ t.year ∧ s = String.ofList t.text := by
  have htext : t.text = padded 4 t.year.toNat ++ '-' :: padded 2 t.month ++ '-' :: padded 2 t.day ++
      'T' :: padded 2 t.hour ++ ':' :: padded 2 t.minute ++ ':' :: padded 2 t.second ++
      fraction t.nanosecond ++ ['Z'] := by
    unfold text secondsText
    simp only [List.append_assoc]
  unfold formatRfc3339
  split_ifs with h
  · rw [Option.some.injEq, htext]
    exact ⟨fun heq => ⟨h, heq.symm⟩, fun heq => heq.2.symm⟩
  · exact ⟨fun heq => (by cases heq), fun heq => absurd heq.1 h⟩

theorem length_padded {width n : ℕ} (hw : width ≠ 0) (h : n < 10 ^ width) :
    (padded width n).length = width := Lex.length_decimal hw h

/-- A field of fixed width decides, or what follows it does. -/
theorem padded_append_lt_iff {width m n : ℕ} (hw : width ≠ 0) (hm : m < 10 ^ width)
    (hn : n < 10 ^ width) (as bs : List Char) :
    padded width m ++ as < padded width n ++ bs ↔ m < n ∨ m = n ∧ as < bs := by
  obtain ⟨hlt, heq⟩ := Lex.decimal_lt_iff hw hm hn
  have hlen : (Lex.decimal width m).length = (Lex.decimal width n).length := by
    rw [Lex.length_decimal hw hm, Lex.length_decimal hw hn]
  show Lex.decimal width m ++ as < Lex.decimal width n ++ bs ↔ _
  rw [Lex.append_lt_append_iff hlen, hlt, heq]

/-- The bounds of the printed fields. -/
theorem field_bounds (t : OffsetDateTime) : t.year.toNat < 10 ^ 4 ∧ t.month < 10 ^ 2 ∧ t.day < 10 ^ 2 ∧
    t.hour < 10 ^ 2 ∧ t.minute < 10 ^ 2 ∧ t.second < 10 ^ 2 := by
  obtain ⟨hlow, hhigh, hmlow, hmhigh, hdlow, hdhigh, hh, hmi, hs, -⟩ := t.valid
  have hday : daysInMonth t.year t.month ≤ 31 := by
    unfold daysInMonth
    split_ifs <;> omega
  omega

theorem length_secondsText (t : OffsetDateTime) : t.secondsText.length = 19 := by
  obtain ⟨hy, hmo, hd, hh, hmi, hs⟩ := t.field_bounds
  unfold secondsText
  simp only [List.length_append, List.length_cons, length_padded (by decide) hy,
    length_padded (by decide) hmo, length_padded (by decide) hd, length_padded (by decide) hh,
    length_padded (by decide) hmi, length_padded (by decide) hs]

/-- **Whole seconds sort like their texts.** -/
theorem secondsText_lt_iff (ht : 0 ≤ t.year) (hu : 0 ≤ u.year) :
    t.secondsText < u.secondsText ↔ t.unixSeconds < u.unixSeconds := by
  obtain ⟨hty, htmo, htd, hth, htmi, hts⟩ := t.field_bounds
  obtain ⟨huy, humo, hud, huh, humi, hus⟩ := u.field_bounds
  have hlast := (Lex.decimal_lt_iff (by decide) hts hus).1
  have hsecond : padded 2 t.second < padded 2 u.second ↔ t.second < u.second := hlast
  unfold secondsText
  simp only [List.append_assoc, List.cons_append]
  rw [padded_append_lt_iff (by decide) hty huy, Lex.cons_lt_cons_same_iff,
    padded_append_lt_iff (by decide) htmo humo, Lex.cons_lt_cons_same_iff,
    padded_append_lt_iff (by decide) htd hud, Lex.cons_lt_cons_same_iff,
    padded_append_lt_iff (by decide) hth huh, Lex.cons_lt_cons_same_iff,
    padded_append_lt_iff (by decide) htmi humi, Lex.cons_lt_cons_same_iff, hsecond,
    unixSeconds_lt_iff]
  unfold SecondBefore
  omega

theorem secondsText_eq_iff (ht : 0 ≤ t.year) (hu : 0 ≤ u.year) :
    t.secondsText = u.secondsText ↔ t.unixSeconds = u.unixSeconds := by
  constructor
  · intro heq
    have hlt := (secondsText_lt_iff ht hu).not
    have hgt := (secondsText_lt_iff hu ht).not
    rw [heq] at hlt hgt
    have h₁ := hlt.mp (List.lt_irrefl _)
    have h₂ := hgt.mp (List.lt_irrefl _)
    omega
  · intro heq
    rcases secondBefore_cases t u with hlt | hgt | ⟨hy, hmo, hd, hh, hmi, hs⟩
    · have := unixSeconds_lt hlt
      omega
    · have := unixSeconds_lt hgt
      omega
    · unfold secondsText
      rw [hy, hmo, hd, hh, hmi, hs]

/-! ### The fraction -/

theorem fraction_pos {n : ℕ} (h : n ≠ 0) : fraction n = '.' :: (padded 9 n).rdropWhile (· = '0') :=
  if_neg h

/-- A greater fraction prints a greater text. -/
theorem fraction_lt {m n : ℕ} (h : m < n) (hn : n < 10 ^ 9) : fraction m < fraction n := by
  have hm : m < 10 ^ 9 := Nat.lt_trans h hn
  rw [fraction_pos (n := n) (by omega)]
  by_cases hzero : m = 0
  · rw [hzero]
    exact List.nil_lt_cons _ _
  · rw [fraction_pos hzero, Lex.cons_lt_cons_same_iff]
    have hdigits : ∀ c ∈ padded 9 m, '0' ≤ c := fun c hc =>
      (Char.isDigit_iff_toNat.mp (Lex.isDigit_of_mem_decimal hc)).1
    refine Lex.rdropWhile_lt hdigits ?_ ((Lex.decimal_lt_iff (by decide) hm hn).1.mpr h)
    rw [length_padded (by decide) hm, length_padded (by decide) hn]

/-- The point and the digits are less than `Z`. -/
theorem lt_of_mem_fraction {n : ℕ} {c : Char} (h : c ∈ fraction n) : c < 'Z' := by
  by_cases hzero : n = 0
  · rw [hzero] at h
    exact absurd h List.not_mem_nil
  · rw [fraction_pos hzero] at h
    rcases List.mem_cons.mp h with rfl | hdigit
    · decide
    · have hmem : c ∈ padded 9 n := List.IsPrefix.subset (List.rdropWhile_prefix _ _) hdigit
      have hnine : c ≤ '9' := (Char.isDigit_iff_toNat.mp (Lex.isDigit_of_mem_decimal hmem)).2
      exact lt_of_le_of_lt hnine (by decide)

/-- The text is ASCII. -/
theorem le_of_mem_text {c : Char} (h : c ∈ t.text) : c ≤ 'Z' := by
  have hdigit : ∀ {width n : ℕ} {c : Char}, c ∈ padded width n → c ≤ 'Z' := by
    intro width n c hc
    have hnine : c ≤ '9' := (Char.isDigit_iff_toNat.mp (Lex.isDigit_of_mem_decimal hc)).2
    exact le_trans hnine (by decide)
  unfold text secondsText at h
  simp only [List.append_assoc, List.cons_append, List.mem_append, List.mem_cons,
    List.not_mem_nil, or_false] at h
  rcases h with h | rfl | h | rfl | h | rfl | h | rfl | h | rfl | h | h | rfl
  · exact hdigit h
  · decide
  · exact hdigit h
  · decide
  · exact hdigit h
  · decide
  · exact hdigit h
  · decide
  · exact hdigit h
  · decide
  · exact hdigit h
  · exact le_of_lt (lt_of_mem_fraction h)
  · exact le_refl _

/-- The two instants are in the same second, and the printed fraction of the first, earlier one starts
that of the second. -/
def Swapped (t u : OffsetDateTime) : Prop :=
  t.unixNanos < u.unixNanos ∧ t.unixSeconds = u.unixSeconds ∧
    fraction t.nanosecond <+: fraction u.nanosecond

/-- **Printed instants sort like the instants, except where they are swapped.** -/
theorem text_lt_iff (ht : 0 ≤ t.year) (hu : 0 ≤ u.year) (h : t.unixNanos < u.unixNanos) :
    t.text < u.text ↔ ¬ Swapped t u := by
  have hlen : t.secondsText.length = u.secondsText.length := by
    rw [length_secondsText, length_secondsText]
  have htn : t.nanosecond < 10 ^ 9 := t.valid.2.2.2.2.2.2.2.2.2
  have hun : u.nanosecond < 10 ^ 9 := u.valid.2.2.2.2.2.2.2.2.2
  unfold text
  rw [Lex.append_lt_append_iff hlen, secondsText_lt_iff ht hu, secondsText_eq_iff ht hu]
  have horder := h
  rw [unixNanos_eq, unixNanos_eq] at horder
  by_cases hsame : t.unixSeconds = u.unixSeconds
  · have hfraction : fraction t.nanosecond < fraction u.nanosecond := fraction_lt (by omega) hun
    rw [Lex.append_top_lt_iff (fun c hc => lt_of_mem_fraction hc) hfraction]
    simp [Swapped, hsame, h]
  · have hlt : t.unixSeconds < u.unixSeconds := by omega
    simp [Swapped, hsame, hlt]

/-- Different instants print different texts. -/
theorem unixNanos_eq_of_text (ht : 0 ≤ t.year) (hu : 0 ≤ u.year) (h : t.text = u.text) :
    t.unixNanos = u.unixNanos := by
  have hlen : t.secondsText.length = u.secondsText.length := by
    rw [length_secondsText, length_secondsText]
  have htn : t.nanosecond < 10 ^ 9 := t.valid.2.2.2.2.2.2.2.2.2
  have hun : u.nanosecond < 10 ^ 9 := u.valid.2.2.2.2.2.2.2.2.2
  obtain ⟨hseconds, htail⟩ := List.append_inj h hlen
  have hfraction := List.append_cancel_right htail
  have hsame := (secondsText_eq_iff ht hu).mp hseconds
  have hnanos : t.nanosecond = u.nanosecond := by
    rcases lt_trichotomy t.nanosecond u.nanosecond with hlt | heq | hgt
    · exact absurd (hfraction ▸ fraction_lt hlt hun) (List.lt_irrefl _)
    · exact heq
    · exact absurd (hfraction ▸ fraction_lt hgt htn) (List.lt_irrefl _)
  rw [unixNanos_eq, unixNanos_eq, hsame, hnanos]

end OffsetDateTime

end KidProxy
