import KidProxy.Results
import Mathlib.Data.List.Infix

/-!
# PathFilter — the "Path contains" field of the results

The text of the field becomes a `LIKE` pattern as it stands, so its `%` and `_` are wildcards and its
ASCII letters match in both cases.
-/

namespace KidProxy

namespace Sql

/-! ### What `LIKE` matches -/

/-- The text is the pattern but for wildcards and the case of ASCII letters. -/
inductive Resembles : List Char → List Char → Prop
  | nil : Resembles [] []
  | many {pattern text : List Char} (skipped : List Char) :
      Resembles pattern text → Resembles ('%' :: pattern) (skipped ++ text)
  | one {pattern text : List Char} (d : Char) :
      Resembles pattern text → Resembles ('_' :: pattern) (d :: text)
  | same {c d : Char} {pattern text : List Char} :
      c ≠ '%' → c ≠ '_' → c.toLower = d.toLower → Resembles pattern text →
      Resembles (c :: pattern) (d :: text)

theorem like_nil (text : List Char) : like [] text = true ↔ text = [] := by
  unfold like
  exact List.isEmpty_iff

theorem like_many (pattern text : List Char) :
    like ('%' :: pattern) text = true ↔
      ∃ skipped rest, text = skipped ++ rest ∧ like pattern rest = true := by
  rw [like, List.any_eq_true]
  constructor
  · rintro ⟨rest, hrest, hlike⟩
    obtain ⟨skipped, hskipped⟩ := (List.mem_tails _ _).mp hrest
    exact ⟨skipped, rest, hskipped.symm, hlike⟩
  · rintro ⟨skipped, rest, rfl, hlike⟩
    exact ⟨rest, (List.mem_tails _ _).mpr (List.suffix_append _ _), hlike⟩

theorem like_one (pattern text : List Char) :
    like ('_' :: pattern) text = true ↔ ∃ d rest, text = d :: rest ∧ like pattern rest = true := by
  cases text with
  | nil =>
    rw [like.eq_3]
    exact iff_of_false (fun h => nomatch h) fun ⟨_, _, h, _⟩ => nomatch h
  | cons d rest =>
    rw [like.eq_4]
    refine ⟨fun h => ⟨d, rest, rfl, h⟩, ?_⟩
    rintro ⟨_, _, heq, h⟩
    obtain ⟨rfl, rfl⟩ := List.cons.inj heq
    exact h

theorem like_cons {c : Char} (hmany : c ≠ '%') (hone : c ≠ '_') (pattern text : List Char) :
    like (c :: pattern) text = true ↔
      ∃ d rest, text = d :: rest ∧ c.toLower = d.toLower ∧ like pattern rest = true := by
  cases text with
  | nil =>
    rw [like.eq_5 c pattern hmany hone]
    exact iff_of_false (fun h => nomatch h) fun ⟨_, _, h, _⟩ => nomatch h
  | cons d rest =>
    rw [like.eq_6 c pattern d rest hmany hone, Bool.and_eq_true, decide_eq_true_iff]
    refine ⟨fun h => ⟨d, rest, rfl, h⟩, ?_⟩
    rintro ⟨_, _, heq, h⟩
    obtain ⟨rfl, rfl⟩ := List.cons.inj heq
    exact h

theorem like_iff_resembles (pattern text : List Char) :
    like pattern text = true ↔ Resembles pattern text := by
  induction pattern generalizing text with
  | nil =>
    rw [like_nil]
    constructor
    · rintro rfl
      exact .nil
    · intro h
      cases h
      rfl
  | cons c pattern ih =>
    by_cases hmany : c = '%'
    · rw [hmany, like_many]
      constructor
      · rintro ⟨skipped, rest, rfl, h⟩
        exact .many skipped ((ih rest).mp h)
      · intro h
        cases h with
        | many skipped h => exact ⟨skipped, _, rfl, (ih _).mpr h⟩
        | same hne => exact absurd rfl hne
    · by_cases hone : c = '_'
      · rw [hone, like_one]
        constructor
        · rintro ⟨d, rest, rfl, h⟩
          exact .one d ((ih rest).mp h)
        · intro h
          cases h with
          | one d h => exact ⟨d, _, rfl, (ih _).mpr h⟩
          | same _ hne => exact absurd rfl hne
      · rw [like_cons hmany hone]
        constructor
        · rintro ⟨d, rest, rfl, hsame, h⟩
          exact .same hmany hone hsame ((ih rest).mp h)
        · intro h
          cases h with
          | many => exact absurd rfl hmany
          | one => exact absurd rfl hone
          | same _ _ hsame h => exact ⟨_, _, rfl, hsame, (ih _).mpr h⟩

theorem resembles_append_many {pattern text : List Char} :
    Resembles (pattern ++ ['%']) text ↔ ∃ part rest, text = part ++ rest ∧ Resembles pattern part := by
  constructor
  · intro h
    generalize hwhole : pattern ++ ['%'] = whole at h
    induction h generalizing pattern with
    | nil => exact absurd hwhole (List.append_ne_nil_of_right_ne_nil _ (List.cons_ne_nil _ _))
    | @many whole text skipped h ih =>
      cases pattern with
      | nil => exact ⟨[], skipped ++ text, rfl, .nil⟩
      | cons c pattern =>
        obtain ⟨rfl, hrest⟩ := List.cons.inj hwhole
        obtain ⟨part, rest, rfl, hpart⟩ := ih hrest
        exact ⟨skipped ++ part, rest, (List.append_assoc _ _ _).symm, .many skipped hpart⟩
    | @one whole text d h ih =>
      cases pattern with
      | nil => exact absurd (List.cons.inj hwhole).1 (by decide)
      | cons c pattern =>
        obtain ⟨rfl, hrest⟩ := List.cons.inj hwhole
        obtain ⟨part, rest, rfl, hpart⟩ := ih hrest
        exact ⟨d :: part, rest, rfl, .one d hpart⟩
    | @same c d whole text hmany hone hsame h ih =>
      cases pattern with
      | nil => exact absurd (List.cons.inj hwhole).1.symm hmany
      | cons c pattern =>
        obtain ⟨rfl, hrest⟩ := List.cons.inj hwhole
        obtain ⟨part, rest, rfl, hpart⟩ := ih hrest
        exact ⟨d :: part, rest, rfl, .same hmany hone hsame hpart⟩
  · rintro ⟨part, rest, rfl, h⟩
    induction h with
    | nil =>
      have hend : Resembles ['%'] (rest ++ []) := .many rest .nil
      rw [List.append_nil] at hend
      exact hend
    | many skipped h ih =>
      rw [List.append_assoc]
      exact .many skipped ih
    | one d h ih => exact .one d ih
    | same hmany hone hsame h ih => exact .same hmany hone hsame ih

/-- `contains` looks for a part that resembles the text. -/
theorem contains_iff (text substring : String) :
    contains text substring = true ↔ ∃ part, part <:+: text.toList ∧ Resembles substring.toList part := by
  unfold contains
  rw [List.cons_append, like_many]
  constructor
  · rintro ⟨skipped, rest, htext, hlike⟩
    obtain ⟨part, rest, rfl, hpart⟩ := resembles_append_many.mp ((like_iff_resembles _ _).mp hlike)
    exact ⟨part, ⟨skipped, rest, by rw [htext, List.append_assoc]⟩, hpart⟩
  · rintro ⟨part, ⟨skipped, rest, htext⟩, hpart⟩
    refine ⟨skipped, part ++ rest, by rw [← htext, List.append_assoc], ?_⟩
    exact (like_iff_resembles _ _).mpr (resembles_append_many.mpr ⟨part, rest, rfl, hpart⟩)

theorem Resembles.refl (cs : List Char) : Resembles cs cs := by
  induction cs with
  | nil => exact .nil
  | cons c cs ih =>
    by_cases hmany : c = '%'
    · rw [hmany]
      exact .many ['%'] ih
    · by_cases hone : c = '_'
      · rw [hone]
        exact .one '_' ih
      · exact .same hmany hone rfl ih

/-- A text that is there is found. -/
theorem contains_of_infix {text substring : String} (h : substring.toList <:+: text.toList) :
    contains text substring = true :=
  (contains_iff text substring).mpr ⟨substring.toList, h, .refl _⟩

/-! ### Texts that stand for themselves -/

/-- Neither a wildcard nor a letter with two cases. -/
def IsPlain (c : Char) : Prop := c ≠ '%' ∧ c ≠ '_' ∧ ¬ c.isAlpha

instance (c : Char) : Decidable (IsPlain c) := inferInstanceAs (Decidable (_ ∧ _ ∧ _))

theorem eq_of_toLower_eq {c d : Char} (hc : ¬ c.isAlpha) (h : c.toLower = d.toLower) : c = d := by
  have hsame := congrArg Char.toNat h
  rw [Text.isAlpha_iff] at hc
  rw [Text.toNat_toLower, Text.toNat_toLower] at hsame
  refine Char.toNat_inj.mp ?_
  split_ifs at hsame <;> omega

theorem Resembles.eq {pattern text : List Char} (hplain : ∀ c ∈ pattern, IsPlain c)
    (h : Resembles pattern text) : pattern = text := by
  induction h with
  | nil => rfl
  | many => exact absurd rfl (hplain '%' List.mem_cons_self).1
  | one => exact absurd rfl (hplain '_' List.mem_cons_self).2.1
  | same _ _ hsame _ ih =>
    rw [eq_of_toLower_eq (hplain _ List.mem_cons_self).2.2 hsame,
      ih fun c hc => hplain c (List.mem_cons_of_mem _ hc)]

/-- The other case of a letter. -/
def flipCase (c : Char) : Char := if c.isUpper then c.toLower else c.toUpper

theorem toLower_flipCase (c : Char) : (flipCase c).toLower = c.toLower := by
  unfold flipCase
  split_ifs with hupper
  · exact Text.toLower_toLower c
  · refine Char.toNat_inj.mp ?_
    rw [Text.toNat_toLower, Text.toNat_toUpper, Text.toNat_toLower]
    split_ifs <;> omega

theorem flipCase_ne {c : Char} (h : c.isAlpha) : flipCase c ≠ c := by
  intro heq
  have hsame := congrArg Char.toNat heq
  rw [Text.isAlpha_iff] at h
  unfold flipCase at hsame
  split_ifs at hsame with hupper
  · rw [Text.isUpper_iff] at hupper
    rw [Text.toNat_toLower, if_pos hupper] at hsame
    omega
  · rw [Text.isUpper_iff] at hupper
    rw [Text.toNat_toUpper, if_pos (h.resolve_left hupper)] at hsame
    omega

/-- What matches a character but, where it is not plain, is another text. -/
def lookalike (c : Char) : List Char :=
  if c = '%' then [] else if c = '_' then ['-'] else [flipCase c]

theorem resembles_lookalike (pattern : List Char) : Resembles pattern (pattern.flatMap lookalike) := by
  induction pattern with
  | nil => exact .nil
  | cons c pattern ih =>
    rw [List.flatMap_cons]
    unfold lookalike
    split_ifs with hmany hone
    · rw [hmany]
      exact .many [] ih
    · rw [hone]
      exact .one '-' ih
    · exact .same hmany hone (toLower_flipCase c).symm ih

theorem length_lookalike (c : Char) : (lookalike c).length ≤ 1 := by
  unfold lookalike
  split_ifs
  · exact Nat.zero_le 1
  · exact le_refl 1
  · exact le_refl 1

theorem length_lookalike_le (pattern : List Char) :
    (pattern.flatMap lookalike).length ≤ pattern.length := by
  induction pattern with
  | nil => exact le_refl _
  | cons c pattern ih =>
    have hone := length_lookalike c
    rw [List.flatMap_cons, List.length_append, List.length_cons]
    omega

theorem isPlain_of_lookalike_eq {c : Char} (h : lookalike c = [c]) : IsPlain c := by
  unfold lookalike at h
  split_ifs at h with hmany hone
  · exact absurd (List.cons.inj h).1.symm (by rw [hone]; decide)
  · exact ⟨hmany, hone, fun halpha => flipCase_ne halpha (List.cons.inj h).1⟩

/-- A pattern that is its own lookalike is plain. -/
theorem isPlain_of_flatMap_lookalike {pattern : List Char} (h : pattern.flatMap lookalike = pattern) :
    ∀ c ∈ pattern, IsPlain c := by
  induction pattern with
  | nil => exact fun c hc => absurd hc List.not_mem_nil
  | cons c pattern ih =>
    rw [List.flatMap_cons] at h
    have hlength := congrArg List.length h
    have hrest := length_lookalike_le pattern
    rw [List.length_append, List.length_cons] at hlength
    -- the first character has a lookalike, or the rest would be longer than it is
    have hhead : (lookalike c).length = [c].length := by
      have hle : (lookalike c).length ≤ 1 := length_lookalike c
      rw [List.length_singleton]
      omega
    obtain ⟨hfirst, hpattern⟩ := List.append_inj h hhead
    exact List.forall_mem_cons.mpr ⟨isPlain_of_lookalike_eq hfirst, ih hpattern⟩

/-- Where the text is not plain, some text resembles it and does not contain it. -/
theorem exists_resembles_not_infix {pattern : List Char} (h : ¬ ∀ c ∈ pattern, IsPlain c) :
    ∃ text, Resembles pattern text ∧ ¬ pattern <:+: text := by
  refine ⟨pattern.flatMap lookalike, resembles_lookalike pattern, fun hoccurs => h ?_⟩
  exact isPlain_of_flatMap_lookalike (hoccurs.eq_of_length_le (length_lookalike_le pattern)).symm

end Sql

/-! ### The listing -/

deriving instance Inhabited for ActiveModel

/-- The path contains the text, character for character. -/
def PathContains (substring : String) (row : ActiveModel) : Prop :=
  substring.toList <:+: row.path.toList

instance (substring : String) : DecidablePred (PathContains substring) := fun row =>
  inferInstanceAs (Decidable (substring.toList <:+: row.path.toList))

/-- The query with this field filled in and no other filter. -/
def pathQuery (substring : String) (page perPage : Option ℕ) : EventListFilterQuery where
  method := none
  pathSubstring := some substring
  statusCode := none
  proxyResult := none
  sinceHours := none
  page := page
  perPage := perPage

section Listing

variable [HourArithmetic]

/-- Every page is cut from the rows whose path contains the text, and `total` is their number. -/
def ListsContaining (rows : List ActiveModel) (substring : String) : Prop :=
  ∀ number perPage env page,
    listEvents rows (pathQuery substring number perPage).toFilter env = .ok page →
    page.total = (rows.filter fun row => PathContains substring row).length ∧
    page.items = ((((rows.filter fun row => PathContains substring row).insertionSort Later).drop
      ((pathQuery substring number perPage).toFilter.page *
        (pathQuery substring number perPage).toFilter.perPage)).take
      (pathQuery substring number perPage).toFilter.perPage).map EventListItem.ofRow

omit [HourArithmetic] in
theorem toFilter_pathQuery {substring : String} (hne : substring ≠ "") (number perPage : Option ℕ) :
    (pathQuery substring number perPage).toFilter = { (pathQuery "" number perPage).toFilter with
      pathSubstring := some substring } := by
  have hfilter : (some substring).filter (fun value => !value.isEmpty) = some substring := by
    rw [Option.filter_some, if_pos]
    rw [Bool.not_eq_true', Bool.eq_false_iff]
    exact fun h => hne (String.isEmpty_iff.mp h)
  unfold pathQuery EventListFilterQuery.toFilter
  dsimp only
  rw [hfilter]

omit [HourArithmetic] in
theorem keeps_pathQuery {substring : String} (hne : substring ≠ "") (number perPage : Option ℕ)
    (row : ActiveModel) :
    (pathQuery substring number perPage).toFilter.keeps row = Sql.contains row.path substring := by
  rw [toFilter_pathQuery hne]
  show (true && Sql.contains row.path substring && true && true) = _
  rw [Bool.and_true, Bool.and_true, Bool.true_and]

omit [HourArithmetic] in
theorem selectRows_pathQuery {substring : String} (hne : substring ≠ "") (number perPage : Option ℕ)
    (rows : List ActiveModel) : selectRows rows (pathQuery substring number perPage).toFilter none =
      (rows.filter fun row => Sql.contains row.path substring).insertionSort Later := by
  unfold selectRows
  congr 1
  refine List.filter_congr fun row _ => ?_
  rw [keeps_pathQuery hne]
  exact Bool.and_true _

/-- A listing whose counts are right keeps no row that only resembles the text. -/
theorem listsContaining_iff {rows : List ActiveModel} {substring : String} (hne : substring ≠ "") :
    ListsContaining rows substring ↔
      ∀ row ∈ rows, Sql.contains row.path substring = true → PathContains substring row := by
  have hsub : ∀ row : ActiveModel, PathContains substring row → Sql.contains row.path substring = true :=
    fun row h => Sql.contains_of_infix h
  constructor
  · intro hlists row hrow hcontains
    have hpage : ∃ page,
        listEvents rows (pathQuery substring none none).toFilter ⟨sampleTime, .ok (), .ok ()⟩ = .ok page :=
      ⟨_, rfl⟩
    obtain ⟨page, hpage⟩ := hpage
    obtain ⟨since, hsince, -, htotal⟩ := listEvents_eq_ok hpage
    obtain rfl : none = since := Except.ok.inj hsince
    obtain ⟨hcount, -⟩ := hlists _ _ _ _ hpage
    rw [htotal, selectRows_pathQuery hne, List.length_insertionSort] at hcount
    have hfilter : (rows.filter fun row => PathContains substring row) =
        (rows.filter fun row => Sql.contains row.path substring).filter
          fun row => PathContains substring row := by
      rw [List.filter_filter]
      refine List.filter_congr fun row _ => ?_
      rw [Bool.eq_iff_iff, Bool.and_eq_true, decide_eq_true_iff]
      exact ⟨fun h => ⟨h, hsub row h⟩, fun h => h.1⟩
    rw [hfilter] at hcount
    have hall := List.length_filter_eq_length_iff.mp hcount.symm
    exact of_decide_eq_true (hall row (List.mem_filter.mpr ⟨hrow, hcontains⟩))
  · intro hloose number perPage env page hpage
    obtain ⟨since, hsince, hitems, htotal⟩ := listEvents_eq_ok hpage
    obtain rfl : none = since := Except.ok.inj hsince
    have hsame : (rows.filter fun row => Sql.contains row.path substring) =
        rows.filter fun row => PathContains substring row := by
      refine List.filter_congr fun row hrow => ?_
      rw [Bool.eq_iff_iff, decide_eq_true_iff]
      exact ⟨hloose row hrow, hsub row⟩
    rw [selectRows_pathQuery hne, hsame] at hitems htotal
    rw [List.length_insertionSort] at htotal
    exact ⟨htotal, hitems⟩

/-- **"Path contains" finds the paths that contain the text**: in every table exactly where the text has
no wildcard and no letter, and in one table exactly where each path with a part that resembles the text
also contains it. -/
theorem path_filter_contains_iff (substring : String) (hne : substring ≠ "") :
    ((∀ rows, ListsContaining rows substring) ↔ ∀ c ∈ substring.toList, Sql.IsPlain c) ∧
    ∀ rows, ListsContaining rows substring ↔
      ∀ row ∈ rows, ∀ part, part <:+: row.path.toList → Sql.Resembles substring.toList part →
        PathContains substring row := by
  have htable : ∀ rows, ListsContaining rows substring ↔
      ∀ row ∈ rows, ∀ part, part <:+: row.path.toList → Sql.Resembles substring.toList part →
        PathContains substring row := by
    intro rows
    rw [listsContaining_iff hne]
    refine forall₂_congr fun row _ => ?_
    rw [Sql.contains_iff]
    exact ⟨fun h part hpart hsame => h ⟨part, hpart, hsame⟩, fun h ⟨part, hpart, hsame⟩ => h part hpart hsame⟩
  refine ⟨⟨fun hall => ?_, fun hplain rows => ?_⟩, htable⟩
  · by_contra hnot
    obtain ⟨text, hsame, hinfix⟩ := Sql.exists_resembles_not_infix hnot
    have hrow := (htable [{ (default : ActiveModel) with path := String.ofList text }]).mp (hall _) _
      List.mem_cons_self text
    have hpath : (String.ofList text).toList = text := String.toList_ofList
    have hcontains : substring.toList <:+: (String.ofList text).toList :=
      hrow (by rw [hpath]) hsame
    rw [hpath] at hcontains
    exact hinfix hcontains
  · refine (htable rows).mpr fun row _ part hpart hsame => ?_
    rw [← hsame.eq hplain] at hpart
    exact hpart

end Listing

/-- A row of the path `/a-b`. -/
def dashRow : ActiveModel := { (default : ActiveModel) with path := "/a-b" }

theorem path_filter_finds_slashes :
    @ListsContaining ⟨fun now _ => .ok now⟩ [dashRow] "/" := by
  refine ((@path_filter_contains_iff ⟨fun now _ => .ok now⟩ "/" (by decide)).1.mpr ?_) [dashRow]
  intro c hc
  obtain rfl := List.mem_singleton.mp hc
  decide

/-- "a_b" finds the path "/a-b", which does not contain it. -/
theorem path_filter_finds_wildcards :
    ¬ @ListsContaining ⟨fun now _ => .ok now⟩ [dashRow] "a_b" := by
  let _ : HourArithmetic := ⟨fun now _ => .ok now⟩
  intro hlists
  have hpage : ∃ page, listEvents [dashRow] (pathQuery "a_b" none none).toFilter
      ⟨sampleTime, .ok (), .ok ()⟩ = .ok page ∧ page.total = 1 := ⟨_, rfl, by decide⟩
  obtain ⟨page, hpage, htotal⟩ := hpage
  obtain ⟨hcount, -⟩ := hlists _ _ _ _ hpage
  rw [htotal] at hcount
  exact absurd hcount (by decide)

end KidProxy
