import KidProxy.Lib.Text

/-!
# Lib.Parts — texts that are joined by a separator and blanks

What splitting and trimming give back of the parts that were joined.
-/

namespace Text

/-! ### Trimmed texts -/

/-- No blank stands at either end. -/
structure TrimmedBy (p : Char → Bool) (cs : List Char) : Prop where
  head : ∀ c ∈ cs.head?, p c = false
  last : ∀ c ∈ cs.getLast?, p c = false

theorem dropWhile_of_head {p : Char → Bool} {cs : List Char} (h : ∀ c ∈ cs.head?, p c = false) :
    cs.dropWhile p = cs := by
  cases cs with
  | nil => rfl
  | cons c cs => exact List.dropWhile_cons_of_neg (ne_true_of_eq_false (h c rfl))

theorem TrimmedBy.trimBy_eq {p : Char → Bool} {cs : List Char} (h : TrimmedBy p cs) : trimBy p cs = cs := by
  have hlast : ∀ c ∈ cs.reverse.head?, p c = false := by
    rw [List.head?_reverse]
    exact h.last
  unfold trimBy
  rw [dropWhile_of_head h.head, dropWhile_of_head hlast, List.reverse_reverse]

/-- Blanks around a trimmed text go. -/
theorem TrimmedBy.trimBy_append {p : Char → Bool} {before cs after : List Char} (h : TrimmedBy p cs)
    (hbefore : ∀ c ∈ before, p c = true) (hafter : ∀ c ∈ after, p c = true) :
    trimBy p (before ++ cs ++ after) = cs := by
  have hdrop : (before ++ cs ++ after).dropWhile p = (cs ++ after).dropWhile p := by
    rw [List.append_assoc, List.dropWhile_append_of_pos hbefore]
  by_cases hcs : cs = []
  · have hnil : after.dropWhile p = [] := List.dropWhile_eq_nil_iff.mpr hafter
    rw [hcs, List.nil_append, hnil] at hdrop
    rw [hcs]
    unfold trimBy
    rw [hdrop]
    rfl
  · have hhead : ∀ d ∈ (cs ++ after).head?, p d = false := by
      obtain ⟨c, rest, rfl⟩ := List.exists_cons_of_ne_nil hcs
      exact h.head
    have hlast : ∀ d ∈ (cs.reverse).head?, p d = false := by
      rw [List.head?_reverse]
      exact h.last
    have hafter' : ∀ d ∈ after.reverse, p d = true := fun d hd => hafter d (List.mem_reverse.mp hd)
    unfold trimBy
    rw [hdrop, dropWhile_of_head hhead, List.reverse_append, List.dropWhile_append_of_pos hafter',
      dropWhile_of_head hlast, List.reverse_reverse]

theorem trimmedBy_nil (p : Char → Bool) : TrimmedBy p [] := ⟨nofun, nofun⟩

theorem trimmedBy_of_all {p : Char → Bool} {cs : List Char} (h : cs.all (fun c => !p c) = true) :
    TrimmedBy p cs := by
  have hnone : ∀ c ∈ cs, p c = false := fun c hc => (Bool.not_eq_true' _).mp (List.all_eq_true.mp h c hc)
  exact ⟨fun c hc => hnone c (List.mem_of_mem_head? hc), fun c hc => hnone c (List.mem_of_mem_getLast? hc)⟩

theorem trimmedBy_of_notMem {mark : Char} {cs : List Char} (h : mark ∉ cs) : TrimmedBy (· = mark) cs := by
  refine trimmedBy_of_all (List.all_eq_true.mpr fun c hc => ?_)
  rw [Bool.not_eq_true', decide_eq_false_iff_not]
  rintro rfl
  exact h hc

/-- Two trimmed texts with a mark between them that is no blank. -/
theorem TrimmedBy.append_cons {p : Char → Bool} {as bs : List Char} {mark : Char} (has : TrimmedBy p as)
    (hbs : TrimmedBy p bs) (hmark : p mark = false) : TrimmedBy p (as ++ mark :: bs) := by
  constructor
  · intro c hc
    cases as with
    | nil =>
      obtain rfl := Option.some.inj hc
      exact hmark
    | cons a as => exact has.head c hc
  · intro c hc
    rw [List.getLast?_append_of_ne_nil _ (List.cons_ne_nil _ _)] at hc
    cases bs with
    | nil =>
      obtain rfl := Option.some.inj hc
      exact hmark
    | cons b bs =>
      rw [List.getLast?_cons_cons] at hc
      exact hbs.last c hc

abbrev Trimmed (cs : List Char) : Prop := TrimmedBy isWhitespace cs

theorem TrimmedBy.trim_eq {cs : List Char} (h : Trimmed cs) : trim cs = cs := h.trimBy_eq

theorem TrimmedBy.trim_blank_cons {cs : List Char} (h : Trimmed cs) : trim (' ' :: cs) = cs := by
  have hblank : ∀ c ∈ [' '], isWhitespace c = true := by
    intro c hc
    rw [List.mem_singleton.mp hc]
    rfl
  have hnone : ∀ c ∈ ([] : List Char), isWhitespace c = true := List.forall_mem_nil _
  have htrim := h.trimBy_append hblank hnone
  rw [List.append_nil] at htrim
  exact htrim

/-! ### Joined parts -/

/-- The parts with the separator and a blank between them. -/
def joinParts (sep : Char) (parts : List (List Char)) : List Char := [sep, ' '].intercalate parts

theorem joinParts_cons_cons (sep : Char) (first second : List Char) (rest : List (List Char)) :
    joinParts sep (first :: second :: rest) = first ++ sep :: ' ' :: joinParts sep (second :: rest) := by
  unfold joinParts
  rw [List.intercalate_cons_cons]
  simp

theorem splitOn_joinParts {sep : Char} (hsep : sep ≠ ' ') {first : List Char} {rest : List (List Char)}
    (h : ∀ part ∈ first :: rest, sep ∉ part) :
    (joinParts sep (first :: rest)).splitOn sep = first :: rest.map (' ' :: ·) := by
  have hjoin : ∀ (first : List Char) (rest : List (List Char)),
      joinParts sep (first :: rest) = [sep].intercalate (first :: rest.map (' ' :: ·)) := by
    intro first rest
    induction rest generalizing first with
    | nil => rfl
    | cons second rest ih =>
      rw [joinParts_cons_cons, ih, List.map_cons, List.intercalate_cons_cons]
      cases rest with
      | nil => simp
      | cons third rest => simp [List.intercalate_cons_cons]
  rw [hjoin]
  refine List.splitOn_intercalate sep ?_ (List.cons_ne_nil _ _)
  intro part hpart
  rcases List.mem_cons.mp hpart with rfl | hpart
  · exact h _ List.mem_cons_self
  · obtain ⟨part, hmem, rfl⟩ := List.mem_map.mp hpart
    intro hin
    rcases List.mem_cons.mp hin with heq | hin
    · exact hsep heq
    · exact h part (List.mem_cons_of_mem _ hmem) hin

theorem all_joinParts {p : Char → Bool} {sep : Char} (hsep : p sep = true) (hblank : p ' ' = true)
    (parts : List (List Char)) : (joinParts sep parts).all p = parts.all fun part => part.all p := by
  induction parts with
  | nil => rfl
  | cons first rest ih =>
    cases rest with
    | nil => simp [joinParts]
    | cons second rest =>
      rw [joinParts_cons_cons, List.all_append, List.all_cons, List.all_cons, ih, hsep, hblank, Bool.true_and,
        Bool.true_and, List.all_cons (l := second :: rest)]

/-! ### Parts with separators inside -/

/-- A text after a text goes on in its last part. -/
theorem splitOn_append {sep : Char} {as bs a b : List Char} {init rest : List (List Char)}
    (ha : as.splitOn sep = init ++ [a]) (hb : bs.splitOn sep = b :: rest) :
    (as ++ bs).splitOn sep = init ++ (a ++ b) :: rest := by
  induction as generalizing init a with
  | nil =>
    rw [List.splitOn_nil] at ha
    obtain ⟨rfl, rfl⟩ : init = [] ∧ a = [] := by
      cases init with
      | nil => exact ⟨rfl, (List.cons.inj ha).1.symm⟩
      | cons x init =>
        exact absurd (List.cons.inj ha).2.symm (List.append_ne_nil_of_right_ne_nil _ (List.cons_ne_nil _ _))
    exact hb
  | cons c as ih =>
    rw [List.splitOn_cons_eq_if_modifyHead] at ha
    rw [List.cons_append, List.splitOn_cons_eq_if_modifyHead]
    split_ifs at ha ⊢ with hc
    · cases init with
      | nil => exact absurd (List.cons.inj ha).2 (List.splitOn_ne_nil sep as)
      | cons x init =>
        obtain ⟨rfl, htail⟩ := List.cons.inj ha
        rw [ih htail]
        rfl
    · obtain ⟨init', a', has⟩ : ∃ init' a', as.splitOn sep = init' ++ [a'] :=
        ⟨_, _, (List.dropLast_append_getLast (List.splitOn_ne_nil sep as)).symm⟩
      rw [ih has]
      rw [has] at ha
      cases init' with
      | nil =>
        have hsingle : [] ++ [c :: a'] = init ++ [a] := ha
        obtain ⟨hinit, hlast⟩ := List.append_inj' hsingle rfl
        rw [← hinit, ← (List.cons.inj hlast).1]
        rfl
      | cons x init' =>
        have hcons : (c :: x) :: init' ++ [a'] = init ++ [a] := ha
        obtain ⟨hinit, hlast⟩ := List.append_inj' hcons rfl
        rw [← hinit, ← (List.cons.inj hlast).1]
        rfl

/-! ### What trimming leaves -/

theorem count_trimBy {p : Char → Bool} {c : Char} (hc : p c = false) (cs : List Char) :
    (trimBy p cs).count c = cs.count c := by
  have hdrop : ∀ cs : List Char, (cs.dropWhile p).count c = cs.count c := by
    intro cs
    induction cs with
    | nil => rfl
    | cons d cs ih =>
      rw [List.dropWhile_cons]
      split_ifs with hd
      · have hne : d ≠ c := by
          rintro rfl
          exact Bool.false_ne_true (hc.symm.trans hd)
        rw [ih, List.count_cons_of_ne hne]
      · rfl
  unfold trimBy
  rw [List.count_reverse, hdrop, List.count_reverse, hdrop]

/-- What `trimBy` takes away stands around what it leaves. -/
theorem exists_append_trimBy_append (p : Char → Bool) (cs : List Char) : ∃ before after,
    (∀ c ∈ before, p c = true) ∧ (∀ c ∈ after, p c = true) ∧ cs = before ++ trimBy p cs ++ after := by
  have htake : ∀ cs : List Char, ∀ c ∈ cs.takeWhile p, p c = true := fun cs c hc => List.mem_takeWhile_imp hc
  refine ⟨cs.takeWhile p, ((cs.dropWhile p).reverse.takeWhile p).reverse, htake cs,
    fun c hc => htake _ c (List.mem_reverse.mp hc), ?_⟩
  unfold trimBy
  rw [List.append_assoc, ← List.reverse_append, List.takeWhile_append_dropWhile, List.reverse_reverse,
    List.takeWhile_append_dropWhile]

/-! ### Marks around a text -/

/-- One mark after the other is taken from both ends. -/
def trimMarks (marks cs : List Char) : List Char := marks.foldl (fun cs mark => trimBy (· = mark) cs) cs

/-- The text, with the last mark around it, and so on to the first. -/
def Wrapped : (marks cs text : List Char) → Prop
  | [], cs, text => text = cs
  | mark :: marks, cs, text => ∃ inner before after, Wrapped marks cs inner ∧
      (∀ c ∈ before ++ after, c = mark) ∧ text = before ++ inner ++ after

theorem count_trimMarks {marks : List Char} {c : Char} (hc : c ∉ marks) (cs : List Char) :
    (trimMarks marks cs).count c = cs.count c := by
  induction marks generalizing cs with
  | nil => rfl
  | cons mark marks ih =>
    have hne : decide (c = mark) = false := decide_eq_false (List.ne_of_not_mem_cons hc)
    show (trimMarks marks (trimBy (· = mark) cs)).count c = _
    rw [ih (List.not_mem_of_not_mem_cons hc), count_trimBy hne]

theorem Wrapped.notMem {marks cs text : List Char} {c : Char} (h : Wrapped marks cs text) (hmarks : c ∉ marks)
    (hcs : c ∉ cs) : c ∉ text := by
  induction marks generalizing text with
  | nil =>
    obtain rfl : text = cs := h
    exact hcs
  | cons mark marks ih =>
    obtain ⟨inner, before, after, hinner, hends, rfl⟩ := h
    have hends' : c ∉ before ++ after := fun hc => List.ne_of_not_mem_cons hmarks (hends c hc)
    intro hc
    rcases List.mem_append.mp hc with hc | hc
    · rcases List.mem_append.mp hc with hc | hc
      · exact hends' (List.mem_append_left _ hc)
      · exact ih hinner (List.not_mem_of_not_mem_cons hmarks) hc
    · exact hends' (List.mem_append_right _ hc)

/-- Trimming gives a text without marks where nothing but marks stands around it. -/
theorem trimMarks_eq_iff {marks cs text : List Char} (hmarks : marks.Nodup)
    (hcs : ∀ mark ∈ marks, mark ∉ cs) :
    trimMarks marks text = cs ↔ Wrapped marks cs text := by
  induction marks generalizing text with
  | nil => exact Iff.rfl
  | cons mark marks ih =>
    have ih := fun text =>
      @ih text (List.nodup_cons.mp hmarks).2 fun m hm => hcs m (List.mem_cons_of_mem _ hm)
    show trimMarks marks (trimBy (· = mark) text) = cs ↔ _
    rw [ih]
    constructor
    · intro h
      obtain ⟨before, after, hbefore, hafter, htext⟩ := exists_append_trimBy_append (· = mark) text
      refine ⟨_, before, after, h, fun c hc => ?_, htext⟩
      rcases List.mem_append.mp hc with hc | hc
      · exact of_decide_eq_true (hbefore c hc)
      · exact of_decide_eq_true (hafter c hc)
    · rintro ⟨inner, before, after, hinner, hends, rfl⟩
      have hmark : mark ∉ inner := hinner.notMem (List.nodup_cons.mp hmarks).1 (hcs mark List.mem_cons_self)
      have hbefore : ∀ c ∈ before, decide (c = mark) = true := fun c hc =>
        decide_eq_true (hends c (List.mem_append_left _ hc))
      have hafter : ∀ c ∈ after, decide (c = mark) = true := fun c hc =>
        decide_eq_true (hends c (List.mem_append_right _ hc))
      rw [(trimmedBy_of_notMem hmark).trimBy_append hbefore hafter]
      exact hinner

/-! ### Beginnings -/

/-- A text that ends with no blank begins a trimmed text where it begins the text behind the blanks. -/
theorem prefix_trim_iff {key cs : List Char} (hlast : ∀ c ∈ key.getLast?, isWhitespace c = false) :
    key <+: trim cs ↔ key <+: cs.dropWhile isWhitespace := by
  have hkey : key.reverse.dropWhile isWhitespace = key.reverse := by
    refine dropWhile_of_head fun c hc => hlast c ?_
    rw [List.head?_reverse] at hc
    exact hc
  unfold trim trimBy
  constructor
  · intro h
    refine h.trans ?_
    have hsuffix := List.dropWhile_suffix isWhitespace (l := (cs.dropWhile isWhitespace).reverse)
    have hprefix := List.reverse_prefix.mpr hsuffix
    rw [List.reverse_reverse] at hprefix
    exact hprefix
  · rintro ⟨rest, hrest⟩
    rw [← hrest, List.reverse_append, List.dropWhile_append]
    split_ifs
    · rewrite [hkey, List.reverse_reverse]
      exact List.prefix_rfl
    · rw [List.reverse_append, List.reverse_reverse]
      exact List.prefix_append _ _

/-- What begins with a character that the key has not does not lengthen the beginning. -/
theorem prefix_append_iff {key cs rest : List Char} (h : ∀ c ∈ rest.head?, c ∉ key) :
    key <+: cs ++ rest ↔ key <+: cs := by
  refine ⟨fun hkey => ?_, fun hkey => hkey.trans (List.prefix_append _ _)⟩
  rcases List.prefix_or_prefix_of_prefix hkey (List.prefix_append cs rest) with hle | ⟨more, hmore⟩
  · exact hle
  · rw [← hmore] at hkey ⊢
    rw [List.prefix_append_right_inj] at hkey
    cases more with
    | nil =>
      rewrite [List.append_nil]
      exact List.prefix_rfl
    | cons c more =>
      obtain ⟨tail, htail⟩ := hkey
      rw [← htail] at h
      refine absurd ?_ (h c rfl)
      rw [← hmore]
      exact List.mem_append_right _ List.mem_cons_self

end Text
