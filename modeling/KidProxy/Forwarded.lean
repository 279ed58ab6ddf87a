import KidProxy.ForwardedGrammar
import KidProxy.Headers
import Mathlib.Data.List.Nodup

/-!
# Forwarded — what the code reads of a `Forwarded` header

The code cuts the text of the value at every semicolon, so the pieces of an element are its parameters
and what stands behind a semicolon inside quotes; a comma ends no piece.
-/

namespace KidProxy

namespace Forwarded

/-! ### The pieces between the semicolons -/

/-- The pieces of the further elements that do not begin at a comma. -/
def laterPieces (rest : List Continuation) : List (List Char) :=
  rest.flatMap fun more => (more.element.text.splitOn ';').tail

theorem Continuation.notMem_blanks (more : Continuation) : ';' ∉ more.before ++ ',' :: more.after := by
  intro hmem
  have hblank : ';' ∈ more.before ++ more.after := by
    rcases List.mem_append.mp hmem with h | h
    · exact List.mem_append_left _ h
    · rcases List.mem_cons.mp h with h | h
      · exact absurd h (by decide)
      · exact List.mem_append_right _ h
  exact absurd (more.blanks _ hblank) (by decide)

/-- What stands before a further text goes to its first piece. -/
theorem Continuation.splitOn_append (more : Continuation) (bs : List Char) : ∃ b others,
    bs.splitOn ';' = b :: others ∧
    (more.before ++ ',' :: (more.after ++ bs)).splitOn ';' =
      (more.before ++ ',' :: (more.after ++ b)) :: others := by
  obtain ⟨b, others, hbs⟩ := List.exists_cons_of_ne_nil (List.splitOn_ne_nil ';' bs)
  refine ⟨b, others, hbs, ?_⟩
  have hlead : (more.before ++ ',' :: more.after).splitOn ';' = [] ++ [more.before ++ ',' :: more.after] :=
    List.splitOn_eq_singleton more.notMem_blanks
  have hsplit := Text.splitOn_append hlead hbs
  rw [List.append_assoc, List.cons_append, List.nil_append, List.append_assoc, List.cons_append] at hsplit
  exact hsplit

/-- A parameter that the code reads: the marks it takes off the value, the header where it looks else,
and what the grammar means by a value. -/
structure Parameter where
  name : List Char
  marks : List Char
  other : HeaderName
  adapt : List Char → List Char
  Means : Value → List Char → Prop
  lower : ∀ c ∈ name, isNameChar c = true
  nodup : marks.Nodup
  comma_notMem : ',' ∉ marks
  other_ne : other ≠ .forwarded
  notMem_meaning : ∀ {value meaning}, Means value meaning → ∀ mark ∈ marks, mark ∉ meaning

namespace Parameter

variable (p : Parameter)

def key : List Char := p.name ++ ['=']

/-- What stands behind the key in a piece. -/
def behind (piece : List Char) : Option (List Char) := Text.stripPrefix p.key (Text.trim piece)

def Begins (piece : List Char) : Prop := p.key <+: Text.trim piece

/-- Some piece of the text begins with the key. -/
def BeginsIn (text : List Char) : Prop := ∃ piece ∈ text.splitOn ';', p.Begins piece

def search (text : List Char) : Option (List Char) := (text.splitOn ';').findSome? p.behind

def fallback (headers : HeaderMap) : Option String :=
  ((headers.get p.other).bind HeaderValue.toStr).map fun value => String.ofList (p.adapt value)

def read (headers : HeaderMap) : Option String :=
  match ((headers.get .forwarded).bind HeaderValue.toStr).bind p.search with
  | some value => some (String.ofList (Text.trimMarks p.marks value))
  | none => p.fallback headers

variable {p}

theorem behind_eq_some_iff {piece value : List Char} :
    p.behind piece = some value ↔ Text.trim piece = p.key ++ value := by
  unfold behind Text.stripPrefix
  constructor
  · intro h
    split_ifs at h with hprefix
    obtain ⟨rest, hrest⟩ := List.isPrefixOf_iff_prefix.mp hprefix
    rw [← hrest, List.drop_left, Option.some.injEq] at h
    rw [← hrest, h]
  · intro h
    rw [h, if_pos (List.isPrefixOf_iff_prefix.mpr (List.prefix_append _ _)), List.drop_left]

theorem begins_of_behind {piece value : List Char} (h : p.behind piece = some value) : p.Begins piece :=
  ⟨value, (behind_eq_some_iff.mp h).symm⟩

theorem behind_eq_none_iff {piece : List Char} : p.behind piece = none ↔ ¬ p.Begins piece := by
  constructor
  · rintro h ⟨value, hvalue⟩
    rw [behind_eq_some_iff.mpr hvalue.symm] at h
    cases h
  · intro h
    rw [Option.eq_none_iff_forall_ne_some]
    exact fun value hvalue => h (begins_of_behind hvalue)

theorem search_eq_none_iff {text : List Char} : p.search text = none ↔ ¬ p.BeginsIn text := by
  have hpieces : p.search text = none ↔ ∀ piece ∈ text.splitOn ';', ¬ p.Begins piece := by
    unfold search
    rw [List.findSome?_eq_none_iff]
    exact forall₂_congr fun _ _ => behind_eq_none_iff
  rw [hpieces]
  exact ⟨fun h ⟨piece, hmem, hbegins⟩ => h piece hmem hbegins,
    fun h piece hmem hbegins => h ⟨piece, hmem, hbegins⟩⟩

/-! ### A piece that goes on behind the element -/

theorem toNat_of_mem_key {c : Char} (h : c ∈ p.key) : 33 ≤ c.toNat := by
  rcases List.mem_append.mp h with h | h
  · exact (toNat_of_isNameChar (p.lower c h)).1
  · rw [List.mem_singleton.mp h]
    decide

theorem comma_notMem_key : ',' ∉ p.key := by
  intro h
  rcases List.mem_append.mp h with h | h
  · exact absurd (p.lower _ h) (by decide)
  · exact absurd h (by decide)

theorem key_ne_nil : p.key ≠ [] := List.append_ne_nil_of_right_ne_nil _ (List.cons_ne_nil _ _)

theorem begins_iff {piece : List Char} : p.Begins piece ↔ p.key <+: piece.dropWhile Text.isWhitespace := by
  refine Text.prefix_trim_iff fun c hc => ?_
  unfold key at hc
  rw [List.getLast?_append_of_ne_nil _ (List.cons_ne_nil _ _)] at hc
  obtain rfl := Option.some.inj hc
  rfl

/-- A comma behind a piece does not make it begin with the key. -/
theorem begins_append_iff (piece : List Char) (more : Continuation) (bs : List Char) :
    p.Begins (piece ++ (more.before ++ ',' :: bs)) ↔ p.Begins piece := by
  have hblank : ∀ c ∈ more.before, Text.isWhitespace c = true ∧ c ∉ p.key := by
    intro c hc
    have hc' := more.blanks c (List.mem_append_left _ hc)
    refine ⟨?_, fun hkey => ?_⟩
    · rcases hc' with rfl | rfl
      · rfl
      · rfl
    · have hlow := toNat_of_mem_key hkey
      rcases hc' with rfl | rfl
      · exact absurd hlow (by decide)
      · exact absurd hlow (by decide)
  rw [begins_iff, begins_iff, List.dropWhile_append]
  split_ifs with hnil
  · -- only blanks stand before the comma
    have hdrop : (more.before ++ ',' :: bs).dropWhile Text.isWhitespace = ',' :: bs := by
      rw [List.dropWhile_append_of_pos fun c hc => (hblank c hc).1]
      rfl
    rw [hdrop, List.isEmpty_iff.mp hnil]
    have hcomma : p.key ≠ [] → ¬ p.key <+: ',' :: bs := by
      intro hne hkey
      obtain ⟨c, key, hcons⟩ := List.exists_cons_of_ne_nil hne
      rw [hcons, List.cons_prefix_cons] at hkey
      refine comma_notMem_key (p := p) ?_
      rw [hcons, hkey.1]
      exact List.mem_cons_self
    exact ⟨fun h => absurd h (hcomma key_ne_nil), fun h => absurd (List.prefix_nil.mp h) key_ne_nil⟩
  · refine Text.prefix_append_iff fun c hc => ?_
    rcases hbefore : more.before with _ | ⟨b, before⟩
    · rw [hbefore] at hc
      obtain rfl := Option.some.inj hc
      exact comma_notMem_key
    · rw [hbefore] at hc
      obtain rfl := Option.some.inj hc
      exact (hblank b (hbefore ▸ List.mem_cons_self)).2

/-! ### The pieces of a whole field -/

theorem tailText_cons (more : Continuation) (rest : List Continuation) :
    tailText (more :: rest) = more.before ++ ',' :: (more.after ++ (more.element.text ++ tailText rest)) := by
  show more.text ++ tailText rest = _
  unfold Continuation.text
  rw [List.append_assoc, List.cons_append, List.append_assoc]

theorem exists_splitOn_last (text : List Char) : ∃ init last, text.splitOn ';' = init ++ [last] :=
  ⟨_, _, (List.dropLast_append_getLast (List.splitOn_ne_nil ';' text)).symm⟩

theorem beginsIn_append (text : List Char) (more : Continuation) :
    p.BeginsIn (text ++ more.text) ↔
      p.BeginsIn text ∨ ∃ piece ∈ (more.element.text.splitOn ';').tail, p.Begins piece := by
  obtain ⟨init, last, htext⟩ := exists_splitOn_last text
  obtain ⟨b, others, hb, hmore⟩ := more.splitOn_append more.element.text
  have hsplit : (text ++ more.text).splitOn ';' =
      init ++ (last ++ (more.before ++ ',' :: (more.after ++ b))) :: others := Text.splitOn_append htext hmore
  unfold BeginsIn
  rw [hsplit, htext, hb, List.tail_cons]
  simp only [List.mem_append, List.mem_cons, List.not_mem_nil, or_false, or_and_right, exists_or,
    exists_eq_left, begins_append_iff, or_assoc]

/-- The induction goes over the further elements, each of which ends the text before the next. -/
theorem beginsIn_field (text : List Char) (rest : List Continuation) :
    p.BeginsIn (text ++ tailText rest) ↔ p.BeginsIn text ∨ ∃ piece ∈ laterPieces rest, p.Begins piece := by
  induction rest generalizing text with
  | nil =>
    show p.BeginsIn (text ++ []) ↔ _
    rw [List.append_nil]
    exact ⟨.inl, fun h => h.resolve_right fun ⟨_, hmem, _⟩ => List.not_mem_nil hmem⟩
  | cons more rest ih =>
    have htext : text ++ tailText (more :: rest) = text ++ more.text ++ tailText rest := by
      rw [List.append_assoc]
      rfl
    have hlater : laterPieces (more :: rest) = (more.element.text.splitOn ';').tail ++ laterPieces rest := rfl
    rw [htext, ih, beginsIn_append, hlater, or_assoc]
    simp only [List.mem_append, or_and_right, exists_or]

theorem search_eq_some {text piece value : List Char} {before after : List (List Char)}
    (hpieces : text.splitOn ';' = before ++ piece :: after) (hbefore : ∀ q ∈ before, ¬ p.Begins q)
    (hvalue : p.behind piece = some value) : p.search text = some value := by
  unfold search
  rw [List.findSome?_eq_some_iff]
  exact ⟨before, piece, after, hpieces, hvalue, fun q hq => behind_eq_none_iff.mpr (hbefore q hq)⟩

/-- A piece that is not the last is not changed by what follows the element. -/
theorem search_of_closed {text piece value : List Char} {before after : List (List Char)}
    (hpieces : text.splitOn ';' = before ++ piece :: after) (hbefore : ∀ q ∈ before, ¬ p.Begins q)
    (hvalue : p.behind piece = some value) {rest : List Continuation} (hclosed : after ≠ [] ∨ rest = []) :
    p.search (text ++ tailText rest) = some value := by
  rcases hclosed with hafter | rfl
  · obtain ⟨b, others, hrest⟩ := List.exists_cons_of_ne_nil (List.splitOn_ne_nil ';' (tailText rest))
    have hlast : text.splitOn ';' = (before ++ piece :: after.dropLast) ++ [after.getLast hafter] := by
      rw [hpieces, List.append_assoc, List.cons_append, List.dropLast_append_getLast]
    have hsplit := Text.splitOn_append hlast hrest
    rw [List.append_assoc, List.cons_append] at hsplit
    exact search_eq_some hsplit hbefore hvalue
  · show p.search (text ++ []) = some value
    rw [List.append_nil]
    exact search_eq_some hpieces hbefore hvalue

/-- The last piece of an element that is not the last goes on behind the comma. -/
theorem search_of_open {text piece value : List Char} {before : List (List Char)}
    (hpieces : text.splitOn ';' = before ++ [piece]) (hbefore : ∀ q ∈ before, ¬ p.Begins q)
    (hvalue : p.behind piece = some value) (more : Continuation) (rest : List Continuation) : ∃ longer,
    p.search (text ++ tailText (more :: rest)) = some longer ∧ value.count ',' < longer.count ',' := by
  obtain ⟨b, others, -, hmore⟩ := more.splitOn_append (more.element.text ++ tailText rest)
  rw [← tailText_cons] at hmore
  have hsplit := Text.splitOn_append hpieces hmore
  have hbegins := (begins_append_iff piece more (more.after ++ b)).mpr (begins_of_behind hvalue)
  obtain ⟨longer, hlonger⟩ := hbegins
  refine ⟨longer, search_eq_some hsplit hbefore (behind_eq_some_iff.mpr hlonger.symm), ?_⟩
  -- trimming takes no comma away
  have hcount := congrArg (List.count ',') hlonger
  have hcount' := congrArg (List.count ',') (behind_eq_some_iff.mp hvalue)
  unfold Text.trim at hcount hcount'
  rw [Text.count_trimBy rfl, List.count_append, List.count_append, List.count_append, List.count_cons_self]
    at hcount
  rw [Text.count_trimBy rfl, List.count_append] at hcount'
  omega

end Parameter

/-! ### What the code reads of a field -/

/-- `to_str` gives the text. -/
def Field.Legible (field : Field) : Prop := field.text.all isVisibleChar = true

instance (field : Field) : Decidable field.Legible := inferInstanceAs (Decidable (_ = true))

/-- The field without its further elements. -/
def Field.alone (field : Field) : Field := ⟨field.first, []⟩

theorem Field.text_alone (field : Field) : field.alone.text = field.first.text := List.append_nil _

theorem Field.Legible.alone {field : Field} (h : field.Legible) : field.alone.Legible := by
  unfold Field.Legible at h ⊢
  rw [Field.text, List.all_append, Bool.and_eq_true] at h
  rw [field.text_alone]
  exact h.1

/-- What the grammar asks of a reader: what the parameter of the first element means, and nothing of the
further elements; the answer is that of the first element alone, or as if the header were not there. -/
structure Reads (reader : HeaderMap → Option String) (name : List Char) (Means : Value → List Char → Prop)
    (field : Field) (headers : HeaderMap) : Prop where
  first : ∀ pair ∈ field.first.pairs, Text.asciiLower pair.name.text = name →
    ∀ meaning, Means pair.value meaning → reader headers = some (String.ofList meaning)
  later : reader headers = reader (headers.insert .forwarded field.alone.headerValue) ∨
    reader headers = reader (headers.remove .forwarded)

namespace Parameter

variable {p : Parameter} {field : Field} {headers : HeaderMap}

theorem toStr_headerValue (hget : headers.get .forwarded = some field.headerValue) :
    (headers.get .forwarded).bind HeaderValue.toStr = if field.Legible then some field.text else none := by
  rw [hget, Option.bind_some]
  exact toStr_textValue field.text field.fieldText

theorem read_of_some (hget : headers.get .forwarded = some field.headerValue) (hlegible : field.Legible)
    {value : List Char} (hvalue : p.search field.text = some value) :
    p.read headers = some (String.ofList (Text.trimMarks p.marks value)) := by
  unfold read
  rw [toStr_headerValue hget, if_pos hlegible, Option.bind_some, hvalue]

theorem read_of_none (hget : headers.get .forwarded = some field.headerValue)
    (hnone : field.Legible → p.search field.text = none) : p.read headers = p.fallback headers := by
  unfold read
  rw [toStr_headerValue hget]
  split_ifs with hlegible
  · rw [Option.bind_some, hnone hlegible]
  · rfl

theorem get_insert_self (headers : HeaderMap) (name : HeaderName) (value : HeaderValue) :
    (headers.insert name value).get name = some value := by
  unfold MultiMap.get
  rw [MultiMap.getAll_insert_self]
  rfl

theorem fallback_insert (headers : HeaderMap) (value : HeaderValue) :
    p.fallback (headers.insert .forwarded value) = p.fallback headers := by
  unfold fallback MultiMap.get
  rw [MultiMap.getAll_insert_of_ne _ _ p.other_ne]

theorem read_remove (headers : HeaderMap) : p.read (headers.remove .forwarded) = p.fallback headers := by
  unfold read fallback MultiMap.get
  rw [MultiMap.getAll_remove_self, MultiMap.getAll_remove_of_ne _ p.other_ne]
  rfl

/-! ### When the code follows the grammar -/

/-- The first piece of the first element that begins with the key is not the last before a comma, and
nothing but marks stands there around what the parameter means; or there is neither such a piece nor the
parameter. -/
inductive Readable (p : Parameter) (field : Field) : Prop
  | found (before : List (List Char)) (piece : List Char) (after : List (List Char)) (value : List Char)
    (legible : field.Legible) (pieces : field.first.text.splitOn ';' = before ++ piece :: after)
    (none_before : ∀ q ∈ before, ¬ p.Begins q) (behind : p.behind piece = some value)
    (closed : after ≠ [] ∨ field.rest = [])
    (right : ∀ pair ∈ field.first.pairs, Text.asciiLower pair.name.text = p.name → ∀ meaning,
      p.Means pair.value meaning → Text.Wrapped p.marks meaning value)
  | missing
    (unnamed : ∀ pair ∈ field.first.pairs, Text.asciiLower pair.name.text = p.name → ∀ meaning,
      ¬ p.Means pair.value meaning)
    (silent : field.Legible →
      ¬ p.BeginsIn field.first.text ∧ ∀ piece ∈ laterPieces field.rest, ¬ p.Begins piece)

theorem Readable.reads (h : Readable p field) (hget : headers.get .forwarded = some field.headerValue) :
    Reads p.read p.name p.Means field headers := by
  cases h with
  | found before piece after value legible pieces none_before behind closed right =>
    have hread : p.read headers = some (String.ofList (Text.trimMarks p.marks value)) :=
      read_of_some hget legible (search_of_closed pieces none_before behind closed)
    have halone : p.search field.alone.text = some value := by
      rw [field.text_alone]
      exact search_eq_some pieces none_before behind
    refine ⟨fun pair hpair hname meaning hmeans => ?_, .inl ?_⟩
    · have hright := right pair hpair hname meaning hmeans
      rw [hread, (Text.trimMarks_eq_iff p.nodup (p.notMem_meaning hmeans)).mpr hright]
    · rw [hread, read_of_some (get_insert_self _ _ _) legible.alone halone]
  | missing unnamed silent =>
    have hnone : field.Legible → p.search field.text = none := by
      intro hlegible
      obtain ⟨hfirst, hlater⟩ := silent hlegible
      rw [search_eq_none_iff, Field.text, beginsIn_field]
      rintro (hbegins | ⟨piece, hmem, hbegins⟩)
      · exact hfirst hbegins
      · exact hlater piece hmem hbegins
    refine ⟨fun pair hpair hname meaning hmeans => absurd hmeans (unnamed pair hpair hname meaning), .inr ?_⟩
    rw [read_of_none hget hnone, read_remove]

/-! The headers that tell are those with no other header to fall back on. -/

variable (field) in
def onlyForwarded : HeaderMap := MultiMap.empty.insert .forwarded field.headerValue

theorem get_onlyForwarded : (onlyForwarded field).get .forwarded = some field.headerValue :=
  get_insert_self _ _ _

theorem fallback_onlyForwarded : p.fallback (onlyForwarded field) = none := by
  unfold onlyForwarded
  rw [fallback_insert]
  rfl

theorem unnamed_of_reads (h : Reads p.read p.name p.Means field (onlyForwarded field))
    (hnone : field.Legible → p.search field.text = none) : ∀ pair ∈ field.first.pairs,
    Text.asciiLower pair.name.text = p.name → ∀ meaning, ¬ p.Means pair.value meaning := by
  intro pair hpair hname meaning hmeans
  have hread := h.first pair hpair hname meaning hmeans
  rw [read_of_none get_onlyForwarded hnone, fallback_onlyForwarded] at hread
  cases hread

/-- What is found is found in the first element. -/
theorem search_of_reads (h : Reads p.read p.name p.Means field (onlyForwarded field))
    (hlegible : field.Legible)
    {value : List Char} (hvalue : p.search field.text = some value) :
    ∃ value', p.search field.first.text = some value' ∧
      Text.trimMarks p.marks value = Text.trimMarks p.marks value' := by
  have hlater := h.later
  rw [read_of_some get_onlyForwarded hlegible hvalue, read_remove, fallback_onlyForwarded] at hlater
  rcases hlater with hlater | hlater
  · cases halone : p.search field.alone.text with
    | none =>
      rw [read_of_none (get_insert_self _ _ _) fun _ => halone, fallback_insert, fallback_onlyForwarded]
        at hlater
      cases hlater
    | some value' =>
      rw [read_of_some (get_insert_self _ _ _) hlegible.alone halone] at hlater
      rw [field.text_alone] at halone
      exact ⟨value', halone, String.ofList_injective (Option.some.inj hlater)⟩
  · cases hlater

theorem closed_of_reads (h : Reads p.read p.name p.Means field (onlyForwarded field))
    (hlegible : field.Legible)
    {before after : List (List Char)} {piece value : List Char}
    (hpieces : field.first.text.splitOn ';' = before ++ piece :: after) (hbefore : ∀ q ∈ before, ¬ p.Begins q)
    (hvalue : p.behind piece = some value) : after ≠ [] ∨ field.rest = [] := by
  by_contra hopen
  rw [not_or, not_not] at hopen
  obtain ⟨rfl, hrest⟩ := hopen
  obtain ⟨more, rest, hrest⟩ := List.exists_cons_of_ne_nil hrest
  obtain ⟨longer, hlonger, hcount⟩ := search_of_open hpieces hbefore hvalue more rest
  rw [← hrest] at hlonger
  obtain ⟨value', hvalue', hsame⟩ := search_of_reads h hlegible hlonger
  obtain rfl : value = value' :=
    Option.some.inj ((search_eq_some hpieces hbefore hvalue).symm.trans hvalue')
  -- no comma is taken away with the marks
  have heq := congrArg (List.count ',') hsame
  rw [Text.count_trimMarks p.comma_notMem, Text.count_trimMarks p.comma_notMem] at heq
  omega

theorem Readable.of_reads (h : Reads p.read p.name p.Means field (onlyForwarded field)) :
    Readable p field := by
  by_cases hlegible : field.Legible
  · cases hfirst : p.search field.first.text with
    | none =>
      have hnone : p.search field.text = none := by
        rw [Option.eq_none_iff_forall_ne_some]
        intro value hvalue
        obtain ⟨value', hvalue', -⟩ := search_of_reads h hlegible hvalue
        rw [hfirst] at hvalue'
        cases hvalue'
      refine .missing (unnamed_of_reads h fun _ => hnone) fun _ => ⟨search_eq_none_iff.mp hfirst, ?_⟩
      intro piece hmem hbegins
      rw [search_eq_none_iff, Field.text, beginsIn_field] at hnone
      exact hnone (.inr ⟨piece, hmem, hbegins⟩)
    | some value =>
      obtain ⟨before, piece, after, hpieces, hvalue, hbefore⟩ := List.findSome?_eq_some_iff.mp hfirst
      have hbefore : ∀ q ∈ before, ¬ p.Begins q := fun q hq => behind_eq_none_iff.mp (hbefore q hq)
      have hclosed := closed_of_reads h hlegible hpieces hbefore hvalue
      refine .found before piece after value hlegible hpieces hbefore hvalue hclosed ?_
      intro pair hpair hname meaning hmeans
      have hread := h.first pair hpair hname meaning hmeans
      rw [read_of_some get_onlyForwarded hlegible (search_of_closed hpieces hbefore hvalue hclosed)] at hread
      exact (Text.trimMarks_eq_iff p.nodup (p.notMem_meaning hmeans)).mp
        (String.ofList_injective (Option.some.inj hread))
  · exact .missing (unnamed_of_reads h fun h => absurd h hlegible) fun h => absurd h hlegible

theorem reads_iff : (∀ headers : HeaderMap, headers.get .forwarded = some field.headerValue →
    Reads p.read p.name p.Means field headers) ↔ Readable p field :=
  ⟨fun h => .of_reads (h _ get_onlyForwarded), fun h _ hget => h.reads hget⟩

/-! ### A lone element -/

/-- A part of an element begins with the key where the parameter has the name, letter by letter. -/
theorem behind_partText_eq_some_iff {part : Option Pair} {value : List Char} :
    p.behind (partText part) = some value ↔
      ∃ pair, part = some pair ∧ pair.name.text = p.name ∧ pair.value.text = value := by
  rw [behind_eq_some_iff]
  cases part with
  | none =>
    have hnil : Text.trim (partText none) = [] := rfl
    rw [hnil]
    constructor
    · intro h
      exact absurd (List.append_eq_nil_iff.mp h.symm).1 key_ne_nil
    · rintro ⟨pair, hpart, -⟩
      cases hpart
  | some pair =>
    have hname : '=' ∉ pair.name.text := Token.notMem (by decide)
    have hkey : '=' ∉ p.name := fun h => absurd (p.lower _ h) (by decide)
    have htext : p.key ++ value = p.name ++ '=' :: value := List.append_assoc _ _ _
    have htrim : Text.trim (partText (some pair)) = pair.name.text ++ '=' :: pair.value.text :=
      pair.trimmed.trim_eq
    rw [htrim, htext]
    constructor
    · intro h
      have hsplit := congrArg (Text.splitOnce '=') h
      rw [Text.splitOnce_append hname, Text.splitOnce_append hkey] at hsplit
      obtain ⟨hnames, hvalues⟩ := Prod.mk.inj (Option.some.inj hsplit)
      exact ⟨pair, rfl, hnames, hvalues⟩
    · rintro ⟨pair', hpair, hname', rfl⟩
      obtain rfl := Option.some.inj hpair
      rw [hname']

/-- A lone element is read right when its names are in lower case, no semicolon stands in quotes, and the
values have nothing but marks around what they mean. -/
theorem readable_of_lone (hlegible : field.Legible) (hrest : field.rest = [])
    (hlower : ∀ pair ∈ field.first.pairs, Text.asciiLower pair.name.text = pair.name.text)
    (hcut : ∀ pair ∈ field.first.pairs, ';' ∉ pair.value.text)
    (hmarks : ∀ pair ∈ field.first.pairs, pair.name.text = p.name → ∀ meaning, p.Means pair.value meaning →
      Text.Wrapped p.marks meaning pair.value.text) : Readable p field := by
  have hpieces := Element.splitOn_text hcut
  cases hfirst : p.search field.first.text with
  | none =>
    rw [search_eq_none_iff] at hfirst
    refine .missing (fun pair hpair hname => absurd ?_ hfirst) fun _ => ⟨hfirst, fun piece hmem => ?_⟩
    · obtain ⟨part, hpart, heq⟩ := List.mem_filterMap.mp hpair
      obtain rfl : part = some pair := heq
      refine ⟨pair.text, ?_, begins_of_behind (behind_partText_eq_some_iff.mpr ⟨pair, rfl, ?_, rfl⟩)⟩
      · rw [hpieces]
        exact List.mem_map_of_mem hpart
      · rw [← hname, hlower pair hpair]
    · rw [hrest] at hmem
      exact absurd hmem List.not_mem_nil
  | some value =>
    obtain ⟨before, piece, after, hsplit, hvalue, hbefore⟩ := List.findSome?_eq_some_iff.mp hfirst
    refine .found before piece after value hlegible hsplit
      (fun q hq => behind_eq_none_iff.mp (hbefore q hq)) hvalue
      (.inr hrest) fun pair hpair hname meaning hmeans => ?_
    have hmem : piece ∈ field.first.parts.map partText := by
      rw [← hpieces, hsplit]
      exact List.mem_append_right _ List.mem_cons_self
    obtain ⟨part, hpart, rfl⟩ := List.mem_map.mp hmem
    obtain ⟨found, rfl, hfound, rfl⟩ := behind_partText_eq_some_iff.mp hvalue
    have hmem' : found ∈ field.first.pairs := List.mem_filterMap.mpr ⟨some found, hpart, rfl⟩
    -- no parameter stands twice
    have hsame : found = pair := by
      refine List.inj_on_of_nodup_map field.first.distinct hmem' hpair ?_
      rw [hname, hlower found hmem', hfound]
    rw [← hsame] at hmeans
    exact hmarks found hmem' hfound meaning hmeans

end Parameter

/-! ### The two parameters -/

def forParameter : Parameter where
  name := "for".toList
  marks := nodeMarks
  other := .xForwardedFor
  adapt value := Text.trim ((value.splitOn ',').headD [])
  Means := NodeAddress
  lower := List.all_eq_true.mp (by decide)
  nodup := by decide
  comma_notMem := by decide
  other_ne := by decide
  notMem_meaning := NodeAddress.notMem_of_mem_nodeMarks

def protoParameter : Parameter where
  name := "proto".toList
  marks := ['"']
  other := .xForwardedProto
  adapt := id
  Means := SchemeOf
  lower := List.all_eq_true.mp (by decide)
  nodup := by decide
  comma_notMem := by decide
  other_ne := by decide
  notMem_meaning := by
    intro value meaning h mark hmark
    rw [List.mem_singleton.mp hmark]
    exact h.notMem rfl

theorem forwardedClientIp_eq : forwardedClientIp = forParameter.read := by
  funext headers
  unfold forwardedClientIp forwardedParameter Parameter.read
  cases (headers.get .forwarded).bind HeaderValue.toStr with
  | none => rfl
  | some text => rfl

theorem forwardedProto_eq : forwardedProto = protoParameter.read := by
  funext headers
  unfold forwardedProto forwardedParameter Parameter.read
  cases (headers.get .forwarded).bind HeaderValue.toStr with
  | none => rfl
  | some text => rfl

/-! ### The code and the grammar -/

/-- Both parameters are read as the grammar means them, whatever other headers there are. -/
def FollowsRfc (field : Field) : Prop :=
  ∀ headers : HeaderMap, headers.get .forwarded = some field.headerValue →
    Reads forwardedClientIp "for".toList NodeAddress field headers ∧
      Reads forwardedProto "proto".toList SchemeOf field headers

theorem forwarded_follows_rfc_iff (field : Field) :
    FollowsRfc field ↔ Parameter.Readable forParameter field ∧ Parameter.Readable protoParameter field := by
  rw [← Parameter.reads_iff, ← Parameter.reads_iff, ← forwardedClientIp_eq, ← forwardedProto_eq]
  exact ⟨fun h => ⟨fun headers hget => (h headers hget).1, fun headers hget => (h headers hget).2⟩,
    fun h headers hget => ⟨h.1 headers hget, h.2 headers hget⟩⟩

/-- What one proxy writes in lower case, without ports and without backslashes, is read right. -/
theorem followsRfc_of_lone {field : Field} (hlegible : field.Legible) (hrest : field.rest = [])
    (hlower : ∀ pair ∈ field.first.pairs, Text.asciiLower pair.name.text = pair.name.text)
    (hcut : ∀ pair ∈ field.first.pairs, ';' ∉ pair.value.text)
    (hunescaped : ∀ pair ∈ field.first.pairs, pair.value.Unescaped)
    (hplain : ∀ pair ∈ field.first.pairs, ∀ address, NodeAddress pair.value address →
      PlainNode pair.value address) : FollowsRfc field := by
  have hfor : Parameter.Readable forParameter field :=
    Parameter.readable_of_lone hlegible hrest hlower hcut fun pair hpair _ address hnode =>
      (Text.trimMarks_eq_iff (by decide) hnode.notMem_of_mem_nodeMarks).mp
        (hnode.trimMarks_iff.mpr (hplain pair hpair address hnode))
  have hproto : Parameter.Readable protoParameter field :=
    Parameter.readable_of_lone hlegible hrest hlower hcut fun pair hpair _ scheme hscheme =>
      (Text.trimMarks_eq_iff (by decide) (protoParameter.notMem_meaning hscheme)).mp
        (hscheme.trimMarks_iff.mpr (hunescaped pair hpair))
  intro headers hget
  rw [forwardedClientIp_eq, forwardedProto_eq]
  exact ⟨hfor.reads hget, hproto.reads hget⟩

def sampleElement (address : List Char) (nonempty : address ≠ []) (valid : address.all isTokenChar = true) :
    Element where
  head := some ⟨⟨"for".toList, by decide, List.all_eq_true.mp (by decide)⟩,
    .token ⟨address, nonempty, List.all_eq_true.mp valid⟩⟩
  tail := []
  distinct := List.pairwise_singleton _ _

/-- `for=192.0.2.43, for=198.51.100.17`. -/
def sampleField : Field where
  first := sampleElement "192.0.2.43".toList (by decide) (by decide)
  rest := [⟨[], [' '], sampleElement "198.51.100.17".toList (by decide) (by decide),
    fun _ hc => .inl (List.mem_singleton.mp hc)⟩]

/-- Two proxies on the way: the address of the first ends with the second's element. -/
theorem forwarded_second_element_is_read :
    forwardedClientIp (Parameter.onlyForwarded sampleField) =
      some "192.0.2.43, for=198.51.100.17" ∧ ¬ FollowsRfc sampleField := by
  have hread : forwardedClientIp (Parameter.onlyForwarded sampleField) =
      some "192.0.2.43, for=198.51.100.17" := by decide +kernel
  refine ⟨hread, fun h => ?_⟩
  have hnode : NodeAddress (.token ⟨"192.0.2.43".toList, by decide, List.all_eq_true.mp (by decide)⟩)
      "192.0.2.43".toList :=
    ⟨⟨false, "192.0.2.43".toList, none, List.all_eq_true.mp (by decide), nofun⟩, rfl, rfl⟩
  have hfirst := (h _ Parameter.get_onlyForwarded).1.first _ List.mem_cons_self rfl _ hnode
  rw [hread] at hfirst
  exact absurd (Option.some.inj hfirst) (by decide +kernel)

end Forwarded

end KidProxy
