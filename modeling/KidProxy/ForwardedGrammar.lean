import KidProxy.HeaderText
import KidProxy.Lib.Parts

/-!
# ForwardedGrammar — the `Forwarded` header of RFC 7239

`Field` is a value of the grammar: elements between commas, parameters between semicolons, values that are
tokens or quoted strings.  `NodeAddress` and `SchemeOf` are what `for` and `proto` mean.
-/

namespace KidProxy

namespace Forwarded

/-! ### The grammar -/

def isTokenChar (c : Char) : Bool := isNameChar c.toLower

/-- Visible ASCII, blanks, and the obsolete characters above ASCII. -/
def isFieldChar (c : Char) : Bool := isVisibleChar c || (128 ≤ c.toNat && c.toNat < 256)

structure Token where
  text : List Char
  nonempty : text ≠ []
  valid : ∀ c ∈ text, isTokenChar c = true

/-- A character of a quoted string, which may stand behind a backslash. -/
structure QuotedChar where
  escaped : Bool
  char : Char
  valid : isFieldChar char = true
  plain : escaped = false → char ≠ '"' ∧ char ≠ '\\'

def QuotedChar.text (q : QuotedChar) : List Char := if q.escaped then ['\\', q.char] else [q.char]

inductive Value
  | token (token : Token)
  | quoted (content : List QuotedChar)

namespace Value

def text : Value → List Char
  | token t => t.text
  | quoted content => '"' :: content.flatMap QuotedChar.text ++ ['"']

/-- What is meant, without quotes and backslashes. -/
def content : Value → List Char
  | token t => t.text
  | quoted content => content.map QuotedChar.char

def Unescaped : Value → Prop
  | token _ => True
  | quoted content => ∀ q ∈ content, q.escaped = false

end Value

/-- `forwarded-pair`. -/
structure Pair where
  name : Token
  value : Value

def Pair.text (pair : Pair) : List Char := pair.name.text ++ '=' :: pair.value.text

def partText : Option Pair → List Char
  | some pair => pair.text
  | none => []

/-- `forwarded-element`: parts between semicolons, which may be empty; no parameter stands twice. -/
structure Element where
  head : Option Pair
  tail : List (Option Pair)
  distinct : (((head :: tail).filterMap id).map fun pair => Text.asciiLower pair.name.text).Nodup

def Element.parts (element : Element) : List (Option Pair) := element.head :: element.tail

def Element.pairs (element : Element) : List Pair := element.parts.filterMap id

def Element.text (element : Element) : List Char := [';'].intercalate (element.parts.map partText)

/-- A further element, behind a comma with blanks around it. -/
structure Continuation where
  before : List Char
  after : List Char
  element : Element
  blanks : ∀ c ∈ before ++ after, c = ' ' ∨ c = '\t'

def Continuation.text (c : Continuation) : List Char := c.before ++ ',' :: (c.after ++ c.element.text)

structure Field where
  first : Element
  rest : List Continuation

def tailText (rest : List Continuation) : List Char := rest.flatMap Continuation.text

def Field.text (field : Field) : List Char := field.first.text ++ tailText field.rest

/-! ### The characters of a field -/

theorem isFieldChar_iff (c : Char) :
    isFieldChar c = true ↔ (32 ≤ c.toNat ∧ c.toNat < 127 ∨ c.toNat = 9) ∨ 128 ≤ c.toNat ∧ c.toNat < 256 := by
  simp only [isFieldChar, Bool.or_eq_true, isVisibleChar_iff, Bool.and_eq_true, decide_eq_true_eq]

theorem isFieldChar_of_isTokenChar {c : Char} (h : isTokenChar c = true) : isFieldChar c = true := by
  have hrange := toNat_of_isNameChar h
  rw [isFieldChar_iff]
  unfold Char.toLower at hrange
  split_ifs at hrange with hupper
  · have hlow : 65 ≤ c.toNat := hupper.1
    have hhigh : c.toNat ≤ 90 := hupper.2
    omega
  · omega

/-- Every character may stand in a header value. -/
abbrev FieldText (cs : List Char) : Prop := ∀ c ∈ cs, isFieldChar c = true

theorem FieldText.append {as bs : List Char} (has : FieldText as) (hbs : FieldText bs) :
    FieldText (as ++ bs) :=
  List.forall_mem_append.mpr ⟨has, hbs⟩

theorem FieldText.cons {c : Char} {cs : List Char} (hc : isFieldChar c = true) (hcs : FieldText cs) :
    FieldText (c :: cs) := List.forall_mem_cons.mpr ⟨hc, hcs⟩

theorem fieldText_nil : FieldText [] := List.forall_mem_nil _

theorem Value.fieldText (value : Value) : FieldText value.text := by
  cases value with
  | token token => exact fun c hc => isFieldChar_of_isTokenChar (token.valid c hc)
  | quoted content =>
    have hcontent : FieldText (content.flatMap QuotedChar.text) := by
      intro c hc
      obtain ⟨q, -, hq⟩ := List.mem_flatMap.mp hc
      unfold QuotedChar.text at hq
      split_ifs at hq
      · rcases List.mem_cons.mp hq with rfl | hq
        · rfl
        · rw [List.mem_singleton.mp hq]
          exact q.valid
      · rw [List.mem_singleton.mp hq]
        exact q.valid
    exact (hcontent.cons rfl).append (fieldText_nil.cons rfl)

theorem fieldText_partText (part : Option Pair) : FieldText (partText part) := by
  cases part with
  | none => exact fieldText_nil
  | some pair =>
    have hname : FieldText pair.name.text := fun c hc => isFieldChar_of_isTokenChar (pair.name.valid c hc)
    exact hname.append (pair.value.fieldText.cons rfl)

theorem Element.fieldText (element : Element) : FieldText element.text := by
  have hparts : ∀ (part : Option Pair) (parts : List (Option Pair)),
      FieldText ([';'].intercalate ((part :: parts).map partText)) := by
    intro part parts
    induction parts generalizing part with
    | nil =>
      rw [List.map_cons, List.map_nil, List.intercalate_singleton]
      exact fieldText_partText part
    | cons next parts ih =>
      rw [List.map_cons, List.map_cons, List.intercalate_cons_cons]
      exact ((fieldText_partText part).append (fieldText_nil.cons rfl)).append (ih next)
  exact hparts element.head element.tail

theorem fieldText_tailText (rest : List Continuation) : FieldText (tailText rest) := by
  have hblank : ∀ c : Char, c = ' ' ∨ c = '\t' → isFieldChar c = true := by
    rintro c (rfl | rfl)
    · rfl
    · rfl
  intro c hc
  obtain ⟨more, -, hmore⟩ := List.mem_flatMap.mp hc
  have hbefore : FieldText more.before := fun d hd => hblank d (more.blanks d (List.mem_append_left _ hd))
  have hafter : FieldText more.after := fun d hd => hblank d (more.blanks d (List.mem_append_right _ hd))
  exact (hbefore.append ((hafter.append more.element.fieldText).cons rfl)) c hmore

theorem Field.fieldText (field : Field) : FieldText field.text :=
  field.first.fieldText.append (fieldText_tailText field.rest)

/-! ### The field as a header value -/

/-- One byte a character. -/
def latin1 (cs : List Char) : List UInt8 := cs.map fun c => UInt8.ofNat c.toNat

theorem isValueByte_of_isFieldChar {c : Char} (h : isFieldChar c = true) :
    isValueByte (UInt8.ofNat c.toNat) = true := by
  have hrange := (isFieldChar_iff c).mp h
  have hbyte : (UInt8.ofNat c.toNat).toNat = c.toNat := Utf8.toNat_ofNat_of_lt (by omega)
  simp only [isValueByte, Bool.or_eq_true, Bool.and_eq_true, decide_eq_true_eq, beq_iff_eq, bne_iff_ne, ne_eq,
    UInt8.le_iff_toNat_le, ← UInt8.toNat_inj, UInt8.reduceToNat, hbyte]
  omega

def textValue (cs : List Char) (h : FieldText cs) : HeaderValue where
  bytes := latin1 cs
  valid := by
    unfold latin1
    rw [List.all_map]
    exact List.all_eq_true.mpr fun c hc => isValueByte_of_isFieldChar (h c hc)

def Field.headerValue (field : Field) : HeaderValue := textValue field.text field.fieldText

/-- `to_str` gives the text, unless an obsolete character stands in it. -/
theorem toStr_textValue (cs : List Char) (h : FieldText cs) :
    (textValue cs h).toStr = if cs.all isVisibleChar then some cs else none := by
  have hbyte : ∀ c ∈ cs, (UInt8.ofNat c.toNat).toNat = c.toNat := by
    intro c hc
    have hrange := (isFieldChar_iff c).mp (h c hc)
    exact Utf8.toNat_ofNat_of_lt (by omega)
  have hvisible : (latin1 cs).all isVisibleAscii = cs.all isVisibleChar := by
    unfold latin1
    rw [List.all_map, Bool.eq_iff_iff, List.all_eq_true, List.all_eq_true]
    refine forall₂_congr fun c hc => ?_
    rw [Function.comp_apply, isVisibleAscii_iff, isVisibleChar_iff, hbyte c hc]
  have hback : (latin1 cs).map (fun b => Char.ofNat b.toNat) = cs := by
    unfold latin1
    rw [List.map_map]
    refine (List.map_congr_left fun c hc => ?_).trans (List.map_id cs)
    show Char.ofNat (UInt8.ofNat c.toNat).toNat = c
    rw [hbyte c hc, Char.ofNat_toNat]
  unfold HeaderValue.toStr
  show (if (latin1 cs).all isVisibleAscii then some ((latin1 cs).map fun b => Char.ofNat b.toNat)
    else none) = _
  rw [hvisible, hback]

/-! ### Values, and what the code leaves of them -/

namespace Value

variable {value : Value}

theorem count_text {c : Char} (hquote : c ≠ '"') (hslash : c ≠ '\\') :
    value.text.count c = value.content.count c := by
  cases value with
  | token token => rfl
  | quoted content =>
    have hcontent : (content.flatMap QuotedChar.text).count c = (content.map QuotedChar.char).count c := by
      induction content with
      | nil => rfl
      | cons q content ih =>
        have hq : q.text.count c = [q.char].count c := by
          unfold QuotedChar.text
          split_ifs
          · exact List.count_cons_of_ne hslash.symm
          · rfl
        rw [List.flatMap_cons, List.count_append, ih, hq, ← List.count_append]
        rfl
    show ('"' :: content.flatMap QuotedChar.text ++ ['"']).count c = (content.map QuotedChar.char).count c
    rw [List.count_append, List.count_cons_of_ne hquote.symm, hcontent, List.count_singleton, if_neg ?_,
      Nat.add_zero]
    exact fun h => hquote (beq_iff_eq.mp h).symm

theorem backslash_mem_text (h : ¬ value.Unescaped) : '\\' ∈ value.text := by
  cases value with
  | token token => exact absurd trivial h
  | quoted content =>
    obtain ⟨q, hq, hescaped⟩ : ∃ q ∈ content, q.escaped = true := by
      by_contra hnone
      exact h fun q hq => Bool.eq_false_iff.mpr fun hescaped => hnone ⟨q, hq, hescaped⟩
    have hmem : '\\' ∈ q.text := by
      unfold QuotedChar.text
      rw [if_pos hescaped]
      exact List.mem_cons_self
    exact List.mem_append_left _ (List.mem_cons_of_mem _ (List.mem_flatMap.mpr ⟨q, hq, hmem⟩))

/-- The quotes of a string without backslashes and inner quotes go. -/
theorem trimBy_text (h : value.Unescaped) (hquote : '"' ∉ value.content) :
    Text.trimBy (· = '"') value.text = value.content := by
  have hends := Text.trimmedBy_of_notMem hquote
  cases value with
  | token token => exact hends.trimBy_eq
  | quoted content =>
    have htext : content.flatMap QuotedChar.text = content.map QuotedChar.char := by
      rw [← List.flatMap_singleton' (content.map QuotedChar.char), List.flatMap_map]
      refine List.flatMap_congr fun q hq => ?_
      unfold QuotedChar.text
      rw [if_neg (ne_true_of_eq_false (h q hq))]
    have hmarks : ∀ c ∈ ['"'], decide (c = '"') = true := List.forall_mem_singleton.mpr rfl
    show Text.trimBy (· = '"') (['"'] ++ content.flatMap QuotedChar.text ++ ['"']) = _
    rw [htext]
    exact hends.trimBy_append hmarks hmarks

end Value

/-! ### Pairs -/

theorem Token.notMem {token : Token} {c : Char} (hc : isTokenChar c = false) : c ∉ token.text := fun hmem =>
  Bool.false_ne_true (hc.symm.trans (token.valid c hmem))

theorem Token.trimmed (token : Token) : Text.Trimmed token.text := by
  have hblank : ∀ c ∈ token.text, Text.isWhitespace c = false := by
    intro c hc
    obtain ⟨hlow, hhigh⟩ := toNat_of_isNameChar (token.valid c hc)
    rw [← Text.isWhitespace_toLower]
    simp only [Text.isWhitespace, Bool.or_eq_false_iff, Bool.and_eq_false_iff, decide_eq_false_iff_not]
    omega
  exact Text.trimmedBy_of_all (List.all_eq_true.mpr fun c hc => (Bool.not_eq_true' _).mpr (hblank c hc))

theorem Value.trimmed (value : Value) : Text.Trimmed value.text := by
  cases value with
  | token token => exact token.trimmed
  | quoted content =>
    constructor
    · intro c hc
      obtain rfl := Option.some.inj hc
      rfl
    · intro c hc
      have htext : (Value.quoted content).text = '"' :: content.flatMap QuotedChar.text ++ ['"'] := rfl
      rw [htext, List.getLast?_append_of_ne_nil _ (List.cons_ne_nil _ _)] at hc
      obtain rfl := Option.some.inj hc
      rfl

theorem Pair.trimmed (pair : Pair) : Text.Trimmed pair.text :=
  pair.name.trimmed.append_cons pair.value.trimmed rfl

/-- An element whose quoted strings have no semicolon is cut into its parts. -/
theorem Element.splitOn_text {element : Element} (hcut : ∀ pair ∈ element.pairs, ';' ∉ pair.value.text) :
    element.text.splitOn ';' = element.parts.map partText := by
  refine List.splitOn_intercalate ';' (fun text htext => ?_) (List.cons_ne_nil _ _)
  obtain ⟨part, hpart, rfl⟩ := List.mem_map.mp htext
  cases part with
  | none => exact List.not_mem_nil
  | some pair =>
    intro hmem
    rcases List.mem_append.mp hmem with hmem | hmem
    · exact Token.notMem (by decide) hmem
    · rcases List.mem_cons.mp hmem with hmem | hmem
      · exact absurd hmem (by decide)
      · exact hcut pair (List.mem_filterMap.mpr ⟨some pair, hpart, rfl⟩) hmem

/-! ### `for` -/

/-- The characters of an address; a bracketed one has colons and hexadecimal digits. -/
def isAddressChar (bracketed : Bool) (c : Char) : Bool :=
  c.isDigit || c = '.' || (bracketed && (c = ':' || ('a' ≤ c && c ≤ 'f') || ('A' ≤ c && c ≤ 'F')))

def isPortChar (c : Char) : Bool := c.isAlphanum || c = '.' || c = '_' || c = '-'

/-- `node`: an IPv4 address, or an IPv6 address in brackets, and maybe a port.  Every text of the
characters of addresses counts as one. -/
structure Node where
  bracketed : Bool
  address : List Char
  port : Option (List Char)
  valid : ∀ c ∈ address, isAddressChar bracketed c = true
  validPort : ∀ port' ∈ port, ∀ c ∈ port', isPortChar c = true

namespace Node

def name (node : Node) : List Char := if node.bracketed then '[' :: node.address ++ [']'] else node.address

def text (node : Node) : List Char := node.name ++ node.port.elim [] (':' :: ·)

variable {node : Node}

theorem notMem_address {c : Char} (h : isAddressChar true c = false) : c ∉ node.address := by
  intro hc
  have hvalid := node.valid c hc
  cases hb : node.bracketed with
  | true =>
    rw [hb, h] at hvalid
    cases hvalid
  | false =>
    rw [hb] at hvalid
    unfold isAddressChar at h hvalid
    rw [Bool.false_and, Bool.or_false] at hvalid
    rw [hvalid] at h
    cases h

theorem quote_notMem_text : '"' ∉ node.text := by
  have hname : '"' ∉ node.name := by
    unfold name
    split_ifs
    · intro hc
      rcases List.mem_append.mp hc with hc | hc
      · rcases List.mem_cons.mp hc with hc | hc
        · exact absurd hc (by decide)
        · exact notMem_address (by decide) hc
      · exact absurd hc (by decide)
    · exact notMem_address (by decide)
  intro hc
  rcases List.mem_append.mp hc with hc | hc
  · exact hname hc
  · cases hport : node.port with
    | none =>
      rw [hport] at hc
      exact absurd hc List.not_mem_nil
    | some port =>
      rw [hport] at hc
      rcases List.mem_cons.mp hc with hc | hc
      · exact absurd hc (by decide)
      · exact absurd (node.validPort port hport _ hc) (by decide)

theorem count_name {c : Char} (hopen : c ≠ '[') (hclose : c ≠ ']') :
    node.name.count c = node.address.count c := by
  unfold name
  split_ifs
  · rw [List.cons_append, List.count_cons_of_ne hopen.symm, List.count_append, List.count_singleton,
      if_neg ?_, Nat.add_zero]
    exact fun h => hclose (beq_iff_eq.mp h).symm
  · rfl

/-- The brackets go, and nothing of the address. -/
theorem trimBy_name : Text.trimBy (· = ']') (Text.trimBy (· = '[') node.name) = node.address := by
  have hopen : Text.TrimmedBy (· = '[') node.address := Text.trimmedBy_of_notMem (notMem_address (by decide))
  have hclose : Text.TrimmedBy (· = ']') node.address := Text.trimmedBy_of_notMem (notMem_address (by decide))
  unfold name
  split_ifs
  · have htrim : Text.trimBy (· = '[') ('[' :: node.address ++ [']']) = node.address ++ [']'] := by
      have htrimmed : Text.TrimmedBy (· = '[') (node.address ++ [']']) :=
        hopen.append_cons (Text.trimmedBy_nil _) (by decide)
      have hmark : ∀ c ∈ ['['], decide (c = '[') = true := List.forall_mem_singleton.mpr rfl
      have happend := htrimmed.trimBy_append hmark (List.forall_mem_nil _)
      rw [List.append_nil] at happend
      exact happend
    have hmark : ∀ c ∈ [']'], decide (c = ']') = true := List.forall_mem_singleton.mpr rfl
    rw [htrim]
    exact hclose.trimBy_append (List.forall_mem_nil _) hmark
  · rw [hopen.trimBy_eq, hclose.trimBy_eq]

end Node

/-- The value is a node with the address. -/
def NodeAddress (value : Value) (address : List Char) : Prop :=
  ∃ node : Node, value.content = node.text ∧ node.address = address

/-- The node is written without port and without backslashes. -/
def PlainNode (value : Value) (address : List Char) : Prop :=
  value.Unescaped ∧ ∃ node : Node, value.content = node.text ∧ node.address = address ∧ node.port = none

def nodeMarks : List Char := ['"', '[', ']']

theorem NodeAddress.notMem_of_mem_nodeMarks {value : Value} {address : List Char}
    (h : NodeAddress value address) :
    ∀ mark ∈ nodeMarks, mark ∉ address := by
  obtain ⟨node, -, rfl⟩ := h
  have hmarks : (nodeMarks.all fun mark => !isAddressChar true mark) = true := by decide
  intro mark hmark
  exact Node.notMem_address ((Bool.not_eq_true' _).mp (List.all_eq_true.mp hmarks mark hmark))

/-- Without its marks a node is its address exactly when it is plain. -/
theorem NodeAddress.trimMarks_iff {value : Value} {address : List Char} (h : NodeAddress value address) :
    Text.trimMarks nodeMarks value.text = address ↔ PlainNode value address := by
  constructor
  · intro hclean
    obtain ⟨node, hcontent, rfl⟩ := h
    refine ⟨?_, node, hcontent, rfl, ?_⟩
    · -- a backslash would stay
      by_contra hescaped
      have hcount := Text.count_trimMarks (show '\\' ∉ nodeMarks by decide) value.text
      rw [hclean, List.count_eq_zero.mpr (Node.notMem_address (by decide))] at hcount
      exact List.count_eq_zero.mp hcount.symm (Value.backslash_mem_text hescaped)
    · -- the colon before a port would stay
      cases hport : node.port with
      | none => rfl
      | some port =>
        have hcount := Text.count_trimMarks (show ':' ∉ nodeMarks by decide) value.text
        rw [hclean, Value.count_text (by decide) (by decide), hcontent, Node.text, hport, List.count_append,
          Node.count_name (by decide) (by decide)] at hcount
        have hcolon : 0 < (':' :: port).count ':' := List.count_pos_iff.mpr List.mem_cons_self
        have hadd : node.address.count ':' = node.address.count ':' + (':' :: port).count ':' := hcount
        omega
  · rintro ⟨hunescaped, node, hcontent, rfl, hport⟩
    have hname : node.text = node.name := by
      unfold Node.text
      rw [hport]
      exact List.append_nil _
    have hquote : '"' ∉ value.content := by
      rw [hcontent]
      exact Node.quote_notMem_text
    show Text.trimBy (· = ']') (Text.trimBy (· = '[') (Text.trimBy (· = '"') value.text)) = node.address
    rw [Value.trimBy_text hunescaped hquote, hcontent, hname, Node.trimBy_name]

/-! ### `proto` -/

def isSchemeChar (c : Char) : Bool := c.isAlphanum || c = '+' || c = '-' || c = '.'

/-- The value is the scheme. -/
def SchemeOf (value : Value) (scheme : List Char) : Prop :=
  value.content = scheme ∧ ∀ c ∈ scheme, isSchemeChar c = true

theorem SchemeOf.notMem {value : Value} {scheme : List Char} (h : SchemeOf value scheme) {c : Char}
    (hc : isSchemeChar c = false) : c ∉ scheme := fun hmem =>
  Bool.false_ne_true (hc.symm.trans (h.2 c hmem))

theorem SchemeOf.trimMarks_iff {value : Value} {scheme : List Char} (h : SchemeOf value scheme) :
    Text.trimMarks ['"'] value.text = scheme ↔ value.Unescaped := by
  constructor
  · intro hclean
    by_contra hescaped
    have hcount := Text.count_trimMarks (show '\\' ∉ ['"'] by decide) value.text
    rw [hclean, List.count_eq_zero.mpr (h.notMem rfl)] at hcount
    exact List.count_eq_zero.mp hcount.symm (Value.backslash_mem_text hescaped)
  · intro hunescaped
    have hquote : '"' ∉ value.content := by
      rw [h.1]
      exact h.notMem rfl
    show Text.trimBy (· = '"') value.text = scheme
    rw [Value.trimBy_text hunescaped hquote, h.1]

end Forwarded

end KidProxy
