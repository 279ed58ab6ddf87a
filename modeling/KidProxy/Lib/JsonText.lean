import KidProxy.Lib.Json
import KidProxy.Lib.SortedMap
import Mathlib.Data.String.Basic

/-!
# Lib.JsonText — reading JSON, and printing it with white space

The text is cut into tokens by one machine, and the tokens are put together by another; each goes once
from left to right.  `parse_print` says that what a printer writes is read back, whatever white space it
puts between the tokens.
-/

namespace Json

/-! ### Tokens -/

inductive Token
  | beginArr
  | endArr
  | beginObj
  | endObj
  | comma
  | colon
  | null
  | bool (value : Bool)
  | num (value : Number)
  | str (value : String)
  deriving DecidableEq

def isBlank (c : Char) : Bool := c = ' ' || c = '\n' || c = '\r' || c = '\t'

/-- The characters of literals and numbers. -/
def isWordChar (c : Char) : Bool := c.isAlpha || c.isDigit || c = '+' || c = '-' || c = '.'

def wordToken (word : List Char) : Option Token :=
  if word = "null".toList then some .null
  else if word = "true".toList then some (.bool true)
  else if word = "false".toList then some (.bool false)
  else if h : isNumber word = true then some (.num ⟨word, h⟩)
  else none

def punctuation : Char → Option Token
  | '[' => some .beginArr
  | ']' => some .endArr
  | '\x7b' => some .beginObj
  | '\x7d' => some .endObj
  | ',' => some .comma
  | ':' => some .colon
  | _ => none

/-- Where the reader of the text stands. -/
inductive Mode
  | blank
  | word (text : List Char)
  | string (text : List Char)
  | escape (text : List Char)
  /-- Hexadecimal digits, perhaps behind a high surrogate. -/
  | unicode (text : List Char) (high : Option ℕ) (digits value : ℕ)
  | surrogate (text : List Char) (high : ℕ)
  | surrogateEscape (text : List Char) (high : ℕ)
  deriving DecidableEq

structure Lexer where
  mode : Mode
  tokens : List Token
  deriving DecidableEq

/-- A complete `\u` escape; a surrogate that is alone is an error. -/
def closeUnicode (text : List Char) (high : Option ℕ) (value : ℕ) : Option Mode :=
  let isHigh := 0xD800 ≤ value && value < 0xDC00
  let isLow := 0xDC00 ≤ value && value < 0xE000
  match high with
  | none =>
    if isHigh then some (.surrogate text value)
    else if isLow then none
    else some (.string (text ++ [Char.ofNat value]))
  | some high =>
    if isLow then
      some (.string (text ++ [Char.ofNat (0x10000 + (high - 0xD800) * 0x400 + (value - 0xDC00))]))
    else none

def escaped : Char → Option Char
  | '"' => some '"'
  | '\\' => some '\\'
  | '/' => some '/'
  | 'b' => some (Char.ofNat 8)
  | 'f' => some (Char.ofNat 12)
  | 'n' => some '\n'
  | 'r' => some '\r'
  | 't' => some '\t'
  | _ => none

/-- A character between two tokens. -/
def lexBlank (tokens : List Token) (c : Char) : Option Lexer :=
  if isBlank c then some ⟨.blank, tokens⟩
  else if c = '"' then some ⟨.string [], tokens⟩
  else if isWordChar c then some ⟨.word [c], tokens⟩
  else (punctuation c).map fun token => ⟨.blank, tokens ++ [token]⟩

def lexStep (s : Lexer) (c : Char) : Option Lexer :=
  match s.mode with
  | .blank => lexBlank s.tokens c
  | .word text =>
    if isWordChar c then some ⟨.word (text ++ [c]), s.tokens⟩
    else (wordToken text).bind fun token => lexBlank (s.tokens ++ [token]) c
  | .string text =>
    if c = '"' then some ⟨.blank, s.tokens ++ [.str (String.ofList text)]⟩
    else if c = '\\' then some ⟨.escape text, s.tokens⟩
    else if c.toNat < 32 then none
    else some ⟨.string (text ++ [c]), s.tokens⟩
  | .escape text =>
    if c = 'u' then some ⟨.unicode text none 0 0, s.tokens⟩
    else (escaped c).map fun d => ⟨.string (text ++ [d]), s.tokens⟩
  | .unicode text high digits value =>
    (Text.hexValue c).bind fun digit =>
      if digits < 3 then some ⟨.unicode text high (digits + 1) (value * 16 + digit), s.tokens⟩
      else (closeUnicode text high (value * 16 + digit)).map fun mode => ⟨mode, s.tokens⟩
  | .surrogate text high => if c = '\\' then some ⟨.surrogateEscape text high, s.tokens⟩ else none
  | .surrogateEscape text high =>
    if c = 'u' then some ⟨.unicode text (some high) 0 0, s.tokens⟩ else none

def lexFrom (s : Lexer) (cs : List Char) : Option Lexer := cs.foldlM lexStep s

/-- The end of the text. -/
def Lexer.finish (s : Lexer) : Option (List Token) :=
  match s.mode with
  | .blank => some s.tokens
  | .word text => (wordToken text).map fun token => s.tokens ++ [token]
  | _ => none

def lex (cs : List Char) : Option (List Token) := (lexFrom ⟨.blank, []⟩ cs).bind Lexer.finish

/-! ### Values -/

/-- What is still open around a value. -/
inductive Frame
  | arr (items : List Json)
  | obj (members : List (String × Json)) (key : String)

inductive Parser
  | value (stack : List Frame)
  | firstItem (stack : List Frame)
  | firstKey (stack : List Frame)
  | key (members : List (String × Json)) (stack : List Frame)
  | colon (members : List (String × Json)) (key : String) (stack : List Frame)
  | done (value : Json) (stack : List Frame)

/-- The first token of a value. -/
def parseValue (stack : List Frame) : Token → Option Parser
  | .null => some (.done .null stack)
  | .bool value => some (.done (.bool value) stack)
  | .num value => some (.done (.num value) stack)
  | .str value => some (.done (.str value) stack)
  | .beginArr => some (.firstItem stack)
  | .beginObj => some (.firstKey stack)
  | _ => none

def parseStep : Parser → Token → Option Parser
  | .value stack, token => parseValue stack token
  | .firstItem stack, .endArr => some (.done (.arr []) stack)
  | .firstItem stack, token => parseValue (.arr [] :: stack) token
  | .firstKey stack, .endObj => some (.done (.obj []) stack)
  | .firstKey stack, .str key => some (.colon [] key stack)
  | .key members stack, .str key => some (.colon members key stack)
  | .colon members key stack, .colon => some (.value (.obj members key :: stack))
  | .done value (.arr items :: stack), .comma => some (.value (.arr (items ++ [value]) :: stack))
  | .done value (.arr items :: stack), .endArr => some (.done (.arr (items ++ [value])) stack)
  | .done value (.obj members key :: stack), .comma => some (.key (members ++ [(key, value)]) stack)
  | .done value (.obj members key :: stack), .endObj =>
    some (.done (.obj (members ++ [(key, value)])) stack)
  | _, _ => none

def parseFrom (s : Parser) (tokens : List Token) : Option Parser := tokens.foldlM parseStep s

def Parser.finish : Parser → Option Json
  | .done v [] => some v
  | _ => none

def parseTokens (tokens : List Token) : Option Json := (parseFrom (.value []) tokens).bind Parser.finish

/-- `from_str`, without a limit on nesting. -/
def parse (cs : List Char) : Option Json := (lex cs).bind parseTokens

/-! ### Printing -/

/-- The white space that a printer puts before the parts of an array or object, and before a value. -/
structure Layout where
  newline : ℕ → List Char
  space : List Char
  newline_blank : ∀ level, ∀ c ∈ newline level, isBlank c = true
  space_blank : ∀ c ∈ space, isBlank c = true

def Layout.compact : Layout := ⟨fun _ => [], [], fun _ => nofun, nofun⟩

/-- Two spaces for each level. -/
def Layout.pretty : Layout where
  newline level := '\n' :: List.replicate (2 * level) ' '
  space := [' ']
  newline_blank level c hc := by
    rcases List.mem_cons.mp hc with rfl | hc
    · rfl
    · rw [List.eq_of_mem_replicate hc]
      rfl
  space_blank c hc := by
    rw [List.mem_singleton.mp hc]
    rfl

mutual

def print (layout : Layout) (level : ℕ) : Json → List Char
  | .arr [] => ['[', ']']
  | .arr (item :: items) =>
    '[' :: printItems layout (level + 1) (item :: items) ++ layout.newline level ++ [']']
  | .obj [] => ['\x7b', '\x7d']
  | .obj (member :: members) =>
    '\x7b' :: printMembers layout (level + 1) (member :: members) ++ layout.newline level ++ ['\x7d']
  | .null => "null".toList
  | .bool true => "true".toList
  | .bool false => "false".toList
  | .num value => value.literal
  | .str value => renderString value

def printItems (layout : Layout) (level : ℕ) : List Json → List Char
  | [] => []
  | [item] => layout.newline level ++ print layout level item
  | item :: items =>
    layout.newline level ++ print layout level item ++ ',' :: printItems layout level items

def printMembers (layout : Layout) (level : ℕ) : List (String × Json) → List Char
  | [] => []
  | [(key, value)] =>
    layout.newline level ++ renderString key ++ ':' :: layout.space ++ print layout level value
  | (key, value) :: members =>
    layout.newline level ++ renderString key ++ ':' :: layout.space ++ print layout level value ++
      ',' :: printMembers layout level members

end

/-- `to_string_pretty`. -/
def prettyText (value : Json) : String := String.ofList (value.print .pretty 0)

mutual

def tokens : Json → List Token
  | .null => [.null]
  | .bool value => [.bool value]
  | .num value => [.num value]
  | .str value => [.str value]
  | .arr items => .beginArr :: itemTokens items ++ [.endArr]
  | .obj members => .beginObj :: memberTokens members ++ [.endObj]

def itemTokens : List Json → List Token
  | [] => []
  | [item] => tokens item
  | item :: items => tokens item ++ .comma :: itemTokens items

def memberTokens : List (String × Json) → List Token
  | [] => []
  | [(key, value)] => .str key :: .colon :: tokens value
  | (key, value) :: members => .str key :: .colon :: tokens value ++ .comma :: memberTokens members

end

/-! ### The tokens of a text -/

theorem lexFrom_append (s : Lexer) (cs ds : List Char) :
    lexFrom s (cs ++ ds) = (lexFrom s cs).bind fun s => lexFrom s ds := List.foldlM_append

theorem lexFrom_cons (s : Lexer) (c : Char) (cs : List Char) :
    lexFrom s (c :: cs) = (lexStep s c).bind fun s => lexFrom s cs := List.foldlM_cons

/-- The text read so far comes to these tokens if it ends here. -/
inductive Settled : Lexer → List Token → Prop
  | blank (tokens : List Token) : Settled ⟨.blank, tokens⟩ tokens
  | word {text : List Char} {token : Token} (tokens : List Token) (h : wordToken text = some token) :
    Settled ⟨.word text, tokens⟩ (tokens ++ [token])

theorem Settled.finish {s : Lexer} {tokens : List Token} (h : Settled s tokens) : s.finish = some tokens := by
  cases h with
  | blank => rfl
  | word tokens h => simp [Lexer.finish, h]

/-- What is no part of a word closes it. -/
theorem Settled.step {s : Lexer} {tokens : List Token} {c : Char} (h : Settled s tokens)
    (hc : isWordChar c = false) : lexStep s c = lexBlank tokens c := by
  cases h with
  | blank => rfl
  | word tokens h => simp [lexStep, hc, h]

def Lexes (s : Lexer) (cs : List Char) (tokens : List Token) : Prop :=
  ∃ s', lexFrom s cs = some s' ∧ Settled s' tokens

theorem Lexes.after {s s' : Lexer} {cs ds : List Char} {tokens : List Token}
    (h : lexFrom s cs = some s') (h' : Lexes s' ds tokens) : Lexes s (cs ++ ds) tokens := by
  obtain ⟨s'', hlex, hsettled⟩ := h'
  refine ⟨s'', ?_, hsettled⟩
  rw [lexFrom_append, h]
  exact hlex

theorem isWordChar_of_isBlank {c : Char} (h : isBlank c = true) : isWordChar c = false := by
  have hcases : c = ' ' ∨ c = '\n' ∨ c = '\r' ∨ c = '\t' := by
    simpa [isBlank, or_assoc] using h
  rcases hcases with rfl | rfl | rfl | rfl <;> decide

theorem Settled.blanks {s : Lexer} {tokens : List Token} {ws : List Char} (h : Settled s tokens)
    (hws : ∀ c ∈ ws, isBlank c = true) : Lexes s ws tokens := by
  induction ws generalizing s with
  | nil => exact ⟨s, rfl, h⟩
  | cons c ws ih =>
    have hc := hws c List.mem_cons_self
    have hstep : lexStep s c = some ⟨.blank, tokens⟩ := by
      rw [h.step (isWordChar_of_isBlank hc)]
      exact if_pos hc
    obtain ⟨s', hlex, hsettled⟩ := ih (.blank tokens) fun d hd => hws d (List.mem_cons_of_mem _ hd)
    refine ⟨s', ?_, hsettled⟩
    rw [lexFrom_cons, hstep]
    exact hlex

theorem Lexes.blanks {s : Lexer} {cs ws : List Char} {tokens : List Token} (h : Lexes s cs tokens)
    (hws : ∀ c ∈ ws, isBlank c = true) : Lexes s (cs ++ ws) tokens := by
  obtain ⟨s', hlex, hsettled⟩ := h
  exact .after hlex (hsettled.blanks hws)

/-- White space in front of a text. -/
theorem Lexes.skip {tokens tokens' : List Token} {ws cs : List Char} (hws : ∀ c ∈ ws, isBlank c = true)
    (h : Lexes ⟨.blank, tokens⟩ cs tokens') : Lexes ⟨.blank, tokens⟩ (ws ++ cs) tokens' := by
  induction ws with
  | nil => exact h
  | cons c ws ih =>
    have hstep : lexFrom ⟨.blank, tokens⟩ [c] = some ⟨.blank, tokens⟩ := by
      rw [lexFrom_cons]
      show (lexBlank tokens c).bind _ = _
      rw [lexBlank, if_pos (hws c List.mem_cons_self)]
      rfl
    have hrest := ih fun d hd => hws d (List.mem_cons_of_mem _ hd)
    have hlexes : Lexes ⟨.blank, tokens⟩ ([c] ++ (ws ++ cs)) tokens' := .after hstep hrest
    exact hlexes

theorem lexBlank_of_punctuation {c : Char} {token : Token} (h : punctuation c = some token)
    (tokens : List Token) : isWordChar c = false ∧ lexBlank tokens c = some ⟨.blank, tokens ++ [token]⟩ := by
  unfold punctuation at h
  split at h <;> first | (cases h; exact ⟨by decide, rfl⟩) | cases h

theorem Lexes.punctuation {s : Lexer} {cs : List Char} {tokens : List Token} {c : Char} {token : Token}
    (h : Lexes s cs tokens) (hc : punctuation c = some token) :
    lexFrom s (cs ++ [c]) = some ⟨.blank, tokens ++ [token]⟩ := by
  obtain ⟨s', hlex, hsettled⟩ := h
  obtain ⟨hword, hblank⟩ := lexBlank_of_punctuation hc tokens
  rw [lexFrom_append, hlex, Option.bind_some, lexFrom_cons, hsettled.step hword, hblank]
  rfl

theorem lexFrom_punctuation {c : Char} {token : Token} (hc : punctuation c = some token)
    (tokens : List Token) : lexFrom ⟨.blank, tokens⟩ [c] = some ⟨.blank, tokens ++ [token]⟩ := by
  have hempty : Lexes ⟨.blank, tokens⟩ [] tokens := ⟨_, rfl, .blank tokens⟩
  exact hempty.punctuation hc

/-! ### Words -/

theorem lexFrom_word {text cs : List Char} {tokens : List Token} (h : ∀ c ∈ cs, isWordChar c = true) :
    lexFrom ⟨.word text, tokens⟩ cs = some ⟨.word (text ++ cs), tokens⟩ := by
  induction cs generalizing text with
  | nil => rw [List.append_nil]; rfl
  | cons c cs ih =>
    have hstep : lexStep ⟨.word text, tokens⟩ c = some ⟨.word (text ++ [c]), tokens⟩ :=
      if_pos (h c List.mem_cons_self)
    rw [lexFrom_cons, hstep, Option.bind_some, ih fun d hd => h d (List.mem_cons_of_mem _ hd),
      List.append_assoc]
    rfl

theorem isBlank_of_isWordChar {c : Char} (h : isWordChar c = true) : isBlank c = false := by
  cases hb : isBlank c with
  | false => rfl
  | true => exact absurd h (ne_true_of_eq_false (isWordChar_of_isBlank hb))

theorem lexes_word {word : List Char} {token : Token} (h : ∀ c ∈ word, isWordChar c = true)
    (hne : word ≠ []) (htoken : wordToken word = some token) (tokens : List Token) :
    Lexes ⟨.blank, tokens⟩ word (tokens ++ [token]) := by
  cases word with
  | nil => exact absurd rfl hne
  | cons c cs =>
    have hc := h c List.mem_cons_self
    have hquote : c ≠ '"' := by
      rintro rfl
      exact absurd hc (by decide)
    have hstep : lexStep ⟨.blank, tokens⟩ c = some ⟨.word [c], tokens⟩ := by
      show lexBlank tokens c = _
      rw [lexBlank, if_neg (ne_true_of_eq_false (isBlank_of_isWordChar hc)), if_neg hquote, if_pos hc]
    refine ⟨⟨.word (c :: cs), tokens⟩, ?_, .word tokens htoken⟩
    rw [lexFrom_cons, hstep, Option.bind_some, lexFrom_word fun d hd => h d (List.mem_cons_of_mem _ hd)]
    rfl

theorem isWordChar_of_isDigit {c : Char} (h : c.isDigit = true) : isWordChar c = true := by
  simp [isWordChar, h]

theorem isWordChar_of_isExponent {cs : List Char} (h : isExponent cs = true) :
    ∀ c ∈ cs, isWordChar c = true := by
  have hdigits : ∀ ds : List Char, isDigits ds = true → ∀ c ∈ ds, isWordChar c = true :=
    fun ds hds c hc => isWordChar_of_isDigit (isDigit_of_isDigits hds c hc)
  unfold isExponent at h
  split at h
  · intro c hc
    rcases List.mem_cons.mp hc with rfl | hc
    · decide
    · exact hdigits _ h c hc
  · intro c hc
    rcases List.mem_cons.mp hc with rfl | hc
    · decide
    · exact hdigits _ h c hc
  · exact hdigits _ h

/-- A part up to a mark, and behind the mark what it announces. -/
theorem isWordChar_of_marked (p : Char → Bool) {l : List Char}
    (hpart : ∀ c ∈ l.takeWhile p, isWordChar c = true) (hmark : ∀ c, p c = false → isWordChar c = true)
    (htail : ∀ c ∈ (l.dropWhile p).tail, isWordChar c = true) : ∀ c ∈ l, isWordChar c = true := by
  intro c hc
  rw [← List.takeWhile_append_dropWhile (p := p) (l := l)] at hc
  rcases List.mem_append.mp hc with hc | hc
  · exact hpart c hc
  · cases hl : l.dropWhile p with
    | nil =>
      rw [hl] at hc
      exact absurd hc List.not_mem_nil
    | cons d ds =>
      have hd : p d = false := by
        have hhead := List.head?_dropWhile_not p l
        rw [hl] at hhead
        simpa using hhead
      rw [hl] at hc htail
      rcases List.mem_cons.mp hc with rfl | hc
      · exact hmark _ hd
      · exact htail c hc

theorem isWordChar_of_missing_or {p : List Char → Bool} {cs : List Char}
    (h : (cs.isEmpty || p cs.tail) = true) (hp : ∀ ds, p ds = true → ∀ c ∈ ds, isWordChar c = true) :
    ∀ c ∈ cs.tail, isWordChar c = true := by
  rcases Bool.or_eq_true_iff.mp h with hempty | htail
  · rw [List.isEmpty_iff.mp hempty]
    exact List.forall_mem_nil _
  · exact hp _ htail

theorem isWordChar_of_isUnsigned {cs : List Char} (h : isUnsigned cs = true) :
    ∀ c ∈ cs, isWordChar c = true := by
  have hdigits : ∀ ds : List Char, isDigits ds = true → ∀ c ∈ ds, isWordChar c = true :=
    fun ds hds c hc => isWordChar_of_isDigit (isDigit_of_isDigits hds c hc)
  unfold isUnsigned at h
  obtain ⟨h, hexponent⟩ := Bool.and_eq_true_iff.mp h
  obtain ⟨hinteger, hfraction⟩ := Bool.and_eq_true_iff.mp h
  refine isWordChar_of_marked isMantissaChar (isWordChar_of_marked (· ≠ '.') ?_ ?_ ?_) ?_ ?_
  · exact hdigits _ (Bool.and_eq_true_iff.mp hinteger).1
  · intro c hc
    obtain rfl : c = '.' := by simpa using hc
    decide
  · exact isWordChar_of_missing_or hfraction hdigits
  · intro c hc
    have hcases : c = 'e' ∨ c = 'E' := by
      simp only [isMantissaChar, ne_eq, Bool.and_eq_false_iff, decide_eq_false_iff_not, not_not] at hc
      exact hc
    rcases hcases with rfl | rfl <;> decide
  · exact isWordChar_of_missing_or hexponent fun ds => isWordChar_of_isExponent

theorem isWordChar_of_isNumber {cs : List Char} (h : isNumber cs = true) : ∀ c ∈ cs, isWordChar c = true := by
  unfold isNumber at h
  split at h
  · intro c hc
    rcases List.mem_cons.mp hc with rfl | hc
    · decide
    · exact isWordChar_of_isUnsigned h c hc
  · exact isWordChar_of_isUnsigned h

theorem wordToken_literal (n : Number) : wordToken n.literal = some (.num n) := by
  have hother : ∀ word : List Char, isNumber word = false → n.literal ≠ word := by
    rintro word hword heq
    exact absurd (heq ▸ n.valid) (ne_true_of_eq_false hword)
  unfold wordToken
  rw [if_neg (hother _ (by decide)), if_neg (hother _ (by decide)), if_neg (hother _ (by decide)),
    dif_pos n.valid]

theorem lexes_number (n : Number) (tokens : List Token) :
    Lexes ⟨.blank, tokens⟩ n.literal (tokens ++ [.num n]) := by
  refine lexes_word (isWordChar_of_isNumber n.valid) ?_ (wordToken_literal n) tokens
  intro hnil
  exact absurd (hnil ▸ n.valid) (by decide)

/-! ### Strings -/

theorem lexFrom_unicode (text : List Char) (tokens : List Token) {n : ℕ} (h : n < 32) :
    lexFrom ⟨.unicode text none 0 0, tokens⟩ ['0', '0', Text.hexDigit (n / 16), Text.hexDigit (n % 16)] =
      some ⟨.string (text ++ [Char.ofNat n]), tokens⟩ := by
  have hclose : closeUnicode text none (n / 16 * 16 + n % 16) =
      some (.string (text ++ [Char.ofNat n])) := by
    have hn : n / 16 * 16 + n % 16 = n := by omega
    have hhigh : ¬ 0xD800 ≤ n := by omega
    have hlow : ¬ 0xDC00 ≤ n := by omega
    rw [hn]
    simp [closeUnicode, hhigh, hlow]
  have hlast : lexStep ⟨.unicode text none 3 (n / 16), tokens⟩ (Text.hexDigit (n % 16)) =
      some ⟨.string (text ++ [Char.ofNat n]), tokens⟩ := by
    show (Text.hexValue _).bind _ = _
    rw [Text.hexValue_hexDigit (by omega), Option.bind_some, if_neg (by omega), hclose]
    rfl
  have hthird : lexStep ⟨.unicode text none 2 0, tokens⟩ (Text.hexDigit (n / 16)) =
      some ⟨.unicode text none 3 (n / 16), tokens⟩ := by
    show (Text.hexValue _).bind _ = _
    rw [Text.hexValue_hexDigit (by omega), Option.bind_some, if_pos (by omega), Nat.zero_mul, Nat.zero_add]
  show (lexStep ⟨.unicode text none 2 0, tokens⟩ (Text.hexDigit (n / 16))).bind _ = _
  rw [hthird]
  show (lexStep ⟨.unicode text none 3 (n / 16), tokens⟩ (Text.hexDigit (n % 16))).bind _ = _
  rw [hlast]
  rfl

theorem lexFrom_escapeChar (text : List Char) (tokens : List Token) (c : Char) :
    lexFrom ⟨.string text, tokens⟩ (escapeChar c) = some ⟨.string (text ++ [c]), tokens⟩ := by
  have hnamed : ∀ d : Char, escaped d = some c → d ≠ 'u' →
      lexFrom ⟨.string text, tokens⟩ ['\\', d] = some ⟨.string (text ++ [c]), tokens⟩ := by
    intro d hd hu
    have hstep : lexStep ⟨.escape text, tokens⟩ d = some ⟨.string (text ++ [c]), tokens⟩ := by
      show (if d = 'u' then _ else _) = _
      rw [if_neg hu, hd]
      rfl
    show (lexStep ⟨.escape text, tokens⟩ d).bind _ = _
    rw [hstep]
    rfl
  unfold escapeChar
  split_ifs with hquote hbackslash hn hr ht hb hf hcontrol
  · exact hnamed '"' (congrArg some hquote.symm) (by decide)
  · exact hnamed '\\' (congrArg some hbackslash.symm) (by decide)
  · exact hnamed 'n' (congrArg some hn.symm) (by decide)
  · exact hnamed 'r' (congrArg some hr.symm) (by decide)
  · exact hnamed 't' (congrArg some ht.symm) (by decide)
  · have hc : Char.ofNat 8 = c := by rw [← hb, Char.ofNat_toNat]
    exact hnamed 'b' (congrArg some hc) (by decide)
  · have hc : Char.ofNat 12 = c := by rw [← hf, Char.ofNat_toNat]
    exact hnamed 'f' (congrArg some hc) (by decide)
  · have hunicode := lexFrom_unicode text tokens hcontrol
    rw [Char.ofNat_toNat] at hunicode
    exact hunicode
  · have hstep : lexStep ⟨.string text, tokens⟩ c = some ⟨.string (text ++ [c]), tokens⟩ := by
      show (if c = '"' then _ else _) = _
      rw [if_neg hquote, if_neg hbackslash, if_neg hcontrol]
    rw [lexFrom_cons, hstep]
    rfl

theorem lexFrom_escaped (text : List Char) (tokens : List Token) (cs : List Char) :
    lexFrom ⟨.string text, tokens⟩ (cs.flatMap escapeChar) = some ⟨.string (text ++ cs), tokens⟩ := by
  induction cs generalizing text with
  | nil => rw [List.append_nil]; rfl
  | cons c cs ih =>
    rw [List.flatMap_cons, lexFrom_append, lexFrom_escapeChar, Option.bind_some, ih, List.append_assoc]
    rfl

theorem lexFrom_renderString (s : String) (tokens : List Token) :
    lexFrom ⟨.blank, tokens⟩ (renderString s) = some ⟨.blank, tokens ++ [.str s]⟩ := by
  have hopen : lexStep ⟨.blank, tokens⟩ '"' = some ⟨.string [], tokens⟩ := rfl
  have hclose : lexFrom ⟨.string s.toList, tokens⟩ ['"'] = some ⟨.blank, tokens ++ [.str s]⟩ := by
    show (some (Lexer.mk .blank (tokens ++ [.str (String.ofList s.toList)]))) = _
    rw [String.ofList_toList]
  unfold renderString
  rw [List.cons_append, lexFrom_cons, hopen, Option.bind_some, lexFrom_append, lexFrom_escaped,
    Option.bind_some, List.nil_append, hclose]

/-! ### What is printed is read -/

/-- A text between brackets. -/
theorem lexes_enclosed {first last : Char} {before after : Token} {ts inner : List Token}
    {body ws : List Char} (hfirst : punctuation first = some before) (hlast : punctuation last = some after)
    (hws : ∀ c ∈ ws, isBlank c = true) (h : Lexes ⟨.blank, ts ++ [before]⟩ body (ts ++ [before] ++ inner)) :
    Lexes ⟨.blank, ts⟩ (first :: body ++ ws ++ [last]) (ts ++ (before :: inner ++ [after])) := by
  have hbody : Lexes ⟨.blank, ts⟩ (first :: body) (ts ++ [before] ++ inner) := by
    have hopen := lexFrom_punctuation hfirst ts
    exact .after hopen h
  have hclose := (hbody.blanks hws).punctuation hlast
  refine ⟨_, hclose, ?_⟩
  have hassoc : ts ++ [before] ++ inner ++ [after] = ts ++ (before :: inner ++ [after]) := by simp
  rw [hassoc]
  exact .blank _

/-- Two texts with a comma between them. -/
theorem lexes_separated {ts left right : List Token} {cs ds : List Char}
    (h : Lexes ⟨.blank, ts⟩ cs (ts ++ left))
    (h' : Lexes ⟨.blank, ts ++ left ++ [.comma]⟩ ds (ts ++ left ++ [.comma] ++ right)) :
    Lexes ⟨.blank, ts⟩ (cs ++ ',' :: ds) (ts ++ (left ++ .comma :: right)) := by
  have hcomma := h.punctuation (c := ',') rfl
  have hboth := Lexes.after hcomma h'
  simpa using hboth

/-- A member: its key, and the value behind the colon. -/
theorem lexes_member {layout : Layout} {level : ℕ} {key : String} {ts inner : List Token}
    {cs : List Char}
    (h : Lexes ⟨.blank, ts ++ [.str key] ++ [.colon]⟩ cs (ts ++ [.str key] ++ [.colon] ++ inner)) :
    Lexes ⟨.blank, ts⟩ (layout.newline level ++ renderString key ++ ':' :: layout.space ++ cs)
      (ts ++ .str key :: .colon :: inner) := by
  have hvalue := h.skip layout.space_blank
  have hkey : Lexes ⟨.blank, ts⟩ (renderString key) (ts ++ [.str key]) :=
    ⟨_, lexFrom_renderString key ts, .blank _⟩
  have hcolon := (hkey.skip (layout.newline_blank level)).punctuation (c := ':') rfl
  have hboth := Lexes.after hcolon hvalue
  simpa using hboth

theorem lexes_nil (ts : List Token) : Lexes ⟨.blank, ts⟩ [] (ts ++ []) := by
  rw [List.append_nil]
  exact ⟨_, rfl, .blank ts⟩

mutual

theorem lexes_print (layout : Layout) : ∀ (level : ℕ) (v : Json) (ts : List Token),
    Lexes ⟨.blank, ts⟩ (print layout level v) (ts ++ tokens v)
  | level, .null, ts => by
    rw [print]
    exact lexes_word (List.all_eq_true.mp (by decide)) (by decide) rfl ts
  | level, .bool true, ts => by
    rw [print]
    exact lexes_word (List.all_eq_true.mp (by decide)) (by decide) rfl ts
  | level, .bool false, ts => by
    rw [print]
    exact lexes_word (List.all_eq_true.mp (by decide)) (by decide) rfl ts
  | level, .num n, ts => by
    rw [print]
    exact lexes_number n ts
  | level, .str s, ts => by
    rw [print]
    exact ⟨_, lexFrom_renderString s ts, .blank _⟩
  | level, .arr [], ts => by
    have hnil : ∀ c ∈ ([] : List Char), isBlank c = true := nofun
    rw [print, tokens, itemTokens]
    exact lexes_enclosed rfl rfl hnil (lexes_nil _)
  | level, .arr (item :: items), ts => by
    rw [print]
    exact lexes_enclosed rfl rfl (layout.newline_blank level)
      (lexes_printItems layout (level + 1) (item :: items) (List.cons_ne_nil _ _) _)
  | level, .obj [], ts => by
    have hnil : ∀ c ∈ ([] : List Char), isBlank c = true := nofun
    rw [print, tokens, memberTokens]
    exact lexes_enclosed rfl rfl hnil (lexes_nil _)
  | level, .obj (member :: members), ts => by
    rw [print]
    exact lexes_enclosed rfl rfl (layout.newline_blank level)
      (lexes_printMembers layout (level + 1) (member :: members) (List.cons_ne_nil _ _) _)

theorem lexes_printItems (layout : Layout) : ∀ (level : ℕ) (items : List Json), items ≠ [] →
    ∀ ts : List Token, Lexes ⟨.blank, ts⟩ (printItems layout level items) (ts ++ itemTokens items)
  | level, [], h, ts => absurd rfl h
  | level, [item], _, ts => by
    rw [printItems, itemTokens]
    exact (lexes_print layout level item ts).skip (layout.newline_blank level)
  | level, item :: next :: items, _, ts => by
    rw [printItems, itemTokens]
    · exact lexes_separated ((lexes_print layout level item ts).skip (layout.newline_blank level))
        (lexes_printItems layout level (next :: items) (List.cons_ne_nil _ _) _)
    · exact List.cons_ne_nil _ _
    · exact List.cons_ne_nil _ _

theorem lexes_printMembers (layout : Layout) : ∀ (level : ℕ) (members : List (String × Json)),
    members ≠ [] →
    ∀ ts : List Token, Lexes ⟨.blank, ts⟩ (printMembers layout level members) (ts ++ memberTokens members)
  | level, [], h, ts => absurd rfl h
  | level, [(key, value)], _, ts => by
    rw [printMembers, memberTokens]
    exact lexes_member (lexes_print layout level value _)
  | level, (key, value) :: next :: members, _, ts => by
    rw [printMembers, memberTokens]
    · exact lexes_separated (lexes_member (lexes_print layout level value _))
        (lexes_printMembers layout level (next :: members) (List.cons_ne_nil _ _) _)
    · exact List.cons_ne_nil _ _
    · exact List.cons_ne_nil _ _

end

theorem lex_print (layout : Layout) (level : ℕ) (v : Json) :
    lex (print layout level v) = some (tokens v) := by
  obtain ⟨s, hlex, hsettled⟩ := lexes_print layout level v []
  rw [lex, hlex]
  exact hsettled.finish

theorem parseFrom_append (s : Parser) (ts us : List Token) :
    parseFrom s (ts ++ us) = (parseFrom s ts).bind fun s => parseFrom s us := List.foldlM_append

/-- Where an item may come first, and the array does not end. -/
theorem parseFrom_firstItem (v : Json) (stack : List Frame) (ts : List Token) :
    parseFrom (.firstItem stack) (tokens v ++ ts) =
      parseFrom (.value (.arr [] :: stack)) (tokens v ++ ts) := by
  cases v <;> rfl

theorem parseFrom_firstItems (item : Json) (items : List Json) (stack : List Frame) (ts : List Token) :
    parseFrom (.firstItem stack) (itemTokens (item :: items) ++ ts) =
      parseFrom (.value (.arr [] :: stack)) (itemTokens (item :: items) ++ ts) := by
  cases items with
  | nil =>
    rw [itemTokens]
    exact parseFrom_firstItem item stack ts
  | cons next items =>
    rw [itemTokens, List.append_assoc]
    · exact parseFrom_firstItem item stack _
    · exact List.cons_ne_nil _ _

theorem parseFrom_firstMembers (member : String × Json) (members : List (String × Json))
    (stack : List Frame) (ts : List Token) :
    parseFrom (.firstKey stack) (memberTokens (member :: members) ++ ts) =
      parseFrom (.key [] stack) (memberTokens (member :: members) ++ ts) := by
  cases members <;> rfl

theorem parseFrom_pair {members : List (String × Json)} {key : String} {value : Json} {stack : List Frame}
    (h : parseFrom (.value (.obj members key :: stack)) (tokens value) =
      some (.done value (.obj members key :: stack))) (ts : List Token) :
    parseFrom (.colon members key stack) (.colon :: tokens value ++ ts) =
      parseFrom (.done value (.obj members key :: stack)) ts := by
  show parseFrom (.value (.obj members key :: stack)) (tokens value ++ ts) = _
  rw [parseFrom_append, h, Option.bind_some]

mutual

theorem parseFrom_tokens : ∀ (v : Json) (stack : List Frame),
    parseFrom (.value stack) (tokens v) = some (.done v stack)
  | .null, _ => rfl
  | .bool _, _ => rfl
  | .num _, _ => rfl
  | .str _, _ => rfl
  | .arr [], _ => rfl
  | .arr (item :: items), stack => by
    rw [tokens]
    show parseFrom (.firstItem stack) (itemTokens (item :: items) ++ [.endArr]) = _
    rw [parseFrom_firstItems]
    exact parseFrom_items (item :: items) (List.cons_ne_nil _ _) [] stack
  | .obj [], _ => rfl
  | .obj (member :: members), stack => by
    rw [tokens]
    show parseFrom (.firstKey stack) (memberTokens (member :: members) ++ [.endObj]) = _
    rw [parseFrom_firstMembers]
    exact parseFrom_members (member :: members) (List.cons_ne_nil _ _) [] stack

theorem parseFrom_items : ∀ items : List Json, items ≠ [] → ∀ (read : List Json) (stack : List Frame),
    parseFrom (.value (.arr read :: stack)) (itemTokens items ++ [.endArr]) =
      some (.done (.arr (read ++ items)) stack)
  | [], h, read, stack => absurd rfl h
  | [item], _, read, stack => by
    rw [itemTokens, parseFrom_append, parseFrom_tokens item]
    rfl
  | item :: next :: items, _, read, stack => by
    have hrest := parseFrom_items (next :: items) (List.cons_ne_nil _ _) (read ++ [item]) stack
    rw [itemTokens, List.append_assoc, parseFrom_append, parseFrom_tokens item, Option.bind_some]
    · rw [List.append_assoc] at hrest
      exact hrest
    · exact List.cons_ne_nil _ _

theorem parseFrom_members : ∀ members : List (String × Json), members ≠ [] →
    ∀ (read : List (String × Json)) (stack : List Frame),
    parseFrom (.key read stack) (memberTokens members ++ [.endObj]) =
      some (.done (.obj (read ++ members)) stack)
  | [], h, read, stack => absurd rfl h
  | [(key, value)], _, read, stack => by
    rw [memberTokens]
    show parseFrom (.colon read key stack) (.colon :: tokens value ++ [.endObj]) = _
    rw [parseFrom_pair (parseFrom_tokens value _)]
    rfl
  | (key, value) :: next :: members, _, read, stack => by
    have hrest := parseFrom_members (next :: members) (List.cons_ne_nil _ _) (read ++ [(key, value)]) stack
    rw [memberTokens]
    · show parseFrom (.colon read key stack) (.colon :: tokens value ++ .comma :: _ ++ [.endObj]) = _
      rw [List.append_assoc, parseFrom_pair (parseFrom_tokens value _)]
      rw [List.append_assoc] at hrest
      exact hrest
    · exact List.cons_ne_nil _ _

end

theorem parse_print (layout : Layout) (level : ℕ) (v : Json) : parse (print layout level v) = some v := by
  rw [parse, lex_print, Option.bind_some, parseTokens, parseFrom_tokens]
  rfl

/-! ### The compact text -/

mutual

theorem render_eq_print : ∀ (level : ℕ) (v : Json), render v = print .compact level v
  | level, .null => by rw [render, print]
  | level, .bool true => by rw [render, print]
  | level, .bool false => by rw [render, print]
  | level, .num n => by rw [render, print]
  | level, .str s => by rw [render, print]
  | level, .arr [] => by
    rw [render, print, renderItems]
    rfl
  | level, .arr (item :: items) => by
    rw [render, print, renderItems_eq_print (level + 1)]
    exact congrArg (· ++ [']']) (List.append_nil _).symm
  | level, .obj [] => by
    rw [render, print, renderMembers]
    rfl
  | level, .obj (member :: members) => by
    rw [render, print, renderMembers_eq_print (level + 1)]
    exact congrArg (· ++ ['\x7d']) (List.append_nil _).symm

theorem renderItems_eq_print : ∀ (level : ℕ) (items : List Json),
    renderItems items = printItems .compact level items
  | level, [] => by rw [renderItems, printItems]
  | level, [item] => by
    rw [renderItems, printItems]
    exact render_eq_print level item
  | level, item :: next :: items => by
    rw [renderItems, printItems, render_eq_print level item, renderItems_eq_print level (next :: items)]
    · rfl
    · exact List.cons_ne_nil _ _
    · exact List.cons_ne_nil _ _

theorem renderMembers_eq_print : ∀ (level : ℕ) (members : List (String × Json)),
    renderMembers members = printMembers .compact level members
  | level, [] => by rw [renderMembers, printMembers]
  | level, [(key, value)] => by
    rw [renderMembers, printMembers, render_eq_print level value]
    simp [Layout.compact]
  | level, (key, value) :: next :: members => by
    rw [renderMembers, printMembers, render_eq_print level value,
      renderMembers_eq_print level (next :: members)]
    · simp [Layout.compact]
    · exact List.cons_ne_nil _ _
    · exact List.cons_ne_nil _ _

end

theorem parse_render (v : Json) : parse (render v) = some v := by
  rw [render_eq_print 0, parse_print]

theorem parse_text (v : Json) : parse v.text.toList = some v := by
  rw [text, String.toList_ofList, parse_render]

theorem parse_prettyText (v : Json) : parse v.prettyText.toList = some v := by
  rw [prettyText, String.toList_ofList, parse_print]

/-! ### Objects as sorted maps -/

mutual

/-- The value with its objects as sorted maps, where the last of the members with one key stands. -/
def toValue : Json → Json
  | .null => .null
  | .bool value => .bool value
  | .num value => .num value
  | .str value => .str value
  | .arr items => .arr (toValues items)
  | .obj members =>
    .obj ((toMembers members).foldl (fun m e => m.insert e.1 e.2) SortedMap.empty).entries

def toValues : List Json → List Json
  | [] => []
  | item :: items => toValue item :: toValues items

def toMembers : List (String × Json) → List (String × Json)
  | [] => []
  | (key, value) :: members => (key, toValue value) :: toMembers members

end

theorem toValue_arr {items : List Json} (h : ∀ v ∈ items, toValue v = v) :
    toValue (.arr items) = .arr items := by
  have hitems : ∀ items : List Json, (∀ v ∈ items, toValue v = v) → toValues items = items := by
    intro items
    induction items with
    | nil => intro _; rfl
    | cons item items ih =>
      intro h
      rw [toValues, h item List.mem_cons_self, ih fun v hv => h v (List.mem_cons_of_mem _ hv)]
  rw [toValue, hitems items h]

theorem toValue_obj {members : List (String × Json)} (hsorted : members.Pairwise fun a b => a.1 < b.1)
    (h : ∀ e ∈ members, toValue e.2 = e.2) : toValue (.obj members) = .obj members := by
  have hmembers : ∀ members : List (String × Json), (∀ e ∈ members, toValue e.2 = e.2) →
      toMembers members = members := by
    intro members
    induction members with
    | nil => intro _; rfl
    | cons e members ih =>
      intro h
      obtain ⟨key, value⟩ := e
      rw [toMembers, ih fun e he => h e (List.mem_cons_of_mem _ he), h (key, value) List.mem_cons_self]
  rw [toValue, hmembers members h, SortedMap.entries_foldl_insert hsorted]

end Json
