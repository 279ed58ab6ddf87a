import KidProxy.Lib.Text

/-!
# Lib.Json — JSON values and their compact text

Objects keep the order of their members, and numbers their text.
-/

namespace Json

def isDigits (cs : List Char) : Bool := !cs.isEmpty && cs.all Char.isDigit

/-- Digits without a leading zero. -/
def isInteger (cs : List Char) : Bool := isDigits cs && (cs.length = 1 || cs.head? ≠ some '0')

def isExponent : List Char → Bool
  | '+' :: cs => isDigits cs
  | '-' :: cs => isDigits cs
  | cs => isDigits cs

def isMantissaChar (c : Char) : Bool := c ≠ 'e' && c ≠ 'E'

/-- An integer, and perhaps a fraction and an exponent. -/
def isUnsigned (cs : List Char) : Bool :=
  let mantissa := cs.takeWhile isMantissaChar
  let exponent := cs.dropWhile isMantissaChar
  let fraction := mantissa.dropWhile (· ≠ '.')
  isInteger (mantissa.takeWhile (· ≠ '.')) && (fraction.isEmpty || isDigits fraction.tail) &&
    (exponent.isEmpty || isExponent exponent.tail)

/-- The numbers of the grammar. -/
def isNumber : List Char → Bool
  | '-' :: cs => isUnsigned cs
  | cs => isUnsigned cs

structure Number where
  literal : List Char
  valid : isNumber literal = true
  deriving DecidableEq

/-! ### Natural numbers -/

theorem isDigits_toDigits (n : ℕ) : isDigits (Nat.toDigits 10 n) = true := by
  simp [isDigits, Text.all_isDigit_toDigits]

/-- The digits of a positive number do not begin with zero. -/
theorem head?_toDigits {n : ℕ} (hn : 0 < n) : (Nat.toDigits 10 n).head? ≠ some '0' := by
  induction n using Nat.strong_induction_on with
  | h n ih =>
    by_cases hlt : n < 10
    · rw [Nat.toDigits_of_lt_base hlt]
      have hchar : ∀ d < 10, 0 < d → [d.digitChar].head? ≠ some '0' := by decide
      exact hchar n hlt hn
    · have h := ih (n / 10) (by omega) (by omega)
      rw [Nat.toDigits_of_base_le (by omega) (by omega), List.head?_append]
      cases hhead : (Nat.toDigits 10 (n / 10)).head? with
      | none => exact absurd (List.head?_eq_none_iff.mp hhead) Nat.toDigits_ne_nil
      | some c =>
        rw [hhead] at h
        exact h

theorem isInteger_toDigits (n : ℕ) : isInteger (Nat.toDigits 10 n) = true := by
  have hlead : (Nat.toDigits 10 n).length = 1 ∨ (Nat.toDigits 10 n).head? ≠ some '0' := by
    rcases Nat.eq_zero_or_pos n with rfl | hn
    · exact .inl rfl
    · exact .inr (head?_toDigits hn)
  simpa [isInteger, isDigits_toDigits] using hlead

theorem isDigit_of_isDigits {cs : List Char} (h : isDigits cs = true) : ∀ c ∈ cs, c.isDigit = true :=
  List.all_eq_true.mp (Bool.and_eq_true_iff.mp h).2

theorem isNumber_of_isInteger {cs : List Char} (h : isInteger cs = true) : isNumber cs = true := by
  have hdigit := isDigit_of_isDigits (Bool.and_eq_true_iff.mp h).1
  have hother : ∀ x : Char, x.isDigit = false → ∀ c ∈ cs, c ≠ x := by
    rintro x hx c hc rfl
    exact absurd (hdigit c hc) (ne_true_of_eq_false hx)
  have hmantissa : ∀ c ∈ cs, isMantissaChar c = true := fun c hc =>
    Bool.and_eq_true_iff.mpr ⟨decide_eq_true (hother 'e' (by decide) c hc),
      decide_eq_true (hother 'E' (by decide) c hc)⟩
  have hdot : ∀ c ∈ cs, decide (c ≠ '.') = true := fun c hc =>
    decide_eq_true (hother '.' (by decide) c hc)
  have hunsigned : isUnsigned cs = true := by
    have htake := List.takeWhile_eq_self_iff.mpr hmantissa
    have hdrop := List.dropWhile_eq_nil_iff.mpr hmantissa
    have hinteger := List.takeWhile_eq_self_iff.mpr hdot
    have hfraction := List.dropWhile_eq_nil_iff.mpr hdot
    simp only [isUnsigned, htake, hdrop, hinteger, hfraction, h, List.isEmpty_nil, Bool.true_or,
      Bool.and_self]
  unfold isNumber
  split
  · exact absurd rfl (hother '-' (by decide) '-' List.mem_cons_self)
  · exact hunsigned

def Number.ofNat (n : ℕ) : Number := ⟨Nat.toDigits 10 n, isNumber_of_isInteger (isInteger_toDigits n)⟩

end Json

inductive Json
  | null
  | bool (value : Bool)
  | num (value : Json.Number)
  | str (value : String)
  | arr (items : List Json)
  | obj (members : List (String × Json))

namespace Json

/-- A character inside a string. -/
def escapeChar (c : Char) : List Char :=
  if c = '"' then ['\\', '"']
  else if c = '\\' then ['\\', '\\']
  else if c = '\n' then ['\\', 'n']
  else if c = '\r' then ['\\', 'r']
  else if c = '\t' then ['\\', 't']
  else if c.toNat = 8 then ['\\', 'b']
  else if c.toNat = 12 then ['\\', 'f']
  else if c.toNat < 32 then
    ['\\', 'u', '0', '0', Text.hexDigit (c.toNat / 16), Text.hexDigit (c.toNat % 16)]
  else [c]

def renderString (s : String) : List Char := '"' :: s.toList.flatMap escapeChar ++ ['"']

mutual

/-- The text without white space. -/
def render : Json → List Char
  | .null => "null".toList
  | .bool true => "true".toList
  | .bool false => "false".toList
  | .num value => value.literal
  | .str value => renderString value
  | .arr items => '[' :: renderItems items ++ [']']
  | .obj members => '\x7b' :: renderMembers members ++ ['\x7d']

def renderItems : List Json → List Char
  | [] => []
  | [item] => render item
  | item :: items => render item ++ ',' :: renderItems items

def renderMembers : List (String × Json) → List Char
  | [] => []
  | [(key, value)] => renderString key ++ ':' :: render value
  | (key, value) :: members => renderString key ++ ':' :: render value ++ ',' :: renderMembers members

end

/-- `to_string`. -/
def text (value : Json) : String := String.ofList value.render

example : (obj [("a", arr [str "x\ny", bool true]), ("b", obj [])]).text =
    "\x7b\"a\":[\"x\\ny\",true],\"b\":\x7b\x7d\x7d" := by decide

end Json
