import Mathlib.Data.List.Basic
import Mathlib.Data.List.TakeWhile

/-!
# Lib.Text — text operations of the Rust standard library

Characters are Unicode scalar values on both sides.  The functions work on lists of characters, and
on `String` where the text is only passed on.
-/

namespace Text

/-- The Unicode property `White_Space`, which `trim` strips. -/
def isWhitespace (c : Char) : Bool :=
  let n := c.toNat
  (9 ≤ n && n ≤ 13) || n = 32 || n = 0x85 || n = 0xA0 || n = 0x1680 || (0x2000 ≤ n && n ≤ 0x200A) ||
    n = 0x2028 || n = 0x2029 || n = 0x202F || n = 0x205F || n = 0x3000

theorem val_ofNat {n : ℕ} (h : n.isValidChar) : (Char.ofNat n).val.toNat = n := by
  unfold Char.ofNat
  rw [dif_pos h]
  rfl

theorem all_isDigit_toDigits (n : ℕ) : (Nat.toDigits 10 n).all Char.isDigit = true :=
  List.all_eq_true.mpr fun _ hc => Nat.isDigit_of_mem_toDigits (by decide) (by decide) hc

/-- Without the leading and the trailing characters that satisfy `p`. -/
def trimBy (p : Char → Bool) (cs : List Char) : List Char :=
  (((cs.dropWhile p).reverse).dropWhile p).reverse

def trimEndBy (p : Char → Bool) (cs : List Char) : List Char := (cs.reverse.dropWhile p).reverse

def trim (cs : List Char) : List Char := trimBy isWhitespace cs

theorem dropWhile_congr {p q : Char → Bool} {cs : List Char} (h : ∀ c ∈ cs, p c = q c) :
    cs.dropWhile p = cs.dropWhile q := by
  induction cs with
  | nil => rfl
  | cons c cs ih =>
    have ih := ih fun c hc => h c (List.mem_cons_of_mem _ hc)
    rw [List.dropWhile_cons, List.dropWhile_cons, h c List.mem_cons_self, ih]

theorem trimBy_congr {p q : Char → Bool} {cs : List Char} (h : ∀ c ∈ cs, p c = q c) :
    trimBy p cs = trimBy q cs := by
  have hend : ∀ c ∈ (cs.dropWhile q).reverse, p c = q c := fun c hc =>
    h c (List.dropWhile_subset q (List.mem_reverse.mp hc))
  unfold trimBy
  rw [dropWhile_congr h, dropWhile_congr hend]

theorem trimBy_eq_self {p : Char → Bool} {cs : List Char} (h : ∀ c ∈ cs, p c = false) :
    trimBy p cs = cs := by
  have hnone : ∀ l : List Char, l.dropWhile (fun _ => false) = l := fun l => by
    cases l <;> rfl
  rw [trimBy_congr h]
  unfold trimBy
  rw [hnone, hnone, List.reverse_reverse]

/-- The parts of a split text consist of its characters. -/
theorem mem_of_mem_splitOn {sep c : Char} {part cs : List Char} (hpart : part ∈ cs.splitOn sep)
    (hc : c ∈ part) : c ∈ cs := by
  obtain ⟨i, hi⟩ := List.mem_iff_getElem?.mp hpart
  have hjoin : part ∈ (cs.splitOn sep).intersperse [sep] := by
    refine List.mem_iff_getElem?.mpr ⟨2 * i, ?_⟩
    rw [List.getElem?_intersperse_two_mul]
    exact hi
  have hmem : c ∈ [sep].intercalate (cs.splitOn sep) := List.mem_flatten.mpr ⟨part, hjoin, hc⟩
  rwa [List.intercalate_splitOn] at hmem

/-- The parts of a split text have none of the separators. -/
theorem of_mem_splitOnP {p : Char → Bool} {part cs : List Char} (hpart : part ∈ cs.splitOnP p) :
    ∀ c ∈ part, p c = false ∧ c ∈ cs := by
  induction cs generalizing part with
  | nil =>
    obtain rfl := List.mem_singleton.mp hpart
    exact nofun
  | cons x cs ih =>
    have htail : ∀ part ∈ cs.splitOnP p, ∀ c ∈ part, p c = false ∧ c ∈ x :: cs := fun part hpart c hc =>
      ⟨(ih hpart c hc).1, List.mem_cons_of_mem x (ih hpart c hc).2⟩
    obtain ⟨first, rest, hsplit⟩ := List.exists_cons_of_ne_nil (List.splitOnP_ne_nil p cs)
    rw [List.splitOnP_cons_eq_if_modifyHead] at hpart
    rw [hsplit] at hpart htail
    split_ifs at hpart with hx
    · rcases List.mem_cons.mp hpart with rfl | hpart
      · exact nofun
      · exact htail part hpart
    · rcases List.mem_cons.mp hpart with rfl | hpart
      · intro c hc
        rcases List.mem_cons.mp hc with rfl | hc
        · exact ⟨eq_false_of_ne_true hx, List.mem_cons_self⟩
        · exact htail first List.mem_cons_self c hc
      · exact htail part (List.mem_cons_of_mem _ hpart)

/-- The two sides of the first separator. -/
def splitOnce (sep : Char) (cs : List Char) : Option (List Char × List Char) :=
  match cs.dropWhile (· ≠ sep) with
  | [] => none
  | _ :: rest => some (cs.takeWhile (· ≠ sep), rest)

/-- The two sides of the last separator. -/
def rsplitOnce (sep : Char) (cs : List Char) : Option (List Char × List Char) :=
  (splitOnce sep cs.reverse).map fun p => (p.2.reverse, p.1.reverse)

theorem takeWhile_append_cons {sep : Char} {as : List Char} (h : sep ∉ as) (bs : List Char) :
    (as ++ sep :: bs).takeWhile (· ≠ sep) = as := by
  have hne : ∀ c ∈ as, decide (c ≠ sep) = true := fun c hc =>
    decide_eq_true fun heq => h (heq ▸ hc)
  rw [List.takeWhile_append_of_pos hne]
  simp

theorem takeWhile_of_notMem {sep : Char} {as : List Char} (h : sep ∉ as) :
    as.takeWhile (· ≠ sep) = as :=
  List.takeWhile_eq_self_iff.mpr fun _ hc => decide_eq_true fun heq => h (heq ▸ hc)

theorem splitOnce_append {sep : Char} {as : List Char} (h : sep ∉ as) (bs : List Char) :
    splitOnce sep (as ++ sep :: bs) = some (as, bs) := by
  have hne : ∀ c ∈ as, decide (c ≠ sep) = true := fun c hc =>
    decide_eq_true fun heq => h (heq ▸ hc)
  unfold splitOnce
  rw [List.dropWhile_append_of_pos hne, takeWhile_append_cons h]
  simp

theorem splitOnce_eq_none {sep : Char} {cs : List Char} (h : sep ∉ cs) : splitOnce sep cs = none := by
  have hdrop : cs.dropWhile (· ≠ sep) = [] :=
    List.dropWhile_eq_nil_iff.mpr fun c hc => decide_eq_true fun heq => h (heq ▸ hc)
  unfold splitOnce
  rw [hdrop]

theorem rsplitOnce_append {sep : Char} {bs : List Char} (h : sep ∉ bs) (as : List Char) :
    rsplitOnce sep (as ++ sep :: bs) = some (as, bs) := by
  have hrev : (as ++ sep :: bs).reverse = bs.reverse ++ sep :: as.reverse := by simp
  unfold rsplitOnce
  rw [hrev, splitOnce_append (mt List.mem_reverse.mp h)]
  simp

theorem rsplitOnce_eq_none {sep : Char} {cs : List Char} (h : sep ∉ cs) : rsplitOnce sep cs = none := by
  unfold rsplitOnce
  rw [splitOnce_eq_none (mt List.mem_reverse.mp h)]
  rfl

def stripPrefix (pre cs : List Char) : Option (List Char) :=
  if pre.isPrefixOf cs then some (cs.drop pre.length) else none

/-- Upper-case ASCII letters become lower-case, all else stays. -/
def asciiLower (cs : List Char) : List Char := cs.map Char.toLower

theorem isUpper_iff (c : Char) : c.isUpper = true ↔ 65 ≤ c.toNat ∧ c.toNat ≤ 90 := decide_eq_true_iff

theorem isAlpha_iff (c : Char) :
    c.isAlpha = true ↔ (65 ≤ c.toNat ∧ c.toNat ≤ 90) ∨ 97 ≤ c.toNat ∧ c.toNat ≤ 122 := by
  unfold Char.isAlpha Char.isLower
  rw [Bool.or_eq_true, isUpper_iff, Bool.and_eq_true, decide_eq_true_iff, decide_eq_true_iff]
  rfl

/-- Lower case moves the letters from `A` to `Z` up by 32. -/
theorem toNat_toLower (c : Char) :
    c.toLower.toNat = if 65 ≤ c.toNat ∧ c.toNat ≤ 90 then c.toNat + 32 else c.toNat := by
  unfold Char.toLower
  split_ifs with hupper hrange hrange
  · have hsub : ('a'.val - 'A'.val).toNat = 32 := rfl
    have hle : c.val.toNat ≤ 90 := hrange.2
    show (c.val + ('a'.val - 'A'.val)).toNat = c.val.toNat + 32
    rw [UInt32.toNat_add, hsub]
    omega
  · exact absurd hupper hrange
  · exact absurd hrange hupper
  · rfl

/-- Upper case moves the letters from `a` to `z` down by 32. -/
theorem toNat_toUpper (c : Char) :
    c.toUpper.toNat = if 97 ≤ c.toNat ∧ c.toNat ≤ 122 then c.toNat - 32 else c.toNat := by
  unfold Char.toUpper
  split_ifs with hlower hrange hrange
  · have hsub : ('A'.val - 'a'.val).toNat = 2 ^ 32 - 32 := rfl
    have hge : 97 ≤ c.val.toNat := hrange.1
    have hle : c.val.toNat ≤ 122 := hrange.2
    show (c.val + ('A'.val - 'a'.val)).toNat = c.val.toNat - 32
    rw [UInt32.toNat_add, hsub]
    omega
  · exact absurd hlower hrange
  · exact absurd hrange hlower
  · rfl

theorem toLower_toLower (c : Char) : c.toLower.toLower = c.toLower := by
  refine Char.toNat_inj.mp ?_
  rw [toNat_toLower c.toLower, toNat_toLower]
  split_ifs <;> omega

theorem isWhitespace_toLower (c : Char) : isWhitespace c.toLower = isWhitespace c := by
  have hlower := toNat_toLower c
  split_ifs at hlower with hupper
  · -- neither a letter nor what is 32 above it
    have hnone : ∀ d : Char, 65 ≤ d.toNat → d.toNat ≤ 122 → isWhitespace d = false := by
      intro d hd hd'
      simp only [isWhitespace, Bool.or_eq_false_iff, Bool.and_eq_false_iff, decide_eq_false_iff_not]
      omega
    rw [hnone c hupper.1 (by omega), hnone c.toLower (by omega) (by omega)]
  · rw [Char.toNat_inj.mp hlower]

@[simp] theorem asciiLower_asciiLower (cs : List Char) : asciiLower (asciiLower cs) = asciiLower cs := by
  unfold asciiLower
  rw [List.map_map]
  exact List.map_congr_left fun c _ => toLower_toLower c

def eqIgnoreAsciiCase (a b : List Char) : Bool := asciiLower a = asciiLower b

/-- The UTF-8 bytes of a text. -/
def utf8 (cs : List Char) : List UInt8 := cs.flatMap String.utf8EncodeChar

theorem utf8_injective : Function.Injective utf8 := by
  intro as bs h
  have hbytes : List.utf8Encode as = List.utf8Encode bs := congrArg List.toByteArray h
  refine String.ofList_injective (String.toByteArray_inj.mp ?_)
  rw [String.toByteArray_ofList, String.toByteArray_ofList, hbytes]

/-- ASCII characters are one byte each. -/
theorem utf8_ascii {cs : List Char} (h : ∀ c ∈ cs, c.toNat < 128) :
    utf8 cs = cs.map fun c => UInt8.ofNat c.toNat := by
  unfold utf8
  rw [← List.flatMap_singleton' (cs.map fun c => UInt8.ofNat c.toNat), List.flatMap_map]
  refine List.flatMap_congr fun c hc => ?_
  have hle : c.val.toNat ≤ 127 := Nat.le_of_lt_succ (h c hc)
  unfold String.utf8EncodeChar
  rw [if_pos hle]
  rfl

def hexDigit (n : ℕ) : Char := "0123456789abcdef".toList.getD n '0'

/-- The value of a hexadecimal digit of either case. -/
def hexValue (c : Char) : Option ℕ :=
  if '0' ≤ c && c ≤ '9' then some (c.toNat - '0'.toNat)
  else if 'a' ≤ c && c ≤ 'f' then some (c.toNat - 'a'.toNat + 10)
  else if 'A' ≤ c && c ≤ 'F' then some (c.toNat - 'A'.toNat + 10)
  else none

theorem hexValue_hexDigit {n : ℕ} (h : n < 16) : hexValue (hexDigit n) = some n := by
  have hall : ∀ n < 16, hexValue (hexDigit n) = some n := by decide
  exact hall n h

/-- The number of a text's hexadecimal digits; what else the text has is skipped. -/
def hexNumber (cs : List Char) : ℕ := (cs.filterMap hexValue).foldl (fun n digit => 16 * n + digit) 0

theorem hexNumber_concat (cs : List Char) {n : ℕ} (h : n < 16) :
    hexNumber (cs ++ [Nat.digitChar n]) = 16 * hexNumber cs + n := by
  have hall : ∀ n < 16, hexValue (Nat.digitChar n) = some n := by decide
  unfold hexNumber
  rw [List.filterMap_append, List.filterMap_cons, hall n h, List.filterMap_nil, List.foldl_append]
  rfl

/-- The digits are read back. -/
theorem hexNumber_toDigits (n : ℕ) : hexNumber (Nat.toDigits 16 n) = n := by
  induction n using Nat.strong_induction_on with
  | _ n ih =>
    by_cases hn : n < 16
    · rw [Nat.toDigits_of_lt_base hn]
      have hone := hexNumber_concat [] hn
      rwa [List.nil_append, show hexNumber [] = 0 from rfl, Nat.mul_zero, Nat.zero_add] at hone
    · have hle : 16 ≤ n := Nat.le_of_not_lt hn
      rw [Nat.toDigits_of_base_le (by decide) hle, hexNumber_concat _ (Nat.mod_lt n (by decide)),
        ih (n / 16) (Nat.div_lt_self (by omega) (by decide))]
      omega

theorem hexNumber_zeros (k : ℕ) (cs : List Char) : hexNumber (List.replicate k '0' ++ cs) = hexNumber cs := by
  induction k with
  | zero => rfl
  | succ k ih => exact ih

/-- Two lower-case hexadecimal digits for each byte. -/
def hexEncode (bytes : List UInt8) : String :=
  String.ofList (bytes.flatMap fun b => [hexDigit (b.toNat / 16), hexDigit (b.toNat % 16)])

end Text
