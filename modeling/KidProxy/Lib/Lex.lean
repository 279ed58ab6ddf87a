import Mathlib.Data.Char
import Mathlib.Data.List.DropRight
import Mathlib.Order.Defs.LinearOrder
import Mathlib.Data.Nat.Digits.Defs

/-!
# Lib.Lex — the lexicographic order of texts

How `<` on lists goes through concatenation, through a terminator that is greater than everything before
it, and through the removal of trailing least elements; and that decimals of one width sort like the
numbers.
-/

namespace Lex

variable {α β : Type*} [LinearOrder α] [LinearOrder β]

/-- Parts of one length are compared part by part. -/
theorem append_lt_append_iff {as bs : List α} (h : as.length = bs.length) (cs ds : List α) :
    as ++ cs < bs ++ ds ↔ as < bs ∨ as = bs ∧ cs < ds := by
  induction as generalizing bs with
  | nil =>
    obtain rfl : bs = [] := List.length_eq_zero_iff.mp h.symm
    simp
  | cons a as ih =>
    obtain _ | ⟨b, bs⟩ := bs
    · cases h
    · have hlen : as.length = bs.length := Nat.succ.inj h
      rw [List.cons_append, List.cons_append, List.cons_lt_cons_iff, List.cons_lt_cons_iff, ih hlen,
        List.cons.injEq]
      tauto

theorem cons_lt_cons_same_iff (a : α) (as bs : List α) : a :: as < a :: bs ↔ as < bs := by
  rw [List.cons_lt_cons_iff]
  simp

omit [LinearOrder α] in
theorem append_eq_append_iff {as bs : List α} (h : as.length = bs.length) {cs ds : List α} :
    as ++ cs = bs ++ ds ↔ as = bs ∧ cs = ds :=
  ⟨fun heq => List.append_inj heq h, fun ⟨hhead, htail⟩ => by rw [hhead, htail]⟩

theorem map_lt_map_iff {f : α → β} {as bs : List α}
    (h : ∀ a ∈ as, ∀ b ∈ bs, (f a < f b ↔ a < b) ∧ (f a = f b ↔ a = b)) :
    as.map f < bs.map f ↔ as < bs := by
  induction as generalizing bs with
  | nil => cases bs <;> simp
  | cons a as ih =>
    obtain _ | ⟨b, bs⟩ := bs
    · simp
    · have hhead := h a List.mem_cons_self b List.mem_cons_self
      have htail := ih fun a ha b hb => h a (List.mem_cons_of_mem _ ha) b (List.mem_cons_of_mem _ hb)
      rw [List.map_cons, List.map_cons, List.cons_lt_cons_iff, List.cons_lt_cons_iff, hhead.1, hhead.2,
        htail]

/-- With a terminator above everything, the smaller of two lists stays the smaller one unless it is a
prefix of the other. -/
theorem append_top_lt_iff {z : α} {as bs : List α} (hbs : ∀ b ∈ bs, b < z) (h : as < bs) :
    as ++ [z] < bs ++ [z] ↔ ¬ as <+: bs := by
  induction as generalizing bs with
  | nil =>
    obtain _ | ⟨b, bs⟩ := bs
    · exact absurd h (List.lt_irrefl _)
    · have hb : ¬ z < b := not_lt.mpr (hbs b List.mem_cons_self).le
      have hne : z ≠ b := (hbs b List.mem_cons_self).ne'
      simp [List.cons_lt_cons_iff, hb, hne]
  | cons a as ih =>
    obtain _ | ⟨b, bs⟩ := bs
    · exact absurd h (List.not_lt_nil _)
    · rw [List.cons_append, List.cons_append, List.cons_lt_cons_iff, List.cons_prefix_cons]
      rcases List.cons_lt_cons_iff.mp h with hlt | ⟨rfl, hlt⟩
      · have hne : a ≠ b := hlt.ne
        simp [hlt, hne]
      · rw [ih (fun b hb => hbs b (List.mem_cons_of_mem _ hb)) hlt]
        simp

/-! ### Trailing least elements -/

omit [LinearOrder α] in
theorem rdropWhile_cons (p : α → Bool) (a : α) (as : List α) : (a :: as).rdropWhile p =
    if p a = true ∧ as.rdropWhile p = [] then [] else a :: as.rdropWhile p := by
  unfold List.rdropWhile
  rw [List.reverse_cons, List.dropWhile_append]
  by_cases hnil : as.reverse.dropWhile p = []
  · by_cases ha : p a = true
    · simp [hnil, ha]
    · simp [hnil, ha]
  · simp [hnil]

/-- Two lists of one length are told apart by what is left of them. -/
theorem rdropWhile_lt {z : α} {as bs : List α} (hz : ∀ a ∈ as, z ≤ a) (hlen : as.length = bs.length)
    (h : as < bs) : as.rdropWhile (· = z) < bs.rdropWhile (· = z) := by
  induction as generalizing bs with
  | nil =>
    obtain rfl : bs = [] := List.length_eq_zero_iff.mp hlen.symm
    exact absurd h (List.lt_irrefl _)
  | cons a as ih =>
    obtain _ | ⟨b, bs⟩ := bs
    · cases hlen
    · have hright : ¬ (decide (b = z) = true ∧ bs.rdropWhile (· = z) = []) →
          (b :: bs).rdropWhile (· = z) = b :: bs.rdropWhile (· = z) := fun hn => by
        rw [rdropWhile_cons, if_neg hn]
      rcases List.cons_lt_cons_iff.mp h with hlt | ⟨rfl, hlt⟩
      · have hb : b ≠ z := fun heq => absurd (hz a List.mem_cons_self) (not_le.mpr (heq ▸ hlt))
        rw [hright fun hand => hb (of_decide_eq_true hand.1), rdropWhile_cons]
        split_ifs
        · exact List.nil_lt_cons _ _
        · exact List.cons_lt_cons_iff.mpr (.inl hlt)
      · have hrest := ih (fun a ha => hz a (List.mem_cons_of_mem _ ha)) (Nat.succ.inj hlen) hlt
        have hne : bs.rdropWhile (· = z) ≠ [] := fun hnil => List.not_lt_nil _ (hnil ▸ hrest)
        rw [hright fun hand => hne hand.2, rdropWhile_cons]
        split_ifs
        · exact List.nil_lt_cons _ _
        · exact List.cons_lt_cons_iff.mpr (.inr ⟨rfl, hrest⟩)

/-! ### Decimals -/

/-- The decimal of `n` with zeros in front up to `width` digits. -/
def decimal (width n : ℕ) : List Char :=
  List.replicate (width - (Nat.toDigits 10 n).length) '0' ++ Nat.toDigits 10 n

theorem isDigit_of_mem_decimal {width n : ℕ} {c : Char} (h : c ∈ decimal width n) : c.isDigit = true := by
  rcases List.mem_append.mp h with hzero | hdigit
  · rw [List.eq_of_mem_replicate hzero]
    rfl
  · exact Nat.isDigit_of_mem_toDigits (by decide) (by decide) hdigit

/-- The last digit apart. -/
theorem decimal_succ {width n : ℕ} (h : n < 10 ^ (width + 1)) (hw : width ≠ 0) :
    decimal (width + 1) n = decimal width (n / 10) ++ [Nat.digitChar (n % 10)] := by
  unfold decimal
  by_cases hn : n < 10
  · have hdiv : n / 10 = 0 := Nat.div_eq_of_lt hn
    obtain ⟨width, rfl⟩ := Nat.exists_eq_succ_of_ne_zero hw
    rw [hdiv, Nat.mod_eq_of_lt hn, Nat.toDigits_of_lt_base hn]
    simp [List.replicate_succ']
  · rw [Nat.toDigits_of_base_le (by decide) (Nat.le_of_not_lt hn), List.length_append,
      List.length_singleton, Nat.add_sub_add_right, List.append_assoc]

theorem decimal_one {n : ℕ} (h : n < 10) : decimal 1 n = [Nat.digitChar n] := by
  unfold decimal
  rw [Nat.toDigits_of_lt_base h]
  rfl

theorem length_decimal {width n : ℕ} (hw : width ≠ 0) (h : n < 10 ^ width) :
    (decimal width n).length = width := by
  induction width generalizing n with
  | zero => exact absurd rfl hw
  | succ width ih =>
    by_cases hzero : width = 0
    · subst hzero
      rw [decimal_one (by simpa using h)]
      rfl
    · have hdiv : n / 10 < 10 ^ width := by
        rw [pow_succ] at h
        omega
      rw [decimal_succ h hzero, List.length_append, ih hzero hdiv]
      rfl

theorem digitChar_lt_iff {m n : ℕ} (hm : m < 10) (hn : n < 10) :
    Nat.digitChar m < Nat.digitChar n ↔ m < n := by
  have hall : ∀ m < 10, ∀ n < 10, (Nat.digitChar m < Nat.digitChar n ↔ m < n) := by decide
  exact hall m hm n hn

theorem digitChar_inj {m n : ℕ} (hm : m < 10) (hn : n < 10) :
    Nat.digitChar m = Nat.digitChar n ↔ m = n := by
  have hall : ∀ m < 10, ∀ n < 10, (Nat.digitChar m = Nat.digitChar n ↔ m = n) := by decide
  exact hall m hm n hn

/-- **Decimals of one width sort like the numbers.** -/
theorem decimal_lt_iff {width m n : ℕ} (hw : width ≠ 0) (hm : m < 10 ^ width) (hn : n < 10 ^ width) :
    (decimal width m < decimal width n ↔ m < n) ∧ (decimal width m = decimal width n ↔ m = n) := by
  induction width generalizing m n with
  | zero => exact absurd rfl hw
  | succ width ih =>
    by_cases hzero : width = 0
    · subst hzero
      have hm : m < 10 := by simpa using hm
      have hn : n < 10 := by simpa using hn
      rw [decimal_one hm, decimal_one hn, List.cons_lt_cons_iff, List.cons_eq_cons, digitChar_lt_iff hm hn,
        digitChar_inj hm hn]
      simp
    · have hdm : m / 10 < 10 ^ width := by rw [pow_succ] at hm; omega
      have hdn : n / 10 < 10 ^ width := by rw [pow_succ] at hn; omega
      obtain ⟨hlt, heq⟩ := ih hzero hdm hdn
      have hlen : (decimal width (m / 10)).length = (decimal width (n / 10)).length := by
        rw [length_decimal hzero hdm, length_decimal hzero hdn]
      have hmod : ∀ k, k % 10 < 10 := fun k => Nat.mod_lt k (by decide)
      rw [decimal_succ hm hzero, decimal_succ hn hzero, append_lt_append_iff hlen,
        append_eq_append_iff hlen, List.cons_lt_cons_iff, List.cons_eq_cons, hlt, heq,
        digitChar_lt_iff (hmod m) (hmod n), digitChar_inj (hmod m) (hmod n)]
      simp only [List.lt_irrefl, and_false, or_false, and_true]
      constructor
      · omega
      · omega

end Lex
