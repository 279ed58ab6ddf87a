import KidProxy.Lib.Replace
import KidProxy.Lib.Text
import KidProxy.Lib.Utf8

/-!
# Lib.Utf8Pieces — the pieces that lossy decoding takes bytes apart into

A piece is the encoding of a character, or a broken sequence, which is read as U+FFFD.
-/

namespace Utf8

/-! ### Bytes and characters as numbers -/

theorem isContinuation_iff (b : UInt8) : isContinuation b = true ↔ 128 ≤ b.toNat ∧ b.toNat < 192 := by
  have hall : ∀ n : Fin 256, isContinuation (UInt8.ofNat n) = decide (128 ≤ n.val ∧ n.val < 192) := by
    decide +kernel
  have h := hall ⟨b.toNat, b.toNat_lt⟩
  rw [UInt8.ofNat_toNat] at h
  rw [h, decide_eq_true_eq]

/-- The second byte of three is a continuation, and keeps out overlong forms and surrogates. -/
theorem secondOfThree_iff {lead b : UInt8} : secondOfThree lead b = true ↔
    128 ≤ b.toNat ∧ b.toNat < 192 ∧ (lead.toNat = 0xE0 → 0xA0 ≤ b.toNat) ∧
      (lead.toNat = 0xED → b.toNat < 0xA0) := by
  have hlead : ∀ k : UInt8, lead = k ↔ lead.toNat = k.toNat := fun k => UInt8.toNat_inj.symm
  unfold secondOfThree
  simp only [hlead, UInt8.reduceToNat]
  split_ifs with h0 hD
  · simp only [UInt8.le_iff_toNat_le, UInt8.reduceToNat, Bool.and_eq_true, decide_eq_true_eq]
    omega
  · simp only [UInt8.le_iff_toNat_le, UInt8.reduceToNat, Bool.and_eq_true, decide_eq_true_eq]
    omega
  · rw [isContinuation_iff]
    omega

theorem secondOfFour_iff {lead b : UInt8} : secondOfFour lead b = true ↔
    128 ≤ b.toNat ∧ b.toNat < 192 ∧ (lead.toNat = 0xF0 → 0x90 ≤ b.toNat) ∧
      (lead.toNat = 0xF4 → b.toNat < 0x90) := by
  have hlead : ∀ k : UInt8, lead = k ↔ lead.toNat = k.toNat := fun k => UInt8.toNat_inj.symm
  unfold secondOfFour
  simp only [hlead, UInt8.reduceToNat]
  split_ifs with h0 h4
  · simp only [UInt8.le_iff_toNat_le, UInt8.reduceToNat, Bool.and_eq_true, decide_eq_true_eq]
    omega
  · simp only [UInt8.le_iff_toNat_le, UInt8.reduceToNat, Bool.and_eq_true, decide_eq_true_eq]
    omega
  · rw [isContinuation_iff]
    omega

section Encode

variable {n : ℕ}

theorem utf8EncodeChar_one (h : n < 128) : String.utf8EncodeChar (Char.ofNat n) = [UInt8.ofNat n] := by
  have hval := Text.val_ofNat (n := n) (.inl (by omega))
  unfold String.utf8EncodeChar
  simp only [hval]
  rw [if_pos (by omega)]

theorem utf8EncodeChar_two (h : 128 ≤ n) (h' : n < 2048) : String.utf8EncodeChar (Char.ofNat n) =
    [UInt8.ofNat (n / 64 + 192), UInt8.ofNat (n % 64 + 128)] := by
  have hval := Text.val_ofNat (n := n) (.inl (by omega))
  have hlead : n / 64 % 32 = n / 64 := by omega
  unfold String.utf8EncodeChar
  simp only [hval]
  rw [if_neg (by omega), if_pos (by omega), hlead]

theorem utf8EncodeChar_three (h : 2048 ≤ n) (h' : n < 65536) (hvalid : n.isValidChar) :
    String.utf8EncodeChar (Char.ofNat n) =
      [UInt8.ofNat (n / 4096 + 224), UInt8.ofNat (n / 64 % 64 + 128), UInt8.ofNat (n % 64 + 128)] := by
  have hval := Text.val_ofNat hvalid
  have hlead : n / 4096 % 16 = n / 4096 := by omega
  unfold String.utf8EncodeChar
  simp only [hval]
  rw [if_neg (by omega), if_neg (by omega), if_pos (by omega), hlead]

theorem utf8EncodeChar_four (h : 65536 ≤ n) (hvalid : n.isValidChar) :
    String.utf8EncodeChar (Char.ofNat n) =
      [UInt8.ofNat (n / 262144 + 240), UInt8.ofNat (n / 4096 % 64 + 128), UInt8.ofNat (n / 64 % 64 + 128),
        UInt8.ofNat (n % 64 + 128)] := by
  have hval := Text.val_ofNat hvalid
  have hmax : n < 0x110000 := by
    rcases hvalid with h | h <;> omega
  have hlead : n / 262144 % 8 = n / 262144 := by omega
  unfold String.utf8EncodeChar
  simp only [hval]
  rw [if_neg (by omega), if_neg (by omega), if_neg (by omega), hlead]

end Encode

/-- The bytes of the character with a given number, by how many there are. -/
inductive Encoded : ℕ → UInt8 → List UInt8 → Prop
  | one {n} (h : n < 128) : Encoded n (UInt8.ofNat n) []
  | two {n} (h : 128 ≤ n) (h' : n < 2048) :
    Encoded n (UInt8.ofNat (n / 64 + 192)) [UInt8.ofNat (n % 64 + 128)]
  | three {n} (h : 2048 ≤ n) (h' : n < 65536) (hvalid : n.isValidChar) :
    Encoded n (UInt8.ofNat (n / 4096 + 224)) [UInt8.ofNat (n / 64 % 64 + 128), UInt8.ofNat (n % 64 + 128)]
  | four {n} (h : 65536 ≤ n) (h' : n < 0x110000) :
    Encoded n (UInt8.ofNat (n / 262144 + 240))
      [UInt8.ofNat (n / 4096 % 64 + 128), UInt8.ofNat (n / 64 % 64 + 128), UInt8.ofNat (n % 64 + 128)]

theorem encoded_of_utf8EncodeChar {c : Char} {b : UInt8} {more : List UInt8}
    (h : String.utf8EncodeChar c = b :: more) : Encoded c.toNat b more := by
  have hvalid : c.toNat.isValidChar := c.valid
  have hmax : c.toNat < 0x110000 := by
    rcases hvalid with h | h <;> omega
  rw [← Char.ofNat_toNat c] at h
  by_cases h1 : c.toNat < 128
  · rw [utf8EncodeChar_one h1] at h
    obtain ⟨rfl, rfl⟩ := List.cons.inj h
    exact .one h1
  by_cases h2 : c.toNat < 2048
  · rw [utf8EncodeChar_two (by omega) h2] at h
    obtain ⟨rfl, rfl⟩ := List.cons.inj h
    exact .two (by omega) h2
  by_cases h3 : c.toNat < 65536
  · rw [utf8EncodeChar_three (by omega) h3 hvalid] at h
    obtain ⟨rfl, rfl⟩ := List.cons.inj h
    exact .three (by omega) h3 hvalid
  · rw [utf8EncodeChar_four (by omega) hvalid] at h
    obtain ⟨rfl, rfl⟩ := List.cons.inj h
    exact .four (by omega) hmax

theorem toNat_ofNat_of_lt {n : ℕ} (h : n < 256) : (UInt8.ofNat n).toNat = n := UInt8.toNat_ofNat_of_lt' h

theorem isContinuation_ofNat {n : ℕ} (h : n < 64) : isContinuation (UInt8.ofNat (n + 128)) = true := by
  rw [isContinuation_iff, toNat_ofNat_of_lt (by omega)]
  omega

/-! ### Beginnings of characters -/

/-- The bytes do not go on with one that satisfies `need`. -/
def Stops (need : UInt8 → Bool) (tail : List UInt8) : Prop := ∀ x ∈ tail.head?, need x = false

/-- The bytes `b :: more` begin a character, whose next byte has to satisfy `need`; or `b` begins none. -/
inductive Partial : UInt8 → List UInt8 → (UInt8 → Bool) → Prop
  | stray {b} (h : 128 ≤ b.toNat) (hlead : b.toNat < 0xC2 ∨ 0xF4 < b.toNat) : Partial b [] fun _ => false
  | two {b} (h : 0xC2 ≤ b.toNat) (h' : b.toNat ≤ 0xDF) : Partial b [] isContinuation
  | three {b} (h : 0xE0 ≤ b.toNat) (h' : b.toNat ≤ 0xEF) : Partial b [] (secondOfThree b)
  | threeSecond {b c} (h : 0xE0 ≤ b.toNat) (h' : b.toNat ≤ 0xEF) (hc : secondOfThree b c = true) :
    Partial b [c] isContinuation
  | four {b} (h : 0xF0 ≤ b.toNat) (h' : b.toNat ≤ 0xF4) : Partial b [] (secondOfFour b)
  | fourSecond {b c} (h : 0xF0 ≤ b.toNat) (h' : b.toNat ≤ 0xF4) (hc : secondOfFour b c = true) :
    Partial b [c] isContinuation
  | fourThird {b c d} (h : 0xF0 ≤ b.toNat) (h' : b.toNat ≤ 0xF4) (hc : secondOfFour b c = true)
    (hd : isContinuation d = true) : Partial b [c, d] isContinuation

section Lead

variable {b : UInt8}

theorem decodeHead_ascii (h : b.toNat < 128) (rest : List UInt8) :
    decodeHead b rest = (Char.ofNat b.toNat, 0) := by
  unfold decodeHead
  rw [if_pos (UInt8.lt_iff_toNat_lt.mpr h)]

theorem decodeHead_stray (h : 128 ≤ b.toNat) (hlead : b.toNat < 0xC2 ∨ 0xF4 < b.toNat) (rest : List UInt8) :
    decodeHead b rest = (replacement, 0) := by
  unfold decodeHead
  simp only [UInt8.lt_iff_toNat_lt, UInt8.le_iff_toNat_le, UInt8.reduceToNat, Bool.and_eq_true,
    decide_eq_true_eq]
  rw [if_neg (by omega), if_neg (by omega), if_neg (by omega), if_neg (by omega)]

theorem decodeHead_two (h : 0xC2 ≤ b.toNat) (h' : b.toNat ≤ 0xDF) (rest : List UInt8) :
    decodeHead b rest = match rest with
      | c :: _ => if isContinuation c then (scalar (b.toNat % 32) [c], 1) else (replacement, 0)
      | [] => (replacement, 0) := by
  unfold decodeHead
  simp only [UInt8.lt_iff_toNat_lt, UInt8.le_iff_toNat_le, UInt8.reduceToNat, Bool.and_eq_true,
    decide_eq_true_eq]
  refine (if_neg (by omega)).trans ?_
  exact if_pos (by omega)

theorem decodeHead_three (h : 0xE0 ≤ b.toNat) (h' : b.toNat ≤ 0xEF) (rest : List UInt8) :
    decodeHead b rest = match rest with
      | c :: d :: _ =>
        if secondOfThree b c then
          if isContinuation d then (scalar (b.toNat % 16) [c, d], 2) else (replacement, 1)
        else (replacement, 0)
      | [c] => (replacement, if secondOfThree b c then 1 else 0)
      | [] => (replacement, 0) := by
  unfold decodeHead
  simp only [UInt8.lt_iff_toNat_lt, UInt8.le_iff_toNat_le, UInt8.reduceToNat, Bool.and_eq_true,
    decide_eq_true_eq]
  refine (if_neg (by omega)).trans ((if_neg (by omega)).trans ?_)
  exact if_pos (by omega)

theorem decodeHead_four (h : 0xF0 ≤ b.toNat) (h' : b.toNat ≤ 0xF4) (rest : List UInt8) :
    decodeHead b rest = match rest with
      | c :: d :: e :: _ =>
        if secondOfFour b c then
          if isContinuation d then
            if isContinuation e then (scalar (b.toNat % 8) [c, d, e], 3) else (replacement, 2)
          else (replacement, 1)
        else (replacement, 0)
      | [c, d] => (replacement, if secondOfFour b c then if isContinuation d then 2 else 1 else 0)
      | [c] => (replacement, if secondOfFour b c then 1 else 0)
      | [] => (replacement, 0) := by
  unfold decodeHead
  simp only [UInt8.lt_iff_toNat_lt, UInt8.le_iff_toNat_le, UInt8.reduceToNat, Bool.and_eq_true,
    decide_eq_true_eq]
  refine (if_neg (by omega)).trans ((if_neg (by omega)).trans ((if_neg (by omega)).trans ?_))
  exact if_pos (by omega)

end Lead

/-- What cannot be completed is read as one U+FFFD. -/
theorem decodeHead_incomplete {b : UInt8} {more tail : List UInt8} {need : UInt8 → Bool}
    (hpart : Partial b more need) (hstops : Stops need tail) :
    decodeHead b (more ++ tail) = (replacement, more.length) := by
  cases hpart with
  | stray h hlead => exact decodeHead_stray h hlead tail
  | two h h' =>
    rw [decodeHead_two h h']
    cases tail with
    | nil => rfl
    | cons x tail => simp [hstops x rfl]
  | three h h' =>
    rw [decodeHead_three h h']
    match tail, hstops with
    | [], _ => rfl
    | [x], hstops => simp [hstops x rfl]
    | x :: y :: tail, hstops => simp [hstops x rfl]
  | threeSecond h h' hc =>
    rw [decodeHead_three h h']
    cases tail with
    | nil => simp [hc]
    | cons x tail => simp [hc, hstops x rfl]
  | four h h' =>
    rw [decodeHead_four h h']
    match tail, hstops with
    | [], _ => rfl
    | [x], hstops => simp [hstops x rfl]
    | [x, y], hstops => simp [hstops x rfl]
    | x :: y :: z :: tail, hstops => simp [hstops x rfl]
  | fourSecond h h' hc =>
    rw [decodeHead_four h h']
    match tail, hstops with
    | [], _ => simp [hc]
    | [x], hstops => simp [hc, hstops x rfl]
    | x :: y :: tail, hstops => simp [hc, hstops x rfl]
  | fourThird h h' hc hd =>
    rw [decodeHead_four h h']
    cases tail with
    | nil => simp [hc, hd]
    | cons x tail => simp [hc, hd, hstops x rfl]

/-- What was encoded is read back. -/
theorem decodeHead_utf8EncodeChar {c : Char} {b : UInt8} {more : List UInt8}
    (h : String.utf8EncodeChar c = b :: more) (tail : List UInt8) :
    decodeHead b (more ++ tail) = (c, more.length) := by
  have hc : Char.ofNat c.toNat = c := Char.ofNat_toNat c
  have henc := encoded_of_utf8EncodeChar h
  clear h
  generalize c.toNat = n at henc hc
  subst hc
  cases henc with
  | one h =>
    have hb := toNat_ofNat_of_lt (n := n) (by omega)
    rw [decodeHead_ascii (by omega), hb]
    rfl
  | two h h' =>
    have hb := toNat_ofNat_of_lt (n := n / 64 + 192) (by omega)
    have hx := toNat_ofNat_of_lt (n := n % 64 + 128) (by omega)
    rw [decodeHead_two (by omega) (by omega)]
    show (if _ then _ else _) = _
    rw [if_pos (isContinuation_ofNat (by omega))]
    refine Prod.ext (congrArg Char.ofNat ?_) rfl
    rw [List.foldl_cons, List.foldl_nil, hb, hx]
    omega
  | three h h' hvalid =>
    have hb := toNat_ofNat_of_lt (n := n / 4096 + 224) (by omega)
    have hx := toNat_ofNat_of_lt (n := n / 64 % 64 + 128) (by omega)
    have hy := toNat_ofNat_of_lt (n := n % 64 + 128) (by omega)
    have hsecond : secondOfThree (UInt8.ofNat (n / 4096 + 224)) (UInt8.ofNat (n / 64 % 64 + 128)) = true := by
      refine secondOfThree_iff.mpr ?_
      unfold Nat.isValidChar at hvalid
      omega
    rw [decodeHead_three (by omega) (by omega)]
    show (if _ then if _ then _ else _ else _) = _
    rw [if_pos hsecond, if_pos (isContinuation_ofNat (by omega))]
    refine Prod.ext (congrArg Char.ofNat ?_) rfl
    rw [List.foldl_cons, List.foldl_cons, List.foldl_nil, hb, hx, hy]
    omega
  | four h h' =>
    have hb := toNat_ofNat_of_lt (n := n / 262144 + 240) (by omega)
    have hx := toNat_ofNat_of_lt (n := n / 4096 % 64 + 128) (by omega)
    have hy := toNat_ofNat_of_lt (n := n / 64 % 64 + 128) (by omega)
    have hz := toNat_ofNat_of_lt (n := n % 64 + 128) (by omega)
    have hsecond : secondOfFour (UInt8.ofNat (n / 262144 + 240)) (UInt8.ofNat (n / 4096 % 64 + 128)) = true :=
      secondOfFour_iff.mpr (by omega)
    rw [decodeHead_four (by omega) (by omega)]
    show (if _ then if _ then if _ then _ else _ else _ else _) = _
    rw [if_pos hsecond, if_pos (isContinuation_ofNat (by omega)), if_pos (isContinuation_ofNat (by omega))]
    refine Prod.ext (congrArg Char.ofNat ?_) rfl
    rw [List.foldl_cons, List.foldl_cons, List.foldl_cons, List.foldl_nil, hb, hx, hy, hz]
    omega

theorem isContinuation_utf8EncodeChar {c : Char} {b : UInt8} {more : List UInt8}
    (h : String.utf8EncodeChar c = b :: more) :
    isContinuation b = false ∧ ∀ x ∈ more, isContinuation x = true := by
  have hlead : ∀ n, n < 128 ∨ 192 ≤ n ∧ n < 256 → isContinuation (UInt8.ofNat n) = false := by
    intro n hn
    rw [← Bool.not_eq_true, isContinuation_iff, toNat_ofNat_of_lt (by omega)]
    omega
  cases encoded_of_utf8EncodeChar h with
  | one hn => exact ⟨hlead _ (.inl hn), nofun⟩
  | two h h' =>
    exact ⟨hlead _ (.inr (by omega)), List.forall_mem_cons.mpr ⟨isContinuation_ofNat (by omega), nofun⟩⟩
  | three h h' =>
    refine ⟨hlead _ (.inr (by omega)), List.forall_mem_cons.mpr ⟨isContinuation_ofNat (by omega), ?_⟩⟩
    exact List.forall_mem_cons.mpr ⟨isContinuation_ofNat (by omega), nofun⟩
  | four h h' =>
    refine ⟨hlead _ (.inr (by omega)), List.forall_mem_cons.mpr ⟨isContinuation_ofNat (by omega), ?_⟩⟩
    refine List.forall_mem_cons.mpr ⟨isContinuation_ofNat (by omega), ?_⟩
    exact List.forall_mem_cons.mpr ⟨isContinuation_ofNat (by omega), nofun⟩

/-- What is read as a character encodes it. -/
theorem utf8EncodeChar_scalar_two {b c : UInt8} (h : 0xC2 ≤ b.toNat) (h' : b.toNat ≤ 0xDF)
    (hc : isContinuation c = true) : String.utf8EncodeChar (scalar (b.toNat % 32) [c]) = [b, c] := by
  rw [isContinuation_iff] at hc
  have hscalar : scalar (b.toNat % 32) [c] = Char.ofNat (b.toNat % 32 * 64 + c.toNat % 64) := rfl
  have hb : (b.toNat % 32 * 64 + c.toNat % 64) / 64 + 192 = b.toNat := by omega
  have hc' : (b.toNat % 32 * 64 + c.toNat % 64) % 64 + 128 = c.toNat := by omega
  rw [hscalar, utf8EncodeChar_two (by omega) (by omega), hb, hc', UInt8.ofNat_toNat, UInt8.ofNat_toNat]

theorem utf8EncodeChar_scalar_three {b c d : UInt8} (h : 0xE0 ≤ b.toNat) (h' : b.toNat ≤ 0xEF)
    (hc : secondOfThree b c = true) (hd : isContinuation d = true) :
    String.utf8EncodeChar (scalar (b.toNat % 16) [c, d]) = [b, c, d] := by
  rw [isContinuation_iff] at hd
  rw [secondOfThree_iff] at hc
  have hscalar : scalar (b.toNat % 16) [c, d] =
      Char.ofNat ((b.toNat % 16 * 64 + c.toNat % 64) * 64 + d.toNat % 64) := rfl
  have hvalid : ((b.toNat % 16 * 64 + c.toNat % 64) * 64 + d.toNat % 64).isValidChar := by
    unfold Nat.isValidChar
    omega
  have hb : ((b.toNat % 16 * 64 + c.toNat % 64) * 64 + d.toNat % 64) / 4096 + 224 = b.toNat := by omega
  have hc' : ((b.toNat % 16 * 64 + c.toNat % 64) * 64 + d.toNat % 64) / 64 % 64 + 128 = c.toNat := by omega
  have hd' : ((b.toNat % 16 * 64 + c.toNat % 64) * 64 + d.toNat % 64) % 64 + 128 = d.toNat := by omega
  rw [hscalar, utf8EncodeChar_three (by omega) (by omega) hvalid, hb, hc', hd', UInt8.ofNat_toNat,
    UInt8.ofNat_toNat, UInt8.ofNat_toNat]

theorem utf8EncodeChar_scalar_four {b c d e : UInt8} (h : 0xF0 ≤ b.toNat) (h' : b.toNat ≤ 0xF4)
    (hc : secondOfFour b c = true) (hd : isContinuation d = true) (he : isContinuation e = true) :
    String.utf8EncodeChar (scalar (b.toNat % 8) [c, d, e]) = [b, c, d, e] := by
  rw [isContinuation_iff] at hd he
  rw [secondOfFour_iff] at hc
  have hscalar : scalar (b.toNat % 8) [c, d, e] =
      Char.ofNat (((b.toNat % 8 * 64 + c.toNat % 64) * 64 + d.toNat % 64) * 64 + e.toNat % 64) := rfl
  have hvalid :
      (((b.toNat % 8 * 64 + c.toNat % 64) * 64 + d.toNat % 64) * 64 + e.toNat % 64).isValidChar := by
    unfold Nat.isValidChar
    omega
  generalize hn : ((b.toNat % 8 * 64 + c.toNat % 64) * 64 + d.toNat % 64) * 64 + e.toNat % 64 = n at *
  have hb : n / 262144 + 240 = b.toNat := by omega
  have hc' : n / 4096 % 64 + 128 = c.toNat := by omega
  have hd' : n / 64 % 64 + 128 = d.toNat := by omega
  have he' : n % 64 + 128 = e.toNat := by omega
  rw [hscalar, utf8EncodeChar_four (by omega) hvalid, hb, hc', hd', he', UInt8.ofNat_toNat,
    UInt8.ofNat_toNat, UInt8.ofNat_toNat, UInt8.ofNat_toNat]

/-- At the head of bytes there is a character, or a beginning that what follows does not complete. -/
theorem character_or_beginning (b : UInt8) (rest : List UInt8) :
    (∃ c more tail, rest = more ++ tail ∧ String.utf8EncodeChar c = b :: more) ∨
    ∃ more tail need, rest = more ++ tail ∧ Partial b more need ∧ Stops need tail := by
  have hb := b.toNat_lt
  by_cases h1 : b.toNat < 128
  · refine .inl ⟨Char.ofNat b.toNat, [], rest, rfl, ?_⟩
    rw [utf8EncodeChar_one h1, UInt8.ofNat_toNat]
  by_cases hstray : b.toNat < 0xC2 ∨ 0xF4 < b.toNat
  · exact .inr ⟨[], rest, _, rfl, .stray (by omega) hstray, fun _ _ => rfl⟩
  -- the sequence ends with the first byte that does not fit
  by_cases h2 : b.toNat ≤ 0xDF
  · have hlead := Partial.two (by omega) h2
    cases rest with
    | nil => exact .inr ⟨[], [], _, rfl, hlead, nofun⟩
    | cons c rest =>
      by_cases hc : isContinuation c = true
      · exact .inl ⟨_, [c], rest, rfl, utf8EncodeChar_scalar_two (by omega) h2 hc⟩
      · exact .inr ⟨[], c :: rest, _, rfl, hlead, by simpa [Stops] using hc⟩
  by_cases h3 : b.toNat ≤ 0xEF
  · have hlead := Partial.three (by omega) h3
    cases rest with
    | nil => exact .inr ⟨[], [], _, rfl, hlead, nofun⟩
    | cons c rest =>
      by_cases hc : secondOfThree b c = true
      · have hsecond := Partial.threeSecond (by omega) h3 hc
        cases rest with
        | nil => exact .inr ⟨[c], [], _, rfl, hsecond, nofun⟩
        | cons d rest =>
          by_cases hd : isContinuation d = true
          · exact .inl ⟨_, [c, d], rest, rfl, utf8EncodeChar_scalar_three (by omega) h3 hc hd⟩
          · exact .inr ⟨[c], d :: rest, _, rfl, hsecond, by simpa [Stops] using hd⟩
      · exact .inr ⟨[], c :: rest, _, rfl, hlead, by simpa [Stops] using hc⟩
  · have h4 : 0xF0 ≤ b.toNat := by omega
    have h4' : b.toNat ≤ 0xF4 := by omega
    cases rest with
    | nil => exact .inr ⟨[], [], _, rfl, .four h4 h4', nofun⟩
    | cons c rest =>
      by_cases hc : secondOfFour b c = true
      · cases rest with
        | nil => exact .inr ⟨[c], [], _, rfl, .fourSecond h4 h4' hc, nofun⟩
        | cons d rest =>
          by_cases hd : isContinuation d = true
          · cases rest with
            | nil => exact .inr ⟨[c, d], [], _, rfl, .fourThird h4 h4' hc hd, nofun⟩
            | cons e rest =>
              by_cases he : isContinuation e = true
              · exact .inl ⟨_, [c, d, e], rest, rfl, utf8EncodeChar_scalar_four h4 h4' hc hd he⟩
              · exact .inr ⟨[c, d], e :: rest, _, rfl, .fourThird h4 h4' hc hd, by simpa [Stops] using he⟩
          · exact .inr ⟨[c], d :: rest, _, rfl, .fourSecond h4 h4' hc, by simpa [Stops] using hd⟩
      · exact .inr ⟨[], c :: rest, _, rfl, .four h4 h4', by simpa [Stops] using hc⟩

namespace Partial

variable {b : UInt8} {more : List UInt8} {need : UInt8 → Bool}

/-- Only continuation bytes go on with a character. -/
theorem isContinuation_of_need (h : Partial b more need) {x : UInt8} (hx : need x = true) :
    isContinuation x = true := by
  cases h with
  | stray => cases hx
  | three h h' =>
    obtain ⟨hlow, hhigh, -⟩ := secondOfThree_iff.mp hx
    exact (isContinuation_iff x).mpr ⟨hlow, hhigh⟩
  | four h h' =>
    obtain ⟨hlow, hhigh, -⟩ := secondOfFour_iff.mp hx
    exact (isContinuation_iff x).mpr ⟨hlow, hhigh⟩
  | two => exact hx
  | threeSecond => exact hx
  | fourSecond => exact hx
  | fourThird => exact hx

theorem isContinuation_of_mem (h : Partial b more need) {x : UInt8} (hx : x ∈ more) :
    isContinuation x = true := by
  cases h with
  | threeSecond h h' hc =>
    obtain rfl := List.mem_singleton.mp hx
    exact (Partial.three h h').isContinuation_of_need hc
  | fourSecond h h' hc =>
    obtain rfl := List.mem_singleton.mp hx
    exact (Partial.four h h').isContinuation_of_need hc
  | fourThird h h' hc hd =>
    rcases List.mem_cons.mp hx with rfl | hx
    · exact (Partial.four h h').isContinuation_of_need hc
    · obtain rfl := List.mem_singleton.mp hx
      exact hd
  | _ => exact absurd hx List.not_mem_nil

/-- Three bytes that are not complete begin a sequence of four. -/
theorem length_le (h : Partial b more need) : more.length ≤ 1 ∨ more.length = 2 ∧ 0xF0 ≤ b.toNat := by
  cases h with
  | fourThird h h' hc hd => exact .inr ⟨rfl, h⟩
  | _ => exact .inl (by simp)

end Partial

theorem utf8EncodeChar_replacement : String.utf8EncodeChar replacement = [0xEF, 0xBF, 0xBD] := by
  decide

/-! ### Pieces -/

/-- A piece of bytes that are decoded. -/
inductive Piece
  | char (c : Char)
  | broken (bytes : List UInt8)
  deriving DecidableEq, Repr

namespace Piece

def bytes : Piece → List UInt8
  | char c => String.utf8EncodeChar c
  | broken bytes => bytes

/-- What the piece is read as. -/
def text : Piece → Char
  | char c => c
  | broken _ => replacement

end Piece

/-- The pieces of the bytes. -/
inductive Splits : List UInt8 → List Piece → Prop
  | nil : Splits [] []
  | char {c : Char} {bs : List UInt8} {ps : List Piece} (h : Splits bs ps) :
    Splits (String.utf8EncodeChar c ++ bs) (.char c :: ps)
  | broken {b : UInt8} {more bs : List UInt8} {need : UInt8 → Bool} {ps : List Piece}
    (hpart : Partial b more need) (hstops : Stops need bs) (h : Splits bs ps) :
    Splits (b :: more ++ bs) (.broken (b :: more) :: ps)

theorem exists_splits (bs : List UInt8) : ∃ ps, Splits bs ps := by
  induction hn : bs.length using Nat.strong_induction_on generalizing bs with
  | _ n ih =>
    cases bs with
    | nil => exact ⟨[], .nil⟩
    | cons b rest =>
      rcases character_or_beginning b rest with ⟨c, more, tail, rfl, hc⟩ | ⟨more, tail, need, rfl, hp, hs⟩
      · obtain ⟨ps, hps⟩ := ih tail.length (by simp at hn; omega) tail rfl
        refine ⟨.char c :: ps, ?_⟩
        have hsplit := Splits.char (c := c) hps
        rwa [hc] at hsplit
      · obtain ⟨ps, hps⟩ := ih tail.length (by simp at hn; omega) tail rfl
        exact ⟨_, .broken hp hs hps⟩

theorem exists_cons_utf8EncodeChar (c : Char) : ∃ b more, String.utf8EncodeChar c = b :: more := by
  refine List.exists_cons_of_ne_nil fun h => ?_
  have hlength := c.utf8Size_pos
  rw [← String.length_utf8EncodeChar, h] at hlength
  exact absurd hlength (lt_irrefl 0)

namespace Splits

variable {bs : List UInt8} {ps : List Piece}

theorem bytes_eq (h : Splits bs ps) : ps.flatMap Piece.bytes = bs := by
  induction h with
  | nil => rfl
  | char h ih => rw [List.flatMap_cons, ih]; rfl
  | broken hp hs h ih => rw [List.flatMap_cons, ih]; rfl

theorem decodeFrom_append (as bs : List UInt8) : decodeFrom as.length (as ++ bs) = decodeFrom 0 bs := by
  induction as with
  | nil => rfl
  | cons a as ih => exact ih

theorem decodeFrom_cons_append {b : UInt8} {more tail : List UInt8} {c : Char}
    (h : decodeHead b (more ++ tail) = (c, more.length)) :
    fromUtf8Lossy (b :: more ++ tail) = c :: fromUtf8Lossy tail := by
  show (decodeHead b (more ++ tail)).1 :: decodeFrom (decodeHead b (more ++ tail)).2 (more ++ tail) = _
  rw [h]
  exact congrArg (c :: ·) (decodeFrom_append more tail)

theorem text_eq (h : Splits bs ps) : fromUtf8Lossy bs = ps.map Piece.text := by
  induction h with
  | nil => rfl
  | @char c bs ps h ih =>
    obtain ⟨b, more, hc⟩ := exists_cons_utf8EncodeChar c
    rw [hc, decodeFrom_cons_append (decodeHead_utf8EncodeChar hc bs), ih]
    rfl
  | broken hp hs h ih =>
    rw [decodeFrom_cons_append (decodeHead_incomplete hp hs), ih]
    rfl

theorem chars_append (h : Splits bs ps) (cs : List Char) :
    Splits (Text.utf8 cs ++ bs) (cs.map Piece.char ++ ps) := by
  induction cs with
  | nil => exact h
  | cons c cs ih =>
    unfold Text.utf8
    rw [List.flatMap_cons, List.append_assoc]
    exact .char ih

theorem of_chars (cs : List Char) : Splits (Text.utf8 cs) (cs.map Piece.char) := by
  have h := chars_append .nil cs
  rwa [List.append_nil, List.append_nil] at h

/-- Bytes that begin with a character have it as their first piece. -/
theorem exists_of_utf8EncodeChar {c : Char} {rest : List UInt8}
    (h : Splits (String.utf8EncodeChar c ++ rest) ps) :
    ∃ ps', ps = .char c :: ps' ∧ Splits rest ps' := by
  obtain ⟨b, more, hc⟩ := exists_cons_utf8EncodeChar c
  have hhead := decodeHead_utf8EncodeChar hc rest
  generalize hbs : String.utf8EncodeChar c ++ rest = bs at h
  cases h with
  | nil =>
    rw [hc] at hbs
    cases hbs
  | @char d bs ps hsplit =>
    obtain ⟨b', more', hd⟩ := exists_cons_utf8EncodeChar d
    have hhead' := decodeHead_utf8EncodeChar hd bs
    have hcons := hbs
    rw [hc, hd] at hcons
    obtain ⟨rfl, hrest⟩ := List.cons.inj hcons
    have hrest : more ++ rest = more' ++ bs := hrest
    rw [← hrest, hhead] at hhead'
    obtain rfl := (Prod.mk.inj hhead').1
    exact ⟨ps, rfl, List.append_cancel_left hbs ▸ hsplit⟩
  | @broken b' more' bs need ps hp hs hsplit =>
    have hhead' := decodeHead_incomplete hp hs
    rw [hc] at hbs
    obtain ⟨rfl, hrest⟩ := List.cons.inj hbs
    have hrest : more ++ rest = more' ++ bs := hrest
    rw [← hrest, hhead] at hhead'
    obtain ⟨rfl, hlength⟩ := Prod.mk.inj hhead'
    -- U+FFFD has three bytes, and only sequences of four begin with three that are not complete
    rw [utf8EncodeChar_replacement] at hc
    obtain ⟨rfl, rfl⟩ := List.cons.inj hc
    rcases hp.length_le with hle | ⟨-, hlead⟩
    · rw [← hlength] at hle
      exact absurd hle (by decide)
    · exact absurd hlead (by decide)

/-- The characters occur in the bytes where they are among the pieces. -/
theorem exists_of_utf8 {cs : List Char} {rest : List UInt8} (h : Splits (Text.utf8 cs ++ rest) ps) :
    ∃ ps', ps = cs.map Piece.char ++ ps' ∧ Splits rest ps' := by
  induction cs generalizing ps with
  | nil => exact ⟨ps, rfl, h⟩
  | cons c cs ih =>
    have hcons : Text.utf8 (c :: cs) ++ rest = String.utf8EncodeChar c ++ (Text.utf8 cs ++ rest) := by
      unfold Text.utf8
      rw [List.flatMap_cons, List.append_assoc]
    rw [hcons] at h
    obtain ⟨ps₁, rfl, htail⟩ := exists_of_utf8EncodeChar h
    obtain ⟨ps₂, rfl, hrest⟩ := ih htail
    exact ⟨ps₂, rfl, hrest⟩

/-- A piece begins with any byte and goes on with continuation bytes. -/
theorem exists_of_cons {p : Piece} (h : Splits bs (p :: ps)) :
    ∃ b more tail, p.bytes = b :: more ∧ (∀ x ∈ more, isContinuation x = true) ∧
      bs = b :: more ++ tail ∧ Splits tail ps := by
  cases h with
  | @char c bs ps h =>
    obtain ⟨b, more, hc⟩ := exists_cons_utf8EncodeChar c
    refine ⟨b, more, bs, hc, (isContinuation_utf8EncodeChar hc).2, ?_, h⟩
    rw [hc]
  | @broken b more bs need ps hp hs h =>
    exact ⟨b, more, bs, rfl, fun _ => hp.isContinuation_of_mem, rfl, h⟩

theorem exists_of_append {ps₁ ps₂ : List Piece} (h : Splits bs (ps₁ ++ ps₂)) :
    ∃ bs₂, bs = ps₁.flatMap Piece.bytes ++ bs₂ ∧ Splits bs₂ ps₂ := by
  induction ps₁ generalizing bs with
  | nil => exact ⟨bs, rfl, h⟩
  | cons p ps₁ ih =>
    obtain ⟨b, more, tail, hbytes, -, rfl, htail⟩ := exists_of_cons h
    obtain ⟨bs₂, rfl, h₂⟩ := ih htail
    refine ⟨bs₂, ?_, h₂⟩
    rw [List.flatMap_cons, hbytes, List.append_assoc]

end Splits

theorem flatMap_bytes_chars (cs : List Char) : (cs.map Piece.char).flatMap Piece.bytes = Text.utf8 cs := by
  rw [List.flatMap_map]
  rfl

theorem map_text_chars (cs : List Char) : (cs.map Piece.char).map Piece.text = cs := by
  rw [List.map_map]
  exact List.map_id cs

theorem count_text {c : Char} (hc : c ≠ replacement) (ps : List Piece) :
    (ps.map Piece.text).count c = ps.count (.char c) := by
  induction ps with
  | nil => rfl
  | cons p ps ih =>
    rw [List.map_cons, List.count_cons, List.count_cons, ih]
    cases p with
    | char d => simp [Piece.text]
    | broken bytes => simp [Piece.text, hc.symm]

/-- Text begins with a byte that is no continuation. -/
theorem exists_cons_utf8 {cs : List Char} (hcs : cs ≠ []) :
    ∃ b rest, Text.utf8 cs = b :: rest ∧ isContinuation b = false := by
  cases cs with
  | nil => exact absurd rfl hcs
  | cons c cs =>
    obtain ⟨b, more, hc⟩ := exists_cons_utf8EncodeChar c
    refine ⟨b, more ++ Text.utf8 cs, ?_, (isContinuation_utf8EncodeChar hc).1⟩
    show String.utf8EncodeChar c ++ Text.utf8 cs = _
    rw [hc]
    rfl

/-! ### Replacing text in bytes -/

section Replacing

variable {cs ds : List Char} {k : ℕ} {bs : List UInt8} {ps qs : List Piece}

/-- Replacing the bytes of a text replaces its characters among the pieces: an occurrence can only begin
where a piece begins. -/
theorem Splits.replaced (hcs : cs ≠ []) (h : Splits bs ps)
    (hr : Replace.Replaced (cs.map Piece.char) (ds.map Piece.char) k ps qs) :
    Replace.Replaced (Text.utf8 cs) (Text.utf8 ds) k bs (qs.flatMap Piece.bytes) := by
  induction hr generalizing bs with
  | nil =>
    cases h
    exact .nil
  | found hr ih =>
    obtain ⟨bs₂, rfl, h₂⟩ := h.exists_of_append
    rw [List.flatMap_append, flatMap_bytes_chars, flatMap_bytes_chars]
    exact .found (ih h₂)
  | @copied k p ps qs hno hr ih =>
    obtain ⟨b, more, tail, hbytes, hcont, rfl, htail⟩ := h.exists_of_cons
    rw [List.flatMap_cons, hbytes]
    refine (ih htail).append_left fun s hs hsuffix hprefix => ?_
    rcases List.suffix_cons_iff.mp hsuffix with rfl | hsuffix
    · obtain ⟨rest, hrest⟩ := hprefix
      rw [← hrest] at h
      obtain ⟨ps', hps', -⟩ := h.exists_of_utf8
      exact hno (hps' ▸ List.prefix_append _ _)
    · obtain ⟨b', rest', hutf8, hb'⟩ := exists_cons_utf8 hcs
      obtain ⟨x, s, rfl⟩ := List.exists_cons_of_ne_nil hs
      rw [hutf8] at hprefix
      obtain ⟨rfl, -⟩ := List.cons_prefix_cons.mp hprefix
      rw [hcont b' (hsuffix.subset List.mem_cons_self)] at hb'
      cases hb'

/-- With a text put in, what was broken stays broken. -/
theorem Splits.splits_replaced (hds : ds ≠ []) (h : Splits bs ps)
    (hr : Replace.Replaced (cs.map Piece.char) (ds.map Piece.char) k ps qs) :
    Splits (qs.flatMap Piece.bytes) qs ∧
    ∀ b more need, Partial b more need → Stops need bs → Stops need (qs.flatMap Piece.bytes) := by
  induction hr generalizing bs with
  | nil =>
    cases h
    exact ⟨.nil, fun _ _ _ _ hs => hs⟩
  | @found k ps qs hr ih =>
    obtain ⟨bs₂, rfl, h₂⟩ := h.exists_of_append
    obtain ⟨hsplits, -⟩ := ih h₂
    rw [List.flatMap_append, flatMap_bytes_chars]
    constructor
    · exact hsplits.chars_append ds
    · intro b more need hp hs x hx
      obtain ⟨b', rest', hutf8, hb'⟩ := exists_cons_utf8 hds
      rw [hutf8] at hx
      obtain rfl := Option.some.inj hx
      by_contra hneed
      rw [hp.isContinuation_of_need (eq_true_of_ne_false hneed)] at hb'
      cases hb'
  | @copied k p ps qs hno hr ih =>
    obtain ⟨b, more, tail, hbytes, -, hbs, htail⟩ := h.exists_of_cons
    constructor
    · cases h with
      | char h => exact .char (ih h).1
      | broken hp hs h => exact .broken hp ((ih h).2 _ _ _ hp hs) (ih h).1
    · intro b' more' need hp hs
      subst hbs
      rw [List.flatMap_cons, hbytes]
      exact hs

end Replacing

/-! ### Sizes -/

/-- The number of bytes that do not lead a sequence of four. -/
def weight (bs : List UInt8) : ℕ := bs.countP fun b => b.toNat < 0xF0

theorem weight_append (as bs : List UInt8) : weight (as ++ bs) = weight as + weight bs := List.countP_append

/-- A broken sequence weighs less than the U+FFFD it is read as. -/
theorem Partial.weight_lt {b : UInt8} {more : List UInt8} {need : UInt8 → Bool} (h : Partial b more need) :
    weight (b :: more) < weight (String.utf8EncodeChar replacement) := by
  have hreplacement : weight (String.utf8EncodeChar replacement) = 3 := by
    rw [utf8EncodeChar_replacement]
    decide
  have hmore : weight more ≤ more.length := List.countP_le_length
  unfold weight at *
  rw [hreplacement, List.countP_cons]
  rcases h.length_le with hle | ⟨htwo, hlead⟩
  · split_ifs <;> omega
  · rw [if_neg (by simpa using hlead)]
    omega

namespace Splits

variable {bs : List UInt8} {ps : List Piece}

/-- Sizes that differ at broken sequences only. -/
theorem size_lt {m n : List Piece → ℕ} (hm : ∀ p ps, m (p :: ps) = m [p] + m ps)
    (hn : ∀ p ps, n (p :: ps) = n [p] + n ps) (hnil : m [] = n []) (hchar : ∀ c, m [.char c] = n [.char c])
    (hpart : ∀ {b more need}, Partial b more need → m [.broken (b :: more)] < n [.broken (b :: more)])
    (h : Splits bs ps) : m ps ≤ n ps ∧ ∀ bytes, .broken bytes ∈ ps → m ps < n ps := by
  induction h with
  | nil => exact ⟨hnil.le, fun _ hmem => absurd hmem List.not_mem_nil⟩
  | @char c bs ps h ih =>
    obtain ⟨hle, hlt⟩ := ih
    have hc := hchar c
    rw [hm, hn]
    refine ⟨by omega, fun bytes hmem => ?_⟩
    have hlt := hlt bytes ((List.mem_cons.mp hmem).resolve_left nofun)
    omega
  | @broken b more bs need ps hp hs h ih =>
    obtain ⟨hle, -⟩ := ih
    have hbroken := hpart hp
    rw [hm, hn]
    exact ⟨by omega, fun _ _ => by omega⟩

theorem weight_lt (h : Splits bs ps) {bytes : List UInt8} (hbroken : .broken bytes ∈ ps) :
    weight (ps.flatMap Piece.bytes) < weight (Text.utf8 (ps.map Piece.text)) := by
  refine (size_lt (m := fun ps => weight (ps.flatMap Piece.bytes))
    (n := fun ps => weight (Text.utf8 (ps.map Piece.text))) ?_ ?_ rfl ?_ ?_ h).2 bytes hbroken
  · intro p ps
    rw [List.flatMap_cons, weight_append, List.flatMap_singleton]
  · intro p ps
    show weight (String.utf8EncodeChar p.text ++ _) = weight (String.utf8EncodeChar p.text ++ []) + _
    rw [weight_append, List.append_nil]
    rfl
  · intro c
    rfl
  · intro b more need hp
    show weight (b :: more ++ []) < weight (String.utf8EncodeChar replacement ++ [])
    rw [List.append_nil, List.append_nil]
    exact hp.weight_lt

/-- A broken sequence is read as three bytes more, which the count of U+FFFD shows. -/
theorem length_lt (h : Splits bs ps) {bytes : List UInt8} (hbroken : .broken bytes ∈ ps) :
    (Text.utf8 (ps.map Piece.text)).length + 3 * ps.count (.char replacement) <
      (ps.flatMap Piece.bytes).length + 3 * (ps.map Piece.text).count replacement := by
  refine (size_lt (m := fun ps => (Text.utf8 (ps.map Piece.text)).length + 3 * ps.count (.char replacement))
    (n := fun ps => (ps.flatMap Piece.bytes).length + 3 * (ps.map Piece.text).count replacement)
    ?_ ?_ rfl ?_ ?_ h).2 bytes hbroken
  · intro p ps
    show (String.utf8EncodeChar p.text ++ Text.utf8 (ps.map Piece.text)).length + _ =
      (String.utf8EncodeChar p.text ++ []).length + _ + _
    rw [List.count_cons, List.count_singleton, List.length_append, List.append_nil]
    omega
  · intro p ps
    rw [List.flatMap_cons, List.length_append, List.flatMap_singleton, List.map_cons, List.map_singleton,
      List.count_cons, List.count_singleton]
    omega
  · intro c
    by_cases hc : c = replacement
    · subst hc
      rfl
    · have hp : Piece.char c ≠ .char replacement := fun heq => hc (Piece.char.inj heq)
      simp [Piece.text, Piece.bytes, Text.utf8, hc]
  · intro b more need hp
    have hlength : (Text.utf8 [replacement]).length = 3 := by decide
    show (Text.utf8 [replacement]).length + 3 * 0 < (b :: more ++ []).length + 3 * 1
    rw [hlength, List.append_nil, List.length_cons]
    omega

/-- Bytes without a broken sequence are a text. -/
theorem eq_utf8 (h : Splits bs ps) (hnone : ∀ bytes, .broken bytes ∉ ps) :
    ps = (ps.map Piece.text).map Piece.char ∧ bs = Text.utf8 (ps.map Piece.text) := by
  suffices hps : ps = (ps.map Piece.text).map Piece.char by
    refine ⟨hps, ?_⟩
    rw [← flatMap_bytes_chars, ← hps, h.bytes_eq]
  rw [List.map_map]
  refine (List.map_id ps).symm.trans (List.map_congr_left fun p hp => ?_)
  cases p with
  | char c => rfl
  | broken bytes => exact absurd hp (hnone bytes)

end Splits

/-- A character in the bytes of a text is one of its characters. -/
theorem exists_of_utf8_eq {cs : List Char} {c : Char} {before after : List UInt8}
    (h : Text.utf8 cs = before ++ (String.utf8EncodeChar c ++ after)) :
    ∃ cs₁ cs₂, cs = cs₁ ++ c :: cs₂ ∧ Text.utf8 cs₂ = after := by
  obtain ⟨b, more, hc⟩ := exists_cons_utf8EncodeChar c
  have hb := (isContinuation_utf8EncodeChar hc).1
  induction cs generalizing before with
  | nil =>
    rw [hc] at h
    have hlength := congrArg List.length h
    simp [Text.utf8] at hlength
  | cons d cs ih =>
    have hcons : Text.utf8 (d :: cs) = String.utf8EncodeChar d ++ Text.utf8 cs := rfl
    have hcons' := h
    rw [hcons] at hcons'
    rcases List.append_eq_append_iff.mp hcons' with ⟨as, rfl, htail⟩ | ⟨ws, hd, htail⟩
    · obtain ⟨cs₁, cs₂, rfl, hafter⟩ := ih htail
      exact ⟨d :: cs₁, cs₂, rfl, hafter⟩
    · cases before with
      | nil =>
        have hsplits := Splits.of_chars (d :: cs)
        rw [h] at hsplits
        obtain ⟨ps, hps, hrest⟩ := Splits.exists_of_utf8EncodeChar hsplits
        obtain ⟨hdc, rfl⟩ := List.cons.inj hps
        obtain rfl := Piece.char.inj hdc
        refine ⟨[], cs, rfl, ?_⟩
        exact List.append_cancel_left (hcons.symm.trans h)
      | cons x before =>
        -- the character would begin within the bytes of `d`
        cases ws with
        | nil =>
          obtain ⟨cs₁, cs₂, rfl, hafter⟩ := @ih [] htail.symm
          exact ⟨d :: cs₁, cs₂, rfl, hafter⟩
        | cons w ws =>
          rw [hc] at htail
          obtain ⟨rfl, -⟩ := List.cons.inj htail
          have hw := (isContinuation_utf8EncodeChar hd).2 b (by simp)
          rw [hw] at hb
          cases hb

theorem count_le_of_bytes_eq {qs : List Piece} {cs : List Char} (before : List UInt8)
    (h : Text.utf8 cs = before ++ qs.flatMap Piece.bytes) (c : Char) : qs.count (.char c) ≤ cs.count c := by
  induction qs generalizing cs before with
  | nil => exact Nat.zero_le _
  | cons q qs ih =>
    rw [List.flatMap_cons] at h
    by_cases hq : q = .char c
    · subst hq
      obtain ⟨cs₁, cs₂, rfl, hafter⟩ := exists_of_utf8_eq h
      have ih := ih [] hafter
      rw [List.count_cons_self, List.count_append, List.count_cons_self]
      omega
    · rw [List.count_cons_of_ne hq]
      refine ih (before ++ q.bytes) ?_
      rw [h, List.append_assoc]

/-! ### Strict decoding -/

theorem fromUtf8Lossy_utf8 (cs : List Char) : fromUtf8Lossy (Text.utf8 cs) = cs := by
  rw [(Splits.of_chars cs).text_eq, map_text_chars]

/-- `from_utf8`: bytes are valid when the text they decode to has them. -/
def fromUtf8 (bytes : List UInt8) : Option (List Char) :=
  if Text.utf8 (fromUtf8Lossy bytes) = bytes then some (fromUtf8Lossy bytes) else none

theorem fromUtf8_eq_some {bytes : List UInt8} {cs : List Char} :
    fromUtf8 bytes = some cs ↔ bytes = Text.utf8 cs := by
  unfold fromUtf8
  constructor
  · intro h
    split_ifs at h with hvalid
    obtain rfl := Option.some.inj h
    exact hvalid.symm
  · rintro rfl
    rw [fromUtf8Lossy_utf8, if_pos rfl]

/-! ### Text cut at a byte -/

/-- The characters whose bytes all fit into `limit` bytes. -/
def fitting : ℕ → List Char → List Char
  | _, [] => []
  | limit, c :: cs => if c.utf8Size ≤ limit then c :: fitting (limit - c.utf8Size) cs else []

/-- A character cut in two begins one that is not complete. -/
theorem partial_take {c : Char} {b : UInt8} {more : List UInt8} (h : String.utf8EncodeChar c = b :: more)
    {n : ℕ} (hn : n < more.length) : ∃ need, Partial b (more.take n) need := by
  cases encoded_of_utf8EncodeChar h with
  | one h => exact absurd hn (Nat.not_lt_zero n)
  | two h h' =>
    have hb := toNat_ofNat_of_lt (n := c.toNat / 64 + 192) (by omega)
    obtain rfl : n = 0 := Nat.lt_one_iff.mp hn
    exact ⟨_, .two (by omega) (by omega)⟩
  | three h h' hvalid =>
    have hb := toNat_ofNat_of_lt (n := c.toNat / 4096 + 224) (by omega)
    have hx := toNat_ofNat_of_lt (n := c.toNat / 64 % 64 + 128) (by omega)
    match n, hn with
    | 0, _ => exact ⟨_, .three (by omega) (by omega)⟩
    | 1, _ =>
      refine ⟨_, .threeSecond (by omega) (by omega) (secondOfThree_iff.mpr ?_)⟩
      unfold Nat.isValidChar at hvalid
      omega
  | four h h' =>
    have hb := toNat_ofNat_of_lt (n := c.toNat / 262144 + 240) (by omega)
    have hx := toNat_ofNat_of_lt (n := c.toNat / 4096 % 64 + 128) (by omega)
    have hsecond : secondOfFour (UInt8.ofNat (c.toNat / 262144 + 240))
        (UInt8.ofNat (c.toNat / 4096 % 64 + 128)) = true := secondOfFour_iff.mpr (by omega)
    match n, hn with
    | 0, _ => exact ⟨_, .four (by omega) (by omega)⟩
    | 1, _ => exact ⟨_, .fourSecond (by omega) (by omega) hsecond⟩
    | 2, _ => exact ⟨_, .fourThird (by omega) (by omega) hsecond (isContinuation_ofNat (by omega))⟩

/-- **Cut text**: the characters that fit are read, and U+FFFD once for the one that was cut in two. -/
theorem fromUtf8Lossy_take (limit : ℕ) (cs : List Char) :
    fromUtf8Lossy ((Text.utf8 cs).take limit) = fitting limit cs ++
      if (Text.utf8 (fitting limit cs)).length = min limit (Text.utf8 cs).length then []
      else [replacement] := by
  induction cs generalizing limit with
  | nil => rw [show min limit (Text.utf8 []).length = 0 from Nat.min_zero limit]; simp [Text.utf8, fitting]
  | cons c cs ih =>
    obtain ⟨b, more, hc⟩ := exists_cons_utf8EncodeChar c
    have hcons : Text.utf8 (c :: cs) = b :: more ++ Text.utf8 cs := by
      unfold Text.utf8
      rw [List.flatMap_cons, hc]
    have hsize : c.utf8Size = more.length + 1 := by
      rw [← String.length_utf8EncodeChar, hc]
      rfl
    unfold fitting
    by_cases hfits : c.utf8Size ≤ limit
    · -- the character is read, and the rest is cut where it was
      obtain ⟨rest, rfl⟩ := Nat.exists_eq_add_of_le hfits
      have htake : (Text.utf8 (c :: cs)).take (c.utf8Size + rest) =
          b :: more ++ (Text.utf8 cs).take rest := by
        have hlength : c.utf8Size = (b :: more).length := hsize
        rw [hcons, hlength, List.take_length_add_append]
      have hlength : (Text.utf8 (c :: fitting rest cs)).length =
          c.utf8Size + (Text.utf8 (fitting rest cs)).length := by
        unfold Text.utf8
        rw [List.flatMap_cons, List.length_append, String.length_utf8EncodeChar]
      have hall : (Text.utf8 (c :: cs)).length = c.utf8Size + (Text.utf8 cs).length := by
        rw [hcons, List.length_append, hsize]
        rfl
      have hiff : (Text.utf8 (c :: fitting rest cs)).length =
          min (c.utf8Size + rest) (Text.utf8 (c :: cs)).length ↔
          (Text.utf8 (fitting rest cs)).length = min rest (Text.utf8 cs).length := by
        rw [hlength, hall, Nat.add_min_add_left, Nat.add_left_cancel_iff]
      rw [htake, Splits.decodeFrom_cons_append (decodeHead_utf8EncodeChar hc _), ih, if_pos hfits,
        Nat.add_sub_cancel_left, List.cons_append]
      simp only [hiff]
    · rw [if_neg hfits]
      have hempty : (Text.utf8 []).length = 0 := rfl
      cases limit with
      | zero => rw [hempty, if_pos (Nat.zero_min _).symm]; rfl
      | succ n =>
        have hn : n < more.length := by omega
        obtain ⟨need, hpart⟩ := partial_take hc hn
        have htake : (Text.utf8 (c :: cs)).take (n + 1) = b :: more.take n ++ [] := by
          rw [hcons, List.take_append_of_le_length (by rw [List.length_cons]; omega), List.append_nil]
          rfl
        have hpos : 0 ≠ min (n + 1) (Text.utf8 (c :: cs)).length := by
          rw [hcons, List.length_append, List.length_cons]
          omega
        have hread : decodeHead b (more.take n ++ []) = (replacement, (more.take n).length) :=
          decodeHead_incomplete hpart (fun _ h => by cases h)
        rw [htake, Splits.decodeFrom_cons_append hread, hempty, if_neg hpos]
        rfl

end Utf8
