import KidProxy.Lib.Utf8Pieces

/-!
# Lib.Percent — percent-decoding

A `%` with two hexadecimal digits behind it is a byte; any other character stands for itself.
-/

namespace Percent

/-- The byte of an escape at the head of the text. -/
def escapedByte : List Char → Option UInt8
  | '%' :: a :: b :: _ =>
    match Text.hexValue a, Text.hexValue b with
    | some high, some low => some (UInt8.ofNat (16 * high + low))
    | _, _ => none
  | _ => none

/-- The decoding loop; the next `skip` characters belong to an escape already decoded. -/
def decodeFrom : ℕ → List Char → List UInt8
  | _, [] => []
  | skip + 1, _ :: cs => decodeFrom skip cs
  | 0, c :: cs =>
    match escapedByte (c :: cs) with
    | some byte => byte :: decodeFrom 2 cs
    | none => String.utf8EncodeChar c ++ decodeFrom 0 cs

def decode (cs : List Char) : List UInt8 := decodeFrom 0 cs

/-- Somewhere in the text is an escape. -/
def hasEscape : List Char → Bool
  | [] => false
  | c :: cs => (escapedByte (c :: cs)).isSome || hasEscape cs

theorem decode_of_escape {c a b : Char} {cs : List Char} {byte : UInt8}
    (h : escapedByte (c :: a :: b :: cs) = some byte) : decode (c :: a :: b :: cs) = byte :: decode cs := by
  show (match escapedByte (c :: a :: b :: cs) with
    | some byte => byte :: decodeFrom 2 (a :: b :: cs)
    | none => _) = _
  rw [h]
  rfl

theorem decode_of_no_escape {c : Char} {cs : List Char} (h : escapedByte (c :: cs) = none) :
    decode (c :: cs) = String.utf8EncodeChar c ++ decode cs := by
  show (match escapedByte (c :: cs) with
    | some byte => byte :: decodeFrom 2 cs
    | none => _) = _
  rw [h]
  rfl

theorem escapedByte_cases {c : Char} {cs : List Char} {byte : UInt8} (h : escapedByte (c :: cs) = some byte) :
    c = '%' ∧ ∃ a b rest, cs = a :: b :: rest ∧ (Text.hexValue a).isSome ∧ (Text.hexValue b).isSome := by
  unfold escapedByte at h
  split at h
  · next a b rest heq =>
    obtain ⟨rfl, rfl⟩ := List.cons.inj heq
    split at h
    · next high low ha hb =>
      exact ⟨rfl, a, b, rest, rfl, by rw [ha]; rfl, by rw [hb]; rfl⟩
    · cases h
  · cases h

/-! ### Escaping blanks alone -/

/-- Each blank is escaped, and nothing else. -/
def encodeBlanks (cs : List Char) : List Char := cs.flatMap fun c => if c = ' ' then "%20".toList else [c]

theorem encodeBlanks_cons (c : Char) (cs : List Char) :
    encodeBlanks (c :: cs) = (if c = ' ' then "%20".toList else [c]) ++ encodeBlanks cs := List.flatMap_cons

/-- A hexadecimal digit at the head comes from one at the head. -/
theorem of_encodeBlanks_cons {cs rest : List Char} {a : Char} (h : encodeBlanks cs = a :: rest)
    (ha : (Text.hexValue a).isSome) : ∃ cs', cs = a :: cs' ∧ rest = encodeBlanks cs' := by
  cases cs with
  | nil => cases h
  | cons c cs =>
    rw [encodeBlanks_cons] at h
    split_ifs at h with hc
    · obtain ⟨rfl, -⟩ := List.cons.inj h
      exact absurd ha (by decide)
    · obtain ⟨rfl, rfl⟩ := List.cons.inj h
      exact ⟨cs, rfl, rfl⟩

/-- Escaping the blanks makes no other escape. -/
theorem escapedByte_encodeBlanks {c : Char} {cs : List Char} {byte : UInt8}
    (h : escapedByte (c :: encodeBlanks cs) = some byte) : escapedByte (c :: cs) = some byte := by
  obtain ⟨rfl, a, b, rest, hcs, ha, hb⟩ := escapedByte_cases h
  obtain ⟨cs', rfl, hrest⟩ := of_encodeBlanks_cons hcs ha
  obtain ⟨cs'', rfl, rfl⟩ := of_encodeBlanks_cons hrest.symm hb
  rw [hcs] at h
  exact h

theorem decode_blank (cs : List Char) : decode ("%20".toList ++ cs) = 32 :: decode cs := by
  have hescape : escapedByte ('%' :: '2' :: '0' :: cs) = some 32 := rfl
  exact decode_of_escape hescape

/-- A character that begins no escape. -/
theorem decode_encodeBlanks_cons {c : Char} {cs : List Char} (h : escapedByte (c :: cs) = none) :
    decode (encodeBlanks (c :: cs)) = String.utf8EncodeChar c ++ decode (encodeBlanks cs) := by
  rw [encodeBlanks_cons]
  split_ifs with hc
  · subst hc
    exact decode_blank _
  · refine decode_of_no_escape (Option.eq_none_iff_forall_ne_some.mpr fun byte hescape => ?_)
    rw [escapedByte_encodeBlanks hescape] at h
    cases h

theorem decode_encodeBlanks {cs : List Char} (h : hasEscape cs = false) :
    decode (encodeBlanks cs) = Text.utf8 cs := by
  induction cs with
  | nil => rfl
  | cons c cs ih =>
    obtain ⟨hhead, htail⟩ := Bool.or_eq_false_iff.mp h
    have hnone : escapedByte (c :: cs) = none :=
      Option.isNone_iff_eq_none.mp (Option.isSome_eq_false_iff.mp hhead)
    rw [decode_encodeBlanks_cons hnone, ih htail]
    rfl

/-- What is decoded is never longer, and shorter where the text has an escape of its own. -/
theorem length_decode_encodeBlanks (cs : List Char) :
    (decode (encodeBlanks cs)).length ≤ (Text.utf8 cs).length ∧
    (hasEscape cs = true → (decode (encodeBlanks cs)).length < (Text.utf8 cs).length) := by
  induction hn : cs.length using Nat.strong_induction_on generalizing cs with
  | _ n ih =>
    cases cs with
    | nil => exact ⟨Nat.le_refl _, nofun⟩
    | cons c cs =>
      have hutf8 : ∀ (c : Char) (cs : List Char),
          (Text.utf8 (c :: cs)).length = (String.utf8EncodeChar c).length + (Text.utf8 cs).length :=
        fun c cs => List.length_append
      have hpos : ∀ c : Char, 0 < (String.utf8EncodeChar c).length := fun c => by
        rw [String.length_utf8EncodeChar]
        exact c.utf8Size_pos
      cases hescape : escapedByte (c :: cs) with
      | none =>
        obtain ⟨hle, hlt⟩ := ih cs.length (by rw [← hn]; exact Nat.lt_succ_self _) cs rfl
        rw [decode_encodeBlanks_cons hescape, List.length_append, hutf8]
        refine ⟨by omega, fun h => ?_⟩
        have htail : hasEscape cs = true := by
          have hor : ((escapedByte (c :: cs)).isSome || hasEscape cs) = true := h
          rwa [hescape] at hor
        have hless := hlt htail
        omega
      | some byte =>
        obtain ⟨rfl, a, b, rest, rfl, ha, hb⟩ := escapedByte_cases hescape
        obtain ⟨hle, -⟩ := ih rest.length (by simp only [List.length_cons] at hn; omega) rest rfl
        have hblank : ∀ d : Char, (Text.hexValue d).isSome → d ≠ ' ' := by
          rintro d hd rfl
          exact absurd hd (by decide)
        have hencode : encodeBlanks ('%' :: a :: b :: rest) = '%' :: a :: b :: encodeBlanks rest := by
          rw [encodeBlanks_cons, encodeBlanks_cons, encodeBlanks_cons, if_neg (by decide),
            if_neg (hblank a ha), if_neg (hblank b hb)]
          rfl
        have hbyte : escapedByte ('%' :: a :: b :: encodeBlanks rest) = some byte := hescape
        have hless : (decode (encodeBlanks ('%' :: a :: b :: rest))).length <
            (Text.utf8 ('%' :: a :: b :: rest)).length := by
          have h₁ := hpos '%'
          have h₂ := hpos a
          rw [hencode, decode_of_escape hbyte, List.length_cons, hutf8, hutf8, hutf8]
          omega
        exact ⟨hless.le, fun _ => hless⟩

theorem decode_encodeBlanks_eq_iff (cs : List Char) :
    decode (encodeBlanks cs) = Text.utf8 cs ↔ hasEscape cs = false := by
  constructor
  · intro h
    by_contra hescape
    have hless := (length_decode_encodeBlanks cs).2 (eq_true_of_ne_false hescape)
    rw [h] at hless
    exact absurd hless (lt_irrefl _)
  · exact decode_encodeBlanks

end Percent
