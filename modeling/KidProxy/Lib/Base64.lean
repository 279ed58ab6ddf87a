import KidProxy.Lib.Text

/-!
# Lib.Base64 — the standard alphabet with padding

Three bytes are four digits of six bits; what is left of one or two bytes is padded.  The decoder takes
padded texts only, and refuses bits that no byte uses.
-/

namespace Base64

/-- The digit with a value below 64. -/
def digit (n : ℕ) : Char :=
  if n < 26 then Char.ofNat (n + 65)
  else if n < 52 then Char.ofNat (n + 71)
  else if n < 62 then Char.ofNat (n - 4)
  else if n = 62 then '+'
  else '/'

def value (c : Char) : Option ℕ :=
  if 65 ≤ c.toNat ∧ c.toNat ≤ 90 then some (c.toNat - 65)
  else if 97 ≤ c.toNat ∧ c.toNat ≤ 122 then some (c.toNat - 71)
  else if 48 ≤ c.toNat ∧ c.toNat ≤ 57 then some (c.toNat + 4)
  else if c = '+' then some 62
  else if c = '/' then some 63
  else none

def encode : List UInt8 → List Char
  | [] => []
  | [a] => [digit (a.toNat / 4), digit (a.toNat % 4 * 16), '=', '=']
  | [a, b] =>
    [digit (a.toNat / 4), digit (a.toNat % 4 * 16 + b.toNat / 16), digit (b.toNat % 16 * 4), '=']
  | a :: b :: c :: rest =>
    digit (a.toNat / 4) :: digit (a.toNat % 4 * 16 + b.toNat / 16) ::
      digit (b.toNat % 16 * 4 + c.toNat / 64) :: digit (c.toNat % 64) :: encode rest

/-- `STANDARD.decode`. -/
def decode : List Char → Option (List UInt8)
  | [] => some []
  | [w, x, '=', '='] => do
    let w ← value w
    let x ← value x
    if x % 16 = 0 then some [UInt8.ofNat (w * 4 + x / 16)] else none
  | [w, x, y, '='] => do
    let w ← value w
    let x ← value x
    let y ← value y
    if y % 4 = 0 then some [UInt8.ofNat (w * 4 + x / 16), UInt8.ofNat (x % 16 * 16 + y / 4)] else none
  | w :: x :: y :: z :: rest => do
    let w ← value w
    let x ← value x
    let y ← value y
    let z ← value z
    let rest ← decode rest
    some (UInt8.ofNat (w * 4 + x / 16) :: UInt8.ofNat (x % 16 * 16 + y / 4) ::
      UInt8.ofNat (y % 4 * 64 + z) :: rest)
  | _ => none

theorem value_digit {n : ℕ} (h : n < 64) : value (digit n) = some n ∧ digit n ≠ '=' := by
  have hval : ∀ k, k < 128 → (Char.ofNat k).toNat = k := fun k hk => Text.val_ofNat (.inl (by omega))
  have hne : ∀ k, k < 128 → k ≠ 61 → Char.ofNat k ≠ '=' := fun k hk hk' heq =>
    hk' ((hval k hk).symm.trans (congrArg Char.toNat heq))
  unfold digit
  split_ifs with h₁ h₂ h₃ h₄
  · refine ⟨?_, hne _ (by omega) (by omega)⟩
    unfold value
    rw [hval _ (by omega), if_pos (by omega)]
    exact congrArg some (by omega)
  · refine ⟨?_, hne _ (by omega) (by omega)⟩
    unfold value
    rw [hval _ (by omega), if_neg (by omega), if_pos (by omega)]
    exact congrArg some (by omega)
  · refine ⟨?_, hne _ (by omega) (by omega)⟩
    unfold value
    rw [hval _ (by omega), if_neg (by omega), if_neg (by omega), if_pos (by omega)]
    exact congrArg some (by omega)
  · subst h₄
    decide
  · obtain rfl : n = 63 := by omega
    decide

/-- A byte from the two digits that share its bits. -/
theorem ofNat_eq {b : UInt8} {n : ℕ} (h : n = b.toNat) : UInt8.ofNat n = b := by
  rw [h, UInt8.ofNat_toNat]

/-- **Round trip**. -/
theorem decode_encode : ∀ bytes : List UInt8, decode (encode bytes) = some bytes
  | [] => rfl
  | [a] => by
    have ha := a.toNat_lt
    obtain ⟨h₁, -⟩ := value_digit (n := a.toNat / 4) (by omega)
    obtain ⟨h₂, -⟩ := value_digit (n := a.toNat % 4 * 16) (by omega)
    unfold encode decode
    simp only [h₁, h₂, Option.bind_eq_bind, Option.bind_some]
    rw [if_pos (by omega), ofNat_eq (b := a) (by omega)]
  | [a, b] => by
    have ha := a.toNat_lt
    have hb := b.toNat_lt
    obtain ⟨h₁, -⟩ := value_digit (n := a.toNat / 4) (by omega)
    obtain ⟨h₂, -⟩ := value_digit (n := a.toNat % 4 * 16 + b.toNat / 16) (by omega)
    obtain ⟨h₃, hne⟩ := value_digit (n := b.toNat % 16 * 4) (by omega)
    unfold encode
    rw [decode]
    · simp only [h₁, h₂, h₃, Option.bind_eq_bind, Option.bind_some]
      rw [if_pos (by omega), ofNat_eq (b := a) (by omega), ofNat_eq (b := b) (by omega)]
    · exact fun heq => absurd heq hne
  | a :: b :: c :: rest => by
    have ha := a.toNat_lt
    have hb := b.toNat_lt
    have hc := c.toNat_lt
    obtain ⟨h₁, -⟩ := value_digit (n := a.toNat / 4) (by omega)
    obtain ⟨h₂, -⟩ := value_digit (n := a.toNat % 4 * 16 + b.toNat / 16) (by omega)
    obtain ⟨h₃, hne⟩ := value_digit (n := b.toNat % 16 * 4 + c.toNat / 64) (by omega)
    obtain ⟨h₄, hne'⟩ := value_digit (n := c.toNat % 64) (by omega)
    unfold encode
    rw [decode]
    · simp only [h₁, h₂, h₃, h₄, Option.bind_eq_bind, Option.bind_some, decode_encode rest]
      rw [ofNat_eq (b := a) (by omega), ofNat_eq (b := b) (by omega), ofNat_eq (b := c) (by omega)]
    · exact fun heq => absurd heq hne
    · exact fun heq => absurd heq hne'

example : encode (Text.utf8 "hello".toList) = "aGVsbG8=".toList := by decide

end Base64
