import Mathlib.Data.List.Basic

/-!
# Lib.Utf8 — lossy decoding of bytes

`fromUtf8Lossy` decodes UTF-8 and writes U+FFFD once for each maximal prefix of a sequence that
cannot be completed, as the standard library does.
-/

namespace Utf8

def replacement : Char := Char.ofNat 0xFFFD

def isContinuation (b : UInt8) : Bool := b &&& 0xC0 == 0x80

/-- The second bytes that may follow the lead byte of a sequence of three. -/
def secondOfThree (lead b : UInt8) : Bool :=
  if lead = 0xE0 then 0xA0 ≤ b && b ≤ 0xBF
  else if lead = 0xED then 0x80 ≤ b && b ≤ 0x9F
  else isContinuation b

/-- The second bytes that may follow the lead byte of a sequence of four. -/
def secondOfFour (lead b : UInt8) : Bool :=
  if lead = 0xF0 then 0x90 ≤ b && b ≤ 0xBF
  else if lead = 0xF4 then 0x80 ≤ b && b ≤ 0x8F
  else isContinuation b

/-- The payload bits of a sequence: what the lead byte keeps and six bits for each later byte. -/
def scalar (lead : ℕ) (rest : List UInt8) : Char :=
  Char.ofNat (rest.foldl (fun n b => n * 64 + b.toNat % 64) lead)

/-- The character at the head of the bytes (U+FFFD for a broken sequence) and how many of the bytes
after the first one belong to it. -/
def decodeHead (b : UInt8) (rest : List UInt8) : Char × ℕ :=
  if b < 0x80 then (Char.ofNat b.toNat, 0)
  else if 0xC2 ≤ b && b ≤ 0xDF then
    match rest with
    | c :: _ => if isContinuation c then (scalar (b.toNat % 32) [c], 1) else (replacement, 0)
    | [] => (replacement, 0)
  else if 0xE0 ≤ b && b ≤ 0xEF then
    match rest with
    | c :: d :: _ =>
      if secondOfThree b c then
        if isContinuation d then (scalar (b.toNat % 16) [c, d], 2) else (replacement, 1)
      else (replacement, 0)
    | [c] => (replacement, if secondOfThree b c then 1 else 0)
    | [] => (replacement, 0)
  else if 0xF0 ≤ b && b ≤ 0xF4 then
    match rest with
    | c :: d :: e :: _ =>
      if secondOfFour b c then
        if isContinuation d then
          if isContinuation e then (scalar (b.toNat % 8) [c, d, e], 3) else (replacement, 2)
        else (replacement, 1)
      else (replacement, 0)
    | [c, d] =>
      (replacement, if secondOfFour b c then if isContinuation d then 2 else 1 else 0)
    | [c] => (replacement, if secondOfFour b c then 1 else 0)
    | [] => (replacement, 0)
  else (replacement, 0)

/-- The decoding loop; the next `skip` bytes belong to a character already written. -/
def decodeFrom : ℕ → List UInt8 → List Char
  | _, [] => []
  | skip + 1, _ :: bs => decodeFrom skip bs
  | 0, b :: bs => (decodeHead b bs).1 :: decodeFrom (decodeHead b bs).2 bs

def fromUtf8Lossy (bytes : List UInt8) : List Char := decodeFrom 0 bytes

@[simp] theorem fromUtf8Lossy_nil : fromUtf8Lossy [] = [] := rfl

example : fromUtf8Lossy [0x61, 0xC3, 0xA9, 0xE2, 0x82, 0x62, 0xFF] =
    ['a', Char.ofNat 0xE9, replacement, 'b', replacement] := by decide

end Utf8
