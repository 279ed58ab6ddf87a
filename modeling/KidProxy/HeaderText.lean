import KidProxy.Http
import KidProxy.Lib.Utf8Pieces

/-!
# HeaderText — header values that hold a text

`to_str` gives the text back exactly when every character of it is visible ASCII or a tab.
-/

namespace KidProxy

def isVisibleChar (c : Char) : Bool := (32 ≤ c.toNat && c.toNat < 127) || c.toNat = 9

theorem isVisibleAscii_iff (b : UInt8) :
    isVisibleAscii b = true ↔ 32 ≤ b.toNat ∧ b.toNat < 127 ∨ b.toNat = 9 := by
  simp only [isVisibleAscii, Bool.or_eq_true, Bool.and_eq_true, decide_eq_true_eq, beq_iff_eq,
    UInt8.le_iff_toNat_le, UInt8.lt_iff_toNat_lt, ← UInt8.toNat_inj, UInt8.reduceToNat]

theorem isVisibleChar_iff (c : Char) :
    isVisibleChar c = true ↔ 32 ≤ c.toNat ∧ c.toNat < 127 ∨ c.toNat = 9 := by
  simp only [isVisibleChar, Bool.or_eq_true, Bool.and_eq_true, decide_eq_true_eq]

/-- The bytes of a character are visible ASCII when it is. -/
theorem all_isVisibleAscii_utf8EncodeChar (c : Char) :
    (String.utf8EncodeChar c).all isVisibleAscii = isVisibleChar c := by
  obtain ⟨b, more, hbytes⟩ := Utf8.exists_cons_utf8EncodeChar c
  have hencoded := Utf8.encoded_of_utf8EncodeChar hbytes
  -- the lead byte of more than one byte is never visible
  have hlead : 128 ≤ c.toNat → 128 ≤ b.toNat → (b :: more).all isVisibleAscii = isVisibleChar c := by
    intro hc hb
    have hbyte : isVisibleAscii b = false := by
      rw [Bool.eq_false_iff, ne_eq, isVisibleAscii_iff]
      omega
    have hchar : isVisibleChar c = false := by
      rw [Bool.eq_false_iff, ne_eq, isVisibleChar_iff]
      omega
    rw [List.all_cons, hbyte, hchar, Bool.false_and]
  rw [hbytes]
  generalize hn : c.toNat = n at hencoded
  cases hencoded with
  | one h =>
    have hb := Utf8.toNat_ofNat_of_lt (n := n) (by omega)
    rw [List.all_cons, List.all_nil, Bool.and_true, Bool.eq_iff_iff, isVisibleAscii_iff, isVisibleChar_iff,
      hb, hn]
  | two h h' =>
    have hb := Utf8.toNat_ofNat_of_lt (n := n / 64 + 192) (by omega)
    exact hlead (by omega) (by omega)
  | three h h' hvalid =>
    have hb := Utf8.toNat_ofNat_of_lt (n := n / 4096 + 224) (by omega)
    exact hlead (by omega) (by omega)
  | four h h' =>
    have hb := Utf8.toNat_ofNat_of_lt (n := n / 262144 + 240) (by omega)
    exact hlead (by omega) (by omega)

theorem all_isVisibleAscii_utf8 (cs : List Char) :
    (Text.utf8 cs).all isVisibleAscii = cs.all isVisibleChar := by
  induction cs with
  | nil => rfl
  | cons c cs ih =>
    show (String.utf8EncodeChar c ++ Text.utf8 cs).all isVisibleAscii = _
    rw [List.all_append, all_isVisibleAscii_utf8EncodeChar, ih, List.all_cons]

/-- `to_str` of a value that holds a text. -/
theorem HeaderValue.toStr_of_bytes {v : HeaderValue} {cs : List Char} (h : v.bytes = Text.utf8 cs) :
    v.toStr = if cs.all isVisibleChar then some cs else none := by
  unfold HeaderValue.toStr
  rw [h, all_isVisibleAscii_utf8]
  split_ifs with hall
  · have hascii : ∀ c ∈ cs, c.toNat < 128 := by
      intro c hc
      have hvisible := (isVisibleChar_iff c).mp (List.all_eq_true.mp hall c hc)
      omega
    rw [Text.utf8_ascii hascii, List.map_map]
    refine congrArg some ((List.map_congr_left fun c hc => ?_).trans (List.map_id cs))
    show Char.ofNat (UInt8.ofNat c.toNat).toNat = c
    have hc := hascii c hc
    rw [Utf8.toNat_ofNat_of_lt (by omega), Char.ofNat_toNat]
  · rfl

end KidProxy
