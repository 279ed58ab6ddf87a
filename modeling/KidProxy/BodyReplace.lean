import KidProxy.Lib.Utf8Pieces
import KidProxy.Transform
import Mathlib.Data.List.Count

/-!
# BodyReplace — what a rule does to a body

`apply_body` works on the lossily decoded body.  Where the body is text, the bytes of the matches are
replaced and all others are copied; `touchesMatches_iff` says when this is so.
-/

namespace KidProxy

open Replace (Replaced replaceAll)
open Utf8 (Piece Splits)

namespace TransformAction

def fromText : TransformAction → List Char
  | replace fromText _ _ => fromText.toList

def toText : TransformAction → List Char
  | replace _ toText _ => toText.toList

theorem fromText_ne_nil : ∀ action : TransformAction, action.fromText ≠ []
  | replace _ _ nonempty => nonempty

/-- Two or more U+FFFD are removed: what is left of broken sequences may then form another one. -/
def DropsReplacements (action : TransformAction) : Prop :=
  action.toText = [] ∧ ∃ m, 2 ≤ m ∧ action.fromText = List.replicate m Utf8.replacement

end TransformAction

namespace TransformRule

variable {rule : TransformRule} {body : List UInt8}

/-- What the rule is for: the bytes of `from` are replaced by those of `to`. -/
def replaceBytes (rule : TransformRule) (body : List UInt8) : List UInt8 :=
  replaceAll (Text.utf8 rule.action.fromText) (Text.utf8 rule.action.toText) body

/-- Only the matches are touched, and a change is reported. -/
structure TouchesMatches (rule : TransformRule) (body : List UInt8) : Prop where
  bytes : (rule.applyBody body).2 = rule.replaceBytes body
  reported : (rule.applyBody body).1 = true ↔ (rule.applyBody body).2 ≠ body

/-- The body is text, or nothing is to be changed in what it is read as. -/
def ReadsAsText (rule : TransformRule) (body : List UInt8) : Prop :=
  (∃ text, Text.utf8 text = body) ∨ rule.action.fromText = rule.action.toText ∨
    ¬ rule.action.fromText <:+: Utf8.fromUtf8Lossy body

theorem replaceText_eq (rule : TransformRule) (input : List Char) :
    rule.replaceText input = replaceAll rule.action.fromText rule.action.toText input := by
  unfold replaceText
  cases rule.action
  rfl

theorem applyBody_of_eq (h : rule.replaceText (Utf8.fromUtf8Lossy body) = Utf8.fromUtf8Lossy body) :
    rule.applyBody body = (false, body) := if_pos h

theorem applyBody_of_ne (h : rule.replaceText (Utf8.fromUtf8Lossy body) ≠ Utf8.fromUtf8Lossy body) :
    rule.applyBody body = (true, Text.utf8 (rule.replaceText (Utf8.fromUtf8Lossy body))) := if_neg h

/-- The two replacements, of the pieces of the body and of what they are read as. -/
theorem exists_replaced (rule : TransformRule) (body : List UInt8) : ∃ ps kb qs kc,
    Splits body ps ∧
    Replaced (rule.action.fromText.map Piece.char) (rule.action.toText.map Piece.char) kb ps qs ∧
    rule.replaceBytes body = qs.flatMap Piece.bytes ∧
    Replaced rule.action.fromText rule.action.toText kc (Utf8.fromUtf8Lossy body)
      (rule.replaceText (Utf8.fromUtf8Lossy body)) ∧
    Utf8.fromUtf8Lossy body = ps.map Piece.text := by
  obtain ⟨ps, hps⟩ := Utf8.exists_splits body
  have hfrom := rule.action.fromText_ne_nil
  have hmap : rule.action.fromText.map Piece.char ≠ [] := by
    simpa using hfrom
  obtain ⟨kb, hb⟩ := Replace.replaced_replaceAll hmap (rule.action.toText.map Piece.char) ps
  obtain ⟨kc, hc⟩ := Replace.replaced_replaceAll hfrom rule.action.toText (Utf8.fromUtf8Lossy body)
  have hutf8 : Text.utf8 rule.action.fromText ≠ [] := by
    obtain ⟨b, rest, hutf8, -⟩ := Utf8.exists_cons_utf8 hfrom
    rw [hutf8]
    exact List.cons_ne_nil b rest
  rw [← replaceText_eq] at hc
  exact ⟨ps, kb, _, kc, hps, hb, ((hps.replaced hfrom hb).eq_replaceAll hutf8).symm, hc, hps.text_eq⟩

/-! ### Where the body is read as text -/

theorem touchesMatches_of_unchanged (hbytes : rule.replaceBytes body = body)
    (htext : rule.replaceText (Utf8.fromUtf8Lossy body) = Utf8.fromUtf8Lossy body) :
    rule.TouchesMatches body := by
  have happly := applyBody_of_eq htext
  constructor
  · rw [happly, hbytes]
  · rw [happly]
    simp

theorem touchesMatches_of_text (rule : TransformRule) (text : List Char) :
    rule.TouchesMatches (Text.utf8 text) := by
  have hfrom := rule.action.fromText_ne_nil
  have hsplits := Splits.of_chars text
  have hread : Utf8.fromUtf8Lossy (Text.utf8 text) = text := by
    rw [hsplits.text_eq, Utf8.map_text_chars]
  have hbytes : rule.replaceBytes (Text.utf8 text) = Text.utf8 (rule.replaceText text) := by
    obtain ⟨k, hk⟩ := Replace.replaced_replaceAll hfrom rule.action.toText text
    have hpieces := hsplits.replaced hfrom (hk.map fun _ _ => Piece.char.inj)
    obtain ⟨b, rest, hutf8, -⟩ := Utf8.exists_cons_utf8 hfrom
    rw [Utf8.flatMap_bytes_chars] at hpieces
    rw [replaceText_eq]
    exact (hpieces.eq_replaceAll (by rw [hutf8]; exact List.cons_ne_nil b rest)).symm
  by_cases hsame : rule.replaceText text = text
  · refine touchesMatches_of_unchanged ?_ ?_
    · rw [hbytes, hsame]
    · rw [hread, hsame]
  · have happly : rule.applyBody (Text.utf8 text) = (true, Text.utf8 (rule.replaceText text)) := by
      rw [applyBody_of_ne (by rwa [hread]), hread]
    constructor
    · rw [happly, hbytes]
    · rw [happly]
      exact iff_of_true rfl fun heq => hsame (Text.utf8_injective heq)

theorem touchesMatches_of_readsAsText (h : rule.ReadsAsText body) : rule.TouchesMatches body := by
  obtain ⟨ps, kb, qs, kc, hps, hb, hbytes, hc, htext⟩ := exists_replaced rule body
  rcases h with ⟨text, rfl⟩ | hsame | hnone
  · exact touchesMatches_of_text rule text
  · have hqs := hb.eq_of_same (congrArg (List.map Piece.char) hsame)
    rw [hqs, hps.bytes_eq] at hbytes
    exact touchesMatches_of_unchanged hbytes (hc.eq_of_same hsame)
  · have hzero := (hc.zero_iff rule.action.fromText_ne_nil).mpr hnone
    -- what does not occur in the text does not occur in the bytes
    have hqs : qs = ps := by
      refine hb.eq_of_zero ((hb.zero_iff (by simpa using rule.action.fromText_ne_nil)).mpr fun hinfix => ?_)
      rw [htext] at hnone
      have hread := hinfix.map Piece.text
      rw [Utf8.map_text_chars] at hread
      exact hnone hread
    rw [hqs, hps.bytes_eq] at hbytes
    exact touchesMatches_of_unchanged hbytes (hc.eq_of_zero hzero)

/-! ### Where it is not -/

section Broken

variable {ps qs : List Piece} {kb kc : ℕ}

/-- With a text put in, what was broken is still broken, and no text is. -/
theorem toText_eq_nil {pat rep cs : List Char} {bytes : List UInt8} (hps : Splits body ps)
    (hbroken : .broken bytes ∈ ps) (hb : Replaced (pat.map Piece.char) (rep.map Piece.char) kb ps qs)
    (heq : qs.flatMap Piece.bytes = Text.utf8 cs) : rep = [] := by
  by_contra hto
  have hqs := (hps.splits_replaced hto hb).1
  have hmem : Piece.broken bytes ∈ qs := by
    refine hb.mem_of_notMem hbroken fun hmem => ?_
    obtain ⟨c, -, hc⟩ := List.mem_map.mp hmem
    cases hc
  have hlt := hqs.weight_lt hmem
  have hread := hqs.text_eq
  rw [heq, (Splits.of_chars cs).text_eq, Utf8.map_text_chars] at hread
  rw [← hread, heq] at hlt
  exact absurd hlt (lt_irrefl _)

section Removing

variable {pat cs : List Char} {bytes : List UInt8} (hps : Splits body ps) (hbroken : .broken bytes ∈ ps)
  (hb : Replaced (pat.map Piece.char) [] kb ps qs) (hc : Replaced pat [] kc (ps.map Piece.text) cs)
  (heq : qs.flatMap Piece.bytes = Text.utf8 cs)

include hps hbroken hb hc heq

/-- More is removed from the text than from the bytes. -/
theorem removals_lt : kb < kc := by
  have hbytes := hb.measure_add (m := fun ps => Utf8.weight (ps.flatMap Piece.bytes)) fun as bs => by
    rw [List.flatMap_append, Utf8.weight_append]
  have htext := hc.measure_add (m := fun cs => Utf8.weight (Text.utf8 cs)) fun as bs => by
    unfold Text.utf8
    rw [List.flatMap_append, Utf8.weight_append]
  have hlt := hps.weight_lt hbroken
  have hnone : Utf8.weight (Text.utf8 []) = 0 := rfl
  have hnone' : Utf8.weight (([] : List Piece).flatMap Piece.bytes) = 0 := rfl
  rw [Utf8.flatMap_bytes_chars, heq, hnone'] at hbytes
  rw [hnone] at htext
  refine Nat.lt_of_mul_lt_mul_right (a := Utf8.weight (Text.utf8 pat)) ?_
  omega

/-- Only U+FFFD is removed. -/
theorem eq_replacement_of_mem {c : Char} (hmem : c ∈ pat) : c = Utf8.replacement := by
  by_contra hne
  have hlt := removals_lt hps hbroken hb hc heq
  have hbytes := hb.measure_add (m := List.count (Piece.char c)) fun _ _ => List.count_append
  have htext := hc.measure_add (m := List.count c) fun _ _ => List.count_append
  have hle := Utf8.count_le_of_bytes_eq [] heq.symm c
  have hpos : 0 < pat.count c := List.count_pos_iff.mpr hmem
  rw [List.count_map_of_injective _ _ fun _ _ => Piece.char.inj, List.count_nil] at hbytes
  rw [Utf8.count_text hne, List.count_nil] at htext
  have hmul := Nat.mul_lt_mul_of_pos_right hlt hpos
  omega

theorem length_ne_one : pat.length ≠ 1 := by
  intro hone
  obtain ⟨c, rfl⟩ := List.length_eq_one_iff.mp hone
  obtain rfl := eq_replacement_of_mem hps hbroken hb hc heq List.mem_cons_self
  have hbytes := hb.measure_add (m := fun ps => (ps.flatMap Piece.bytes).length) fun as bs => by
    rw [List.flatMap_append, List.length_append]
  have htext := hc.measure_add (m := fun cs => (Text.utf8 cs).length) fun as bs => by
    unfold Text.utf8
    rw [List.flatMap_append, List.length_append]
  have hcount := hb.measure_add (m := List.count (Piece.char Utf8.replacement)) fun _ _ => List.count_append
  have hcount' := hc.measure_add (m := List.count Utf8.replacement) fun _ _ => List.count_append
  have hnone := List.count_eq_zero.mpr (hc.notMem_of_singleton List.not_mem_nil)
  have hlt := hps.length_lt hbroken
  have hthree : (Text.utf8 [Utf8.replacement]).length = 3 := by decide
  rw [Utf8.flatMap_bytes_chars, heq, hthree] at hbytes
  rw [hthree] at htext
  rw [hnone] at hcount'
  simp only [List.map_cons, List.map_nil, List.count_cons_self, List.count_nil, List.flatMap_nil,
    List.length_nil, Nat.mul_zero, Nat.add_zero, Nat.zero_add] at hbytes hcount hcount'
  have hempty : (Text.utf8 []).length = 0 := rfl
  rw [hempty] at htext
  omega

end Removing

end Broken

theorem readsAsText_of_touchesMatches (h : rule.TouchesMatches body) :
    rule.ReadsAsText body ∨ rule.action.DropsReplacements := by
  obtain ⟨ps, kb, qs, kc, hps, hb, hbytes, hc, htext⟩ := exists_replaced rule body
  have hfrom := rule.action.fromText_ne_nil
  by_cases hread : rule.ReadsAsText body
  · exact .inl hread
  · refine .inr ?_
    rw [ReadsAsText, not_or, not_or, not_not] at hread
    obtain ⟨hnot, hne, hinfix⟩ := hread
    -- something is replaced in a text that has broken sequences
    obtain ⟨bytes, hbroken⟩ : ∃ bytes, Piece.broken bytes ∈ ps := by
      by_contra hnone
      exact hnot ⟨_, (hps.eq_utf8 (not_exists.mp hnone)).2.symm⟩
    have hpos : kc ≠ 0 := fun hzero => (hc.zero_iff hfrom).mp hzero hinfix
    have happly := applyBody_of_ne (hc.ne_of_pos hpos hne)
    have heq : qs.flatMap Piece.bytes = Text.utf8 (rule.replaceText (Utf8.fromUtf8Lossy body)) := by
      rw [← hbytes, ← h.bytes, happly]
    have hto := toText_eq_nil hps hbroken hb heq
    rw [hto, List.map_nil] at hb
    rw [hto, htext] at hc
    rw [htext] at heq
    have hone := length_ne_one hps hbroken hb hc heq
    have hlength := List.length_pos_iff.mpr hfrom
    refine ⟨hto, rule.action.fromText.length, by omega, List.eq_replicate_of_mem fun c hmem => ?_⟩
    exact eq_replacement_of_mem hps hbroken hb hc heq hmem

/-- A rule touches only its matches exactly where the body is read as text, rules that remove two or more
U+FFFD excepted. -/
theorem touchesMatches_iff (rule : TransformRule) (body : List UInt8) :
    (rule.ReadsAsText body → rule.TouchesMatches body) ∧
    (rule.TouchesMatches body → rule.ReadsAsText body ∨ rule.action.DropsReplacements) :=
  ⟨touchesMatches_of_readsAsText, readsAsText_of_touchesMatches⟩

def sampleReplace (fromText toText : String) (h : fromText.toList ≠ []) : TransformRule :=
  ⟨.everything, .replace fromText toText h, .body, false⟩

/-- The exception: what is left around the removed U+FFFD joins to another one. -/
example : ((sampleReplace "\uFFFD\uFFFD" "" (by decide)).applyBody
      [0xEF, 0xEF, 0xBF, 0xBD, 0xEF, 0xBF, 0xBD, 0xBF, 0xBD]).2 = [0xEF, 0xBF, 0xBD] ∧
    (sampleReplace "\uFFFD\uFFFD" "" (by decide)).replaceBytes
      [0xEF, 0xEF, 0xBF, 0xBD, 0xEF, 0xBF, 0xBD, 0xBF, 0xBD] = [0xEF, 0xBF, 0xBD] := by
  decide

/-- A page that is not UTF-8: its other bytes are not kept. -/
theorem other_bytes_replaced :
    ¬ (sampleReplace "a" "b" (by decide)).TouchesMatches [0xFF, 0x61] ∧
    (sampleReplace "a" "b" (by decide)).applyBody [0xFF, 0x61] = (true, [0xEF, 0xBF, 0xBD, 0x62]) ∧
    (sampleReplace "a" "b" (by decide)).replaceBytes [0xFF, 0x61] = [0xFF, 0x62] := by
  have happly : (sampleReplace "a" "b" (by decide)).applyBody [0xFF, 0x61] =
      (true, [0xEF, 0xBF, 0xBD, 0x62]) := by decide
  have hreplace : (sampleReplace "a" "b" (by decide)).replaceBytes [0xFF, 0x61] = [0xFF, 0x62] := by decide
  refine ⟨fun h => ?_, happly, hreplace⟩
  have hbytes := h.bytes
  rw [happly, hreplace] at hbytes
  revert hbytes
  decide

end TransformRule

end KidProxy
