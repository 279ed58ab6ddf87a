import Mathlib.Data.List.Basic

/-!
# Lib.Assoc — lists of keys and values

The first value of a key is what `lookup` finds; where no key stands twice, it finds every entry.
-/

namespace Assoc

variable {κ ν : Type*} [DecidableEq κ] {k : κ} {v : ν} {e : κ × ν} {es : List (κ × ν)}

theorem lookup_cons_of_eq (h : k = e.1) : (e :: es).lookup k = some e.2 := by
  rw [h]
  exact List.lookup_cons_self

theorem lookup_cons_of_ne (h : k ≠ e.1) : (e :: es).lookup k = es.lookup k := by
  rw [List.lookup_cons, beq_false_of_ne h]

theorem lookup_eq_none_iff : es.lookup k = none ↔ k ∉ es.map Prod.fst := by
  rw [List.lookup_eq_none_iff]
  constructor
  · intro h hmem
    obtain ⟨e, he, heq⟩ := List.mem_map.mp hmem
    exact bne_iff_ne.mp (h e he) heq.symm
  · intro h e he
    refine bne_iff_ne.mpr ?_
    rintro rfl
    exact h (List.mem_map_of_mem he)

theorem mem_of_lookup (h : es.lookup k = some v) : (k, v) ∈ es := by
  obtain ⟨before, after, rfl, -⟩ := List.lookup_eq_some_iff.mp h
  exact List.mem_append_right _ List.mem_cons_self

theorem lookup_of_mem (hnodup : (es.map Prod.fst).Nodup) (h : (k, v) ∈ es) : es.lookup k = some v := by
  induction es with
  | nil => exact absurd h List.not_mem_nil
  | cons e es ih =>
    rw [List.map_cons, List.nodup_cons] at hnodup
    rcases List.mem_cons.mp h with rfl | htail
    · exact lookup_cons_of_eq rfl
    · have hkey : (k, v).1 ∈ es.map Prod.fst := List.mem_map_of_mem htail
      have hne : k ≠ e.1 := by
        rintro rfl
        exact hnodup.1 hkey
      rw [lookup_cons_of_ne hne]
      exact ih hnodup.2 htail

end Assoc
