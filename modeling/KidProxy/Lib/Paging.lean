import Mathlib.Data.List.Nodup

/-!
# Lib.Paging — a list cut into pages of one size

Page `p` holds the elements with the positions from `p * n` up to `(p + 1) * n`.
-/

namespace Paging

variable {α : Type*} {xs : List α} {n p : ℕ} {x : α}

def page (xs : List α) (n p : ℕ) : List α := (xs.drop (p * n)).take n

/-- The page of an element is given by its position. -/
theorem mem_page_iff (hn : 0 < n) : x ∈ page xs n p ↔ ∃ i, xs[i]? = some x ∧ i / n = p := by
  unfold page
  rw [List.mem_iff_getElem?]
  constructor
  · rintro ⟨j, hj⟩
    rw [List.getElem?_take] at hj
    split_ifs at hj with hlt
    rw [List.getElem?_drop] at hj
    refine ⟨p * n + j, hj, ?_⟩
    rw [Nat.mul_comm, Nat.mul_add_div hn, Nat.div_eq_of_lt hlt, Nat.add_zero]
  · rintro ⟨i, hi, rfl⟩
    refine ⟨i % n, ?_⟩
    rw [List.getElem?_take, if_pos (Nat.mod_lt i hn), List.getElem?_drop, Nat.mul_comm, Nat.div_add_mod]
    exact hi

theorem mem_of_mem_page (h : x ∈ page xs n p) : x ∈ xs := List.mem_of_mem_drop (List.mem_of_mem_take h)

/-- No element of a list without repetition stands on two pages. -/
theorem page_unique {q : ℕ} (hn : 0 < n) (hxs : xs.Nodup) (hp : x ∈ page xs n p) (hq : x ∈ page xs n q) :
    p = q := by
  obtain ⟨i, hi, rfl⟩ := (mem_page_iff hn).mp hp
  obtain ⟨j, hj, rfl⟩ := (mem_page_iff hn).mp hq
  obtain ⟨hlt, -⟩ := List.getElem?_eq_some_iff.mp hi
  rw [(List.getElem?_inj hlt hxs).mp (hi.trans hj.symm)]

/-- Every element stands on a page that begins inside the list. -/
theorem exists_page (hn : 0 < n) (hx : x ∈ xs) : ∃ p, x ∈ page xs n p ∧ p * n < xs.length := by
  obtain ⟨i, hi⟩ := List.mem_iff_getElem?.mp hx
  obtain ⟨hlt, -⟩ := List.getElem?_eq_some_iff.mp hi
  refine ⟨i / n, (mem_page_iff hn).mpr ⟨i, hi, rfl⟩, ?_⟩
  exact Nat.lt_of_le_of_lt (Nat.div_mul_le_self i n) hlt

theorem nodup_page (h : xs.Nodup) : (page xs n p).Nodup :=
  h.sublist ((List.take_sublist n _).trans (List.drop_sublist _ xs))

end Paging
