import Mathlib.Algebra.Order.BigOperators.Group.List
import Mathlib.Algebra.Order.Ring.Nat
import Mathlib.Data.List.Basic

/-!
# Lib.Pool — calls on a shared state

A `Pool` is a shared state with the calls made on it so far; the number of a call is its position.  A
call enters at the end and stays: a step of a call replaces it and the shared state and leaves the other
calls alone.  `total` adds up what the shared state and the calls hold; where a step passes on no more than
it found, a bound of the total stays, and a total of at most one is held in one place (`add_le_total`).
-/

structure Pool (σ κ : Type*) where
  shared : σ
  calls : List κ

namespace Pool

variable {σ κ : Type*}

/-- A call enters. -/
def enter (p : Pool σ κ) (c : κ) : Pool σ κ := { p with calls := p.calls ++ [c] }

/-- Call `i` moves on to `c`, and the shared state to `s`. -/
def update (p : Pool σ κ) (i : ℕ) (s : σ) (c : κ) : Pool σ κ := ⟨s, p.calls.set i c⟩

@[simp] theorem enter_shared (p : Pool σ κ) (c : κ) : (p.enter c).shared = p.shared := rfl

@[simp] theorem update_shared (p : Pool σ κ) (i : ℕ) (s : σ) (c : κ) :
    (p.update i s c).shared = s := rfl

@[simp] theorem update_length (p : Pool σ κ) (i : ℕ) (s : σ) (c : κ) :
    (p.update i s c).calls.length = p.calls.length := List.length_set

/-- The calls after one entered: the old ones and the new one at the end. -/
theorem enter_calls {p : Pool σ κ} {c d : κ} {j : ℕ} (h : (p.enter c).calls[j]? = some d) :
    p.calls[j]? = some d ∨ j = p.calls.length ∧ d = c := by
  unfold enter at h
  rw [List.getElem?_append] at h
  split_ifs at h with hj
  · exact .inl h
  · obtain ⟨hlt, hd⟩ := List.getElem?_eq_some_iff.mp h
    rw [List.length_singleton] at hlt
    rw [List.getElem_singleton] at hd
    exact .inr ⟨by omega, hd.symm⟩

/-- The calls after one moved on: that one, and the others as they were. -/
theorem update_calls {p : Pool σ κ} {i j : ℕ} {s : σ} {c d : κ}
    (h : (p.update i s c).calls[j]? = some d) :
    j = i ∧ d = c ∨ j ≠ i ∧ p.calls[j]? = some d := by
  unfold update at h
  rw [List.getElem?_set] at h
  split_ifs at h with hj hlt
  · exact .inl ⟨hj.symm, (Option.some.inj h).symm⟩
  · exact .inr ⟨fun hji => hj hji.symm, h⟩

theorem update_get {p : Pool σ κ} {i : ℕ} {s : σ} {c d : κ} (h : p.calls[i]? = some c) :
    (p.update i s d).calls[i]? = some d :=
  List.getElem?_set_self (List.getElem?_eq_some_iff.mp h).1

theorem update_self {p : Pool σ κ} {i : ℕ} {c : κ} (h : p.calls[i]? = some c) :
    p.update i p.shared c = p := by
  obtain ⟨hlt, rfl⟩ := List.getElem?_eq_some_iff.mp h
  unfold update
  rw [List.set_getElem_self]

theorem update_update (p : Pool σ κ) (i : ℕ) (s t : σ) (c d : κ) :
    (p.update i s c).update i t d = p.update i t d := by
  unfold update
  rw [List.set_set]

theorem update_get_ne {p : Pool σ κ} {i j : ℕ} {s : σ} {c d : κ} (h : p.calls[j]? = some c)
    (hne : j ≠ i) : (p.update i s d).calls[j]? = some c := by
  unfold update
  rw [List.getElem?_set_ne hne.symm, h]

theorem enter_get {p : Pool σ κ} {j : ℕ} {c d : κ} (h : p.calls[j]? = some c) :
    (p.enter d).calls[j]? = some c := by
  unfold enter
  rw [List.getElem?_append_left (List.getElem?_eq_some_iff.mp h).1, h]

theorem lt_of_calls {p : Pool σ κ} {i : ℕ} {c : κ} (h : p.calls[i]? = some c) :
    i < p.calls.length :=
  (List.getElem?_eq_some_iff.mp h).1

/-! ### What the shared state and the calls hold together -/

section Total

variable (f : σ → ℕ) (g : κ → ℕ)

def total (p : Pool σ κ) : ℕ := f p.shared + (p.calls.map g).sum

theorem sum_map_set {l : List κ} {i : ℕ} {c : κ} (h : l[i]? = some c) (d : κ) :
    ((l.set i d).map g).sum + g c = (l.map g).sum + g d := by
  induction l generalizing i with
  | nil => cases h
  | cons a l ih =>
    cases i with
    | zero =>
      obtain rfl : a = c := Option.some.inj h
      simp only [List.set_cons_zero, List.map_cons, List.sum_cons]
      omega
    | succ i =>
      have := ih h
      simp only [List.set_cons_succ, List.map_cons, List.sum_cons]
      omega

theorem le_sum_map {l : List κ} {i : ℕ} {c : κ} (h : l[i]? = some c) : g c ≤ (l.map g).sum :=
  List.le_sum_of_mem (List.mem_map_of_mem (List.mem_of_getElem? h))

theorem add_le_sum_map {l : List κ} {i j : ℕ} {c d : κ} (hi : l[i]? = some c) (hj : l[j]? = some d)
    (hne : i ≠ j) : g c + g d ≤ (l.map g).sum := by
  induction l generalizing i j with
  | nil => cases hi
  | cons a l ih =>
    rw [List.map_cons, List.sum_cons]
    cases i with
    | zero =>
      obtain rfl : a = c := Option.some.inj hi
      cases j with
      | zero => exact absurd rfl hne
      | succ j =>
        have hd : l[j]? = some d := hj
        exact Nat.add_le_add_left (le_sum_map g hd) _
    | succ i =>
      cases j with
      | zero =>
        obtain rfl : a = d := Option.some.inj hj
        have hc : l[i]? = some c := hi
        rw [Nat.add_comm]
        exact Nat.add_le_add_left (le_sum_map g hc) _
      | succ j => exact Nat.le_trans (ih hi hj fun h => hne (congrArg _ h)) (Nat.le_add_left _ _)

theorem total_enter (p : Pool σ κ) (c : κ) : (p.enter c).total f g = p.total f g + g c := by
  unfold total enter
  rw [List.map_append, List.sum_append]
  simp [Nat.add_assoc]

/-- A step that passes on no more than it found. -/
theorem total_update_le {p : Pool σ κ} {i : ℕ} {s : σ} {c d : κ} (h : p.calls[i]? = some c)
    (hle : f s + g d ≤ f p.shared + g c) : (p.update i s d).total f g ≤ p.total f g := by
  have := sum_map_set g h d
  unfold total update
  dsimp only
  omega

theorem shared_add_le_total {p : Pool σ κ} {i : ℕ} {c : κ} (h : p.calls[i]? = some c) :
    f p.shared + g c ≤ p.total f g :=
  Nat.add_le_add_left (le_sum_map g h) _

theorem add_le_total {p : Pool σ κ} {i j : ℕ} {c d : κ} (hi : p.calls[i]? = some c)
    (hj : p.calls[j]? = some d) (hne : i ≠ j) : g c + g d ≤ p.total f g :=
  Nat.le_trans (add_le_sum_map g hi hj hne) (Nat.le_add_left _ _)

end Total

end Pool
