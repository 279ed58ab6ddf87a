import Mathlib.Data.List.Basic

/-!
# Lib.Moves — lists with one element moved by a place, or removed

When two such edits of a list come to the same list.
-/

namespace Moves

variable {α : Type}

/-- The element at `i` is moved one place down; the last one stays. -/
def moveDown : ℕ → List α → List α
  | 0, a :: b :: l => b :: a :: l
  | i + 1, a :: l => a :: moveDown i l
  | _, l => l

/-- The element at `i` is moved one place up: the one before it goes down. -/
def moveUp : ℕ → List α → List α
  | 0, l => l
  | i + 1, l => moveDown i l

theorem moveDown_of_length_le {i : ℕ} {l : List α} (h : l.length ≤ i + 1) : moveDown i l = l := by
  induction i generalizing l with
  | zero =>
    match l, h with
    | [], _ => rfl
    | [a], _ => rfl
  | succ i ih =>
    cases l with
    | nil => rfl
    | cons a l =>
      have hl : l.length ≤ i + 1 := Nat.le_of_succ_le_succ h
      exact congrArg (a :: ·) (ih hl)

/-- Two neighbours are swapped. -/
theorem set_set_eq_moveDown {i : ℕ} {l : List α} {a b : α} (ha : l[i]? = some a) (hb : l[i + 1]? = some b) :
    (l.set i b).set (i + 1) a = moveDown i l := by
  induction i generalizing l with
  | zero =>
    match l, ha, hb with
    | x :: y :: l, ha, hb =>
      obtain rfl := Option.some.inj ha
      obtain rfl := Option.some.inj hb
      rfl
  | succ i ih =>
    cases l with
    | nil => cases ha
    | cons x l => exact congrArg (x :: ·) (ih ha hb)

theorem length_moveDown (i : ℕ) (l : List α) : (moveDown i l).length = l.length := by
  induction i generalizing l with
  | zero =>
    match l with
    | [] => rfl
    | [a] => rfl
    | a :: b :: l => rfl
  | succ i ih =>
    cases l with
    | nil => rfl
    | cons a l => exact congrArg Nat.succ (ih l)

/-- The same neighbours are swapped back. -/
theorem moveDown_moveDown (i : ℕ) (l : List α) : moveDown i (moveDown i l) = l := by
  induction i generalizing l with
  | zero =>
    match l with
    | [] => rfl
    | [a] => rfl
    | a :: b :: l => rfl
  | succ i ih =>
    cases l with
    | nil => rfl
    | cons a l => exact congrArg (a :: ·) (ih l)

/-- Two elements changed places, and nothing else did. -/
structure Swapped (i j : ℕ) (l l' : List α) : Prop where
  length : l'.length = l.length
  left : l'[i]? = l[j]?
  right : l'[j]? = l[i]?
  others : ∀ k, k ≠ i → k ≠ j → l'[k]? = l[k]?

theorem swapped_moveDown {i : ℕ} {l : List α} (h : i + 1 < l.length) :
    Swapped i (i + 1) l (moveDown i l) := by
  have ha := List.getElem?_eq_getElem (show i < l.length by omega)
  have hb := List.getElem?_eq_getElem h
  have hlength := length_moveDown i l
  rw [← set_set_eq_moveDown ha hb]
  constructor
  · simp
  · rw [List.getElem?_set_ne (Nat.succ_ne_self i), List.getElem?_set_self (by omega), hb]
  · rw [List.getElem?_set_self (by rw [List.length_set]; omega), ha]
  · intro k hk hk'
    rw [List.getElem?_set_ne hk'.symm, List.getElem?_set_ne hk.symm]

theorem moveDown_eq_self_iff {i : ℕ} {l : List α} (h : i + 1 < l.length) :
    moveDown i l = l ↔ l[i]? = l[i + 1]? := by
  induction i generalizing l with
  | zero =>
    match l, h with
    | a :: b :: l, _ =>
      constructor
      · intro heq
        exact congrArg some (List.cons.inj heq).1.symm
      · intro heq
        obtain rfl := Option.some.inj heq
        rfl
  | succ i ih =>
    cases l with
    | nil => exact absurd h (Nat.not_lt_zero _)
    | cons a l =>
      have hl : i + 1 < l.length := Nat.lt_of_succ_lt_succ h
      unfold moveDown
      rw [List.cons_inj_right, ih hl]
      rfl

/-- Different neighbours are swapped with the same outcome only where both swaps change nothing. -/
theorem moveDown_eq_moveDown_iff {i j : ℕ} {l : List α} (hij : i < j) (hj : j + 1 < l.length) :
    moveDown i l = moveDown j l ↔ l[i]? = l[i + 1]? ∧ l[j]? = l[j + 1]? := by
  have hi : i + 1 < l.length := by omega
  constructor
  · intro heq
    suffices hsame : l[i]? = l[i + 1]? by
      refine ⟨hsame, ?_⟩
      rw [(moveDown_eq_self_iff hi).mpr hsame] at heq
      exact (moveDown_eq_self_iff hj).mp heq.symm
    clear hi
    -- the element at `i` shows which swap was made
    induction i generalizing j l with
    | zero =>
      match j, l, hij, hj with
      | j + 1, a :: b :: l, _, _ => exact congrArg some (List.cons.inj heq).1.symm
    | succ i ih =>
      match j, l, hij, hj with
      | j + 1, a :: l, hij, hj =>
        have htail : moveDown i l = moveDown j l := (List.cons.inj heq).2
        exact ih (Nat.lt_of_succ_lt_succ hij) (Nat.lt_of_succ_lt_succ hj) htail
  · rintro ⟨hsame, hsame'⟩
    rw [(moveDown_eq_self_iff hi).mpr hsame, (moveDown_eq_self_iff hj).mpr hsame']

/-- Two removals come to the same exactly when all elements between the two places are equal. -/
theorem eraseIdx_eq_eraseIdx_iff {i k : ℕ} {l : List α} (hik : i ≤ k) :
    l.eraseIdx i = l.eraseIdx k ↔ ∀ j, i ≤ j → j < k → l[j]? = l[j + 1]? := by
  constructor
  · intro heq j hij hjk
    have hget := congrArg (fun l : List α => l[j]?) heq
    rw [List.getElem?_eraseIdx_of_ge hij, List.getElem?_eraseIdx_of_lt hjk] at hget
    exact hget.symm
  · intro hsame
    refine List.ext_getElem? fun j => ?_
    by_cases hij : j < i
    · rw [List.getElem?_eraseIdx_of_lt hij, List.getElem?_eraseIdx_of_lt (by omega)]
    · have hij : i ≤ j := Nat.le_of_not_lt hij
      by_cases hjk : j < k
      · rw [List.getElem?_eraseIdx_of_ge hij, List.getElem?_eraseIdx_of_lt hjk, hsame j hij hjk]
      · rw [List.getElem?_eraseIdx_of_ge hij, List.getElem?_eraseIdx_of_ge (Nat.le_of_not_lt hjk)]

end Moves
