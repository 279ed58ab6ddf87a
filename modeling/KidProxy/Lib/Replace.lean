import Mathlib.Data.List.Basic
import Mathlib.Data.List.Infix

/-!
# Lib.Replace — replacing the occurrences of a pattern in a list

`replaceAll pat rep xs` copies `xs` from left to right and writes `rep` for each occurrence of the
non-empty pattern `pat`; occurrences that overlap an earlier one do not count.
-/

namespace Replace

section Loop

variable {α : Type*} [DecidableEq α]

/-- The copying loop; the next `skip` elements belong to an occurrence already replaced. -/
def replaceFrom (pat rep : List α) : ℕ → List α → List α
  | _, [] => []
  | skip + 1, _ :: xs => replaceFrom pat rep skip xs
  | 0, x :: xs =>
    if pat.isPrefixOf (x :: xs) then rep ++ replaceFrom pat rep (pat.length - 1) xs
    else x :: replaceFrom pat rep 0 xs

def replaceAll (pat rep xs : List α) : List α := replaceFrom pat rep 0 xs

@[simp] theorem replaceAll_nil (pat rep : List α) : replaceAll pat rep [] = [] := rfl

end Loop

/-! ### What a replacement is -/

section Relation

variable {α β : Type*}

/-- `ys` is `xs` with `k` occurrences of `pat` replaced, the first one found from the left each time. -/
inductive Replaced (pat rep : List α) : ℕ → List α → List α → Prop
  | nil : Replaced pat rep 0 [] []
  | found {k : ℕ} {xs ys : List α} (h : Replaced pat rep k xs ys) :
    Replaced pat rep (k + 1) (pat ++ xs) (rep ++ ys)
  | copied {k : ℕ} {x : α} {xs ys : List α} (hno : ¬ pat <+: x :: xs) (h : Replaced pat rep k xs ys) :
    Replaced pat rep k (x :: xs) (x :: ys)

namespace Replaced

variable {pat rep : List α} {k : ℕ} {xs ys : List α}

/-- What adds up over a list adds up over a replacement. -/
theorem measure_add {m : List α → ℕ} (hm : ∀ as bs, m (as ++ bs) = m as + m bs)
    (h : Replaced pat rep k xs ys) : m ys + k * m pat = m xs + k * m rep := by
  induction h with
  | nil => omega
  | found h ih =>
    rw [hm, hm, Nat.succ_mul, Nat.succ_mul]
    omega
  | @copied k x xs ys hno h ih =>
    have hcons : ∀ l, m (x :: l) = m [x] + m l := hm [x]
    rw [hcons xs, hcons ys]
    omega

theorem eq_of_zero (h : Replaced pat rep k xs ys) (hk : k = 0) : ys = xs := by
  induction h with
  | nil => rfl
  | found h ih => cases hk
  | copied hno h ih => rw [ih hk]

theorem eq_of_same (h : Replaced pat rep k xs ys) (hsame : pat = rep) : ys = xs := by
  induction h with
  | nil => rfl
  | found h ih => rw [ih, hsame]
  | copied hno h ih => rw [ih]

/-- A replacement of something by something else is seen. -/
theorem ne_of_pos (h : Replaced pat rep k xs ys) (hk : k ≠ 0) (hne : pat ≠ rep) : ys ≠ xs := by
  intro heq
  have hlength : k * pat.length = k * rep.length := by
    have hadd := h.measure_add (fun _ _ => List.length_append)
    rw [heq] at hadd
    omega
  have hsame : rep.length = pat.length := (Nat.eq_of_mul_eq_mul_left (Nat.pos_of_ne_zero hk) hlength).symm
  clear hlength
  induction h with
  | nil => exact hk rfl
  | found h ih => exact hne (List.append_inj heq hsame).1.symm
  | copied hno h ih => exact ih hk (List.cons.inj heq).2

/-- Nothing is replaced exactly when the pattern does not occur. -/
theorem zero_iff (hpat : pat ≠ []) (h : Replaced pat rep k xs ys) : k = 0 ↔ ¬ pat <:+: xs := by
  induction h with
  | nil => simp [hpat]
  | @found k xs ys h ih =>
    refine iff_of_false (Nat.succ_ne_zero k) (not_not_intro ?_)
    exact (List.prefix_append pat xs).isInfix
  | copied hno h ih =>
    rw [List.infix_cons_iff, not_or, ih]
    exact (and_iff_right hno).symm

theorem mem_of_notMem (h : Replaced pat rep k xs ys) {x : α} (hx : x ∈ xs) (hpat : x ∉ pat) : x ∈ ys := by
  induction h with
  | nil => exact hx
  | found h ih =>
    rcases List.mem_append.mp hx with hx | hx
    · exact absurd hx hpat
    · exact List.mem_append_right _ (ih hx)
  | copied hno h ih =>
    rcases List.mem_cons.mp hx with rfl | hx
    · exact List.mem_cons_self
    · exact List.mem_cons_of_mem _ (ih hx)

/-- Of a single element no occurrence is left. -/
theorem notMem_of_singleton {a : α} (h : Replaced [a] rep k xs ys) (hrep : a ∉ rep) : a ∉ ys := by
  induction h with
  | nil => exact List.not_mem_nil
  | found h ih => exact fun hmem => (List.mem_append.mp hmem).elim hrep ih
  | @copied k x xs ys hno h ih =>
    intro hmem
    rcases List.mem_cons.mp hmem with rfl | hmem
    · exact hno (List.prefix_append [a] xs)
    · exact ih hmem

/-- Elements in which no occurrence begins are copied. -/
theorem append_left {as : List α} (h : Replaced pat rep k xs ys)
    (hno : ∀ s, s ≠ [] → s <:+ as → ¬ pat <+: s ++ xs) : Replaced pat rep k (as ++ xs) (as ++ ys) := by
  induction as with
  | nil => exact h
  | cons a as ih =>
    refine .copied (hno (a :: as) nofun List.suffix_rfl) (ih fun s hs hsuffix => ?_)
    exact hno s hs (hsuffix.trans (List.suffix_cons a as))

theorem map {f : α → β} (hf : Function.Injective f) (h : Replaced pat rep k xs ys) :
    Replaced (pat.map f) (rep.map f) k (xs.map f) (ys.map f) := by
  induction h with
  | nil => exact .nil
  | found h ih =>
    rw [List.map_append, List.map_append]
    exact .found ih
  | @copied k x xs ys hno h ih =>
    refine .copied (fun hprefix => hno ?_) ih
    exact (List.prefix_map_iff_of_injective hf).mp hprefix

end Replaced

end Relation

/-! ### The loop replaces -/

section Loop

variable {α : Type*} [DecidableEq α] {pat rep : List α}

theorem replaceFrom_append (as xs : List α) :
    replaceFrom pat rep as.length (as ++ xs) = replaceFrom pat rep 0 xs := by
  induction as with
  | nil => rfl
  | cons a as ih => exact ih

theorem replaceAll_append (hpat : pat ≠ []) (xs : List α) :
    replaceAll pat rep (pat ++ xs) = rep ++ replaceAll pat rep xs := by
  cases pat with
  | nil => exact absurd rfl hpat
  | cons p pat =>
    have hprefix : (p :: pat).isPrefixOf (p :: (pat ++ xs)) = true :=
      List.isPrefixOf_iff_prefix.mpr (List.prefix_append (p :: pat) xs)
    show (if (p :: pat).isPrefixOf (p :: (pat ++ xs)) then _ else _) = _
    rw [if_pos hprefix]
    exact congrArg (rep ++ ·) (replaceFrom_append pat xs)

theorem replaceAll_cons {x : α} {xs : List α} (hno : ¬ pat <+: x :: xs) :
    replaceAll pat rep (x :: xs) = x :: replaceAll pat rep xs := by
  have hprefix : ¬ pat.isPrefixOf (x :: xs) = true := fun h => hno (List.isPrefixOf_iff_prefix.mp h)
  exact if_neg hprefix

/-- The loop replaces. -/
theorem replaced_replaceAll (hpat : pat ≠ []) (rep xs : List α) :
    ∃ k, Replaced pat rep k xs (replaceAll pat rep xs) := by
  induction hn : xs.length using Nat.strong_induction_on generalizing xs with
  | _ n ih =>
    by_cases hprefix : pat <+: xs
    · obtain ⟨rest, rfl⟩ := hprefix
      have hpos := List.length_pos_iff.mpr hpat
      rw [List.length_append] at hn
      obtain ⟨k, hk⟩ := ih rest.length (by omega) rest rfl
      rw [replaceAll_append hpat]
      exact ⟨k + 1, .found hk⟩
    · cases xs with
      | nil => exact ⟨0, .nil⟩
      | cons x xs =>
        rw [List.length_cons] at hn
        obtain ⟨k, hk⟩ := ih xs.length (by omega) xs rfl
        rw [replaceAll_cons hprefix]
        exact ⟨k, .copied hprefix hk⟩

theorem Replaced.eq_replaceAll {k : ℕ} {xs ys : List α} (hpat : pat ≠ []) (h : Replaced pat rep k xs ys) :
    ys = replaceAll pat rep xs := by
  induction h with
  | nil => rfl
  | found h ih => rw [replaceAll_append hpat, ih]
  | copied hno h ih => rw [replaceAll_cons hno, ih]

end Loop

end Replace
