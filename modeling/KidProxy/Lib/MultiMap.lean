import Mathlib.Data.List.Forall2

/-!
# Lib.MultiMap — an ordered multimap

A key may carry several values, and the order of the values of one key is kept.  `getAll` is the
list of the values of a key; each operation is described by what it does to `getAll`.
-/

structure MultiMap (κ ν : Type*) where
  /-- The key and value pairs in iteration order. -/
  entries : List (κ × ν)
  deriving DecidableEq, Repr

namespace MultiMap

variable {κ ν : Type*} [DecidableEq κ]

def empty : MultiMap κ ν := ⟨[]⟩

def getAll (m : MultiMap κ ν) (k : κ) : List ν := (m.entries.filter fun e => e.1 = k).map Prod.snd

/-- The first value of a key. -/
def get (m : MultiMap κ ν) (k : κ) : Option ν := (m.getAll k).head?

def append (m : MultiMap κ ν) (k : κ) (v : ν) : MultiMap κ ν := ⟨m.entries ++ [(k, v)]⟩

/-- All values of the key go. -/
def remove (m : MultiMap κ ν) (k : κ) : MultiMap κ ν := ⟨m.entries.filter fun e => e.1 ≠ k⟩

/-- The value replaces all earlier values of the key. -/
def insert (m : MultiMap κ ν) (k : κ) (v : ν) : MultiMap κ ν := (m.remove k).append k v

@[simp] theorem getAll_remove_self (m : MultiMap κ ν) (k : κ) : (m.remove k).getAll k = [] := by
  simp [getAll, remove, List.filter_filter]

theorem remove_of_absent {m : MultiMap κ ν} {k : κ} (h : m.getAll k = []) : m.remove k = m := by
  have hnone : ∀ e ∈ m.entries, e.1 ≠ k := by
    intro e he hk
    have hfilter : (m.entries.filter fun e => e.1 = k) = [] := List.map_eq_nil_iff.mp h
    exact (List.filter_eq_nil_iff.mp hfilter e he) (decide_eq_true hk)
  unfold remove
  rw [List.filter_eq_self.mpr fun e he => decide_eq_true (hnone e he)]

theorem getAll_remove_of_ne (m : MultiMap κ ν) {k k' : κ} (h : k' ≠ k) :
    (m.remove k).getAll k' = m.getAll k' := by
  unfold getAll remove
  rw [List.filter_filter]
  congr 1
  refine List.filter_congr fun e _ => ?_
  by_cases he : e.1 = k'
  · simp [he, h]
  · simp [he]

theorem getAll_append_self (m : MultiMap κ ν) (k : κ) (v : ν) :
    (m.append k v).getAll k = m.getAll k ++ [v] := by
  simp [getAll, append]

theorem getAll_append_of_ne (m : MultiMap κ ν) {k k' : κ} (v : ν) (h : k' ≠ k) :
    (m.append k v).getAll k' = m.getAll k' := by
  simp [getAll, append, h.symm]

@[simp] theorem getAll_insert_self (m : MultiMap κ ν) (k : κ) (v : ν) :
    (m.insert k v).getAll k = [v] := by
  rw [insert, getAll_append_self, getAll_remove_self, List.nil_append]

theorem getAll_insert_of_ne (m : MultiMap κ ν) {k k' : κ} (v : ν) (h : k' ≠ k) :
    (m.insert k v).getAll k' = m.getAll k' := by
  rw [insert, getAll_append_of_ne _ v h, getAll_remove_of_ne m h]

/-- Entries related one by one, with the same keys, give related values under each key. -/
theorem forall₂_getAll {R : κ → ν → ν → Prop} {es es' : List (κ × ν)}
    (h : List.Forall₂ (fun e e' => e'.1 = e.1 ∧ R e.1 e.2 e'.2) es es') (k : κ) :
    List.Forall₂ (R k) (getAll ⟨es⟩ k) (getAll ⟨es'⟩ k) := by
  induction h with
  | nil => exact .nil
  | cons hhead _ ih =>
    rename_i e e' es es' _
    obtain ⟨hkey, hR⟩ := hhead
    by_cases hk : e.1 = k
    · have hleft : getAll ⟨e :: es⟩ k = e.2 :: getAll ⟨es⟩ k := by simp [getAll, hk]
      have hright : getAll ⟨e' :: es'⟩ k = e'.2 :: getAll ⟨es'⟩ k := by simp [getAll, hkey, hk]
      rw [hleft, hright]
      exact .cons (hk ▸ hR) ih
    · have hleft : getAll ⟨e :: es⟩ k = getAll ⟨es⟩ k := by simp [getAll, hk]
      have hright : getAll ⟨e' :: es'⟩ k = getAll ⟨es'⟩ k := by simp [getAll, hkey, hk]
      rw [hleft, hright]
      exact ih

/-- Entries with the same keys in the same order are told apart by the values of some key. -/
theorem entries_eq_of_getAll {es es' : List (κ × ν)}
    (hkeys : List.Forall₂ (fun e e' => e'.1 = e.1) es es')
    (h : ∀ k, getAll ⟨es'⟩ k = getAll ⟨es⟩ k) : es' = es := by
  induction hkeys with
  | nil => rfl
  | cons hkey _ ih =>
    rename_i e e' es es' _
    have hvalues : e'.2 :: getAll ⟨es'⟩ e.1 = e.2 :: getAll ⟨es⟩ e.1 := by
      have hk := h e.1
      simpa [getAll, hkey] using hk
    have hhead : e' = e := Prod.ext hkey (List.cons.inj hvalues).1
    have htail : ∀ k, getAll ⟨es'⟩ k = getAll ⟨es⟩ k := by
      intro k
      have hk := h k
      rw [hhead] at hk
      by_cases hek : e.1 = k
      · simpa [getAll, hek] using hk
      · simpa [getAll, hek] using hk
    rw [hhead, ih htail]

omit [DecidableEq κ] in
/-- Appending the pairs one by one to the empty map gives the map with these pairs. -/
theorem foldl_append_empty (es : List (κ × ν)) :
    es.foldl (fun m e => m.append e.1 e.2) empty = ⟨es⟩ := by
  have key : ∀ (es acc : List (κ × ν)),
      es.foldl (fun m e => m.append e.1 e.2) ⟨acc⟩ = (⟨acc ++ es⟩ : MultiMap κ ν) := by
    intro es
    induction es with
    | nil => intro acc; simp
    | cons e es ih => intro acc; rw [List.foldl_cons, append, ih]; simp
  exact key es []

/-! ### The entries under some keys -/

omit [DecidableEq κ] in
/-- The entries whose keys are picked. -/
def only (p : κ → Bool) (m : MultiMap κ ν) : MultiMap κ ν := ⟨m.entries.filter fun e => p e.1⟩

variable {p : κ → Bool}

theorem getAll_only (m : MultiMap κ ν) {k : κ} (hk : p k = true) : (m.only p).getAll k = m.getAll k := by
  unfold getAll only
  rw [List.filter_filter]
  congr 1
  refine List.filter_congr fun e _ => ?_
  by_cases he : e.1 = k
  · simp [he, hk]
  · simp [he]

theorem get_only (m : MultiMap κ ν) {k : κ} (hk : p k = true) : (m.only p).get k = m.get k := by
  unfold get
  rw [m.getAll_only hk]

theorem remove_only (m : MultiMap κ ν) (k : κ) : (m.only p).remove k = (m.remove k).only p := by
  unfold remove only
  simp only [List.filter_filter]
  congr 1
  refine List.filter_congr fun e _ => ?_
  rw [Bool.and_comm]

theorem insert_only (m : MultiMap κ ν) {k : κ} (v : ν) (hk : p k = true) :
    (m.only p).insert k v = (m.insert k v).only p := by
  unfold insert
  rw [remove_only]
  unfold append only
  simp [hk]

end MultiMap
