import KidProxy.Lib.Assoc
import Mathlib.Order.Lattice

/-!
# Lib.SortedMap — a map as a list sorted by its keys

The keys are strictly increasing, and that is a field: a key never stands twice, and the order of
iteration is the order of the keys.
-/

structure SortedMap (κ ν : Type*) [LinearOrder κ] where
  entries : List (κ × ν)
  sorted : entries.Pairwise fun a b => a.1 < b.1

namespace SortedMap

variable {κ ν : Type*} [LinearOrder κ]

def empty : SortedMap κ ν := ⟨[], .nil⟩

/-- The value of `k` becomes `f` of the value it had. -/
def upsertEntries (k : κ) (f : Option ν → ν) : List (κ × ν) → List (κ × ν)
  | [] => [(k, f none)]
  | e :: es =>
    if k < e.1 then (k, f none) :: e :: es
    else if k = e.1 then (k, f (some e.2)) :: es
    else e :: upsertEntries k f es

theorem key_of_mem_upsertEntries {k : κ} {f : Option ν → ν} {es : List (κ × ν)} {e : κ × ν}
    (h : e ∈ upsertEntries k f es) : e.1 = k ∨ ∃ e' ∈ es, e.1 = e'.1 := by
  induction es with
  | nil =>
    obtain rfl := List.mem_singleton.mp h
    exact .inl rfl
  | cons e₀ es ih =>
    unfold upsertEntries at h
    split_ifs at h with hlt heq
    · rcases List.mem_cons.mp h with rfl | h
      · exact .inl rfl
      · exact .inr ⟨e, h, rfl⟩
    · rcases List.mem_cons.mp h with rfl | h
      · exact .inl rfl
      · exact .inr ⟨e, List.mem_cons_of_mem _ h, rfl⟩
    · rcases List.mem_cons.mp h with rfl | h
      · exact .inr ⟨e, List.mem_cons_self, rfl⟩
      · rcases ih h with hk | ⟨e', he', hk⟩
        · exact .inl hk
        · exact .inr ⟨e', List.mem_cons_of_mem _ he', hk⟩

theorem sorted_upsertEntries {k : κ} {f : Option ν → ν} {es : List (κ × ν)}
    (h : es.Pairwise fun a b => a.1 < b.1) : (upsertEntries k f es).Pairwise fun a b => a.1 < b.1 := by
  induction es with
  | nil => exact List.pairwise_singleton _ _
  | cons e₀ es ih =>
    obtain ⟨hhead, htail⟩ := List.pairwise_cons.mp h
    unfold upsertEntries
    split_ifs with hlt heq
    · refine List.pairwise_cons.mpr ⟨fun e he => ?_, h⟩
      rcases List.mem_cons.mp he with rfl | he
      · exact hlt
      · exact lt_trans hlt (hhead e he)
    · exact List.pairwise_cons.mpr ⟨fun e he => heq ▸ hhead e he, htail⟩
    · refine List.pairwise_cons.mpr ⟨fun e he => ?_, ih htail⟩
      rcases key_of_mem_upsertEntries he with hk | ⟨e', he', hk⟩
      · rw [hk]
        exact lt_of_le_of_ne (not_lt.mp hlt) (Ne.symm heq)
      · rw [hk]
        exact hhead e' he'

def upsert (m : SortedMap κ ν) (k : κ) (f : Option ν → ν) : SortedMap κ ν :=
  ⟨upsertEntries k f m.entries, sorted_upsertEntries m.sorted⟩

def insert (m : SortedMap κ ν) (k : κ) (v : ν) : SortedMap κ ν := m.upsert k fun _ => v

/-! ### What is in the map -/

/-- A new key is added to the entries. -/
theorem perm_upsertEntries {k : κ} {f : Option ν → ν} {es : List (κ × ν)} (h : k ∉ es.map Prod.fst) :
    (upsertEntries k f es).Perm ((k, f none) :: es) := by
  induction es with
  | nil => exact .refl _
  | cons e es ih =>
    rw [List.map_cons, List.mem_cons, not_or] at h
    unfold upsertEntries
    split_ifs with hlt
    · exact .refl _
    · exact absurd ‹k = e.1› h.1
    · exact ((ih h.2).cons e).trans (.swap _ _ _)

/-- Entries with distinct keys that are inserted one after the other. -/
theorem perm_foldl_insert {es : List (κ × ν)} {m : SortedMap κ ν}
    (h : ((es ++ m.entries).map Prod.fst).Nodup) :
    (es.foldl (fun m e => m.insert e.1 e.2) m).entries.Perm (es ++ m.entries) := by
  induction es generalizing m with
  | nil => exact .refl _
  | cons e es ih =>
    rw [List.cons_append, List.map_cons, List.nodup_cons, List.map_append, List.mem_append, not_or] at h
    obtain ⟨⟨hes, hm⟩, hnodup⟩ := h
    have hinsert : (m.insert e.1 e.2).entries.Perm (e :: m.entries) := perm_upsertEntries hm
    have hall : (es ++ (m.insert e.1 e.2).entries).Perm (e :: (es ++ m.entries)) :=
      (hinsert.append_left es).trans List.perm_middle
    refine (ih ?_).trans hall
    refine ((hall.map Prod.fst).nodup_iff).mpr ?_
    rw [List.map_cons, List.nodup_cons, List.map_append, List.mem_append, not_or]
    exact ⟨⟨hes, hm⟩, hnodup⟩

theorem nodup_keys (m : SortedMap κ ν) : (m.entries.map Prod.fst).Nodup :=
  (List.pairwise_map.mpr m.sorted).imp ne_of_lt

/-- Sorted entries are the map that they are inserted into. -/
theorem entries_foldl_insert {es : List (κ × ν)} (h : es.Pairwise fun a b => a.1 < b.1) :
    (es.foldl (fun m e => m.insert e.1 e.2) empty).entries = es := by
  have hperm : (es.foldl (fun m e => m.insert e.1 e.2) (empty : SortedMap κ ν)).entries.Perm
      (es ++ (empty : SortedMap κ ν).entries) := perm_foldl_insert (by
    rw [show es ++ (empty : SortedMap κ ν).entries = es from List.append_nil es]
    exact nodup_keys ⟨es, h⟩)
  rw [show es ++ (empty : SortedMap κ ν).entries = es from List.append_nil es] at hperm
  exact hperm.eq_of_pairwise (fun a b _ _ hab hba => absurd hab (lt_asymm hba)) (SortedMap.sorted _) h

theorem lookup_eq_none_of_lt {k : κ} {es : List (κ × ν)} (h : ∀ e ∈ es, k < e.1) : es.lookup k = none :=
  List.lookup_eq_none_iff.mpr fun e he => bne_iff_ne.mpr (h e he).ne

/-- An upsert changes the value of its key only. -/
theorem lookup_upsertEntries {k : κ} {f : Option ν → ν} {es : List (κ × ν)}
    (h : es.Pairwise fun a b => a.1 < b.1) (k' : κ) : (upsertEntries k f es).lookup k' =
      if k' = k then some (f (es.lookup k)) else es.lookup k' := by
  induction es with
  | nil =>
    unfold upsertEntries
    by_cases heq : k' = k
    · rw [if_pos heq]
      exact Assoc.lookup_cons_of_eq heq
    · rw [if_neg heq]
      exact Assoc.lookup_cons_of_ne heq
  | cons e es ih =>
    obtain ⟨hhead, htail⟩ := List.pairwise_cons.mp h
    unfold upsertEntries
    by_cases hlt : k < e.1
    · have hnone : (e :: es).lookup k = none := by
        refine lookup_eq_none_of_lt fun d hd => ?_
        rcases List.mem_cons.mp hd with rfl | hd
        · exact hlt
        · exact lt_trans hlt (hhead d hd)
      rw [if_pos hlt, hnone]
      by_cases heq : k' = k
      · rw [if_pos heq]
        exact Assoc.lookup_cons_of_eq heq
      · rw [if_neg heq]
        exact Assoc.lookup_cons_of_ne heq
    · rw [if_neg hlt]
      by_cases hkey : k = e.1
      · rw [if_pos hkey, Assoc.lookup_cons_of_eq hkey]
        by_cases heq : k' = k
        · rw [if_pos heq]
          exact Assoc.lookup_cons_of_eq heq
        · rw [if_neg heq, Assoc.lookup_cons_of_ne (fun h => heq (h.trans hkey.symm))]
          exact Assoc.lookup_cons_of_ne heq
      · rw [if_neg hkey, Assoc.lookup_cons_of_ne hkey]
        by_cases heq : k' = e.1
        · rw [Assoc.lookup_cons_of_eq heq, Assoc.lookup_cons_of_eq heq,
            if_neg fun h => hkey (h.symm.trans heq)]
        · rw [Assoc.lookup_cons_of_ne heq, Assoc.lookup_cons_of_ne heq, ih htail]

/-! ### Grouping -/

variable {α : Type*}

/-- The values of each key, in order. -/
def group (es : List (κ × α)) (m : SortedMap κ (List α)) : SortedMap κ (List α) :=
  es.foldl (fun m e => m.upsert e.1 fun values => values.getD [] ++ [e.2]) m

theorem lookup_group (es : List (κ × α)) (m : SortedMap κ (List α)) (k : κ) :
    (group es m).entries.lookup k =
      if k ∈ es.map Prod.fst then
        some ((m.entries.lookup k).getD [] ++ (es.filter fun e => e.1 = k).map Prod.snd)
      else m.entries.lookup k := by
  induction es generalizing m with
  | nil => rfl
  | cons e es ih =>
    obtain ⟨next, hnext⟩ : ∃ next, next = m.upsert e.1 fun values => values.getD [] ++ [e.2] := ⟨_, rfl⟩
    have hupsert : next.entries.lookup k =
        if k = e.1 then some ((m.entries.lookup e.1).getD [] ++ [e.2]) else m.entries.lookup k := by
      rw [hnext]
      exact lookup_upsertEntries m.sorted k
    have hgroup : group (e :: es) m = group es next := by
      rw [hnext]
      rfl
    rw [hgroup, ih, hupsert, List.map_cons]
    by_cases hkey : k = e.1
    · have hhead : ((e :: es).filter fun d => d.1 = k) = e :: es.filter fun d => d.1 = k :=
        List.filter_cons_of_pos (decide_eq_true hkey.symm)
      rw [if_pos hkey, if_pos (List.mem_cons.mpr (.inl hkey)), hhead, List.map_cons, hkey]
      split_ifs with hmem
      · rw [Option.getD_some, List.append_assoc]
        rfl
      · have hnone : (es.filter fun d => d.1 = e.1) = [] := by
          refine List.filter_eq_nil_iff.mpr fun d hd heq => hmem ?_
          rw [← of_decide_eq_true heq]
          exact List.mem_map_of_mem hd
        rw [hnone]
        rfl
    · have htail : ((e :: es).filter fun d => d.1 = k) = es.filter fun d => d.1 = k :=
        List.filter_cons_of_neg (by simpa using Ne.symm hkey)
      rw [if_neg hkey, htail]
      simp only [List.mem_cons, hkey, false_or]

theorem mem_entries_iff {m : SortedMap κ ν} {k : κ} {v : ν} :
    (k, v) ∈ m.entries ↔ m.entries.lookup k = some v :=
  ⟨Assoc.lookup_of_mem m.nodup_keys, Assoc.mem_of_lookup⟩

/-- What an insertion leaves was inserted, or was there. -/
theorem of_mem_insert {m : SortedMap κ ν} {k : κ} {v : ν} {e : κ × ν} (h : e ∈ (m.insert k v).entries) :
    e.2 = v ∨ e ∈ m.entries := by
  have hlookup := lookup_upsertEntries (f := fun _ => v) m.sorted (k := k) e.1
  have hentry : (upsertEntries k (fun _ => v) m.entries).lookup e.1 = some e.2 := mem_entries_iff.mp h
  rw [hentry] at hlookup
  split_ifs at hlookup with hk
  · exact .inl (Option.some.inj hlookup)
  · exact .inr (mem_entries_iff.mpr hlookup.symm)

/-- The groups of the keys that are there. -/
theorem mem_group_empty {es : List (κ × α)} {k : κ} {values : List α} :
    (k, values) ∈ (group es empty).entries ↔
      k ∈ es.map Prod.fst ∧ values = (es.filter fun e => e.1 = k).map Prod.snd := by
  rw [mem_entries_iff, lookup_group]
  show (if k ∈ es.map Prod.fst then some ([] ++ _) else none) = some values ↔ _
  rw [Option.ite_none_right_eq_some, Option.some_inj, List.nil_append, eq_comm (b := values)]

end SortedMap
