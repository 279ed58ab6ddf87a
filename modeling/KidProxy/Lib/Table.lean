import Mathlib.Data.Int.Notation
import Mathlib.Data.List.Basic
import Mathlib.Data.List.Forall2
import Mathlib.Data.List.Nodup

/-!
# Lib.Table — a table, and rows that a statement inserts by column name

A statement names the columns it writes; the others get `NULL`.  It is refused for a column that the table
does not have, for a `NULL` where the column does not allow it, and for a primary key that is there already.
Cells of the kind of their column are stored as they are.
-/

namespace Table

inductive Cell
  | null
  | text (s : String)
  | int (n : ℤ)
  deriving DecidableEq, Repr

/-- What a column prefers to store: texts, or integers. -/
inductive Affinity
  | text
  | integer
  deriving DecidableEq, Repr

structure Column where
  name : String
  affinity : Affinity
  notNull : Bool
  primaryKey : Bool
  deriving DecidableEq, Repr

/-- The cells that a statement writes, each with the name of its column. -/
abbrev Written := List (String × Cell)

inductive Refusal
  | noColumn (name : String)
  | notNull (name : String)
  | notUnique
  deriving DecidableEq, Repr

/-- The cell is stored without a conversion. -/
def Affinity.plain : Affinity → Cell → Bool
  | _, .null | .text, .text _ | .integer, .int _ => true
  | .text, .int _ | .integer, .text _ => false

/-- The row that is stored. -/
def fullRow (columns : List Column) (written : Written) : List Cell :=
  columns.map fun c => (written.lookup c.name).getD .null

def keyOf (columns : List Column) (row : List Cell) : List Cell :=
  ((columns.zip row).filter fun p => p.1.primaryKey).map Prod.snd

def insertRow (columns : List Column) (rows : List (List Cell)) (written : Written) :
    Except Refusal (List (List Cell)) :=
  match written.find? fun p => !(columns.any fun c => c.name = p.1) with
  | some p => .error (.noColumn p.1)
  | none =>
    let row := fullRow columns written
    match (columns.zip row).find? fun p => p.1.notNull && p.2 = .null with
    | some p => .error (.notNull p.1.name)
    | none =>
      if columns.any Column.primaryKey && rows.any fun old => keyOf columns old = keyOf columns row then
        .error .notUnique
      else .ok (rows ++ [row])

/-- All rows, or none. -/
def insertMany (columns : List Column) (rows : List (List Cell)) (batch : List Written) :
    Except Refusal (List (List Cell)) :=
  batch.foldlM (insertRow columns) rows

/-! ### Rows that fit -/

/-- The cell is written under the name of the column, is there where it must be, and is stored as it is. -/
structure Column.Takes (c : Column) (p : String × Cell) : Prop where
  name : p.1 = c.name
  notNull : c.notNull = true → p.2 ≠ .null
  plain : c.affinity.plain p.2 = true

/-- Cell by cell, the statement writes what the table wants, in the order of its columns. -/
def Fits (columns : List Column) (written : Written) : Prop := List.Forall₂ Column.Takes columns written

variable {columns : List Column} {written : Written}

theorem Fits.names (h : Fits columns written) : written.map Prod.fst = columns.map Column.name := by
  induction h with
  | nil => rfl
  | cons hp hrest ih => rw [List.map_cons, List.map_cons, hp.name, ih]

/-- The cells of a row that fits are stored in their order. -/
theorem Fits.fullRow (h : Fits columns written) (hnames : (columns.map Column.name).Nodup) :
    fullRow columns written = written.map Prod.snd := by
  unfold Table.fullRow
  induction h with
  | nil => rfl
  | @cons c p columns written hp hrest ih =>
    rw [List.map_cons, List.nodup_cons] at hnames
    obtain ⟨hfirst, hnodup⟩ := hnames
    obtain ⟨name, cell⟩ := p
    obtain rfl : name = c.name := hp.name
    rw [List.map_cons, List.map_cons, List.lookup_cons_self, ← ih hnodup]
    refine congrArg (cell :: ·) (List.map_congr_left fun d hd => ?_)
    have hne : d.name ≠ c.name := fun heq => hfirst (heq ▸ List.mem_map_of_mem hd)
    rw [List.lookup_cons, beq_false_of_ne hne]

/-- A row that fits is refused for its key only. -/
theorem insertRow_of_fits {rows : List (List Cell)} (h : Fits columns written)
    (hnames : (columns.map Column.name).Nodup)
    (hkey : keyOf columns (written.map Prod.snd) ∉ rows.map (keyOf columns)) :
    insertRow columns rows written = .ok (rows ++ [written.map Prod.snd]) := by
  have hcolumn : (written.find? fun p => !(columns.any fun c => c.name = p.1)) = none := by
    refine List.find?_eq_none.mpr fun p hp => ?_
    have hmem : p.1 ∈ columns.map Column.name := h.names ▸ List.mem_map_of_mem hp
    obtain ⟨c, hc, hname⟩ := List.mem_map.mp hmem
    simpa using ⟨c, hc, hname⟩
  have hnull : ((columns.zip (written.map Prod.snd)).find? fun p => p.1.notNull && p.2 = .null) = none := by
    refine List.find?_eq_none.mpr fun p hp => ?_
    clear hkey hcolumn hnames
    induction h with
    | nil => cases hp
    | @cons c q columns written hq hrest ih =>
      rcases List.mem_cons.mp hp with rfl | hp
      · simpa using hq.notNull
      · exact ih hp
  have hunique : (rows.any fun old => keyOf columns old = keyOf columns (written.map Prod.snd)) = false := by
    refine List.any_eq_false.mpr fun old hold => ?_
    intro heq
    exact hkey (of_decide_eq_true heq ▸ List.mem_map_of_mem hold)
  unfold insertRow
  rw [hcolumn]
  dsimp only
  rw [h.fullRow hnames, hnull]
  dsimp only
  rw [hunique, Bool.and_false]
  rfl

/-- **A batch that fits**: it is inserted where no two keys of the old and the new rows are the same. -/
theorem insertMany_of_fits {rows : List (List Cell)} {batch : List Written}
    (hfits : ∀ written ∈ batch, Fits columns written) (hnames : (columns.map Column.name).Nodup)
    (hkeys : ((rows ++ batch.map (List.map Prod.snd)).map (keyOf columns)).Nodup) :
    insertMany columns rows batch = .ok (rows ++ batch.map (List.map Prod.snd)) := by
  induction batch generalizing rows with
  | nil => exact congrArg Except.ok (List.append_nil rows).symm
  | cons written batch ih =>
    have hsplit : rows ++ (written :: batch).map (List.map Prod.snd) =
        (rows ++ [written.map Prod.snd]) ++ batch.map (List.map Prod.snd) := by
      rw [List.map_cons, List.append_assoc, List.singleton_append]
    have hfirst : keyOf columns (written.map Prod.snd) ∉ rows.map (keyOf columns) := by
      intro hmem
      rw [List.map_append, List.nodup_append] at hkeys
      exact hkeys.2.2 _ hmem _ (List.mem_map_of_mem (List.mem_map_of_mem List.mem_cons_self)) rfl
    rw [hsplit] at hkeys ⊢
    have hrest := ih 
      (fun w hw => hfits w (List.mem_cons_of_mem _ hw)) hkeys
    unfold insertMany at hrest ⊢
    rw [List.foldlM_cons, insertRow_of_fits (hfits written List.mem_cons_self) hnames hfirst]
    exact hrest

end Table
