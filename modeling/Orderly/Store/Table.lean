import Mathlib.Algebra.Order.Ring.Int
import Mathlib.Data.List.Nodup

/-!
# Tables with a primary key

Rows in insertion order, no two of which share a key.  The uniqueness is part
of the type, so every table that can be built satisfies its primary key
constraint and every lookup has at most one answer.
-/

namespace Orderly
namespace Store

variable {Row Key : Type} {key : Row → Key}

/-- Rows with pairwise different keys, oldest first. -/
structure Table (Row Key : Type) (key : Row → Key) where
  rows : List Row
  unique : (rows.map key).Nodup

namespace Table

def empty : Table Row Key key := ⟨[], List.nodup_nil⟩

variable [DecidableEq Key]

/-- The row with a given key. -/
def lookup (table : Table Row Key key) (id : Key) : Option Row :=
  table.rows.find? fun row => key row = id

/-- Add a row; `none` is a primary key violation. -/
def insert (table : Table Row Key key) (row : Row) : Option (Table Row Key key) :=
  if fresh : key row ∈ table.rows.map key then none
  else some
    { rows := table.rows ++ [row]
      unique := by
        rw [List.map_append, List.map_singleton]
        exact List.nodup_append.mpr ⟨table.unique, List.nodup_singleton _, by
          intro left member right equal same
          exact fresh (List.mem_singleton.mp equal ▸ same ▸ member)⟩ }

/-- Change the row with a given key; the change may not touch the key. -/
def update (table : Table Row Key key) (id : Key) (change : Row → Row)
    (keeps : ∀ row, key (change row) = key row) : Table Row Key key where
  rows := table.rows.map fun row => if key row = id then change row else row
  unique := by
    have same : (table.rows.map fun row => if key row = id then change row else row).map key =
        table.rows.map key := by
      rw [List.map_map]
      apply List.map_congr_left
      intro row _
      simp only [Function.comp_apply]
      split
      · exact keeps row
      · rfl
    rw [same]
    exact table.unique

theorem lookup_key {table : Table Row Key key} {id : Key} {row : Row}
    (found : table.lookup id = some row) : key row = id := by
  simpa using List.find?_some found

theorem mem_of_lookup {table : Table Row Key key} {id : Key} {row : Row}
    (found : table.lookup id = some row) : row ∈ table.rows :=
  List.mem_of_find?_eq_some found

theorem lookup_of_mem {table : Table Row Key key} {row : Row} (member : row ∈ table.rows) :
    table.lookup (key row) = some row := by
  rcases table with ⟨rows, unique⟩
  change rows.find? _ = some row
  change row ∈ rows at member
  induction rows with
  | nil => cases member
  | cons head tail inductionHypothesis =>
      have parts := List.nodup_cons.mp unique
      rcases List.mem_cons.mp member with same | later
      · simp [same]
      · have different : key head ≠ key row := fun equal =>
          parts.1 (equal ▸ List.mem_map_of_mem later)
        rw [List.find?_cons_of_neg (by simpa using different)]
        exact inductionHypothesis parts.2 later

/-- Rows with the same key are the same row. -/
theorem eq_of_key (table : Table Row Key key) {row other : Row} (member : row ∈ table.rows) (member' : other ∈ table.rows)
    (same : key row = key other) : row = other := by
  have found := lookup_of_mem member
  rw [same, lookup_of_mem member'] at found
  exact (Option.some.inj found).symm

/-- One row has its key. -/
theorem filter_key {table : Table Row Key key} {row : Row} (member : row ∈ table.rows) :
    (table.rows.filter fun other => key other = key row) = [row] := by
  have unique := table.unique
  generalize table.rows = rows at member unique
  induction rows with
  | nil => cases member
  | cons head rows inductionHypothesis =>
      rcases List.nodup_cons.mp unique with ⟨fresh, rest⟩
      rcases List.mem_cons.mp member with rfl | later
      · have others : (rows.filter fun other => key other = key row) = [] := by
          apply List.filter_eq_nil_iff.mpr
          intro other listed same
          exact fresh (List.mem_map.mpr ⟨other, listed, of_decide_eq_true same⟩)
        rw [List.filter_cons_of_pos (by simp), others]
      · have apart : key head ≠ key row := fun same => fresh (List.mem_map.mpr ⟨row, later, same.symm⟩)
        rw [List.filter_cons_of_neg (by simpa using apart)]
        exact inductionHypothesis later rest

theorem lookup_eq_none {table : Table Row Key key} {id : Key} :
    table.lookup id = none ↔ id ∉ table.rows.map key := by
  simp [lookup]

/-- An update touches exactly the row it names. -/
theorem lookup_update (table : Table Row Key key) (id other : Key) (change : Row → Row)
    (keeps : ∀ row, key (change row) = key row) :
    (table.update id change keeps).lookup other =
      if other = id then (table.lookup other).map change else table.lookup other := by
  have moved : ∀ row, key (if key row = id then change row else row) = key row := by
    intro row
    split
    · exact keeps row
    · rfl
  unfold lookup update
  simp only [List.find?_map, Function.comp_def, moved]
  cases found : table.rows.find? (fun row => key row = other) with
  | none => simp
  | some row =>
      have named : key row = other := by simpa using List.find?_some found
      simp only [Option.map_some, named]
      split <;> rfl

theorem lookup_insert {table added : Table Row Key key} {row : Row} (other : Key)
    (inserted : table.insert row = some added) :
    added.lookup other = if other = key row then some row else table.lookup other := by
  unfold insert at inserted
  split at inserted
  · cases inserted
  · next fresh =>
      cases inserted
      have absent : table.rows.find? (fun old => key old = key row) = none :=
        lookup_eq_none.mpr fresh
      unfold lookup
      simp only [List.find?_append, List.find?_singleton]
      by_cases same : other = key row
      · subst same
        simp [absent]
      · simp [same, Ne.symm same]

/-- An insert appends its row. -/
theorem rows_insert {table added : Table Row Key key} {row : Row} (inserted : table.insert row = some added) :
    added.rows = table.rows ++ [row] := by
  unfold insert at inserted
  split at inserted
  · cases inserted
  · cases inserted
    rfl

theorem mem_insert {table added : Table Row Key key} {row other : Row}
    (inserted : table.insert row = some added) :
    other ∈ added.rows ↔ other ∈ table.rows ∨ other = row := by
  rw [rows_insert inserted, List.mem_append, List.mem_singleton]

theorem insert_fresh {table added : Table Row Key key} {row : Row}
    (inserted : table.insert row = some added) : table.lookup (key row) = none := by
  unfold insert at inserted
  split at inserted
  · cases inserted
  · next fresh => exact lookup_eq_none.mpr fresh

theorem mem_update {table : Table Row Key key} {id : Key} {change : Row → Row}
    {keeps : ∀ row, key (change row) = key row} {row : Row} :
    row ∈ (table.update id change keeps).rows ↔
      ∃ old ∈ table.rows, row = if key old = id then change old else old := by
  simp only [update, List.mem_map]
  constructor
  · rintro ⟨old, member, rfl⟩
    exact ⟨old, member, rfl⟩
  · rintro ⟨old, member, rfl⟩
    exact ⟨old, member, rfl⟩

/-- Updates keep the set of keys. -/
theorem lookup_update_isSome (table : Table Row Key key) (id other : Key) (change : Row → Row)
    (keeps : ∀ row, key (change row) = key row) :
    ((table.update id change keeps).lookup other).isSome = (table.lookup other).isSome := by
  rw [lookup_update]
  split <;> simp

/-- An update changes a total over the rows by what it does to its row. -/
theorem sum_update {table : Table Row Key key} {id : Key} {row : Row} (found : table.lookup id = some row)
    (change : Row → Row) (keeps : ∀ row, key (change row) = key row) (weight : Row → Nat) :
    ((table.update id change keeps).rows.map weight).sum + weight row =
      (table.rows.map weight).sum + weight (change row) := by
  rcases table with ⟨rows, unique⟩
  change ((rows.map fun row => if key row = id then change row else row).map weight).sum + _ = _
  change rows.find? _ = some row at found
  induction rows with
  | nil => cases found
  | cons head tail inductionHypothesis =>
      have parts := List.nodup_cons.mp unique
      by_cases same : key head = id
      · rw [List.find?_cons_of_pos (by simpa using same)] at found
        cases found
        have kept : (tail.map fun row => if key row = id then change row else row) = tail := by
          refine (List.map_congr_left fun row member => if_neg ?_).trans (List.map_id' tail)
          intro named
          exact parts.1 (same.trans named.symm ▸ List.mem_map_of_mem member)
        rw [List.map_cons, if_pos same, kept]
        simp only [List.map_cons, List.sum_cons]
        omega
      · rw [List.find?_cons_of_neg (by simpa using same)] at found
        have later := inductionHypothesis parts.2 found
        change _ = (tail.map weight).sum + _ at later
        rw [List.map_cons, if_neg same]
        simp only [List.map_cons, List.sum_cons]
        omega

end Table

end Store
end Orderly
