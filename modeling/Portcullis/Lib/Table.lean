import Mathlib.Data.List.Basic
import Mathlib.Data.List.Pairwise

/-!
# Tables under uniqueness constraints

A table is a list of rows no two of which conflict; rows conflict when they agree on a
column that has to be unique.  An insertion that would make a conflict is refused.
-/

namespace Portcullis.Lib

open List

structure Table {Row : Type} (conflicts : Row → Row → Prop) where
  rows : List Row
  admitted : rows.Pairwise fun left right => ¬ conflicts left right

namespace Table

variable {Row : Type} {conflicts : Row → Row → Prop}

def empty : Table conflicts := ⟨[], List.Pairwise.nil⟩

def insert [DecidableRel conflicts] (table : Table conflicts) (row : Row) :
    Option (Table conflicts) :=
  if fresh : ∀ other ∈ table.rows, ¬ conflicts other row then
    some
      { rows := table.rows ++ [row]
        admitted := pairwise_append.mpr ⟨table.admitted, pairwise_singleton _ _,
          fun other member last same => by
            rw [mem_singleton.mp same]
            exact fresh other member⟩ }
  else none

def update (table : Table conflicts) (change : Row → Row)
    (keeps : ∀ left right, conflicts (change left) (change right) → conflicts left right) :
    Table conflicts where
  rows := table.rows.map change
  admitted := pairwise_map.mpr
    (table.admitted.imp fun apart conflict => apart (keeps _ _ conflict))

def delete (table : Table conflicts) (selects : Row → Bool) : Table conflicts where
  rows := table.rows.filter fun row => !selects row
  admitted := table.admitted.filter _

variable {inserted table : Table conflicts} {rows : List Row}

theorem of_insert [DecidableRel conflicts] {row : Row}
    (acc : table.insert row = some inserted) :
    inserted.rows = table.rows ++ [row] ∧ ∀ other ∈ table.rows, ¬ conflicts other row := by
  unfold insert at acc
  split at acc
  · rename_i fresh
    rw [← Option.some.inj acc]
    exact ⟨rfl, fresh⟩
  · cases acc

theorem mem_of_insert [DecidableRel conflicts] {row : Row}
    (acc : table.insert row = some inserted) : row ∈ inserted.rows := by
  rw [(of_insert acc).1]
  exact mem_append_right _ (mem_singleton_self row)

theorem exists_insert [DecidableRel conflicts] (table : Table conflicts) {row : Row}
    (fresh : ∀ other ∈ table.rows, ¬ conflicts other row) :
    ∃ inserted, table.insert row = some inserted :=
  ⟨_, dif_pos fresh⟩

theorem eq_of_conflicts [Std.Symm conflicts] (table : Table conflicts) {left right : Row}
    (leftIn : left ∈ table.rows) (rightIn : right ∈ table.rows)
    (conflict : conflicts left right) : left = right := by
  by_contra ne
  have : Std.Symm fun left right => ¬ conflicts left right :=
    ⟨fun _ _ apart turned => apart (Std.Symm.symm _ _ turned)⟩
  exact table.admitted.forall leftIn rightIn ne conflict

theorem find?_of_mem [Std.Symm conflicts] (table : Table conflicts) (selects : Row → Bool)
    {row : Row} (mem : row ∈ table.rows) (sel : selects row = true)
    (unique : ∀ other, selects other = true → conflicts other row) :
    table.rows.find? selects = some row := by
  cases found : table.rows.find? selects with
  | none => exact absurd sel (List.find?_eq_none.mp found row mem)
  | some other =>
    rw [table.eq_of_conflicts (mem_of_find?_eq_some found) mem
      (unique other (List.find?_some found))]

/-! ## Several rows -/

def insertAll [DecidableRel conflicts] (table : Table conflicts) :
    List Row → Option (Table conflicts)
  | [] => some table
  | row :: rest => (table.insert row).bind fun inserted => inserted.insertAll rest

theorem of_insertAll [DecidableRel conflicts] (acc : table.insertAll rows = some inserted) :
    inserted.rows = table.rows ++ rows := by
  induction rows generalizing table with
  | nil =>
    cases acc
    exact (append_nil _).symm
  | cons row rest ih =>
    obtain ⟨grown, first, later⟩ := Option.bind_eq_some_iff.mp acc
    rw [ih later, (of_insert first).1, append_assoc]
    rfl

def Admits (table : Table conflicts) (rows : List Row) : Prop :=
  (table.rows ++ rows).Pairwise fun left right => ¬ conflicts left right

theorem admits_of_insertAll [DecidableRel conflicts]
    (acc : table.insertAll rows = some inserted) : table.Admits rows := by
  have admitted := inserted.admitted
  rw [of_insertAll acc] at admitted
  exact admitted

theorem exists_insertAll [DecidableRel conflicts] (admits : table.Admits rows) :
    ∃ inserted, table.insertAll rows = some inserted := by
  induction rows generalizing table with
  | nil => exact ⟨table, rfl⟩
  | cons row rest ih =>
    have apart := (pairwise_append.mp admits).2.2
    obtain ⟨grown, first⟩ := table.exists_insert fun other mem =>
      apart other mem row mem_cons_self
    have onward : grown.Admits rest := by
      rw [Admits, (of_insert first).1, append_assoc]
      exact admits
    obtain ⟨inserted, later⟩ := ih onward
    exact ⟨inserted, by rw [insertAll, first, Option.bind_some, later]⟩

/-! ### Rows that have to be there -/

section Missing

variable {Key : Type} [DecidableEq Key] (key : Row → Key)

/-- The wanted rows under whose key there is none yet. -/
def missing (rows wanted : List Row) : List Row :=
  wanted.filter fun row => !rows.any fun other => key other = key row

variable {rows wanted : List Row}

theorem missing_cons_of_found {row : Row}
    (found : rows.any (fun other => key other = key row) = true) :
    missing key rows (row :: wanted) = missing key rows wanted := by
  simp [missing, found]

theorem missing_cons_of_absent {row : Row}
    (absent : rows.any (fun other => key other = key row) = false) :
    missing key rows (row :: wanted) = row :: missing key rows wanted := by
  simp only [missing, filter_cons, absent, Bool.not_false, if_true]

theorem missing_append_of_apart {row : Row} (apart : ∀ other ∈ wanted, key row ≠ key other) :
    missing key (rows ++ [row]) wanted = missing key rows wanted := by
  refine filter_congr fun other mem => ?_
  simp [apart other mem]

end Missing

end Table

end Portcullis.Lib
