import TemplateVars.Saved.Collection

/-!
# Row differences

What changes between the variables of two sets, row by row. A row counts as
changed when its text or its parse-on-load flag differs.
-/

namespace TemplateVars

/-- The row writes that turn one set's variables into another's. -/
structure RowDiff where
  inserts : SortedMap String Variable
  updates : SortedMap String Variable
  deletes : SortedMap String Unit
  deriving DecidableEq

namespace RowDiff

/-- The row writes between two sets. -/
def between (old new : VariableSet) : RowDiff where
  inserts := new.vars.filter fun name _ => !old.vars.contains name
  updates := new.vars.filter fun name v =>
    (old.vars.find? name).any fun stored => stored != v
  deletes := (old.vars.filter fun name _ => !new.vars.contains name).map fun _ => ()

/-- The number of rows written. -/
def total (d : RowDiff) : Nat := d.inserts.size + d.updates.size + d.deletes.size

/-- Whether no row is written. -/
def isEmpty (d : RowDiff) : Bool := d.total == 0

/-- Write the rows of a difference: deletes first. -/
def applyTo (d : RowDiff) (rows : SortedMap String Variable) : SortedMap String Variable :=
  let kept := d.deletes.keys.foldl (·.erase ·) rows
  (d.inserts.toList ++ d.updates.toList).foldl (fun rows e => rows.insert e.1 e.2) kept

end RowDiff

end TemplateVars
