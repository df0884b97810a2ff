import WindowQuery.Column.Write

/-!
# Writing in place

`Column.setInPlace` works on a column that is there already: it looks at the row, then at the cell,
and at last puts a value into the array of the column. Whatever it has done to the column by the
time it fails would stay, so it answers with the column as it leaves it.
-/

namespace WindowQuery.Column

/-- Writes a cell to a row in place. An integer is narrowed before anything is put where 32 bits are
stored. -/
def setInPlace (c : Column) (row : Nat) (value : Cell) : Column × Except QueryError Unit := Id.run do
  let mut c := c
  let rows := c.size
  if rows ≤ row then
    return (c, .error (.invalidArgument (.rowOutOfRange row c.name rows)))
  let mismatch := QueryError.conversion value.kind c.kind
  match c.storage, value with
  | .int32 v, .null => c := { c with storage := .int32 (v.setIfInBounds row none) }
  | .int64 v, .null => c := { c with storage := .int64 (v.setIfInBounds row none) }
  | .float64 v, .null => c := { c with storage := .float64 (v.setIfInBounds row none) }
  | .text v, .null => c := { c with storage := .text (v.setIfInBounds row none) }
  | .boolean v, .null => c := { c with storage := .boolean (v.setIfInBounds row none) }
  | .int32 v, .int i =>
    let some n := Storage.narrow? i | return (c, .error mismatch)
    c := { c with storage := .int32 (v.setIfInBounds row (some n)) }
  | .int64 v, .int i => c := { c with storage := .int64 (v.setIfInBounds row (some i)) }
  | .float64 v, .int i =>
    c := { c with storage := .float64 (v.setIfInBounds row (some (Binary64.ofInt i.toInt))) }
  | .float64 v, .float x => c := { c with storage := .float64 (v.setIfInBounds row (some x)) }
  | .text v, .text t => c := { c with storage := .text (v.setIfInBounds row (some t)) }
  | .boolean v, .bool b => c := { c with storage := .boolean (v.setIfInBounds row (some b)) }
  | _, _ => return (c, .error mismatch)
  return (c, .ok ())

end WindowQuery.Column
