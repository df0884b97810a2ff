import WindowQuery.Column.Basic

/-!
# Writing into columns

`Column.set` writes one cell and either succeeds or leaves the column alone. `Column.setAll`
performs writes in order up to the first that fails, and `Column.scatter` spreads the rows of a
segment over a column. Both return the column as they leave it beside what became of the request,
because a scatter that fails may have written some rows.
-/

namespace WindowQuery

namespace Storage

/-- The 32-bit integer of the same value, if there is one. -/
def narrow? (i : Int64) : Option Int32 :=
  if Int32.minValue.toInt ≤ i.toInt ∧ i.toInt ≤ Int32.maxValue.toInt then some i.toInt32 else none

/-- Writes a cell to a row inside the storage, if the cell **fits**: NULL fits everywhere, an
integer fits every numeric kind in whose range it lies, and any other cell only its own kind. -/
def put (s : Storage) (row : Nat) (c : Cell) : Except QueryError Storage :=
  match s, c with
  | int32 v, .null => .ok (int32 (v.setIfInBounds row none))
  | int64 v, .null => .ok (int64 (v.setIfInBounds row none))
  | float64 v, .null => .ok (float64 (v.setIfInBounds row none))
  | text v, .null => .ok (text (v.setIfInBounds row none))
  | boolean v, .null => .ok (boolean (v.setIfInBounds row none))
  | int32 v, .int i =>
    match narrow? i with
    | some n => .ok (int32 (v.setIfInBounds row (some n)))
    | none => .error (.conversion .int64 .int32)
  | int64 v, .int i => .ok (int64 (v.setIfInBounds row (some i)))
  | float64 v, .int i => .ok (float64 (v.setIfInBounds row (some (Binary64.ofInt i.toInt))))
  | float64 v, .float x => .ok (float64 (v.setIfInBounds row (some x)))
  | text v, .text t => .ok (text (v.setIfInBounds row (some t)))
  | boolean v, .bool b => .ok (boolean (v.setIfInBounds row (some b)))
  | s, c => .error (.conversion c.kind s.kind)

theorem kind_put {s t : Storage} {row : Nat} {c : Cell} (h : s.put row c = .ok t) :
    t.kind = s.kind := by
  cases s <;> cases c <;> simp only [put] at h <;> try split at h
  all_goals first | cases h; rfl | cases h

theorem size_put {s t : Storage} {row : Nat} {c : Cell} (h : s.put row c = .ok t) :
    t.size = s.size := by
  cases s <;> cases c <;> simp only [put] at h <;> try split at h
  all_goals first | (cases h; simp [size]) | cases h

/-- Copies the values of an array to target rows, in order. -/
def copyTo (values source : Array (Option α)) (targets : List Nat) : Array (Option α) :=
  (targets.zip source.toList).foldl (fun out (row, v) => out.setIfInBounds row v) values

/-- Copies storage of the same kind to target rows without looking at the cells. Storage of
another kind leaves everything as it is. -/
def copy (s source : Storage) (targets : List Nat) : Storage :=
  match s, source with
  | int32 v, int32 w => int32 (copyTo v w targets)
  | int64 v, int64 w => int64 (copyTo v w targets)
  | float64 v, float64 w => float64 (copyTo v w targets)
  | text v, text w => text (copyTo v w targets)
  | boolean v, boolean w => boolean (copyTo v w targets)
  | s, _ => s

end Storage

namespace Column

/-- Writes a cell to a row. Fails on a row past the end and on a cell that does not fit. -/
def set (c : Column) (row : Nat) (value : Cell) : Except QueryError Column :=
  if c.size ≤ row then .error (.invalidArgument (.rowOutOfRange row c.name c.size))
  else
    let ⟨name, storage⟩ := c
    (storage.put row value).map (Column.mk name)

/-- A write that succeeds went to a row of the column, and put a cell that fits there. -/
theorem set_eq_ok_iff {c d : Column} {row : Nat} {value : Cell} :
    c.set row value = .ok d ↔
      row < c.size ∧ d.name = c.name ∧ c.storage.put row value = .ok d.storage := by
  obtain ⟨name, storage⟩ := c
  obtain ⟨name', storage'⟩ := d
  unfold set
  split
  case isTrue h => simp only [reduceCtorEq, false_iff, not_and]; omega
  case isFalse h =>
    have hrow : row < (Column.mk name storage).size := Nat.lt_of_not_le h
    change (storage.put row value).map (Column.mk name) = _ ↔ _
    cases storage.put row value with
    | error e => simp [Except.map]
    | ok t => simp [Except.map, hrow, eq_comm]

theorem name_set {c d : Column} {row : Nat} {value : Cell} (h : c.set row value = .ok d) :
    d.name = c.name := (set_eq_ok_iff.1 h).2.1

theorem kind_set {c d : Column} {row : Nat} {value : Cell} (h : c.set row value = .ok d) :
    d.kind = c.kind := Storage.kind_put (set_eq_ok_iff.1 h).2.2

theorem size_set {c d : Column} {row : Nat} {value : Cell} (h : c.set row value = .ok d) :
    d.size = c.size := Storage.size_put (set_eq_ok_iff.1 h).2.2

/-- Performs writes in order up to the first that fails. The writes before it stay. -/
def setAll (c : Column) : List (Nat × Cell) → Column × Except QueryError Unit
  | [] => (c, .ok ())
  | (row, value) :: rest =>
    match c.set row value with
    | .ok c' => c'.setAll rest
    | .error e => (c, .error e)

/-- Writes row `k` of the segment to the `k`-th target, for every `k`. Lengths and targets are
checked before anything is written; a segment of the same kind is then copied as it is, any other
cell by cell. -/
def scatter (c segment : Column) (targets : List Nat) : Column × Except QueryError Unit :=
  if segment.size ≠ targets.length then
    (c, .error (.columnLengthMismatch segment.name targets.length segment.size))
  else
    match targets.find? fun target => decide (c.size ≤ target) with
    | some target => (c, .error (.invalidArgument (.targetOutOfRange target c.name c.size)))
    | none =>
      if segment.kind = c.kind then
        let ⟨name, storage⟩ := c
        (⟨name, storage.copy segment.storage targets⟩, .ok ())
      else c.setAll (targets.zip segment.cells)

end Column

end WindowQuery
