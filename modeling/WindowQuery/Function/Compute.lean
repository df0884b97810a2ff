import WindowQuery.Column.Write
import WindowQuery.Function.Basic
import WindowQuery.Function.Numeric
import WindowQuery.View.Frame

/-!
# Computing functions over a view

`Function.compute` evaluates a function over one ordered partition. The result is a column named
after the function with one cell per slot: what a function makes of logical position `p` stands
at slot `v.slotAt p`.
-/

namespace WindowQuery

namespace View

/-- Lays one value per logical position out by slot. -/
def layout (v : View) (values : List α) : Array (Option α) :=
  (v.slots.toList.zip values).foldl (fun out (slot, a) => out.setIfInBounds slot (some a))
    (Array.replicate v.size none)

/-- The frames of all positions. Fails at the first position whose frame cannot be resolved. -/
def frames (v : View) (f : Frame) : Except QueryError (List Span) :=
  v.positions.mapM fun p => v.frameAt p f

/-- Visits the positions in order and writes the cell given for each to its slot; a position
that is given none keeps NULL. Fails at the first position that gives an error or a cell that
does not fit. -/
def fill (v : View) (name : String) (kind : Kind)
    (cellFor : Nat → Except QueryError (Option Cell)) : Except QueryError Column :=
  v.positions.foldlM
    (fun out p => do
      match ← cellFor p with
      | some c => out.set (v.slotAt p) c
      | none => return out)
    (Column.nulls name kind v.size)

end View

/-! ### Aggregates -/

/-- The numbers of a column along the logical positions. -/
def View.numbers {α : Type} [Numeric α] (v : View) (s : Source) : Array (Option α) :=
  (v.positions.map fun p => Numeric.ofCell? (v.cellAt s p)).toArray

/-- An aggregate over numbers of one type. -/
def Aggregate.storageOf (a : Aggregate) {α : Type} [Numeric α] (v : View) (values : Array (Option α))
    (spans : List Span) : Storage :=
  match a with
  | .sum => Numeric.storage (v.layout (Numeric.spanSums values spans))
  | .avg => .float64 (v.layout (Numeric.spanAverages values spans))
  | .min => Numeric.storage (v.layout (Numeric.spanLeasts values spans))
  | .max => Numeric.storage (v.layout (Numeric.spanGreatests values spans))

/-- An aggregate over the frames of a view, with numbers of one type. -/
def Aggregate.computeOver (a : Aggregate) (α : Type) [Numeric α] (source : Source) (v : View)
    (f : Frame) : Except QueryError Column := do
  let spans ← v.frames f
  return ⟨a.name, a.storageOf v (v.numbers source : Array (Option α)) spans⟩

/-- An aggregate over the frames of a view, with the numbers of the declared kind of the column.
A column of any other kind is refused before its frames are resolved. -/
def Aggregate.compute (a : Aggregate) (column : String) (v : View) (f : Frame) :
    Except QueryError Column := do
  let source ← v.partition.table.column column
  match source.kind with
  | .int32 => a.computeOver Int32 source v f
  | .int64 => a.computeOver Int64 source v f
  | .float64 => a.computeOver Float source v f
  | kind => .error (.unsupportedKind a.name column kind)

/-- How many of the first positions hold a value, for every number of positions. -/
def countsFrom (seen : Nat) : List Bool → List Nat
  | [] => [seen]
  | isNull :: rest => seen :: countsFrom (if isNull then seen else seen + 1) rest

/-- The cells that are not NULL in each frame, by differences of running counts. -/
def View.countCells (v : View) (source : Source) (f : Frame) : Except QueryError Column := do
  let counts := (countsFrom 0 (v.positions.map fun p => source.isNull (v.rowAt p))).toArray
  let spans ← v.frames f
  let inSpan (s : Span) : Int64 :=
    Int64.ofNat (counts[s.stop]?.getD 0 - counts[s.start]?.getD 0)
  return ⟨"count", .int64 (v.layout (spans.map inSpan))⟩

/-- The rows in each frame. -/
def View.countRows (v : View) (f : Frame) : Except QueryError Column := do
  let spans ← v.frames f
  return ⟨"count", .int64 (v.layout (spans.map fun s => Int64.ofNat s.size))⟩

/-! ### Values at other positions -/

/-- The position some rows before another. -/
def View.before? (p offset : Nat) : Option Nat := if offset ≤ p then some (p - offset) else none

/-- The position some rows after another, inside the view. -/
def View.after? (v : View) (p offset : Nat) : Option Nat :=
  if p + offset < v.size then some (p + offset) else none

/-- The cell of a column at another position, or the default where there is no such position. -/
def View.shifted (v : View) (name column : String) (default : Cell) (target : Nat → Option Nat) :
    Except QueryError Column := do
  let source ← v.partition.table.column column
  v.fill name source.kind fun p =>
    match target p with
    | some q => .ok (some (v.cellAt source q))
    | none => .ok (some default)

/-- The cell of a column at one position, for every position. -/
def View.constant (v : View) (name column : String) (target : Nat) : Except QueryError Column := do
  let source ← v.partition.table.column column
  v.fill name source.kind fun _ => .ok (some (v.cellAt source target))

/-- The cell of a column at a place in the frame of each position, counted from one, and NULL
where the frame ends before it. -/
def View.nth (v : View) (column : String) (place : Nat) (f : Frame) :
    Except QueryError Column := do
  let source ← v.partition.table.column column
  v.fill "nth_value" source.kind fun p => do
    let span ← v.frameAt p f
    let target := span.start + (place - 1)
    return if target < span.stop then some (v.cellAt source target) else none

/-! ### Ranks -/

/-- A value for each position that depends on its group of ties only: on the number of the group
and on its span. -/
def View.byTies (v : View) (f : Nat → Span → α) : List α :=
  v.positions.map fun p =>
    let group := v.ties.indexOf p
    f group (v.ties.span group)

/-- A ranking over a view. -/
def Ranking.storageOf (r : Ranking) (v : View) : Storage :=
  match r with
  | .rank => .int64 (v.layout (v.byTies fun _ span => Int64.ofNat (span.start + 1)))
  | .denseRank => .int64 (v.layout (v.byTies fun group _ => Int64.ofNat (group + 1)))
  | .percentRank =>
    .float64 (v.layout (v.byTies fun _ span =>
      if v.size ≤ 1 then 0
      else Binary64.ofNat span.start / Binary64.ofNat (v.size - 1)))
  | .cumeDist =>
    .float64 (v.layout (v.byTies fun _ span =>
      Binary64.ofNat span.stop / Binary64.ofNat v.size))

/-- The bucket of a position, counted from one, when `rows` positions are divided into as many
buckets: the first `rows % buckets` of them take one row more than the others. -/
def bucketOf (buckets rows p : Nat) : Nat :=
  let base := rows / buckets
  let extra := rows % buckets
  let large := extra * (base + 1)
  if p < large then p / (base + 1) + 1 else extra + (p - large) / base + 1

/-! ### All functions -/

/-- A function over an ordered partition. -/
def Function.compute (fn : Function) (v : View) (f : Frame) : Except QueryError Column :=
  match fn with
  | .aggregate a column => a.compute column v f
  | .count column => do
    let source ← v.partition.table.column column
    v.countCells source f
  | .countRows => v.countRows f
  | .lag column offset default =>
    v.shifted "lag" column default fun p => View.before? p offset
  | .lead column offset default =>
    v.shifted "lead" column default fun p => v.after? p offset
  | .firstValue column => v.constant "first_value" column 0
  | .lastValue column => v.constant "last_value" column (v.size - 1)
  | .nthValue column place => do
    fn.check
    v.nth column place f
  | .rowNumber =>
    .ok ⟨"row_number", .int64 (v.layout (v.positions.map fun p => Int64.ofNat (p + 1)))⟩
  | .ranking r => .ok ⟨r.name, r.storageOf v⟩
  | .ntile buckets => do
    fn.check
    let tiles := v.positions.map fun p => Int64.ofNat (bucketOf buckets v.size p)
    return ⟨"ntile", .int64 (v.layout tiles)⟩

end WindowQuery
