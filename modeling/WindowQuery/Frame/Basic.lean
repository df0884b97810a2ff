import WindowQuery.QueryError

/-!
# Frame clauses

`ROWS BETWEEN 2 PRECEDING AND CURRENT ROW` and its like, as data, with their text and the check
that their offsets can be resolved. A frame that ends before it starts is valid: it is empty.
-/

namespace WindowQuery

/-- What the offsets of a frame measure. -/
inductive FrameUnit where
  /-- Physical rows. -/
  | rows
  /-- Distance along the first ordering key. -/
  | range
  /-- Groups of rows with equal first ordering key. -/
  | groups
deriving DecidableEq, Repr

/-- The SQL keyword of a unit. -/
def FrameUnit.keyword : FrameUnit → String
  | rows => "ROWS"
  | range => "RANGE"
  | groups => "GROUPS"

/-- One end of a frame. -/
inductive Bound where
  | unboundedPreceding
  | preceding (offset : Offset)
  | currentRow
  | following (offset : Offset)
  | unboundedFollowing
deriving DecidableEq

namespace Bound

/-- The bound at a signed distance: preceding below zero, the current row at zero, following
otherwise, NaN included. -/
def ofSigned (offset : Offset) : Bound :=
  if offset.isZero then currentRow
  else if offset.isNegative then preceding offset.abs
  else following offset

/-- The offset of a bound that has one. -/
def offset? : Bound → Option Offset
  | preceding o | following o => some o
  | _ => none

/-- The bound as written. -/
def render : Bound → String
  | unboundedPreceding => "UNBOUNDED PRECEDING"
  | preceding o => s!"{o.render} PRECEDING"
  | currentRow => "CURRENT ROW"
  | following o => s!"{o.render} FOLLOWING"
  | unboundedFollowing => "UNBOUNDED FOLLOWING"

end Bound

/-- A frame clause. -/
structure Frame where
  unit : FrameUnit
  start : Bound
  stop : Bound
deriving DecidableEq

namespace Frame

/-- The frame between two signed distances. -/
def between (unit : FrameUnit) (start stop : Offset) : Frame :=
  ⟨unit, Bound.ofSigned start, Bound.ofSigned stop⟩

/-- Rows between two signed distances. -/
def rowsBetween (start stop : Int64) : Frame := between .rows (.int start) (.int stop)

/-- Rows whose order value lies between two signed distances. -/
def rangeBetween (start stop : Offset) : Frame := between .range start stop

/-- Groups between two signed distances. -/
def groupsBetween (start stop : Int64) : Frame := between .groups (.int start) (.int stop)

/-- Every row of the partition. -/
def wholePartition : Frame := ⟨.rows, .unboundedPreceding, .unboundedFollowing⟩

/-- From the first row of the partition to the current one. -/
def running : Frame := ⟨.rows, .unboundedPreceding, .currentRow⟩

/-- The clause as written, always with both of its ends. -/
def render (f : Frame) : String :=
  s!"{f.unit.keyword} BETWEEN {f.start.render} AND {f.stop.render}"

/-- The offsets of the frame, that of its start first. -/
def offsets (f : Frame) : List Offset := f.start.offset?.toList ++ f.stop.offset?.toList

end Frame

/-- The offset as a number of rows or groups. -/
def Offset.count (o : Offset) : Except QueryError Nat :=
  match o.count? with
  | some n => .ok n
  | none => .error (.invalidArgument (.notACount o))

/-- Whether an offset suits a unit: rows and groups are counted, a range is measured. -/
def Offset.check (unit : FrameUnit) (o : Offset) : Except QueryError Unit :=
  match unit with
  | .rows | .groups => o.count.map fun _ => ()
  | .range => if o.isDistance then .ok () else .error (.invalidArgument (.notADistance o))

/-- Refuses a frame whose offsets do not suit its unit. -/
def Frame.check (f : Frame) : Except QueryError Unit := f.offsets.forM (Offset.check f.unit)

end WindowQuery
