import WindowQuery.Frame.Basic

/-!
# Window clauses

The `OVER (…)` clause: partition columns, ordering keys and an optional frame.
-/

namespace WindowQuery

/-- An ordering key: a column and a direction. -/
structure SortKey where
  column : String
  ascending : Bool
deriving DecidableEq, Repr

/-- The ascending direction is not written. -/
def SortKey.render (k : SortKey) : String :=
  if k.ascending then k.column else s!"{k.column} DESC"

/-- A window clause. -/
structure Window where
  partitionBy : List String := []
  orderBy : List SortKey := []
  frame? : Option Frame := none
deriving DecidableEq

namespace Window

/-! ### Building a window -/

/-- Adds partition columns. -/
def partitioned (w : Window) (columns : List String) : Window :=
  { w with partitionBy := w.partitionBy ++ columns }

/-- Adds an ordering key behind the others. -/
def ordered (w : Window) (column : String) (ascending : Bool) : Window :=
  { w with orderBy := w.orderBy ++ [⟨column, ascending⟩] }

/-- Replaces the frame. -/
def framed (w : Window) (frame : Frame) : Window := { w with frame? := some frame }

/-! ### Reading a window -/

/-- Whether the clause names an ordering key. -/
def isOrdered (w : Window) : Bool := !w.orderBy.isEmpty

/-- Whether the clause names a partition column. -/
def isPartitioned (w : Window) : Bool := !w.partitionBy.isEmpty

/-- The clause is `OVER ()`. -/
def isEmpty (w : Window) : Bool := w.partitionBy.isEmpty && w.orderBy.isEmpty && w.frame?.isNone

/-- The frame of a clause that names none: running when rows are ordered, else the whole
partition. -/
def defaultFrame (w : Window) : Frame := if w.isOrdered then Frame.running else Frame.wholePartition

/-- The frame in force. -/
def frame (w : Window) : Frame := w.frame?.getD w.defaultFrame

/-- Refuses an explicit frame whose offsets do not suit its unit. -/
def check (w : Window) : Except QueryError Unit :=
  match w.frame? with
  | some frame => frame.check
  | none => .ok ()

/-- The clause without its parentheses. -/
def render (w : Window) : String :=
  let partitions :=
    if w.isPartitioned then ["PARTITION BY " ++ String.intercalate ", " w.partitionBy] else []
  let orders :=
    if w.isOrdered then ["ORDER BY " ++ String.intercalate ", " (w.orderBy.map SortKey.render)]
    else []
  String.intercalate " " (partitions ++ orders ++ (w.frame?.map Frame.render).toList)

end Window

end WindowQuery
