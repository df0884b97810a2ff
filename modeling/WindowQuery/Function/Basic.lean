import WindowQuery.QueryError

/-!
# Window functions

The functions that can stand before `OVER`, each with the literal arguments it was built from:
their names, what they say about themselves, the kind of their results, and the check of their
arguments. How they are computed is in `WindowQuery.Function.Compute`.

These are the functions that come with the library. A function that users write themselves is not
among them: a registry hands out whatever its builders make (`WindowQuery.Registry`), but only the
functions here are bound to windows and evaluated. What is proved about the evaluation of every
function is therefore proved about every one of these.
-/

namespace WindowQuery

/-- How a function is listed. -/
inductive FunctionClass where
  /-- Computed over the frame of each row. -/
  | aggregate
  /-- Computed from offsets and ranks. -/
  | window
deriving DecidableEq, Repr

/-- Accepted numbers of arguments. -/
structure Arity where
  least : Nat
  most : Nat
deriving DecidableEq, Repr

/-- What is wrong with a number of arguments, if anything. -/
def Arity.misuse? (a : Arity) (count : Nat) : Option Misuse :=
  if count < a.least then some (.tooFewArguments a.least count)
  else if a.most < count then some (.tooManyArguments a.most count)
  else none

/-- Refuses a number of arguments outside the bounds. -/
def Arity.check (a : Arity) (count : Nat) : Except QueryError Unit :=
  match a.misuse? count with
  | some cause => .error (.invalidArgument cause)
  | none => .ok ()

/-- What a catalog says about a function. -/
structure FunctionInfo where
  name : String
  functionClass : FunctionClass
  description : String
  arity : Arity
deriving DecidableEq, Repr

/-- Aggregates of a numeric column. -/
inductive Aggregate where
  | sum
  | avg
  | min
  | max
deriving DecidableEq, Repr

/-- Rankings by groups of tied rows. -/
inductive Ranking where
  | rank
  | denseRank
  | percentRank
  | cumeDist
deriving DecidableEq, Repr

/-- A window function of the library with its arguments. Functions written by users are left out. -/
inductive Function where
  | aggregate (kind : Aggregate) (column : String)
  /-- Counts the cells of a column that are not NULL. -/
  | count (column : String)
  /-- Counts rows. -/
  | countRows
  | lag (column : String) (offset : Nat) (default : Cell)
  | lead (column : String) (offset : Nat) (default : Cell)
  | firstValue (column : String)
  | lastValue (column : String)
  /-- The value at a place in the frame, counted from one. -/
  | nthValue (column : String) (place : Nat)
  | rowNumber
  | ranking (kind : Ranking)
  | ntile (buckets : Nat)
deriving DecidableEq

namespace Aggregate

/-- The lower-case name, which is also that of result columns. -/
def name : Aggregate → String
  | sum => "sum"
  | avg => "avg"
  | min => "min"
  | max => "max"

/-- What a catalog prints about an aggregate. -/
def description : Aggregate → String
  | sum => "Returns the sum of the non-NULL values in the frame"
  | avg => "Returns the average of the values in the frame"
  | min => "Returns the minimum non-NULL value in the frame"
  | max => "Returns the maximum non-NULL value in the frame"

/-- Averages are doubles; the others keep the kind of the column. -/
def resultKind (a : Aggregate) (input : Kind) : Kind :=
  match a with
  | avg => .float64
  | sum | min | max => input

end Aggregate

namespace Ranking

/-- The lower-case name, which is also that of result columns. -/
def name : Ranking → String
  | rank => "rank"
  | denseRank => "dense_rank"
  | percentRank => "percent_rank"
  | cumeDist => "cume_dist"

/-- What a catalog prints about a ranking. -/
def description : Ranking → String
  | rank => "Returns the rank of the current row within the partition, with gaps for ties"
  | denseRank => "Returns the rank of the current row within the partition, without gaps"
  | percentRank => "Returns the relative rank of the current row: (rank - 1) / (rows - 1)"
  | cumeDist => "Returns the cumulative distribution of the current row"

/-- Ranks are integers; shares of the partition are doubles. -/
def resultKind : Ranking → Kind
  | rank | denseRank => .int64
  | percentRank | cumeDist => .float64

end Ranking

namespace Function

/-- The lower-case name of a function. -/
def name : Function → String
  | aggregate a _ => a.name
  | count _ | countRows => "count"
  | lag .. => "lag"
  | lead .. => "lead"
  | firstValue _ => "first_value"
  | lastValue _ => "last_value"
  | nthValue .. => "nth_value"
  | rowNumber => "row_number"
  | ranking r => r.name
  | ntile _ => "ntile"

/-- What a function says about itself. -/
def info : Function → FunctionInfo
  | aggregate a _ => ⟨a.name, .aggregate, a.description, ⟨1, 1⟩⟩
  | count _ =>
    ⟨"count", .aggregate, "Returns the number of non-NULL values in the frame", ⟨1, 1⟩⟩
  | countRows => ⟨"count", .aggregate, "Returns the number of rows in the frame", ⟨0, 0⟩⟩
  | lag .. =>
    ⟨"lag", .window, "Returns the value from a row that is offset rows before the current row",
      ⟨1, 3⟩⟩
  | lead .. =>
    ⟨"lead", .window, "Returns the value from a row that is offset rows after the current row",
      ⟨1, 3⟩⟩
  | firstValue _ => ⟨"first_value", .window, "Returns the first value of the partition", ⟨1, 1⟩⟩
  | lastValue _ => ⟨"last_value", .window, "Returns the last value of the partition", ⟨1, 1⟩⟩
  | nthValue .. =>
    ⟨"nth_value", .window, "Returns the value of the n-th row of the frame", ⟨2, 2⟩⟩
  | rowNumber =>
    ⟨"row_number", .window, "Returns the sequential number of a row within its partition",
      ⟨0, 0⟩⟩
  | ranking r => ⟨r.name, .window, r.description, ⟨0, 0⟩⟩
  | ntile _ => ⟨"ntile", .window, "Divides the partition into n ranked groups", ⟨1, 1⟩⟩

/-- The column a function reads, if any. -/
def inputColumn? : Function → Option String
  | aggregate _ c | count c | firstValue c | lastValue c => some c
  | lag c _ _ | lead c _ _ => some c
  | nthValue c _ => some c
  | countRows | rowNumber | ranking _ | ntile _ => none

/-- The arguments as written between the parentheses. -/
def arguments : Function → List String
  | lag c offset default | lead c offset default => [c, toString offset, default.render]
  | nthValue c place => [c, toString place]
  | ntile buckets => [toString buckets]
  | countRows => ["*"]
  | fn => fn.inputColumn?.toList

/-- The call as written, `sum(amount)` or `row_number()`. -/
def call (fn : Function) : String :=
  fn.name ++ "(" ++ String.intercalate ", " fn.arguments ++ ")"

/-- The kind of the result for an input column of a kind, which is NULL when there is none. -/
def resultKind (fn : Function) (input : Kind) : Kind :=
  match fn with
  | aggregate a _ => a.resultKind input
  | lag .. | lead .. | firstValue _ | lastValue _ | nthValue .. => input
  | count _ | countRows | rowNumber | ntile _ => .int64
  | ranking r => r.resultKind

/-- Whether the result depends on the frame. -/
def usesFrame : Function → Bool
  | aggregate .. | count _ | countRows | nthValue .. => true
  | _ => false

/-- Refuses arguments that no partition could be computed with. -/
def check : Function → Except QueryError Unit
  | nthValue _ 0 => .error (.invalidArgument .zeroPosition)
  | ntile 0 => .error (.invalidArgument .zeroBuckets)
  | _ => .ok ()

end Function

end WindowQuery
