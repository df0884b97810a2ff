import WindowQuery.Expression
import WindowQuery.Function.Compute
import WindowQuery.Schedule
import WindowQuery.View.Sort

/-!
# Evaluating expressions

One pass over a table: split the rows into partitions, order each and compute the function over
it, and scatter the results back to the rows they belong to. The result column has one cell per
row of the table.

A pass fails with the error of the first step that fails: the check of the expression,
cancellation, the input column, the partition columns, and then the partitions in order.
-/

namespace WindowQuery

namespace Expression

/-- The expression over one partition: a column with one cell per row given. -/
def overRows (e : Expression) (schedule : Schedule) (t : Table) (rows : Array Nat) :
    Except QueryError Column := do
  let view ← Partition.sort ⟨t, rows⟩ e.window.orderBy schedule.sortThreshold
  e.function.compute view e.window.frame

end Expression

/-- Scatters results of partitions over a column, in order. -/
def Column.gather (out : Column) : List (Array Nat × Column) → Except QueryError Column
  | [] => .ok out
  | (rows, segment) :: rest =>
    match out.scatter segment rows.toList with
    | (out, .ok ()) => out.gather rest
    | (_, .error e) => .error e

namespace Expression

/-- The **value** of an expression over a table. -/
def evaluate (e : Expression) (schedule : Schedule) (cancelled : Bool) (t : Table) :
    Except QueryError Column := do
  e.check
  if cancelled then throw .cancelled
  let kind ← e.outputKind t
  let partitions ← t.partitions e.window.partitionBy
  let segments ← partitions.mapM fun rows => do
    let segment ← e.overRows schedule t rows
    return (rows, segment)
  (Column.nulls e.displayName kind t.rows).gather segments

end Expression

/-- Appends the values of several expressions to a table. Each is evaluated over the table as
given, so none sees the columns of the others. -/
def Table.evaluateAll (t : Table) (schedule : Schedule) (cancelled : Bool)
    (expressions : List Expression) : Except QueryError Table :=
  expressions.foldlM
    (fun out e => do
      let column ← e.evaluate schedule cancelled t
      out.add (.typed column))
    t

/-! ### What a pass logs -/

/-- How urgent a line of the log is. -/
inductive LogLevel where
  | debug
  | warn
deriving DecidableEq, Repr

/-- A line of the log. -/
structure LogRecord where
  level : LogLevel
  message : String
deriving DecidableEq, Repr

/-- The level as it is written in front of a message. -/
def LogLevel.name : LogLevel → String
  | debug => "DEBUG"
  | warn => "WARN"

/-- The level and the message. -/
def LogRecord.render (r : LogRecord) : String := s!"{r.level.name} {r.message}"

namespace Expression

/-- The warning about a RANGE or GROUPS frame that has no order to refer to. -/
def frameWarning? (e : Expression) : Option LogRecord :=
  let unit := e.window.frame.unit
  if unit ≠ .rows ∧ e.window.isOrdered = false ∧ e.function.usesFrame = true then
    some ⟨.warn,
      s!"{unit.keyword} frame without ORDER BY in '{e.render}'; using the whole partition"⟩
  else none

/-- The record of the size of a pass and how it is carried out. -/
def passRecord (e : Expression) (schedule : Schedule) (rows partitions : Nat) : LogRecord :=
  let mode := if schedule.isParallel rows partitions then "parallel" else "sequential"
  ⟨.debug, s!"window pass '{e.render}': {rows} rows, {partitions} partitions, {mode}"⟩

/-- The records that evaluating the expression leaves: none if it fails before its frame is
looked at, and only the warning if its partition columns are missing. -/
def trace (e : Expression) (schedule : Schedule) (cancelled : Bool) (t : Table) : List LogRecord :=
  if e.check.isOk && !cancelled && (e.outputKind t).isOk then
    e.frameWarning?.toList ++
      match t.partitions e.window.partitionBy with
      | .ok partitions => [e.passRecord schedule t.rows partitions.length]
      | .error _ => []
  else []

end Expression

/-- The records that evaluating several expressions leaves, up to the first that fails. -/
def Table.traceAll (t : Table) (schedule : Schedule) (cancelled : Bool) (out : Table) :
    List Expression → List LogRecord
  | [] => []
  | e :: rest =>
    e.trace schedule cancelled t ++
      match (e.evaluate schedule cancelled t).bind fun column => out.add (.typed column) with
      | .ok out => t.traceAll schedule cancelled out rest
      | .error _ => []

end WindowQuery
