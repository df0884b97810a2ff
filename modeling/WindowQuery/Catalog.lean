import WindowQuery.Registry

/-!
# The catalog of functions

The functions of the library, as they are built from a name and literal arguments: column names are
text cells, counts and offsets integer cells.

`Catalog.builtin` holds every function. More can be registered under other names, or in the place of
these.
-/

namespace WindowQuery

/-- A registry of functions. -/
abbrev Catalog := Registry Function

namespace Catalog

/-- The catalog without functions. -/
def empty : Catalog := Registry.empty

/-! ### Reading arguments -/

/-- The argument at an index as a column name. -/
def columnArgument (function : String) (arguments : List Cell) (i : Nat) :
    Except QueryError String :=
  match arguments[i]? with
  | some (.text column) => .ok column
  | some other => .error (.invalidArgument (.notAColumnName function (i + 1) other.kind))
  | none => .error (.invalidArgument (.missingColumnArgument function))

/-- The argument at an index as a count, or the default where there is none. -/
def countArgument (function : String) (arguments : List Cell) (i default : Nat) :
    Except QueryError Nat :=
  match arguments[i]? with
  | none => .ok default
  | some (.int value) =>
    if 0 ≤ value.toInt then .ok value.toInt.toNat
    else .error (.invalidArgument (.negativeArgument function (i + 1) value))
  | some other => .error (.invalidArgument (.notAnInteger function (i + 1) other.kind))

/-! ### The functions of the library -/

/-- A function whose only argument is a column name. -/
def ofColumn (make : String → Function) : Registration Function :=
  let info := (make "x").info
  { info
    build := fun arguments => do
      let column ← columnArgument info.name arguments 0
      return make column }

/-- A function without arguments. -/
def ofNothing (function : Function) : Registration Function :=
  ⟨function.info, fun _ => .ok function⟩

/-- `count` of nothing or of a star counts rows, of a column its cells. -/
def count : Registration Function where
  info := ⟨"count", .aggregate,
    "Returns the number of rows, or of non-NULL values of a column, in the frame", ⟨0, 1⟩⟩
  build arguments :=
    match arguments with
    | [] => .ok .countRows
    | .text "*" :: _ => .ok .countRows
    | _ => do
      let column ← columnArgument "count" arguments 0
      return .count column

/-- A function of a column, an offset that is one by default, and a default value that is NULL by
default. -/
def ofShift (make : String → Nat → Cell → Function) : Registration Function :=
  let info := (make "x" 1 .null).info
  { info
    build := fun arguments => do
      let column ← columnArgument info.name arguments 0
      let offset ← countArgument info.name arguments 1 1
      return make column offset (arguments[2]?.getD .null) }

/-- `nth_value` of a column and a place that counts from one. The arity asks for both, so the
place that stands in for a missing one is never seen. -/
def nthValue : Registration Function where
  info := (Function.nthValue "x" 1).info
  build arguments := do
    let column ← columnArgument "nth_value" arguments 0
    let place ← countArgument "nth_value" arguments 1 0
    if place = 0 then .error (.invalidArgument .zeroPosition) else .ok (.nthValue column place)

/-- `ntile` of a number of buckets, at least one. -/
def ntile : Registration Function where
  info := (Function.ntile 1).info
  build arguments := do
    let buckets ← countArgument "ntile" arguments 0 0
    if buckets = 0 then .error (.invalidArgument .zeroBuckets) else .ok (.ntile buckets)

/-- The functions of the library, in the order in which they are registered. -/
def library : List (Registration Function) :=
  [ofColumn (.aggregate .sum),
    ofColumn (.aggregate .avg),
    ofColumn (.aggregate .min),
    ofColumn (.aggregate .max),
    count,
    ofShift .lag,
    ofShift .lead,
    ofColumn .firstValue,
    ofColumn .lastValue,
    nthValue,
    ofNothing .rowNumber,
    ofNothing (.ranking .rank),
    ofNothing (.ranking .denseRank),
    ofNothing (.ranking .percentRank),
    ofNothing (.ranking .cumeDist),
    ntile]

/-- Every function of the library. -/
def builtin : Catalog := empty.registerAll library

end Catalog

end WindowQuery
