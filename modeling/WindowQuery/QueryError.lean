import WindowQuery.Frame.Offset

/-!
# What can go wrong

`QueryError` lists the ways in which reading a schema, resolving a frame or evaluating a function
fails; `Misuse` the ways in which an argument can be wrong. All wording is in the two `message`
functions.
-/

namespace WindowQuery

/-- An argument that cannot be used. -/
inductive Misuse where
  /-- A column type of an unknown name. -/
  | unknownKind (name : String)
  /-- A write past the end of a column. -/
  | rowOutOfRange (row : Nat) (column : String) (rows : Nat)
  /-- A scatter with a target past the end of a column. -/
  | targetOutOfRange (target : Nat) (column : String) (rows : Nat)
  /-- An offset that does not count rows or groups. -/
  | notACount (offset : Offset)
  /-- An offset that does not measure a distance. -/
  | notADistance (offset : Offset)
  /-- A position in the frame that counts from one was zero. -/
  | zeroPosition
  /-- Rows were to be divided into no buckets. -/
  | zeroBuckets
  | tooFewArguments (least got : Nat)
  | tooManyArguments (most got : Nat)
  /-- The misuse arose in a call of the function. -/
  | inCall (function : String) (cause : Misuse)
  | unknownFunction (name : String)
  | missingColumnArgument (function : String)
  /-- The argument at a position, counted from one, is no column name. -/
  | notAColumnName (function : String) (position : Nat) (kind : Kind)
  /-- The argument at a position, counted from one, is no integer. -/
  | notAnInteger (function : String) (position : Nat) (kind : Kind)
  /-- The argument at a position, counted from one, is below zero. -/
  | negativeArgument (function : String) (position : Nat) (value : Int64)
  /-- A misuse in the words of the one who reports it. -/
  | reported (text : String)
deriving DecidableEq

/-- A failure of a query. -/
inductive QueryError where
  | columnNotFound (name : String)
  | duplicateColumn (name : String)
  | columnLengthMismatch (column : String) (expected got : Nat)
  | unsupportedKind (function column : String) (kind : Kind)
  | nonNumericOffset (kind : Kind)
  | conversion (source target : Kind)
  | invalidArgument (cause : Misuse)
  | cancelled
deriving DecidableEq

namespace Misuse

/-- The wording of a misuse. -/
def message : Misuse → String
  | unknownKind name => s!"unknown column type '{name}'"
  | rowOutOfRange row column rows =>
    s!"row {row} out of range for column '{column}' with {rows} rows"
  | targetOutOfRange target column rows =>
    s!"scatter target {target} out of range for column '{column}' with {rows} rows"
  | notACount offset => s!"frame offset must be a non-negative integer, got {offset.render}"
  | notADistance offset =>
    s!"RANGE offset must be a non-negative finite number, got {offset.render}"
  | zeroPosition => "NTH_VALUE position must be at least 1"
  | zeroBuckets => "NTILE bucket count must be at least 1"
  | tooFewArguments least got => s!"expected at least {least} arguments, got {got}"
  | tooManyArguments most got => s!"expected at most {most} arguments, got {got}"
  | inCall function cause => s!"{function}: invalid argument: {cause.message}"
  | unknownFunction name => s!"unknown window function '{name}'"
  | missingColumnArgument function => s!"{function}: missing column argument"
  | notAColumnName function position kind =>
    s!"{function}: argument {position} must be a column name, got {kind.name}"
  | notAnInteger function position kind =>
    s!"{function}: argument {position} must be an integer, got {kind.name}"
  | negativeArgument function position value =>
    s!"{function}: argument {position} must be non-negative, got {value.toInt}"
  | reported text => text

end Misuse

namespace QueryError

/-- The wording of an error. -/
def message : QueryError → String
  | columnNotFound name => s!"column '{name}' not found"
  | duplicateColumn name => s!"duplicate column '{name}'"
  | columnLengthMismatch column expected got =>
    s!"column '{column}' has {got} rows, expected {expected}"
  | unsupportedKind function column kind =>
    s!"{function} does not support column '{column}' of type {kind.name}"
  | nonNumericOffset kind =>
    s!"RANGE offset requires a numeric ORDER BY value, got {kind.name}"
  | conversion source target =>
    s!"type conversion error: cannot convert {source.name} to {target.name}"
  | invalidArgument cause => s!"invalid argument: {cause.message}"
  | cancelled => "query cancelled"

/-- The error is about a column that does not exist. -/
def isNotFound : QueryError → Bool
  | columnNotFound _ => true
  | _ => false

/-- The error is about a value of the wrong kind. -/
def isKindError : QueryError → Bool
  | unsupportedKind .. | nonNumericOffset _ | conversion .. => true
  | _ => false

end QueryError

/-- The kind spelt by a text in any letter case. The error shows the text in upper case. -/
def Kind.ofText (s : String) : Except QueryError Kind :=
  match Kind.ofText? s with
  | some kind => .ok kind
  | none => .error (.invalidArgument (.unknownKind (Text.upper s)))

end WindowQuery
