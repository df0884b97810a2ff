import WindowQuery.Text.Case

/-!
# Kinds of columns

The declared kind of a column, its SQL name, and the names it can be read from.
-/

namespace WindowQuery

/-- What the cells of a column hold. `null` is the kind of what has no column at all. -/
inductive Kind where
  | null
  | int32
  | int64
  | float64
  | text
  | boolean
deriving DecidableEq, Repr

namespace Kind

/-- All kinds, in declaration order. -/
def all : List Kind := [null, int32, int64, float64, text, boolean]

theorem mem_all (k : Kind) : k ∈ all := by cases k <;> decide

/-- The SQL name of a kind. -/
def name : Kind → String
  | null => "NULL"
  | int32 => "INT32"
  | int64 => "INT64"
  | float64 => "FLOAT64"
  | text => "TEXT"
  | boolean => "BOOLEAN"

/-- Whether cells of the kind are integers. -/
def isInteger : Kind → Bool
  | int32 | int64 => true
  | _ => false

/-- Whether cells of the kind are numbers. -/
def isNumeric : Kind → Bool
  | int32 | int64 | float64 => true
  | _ => false

/-- Every upper-case spelling of a kind. -/
def spellings : List (String × Kind) :=
  [("NULL", null),
    ("INT32", int32), ("INT", int32), ("INTEGER", int32),
    ("INT64", int64), ("BIGINT", int64),
    ("FLOAT64", float64), ("FLOAT", float64), ("DOUBLE", float64),
    ("TEXT", text), ("VARCHAR", text), ("STRING", text),
    ("BOOLEAN", boolean), ("BOOL", boolean)]

/-- The kind spelt by a text in any letter case. -/
def ofText? (s : String) : Option Kind := spellings.lookup (Text.upper s)

end Kind

end WindowQuery
