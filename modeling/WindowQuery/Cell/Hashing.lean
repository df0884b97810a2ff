import WindowQuery.Cell.Basic

/-!
# What is hashed of a cell

A cell is hashed by feeding a hasher a tag for its sort and then its value. Integers share the tag
of doubles and go in as the double they round to, so that an integer can meet the doubles it equals.
Doubles go in by their bits, except that both zeros go in as one, and every NaN as one.
-/

namespace WindowQuery

/-- One thing fed to a hasher. -/
inductive Feed where
  | byte (value : UInt8)
  | word (value : UInt64)
  | text (value : String)
deriving DecidableEq

/-- The bits that stand for a double: one pattern for NaN and one for the zeros. -/
def Binary64.hashedBits (x : Float) : UInt64 :=
  if isNaN x then nan.toBits else if isZero x then 0 else x.toBits

/-- What a cell **feeds** to a hasher. The double of an integer goes in as it is. -/
def Cell.feed : Cell → List Feed
  | null => [.byte 0]
  | int i => [.byte 1, .word (Binary64.ofInt i.toInt).toBits]
  | float x => [.byte 1, .word (Binary64.hashedBits x)]
  | text s => [.byte 2, .text s]
  | bool b => [.byte 3, .byte (if b then 1 else 0)]

end WindowQuery
