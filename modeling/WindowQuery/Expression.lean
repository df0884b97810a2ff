import WindowQuery.Function.Basic
import WindowQuery.Table.Basic
import WindowQuery.Window

/-!
# Window expressions

A function bound to a window clause, with an optional alias: `sum(v) OVER (ORDER BY k) AS total`.
-/

namespace WindowQuery

/-- A function over a window. It is one of the functions of the library; an expression over a
function that a user has written is not modelled. -/
structure Expression where
  function : Function
  window : Window
  alias? : Option String := none
deriving DecidableEq

namespace Expression

/-- The name of the result column: the alias, else the name of the function. -/
def displayName (e : Expression) : String := e.alias?.getD e.function.name

/-- The expression as written. -/
def render (e : Expression) : String :=
  let clause := s!"{e.function.call} OVER ({e.window.render})"
  match e.alias? with
  | some name => s!"{clause} AS {name}"
  | none => clause

/-- The kind of the result over a table. Fails if the input column is missing. -/
def outputKind (e : Expression) (t : Table) : Except QueryError Kind := do
  match e.function.inputColumn? with
  | some name =>
    let source ← t.column name
    return e.function.resultKind source.kind
  | none => return e.function.resultKind .null

/-- Refuses frame offsets, then function arguments, that can never be evaluated. -/
def check (e : Expression) : Except QueryError Unit := do
  e.window.check
  e.function.check

end Expression

end WindowQuery
