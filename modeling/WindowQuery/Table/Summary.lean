import WindowQuery.Table.Basic
import WindowQuery.Text.Quoted

/-!
# Tables in one line

A short text that names the columns of a table and counts its rows, for logs and messages.
-/

namespace WindowQuery

/-- The columns of a table by quoted name, and its number of rows. -/
def Table.summary (t : Table) : String :=
  let names := String.intercalate ", " (t.names.map Text.quoted)
  s!"ColumnSet \x7b columns: [{names}], rows: {t.rows} \x7d"

end WindowQuery
