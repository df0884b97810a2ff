import WindowQuery.Table.Basic

/-!
# Requests to a table

A table can be worked on in place. `Table.insert` adds a column that way: it looks at the name, then
at the length, enters the name into the index and appends the column. What fails between these steps
leaves the table as far as it got, so that a request answers with the table beside its result.

`Table.after` is the table that a sequence of requests leaves, of which any may fail.
-/

namespace WindowQuery.Table

/-- Work on a table in place, which may fail on the way. -/
abbrev Edit := ExceptT QueryError (StateM Table)

section

variable {α β : Type}

/-- The table as an edit leaves it, and what became of the edit. -/
def edit (t : Table) (e : Edit α) : Table × Except QueryError α :=
  let (result, t') := e.run.run t
  (t', result)

@[simp] theorem edit_get (t : Table) : t.edit get = (t, .ok t) := rfl

@[simp] theorem edit_modify (t : Table) (f : Table → Table) :
    t.edit (modify f) = (f t, .ok ()) := rfl

/-- What fails leaves the table as far as it got. -/
@[simp] theorem edit_throw (t : Table) (err : QueryError) :
    t.edit (throw err : Edit α) = (t, .error err) := rfl

/-- Edits one after the other. -/
theorem edit_bind (t : Table) (e : Edit α) (f : α → Edit β) :
    t.edit (e >>= f) =
      match t.edit e with
      | (t', .ok a) => t'.edit (f a)
      | (t', .error err) => (t', .error err) := by
  have run : t.edit (e >>= f) = t.edit (.mk (e.run >>= ExceptT.bindCont f)) := rfl
  rw [run, edit, edit]
  cases h : e.run.run t with
  | mk result t' => cases result <;> simp [ExceptT.bindCont, h] <;> rfl

end

/-- Adds a column in place. Its length is compared with that of the first column alone. -/
def insert (source : Source) : Edit Unit := do
  if (← get).contains source.name then
    throw (.duplicateColumn source.name)
  if let some first := (← get).columns.head? then
    if first.size ≠ source.size then
      throw (.columnLengthMismatch source.name first.size source.size)
  modify fun t => { t with index := (source.name, t.columns.length) :: t.index }
  modify fun t => { t with columns := t.columns ++ [source] }

/-- The table that an edit of a table of one's own gives. It is lost if the edit fails. -/
def build (t : Table) (e : Edit Unit) : Except QueryError Table :=
  match t.edit e with
  | (t', .ok ()) => .ok t'
  | (_, .error err) => .error err

/-- Puts a table that was built in the place of another, which stays if nothing was built. -/
def replaceBy (t : Table) : Except QueryError Table → Table × Except QueryError Unit
  | .ok t' => (t', .ok ())
  | .error err => (t, .error err)

/-- A **request** for a column more, in place or on a copy, or for a table of columns. -/
inductive Request where
  | add (source : Source)
  | withColumn (source : Source)
  | fromColumns (columns : List Column)

/-- Answers a request. The table at hand is still there if a copy of it with the column, or a table
of other columns, cannot be built; to go on without it is to ask for a table of no columns. -/
def perform (t : Table) : Request → Table × Except QueryError Unit
  | .add source => t.edit (insert source)
  | .withColumn source => t.replaceBy (t.build (insert source))
  | .fromColumns columns => t.replaceBy (empty.build (columns.forM fun c => insert (.typed c)))

/-- The table after requests to the one without columns. -/
def after (requests : List Request) : Table := requests.foldl (fun t r => (t.perform r).1) empty

end WindowQuery.Table
