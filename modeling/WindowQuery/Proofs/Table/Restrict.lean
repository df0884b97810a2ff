import WindowQuery.Partition
import WindowQuery.Proofs.Table.Indexed

/-!
# Tables by name, and their restrictions

What partitioning and ordering read of a table are cells by column name (`Table.cell`) and tuples
of them (`Table.tuple`). For columns that exist these are the cells of the columns looked up
(`Table.tuple_eq`).

A table **restricted** to some of its rows has the same columns with the cells of these rows, in
the order given (`Table.restrict`). It is the table of the restricted columns
(`Table.ofSources_restrict`). A column is known from its name, its kind and its cells
(`Column.eq_of_cells`).
-/

namespace WindowQuery

/-! ### Cells by name -/

namespace Table

/-- The cell of a row in the column of a name, NULL without such a column. -/
def cell (t : Table) (name : String) (row : Nat) : Cell :=
  ((t.column? name).map fun s => s.cell row).getD .null

/-- The cells of a row in the columns of several names. -/
def tuple (t : Table) (names : List String) (row : Nat) : List Cell :=
  names.map fun name => t.cell name row

theorem cell_eq {t : Table} {name : String} {s : Source} (h : t.column name = .ok s) (row : Nat) :
    t.cell name row = s.cell row := by
  unfold column at h
  cases hfound : t.column? name with
  | none => simp [hfound] at h
  | some s' =>
    simp only [hfound, Except.ok.injEq] at h
    simp [cell, hfound, h]

/-- Tuples of columns that exist are tuples of the columns looked up. -/
theorem tuple_eq {t : Table} {names : List String} {sources : List Source}
    (h : t.columnsOf names = .ok sources) (row : Nat) :
    t.tuple names row = Source.tuple sources row := by
  induction names generalizing sources with
  | nil =>
    cases h
    rfl
  | cons name names ih =>
    obtain ⟨s, rest, hs, hrest, rfl⟩ := mapM_cons_ok.mp h
    exact congrArg₂ List.cons (cell_eq hs row) (ih hrest)

/-- Columns that exist are all found. -/
theorem Indexed.exists_columnsOf {t : Table} (h : t.Indexed) {names : List String}
    (hnames : ∀ name ∈ names, name ∈ t.names) : ∃ sources, t.columnsOf names = .ok sources := by
  induction names with
  | nil => exact ⟨[], rfl⟩
  | cons name names ih =>
    obtain ⟨hname, hnames⟩ := List.forall_mem_cons.mp hnames
    obtain ⟨s, hs⟩ := h.exists_column_eq_ok_iff.mpr hname
    obtain ⟨sources, hsources⟩ := ih hnames
    exact ⟨s :: sources, mapM_cons_ok.mpr ⟨s, sources, hs, hsources, rfl⟩⟩

/-- Columns are looked up in sequence, and the first that is missing is reported. -/
theorem Indexed.columnsOf_eq_error {t : Table} (h : t.Indexed) {front back : List String}
    {name : String} (hfront : ∀ n ∈ front, n ∈ t.names) (hname : name ∉ t.names) :
    t.columnsOf (front ++ name :: back) = .error (.columnNotFound name) := by
  unfold columnsOf
  induction front with
  | nil =>
    rw [List.nil_append, List.mapM_cons, h.column_eq_error hname]
    rfl
  | cons n front ih =>
    obtain ⟨hn, hfront⟩ := List.forall_mem_cons.mp hfront
    obtain ⟨s, hs⟩ := h.exists_column_eq_ok_iff.mpr hn
    rw [List.cons_append, List.mapM_cons, hs, ih hfront]
    rfl

/-- Columns that are found are found by one of the names. -/
theorem exists_column_of_mem_columnsOf {t : Table} {names : List String} {sources : List Source}
    (h : t.columnsOf names = .ok sources) : ∀ s ∈ sources, ∃ name ∈ names, t.column name = .ok s := by
  induction names generalizing sources with
  | nil =>
    cases h
    simp
  | cons name names ih =>
    obtain ⟨s, rest, hs, hrest, rfl⟩ := mapM_cons_ok.mp h
    refine List.forall_mem_cons.mpr ⟨⟨name, List.mem_cons_self, hs⟩, fun s' hs' => ?_⟩
    obtain ⟨name', hname', hcolumn⟩ := ih hrest s' hs'
    exact ⟨name', List.mem_cons_of_mem name hname', hcolumn⟩

/-- Columns that are found are columns of the table. -/
theorem mem_columns_of_columnsOf {t : Table} {names : List String} {sources : List Source}
    (h : t.columnsOf names = .ok sources) : ∀ s ∈ sources, s ∈ t.columns := by
  intro s hs
  obtain ⟨name, -, hcolumn⟩ := exists_column_of_mem_columnsOf h s hs
  exact mem_columns_of_column hcolumn

end Table

/-! ### Columns by cells -/

/-- An optional value is known from its cell. -/
theorem Cell.ofOption_inj {α : Type} {f : α → Cell} (hf : ∀ a b, f a = f b → a = b)
    (hnull : ∀ a, f a ≠ null) {x y : Option α} (h : ofOption f x = ofOption f y) : x = y := by
  cases x with
  | none =>
    cases y with
    | none => rfl
    | some b => exact absurd h.symm (hnull b)
  | some a =>
    cases y with
    | none => exact absurd h (hnull a)
    | some b => exact congrArg some (hf a b h)

/-- Values are known from the cells they come out as. -/
theorem Storage.values_eq {α : Type} {f : α → Cell} (hf : ∀ a b, f a = f b → a = b)
    (hnull : ∀ a, f a ≠ .null) {values values' : Array (Option α)}
    (hsize : values.size = values'.size)
    (hcell : ∀ k < values.size,
      Cell.ofOption f (value? values k) = Cell.ofOption f (value? values' k)) : values = values' := by
  refine Array.ext hsize ?_
  intro k hk hk'
  have value := Cell.ofOption_inj hf hnull (hcell k hk)
  simpa [value?, hk, hk'] using value

/-- **Storage of one kind is known from its cells.** -/
theorem Storage.eq_of_cells {s s' : Storage} (hkind : s.kind = s'.kind) (hsize : s.size = s'.size)
    (hcell : ∀ k < s.size, s.cell k = s'.cell k) : s = s' := by
  cases s <;> cases s' <;> cases hkind
  case int32 v v' =>
    refine congrArg int32 (values_eq (fun a b h => ?_) (fun _ h => Cell.noConfusion h) hsize hcell)
    have value := congrArg Int64.toInt (Cell.int.inj h)
    rw [Int32.toInt_toInt64, Int32.toInt_toInt64] at value
    exact Int32.toInt_inj.mp value
  case int64 v v' =>
    exact congrArg int64 (values_eq (fun _ _ => Cell.int.inj) (fun _ h => Cell.noConfusion h) hsize
      hcell)
  case float64 v v' =>
    exact congrArg float64 (values_eq (fun _ _ => Cell.float.inj) (fun _ h => Cell.noConfusion h)
      hsize hcell)
  case text v v' =>
    exact congrArg text (values_eq (fun _ _ => Cell.text.inj) (fun _ h => Cell.noConfusion h) hsize
      hcell)
  case boolean v v' =>
    exact congrArg boolean (values_eq (fun _ _ => Cell.bool.inj) (fun _ h => Cell.noConfusion h)
      hsize hcell)

/-- A column is made up of its name, its kind and its cells. -/
theorem Column.eq_of_cells {c c' : Column} (hname : c.name = c'.name) (hkind : c.kind = c'.kind)
    (hsize : c.size = c'.size) (hcell : ∀ k < c.size, c.cell k = c'.cell k) : c = c' := by
  have storage := Storage.eq_of_cells hkind hsize hcell
  cases c
  cases c'
  cases hname
  cases storage
  rfl

/-! ### Restriction to rows -/

namespace Storage

/-- The values of some rows, in the order given. -/
def restrict (s : Storage) (rows : List Nat) : Storage :=
  match s with
  | int32 v => int32 (rows.map (value? v)).toArray
  | int64 v => int64 (rows.map (value? v)).toArray
  | float64 v => float64 (rows.map (value? v)).toArray
  | text v => text (rows.map (value? v)).toArray
  | boolean v => boolean (rows.map (value? v)).toArray

@[simp] theorem kind_restrict (s : Storage) (rows : List Nat) : (s.restrict rows).kind = s.kind := by
  cases s <;> rfl

@[simp] theorem size_restrict (s : Storage) (rows : List Nat) :
    (s.restrict rows).size = rows.length := by
  cases s <;> simp [restrict, size]

theorem cell_restrict (s : Storage) {rows : List Nat} {k row : Nat} (h : rows[k]? = some row) :
    (s.restrict rows).cell k = s.cell row := by
  cases s <;> simp [restrict, cell, value?, h]

end Storage

/-- The cells of some rows, in the order given. -/
def Column.restrict (c : Column) (rows : List Nat) : Column := ⟨c.name, c.storage.restrict rows⟩

namespace Source

/-- The cells of some rows, in the order given. -/
def restrict (s : Source) (rows : List Nat) : Source :=
  match s with
  | typed c => typed (c.restrict rows)
  | loose name kind cells => loose name kind (rows.map fun row => cells[row]?.getD .null).toArray

variable (s : Source) (rows : List Nat)

@[simp] theorem name_restrict : (s.restrict rows).name = s.name := by cases s <;> rfl

@[simp] theorem kind_restrict : (s.restrict rows).kind = s.kind := by
  cases s with
  | typed c => exact c.storage.kind_restrict rows
  | loose name kind cells => rfl

@[simp] theorem size_restrict : (s.restrict rows).size = rows.length := by
  cases s with
  | typed c => exact c.storage.size_restrict rows
  | loose name kind cells => simp [restrict, size]

variable {rows} in
theorem cell_restrict {k row : Nat} (h : rows[k]? = some row) :
    (s.restrict rows).cell k = s.cell row := by
  cases s with
  | typed c => exact c.storage.cell_restrict h
  | loose name kind cells => simp [restrict, cell, h]

end Source

namespace Table

/-- The table of some rows, in the order given. -/
def restrict (t : Table) (rows : List Nat) : Table :=
  ⟨t.columns.map fun s => s.restrict rows, t.index⟩

theorem rows_restrict {t : Table} (h : t.columns ≠ []) (rows : List Nat) :
    (t.restrict rows).rows = rows.length := by
  obtain ⟨first, rest, hcolumns⟩ := List.exists_cons_of_ne_nil h
  simp [restrict, Table.rows, hcolumns]

theorem column?_restrict (t : Table) (rows : List Nat) (name : String) :
    (t.restrict rows).column? name = (t.column? name).map fun s => s.restrict rows := by
  cases hplace : t.index.lookup name <;> simp [column?, restrict, hplace]

theorem column_restrict (t : Table) (rows : List Nat) (name : String) :
    (t.restrict rows).column name = (t.column name).map fun s => s.restrict rows := by
  rw [column, column, column?_restrict]
  cases t.column? name <;> rfl

/-- The columns of a restricted table are the restricted columns. -/
theorem columnsOf_restrict {t : Table} {names : List String} {sources : List Source}
    (h : t.columnsOf names = .ok sources) (rows : List Nat) :
    (t.restrict rows).columnsOf names = .ok (sources.map fun s => s.restrict rows) := by
  induction names generalizing sources with
  | nil =>
    cases h
    rfl
  | cons name names ih =>
    obtain ⟨s, rest, hs, hrest, rfl⟩ := mapM_cons_ok.mp h
    refine mapM_cons_ok.mpr ⟨s.restrict rows, _, ?_, ih hrest, rfl⟩
    rw [column_restrict, hs]
    rfl

/-- Cells of rows that are kept. -/
theorem cell_restrict (t : Table) {rows : List Nat} {k row : Nat} (h : rows[k]? = some row)
    (name : String) : (t.restrict rows).cell name k = t.cell name row := by
  rw [cell, cell, column?_restrict]
  cases t.column? name with
  | none => rfl
  | some s => exact s.cell_restrict h

theorem tuple_restrict (t : Table) {rows : List Nat} {k row : Nat} (h : rows[k]? = some row)
    (names : List String) : (t.restrict rows).tuple names k = t.tuple names row :=
  List.map_congr_left fun name _ => t.cell_restrict h name

/-- Restricted columns are added as the columns themselves are. -/
theorem add_restrict {t t' : Table} {source : Source} (h : t.add source = .ok t')
    (rows : List Nat) : (t.restrict rows).add (source.restrict rows) = .ok (t'.restrict rows) := by
  obtain ⟨hname, -, rfl⟩ := add_eq_ok_iff.mp h
  refine add_eq_ok_iff.mpr ⟨?_, fun hne => ?_, by simp [restrict]⟩
  · rw [Source.name_restrict]
    exact hname
  · have hne' : t.columns ≠ [] := by simpa [restrict] using hne
    rw [rows_restrict hne', Source.size_restrict]

/-- **The restricted table is the table of the restricted columns.** -/
theorem ofSources_restrict {sources : List Source} {t : Table} (h : ofSources sources = .ok t)
    (rows : List Nat) :
    ofSources (sources.map fun s => s.restrict rows) = .ok (t.restrict rows) := by
  suffices run : ∀ (rest : List Source) (b : Table), rest.foldlM Table.add b = .ok t →
      (rest.map fun s => s.restrict rows).foldlM Table.add (b.restrict rows) =
        .ok (t.restrict rows) from run sources empty h
  intro rest
  induction rest with
  | nil =>
    intro b h
    cases h
    rfl
  | cons source rest ih =>
    intro b h
    rw [List.foldlM_cons] at h
    obtain ⟨b', hadd, h⟩ := bind_eq_ok.mp h
    rw [List.map_cons, List.foldlM_cons, add_restrict hadd]
    exact ih b' h

end Table

end WindowQuery
