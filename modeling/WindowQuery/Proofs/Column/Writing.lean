import WindowQuery.Column.Write
import WindowQuery.Proofs.Steps

/-!
# What a column keeps of a cell

A cell that is written into a column is read back as the column **keeps** it (`Kind.keeps?`): NULL
as it is, an integer as a double where doubles are stored, and nothing at all when the cell does not
fit (`Kind.keeps?_eq`). Whether a write succeeds depends on the kind of the column and the cell
alone (`Column.exists_set_iff`), and it changes the one row (`Column.Written`). A cell that does not
fit is refused with its own kind and that of the column (`Column.set_of_not_fits`), which never
befalls the cells of the column itself (`Column.fits_cell`).
-/

namespace WindowQuery

/-- What a column of a kind **keeps** of a cell, if the cell fits. -/
def Kind.keeps? : Kind → Cell → Option Cell
  | _, .null => some .null
  | .int32, .int i => (Storage.narrow? i).map fun n => .int n.toInt64
  | .int64, .int i | .null, .int i => some (.int i)
  | .float64, .int i => some (.float (Binary64.ofInt i.toInt))
  | .float64, .float x => some (.float x)
  | .text, .text t => some (.text t)
  | .boolean, .bool b => some (.bool b)
  | _, _ => none

/-- A cell **fits** a kind of column: NULL fits every kind, an integer the kinds of numbers in whose
range it lies, and any other cell its own kind. A column of no kind holds integers. -/
def Kind.fits : Kind → Cell → Bool
  | _, .null => true
  | .int32, .int i => decide (Int32.minValue.toInt ≤ i.toInt ∧ i.toInt ≤ Int32.maxValue.toInt)
  | .int64, .int _ | .float64, .int _ | .null, .int _ => true
  | .float64, .float _ | .text, .text _ | .boolean, .bool _ => true
  | _, _ => false

/-- A cell as a column of a kind **holds** it: an integer among doubles becomes one, and any other
cell stays as it is. -/
def Cell.heldAs : Kind → Cell → Cell
  | .float64, .int i => .float (Binary64.ofInt i.toInt)
  | _, c => c

namespace Storage

/-- The integers that can be narrowed are those of 32 bits, and they stay the same. -/
theorem map_narrow? (i : Int64) : (narrow? i).map Int32.toInt64 =
    if Int32.minValue.toInt ≤ i.toInt ∧ i.toInt ≤ Int32.maxValue.toInt then some i else none := by
  rw [narrow?]
  split
  case isFalse => rfl
  case isTrue h =>
    rw [Int32.toInt_minValue, Int32.toInt_maxValue] at h
    refine congrArg some (Int64.toInt_inj.mp ?_)
    rw [Int32.toInt_toInt64, Int64.toInt_toInt32, Int.bmod_eq_of_le (by omega) (by omega)]

end Storage

/-- **What is kept of a cell** that fits is the cell as the column holds it. -/
theorem Kind.keeps?_eq (kind : Kind) (c : Cell) :
    kind.keeps? c = if kind.fits c then some (c.heldAs kind) else none := by
  cases c with
  | int i =>
    cases kind with
    | int32 =>
      have narrowed := congrArg (Option.map Cell.int) (Storage.map_narrow? i)
      rw [Option.map_map, apply_ite (Option.map Cell.int)] at narrowed
      simp only [fits, decide_eq_true_eq]
      exact narrowed
    | null | int64 | float64 | text | boolean => rfl
  | null | float x | text t | bool b => cases kind <;> rfl

namespace Storage

section

variable {α : Type} {values : Array (Option α)} {a : Option α} {row : Nat}

theorem value?_setIfInBounds (hrow : row < values.size) :
    value? (values.setIfInBounds row a) row = a := by
  rw [value?, Array.getElem?_setIfInBounds_self_of_lt hrow]
  rfl

theorem value?_setIfInBounds_of_ne {row' : Nat} (hne : row' ≠ row) :
    value? (values.setIfInBounds row a) row' = value? values row' := by
  rw [value?, Array.getElem?_setIfInBounds_ne hne.symm, value?]

end

/-- One storage differs from another in a single row: there it holds a cell that was **written**. -/
structure Written (s : Storage) (row : Nat) (d : Cell) (t : Storage) : Prop where
  cell_row : row < s.size → t.cell row = d
  cell_of_ne : ∀ row', row' ≠ row → t.cell row' = s.cell row'

/-- What is set in an array of values is read back from its row, and from no other. -/
theorem written_setIfInBounds {α : Type} {make : Array (Option α) → Storage} {read : α → Cell}
    (hsize : ∀ v, (make v).size = v.size)
    (hcell : ∀ v row, (make v).cell row = Cell.ofOption read (value? v row))
    (v : Array (Option α)) (row : Nat) (a : Option α) :
    (make v).Written row (Cell.ofOption read a) (make (v.setIfInBounds row a)) := by
  constructor
  · intro hrow
    rw [hsize] at hrow
    rw [hcell, value?_setIfInBounds hrow]
  · intro row' hne
    rw [hcell, hcell, value?_setIfInBounds_of_ne hne]

/-- A write succeeds exactly when the storage keeps the cell, and writes what it keeps. -/
theorem put_cases (s : Storage) (row : Nat) (c : Cell) :
    (∃ d t, s.kind.keeps? c = some d ∧ s.put row c = .ok t ∧ s.Written row d t) ∨
      s.kind.keeps? c = none ∧ s.put row c = .error (.conversion c.kind s.kind) := by
  have set {α : Type} {make : Array (Option α) → Storage} {read : α → Cell}
      (hsize : ∀ v, (make v).size = v.size)
      (hcell : ∀ v row, (make v).cell row = Cell.ofOption read (value? v row))
      {v : Array (Option α)} {a : Option α}
      (hkeeps : (make v).kind.keeps? c = some (Cell.ofOption read a))
      (hput : (make v).put row c = .ok (make (v.setIfInBounds row a))) :
      ∃ d t, (make v).kind.keeps? c = some d ∧ (make v).put row c = .ok t ∧
        (make v).Written row d t :=
    ⟨_, _, hkeeps, hput, written_setIfInBounds hsize hcell v row a⟩
  cases s with
  | int32 v =>
    cases c with
    | null => exact .inl (set (fun _ => rfl) (fun _ _ => rfl) rfl rfl)
    | int i =>
      -- the only cell whose value decides whether it fits
      cases hn : narrow? i with
      | none =>
        refine .inr ⟨by simp [kind, Kind.keeps?, hn], ?_⟩
        simp only [put, hn]
        rfl
      | some n =>
        have kept : (int32 v).kind.keeps? (.int i) =
            some (Cell.ofOption (fun n : Int32 => .int n.toInt64) (some n)) := by
          simp [kind, Kind.keeps?, hn]
        have stored : (int32 v).put row (.int i) = .ok (int32 (v.setIfInBounds row (some n))) := by
          simp only [put, hn]
        exact .inl (set (fun _ => rfl) (fun _ _ => rfl) kept stored)
    | float | text | bool => exact .inr ⟨rfl, rfl⟩
  | int64 v =>
    cases c with
    | null | int i => exact .inl (set (fun _ => rfl) (fun _ _ => rfl) rfl rfl)
    | float | text | bool => exact .inr ⟨rfl, rfl⟩
  | float64 v =>
    cases c with
    | null | int i | float x => exact .inl (set (fun _ => rfl) (fun _ _ => rfl) rfl rfl)
    | text | bool => exact .inr ⟨rfl, rfl⟩
  | text v =>
    cases c with
    | null | text t => exact .inl (set (fun _ => rfl) (fun _ _ => rfl) rfl rfl)
    | int | float | bool => exact .inr ⟨rfl, rfl⟩
  | boolean v =>
    cases c with
    | null | bool b => exact .inl (set (fun _ => rfl) (fun _ _ => rfl) rfl rfl)
    | int | float | text => exact .inr ⟨rfl, rfl⟩

end Storage

/-- Columns that are made for a kind keep what the kind keeps. -/
theorem Kind.keeps?_kind_nulls (kind : Kind) (rows : Nat) (c : Cell) :
    (Storage.nulls kind rows).kind.keeps? c = kind.keeps? c := by
  cases kind <;> cases c <;> rfl

namespace Column

variable {c d : Column} {row : Nat} {value : Cell}

/-- A write to a row of a column succeeds when the column keeps the cell. -/
theorem exists_set_iff (hrow : row < c.size) :
    (∃ d, c.set row value = .ok d) ↔ ∃ kept, c.kind.keeps? value = some kept := by
  obtain ⟨kept, t, hkept, hput, -⟩ | ⟨hkept, hput⟩ := c.storage.put_cases row value
  · exact iff_of_true ⟨⟨c.name, t⟩, set_eq_ok_iff.mpr ⟨hrow, rfl, hput⟩⟩ ⟨kept, hkept⟩
  · refine iff_of_false ?_ ?_
    · rintro ⟨d, hd⟩
      cases hput.symm.trans (set_eq_ok_iff.mp hd).2.2
    · rintro ⟨kept, h⟩
      cases hkept.symm.trans h

/-- The row holds what is kept of the cell, and any other row what it held. -/
theorem keeps?_of_set (h : c.set row value = .ok d) :
    c.kind.keeps? value = some (d.cell row) ∧ ∀ row', row' ≠ row → d.cell row' = c.cell row' := by
  obtain ⟨hrow, -, hd⟩ := set_eq_ok_iff.mp h
  obtain ⟨kept, t, hkept, hput, written⟩ | ⟨-, hput⟩ := c.storage.put_cases row value
  · cases hput.symm.trans hd
    exact ⟨hkept.trans (congrArg some (written.cell_row hrow).symm), written.cell_of_ne⟩
  · cases hput.symm.trans hd

/-- A column is another one with a cell **written** to a row: the row holds the cell in the way of
the column, and nothing else has changed. -/
structure Written (c : Column) (row : Nat) (value : Cell) (d : Column) : Prop where
  name_eq : d.name = c.name
  kind_eq : d.kind = c.kind
  size_eq : d.size = c.size
  cell_row : d.cell row = value.heldAs c.kind
  cell_of_ne : ∀ row', row' ≠ row → d.cell row' = c.cell row'

/-- A write that succeeds has written its cell and nothing else. -/
theorem written_of_set (h : c.set row value = .ok d) : c.Written row value d := by
  obtain ⟨kept, others⟩ := keeps?_of_set h
  refine ⟨name_set h, kind_set h, size_set h, ?_, others⟩
  rw [Kind.keeps?_eq] at kept
  split at kept
  case isTrue => exact (Option.some.inj kept).symm
  case isFalse => cases kept

/-- A cell that fits is written. -/
theorem exists_set_of_fits (hrow : row < c.size) (fits : c.kind.fits value = true) :
    ∃ d, c.set row value = .ok d ∧ c.Written row value d := by
  have keeps : ∃ kept, c.kind.keeps? value = some kept := by
    rw [Kind.keeps?_eq, if_pos fits]
    exact ⟨_, rfl⟩
  obtain ⟨d, hd⟩ := (exists_set_iff hrow).mpr keeps
  exact ⟨d, hd, written_of_set hd⟩

/-- A cell that does not fit is refused, with its own kind and that of the column. -/
theorem set_of_not_fits (hrow : row < c.size) (unfit : c.kind.fits value = false) :
    c.set row value = .error (.conversion value.kind c.kind) := by
  obtain ⟨kept, t, hkept, -, -⟩ | ⟨-, hput⟩ := c.storage.put_cases row value
  · rw [← kind, Kind.keeps?_eq, unfit] at hkept
    cases hkept
  · rw [set, if_neg (Nat.not_le.mpr hrow)]
    exact map_eq_error.mpr hput

/-- A row past the end is refused before anything is known of the cell. -/
theorem set_of_size_le (hrow : c.size ≤ row) :
    c.set row value = .error (.invalidArgument (.rowOutOfRange row c.name c.size)) := by
  rw [set, if_pos hrow]

/-- Inside of the column only a cell that does not fit is refused. -/
theorem set_eq_error {e : QueryError} (hrow : row < c.size) (h : c.set row value = .error e) :
    c.kind.fits value = false ∧ e = .conversion value.kind c.kind := by
  cases fits : c.kind.fits value with
  | true =>
    obtain ⟨d, hd, -⟩ := exists_set_of_fits hrow fits
    cases hd.symm.trans h
  | false =>
    cases (set_of_not_fits hrow fits).symm.trans h
    exact ⟨rfl, rfl⟩

/-- The cells of a column fit it. -/
theorem fits_cell (c : Column) (row : Nat) : c.kind.fits (c.cell row) = true := by
  obtain ⟨name, storage⟩ := c
  cases storage with
  | int32 values =>
    rw [kind, Storage.kind, cell, Storage.cell]
    cases Storage.value? values row with
    | none => rfl
    | some n =>
      refine decide_eq_true ?_
      rw [Int32.toInt_toInt64]
      exact ⟨n.minValue_le_toInt, n.toInt_le⟩
  | int64 values | float64 values | text values | boolean values =>
    rw [kind, Storage.kind, cell, Storage.cell]
    cases Storage.value? values row <;> rfl

/-- They are held as they are. -/
theorem heldAs_cell (c : Column) (row : Nat) : (c.cell row).heldAs c.kind = c.cell row := by
  obtain ⟨name, storage⟩ := c
  cases storage <;>
    rw [kind, Storage.kind, cell, Storage.cell] <;> cases Storage.value? _ row <;> rfl

end Column

end WindowQuery
