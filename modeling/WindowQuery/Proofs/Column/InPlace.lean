import WindowQuery.Column.InPlace
import WindowQuery.Proofs.Column.Writing

/-!
# Writes in place

A write in place either writes its cell or leaves the column alone, since nothing is put into the
column before all that may fail (`Column.setInPlace_eq_setAll`). It succeeds exactly at the rows of
the column and for the cells that fit its kind, and of the two readers of a column one says whether
the cell given by the other is NULL (`Column.setInPlace_outcome`).
-/

namespace WindowQuery

/-- No cell becomes NULL by being held in a column. -/
theorem Cell.heldAs_eq_null_iff {kind : Kind} {c : Cell} : c.heldAs kind = .null ↔ c = .null := by
  cases kind <;> cases c <;> simp [heldAs]

namespace Column

variable {c d : Column} {row : Nat} {value : Cell}

theorem isNull_iff (c : Column) (row : Nat) : c.isNull row = true ↔ c.cell row = .null := by
  rw [isNull_eq, Cell.isNull_iff]

/-- **A write in place** is a series of one write. -/
theorem setInPlace_eq_setAll (c : Column) (row : Nat) (value : Cell) :
    c.setInPlace row value = c.setAll [(row, value)] := by
  obtain ⟨name, storage⟩ := c
  by_cases hrow : (Column.mk name storage).size ≤ row
  · simp [setInPlace, setAll, set, hrow]
  · rw [setInPlace, setAll, set, if_neg hrow]
    simp only [Id.run, hrow, if_false]
    cases storage with
    | int32 v =>
      cases value with
      | int i => cases hn : Storage.narrow? i <;> simp only [Storage.put, hn] <;> rfl
      | null | float | text | bool => rfl
    | int64 v | float64 v | text v | boolean v => cases value <;> rfl

theorem setInPlace_of_ok (h : c.set row value = .ok d) : c.setInPlace row value = (d, .ok ()) := by
  rw [setInPlace_eq_setAll, setAll, h]
  rfl

/-- What is refused leaves the column as it is. -/
theorem setInPlace_of_error {e : QueryError} (h : c.set row value = .error e) :
    c.setInPlace row value = (c, .error e) := by
  rw [setInPlace_eq_setAll, setAll, h]

/-- What a write makes of a column: it fits and is written, or it is refused. -/
theorem setInPlace_cases (c : Column) (row : Nat) (value : Cell) :
    (row < c.size ∧ c.kind.fits value = true ∧ ∃ d, c.set row value = .ok d ∧
      c.setInPlace row value = (d, .ok ()) ∧ c.Written row value d) ∨
    (¬ (row < c.size ∧ c.kind.fits value = true) ∧ ∃ e, c.set row value = .error e ∧
      c.setInPlace row value = (c, .error e) ∧
      e = if row < c.size then .conversion value.kind c.kind
        else .invalidArgument (.rowOutOfRange row c.name c.size)) := by
  rcases Nat.lt_or_ge row c.size with hrow | hrow
  · cases fits : c.kind.fits value with
    | true =>
      obtain ⟨d, hd, written⟩ := exists_set_of_fits hrow fits
      exact .inl ⟨hrow, rfl, d, hd, setInPlace_of_ok hd, written⟩
    | false =>
      have refused := set_of_not_fits hrow fits
      exact .inr ⟨by simp, _, refused, setInPlace_of_error refused, (if_pos hrow).symm⟩
  · have refused : c.set row value = _ := set_of_size_le hrow
    have outside : ¬ row < c.size := Nat.not_lt.mpr hrow
    exact .inr ⟨fun inside => outside inside.1, _, refused, setInPlace_of_error refused,
      (if_neg outside).symm⟩

/-- **The outcome of a write in place.** It succeeds at the rows of the column for the cells that fit
its kind. Then the row holds the cell as it is, or as a double where an integer goes among doubles,
and is without a value if and only if the cell is NULL; the other rows, the name, the kind and the
size are as before. Otherwise the whole column is as before, and the error names the row, if there
is no such row, or else the kinds of the cell and of the column. In each column the rows without a
value are those that are read as NULL, whether or not they exist. -/
theorem setInPlace_outcome {result : Except QueryError Unit}
    (h : c.setInPlace row value = (d, result)) :
    (result = .ok () ↔ row < c.size ∧ c.kind.fits value = true) ∧
    (result = .ok () → c.set row value = .ok d ∧ c.Written row value d ∧
      (d.isNull row = true ↔ value = .null)) ∧
    (∀ e, result = .error e → c.set row value = .error e ∧ d = c ∧
      e = if row < c.size then .conversion value.kind c.kind
        else .invalidArgument (.rowOutOfRange row c.name c.size)) ∧
    ∀ (c : Column) (row : Nat), c.isNull row = true ↔ c.cell row = .null := by
  rcases c.setInPlace_cases row value with
    ⟨hrow, fits, d', hset, run, written⟩ | ⟨refused, e, hset, run, he⟩
  · cases run.symm.trans h
    refine ⟨iff_of_true rfl ⟨hrow, fits⟩, fun _ => ⟨hset, written, ?_⟩,
      fun _ he => (nomatch he), isNull_iff⟩
    rw [isNull_iff, written.cell_row, Cell.heldAs_eq_null_iff]
  · cases run.symm.trans h
    refine ⟨iff_of_false (fun hok => nomatch hok) refused, fun hok => (nomatch hok),
      fun e' he' => ?_, isNull_iff⟩
    cases he'
    exact ⟨hset, rfl, he⟩

/-- Berths of two harbours, of which the second is not known. -/
private def berths : Column := ⟨"berths", .int32 #[some 12, none]⟩

/-- The least integer of 32 bits is written, and the one after the greatest is refused. -/
theorem setInPlace_outcome_berths :
    (∃ d, berths.setInPlace 1 (.int (-2147483648)) = (d, .ok ()) ∧
      d.cell 0 = .int 12 ∧ d.cell 1 = .int (-2147483648) ∧ d.isNull 1 = false) ∧
    berths.setInPlace 0 (.int 2147483648) = (berths, .error (.conversion .int64 .int32)) := by
  constructor
  · cases run : berths.setInPlace 1 (.int (-2147483648)) with
    | mk d result =>
      obtain ⟨succeeds, writes, -, -⟩ := setInPlace_outcome run
      have ok : result = .ok () := succeeds.mpr ⟨by decide, by decide⟩
      obtain ⟨-, written, null⟩ := writes ok
      refine ⟨d, by rw [ok], written.cell_of_ne 0 (by decide), written.cell_row, ?_⟩
      rw [Bool.eq_false_iff, ne_eq, null]
      simp
  · cases run : berths.setInPlace 0 (.int 2147483648) with
    | mk d result =>
      obtain ⟨succeeds, -, fails, -⟩ := setInPlace_outcome run
      cases result with
      | ok => exact absurd (succeeds.mp rfl) (by decide)
      | error e =>
        obtain ⟨-, rfl, rfl⟩ := fails e rfl
        rfl

end Column

end WindowQuery
