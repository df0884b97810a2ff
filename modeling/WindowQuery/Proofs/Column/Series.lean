import Mathlib.Data.Nat.Find
import WindowQuery.Proofs.Column.Scatter
import WindowQuery.Proofs.Column.Writing

/-!
# A segment written cell by cell

Scattering a segment comes to writing its cells to their targets one by one, in order
(`Column.scatter_outcome`). Storage of one kind is copied without a look at the cells, and this is
the same: such a cell always fits and goes in as it was stored (`Storage.Stores.setAll_eq`). With
another kind the first cell that does not fit ends the series, and the writes before it stay.

After any number of writes a row holds the last cell written to it, and a row that none of them
named holds what it held (`Column.Spread`).
-/

namespace WindowQuery

/-! ### Copying as a series of writes -/

namespace Storage

/-- An array of values **stores** cells of a sort: what is written into it is stored as it is, and
read back as it was written. -/
structure Stores {α : Type} (make : Array (Option α) → Storage) (read : α → Cell) : Prop where
  size : ∀ values, (make values).size = values.size
  cell : ∀ values row, (make values).cell row = Cell.ofOption read (value? values row)
  put : ∀ values row a,
    (make values).put row (Cell.ofOption read a) = .ok (make (values.setIfInBounds row a))

theorem stores_int32 : Stores int32 fun i => .int i.toInt64 where
  size _ := rfl
  cell _ _ := rfl
  put values row a := by
    cases a with
    | none => rfl
    | some i =>
      have narrowed : narrow? i.toInt64 = some i := by
        rw [narrow?, Int32.toInt_toInt64, if_pos ⟨i.minValue_le_toInt, i.toInt_le⟩,
          Int32.toInt32_toInt64]
      rw [Cell.ofOption_some, Storage.put, narrowed]

theorem stores_int64 : Stores int64 .int where
  size _ := rfl
  cell _ _ := rfl
  put _ _ a := by cases a <;> rfl

theorem stores_float64 : Stores float64 .float where
  size _ := rfl
  cell _ _ := rfl
  put _ _ a := by cases a <;> rfl

theorem stores_text : Stores text .text where
  size _ := rfl
  cell _ _ := rfl
  put _ _ a := by cases a <;> rfl

theorem stores_boolean : Stores boolean .bool where
  size _ := rfl
  cell _ _ := rfl
  put _ _ a := by cases a <;> rfl

namespace Stores

variable {α : Type} {make : Array (Option α) → Storage} {read : α → Cell} (h : Stores make read)
include h

theorem cells_eq (name : String) (values : Array (Option α)) :
    (Column.mk name (make values)).cells = values.toList.map (Cell.ofOption read) := by
  refine List.ext_getElem (by simp [Column.size, h.size]) fun row hrow hrow' => ?_
  have hrow' : row < values.size := by simpa using hrow'
  simp [Column.cells, Column.cell, h.cell, value?, hrow']

/-- Values written one by one as cells arrive as they are. -/
theorem setAll_eq (name : String) {values : Array (Option α)} {writes : List (Nat × Option α)}
    (inside : ∀ w ∈ writes, w.1 < values.size) :
    (Column.mk name (make values)).setAll (writes.map fun w => (w.1, Cell.ofOption read w.2)) =
      (⟨name, make (writeAll values writes)⟩, .ok ()) := by
  induction writes generalizing values with
  | nil => rfl
  | cons w rest ih =>
    obtain ⟨hw, hrest⟩ := List.forall_mem_cons.mp inside
    have written : (Column.mk name (make values)).set w.1 (Cell.ofOption read w.2) =
        .ok ⟨name, make (values.setIfInBounds w.1 w.2)⟩ :=
      Column.set_eq_ok_iff.mpr
        ⟨lt_of_lt_of_eq hw (h.size values).symm, rfl, h.put values w.1 w.2⟩
    rw [List.map_cons, Column.setAll, written]
    exact ih (by simpa using hrest)

/-- **Copying is the same** as writing cell by cell. -/
theorem copyTo_eq_setAll (name name' : String) {values source : Array (Option α)}
    {targets : List Nat} (inside : ∀ row ∈ targets, row < values.size) :
    (Column.mk name (make values)).setAll
        (targets.zip (Column.mk name' (make source)).cells) =
      (⟨name, make (copyTo values source targets)⟩, .ok ()) := by
  rw [h.cells_eq, List.zip_map_right]
  exact h.setAll_eq name fun w hw => inside w.1 (List.of_mem_zip hw).1

end Stores

end Storage

namespace Column

variable {c d d' segment : Column} {targets : List Nat} {n row : Nat}

/-- A segment of the same kind is copied as if it were written cell by cell. -/
theorem setAll_eq_copy (hkind : segment.kind = c.kind) (inside : ∀ row ∈ targets, row < c.size) :
    c.setAll (targets.zip segment.cells) =
      (⟨c.name, c.storage.copy segment.storage targets⟩, .ok ()) := by
  obtain ⟨name, storage⟩ := c
  obtain ⟨name', source⟩ := segment
  cases storage <;> cases source <;> cases hkind
  case int32 => exact Storage.stores_int32.copyTo_eq_setAll name name' inside
  case int64 => exact Storage.stores_int64.copyTo_eq_setAll name name' inside
  case float64 => exact Storage.stores_float64.copyTo_eq_setAll name name' inside
  case text => exact Storage.stores_text.copyTo_eq_setAll name name' inside
  case boolean => exact Storage.stores_boolean.copyTo_eq_setAll name name' inside

/-- **A scatter is a series of writes** once lengths and targets are in order. -/
theorem scatter_eq_setAll (hsize : segment.size = targets.length)
    (inside : ∀ row ∈ targets, row < c.size) :
    c.scatter segment targets = c.setAll (targets.zip segment.cells) := by
  by_cases hkind : segment.kind = c.kind
  · rw [scatter_eq hkind hsize inside, setAll_eq_copy hkind inside]
  · have none : targets.find? (fun target => decide (c.size ≤ target)) = none := by
      simpa [List.find?_eq_none] using inside
    rw [scatter, if_neg (not_not.mpr hsize), none]
    exact if_neg hkind

/-! ### A series of writes -/

/-- A series of writes can be carried out in two parts. -/
theorem setAll_append {writes : List (Nat × Cell)} (h : c.setAll writes = (d, .ok ()))
    (more : List (Nat × Cell)) : c.setAll (writes ++ more) = d.setAll more := by
  induction writes generalizing c with
  | nil => cases h; rfl
  | cons w rest ih =>
    rw [setAll] at h
    rw [List.cons_append, setAll]
    split at h
    case h_1 => exact ih h
    case h_2 => cases h

/-- The first `n` cells of a segment are **spread** over their targets: a row holds the last of them
that was written to it, and a row that is not among the targets so far holds what it held. -/
structure Spread (c segment : Column) (targets : List Nat) (n : Nat) (d : Column) : Prop where
  name_eq : d.name = c.name
  kind_eq : d.kind = c.kind
  size_eq : d.size = c.size
  last : ∀ k row, k < n → targets[k]? = some row →
    (∀ j, k < j → j < n → targets[j]? ≠ some row) → d.cell row = (segment.cell k).heldAs c.kind
  kept : ∀ row, (∀ k, k < n → targets[k]? ≠ some row) → d.cell row = c.cell row

namespace Spread

theorem zero : Spread c segment targets 0 c where
  name_eq := rfl
  kind_eq := rfl
  size_eq := rfl
  last _ _ hk := absurd hk (Nat.not_lt_zero _)
  kept _ _ := rfl

/-- One more cell is written to its target. -/
theorem succ (spread : Spread c segment targets n d) (ht : targets[n]? = some row)
    (written : d.set row (segment.cell n) = .ok d') : Spread c segment targets (n + 1) d' := by
  have step := written_of_set written
  refine ⟨step.name_eq.trans spread.name_eq, step.kind_eq.trans spread.kind_eq,
    step.size_eq.trans spread.size_eq, fun k row' hk hrow' later => ?_, fun row' unnamed => ?_⟩
  · rcases Nat.lt_succ_iff_lt_or_eq.mp hk with hlt | rfl
    · -- the row of an earlier target, which the new one does not name
      have hne : row' ≠ row := fun heq => later n hlt (Nat.lt_succ_self n) (heq ▸ ht)
      rw [step.cell_of_ne row' hne]
      exact spread.last k row' hlt hrow' fun j hkj hjn => later j hkj (Nat.lt_succ_of_lt hjn)
    · cases hrow'.symm.trans ht
      rw [step.cell_row, spread.kind_eq]
  · have hne : row' ≠ row := fun heq => unnamed n (Nat.lt_succ_self n) (heq ▸ ht)
    rw [step.cell_of_ne row' hne]
    exact spread.kept row' fun k hk => unnamed k (Nat.lt_succ_of_lt hk)

theorem cell_of_not_mem (spread : Spread c segment targets n d) (h : row ∉ targets) :
    d.cell row = c.cell row :=
  spread.kept row fun _ _ ht => h (List.mem_of_getElem? ht)

end Spread

/-- The `k`-th write of a scatter puts row `k` of the segment to the `k`-th target. -/
theorem getElem?_zip_cells {k : Nat} (hsize : segment.size = targets.length)
    (ht : targets[k]? = some row) :
    (targets.zip segment.cells)[k]? = some (row, segment.cell k) := by
  have hk : k < segment.size := hsize ▸ (List.getElem?_eq_some_iff.mp ht).1
  exact List.getElem?_zip_eq_some.mpr ⟨ht, by simp [cells, hk]⟩

/-- As long as the cells fit, they are written and spread. -/
theorem exists_setAll_take (hsize : segment.size = targets.length)
    (inside : ∀ row ∈ targets, row < c.size) (hn : n ≤ targets.length)
    (fits : ∀ k, k < n → c.kind.fits (segment.cell k) = true) :
    ∃ d, c.setAll ((targets.zip segment.cells).take n) = (d, .ok ()) ∧
      Spread c segment targets n d := by
  induction n with
  | zero => exact ⟨c, rfl, Spread.zero⟩
  | succ n ih =>
    obtain ⟨d, run, spread⟩ := ih (Nat.le_of_succ_le hn) fun k hk => fits k (Nat.lt_succ_of_lt hk)
    have ht : targets[n]? = some targets[n] := List.getElem?_eq_getElem hn
    have hrow : targets[n] < d.size := spread.size_eq ▸ inside _ (List.getElem_mem hn)
    obtain ⟨d', written, -⟩ :=
      exists_set_of_fits hrow (spread.kind_eq ▸ fits n (Nat.lt_succ_self n))
    refine ⟨d', ?_, spread.succ ht written⟩
    rw [List.take_add_one, getElem?_zip_cells hsize ht, setAll_append run]
    simp [setAll, written]

/-- The first cell that does not fit ends the series, after the cells before it. -/
theorem setAll_of_not_fits {k : Nat} (hsize : segment.size = targets.length)
    (inside : ∀ row ∈ targets, row < c.size) (hk : k < targets.length)
    (run : c.setAll ((targets.zip segment.cells).take k) = (d, .ok ()))
    (spread : Spread c segment targets k d) (unfit : c.kind.fits (segment.cell k) = false) :
    c.setAll (targets.zip segment.cells) =
      (d, .error (.conversion (segment.cell k).kind c.kind)) := by
  have ht : targets[k]? = some targets[k] := List.getElem?_eq_getElem hk
  have hrow : targets[k] < d.size := spread.size_eq ▸ inside _ (List.getElem_mem hk)
  have next := getElem?_zip_cells hsize ht
  obtain ⟨hlt, hnext⟩ := List.getElem?_eq_some_iff.mp next
  have refused := set_of_not_fits hrow (spread.kind_eq ▸ unfit)
  rw [← List.take_append_drop k (targets.zip segment.cells), setAll_append run,
    List.drop_eq_getElem_cons hlt, hnext, setAll, refused, spread.kind_eq]

/-! ### What a scatter does -/

/-- A row outside of the column is refused, and the first of them is reported. -/
theorem exists_scatter_outside (hsize : segment.size = targets.length) (hrow : row ∈ targets)
    (outside : c.size ≤ row) :
    ∃ before target after, targets = before ++ target :: after ∧
      (∀ row ∈ before, row < c.size) ∧ c.size ≤ target ∧
      c.scatter segment targets =
        (c, .error (.invalidArgument (.targetOutOfRange target c.name c.size))) := by
  have found : (targets.find? fun target => decide (c.size ≤ target)).isSome = true :=
    List.find?_isSome.mpr ⟨row, hrow, decide_eq_true outside⟩
  obtain ⟨target, htarget⟩ := Option.isSome_iff_exists.mp found
  obtain ⟨hout, before, after, split, inside⟩ := List.find?_eq_some_iff_append.mp htarget
  refine ⟨before, target, after, split, fun row hrow => by simpa using inside row hrow,
    of_decide_eq_true hout, ?_⟩
  rw [scatter, if_neg (not_not.mpr hsize), htarget]

/-- A segment all of whose cells fit is spread over the targets. -/
theorem exists_scatter_of_fits (hsize : segment.size = targets.length)
    (inside : ∀ row ∈ targets, row < c.size)
    (fits : ∀ k, k < targets.length → c.kind.fits (segment.cell k) = true) :
    ∃ d, c.scatter segment targets = (d, .ok ()) ∧
      Spread c segment targets targets.length d := by
  obtain ⟨d, run, spread⟩ := exists_setAll_take hsize inside (Nat.le_refl _) fits
  refine ⟨d, ?_, spread⟩
  rw [scatter_eq_setAll hsize inside, ← run, List.take_of_length_le (by simp [hsize])]

/-- Otherwise the cells before the first that does not fit are. -/
theorem exists_scatter_of_not_fits {k : Nat} (hsize : segment.size = targets.length)
    (inside : ∀ row ∈ targets, row < c.size) (hk : k < targets.length)
    (fits : ∀ j, j < k → c.kind.fits (segment.cell j) = true)
    (unfit : c.kind.fits (segment.cell k) = false) :
    ∃ d, c.scatter segment targets = (d, .error (.conversion (segment.cell k).kind c.kind)) ∧
      c.setAll ((targets.zip segment.cells).take k) = (d, .ok ()) ∧
      Spread c segment targets k d := by
  obtain ⟨d, run, spread⟩ := exists_setAll_take hsize inside (Nat.le_of_lt hk) fits
  refine ⟨d, ?_, run, spread⟩
  rw [scatter_eq_setAll hsize inside, setAll_of_not_fits hsize inside hk run spread unfit]

/-- Some of the first cells have been spread whatever becomes of a scatter. -/
theorem exists_spread_scatter (c segment : Column) (targets : List Nat) :
    ∃ n, n ≤ targets.length ∧ Spread c segment targets n (c.scatter segment targets).1 := by
  by_cases hsize : segment.size = targets.length
  case neg =>
    refine ⟨0, Nat.zero_le _, ?_⟩
    rw [scatter, if_pos hsize]
    exact Spread.zero
  by_cases inside : ∀ row ∈ targets, row < c.size
  case neg =>
    push Not at inside
    obtain ⟨row, hrow, outside⟩ := inside
    obtain ⟨_, _, _, -, -, -, refused⟩ := exists_scatter_outside hsize hrow outside
    refine ⟨0, Nat.zero_le _, ?_⟩
    rw [refused]
    exact Spread.zero
  by_cases fits : ∀ k, k < targets.length → c.kind.fits (segment.cell k) = true
  case pos =>
    obtain ⟨d, scattered, spread⟩ := exists_scatter_of_fits hsize inside fits
    exact ⟨targets.length, Nat.le_refl _, by rwa [scattered]⟩
  case neg =>
    have exists_unfit : ∃ k, k < targets.length ∧ c.kind.fits (segment.cell k) = false := by
      simpa using fits
    -- the first of them is where the series ends
    obtain ⟨hk, unfit⟩ := Nat.find_spec exists_unfit
    have before (j : Nat) (hj : j < Nat.find exists_unfit) :
        c.kind.fits (segment.cell j) = true := by
      simpa [Nat.lt_trans hj hk] using Nat.find_min exists_unfit hj
    obtain ⟨d, scattered, -, spread⟩ := exists_scatter_of_not_fits hsize inside hk before unfit
    exact ⟨_, Nat.le_of_lt hk, by rwa [scattered]⟩

/-- **A scatter by cases.** It refuses a segment of another length than that of the targets, and a
target outside of the column, before it writes anything. Past these checks it performs the writes
one by one. A segment of the same kind goes in whole and its cells stay as they are; of any other
segment all is written if all cells fit, and otherwise what stands before the first that does not
fit. In each case some number of cells has been spread, and rows outside of the targets are kept. -/
theorem scatter_outcome (c segment : Column) (targets : List Nat) :
    (segment.size ≠ targets.length →
      c.scatter segment targets =
        (c, .error (.columnLengthMismatch segment.name targets.length segment.size))) ∧
    (segment.size = targets.length → ∀ row ∈ targets, c.size ≤ row →
      ∃ before target after, targets = before ++ target :: after ∧
        (∀ row ∈ before, row < c.size) ∧ c.size ≤ target ∧
        c.scatter segment targets =
          (c, .error (.invalidArgument (.targetOutOfRange target c.name c.size)))) ∧
    (segment.size = targets.length → (∀ row ∈ targets, row < c.size) →
      c.scatter segment targets = c.setAll (targets.zip segment.cells) ∧
      (segment.kind = c.kind →
        (∃ d, c.scatter segment targets = (d, .ok ()) ∧
          Spread c segment targets targets.length d) ∧
        ∀ k, (segment.cell k).heldAs c.kind = segment.cell k) ∧
      ((∀ k, k < targets.length → c.kind.fits (segment.cell k) = true) →
        ∃ d, c.scatter segment targets = (d, .ok ()) ∧
          Spread c segment targets targets.length d) ∧
      ∀ k, k < targets.length → (∀ j, j < k → c.kind.fits (segment.cell j) = true) →
        c.kind.fits (segment.cell k) = false →
        ∃ d, c.scatter segment targets =
            (d, .error (.conversion (segment.cell k).kind c.kind)) ∧
          c.setAll ((targets.zip segment.cells).take k) = (d, .ok ()) ∧
          Spread c segment targets k d) ∧
    (∃ n, n ≤ targets.length ∧ Spread c segment targets n (c.scatter segment targets).1) ∧
    ∀ row, row ∉ targets → (c.scatter segment targets).1.cell row = c.cell row := by
  obtain ⟨n, hn, spread⟩ := exists_spread_scatter c segment targets
  refine ⟨fun hsize => by rw [scatter, if_pos hsize],
    fun hsize row hrow outside => exists_scatter_outside hsize hrow outside,
    fun hsize inside => ⟨scatter_eq_setAll hsize inside, fun hkind => ⟨?_, fun k => ?_⟩,
      exists_scatter_of_fits hsize inside,
      fun k hk fits unfit => exists_scatter_of_not_fits hsize inside hk fits unfit⟩,
    ⟨n, hn, spread⟩, fun row => spread.cell_of_not_mem⟩
  · -- cells of the kind of the column fit it
    exact exists_scatter_of_fits hsize inside fun k _ => hkind ▸ segment.fits_cell k
  · exact hkind ▸ segment.heldAs_cell k

/-- A row that is named twice before the series breaks off holds the second of its cells. -/
theorem scatter_outcome_narrowing :
    ∃ d, (Column.mk "v" (.int32 #[some 1, some 2, some 3])).scatter
        ⟨"w", .int64 #[some 5, some 6, some 2147483648]⟩ [2, 2, 0] =
          (d, .error (.conversion .int64 .int32)) ∧
      d.cell 0 = .int 1 ∧ d.cell 1 = .int 2 ∧ d.cell 2 = .int 6 := by
  obtain ⟨-, -, past, -⟩ := scatter_outcome ⟨"v", .int32 #[some 1, some 2, some 3]⟩
    ⟨"w", .int64 #[some 5, some 6, some 2147483648]⟩ [2, 2, 0]
  obtain ⟨-, -, -, unfit⟩ := past rfl (by decide)
  obtain ⟨d, scattered, -, spread⟩ := unfit 2 (by decide) (by decide) (by decide)
  refine ⟨d, scattered, spread.kept 0 (by decide), spread.kept 1 (by decide),
    spread.last 1 2 (by decide) rfl fun j hj hj' => ?_⟩
  omega

end Column

end WindowQuery
