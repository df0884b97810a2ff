import WindowQuery.Proofs.Cell.Preorder
import WindowQuery.Proofs.Table.Restrict
import WindowQuery.Window

/-!
# The order of rows

Two rows of a table are compared by sort keys in sequence (`Table.rowOrder`). One row comes
**before** another when the first key on which they differ puts it first (`Table.Before`), and they
**tie** when they are level on every key (`Table.Ties`). A key that sorts downwards reverses its
comparison, so rows without a value come first along an ascending key and last along a descending
one.
-/

namespace WindowQuery

namespace Table

variable (t : Table)

/-- The order of two rows by sort keys. -/
def rowOrder (sortKeys : List SortKey) (r r' : Nat) : Ordering :=
  Cell.orderTuples (sortKeys.map SortKey.ascending) (t.tuple (sortKeys.map SortKey.column) r)
    (t.tuple (sortKeys.map SortKey.column) r')

/-- The order of two rows along one key. -/
def keyOrder (key : SortKey) (r r' : Nat) : Ordering :=
  Cell.orderAlong key.ascending (t.cell key.column r) (t.cell key.column r')

/-- A row comes **before** another: along the first key on which they are not level. -/
inductive Before : List SortKey → Nat → Nat → Prop
  | here {key : SortKey} {rest : List SortKey} {r r' : Nat} (h : t.keyOrder key r r' = .lt) :
    Before (key :: rest) r r'
  | later {key : SortKey} {rest : List SortKey} {r r' : Nat} (h : t.keyOrder key r r' = .eq)
    (hrest : Before rest r r') : Before (key :: rest) r r'

/-- Two rows **tie**: they are level on every key. -/
def Ties (sortKeys : List SortKey) (r r' : Nat) : Prop :=
  ∀ key ∈ sortKeys, t.keyOrder key r r' = .eq

variable {t} {sortKeys : List SortKey} {r r' : Nat}

theorem rowOrder_cons (key : SortKey) (rest : List SortKey) (r r' : Nat) :
    t.rowOrder (key :: rest) r r' = (t.keyOrder key r r').then (t.rowOrder rest r r') := rfl

theorem rowOrder_swap (sortKeys : List SortKey) (r r' : Nat) :
    (t.rowOrder sortKeys r r').swap = t.rowOrder sortKeys r' r := Cell.orderTuples_swap _ _ _

/-- The order of rows says which one comes before the other. -/
theorem rowOrder_eq_lt_iff : t.rowOrder sortKeys r r' = .lt ↔ t.Before sortKeys r r' := by
  induction sortKeys with
  | nil => exact iff_of_false (by simp [rowOrder, Cell.orderTuples]) (fun h => by cases h)
  | cons key rest ih =>
    rw [rowOrder_cons, Ordering.then_eq_lt, ih]
    constructor
    · rintro (h | ⟨h, hrest⟩)
      · exact .here h
      · exact .later h hrest
    · rintro (h | ⟨h, hrest⟩)
      · exact .inl h
      · exact .inr ⟨h, hrest⟩

theorem rowOrder_eq_eq_iff : t.rowOrder sortKeys r r' = .eq ↔ t.Ties sortKeys r r' := by
  induction sortKeys with
  | nil => exact iff_of_true rfl (by simp [Ties])
  | cons key rest ih =>
    rw [rowOrder_cons, Ordering.then_eq_eq, ih, Ties, Ties, List.forall_mem_cons]

theorem rowOrder_eq_gt_iff : t.rowOrder sortKeys r r' = .gt ↔ t.Before sortKeys r' r := by
  rw [← rowOrder_eq_lt_iff, ← t.rowOrder_swap sortKeys r r']
  cases t.rowOrder sortKeys r r' <;> simp

end Table

/-! ### Cells in order -/

/-- Comparison is a total preorder of the cells of a column. Only transitivity can fail. -/
def Source.OrdersCells (s : Source) : Prop :=
  ∀ a ∈ s.cells, ∀ b ∈ s.cells, ∀ c ∈ s.cells, (Cell.order a b).isLE = true →
    (Cell.order b c).isLE = true → (Cell.order a c).isLE = true

namespace Source

/-- A row past the end has no value. -/
theorem cell_mem_cells_or_eq_null (s : Source) (row : Nat) :
    s.cell row ∈ s.cells ∨ s.cell row = .null := by
  by_cases hrow : row < s.size
  · exact .inl (List.mem_map.mpr ⟨row, List.mem_range.mpr hrow, rfl⟩)
  · refine .inr ?_
    have past {α : Type} {values : Array (Option α)} (h : ¬ row < values.size) :
        Storage.value? values row = none := by
      simp [Storage.value?, Array.getElem?_eq_none (Nat.le_of_not_lt h)]
    cases s with
    | typed c =>
      obtain ⟨name, storage⟩ := c
      cases storage <;> simp only [cell, Column.cell, Storage.cell, past hrow, Cell.ofOption_none]
    | loose name kind cells =>
      have hrow' : cells.size ≤ row := Nat.le_of_not_lt hrow
      simp [cell, hrow']

/-- Missing values come first, so a total preorder of the cells is one of all rows. -/
theorem OrdersCells.ordersRows {s : Source} (h : s.OrdersCells) : s.OrdersRows := by
  intro i j k hij hjk
  rcases s.cell_mem_cells_or_eq_null i with hi | hi
  · rcases s.cell_mem_cells_or_eq_null j with hj | hj
    · rcases s.cell_mem_cells_or_eq_null k with hk | hk
      · exact h _ hi _ hj _ hk hij hjk
      · rw [hk, Cell.isLE_order_null_right] at hjk
        rw [hk]
        rwa [hjk] at hij
    · rw [hj, Cell.isLE_order_null_right] at hij
      rw [hij]
      exact Cell.isLE_order_null_left _
  · rw [hi]
    exact Cell.isLE_order_null_left _

/-- A typed column holds cells of one kind, which are totally preordered. -/
theorem ordersCells_typed (c : Column) : (typed c).OrdersCells := by
  have kind : ∀ a ∈ (typed c).cells, a.hasKind c.storage.kind = true := by
    intro a ha
    obtain ⟨row, -, rfl⟩ := List.mem_map.mp ha
    exact c.storage.hasKind_cell row
  intro a ha b hb c hc
  exact Cell.order_isLE_trans_of_hasKind (kind a ha) (kind b hb) (kind c hc)

end Source

/-- The columns of sort keys exist, and comparison is a total preorder of the cells of each. -/
def Table.Orders (t : Table) (sortKeys : List SortKey) : Prop :=
  ∀ key ∈ sortKeys, ∃ s, t.column key.column = .ok s ∧ s.OrdersCells

namespace Table.Orders

variable {t : Table} {sortKeys : List SortKey} (h : t.Orders sortKeys)
include h

theorem of_subset {sortKeys' : List SortKey} (hsub : sortKeys' ⊆ sortKeys) : t.Orders sortKeys' :=
  fun key hkey => h key (hsub hkey)

theorem exists_columnsOf :
    ∃ ss, t.columnsOf (sortKeys.map SortKey.column) = .ok ss ∧ ∀ s ∈ ss, s.OrdersRows := by
  have found : ∀ name ∈ sortKeys.map SortKey.column, ∃ s, t.column name = .ok s := by
    intro name hname
    obtain ⟨key, hkey, rfl⟩ := List.mem_map.mp hname
    exact (h key hkey).imp fun _ hs => hs.1
  obtain ⟨ss, hss⟩ := exists_mapM found
  refine ⟨ss, hss, fun s hs => ?_⟩
  obtain ⟨name, hname, hcolumn⟩ := exists_column_of_mem_columnsOf hss s hs
  obtain ⟨key, hkey, rfl⟩ := List.mem_map.mp hname
  obtain ⟨s', hs', orders⟩ := h key hkey
  cases hs'.symm.trans hcolumn
  exact orders.ordersRows

end Table.Orders

end WindowQuery
