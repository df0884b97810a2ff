import WindowQuery.Proofs.Table.Restrict
import WindowQuery.Proofs.View.Sorted

/-!
# What a partition is read for

A partition is read through the cells of its slots, by column name, and through nothing else: rows
of the table outside of the partition and the numbers of its rows do not matter. Two partitions
that hold the same cells are **alike** (`Partition.Alike`), and they are ordered in the same way
(`Partition.Alike.sort_eq`).

Rows of a table are alike with all rows of the table restricted to them
(`Partition.alike_restrict`).
-/

namespace WindowQuery

namespace Partition

/-- Two sources hold the same cells in the slots of two partitions. -/
structure ReadAlike (p q : Partition) (s s' : Source) : Prop where
  kind : s.kind = s'.kind
  cell : ∀ slot < p.size, s.cell (p.rowOfSlot slot) = s'.cell (q.rowOfSlot slot)

/-- Two partitions are **alike**: they have the same columns with the same cells in their slots. -/
structure Alike (p q : Partition) : Prop where
  size : p.size = q.size
  column : ∀ name, Option.Rel (p.ReadAlike q) (p.table.column? name) (q.table.column? name)

/-- Rows of a table and all rows of the table restricted to them. -/
theorem alike_restrict (t : Table) (rows : Array Nat) :
    Alike ⟨t, rows⟩ ⟨t.restrict rows.toList, Array.range rows.size⟩ where
  size := by simp [size]
  column name := by
    rw [Table.column?_restrict]
    cases t.column? name with
    | none => exact .none
    | some s =>
      refine .some ⟨(s.kind_restrict _).symm, ?_⟩
      intro slot hslot
      have hrow : slot < rows.size := hslot
      have row : rows.toList[slot]? = some rows[slot] := by simp [hrow]
      rw [rowOfSlot, rowOfSlot, Array.getElem?_range, if_pos hrow, Option.getD_some,
        s.cell_restrict row]
      simp [hrow]

namespace Alike

variable {p q : Partition} (h : p.Alike q) {β : Type}
include h

/-! ### Columns -/

/-- Steps that read a column agree when they do on sources that hold the same cells. -/
theorem column_bind (name : String) {f g : Source → Except QueryError β}
    (hfg : ∀ s s', p.ReadAlike q s s' → f s = g s') :
    p.table.column name >>= f = q.table.column name >>= g := by
  have found := h.column name
  unfold Table.column
  generalize p.table.column? name = a at found ⊢
  generalize q.table.column? name = b at found ⊢
  cases found with
  | none => rfl
  | some hs => exact hfg _ _ hs

/-- Steps that read several columns agree when they do on sources that hold the same cells. -/
theorem columnsOf_bind (names : List String) {f g : List Source → Except QueryError β}
    (hfg : ∀ ss ss', List.Forall₂ (p.ReadAlike q) ss ss' → f ss = g ss') :
    p.table.columnsOf names >>= f = q.table.columnsOf names >>= g := by
  unfold Table.columnsOf
  induction names generalizing f g with
  | nil => exact hfg [] [] .nil
  | cons name names ih =>
    -- what follows the first column is again a step that reads the others
    simp only [List.mapM_cons, bind_assoc, pure_bind]
    exact h.column_bind name fun s s' hs => ih fun ss ss' hss => hfg _ _ (.cons hs hss)

/-! ### Order -/

omit h in
theorem tuple_eq {ss ss' : List Source} (hss : List.Forall₂ (p.ReadAlike q) ss ss') {slot : Nat}
    (hslot : slot < p.size) :
    Source.tuple ss (p.rowOfSlot slot) = Source.tuple ss' (q.rowOfSlot slot) := by
  induction hss with
  | nil => rfl
  | cons hs _ ih => exact congrArg₂ List.cons (hs.cell slot hslot) ih

theorem keyTuples_eq {ss ss' : List Source} (hss : List.Forall₂ (p.ReadAlike q) ss ss') :
    p.keyTuples ss = q.keyTuples ss' := by
  refine Array.ext ?_ fun slot hp hq => ?_
  · rw [keyTuples, keyTuples, Array.size_map, Array.size_map]
    exact h.size
  · have hp' : slot < p.rows.size := by simpa [keyTuples] using hp
    have hq' : slot < q.rows.size := by simpa [keyTuples] using hq
    have tuple := tuple_eq hss hp'
    rw [rowOfSlot, rowOfSlot] at tuple
    simpa [keyTuples, hp', hq'] using tuple

end Alike

end Partition

/-- The same arrangement of another partition. -/
def View.onto (v : View) (q : Partition) : View := { v with partition := q }

namespace Partition.Alike

variable {p q : Partition} (h : p.Alike q)
include h

theorem viewBy_eq {ss ss' : List Source} (hss : List.Forall₂ (p.ReadAlike q) ss ss')
    (sortKeys : List SortKey) (threshold : Nat) :
    q.viewBy sortKeys ss' threshold = (p.viewBy sortKeys ss threshold).onto q := by
  unfold viewBy View.onto
  rw [← h.keyTuples_eq hss, ← h.size]

/-- **Alike partitions are ordered in the same way.** -/
theorem sort_eq (sortKeys : List SortKey) (threshold : Nat) :
    q.sort sortKeys threshold = (p.sort sortKeys threshold).map fun v => v.onto q := by
  cases sortKeys with
  | nil =>
    have arrival : q.arrivalView = p.arrivalView.onto q := by
      rw [arrivalView, ← h.size]
      rfl
    exact congrArg Except.ok arrival
  | cons key rest =>
    have built := h.columnsOf_bind ((key :: rest).map SortKey.column)
      (f := fun ss => .ok ((p.viewBy (key :: rest) ss threshold).onto q))
      (g := fun ss => .ok (q.viewBy (key :: rest) ss threshold))
      fun ss ss' hss => congrArg Except.ok (h.viewBy_eq hss _ _).symm
    refine built.symm.trans ?_
    rw [sort, if_neg (by simp)]
    cases p.table.columnsOf ((key :: rest).map SortKey.column) <;> rfl

end Partition.Alike

end WindowQuery
