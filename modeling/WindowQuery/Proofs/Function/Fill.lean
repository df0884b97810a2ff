import WindowQuery.Proofs.Column.Writing
import WindowQuery.Proofs.Function.Segment
import WindowQuery.Proofs.View.Numbering

/-!
# Filling a column position by position

A column is filled in the order of positions, but what comes of it can be said position by position:
it is filled exactly when for each position there is a cell, or none, that the column keeps
(`View.exists_fill_iff`), and the slot of the position then holds what is kept
(`View.takes_of_fill`). A position that is given no cell keeps NULL, so no cell is as good as NULL
here. Cells that all fit are filled in (`View.exists_fill`), and a failure tells of one that does
not (`View.fill_eq_error`). Views in different orders that give the same for each slot fill the same
column, or none (`View.exists_fill_iff_of_slots`, `View.cell_fill_eq_of_slots`).
-/

namespace WindowQuery

theorem Storage.cell_nulls (kind : Kind) (rows row : Nat) : (nulls kind rows).cell row = .null := by
  have missing {α : Type} : value? (Array.replicate rows (none : Option α)) row = none := by
    rw [value?, Array.getElem?_replicate]
    split <;> rfl
  cases kind <;> simp only [nulls, cell, missing, Cell.ofOption_none]

/-- A column stored as a kind is takes what fits the kind. -/
theorem Kind.fits_stored (kind : Kind) (c : Cell) : kind.stored.fits c = kind.fits c := by
  cases kind <;> cases c <;> rfl

namespace View

variable {v : View} {cellFor : Nat → Except QueryError (Option Cell)} {out d : Column} {p : Nat}

/-- Writes the cell given for one position to its slot, if there is one. -/
def write (v : View) (cellFor : Nat → Except QueryError (Option Cell)) (out : Column) (p : Nat) :
    Except QueryError Column := do
  match ← cellFor p with
  | some c => out.set (v.slotAt p) c
  | none => return out

theorem fill_eq (v : View) (name : String) (kind : Kind)
    (cellFor : Nat → Except QueryError (Option Cell)) :
    v.fill name kind cellFor =
      v.positions.foldlM (v.write cellFor) (Column.nulls name kind v.size) := rfl

/-- What is given for a position by the cell of a column at another position, or by a default where
there is none. -/
def shiftedCell (v : View) (s : Source) (default : Cell) (target : Nat → Option Nat) (p : Nat) :
    Except QueryError (Option Cell) :=
  match target p with
  | some q => .ok (some (v.cellAt s q))
  | none => .ok (some default)

theorem shifted_eq (v : View) (name column : String) (default : Cell) (target : Nat → Option Nat) :
    v.shifted name column default target = v.partition.table.column column >>= fun s =>
      v.fill name s.kind (v.shiftedCell s default target) := rfl

/-- A column of a kind **takes** what is given for a position, and keeps this cell of it. -/
def Takes (cellFor : Nat → Except QueryError (Option Cell)) (kind : Kind) (p : Nat) (kept : Cell) :
    Prop :=
  ∃ given, cellFor p = .ok given ∧ kind.keeps? (given.getD .null) = some kept

theorem Takes.unique {kind : Kind} {kept kept' : Cell} (h : Takes cellFor kind p kept)
    (h' : Takes cellFor kind p kept') : kept = kept' := by
  obtain ⟨given, hgiven, hkept⟩ := h
  obtain ⟨given', hgiven', hkept'⟩ := h'
  cases hgiven.symm.trans hgiven'
  exact Option.some.inj (hkept.symm.trans hkept')

theorem keeps?_null (kind : Kind) : kind.keeps? .null = some .null := by cases kind <;> rfl

/-! ### One position -/

/-- A write succeeds when the column keeps the cell that the position is given. -/
theorem exists_write_iff (hslot : v.slotAt p < out.size) :
    (∃ d, v.write cellFor out p = .ok d) ↔ ∃ kept, Takes cellFor out.kind p kept := by
  unfold write Takes
  cases hgiven : cellFor p with
  | error e => simp [bind, Except.bind]
  | ok given =>
    cases given with
    | none => simp [bind, Except.bind, pure, Except.pure, keeps?_null]
    | some c => simpa [bind, Except.bind] using Column.exists_set_iff hslot

/-- A write leaves what the column keeps at the slot of the position, and nothing elsewhere. -/
theorem takes_of_write (hnull : out.cell (v.slotAt p) = .null) (h : v.write cellFor out p = .ok d) :
    Takes cellFor out.kind p (d.cell (v.slotAt p)) ∧
      ∀ row, row ≠ v.slotAt p → d.cell row = out.cell row := by
  obtain ⟨given, hgiven, h⟩ := bind_eq_ok.mp h
  cases given with
  | none =>
    cases h
    exact ⟨⟨none, hgiven, by rw [hnull]; exact keeps?_null _⟩, fun _ _ => rfl⟩
  | some c =>
    obtain ⟨kept, others⟩ := Column.keeps?_of_set h
    exact ⟨⟨some c, hgiven, kept⟩, others⟩

theorem kind_write (h : v.write cellFor out p = .ok d) : d.kind = out.kind ∧ d.size = out.size := by
  obtain ⟨given, -, h⟩ := bind_eq_ok.mp h
  cases given with
  | none =>
    cases h
    exact ⟨rfl, rfl⟩
  | some c => exact ⟨Column.kind_set h, Column.size_set h⟩

/-! ### All positions -/

/-- A series of writes succeeds when each of them would by itself. -/
theorem exists_foldlM_write_iff {ps : List Nat} (hslots : ∀ p ∈ ps, v.slotAt p < out.size) :
    (∃ d, ps.foldlM (v.write cellFor) out = .ok d) ↔
      ∀ p ∈ ps, ∃ kept, Takes cellFor out.kind p kept := by
  induction ps generalizing out with
  | nil => exact iff_of_true ⟨out, rfl⟩ (by simp)
  | cons p ps ih =>
    obtain ⟨hslot, hslots⟩ := List.forall_mem_cons.mp hslots
    rw [List.forall_mem_cons, ← exists_write_iff hslot]
    simp only [List.foldlM_cons, bind_eq_ok]
    constructor
    · rintro ⟨d, out', hout', hd⟩
      obtain ⟨kind, size⟩ := kind_write hout'
      refine ⟨⟨out', hout'⟩, ?_⟩
      rw [← kind]
      exact (ih (by rwa [size])).mp ⟨d, hd⟩
    · rintro ⟨⟨out', hout'⟩, later⟩
      obtain ⟨kind, size⟩ := kind_write hout'
      rw [← kind] at later
      obtain ⟨d, hd⟩ := (ih (by rwa [size])).mpr later
      exact ⟨d, out', hout', hd⟩

/-- What is written for a position stays, since no other position has its slot. -/
theorem takes_of_foldlM_write {ps : List Nat} (once : (ps.map v.slotAt).Nodup)
    (hnull : ∀ p ∈ ps, out.cell (v.slotAt p) = .null)
    (h : ps.foldlM (v.write cellFor) out = .ok d) :
    (∀ p ∈ ps, Takes cellFor out.kind p (d.cell (v.slotAt p))) ∧
      ∀ row, row ∉ ps.map v.slotAt → d.cell row = out.cell row := by
  induction ps generalizing out with
  | nil =>
    cases h
    exact ⟨by simp, fun _ _ => rfl⟩
  | cons p ps ih =>
    rw [List.map_cons, List.nodup_cons] at once
    obtain ⟨hnull, hnulls⟩ := List.forall_mem_cons.mp hnull
    rw [List.foldlM_cons] at h
    obtain ⟨out', hout', hd⟩ := bind_eq_ok.mp h
    obtain ⟨taken, others⟩ := takes_of_write hnull hout'
    have apart : ∀ q ∈ ps, v.slotAt q ≠ v.slotAt p := fun q hq heq =>
      once.1 (List.mem_map.mpr ⟨q, hq, heq⟩)
    obtain ⟨later, rest⟩ := ih once.2
      (fun q hq => (others _ (apart q hq)).trans (hnulls q hq)) hd
    refine ⟨List.forall_mem_cons.mpr ⟨?_, fun q hq => ?_⟩, fun row hrow => ?_⟩
    · -- no later position writes to this slot
      rw [rest _ once.1]
      exact taken
    · rw [← (kind_write hout').1]
      exact later q hq
    · rw [List.map_cons, List.mem_cons, not_or] at hrow
      exact (rest row hrow.2).trans (others row hrow.1)

section

variable (hv : v.Complete) {name : String} {kind : Kind}
include hv

/-- **A column can be filled** exactly when it takes what is given for each position. -/
theorem exists_fill_iff :
    (∃ c, v.fill name kind cellFor = .ok c) ↔ ∀ p < v.size, ∃ kept, Takes cellFor kind p kept := by
  have inside : ∀ p ∈ v.positions, v.slotAt p < (Column.nulls name kind v.size).size := by
    intro p hp
    rw [Column.size_nulls, hv.size_eq]
    exact hv.slotAt_lt (List.mem_range.mp hp)
  rw [fill_eq, exists_foldlM_write_iff inside]
  simp only [positions, List.mem_range, Takes, Column.kind, Column.nulls, Kind.keeps?_kind_nulls]

/-- The slot of a position holds what is kept of the cell given for it. -/
theorem takes_of_fill {c : Column} (h : v.fill name kind cellFor = .ok c) (hp : p < v.size) :
    Takes cellFor kind p (c.cell (v.slotAt p)) := by
  have once : (v.positions.map v.slotAt).Nodup := by
    rw [positions, map_slotAt_range]
    exact hv.nodup_slots
  have nulls : ∀ q ∈ v.positions, (Column.nulls name kind v.size).cell (v.slotAt q) = .null :=
    fun q _ => Storage.cell_nulls kind v.size (v.slotAt q)
  obtain ⟨taken, -⟩ := takes_of_foldlM_write once nulls h
  obtain ⟨given, hgiven, kept⟩ := taken p (List.mem_range.mpr hp)
  exact ⟨given, hgiven, (Kind.keeps?_kind_nulls ..).symm.trans kept⟩

/-- **Cells that fit are filled in**, and held at the slots of their positions. -/
theorem exists_fill {given : Nat → Option Cell} (hgiven : ∀ p < v.size, cellFor p = .ok (given p))
    (fits : ∀ p < v.size, kind.fits ((given p).getD .null) = true) :
    ∃ c, v.fill name kind cellFor = .ok c ∧ v.IsSegment kind c ∧
      ∀ p < v.size, c.cell (v.slotAt p) = ((given p).getD .null).heldAs kind := by
  have takes : ∀ p < v.size, Takes cellFor kind p (((given p).getD .null).heldAs kind) :=
    fun p hp => ⟨given p, hgiven p hp, by rw [Kind.keeps?_eq, if_pos (fits p hp)]⟩
  have filled : ∃ c, v.fill name kind cellFor = .ok c :=
    (exists_fill_iff hv).mpr fun p hp => ⟨_, takes p hp⟩
  obtain ⟨c, hc⟩ := filled
  exact ⟨c, hc, isSegment_fill hc, fun p hp => (takes_of_fill hv hc hp).unique (takes p hp)⟩

/-- **A column is not filled** past a position that is given an error or a cell that does not
fit. -/
theorem fill_eq_error {e : QueryError} (h : v.fill name kind cellFor = .error e) :
    ∃ p < v.size, cellFor p = .error e ∨ ∃ c, cellFor p = .ok (some c) ∧
      kind.fits c = false ∧ e = .conversion c.kind kind.stored := by
  rw [fill_eq] at h
  obtain ⟨earlier, p, later, out, hsplit, hout, h⟩ := foldlM_eq_error.mp h
  have hp : p < v.size := List.mem_range.mp (by rw [← positions, hsplit]; simp)
  have same : out.kind = kind.stored ∧ out.size = v.size :=
    foldlM_invariant (P := fun out => out.kind = kind.stored ∧ out.size = v.size)
      (fun _ _ _ kept h => ⟨(kind_write h).1.trans kept.1, (kind_write h).2.trans kept.2⟩)
      ⟨Storage.kind_nulls kind v.size, Column.size_nulls name kind v.size⟩ hout
  refine ⟨p, hp, ?_⟩
  rcases bind_eq_error.mp h with hgiven | ⟨given, hgiven, h⟩
  · exact .inl hgiven
  cases given with
  | none => cases h
  | some c =>
    have hslot : v.slotAt p < out.size := by
      rw [same.2, hv.size_eq]
      exact hv.slotAt_lt hp
    obtain ⟨unfit, he⟩ := Column.set_eq_error hslot h
    rw [same.1] at unfit he
    exact .inr ⟨c, hgiven, by rwa [Kind.fits_stored] at unfit, he⟩

end

/-! ### Two orders -/

section

variable {v' : View} (hv : v.Complete) (hv' : v'.Complete)
  (hpartition : v'.partition = v.partition) {π : Nat → Nat} (hπ : Rearranges v.size π)
  {name name' : String} {kind : Kind} {cellFor' : Nat → Except QueryError (Option Cell)}
  (cells : ∀ q < v.size, cellFor (π q) = cellFor' q)
include hv hv' hpartition hπ cells

/-- Where the same is given for each slot, both orders can be filled or neither. -/
theorem exists_fill_iff_of_slots :
    (∃ c, v.fill name kind cellFor = .ok c) ↔ ∃ c, v'.fill name' kind cellFor' = .ok c := by
  have size : v'.size = v.size := by rw [hv.size_eq, hv'.size_eq, hpartition]
  have takes {q : Nat} (hq : q < v.size) {kept : Cell} :
      Takes cellFor kind (π q) kept ↔ Takes cellFor' kind q kept := by
    rw [Takes, Takes, cells q hq]
  rw [exists_fill_iff hv, exists_fill_iff hv', size]
  constructor
  · intro all q hq
    exact (all _ (hπ.lt q hq)).imp fun _ => (takes hq).mp
  · intro all p hp
    obtain ⟨q, hq, rfl⟩ := hπ.onto p hp
    exact (all q hq).imp fun _ => (takes hq).mpr

/-- Both then hold the same cells. -/
theorem cell_fill_eq_of_slots (slots : ∀ q < v.size, v.slotAt (π q) = v'.slotAt q) {c c' : Column}
    (h : v.fill name kind cellFor = .ok c) (h' : v'.fill name' kind cellFor' = .ok c') {slot : Nat}
    (hslot : slot < v.partition.size) : c.cell slot = c'.cell slot := by
  have size : v'.size = v.size := by rw [hv.size_eq, hv'.size_eq, hpartition]
  rw [← hpartition] at hslot
  obtain ⟨q, hq, rfl⟩ := hv'.exists_slotAt_eq hslot
  rw [size] at hq
  have taken := takes_of_fill hv h (hπ.lt q hq)
  have taken' := takes_of_fill hv' h' (size ▸ hq)
  rw [Takes, cells q hq, slots q hq] at taken
  exact Takes.unique taken taken'

end

end View

end WindowQuery
