import WindowQuery.Proofs.Function.Segment
import WindowQuery.Proofs.View.Matching

/-!
# Rankings by groups of ties

What a ranking gives for a position is a function of the number of its group of ties and of the
place of this group among the rows (`Ranking.cell_storageOf`). Views with matching ties therefore
rank positions that correspond alike (`View.TiesMatch.cell_storageOf`), whatever order a sort leaves
tied rows in.
-/

namespace WindowQuery

/-- The cell of a **ranking** in a group of ties: by the number of the group and its place among
some number of rows. -/
def Ranking.cellOf (r : Ranking) (rows group : Nat) (place : Span) : Cell :=
  match r with
  | .rank => .int (Int64.ofNat (place.start + 1))
  | .denseRank => .int (Int64.ofNat (group + 1))
  | .percentRank =>
    .float (if rows ≤ 1 then 0 else Binary64.ofNat place.start / Binary64.ofNat (rows - 1))
  | .cumeDist => .float (Binary64.ofNat place.stop / Binary64.ofNat rows)

section

variable {v : View} (hv : v.Complete) {p : Nat} (hp : p < v.size)
include hv hp

theorem View.value?_byTies {α : Type} (g : Nat → Span → α) :
    Storage.value? (v.layout (v.byTies g)) (v.slotAt p) =
      some (g (v.ties.indexOf p) (v.ties.spanAt p)) :=
  value?_layout hv (getElem?_map_positions hp _) (by simp [byTies, positions])

/-- **A ranking ranks groups of ties.** -/
theorem Ranking.cell_storageOf (r : Ranking) : (r.storageOf v).cell (v.slotAt p) =
    r.cellOf v.size (v.ties.indexOf p) (v.ties.spanAt p) := by
  cases r <;> simp only [storageOf, Storage.cell, View.value?_byTies hv hp, cellOf,
    Cell.ofOption_some]

end

/-- Positions that correspond are ranked alike. -/
theorem View.TiesMatch.cell_storageOf {v v' : View} {π : Nat → Nat} (h : v.TiesMatch v' π)
    (hsize : v'.size = v.size) (hπ : Rearranges v.size π) (hv : v.Complete) (hv' : v'.Complete)
    (r : Ranking) : ∀ i < v.size,
      (r.storageOf v').cell (v'.slotAt i) = (r.storageOf v).cell (v.slotAt (π i)) := by
  intro i hi
  have hi' : i < v'.size := by rwa [hsize]
  rw [r.cell_storageOf hv (hπ.lt i hi), r.cell_storageOf hv' hi', Runs.spanAt, Runs.spanAt,
    h.indexOf i hi, h.span, hsize]

end WindowQuery
