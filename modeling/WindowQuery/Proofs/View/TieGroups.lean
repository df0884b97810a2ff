import WindowQuery.Proofs.View.Lexicographic
import WindowQuery.Proofs.View.Numbering

/-!
# Groups of ties

A sorted view lists its slots group by group (`View.GroupsTies`): rows that tie on every key stand
together, and in order of arrival. A group is therefore an ascending list of slots, which is known
as soon as its members are.
-/

namespace WindowQuery

/-! ### Runs side by side -/

namespace Runs

variable {size : Nat} {same : Nat → Nat → Bool}

theorem startOf_zero (size : Nat) (same : Nat → Nat → Bool) : (ofSame size same).startOf 0 = 0 := by
  simp [startOf_eq_countP]

theorem startOf_mono (size : Nat) (same : Nat → Nat → Bool) {run run' : Nat} (h : run ≤ run') :
    (ofSame size same).startOf run ≤ (ofSame size same).startOf run' := by
  rw [startOf_eq_countP, startOf_eq_countP]
  refine List.countP_mono_left fun q _ hq => ?_
  rw [decide_eq_true_eq] at hq ⊢
  omega

theorem startOf_count (size : Nat) (same : Nat → Nat → Bool) :
    (ofSame size same).startOf (ofSame size same).count = size := by
  rw [startOf_eq_countP, List.countP_eq_length.mpr, List.length_range]
  intro q hq
  exact decide_eq_true ((numbers_indexOf size same).lt q (List.mem_range.mp hq))

/-- The runs before one cover the positions up to its start. -/
theorem flatMap_positions (size : Nat) (same : Nat → Nat → Bool) (run : Nat) :
    (List.range run).flatMap (fun g => ((ofSame size same).span g).positions) =
      List.range ((ofSame size same).startOf run) := by
  induction run with
  | zero => simp [startOf_zero]
  | succ run ih =>
    have mono := startOf_mono size same (Nat.le_succ run)
    rw [List.range_succ, List.flatMap_append, ih, List.flatMap_singleton, Span.positions,
      List.range_eq_range', List.range_eq_range', Span.size]
    have join := List.range'_append_1 (s := 0) (m := (ofSame size same).startOf run)
      (n := (ofSame size same).startOf (run + 1) - (ofSame size same).startOf run)
    rwa [Nat.zero_add, Nat.add_sub_cancel' mono] at join

end Runs

/-! ### Groups of slots -/

namespace View

/-- The slots of one group of ties, in the order of the view. -/
def tieGroup (v : View) (g : Nat) : List Nat := (v.ties.span g).positions.map v.slotAt

/-- The groups of ties of a view, in its order. -/
def tieGroups (v : View) : List (List Nat) := (List.range v.ties.count).map v.tieGroup

/-- The view **groups ties**: its slots are listed group by group, and a group holds the slots of
all rows that tie with one of its rows, in order of arrival. -/
structure GroupsTies (v : View) : Prop where
  flatten : v.tieGroups.flatten = v.slots.toList
  ne_nil : ∀ group ∈ v.tieGroups, group ≠ []
  mem_iff : ∀ group ∈ v.tieGroups, ∀ a ∈ group, ∀ b < v.partition.size, b ∈ group ↔
    v.partition.table.Ties v.sortKeys (v.partition.rowOfSlot a) (v.partition.rowOfSlot b)
  arrival : ∀ group ∈ v.tieGroups, group.Pairwise (· < ·)

namespace SortedBy

variable {v : View} {sources : List Source} (h : v.SortedBy sources)
include h

theorem flatten_tieGroups : v.tieGroups.flatten = v.slots.toList := by
  have positions : (List.range v.ties.count).flatMap (fun g => (v.ties.span g).positions) =
      List.range v.size := by
    rw [h.ties_eq, Runs.flatMap_positions, Runs.startOf_count]
  rw [← v.map_slotAt_range, ← positions, List.map_flatMap]
  rfl

/-- A group of ties holds the slots of its positions. -/
theorem mem_tieGroup_iff {g slot : Nat} :
    slot ∈ v.tieGroup g ↔ ∃ q < v.size, v.ties.indexOf q = g ∧ v.slotAt q = slot := by
  have place {q : Nat} : q ∈ (v.ties.span g).positions ↔ q < v.size ∧ v.ties.indexOf q = g := by
    rw [Span.mem_positions, h.ties_eq]
    constructor
    · intro hq
      have inside : q < v.size := Nat.lt_of_lt_of_le hq.2 (Runs.startOf_le _ _ _)
      exact ⟨inside, (Runs.mem_span_iff inside).mp hq⟩
    · rintro ⟨inside, hq⟩
      exact (Runs.mem_span_iff inside).mpr hq
  simp only [tieGroup, List.mem_map, place, and_assoc]

/-- A slot is in the group of its position only. -/
theorem mem_tieGroup_slotAt_iff {q g : Nat} (hq : q < v.size) :
    v.slotAt q ∈ v.tieGroup g ↔ v.ties.indexOf q = g := by
  rw [h.mem_tieGroup_iff]
  constructor
  · rintro ⟨q', hq', hindex, hslot⟩
    rwa [h.complete.slotAt_inj hq' hq hslot] at hindex
  · intro hindex
    exact ⟨q, hq, hindex, rfl⟩

variable (hsources : ∀ s ∈ sources, s.OrdersRows)
include hsources

/-- Positions are in one group exactly when they are level. -/
theorem indexOf_ties_eq_iff {i j : Nat} (hi : i < v.size) (hj : j < v.size) :
    v.ties.indexOf i = v.ties.indexOf j ↔ v.tieOrder i j = .eq := by
  rw [h.ties_eq]
  exact (h.inOrder_tieOrder hsources).indexOf_eq_iff hi hj

/-- A group keeps the order of arrival. -/
theorem pairwise_tieGroup (g : Nat) : (v.tieGroup g).Pairwise (· < ·) := by
  have ascending : (v.ties.span g).positions.Pairwise (· < ·) := List.pairwise_lt_range' 1
  refine List.pairwise_map.mpr (ascending.imp_of_mem fun {i j} hi hj hij => ?_)
  rw [Span.mem_positions, h.ties_eq] at hi hj
  have hj' : j < v.size := Nat.lt_of_lt_of_le hj.2 (Runs.startOf_le _ _ _)
  have hi' : i < v.size := Nat.lt_trans hij hj'
  have level : v.tieOrder i j = .eq := by
    rw [← h.indexOf_ties_eq_iff hsources hi' hj', h.ties_eq, (Runs.mem_span_iff hi').mp hi,
      (Runs.mem_span_iff hj').mp hj]
  rcases h.precedes_slotAt hsources hij hj' with hlt | ⟨-, hslot⟩
  · cases level.symm.trans hlt
  · exact hslot

/-- **A sorted view groups ties.** -/
theorem groupsTies : v.GroupsTies where
  flatten := h.flatten_tieGroups
  ne_nil group hgroup := by
    obtain ⟨g, hg, rfl⟩ := List.mem_map.mp hgroup
    rw [List.mem_range, h.ties_eq] at hg
    obtain ⟨q, hq, hindex⟩ := (Runs.numbers_indexOf _ _).onto g hg
    rw [← h.ties_eq] at hindex
    exact List.ne_nil_of_mem ((h.mem_tieGroup_slotAt_iff hq).mpr hindex)
  mem_iff group hgroup a ha b hb := by
    obtain ⟨g, -, rfl⟩ := List.mem_map.mp hgroup
    obtain ⟨i, hi, rfl, rfl⟩ := h.mem_tieGroup_iff.mp ha
    obtain ⟨j, hj, rfl⟩ := h.complete.exists_slotAt_eq hb
    rw [h.mem_tieGroup_slotAt_iff hj, eq_comm, h.indexOf_ties_eq_iff hsources hi hj,
      h.tieOrder_eq_rowOrder hi hj, Table.rowOrder_eq_eq_iff]
    rfl
  arrival group hgroup := by
    obtain ⟨g, -, rfl⟩ := List.mem_map.mp hgroup
    exact h.pairwise_tieGroup hsources g

end SortedBy

end View

end WindowQuery
