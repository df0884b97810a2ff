import WindowQuery.Proofs.Frame.Rows
import WindowQuery.Proofs.View.Counting

/-!
# Membership in GROUPS frames

The groups of peers in a sorted view are numbered like its distinct order values: there are as many
groups as distinct values, and the number of a group is the number of distinct values that come
before its own (`View.SortedBy.indexOf_peers`). Any list that holds one position of every run counts
the runs in this way (`Runs.InOrder.map_indexOf_perm`).

A GROUPS frame therefore holds the rows whose value has a number between those that its bounds lead
to, and these are cut to the numbers that there are (`View.mem_frameAt_groups`).
-/

namespace WindowQuery

/-! ### One position of every run -/

/-- What is left out of a list for what is kept agrees with something that is kept. -/
theorem exists_mem_pwFilter {α : Type} {R : α → α → Prop} [DecidableRel R] (self : ∀ a, ¬ R a a)
    {l : List α} : ∀ a ∈ l, ∃ b ∈ l.pwFilter R, ¬ R a b := by
  induction l with
  | nil => simp
  | cons a l ih =>
    by_cases hkept : ∀ b ∈ l.pwFilter R, R a b
    · rw [List.pwFilter_cons_of_pos hkept, List.forall_mem_cons]
      refine ⟨⟨a, List.mem_cons_self, self a⟩, fun a' ha' => ?_⟩
      obtain ⟨b, hb, hagrees⟩ := ih a' ha'
      exact ⟨b, List.mem_cons_of_mem a hb, hagrees⟩
    · rw [List.pwFilter_cons_of_neg hkept, List.forall_mem_cons]
      simp only [not_forall] at hkept
      obtain ⟨b, hb, hagrees⟩ := hkept
      exact ⟨⟨b, hb, hagrees⟩, ih⟩

namespace Runs

/-- Positions that **stand for** the runs of a sequence, one of each. -/
structure Represents (size : Nat) (order : Nat → Nat → Ordering) (ps : List Nat) : Prop where
  lt : ∀ p ∈ ps, p < size
  apart : ps.Pairwise fun p q => order p q ≠ .eq
  covers : ∀ q < size, ∃ p ∈ ps, order q p = .eq

namespace InOrder

variable {size : Nat} {order : Nat → Nat → Ordering} (h : InOrder size order) {ps : List Nat}
  (hps : Represents size order ps)
include h hps

/-- **Positions that stand for the runs** have the numbers of the runs, each once. -/
theorem map_indexOf_perm : (ps.map (ofSame size (level order)).indexOf).Perm
    (List.range (ofSame size (level order)).count) := by
  have numbers := numbers_indexOf size (level order)
  have once : (ps.map (ofSame size (level order)).indexOf).Nodup := by
    rw [List.Nodup, List.pairwise_map]
    refine hps.apart.imp_of_mem ?_
    intro p q hp hq hne heq
    exact hne ((h.indexOf_eq_iff (hps.lt p hp) (hps.lt q hq)).mp heq)
  rw [List.perm_ext_iff_of_nodup once List.nodup_range]
  intro n
  rw [List.mem_map, List.mem_range]
  constructor
  · rintro ⟨p, hp, rfl⟩
    exact numbers.lt p (hps.lt p hp)
  · intro hn
    obtain ⟨q, hq, rfl⟩ := numbers.onto n hn
    obtain ⟨p, hp, hlevel⟩ := hps.covers q hq
    exact ⟨p, hp, ((h.indexOf_eq_iff hq (hps.lt p hp)).mpr hlevel).symm⟩

theorem count_eq_length : (ofSame size (level order)).count = ps.length := by
  have length := (h.map_indexOf_perm hps).length_eq
  rw [List.length_map, List.length_range] at length
  exact length.symm

/-- The number of a run is the number of runs that come before it. -/
theorem indexOf_eq_countP_of_represents {q : Nat} (hq : q < size) :
    (ofSame size (level order)).indexOf q = ps.countP fun p => order p q == .lt := by
  have bound := Nat.le_of_lt ((numbers_indexOf size (level order)).lt q hq)
  rw [← countP_lt_range bound, ← (h.map_indexOf_perm hps).countP_eq, List.countP_map]
  refine List.countP_congr fun p hp => ?_
  rw [Function.comp_apply, decide_eq_true_eq, beq_iff_eq, h.indexOf_lt_iff (hps.lt p hp) hq]

end InOrder

end Runs

/-! ### Groups by value -/

namespace View

/-- The **distinct order values** of a view. Of values that are level one is listed. -/
def distinctValues (v : View) : List Cell :=
  (v.positions.map v.orderValueAt).pwFilter fun a b => v.order a b ≠ .eq

/-- How many distinct order values come before that of a position. -/
def valuesBefore (v : View) (q : Nat) : Nat :=
  v.distinctValues.countP fun c => v.order c (v.orderValueAt q) == .lt

/-- The distinct order values are found at positions that stand for the groups of peers. -/
theorem exists_represents (v : View) : ∃ ps, v.distinctValues = ps.map v.orderValueAt ∧
    Runs.Represents v.size v.peerOrder ps := by
  refine ⟨v.positions.pwFilter fun p q => v.peerOrder p q ≠ .eq, List.pwFilter_map _ _, ?_,
    List.pairwise_pwFilter _, ?_⟩
  · exact fun p hp => List.mem_range.mp (List.pwFilter_subset _ hp)
  · intro q hq
    obtain ⟨p, hp, hlevel⟩ := exists_mem_pwFilter (R := fun p q => v.peerOrder p q ≠ .eq)
      (fun q => by simp [peerOrder, order, Cell.orderAlong]) q (List.mem_range.mpr hq)
    exact ⟨p, hp, not_not.mp hlevel⟩

namespace SortedBy

variable {v : View} {sources : List Source} (h : v.SortedBy sources) (hpeers : v.OrdersPeers)
include h hpeers

theorem count_peers : v.peers.count = v.distinctValues.length := by
  obtain ⟨ps, hvalues, hps⟩ := v.exists_represents
  rw [h.peers_eq, (h.inOrder_peerOrder hpeers).count_eq_length hps, hvalues, List.length_map]

/-- **Groups of peers are numbered by value.** -/
theorem indexOf_peers {q : Nat} (hq : q < v.size) : v.peers.indexOf q = v.valuesBefore q := by
  obtain ⟨ps, hvalues, hps⟩ := v.exists_represents
  rw [h.peers_eq, (h.inOrder_peerOrder hpeers).indexOf_eq_countP_of_represents hps hq, valuesBefore,
    hvalues, List.countP_map]
  rfl

end SortedBy

end View

/-! ### Bounds of GROUPS frames -/

namespace Bound

/-- The number that a bound leads to from a number among others, cut to the numbers that there
are. -/
def targetGroup (count g : Int) : Bound → Int
  | unboundedPreceding => 0
  | preceding o => max 0 (g - o.distance)
  | currentRow => g
  | following o => min (g + o.distance) (count - 1)
  | unboundedFollowing => count - 1

/-- A counted bound points at the group that it leads to. -/
theorem Counted.exists_group {b : Bound} (hb : b.Counted) {count g : Nat} (hg : g < count) :
    ∃ k, b.group count g = .ok k ∧ (k : Int) = b.targetGroup count g := by
  cases b with
  | unboundedPreceding => exact ⟨0, rfl, rfl⟩
  | preceding o =>
    obtain ⟨n, hn, hdistance⟩ := hb.exists_count rfl
    refine ⟨g - n, by rw [group, hn]; rfl, ?_⟩
    rw [targetGroup, hdistance]
    omega
  | currentRow => exact ⟨g, rfl, rfl⟩
  | following o =>
    obtain ⟨n, hn, hdistance⟩ := hb.exists_count rfl
    refine ⟨min (g + n) (count - 1), by rw [group, hn]; rfl, ?_⟩
    rw [targetGroup, hdistance]
    omega
  | unboundedFollowing =>
    refine ⟨count - 1, rfl, ?_⟩
    rw [targetGroup]
    omega

end Bound

namespace View

namespace SortedBy

variable {v : View} {sources : List Source} (h : v.SortedBy sources) {f : Frame}
  (hunit : f.unit = .groups) (hf : f.Counted) {i : Nat} (hi : i < v.size)
include h hunit hf hi

/-- A GROUPS frame is made of the groups that its bounds lead to. -/
theorem exists_rawFrameAt_groups : ∃ first last : Nat,
    v.rawFrameAt i f = .ok (v.groupsSpan ⟨first, last⟩) ∧
      first = f.start.targetGroup v.peers.count (v.peers.indexOf i) ∧
        last = f.stop.targetGroup v.peers.count (v.peers.indexOf i) := by
  have hg := h.indexOf_lt_count hi
  obtain ⟨first, hfirst, firstTarget⟩ := hf.start.exists_group hg
  obtain ⟨last, hlast, lastTarget⟩ := hf.stop.exists_group hg
  refine ⟨first, last, ?_, firstTarget, lastTarget⟩
  rw [h.rawFrameAt_groups hunit, hfirst, hlast]
  rfl

/-- A GROUPS frame of a sorted view holds the rows whose value is numbered between the groups that
its bounds lead to. -/
theorem exists_frameAt_groups (hpeers : v.OrdersPeers) (hproper : f.Proper) :
    ∃ span, v.frameAt i f = .ok span ∧ ∀ q, q ∈ span ↔ q < v.size ∧
      f.start.targetGroup v.distinctValues.length (v.valuesBefore i) ≤ v.valuesBefore q ∧
        v.valuesBefore q ≤ f.stop.targetGroup v.distinctValues.length (v.valuesBefore i) := by
  obtain ⟨first, last, hraw, hfirst, hlast⟩ := h.exists_rawFrameAt_groups hunit hf hi
  rw [h.count_peers hpeers, h.indexOf_peers hpeers hi] at hfirst hlast
  refine ⟨v.clampFrame f (v.groupsSpan ⟨first, last⟩), frameAt_eq_ok hi hraw, fun q => ?_⟩
  rw [mem_clampFrame hproper.start hproper.stop]
  refine and_congr_right fun hq => ?_
  rw [h.mem_groupsSpan_iff hq, h.indexOf_peers hpeers hq, ← hfirst, ← hlast, Nat.cast_le,
    Nat.cast_le]

end SortedBy

section

variable {v : View} {f : Frame} {i : Nat} (hi : i < v.size)
include hi

/-- Without order a frame that does not count rows is the whole partition. -/
theorem frameAt_unordered (hordered : v.isOrdered = false) (hunit : f.unit ≠ .rows)
    (hproper : f.Proper) : v.frameAt i f = .ok ⟨0, v.size⟩ := by
  rw [frameAt_eq_ok hi (rawFrameAt_unordered hordered hunit)]
  simp [clampFrame, hproper.start, hproper.stop]

/-- A frame that starts after everything or ends before everything is empty in every unit. -/
theorem isEmpty_of_not_proper (hproper : ¬ f.Proper) {span : Span}
    (hspan : v.frameAt i f = .ok span) : span.isEmpty = true := by
  rw [Span.isEmpty_iff]
  intro q hq
  exact hproper ((covers_iff_raw hi).mp ((mem_iff_covers hspan).mp hq)).1

/-- **GROUPS frames by membership.** In a sorted view a GROUPS frame with offsets that are counted
resolves, and holds the rows whose value is numbered between the groups that its bounds lead to.
Without order a RANGE or GROUPS frame is the whole partition. In every unit a frame that starts
after everything or ends before everything is empty. -/
theorem mem_frameAt_groups :
    (∀ {p : Partition} {sortKeys : List SortKey} {threshold : Nat},
      p.sort sortKeys threshold = .ok v → sortKeys ≠ [] → v.OrdersPeers → f.unit = .groups →
        f.Counted → f.Proper → ∃ span, v.frameAt i f = .ok span ∧ ∀ q, q ∈ span ↔ q < v.size ∧
          f.start.targetGroup v.distinctValues.length (v.valuesBefore i) ≤ v.valuesBefore q ∧
            v.valuesBefore q ≤
              f.stop.targetGroup v.distinctValues.length (v.valuesBefore i)) ∧
    (v.isOrdered = false → f.unit ≠ .rows → f.Proper → v.frameAt i f = .ok ⟨0, v.size⟩) ∧
    (¬ f.Proper → ∀ span, v.frameAt i f = .ok span → span.isEmpty = true) := by
  refine ⟨fun hsort hkeys hpeers hunit hf hproper => ?_, frameAt_unordered hi,
    fun hproper _ => isEmpty_of_not_proper hi hproper⟩
  obtain ⟨-, -, ⟨rfl, -⟩ | ⟨sources, h⟩⟩ := Partition.sort_eq_ok hsort
  · exact absurd rfl hkeys
  · exact h.exists_frameAt_groups hunit hf hi hpeers hproper

end

/-- Marks by letter, one of them missing. -/
private def marks : Column := ⟨"mark", .text #[some "c", some "a", none, some "b", some "b"]⟩

private def marksPartition : Partition := ⟨⟨[.typed marks], [("mark", 0)]⟩, #[0, 1, 2, 3, 4]⟩

/-- The marks from the lowest letter to the highest, the missing one first. -/
private def marksView : View := marksPartition.viewBy [⟨"mark", true⟩] [.typed marks] 2

private theorem marksView_values :
    marksView.size = 5 ∧
      (List.range 5).all (fun q => (marksView.orderValueAt q).hasKind .text) = true ∧
      marksView.distinctValues.length = 4 ∧ marksView.valuesBefore 0 = 0 ∧
      marksView.valuesBefore 1 = 1 ∧ marksView.valuesBefore 2 = 2 ∧
      marksView.valuesBefore 3 = 2 ∧ marksView.valuesBefore 4 = 3 := by
  cbv

/-- A frame that would end behind the last group ends with it. Without an order the whole partition
is covered, and an end in front of all rows leaves nothing. -/
theorem mem_frameAt_groups_marks :
    marksPartition.sort [⟨"mark", true⟩] 2 = .ok marksView ∧
    (∃ span, marksView.frameAt 2 ⟨.groups, .preceding (.int 1), .following (.int 5)⟩ = .ok span ∧
      ∀ q, q ∈ span ↔ 1 ≤ q ∧ q < 5) ∧
    marksPartition.arrivalView.frameAt 2 ⟨.range, .currentRow, .following (.int 5)⟩ = .ok ⟨0, 5⟩ ∧
    ∀ span, marksView.frameAt 2 ⟨.rows, .preceding (.int 1), .unboundedPreceding⟩ = .ok span →
      span.isEmpty = true := by
  have hsort : marksPartition.sort [⟨"mark", true⟩] 2 = .ok marksView := rfl
  obtain ⟨hsize, kinds, distinct, v0, v1, v2, v3, v4⟩ := marksView_values
  have inside : 2 < marksView.size := by rw [hsize]; decide
  have hpeers : marksView.OrdersPeers := ordersPeers_of_hasKind fun q hq =>
    List.all_eq_true.mp kinds q (List.mem_range.mpr (hsize ▸ hq))
  refine ⟨hsort, ?_, ?_, ?_⟩
  · obtain ⟨span, hspan, members⟩ :=
      (mem_frameAt_groups (f := ⟨.groups, .preceding (.int 1), .following (.int 5)⟩) inside).1
        hsort (List.cons_ne_nil _ _) hpeers rfl (by decide) ⟨by decide, by decide⟩
    refine ⟨span, hspan, fun q => ?_⟩
    rw [members, hsize, distinct, v2]
    rcases Nat.lt_or_ge q 5 with hq | hq
    · match q, hq with
      | 0, _ => rw [v0]; decide
      | 1, _ => rw [v1]; decide
      | 2, _ => rw [v2]; decide
      | 3, _ => rw [v3]; decide
      | 4, _ => rw [v4]; decide
    · exact iff_of_false (fun h => by omega) (by omega)
  · exact (mem_frameAt_groups (v := marksPartition.arrivalView) (by decide)).2.1 rfl (by decide)
      ⟨by decide, by decide⟩
  · exact (mem_frameAt_groups inside).2.2 fun hproper => hproper.stop rfl

end View

end WindowQuery
