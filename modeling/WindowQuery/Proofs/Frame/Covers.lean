import Mathlib.Tactic.Choose
import WindowQuery.Proofs.Frame.Range
import WindowQuery.Proofs.View.Numbering

/-!
# What a frame covers

Whether the frame of a position can be resolved (`View.Resolves`) and which positions it holds
(`View.Covers`) depends, for RANGE and GROUPS frames of a sorted view, on the order values and on
the numbers of the groups of peers alone: `View.SortedBy.covers_range_iff` says it with the
boundaries of the frame, `View.SortedBy.covers_groups_iff` with the groups that it points at. Slots,
rows and the places where a sort puts equal rows do not occur. Without order a frame covers
everything or nothing.
-/

namespace WindowQuery

/-! ### Frames by value -/

/-- The group of peers that a bound points at from another group. -/
def Bound.group (count g : Nat) : Bound → Except QueryError Nat
  | .unboundedPreceding => .ok 0
  | .preceding o => o.count.map fun n => g - n
  | .currentRow => .ok g
  | .following o => o.count.map fun n => min (g + n) (count - 1)
  | .unboundedFollowing => .ok (count - 1)

/-- Both bounds of a frame **point at groups** from a group of peers. -/
def Frame.Grouped (f : Frame) (count g : Nat) : Prop :=
  (∃ first, f.start.group count g = .ok first) ∧ ∃ last, f.stop.group count g = .ok last

/-- A group of peers lies **between the groups** that a frame points at from another group. -/
def Frame.InGroups (f : Frame) (count g g' : Nat) : Prop :=
  ∃ first last, f.start.group count g = .ok first ∧ f.stop.group count g = .ok last ∧
    first ≤ g' ∧ g' ≤ last

/-- A frame **has boundaries** around an order value. -/
def View.Bounded (v : View) (f : Frame) (x : Cell) : Prop :=
  (∃ low, v.boundary x f.start = .ok low) ∧ ∃ high, v.boundary x f.stop = .ok high

/-- An order value lies **between the boundaries** of a frame around another order value. -/
def View.InRange (v : View) (f : Frame) (x y : Cell) : Prop :=
  ∃ low high, v.boundary x f.start = .ok low ∧ v.boundary x f.stop = .ok high ∧
    (∀ t ∈ low, v.order y t ≠ .lt) ∧ ∀ t ∈ high, v.order y t ≠ .gt

namespace View

/-- The frame of a position can be **resolved**. -/
def Resolves (v : View) (f : Frame) (i : Nat) : Prop := ∃ span, v.frameAt i f = .ok span

/-- The frame of a position **covers** another position. -/
def Covers (v : View) (f : Frame) (i q : Nat) : Prop := ∃ span, v.frameAt i f = .ok span ∧ q ∈ span

/-- Frames that can all be resolved, by position. -/
theorem exists_spans {v : View} {f : Frame} (h : ∀ i < v.size, v.Resolves f i) :
    ∃ span : Nat → Span, ∀ i < v.size, v.frameAt i f = .ok (span i) := by
  have : Nonempty Span := ⟨⟨0, 0⟩⟩
  choose! span hspan using h
  exact ⟨span, hspan⟩

/-- A frame covers what its span holds. -/
theorem mem_iff_covers {v : View} {f : Frame} {i q : Nat} {span : Span}
    (h : v.frameAt i f = .ok span) : q ∈ span ↔ v.Covers f i q := by
  constructor
  · intro hq
    exact ⟨span, h, hq⟩
  · rintro ⟨span', h', hq⟩
    cases h.symm.trans h'
    exact hq

section

variable {v : View} {f : Frame} {i q : Nat} (hi : i < v.size)
include hi

theorem frameAt_eq_map : v.frameAt i f = (v.rawFrameAt i f).map (v.clampFrame f) := by
  rw [frameAt, if_neg (by omega)]

theorem resolves_iff_raw : v.Resolves f i ↔ ∃ raw, v.rawFrameAt i f = .ok raw := by
  rw [Resolves, frameAt_eq_map hi]
  cases v.rawFrameAt i f <;> simp [Except.map]

/-- A frame covers the positions of the view that its two ends leave, as long as it is proper. -/
theorem covers_iff_raw :
    v.Covers f i q ↔ f.Proper ∧ q < v.size ∧ ∃ raw, v.rawFrameAt i f = .ok raw ∧ q ∈ raw := by
  rw [Covers, frameAt_eq_map hi]
  constructor
  · rintro ⟨span, hspan, hq⟩
    obtain ⟨raw, hraw, rfl⟩ := map_eq_ok.mp hspan
    obtain ⟨proper, hq, hmem⟩ := mem_clampFrame_iff.mp hq
    exact ⟨proper, hq, raw, hraw, hmem⟩
  · rintro ⟨proper, hq, raw, hraw, hmem⟩
    exact ⟨_, map_eq_ok.mpr ⟨raw, hraw, rfl⟩, mem_clampFrame_iff.mpr ⟨proper, hq, hmem⟩⟩

omit hi in
/-- Without order a frame that does not count rows is made of the whole partition. -/
theorem rawFrameAt_unordered (hordered : v.isOrdered = false) (hunit : f.unit ≠ .rows) :
    v.rawFrameAt i f = .ok ⟨0, v.size⟩ := by
  unfold rawFrameAt
  cases hf : f.unit with
  | rows => exact absurd hf hunit
  | range | groups => simp [hordered]

end

theorem ends_eq_ok {start stop : Except QueryError Nat} {span : Span} :
    ends start stop = .ok span ↔ start = .ok span.start ∧ stop = .ok span.stop := by
  unfold ends
  rw [bind_eq_ok]
  constructor
  · rintro ⟨a, ha, h⟩
    obtain ⟨b, hb, h⟩ := bind_eq_ok.mp h
    cases h
    exact ⟨ha, hb⟩
  · rintro ⟨ha, hb⟩
    exact ⟨_, ha, bind_eq_ok.mpr ⟨_, hb, rfl⟩⟩

/-- There is a frame when both of its ends resolve. -/
theorem exists_ends_iff {start stop : Except QueryError Nat} :
    (∃ span, ends start stop = .ok span) ↔ (∃ a, start = .ok a) ∧ ∃ b, stop = .ok b := by
  constructor
  · rintro ⟨span, h⟩
    obtain ⟨ha, hb⟩ := ends_eq_ok.mp h
    exact ⟨⟨_, ha⟩, _, hb⟩
  · rintro ⟨⟨a, ha⟩, b, hb⟩
    exact ⟨⟨a, b⟩, ends_eq_ok.mpr ⟨ha, hb⟩⟩

/-! ### RANGE -/

/-- An end can be resolved exactly when there is a boundary. -/
theorem exists_rangeStart_iff {v : View} {i : Nat} {b : Bound} :
    (∃ a, v.rangeStart i b = .ok a) ↔ ∃ low, v.boundary (v.orderValueAt i) b = .ok low := by
  cases b with
  | unboundedPreceding | currentRow | unboundedFollowing => exact iff_of_true ⟨_, rfl⟩ ⟨_, rfl⟩
  | preceding o | following o => exact exists_map_ok.trans exists_map_ok.symm

theorem exists_rangeStop_iff {v : View} {i : Nat} {b : Bound} :
    (∃ a, v.rangeStop i b = .ok a) ↔ ∃ high, v.boundary (v.orderValueAt i) b = .ok high := by
  cases b with
  | unboundedPreceding | currentRow | unboundedFollowing => exact iff_of_true ⟨_, rfl⟩ ⟨_, rfl⟩
  | preceding o | following o => exact exists_map_ok.trans exists_map_ok.symm

end View

/-- A cell moved by an integer keeps its kind. -/
theorem Cell.hasKind_add {kind : Kind} {c d : Cell} {n : Int64} (hc : c.hasKind kind = true)
    (h : c.add (.int n) = .ok d) : d.hasKind kind = true := by
  cases c <;> cases h <;> exact hc

theorem Cell.hasKind_sub {kind : Kind} {c d : Cell} {n : Int64} (hc : c.hasKind kind = true)
    (h : c.sub (.int n) = .ok d) : d.hasKind kind = true := by
  cases c <;> cases h <;> exact hc

namespace View

/-- A boundary at an integer distance is of the kind of the order values. -/
theorem hasKind_boundary {v : View} {kind : Kind} {x : Cell} (hx : x.hasKind kind = true) {b : Bound}
    (hb : ∀ o ∈ b.offset?, ∃ n, o = .int n) {target : Option Cell}
    (h : v.boundary x b = .ok target) : ∀ t ∈ target, t.hasKind kind = true := by
  rintro t rfl
  cases b with
  | unboundedPreceding | unboundedFollowing => cases h
  | currentRow =>
    cases h
    exact hx
  | preceding o =>
    obtain ⟨n, rfl⟩ := hb o rfl
    obtain ⟨t, ht, h⟩ := map_eq_ok.mp h
    cases h
    -- the direction decides between adding and subtracting, and both keep the kind
    unfold stepBack at ht
    split at ht
    · exact Cell.hasKind_sub hx ht
    · exact Cell.hasKind_add hx ht
  | following o =>
    obtain ⟨n, rfl⟩ := hb o rfl
    obtain ⟨t, ht, h⟩ := map_eq_ok.mp h
    cases h
    unfold stepForward at ht
    split at ht
    · exact Cell.hasKind_add hx ht
    · exact Cell.hasKind_sub hx ht

namespace SortedBy

variable {v : View} {sources : List Source} {kind : Kind} (h : v.SortedBy sources)
  (hcells : ∀ q, q < v.size → (v.orderValueAt q).hasKind kind = true) {f : Frame} {i q : Nat}
  (hi : i < v.size)
include h hi

section

variable (hunit : f.unit = .range)
include hunit

/-- **A RANGE frame resolves** around a row without an order value, and where it has boundaries. -/
theorem resolves_range_iff :
    v.Resolves f i ↔ v.orderValueAt i = .null ∨ v.Bounded f (v.orderValueAt i) := by
  rw [resolves_iff_raw hi, h.rawFrameAt_range hunit, ← Cell.isNull_iff]
  split
  case isTrue hnull => exact iff_of_true ⟨_, rfl⟩ (.inl hnull)
  case isFalse hvalue =>
    rw [exists_ends_iff, exists_rangeStart_iff, exists_rangeStop_iff]
    exact (or_iff_right hvalue).symm

include hcells

/-- **A RANGE frame covers** the rows without an order value around one of them, and the rows
between its boundaries around any other. -/
theorem covers_range_iff (hoffsets : ∀ o ∈ f.offsets, ∃ n, o = .int n) (hq : q < v.size) :
    v.Covers f i q ↔ f.Proper ∧
      (v.orderValueAt i = .null ∧ v.orderValueAt q = .null ∨
        v.orderValueAt i ≠ .null ∧ v.InRange f (v.orderValueAt i) (v.orderValueAt q)) := by
  -- what is covered at all is covered by a proper frame
  have proper (hcovers : v.Covers f i q) : f.Proper := ((covers_iff_raw hi).mp hcovers).1
  by_cases hproper : f.Proper
  case neg => exact iff_of_false (fun hcovers => hproper (proper hcovers)) fun h => hproper h.1
  rw [and_iff_right hproper]
  by_cases hnull : v.orderValueAt i = .null
  · obtain ⟨span, hspan, members⟩ :=
      h.frameAt_range_null hcells hi hunit hproper.start hproper.stop hnull
    rw [← mem_iff_covers hspan, members]
    simp [hnull, hq]
  · have around {low high : Option Cell} (hlow : v.boundary (v.orderValueAt i) f.start = .ok low)
        (hhigh : v.boundary (v.orderValueAt i) f.stop = .ok high) :=
      h.frameAt_range hcells hi hunit hproper.start hproper.stop hnull hlow hhigh
        (hasKind_boundary (hcells i hi) (fun o ho => hoffsets o (Frame.mem_offsets_start ho)) hlow)
        (hasKind_boundary (hcells i hi) (fun o ho => hoffsets o (Frame.mem_offsets_stop ho)) hhigh)
    simp only [hnull, false_and, ne_eq, not_false_eq_true, true_and, false_or]
    -- a frame that covers something resolves, so its boundaries are there
    constructor
    · intro hcovers
      have resolves : v.Resolves f i := hcovers.imp fun _ hspan => hspan.1
      obtain ⟨⟨low, hlow⟩, high, hhigh⟩ :=
        ((h.resolves_range_iff hi hunit).mp resolves).resolve_left hnull
      obtain ⟨span, hspan, members⟩ := around hlow hhigh
      obtain ⟨-, between⟩ := (members q).mp ((mem_iff_covers hspan).mpr hcovers)
      exact ⟨low, high, hlow, hhigh, between⟩
    · rintro ⟨low, high, hlow, hhigh, between⟩
      obtain ⟨span, hspan, members⟩ := around hlow hhigh
      exact ⟨span, hspan, (members q).mpr ⟨hq, between⟩⟩

end

/-! ### GROUPS -/

theorem indexOf_lt_count : v.peers.indexOf i < v.peers.count := by
  rw [h.peers_eq]
  exact (Runs.numbers_indexOf _ _).lt i hi

section

variable (hunit : f.unit = .groups)
include hunit

omit hi in
/-- The bounds of a GROUPS frame point at groups by number. -/
theorem rawFrameAt_groups : v.rawFrameAt i f =
    (ends (f.start.group v.peers.count (v.peers.indexOf i))
      (f.stop.group v.peers.count (v.peers.indexOf i))).map v.groupsSpan := by
  have group (b : Bound) : v.groupAt i b = b.group v.peers.count (v.peers.indexOf i) := by
    cases b <;> rfl
  simp [rawFrameAt, hunit, h.isOrdered_eq, group]

/-- **A GROUPS frame resolves** where its bounds point at groups. -/
theorem resolves_groups_iff :
    v.Resolves f i ↔ f.Grouped v.peers.count (v.peers.indexOf i) := by
  rw [resolves_iff_raw hi, h.rawFrameAt_groups hunit, exists_map_ok, exists_ends_iff]
  rfl

omit hi hunit in
/-- A span of groups starts with the first position of its first group. -/
theorem start_groupsSpan_le_iff {groups : Span} (hq : q < v.size) :
    (v.groupsSpan groups).start ≤ q ↔ groups.start ≤ v.peers.indexOf q := by
  have start : (v.groupsSpan groups).start = v.peers.startOf groups.start := by
    unfold groupsSpan
    dsimp only
    split <;> rfl
  rw [start, h.peers_eq]
  exact Runs.startOf_le_iff _ _ hq

omit hi hunit in
/-- It stops behind its last group, or where it starts if that group comes before the first. -/
theorem lt_stop_groupsSpan_iff {groups : Span} (hq : q < v.size) :
    q < (v.groupsSpan groups).stop ↔
      v.peers.indexOf q ≤ groups.stop ∨ v.peers.indexOf q < groups.start := by
  have starts (run : Nat) : v.peers.startOf run ≤ q ↔ run ≤ v.peers.indexOf q := by
    rw [h.peers_eq]
    exact Runs.startOf_le_iff _ run hq
  have start := starts groups.start
  have stop := starts (groups.stop + 1)
  unfold groupsSpan
  dsimp only
  split <;> simp only [Runs.span] <;> omega

omit hi hunit in
/-- The positions from one group to another. -/
theorem mem_groupsSpan_iff {groups : Span} (hq : q < v.size) :
    q ∈ v.groupsSpan groups ↔ groups.start ≤ v.peers.indexOf q ∧ v.peers.indexOf q ≤ groups.stop := by
  rw [Span.mem_iff, h.start_groupsSpan_le_iff hq, h.lt_stop_groupsSpan_iff hq]
  omega

/-- **A GROUPS frame covers** the groups between those that its bounds point at. -/
theorem covers_groups_iff (hq : q < v.size) : v.Covers f i q ↔
    f.Proper ∧ f.InGroups v.peers.count (v.peers.indexOf i) (v.peers.indexOf q) := by
  rw [covers_iff_raw hi, h.rawFrameAt_groups hunit]
  refine and_congr_right fun _ => ?_
  rw [and_iff_right hq]
  constructor
  · rintro ⟨raw, hraw, hmem⟩
    obtain ⟨groups, hgroups, rfl⟩ := map_eq_ok.mp hraw
    obtain ⟨hfirst, hlast⟩ := ends_eq_ok.mp hgroups
    obtain ⟨low, high⟩ := (h.mem_groupsSpan_iff hq).mp hmem
    exact ⟨_, _, hfirst, hlast, low, high⟩
  · rintro ⟨first, last, hfirst, hlast, low, high⟩
    exact ⟨_, map_eq_ok.mpr ⟨⟨first, last⟩, ends_eq_ok.mpr ⟨hfirst, hlast⟩, rfl⟩,
      (h.mem_groupsSpan_iff hq).mpr ⟨low, high⟩⟩

end

end SortedBy

end View

end WindowQuery
