import WindowQuery.Proofs.Frame.Rows

/-!
# Frames that fail to resolve

Only a bound at a distance can fail, and it fails for its offset alone: each function that resolves
a bound has a **flaw** for an offset (`Faults`), the error that it gives for any bound with this
offset. ROWS and GROUPS find fault with an offset that is not a count, RANGE with every offset when
the order value is not numeric. A frame resolves its start first, so its error is the flaw of the
first of its offsets that has one (`ends_eq_error`).

What remains is when bounds are not resolved at all: RANGE and GROUPS in a view without order, and
RANGE at a position without an order value.
-/

namespace WindowQuery

/-! ### Offsets -/

/-- The offset cannot be read as a number of rows. -/
def Offset.isUncounted (o : Offset) : Bool := o.count?.isNone

/-- These are the offsets that are not integers from zero on. -/
theorem Offset.isUncounted_iff {o : Offset} :
    o.isUncounted = true ↔ ¬ ∃ n : Int64, o = .int n ∧ 0 ≤ n.toInt := by
  cases o <;> simp [isUncounted, count?]

theorem Offset.count_eq_error {o : Offset} {e : QueryError} :
    o.count = .error e ↔ o.isUncounted = true ∧ .invalidArgument (.notACount o) = e := by
  rw [count, isUncounted]
  cases o.count? <;> simp

/-- Adding an offset to a cell fails where the cell is not numeric. -/
theorem Cell.add_eq_error {c : Cell} {o : Offset} {e : QueryError} :
    c.add o.toCell = .error e ↔ c.isNumeric = false ∧ .nonNumericOffset c.kind = e := by
  cases c <;> cases o <;> simp [add, Offset.toCell, isNumeric, nonNumeric]

theorem Cell.sub_eq_error {c : Cell} {o : Offset} {e : QueryError} :
    c.sub o.toCell = .error e ↔ c.isNumeric = false ∧ .nonNumericOffset c.kind = e := by
  cases c <;> cases o <;> simp [sub, Offset.toCell, isNumeric, nonNumeric]

/-! ### Bounds -/

/-- A function that resolves a bound finds **fault** with offsets only: it fails with the flaw of
the offset of the bound, and gives a result where there is no offset or no flaw in it. -/
def Faults (resolve : Bound → Except QueryError Nat) (flaw : Offset → Option QueryError) : Prop :=
  ∀ b e, resolve b = .error e ↔ b.offset?.bind flaw = some e

/-- The flaw of an offset that should be a count. -/
def Offset.countFlaw (o : Offset) : Option QueryError :=
  if o.isUncounted then some (.invalidArgument (.notACount o)) else none

/-- The flaw of an offset that should be added to a cell. -/
def Cell.distanceFlaw (c : Cell) (_ : Offset) : Option QueryError :=
  if c.isNumeric then none else some (.nonNumericOffset c.kind)

/-- Both ends of a frame fail with the flaw of its first offset that has one. -/
theorem ends_eq_error {start stop : Bound → Except QueryError Nat}
    {flaw : Offset → Option QueryError} (hstart : Faults start flaw) (hstop : Faults stop flaw)
    (f : Frame) (e : QueryError) :
    View.ends (start f.start) (stop f.stop) = .error e ↔ f.offsets.findSome? flaw = some e := by
  have first : f.offsets.findSome? flaw =
      (f.start.offset?.bind flaw).or (f.stop.offset?.bind flaw) := by
    rw [Frame.offsets, List.findSome?_append]
    cases f.start.offset? <;> cases f.stop.offset? <;> simp
  rw [first, View.ends]
  cases hx : start f.start with
  | error e' =>
    rw [(hstart _ _).mp hx]
    exact (Except.error.injEq e' e).to_iff.trans (Option.some.injEq e' e).to_iff.symm
  | ok n =>
    have flawless : f.start.offset?.bind flaw = none := by
      refine Option.eq_none_iff_forall_ne_some.mpr fun e' he' => ?_
      rw [(hstart _ _).mpr he'] at hx
      cases hx
    rw [flawless, Option.none_or, ← hstop]
    cases stop f.stop <;> simp [bind, Except.bind, pure, Except.pure]

/-- The first flaw among the offsets of a frame is that of the first one that is not a count. -/
theorem Frame.findSome?_countFlaw {f : Frame} {e : QueryError} :
    f.offsets.findSome? Offset.countFlaw = some e ↔
      ∃ o, f.offsets.find? Offset.isUncounted = some o ∧
        .invalidArgument (.notACount o) = e := by
  have guarded : Offset.countFlaw = Option.map (fun o => .invalidArgument (.notACount o)) ∘
      Option.guard Offset.isUncounted := by
    funext o
    by_cases h : o.isUncounted = true <;> simp [Offset.countFlaw, Option.guard, h]
  rw [guarded, ← List.map_findSome?, List.findSome?_guard, Option.map_eq_some_iff]

/-- Every offset of a frame is flawed as a distance from a cell that is not numeric. -/
theorem Frame.findSome?_distanceFlaw {f : Frame} {c : Cell} {e : QueryError} :
    f.offsets.findSome? c.distanceFlaw = some e ↔
      c.isNumeric = false ∧ f.offsets ≠ [] ∧ .nonNumericOffset c.kind = e := by
  cases hc : c.isNumeric with
  | true =>
    have flawless : f.offsets.findSome? c.distanceFlaw = none :=
      List.findSome?_eq_none_iff.mpr fun o _ => by simp [Cell.distanceFlaw, hc]
    simp [flawless]
  | false => cases f.offsets <;> simp [Cell.distanceFlaw, hc]

namespace View

variable (v : View) (i : Nat)

theorem faults_rowsStart : Faults (v.rowsStart i) Offset.countFlaw := by
  rintro (- | o | - | o | -) e <;>
    simp [rowsStart, Bound.offset?, Offset.countFlaw, map_eq_error, Offset.count_eq_error]

theorem faults_rowsStop : Faults (v.rowsStop i) Offset.countFlaw := by
  rintro (- | o | - | o | -) e <;>
    simp [rowsStop, Bound.offset?, Offset.countFlaw, map_eq_error, Offset.count_eq_error]

theorem faults_groupAt : Faults (v.groupAt i) Offset.countFlaw := by
  rintro (- | o | - | o | -) e <;>
    simp [groupAt, Bound.offset?, Offset.countFlaw, map_eq_error, Offset.count_eq_error]

/-- A step in either direction fails where the cell is not numeric. -/
theorem stepBack_eq_error {c : Cell} {o : Offset} {e : QueryError} :
    v.stepBack c o = .error e ↔ c.distanceFlaw o = some e := by
  rw [stepBack, Cell.distanceFlaw]
  split <;> cases hc : c.isNumeric <;> simp [Cell.add_eq_error, Cell.sub_eq_error, hc]

theorem stepForward_eq_error {c : Cell} {o : Offset} {e : QueryError} :
    v.stepForward c o = .error e ↔ c.distanceFlaw o = some e := by
  rw [stepForward, Cell.distanceFlaw]
  split <;> cases hc : c.isNumeric <;> simp [Cell.add_eq_error, Cell.sub_eq_error, hc]

theorem faults_rangeStart : Faults (v.rangeStart i) (v.orderValueAt i).distanceFlaw := by
  rintro (- | o | - | o | -) e <;>
    simp [rangeStart, Bound.offset?, map_eq_error, stepBack_eq_error, stepForward_eq_error]

theorem faults_rangeStop : Faults (v.rangeStop i) (v.orderValueAt i).distanceFlaw := by
  rintro (- | o | - | o | -) e <;>
    simp [rangeStop, Bound.offset?, map_eq_error, stepBack_eq_error, stepForward_eq_error]

variable {v i}

/-- When the frame of a position **fails** to resolve, and with which error. -/
inductive Fails (v : View) (i : Nat) (f : Frame) : QueryError → Prop where
  /-- Rows or groups are counted, and this is the first offset that is not a count. -/
  | uncounted {o : Offset} (hunit : f.unit = .rows ∨ f.unit = .groups ∧ v.isOrdered = true)
      (ho : f.offsets.find? Offset.isUncounted = some o) :
    Fails v i f (.invalidArgument (.notACount o))
  /-- A distance is measured from an order value that is there but not numeric. -/
  | unmeasured (hunit : f.unit = .range) (hordered : v.isOrdered = true)
      (hnull : (v.orderValueAt i).isNull = false)
      (hnumeric : (v.orderValueAt i).isNumeric = false) (hoffsets : f.offsets ≠ []) :
    Fails v i f (.nonNumericOffset (v.orderValueAt i).kind)

section

variable {f : Frame} {e : QueryError}

/-- A frame that counts fails with the first of its offsets that cannot be counted. -/
theorem fails_iff_countFlaw (hunit : f.unit = .rows ∨ f.unit = .groups ∧ v.isOrdered = true) :
    v.Fails i f e ↔ f.offsets.findSome? Offset.countFlaw = some e := by
  rw [Frame.findSome?_countFlaw]
  constructor
  · rintro (⟨-, ho⟩ | ⟨hrange, -⟩)
    · exact ⟨_, ho, rfl⟩
    · rcases hunit with h | ⟨h, -⟩ <;> cases hrange.symm.trans h
  · rintro ⟨o, ho, rfl⟩
    exact .uncounted hunit ho

/-- A frame that measures fails with the first of its offsets, if the order value is no number. -/
theorem fails_iff_distanceFlaw (hunit : f.unit = .range) (hordered : v.isOrdered = true)
    (hnull : (v.orderValueAt i).isNull = false) :
    v.Fails i f e ↔ f.offsets.findSome? (v.orderValueAt i).distanceFlaw = some e := by
  rw [Frame.findSome?_distanceFlaw]
  constructor
  · rintro (⟨h | ⟨h, -⟩, -⟩ | ⟨-, -, -, hnumeric, hoffsets⟩)
    · cases hunit.symm.trans h
    · cases hunit.symm.trans h
    · exact ⟨hnumeric, hoffsets, rfl⟩
  · rintro ⟨hnumeric, hoffsets, rfl⟩
    exact .unmeasured hunit hordered hnull hnumeric hoffsets

/-- Where bounds are not resolved, nothing fails. -/
theorem not_fails (hunit : f.unit ≠ .rows)
    (h : v.isOrdered = false ∨ f.unit = .range ∧ (v.orderValueAt i).isNull = true) :
    ¬ v.Fails i f e := by
  rintro (⟨hrows | ⟨hgroups, hordered⟩, -⟩ | ⟨-, hordered, hnull, -⟩)
  · exact hunit hrows
  · rcases h with h | ⟨hrange, -⟩
    · simp [h] at hordered
    · cases hrange.symm.trans hgroups
  · rcases h with h | ⟨-, h⟩
    · simp [h] at hordered
    · simp [h] at hnull

/-- The two ends fail as the whole frame is said to, the start before the end. -/
theorem rawFrameAt_eq_error : v.rawFrameAt i f = .error e ↔ v.Fails i f e := by
  unfold rawFrameAt
  cases hunit : f.unit with
  | rows =>
    rw [fails_iff_countFlaw (.inl hunit)]
    exact ends_eq_error (v.faults_rowsStart i) (v.faults_rowsStop i) f e
  | range =>
    have hrows : f.unit ≠ .rows := by simp [hunit]
    cases hordered : v.isOrdered with
    | false => exact iff_of_false (by simp) (not_fails hrows (.inl hordered))
    | true =>
      cases hnull : (v.orderValueAt i).isNull with
      | true => exact iff_of_false (by simp) (not_fails hrows (.inr ⟨hunit, hnull⟩))
      | false =>
        rw [fails_iff_distanceFlaw hunit hordered hnull]
        exact ends_eq_error (v.faults_rangeStart i) (v.faults_rangeStop i) f e
  | groups =>
    have hrows : f.unit ≠ .rows := by simp [hunit]
    cases hordered : v.isOrdered with
    | false => exact iff_of_false (by simp) (not_fails hrows (.inl hordered))
    | true =>
      rw [fails_iff_countFlaw (.inr ⟨hunit, hordered⟩)]
      exact map_eq_error.trans (ends_eq_error (v.faults_groupAt i) (v.faults_groupAt i) f e)

/-- A frame that passes its check has no offset to be counted that is not a count. -/
theorem Fails.range_of_check (hcheck : f.check = .ok ()) (h : v.Fails i f e) :
    f.unit = .range := by
  cases h with
  | @uncounted o hunit ho =>
    have passes := forM_eq_ok.mp hcheck o (List.mem_of_find?_eq_some ho)
    have counted : ∃ n, o.count = .ok n := by
      rcases hunit with h | ⟨h, -⟩ <;> rw [h] at passes <;> exact exists_map_ok.mp ⟨_, passes⟩
    obtain ⟨n, hn⟩ := counted
    rw [Offset.count_eq_error.mpr ⟨List.find?_some ho, rfl⟩] at hn
    cases hn
  | unmeasured hrange => exact hrange

/-- **When frames fail.** The frame of a position fails to resolve exactly when it counts rows, or
groups along an order, and one of its offsets is not an integer from zero on, or when it measures a
distance from an order value that is there but not numeric. The error names the offset or the kind
of the value. Of a frame that passes its check only the second is left. -/
theorem frameAt_eq_error (hi : i < v.size) :
    (∀ e, v.frameAt i f = .error e ↔ v.Fails i f e) ∧
    ((∃ e, v.frameAt i f = .error e) ↔
      (f.unit = .rows ∨ f.unit = .groups ∧ v.isOrdered = true) ∧
        (∃ o ∈ f.offsets, ¬ ∃ n : Int64, o = .int n ∧ 0 ≤ n.toInt) ∨
      f.unit = .range ∧ v.isOrdered = true ∧ (v.orderValueAt i).isNull = false ∧
        (v.orderValueAt i).isNumeric = false ∧ f.offsets ≠ []) ∧
    (f.check = .ok () → ∀ e, v.frameAt i f = .error e →
      e = .nonNumericOffset (v.orderValueAt i).kind ∧ f.unit = .range ∧ v.isOrdered = true ∧
        (v.orderValueAt i).isNull = false ∧ f.offsets ≠ []) := by
  -- cutting a frame to the view never fails
  have fails (e : QueryError) : v.frameAt i f = .error e ↔ v.Fails i f e := by
    rw [frameAt, if_neg (by omega), map_eq_error, rawFrameAt_eq_error]
  refine ⟨fails, ?_, fun hcheck e he => ?_⟩
  · simp only [fails]
    constructor
    · rintro ⟨_, ⟨hunit, ho⟩ | ⟨hunit, hordered, hnull, hnumeric, hoffsets⟩⟩
      · exact .inl ⟨hunit, _, List.mem_of_find?_eq_some ho,
          Offset.isUncounted_iff.mp (List.find?_some ho)⟩
      · exact .inr ⟨hunit, hordered, hnull, hnumeric, hoffsets⟩
    · rintro (⟨hunit, o, ho, huncounted⟩ | ⟨hunit, hordered, hnull, hnumeric, hoffsets⟩)
      · obtain ⟨first, hfirst⟩ := Option.isSome_iff_exists.mp
          (List.find?_isSome.mpr ⟨o, ho, Offset.isUncounted_iff.mpr huncounted⟩)
        exact ⟨_, .uncounted hunit hfirst⟩
      · exact ⟨_, .unmeasured hunit hordered hnull hnumeric hoffsets⟩
  · have hrange := ((fails e).mp he).range_of_check hcheck
    obtain ⟨h | ⟨h, -⟩, -⟩ | ⟨hunit, hordered, hnull, hnumeric, hoffsets⟩ := (fails e).mp he
    · cases hrange.symm.trans h
    · cases hrange.symm.trans h
    · exact ⟨rfl, hunit, hordered, hnull, hoffsets⟩

end

/-- Grades, one of them missing. -/
private def grades : Column := ⟨"grade", .text #[some "b", none, some "a"]⟩

private def gradesPartition : Partition := ⟨⟨[.typed grades], [("grade", 0)]⟩, #[0, 1, 2]⟩

/-- The grades in order, the missing one first. -/
private def gradesView : View := gradesPartition.viewBy [⟨"grade", true⟩] [.typed grades] 4

private theorem gradesView_values :
    gradesView.size = 3 ∧ gradesView.orderValueAt 0 = .null ∧
      gradesView.orderValueAt 1 = .text "a" := by
  cbv

/-- A distance from a grade, the same one from no grade, and an offset below zero. -/
theorem frameAt_eq_error_grades :
    gradesPartition.sort [⟨"grade", true⟩] 4 = .ok gradesView ∧
      gradesView.frameAt 1 ⟨.range, .preceding (.int 1), .currentRow⟩ =
        .error (.nonNumericOffset .text) ∧
      (¬ ∃ e, gradesView.frameAt 0 ⟨.range, .preceding (.int 1), .currentRow⟩ = .error e) ∧
      gradesView.frameAt 2 ⟨.groups, .currentRow, .following (.int (-1))⟩ =
        .error (.invalidArgument (.notACount (.int (-1)))) := by
  obtain ⟨hsize, v0, v1⟩ := gradesView_values
  have inside : 0 < gradesView.size ∧ 1 < gradesView.size ∧ 2 < gradesView.size := by
    rw [hsize]
    decide
  refine ⟨rfl, ?_, fun hfails => ?_, ?_⟩
  · have unmeasured : gradesView.Fails 1 ⟨.range, .preceding (.int 1), .currentRow⟩ _ :=
      .unmeasured rfl rfl (by rw [v1]; rfl) (by rw [v1]; rfl) (by decide)
    rw [v1] at unmeasured
    exact ((frameAt_eq_error inside.2.1).1 _).mpr unmeasured
  · rcases (frameAt_eq_error inside.1).2.1.mp hfails with ⟨h | ⟨h, -⟩, -⟩ | ⟨-, -, hnull, -⟩
    · cases h
    · cases h
    · rw [v0] at hnull
      cases hnull
  · exact ((frameAt_eq_error inside.2.2).1 _).mpr (.uncounted (.inr ⟨rfl, rfl⟩) rfl)

end View

end WindowQuery
