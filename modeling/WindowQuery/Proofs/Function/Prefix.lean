import Mathlib
import WindowQuery.Function.Compute

/-!
# Running sums and running counts

Sums and counts over frames are differences of running ones: a vector of running totals **answers**
a span when both ends of the span are places in the vector and the totals there differ by what is
asked for (`Answers`). For counts this is exact as it stands (`answers_countsFrom`). For integers it
is exact because they **wrap** (`Wraps`): addition and subtraction commute with the reduction of
unbounded integers to the width at hand, so the difference of two running sums is the reduced sum of
the numbers between them, even where the running sums have wrapped themselves
(`Wraps.answers_runningSums`).
-/

namespace WindowQuery

/-! ### Running totals -/

section

variable {α : Type} {sub : α → α → α} {totals : List α} {s : Span} {a : α}

/-- A vector of running totals **answers** a span with the difference of the totals at both ends. -/
def Answers (sub : α → α → α) (totals : List α) (s : Span) (a : α) : Prop :=
  ∃ low high, totals[s.start]? = some low ∧ totals[s.stop]? = some high ∧ sub high low = a

theorem Answers.sub_getD (h : Answers sub totals s a) (default : α) :
    sub (totals.toArray[s.stop]?.getD default) (totals.toArray[s.start]?.getD default) = a := by
  obtain ⟨low, high, hlow, hhigh, rfl⟩ := h
  rw [List.getElem?_toArray, List.getElem?_toArray, hlow, hhigh]
  rfl

/-- A longer prefix is a shorter one and the slice between their ends. -/
theorem take_eq_append_slice (values : Array α) (h : s.start ≤ s.stop) :
    values.toList.take s.stop = values.toList.take s.start ++ (s.slice values).toList := by
  have slice : (s.slice values).toList = (values.toList.take s.stop).drop s.start := by
    simp [Span.slice, List.drop_take, List.extract_eq_take_drop]
  have shorter : (values.toList.take s.stop).take s.start = values.toList.take s.start := by
    rw [List.take_take, Nat.min_eq_left h]
  rw [slice, ← shorter, List.take_append_drop]

end

/-! ### Sums -/

section

variable {α : Type}

/-- A running sum is the sum of the values so far. -/
theorem getElem?_runningSums (add : α → α → α) (total : α) {values : List (Option α)} {k : Nat}
    (hk : k ≤ values.length) :
    (runningSums add total values)[k]? = some ((values.take k).foldl (addPresent add) total) := by
  induction values generalizing total k with
  | nil =>
    obtain rfl := Nat.le_zero.mp hk
    rfl
  | cons v rest ih =>
    cases k with
    | zero => rfl
    | succ k =>
      rw [runningSums, List.getElem?_cons_succ, ih _ (Nat.le_of_succ_le_succ hk),
        List.take_succ_cons, List.foldl_cons]

/-- The sum of the numbers present, as unbounded integers. -/
def presentSum (toInt : α → Int) (values : List (Option α)) : Int :=
  (values.filterMap fun v => v.map toInt).sum

theorem presentSum_append (toInt : α → Int) (xs ys : List (Option α)) :
    presentSum toInt (xs ++ ys) = presentSum toInt xs + presentSum toInt ys := by
  rw [presentSum, List.filterMap_append, List.sum_append]
  rfl

theorem presentSum_cons_some (toInt : α → Int) (a : α) (xs : List (Option α)) :
    presentSum toInt (some a :: xs) = toInt a + presentSum toInt xs := List.sum_cons

/-- Numbers that **wrap around**: arithmetic is that of unbounded integers, reduced. -/
structure Wraps (ofInt : Int → α) (toInt : α → Int) (zero : α) (add sub : α → α → α) : Prop where
  ofInt_toInt : ∀ a, ofInt (toInt a) = a
  ofInt_zero : ofInt 0 = zero
  ofInt_add : ∀ m n, ofInt (m + n) = add (ofInt m) (ofInt n)
  ofInt_sub : ∀ m n, ofInt (m - n) = sub (ofInt m) (ofInt n)

theorem wraps_int32 : Wraps Int32.ofInt Int32.toInt 0 (· + ·) (· - ·) :=
  ⟨Int32.ofInt_toInt, rfl, Int32.ofInt_add, Int32.ofInt_sub⟩

theorem wraps_int64 : Wraps Int64.ofInt Int64.toInt 0 (· + ·) (· - ·) :=
  ⟨Int64.ofInt_toInt, rfl, Int64.ofInt_add, Int64.ofInt_sub⟩

namespace Wraps

variable {ofInt : Int → α} {toInt : α → Int} {zero : α} {add sub : α → α → α}
  (h : Wraps ofInt toInt zero add sub)
include h

/-- Numbers that are reduced before they are added give their reduced sum. -/
theorem foldl_addPresent {β : Type} (read : β → Int) (n : Int) (values : List (Option β)) :
    (values.map (Option.map fun b => ofInt (read b))).foldl (addPresent add) (ofInt n) =
      ofInt (n + presentSum read values) := by
  induction values generalizing n with
  | nil => simp [presentSum]
  | cons v rest ih =>
    cases v with
    | none => exact ih n
    | some b =>
      have step : addPresent add (ofInt n) (some (ofInt (read b))) = ofInt (n + read b) :=
        (h.ofInt_add n (read b)).symm
      rw [List.map_cons, List.foldl_cons, Option.map_some, step, ih, presentSum_cons_some,
        Int.add_assoc]

/-- Numbers added one after the other give their reduced sum. -/
theorem foldl_eq (values : List (Option α)) :
    values.foldl (addPresent add) zero = ofInt (presentSum toInt values) := by
  have sum := h.foldl_addPresent toInt 0 values
  have reduced : (Option.map fun a => ofInt (toInt a)) = (id : Option α → Option α) := by
    funext v
    simp [h.ofInt_toInt]
  rwa [reduced, List.map_id, h.ofInt_zero, Int.zero_add] at sum

/-- **The difference of two running sums is the sum between them**, left to right. -/
theorem answers_runningSums (values : Array (Option α)) {s : Span} (hle : s.start ≤ s.stop)
    (hstop : s.stop ≤ values.size) :
    Answers sub (runningSums add zero values.toList) s
      ((s.slice values).foldl (addPresent add) zero) := by
  refine ⟨_, _, getElem?_runningSums add zero (Nat.le_trans hle hstop),
    getElem?_runningSums add zero hstop, ?_⟩
  rw [h.foldl_eq, h.foldl_eq, ← h.ofInt_sub, take_eq_append_slice values hle, presentSum_append,
    add_sub_cancel_left, ← Array.foldl_toList, h.foldl_eq]

/-- The sum over each span, from left to right. -/
theorem sumsByDifference_eq_foldl (values : Array (Option α)) {spans : List Span}
    (hspans : ∀ s ∈ spans, s.start ≤ s.stop ∧ s.stop ≤ values.size) :
    sumsByDifference add sub zero values spans =
      spans.map fun s => (s.slice values).foldl (addPresent add) zero := by
  refine List.map_congr_left ?_
  intro s hs
  exact (h.answers_runningSums values (hspans s hs).1 (hspans s hs).2).sub_getD zero

/-- The sum over each span, reduced. -/
theorem sumsByDifference_eq (values : Array (Option α)) {spans : List Span}
    (hspans : ∀ s ∈ spans, s.start ≤ s.stop ∧ s.stop ≤ values.size) :
    sumsByDifference add sub zero values spans =
      spans.map fun s => ofInt (presentSum toInt (s.slice values).toList) := by
  rw [h.sumsByDifference_eq_foldl values hspans]
  refine List.map_congr_left ?_
  intro s hs
  rw [← Array.foldl_toList, h.foldl_eq]

end Wraps

end

/-! ### Counts -/

/-- A running count counts the values so far. -/
theorem getElem?_countsFrom (seen : Nat) {nulls : List Bool} {k : Nat} (hk : k ≤ nulls.length) :
    (countsFrom seen nulls)[k]? = some (seen + (nulls.take k).countP fun isNull => !isNull) := by
  induction nulls generalizing seen k with
  | nil =>
    obtain rfl := Nat.le_zero.mp hk
    rfl
  | cons isNull rest ih =>
    cases k with
    | zero => rfl
    | succ k =>
      have hk' : k ≤ rest.length := Nat.le_of_succ_le_succ hk
      rw [countsFrom, List.getElem?_cons_succ, List.take_succ_cons, ih _ hk', List.countP_cons]
      cases isNull with
      | true => rfl
      | false =>
        rw [if_neg Bool.false_ne_true, if_pos (by rfl)]
        exact congrArg some (by omega)

/-- **The difference of two running counts is the count between them.** -/
theorem answers_countsFrom (nulls : Array Bool) {s : Span} (h : s.start ≤ s.stop)
    (hstop : s.stop ≤ nulls.size) :
    Answers (· - ·) (countsFrom 0 nulls.toList) s
      ((s.slice nulls).toList.countP fun isNull => !isNull) := by
  refine ⟨_, _, getElem?_countsFrom 0 (Nat.le_trans h hstop), getElem?_countsFrom 0 hstop, ?_⟩
  rw [take_eq_append_slice nulls h, List.countP_append, Nat.zero_add, Nat.zero_add]
  exact Nat.add_sub_cancel_left ..

theorem countsFrom_sub (nulls : Array Bool) {s : Span} (h : s.start ≤ s.stop)
    (hstop : s.stop ≤ nulls.size) :
    (countsFrom 0 nulls.toList).toArray[s.stop]?.getD 0 -
        (countsFrom 0 nulls.toList).toArray[s.start]?.getD 0 =
      (s.slice nulls).toList.countP fun isNull => !isNull :=
  (answers_countsFrom nulls h hstop).sub_getD 0

end WindowQuery
