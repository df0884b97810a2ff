/-!
# Spans of positions

A half-open range of logical positions: the rows a frame covers, or one group of peers.
-/

namespace WindowQuery

/-- The positions `p` with `start ≤ p < stop`. -/
structure Span where
  start : Nat
  stop : Nat
deriving DecidableEq, Repr

namespace Span

instance : Membership Nat Span := ⟨fun s p => s.start ≤ p ∧ p < s.stop⟩

theorem mem_iff {s : Span} {p : Nat} : p ∈ s ↔ s.start ≤ p ∧ p < s.stop := Iff.rfl

instance (s : Span) (p : Nat) : Decidable (p ∈ s) := inferInstanceAs (Decidable (_ ∧ _))

/-- How many positions the span covers. -/
def size (s : Span) : Nat := s.stop - s.start

/-- The span covers no position. -/
def isEmpty (s : Span) : Bool := decide (s.stop ≤ s.start)

/-- The positions covered, in order. -/
def positions (s : Span) : List Nat := List.range' s.start s.size

/-- The elements of an array at the positions covered. -/
def slice (s : Span) (values : Array α) : Array α := values.extract s.start s.stop

theorem mem_positions {s : Span} {p : Nat} : p ∈ s.positions ↔ p ∈ s := by
  simp only [positions, size, mem_iff, List.mem_range'_1]
  omega

theorem isEmpty_iff {s : Span} : s.isEmpty = true ↔ ∀ p, p ∉ s := by
  simp only [isEmpty, decide_eq_true_eq, mem_iff]
  constructor
  · intro h p
    omega
  · intro h
    have := h s.start
    omega

end Span

end WindowQuery
