import WindowQuery.Span

/-!
# Folding over spans

`Span.fold` combines the elements at the positions of a span from left to right. `Span.foldAll`
does so for a list of spans. Where a span starts with the one before it and ends no earlier, it
takes up the result of that one, so frames that only grow cost one pass in all. The results are
those of folding over each span by itself (`Span.foldAll_eq_map`), also for operations such as
the rounding addition of doubles that cannot be regrouped.
-/

namespace WindowQuery.Span

/-- The fold of the elements at the positions of a span, from left to right. -/
@[inline] def fold (s : Span) (f : β → α → β) (init : β) (values : Array α) : β :=
  values.foldl f init s.start s.stop

theorem fold_eq_foldl_slice (s : Span) (f : β → α → β) (init : β) (values : Array α) :
    s.fold f init values = (s.slice values).foldl f init := Array.foldl_eq_foldl_extract

/-- The span begins with another one: what is known of that one can be taken up. -/
def Extends (s last : Span) : Prop :=
  s.start = last.start ∧ last.start ≤ last.stop ∧ last.stop ≤ s.stop

instance (s last : Span) : Decidable (s.Extends last) := inferInstanceAs (Decidable (_ ∧ _))

/-- A fold over a span is continued by a fold over what an extension adds to it. -/
theorem fold_of_extends {s last : Span} (h : s.Extends last) (f : β → α → β) (init : β)
    (values : Array α) :
    (Span.mk last.stop s.stop).fold f (last.fold f init values) values = s.fold f init values := by
  obtain ⟨hstart, hle, hstop⟩ := h
  simp only [fold_eq_foldl_slice, slice, ← Array.foldl_append]
  rw [Array.extract_append_extract, Nat.min_eq_left hle, Nat.max_eq_right hstop, hstart]

/-- The folds over spans, when `total` is the fold over the span before them. -/
@[specialize] def foldAllFrom (f : β → α → β) (init : β) (values : Array α) (last : Span)
    (total : β) : List Span → List β
  | [] => []
  | s :: rest =>
    let total :=
      if s.Extends last then (Span.mk last.stop s.stop).fold f total values
      else s.fold f init values
    total :: foldAllFrom f init values s total rest

/-- The folds over spans. -/
@[inline] def foldAll (f : β → α → β) (init : β) (values : Array α) (spans : List Span) : List β :=
  foldAllFrom f init values ⟨0, 0⟩ init spans

/-- A total that is taken up must be the fold over the span before. -/
theorem foldAllFrom_eq_map (f : β → α → β) (init : β) (values : Array α) (last : Span)
    (spans : List Span) :
    foldAllFrom f init values last (last.fold f init values) spans =
      spans.map fun s => s.fold f init values := by
  induction spans generalizing last with
  | nil => rfl
  | cons s rest ih =>
    have total : (if s.Extends last then
          (Span.mk last.stop s.stop).fold f (last.fold f init values) values
        else s.fold f init values) = s.fold f init values := by
      split
      · exact fold_of_extends ‹_› f init values
      · rfl
    simp only [foldAllFrom, total, ih, List.map_cons]

/-- **Taking up the result of the span before changes nothing.** -/
theorem foldAll_eq_map (f : β → α → β) (init : β) (values : Array α) (spans : List Span) :
    foldAll f init values spans = spans.map fun s => s.fold f init values := by
  have empty : (Span.mk 0 0).fold f init values = init := by
    simp [fold_eq_foldl_slice, slice]
  simpa [foldAll, empty] using foldAllFrom_eq_map f init values ⟨0, 0⟩ spans

end WindowQuery.Span
