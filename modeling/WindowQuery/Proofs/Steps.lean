import Mathlib.Data.List.Forall2
import WindowQuery.QueryError

/-!
# Steps that can fail

A chain of steps gives a result exactly when each step does. These lemmas take such chains apart:
two steps (`bind_eq_ok`), a step and a plain function (`map_eq_ok`), and a step for every element
of a list, with a result (`mapM_eq_ok`) or without (`forM_eq_ok`). A chain that carries a state
along a list keeps what each of its steps keeps (`foldlM_invariant`) and fails at the first step
that fails (`foldlM_eq_error`). A chain whose steps fail in one kind of way fails in no other
(`FailsOnly`).
-/

namespace WindowQuery

variable {ε α β γ : Type}

/-- A chain of two steps succeeds when both do. -/
theorem bind_eq_ok {x : Except ε α} {f : α → Except ε β} {b : β} :
    x >>= f = .ok b ↔ ∃ a, x = .ok a ∧ f a = .ok b := by
  cases x with
  | error e => simp [bind, Except.bind]
  | ok a => simp [bind, Except.bind]

theorem map_eq_ok {x : Except ε α} {f : α → β} {b : β} :
    x.map f = .ok b ↔ ∃ a, x = .ok a ∧ f a = b := by
  cases x with
  | error e => simp [Except.map]
  | ok a => simp [Except.map]

theorem exists_map_ok {x : Except ε α} {f : α → β} :
    (∃ b, x.map f = .ok b) ↔ ∃ a, x = .ok a := by
  cases x with
  | error e => simp [Except.map]
  | ok a => simp [Except.map]

theorem map_eq_error {x : Except ε α} {f : α → β} {e : ε} : x.map f = .error e ↔ x = .error e := by
  cases x <;> simp [Except.map]

/-- A step fails exactly when it gives no result. -/
theorem exists_error_iff {x : Except ε α} : (∃ e, x = .error e) ↔ ¬ ∃ a, x = .ok a := by
  cases x <;> simp

/-- A chain of two steps fails when the first does, or the second after it. -/
theorem bind_eq_error {x : Except ε α} {f : α → Except ε β} {e : ε} :
    x >>= f = .error e ↔ x = .error e ∨ ∃ a, x = .ok a ∧ f a = .error e := by
  cases x with
  | error e => simp [bind, Except.bind]
  | ok a => simp [bind, Except.bind]

theorem mapM_cons_ok {f : α → Except ε β} {a : α} {as : List α} {bs : List β} :
    (a :: as).mapM f = .ok bs ↔ ∃ b bs', f a = .ok b ∧ as.mapM f = .ok bs' ∧ bs = b :: bs' := by
  rw [List.mapM_cons, bind_eq_ok]
  constructor
  · rintro ⟨b, hb, h⟩
    obtain ⟨bs', hbs', h⟩ := bind_eq_ok.mp h
    cases h
    exact ⟨b, bs', hb, hbs', rfl⟩
  · rintro ⟨b, bs', hb, hbs', rfl⟩
    exact ⟨b, hb, bind_eq_ok.mpr ⟨bs', hbs', rfl⟩⟩

/-- Steps over a list succeed when each does, and the results stand in the order of the list. -/
theorem mapM_eq_ok {f : α → Except ε β} {as : List α} {bs : List β} :
    as.mapM f = .ok bs ↔ List.Forall₂ (fun a b => f a = .ok b) as bs := by
  induction as generalizing bs with
  | nil => simp [pure, Except.pure, eq_comm]
  | cons a as ih =>
    rw [mapM_cons_ok, List.forall₂_cons_left_iff]
    simp only [ih]

theorem exists_mapM {f : α → Except ε β} {as : List α} (h : ∀ a ∈ as, ∃ b, f a = .ok b) :
    ∃ bs, as.mapM f = .ok bs := by
  induction as with
  | nil => exact ⟨[], rfl⟩
  | cons a as ih =>
    obtain ⟨⟨b, hb⟩, has⟩ := List.forall_mem_cons.mp h
    obtain ⟨bs, hbs⟩ := ih has
    exact ⟨b :: bs, mapM_cons_ok.mpr ⟨b, bs, hb, hbs, rfl⟩⟩

theorem exists_of_mapM {f : α → Except ε β} {as : List α} {bs : List β} (h : as.mapM f = .ok bs) :
    ∀ a ∈ as, ∃ b, f a = .ok b := by
  induction as generalizing bs with
  | nil => simp
  | cons a as ih =>
    obtain ⟨b, bs', hb, hbs', -⟩ := mapM_cons_ok.mp h
    exact List.forall_mem_cons.mpr ⟨⟨b, hb⟩, ih hbs'⟩

/-- Results beside the elements they come from. -/
theorem mapM_pair_eq_ok {f : α → Except ε β} {as : List α} {xs : List (α × β)} :
    (as.mapM fun a => (f a).map fun b => (a, b)) = .ok xs ↔
      xs.map Prod.fst = as ∧ ∀ x ∈ xs, f x.1 = .ok x.2 := by
  induction as generalizing xs with
  | nil =>
    rw [List.map_eq_nil_iff]
    constructor
    · rintro ⟨⟩
      exact ⟨rfl, by simp⟩
    · rintro ⟨rfl, -⟩
      rfl
  | cons a as ih =>
    rw [mapM_cons_ok]
    constructor
    · rintro ⟨x, rest, hx, hrest, rfl⟩
      obtain ⟨b, hb, rfl⟩ := map_eq_ok.mp hx
      obtain ⟨hfirst, hrest⟩ := ih.mp hrest
      exact ⟨by rw [List.map_cons, hfirst], List.forall_mem_cons.mpr ⟨hb, hrest⟩⟩
    · rintro ⟨hfirst, hxs⟩
      obtain ⟨x, rest, rfl, rfl, hrest⟩ := List.map_eq_cons_iff.mp hfirst
      obtain ⟨hx, hxs⟩ := List.forall_mem_cons.mp hxs
      exact ⟨x, rest, map_eq_ok.mpr ⟨x.2, hx, rfl⟩, ih.mpr ⟨hrest, hxs⟩, rfl⟩

/-- Checks over a list pass when each does. -/
theorem forM_eq_ok {f : α → Except ε Unit} {as : List α} :
    as.forM f = .ok () ↔ ∀ a ∈ as, f a = .ok () := by
  induction as with
  | nil => simp [pure, Except.pure]
  | cons a as ih =>
    have split : (a :: as).forM f = f a >>= fun _ => as.forM f := rfl
    rw [split, bind_eq_ok, List.forall_mem_cons, ← ih]
    constructor
    · rintro ⟨_, ha, has⟩
      exact ⟨ha, has⟩
    · rintro ⟨ha, has⟩
      exact ⟨(), ha, has⟩

/-- What every step keeps, the whole chain keeps. -/
theorem foldlM_invariant {f : β → α → Except ε β} {P : β → Prop}
    (step : ∀ b a c, P b → f b a = .ok c → P c) {as : List α} {b c : β} (hb : P b)
    (h : as.foldlM f b = .ok c) : P c := by
  induction as generalizing b with
  | nil =>
    cases h
    exact hb
  | cons a as ih =>
    rw [List.foldlM_cons] at h
    obtain ⟨b', hb', h⟩ := bind_eq_ok.mp h
    exact ih (step b a b' hb hb') h

/-- A chain can compute what its steps read beforehand. -/
theorem foldlM_bind_eq_ok {f : α → Except ε β} {g : γ → β → Except ε γ} {as : List α} {c d : γ} :
    as.foldlM (fun c a => f a >>= g c) c = .ok d ↔
      ∃ bs, as.mapM f = .ok bs ∧ bs.foldlM g c = .ok d := by
  induction as generalizing c with
  | nil =>
    constructor
    · exact fun h => ⟨[], rfl, h⟩
    · rintro ⟨_, ⟨⟩, h⟩
      exact h
  | cons a as ih =>
    rw [List.foldlM_cons, bind_eq_ok]
    constructor
    · rintro ⟨c', hstep, hrest⟩
      obtain ⟨b, hb, hc'⟩ := bind_eq_ok.mp hstep
      obtain ⟨bs, hbs, hd⟩ := ih.mp hrest
      refine ⟨b :: bs, mapM_cons_ok.mpr ⟨b, bs, hb, hbs, rfl⟩, ?_⟩
      rw [List.foldlM_cons, hc']
      exact hd
    · rintro ⟨_, hmap, hd⟩
      obtain ⟨b, bs, hb, hbs, rfl⟩ := mapM_cons_ok.mp hmap
      rw [List.foldlM_cons] at hd
      obtain ⟨c', hc', hd⟩ := bind_eq_ok.mp hd
      exact ⟨c', bind_eq_ok.mpr ⟨b, hb, hc'⟩, ih.mpr ⟨bs, hbs, hd⟩⟩

/-- A chain fails at the first step that fails. -/
theorem foldlM_eq_error {f : β → α → Except ε β} {as : List α} {b : β} {e : ε} :
    as.foldlM f b = .error e ↔ ∃ earlier a later c, as = earlier ++ a :: later ∧
      earlier.foldlM f b = .ok c ∧ f c a = .error e := by
  induction as generalizing b with
  | nil =>
    constructor
    · intro h
      cases h
    · rintro ⟨earlier, a, later, c, h, -⟩
      cases earlier <;> cases h
  | cons a as ih =>
    rw [List.foldlM_cons, bind_eq_error]
    constructor
    · rintro (h | ⟨b', hb', h⟩)
      · -- the first step fails
        exact ⟨[], a, as, b, rfl, rfl, h⟩
      · obtain ⟨earlier, a', later, c, rfl, hc, h⟩ := ih.mp h
        refine ⟨a :: earlier, a', later, c, rfl, ?_, h⟩
        rw [List.foldlM_cons, hb']
        exact hc
    · rintro ⟨earlier, a', later, c, hsplit, hc, h⟩
      -- either nothing is earlier, or the first step is and succeeds
      rcases List.cons_eq_append_iff.mp hsplit with ⟨rfl, hcons⟩ | ⟨rest, rfl, rfl⟩
      · cases hcons
        cases hc
        exact .inl h
      · rw [List.foldlM_cons] at hc
        obtain ⟨b', hb', hc⟩ := bind_eq_ok.mp hc
        exact .inr ⟨b', hb', ih.mpr ⟨rest, a', later, c, rfl, hc, h⟩⟩

/-- Chains agree when their steps do along the list. -/
theorem foldlM_congr {f g : β → α → Except ε β} {as : List α} (h : ∀ a ∈ as, ∀ b, f b a = g b a)
    (b : β) : as.foldlM f b = as.foldlM g b := by
  induction as generalizing b with
  | nil => rfl
  | cons a as ih =>
    obtain ⟨ha, has⟩ := List.forall_mem_cons.mp h
    rw [List.foldlM_cons, List.foldlM_cons, ha]
    exact bind_congr fun b' => ih has b'

/-! ### Kinds of failures -/

/-- A step **fails only** with errors of a kind. -/
def FailsOnly (P : ε → Prop) (x : Except ε α) : Prop := ∀ e, x = .error e → P e

section

variable {P : ε → Prop}

@[simp] theorem failsOnly_ok (a : α) : FailsOnly P (.ok a : Except ε α) := fun _ h => nomatch h

@[simp] theorem failsOnly_error_iff {e : ε} : FailsOnly P (.error e : Except ε α) ↔ P e := by
  simp [FailsOnly]

theorem FailsOnly.bind {x : Except ε α} {f : α → Except ε β} (hx : FailsOnly P x)
    (hf : ∀ a, FailsOnly P (f a)) : FailsOnly P (x >>= f) := by
  intro e h
  rcases bind_eq_error.mp h with h | ⟨a, -, h⟩
  · exact hx e h
  · exact hf a e h

theorem FailsOnly.map {x : Except ε α} (hx : FailsOnly P x) (f : α → β) : FailsOnly P (x.map f) :=
  fun e h => hx e (map_eq_error.mp h)

theorem failsOnly_mapM {f : α → Except ε β} (h : ∀ a, FailsOnly P (f a)) (as : List α) :
    FailsOnly P (as.mapM f) := by
  induction as with
  | nil => exact failsOnly_ok []
  | cons a as ih =>
    rw [List.mapM_cons]
    exact (h a).bind fun b => ih.bind fun bs => failsOnly_ok (b :: bs)

theorem failsOnly_forM {f : α → Except ε Unit} (h : ∀ a, FailsOnly P (f a)) (as : List α) :
    FailsOnly P (as.forM f) := by
  induction as with
  | nil => exact failsOnly_ok ()
  | cons a as ih => exact (h a).bind fun _ => ih

theorem failsOnly_foldlM {f : β → α → Except ε β} (h : ∀ b a, FailsOnly P (f b a)) (as : List α)
    (b : β) : FailsOnly P (as.foldlM f b) := by
  induction as generalizing b with
  | nil => exact failsOnly_ok b
  | cons a as ih =>
    rw [List.foldlM_cons]
    exact (h b a).bind ih

end

end WindowQuery
