import WindowQuery.Proofs.Steps
import WindowQuery.Table.Basic

/-!
# The index of a table

Adding columns one by one keeps a table **indexed** (`Table.indexed_ofSources`): the index leads
from every name to the place of the column with this name and from no other name anywhere, and all
columns have one length. Looking a column up is then a search among the columns
(`Table.Indexed.column?_eq`), and columns of the right length can be added if and only if their
names are new and differ (`Table.Indexed.exists_foldlM_add_iff`).
-/

namespace WindowQuery.Table

/-- The index of the table is **exact**, and its columns have one length. -/
structure Indexed (t : Table) : Prop where
  lookup : ∀ name, t.index.lookup name = t.columns.findIdx? fun s => s.name == name
  size : ∀ s ∈ t.columns, s.size = t.rows

theorem indexed_empty : empty.Indexed where
  lookup _ := rfl
  size := by simp [empty]

/-- A column is added exactly when its name is new and its length is that of the others. -/
theorem add_eq_ok_iff {t t' : Table} {source : Source} :
    t.add source = .ok t' ↔ t.contains source.name = false ∧
      (t.columns ≠ [] → source.size = t.rows) ∧
        t' = ⟨t.columns ++ [source], (source.name, t.columns.length) :: t.index⟩ := by
  unfold add
  split
  case isTrue h => simp [h]
  case isFalse h =>
    split
    case isTrue hsize => simp [hsize]
    case isFalse hsize =>
      have hlength : t.columns ≠ [] → source.size = t.rows := by
        intro hne
        by_contra hdiffers
        exact hsize ⟨hne, hdiffers⟩
      constructor
      · rintro ⟨⟩
        exact ⟨Bool.eq_false_iff.mpr h, hlength, rfl⟩
      · rintro ⟨-, -, rfl⟩
        rfl

/-- The first column decides the number of rows. -/
theorem rows_append {columns : List Source} {source : Source} {index : List (String × Nat)}
    (h : columns ≠ []) (index' : List (String × Nat)) :
    (Table.mk (columns ++ [source]) index).rows = (Table.mk columns index').rows := by
  cases columns with
  | nil => exact absurd rfl h
  | cons first rest => rfl

theorem Indexed.add {t t' : Table} {source : Source} (h : t.Indexed)
    (hadd : t.add source = .ok t') : t'.Indexed := by
  obtain ⟨hname, hsize, rfl⟩ := add_eq_ok_iff.mp hadd
  constructor
  case lookup =>
    intro name
    -- the new entry is found first in the index, and its column last among the columns
    rw [List.lookup_cons, List.findIdx?_append, ← h.lookup]
    by_cases heq : name = source.name
    · have unknown : t.index.lookup source.name = none := by
        simpa [contains] using hname
      simp [heq, unknown]
    · have hne : (name == source.name) = false := by simp [heq]
      have hne' : (source.name == name) = false := by simp [Ne.symm heq]
      simp [hne, hne']
  case size =>
    intro s hs
    by_cases hempty : t.columns = []
    · simp only [hempty, List.nil_append, List.mem_singleton] at hs ⊢
      rw [hs]
      rfl
    · rw [rows_append hempty t.index]
      rcases List.mem_append.mp hs with hs | hs
      · exact h.size s hs
      · rw [List.mem_singleton.mp hs]
        exact hsize hempty

theorem Indexed.foldlM_add {sources : List Source} {t out : Table} (ht : t.Indexed)
    (h : sources.foldlM Table.add t = .ok out) : out.Indexed :=
  foldlM_invariant (P := Indexed) (fun _ _ _ hb hadd => hb.add hadd) ht h

/-- Columns that are added stand behind the others, in their order. -/
theorem columns_foldlM_add {sources : List Source} {t out : Table}
    (h : sources.foldlM add t = .ok out) : out.columns = t.columns ++ sources := by
  induction sources generalizing t with
  | nil =>
    cases h
    exact (List.append_nil _).symm
  | cons source rest ih =>
    rw [List.foldlM_cons] at h
    obtain ⟨t', hadd, h⟩ := bind_eq_ok.mp h
    obtain ⟨-, -, rfl⟩ := add_eq_ok_iff.mp hadd
    rw [ih h, List.append_assoc, List.singleton_append]

/-- **Adding columns one by one gives an indexed table** of these columns. -/
theorem indexed_ofSources {sources : List Source} {t : Table} (h : ofSources sources = .ok t) :
    t.Indexed ∧ t.columns = sources :=
  ⟨indexed_empty.foldlM_add h, columns_foldlM_add h⟩

/-- Columns are added to those that are there. -/
theorem ofSources_append (sources added : List Source) :
    ofSources (sources ++ added) = ofSources sources >>= fun t => added.foldlM add t :=
  List.foldlM_append

namespace Indexed

variable {t : Table} (h : t.Indexed)
include h

/-- Looking a column up is a search among the columns. -/
theorem column?_eq (name : String) : t.column? name = t.columns.find? fun s => s.name == name := by
  rw [column?, h.lookup, List.find?_eq_bind_findIdx?_getElem?]

/-- A column is found when its name is one of the table. -/
theorem exists_column_eq_ok_iff {name : String} :
    (∃ s, t.column name = .ok s) ↔ name ∈ t.names := by
  have found : (∃ s, t.column name = .ok s) ↔ (t.column? name).isSome = true := by
    unfold column
    cases t.column? name <;> simp
  rw [found, h.column?_eq, List.find?_isSome, names, List.mem_map]
  simp

/-- The names that are taken are those of the columns. -/
theorem contains_iff {name : String} : t.contains name = true ↔ name ∈ t.names := by
  rw [contains, h.lookup, List.findIdx?_isSome, List.any_eq_true, names, List.mem_map]
  simp

/-- A name that no column has is reported. -/
theorem column_eq_error {name : String} (hname : name ∉ t.names) :
    t.column name = .error (.columnNotFound name) := by
  have none : t.column? name = none := by
    rw [h.column?_eq, List.find?_eq_none]
    intro s hs heq
    exact hname (List.mem_map.mpr ⟨s, hs, by simpa using heq⟩)
  rw [column, none]

end Indexed

/-! ### Adding columns of the right length -/

theorem rows_add {t t' : Table} {source : Source} (hsize : source.size = t.rows)
    (hadd : t.add source = .ok t') : t'.rows = t.rows := by
  obtain ⟨-, -, rfl⟩ := add_eq_ok_iff.mp hadd
  by_cases hempty : t.columns = []
  · rw [← hsize, rows, hempty]
    rfl
  · exact rows_append hempty t.index

/-- Columns of the length of the table leave it as it is. -/
theorem rows_foldlM_add {sources : List Source} {t out : Table}
    (hsize : ∀ s ∈ sources, s.size = t.rows) (h : sources.foldlM add t = .ok out) :
    out.rows = t.rows := by
  induction sources generalizing t with
  | nil =>
    cases h
    rfl
  | cons source rest ih =>
    obtain ⟨hsource, hrest⟩ := List.forall_mem_cons.mp hsize
    rw [List.foldlM_cons] at h
    obtain ⟨t', hadd, h⟩ := bind_eq_ok.mp h
    have same := rows_add hsource hadd
    exact (ih (by rwa [same]) h).trans same

namespace Indexed

/-- **A column of the right length** is refused if and only if its name is taken. -/
theorem add_eq_error_iff {t : Table} (h : t.Indexed) {source : Source} (hsize : source.size = t.rows)
    {err : QueryError} : t.add source = .error err ↔
      source.name ∈ t.names ∧ err = .duplicateColumn source.name := by
  rw [← h.contains_iff, Table.add]
  split
  case isTrue htaken => simp [htaken, eq_comm]
  case isFalse hfree => simp [hfree, hsize]

theorem exists_add_iff {t : Table} (h : t.Indexed) {source : Source} (hsize : source.size = t.rows) :
    (∃ t', t.add source = .ok t') ↔ source.name ∉ t.names := by
  rw [← not_iff_not, ← exists_error_iff, not_not]
  simp only [h.add_eq_error_iff hsize, exists_and_left, exists_eq, and_true]

/-- **Columns of the right length** can be added one by one if and only if their names are new and
differ from one another. -/
theorem exists_foldlM_add_iff {sources : List Source} {t : Table} (h : t.Indexed)
    (hsize : ∀ s ∈ sources, s.size = t.rows) : (∃ out, sources.foldlM Table.add t = .ok out) ↔
      (sources.map Source.name).Nodup ∧ ∀ name ∈ sources.map Source.name, name ∉ t.names := by
  induction sources generalizing t with
  | nil => simp [pure, Except.pure]
  | cons source rest ih =>
    obtain ⟨hsource, hrest⟩ := List.forall_mem_cons.mp hsize
    rw [List.foldlM_cons, List.map_cons, List.nodup_cons, List.forall_mem_cons]
    simp only [bind_eq_ok]
    -- once the first is added, its name is one of those that are taken
    have after {t' : Table} (hadd : t.add source = .ok t') :
        (∃ out, rest.foldlM Table.add t' = .ok out) ↔ (rest.map Source.name).Nodup ∧
          ∀ name ∈ rest.map Source.name, name ∉ t.names ∧ name ≠ source.name := by
      rw [ih (h.add hadd) (by rwa [rows_add hsource hadd])]
      obtain ⟨-, -, rfl⟩ := add_eq_ok_iff.mp hadd
      simp [names]
    constructor
    · rintro ⟨out, t', hadd, hout⟩
      obtain ⟨apart, free⟩ := (after hadd).mp ⟨out, hout⟩
      exact ⟨⟨fun hmem => (free _ hmem).2 rfl, apart⟩, (h.exists_add_iff hsource).mp ⟨t', hadd⟩,
        fun name hname => (free name hname).1⟩
    · rintro ⟨⟨hnew, apart⟩, hfree, free⟩
      obtain ⟨t', hadd⟩ := (h.exists_add_iff hsource).mpr hfree
      obtain ⟨out, hout⟩ := (after hadd).mpr ⟨apart, fun name hname =>
        ⟨free name hname, fun heq => hnew (heq ▸ hname)⟩⟩
      exact ⟨out, t', hadd, hout⟩

end Indexed

/-- A column that is found is one of the columns. -/
theorem mem_columns_of_column {t : Table} {name : String} {s : Source}
    (h : t.column name = .ok s) : s ∈ t.columns := by
  unfold column at h
  cases hfound : t.column? name with
  | none => simp [hfound] at h
  | some s' =>
    simp only [hfound, Except.ok.injEq] at h
    obtain ⟨place, -, hplace⟩ := Option.bind_eq_some_iff.mp hfound
    exact h ▸ List.mem_of_getElem? hplace

end WindowQuery.Table
