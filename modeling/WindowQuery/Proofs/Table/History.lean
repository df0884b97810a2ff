import Mathlib.Data.List.Nodup
import WindowQuery.Proofs.Table.Indexed
import WindowQuery.Table.Request

/-!
# The history of a table

Whatever is asked of a table, its columns keep different names and one length, and its index leads
from each name to the place of its column and from no other name anywhere (`Table.after_outcome`).
What has to be shown for this is that one request keeps it so (`Table.Exact.perform`).

Adding in place is adding to a table or leaving it as it is (`Table.edit_insert`): what changes the
table comes after all that may fail. Several columns that are added in place to a table of one's own
are those added from first to last (`Table.build_forM_insert`).
-/

namespace WindowQuery.Table

variable {t t' : Table} {source : Source} {name : String}

/-! ### Adding in place -/

/-- **Adding in place** leaves the table with the column, or as it was. -/
theorem edit_insert (t : Table) (source : Source) :
    t.edit (insert source) = t.replaceBy (t.add source) := by
  obtain ⟨columns, index⟩ := t
  cases columns with
  | nil =>
    by_cases taken : (Table.mk [] index).contains source.name = true <;>
      simp [insert, edit_bind, add, replaceBy, taken]
  | cons first rest =>
    by_cases taken : (Table.mk (first :: rest) index).contains source.name = true
    · simp [insert, edit_bind, add, replaceBy, taken]
    · by_cases hsize : first.size = source.size
      · simp [insert, edit_bind, add, replaceBy, taken, rows, hsize]
      · simp [insert, edit_bind, add, replaceBy, taken, rows, hsize, Ne.symm hsize]

theorem build_insert (t : Table) (source : Source) : t.build (insert source) = t.add source := by
  rw [build, edit_insert]
  cases t.add source <;> rfl

/-- A table of one's own is built in order, and lost at the first column that is refused. -/
theorem build_bind (t : Table) (e : Edit Unit) (f : Unit → Edit Unit) :
    t.build (e >>= f) = t.build e >>= fun t' => t'.build (f ()) := by
  rw [build, build, edit_bind]
  rcases t.edit e with ⟨t', err | ⟨⟩⟩ <;> rfl

/-- Adding columns in place, one after the other, builds what adding them to a value does. -/
theorem build_forM_insert (columns : List Column) (t : Table) :
    t.build (columns.forM fun c => insert (.typed c)) =
      (columns.map Source.typed).foldlM add t := by
  induction columns generalizing t with
  | nil => rfl
  | cons c rest ih =>
    have split : ((c :: rest).forM fun c => insert (.typed c)) =
        insert (.typed c) >>= fun _ => rest.forM fun c => insert (.typed c) := rfl
    rw [split, build_bind, build_insert, List.map_cons, List.foldlM_cons]
    exact bind_congr fun t' => ih t'

/-! ### Requests -/

theorem perform_add (t : Table) (source : Source) :
    t.perform (.add source) = t.replaceBy (t.add source) := edit_insert t source

theorem perform_withColumn (t : Table) (source : Source) :
    t.perform (.withColumn source) = t.replaceBy (t.add source) := by
  rw [perform, build_insert]

theorem perform_fromColumns (t : Table) (columns : List Column) :
    t.perform (.fromColumns columns) = t.replaceBy (ofSources (columns.map .typed)) := by
  rw [perform, build_forM_insert, ofSources]

/-- What holds of a table and of any that may take its place holds of the one that is left. -/
theorem replaceBy_induction {P : Table → Prop} {built : Except QueryError Table} (ht : P t)
    (hbuilt : ∀ t', built = .ok t' → P t') : P (t.replaceBy built).1 := by
  cases built with
  | error err => exact ht
  | ok t' => exact hbuilt t' rfl

/-- A table is **exact** when it is indexed and its columns have different names. -/
structure Exact (t : Table) : Prop extends t.Indexed where
  distinct : t.names.Nodup

theorem exact_empty : empty.Exact := ⟨indexed_empty, List.nodup_nil⟩

namespace Exact

theorem add (h : t.Exact) (hadd : t.add source = .ok t') : t'.Exact := by
  refine ⟨h.toIndexed.add hadd, ?_⟩
  obtain ⟨hname, -, rfl⟩ := add_eq_ok_iff.mp hadd
  have new : source.name ∉ t.names := by
    rw [← h.contains_iff, hname]
    exact Bool.false_ne_true
  rw [names, List.map_append, List.map_singleton]
  exact List.nodup_append.mpr ⟨h.distinct, List.nodup_singleton _, by
    rintro a ha b hb rfl
    exact new (List.mem_singleton.mp hb ▸ ha)⟩

/-- **A request** leaves an exact table, whether it succeeds or fails. -/
theorem perform (h : t.Exact) (request : Request) : (t.perform request).1.Exact := by
  cases request with
  | add source =>
    rw [perform_add]
    exact replaceBy_induction h fun _ hadd => h.add hadd
  | withColumn source =>
    rw [perform_withColumn]
    exact replaceBy_induction h fun _ hadd => h.add hadd
  | fromColumns columns =>
    rw [perform_fromColumns]
    exact replaceBy_induction h fun _ hadd =>
      foldlM_invariant (P := Exact) (fun _ _ _ hb => hb.add) exact_empty hadd

theorem foldl_perform (h : t.Exact) (requests : List Request) :
    (requests.foldl (fun t r => (t.perform r).1) t).Exact := by
  induction requests generalizing t with
  | nil => exact h
  | cons request rest ih => exact ih (h.perform request)

end Exact

/-- **Any sequence of requests** leaves an exact table. -/
theorem exact_after (requests : List Request) : (after requests).Exact :=
  exact_empty.foldl_perform requests

/-! ### Exact tables -/

namespace Exact

variable (h : t.Exact)
include h

/-- The index leads to a place exactly from the name of the column there. -/
theorem lookup_eq_some_iff {place : Nat} :
    t.index.lookup name = some place ↔ ∃ s, t.columns[place]? = some s ∧ s.name = name := by
  rw [h.lookup, List.findIdx?_eq_some_iff_getElem]
  constructor
  · rintro ⟨hplace, hname, -⟩
    exact ⟨_, List.getElem?_eq_getElem hplace, by simpa using hname⟩
  · rintro ⟨s, hs, rfl⟩
    obtain ⟨hplace, rfl⟩ := List.getElem?_eq_some_iff.mp hs
    refine ⟨hplace, by simp, fun earlier hlt => ?_⟩
    -- a column before this one has another name
    have apart := List.pairwise_iff_getElem.mp h.distinct earlier place
      (by simpa [names] using Nat.lt_trans hlt hplace) (by simpa [names] using hplace) hlt
    simpa [names] using apart

/-- Looking a column up gives the column of this name. -/
theorem column_eq_ok_iff {s : Source} : t.column name = .ok s ↔ s ∈ t.columns ∧ s.name = name := by
  constructor
  · intro hs
    have found : t.column? name = some s := by
      unfold column at hs
      split at hs
      case h_1 hfound => exact hfound.trans (congrArg some (Except.ok.inj hs))
      case h_2 => cases hs
    rw [h.column?_eq] at found
    exact ⟨List.mem_of_find?_eq_some found, by simpa using List.find?_some found⟩
  · rintro ⟨hmem, hname⟩
    obtain ⟨place, hplace⟩ := List.mem_iff_getElem?.mp hmem
    rw [column, column?, h.lookup_eq_some_iff.mpr ⟨s, hplace, hname⟩, Option.bind_some, hplace]

/-- **Adding a column** is refused for its name or else for its length, and then changes nothing. -/
theorem perform_add_eq (source : Source) :
    t.perform (.add source) =
      if source.name ∈ t.names then (t, .error (.duplicateColumn source.name))
      else if t.columns ≠ [] ∧ source.size ≠ t.rows then
        (t, .error (.columnLengthMismatch source.name t.rows source.size))
      else (⟨t.columns ++ [source], (source.name, t.columns.length) :: t.index⟩, .ok ()) := by
  rw [perform_add, Table.add]
  simp only [h.contains_iff]
  split_ifs <;> rfl

end Exact

/-- **A table after any requests.** Its names differ and its columns have one length. The index
leads to a place exactly from the name of the column there, and a column is found if and only if its
name is there. One more column is refused when its name is taken or, after that, when there are
columns and its length is not theirs; the table is then as before. Otherwise it comes last. -/
theorem after_outcome {requests : List Request} (ht : after requests = t) :
    t.names.Nodup ∧ (∀ s ∈ t.columns, s.size = t.rows) ∧
    (∀ name place, t.index.lookup name = some place ↔
      ∃ s, t.columns[place]? = some s ∧ s.name = name) ∧
    (∀ name, ((∃ s, t.column name = .ok s) ↔ t.contains name = true) ∧
      (t.contains name = true ↔ name ∈ t.names) ∧
      (∀ s, t.column name = .ok s ↔ s ∈ t.columns ∧ s.name = name) ∧
      (name ∉ t.names → t.column name = .error (.columnNotFound name))) ∧
    ∀ source,
      t.perform (.add source) =
        if source.name ∈ t.names then (t, .error (.duplicateColumn source.name))
        else if t.columns ≠ [] ∧ source.size ≠ t.rows then
          (t, .error (.columnLengthMismatch source.name t.rows source.size))
        else (⟨t.columns ++ [source], (source.name, t.columns.length) :: t.index⟩, .ok ()) := by
  have exact : t.Exact := ht ▸ exact_after requests
  refine ⟨exact.distinct, exact.size, fun name place => exact.lookup_eq_some_iff,
    fun name => ⟨?_, exact.contains_iff, fun s => exact.column_eq_ok_iff, exact.column_eq_error⟩,
    exact.perform_add_eq⟩
  rw [exact.exists_column_eq_ok_iff, exact.contains_iff]

/-- Two columns, between requests for a name that is taken and for a length that differs. -/
def harbours : List Request :=
  [.add (.typed ⟨"port", .text #[some "Bergen", some "Oban"]⟩),
    .add (.typed ⟨"port", .int64 #[some 1]⟩),
    .withColumn (.typed ⟨"berths", .int64 #[some 1]⟩),
    .add (.loose "berths" .int64 #[.int 12, .null])]

/-- The table after the requests that succeed. -/
def harbourTable : Table where
  columns := [.typed ⟨"port", .text #[some "Bergen", some "Oban"]⟩,
    .loose "berths" .int64 #[.int 12, .null]]
  index := [("berths", 1), ("port", 0)]

/-- The table has both columns, and neither name can be taken again. -/
theorem after_outcome_harbours :
    after harbours = harbourTable ∧
      harbourTable.column "berths" = .ok (.loose "berths" .int64 #[.int 12, .null]) ∧
      harbourTable.perform (.add (.typed ⟨"port", .int64 #[]⟩)) =
        (harbourTable, .error (.duplicateColumn "port")) := by
  have reached : after harbours = harbourTable := by decide
  obtain ⟨-, -, -, found, added⟩ := after_outcome reached
  obtain ⟨-, -, found, -⟩ := found "berths"
  exact ⟨reached, (found _).mpr ⟨by simp [harbourTable], rfl⟩, added _⟩

end WindowQuery.Table
