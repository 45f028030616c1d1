import Mathlib.Data.List.Nodup
import RecordMapper.Proofs.Schema.Declaration
import RecordMapper.Proofs.Sql.Plain
import RecordMapper.Schema.Definition

/-!
# The names of indexes

An index has the name that was chosen for it, or one that is made of the table and of its columns.
Nothing keeps these names apart.

* `Schema.madeOf` has the columns of all indexes whose names are made, for the unique ones and for
  the others. `Schema.madeName_eq_iff`: their names are the same exactly if they are of one sort and
  the texts that their columns are joined to are the same.
* `Schema.nodup_indexNames_iff`: the names of all indexes are distinct exactly if `IndexNamesApart`.
* `Schema.nodup_joined_iff`: columns without an underscore are joined to distinct texts exactly if
  the lists of columns are distinct.
-/

namespace RecordMapper.Schema

variable {s : Schema} {table : String} {declared : List Field} {options : SchemaOptions}

/-- Whether a field has an index of its own: it asks for one, and is neither the key nor unique. -/
def asksIndex (f : Field) : Bool :=
  f.indexed && !f.primaryKey && !f.unique

/-- The fields that have an index of their own. -/
def indexedFields (s : Schema) : List Field :=
  s.fields.filter asksIndex

/-- The columns of the indexes of one sort that are given no name. -/
def unnamed (unique : Bool) (indexes : List CompositeIndex) : List (List String) :=
  (indexes.filter fun index => index.name.isNone && index.unique == unique).map (·.fields)

/-- The columns of the indexes of one sort whose names are made. -/
def madeOf (s : Schema) (unique : Bool) : List (List String) :=
  (if unique then [] else s.indexedFields.map fun f => [f.name]) ++ unnamed unique s.options.indexes

/-- The names that were chosen. -/
def chosenNames (s : Schema) : List String :=
  s.options.indexes.filterMap (·.name)

/-- The name that is made for an index. -/
def madeName (s : Schema) (unique : Bool) (columns : List String) : String :=
  (if unique then "uidx" else "idx") ++ "_" ++ s.table ++ "_" ++ "_".intercalate columns

/-! ## Names that are made -/

/-- **Names that are made** are told apart by the sort of the index and by the text that its columns
are joined to, and by nothing else. -/
theorem madeName_eq_iff (s : Schema) {unique unique' : Bool} {columns columns' : List String} :
    s.madeName unique columns = s.madeName unique' columns'
      ↔ unique = unique' ∧ "_".intercalate columns = "_".intercalate columns' := by
  constructor
  · intro same
    have letters := congrArg String.toList same
    simp only [madeName, String.toList_append, List.append_assoc] at letters
    cases unique <;> cases unique'
    · exact ⟨rfl, by simpa [String.ext_iff] using letters⟩
    · exact absurd (congrArg List.head? letters) (by simp)
    · exact absurd (congrArg List.head? letters) (by simp)
    · exact ⟨rfl, by simpa [String.ext_iff] using letters⟩
  · rintro ⟨rfl, same⟩
    rw [madeName, madeName, same]

/-- So names of one sort are distinct if the joined columns are. -/
theorem nodup_madeNames_iff (s : Schema) (unique : Bool) (columns : List (List String)) :
    (columns.map (s.madeName unique)).Nodup ↔ (columns.map ("_".intercalate ·)).Nodup := by
  simp only [List.Nodup, List.pairwise_map, ne_eq, madeName_eq_iff, true_and]

/-- The indexes of fields have names that are made of one column. -/
theorem fieldNames_eq (s : Schema) :
    (s.fields.filterMap (fieldIndex? s.table)).map Index.name
      = s.indexedFields.map fun f => s.madeName false [f.name] := by
  unfold indexedFields
  induction s.fields with
  | nil => rfl
  | cons f rest ih =>
    by_cases asks : asksIndex f = true
    · have own : fieldIndex? s.table f = some ⟨s.madeName false [f.name], [f.name], false⟩ := by
        change (if asksIndex f then _ else _) = _
        rw [if_pos asks]
        rfl
      rw [List.filterMap_cons_some own, List.filter_cons_of_pos asks, List.map_cons, ih]
      rfl
    · have none : fieldIndex? s.table f = none := if_neg asks
      rw [List.filterMap_cons_none none, List.filter_cons_of_neg asks, ih]

/-- Indexes over several columns have names that were chosen, and names that are made. -/
theorem compositeNames_perm (s : Schema) (indexes : List CompositeIndex) :
    (indexes.map fun index => (compositeIndex s.table index).name).Perm
      (indexes.filterMap (·.name) ++ ((unnamed false indexes).map (s.madeName false)
        ++ (unnamed true indexes).map (s.madeName true))) := by
  induction indexes with
  | nil => exact List.Perm.refl []
  | cons index rest ih =>
    obtain ⟨fields, unique, _ | name⟩ := index
    · cases unique
      · exact (ih.cons _).trans List.perm_middle.symm
      · -- the unique one comes after both the chosen names and those of the others
        have last := (ih.cons (s.madeName true fields)).trans
          (List.append_assoc _ _ _ ▸ List.perm_middle.symm)
        rw [List.append_assoc] at last
        exact last
    · exact ih.cons name

/-- **The names of all indexes** are those that were chosen and those that are made. -/
theorem indexNames_perm (s : Schema) : (s.indexes.map Index.name).Perm
    (s.chosenNames ++ ((s.madeOf false).map (s.madeName false)
      ++ (s.madeOf true).map (s.madeName true))) := by
  have split : s.indexes.map Index.name
      = s.indexedFields.map (fun f => s.madeName false [f.name])
        ++ s.options.indexes.map fun index => (compositeIndex s.table index).name := by
    rw [indexes, List.map_append, fieldNames_eq, List.map_map]
    rfl
  have made : (s.madeOf false).map (s.madeName false)
      = s.indexedFields.map (fun f => s.madeName false [f.name])
        ++ (unnamed false s.options.indexes).map (s.madeName false) := by
    rw [madeOf, if_neg Bool.false_ne_true, List.map_append, List.map_map]
    rfl
  rw [split, made, List.append_assoc]
  exact ((compositeNames_perm s s.options.indexes).append_left _).trans
    (List.perm_append_comm_assoc _ _ _)

/-! ## Distinct names -/

/-- What it takes for the names of all indexes to be distinct. -/
structure IndexNamesApart (s : Schema) : Prop where
  /-- The names that were chosen are distinct. -/
  chosen : s.chosenNames.Nodup
  /-- None of them is the name that is made for another index. -/
  free : ∀ unique, ∀ columns ∈ s.madeOf unique, s.madeName unique columns ∉ s.chosenNames
  /-- The columns of indexes of one sort are joined to distinct texts. -/
  joined : ∀ unique, ((s.madeOf unique).map ("_".intercalate ·)).Nodup

/-- **The names of all indexes are distinct** exactly if the chosen ones are distinct and free, and
the columns of the others are joined to distinct texts. -/
theorem nodup_indexNames_iff (s : Schema) :
    (s.indexes.map Index.name).Nodup ↔ s.IndexNamesApart := by
  rw [(indexNames_perm s).nodup_iff, List.nodup_append, List.nodup_append, nodup_madeNames_iff,
    nodup_madeNames_iff]
  constructor
  · rintro ⟨chosen, ⟨plain, unique, -⟩, free⟩
    refine ⟨chosen, fun sort columns made again => ?_, fun sort => ?_⟩
    · refine free _ again _ ?_ rfl
      cases sort
      · exact List.mem_append_left _ (List.mem_map_of_mem made)
      · exact List.mem_append_right _ (List.mem_map_of_mem made)
    · cases sort
      · exact plain
      · exact unique
  · rintro ⟨chosen, free, joined⟩
    refine ⟨chosen, ⟨joined false, joined true, ?_⟩, ?_⟩
    · rintro _ plain _ unique same
      obtain ⟨columns, -, rfl⟩ := List.mem_map.1 plain
      obtain ⟨columns', -, rfl⟩ := List.mem_map.1 unique
      exact Bool.false_ne_true ((madeName_eq_iff s).1 same).1
    · rintro name again _ made rfl
      rcases List.mem_append.1 made with plain | unique
      · obtain ⟨columns, mem, rfl⟩ := List.mem_map.1 plain
        exact free false columns mem again
      · obtain ⟨columns, mem, rfl⟩ := List.mem_map.1 unique
        exact free true columns mem again

/-! ## Columns that can be told apart -/

/-- The indexes of the fields of an accepted schema have distinct names. -/
theorem nodup_fieldNames (h : declare table declared options = .ok s) :
    ((s.fields.filterMap (fieldIndex? s.table)).map Index.name).Nodup := by
  have distinct : (s.indexedFields.map Field.name).Nodup :=
    (nodup_of_declare h).sublist (List.Sublist.map _ List.filter_sublist)
  have inj : Function.Injective fun name => s.madeName false [name] := by
    intro name name' same
    simpa using ((madeName_eq_iff s).1 same).2
  have named : (s.indexedFields.map fun f => s.madeName false [f.name])
      = (s.indexedFields.map Field.name).map fun name => s.madeName false [name] := by
    rw [List.map_map]
    rfl
  rw [fieldNames_eq, named]
  exact distinct.map inj

/-- Every index of an accepted schema has a column. -/
theorem ne_nil_of_mem_madeOf (h : declare table declared options = .ok s) {unique : Bool}
    {columns : List String} (mem : columns ∈ s.madeOf unique) : columns ≠ [] := by
  obtain ⟨-, -, rfl⟩ := eq_of_declare h
  rcases List.mem_append.1 mem with single | several
  · cases unique
    · obtain ⟨f, -, rfl⟩ := List.mem_map.1 single
      exact List.cons_ne_nil _ _
    · cases single
  · obtain ⟨index, declared, rfl⟩ := List.mem_map.1 several
    exact ((wellDeclared_of_declare h).1.indexed index (List.mem_filter.1 declared).1).1

/-- The pieces between underscores are the columns, if these have none. -/
theorem pieces_joined {columns : List String} (some : columns ≠ [])
    (plain : ∀ column ∈ columns, '_' ∉ column.toList) :
    Text.pieces (· == '_') ("_".intercalate columns).toList = columns.map String.toList := by
  rw [String.toList_intercalate]
  apply Text.pieces_intercalate
  · simpa using some
  · intro part mem
    obtain ⟨column, own, rfl⟩ := List.mem_map.1 mem
    exact plain column own

/-- **Columns without an underscore** are joined to distinct texts exactly if the lists of columns
are distinct. -/
theorem nodup_joined_iff (h : declare table declared options = .ok s) {unique : Bool}
    (plain : ∀ columns ∈ s.madeOf unique, ∀ column ∈ columns, '_' ∉ column.toList) :
    ((s.madeOf unique).map ("_".intercalate ·)).Nodup ↔ (s.madeOf unique).Nodup := by
  constructor
  · exact List.Nodup.of_map _
  · apply List.Nodup.map_on
    intro columns mem columns' mem' same
    have pieces := congrArg (fun text => Text.pieces (· == '_') text.toList) same
    have lists : columns.map String.toList = columns'.map String.toList := by
      rw [← pieces_joined (ne_nil_of_mem_madeOf h mem) (plain columns mem),
        ← pieces_joined (ne_nil_of_mem_madeOf h mem') (plain columns' mem')]
      exact pieces
    exact List.map_injective_iff.2 (fun a b => String.toList_inj.1) lists

end RecordMapper.Schema
