import Mathlib.Data.List.Pairwise
import Mathlib.Logic.Relation
import RecordMapper.Proofs.Record

/-!
# Tables with a unique constraint

The rows of one table that several clients write to, and what their writes cannot undo.

* `UniqueKey.Respects`: every row has a primary key of its own, and no two rows agree in all columns
  of the constraint.
* `UniqueKey.Step` is a write that respects this: a row is inserted, or rows are changed apart from
  their keys. Nothing is deleted.
* `UniqueKey.Respects.steps` and `UniqueKey.persists`: after any number of such writes the table
  still respects its constraint, and every row is still there under its keys.
* `UniqueKey.Taken.steps`: a key that some row carries stays so.
* `UniqueKey.Respects.countP_carries`: a key that some row carries is carried by exactly one.
-/

namespace RecordMapper

/-- The keys of a table. -/
structure UniqueKey where
  /-- The primary key. -/
  primary : String
  /-- The columns in which no two rows agree. -/
  columns : List String
  /-- The form in which the engine compares values. -/
  norm : Value → Value

namespace UniqueKey

variable {k : UniqueKey} {table table' : List Record} {row row' : Record} {wanted : Entries}

/-! ## Rows -/

/-- What a row holds in a column, in the form that is compared; nothing where it holds null. -/
def cell (k : UniqueKey) (row : Record) (column : String) : Option Value :=
  (row.get? column).bind fun v => if v.isNull then none else some (k.norm v)

theorem cell_eq_some {column : String} {v : Value} (h : row.get? column = some v)
    (hv : v.isNull = false) : k.cell row column = some (k.norm v) := by
  rw [cell, h, Option.bind_some, hv]
  rfl

/-- A row that holds the wanted values. Values are compared as they are bound. -/
def Carries (k : UniqueKey) (row : Record) (wanted : Entries) : Prop :=
  ∀ entry ∈ wanted, k.cell row entry.1 = some (k.norm entry.2.param)

instance (k : UniqueKey) (row : Record) (wanted : Entries) : Decidable (k.Carries row wanted) :=
  inferInstanceAs (Decidable (∀ entry ∈ wanted, _))

/-- Rows that agree in all columns of the constraint. Null agrees with nothing. -/
def Clash (k : UniqueKey) (row other : Record) : Prop :=
  ∀ column ∈ k.columns, (k.cell row column).isSome ∧ k.cell row column = k.cell other column

instance (k : UniqueKey) (row other : Record) : Decidable (k.Clash row other) :=
  inferInstanceAs (Decidable (∀ column ∈ k.columns, _))

/-- Rows that carry one key clash. -/
theorem clash_of_carries (covers : ∀ column ∈ k.columns, column ∈ wanted.names)
    (h : k.Carries row wanted) (h' : k.Carries row' wanted) : k.Clash row row' := by
  intro column hc
  obtain ⟨entry, he, rfl⟩ := List.mem_map.1 (covers column hc)
  rw [h entry he, h' entry he]
  exact ⟨rfl, rfl⟩

theorem Clash.symm (h : k.Clash row row') : k.Clash row' row := by
  intro column hc
  obtain ⟨isSome, same⟩ := h column hc
  exact ⟨same ▸ isSome, same.symm⟩

/-- Whether rows clash depends only on the columns of the constraint. -/
theorem Clash.congr {other : Record} (h : k.Clash row row')
    (same : ∀ column ∈ k.columns, k.cell other column = k.cell row column) :
    k.Clash other row' := by
  intro column hc
  rw [same column hc]
  exact h column hc

theorem carries_primary {id : Value} :
    k.Carries row [(k.primary, id)] ↔ k.cell row k.primary = some (k.norm id.param) := by
  simp [Carries]

/-- A row whose keys are those of another row. -/
structure Keeps (k : UniqueKey) (row row' : Record) : Prop where
  /-- The primary key is the same. -/
  primary : row'.get? k.primary = row.get? k.primary
  /-- The columns of the constraint hold the same. -/
  columns : ∀ column ∈ k.columns, k.cell row' column = k.cell row column

namespace Keeps

theorem refl (k : UniqueKey) (row : Record) : k.Keeps row row :=
  ⟨rfl, fun _ _ => rfl⟩

theorem trans {row'' : Record} (h : k.Keeps row row') (h' : k.Keeps row' row'') :
    k.Keeps row row'' :=
  ⟨h'.primary.trans h.primary, fun column hc => (h'.columns column hc).trans (h.columns column hc)⟩

theorem cell_primary (h : k.Keeps row row') : k.cell row' k.primary = k.cell row k.primary := by
  rw [cell, cell, h.primary]

theorem carries (h : k.Keeps row row') (within : ∀ column ∈ wanted.names, column ∈ k.columns)
    (hc : k.Carries row wanted) : k.Carries row' wanted := by
  intro entry he
  rw [h.columns entry.1 (within entry.1 (List.mem_map_of_mem he)), hc entry he]

end Keeps

/-! ## Tables -/

/-- A table that respects its constraint. -/
structure Respects (k : UniqueKey) (table : List Record) : Prop where
  /-- Every row has a primary key, in the form in which values are bound. -/
  primary : ∀ row ∈ table, ∃ v, row.get? k.primary = some v ∧ v.isNull = false ∧ v.param = v
  /-- No two rows have the same primary key. -/
  distinct : table.Pairwise fun row other => k.cell row k.primary ≠ k.cell other k.primary
  /-- No two rows agree in all columns of the constraint. -/
  unique : table.Pairwise fun row other => ¬ k.Clash row other

/-- A write to a table. -/
inductive Step (k : UniqueKey) : List Record → List Record → Prop
  /-- A row is inserted. -/
  | insert {table : List Record} {row : Record} (h : k.Respects (table ++ [row])) :
    Step k table (table ++ [row])
  /-- Rows are changed apart from their keys. -/
  | update {table : List Record} (f : Record → Record)
      (h : ∀ row ∈ table, k.Keeps row (f row)) : Step k table (table.map f)

/-- Any number of writes. -/
abbrev Steps (k : UniqueKey) : List Record → List Record → Prop :=
  Relation.ReflTransGen k.Step

theorem respects_nil (k : UniqueKey) : k.Respects [] :=
  ⟨by simp, .nil, .nil⟩

/-- A row with keys of its own can be inserted. -/
theorem Respects.append (h : k.Respects table) {v : Value} (hv : row.get? k.primary = some v)
    (null : v.isNull = false) (bound : v.param = v)
    (fresh : ∀ other ∈ table, k.cell other k.primary ≠ some (k.norm v))
    (free : ∀ other ∈ table, ¬ k.Clash row other) : k.Respects (table ++ [row]) where
  primary := by
    intro other ho
    rcases List.mem_append.1 ho with old | new
    · exact h.primary other old
    · rw [List.mem_singleton.1 new]
      exact ⟨v, hv, null, bound⟩
  distinct := by
    refine List.pairwise_append.2 ⟨h.distinct, List.pairwise_singleton _ _, ?_⟩
    intro other ho row' hr
    rw [List.mem_singleton.1 hr, cell_eq_some hv null]
    exact fresh other ho
  unique := by
    refine List.pairwise_append.2 ⟨h.unique, List.pairwise_singleton _ _, ?_⟩
    intro other ho row' hr clash
    rw [List.mem_singleton.1 hr] at clash
    exact free other ho clash.symm

theorem respects_singleton {v : Value} (hv : row.get? k.primary = some v)
    (null : v.isNull = false) (bound : v.param = v) : k.Respects [row] :=
  k.respects_nil.append hv null bound (by simp) (by simp)

theorem Respects.step (h : k.Respects table) (hs : k.Step table table') : k.Respects table' := by
  cases hs with
  | insert h' => exact h'
  | update f hf =>
    refine ⟨?_, ?_, ?_⟩
    · intro row' hr
      obtain ⟨row, hrow, rfl⟩ := List.mem_map.1 hr
      rw [(hf row hrow).primary]
      exact h.primary row hrow
    · refine List.pairwise_map.2 (h.distinct.imp_of_mem fun ha hb hab => ?_)
      rwa [(hf _ ha).cell_primary, (hf _ hb).cell_primary]
    · refine List.pairwise_map.2 (h.unique.imp_of_mem fun ha hb hab hc => hab fun column hm => ?_)
      have agree := hc column hm
      rwa [(hf _ ha).columns column hm, (hf _ hb).columns column hm] at agree

/-- **Writes respect the constraint**, however many there are. -/
theorem Respects.steps (h : k.Respects table) (hs : k.Steps table table') :
    k.Respects table' := by
  induction hs with
  | refl => exact h
  | tail _ step ih => exact ih.step step

/-- **Rows persist**: after any number of writes there is a row of the same keys. -/
theorem persists (hs : k.Steps table table') (hr : row ∈ table) :
    ∃ row' ∈ table', k.Keeps row row' := by
  induction hs with
  | refl => exact ⟨row, hr, .refl k row⟩
  | tail _ step ih =>
    obtain ⟨row', hr', keeps⟩ := ih
    cases step with
    | insert h => exact ⟨row', List.mem_append_left _ hr', keeps⟩
    | update f hf => exact ⟨f row', List.mem_map_of_mem hr', keeps.trans (hf row' hr')⟩

/-- Some row of a table carries a key. -/
def Taken (k : UniqueKey) (table : List Record) (wanted : Entries) : Prop :=
  ∃ row ∈ table, k.Carries row wanted

/-- A key that is taken stays taken. -/
theorem Taken.steps (h : k.Taken table wanted) (hs : k.Steps table table')
    (within : ∀ column ∈ wanted.names, column ∈ k.columns) : k.Taken table' wanted := by
  obtain ⟨row, there, carries⟩ := h
  obtain ⟨row', there', keeps⟩ := persists hs there
  exact ⟨row', there', keeps.carries within carries⟩

/-- So does a primary key. -/
theorem Taken.steps_primary {id : Value} (h : k.Taken table [(k.primary, id)])
    (hs : k.Steps table table') : k.Taken table' [(k.primary, id)] := by
  obtain ⟨row, there, carries⟩ := h
  obtain ⟨row', there', keeps⟩ := persists hs there
  refine ⟨row', there', ?_⟩
  rw [carries_primary, keeps.cell_primary]
  exact carries_primary.1 carries

/-- Rows of one primary key are the same row. -/
theorem Respects.eq_of_primary (h : k.Respects table) (hr : row ∈ table) (hr' : row' ∈ table)
    (same : k.cell row k.primary = k.cell row' k.primary) : row = row' := by
  by_contra different
  have symm : Std.Symm fun row other => k.cell row k.primary ≠ k.cell other k.primary :=
    ⟨fun _ _ hab => hab.symm⟩
  exact h.distinct.forall hr hr' different same

/-- Rows that carry one primary key are the same row. -/
theorem Respects.eq_of_carries (h : k.Respects table) (hr : row ∈ table) (hr' : row' ∈ table)
    {id : Value} (hc : k.Carries row [(k.primary, id)]) (hc' : k.Carries row' [(k.primary, id)]) :
    row = row' :=
  h.eq_of_primary hr hr' ((carries_primary.1 hc).trans (carries_primary.1 hc').symm)

/-- **A key that some row carries is carried by exactly one row.** -/
theorem Respects.countP_carries (h : k.Respects table)
    (covers : ∀ column ∈ k.columns, column ∈ wanted.names) (taken : k.Taken table wanted) :
    table.countP (fun row => decide (k.Carries row wanted)) = 1 := by
  obtain ⟨row, hr, hc⟩ := taken
  obtain ⟨before, after, rfl⟩ := List.append_of_mem hr
  obtain ⟨-, later, across⟩ := List.pairwise_append.1 h.unique
  obtain ⟨later, -⟩ := List.pairwise_cons.1 later
  have left : before.countP (fun row => decide (k.Carries row wanted)) = 0 := by
    refine List.countP_eq_zero.2 fun other ho carries => ?_
    exact across other ho row (by simp) (clash_of_carries covers (by simpa using carries) hc)
  have right : after.countP (fun row => decide (k.Carries row wanted)) = 0 := by
    refine List.countP_eq_zero.2 fun other ho carries => ?_
    exact later other ho (clash_of_carries covers hc (by simpa using carries))
  rw [List.countP_append, List.countP_cons, left, right]
  simp [hc]

end UniqueKey

end RecordMapper
