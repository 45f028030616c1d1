import Mathlib.Data.List.Basic
import RecordMapper.Model.Upsert
import RecordMapper.Proofs.Model.Columns
import RecordMapper.Proofs.Model.Completion
import RecordMapper.Proofs.Storage
import RecordMapper.Proofs.Upsert.Engine

/-!
# An upsert among other clients

The setting in which a record is upserted by the columns of a unique constraint, and what is known
of the key in it.

* `Model.Setting` puts the model, the table, the record and the engine together.
* `Model.KeepsKeys`: reading a row gives its primary key back, and the stamp of an update is no part
  of a key.
* `Model.Setting.get?_inserted` and `Model.Setting.get?_assigned`: what is inserted and what is
  assigned hold the key as it was given.
* `Model.Setting.queryFor_ok` and `Model.Setting.updateTemplate_eq`: the key is looked for with
  `Model.queryOne`, and the record is assigned with `Model.assignOne`.
-/

namespace RecordMapper

/-! ## The setting -/

/-- The values of a record at some fields. -/
def Record.pick (r : Record) (fields : List String) : Entries :=
  fields.filterMap fun field => (r.get? field).map fun v => (field, v)

namespace Model

variable {σ : Type}

/-- The record that an upsert inserts. -/
def inserted (m : Model σ) (data : Record) (w : World σ) : Record :=
  m.schema.encode (m.schema.complete w.now data w.draws).1

/-- The record that an upsert assigns. -/
def assigned (m : Model σ) (data : Record) (w : World σ) : Record :=
  m.schema.encode (m.stamped w.now (m.assignable data))

/-- What is assigned has no primary key, unless an update stamps it. -/
theorem keyName_not_mem_assigned (data : Record) (w : World σ) {m : Model σ}
    (stamp : m.schema.options.timestamps = true → updatedAt ≠ m.schema.keyName) :
    m.schema.keyName ∉ (m.assigned data w).fields := by
  rw [assigned, Schema.fields_encode]
  have erased : m.schema.keyName ∉ (m.assignable data).fields := by
    simp [Model.assignable, Record.fields_erase]
  rw [stamped]
  split
  · next stamps =>
    rw [Record.fields_set]
    split
    · exact erased
    · simpa [erased] using (stamp stamps).symm
  · exact erased

/-- A record that is upserted by the columns of a unique constraint, on a table that `rows` reads
from the state of the engine. -/
structure Setting (m : Model σ) (rows : σ → List Record) (k : UniqueKey) (data : Record)
    (fields : List String) (w : World σ) : Prop where
  /-- There are no hooks. -/
  hooks : m.hooks = {}
  /-- Deleted rows are not hidden. -/
  visible : m.schema.hidesDeleted = false
  /-- The primary key is that of the schema. -/
  primary : k.primary = m.schema.keyName
  /-- The fields are the columns of the constraint, in any order. -/
  columns : ∀ column, column ∈ fields ↔ column ∈ k.columns
  /-- There is at least one. -/
  constrained : k.columns ≠ []
  /-- None of them is one that updates leave alone. -/
  assignable : ∀ column ∈ k.columns, column ≠ k.primary ∧ column ≠ "id" ∧ column ≠ createdAt
  /-- The record has a value for each of them. -/
  given : ∀ column ∈ k.columns, data.isUnset column = false
  /-- None of them is a document. -/
  scalar : ∀ column ∈ k.columns, ∀ f, m.schema.field? column = some f → f.kind ≠ .json
  /-- The record has no primary key. -/
  unkeyed : k.primary ∉ data.fields
  /-- The record can be inserted. -/
  creatable : m.schema.validate .create (m.schema.complete w.now data w.draws).1 = .ok ()
  /-- The record can be assigned. -/
  updatable : m.schema.validate .partialUpdate (m.stamped w.now (m.assignable data)) = .ok ()
  /-- The table respects its constraint to begin with. -/
  respects : k.Respects (rows w.engine)
  /-- The engine keeps the table. -/
  serves : Serves m.engine m.table rows k (data.pick fields) (m.inserted data w) (m.assigned data w)

/-- Reading and updating a row are of no consequence for its keys. -/
structure KeepsKeys (m : Model σ) (k : UniqueKey) : Prop where
  /-- A primary key is read as it is stored. -/
  read : ∀ f, m.schema.field? k.primary = some f → f.kind ≠ .boolean ∧ f.kind ≠ .json
  /-- The stamp of an update is no part of a key. -/
  stamp : m.schema.options.timestamps = true → updatedAt ≠ k.primary ∧ updatedAt ∉ k.columns

/-! ## The key -/

namespace Setting

variable {m : Model σ} {rows : σ → List Record} {k : UniqueKey} {data : Record}
  {fields : List String} {w : World σ}

/-- The value of the record in a column of the constraint. -/
theorem get?_data (h : m.Setting rows k data fields w) {column : String}
    (hc : column ∈ k.columns) : ∃ v, data.get? column = some v ∧ v.isNull = false :=
  Record.isUnset_eq_false.1 (h.given column hc)

theorem mem_wanted (h : m.Setting rows k data fields w) {column : String} {v : Value} :
    (column, v) ∈ data.pick fields ↔ column ∈ k.columns ∧ data.get? column = some v := by
  rw [Record.pick, List.mem_filterMap, ← h.columns]
  constructor
  · rintro ⟨field, hf, hv⟩
    obtain ⟨v', hv', rfl, rfl⟩ : ∃ v', data.get? field = some v' ∧ field = column ∧ v' = v := by
      simpa using hv
    exact ⟨hf, hv'⟩
  · rintro ⟨hc, hv⟩
    exact ⟨column, hc, by rw [hv]; rfl⟩

/-- None of the wanted values is null. -/
theorem wanted_not_null (h : m.Setting rows k data fields w) :
    ∀ entry ∈ data.pick fields, entry.2.isNull = false := by
  rintro ⟨column, v⟩ he
  obtain ⟨hc, hv⟩ := h.mem_wanted.1 he
  obtain ⟨v', hv', null⟩ := h.get?_data hc
  obtain rfl : v' = v := Option.some_inj.1 (hv'.symm.trans hv)
  exact null

theorem mem_names_wanted (h : m.Setting rows k data fields w) {column : String} :
    column ∈ (data.pick fields).names ↔ column ∈ k.columns := by
  rw [Entries.names, List.mem_map]
  constructor
  · rintro ⟨⟨column, v⟩, he, rfl⟩
    exact (h.mem_wanted.1 he).1
  · intro hc
    obtain ⟨v, hv, -⟩ := h.get?_data hc
    exact ⟨(column, v), h.mem_wanted.2 ⟨hc, hv⟩, rfl⟩

/-- A record that holds the key as it was given. -/
theorem cell_bound (h : m.Setting rows k data fields w) {r : Record}
    (same : ∀ column ∈ k.columns, r.get? column = data.get? column) {column : String} {v : Value}
    (he : (column, v) ∈ data.pick fields) : k.cell r.bound column = some (k.norm v.param) := by
  obtain ⟨hc, hv⟩ := h.mem_wanted.1 he
  rw [UniqueKey.cell_bound, same column hc, hv, Option.bind_some, h.wanted_not_null _ he]
  rfl

/-- A row that clashes with such a record carries the key. -/
theorem carries_of_clash (h : m.Setting rows k data fields w) {r row : Record}
    (same : ∀ column ∈ k.columns, r.get? column = data.get? column)
    (clash : k.Clash r.bound row) : k.Carries row (data.pick fields) := by
  rintro ⟨column, v⟩ he
  obtain ⟨-, agree⟩ := clash column (h.mem_wanted.1 he).1
  rw [← agree, h.cell_bound same he]

/-- What is inserted holds the key. -/
theorem get?_inserted (h : m.Setting rows k data fields w) {column : String}
    (hc : column ∈ k.columns) : (m.inserted data w).get? column = data.get? column := by
  rw [inserted, Schema.get?_encode (h.scalar column hc)]
  exact Schema.get?_complete m.schema w.now w.draws (h.given column hc)

/-- What is assigned holds the key. -/
theorem get?_assigned (h : m.Setting rows k data fields w) (hk : m.KeepsKeys k) {column : String}
    (hc : column ∈ k.columns) : (m.assigned data w).get? column = data.get? column := by
  obtain ⟨ne_primary, ne_id, ne_created⟩ := h.assignable column hc
  rw [assigned, Schema.get?_encode (h.scalar column hc)]
  have kept : (m.assignable data).get? column = data.get? column := by
    rw [h.primary] at ne_primary
    rw [Model.assignable, Record.get?_erase, Record.get?_erase, Record.get?_erase,
      if_neg ne_created.symm, if_neg ne_id.symm, if_neg ne_primary.symm]
  rw [stamped]
  split
  · next stamps =>
    have ne : updatedAt ≠ column := fun e => (hk.stamp stamps).2 (e ▸ hc)
    rw [Record.get?_set, if_neg ne, kept]
  · exact kept

/-- What is inserted has all columns of the constraint. -/
theorem mem_fields_inserted (h : m.Setting rows k data fields w) {column : String}
    (hc : column ∈ k.columns) : column ∈ (m.inserted data w).fields := by
  obtain ⟨v, hv, -⟩ := h.get?_data hc
  rw [Record.mem_fields, h.get?_inserted hc, hv]
  rfl

/-- What is assigned has all columns of the constraint. -/
theorem mem_fields_assigned (h : m.Setting rows k data fields w) (hk : m.KeepsKeys k)
    {column : String} (hc : column ∈ k.columns) : column ∈ (m.assigned data w).fields := by
  obtain ⟨v, hv, -⟩ := h.get?_data hc
  rw [Record.mem_fields, h.get?_assigned hk hc, hv]
  rfl

/-- What is assigned has no primary key. -/
theorem primary_not_mem_assigned (h : m.Setting rows k data fields w) (hk : m.KeepsKeys k) :
    k.primary ∉ (m.assigned data w).fields :=
  h.primary ▸ keyName_not_mem_assigned data w fun stamps => h.primary ▸ (hk.stamp stamps).1

/-! ## Statements -/

/-- The filter of the upsert. -/
theorem filter_eq (h : m.Setting rows k data fields w) :
    (UpsertRequest.byFields data fields).parts.1
      = (data.pick fields).map fun entry => .eq entry.1 entry.2 := by
  have given : ∀ field ∈ fields, ∃ v, data.get? field = some v ∧ v.isNull = false :=
    fun field hf => h.get?_data ((h.columns field).1 hf)
  clear h
  simp only [UpsertRequest.parts, Record.pick, List.map_filterMap]
  refine List.filterMap_congr fun field hf => ?_
  obtain ⟨v, hv, null⟩ := given field hf
  simp [hv, null]

theorem wanted_ne_nil (h : m.Setting rows k data fields w) : data.pick fields ≠ [] := by
  obtain ⟨column, hc⟩ := List.exists_mem_of_ne_nil _ h.constrained
  obtain ⟨v, hv, -⟩ := h.get?_data hc
  exact List.ne_nil_of_mem (h.mem_wanted.2 ⟨hc, hv⟩)

theorem mem_fields_assignable (h : m.Setting rows k data fields w) {column : String}
    (hc : column ∈ k.columns) : column ∈ (m.assignable data).fields := by
  obtain ⟨ne_primary, ne_id, ne_created⟩ := h.assignable column hc
  obtain ⟨v, hv, -⟩ := h.get?_data hc
  have there : column ∈ data.fields := by
    rw [Record.mem_fields, hv]
    rfl
  rw [h.primary] at ne_primary
  simp [Model.assignable, Record.fields_erase, there, ne_primary, ne_id, ne_created]

/-- The record assigns something. -/
theorem assigns_any (h : m.Setting rows k data fields w) :
    (data.fields.any fun f => f != m.schema.keyName && f != "id" && f != createdAt) = true := by
  obtain ⟨column, hc⟩ := List.exists_mem_of_ne_nil _ h.constrained
  obtain ⟨ne_primary, ne_id, ne_created⟩ := h.assignable column hc
  obtain ⟨v, hv, -⟩ := h.get?_data hc
  rw [h.primary] at ne_primary
  refine List.any_eq_true.2 ⟨column, (Record.mem_fields data column).2 (by simp [hv]), ?_⟩
  simp [ne_primary, ne_id, ne_created]

/-- The columns of the constraint are fields. -/
theorem hasField (h : m.Setting rows k data fields w) {column : String}
    (hc : column ∈ k.columns) : m.schema.hasField column = true := by
  refine Schema.hasField_of_validate h.updatable ?_
  have there := h.mem_fields_assignable hc
  unfold stamped
  split
  · rw [Record.fields_set]
    split
    · exact there
    · exact List.mem_append_left _ there
  · exact there

/-- The query that looks for the key. -/
theorem queryFor_ok (h : m.Setting rows k data fields w) :
    m.queryFor { filter := (UpsertRequest.byFields data fields).parts.1, limit := some 1 }
      = .ok (m.queryOne (data.pick fields)) := by
  have filter : m.checkFilter ((data.pick fields).map fun entry => .eq entry.1 entry.2)
      = .ok () := by
    refine checkColumns_ok "filter" fun column hc => h.hasField (h.mem_names_wanted.1 ?_)
    simpa [Entries.names, Condition.eq, Condition.ofValue] using hc
  have none (place : String) : m.checkColumns place [] = .ok () := rfl
  simp only [queryFor, h.filter_eq, filter, List.map_nil, none, h.visible, Bool.false_and,
    Bool.false_eq_true, if_false, List.append_nil]
  rfl

/-- What an update of a row assigns. -/
theorem updateTemplate_eq (h : m.Setting rows k data fields w) (id : Value) :
    m.updateTemplate w.now data [.eq m.schema.keyName id] = m.assignOne id (m.assigned data w) := by
  obtain ⟨column, hc⟩ := List.exists_mem_of_ne_nil _ h.constrained
  have some : (m.assignable data).isEmpty = false := by
    rw [Record.isEmpty_eq, List.isEmpty_eq_false_iff]
    exact List.ne_nil_of_mem (h.mem_fields_assignable hc)
  simp only [updateTemplate, some, Bool.false_eq_true, if_false, h.updatable, checkFilter_key]
  rfl

/-- The record can be assigned to a row. -/
theorem assignOne_ok (h : m.Setting rows k data fields w) (hk : m.KeepsKeys k) (id : Value) :
    ∃ t, m.assignOne id (m.assigned data w) = .ok t := by
  obtain ⟨column, hc⟩ := List.exists_mem_of_ne_nil _ h.constrained
  have some : (m.assigned data w).isEmpty = false := by
    rw [Record.isEmpty_eq, List.isEmpty_eq_false_iff]
    exact List.ne_nil_of_mem (h.mem_fields_assigned hk hc)
  exact ⟨_, by simp [assignOne, Query.update, some]; rfl⟩

end Setting

end Model

end RecordMapper
