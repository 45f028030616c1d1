import RecordMapper.Model.Aggregate
import RecordMapper.Model.Create
import RecordMapper.Proofs.Model.Outcome
import RecordMapper.Proofs.Model.Stages
import RecordMapper.Proofs.Validation

/-!
# Columns that are fields

What the checks of an operation say about the names that its caller gives.

* `Schema.hasField_of_validate`: a record that passes validation has only declared names.
* `Model.hasField_of_checkColumns` and `Model.hasField_of_checkFilter`: so do column lists and
  filters that pass; `Model.checkColumns_ok` is the other direction.
* `Model.hasField_of_checkAggregate` and `Model.checkAggregates_checked`: an aggregate is of a
  declared column, or counts the rows.
-/

namespace RecordMapper

theorem Schema.hasField_of_mem {s : Schema} {f : Field} (hf : f ∈ s.fields) :
    s.hasField f.name = true := by
  rw [hasField, field?, List.find?_isSome]
  exact ⟨f, hf, by simp⟩

theorem Schema.hasField_keyName (s : Schema) : s.hasField s.keyName = true :=
  hasField_of_mem (List.get_mem s.fields s.keyIndex)

theorem Schema.mem_of_hasField {s : Schema} {name : String} (h : s.hasField name = true) :
    ∃ f ∈ s.fields, f.name = name := by
  rw [hasField, field?, List.find?_isSome] at h
  simpa using h

/-- The field of a name is declared under this name. -/
theorem Schema.field?_eq_some {s : Schema} {name : String} {f : Field}
    (h : s.field? name = some f) : f ∈ s.fields ∧ f.name = name :=
  ⟨List.mem_of_find?_eq_some h, by simpa using List.find?_some h⟩

/-- A record that passes validation has no other names than those of fields. -/
theorem Schema.hasField_of_validate {s : Schema} {mode : ValidationMode} {r : Record}
    (h : s.validate mode r = .ok ()) {name : String} (hn : name ∈ r.fields) :
    s.hasField name = true :=
  (validate_eq_ok.1 h).2 name hn

/-- A check of every element of a list. -/
theorem forM_eq_ok {α : Type} {check : α → Except Error Unit} {items : List α} :
    items.forM check = .ok () ↔ ∀ a ∈ items, check a = .ok () := by
  induction items with
  | nil => exact ⟨fun _ => by simp, fun _ => rfl⟩
  | cons a rest ih =>
    show (check a >>= fun _ => rest.forM check) = .ok () ↔ _
    rw [List.forall_mem_cons, ← ih, bind_eq_ok]
    exact ⟨fun ⟨_, first, later⟩ => ⟨first, later⟩, fun ⟨first, later⟩ => ⟨(), first, later⟩⟩

namespace Model

variable {σ : Type} {m : Model σ}

theorem checkColumn_eq_ok {place column : String} :
    m.checkColumn place column = .ok () ↔ m.schema.hasField column = true := by
  unfold checkColumn
  split <;> simp [*]

theorem checkColumns_ok (place : String) {columns : List String}
    (h : ∀ column ∈ columns, m.schema.hasField column = true) :
    m.checkColumns place columns = .ok () :=
  forM_eq_ok.2 fun column hc => checkColumn_eq_ok.2 (h column hc)

/-- The primary key may be filtered by. -/
theorem checkFilter_key (m : Model σ) (id : Value) :
    m.checkFilter [.eq m.schema.keyName id] = .ok () :=
  checkColumns_ok "filter" (by simp [Condition.eq, Condition.ofValue, Schema.hasField_keyName])

theorem hasField_of_checkColumns {place : String} {columns : List String}
    (h : m.checkColumns place columns = .ok ()) :
    ∀ column ∈ columns, m.schema.hasField column = true :=
  fun column hc => checkColumn_eq_ok.1 (forM_eq_ok.1 h column hc)

theorem hasField_of_checkFilter {filter : Filter} (h : m.checkFilter filter = .ok ()) :
    ∀ c ∈ filter, m.schema.hasField c.field = true :=
  fun c hc => hasField_of_checkColumns h c.field (List.mem_map_of_mem hc)

/-- An aggregate is of a field, or counts the rows. -/
theorem hasField_of_checkAggregate {function : AggregateFunction} {field : String}
    (h : m.checkAggregate function field = .ok ()) :
    m.schema.hasField field = true ∨ (field = "*" ∧ function = .count) := by
  unfold checkAggregate at h
  split at h
  · next rows => exact .inr rows
  · exact .inl (checkColumn_eq_ok.1 h)

/-- Aggregates that can be asked for are of fields and under plain aliases; the rows are grouped by
fields, and ordered by group columns or aliases. -/
theorem checkAggregates_checked {aggregates : List Aggregate} {options : AggregateOptions}
    (h : m.checkAggregates aggregates options = .ok ()) :
    (∀ a ∈ aggregates, (m.schema.hasField a.field = true ∨ (a.field = "*" ∧ a.function = .count)) ∧
        Aggregate.isIdentifier a.label = true) ∧
      (∀ column ∈ options.groupBy, m.schema.hasField column = true) ∧
      ∀ o ∈ options.order,
        o.column ∈ options.groupBy ∨ ∃ a ∈ aggregates, a.label = o.column := by
  simp only [checkAggregates] at h
  split at h
  · cases h
  obtain ⟨_, each, h⟩ := bind_eq_ok.1 h
  obtain ⟨_, groups, orders⟩ := bind_eq_ok.1 h
  refine ⟨fun a ha => ?_, fun column hc => ?_, fun o ho => ?_⟩
  · obtain ⟨_, field, label⟩ := bind_eq_ok.1 (forM_eq_ok.1 each a ha)
    refine ⟨hasField_of_checkAggregate field, ?_⟩
    split at label
    · cases label
    · next plain => simpa using plain
  · exact (hasField_of_checkAggregate (forM_eq_ok.1 groups column hc)).resolve_right (by simp)
  · have known := forM_eq_ok.1 orders o ho
    split at known
    · next named => simpa using named
    · cases known

end Model

end RecordMapper
