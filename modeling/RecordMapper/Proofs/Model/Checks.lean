import RecordMapper.Proofs.Model.Columns

/-!
# Checks that fail

The errors with which the checks of an operation end, before or between its statements.

* `Model.validate_error`, `Model.insertedKey_error`: an invalid record, and a row without
  identifier.
* `Model.Undeclared` is the error for a column that is no field; `Model.queryFor_error` and
  `Model.checkFilter_error` end with no other.
* `Model.updateTemplate_error`: an update that assigns nothing, an invalid record, or such a column.
* `Model.queryFor_undeclared` and its kind: wherever a column that is no field is named, the check
  fails.
-/

namespace RecordMapper

/-- A computation in two stages that fails. -/
theorem bind_eq_error {α β : Type} {x : Except Error α} {f : α → Except Error β} {e : Error}
    (h : x >>= f = .error e) : x = .error e ∨ ∃ a, x = .ok a ∧ f a = .error e := by
  cases x with
  | error e' =>
    cases h
    exact .inl rfl
  | ok a => exact .inr ⟨a, rfl, h⟩

/-- A check of the elements of a list fails at one of them. -/
theorem forM_eq_error {α : Type} {check : α → Except Error Unit} {items : List α} {e : Error}
    (h : items.forM check = .error e) : ∃ a ∈ items, check a = .error e := by
  induction items with
  | nil => cases h
  | cons a rest ih =>
    rcases bind_eq_error h with first | ⟨-, -, later⟩
    · exact ⟨a, by simp, first⟩
    · obtain ⟨b, hb, fails⟩ := ih later
      exact ⟨b, by simp [hb], fails⟩

/-- The columns that find options name. -/
def FindOptions.columns (options : FindOptions) : List String :=
  options.filter.map (·.field) ++ options.select ++ options.order.map (·.column)

namespace Model

variable {σ : Type} {m : Model σ} {e : Error}

/-! ## Records and rows -/

theorem validate_error {s : Schema} {mode : ValidationMode} {r : Record} {e : Error}
    (h : s.validate mode r = .error e) : ∃ violations, e = .validation violations :=
  ⟨_, (Schema.validate_eq_error.1 h).2⟩

theorem insertedKey_error {data : Record} {info : ReplyInfo} {e : Error}
    (h : m.insertedKey data info = .error e) : e = .missingRow (.noIdentifier m.table) := by
  have reported : ∀ {e}, insertedKey.reported m info = .error e →
      e = .missingRow (.noIdentifier m.table) := by
    intro e h
    unfold insertedKey.reported at h
    split at h
    · cases h
    · exact (Except.error.inj h).symm
  unfold insertedKey at h
  split at h
  · split at h
    · exact reported h
    · cases h
  · exact reported h

/-! ## Columns -/

/-- The error for a column that is no field. -/
def Undeclared (m : Model σ) (e : Error) : Prop :=
  ∃ column place, m.schema.hasField column = false ∧
    e = .invalidArgument (.unknownColumn m.table column place)

theorem checkColumns_error {place : String} {columns : List String}
    (h : m.checkColumns place columns = .error e) : m.Undeclared e := by
  obtain ⟨column, -, fails⟩ := forM_eq_error h
  unfold checkColumn at fails
  split at fails
  · cases fails
  · next unknown =>
    exact ⟨column, place, Bool.eq_false_iff.2 unknown, (Except.error.inj fails).symm⟩

theorem checkFilter_error {filter : Filter} (h : m.checkFilter filter = .error e) :
    m.Undeclared e :=
  checkColumns_error h

theorem queryFor_error {options : FindOptions} (h : m.queryFor options = .error e) :
    m.Undeclared e := by
  rcases bind_eq_error h with filter | ⟨-, -, h⟩
  · exact checkFilter_error filter
  · rcases bind_eq_error h with select | ⟨-, -, h⟩
    · exact checkColumns_error select
    · rcases bind_eq_error h with order | ⟨-, -, h⟩
      · exact checkColumns_error order
      · cases h

theorem queryFor_undeclared {options : FindOptions} {column : String}
    (named : column ∈ options.columns) (unknown : m.schema.hasField column = false) :
    ∃ e, m.Undeclared e ∧ m.queryFor options = .error e := by
  cases h : m.queryFor options with
  | error e => exact ⟨e, queryFor_error h, rfl⟩
  | ok q =>
    obtain ⟨filter, select, order, -⟩ := queryFor_checked h
    have declared : m.schema.hasField column = true := by
      rcases List.mem_append.1 named with among | ordered
      · rcases List.mem_append.1 among with filtered | selected
        · exact hasField_of_checkColumns filter column filtered
        · exact hasField_of_checkColumns select column selected
      · exact hasField_of_checkColumns order column ordered
    rw [unknown] at declared
    cases declared

/-- Why an update has no statement. -/
theorem updateTemplate_cases {now : Instant} {data : Record} {filter : Filter}
    (h : m.updateTemplate now data filter = .error e) :
    e = .noFieldsToUpdate ∨
      m.schema.validate .partialUpdate (m.stamped now (m.assignable data)) = .error e ∨
        m.Undeclared e := by
  unfold updateTemplate at h
  dsimp only at h
  split at h
  · exact .inl (Except.error.inj h).symm
  · rcases bind_eq_error h with invalid | ⟨-, -, h⟩
    · exact .inr (.inl invalid)
    · rcases bind_eq_error h with filter | ⟨-, -, h⟩
      · exact .inr (.inr (checkFilter_error filter))
      · unfold Query.update at h
        split at h
        · exact .inl (Except.error.inj h).symm
        · cases h

/-- The error of an update that has no statement. -/
theorem updateTemplate_error {now : Instant} {data : Record} {filter : Filter}
    (h : m.updateTemplate now data filter = .error e) :
    e = .noFieldsToUpdate ∨ (∃ violations, e = .validation violations) ∨ m.Undeclared e :=
  (updateTemplate_cases h).imp_right fun wrong => wrong.imp_left validate_error

theorem updateTemplate_nothing (now : Instant) {data : Record} (filter : Filter)
    (nothing : (m.assignable data).isEmpty = true) :
    m.updateTemplate now data filter = .error .noFieldsToUpdate :=
  if_pos nothing

theorem updateTemplate_invalid {now : Instant} {data : Record} (filter : Filter)
    (some : (m.assignable data).isEmpty = false)
    (invalid : m.schema.validate .partialUpdate (m.stamped now (m.assignable data)) = .error e) :
    m.updateTemplate now data filter = .error e := by
  simp only [updateTemplate, some, Bool.false_eq_true, if_false, invalid]
  rfl

end Model

end RecordMapper
