import RecordMapper.Proofs.Model.Checks
import RecordMapper.Proofs.Model.Selections
import RecordMapper.Proofs.Sql.Draft
import RecordMapper.Proofs.Storage
import RecordMapper.Proofs.Upsert.Path

/-!
# What an update assigns

The statement of an update, column by column, and the marks of deletion.

* `Model.assignedTo` are the columns that an update assigns, in order, with what it binds for them.
* `Model.Overwrites`: the only statement of an update assigns them under the conditions of its
  filter; it fails for want of fields if nothing is left to be assigned.
* `Statement.Changes`: the condition of a statement, read with its parameters, is a conjunction of
  predicates.
* `update_assigns_payload` says this of all updates, and that softly deleting and restoring are
  updates of which no row meets the conditions of both.
-/

namespace RecordMapper

/-! ## Assigned values -/

/-- A value as a field of a schema binds it: in its stored form, and that in wire form. -/
def Schema.wire (s : Schema) (name : String) (v : Value) : Value :=
  match s.field? name with
  | some f => (f.kind.encode v).param
  | none => v.param

theorem Schema.entries_encode (s : Schema) (r : Record) :
    (s.encode r).entries.map (fun entry => (entry.1, entry.2.param))
      = r.entries.map fun entry => (entry.1, s.wire entry.1 entry.2) := by
  rw [encode, mapDeclared, Record.mapValues, List.map_map]
  refine List.map_congr_left fun entry _ => ?_
  simp only [Function.comp_apply, wire]
  cases s.field? entry.1 <;> rfl

/-! ## The statement of an update -/

/-- Assigns columns to the rows of a filter. -/
def Statement.updateRows (table : String) (assigned : Entries) (filter : Filter) : Statement where
  sql := "UPDATE " ++ table ++ " SET " ++ ", ".intercalate (assignments assigned.names)
    ++ filter.whereSql
  params := assigned.map (·.2) ++ filter.operands.map Value.param

/-- A statement assigns columns to the rows of which all of some predicates are true: these are what
its condition, with its parameters, reads as. -/
def Statement.Changes (s : Statement) (table : String) (assigned : Entries)
    (asked : List Predicate) : Prop :=
  ∃ condition : Statement, condition.conjunction? = some asked ∧
    s = ⟨"UPDATE " ++ table ++ " SET " ++ ", ".intercalate (assignments assigned.names)
        ++ " WHERE " ++ condition.sql, assigned.map (·.2) ++ condition.params⟩

theorem Filter.params_conjunction_eq (filter : Filter) :
    filter.conjunction.params = filter.operands := by
  rw [params_conjunction, operands, predicates, List.flatMap_map]
  exact List.flatMap_congr fun c _ => c.values_predicate

/-- The conditions of an update read back, if their columns are names. -/
theorem Statement.changes_updateRows (table : String) (assigned : Entries) {filter : Filter}
    (some : filter ≠ []) (plain : ∀ c ∈ filter, IsColumn c.field) :
    (updateRows table assigned filter).Changes table assigned filter.asked := by
  refine ⟨⟨filter.conjunction.sql, filter.conjunction.params.map Value.param⟩,
    Filter.conjunction?_bound some plain, ?_⟩
  have nonempty : filter.isEmpty = false := List.isEmpty_eq_false_iff.2 some
  rw [updateRows, Filter.whereSql, nonempty, Filter.params_conjunction_eq]
  simp only [Bool.false_eq_true, if_false, String.append_assoc]

/-- The assignment of a record to the rows of a query. -/
theorem Query.wire_update {q : Query} {set : Record} {t : Template} (h : q.update set = .ok t) :
    t.statement.wire = .updateRows q.table (set.entries.map fun entry => (entry.1, entry.2.param))
      q.conditions := by
  unfold update at h
  split at h
  · cases h
  · cases h
    have values : (set.entries.map fun entry =>
        Template.raw (entry.1 ++ " = ") ++ .bind entry.2).flatMap Template.params
          = set.entries.map (·.2) := by
      rw [List.flatMap_map, List.map_eq_flatMap]
      simp
    have names : Entries.names (set.entries.map fun entry => (entry.1, entry.2.param))
        = set.entries.names := by
      simp [Entries.names, Function.comp_def]
    simp only [Statement.wire, Template.statement, Statement.updateRows, Statement.assignments,
      Query.whereClause, Template.sql_append, Template.sql_raw, sql_assignments, Filter.sql_where,
      Template.params_append, Template.params_raw, Template.params_join, values,
      Filter.params_where, Filter.params_conjunction_eq, names, List.nil_append, List.map_append,
      List.map_map, Function.comp_def]

namespace Model

variable {σ : Type} {m : Model σ} {payload : Record} {filter : Filter} {now : Instant}

/-! ## The assigned columns -/

/-- The names that an update does not take from its payload. -/
def Spares (m : Model σ) (name : String) : Prop :=
  name = m.schema.keyName ∨ name = "id" ∨ name = createdAt

instance (m : Model σ) (name : String) : Decidable (m.Spares name) :=
  inferInstanceAs (Decidable (_ ∨ _))

/-- The entries of a payload that an update takes from it. -/
def taken (m : Model σ) (payload : Record) : Entries :=
  payload.entries.filter fun entry => !decide (m.Spares entry.1)

/-- The columns that an update assigns, with what it binds for them: those of the payload, in its
order; where timestamps are managed, the time of the change stands in the place of what the payload
has for it, or else at the end. -/
def assignedTo (m : Model σ) (now : Instant) (payload : Record) : Entries :=
  let stamped : Entries :=
    if m.schema.options.timestamps then
      if updatedAt ∈ (m.taken payload).names then
        (m.taken payload).map fun entry =>
          if entry.1 = updatedAt then (updatedAt, .stamp now) else entry
      else m.taken payload ++ [(updatedAt, .stamp now)]
    else m.taken payload
  stamped.map fun entry => (entry.1, m.schema.wire entry.1 entry.2)

theorem entries_assignable (m : Model σ) (payload : Record) :
    (m.assignable payload).entries = m.taken payload := by
  simp only [assignable, Record.erase, taken, List.filter_filter]
  refine List.filter_congr fun entry _ => ?_
  rw [Bool.eq_iff_iff]
  simp only [Bool.and_eq_true, bne_iff_ne, Bool.not_eq_true', decide_eq_false_iff_not]
  simp only [Spares, not_or]
  constructor
  · rintro ⟨created, id, key⟩
    exact ⟨key, id, created⟩
  · rintro ⟨key, id, created⟩
    exact ⟨created, id, key⟩

/-- What is not spared is taken as it is. -/
theorem get?_assignable {name : String} (taken : ¬ m.Spares name) :
    (m.assignable payload).get? name = payload.get? name := by
  obtain ⟨key, id, created⟩ : name ≠ m.schema.keyName ∧ name ≠ "id" ∧ name ≠ createdAt := by
    simpa only [Spares, not_or] using taken
  simp only [assignable, Record.get?_erase, if_neg (Ne.symm key), if_neg (Ne.symm id),
    if_neg (Ne.symm created)]

/-- Nothing else than the time of the change is stamped. -/
theorem get?_stamped {name : String} {set : Record}
    (other : m.schema.options.timestamps = true → name ≠ updatedAt) :
    (m.stamped now set).get? name = set.get? name := by
  unfold stamped
  split
  · next managed => rw [Record.get?_set, if_neg (other managed).symm]
  · rfl

theorem assignedTo_eq (m : Model σ) (now : Instant) (payload : Record) :
    (m.schema.encode (m.stamped now (m.assignable payload))).entries.map
        (fun entry => (entry.1, entry.2.param))
      = m.assignedTo now payload := by
  have distinct : (m.taken payload).names.Nodup :=
    m.entries_assignable payload ▸ (m.assignable payload).nodup
  rw [Schema.entries_encode, assignedTo]
  congr 1
  unfold stamped
  cases m.schema.options.timestamps with
  | false => exact m.entries_assignable payload
  | true =>
    simp only [if_true, Record.set]
    rw [m.entries_assignable payload, Entries.set_eq distinct]

/-- **No column is assigned twice.** -/
theorem nodup_assignedTo (m : Model σ) (now : Instant) (payload : Record) :
    (m.assignedTo now payload).names.Nodup := by
  have names : Entries.names ((m.schema.encode (m.stamped now (m.assignable payload))).entries.map
      fun entry => (entry.1, entry.2.param))
        = (m.schema.encode (m.stamped now (m.assignable payload))).fields := by
    simp [Entries.names, Record.fields, Function.comp_def]
  rw [← assignedTo_eq, names]
  exact (m.schema.encode _).nodup

/-- Nothing is assigned if the payload has no other fields than those that are spared. -/
theorem assigns_eq_false : m.assigns payload = false ↔ ∀ name ∈ payload.fields, m.Spares name := by
  rw [assigns, List.any_eq_false]
  refine forall₂_congr fun name _ => ?_
  simp only [Spares, Bool.and_eq_true, bne_iff_ne]
  exact ⟨fun h => Classical.byContradiction fun none =>
    h ⟨⟨fun key => none (.inl key), fun id => none (.inr (.inl id))⟩,
      fun created => none (.inr (.inr created))⟩,
    fun spared ⟨⟨key, id⟩, created⟩ => spared.elim key fun rest => rest.elim id created⟩

/-- **The names of a payload tell whether anything is left of it** without the fields that are
spared. -/
theorem isEmpty_assignable (m : Model σ) (payload : Record) :
    (m.assignable payload).isEmpty = !m.assigns payload := by
  rw [Bool.eq_iff_iff, Bool.not_eq_true', assigns_eq_false, Record.isEmpty_eq, List.isEmpty_iff,
    List.eq_nil_iff_forall_not_mem]
  simp only [assignable, Record.fields_erase, List.mem_filter, bne_iff_ne, Spares]
  refine forall_congr' fun name => ?_
  tauto

/-! ## Updates -/

/-- An update fails for want of fields exactly if nothing is assigned. -/
theorem updateTemplate_noFields (now : Instant) (filter : Filter) :
    m.updateTemplate now payload filter = .error .noFieldsToUpdate ↔
      ∀ name ∈ payload.fields, m.Spares name := by
  rw [← assigns_eq_false]
  cases assigns : m.assigns payload with
  | false =>
    refine iff_of_true (updateTemplate_nothing now filter ?_) rfl
    rw [isEmpty_assignable, assigns]
    rfl
  | true =>
    refine iff_of_false (fun failed => ?_) (by decide)
    obtain ⟨given, written⟩ := isEmpty_of_assigns assigns now
    unfold updateTemplate at failed
    simp only [given, Bool.false_eq_true, if_false] at failed
    rcases bind_eq_error failed with invalid | ⟨-, -, failed⟩
    · obtain ⟨violations, other⟩ := validate_error invalid
      cases other
    · rcases bind_eq_error failed with unknown | ⟨-, -, failed⟩
      · obtain ⟨column, place, -, other⟩ := checkFilter_error unknown
        cases other
      · rw [Query.update, written] at failed
        cases failed

/-- The course of an update. -/
structure Overwrites (m : Model σ) (now : Instant) (payload : Record) (filter : Filter)
    (xs : Conversation) (result : Except Error ReplyInfo) : Prop where
  /-- Either nothing is said, or one statement assigns the columns under the conditions of the
  filter. -/
  statement : xs = [] ∨
    ∃ answer, xs = [(.updateRows m.table (m.assignedTo now payload) filter, answer)]
  /-- Nothing is said only if there are no fields, an invalid value or an undeclared column. -/
  refused : xs = [] → ∃ e, result = .error e ∧
    (e = .noFieldsToUpdate ∨ (∃ violations, e = .validation violations) ∨ m.Undeclared e)
  /-- There are no fields if the payload has no other ones than those that are spared. -/
  nothing : result = .error .noFieldsToUpdate ↔ ∀ name ∈ payload.fields, m.Spares name
  /-- The conditions read back, if their columns are names. -/
  reads : filter ≠ [] → (∀ c ∈ filter, IsColumn c.field) → ∀ x ∈ xs,
    x.1.Changes m.table (m.assignedTo now payload) filter.asked

theorem follows_update (hm : m.hooks = {}) (payload : Record) (filter : Filter) (w : World σ) :
    m.Follows (m.update payload filter) w (m.Overwrites w.now payload filter) := by
  rw [update_eq hm]
  refine .now_bind (.lift_bind (fun e failed => ?_) fun t ht => ?_)
  · refine ⟨.inl rfl, fun _ => ⟨e, rfl, updateTemplate_error failed⟩, ?_, fun _ _ _ h => by cases h⟩
    rw [← updateTemplate_noFields w.now filter, failed]
    exact ⟨fun same => congrArg _ (Except.error.inj same),
      fun same => congrArg _ (Except.error.inj same)⟩
  · have same : t.statement.wire
        = .updateRows m.table (m.assignedTo w.now payload) filter := by
      rw [Query.wire_update (updateTemplate_ok ht), assignedTo_eq]
      rfl
    have some : ¬ ∀ name ∈ payload.fields, m.Spares name := by
      rw [← updateTemplate_noFields w.now filter, ht]
      exact fun failed => by cases failed
    have said (answer : Answer) {result : Except Error ReplyInfo}
        (other : result ≠ .error .noFieldsToUpdate) :
        m.Overwrites w.now payload filter [(t.statement.wire, answer)] result :=
      { statement := .inr ⟨answer, by rw [same]⟩
        refused := nofun
        nothing := iff_of_false other some
        reads := fun ne plain x hx => by
          rw [List.mem_singleton.1 hx]
          exact same ▸ Statement.changes_updateRows _ _ ne plain }
    exact .execute_bind (fun r => said _ nofun) fun reply w' _ _ => .pure (said _ nofun)

/-! ## Marks of deletion -/

/-- How an update ends, as the number of rows that it changed. -/
def counted (ending : Except Error ReplyInfo × World σ) : Except Error UInt64 × World σ :=
  (ending.1.map (·.changes), ending.2)

theorem outcome_counted (c : Call σ ReplyInfo) (w : World σ) :
    (c >>= fun info => pure info.changes).outcome w = counted (c.outcome w) := by
  rw [Call.outcome_bind, counted]
  rcases c.outcome w with ⟨e | info, w'⟩ <;> rfl

/-- Softly deleting is an update that stamps the mark of deletion where it is not set. -/
theorem outcome_softDelete (soft : m.schema.options.softDelete = true) (filter : Filter)
    (w : World σ) : (m.softDelete filter).outcome w
      = counted ((m.update (Record.empty.set deletedAt (.stamp w.now))
          (filter ++ [.isNull deletedAt])).outcome w) := by
  have allowed : m.requireSoftDelete "soft_delete" = .ok () := if_pos soft
  rw [softDelete, allowed, Call.outcome_bind_ok (Call.outcome_lift _ w),
    Call.outcome_bind_ok (Call.outcome_now w)]
  exact outcome_counted _ w

/-- Restoring is an update that clears the mark where it is set. -/
theorem outcome_restore (soft : m.schema.options.softDelete = true) (filter : Filter)
    (w : World σ) : (m.restore filter).outcome w
      = counted ((m.update (Record.empty.set deletedAt .null)
          (filter ++ [.isNotNull deletedAt])).outcome w) := by
  have allowed : m.requireSoftDelete "restore" = .ok () := if_pos soft
  rw [restore, allowed, Call.outcome_bind_ok (Call.outcome_lift _ w)]
  exact outcome_counted _ w

/-- A condition on the mark of deletion reads back among other conditions. -/
theorem changes_of_issued (hm : m.hooks = {}) {payload : Record} {filter : Filter}
    {mark : Condition} (marks : mark.field = deletedAt) (plain : ∀ c ∈ filter, IsColumn c.field)
    {w : World σ} {s : Statement} (h : s ∈ (m.update payload (filter ++ [mark])).issued w) :
    s.Changes m.table (m.assignedTo w.now payload) (Filter.asked (filter ++ [mark])) := by
  obtain ⟨xs, result, w', run, course⟩ := follows_update hm payload (filter ++ [mark]) w
  rw [run.statements] at h
  obtain ⟨x, hx, rfl⟩ := List.mem_map.1 h
  refine course.reads (by simp) (fun c hc => ?_) x hx
  rcases List.mem_append.1 hc with given | own
  · exact plain c given
  · rw [List.mem_singleton.1 own, marks]
    decide

/-- **No row meets the conditions of both**: one asks for the mark, the other for its absence. -/
theorem marks_exclusive (filter other : Filter) (compares : Predicate.Compares)
    (row : String → Value) :
    ¬ (Truth.all ((Filter.asked (filter ++ [.isNull deletedAt])).map
          (Predicate.truth compares row)) = some true ∧
        Truth.all ((Filter.asked (other ++ [.isNotNull deletedAt])).map
          (Predicate.truth compares row)) = some true) := by
  rintro ⟨live, deleted⟩
  have unmarked : Predicate.null deletedAt false
      ∈ Filter.asked (filter ++ [.isNull deletedAt]) := by
    rw [Filter.asked_append]
    exact List.mem_append_right _ List.mem_cons_self
  have marked : Predicate.null deletedAt true
      ∈ Filter.asked (other ++ [.isNotNull deletedAt]) := by
    rw [Filter.asked_append]
    exact List.mem_append_right _ List.mem_cons_self
  by_cases null : row deletedAt = .null
  · have fails : Predicate.truth compares row (.null deletedAt true) = some false := by
      rw [Predicate.truth, null]
      rfl
    rw [Truth.all_of_false (List.mem_map.2 ⟨_, marked, fails⟩)] at deleted
    cases deleted
  · rw [Predicate.all_truth_marked unmarked null] at live
    cases live

theorem issued_softDelete (soft : m.schema.options.softDelete = true) (filter : Filter)
    (w : World σ) : (m.softDelete filter).issued w
      = (m.update (Record.empty.set deletedAt (.stamp w.now))
          (filter ++ [.isNull deletedAt])).issued w := by
  rw [Call.issued, outcome_softDelete soft]
  rfl

theorem issued_restore (soft : m.schema.options.softDelete = true) (filter : Filter)
    (w : World σ) : (m.restore filter).issued w
      = (m.update (Record.empty.set deletedAt .null)
          (filter ++ [.isNotNull deletedAt])).issued w := by
  rw [Call.issued, outcome_restore soft]
  rfl

end Model

/-! ## All updates -/

/-- **An update assigns its payload.** Without hooks, an update puts at most one statement to the
engine. It assigns the fields of the payload but the primary key, `id` and `created_at`, in order
and each in its stored form, and the time of the change where timestamps are managed, in its place
or else last; no column is assigned twice. Its conditions are those of the filter, and the operands
of these are bound after the assigned values. It fails for want of fields exactly if the payload has
no others than those three. To delete softly and to restore are such updates of the mark of
deletion. If the columns of the conditions are names, the conditions read as a conjunction, and no
row meets those of a deletion and of a restoration both. -/
theorem update_assigns_payload {σ : Type} {m : Model σ} (hm : m.hooks = {}) :
    (∀ payload filter w,
      m.Follows (m.update payload filter) w (m.Overwrites w.now payload filter)) ∧
    (∀ now payload, (m.assignedTo now payload).names.Nodup) ∧
    (m.schema.options.softDelete = true →
      (∀ filter w, (m.softDelete filter).outcome w
        = Model.counted ((m.update (Record.empty.set deletedAt (.stamp w.now))
            (filter ++ [.isNull deletedAt])).outcome w)) ∧
      (∀ filter w, (m.restore filter).outcome w
        = Model.counted ((m.update (Record.empty.set deletedAt .null)
            (filter ++ [.isNotNull deletedAt])).outcome w)) ∧
      ∀ filter other : Filter, (∀ c ∈ filter, IsColumn c.field) → (∀ c ∈ other, IsColumn c.field) →
        ∀ w later,
          (∀ s ∈ (m.softDelete filter).issued w,
            s.Changes m.table (m.assignedTo w.now (Record.empty.set deletedAt (.stamp w.now)))
              (Filter.asked (filter ++ [.isNull deletedAt]))) ∧
          (∀ s ∈ (m.restore other).issued later,
            s.Changes m.table (m.assignedTo later.now (Record.empty.set deletedAt .null))
              (Filter.asked (other ++ [.isNotNull deletedAt]))) ∧
          ∀ compares row,
            ¬ (Truth.all ((Filter.asked (filter ++ [.isNull deletedAt])).map
                  (Predicate.truth compares row)) = some true ∧
                Truth.all ((Filter.asked (other ++ [.isNotNull deletedAt])).map
                  (Predicate.truth compares row)) = some true)) := by
  refine ⟨Model.follows_update hm, m.nodup_assignedTo, fun soft =>
    ⟨Model.outcome_softDelete soft, Model.outcome_restore soft, ?_⟩⟩
  refine fun filter other plain plain' w later => ⟨fun s hs => ?_, fun s hs => ?_,
    Model.marks_exclusive filter other⟩
  · rw [Model.issued_softDelete soft] at hs
    exact Model.changes_of_issued hm rfl plain hs
  · rw [Model.issued_restore soft] at hs
    exact Model.changes_of_issued hm rfl plain' hs

/-- A table of drafts that keeps deleted rows and stamps every change; the name of one column looks
like two conditions. -/
def drafts : Model Unit where
  schema := ⟨"drafts", [.id "id", { name := "title", kind := .string },
    { name := "meta", kind := .json }, { name := "title IS NULL OR title", kind := .string },
    Schema.stampedField createdAt, Schema.stampedField updatedAt,
    { name := deletedAt, kind := .date }], { timestamps := true, softDelete := true }, 0⟩
  engine := .silent

/-- A world in which nothing has happened to the drafts. -/
def draftsWorld : World Unit where
  engine := ()
  now := default

/-- A payload with fields that are not assigned and an old time of change. -/
def redraft : Record :=
  .ofEntries [("updated_at", .text "2024-01-15"), ("id", .int 5), ("meta", .text "b"),
    ("created_at", .null)]

theorem draft_is_overwritten :
    drafts.hooks = {} ∧
      ∃ answer result w', Call.Runs drafts.engine
        (drafts.update redraft [.eq "id" (.int 1), .isNull "title"]) draftsWorld
        [(⟨"UPDATE drafts SET updated_at = ?, meta = ? WHERE id = ? AND title IS NULL",
            [.text "1970-01-01T00:00:00.000Z", .text "\"b\"", .int 1]⟩, answer)] result w' := by
  obtain ⟨xs, result, w', run, course⟩ := (update_assigns_payload (m := drafts) rfl).1 redraft
    [.eq "id" (.int 1), .isNull "title"] draftsWorld
  have said : xs.map (·.1)
      = [⟨"UPDATE drafts SET updated_at = ?, meta = ? WHERE id = ? AND title IS NULL",
          [.text "1970-01-01T00:00:00.000Z", .text "\"b\"", .int 1]⟩] := by
    rw [← run.statements]
    decide +kernel
  rcases course.statement with rfl | ⟨answer, rfl⟩
  · cases said
  · refine ⟨rfl, answer, result, w', ?_⟩
    rw [List.map_singleton, List.cons.injEq] at said
    rw [← said.1]
    exact run

/-- A table of visits whose key is the time of the last change. -/
def checkIns : Model Unit where
  schema := ⟨"visits", [{ name := updatedAt, kind := .date, primaryKey := true },
    { name := "title", kind := .string }, Schema.stampedField createdAt],
    { timestamps := true }, 0⟩
  engine := .silent

/-- **A stamp moves and a condition breaks out.** A primary key that is the time of the change is
taken from the payload and stamped at the end. A column with an `OR` in its name breaks out of the
conjunction, since `AND` binds more tightly: a draft without title meets what stands before the
`OR`, so it is chosen for deletion and for restoration both. -/
theorem stamp_moves_and_condition_breaks_out :
    (Schema.declare "visits" [{ name := updatedAt, kind := .date, primaryKey := true },
        { name := "title", kind := .string }] { timestamps := true } = .ok checkIns.schema ∧
      (checkIns.update (.ofEntries [("updated_at", .text "2024-01-15"), ("title", .text "a")])
          []).issued draftsWorld
        = [⟨"UPDATE visits SET title = ?, updated_at = ?",
            [.text "a", .text "1970-01-01T00:00:00.000Z"]⟩]) ∧
    Schema.declare "drafts" drafts.schema.fields { timestamps := true, softDelete := true }
      = .ok drafts.schema ∧
    ∃ left live deleted : Statement, ∃ first second third,
      (drafts.softDelete [.eq "title IS NULL OR title" (.text "a")]).issued draftsWorld
        = [⟨"UPDATE drafts SET deleted_at = ?, updated_at = ? WHERE " ++ left.sql ++ " OR "
              ++ live.sql,
            [.text "1970-01-01T00:00:00.000Z", .text "1970-01-01T00:00:00.000Z"]
              ++ (left.params ++ live.params)⟩] ∧
      (drafts.restore [.eq "title IS NULL OR title" (.text "a")]).issued draftsWorld
        = [⟨"UPDATE drafts SET deleted_at = ?, updated_at = ? WHERE " ++ left.sql ++ " OR "
              ++ deleted.sql,
            [.null, .text "1970-01-01T00:00:00.000Z"] ++ (left.params ++ deleted.params)⟩] ∧
      left.conjunction? = some first ∧ live.conjunction? = some second ∧
      deleted.conjunction? = some third ∧
      ∀ compares row, row "title" = .null →
        Truth.or (Truth.all (first.map (Predicate.truth compares row)))
            (Truth.all (second.map (Predicate.truth compares row))) = some true ∧
          Truth.or (Truth.all (first.map (Predicate.truth compares row)))
            (Truth.all (third.map (Predicate.truth compares row))) = some true := by
  refine ⟨⟨rfl, by decide +kernel⟩, rfl, (Filter.conjunction [.isNull "title"]).statement,
    (Filter.conjunction [.eq "title" (.text "a"), .isNull deletedAt]).statement,
    (Filter.conjunction [.eq "title" (.text "a"), .isNotNull deletedAt]).statement, _, _, _,
    by decide +kernel, by decide +kernel, Filter.conjunction?_statement (by decide) (by decide),
    Filter.conjunction?_statement (by decide) (by decide),
    Filter.conjunction?_statement (by decide) (by decide), fun compares row none => ?_⟩
  have first : Truth.all ((Filter.predicates [.isNull "title"]).map
      (Predicate.truth compares row)) = some true := by
    have here : Predicate.truth compares row (.null "title" false) = some true := by
      rw [Predicate.truth, none]
      rfl
    exact congrArg (Truth.and · (some true)) here
  have absorbs (t : Truth) : Truth.or (some true) t = some true := by
    rcases t with _ | _ | _ <;> rfl
  rw [first, absorbs, absorbs]
  exact ⟨rfl, rfl⟩

end RecordMapper
