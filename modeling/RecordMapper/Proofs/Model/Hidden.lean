import RecordMapper.Proofs.Hooks.Operations
import RecordMapper.Proofs.Model.Selections
import RecordMapper.Proofs.Model.Sessions
import RecordMapper.Proofs.Upsert.Outcomes

/-!
# Deleted rows stay hidden

Every statement with which an operation looks for rows, whatever the engine answers and whatever the
hooks do, as long as the hook before a find only adds conditions.

* `Model.Searches`: a call says nothing but selections of one look. `searches_findAll`,
  `searches_aggregateValue` and their kind go through the operations that read.
* `Model.Seeks`: besides, rows are written, and a row that was just written is read back by its key.
  `seeks_upsert` and its kind go through the operations that find or create.
* `Operation.look?` and `Turn.lookup?` say what is looked for; `deleted_rows_stay_hidden` is what
  holds of all. `added_condition_breaks_out` shows what a column with an `OR` in it does.
-/

namespace RecordMapper

/-- A statement that inserts or assigns. -/
def Statement.IsWrite (s : Statement) : Prop :=
  s.keyword = "INSERT" ∨ s.keyword = "UPDATE"

namespace Model

variable {σ α β : Type} {m : Model σ} {look : Look}

open Call

/-! ## Reading -/

/-- A call that says nothing but selections of a look. -/
def Searches (m : Model σ) (look : Look) (c : Call σ α) : Prop :=
  m.Says (fun xs => ∀ x ∈ xs, m.Sees look x.1) c

theorem searches_pure (a : α) : m.Searches look (pure a : Call σ α) :=
  says_pure (by simp) a

theorem searches_lift (result : Except Error α) : m.Searches look (lift result) :=
  says_lift (by simp) result

theorem searches_lift_bind {result : Except Error α} {f : α → Call σ β}
    (h : ∀ a, result = .ok a → m.Searches look (f a)) : m.Searches look (lift result >>= f) :=
  says_lift_bind (by simp) h

theorem searches_change_bind {hook : Option (α → Except Error α)} {call : α → HookCall}
    {payload : α} {f : α → Call σ β}
    (h : ∀ a, consult hook payload = .ok a → m.Searches look (f a)) :
    m.Searches look (change hook call payload >>= f) :=
  says_change_bind (by simp) h

theorem searches_change (hook : Option (α → Except Error α)) (call : α → HookCall) (payload : α) :
    m.Searches look (change hook call payload) := by
  rw [← bind_pure (change hook call payload)]
  exact searches_change_bind fun a _ => searches_pure a

theorem sees_append (xs ys : Conversation) (hx : ∀ x ∈ xs, m.Sees look x.1)
    (hy : ∀ x ∈ ys, m.Sees look x.1) : ∀ x ∈ xs ++ ys, m.Sees look x.1 :=
  List.forall_mem_append.2 ⟨hx, hy⟩

theorem searches_bind {c : Call σ α} {f : α → Call σ β} (hc : m.Searches look c)
    (hf : ∀ a, m.Searches look (f a)) : m.Searches look (c >>= f) :=
  says_bind sees_append hc hf

theorem searches_execute {s : Statement} (h : m.Sees look s.wire) :
    m.Searches look (m.execute s) := by
  rw [← bind_pure (m.execute s)]
  exact says_execute_bind (fun _ => by simpa using h) fun _ => says_pure (by simpa using h) _

section Queries

variable {added : Filter} {q : Query}

theorem searches_fetch (adds : m.Adds look added) (h : m.Looks look added q) :
    m.Searches look (m.fetch q) :=
  searches_bind (searches_execute ⟨added, adds, h.screens_find⟩) fun _ => searches_pure _

theorem searches_fetchCount (adds : m.Adds look added) (h : m.Looks look added q)
    (single : q.distinct = false) (ungrouped : q.groupBy = []) :
    m.Searches look (m.fetchCount q) := by
  refine searches_bind (searches_execute ⟨added, adds, h.screens_count single ungrouped⟩) ?_
  intro reply
  cases reply.first? with
  | none => exact searches_pure 0
  | some row => exact searches_lift _

end Queries

/-! ## Finding -/

section Finding

variable (hm : m.hooks.OnlyAdds)

include hm

theorem searches_findAll (options : FindOptions) :
    m.Searches options.look (m.findAll options) := by
  refine searches_lift_bind fun q hq => searches_change_bind fun q' given => ?_
  obtain ⟨added, adds, looks, -, -⟩ := looks_consulted hm hq given
  exact searches_bind (searches_fetch adds looks) fun records => searches_change _ _ records

theorem searches_findOne (options : FindOptions) :
    m.Searches options.look (m.findOne options) := by
  have found := searches_findAll hm { options with limit := some 1 }
  exact searches_bind found fun _ => searches_pure _

theorem searches_paginate (page perPage : UInt64) (options : FindOptions) :
    m.Searches options.look (m.paginate page perPage options) := by
  unfold paginate
  split
  · exact searches_lift (.error _)
  refine searches_lift_bind fun q hq => searches_change_bind fun q' given => ?_
  obtain ⟨added, adds, looks, single, ungrouped⟩ := looks_consulted hm hq given
  have unpaged : m.Looks options.look added q'.clearPaging := { looks with }
  refine searches_bind (searches_fetchCount adds unpaged single ungrouped) fun total => ?_
  have paged (page : UInt64) : m.Looks options.look added (q'.page page perPage) := { looks with }
  refine searches_bind (searches_fetch adds (paged _)) fun records => ?_
  exact searches_bind (searches_change _ _ records) fun _ => searches_pure _

end Finding

theorem searches_count (filter : Filter) : m.Searches { filter } (m.count filter) := by
  refine searches_lift_bind fun q hq => ?_
  obtain ⟨looks, single, ungrouped⟩ := looks_queryFor hq false
  exact searches_fetchCount (adds_nil rfl) looks single ungrouped

/-! ## Aggregates -/

theorem searches_aggregateValue (function : AggregateFunction) (field : String) (filter : Filter) :
    m.Searches { filter } (m.aggregateValue function field filter) := by
  refine searches_lift_bind fun _ _ => searches_lift_bind fun q hq => ?_
  obtain ⟨looks, -, -⟩ := looks_queryFor hq false
  exact searches_bind (searches_fetch (adds_nil rfl) { looks with }) fun _ => searches_pure _

/-- A sum, a mean, a smallest or a greatest value is read from one aggregate. -/
theorem searches_aggregated (function : AggregateFunction) (field : String) (filter : Filter)
    (result : Value → α) :
    m.Searches { filter } (do return result (← m.aggregateValue function field filter)) :=
  searches_bind (searches_aggregateValue _ _ _) fun _ => searches_pure _

theorem searches_countAggregate (function : AggregateFunction) (field : String)
    (filter : Filter) : m.Searches { filter } (m.countAggregate function field filter) := by
  refine searches_bind (searches_aggregateValue function field filter) fun v => ?_
  split
  · exact searches_pure 0
  · exact searches_lift _

theorem searches_stats (field : String) (filter : Filter) (schedule : Schedule) :
    m.Searches { filter } (m.stats field filter schedule) := by
  have summaries : ∀ c ∈ m.summaries field filter, m.Searches { filter } c := by
    simp only [summaries, List.forall_mem_cons, List.not_mem_nil, false_imp_iff, implies_true,
      and_true]
    exact ⟨searches_bind (searches_countAggregate .count field filter) fun _ => searches_pure _,
      searches_bind (searches_aggregated .sum field filter _) fun _ => searches_pure _,
      searches_bind (searches_aggregated .avg field filter _) fun _ => searches_pure _,
      searches_bind (searches_aggregated .min field filter _) fun _ => searches_pure _,
      searches_bind (searches_aggregated .max field filter _) fun _ => searches_pure _⟩
  have together : m.Searches { filter } (Call.together schedule (m.summaries field filter)) :=
    says_together (by simp) sees_append schedule summaries
  exact searches_bind together fun _ => searches_pure _

theorem searches_distinct (field : String) (filter : Filter) :
    m.Searches { filter } (m.distinct field filter) := by
  refine searches_lift_bind fun _ _ => searches_lift_bind fun q hq => ?_
  obtain ⟨looks, -, -⟩ := looks_queryFor hq false
  exact searches_bind (searches_fetch (adds_nil rfl) { looks with }) fun _ => searches_pure _

theorem searches_aggregate (aggregates : List Aggregate) (options : AggregateOptions) :
    m.Searches { filter := options.filter } (m.aggregate aggregates options) := by
  refine searches_lift_bind fun _ _ => searches_lift_bind fun q hq => ?_
  obtain ⟨looks, -, -⟩ := looks_queryFor hq false
  exact searches_fetch (adds_nil rfl) { looks with }

/-- The rows without a value have no percentile: a condition of the operation's own. -/
theorem searches_percentile (field : String) (p : Binary64) (filter : Filter) :
    m.Searches { filter, own := [.isNotNull field] } (m.percentile field p filter) := by
  unfold percentile
  split
  · exact searches_lift (.error _)
  refine searches_lift_bind fun _ _ => searches_lift_bind fun q hq => ?_
  obtain ⟨looks, single, ungrouped⟩ := looks_queryFor hq false
  have valued : m.Looks { filter, own := [.isNotNull field] } []
      (q.addCondition (.isNotNull field)) := by
    refine { looks with conditions := ?_ }
    rw [Query.addCondition, looks.conditions]
    simp [sought]
  have adds : m.Adds { filter, own := [.isNotNull field] } [] := adds_nil rfl
  refine searches_bind (searches_fetchCount adds valued single ungrouped) fun count => ?_
  split
  · exact searches_pure none
  · exact searches_bind (searches_fetch adds { valued with }) fun _ => searches_pure _

/-! ## Finding or creating -/

/-- A conversation in which each selection is one of a look, besides those of a single row by its
key that read back what was just written. -/
inductive Seeks (m : Model σ) (look : Look) : Conversation → Prop
  | nil : Seeks m look []
  /-- Rows are looked for. -/
  | lookup {s : Statement} {xs : Conversation} (sees : m.Sees look s) (answer : Answer)
      (rest : Seeks m look xs) : Seeks m look ((s, answer) :: xs)
  /-- A row is written. -/
  | write {s : Statement} {xs : Conversation} (writes : s.IsWrite) (answer : Answer)
      (rest : Seeks m look xs) : Seeks m look ((s, answer) :: xs)
  /-- A row is written and read back by its key. -/
  | reread {s : Statement} {xs : Conversation} (writes : s.IsWrite) (reply : Reply) (id : Value)
      (answer : Answer) (rest : Seeks m look xs) :
    Seeks m look ((s, .ok reply) :: (m.selectById id, answer) :: xs)

theorem Seeks.append {xs ys : Conversation} (hx : m.Seeks look xs) (hy : m.Seeks look ys) :
    m.Seeks look (xs ++ ys) := by
  induction hx with
  | nil => exact hy
  | lookup sees answer _ ih => exact .lookup sees answer ih
  | write writes answer _ ih => exact .write writes answer ih
  | reread writes reply id answer _ ih => exact .reread writes reply id answer ih

theorem seeks_of_sees {xs : Conversation} (h : ∀ x ∈ xs, m.Sees look x.1) : m.Seeks look xs := by
  induction xs with
  | nil => exact .nil
  | cons x rest ih => exact .lookup (h x (by simp)) x.2 (ih fun y hy => h y (by simp [hy]))

/-- A call that looks for rows only looks for them. -/
theorem Searches.seeks {c : Call σ α} (h : m.Searches look c) : m.Says (m.Seeks look) c :=
  fun w => (h w).mono fun _ _ => seeks_of_sees

theorem seeks_bind {c : Call σ α} {f : α → Call σ β} (hc : m.Says (m.Seeks look) c)
    (hf : ∀ a, m.Says (m.Seeks look) (f a)) : m.Says (m.Seeks look) (c >>= f) :=
  says_bind (fun _ _ => Seeks.append) hc hf

/-- Creating a record writes it and reads it back. -/
theorem seeks_create (data : Record) : m.Says (m.Seeks look) (m.create data) := by
  unfold create
  refine says_change_bind .nil fun data _ => says_prepareInsert_bind fun data => ?_
  refine says_lift_bind .nil fun _ _ => ?_
  have writes : (Insert.one m.table (m.schema.encode data)).statement.wire.IsWrite :=
    .inl (Insert.keyword_one _ _)
  refine says_execute_bind (fun r => .write writes _ .nil) fun reply => ?_
  refine says_lift_bind (.write writes _ .nil) fun id _ => ?_
  rw [fetchById_bind]
  refine says_execute_bind (fun r => .reread writes reply id _ .nil) fun reply' => ?_
  have reread : m.Seeks look [_, (m.selectById id, _)] := .reread writes reply id (.ok reply') .nil
  cases reply'.rows.head? with
  | none => exact says_lift reread (.error _)
  | some row => exact says_notify_bind reread (says_pure reread _)

/-- Updating a row writes it and reads it back. -/
theorem seeks_updateById (id : Value) (data : Record) :
    m.Says (m.Seeks look) (m.updateById id data) := by
  unfold updateById
  rw [update_stages]
  simp only [assign, bind_assoc, pure_bind]
  refine says_change_bind .nil fun given _ => says_now_bind fun now => ?_
  refine says_lift_bind .nil fun t written => ?_
  have writes : t.statement.wire.IsWrite := .inr (Query.keyword_update (updateTemplate_ok written))
  refine says_execute_bind (fun r => .write writes _ .nil) fun reply => ?_
  rw [fetchById_bind]
  refine says_execute_bind (fun r => .reread writes reply id _ .nil) fun reply' => ?_
  have reread : m.Seeks look [_, (m.selectById id, _)] := .reread writes reply id (.ok reply') .nil
  cases reply'.rows.head? with
  | none => exact says_pure reread _
  | some row => exact says_notify_bind reread (says_pure reread _)

theorem seeks_applyUpdate (found update : Record) :
    m.Says (m.Seeks look) (m.applyUpdate found update) := by
  unfold applyUpdate
  split
  · exact says_lift .nil (.error _)
  · dsimp only
    split
    · exact says_pure .nil _
    · refine seeks_bind (seeks_updateById _ _) fun row => ?_
      cases row with
      | none => exact says_lift .nil (.error _)
      | some record => exact says_pure .nil _

section Upserts

variable (hm : m.hooks.OnlyAdds)

include hm

/-- Looking for a row of a filter. -/
theorem seeks_findOne (filter : Filter) :
    m.Says (m.Seeks { filter, hooked := true }) (m.findOne { filter }) :=
  (searches_findOne hm { filter }).seeks

theorem seeks_createOrElse (data : Record) (filter : Filter) {lost : Record → Call σ UpsertOutcome}
    (h : ∀ found, m.Says (m.Seeks { filter, hooked := true }) (lost found)) :
    m.Says (m.Seeks { filter, hooked := true }) (m.createOrElse data filter lost) := by
  refine seeks_bind (says_attempt (seeks_create data)) fun result => ?_
  cases result with
  | ok record => exact says_pure .nil _
  | error e =>
    dsimp only
    split
    · refine seeks_bind (seeks_findOne hm filter) fun row => ?_
      cases row with
      | none => exact says_lift .nil (.error e)
      | some found => exact h found
    · exact says_lift .nil (.error e)

theorem seeks_upsert (request : UpsertRequest) :
    m.Says (m.Seeks { filter := request.parts.1, hooked := true }) (m.upsert request) := by
  refine says_lift_bind .nil fun _ _ => seeks_bind (seeks_findOne hm _) fun row => ?_
  cases row with
  | none => exact seeks_createOrElse hm _ _ fun found => seeks_applyUpdate found _
  | some found => exact seeks_applyUpdate found _

theorem seeks_upsertById (id : Value) (data : Record) :
    m.Says (m.Seeks { filter := [.eq m.schema.keyName id], hooked := true })
      (m.upsertById id data) :=
  says_lift_bind .nil fun _ _ => seeks_upsert hm (.explicit [.eq m.schema.keyName id] _ data)

theorem seeks_createIfNotExists (filter : Filter) (data : Record) :
    m.Says (m.Seeks { filter, hooked := true }) (m.createIfNotExists filter data) := by
  refine says_lift_bind .nil fun _ _ => seeks_bind (seeks_findOne hm _) fun row => ?_
  cases row with
  | none => exact seeks_createOrElse hm _ _ fun found => says_pure .nil _
  | some found => exact says_pure .nil _

end Upserts

end Model

/-! ## All operations -/

/-- What an operation looks for, if it reads and does nothing else. -/
def Operation.look? {σ : Type} (m : Model σ) : Operation → Option Look
  | .findAll options | .findOne options | .paginate _ _ options => some options.look
  | .findById id => some { filter := [.eq m.schema.keyName id], hooked := true }
  | .count filter | .exists? filter | .aggregateValue _ _ filter | .sum _ filter | .avg _ filter
  | .min _ filter | .max _ filter | .countValues _ filter | .countDistinct _ filter
  | .stats _ filter _ | .distinct _ filter | .groupBy _ filter => some { filter }
  | .aggregate _ options => some { filter := options.filter }
  | .percentile field _ filter | .median field filter =>
    some { filter, own := [.isNotNull field] }
  | .create _ | .update _ _ | .updateById _ _ | .delete _ | .deleteById _ | .softDelete _
  | .restore _ => none

/-- What an operation that finds or creates a row looks for. -/
def Turn.lookup? {σ : Type} (m : Model σ) : Turn → Option Look
  | .upsert request => some { filter := request.parts.1, hooked := true }
  | .upsertById id _ => some { filter := [.eq m.schema.keyName id], hooked := true }
  | .createIfNotExists filter _ => some { filter, hooked := true }
  | .operation _ | .bulkCreate _ _ | .bulkUpdate _ _ | .bulkUpsert _ _ _ | .bulkDelete _ _
  | .batchInsert _ _ _ => none

/-- **Operations that read** say nothing but selections of what they look for. -/
theorem Operation.searches {σ : Type} {m : Model σ} (hm : m.hooks.OnlyAdds) {op : Operation}
    {look : Look} (h : op.look? m = some look) : m.Searches look (op.run m) := by
  have ending {α : Type} {c : Call σ α} {look : Look} (h : m.Searches look c) :
      m.Searches look (ending c) :=
    Model.searches_bind h fun _ => Model.searches_pure ()
  cases op <;> cases h <;> apply ending
  case findAll options => exact Model.searches_findAll hm options
  case findOne options => exact Model.searches_findOne hm options
  case findById id => exact Model.searches_findOne hm _
  case count filter => exact Model.searches_count filter
  case exists? filter =>
    exact Model.searches_bind (Model.searches_count filter) fun _ => Model.searches_pure _
  case paginate page perPage options => exact Model.searches_paginate hm page perPage options
  case aggregateValue function field filter =>
    exact Model.searches_aggregateValue function field filter
  case sum field filter => exact Model.searches_aggregated .sum field filter _
  case avg field filter => exact Model.searches_aggregated .avg field filter _
  case min field filter => exact Model.searches_aggregated .min field filter _
  case max field filter => exact Model.searches_aggregated .max field filter _
  case countValues field filter => exact Model.searches_countAggregate .count field filter
  case countDistinct field filter => exact Model.searches_countAggregate .countDistinct field filter
  case stats field filter schedule => exact Model.searches_stats field filter schedule
  case distinct field filter => exact Model.searches_distinct field filter
  case aggregate aggregates options => exact Model.searches_aggregate aggregates options
  case groupBy field filter => exact Model.searches_aggregate _ _
  case percentile field p filter => exact Model.searches_percentile field p filter
  case median field filter => exact Model.searches_percentile field _ filter

/-- **Operations that find or create** look for nothing else. -/
theorem Turn.seeks {σ : Type} {m : Model σ} (hm : m.hooks.OnlyAdds) {turn : Turn} {look : Look}
    (h : turn.lookup? m = some look) : m.Says (m.Seeks look) (turn.run m) := by
  have ending {α : Type} {c : Call σ α} {look : Look} (h : m.Says (m.Seeks look) c) :
      m.Says (m.Seeks look) (Operation.ending c) :=
    Model.seeks_bind h fun _ => Model.says_pure .nil ()
  cases turn <;> cases h <;> apply ending
  case upsert request => exact Model.seeks_upsert hm request
  case upsertById id data => exact Model.seeks_upsertById hm id data
  case createIfNotExists filter data => exact Model.seeks_createIfNotExists hm filter data

/-- **Deleted rows stay hidden.** Let the hook before a find, if there is one, only add conditions.
Whatever the engine answers, each statement of an operation that reads selects or counts rows under
the caller's conditions, those of the operation and those of the hook, and `deleted_at IS NULL` is
one of them exactly if the schema hides deleted rows and they are not asked for. If the columns of
the conditions are names without those words that make up predicates, the text reads as their
conjunction. It is false of every row with the mark, whatever is unknown of it, and says of every
other row what the conditions say without the mark. So it is with each lookup of an upsert and of
creating what does not exist; they select nothing else but the row that they just wrote. Where no
hook is called nothing is added. -/
theorem deleted_rows_stay_hidden {σ : Type} {m : Model σ} (hm : m.hooks.OnlyAdds) (w : World σ) :
    (∀ op look, Operation.look? m op = some look →
      ∀ s ∈ (op.run m).issued w, m.Sees look s) ∧
    (∀ turn look, Turn.lookup? m turn = some look →
      m.Seeks look (m.engine.exchanges ((turn.run m).issued w) w.engine)) ∧
    (∀ look added, look.hooked = false ∨ m.hooks.beforeFind = none →
      (m.Adds look added ↔ added = [])) :=
  ⟨fun _ _ h => (Operation.searches hm h).issued w, fun _ _ h => (Turn.seeks hm h).exchanges w,
    fun _ _ h => Model.adds_iff h⟩

/-- A table of notes that keeps deleted rows, with a hook that adds a condition to every find; its
engine answers everything with no rows. -/
def ownedNotes (condition : Condition) : Model (Recorder Unit) where
  schema := ⟨"notes", [.id "id", { name := "owner", kind := .string },
    { name := "deleted_at", kind := .date }], { softDelete := true }, 0⟩
  engine := Recorder.engine .silent
  hooks := { beforeFind := some fun q => .ok (q.addCondition condition) }

/-- A world in which nothing has happened to the notes. -/
def ownedNotesWorld : World (Recorder Unit) where
  engine := { inner := () }
  now := default

theorem ownedNotes_onlyAdds (condition : Condition) : (ownedNotes condition).hooks.OnlyAdds := by
  rintro f hook q q' given
  cases hook
  cases given
  exact ⟨[condition], rfl⟩

/-- The condition that a note is Ann's. -/
def byAnn : Condition :=
  .eq "owner" (.text "ann")

theorem deleted_notes_hidden :
    (ownedNotes byAnn).hooks.OnlyAdds ∧
      (∃ s ∈ ((Operation.paginate 1 10 {}).run (ownedNotes byAnn)).issued ownedNotesWorld,
        s.sql = "SELECT COUNT(*) AS count FROM notes WHERE deleted_at IS NULL AND owner = ?" ∧
          (ownedNotes byAnn).Sees (FindOptions.look {}) s) ∧
      (ownedNotes byAnn).Seeks { filter := [.eq "id" (.int 3)], hooked := true }
        ((ownedNotes byAnn).engine.exchanges
          (((Turn.upsertById (.int 3) .empty).run (ownedNotes byAnn)).issued ownedNotesWorld)
          ownedNotesWorld.engine) := by
  have adds := ownedNotes_onlyAdds byAnn
  obtain ⟨read, sought, -⟩ := deleted_rows_stay_hidden adds ownedNotesWorld
  refine ⟨adds, ⟨⟨"SELECT COUNT(*) AS count FROM notes WHERE deleted_at IS NULL AND owner = ?",
    [.text "ann"]⟩, ?_, rfl, ?_⟩, sought (.upsertById (.int 3) .empty) _ rfl⟩
  · decide +kernel
  · exact read (.paginate 1 10 {}) _ rfl _ (by decide +kernel)

/-- The condition that a note is nobody's or Ann's, as the name of a column. -/
def byAnnOrNobody : Condition :=
  .eq "owner IS NULL OR owner" (.text "ann")

/-- A note of Ann's that is marked as deleted. -/
def deletedNote (column : String) : Value :=
  if column = "owner" then .text "ann"
  else if column = deletedAt then .text "2024-01-15T00:00:00.000Z"
  else .null

/-- Values compare as true if they are the same. -/
def bySameness : Predicate.Compares :=
  fun _ a b => some (a.same b)

/-- **A column with an `OR` in it breaks out of the conjunction.** The text after `WHERE` is a
disjunction of two conjunctions, since `AND` binds more tightly; the mark of deletion is in the
first one only, and a deleted note meets the second one. -/
theorem added_condition_breaks_out :
    (ownedNotes byAnnOrNobody).hooks.OnlyAdds ∧
      (ownedNotes byAnnOrNobody).schema.hidesDeleted = true ∧ deletedNote deletedAt ≠ .null ∧
      ∃ left right : Statement, ∃ asked more,
        ((ownedNotes byAnnOrNobody).findAll {}).issued ownedNotesWorld
          = [⟨"SELECT * FROM notes WHERE " ++ left.sql ++ " OR " ++ right.sql,
              left.params ++ right.params⟩] ∧
        Statement.conjunction? ⟨left.sql ++ " OR " ++ right.sql, left.params ++ right.params⟩
          = none ∧
        left.conjunction? = some asked ∧ right.conjunction? = some more ∧
        Truth.or (Truth.all (asked.map (Predicate.truth bySameness deletedNote)))
          (Truth.all (more.map (Predicate.truth bySameness deletedNote))) = some true := by
  refine ⟨ownedNotes_onlyAdds _, by decide, by decide,
    (Filter.conjunction [.isNull deletedAt, .isNull "owner"]).statement,
    (Filter.conjunction [byAnn]).statement, _, _, by decide +kernel, ?_,
    Filter.conjunction?_statement (by decide) (by decide),
    Filter.conjunction?_statement (by decide) (by decide), by decide +kernel⟩
  have tokens : Lexeme.tokens "deleted_at IS NULL AND owner IS NULL OR owner = ?"
      = ["deleted_at", "IS", "NULL", "AND", "owner", "IS", "NULL", "OR", "owner", "=", "?"] := by
    decide +kernel
  have first : Reader.predicate ⟨["deleted_at", "IS", "NULL", "AND", "owner", "IS", "NULL", "OR",
      "owner", "=", "?"], [.text "ann"]⟩ = some (.null "deleted_at" false,
        ⟨["AND", "owner", "IS", "NULL", "OR", "owner", "=", "?"], [.text "ann"]⟩) := by
    decide +kernel
  have second : Reader.predicate ⟨["owner", "IS", "NULL", "OR", "owner", "=", "?"], [.text "ann"]⟩
      = some (.null "owner" false, ⟨["OR", "owner", "=", "?"], [.text "ann"]⟩) := by
    decide +kernel
  -- The reader stops before the `OR`, which belongs to no conjunction.
  have read := Reader.conjunction_and first
  rw [Reader.conjunction_last second (by decide)] at read
  have text : (Filter.conjunction [.isNull deletedAt, .isNull "owner"]).statement.sql ++ " OR "
      ++ (Filter.conjunction [byAnn]).statement.sql
        = "deleted_at IS NULL AND owner IS NULL OR owner = ?" := by decide +kernel
  have params : (Filter.conjunction [.isNull deletedAt, .isNull "owner"]).statement.params
      ++ (Filter.conjunction [byAnn]).statement.params = [.text "ann"] := rfl
  rw [text, params, Statement.conjunction?, tokens, read]
  rfl

end RecordMapper
