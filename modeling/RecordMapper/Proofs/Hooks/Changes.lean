import Mathlib.Data.List.Chain
import RecordMapper.Proofs.Bulk.InTurn
import RecordMapper.Proofs.Hooks.Conversation
import RecordMapper.Proofs.Hooks.Operations
import RecordMapper.Proofs.Upsert.Outcomes

/-!
# Reported changes

What is behind the report that a row was updated, whatever hooks do and whatever the engine answers.

* `Model.Backed` is what stands behind it: an update was accepted, and after it a row of the key was
  read, which is the one that is given. `Model.Changed` says that the update also changed a row.
* `Conversation.Faithful`: after an update that reported no change no row is read. Only then a row
  that was read tells of a change (`Model.Backed.changed`).
* `Model.backed_updateById`, `Model.reported_upsert` and `Model.backed_updateItem` are the
  operations, and `Model.unfolding_inTurn` is the loop over many items.
* `reported_changes_happen` puts this together, and `unchanged_rows_reported` shows what becomes of
  it where a hook narrows the filter.
-/

namespace RecordMapper

/-! ## Updates and what is read after them -/

/-- A statement updates and changes nothing, and a row is read with the next one. -/
def unfaithful : Statement × Answer → Statement × Answer → Bool
  | (s, .ok reply), (_, .ok reread) =>
    s.isUpdate && reply.info.changedNothing && !reread.rows.isEmpty
  | _, _ => false

/-- After an update that reported no change, no row is read. -/
def Conversation.Faithful (xs : Conversation) : Prop :=
  xs.IsChain fun x y => unfaithful x y = false

instance (xs : Conversation) : Decidable xs.Faithful :=
  inferInstanceAs (Decidable (List.IsChain _ xs))

namespace Model

variable {σ : Type} {m : Model σ}

/-- A conversation ends with an accepted update and the reading of the row of a key, which is the
given record. -/
def Backed (m : Model σ) (id : Value) (xs : Conversation) (record : Record) : Prop :=
  ∃ before s reply reread, xs = before ++ [(s, .ok reply), (m.selectById id, .ok reread)] ∧
    s.isUpdate = true ∧ reread.rows.head?.map m.schema.hydrate = some record

/-- So it does, and the update changed at least one row. -/
def Changed (m : Model σ) (id : Value) (xs : Conversation) (record : Record) : Prop :=
  ∃ before s reply reread, xs = before ++ [(s, .ok reply), (m.selectById id, .ok reread)] ∧
    s.isUpdate = true ∧ reread.rows.head?.map m.schema.hydrate = some record ∧
    0 < reply.info.changes

namespace Backed

variable {id : Value} {xs : Conversation} {record : Record}

/-- What was said before does not matter. -/
theorem append (h : m.Backed id xs record) (ys : Conversation) :
    m.Backed id (ys ++ xs) record := by
  obtain ⟨before, s, reply, reread, rfl, rest⟩ := h
  exact ⟨ys ++ before, s, reply, reread, by simp, rest⟩

/-- **A row that is read tells of a change**, where the engine is faithful. -/
theorem changed (h : m.Backed id xs record) (faithful : xs.Faithful) : m.Changed id xs record := by
  obtain ⟨before, s, reply, reread, rfl, update, row⟩ := h
  refine ⟨before, s, reply, reread, rfl, update, row, ?_⟩
  have pair := List.isChain_pair.1 (List.IsChain.right_of_append faithful)
  have found : reread.rows.isEmpty = false := by
    cases rows : reread.rows with
    | nil => simp [rows] at row
    | cons => rfl
  have some : reply.info.changedNothing = false := by
    simpa [unfaithful, update, found] using pair
  exact UInt64.pos_iff_ne_zero.2 (by simpa [ReplyInfo.changedNothing] using some)

end Backed

/-! ## Updating a row -/

open Call

/-- An update that is accepted is all that is said, and no row is announced. -/
def OneUpdate (steps : List Happening) (result : Except Error ReplyInfo) : Prop :=
  (∀ record, .called (.afterUpdate record) ∉ steps) ∧
    ∀ info, result = .ok info →
      ∃ s reply, exchanged steps = [(s, .ok reply)] ∧ s.isUpdate = true

theorem oneUpdate_assign (m : Model σ) (data : Record) (filter : Filter) (w : World σ) :
    m.Unfolding (m.assign data filter) w OneUpdate := by
  refine .quiet_bind w.draws (outcome_now w) ?_
  refine .lift_bind (fun e _ => ⟨by simp, by simp⟩) fun t written => ?_
  refine .execute_bind (fun r => ⟨by simp, by simp⟩) fun reply w' _ => .pure ⟨by simp, ?_⟩
  rintro info -
  refine ⟨_, reply, rfl, ?_⟩
  rw [Statement.isUpdate, Query.keyword_update (updateTemplate_ok written)]
  rfl

theorem oneUpdate_update (m : Model σ) (data : Record) (filter : Filter) (w : World σ) :
    m.Unfolding (m.update data filter) w OneUpdate := by
  rw [update_stages]
  refine .change_bind (fun _ => oneUpdate_assign m _ _ _)
    (fun _ _ _ _ => ⟨by simp, by simp⟩) ?_
  intro _ changed _ _
  refine (oneUpdate_assign m changed.1 changed.2 _).mono fun steps result one => ⟨?_, one.2⟩
  intro record called
  rcases List.mem_cons.1 called with same | later
  · cases same
  · exact one.1 record later

/-- A row that is given, or announced as updated. -/
def Announces (steps : List Happening) (result : Except Error (Option Record)) (record : Record) :
    Prop :=
  result = .ok (some record) ∨ .called (.afterUpdate record) ∈ steps

/-- Where no row was announced before, it is what comes after that does it. -/
theorem Announces.of_append {steps more : List Happening}
    {result : Except Error (Option Record)} {record : Record}
    (h : Announces (steps ++ more) result record)
    (silent : ∀ other, .called (.afterUpdate other) ∉ steps) : Announces more result record :=
  h.imp_right fun called => (List.mem_append.1 called).resolve_left (silent record)

/-- Announcing a row says nothing to the engine, and it is this row that is given. -/
theorem announces_row (m : Model σ) (row : Record) (w : World σ) :
    m.Unfolding (do
        Call.notify m.hooks.afterUpdate .afterUpdate row
        return some row) w
      fun steps result => exchanged steps = [] ∧
        ∀ record, Announces steps result record → record = row := by
  refine .notify_bind (fun _ => .pure ⟨rfl, ?_⟩) (fun _ _ _ _ => ⟨rfl, ?_⟩)
    fun _ _ _ => .pure ⟨rfl, ?_⟩
  all_goals exact fun record told => by simpa [Announces, eq_comm] using told

/-- **Updating a row**: what is given or announced is backed. -/
theorem backed_updateById (m : Model σ) (id : Value) (data : Record) (w : World σ) :
    m.Unfolding (m.updateById id data) w fun steps result =>
      ∀ record, Announces steps result record → m.Backed id (exchanged steps) record := by
  refine (oneUpdate_update m data _ w).bind ?_ ?_
  · rintro steps e ⟨silent, -⟩ record (given | called)
    · cases given
    · exact absurd called (silent record)
  rintro steps info w' ⟨silent, ends⟩
  obtain ⟨s, reply, said, update⟩ := ends info rfl
  rw [fetchById_bind]
  refine .execute_bind (fun r record told => ?_) fun reread w'' _ => ?_
  · rcases told.of_append silent with given | called
    · cases given
    · simp at called
  cases first : reread.rows.head? with
  | none =>
    refine .pure fun record told => ?_
    rcases told.of_append silent with given | called
    · cases given
    · simp at called
  | some row =>
    refine (announces_row m (m.schema.hydrate row) w'').mono ?_
    rintro more result ⟨rest, same⟩ record told
    have later : Announces more result record :=
      (told.of_append silent).imp_right fun called => by simpa using called
    obtain rfl := same record later
    refine ⟨[], s, reply, reread, ?_, update, by rw [first]; rfl⟩
    rw [exchanged_append, said, exchanged_said, rest]
    rfl

/-! ## Finding or updating -/

/-- What an operation reports as updated is backed. -/
def Reported (m : Model σ) (steps : List Happening) (result : Except Error UpsertOutcome) : Prop :=
  ∀ o, result = .ok o → o.updated = true → ∃ id, m.Backed id (exchanged steps) o.record

theorem reported_error (m : Model σ) (steps : List Happening) (e : Error) :
    m.Reported steps (.error e) :=
  fun _ ends => by cases ends

/-- Without an update there is nothing to be backed. -/
theorem reported_ok (m : Model σ) (steps : List Happening) {o : UpsertOutcome}
    (h : o.updated = false) : m.Reported steps (.ok o) := by
  rintro o' ends updated
  cases ends
  rw [h] at updated
  cases updated

/-- A first stage that is of no consequence. -/
theorem reported_bind {α : Type} {c : Call σ α} {f : α → Call σ UpsertOutcome} {w : World σ}
    {R : List Happening → Except Error α → Prop} (hc : m.Unfolding c w R)
    (hf : ∀ a w', m.Unfolding (f a) w' m.Reported) : m.Unfolding (c >>= f) w m.Reported := by
  refine hc.bind (fun steps e _ => m.reported_error steps e) fun steps a w' _ => ?_
  refine (hf a w').mono fun more result later o ends updated => ?_
  obtain ⟨id, backed⟩ := later o ends updated
  exact ⟨id, by rw [exchanged_append]; exact backed.append _⟩

theorem reported_findOne_bind {options : FindOptions} {f : Option Record → Call σ UpsertOutcome}
    {w : World σ} (hf : ∀ found w', m.Unfolding (f found) w' m.Reported) :
    m.Unfolding (m.findOne options >>= f) w m.Reported := by
  simp only [findOne, bind_assoc, pure_bind]
  exact reported_bind (pursues_findAll m _ w) fun records w' => hf _ w'

theorem reported_applyUpdate (m : Model σ) (found update : Record) (w : World σ) :
    m.Unfolding (m.applyUpdate found update) w m.Reported := by
  unfold applyUpdate
  cases found.get? m.schema.keyName with
  | none => exact .throw (m.reported_error _ _)
  | some id =>
    dsimp only
    split
    · exact .pure (m.reported_ok _ rfl)
    · refine (backed_updateById m id update w).bind (fun steps e _ => m.reported_error steps e) ?_
      intro steps row? w' backed
      cases row? with
      | none => exact .throw (m.reported_error _ _)
      | some record =>
        refine .pure fun o ends _ => ⟨id, ?_⟩
        cases ends
        simpa using backed record (.inl rfl)

/-- **An upsert**: what it reports as updated is backed. -/
theorem reported_upsert (m : Model σ) (request : UpsertRequest) (w : World σ) :
    m.Unfolding (m.upsert request) w m.Reported := by
  refine .lift_bind (fun e _ => m.reported_error _ e) fun _ _ => ?_
  refine reported_findOne_bind fun found w₁ => ?_
  cases found with
  | some found => exact reported_applyUpdate m found _ w₁
  | none =>
    obtain ⟨steps, result, w₂, run, -⟩ := pursues_create m request.parts.2.1 w₁
    have attempted : m.Unfolding (attempt (m.create request.parts.2.1)) w₁ fun _ _ => True :=
      ⟨steps, _, w₂, run.attempt, trivial⟩
    refine reported_bind attempted fun ends w₃ => ?_
    cases ends with
    | ok record => exact .pure (m.reported_ok _ rfl)
    | error e =>
      dsimp only
      split
      · refine reported_findOne_bind fun found w₄ => ?_
        cases found with
        | none => exact .throw (m.reported_error _ _)
        | some found => exact reported_applyUpdate m found _ w₄
      · exact .throw (m.reported_error _ _)

/-! ## Updating many rows -/

/-- What happens for an item, and how it ends. -/
abbrev Part : Type := List Happening × Except Error Success

/-- What happens in a loop over items, part by part, and what the report makes of it. -/
structure InParts (R : Record → List Happening → Except Error Success → Prop)
    (items : List Record) (report : BulkReport) (parts : List Part) (steps : List Happening)
    (result : Except Error BulkReport) : Prop where
  /-- What happens is what happens for the items, one after another. -/
  steps : steps = parts.flatMap (·.1)
  /-- Each part is that of the item in its place. -/
  each : ∀ (i : Nat) (part : Part), parts[i]? = some part →
    ∃ item : Record, items[i]? = some item ∧ R item part.1 part.2
  /-- A report counts the parts of all items. -/
  done : ∀ after, result = .ok after → parts.length = items.length ∧
    ∃ errors, after = { tally report (parts.map (·.2)) with errors }
  /-- If the loop is ended, the parts before are counted. -/
  aborted : ∀ e, result = .error e →
    ∃ place source, e = .bulkAborted place (tally report (parts.map (·.2))).completed source

/-- One more item in front, which the report counts. -/
theorem InParts.cons {R : Record → List Happening → Except Error Success → Prop} {item : Record}
    {rest : List Record} {first steps : List Happening} {ends : Except Error Success}
    {report report' : BulkReport} {parts : List Part} {result : Except Error BulkReport}
    (holds : R item first ends) (later : InParts R rest report' parts steps result)
    (counted : ∀ results errors, { tally report' results with errors }
      = { tally report (ends :: results) with errors }) :
    InParts R (item :: rest) report ((first, ends) :: parts) (first ++ steps) result where
  steps := by rw [later.steps, List.flatMap_cons]
  each
    | 0, _, there => ⟨item, rfl, by cases there; exact holds⟩
    | i + 1, part, there => later.each i part there
  done := by
    intro after ok
    obtain ⟨all, errors, same⟩ := later.done after ok
    exact ⟨by rw [List.length_cons, List.length_cons, all], errors, same.trans (counted _ _)⟩
  aborted := by
    intro e failed
    obtain ⟨place, source, same⟩ := later.aborted e failed
    have completed := congrArg BulkReport.completed (counted (parts.map (·.2)) [])
    exact ⟨place, source, same.trans (congrArg (Error.bulkAborted place · source) completed)⟩

/-- **The loop over items** happens part by part. -/
theorem unfolding_inTurn {R : Record → List Happening → Except Error Success → Prop}
    {op : Record → Call σ Success} (each : ∀ item w, m.Unfolding (op item) w (R item))
    (collects : Bool) (items : List Record) :
    ∀ place report w, m.Unfolding (inTurn collects op place report items) w fun steps result =>
      ∃ parts, InParts R items report parts steps result := by
  induction items with
  | nil =>
    intro place report w
    refine .pure ⟨[], rfl, by simp, fun after ends => ⟨rfl, report.errors, ?_⟩, by simp⟩
    cases ends
    simp [tally]
  | cons item rest ih =>
    intro place report w
    obtain ⟨first, ends, w', run, holds⟩ := each item w
    rw [inTurn]
    cases ends with
    | ok success =>
      obtain ⟨steps, result, w'', next, parts, later⟩ := ih (place + 1) (success.count report) w'
      refine ⟨first ++ steps, result, w'', run.attempt.bind next, _, later.cons holds ?_⟩
      intro results errors
      rw [tally_ok]
    | error e =>
      cases collects with
      | true =>
        obtain ⟨steps, result, w'', next, parts, later⟩ := ih (place + 1)
          { report with errors := report.errors ++ [⟨place, e.message, some item⟩] } w'
        refine ⟨first ++ steps, result, w'', run.attempt.bind next, _, later.cons holds ?_⟩
        intro results errors
        rw [tally_error]
        rfl
      | false =>
        have stop : Unfolds m.engine (throw (.bulkAborted place report.completed e) :
            Call σ BulkReport) w' [] _ _ := .quiet w'.draws rfl
        refine ⟨first ++ [], _, w', run.attempt.bind stop, [(first, .error e)], by simp, ?_, ?_, ?_⟩
        · rintro (_ | i) part there
          · cases there
            exact ⟨item, rfl, holds⟩
          · simp at there
        · simp
        · intro e' same
          cases same
          exact ⟨place, e, by rw [List.map_singleton, tally_error]; rfl⟩

/-- An item that is updated: the update of its key is backed. -/
def Item (m : Model σ) (item : Record) (steps : List Happening) (result : Except Error Success) :
    Prop :=
  ∀ success, result = .ok success → success = .updated ∧
    ∃ id record, item.get? m.schema.keyName = some id ∧ m.Backed id (exchanged steps) record

theorem backed_updateItem (m : Model σ) (item : Record) (w : World σ) :
    m.Unfolding (m.updateItem item) w (m.Item item) := by
  have failed (steps : List Happening) (e : Error) : m.Item item steps (.error e) :=
    fun _ ends => by cases ends
  rw [updateItem_eq]
  cases key : item.get? m.schema.keyName with
  | none =>
    simp only [ItemOperation.single, key]
    exact .throw (failed _ _)
  | some id =>
    simp only [ItemOperation.single, key]
    split
    · exact .throw (failed _ _)
    · refine (backed_updateById m id _ w).bind (fun steps e _ => failed steps e) ?_
      intro steps row? w' backed
      cases row? with
      | none => exact .throw (failed _ _)
      | some record =>
        refine .pure fun success ends => ?_
        cases ends
        exact ⟨rfl, id, record, key, by simpa using backed record (.inl rfl)⟩

/-- **Updating many rows** happens part by part. -/
theorem parts_bulkUpdate (m : Model σ) (items : List Record) (options : BulkOptions)
    (w : World σ) :
    m.Unfolding (m.bulkUpdate items options) w fun steps result =>
      ∃ parts, InParts m.Item items {} parts steps result := by
  have loop : m.bulkUpdate items options = _ := ItemOperation.bulk_eq m .update items options
  rw [loop, ← updateItem_eq]
  exact unfolding_inTurn (backed_updateItem m) options.continueOnError items 0 {} w

/-- A part of a faithful conversation is faithful. -/
theorem faithful_part {parts : List Part} {part : Part} (member : part ∈ parts)
    (faithful : Conversation.Faithful (exchanged (parts.flatMap (·.1)))) :
    Conversation.Faithful (exchanged part.1) := by
  obtain ⟨before, after, rfl⟩ := List.append_of_mem member
  rw [List.flatMap_append, List.flatMap_cons, exchanged_append, exchanged_append] at faithful
  exact List.IsChain.left_of_append (List.IsChain.right_of_append faithful)

/-- Where items are only ever updated, every success is an update. -/
theorem tally_updates {parts : List Part}
    (updates : ∀ part ∈ parts, ∀ success, part.2 = .ok success → success = .updated) :
    (tally {} (parts.map (·.2))).created = 0 ∧
      (tally {} (parts.map (·.2))).updated = parts.countP (·.2.isOk) := by
  simp only [tally, List.countP_map, Nat.zero_add]
  constructor
  · refine List.countP_eq_zero.2 fun part member => ?_
    rcases ends : part.2 with e | success
    · simp [ends, countsAs]
    · simp [ends, countsAs, updates part member success ends]
  · refine List.countP_congr fun part member => ?_
    rcases ends : part.2 with e | success
    · simp [ends, countsAs, Except.isOk, Except.toBool]
    · simp [ends, countsAs, Except.isOk, Except.toBool, updates part member success ends]

end Model

/-- **Changes that are reported have happened**, whatever hooks do, where an engine that reported no
change for an update does not read a row after it. If updating a row by its key gives a record or
announces one as updated, the update was accepted and changed a row, and this is the record that was
read. An upsert reports an update only if this is so, and updating many records counts the items for
which it is so, in order, also if it is ended. -/
theorem reported_changes_happen {σ : Type} (m : Model σ) (w : World σ) :
    (∀ id data, m.Unfolding (m.updateById id data) w fun steps result =>
      Conversation.Faithful (exchanged steps) →
        ∀ record, result = .ok (some record) ∨ .called (.afterUpdate record) ∈ steps →
          m.Changed id (exchanged steps) record) ∧
    (∀ request, m.Unfolding (m.upsert request) w fun steps result =>
      Conversation.Faithful (exchanged steps) →
        ∀ o, result = .ok o → o.updated = true →
          ∃ id, m.Changed id (exchanged steps) o.record) ∧
    (∀ items options, m.Unfolding (m.bulkUpdate items options) w fun steps result =>
      Conversation.Faithful (exchanged steps) →
        ∃ parts : List Model.Part, steps = parts.flatMap (·.1) ∧
          (∀ (i : Nat) (part : Model.Part), parts[i]? = some part →
            ∃ item : Record, items[i]? = some item ∧
            ∀ success, part.2 = .ok success → ∃ id record,
              item.get? m.schema.keyName = some id ∧ m.Changed id (exchanged part.1) record) ∧
          (∀ report, result = .ok report → parts.length = items.length ∧
            report.updated = parts.countP (·.2.isOk)) ∧
          (∀ e, result = .error e → ∃ place source,
            e = .bulkAborted place (UInt64.ofNat (parts.countP (·.2.isOk))) source)) := by
  refine ⟨fun id data => ?_, fun request => ?_, fun items options => ?_⟩
  · refine (Model.backed_updateById m id data w).mono fun steps result backed faithful => ?_
    exact fun record told => (backed record told).changed faithful
  · refine (Model.reported_upsert m request w).mono fun steps result backed faithful => ?_
    intro o ends told
    obtain ⟨id, behind⟩ := backed o ends told
    exact ⟨id, behind.changed faithful⟩
  · refine (Model.parts_bulkUpdate m items options w).mono ?_
    rintro steps result ⟨parts, inParts⟩ faithful
    have backed : ∀ part ∈ parts, ∃ item, m.Item item part.1 part.2 := by
      intro part member
      obtain ⟨i, there⟩ := List.getElem?_of_mem member
      obtain ⟨item, -, holds⟩ := inParts.each i part there
      exact ⟨item, holds⟩
    obtain ⟨none, counted⟩ := Model.tally_updates fun part member success ends =>
      ((backed part member).choose_spec success ends).1
    refine ⟨parts, inParts.steps, fun i part there => ?_, fun report ends => ?_, fun e ends => ?_⟩
    · obtain ⟨item, placed, holds⟩ := inParts.each i part there
      refine ⟨item, placed, fun success ends => ?_⟩
      obtain ⟨-, id, record, key, behind⟩ := holds success ends
      rw [inParts.steps] at faithful
      exact ⟨id, record, key,
        behind.changed (Model.faithful_part (List.mem_of_getElem? there) faithful)⟩
    · obtain ⟨all, errors, rfl⟩ := inParts.done report ends
      exact ⟨all, counted⟩
    · obtain ⟨place, source, rfl⟩ := inParts.aborted e ends
      refine ⟨place, source, ?_⟩
      rw [BulkReport.completed, none, counted, Nat.zero_add]
      simp [Model.tally]

/-- A table of tasks, of which a hook only lets those of one owner be changed. -/
def tasks : Model (Recorder Unit) where
  schema := ⟨"tasks", [.id "id", { name := "title", kind := .string },
    { name := "owner", kind := .string }], {}, 0⟩
  engine := Recorder.engine .silent
  hooks :=
    { beforeUpdate := some fun data filter => .ok (data, filter ++ [.eq "owner" (.text "ann")])
      afterUpdate := some fun _ => .ok () }

/-- A task is found. -/
def taskFound (title owner : String) : Answer :=
  .ok { rows := [.ofEntries [("id", .int 1), ("title", .text title), ("owner", .text owner)]] }

/-- A number of tasks is changed. -/
def tasksChanged (n : UInt64) : Answer :=
  .ok { info := { changes := n } }

/-- A world in which a task of the owner is changed and read, after what is looked for first. -/
def ownTask (first : List Answer) : World (Recorder Unit) where
  engine := { script := first ++ [tasksChanged 1, taskFound "b" "ann"], inner := () }
  now := default

/-- A world in which a task of someone else is not changed, and read all the same. -/
def foreignTask (first : List Answer) : World (Recorder Unit) where
  engine := { script := first ++ [tasksChanged 0, taskFound "a" "bob"], inner := () }
  now := default

/-- What is assigned to a task. -/
def retitled : Record :=
  .ofEntries [("id", .int 1), ("title", .text "b")]

/-- A task is found by its key, and retitled. -/
def retitling : UpsertRequest :=
  .byFields retitled ["id"]

theorem tasks_change :
    (∃ steps record w', Call.Unfolds tasks.engine (tasks.updateById (.int 1) retitled) (ownTask [])
        steps (.ok (some record)) w' ∧
      tasks.Changed (.int 1) (exchanged steps) record) ∧
    (∃ steps o w', Call.Unfolds tasks.engine (tasks.upsert retitling)
        (ownTask [taskFound "a" "ann"]) steps (.ok o) w' ∧
      o.updated = true ∧ ∃ id, tasks.Changed id (exchanged steps) o.record) ∧
    (∃ steps report w', Call.Unfolds tasks.engine (tasks.bulkUpdate [retitled] {})
        (ownTask []) steps (.ok report) w' ∧
      report.updated = 1 ∧ ∃ parts : List Model.Part, steps = parts.flatMap (·.1) ∧
        parts.countP (·.2.isOk) = 1) := by
  refine ⟨?_, ?_, ?_⟩
  · obtain ⟨steps, result, w', run, changed⟩ :=
      (reported_changes_happen tasks (ownTask [])).1 (.int 1) retitled
    have faithful : Conversation.Faithful (exchanged steps) := by
      rw [← run.issued]
      decide +kernel
    have given : ((tasks.updateById (.int 1) retitled).outcome
        (ownTask [])).1.toOption.join.isSome = true := by decide +kernel
    rw [run.outcome] at given
    match result with
    | .ok (some record) => exact ⟨steps, record, w', run, changed faithful record (.inl rfl)⟩
  · obtain ⟨steps, result, w', run, changed⟩ :=
      (reported_changes_happen tasks (ownTask [taskFound "a" "ann"])).2.1 retitling
    have faithful : Conversation.Faithful (exchanged steps) := by
      rw [← run.issued]
      decide +kernel
    have updated : ((tasks.upsert retitling).outcome
        (ownTask [taskFound "a" "ann"])).1.toOption.any (·.updated) = true := by decide +kernel
    rw [run.outcome] at updated
    match result with
    | .ok o => exact ⟨steps, o, w', run, updated, changed faithful o rfl updated⟩
  · obtain ⟨steps, result, w', run, changed⟩ :=
      (reported_changes_happen tasks (ownTask [])).2.2 [retitled] {}
    have faithful : Conversation.Faithful (exchanged steps) := by
      rw [← run.issued]
      decide +kernel
    have counted : ((tasks.bulkUpdate [retitled] {}).outcome
        (ownTask [])).1.toOption.map (·.updated) = some 1 := by decide +kernel
    rw [run.outcome] at counted
    obtain ⟨parts, inOrder, -, done, -⟩ := changed faithful
    match result with
    | .ok report =>
      have one : report.updated = 1 := Option.some_inj.1 counted
      exact ⟨steps, report, w', run, one, parts, inOrder, (done report rfl).2.symm.trans one⟩

/-- The hook keeps the update from a task of someone else, and no row is changed. The task is read
all the same, and it is given and announced as updated; an upsert reports the update, and the update
of many tasks counts it. -/
theorem unchanged_rows_reported :
    ((tasks.updateById (.int 1) retitled).outcome (foreignTask [])).1.toOption.join.isSome = true ∧
    (∃ record, .hook (.afterUpdate record) ∈
      ((tasks.updateById (.int 1) retitled).outcome (foreignTask [])).2.trace) ∧
    ((tasks.upsert retitling).outcome
      (foreignTask [taskFound "a" "bob"])).1.toOption.any (·.updated) = true ∧
    ((tasks.bulkUpdate [retitled] {}).outcome
      (foreignTask [])).1.toOption.map (·.updated) = some 1 := by
  refine ⟨by decide +kernel, ⟨?_, ?_⟩, by decide +kernel, by decide +kernel⟩
  · exact .ofEntries [("id", .int 1), ("title", .text "a"), ("owner", .text "bob")]
  · decide +kernel

end RecordMapper
