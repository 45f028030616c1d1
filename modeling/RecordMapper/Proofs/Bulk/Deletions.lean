import Mathlib.Data.List.Infix
import Mathlib.Data.Set.List
import RecordMapper.Engine.Recorder
import RecordMapper.Proofs.Bulk.Operations
import RecordMapper.Proofs.Model.Assignments

/-!
# Deletions by keys

What a bulk deletion puts to the engine, and what it makes of the answers.

* A `Deletion` is a statement that deletes the rows of some keys, with its answer. Each is a part of
  the operation (`Model.follows_deleteKeys`, `Deletion.part`), whose run is `Model.Deletes`.
* `Model.DeletesAll` ties the account to the deletions of all keys, and `Model.StopsAt` is how the
  operation ends at the first deletion that is rejected.
* `deletion_accounts`: a bulk deletion ends in one of these ways.
-/

namespace RecordMapper

/-! ## The statement of a deletion -/

/-- Deletes the rows that have one of some keys. -/
def Statement.deleteKeys (table key : String) (ids : List Value) : Statement where
  sql := "DELETE FROM " ++ table ++ " WHERE " ++ key
    ++ " IN (" ++ ", ".intercalate (List.replicate ids.length "?") ++ ")"
  params := ids.map Value.param

@[simp] theorem Statement.params_deleteKeys (table key : String) (ids : List Value) :
    (deleteKeys table key ids).params = ids.map Value.param := rfl

/-- The deletion of the rows of a query that asks for one of some keys. -/
theorem Query.wire_delete {q : Query} {key : String} {ids : List Value} (some : ids ≠ [])
    (h : q.conditions = [.isIn key ids]) :
    q.delete.statement.wire = .deleteKeys q.table key ids := by
  obtain ⟨first, rest, rfl⟩ := List.exists_cons_of_ne_nil some
  have asked : q.whereClause = .raw " WHERE " ++ (.raw (key ++ " IN (")
      ++ .join ", " ((first :: rest).map .bind) ++ .raw ")") := by
    rw [whereClause, h, Filter.clause_eq (List.cons_ne_nil _ _)]
    have text : key ++ " IN (" = key ++ " " ++ (Operator.member false).sql ++ " (" := by
      simp only [String.append_assoc]
      rfl
    rw [text]
    rfl
  have sql : q.delete.sql = (Statement.deleteKeys q.table key (first :: rest)).sql := by
    rw [delete, asked, Template.sql_append, Template.sql_append, Template.sql_append,
      Template.sql_append, Template.sql_raw, Template.sql_raw, Template.sql_raw,
      Template.sql_raw, Template.sql_join, Template.map_sql_bind]
    simp only [← String.append_assoc]
    rfl
  have params : q.delete.params = first :: rest := by
    rw [delete, asked]
    simp only [Template.params_append, Template.params_raw, Template.params_join,
      Template.flatMap_params_bind, List.nil_append, List.append_nil]
  rw [Statement.wire, Template.statement, sql, params]
  rfl

/-! ## Deletions -/

/-- A statement that deletes the rows of some keys, which have places, and what the engine
answered. -/
structure Deletion where
  /-- The keys. -/
  keys : List (Nat × Value)
  /-- The answer. -/
  answer : Answer

namespace Deletion

variable {σ : Type}

/-- The statement. -/
def statement (m : Model σ) (d : Deletion) : Statement :=
  .deleteKeys m.table m.schema.keyName (d.keys.map (·.2))

/-- What was said. -/
def exchange (m : Model σ) (d : Deletion) : Statement × Answer :=
  (d.statement m, d.answer)

/-- The engine accepted the statement. -/
def Accepted (d : Deletion) : Prop :=
  ∃ reply, d.answer = .ok reply

/-- How it ended: with the number of deleted rows, or with the failure of the statement. -/
def result (m : Model σ) (d : Deletion) : Except Error UInt64 :=
  match d.answer with
  | .ok reply => .ok reply.info.changes
  | .error r => .error (m.failure (d.statement m) r)

/-- The number of rows that the engine deleted; it deletes none where it rejects the statement. -/
def changes (d : Deletion) : Nat :=
  match d.answer with
  | .ok reply => reply.info.changes.toNat
  | .error _ => 0

/-- What the account says of a deletion: where the engine rejects it, every key is listed at its
place, with the failure of the statement and with a record that has nothing but the key. -/
def failures (m : Model σ) (d : Deletion) : List BulkFailure :=
  match d.answer with
  | .ok _ => []
  | .error r => d.keys.map fun (place, id) =>
    ⟨place, (m.failure (d.statement m) r).message,
      some (Record.empty.set m.schema.keyName id)⟩

/-- The number of rows that some deletions deleted. -/
def total : List Deletion → Nat
  | [] => 0
  | d :: rest => d.changes + total rest

/-- A deletion as a part of the operation. -/
def part (m : Model σ) (d : Deletion) : Part (List (Nat × Value)) UInt64 where
  item := d.keys
  conversation := [d.exchange m]
  result := d.result m

variable {m : Model σ} {d : Deletion} {ds : List Deletion}

/-- A rejected deletion adds nothing. -/
theorem total_concat_rejected (ds : List Deletion) (keys : List (Nat × Value)) (r : Rejection) :
    total (ds ++ [⟨keys, .error r⟩]) = total ds := by
  induction ds with
  | nil => rfl
  | cons d rest ih => rw [List.cons_append, total, total, ih]

/-- A statement binds as many parameters as it has keys. -/
theorem length_params : (d.statement m).params.length = d.keys.length := by
  rw [statement, Statement.params_deleteKeys, List.length_map, List.length_map]

theorem succeeds_part : (d.part m).Succeeds ↔ d.Accepted := by
  obtain ⟨keys, r | reply⟩ := d <;> simp [part, Part.Succeeds, Deletion.result, Accepted]

theorem failures_part : (d.part m).failures m.keyEntries = d.failures m := by
  obtain ⟨keys, r | reply⟩ := d <;> rfl

/-- Parts that are deletions. -/
theorem exists_parts {parts : List (Part (List (Nat × Value)) UInt64)}
    (h : ∀ p ∈ parts, ∃ d : Deletion, d.part m = p) :
    ∃ ds : List Deletion, ds.map (part m) = parts := by
  have range : parts ∈ Set.range (List.map (part m)) := by
    rw [Set.range_list_map]
    exact h
  exact range

/-- The account with some deletions entered. -/
def entered (m : Model σ) (before : BulkReport) (ds : List Deletion) : BulkReport :=
  (ds.map (part m)).foldl (Part.enter Model.countDeleted m.keyEntries) before

/-- Deleted rows are counted, and nothing else is. -/
theorem counts_entered (ds : List Deletion) : ∀ before : BulkReport,
    (entered m before ds).created = before.created ∧
      (entered m before ds).updated = before.updated ∧
      (before.deleted.toNat + total ds < UInt64.size →
        (entered m before ds).deleted.toNat = before.deleted.toNat + total ds) := by
  induction ds with
  | nil => exact fun before => ⟨rfl, rfl, fun _ => rfl⟩
  | cons d rest ih =>
    intro before
    obtain ⟨keys, r | reply⟩ := d
    · have none : total (⟨keys, .error r⟩ :: rest) = total rest := Nat.zero_add _
      rw [none]
      exact ih _
    · have more : total (⟨keys, .ok reply⟩ :: rest)
          = reply.info.changes.toNat + total rest := rfl
      obtain ⟨created, updated, deleted⟩ :=
        ih { before with deleted := before.deleted + reply.info.changes }
      refine ⟨created, updated, fun fits => ?_⟩
      rw [more] at fits ⊢
      have below : before.deleted.toNat + reply.info.changes.toNat < UInt64.size := by omega
      have sum : (before.deleted + reply.info.changes).toNat
          = before.deleted.toNat + reply.info.changes.toNat :=
        (UInt64.toNat_add _ _).trans (Nat.mod_eq_of_lt below)
      dsimp only at deleted
      rw [sum, Nat.add_assoc] at deleted
      exact deleted fits

/-- The rows that are counted, and completed, are those that were deleted. -/
theorem count_entered (fits : total ds < UInt64.size) :
    (entered m {} ds).deleted.toNat = total ds ∧
      (entered m {} ds).completed.toNat = total ds := by
  obtain ⟨created, updated, deleted⟩ := counts_entered (m := m) ds {}
  have start : (({} : BulkReport).deleted.toNat + total ds) = total ds := Nat.zero_add _
  rw [start] at deleted
  have none : ∀ n : UInt64, UInt64.ofNat (0 + 0) + n = n := UInt64.zero_add
  rw [BulkReport.completed, created, updated, none]
  exact ⟨deleted fits, deleted fits⟩

end Deletion

/-! ## How a bulk deletion ends -/

/-- The size of a chunk: the one that is asked for, else the configured one, and at least one. -/
def BulkOptions.size (options : BulkOptions) (configured : UInt64) : Nat :=
  max (options.chunkSize.getD configured).toNat 1

/-- The account of the deletions of all keys. -/
structure Model.DeletesAll {σ : Type} (m : Model σ) (ids : List Value) (ds : List Deletion)
    (report : BulkReport) : Prop where
  /-- Each key goes out once, in order. -/
  keys : ds.flatMap Deletion.keys = numbered 0 ids
  /-- The statements bind the keys in wire form. -/
  bound : ds.flatMap (fun d => (d.statement m).params) = ids.map Value.param
  /-- The deleted rows are counted. -/
  deleted : Deletion.total ds < UInt64.size → report.deleted.toNat = Deletion.total ds
  /-- Nothing else is counted. -/
  rest : report.created = 0 ∧ report.updated = 0
  /-- The keys of the rejected statements are listed. -/
  errors : report.errors = ds.flatMap (Deletion.failures m)

/-- A bulk deletion ends at the first deletion that is rejected: it is aborted at the first of its
keys, after the rows that the others deleted. -/
structure Model.StopsAt {σ : Type} (m : Model σ) (done : List Deletion) (last : Deletion)
    (result : Except Error BulkReport) : Prop where
  accepted : ∀ d ∈ done, d.Accepted
  aborted : ∃ r place id completed, last.answer = .error r ∧
    last.keys.head? = some (place, id) ∧
    result = .error (.bulkAborted place completed (m.failure (last.statement m) r)) ∧
    (Deletion.total done < UInt64.size → completed.toNat = Deletion.total done)

namespace Model

variable {σ : Type} {m : Model σ}

/-- **The rows of some keys are deleted** with one statement. -/
theorem follows_deleteKeys (hm : m.hooks = {}) {keys : List (Nat × Value)} (some : keys ≠ [])
    (w : World σ) :
    m.Follows (m.delete [.isIn m.schema.keyName (keys.map (·.2))]) w fun xs result =>
      ∃ d : Deletion, d.part m = ⟨keys, xs, result⟩ := by
  have checked : m.checkFilter [.isIn m.schema.keyName (keys.map (·.2))] = .ok () :=
    checkColumns_ok "filter" (by simp [Condition.isIn, Condition.ofList, Schema.hasField_keyName])
  have sent : (m.query.addFilter [.isIn m.schema.keyName (keys.map (·.2))]).delete.statement.wire
      = .deleteKeys m.table m.schema.keyName (keys.map (·.2)) :=
    Query.wire_delete (by simpa using some) rfl
  rw [delete_eq hm, checked]
  refine .lift_bind (fun _ ends => by cases ends) fun _ _ => ?_
  refine .execute_bind (fun r => ?_) fun reply w' _ _ => .pure ?_
  · rw [sent]
    exact ⟨⟨keys, .error r⟩, rfl⟩
  · rw [sent]
    exact ⟨⟨keys, .ok reply⟩, rfl⟩

/-- The statements of deletions bind their keys in wire form. -/
theorem flatMap_params (ds : List Deletion) :
    ds.flatMap (fun d => (d.statement m).params)
      = ((ds.flatMap Deletion.keys).map (·.2)).map Value.param := by
  rw [List.map_flatMap, List.map_flatMap]
  rfl

/-! ## The run of a bulk deletion -/

/-- The chunks of the keys are deleted in turn, with a deletion for each of them. -/
structure Deletes (m : Model σ) (options : BulkOptions) (ids : List Value) (ds : List Deletion)
    (xs : Conversation) (result : Except Error BulkReport) : Prop where
  /-- What was said, and how it is accounted for. -/
  accounts : Accounts (fun chunk xs result => ∃ d : Deletion, d.part m = ⟨chunk, xs, result⟩)
    firstPlace m.keyEntries options
    (numberedChunks (options.chunkSize.getD m.settings.bulk.deleteChunk) ids) []
    (ds.map (Deletion.part m)) xs result
  /-- What was counted. -/
  tallied : Tallies countDeleted m.keyEntries {} (ds.map (Deletion.part m)) result

/-- **Rows are deleted chunk by chunk.** -/
theorem follows_deletions (hm : m.hooks = {}) (ids : List Value) (options : BulkOptions)
    (w : World σ) :
    m.Follows (m.bulkDelete ids options) w fun xs result =>
      ∃ ds, m.Deletes options ids ds xs result := by
  generalize hsize : options.chunkSize.getD m.settings.bulk.deleteChunk = size
  have lawful : ∀ chunk ∈ numberedChunks size ids, ∀ w : World σ,
      m.Follows (m.delete [.isIn m.schema.keyName (chunk.map (·.2))]) w fun xs result =>
        ∃ d : Deletion, d.part m = ⟨chunk, xs, result⟩ :=
    fun chunk member => follows_deleteKeys hm (numberedChunks_bounds member).1
  have counts : ∀ chunk n report, (countDeleted chunk n report).errors = report.errors :=
    fun _ _ _ => rfl
  rw [bulkDelete, deleteChunk_eq, hsize]
  refine (follows_tallied counts _ lawful {} w).mono ?_
  rintro xs result ⟨parts, accounts, tallied⟩
  obtain ⟨ds, rfl⟩ := Deletion.exists_parts accounts.lawful
  exact ⟨ds, hsize ▸ accounts, tallied⟩

namespace Deletes

variable {options : BulkOptions} {ids : List Value} {ds : List Deletion} {xs : Conversation}
  {result : Except Error BulkReport}

theorem said (h : m.Deletes options ids ds xs result) : xs = ds.map (Deletion.exchange m) := by
  rw [h.accounts.said, List.flatMap_map, List.map_eq_flatMap]
  rfl

theorem inTurn (h : m.Deletes options ids ds xs result) :
    ds.map Deletion.keys
      <+: numberedChunks (options.chunkSize.getD m.settings.bulk.deleteChunk) ids := by
  have inOrder := h.accounts.inOrder
  rwa [List.map_map] at inOrder

/-- No deletion is of no keys, or of more than a chunk has. -/
theorem bounds (h : m.Deletes options ids ds xs result) :
    ∀ d ∈ ds, d.keys ≠ [] ∧ d.keys.length ≤ options.size m.settings.bulk.deleteChunk :=
  fun _ mem => numberedChunks_bounds (h.inTurn.subset (List.mem_map_of_mem mem))

/-- All keys are gone through. -/
theorem all (h : m.Deletes options ids ds xs result)
    (goes : options.continueOnError = true ∨ ∀ d ∈ ds, d.Accepted) :
    ∃ report, result = .ok report ∧ m.DeletesAll ids ds report := by
  have succeeds : options.continueOnError = true ∨ ∀ p ∈ ds.map (Deletion.part m), p.Succeeds :=
    goes.imp_right fun accepted => List.forall_mem_map.2 fun d mem =>
      Deletion.succeeds_part.2 (accepted d mem)
  obtain ⟨chunks, report, ends, errors⟩ := h.accounts.finished succeeds
  have entered : report = Deletion.entered m {} ds := h.tallied.entered report ends
  obtain ⟨created, updated, -⟩ := Deletion.counts_entered (m := m) ds {}
  have keys : ds.flatMap Deletion.keys = numbered 0 ids := by
    rw [← flatten_numberedChunks (options.chunkSize.getD m.settings.bulk.deleteChunk) ids,
      ← chunks, List.map_map]
    rfl
  refine ⟨report, ends, keys, ?_, fun fits => ?_, ?_, ?_⟩
  · rw [flatMap_params, keys, map_snd_numbered]
  · rw [entered, (Deletion.count_entered fits).1]
  · rw [entered]
    exact ⟨created, updated⟩
  · rw [errors, List.nil_append, List.flatMap_map]
    exact List.flatMap_congr fun d _ => Deletion.failures_part

/-- The first deletion that is rejected ends the operation. -/
theorem stops (h : m.Deletes options ids ds xs result) (stops : options.continueOnError = false)
    (rejected : ∃ d ∈ ds, ¬ d.Accepted) :
    ∃ done last, ds = done ++ [last] ∧ m.StopsAt done last result := by
  have fails : ∃ p ∈ ds.map (Deletion.part m), ¬ p.Succeeds := by
    obtain ⟨d, mem, broken⟩ := rejected
    exact ⟨d.part m, List.mem_map_of_mem mem, fun well => broken (Deletion.succeeds_part.1 well)⟩
  obtain ⟨done, last, e, n, split, well, failed, ends⟩ := h.accounts.ended stops fails
  obtain ⟨done, one, rfl, rfl, single⟩ := List.map_eq_append_iff.1 split
  obtain ⟨last, rfl, rfl⟩ := List.map_eq_singleton_iff.1 single
  refine ⟨done, last, rfl, fun d mem => Deletion.succeeds_part.1 (well _ (List.mem_map_of_mem mem)),
    ?_⟩
  obtain ⟨keys, r | reply⟩ := last
  · obtain ⟨⟨place, id⟩, others, rfl⟩ :=
      List.exists_cons_of_ne_nil (h.bounds ⟨keys, .error r⟩ (by simp)).1
    have same : m.failure (Deletion.statement m ⟨(place, id) :: others, .error r⟩) r = e :=
      Except.error.inj failed
    have sum : Deletion.total (done ++ [⟨(place, id) :: others, .error r⟩])
        = Deletion.total done := Deletion.total_concat_rejected done _ r
    refine ⟨r, place, id, n, rfl, rfl, by rw [ends, same]; rfl, fun fits => ?_⟩
    rw [← sum] at fits ⊢
    rw [h.tallied.completed _ n e ends]
    exact (Deletion.count_entered fits).2
  · cases failed

end Deletes

end Model

/-- **The account of a bulk deletion.** Rows are deleted by their keys, in a model without hooks,
and the engine answers as it likes. The keys go out in turn, none of them in an empty list, and none
in a list that is larger than the size of a chunk, which is at least one.

Where failures are collected, or no statement is rejected, all keys go out, each of them once. The
account has the number of rows that the engine deleted, and lists the keys of the rejected
statements, each at its place among all keys. Else the first statement that is rejected is the last
one that goes out. -/
theorem deletion_accounts {σ : Type} {m : Model σ} (hm : m.hooks = {}) (ids : List Value)
    (options : BulkOptions) (w : World σ) :
    m.Follows (m.bulkDelete ids options) w fun xs result =>
      ∃ ds : List Deletion, xs = ds.map (Deletion.exchange m) ∧
        (∀ d ∈ ds, d.keys ≠ [] ∧ d.keys.length ≤
          max (options.chunkSize.getD m.settings.bulk.deleteChunk).toNat 1) ∧
        ds.flatMap Deletion.keys <+: numbered 0 ids ∧
        (options.continueOnError = true ∨ (∀ d ∈ ds, d.Accepted) →
          ∃ report, result = .ok report ∧ m.DeletesAll ids ds report) ∧
        (options.continueOnError = false → (∃ d ∈ ds, ¬ d.Accepted) →
          ∃ done last, ds = done ++ [last] ∧ m.StopsAt done last result) := by
  refine (Model.follows_deletions hm ids options w).mono ?_
  rintro xs result ⟨ds, deletes⟩
  refine ⟨ds, deletes.said, deletes.bounds, ?_, deletes.all, deletes.stops⟩
  rw [List.flatMap_def,
    ← flatten_numberedChunks (options.chunkSize.getD m.settings.bulk.deleteChunk) ids]
  exact deletes.inTurn.flatten

/-! ### An engine that breaks off -/

/-- A table of badges, whose engine answers from a script. -/
def badges : Model (Recorder Unit) where
  schema := ⟨"badges", [.id "id", { name := "owner", kind := .string }], {}, 0⟩
  engine := Recorder.engine .silent

/-- A world in which the engine deletes two badges, and then cannot write any more. -/
def badgesWorld : World (Recorder Unit) where
  engine := { script := [.ok { info := { changes := 2 } }, .error ⟨"disk I/O error"⟩], inner := () }
  now := default

/-- The second of three statements is rejected: the deletion is aborted at the third badge, after
two deleted rows. -/
theorem badges_aborted :
    badges.Follows (badges.bulkDelete [.int 1, .int 2, .int 3, .int 4, .int 5]
        { chunkSize := some 2, continueOnError := false }) badgesWorld fun xs result =>
      xs.length = 2 ∧ ∃ e, result = .error (.bulkAborted 2 2 e) := by
  have cut : numberedChunks 2 [Value.int 1, .int 2, .int 3, .int 4, .int 5]
      = [[(0, .int 1), (1, .int 2)], [(2, .int 3), (3, .int 4)], [(4, .int 5)]] := by
    simp [numberedChunks, chunksOf]
  have said : badges.engine.exchanges
      ((badges.bulkDelete [.int 1, .int 2, .int 3, .int 4, .int 5]
        { chunkSize := some 2, continueOnError := false }).issued badgesWorld) badgesWorld.engine
        = [(⟨"DELETE FROM badges WHERE id IN (?, ?)", [.int 1, .int 2]⟩,
            .ok { info := { changes := 2 } }),
          (⟨"DELETE FROM badges WHERE id IN (?, ?)", [.int 3, .int 4]⟩,
            .error ⟨"disk I/O error"⟩)] := by
    have whole : badges.bulkDelete [.int 1, .int 2, .int 3, .int 4, .int 5]
        { chunkSize := some 2, continueOnError := false }
        = (numberedChunks 2 [Value.int 1, .int 2, .int 3, .int 4, .int 5]).foldlM
          (badges.deleteChunk { chunkSize := some 2, continueOnError := false }) {} := rfl
    rw [whole, cut]
    rfl
  obtain ⟨xs, result, w', run, ds, sent, -, inTurn, -, stopped⟩ :=
    deletion_accounts (m := badges) rfl [.int 1, .int 2, .int 3, .int 4, .int 5]
      { chunkSize := some 2, continueOnError := false } badgesWorld
  rw [run.issued] at said
  rw [said] at sent
  obtain ⟨⟨keys, a⟩, ds, rfl, first, others⟩ := List.map_eq_cons_iff.1 sent.symm
  obtain ⟨⟨keys', a'⟩, rfl, second⟩ := List.map_eq_singleton_iff.1 others
  obtain ⟨same, rfl⟩ := Prod.mk.inj first
  obtain ⟨-, rfl⟩ := Prod.mk.inj second
  obtain ⟨done, last, split, -, r, place, id, n, -, head, ends, counted⟩ :=
    stopped rfl ⟨_, List.mem_cons_of_mem _ List.mem_cons_self, by simp [Deletion.Accepted]⟩
  obtain ⟨rfl, one⟩ := List.append_inj' ((List.singleton_append).trans split) rfl
  cases one
  -- Two keys went out before, so that the first of the rejected ones is the third.
  have two : keys.length = 2 :=
    Deletion.length_params.symm.trans (congrArg (fun s => s.params.length) same)
  obtain ⟨k, l, rfl⟩ := List.length_eq_two.1 two
  obtain ⟨more, rfl⟩ : ∃ more, keys' = (place, id) :: more := List.head?_eq_some_iff.1 head
  obtain ⟨tail, whole⟩ := inTurn
  have third : place = 2 := by
    have places := congrArg (fun items => (items.map (·.1))[2]?) whole
    simpa using places
  have changed : n = 2 := by
    have fits : (2 : Nat) < UInt64.size := by decide
    exact UInt64.toNat_inj.1 (counted fits)
  exact ⟨xs, result, w', run, by rw [said]; rfl, _, by rw [ends, third, changed]⟩

end RecordMapper
