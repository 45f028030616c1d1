import RecordMapper.Engine.Recorder
import RecordMapper.Proofs.Bulk.Deliveries
import RecordMapper.Proofs.Bulk.Operations

/-!
# Rejections are reported

What every operation of a model without hooks makes of the rejection of a statement.

* `Model.BulkReports` is this for a bulk operation whose parts report their rejections.
* `rejections_are_reported` goes through all operations.
* `first_rejection_lost`: where the statements of a summary do not wait for each other, a rejection
  that comes in later than another one is lost.
-/

namespace RecordMapper

namespace Model

variable {σ : Type} {m : Model σ}

/-- A bulk operation all of whose parts report their rejections: the failure of a rejected statement
is listed for all items that the statement was about, or ends the operation. -/
def BulkReports {β : Type} (m : Model σ) (γ : Type) (first : β → Nat)
    (entries : β → Error → List BulkFailure) (options : BulkOptions) (items : List β)
    (xs : Conversation) (result : Except Error BulkReport) : Prop :=
  (∃ parts : List (Part β γ),
    Accounts (fun _ => m.Reports) first entries options items [] parts xs result) ∧
  ∀ before s r after, xs = before ++ (s, .error r) :: after →
    ∃ item ∈ items, Accounted first entries options after result item (m.failure s r)

theorem bulkReports {β γ : Type} {first : β → Nat} {entries : β → Error → List BulkFailure}
    {options : BulkOptions} {items : List β} {xs : Conversation}
    {result : Except Error BulkReport}
    (h : ∃ parts : List (Part β γ),
      Accounts (fun _ => m.Reports) first entries options items [] parts xs result) :
    m.BulkReports γ first entries options items xs result := by
  refine ⟨h, fun before s r after hx => ?_⟩
  obtain ⟨parts, accounts⟩ := h
  exact accounts.rejected hx

theorem recovers_upsertById (hm : m.hooks = {}) (id : Value) (data : Record) (w : World σ) :
    m.Follows (m.upsertById id data) w
      (m.Recovers (m.selectOne [.eq m.schema.keyName id])) := by
  refine .lift_bind (fun e _ => ?_) fun _ _ => ?_
  · exact .of_reports (reports_nil _) fun before s r after hx => by cases before <;> cases hx
  · exact (follows_upsert hm _ w).mono fun _ _ => recovers_upserted

theorem recovers_createIfNotExists (hm : m.hooks = {}) (filter : Filter) (data : Record)
    (w : World σ) :
    m.Follows (m.createIfNotExists filter data) w (m.Recovers (m.selectOne filter)) := by
  refine (follows_createIfNotExists hm filter data w).mono fun xs result path => ?_
  refine .matched path (recovers_sought (fun _ _ _ goes => ?_) fun _ _ _ goes => ?_)
  · cases goes
    exact reports_nil _
  · cases goes

end Model

/-- **Rejections are reported.** Take a model without hooks, and any engine. The failure of a
rejected statement carries its message, its text, its parameters as messages show them, and the
table. An operation on records, or on the table, ends with the failure of the first rejected
statement, which is the last one that it issues. The five statements of a summary do not wait for
each other, and it ends with the first failure that comes in; but where it has a result, none of
them was rejected. Upserting and creating what is not there end as the other operations do, except
that after a duplicate of the creation the row is looked for once more, and the duplicate's failure
is returned exactly where there is none. A bulk operation consists of such parts: it lists the
failure of a part for all items that the part is about, or else is aborted by it and issues nothing
more. -/
theorem rejections_are_reported {σ : Type} {m : Model σ} (hm : m.hooks = {}) (w : World σ) :
    (∀ s r, ∃ kind message field, m.failure s r = .query
      { kind, message, raw := r.message, field, sql := s.sql
        params := s.params.map Value.display, table := m.schema.table }) ∧
    (∀ op : Operation, op.OneByOne → m.Follows (op.run m) w m.Reports) ∧
    (∀ field filter schedule, m.Follows (m.stats field filter schedule) w fun xs result =>
      m.Gathers schedule (m.summaries field filter) w xs result ∧
        ∀ summary, result = .ok summary → xs.Accepted) ∧
    m.Follows m.createTable w m.Reports ∧ m.Follows m.dropTable w m.Reports ∧
    (∀ request, m.Follows (m.upsert request) w (m.Recovers (m.selectOne request.parts.1))) ∧
    (∀ id data, m.Follows (m.upsertById id data) w
      (m.Recovers (m.selectOne [.eq m.schema.keyName id]))) ∧
    (∀ filter data, m.Follows (m.createIfNotExists filter data) w
      (m.Recovers (m.selectOne filter))) ∧
    (∀ items options, m.Follows (m.bulkCreate items options) w
      (m.BulkReports Model.Success (·.1) Model.itemEntry options (numbered 0 items))) ∧
    (∀ items options, m.Follows (m.bulkUpdate items options) w
      (m.BulkReports Model.Success (·.1) Model.itemEntry options (numbered 0 items))) ∧
    (∀ items fields options, m.Follows (m.bulkUpsert items fields options) w fun xs result =>
      ∃ parts : List (Part (Nat × Record) Model.Success),
        Accounts (fun item => m.Recovers
            (m.selectOne (UpsertRequest.byFields item.2 fields).parts.1))
          (·.1) Model.itemEntry options (numbered 0 items) [] parts xs result) ∧
    (∀ ids options, m.Follows (m.bulkDelete ids options) w fun xs result =>
      ∃ chunks, chunks.flatten = numbered 0 ids ∧
        m.BulkReports UInt64 Model.firstPlace m.keyEntries options chunks xs result) ∧
    (∀ rows options, m.Follows (m.batchInsert rows options) w fun xs result =>
      m.Batched rows options xs result ∧
        ∀ before s r after, xs = before ++ (s, .error r) :: after →
          ∃ chunk, (∀ row ∈ chunk, row.1 < rows.length) ∧
            Accounted Model.firstPlace Model.rowEntries options after result chunk
              (m.failure s r)) := by
  refine ⟨fun s r => ⟨_, _, _, rfl⟩, fun op waits => (Operation.straight hm waits).reports w,
    fun field filter schedule => (m.follows_stats field filter schedule w).mono fun _ _ gathers =>
      ⟨gathers, fun _ ends => (ends ▸ gathers).accepted⟩,
    (Model.straight_createTable m).reports w, (Model.straight_dropTable m).reports w,
    fun request => (Model.follows_upsert hm request w).mono fun _ _ => Model.recovers_upserted,
    fun id data => Model.recovers_upsertById hm id data w,
    fun filter data => Model.recovers_createIfNotExists hm filter data w,
    fun items options => ?_, fun items options => ?_, fun items fields options => ?_,
    fun ids options => ?_, fun rows options => ?_⟩
  · exact (Model.follows_bulkCreate hm items options w).mono fun _ _ => Model.bulkReports
  · exact (Model.follows_bulkUpdate hm items options w).mono fun _ _ => Model.bulkReports
  · exact Model.follows_bulkUpsert hm items fields options w
  · refine (Model.follows_bulkDelete hm ids options w).mono fun xs result => ?_
    rintro ⟨chunks, parts, whole, accounts⟩
    exact ⟨chunks, whole, Model.bulkReports ⟨parts, accounts⟩⟩
  · exact (Model.follows_batchInsert m rows options w).mono fun _ _ h =>
      ⟨h, fun _ _ _ _ hx => h.rejected hx⟩

/-- A table of readings, whose engine answers from a script. -/
def readings : Model (Recorder Unit) where
  schema := ⟨"readings", [.id "id", { name := "level", kind := .number }], {}, 0⟩
  engine := Recorder.engine .silent

/-- A world in which the engine cannot read its table. -/
def brokenWorld : World (Recorder Unit) where
  engine := { script := [.error ⟨"disk I/O error"⟩], inner := () }
  now := default

theorem brokenCount_is_reported :
    ∃ f, f.raw = "disk I/O error" ∧ f.sql = "SELECT COUNT(*) AS count FROM readings" ∧
      readings.Follows (Operation.run readings (.count [])) brokenWorld fun xs result =>
        xs.length = 1 ∧ result = .error (.query f) := by
  obtain ⟨carries, operations, -⟩ := rejections_are_reported (m := readings) rfl brokenWorld
  obtain ⟨xs, result, w', run, reports⟩ := operations (.count []) trivial
  have said : readings.engine.exchanges
      ((Operation.run readings (.count [])).issued brokenWorld) brokenWorld.engine
        = [(⟨"SELECT COUNT(*) AS count FROM readings", []⟩, .error ⟨"disk I/O error"⟩)] := by rfl
  rw [run.issued] at said
  obtain ⟨-, failed⟩ := reports [] _ _ [] said
  obtain ⟨kind, message, field, failure⟩ :=
    carries ⟨"SELECT COUNT(*) AS count FROM readings", []⟩ ⟨"disk I/O error"⟩
  rw [failure] at failed
  exact ⟨_, rfl, rfl, xs, result, w', run, by rw [said]; rfl, failed⟩

/-! ### Rejections that come in later -/

/-- Every answer has to be waited for, and the second one comes in first. -/
def secondFirst : Schedule where
  waits := fun _ => true
  arrivals := [1]

/-- A world in which the engine rejects the first two statements. -/
def twiceBrokenWorld : World (Recorder Unit) where
  engine :=
    { script := [.error ⟨"disk I/O error"⟩, .error ⟨"database is locked"⟩], inner := () }
  now := default

/-- The statement for an aggregate of the levels. -/
def levelStatement (function : AggregateFunction) : Statement :=
  ⟨"SELECT " ++ function.sql "level" ++ " AS value FROM readings", []⟩

/-- **A rejection that comes in second is lost.** All five statements of a summary are put to the
engine, which rejects the first two of them. The answer to the second one comes in first: the
summary ends with its failure, which is not that of the last statement, and the rejection of the
first one is reported nowhere. In a batch, on the other hand, failures are listed that are none:
where three rows without columns go out one by one and the second is rejected, the first is listed
with it. -/
theorem first_rejection_lost :
    (∃ xs w', xs.map (·.1) = [levelStatement .count, levelStatement .sum, levelStatement .avg,
        levelStatement .min, levelStatement .max] ∧
      xs[0]? = some (levelStatement .count, .error ⟨"disk I/O error"⟩) ∧
      Call.Runs readings.engine (readings.stats "level" [] secondFirst) twiceBrokenWorld xs
        (.error (readings.failure (levelStatement .sum) ⟨"database is locked"⟩)) w' ∧
      ¬ readings.Follows (readings.stats "level" [] secondFirst) twiceBrokenWorld
        readings.Reports) ∧
    ∃ report w', Call.Runs receipts.engine (receipts.batchInsert [∅, ∅, ∅] {}) receiptsWorld
      [(newReceipt, .ok {}), (newReceipt, .error ⟨"disk full"⟩)] (.ok report) w' ∧
      report.errors.map (·.index) = [0, 1, 2] := by
  refine ⟨?_, ?_⟩
  · have run : ∃ w', Call.Runs readings.engine (readings.stats "level" [] secondFirst)
        twiceBrokenWorld
        [(levelStatement .count, .error ⟨"disk I/O error"⟩),
          (levelStatement .sum, .error ⟨"database is locked"⟩), (levelStatement .avg, .ok {}),
          (levelStatement .min, .ok {}), (levelStatement .max, .ok {})]
        (.error (readings.failure (levelStatement .sum) ⟨"database is locked"⟩)) w' :=
      ⟨_, rfl, rfl, rfl, rfl, rfl⟩
    obtain ⟨w', run⟩ := run
    refine ⟨_, w', rfl, rfl, run, fun reports => ?_⟩
    -- The rejected statement would have to be the last one.
    obtain ⟨last, -⟩ := reports.of_runs run [] _ _ _ rfl
    cases last
  · obtain ⟨w', run⟩ := runs_receipts
    exact ⟨_, w', run, rfl⟩

end RecordMapper
