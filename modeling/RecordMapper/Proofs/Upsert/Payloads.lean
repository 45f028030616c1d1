import RecordMapper.Engine.Recorder
import RecordMapper.Proofs.Bulk.Operations
import RecordMapper.Proofs.Model.Assignments
import RecordMapper.Proofs.Upsert.Outcomes

/-!
# Payloads of upserts

An upsert looks at the names of its payload to tell whether a row that was found is to be assigned
anything; the update that it makes then takes the fields away that are never assigned, and fails if
nothing is left. The two agree (`Model.isEmpty_assignable`), so that an upsert keeps the row where
an update would fail.

* `Error.lacksFields` is the failure of an update that assigns nothing, and `Supplied` is said of
  what does not end with it.
* `Model.Decides` is what becomes of a row that was found, by what is left of the payload.
* `upsert_decides_as_update` says it of every upsert, by a key and in bulk too.
-/

namespace RecordMapper

/-! ## Want of fields -/

/-- Whether an error is that of an update without fields, or comes from it. -/
def Error.lacksFields : Error → Bool
  | .noFieldsToUpdate => true
  | .bulkAborted _ _ source => source.lacksFields
  | _ => false

/-- A call does not fail for want of fields. -/
def Supplied {α : Type} (result : Except Error α) : Prop :=
  ∀ e, result = .error e → e.lacksFields = false

section

variable {α β : Type} {e : Error}

theorem supplied_ok (a : α) : Supplied (.ok a) :=
  nofun

theorem supplied_error (h : e.lacksFields = false) : Supplied (α := α) (.error e) := by
  rintro _ ⟨⟩
  exact h

/-- The same failure, of a call with other results. -/
theorem Supplied.error (h : Supplied (α := α) (.error e)) : Supplied (α := β) (.error e) :=
  supplied_error (h e rfl)

theorem supplied_map {result : Except Error α} (h : Supplied result) (f : α → β) :
    Supplied (result.map f) := by
  cases result with
  | ok a => exact supplied_ok _
  | error e => exact h.error

/-- **An account of parts none of which fails for want of fields** does not fail so either. -/
theorem Accounts.supplied {law : α → Conversation → Except Error β → Prop} {first : α → Nat}
    {entries : α → Error → List BulkFailure} {options : BulkOptions} {items : List α}
    {before : List BulkFailure} {parts : List (Part α β)} {xs : Conversation}
    {result : Except Error BulkReport}
    (h : Accounts law first entries options items before parts xs result)
    (lawful : ∀ item ys outcome, law item ys outcome → Supplied outcome) : Supplied result := by
  cases goes : options.continueOnError with
  | true =>
    obtain ⟨-, report, rfl, -⟩ := h.collected goes
    exact supplied_ok report
  | false =>
    rcases h.stopped goes with ⟨-, -, report, rfl, -⟩ | ⟨done, last, e, n, rfl, -, failed, rfl⟩
    · exact supplied_ok report
    · have own := lawful _ _ _ (h.lawful last (by simp))
      exact supplied_error (own e failed)

end

namespace Model

variable {σ : Type} {m : Model σ} {xs : Conversation} {result : Except Error UpsertOutcome}

open Conversation

/-! ## Failures of the stages -/

theorem supplied_looked {s : Statement} {found : Except Error (Option Record)}
    (h : m.Looked s xs found) : Supplied found := by
  cases h with
  | rejected r => exact supplied_error rfl
  | answered reply => exact supplied_ok _

theorem supplied_validate {mode : ValidationMode} {r : Record} :
    Supplied (m.schema.validate mode r) := by
  intro e h
  obtain ⟨violations, rfl⟩ := validate_error h
  rfl

theorem supplied_created {completed : Record} {result : Except Error Record}
    (h : m.Created completed xs result) : Supplied result := by
  cases h with
  | invalid invalid => exact supplied_error (supplied_validate _ invalid)
  | rejected _ r => exact supplied_error rfl
  | unidentified _ unknown =>
    obtain rfl := insertedKey_error unknown
    exact supplied_error rfl
  | unread _ _ read => exact (supplied_looked read).error
  | missing _ _ _ => exact supplied_error rfl
  | created _ _ _ => exact supplied_ok _

/-- An update of a row that was found is made only if there is something to assign. -/
theorem supplied_applied {now : Instant} {update found : Record}
    (h : m.Applied now update found xs result) : Supplied result := by
  cases h with
  | keyless _ => exact supplied_error rfl
  | kept _ _ => exact supplied_ok _
  | invalid _ _ invalid => exact supplied_error (supplied_validate _ invalid)
  | rejected _ r => exact supplied_error rfl
  | unread _ read => exact (supplied_looked read).error
  | vanished _ _ => exact supplied_error rfl
  | updated _ _ => exact supplied_ok _

theorem supplied_sought {lookup : Statement} {completed : Record}
    {Going : Record → Conversation → Except Error UpsertOutcome → Prop}
    (going : ∀ row {ys result}, Going row ys result → Supplied result)
    (h : m.Sought lookup (m.Created completed) Going xs result) : Supplied result := by
  cases h with
  | unseen looked => exact (supplied_looked looked).error
  | found _ goes => exact going _ goes
  | created _ _ => exact supplied_ok _
  | failed _ creates _ => exact (supplied_created creates).error
  | unseenAgain _ _ _ again => exact (supplied_looked again).error
  | stands _ creates _ _ => exact (supplied_created creates).error
  | lost _ _ _ _ goes => exact going _ goes

theorem supplied_mayMatch (operation : String) (filter : Filter) :
    Supplied (m.mayMatch operation filter) := by
  intro e h
  rcases bind_eq_error h with empty | ⟨-, -, unknown⟩
  · unfold requireMatch at empty
    split at empty <;> cases empty
    rfl
  · obtain ⟨column, place, -, rfl⟩ := checkFilter_error unknown
    rfl

theorem supplied_checkIdentifier (id : Value) : Supplied (m.checkIdentifier id) := by
  intro e h
  unfold checkIdentifier at h
  extract_lets key valid at h
  by_cases possible : valid = true
  · rw [if_pos possible] at h
    cases h
  · rw [if_neg possible] at h
    cases h
    rfl

theorem supplied_upserted {now : Instant} {draws : Draws} {request : UpsertRequest}
    (h : m.Upserted now draws request xs result) : Supplied result := by
  unfold Upserted at h
  cases h with
  | refused h => exact supplied_error (supplied_mayMatch _ _ _ h)
  | sought _ h => exact supplied_sought (fun _ _ _ => supplied_applied) h

/-! ## Rows that were found -/

/-- What becomes of a row that was found, with what is said about it: the payload decides, without
the fields that an update takes away. -/
structure Decides (m : Model σ) (update found : Record) (xs : Conversation)
    (result : Except Error UpsertOutcome) : Prop where
  /-- A row without its key is refused. -/
  keyless : found.get? m.schema.keyName = none →
    xs = [] ∧ result = .error (.invalidArgument (.rowWithoutKey m.table m.schema.keyName))
  /-- A row with its key is given as it was found, without an update, exactly if nothing is left of
  the payload. -/
  kept : found.get? m.schema.keyName ≠ none →
    (result = .ok { record := found } ∧ xs.updates = 0 ↔ (m.assignable update).isEmpty = true)
  /-- If nothing is left, nothing is said. -/
  silent : (m.assignable update).isEmpty = true → xs = []
  /-- Else it is assigned to the row, unless it is invalid. -/
  assigned : found.get? m.schema.keyName ≠ none → (m.assignable update).isEmpty = false →
    xs.updates = 1 ∨ xs = [] ∧ ∃ violations, result = .error (.validation violations)

/-- A row that is assigned something. -/
theorem Decides.of_assigns {update found : Record} {id : Value}
    (key : found.get? m.schema.keyName = some id) (assigns : m.assigns update = true)
    (ends : xs.updates = 1 ∨ xs = [] ∧ ∃ violations, result = .error (.validation violations)) :
    m.Decides update found xs result := by
  have left : (m.assignable update).isEmpty = false := by rw [isEmpty_assignable, assigns]; rfl
  have other : ¬ (result = .ok { record := found } ∧ xs.updates = 0) := by
    rintro ⟨rfl, none⟩
    rcases ends with one | ⟨-, violations, failed⟩
    · omega
    · cases failed
  exact {
    keyless := fun none => absurd none (by simp [key])
    kept := fun _ => iff_of_false other (by simp [left])
    silent := fun nothing => absurd nothing (by simp [left])
    assigned := fun _ _ => ends }

/-- **The update of a row that was found** is decided by the fields that it assigns. -/
theorem decides_applied {now : Instant} {update found : Record}
    (h : m.Applied now update found xs result) : m.Decides update found xs result := by
  -- A statement that assigns, and the reading of its row.
  have reads {id id' : Value} {s : Statement} {reply : Reply} {ys : Conversation}
      {row : Except Error (Option Record)} (sets : m.Assigning now update found id s)
      (read : m.Looked (m.selectById id') ys row) : updates ((s, .ok reply) :: ys) = 1 := by
    rw [updates_cons, (counts_selectById read).2, if_pos sets.isUpdate.1]
  cases h with
  | keyless key =>
    exact {
      keyless := fun _ => ⟨rfl, rfl⟩
      kept := fun other => absurd key other
      silent := fun _ => rfl
      assigned := fun other => absurd key other }
  | kept key assigns =>
    have nothing : (m.assignable update).isEmpty = true := by rw [isEmpty_assignable, assigns]; rfl
    exact {
      keyless := fun none => absurd none (by simp [key])
      kept := fun _ => iff_of_true ⟨rfl, rfl⟩ nothing
      silent := fun _ => rfl
      assigned := fun _ left => absurd left (by simp [nothing]) }
  | invalid key assigns invalid =>
    obtain ⟨violations, rfl⟩ := validate_error invalid
    exact .of_assigns key assigns (.inr ⟨rfl, violations, rfl⟩)
  | rejected sets r =>
    exact .of_assigns sets.key sets.assigns (.inl (by simp [sets.isUpdate.1]))
  | unread sets read => exact .of_assigns sets.key sets.assigns (.inl (reads sets read))
  | vanished sets read => exact .of_assigns sets.key sets.assigns (.inl (reads sets read))
  | updated sets read => exact .of_assigns sets.key sets.assigns (.inl (reads sets read))

/-! ## Upserts -/

theorem Sought.imp {lookup : Statement} {creating : Conversation → Except Error Record → Prop}
    {Going Going' : Record → Conversation → Except Error UpsertOutcome → Prop}
    (imp : ∀ row {ys result}, Going row ys result → Going' row ys result)
    (h : m.Sought lookup creating Going xs result) : m.Sought lookup creating Going' xs result := by
  cases h with
  | unseen looked => exact .unseen looked
  | found looked goes => exact .found looked (imp _ goes)
  | created looked creates => exact .created looked creates
  | failed looked creates other => exact .failed looked creates other
  | unseenAgain looked creates duplicate again => exact .unseenAgain looked creates duplicate again
  | stands looked creates duplicate again => exact .stands looked creates duplicate again
  | lost looked creates duplicate again goes =>
    exact .lost looked creates duplicate again (imp _ goes)

theorem Matched.imp {operation : String} {filter : Filter}
    {R R' : Conversation → Except Error UpsertOutcome → Prop} (imp : R xs result → R' xs result)
    (h : m.Matched operation filter R xs result) : m.Matched operation filter R' xs result := by
  cases h with
  | refused h => exact .refused h
  | sought allowed h => exact .sought allowed (imp h)

/-- The path of an upsert, where the payload decides what becomes of a row that is found, at the
first lookup or at the second one. -/
def Weighed (m : Model σ) (now : Instant) (draws : Draws) (request : UpsertRequest) :
    Conversation → Except Error UpsertOutcome → Prop :=
  let (filter, create, update) := request.parts
  Matched m "upsert" filter (Sought m (m.selectOne filter)
    (Created m (m.schema.complete now create draws).1) (Decides m update))

theorem follows_weighed (hm : m.hooks = {}) (request : UpsertRequest) (w : World σ) :
    m.Follows (m.upsert request) w fun xs result =>
      m.Weighed w.now w.draws request xs result ∧ Supplied result := by
  refine (follows_upsert hm request w).mono fun xs result path => ⟨?_, supplied_upserted path⟩
  exact Matched.imp (Sought.imp fun _ _ _ => decides_applied) path

/-- An upsert by a key: a value that can be no key is refused, and else the row of the key is
looked for, and created with it. -/
def WeighedById (m : Model σ) (now : Instant) (draws : Draws) (id : Value) (data : Record)
    (xs : Conversation) (result : Except Error UpsertOutcome) : Prop :=
  match m.checkIdentifier id with
  | .error e => xs = [] ∧ result = .error e
  | .ok _ =>
    let key := m.schema.keyName
    m.Weighed now draws (.explicit [.eq key id] (data.set key id) data) xs result

theorem follows_weighedById (hm : m.hooks = {}) (id : Value) (data : Record) (w : World σ) :
    m.Follows (m.upsertById id data) w fun xs result =>
      m.WeighedById w.now w.draws id data xs result ∧ Supplied result := by
  unfold upsertById WeighedById
  refine .lift_bind (fun e refused => ?_) fun _ valid => ?_
  · rw [refused]
    exact ⟨⟨rfl, rfl⟩, supplied_error (supplied_checkIdentifier id e refused)⟩
  · rw [valid]
    exact follows_weighed hm _ w

/-- An item of an upsert in bulk, which is counted as created or as updated. -/
def WeighedItem (m : Model σ) (fields : List String) (item : Nat × Record) (xs : Conversation)
    (result : Except Error Success) : Prop :=
  ∃ now draws outcome, m.Weighed now draws (.byFields item.2 fields) xs outcome ∧
    Supplied outcome ∧
    result = outcome.map fun o => if o.created then .created else .updated

theorem follows_weighedItem (hm : m.hooks = {}) (fields : List String) (item : Nat × Record)
    (w : World σ) :
    m.Follows (m.upsert (.byFields item.2 fields) >>= fun o =>
      pure (if o.created then Success.created else .updated)) w (m.WeighedItem fields item) := by
  refine (follows_weighed hm (.byFields item.2 fields) w).bind ?_ ?_
  · exact fun xs e ⟨path, supplied⟩ => ⟨w.now, w.draws, .error e, path, supplied, rfl⟩
  · rintro xs outcome w' ⟨path, supplied⟩ -
    refine .pure ⟨w.now, w.draws, .ok outcome, ?_, supplied, rfl⟩
    rwa [List.append_nil]

theorem follows_weighedItems (hm : m.hooks = {}) (items : List Record) (fields : List String)
    (options : BulkOptions) (w : World σ) :
    m.Follows (m.bulkUpsert items fields options) w fun xs result =>
      (∃ parts : List (RecordMapper.Part (Nat × Record) Success),
        Accounts (m.WeighedItem fields) (·.1) itemEntry options (numbered 0 items) [] parts xs
          result) ∧ Supplied result := by
  refine (follows_eachItem (follows_weighedItem hm fields) items w).mono ?_
  rintro xs result ⟨parts, accounts⟩
  refine ⟨⟨parts, accounts⟩, accounts.supplied ?_⟩
  rintro item ys result ⟨now, draws, outcome, -, supplied, rfl⟩
  exact supplied_map supplied _

end Model

/-- **An upsert decides as the update that it would make**, whatever the engine answers. Its test of
the names of a payload tells whether the update would have fields left. A row that is found and has
its key is given as it was found, neither created nor updated and with no update issued, exactly if
nothing is left of the payload without the key, `id` and `created_at`; one without its key is
refused (`Model.Decides`). So no upsert fails for want of fields: neither one of any request, nor
one by a key, nor an item of an upsert in bulk, nor the whole of it. -/
theorem upsert_decides_as_update {σ : Type} {m : Model σ} (hm : m.hooks = {}) (w : World σ) :
    (∀ payload, (m.assignable payload).isEmpty = !m.assigns payload) ∧
    (∀ request, m.Follows (m.upsert request) w fun xs result =>
      m.Weighed w.now w.draws request xs result ∧ Supplied result) ∧
    (∀ id data, m.Follows (m.upsertById id data) w fun xs result =>
      m.WeighedById w.now w.draws id data xs result ∧ Supplied result) ∧
    ∀ items fields options, m.Follows (m.bulkUpsert items fields options) w fun xs result =>
      (∃ parts : List (Part (Nat × Record) Model.Success),
        Accounts (m.WeighedItem fields) (·.1) Model.itemEntry options (numbered 0 items) [] parts xs
          result) ∧ Supplied result :=
  ⟨m.isEmpty_assignable, fun request => Model.follows_weighed hm request w,
    fun id data => Model.follows_weighedById hm id data w,
    fun items fields options => Model.follows_weighedItems hm items fields options w⟩

/-- A table of lodgers, whose engine answers from a script. -/
def lodgers : Model (Recorder Unit) where
  schema := ⟨"lodgers", [.id "number", { name := "room", kind := .string }], {}, 0⟩
  engine := Recorder.engine .silent

/-- A world in which the engine knows one row. -/
def lodgersWorld (row : Record) : World (Recorder Unit) where
  engine := { script := [.ok { rows := [row] }], inner := () }
  now := default

/-- A row of the table. -/
def lodger : Record :=
  .ofEntries [("number", .int 1), ("room", .text "a")]

/-- A row that does not have its key. -/
def unnumberedLodger : Record :=
  .ofEntries [("room", .text "a")]

/-- An upsert of a lodger by the room, with a payload that assigns nothing. -/
def moveIn : UpsertRequest :=
  .explicit [.eq "room" (.text "a")] unnumberedLodger
    (.ofEntries [("created_at", .null), ("number", .int 2), ("id", .int 2)])

theorem lodger_stays :
    ∃ xs result w', Call.Runs lodgers.engine (lodgers.upsert moveIn) (lodgersWorld lodger) xs
        result w' ∧
      lodgers.Weighed default default moveIn xs result ∧
      result = .ok { record := lodger } ∧ Conversation.updates xs = 0 := by
  obtain ⟨xs, result, w', run, weighed, -⟩ :=
    (upsert_decides_as_update (m := lodgers) rfl (lodgersWorld lodger)).2.1 moveIn
  have ends : ((lodgers.upsert moveIn).outcome (lodgersWorld lodger)).1
      = .ok { record := lodger } := by
    decide +kernel
  have silent : Conversation.updates (lodgers.engine.exchanges
      ((lodgers.upsert moveIn).issued (lodgersWorld lodger)) (lodgersWorld lodger).engine) = 0 := by
    decide +kernel
  rw [run.outcome] at ends
  rw [run.issued] at silent
  exact ⟨xs, result, w', run, weighed, ends, silent⟩

/-- A row that is found without its key is refused, though the payload assigns nothing. -/
theorem unnumbered_lodger_refused :
    (lodgers.assignable moveIn.parts.2.2).isEmpty = true ∧
      lodgers.engine.exchanges ((lodgers.upsert moveIn).issued (lodgersWorld unnumberedLodger))
          (lodgersWorld unnumberedLodger).engine
        = [(lodgers.selectOne moveIn.parts.1, .ok { rows := [unnumberedLodger] })] ∧
      ((lodgers.upsert moveIn).outcome (lodgersWorld unnumberedLodger)).1
        = .error (.invalidArgument (.rowWithoutKey "lodgers" "number")) := by
  decide +kernel

end RecordMapper
