import RecordMapper.Proofs.Bulk.Operations

/-!
# Items in turn

Creating, updating or upserting many records is a plain loop over them: the chunks leave no mark.

* `ItemOperation` are the three operations with their bulk forms, and `Model.inTurn` is the loop
  over the items, which counts their places as it goes.
* `Model.Turns` are the results of an operation on items one after another, and `failuresFrom` are
  the failures among them.
* `Model.inTurn_collecting` and `Model.inTurn_stopping` are what the loop makes of the results, as
  failures are collected or end it.
* `bulk_goes_in_turn` puts this together for the bulk operations.
-/

namespace RecordMapper

namespace Model

variable {σ : Type}

open Call

/-! ## The operations and the loop -/

/-- An operation that has a bulk form. -/
inductive ItemOperation where
  /-- Creates the item. -/
  | create
  /-- Updates the record whose key the item carries. -/
  | update
  /-- Updates the record that agrees with the item in some fields, or creates the item. -/
  | upsert (fields : List String)

namespace ItemOperation

/-- The operation on many items. -/
def bulk (m : Model σ) (items : List Record) (options : BulkOptions) :
    ItemOperation → Call σ BulkReport
  | .create => m.bulkCreate items options
  | .update => m.bulkUpdate items options
  | .upsert fields => m.bulkUpsert items fields options

/-- The operation on one item. An update fails without the engine where the item has no key, or has
null for it, and it fails where the engine has no row of that key. -/
def single (m : Model σ) : ItemOperation → Record → Call σ Success
  | .create, item => do
    let _ ← m.create item
    return .created
  | .update, item =>
    match item.get? m.schema.keyName with
    | none => throw (.invalidArgument (.itemWithoutKey m.table m.schema.keyName))
    | some id =>
      if id.isNull then throw (.invalidArgument (.itemWithoutKey m.table m.schema.keyName))
      else do
        match ← m.updateById id (item.erase m.schema.keyName) with
        | some _ => return .updated
        | none => throw (.invalidArgument (.noSuchRecord m.table m.schema.keyName id))
  | .upsert fields, item => do
    let outcome ← m.upsert (.byFields item fields)
    return if outcome.created then .created else .updated

end ItemOperation

/-- Runs an operation on items one after another, counting their places from `place`. A failure is
added to the report, or else ends the loop. -/
def inTurn (collects : Bool) (op : Record → Call σ Success) :
    Nat → BulkReport → List Record → Call σ BulkReport
  | _, report, [] => pure report
  | place, report, item :: rest => do
    match ← Call.attempt (op item) with
    | .ok success => inTurn collects op (place + 1) (success.count report) rest
    | .error e =>
      if collects then
        inTurn collects op (place + 1)
          { report with errors := report.errors ++ [⟨place, e.message, some item⟩] } rest
      else throw (.bulkAborted place report.completed e)

/-- Going through numbered items with an account of each is the loop. -/
theorem foldlM_work (options : BulkOptions) (op : Record → Call σ Success) (items : List Record) :
    ∀ place report, (numbered place items).foldlM
      (work options (fun item => op item.2) (fun _ success => success.count) (·.1) itemEntry)
        report = inTurn options.continueOnError op place report items := by
  induction items with
  | nil => exact fun place report => rfl
  | cons item rest ih =>
    intro place report
    rw [numbered_cons, List.foldlM_cons, inTurn, work, bind_assoc]
    refine bind_congr fun ends => ?_
    cases ends with
    | ok success => exact ih (place + 1) (success.count report)
    | error e =>
      dsimp only
      rw [BulkReport.fail]
      by_cases collects : options.continueOnError = true
      · rw [if_pos collects, if_pos collects]
        exact ih (place + 1) _
      · rw [if_neg collects, if_neg collects]
        rfl

/-- The update of an item, by the cases of its key. -/
theorem updateItem_eq (m : Model σ) : m.updateItem = ItemOperation.update.single m := by
  funext item
  rcases key : item.get? m.schema.keyName with _ | id
  · simp only [updateItem, ItemOperation.single, key, Option.bind_none]
  · cases null : id.isNull with
    | true =>
      simp only [updateItem, ItemOperation.single, key, Option.bind_some, Value.nonNull?, null,
        if_true]
    | false =>
      let asked : Call σ Success := do
        let found ← m.updateById id (item.erase m.schema.keyName)
        found.elim (throw (.invalidArgument (.noSuchRecord m.table m.schema.keyName id)))
          fun _ => return .updated
      have given : id.nonNull? = some id := if_neg (by simp [null])
      trans asked
      · unfold updateItem
        rw [key, Option.bind_some, given]
        exact bind_congr fun found => by cases found <;> rfl
      · simp only [ItemOperation.single, key, null, Bool.false_eq_true, if_false]
        exact bind_congr fun found => by cases found <;> rfl

/-- **A bulk operation is the loop** over its items. -/
theorem ItemOperation.bulk_eq (m : Model σ) (each : ItemOperation) (items : List Record)
    (options : BulkOptions) :
    each.bulk m items options = inTurn options.continueOnError (each.single m) 0 {} items := by
  rw [← foldlM_work options (each.single m) items 0 {}]
  cases each with
  | create => exact eachItem_eq options _ _ items
  | update =>
    rw [← updateItem_eq]
    exact eachItem_eq options _ _ items
  | upsert fields => exact eachItem_eq options _ _ items

/-! ## Results -/

/-- The results of an operation on items one after another, whether the ones before fail or not. -/
inductive Turns (op : Record → Call σ Success) :
    List Record → World σ → List (Except Error Success) → World σ → Prop
  /-- No item. -/
  | nil {w : World σ} : Turns op [] w [] w
  /-- An item, and the others in the world that it leaves. -/
  | cons {item : Record} {rest : List Record} {w w' w'' : World σ}
      {result : Except Error Success} {results : List (Except Error Success)}
      (ends : (op item).outcome w = (result, w')) (others : Turns op rest w' results w'') :
      Turns op (item :: rest) w (result :: results) w''

variable {op : Record → Call σ Success} {items : List Record} {w w' : World σ}
  {results : List (Except Error Success)}

theorem Turns.length (h : Turns op items w results w') : results.length = items.length := by
  induction h with
  | nil => rfl
  | cons _ _ ih => rw [List.length_cons, List.length_cons, ih]

/-- Whether an item succeeded, and counts as `success`. -/
def countsAs (success : Success) : Except Error Success → Bool
  | .ok s => s == success
  | .error _ => false

/-- The report with the successes among some results counted. -/
def tally (report : BulkReport) (results : List (Except Error Success)) : BulkReport :=
  { report with
    created := report.created + results.countP (countsAs .created)
    updated := report.updated + results.countP (countsAs .updated) }

theorem tally_ok (report : BulkReport) (success : Success)
    (results : List (Except Error Success)) :
    tally report (.ok success :: results) = tally (success.count report) results := by
  cases success <;> simp [tally, Success.count, countsAs, Nat.add_assoc, Nat.add_comm 1]

theorem tally_error (report : BulkReport) (e : Error) (results : List (Except Error Success)) :
    tally report (.error e :: results) = tally report results := by
  simp [tally, countsAs]

/-- The failures among the results of items whose places are counted from `place`. -/
def failuresFrom (place : Nat) : List Record → List (Except Error Success) → List BulkFailure
  | item :: items, .error e :: results =>
    ⟨place, e.message, some item⟩ :: failuresFrom (place + 1) items results
  | _ :: items, .ok _ :: results => failuresFrom (place + 1) items results
  | _, _ => []

/-- Every item is counted once, or is a failure. -/
theorem Turns.counted (h : Turns op items w results w') :
    ∀ place, results.countP (countsAs .created) + results.countP (countsAs .updated)
      + (failuresFrom place items results).length = items.length := by
  induction h with
  | nil => exact fun place => rfl
  | @cons item rest _ _ _ result results _ _ ih =>
    intro place
    have others := ih (place + 1)
    rcases result with e | success
    · simp only [countsAs, List.countP_cons, failuresFrom, List.length_cons]
      simp only [Bool.false_eq_true, if_false]
      omega
    · have one : [Except.ok success].countP (countsAs .created)
          + [Except.ok success].countP (countsAs .updated) = 1 := by
        cases success <;> rfl
      rw [← List.singleton_append, List.countP_append, List.countP_append, List.singleton_append]
      simp only [failuresFrom, List.length_cons]
      omega

/-- Failures come in the order of their places, each at or after the first place. -/
theorem le_of_mem_failuresFrom {f : BulkFailure} (items : List Record) :
    ∀ {place results}, f ∈ failuresFrom place items results → place ≤ f.index := by
  induction items with
  | nil => exact fun h => by simp [failuresFrom] at h
  | cons item rest ih =>
    intro place results h
    rcases results with _ | ⟨e | success, results⟩
    · simp [failuresFrom] at h
    · rcases List.mem_cons.1 h with rfl | later
      · exact Nat.le_refl _
      · exact Nat.le_of_succ_le (ih later)
    · exact Nat.le_of_succ_le (ih h)

theorem pairwise_failuresFrom (items : List Record) :
    ∀ place results, ((failuresFrom place items results).map (·.index)).Pairwise (· < ·) := by
  induction items with
  | nil => exact fun place results => by simp [failuresFrom]
  | cons item rest ih =>
    intro place results
    rcases results with _ | ⟨e | success, results⟩
    · simp [failuresFrom]
    · refine List.pairwise_cons.2 ⟨fun later hl => ?_, ih (place + 1) results⟩
      obtain ⟨f, hf, rfl⟩ := List.mem_map.1 hl
      exact le_of_mem_failuresFrom rest hf
    · exact ih (place + 1) results

/-- **What is listed is what failed**, with the item and its own error. -/
theorem Turns.listed (h : Turns op items w results w') :
    ∀ (place i : Nat) (message : String) (data : Option Record),
      (⟨place + i, message, data⟩ : BulkFailure) ∈ failuresFrom place items results ↔
        ∃ item e, items[i]? = some item ∧ results[i]? = some (.error e) ∧
          message = e.message ∧ data = some item := by
  induction h with
  | nil => simp [failuresFrom]
  | @cons item rest _ _ _ result results _ _ ih =>
    intro place i message data
    have later := ih (place + 1)
    cases i with
    | zero =>
      -- No failure of a later item has this place.
      have first : ∀ f ∈ failuresFrom (place + 1) rest results, f.index ≠ place + 0 :=
        fun f hf => Nat.ne_of_gt (le_of_mem_failuresFrom rest hf)
      rcases result with e | success
      · simp only [failuresFrom, List.mem_cons, List.getElem?_cons_zero, Option.some.injEq]
        constructor
        · rintro (same | listed)
          · cases same
            exact ⟨item, e, rfl, rfl, rfl, rfl⟩
          · exact absurd rfl (first _ listed)
        · rintro ⟨_, _, rfl, same, rfl, rfl⟩
          cases same
          exact .inl rfl
      · refine iff_of_false (fun listed => first _ listed rfl) ?_
        rintro ⟨_, _, _, failed, _⟩
        simp at failed
    | succ i =>
      have shifted : place + (i + 1) = place + 1 + i := by omega
      rw [List.getElem?_cons_succ, List.getElem?_cons_succ, ← later i, shifted]
      rcases result with e | success
      · simp only [failuresFrom, List.mem_cons, BulkFailure.mk.injEq]
        exact or_iff_right fun same => by omega
      · rfl

/-! ## What the loop makes of the results -/

/-- **Failures are collected**: the loop goes through all items, whatever fails. -/
theorem inTurn_collecting (op : Record → Call σ Success) (items : List Record) :
    ∀ place report w, ∃ results w', Turns op items w results w' ∧
      (inTurn true op place report items).outcome w = (.ok { tally report results with
        errors := report.errors ++ failuresFrom place items results }, w') := by
  induction items with
  | nil =>
    intro place report w
    refine ⟨[], w, .nil, ?_⟩
    rw [inTurn, outcome_pure]
    simp [tally, failuresFrom]
  | cons item rest ih =>
    intro place report w
    rcases ends : (op item).outcome w with ⟨result, w'⟩
    have attempted : outcome (attempt (op item)) w = (.ok result, w') := by
      rw [outcome_attempt, ends]
    rw [inTurn, outcome_bind_ok attempted]
    cases result with
    | ok success =>
      obtain ⟨results, w'', others, goes⟩ := ih (place + 1) (success.count report) w'
      refine ⟨.ok success :: results, w'', .cons ends others, goes.trans ?_⟩
      rw [tally_ok, failuresFrom]
      cases success <;> rfl
    | error e =>
      obtain ⟨results, w'', others, goes⟩ := ih (place + 1)
        { report with errors := report.errors ++ [⟨place, e.message, some item⟩] } w'
      refine ⟨.error e :: results, w'', .cons ends others, goes.trans ?_⟩
      rw [tally_error, failuresFrom, List.append_assoc]
      rfl

/-- Results that are all successes. -/
def AllSucceed (results : List (Except Error Success)) : Prop :=
  ∀ result ∈ results, ∃ success, result = .ok success

theorem AllSucceed.failuresFrom_eq (h : AllSucceed results) (items : List Record) :
    ∀ place, failuresFrom place items results = [] := by
  induction results generalizing items with
  | nil => intro place; cases items <;> rfl
  | cons result results ih =>
    intro place
    obtain ⟨⟨success, rfl⟩, others⟩ := List.forall_mem_cons.1 h
    cases items with
    | nil => rfl
    | cons item rest => exact ih others rest (place + 1)

/-- The first failure ends the loop, at its own place and with the error of its item. -/
theorem inTurn_stopping (op : Record → Call σ Success) (items : List Record) :
    ∀ place report w,
      (∃ results w', Turns op items w results w' ∧ AllSucceed results ∧
        (inTurn false op place report items).outcome w = (.ok (tally report results), w')) ∨
      ∃ done item rest results e w' w'', items = done ++ item :: rest ∧
        Turns op done w results w' ∧ AllSucceed results ∧
        (op item).outcome w' = (.error e, w'') ∧
        (inTurn false op place report items).outcome w = (.error (.bulkAborted
          (place + done.length)
          (UInt64.ofNat (report.created + report.updated + done.length) + report.deleted) e),
          w'') := by
  induction items with
  | nil =>
    intro place report w
    refine .inl ⟨[], w, .nil, by simp [AllSucceed], ?_⟩
    rw [inTurn, outcome_pure]
    simp [tally]
  | cons item rest ih =>
    intro place report w
    rcases ends : (op item).outcome w with ⟨result, w'⟩
    have attempted : outcome (attempt (op item)) w = (.ok result, w') := by
      rw [outcome_attempt, ends]
    rw [inTurn, outcome_bind_ok attempted]
    cases result with
    | ok success =>
      rcases ih (place + 1) (success.count report) w' with
        ⟨results, w'', others, all, goes⟩ |
        ⟨done, last, later, results, e, before, after, rfl, others, all, fails, goes⟩
      · refine .inl ⟨.ok success :: results, w'', .cons ends others,
          List.forall_mem_cons.2 ⟨⟨success, rfl⟩, all⟩, ?_⟩
        rw [tally_ok]
        exact goes
      · refine .inr ⟨item :: done, last, later, .ok success :: results, e, before, after, rfl,
          .cons ends others, List.forall_mem_cons.2 ⟨⟨success, rfl⟩, all⟩, fails, goes.trans ?_⟩
        have one : (success.count report).created + (success.count report).updated
            = report.created + report.updated + 1 := by
          cases success <;> simp only [Success.count] <;> omega
        have same : (success.count report).deleted = report.deleted := by cases success <;> rfl
        have counted : report.created + report.updated + 1 + done.length
            = report.created + report.updated + (item :: done).length := by
          rw [List.length_cons]
          omega
        have placed : place + 1 + done.length = place + (item :: done).length := by
          rw [List.length_cons]
          omega
        rw [one, same, counted, placed]
    | error e =>
      exact .inr ⟨[], item, rest, [], e, w, w', rfl, .nil, by simp [AllSucceed], ends, rfl⟩

end Model

/-! ## Bulk operations -/

/-- **Bulk operations go in turn.** Creating, updating and upserting many records is a loop over the
items that knows nothing of chunks. Where failures are collected, the operation on the items one
after another has results of which every success is counted once and every failure is listed once,
with its place, its own message and its item, in the order of places; together they are all items.
Else the operation ends at the first item that fails, with its place, the number of the items
before it, which all succeeded, and its own error, in the world that this item leaves. -/
theorem bulk_goes_in_turn {σ : Type} (m : Model σ) (each : Model.ItemOperation)
    (items : List Record) (options : BulkOptions) (w : World σ) :
    each.bulk m items options
      = Model.inTurn options.continueOnError (each.single m) 0 {} items ∧
    (options.continueOnError = true → ∃ results w' report,
      Model.Turns (each.single m) items w results w' ∧
      (each.bulk m items options).outcome w = (.ok report, w') ∧
      report.created = results.countP (Model.countsAs .created) ∧
      report.updated = results.countP (Model.countsAs .updated) ∧ report.deleted = 0 ∧
      (∀ f, f ∈ report.errors ↔ ∃ item e, items[f.index]? = some item ∧
        results[f.index]? = some (.error e) ∧ f.message = e.message ∧ f.data = some item) ∧
      (report.errors.map (·.index)).Pairwise (· < ·) ∧
      report.created + report.updated + report.errors.length = items.length) ∧
    (options.continueOnError = false →
      (∃ results w' report, Model.Turns (each.single m) items w results w' ∧
        Model.AllSucceed results ∧ (each.bulk m items options).outcome w = (.ok report, w') ∧
        report.created = results.countP (Model.countsAs .created) ∧
        report.updated = results.countP (Model.countsAs .updated) ∧ report.deleted = 0 ∧
        report.errors = [] ∧ report.created + report.updated = items.length) ∨
      ∃ done item rest results e w' w'', items = done ++ item :: rest ∧
        Model.Turns (each.single m) done w results w' ∧ Model.AllSucceed results ∧
        (each.single m item).outcome w' = (.error e, w'') ∧
        (each.bulk m items options).outcome w
          = (.error (.bulkAborted done.length (UInt64.ofNat done.length) e), w'')) := by
  have loop := each.bulk_eq m items options
  refine ⟨loop, fun collects => ?_, fun stops => ?_⟩
  · obtain ⟨results, w', turns, goes⟩ := Model.inTurn_collecting (each.single m) items 0 {} w
    have counted := turns.counted 0
    rw [loop, collects]
    refine ⟨results, w', _, turns, goes, Nat.zero_add _, Nat.zero_add _, rfl, fun f => ?_, ?_, ?_⟩
    · have listed := turns.listed 0 f.index f.message f.data
      rw [Nat.zero_add] at listed
      exact listed
    · exact Model.pairwise_failuresFrom items 0 results
    · simpa [Model.tally] using counted
  · rw [loop, stops]
    rcases Model.inTurn_stopping (each.single m) items 0 {} w with
      ⟨results, w', turns, all, goes⟩ |
      ⟨done, item, rest, results, e, w', w'', rfl, turns, all, fails, goes⟩
    · have counted := turns.counted 0
      rw [all.failuresFrom_eq items 0] at counted
      refine .inl ⟨results, w', _, turns, all, goes, Nat.zero_add _, Nat.zero_add _, rfl, rfl, ?_⟩
      simpa [Model.tally] using counted
    · refine .inr ⟨done, item, rest, results, e, w', w'', rfl, turns, all, fails, ?_⟩
      simpa using goes

end RecordMapper
