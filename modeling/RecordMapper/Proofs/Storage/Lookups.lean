import RecordMapper.Proofs.Model.Assignments
import RecordMapper.Proofs.Model.Rereading

/-!
# Stored values and lookups

Whether a row is found by the value that it was stored with.

* `Model.StoresAs`: the parameter that creations and updates bind for a field with a value.
* `Model.SoughtAs`: the parameter that lookups bind for the condition that a field has a value.
* `Kind.param_encode_iff`: the two agree unless the field is one of documents and the value is no
  document.
* `stored_values_are_found` puts this together, and `stored_text_not_found` is a text in a field of
  documents.
-/

namespace RecordMapper

/-! ## Stored forms -/

theorem Value.isNull_eq_false {v : Value} (some : v ≠ .null) : v.isNull = false :=
  Bool.eq_false_iff.2 fun null => some (isNull_iff.1 null)

namespace Document

theorem length_escapeChar_pos (c : Char) : 0 < (escapeChar c).length := by
  unfold escapeChar
  split <;> first | decide | (split <;> simp)

/-- A text is never what it is written as in a document, which is longer. -/
theorem compact_text_ne (s : String) : (Document.text s).compact ≠ s := by
  have grows : ∀ cs : List Char, cs.length ≤ (cs.flatMap escapeChar).length := by
    intro cs
    induction cs with
    | nil => exact Nat.le_refl 0
    | cons c rest ih =>
      have one := length_escapeChar_pos c
      rw [List.flatMap_cons, List.length_append, List.length_cons]
      omega
  intro same
  have chars := congrArg (fun t : String => t.toList.length) same
  have written : (Document.text s).compact.toList
      = '"' :: (s.toList.flatMap escapeChar ++ ['"']) := by
    rw [compact, String.toList_ofList]
    rfl
  have longer := grows s.toList
  simp only [written, List.length_cons, List.length_append, List.length_nil] at chars
  omega

end Document

/-- **A value is stored as it is sought**, unless it is none of the documents that its field
holds. -/
theorem Kind.param_encode_iff (kind : Kind) {v : Value} (some : v ≠ .null) :
    v.param = (kind.encode v).param ↔ (kind = .json → ∃ d, v = .document d) := by
  by_cases json : kind = .json
  · subst json
    cases v with
    | null => exact absurd rfl some
    | document d => exact iff_of_true rfl fun _ => ⟨d, rfl⟩
    | text s =>
      refine iff_of_false (fun same => ?_) fun h => by simpa using h rfl
      exact Document.compact_text_ne s (Value.text.inj same).symm
    | instant t =>
      refine iff_of_false (fun same => ?_) fun h => by simpa using h rfl
      exact Document.compact_text_ne t.canonical (Value.text.inj same).symm
    | bool b => exact iff_of_false (fun same => by cases same) fun h => by simpa using h rfl
    | int n => exact iff_of_false (fun same => by cases same) fun h => by simpa using h rfl
    | float x => exact iff_of_false (fun same => by cases same) fun h => by simpa using h rfl
  · rw [Kind.encode_of_ne_json json]
    exact iff_of_true rfl fun h => absurd h json

/-! ## Comparisons in statements -/

/-- At one place of a statement a column is compared with a parameter: what stands before that place
has its own parameters, and so has what stands after it. -/
def Statement.Compares (s : Statement) (column : String) (p : Value) : Prop :=
  ∃ before after : Template, s.sql = before.sql ++ (column ++ " = ?") ++ after.sql ∧
    s.params = before.params.map Value.param ++ p :: after.params.map Value.param

/-- The statement of a draft compares what one of its conditions compares. -/
theorem Draft.compares {d : Draft} {t : Template} (h : d.template = .ok t) {column : String}
    {v : Value} (some : v ≠ .null) (mem : .eq column v ∈ d.conditions) :
    t.statement.wire.Compares column v.param := by
  obtain ⟨before, after, split⟩ := List.append_of_mem mem
  have slots : d.slots = (d.assignments ++ before.map Condition.template)
      ++ (Condition.eq column v).template :: (after.map Condition.template
        ++ d.having.map Condition.template) := by
    simp [slots, split]
  obtain ⟨l, r, rfl, -, -⟩ := (Draft.lays h).split slots
  have null := Value.isNull_eq_false some
  have text : " = ?" = " " ++ ("=" ++ (" " ++ "?")) := rfl
  refine ⟨l, r, ?_, ?_⟩
  · simp only [Statement.wire, Template.statement, Condition.template_eq null, Template.sql_append,
      Template.sql_raw, Template.sql_bind, text, String.append_assoc]
  · simp [Statement.wire, Template.statement, Condition.template_eq null]

namespace Model

variable {σ : Type} {m : Model σ} {f : Field} {v p : Value}

/-! ## What is bound -/

/-- Creations and updates bind a parameter for a field with a value. -/
structure StoresAs (m : Model σ) (f : Field) (v p : Value) : Prop where
  /-- The insertion of a record with the value. -/
  inserted : ∀ data w s, data.get? f.name = some v → (m.create data).first? w = some s →
    ∃ row, s = .insertOf m.table row ∧ (row.get? f.name).map Value.param = some p
  /-- The assignment of a payload with the value, if the field is taken from it. -/
  assigned : ∀ payload filter w s, payload.get? f.name = some v → ¬ m.Spares f.name →
    (m.schema.options.timestamps = true → f.name ≠ updatedAt) →
    (m.update payload filter).first? w = some s →
      s = .updateRows m.table (m.assignedTo w.now payload) filter ∧
        (f.name, p) ∈ m.assignedTo w.now payload

theorem storesAs_encode (hm : m.hooks = {}) (hf : m.schema.field? f.name = some f)
    (some : v ≠ .null) : m.StoresAs f v (f.kind.encode v).param where
  inserted data w s given h := by
    rw [first?_create hm h]
    refine ⟨_, Insert.wire_one_eq m.table _, ?_⟩
    have isSet : data.isUnset f.name = false :=
      Record.isUnset_eq_false.2 ⟨v, given, Value.isNull_eq_false some⟩
    rw [Schema.get?_encode_field hf, Schema.get?_complete m.schema w.now w.draws isSet, given]
    rfl
  assigned payload filter w s given taken stamped h := by
    obtain ⟨t, ht, rfl⟩ := first?_update hm h
    refine ⟨?_, ?_⟩
    · rw [Query.wire_update (updateTemplate_ok ht), assignedTo_eq]
      rfl
    · have stored : (m.schema.encode (m.stamped w.now (m.assignable payload))).get? f.name
          = Option.some (f.kind.encode v) := by
        rw [Schema.get?_encode_field hf, get?_stamped stamped, get?_assignable taken, given]
        rfl
      rw [← assignedTo_eq]
      exact List.mem_map.2 ⟨_, Record.get?_eq_some_iff.1 stored, rfl⟩

/-! ## What is looked for -/

/-- Lookups bind a parameter for the condition that a field has a value. -/
structure SoughtAs (m : Model σ) (f : Field) (v p : Value) : Prop where
  found : ∀ options w s, .eq f.name v ∈ options.filter →
    (m.findAll options).first? w = some s → s.Compares f.name p
  counted : ∀ filter w s, .eq f.name v ∈ filter → (m.count filter).first? w = some s →
    s.Compares f.name p
  updated : ∀ payload filter w s, .eq f.name v ∈ filter →
    (m.update payload filter).first? w = some s → s.Compares f.name p
  deleted : ∀ filter w s, .eq f.name v ∈ filter → (m.delete filter).first? w = some s →
    s.Compares f.name p
  /-- The lookup of an upsert by fields of a record, of which this is one. -/
  upserted : ∀ data unique w s, f.name ∈ unique → data.get? f.name = some v →
    (m.upsert (.byFields data unique)).first? w = some s → s.Compares f.name p

theorem Looked.said {s : Statement} {xs : Conversation} {result : Except Error (Option Record)}
    (h : m.Looked s xs result) : ∃ answer, xs = [(s, answer)] := by
  cases h with
  | rejected r => exact ⟨_, rfl⟩
  | answered reply => exact ⟨_, rfl⟩

/-- Finding or creating begins with the lookup. -/
theorem Sought.begins {lookup : Statement} {creating : Conversation → Except Error Record → Prop}
    {going : Record → Conversation → Except Error UpsertOutcome → Prop} {xs : Conversation}
    {result : Except Error UpsertOutcome} (h : m.Sought lookup creating going xs result) :
    ∃ answer rest, xs = (lookup, answer) :: rest := by
  cases h with
  | unseen looked | found looked _ | created looked _ | failed looked _ _
  | unseenAgain looked _ _ _ | stands looked _ _ _ | lost looked _ _ _ _ =>
    obtain ⟨answer, rfl⟩ := looked.said
    exact ⟨answer, _, rfl⟩

theorem first?_upsert (hm : m.hooks = {}) {request : UpsertRequest} {w : World σ} {s : Statement}
    (h : (m.upsert request).first? w = some s) : s = m.selectOne request.parts.1 := by
  obtain ⟨xs, result, w', run, path⟩ := follows_upsert hm request w
  rw [Call.first?, run.statements] at h
  unfold Upserted at path
  cases path with
  | refused _ => cases h
  | sought _ seeking =>
    obtain ⟨answer, rest, rfl⟩ := seeking.begins
    exact (Option.some.inj h).symm

theorem soughtAs_param (hm : m.hooks = {}) (some : v ≠ .null) : m.SoughtAs f v v.param where
  found options w s mem h := by
    obtain ⟨q, hq, rfl⟩ := first?_findAll hm h
    rw [queryFor_ok hq]
    exact Draft.compares (d := .find _) rfl some (List.mem_append_left _ mem)
  counted filter w s mem h := by
    obtain ⟨q, hq, rfl⟩ := first?_count h
    rw [queryFor_ok hq]
    exact Draft.compares (d := .count _) rfl some (List.mem_append_left _ mem)
  updated payload filter w s mem h := by
    obtain ⟨t, ht, rfl⟩ := first?_update hm h
    exact Draft.compares (d := .update _ _) (updateTemplate_ok ht) some
      (List.mem_append_right _ mem)
  deleted filter w s mem h := by
    rw [first?_delete hm h]
    exact Draft.compares (d := .delete _) rfl some (List.mem_append_right _ mem)
  upserted data unique w s mem given h := by
    rw [first?_upsert hm h]
    refine Draft.compares (d := .find _) rfl some (List.mem_append_left _ ?_)
    refine List.mem_filterMap.2 ⟨f.name, mem, ?_⟩
    have null := Value.isNull_eq_false some
    simp [given, null]

end Model

/-! ## Stored values are found -/

/-- The condition that a column has a value is true of a row that holds the parameter which the
condition binds, if the engine takes the parameter for equal to itself. -/
theorem Condition.truth_eq {column : String} {v : Value} (some : v ≠ .null)
    {compares : Predicate.Compares} {row : String → Value} (held : row column = v.param)
    (equal : compares .eq v.param v.param = Option.some true) :
    Truth.all ((Filter.asked [.eq column v]).map (Predicate.truth compares row))
      = Option.some true := by
  have null := Value.isNull_eq_false some
  have asked : Filter.asked [.eq column v] = [.compare column .eq v.param] := by
    cases v with
    | null => exact absurd rfl some
    | _ => rfl
  rw [asked, List.map_singleton, Predicate.truth, held, Predicate.compared, Value.isNull_param,
    null, Bool.or_false, if_neg (by decide), equal]
  rfl

/-- **Stored values are found**, unless they are other than documents and stored as documents.
Without hooks, creations and updates bind a field's value in its stored form, and lookups bind the
value of a condition as it is: in finding, counting, updating and deleting rows, and where an upsert
looks for a row by its fields. The two parameters are the same exactly if the field is not one of
documents or the value is a document; then the condition that the field has this value is true of
every row in which it was stored. -/
theorem stored_values_are_found {σ : Type} {m : Model σ} (hm : m.hooks = {}) {table : String}
    {fields : List Field} {options : SchemaOptions}
    (hs : Schema.declare table fields options = .ok m.schema) {f : Field}
    (hf : f ∈ m.schema.fields) {v : Value} (some : v ≠ .null) :
    m.StoresAs f v (f.kind.encode v).param ∧ m.SoughtAs f v v.param ∧
      (v.param = (f.kind.encode v).param ↔ (f.kind = .json → ∃ d, v = .document d)) ∧
      ((f.kind = .json → ∃ d, v = .document d) →
        ∀ (compares : Predicate.Compares) (row : String → Value),
          row f.name = (f.kind.encode v).param → compares .eq v.param v.param = Option.some true →
          Truth.all ((Filter.asked [.eq f.name v]).map (Predicate.truth compares row))
            = Option.some true) := by
  have same := f.kind.param_encode_iff some
  refine ⟨Model.storesAs_encode hm (Schema.field?_of_declare hs hf) some,
    Model.soughtAs_param hm some, same, fun document compares row held equal => ?_⟩
  exact Condition.truth_eq some (held.trans (same.2 document).symm) equal

/-- A table of labels, each a document. -/
def labels : Model Unit where
  schema := ⟨"labels", [.id "id", { name := "label", kind := .json, unique := true }], {}, 0⟩
  engine := .silent

theorem label_is_found :
    labels.hooks = {} ∧ Schema.declare "labels" labels.schema.fields {} = .ok labels.schema ∧
      { name := "label", kind := .json, unique := true } ∈ labels.schema.fields ∧
      Value.document (.array [.bool true]) ≠ .null ∧
      labels.StoresAs { name := "label", kind := .json, unique := true }
        (.document (.array [.bool true])) (.text "[true]") ∧
      labels.SoughtAs { name := "label", kind := .json, unique := true }
        (.document (.array [.bool true])) (.text "[true]") := by
  have declared : Schema.declare "labels" labels.schema.fields {} = .ok labels.schema := rfl
  have member : { name := "label", kind := .json, unique := true } ∈ labels.schema.fields :=
    List.mem_cons_of_mem _ List.mem_cons_self
  obtain ⟨stores, sought, -, -⟩ := stored_values_are_found (m := labels) rfl declared member
    (v := .document (.array [.bool true])) (by decide)
  exact ⟨rfl, declared, member, by decide, stores, sought⟩

/-- **A text in a field of documents is not found.** It is inserted with its quotes and looked for
without them, also where an upsert looks for the row that it has just inserted. -/
theorem stored_text_not_found :
    Schema.declare "labels" labels.schema.fields {} = .ok labels.schema ∧
      labels.schema.validate .create (.ofEntries [("label", .text "a")]) = .ok () ∧
      (labels.create (.ofEntries [("label", .text "a")])).issued ⟨(), default, [], []⟩
        = [⟨"INSERT INTO labels (label) VALUES (?)", [.text "\"a\""]⟩] ∧
      (labels.findAll { filter := [.eq "label" (.text "a")] }).issued ⟨(), default, [], []⟩
        = [⟨"SELECT * FROM labels WHERE label = ?", [.text "a"]⟩] ∧
      (labels.upsert (.byFields (.ofEntries [("label", .text "a")]) ["label"])).issued
          ⟨(), default, [], []⟩
        = [⟨"SELECT * FROM labels WHERE label = ? LIMIT 1", [.text "a"]⟩,
          ⟨"INSERT INTO labels (label) VALUES (?)", [.text "\"a\""]⟩] ∧
      ¬ ∀ (f : Field) (v : Value), f ∈ labels.schema.fields → v ≠ .null → f.check v = [] →
        v.param = (f.kind.encode v).param := by
  refine ⟨rfl, by decide +kernel, by decide +kernel, by decide +kernel, by decide +kernel,
    fun always => ?_⟩
  have same := always { name := "label", kind := .json, unique := true } (.text "a")
    (List.mem_cons_of_mem _ List.mem_cons_self) (by decide) rfl
  exact absurd same (by decide)

end RecordMapper
