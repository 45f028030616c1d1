import RecordMapper.Proofs.Model.Defaults

/-!
# Stamps of managed fields

The time that a schema writes into its managed fields is checked as any other value.

* `Schema.takesText_of_managed`: the fields that are added to a declaration take the time; one that
  was declared under a managed name keeps its kind and constraints and need not.
* `Schema.validate_stamp`: a change that stamps a field is valid if the field takes the time and the
  rest is valid. From this come `Model.follows_update_stamp` and `Model.follows_softDelete_stamp`.
* `Schema.Refuses`: why a managed field that was left unset is refused in a creation.
* `stamps_are_checked` puts this together.
-/

namespace RecordMapper

namespace Schema

variable {table : String} {declared : List Field} {options : SchemaOptions} {s : Schema}
  {f : Field} {now : Instant} {draws : Draws} {r : Record} {held : Option Value}

/-! ## Managed fields -/

/-- A schema writes the time into fields of this name. -/
def Manages (s : Schema) (name : String) : Prop :=
  s.stamps name = true ∨ s.options.softDelete = true ∧ name = deletedAt

/-- **The fields that are added to a declaration take the time.** -/
theorem takesText_of_managed (managed : f ∈ managedFields options declared)
    (year : 0 ≤ now.date.year ∧ now.date.year ≤ 9999) : f.TakesText now := by
  have plain : f.kind = .date ∧ f.constraints = [] := by
    have wanted := (List.mem_filter.1 managed).1
    unfold wantedFields at wanted
    rcases List.mem_append.1 wanted with stamped | marked
    · split at stamped
      · simp only [List.mem_cons, List.not_mem_nil, or_false] at stamped
        rcases stamped with rfl | rfl <;> exact ⟨rfl, rfl⟩
      · cases stamped
    · split at marked
      · obtain rfl := List.mem_singleton.1 marked
        exact ⟨rfl, rfl⟩
      · cases marked
  exact Field.takesText_of_plain plain.1 plain.2 year

theorem hasField_managed (hs : declare table declared options = .ok s) {name : String}
    (managed : s.Manages name) : s.hasField name = true := by
  have there : name ∈ s.fields.map Field.name := by
    rcases managed with stamped | ⟨soft, rfl⟩
    · exact stamped_of_declare hs stamped
    · obtain ⟨-, all, rfl⟩ := eq_of_declare hs
      have wanted : { name := deletedAt, kind := .date } ∈ wantedFields s.options := by
        simp [wantedFields, soft]
      rw [all]
      exact name_mem_withManaged wanted declared
  obtain ⟨f, hf, rfl⟩ := List.mem_map.1 there
  exact hasField_of_mem hf

/-! ## Stamped changes -/

/-- **A change that stamps a field** is valid if the field takes the time and the rest is valid. -/
theorem validate_stamp {name : String} (declared : s.hasField name = true) :
    s.validate .partialUpdate (r.set name (.stamp now)) = .ok () ↔
      (∀ f ∈ s.fields, f.name = name → f.TakesText now) ∧
        s.validate .partialUpdate (r.erase name) = .ok () := by
  have takes : (∀ f ∈ s.fields, f.name = name → f.check (.stamp now) = []) ↔
      ∀ f ∈ s.fields, f.name = name → f.TakesText now :=
    forall₃_congr fun f _ _ => Field.check_canonical
  rw [validate_set declared (by simp [Value.stamp]), takes]

theorem validate_empty : s.validate .partialUpdate .empty = .ok () :=
  validate_eq_ok.2 ⟨fun _ _ => fieldViolations_absent rfl, nofun⟩

/-! ## Managed fields that are left unset -/

/-- What a field that was left unset takes. -/
inductive Takes (s : Schema) (f : Field) (now : Instant) (draws : Draws) : Option Value → Prop
  /-- Its default, unless that is null. -/
  | default {v : Value} (drawn : (f.draw? now draws).1 = some v) (given : v ≠ .null) :
    Takes s f now draws (some v)
  /-- Or else the fallback of its kind. -/
  | fallback {v : Value} (undrawn : (f.draw? now draws).1.all Value.isNull = true)
    (taken : f.fallback? now = some v) (given : v ≠ .null) : Takes s f now draws (some v)
  /-- Or else the time, if it is one of the managed timestamps. -/
  | stamp (undrawn : (f.draw? now draws).1.all Value.isNull = true)
    (managed : s.stamps f.name = true) : Takes s f now draws (some (.stamp now))
  /-- Or else nothing. -/
  | nothing {left : Option Value} (undrawn : (f.draw? now draws).1.all Value.isNull = true)
    (unmanaged : s.stamps f.name = false) (none : left.all Value.isNull = true) :
    Takes s f now draws left

theorem completed_of_filled {v : Value} (filled : f.filled now draws held = some v)
    (given : v ≠ .null) : s.completed f now draws held = some v := by
  have some : v.isNull = false := by simpa [← Bool.not_eq_true] using given
  simp [completed, filled, some]

theorem takes_of_bare (undrawn : (f.draw? now draws).1.all Value.isNull = true)
    (bare : (f.filled now draws held).all Value.isNull = true) :
    s.Takes f now draws (s.completed f now draws held) := by
  unfold completed
  cases managed : s.stamps f.name with
  | false => exact .nothing undrawn managed bare
  | true =>
    simp only [bare, Bool.and_self, if_true]
    exact .stamp undrawn managed

/-- **A field that was left unset is completed to what it takes.** -/
theorem takes_completed (s : Schema) (f : Field) (now : Instant) (draws : Draws)
    (unset : held.all Value.isNull = true) :
    s.Takes f now draws (s.completed f now draws held) := by
  have filled : f.filled now draws held
      = ((f.draw? now draws).1.or (f.fallback? now)).or held := if_pos unset
  rcases drawn : (f.draw? now draws).1 with _ | v
  · have undrawn : (f.draw? now draws).1.all Value.isNull = true := by
      rw [drawn]
      rfl
    rw [drawn, Option.none_or] at filled
    rcases taken : f.fallback? now with _ | v
    · refine takes_of_bare undrawn ?_
      rwa [filled, taken, Option.none_or]
    · rw [taken, Option.some_or] at filled
      by_cases null : v = .null
      · exact takes_of_bare undrawn (by rw [filled, null]; rfl)
      · rw [completed_of_filled filled null]
        exact .fallback undrawn taken null
  · rw [drawn, Option.some_or, Option.some_or] at filled
    by_cases null : v = .null
    · exact takes_of_bare (by rw [drawn, null]; rfl) (by rw [filled, null]; rfl)
    · rw [completed_of_filled filled null]
      exact .default drawn null

/-- Why a managed field that was left unset is refused in a creation. -/
inductive Refuses (s : Schema) (f : Field) (now : Instant) (draws : Draws)
    (held : Option Value) : Prop
  /-- Its own default breaks its rules. -/
  | default {v : Value} (drawn : (f.draw? now draws).1 = some v) (given : v ≠ .null)
    (wrong : f.check v ≠ [])
  /-- It has no default, and does not take the time that is put into it. -/
  | stamp (undrawn : (f.draw? now draws).1.all Value.isNull = true)
    (put : s.completed f now draws held = some (.stamp now)) (refuses : ¬ f.TakesText now)
  /-- It is the mark of deletion and must be given, but has no default. -/
  | missing (undrawn : (f.draw? now draws).1.all Value.isNull = true) (marks : f.name = deletedAt)
    (required : f.required = true) (owed : f.autoIncrement = false)

/-- A field with a default is refused for that. -/
theorem refuses_drawn {v : Value} (drawn : (f.draw? now draws).1 = some v) (given : v ≠ .null) :
    s.Refuses f now draws held ↔ f.check v ≠ [] := by
  constructor
  · rintro (⟨same, -, wrong⟩ | ⟨undrawn, -, -⟩ | ⟨undrawn, -, -, -⟩)
    · obtain rfl := Option.some.inj (drawn.symm.trans same)
      exact wrong
    all_goals
      rw [drawn] at undrawn
      exact absurd (Value.isNull_iff.1 undrawn) given
  · exact fun wrong => .default drawn given wrong

/-- A field without default is refused for the time or for want of a value. -/
theorem refuses_undrawn (undrawn : (f.draw? now draws).1.all Value.isNull = true) :
    s.Refuses f now draws held ↔
      (s.completed f now draws held = some (.stamp now) ∧ ¬ f.TakesText now) ∨
        (f.name = deletedAt ∧ f.required = true ∧ f.autoIncrement = false) := by
  constructor
  · rintro (⟨drawn, given, -⟩ | ⟨-, put, refuses⟩ | ⟨-, marks, required, owed⟩)
    · rw [drawn] at undrawn
      exact absurd (Value.isNull_iff.1 undrawn) given
    · exact .inl ⟨put, refuses⟩
    · exact .inr ⟨marks, required, owed⟩
  · rintro (⟨put, refuses⟩ | ⟨marks, required, owed⟩)
    · exact .stamp undrawn put refuses
    · exact .missing undrawn marks required owed

/-- **What is reported of a managed field** that was left unset. -/
theorem ofField_managed (hs : declare table declared options = .ok s) (hf : f ∈ s.fields)
    (managed : s.Manages f.name) (now : Instant) (draws : Draws) {data : Record}
    (unset : data.isUnset f.name = true) :
    Violation.ofField f.name (s.violations .create (s.complete now data draws).1) ≠ [] ↔
      s.Refuses f now draws (data.get? f.name) := by
  have distinct := nodup_of_declare hs
  have held := get?_complete_field distinct hf now data draws
  rw [Record.isUnset_eq_all] at unset
  have takes := s.takes_completed f now draws unset
  rw [ofField_violations_of_mem distinct hf]
  generalize put : s.completed f now draws (data.get? f.name) = left at held takes
  cases takes with
  | default drawn given =>
    rw [fieldViolations_value held given, refuses_drawn drawn given]
  | fallback undrawn taken given =>
    obtain ⟨-, -, -, -, -, live, admitted, rfl⟩ := Field.fallback?_eq_some.1 taken
    rw [fieldViolations_value held given, refuses_undrawn undrawn, put,
      or_iff_left fun missing => live missing.1]
    by_cases time : f.kind.fallback now = .stamp now
    · rw [time, and_iff_right rfl, Value.stamp, ne_eq, Field.check_canonical]
    · -- Only the fallback of a date may be no value of its kind, and that is the time.
      have accepted : f.kind.accepts (f.kind.fallback now) = true :=
        Field.accepts_fallback fun date => absurd (by rw [date]; rfl) time
      have passes := Field.check_eq_nil.2 ⟨accepted, admitted.resolve_left given⟩
      exact iff_of_false (fun wrong => wrong passes) fun stamped => time (Option.some.inj stamped.1)
  | stamp undrawn stamps =>
    have other : f.name ≠ deletedAt := by
      rcases (stamps_eq_true.1 stamps).2 with created | updated
      · rw [created]
        decide
      · rw [updated]
        decide
    rw [fieldViolations_value held (by simp [Value.stamp]), refuses_undrawn undrawn, put,
      or_iff_left fun missing => other missing.1, and_iff_right rfl, Value.stamp, ne_eq,
      Field.check_canonical]
  | nothing undrawn unmanaged none =>
    have marks : f.name = deletedAt := by
      rcases managed with stamps | ⟨-, marks⟩
      · rw [unmanaged] at stamps
        cases stamps
      · exact marks
    have missing : (s.complete now data draws).1.isUnset f.name = true := by
      rwa [Record.isUnset_eq_all, held]
    have unstamped : left ≠ some (.stamp now) := by
      rintro rfl
      cases none
    rw [fieldViolations_unset (.inl rfl) missing, refuses_undrawn undrawn, put,
      or_iff_right fun stamped => unstamped stamped.1, and_iff_right marks]
    simp

end Schema

namespace Model

variable {σ : Type} {m : Model σ} {w : World σ}

/-- **An update fails for violations** exactly if it assigns something and its stamped fields are
invalid. -/
theorem follows_update_invalid (hm : m.hooks = {}) (payload : Record) (filter : Filter)
    (w : World σ) : m.Follows (m.update payload filter) w fun _ result =>
      (∃ vs, result = .error (.validation vs)) ↔ (m.assignable payload).isEmpty = false ∧
        m.schema.validate .partialUpdate (m.stamped w.now (m.assignable payload)) ≠ .ok () := by
  rw [update_eq hm]
  refine .now_bind (.lift_bind (fun e he => ?_) fun t ht => ?_)
  · cases empty : (m.assignable payload).isEmpty with
    | true =>
      rw [updateTemplate_nothing w.now filter empty] at he
      exact iff_of_false (fun ⟨_, failed⟩ => by cases he; cases failed) fun h => nomatch h.1
    | false =>
      cases valid : m.schema.validate .partialUpdate (m.stamped w.now (m.assignable payload)) with
      | error e' =>
        rw [updateTemplate_invalid filter empty valid] at he
        cases he
        obtain ⟨vs, rfl⟩ := validate_error valid
        exact iff_of_true ⟨vs, rfl⟩ ⟨rfl, nofun⟩
      | ok _ =>
        refine iff_of_false ?_ fun h => h.2 rfl
        rintro ⟨vs, ⟨⟩⟩
        rcases updateTemplate_cases he with nothing | invalid | ⟨column, place, -, refused⟩
        · cases nothing
        · rw [valid] at invalid
          cases invalid
        · cases refused
  · obtain ⟨valid, -, -⟩ := updateTemplate_checked ht
    refine .execute_bind (fun r => ?_) fun reply w' _ _ => .pure ?_
    · exact iff_of_false (fun ⟨_, failed⟩ => by cases failed) fun ⟨_, invalid⟩ => invalid valid
    · exact iff_of_false (fun ⟨_, failed⟩ => by cases failed) fun ⟨_, invalid⟩ => invalid valid

/-- **The stamp of an update** is checked with the fields that it leaves. -/
theorem validate_stamped {table : String} {declared : List Field} {options : SchemaOptions}
    (hs : Schema.declare table declared options = .ok m.schema) (data : Record) (now : Instant) :
    m.schema.validate .partialUpdate (m.stamped now data) = .ok () ↔
      (m.schema.options.timestamps = true →
        ∀ f ∈ m.schema.fields, f.name = updatedAt → f.TakesText now) ∧
      m.schema.validate .partialUpdate
        (if m.schema.options.timestamps then data.erase updatedAt else data) = .ok () := by
  unfold stamped
  cases managed : m.schema.options.timestamps with
  | false => simp
  | true =>
    have known : m.schema.hasField updatedAt = true :=
      Schema.hasField_managed hs (.inl (Schema.stamps_eq_true.2 ⟨managed, .inr rfl⟩))
    simp only [if_true, Schema.validate_stamp known, true_implies]

/-- An update whose payload is valid fails for violations exactly if it stamps a field that does not
take the time. -/
theorem follows_update_stamp (hm : m.hooks = {}) {table : String} {declared : List Field}
    {options : SchemaOptions} (hs : Schema.declare table declared options = .ok m.schema)
    {payload : Record} (valid : m.schema.validate .partialUpdate payload = .ok ())
    (filter : Filter) (w : World σ) : m.Follows (m.update payload filter) w fun _ result =>
      (∃ vs, result = .error (.validation vs)) ↔
        (m.assignable payload).isEmpty = false ∧ m.schema.options.timestamps = true ∧
          ∃ f ∈ m.schema.fields, f.name = updatedAt ∧ ¬ f.TakesText w.now := by
  have assigned : m.schema.validate .partialUpdate (m.assignable payload) = .ok () :=
    Schema.validate_erase (Schema.validate_erase (Schema.validate_erase valid _) _) _
  have rest : m.schema.validate .partialUpdate (if m.schema.options.timestamps then
      (m.assignable payload).erase updatedAt else m.assignable payload) = .ok () := by
    split
    · exact Schema.validate_erase assigned _
    · exact assigned
  refine (follows_update_invalid hm payload filter w).mono fun _ result fails => ?_
  rw [fails, ne_eq, validate_stamped hs, and_iff_left rest]
  simp

/-- What marks a row as deleted. -/
def mark (now : Instant) : Record :=
  Record.empty.set deletedAt (.stamp now)

/-- The mark of deletion is assigned, unless it is the primary key. -/
theorem assignable_mark (m : Model σ) (now : Instant) :
    m.assignable (mark now) = if m.schema.keyName = deletedAt then .empty else mark now := by
  unfold assignable
  split
  · next key =>
    rw [key]
    rfl
  · next other =>
    have kept : (mark now).erase m.schema.keyName = mark now := by
      simp [Record.erase, mark, Record.set, Record.empty, Entries.set, Ne.symm other]
    rw [kept]
    rfl

/-- A mark of deletion is invalid exactly if a field that is stamped does not take the time. -/
theorem validate_mark {table : String} {declared : List Field} {options : SchemaOptions}
    (hs : Schema.declare table declared options = .ok m.schema)
    (soft : m.schema.options.softDelete = true) (now : Instant) :
    m.schema.validate .partialUpdate (m.stamped now (mark now)) ≠ .ok () ↔
      ∃ f ∈ m.schema.fields, (f.name = deletedAt ∨
        m.schema.options.timestamps = true ∧ f.name = updatedAt) ∧ ¬ f.TakesText now := by
  have known : m.schema.hasField deletedAt = true :=
    Schema.hasField_managed hs (.inr ⟨soft, rfl⟩)
  have same : (if m.schema.options.timestamps then (mark now).erase updatedAt else mark now)
      = mark now := by
    split <;> rfl
  have marked : m.schema.validate .partialUpdate (mark now) = .ok () ↔
      ∀ f ∈ m.schema.fields, f.name = deletedAt → f.TakesText now := by
    rw [mark, Schema.validate_stamp known]
    exact and_iff_left Schema.validate_empty
  rw [ne_eq, validate_stamped hs, same, marked]
  constructor
  · intro refused
    by_contra none
    refine refused ⟨fun managed f hf named => ?_, fun f hf named => ?_⟩
    · by_contra refuses
      exact none ⟨f, hf, .inr ⟨managed, named⟩, refuses⟩
    · by_contra refuses
      exact none ⟨f, hf, .inl named, refuses⟩
  · rintro ⟨f, hf, named | ⟨managed, named⟩, refuses⟩ takes
    · exact refuses (takes.2 f hf named)
    · exact refuses (takes.1 managed f hf named)

/-- A deletion by mark fails for violations exactly if a field that it stamps does not take the
time. -/
theorem follows_softDelete_stamp (hm : m.hooks = {}) {table : String} {declared : List Field}
    {options : SchemaOptions} (hs : Schema.declare table declared options = .ok m.schema)
    (filter : Filter) (w : World σ) : m.Follows (m.softDelete filter) w fun _ result =>
      (∃ vs, result = .error (.validation vs)) ↔
        m.schema.options.softDelete = true ∧ m.schema.keyName ≠ deletedAt ∧
          ∃ f ∈ m.schema.fields, (f.name = deletedAt ∨
            m.schema.options.timestamps = true ∧ f.name = updatedAt) ∧ ¬ f.TakesText w.now := by
  refine .lift_bind (fun e he => ?_) fun _ kept => .now_bind ?_
  · unfold requireSoftDelete at he
    split at he
    · cases he
    · next lost =>
      cases he
      exact iff_of_false (fun ⟨_, failed⟩ => by cases failed) fun h => lost h.1
  · have soft : m.schema.options.softDelete = true := by
      unfold requireSoftDelete at kept
      split at kept
      · assumption
      · cases kept
    have invalid : ((m.assignable (mark w.now)).isEmpty = false ∧
        m.schema.validate .partialUpdate (m.stamped w.now (m.assignable (mark w.now))) ≠ .ok ()) ↔
          m.schema.keyName ≠ deletedAt ∧
            ∃ f ∈ m.schema.fields, (f.name = deletedAt ∨
              m.schema.options.timestamps = true ∧ f.name = updatedAt) ∧ ¬ f.TakesText w.now := by
      rw [assignable_mark, ← validate_mark hs soft]
      split
      · next key => exact iff_of_false (fun h => nomatch h.1) fun h => h.1 key
      · next other => exact and_congr (iff_of_true rfl other) Iff.rfl
    rw [and_iff_right soft]
    refine (follows_update_invalid hm (mark w.now) _ w).bind (fun _ e fails => ?_)
      fun _ info w' fails _ => .pure ?_
    · rw [← invalid, ← fails]
      simp
    · rw [← invalid, ← fails]
      simp

end Model

/-- **The time passes the checks of the fields that a schema adds**, and of a declared field exactly
if that takes it. So an update with a valid payload fails for violations only if it stamps an
`updated_at` that does not take the time, a deletion by mark only if one of the fields that it
stamps does not, and a creation reports a managed field that was left unset only for one of the
reasons of `Schema.Refuses`. -/
theorem stamps_are_checked {σ : Type} {m : Model σ} (hm : m.hooks = {}) {table : String}
    {declared : List Field} {options : SchemaOptions}
    (hs : Schema.declare table declared options = .ok m.schema) :
    (∀ f ∈ Schema.managedFields options declared, f ∈ m.schema.fields ∧
      ∀ now : Instant, 0 ≤ now.date.year ∧ now.date.year ≤ 9999 → f.TakesText now) ∧
    (∀ (f : Field) (now : Instant), f.check (.stamp now) = [] ↔ f.TakesText now) ∧
    (∀ (payload : Record) (filter : Filter) (w : World σ),
      m.schema.validate .partialUpdate payload = .ok () →
      m.Follows (m.update payload filter) w fun _ result =>
        (∃ vs, result = .error (.validation vs)) ↔
          (m.assignable payload).isEmpty = false ∧ m.schema.options.timestamps = true ∧
            ∃ f ∈ m.schema.fields, f.name = updatedAt ∧ ¬ f.TakesText w.now) ∧
    (∀ (filter : Filter) (w : World σ), m.Follows (m.softDelete filter) w fun _ result =>
      (∃ vs, result = .error (.validation vs)) ↔
        m.schema.options.softDelete = true ∧ m.schema.keyName ≠ deletedAt ∧
          ∃ f ∈ m.schema.fields, (f.name = deletedAt ∨
            m.schema.options.timestamps = true ∧ f.name = updatedAt) ∧ ¬ f.TakesText w.now) ∧
    ∀ (data : Record) (w : World σ) (f : Field), f ∈ m.schema.fields →
      m.schema.Manages f.name → data.isUnset f.name = true →
      m.Follows (m.create data) w fun xs result =>
        (m.schema.Refuses f w.now w.draws (data.get? f.name) →
          xs = [] ∧ ∃ vs, result = .error (.validation vs)) ∧
        ∀ vs, result = .error (.validation vs) →
          (Violation.ofField f.name vs ≠ [] ↔
            m.schema.Refuses f w.now w.draws (data.get? f.name)) := by
  refine ⟨fun f managed => ⟨?_, fun _ year => Schema.takesText_of_managed managed year⟩,
    fun f now => Field.check_canonical, fun payload filter w valid => ?_, fun filter w => ?_,
    fun data w f hf managed unset => ?_⟩
  · rw [(Schema.eq_of_declare hs).2.1, Schema.withManaged_eq]
    exact List.mem_append_right _ managed
  · exact Model.follows_update_stamp hm hs valid filter w
  · exact Model.follows_softDelete_stamp hm hs filter w
  · have report := Schema.ofField_managed hs hf managed w.now w.draws unset
    refine (Model.follows_create hm data w).mono fun xs result created => ?_
    obtain ⟨refused, all⟩ := created.refused
    refine ⟨fun wrong => ?_, fun vs failed => ?_⟩
    · have reported := report.2 wrong
      have some : m.schema.violations .create (m.schema.complete w.now data w.draws).1 ≠ [] :=
        fun none => reported (by rw [none]; rfl)
      exact ⟨(refused some).1, _, (refused some).2⟩
    · rw [all vs failed]
      exact report

/-- A field for titles. -/
def title : Field where
  name := "title"
  kind := .string

/-- A table of stays whose managed fields are not declared. -/
def stays : Model Unit where
  schema := ⟨"stays", [.id "id", title, Schema.stampedField createdAt,
    Schema.stampedField updatedAt, { name := deletedAt, kind := .date }],
    { timestamps := true, softDelete := true }, ⟨0, by decide⟩⟩
  engine := .silent

theorem stay_is_stamped :
    Schema.declare "stays" [.id "id", title] { timestamps := true, softDelete := true }
        = .ok stays.schema ∧
      stays.schema.validate .partialUpdate (.ofEntries [("title", .text "a")]) = .ok () ∧
      (stays.Follows (stays.update (.ofEntries [("title", .text "a")]) []) ⟨(), default, [], []⟩
        fun _ result => ¬ ∃ vs, result = .error (.validation vs)) ∧
      stays.Follows (stays.softDelete []) ⟨(), default, [], []⟩
        fun _ result => ¬ ∃ vs, result = .error (.validation vs) := by
  have declared : Schema.declare "stays" [.id "id", title]
      { timestamps := true, softDelete := true } = .ok stays.schema := rfl
  have valid : stays.schema.validate .partialUpdate (.ofEntries [("title", .text "a")])
      = .ok () := by decide +kernel
  obtain ⟨added, -, updates, deletes, -⟩ := stamps_are_checked (m := stays) rfl declared
  have takes : ∀ f ∈ stays.schema.fields, f.name = updatedAt ∨ f.name = deletedAt →
      f.TakesText default := by
    intro f hf named
    have split : f ∈ [.id "id", title] ++ Schema.managedFields
        { timestamps := true, softDelete := true } [.id "id", title] := hf
    rcases List.mem_append.1 split with own | managed
    · simp only [List.mem_cons, List.not_mem_nil, or_false] at own
      rcases own with rfl | rfl <;> exact absurd named (by decide)
    · exact (added f managed).2 default (by decide)
  refine ⟨declared, valid, (updates _ [] ⟨(), default, [], []⟩ valid).mono fun _ _ fails => ?_,
    (deletes [] ⟨(), default, [], []⟩).mono fun _ _ fails => ?_⟩
  · rw [fails]
    rintro ⟨-, -, f, hf, named, refuses⟩
    exact refuses (takes f hf (.inl named))
  · rw [fails]
    rintro ⟨-, -, f, hf, named | ⟨-, named⟩, refuses⟩
    · exact refuses (takes f hf (.inr named))
    · exact refuses (takes f hf (.inl named))

/-- A table of loans that declares two of its managed fields: the time of the last change is a
number, and the mark of deletion must be given. -/
def loans : Model Unit where
  schema := ⟨"loans", [.id "id", title, { name := updatedAt, kind := .number },
    { name := deletedAt, kind := .date, required := true }, Schema.stampedField createdAt],
    { timestamps := true, softDelete := true }, ⟨0, by decide⟩⟩
  engine := .silent

/-- **Declared fields need not take the time.** No loan is changed or marked as deleted, and none is
created without a mark of deletion. -/
theorem loan_is_refused :
    Schema.declare "loans" [.id "id", title, { name := updatedAt, kind := .number },
        { name := deletedAt, kind := .date, required := true }]
        { timestamps := true, softDelete := true } = .ok loans.schema ∧
      loans.schema.validate .partialUpdate (.ofEntries [("title", .text "a")]) = .ok () ∧
      ((loans.update (.ofEntries [("title", .text "a")]) []).outcome ⟨(), default, [], []⟩).1
        = .error (.validation [⟨"updated_at", "updated_at must be a number", "type"⟩]) ∧
      ((loans.softDelete []).outcome ⟨(), default, [], []⟩).1
        = .error (.validation [⟨"updated_at", "updated_at must be a number", "type"⟩]) ∧
      ((loans.create (.ofEntries [("title", .text "a")])).outcome ⟨(), default, [], []⟩).1
        = .error (.validation [⟨"deleted_at", "deleted_at is required", "required"⟩]) :=
  ⟨rfl, by decide +kernel, by decide +kernel, by decide +kernel, by decide +kernel⟩

end RecordMapper
