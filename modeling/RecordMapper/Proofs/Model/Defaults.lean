import RecordMapper.Proofs.Model.Checks
import RecordMapper.Proofs.Model.Settling
import RecordMapper.Proofs.Schema.Instants
import RecordMapper.Proofs.Upsert.Path

/-!
# Defaults that were checked

A declaration checks the literal defaults of required fields as they are declared; a creation checks
them as they are given.

* `Value.given`: a default that is an instant is given as its text, every other one as it is.
* `Field.check_given`: what was checked at the declaration passes again, but for the text of an
  instant that the field does not take.
* `Model.Created.refused`: a creation reports the violations of the completed record.
* `checked_default_passes` says what becomes of the default in every creation.
-/

namespace RecordMapper

/-! ## Given defaults -/

/-- The form in which a default is given: an instant as its text. -/
def Value.given : Value → Value
  | .instant t => .text t.canonical
  | v => v

namespace Field

variable {f : Field} {v : Value} {now : Instant} {draws : Draws}

theorem draw?_literal (literal : f.default? = some (.literal v)) :
    f.draw? now draws = (some v.given, draws) := by
  rw [draw?, literal]
  cases v <;> rfl

/-- **A default that was checked passes again**, unless it is an instant whose text the field does
not take. -/
theorem check_given (formed : Schema.FieldFormed f) (required : f.required = true)
    (literal : f.default? = some (.literal v)) :
    f.check v.given = [] ↔ ∀ t, v = .instant t → f.TakesText t := by
  obtain ⟨-, accepted, admitted⟩ := formed.default v required literal
  cases v with
  | instant t => simp [Value.given, check_canonical]
  | _ => exact iff_of_true (check_eq_nil.2 ⟨accepted, admitted⟩) nofun

end Field

/-! ## Completed records -/

/-- A field that was left to its default holds it in the end. -/
theorem Schema.get?_complete_default {s : Schema} (distinct : (s.fields.map Field.name).Nodup)
    {f : Field} (hf : f ∈ s.fields) {v : Value} (literal : f.default? = some (.literal v))
    (some : v.given.isNull = false) {data : Record} (unset : data.isUnset f.name = true)
    (now : Instant) (draws : Draws) :
    (s.complete now data draws).1.get? f.name = .some v.given := by
  rw [get?_complete_field distinct hf, completed, Field.filled, ← Record.isUnset_eq_all, unset,
    Field.draw?_literal literal]
  simp [some]

/-- **What is reported of a field that was left to its default** is what is wrong with the default,
whatever else the record has. -/
theorem Schema.ofField_default {table : String} {declared : List Field} {options : SchemaOptions}
    {s : Schema} (hs : declare table declared options = .ok s) {f : Field} (hf : f ∈ s.fields)
    (required : f.required = true) {v : Value} (literal : f.default? = some (.literal v))
    {data : Record} (unset : data.isUnset f.name = true) (now : Instant) (draws : Draws) :
    Violation.ofField f.name (s.violations .create (s.complete now data draws).1)
      = f.check v.given := by
  have distinct := nodup_of_declare hs
  have some : v.given.isNull = false := by
    have declared := ((formed_of_declare hs hf).default v required literal).1
    cases v with
    | null => exact absurd rfl declared
    | _ => rfl
  have held := get?_complete_default distinct hf literal some unset now draws
  have given : v.given ≠ .null := fun null => by simp [null, Value.isNull] at some
  rw [ofField_violations_of_mem distinct hf, fieldViolations_value held given]

/-! ## Creations -/

namespace Model

variable {σ : Type} {m : Model σ}

/-- **A creation is refused** exactly for the violations of the completed record, and then says
nothing. -/
theorem Created.refused {completed : Record} {xs : Conversation} {result : Except Error Record}
    (h : m.Created completed xs result) :
    (m.schema.violations .create completed ≠ [] →
      xs = [] ∧ result = .error (.validation (m.schema.violations .create completed))) ∧
    ∀ vs, result = .error (.validation vs) → vs = m.schema.violations .create completed := by
  have valid {s : Statement} (inserts : m.Inserting completed s) :
      m.schema.violations .create completed = [] := by
    by_contra some
    have refused := Schema.validate_eq_error.2 ⟨some, rfl⟩
    rw [inserts.valid] at refused
    cases refused
  cases h with
  | invalid h =>
    obtain ⟨-, rfl⟩ := Schema.validate_eq_error.1 h
    exact ⟨fun _ => ⟨rfl, rfl⟩, fun vs same => by cases same; rfl⟩
  | rejected inserts r => exact ⟨absurd (valid inserts), nofun⟩
  | unidentified inserts key =>
    obtain rfl := insertedKey_error key
    exact ⟨absurd (valid inserts), nofun⟩
  | unread inserts key read =>
    cases read
    exact ⟨absurd (valid inserts), nofun⟩
  | missing inserts key read => exact ⟨absurd (valid inserts), nofun⟩
  | created inserts key read => exact ⟨absurd (valid inserts), nofun⟩

end Model

/-- **The default of a required field passes every creation that leaves the field to it**, or none.
It was checked when the schema was declared, and passes again unless it is an instant whose text the
field does not take; then every such creation is refused before anything is said. -/
theorem checked_default_passes {σ : Type} {m : Model σ} (hm : m.hooks = {}) {table : String}
    {declared : List Field} {options : SchemaOptions}
    (hs : Schema.declare table declared options = .ok m.schema) {f : Field}
    (hf : f ∈ m.schema.fields) (required : f.required = true) {v : Value}
    (literal : f.default? = some (.literal v)) :
    ((∀ t, v = .instant t → f.TakesText t) ↔
      ∀ (data : Record) (now : Instant) (draws : Draws), data.isUnset f.name = true →
        Violation.ofField f.name
          (m.schema.violations .create (m.schema.complete now data draws).1) = []) ∧
    ∀ (data : Record) (w : World σ), data.isUnset f.name = true →
      m.Follows (m.create data) w fun xs result =>
        ((∀ t, v = .instant t → f.TakesText t) →
          ∀ vs, result = .error (.validation vs) → Violation.ofField f.name vs = []) ∧
        ((∃ t, v = .instant t ∧ ¬ f.TakesText t) →
          xs = [] ∧ ∃ vs, result = .error (.validation vs) ∧ Violation.ofField f.name vs ≠ []) := by
  have passes := Field.check_given (Schema.formed_of_declare hs hf) required literal
  have report {data : Record} (unset : data.isUnset f.name = true) (now : Instant)
      (draws : Draws) := Schema.ofField_default hs hf required literal unset now draws
  refine ⟨?_, fun data w unset => ?_⟩
  · rw [← passes]
    refine ⟨fun silent data now draws unset => (report unset now draws).trans silent, ?_⟩
    exact fun silent => (report rfl default []).symm.trans (silent .empty default [] rfl)
  · refine (Model.follows_create hm data w).mono fun xs result created => ?_
    obtain ⟨refused, all⟩ := created.refused
    refine ⟨fun takes vs failed => ?_, fun ⟨t, instant, refuses⟩ => ?_⟩
    · rw [all vs failed, report unset]
      exact passes.2 takes
    · have wrong : f.check v.given ≠ [] := fun none => refuses (passes.1 none t instant)
      rw [← report unset w.now w.draws] at wrong
      have some : m.schema.violations .create (m.schema.complete w.now data w.draws).1 ≠ [] :=
        fun none => wrong (by rw [none]; rfl)
      obtain ⟨silent, failed⟩ := refused some
      exact ⟨silent, _, failed, wrong⟩

/-- The start of the last day of June. -/
def deadline : Instant :=
  .midnight ⟨2024, 6, 30, by decide, by decide⟩

/-- A date that must be given, one of some values; by default it is the deadline. -/
def due (allowed : List Value) : Field where
  name := "due"
  kind := .date
  required := true
  default? := some (.literal (.instant deadline))
  choices := some allowed

/-- A table of errands. -/
def errands (allowed : List Value) : Model Unit where
  schema := ⟨"errands", [.id "id", due allowed], {}, ⟨0, Nat.succ_pos 1⟩⟩
  engine := .silent

/-- The deadline as an instant and as a text. -/
def bothForms : List Value :=
  [.instant deadline, .text deadline.canonical]

theorem errand_takes_deadline :
    Schema.declare "errands" [.id "id", due bothForms] {} = .ok (errands bothForms).schema ∧
      ∀ (data : Record) (now : Instant) (draws : Draws), data.isUnset "due" = true →
        Violation.ofField "due" ((errands bothForms).schema.violations .create
          ((errands bothForms).schema.complete now data draws).1) = [] := by
  have declared : Schema.declare "errands" [.id "id", due bothForms] {}
      = .ok (errands bothForms).schema := rfl
  have member : due bothForms ∈ (errands bothForms).schema.fields :=
    List.mem_cons_of_mem _ List.mem_cons_self
  refine ⟨declared, (checked_default_passes rfl declared member rfl rfl).1.1 ?_⟩
  rintro t ⟨⟩
  exact Field.check_canonical.1 (by decide +kernel)

/-- **A default that was accepted fails every creation.** The deadline is allowed as an instant only
and given as a text. -/
theorem deadline_is_refused :
    Schema.declare "errands" [.id "id", due [.instant deadline]] {}
        = .ok (errands [.instant deadline]).schema ∧
      (errands [.instant deadline]).schema.violations .create
          ((errands [.instant deadline]).schema.complete default .empty []).1
        = [⟨"due", "due must be one of: 2024-06-30T00:00:00.000Z", "enum"⟩] ∧
      ((errands [.instant deadline]).create .empty).issued ⟨(), default, [], []⟩ = [] :=
  ⟨rfl, by decide +kernel, by decide +kernel⟩

end RecordMapper
