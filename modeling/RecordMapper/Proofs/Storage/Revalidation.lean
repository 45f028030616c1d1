import RecordMapper.Proofs.Instant.Canonical
import RecordMapper.Proofs.Sql.Declared
import RecordMapper.Proofs.Storage.ReadBack

/-!
# Writing back what was read

When a valid record that has been stored and read back passes the validation of an update.

* `Field.Keeps` are the values of a field that do, with one constructor for each way in which a
  value can come back.
* `Field.Keeps.check_readBack` says this of one value.
* `stored_records_stay_valid` says it of a record.
* `read_back_refused` is a record that fails in each of the other ways.
-/

namespace RecordMapper

/-! ## Single values -/

namespace Field

/-- Values that a field takes again after they have been stored and read back, provided that it took
them before. -/
inductive Keeps (f : Field) : Value → Prop
  /-- Null, where nothing is required. The exemption of numbered keys holds on creation only. -/
  | null (optional : f.required = false) : Keeps f .null
  /-- A value of a json field that comes back as itself. -/
  | natural {v : Value} (json : f.kind = .json) (natural : v.Natural)
      (restorable : v.toDocument.Restorable) : Keeps f v
  /-- A value of a json field that comes back as null, where nothing is required. -/
  | emptied {v : Value} (json : f.kind = .json) (back : f.kind.readBack v = .null)
      (optional : f.required = false) : Keeps f v
  /-- A value of a json field that comes back as one that the constraints admit as well. -/
  | changed {v : Value} (json : f.kind = .json) (some : f.kind.readBack v ≠ .null)
      (admits : f.Admits (f.kind.readBack v)) : Keeps f v
  /-- An instant of a year with four digits, if the constraints admit its canonical text. -/
  | instant {t : Instant} (other : f.kind ≠ .json)
      (year : 0 ≤ t.date.year ∧ t.date.year ≤ 9999) (admits : f.Admits (.text t.canonical)) :
      Keeps f (.instant t)
  /-- Any other value of another kind. -/
  | same {v : Value} (other : f.kind ≠ .json) (some : v ≠ .null) (unlike : ∀ t, v ≠ .instant t) :
      Keeps f v

/-- **A value that is kept** passes the check of its field again when it comes back, or it is null
and nothing is required. -/
theorem Keeps.check_readBack {f : Field} {v : Value} (keeps : f.Keeps v)
    (valid : v ≠ .null → f.check v = []) :
    (f.kind.readBack v = .null → f.required = false) ∧
      (f.kind.readBack v ≠ .null → f.check (f.kind.readBack v) = []) := by
  cases keeps with
  | null optional => exact ⟨fun _ => optional, fun some => absurd f.kind.readBack_null some⟩
  | natural json natural restorable =>
    have back : f.kind.readBack v = v := by
      rw [json, Kind.readBack_json natural.ne_null restorable, natural.ofDocument_toDocument]
    rw [back]
    exact ⟨fun null => absurd null natural.ne_null, valid⟩
  | emptied json back optional => exact ⟨fun _ => optional, fun some => absurd back some⟩
  | changed json some admits =>
    refine ⟨fun null => absurd null some, fun _ => Field.check_eq_nil.2 ⟨?_, admits⟩⟩
    rw [json]
    rfl
  | @instant t other year admits =>
    obtain ⟨accepts, -⟩ := check_eq_nil.1 (valid (by simp))
    have back : f.kind.readBack (.instant t) = .text t.canonical :=
      Kind.readBack_of_accepts other accepts
    have date : f.kind = .date := by
      cases hk : f.kind with
      | date => rfl
      | json => exact absurd hk other
      | _ =>
        rw [hk] at accepts
        cases accepts
    rw [back]
    refine ⟨fun null => (by cases null), fun _ => check_eq_nil.2 ⟨?_, admits⟩⟩
    simp only [date, Kind.accepts]
    exact Instant.ofText?_canonical year
  | same other some unlike =>
    obtain ⟨accepts, -⟩ := check_eq_nil.1 (valid some)
    rw [Kind.readBack_eq_self other accepts unlike]
    exact ⟨fun null => absurd null some, valid⟩

end Field

/-! ## Records -/

/-- **Stored records stay valid.** Take a record that passes validation under a declared schema. If
each of its fields keeps its value, then what is read back after it has been stored passes the
validation of an update. Fields keep all their values but these: a null or a value that comes back
as null, where one is required; a value of a json field that comes back as one that a constraint
refuses; an instant whose year has not four digits or whose canonical text a constraint refuses. -/
theorem stored_records_stay_valid {table : String} {fields : List Field} {options : SchemaOptions}
    {s : Schema} {r : Record} (declared : Schema.declare table fields options = .ok s)
    (valid : s.validate .create r = .ok ())
    (keeps : ∀ f ∈ s.fields, ∀ v, r.get? f.name = some v → f.Keeps v) :
    s.validate .partialUpdate (s.hydrate (s.encode r).bound) = .ok () := by
  rw [← Schema.readBack, Schema.validate_eq_ok]
  constructor
  · intro f member
    rw [Schema.fieldViolations_eq_nil]
    intro w hw
    rw [Schema.get?_readBack (Schema.field?_of_declare declared member)] at hw
    obtain ⟨v, hv, rfl⟩ := Option.map_eq_some_iff.1 hw
    exact (keeps f member v hv).check_readBack (Schema.check_of_validate valid member hv)
  · intro name named
    rw [Schema.fields_readBack] at named
    exact Schema.hasField_of_validate valid named

/-! ## A record of each kind -/

/-- A table of tickets. -/
def tickets : Schema :=
  ⟨"tickets", [.id "id", { name := "title", kind := .string, required := true },
    { name := "state", kind := .json, maxLength := some 8 }, { name := "note", kind := .json },
    { name := "votes", kind := .json, required := true },
    { name := "due", kind := .date, maxLength := some 24 }], {}, 0⟩

/-- A ticket with a value of every sort that is kept. -/
def ticket : Record :=
  .ofEntries [("id", .null), ("title", .text "Review"), ("state", .document (.text "draft")),
    ("note", .document .null), ("votes", .int 3), ("due", .instant default)]

theorem ticket_stays_valid :
    Schema.declare "tickets" tickets.fields {} = .ok tickets ∧
      tickets.validate .create ticket = .ok () ∧
      tickets.validate .partialUpdate (tickets.hydrate (tickets.encode ticket).bound) = .ok () := by
  have declared : Schema.declare "tickets" tickets.fields {} = .ok tickets := rfl
  have valid : tickets.validate .create ticket = .ok () := by decide +kernel
  refine ⟨declared, valid, stored_records_stay_valid declared valid fun f member v hv => ?_⟩
  simp only [tickets, List.mem_cons, List.not_mem_nil, or_false] at member
  rcases member with rfl | rfl | rfl | rfl | rfl | rfl
  · cases hv
    exact .null rfl
  · cases hv
    exact .same (by decide) (by simp) (by simp)
  · cases hv
    have back : Kind.json.readBack (.document (.text "draft")) = .text "draft" :=
      Kind.readBack_json (by simp) ⟨Document.legible_text "draft", by decide⟩
    refine .changed rfl ?_ ?_
    · rw [back]
      simp
    · rw [back]
      decide
  · cases hv
    exact .emptied rfl (Kind.readBack_json (by simp) ⟨Document.legible_null, by decide⟩) rfl
  · cases hv
    exact .natural rfl (.int 3) ⟨Document.legible_whole _, by decide⟩
  · cases hv
    exact .instant (by decide) (by decide) (by decide)

/-! ## What is refused -/

/-- The first instant of a day in 2024. -/
def winterDay : Instant :=
  .midnight ⟨2024, 1, 15, by decide, by decide⟩

/-- The first instant after the years with four digits. -/
def farFuture : Instant :=
  .midnight ⟨10000, 1, 1, by decide, by decide⟩

/-- A table of events. -/
def events : Schema :=
  ⟨"events", [{ Field.id "id" with required := true },
    { name := "meta", kind := .json, required := true },
    { name := "at", kind := .date, choices := some [.instant winterDay] },
    { name := "until", kind := .date }], {}, 0⟩

/-- An event. -/
def event : Record :=
  .ofEntries [("id", .null), ("meta", .document .null), ("at", .instant winterDay),
    ("until", .instant farFuture)]

/-- **Not every valid record stays valid.** A numbered key may be null on creation only, a null
document comes back as null, an instant comes back as a text, which is none of the instants to
choose from, and past the year 9999 this text is no date. -/
theorem read_back_refused :
    Schema.declare "events" events.fields {} = .ok events ∧
      events.validate .create event = .ok () ∧
      events.validate .partialUpdate (events.hydrate (events.encode event).bound)
        = .error (.validation [⟨"id", "id is required", "required"⟩,
            ⟨"meta", "meta is required", "required"⟩,
            ⟨"at", "at must be one of: 2024-01-15T00:00:00.000Z", "enum"⟩,
            ⟨"until", "until must be a valid date", "type"⟩]) := by
  refine ⟨rfl, by decide +kernel, ?_⟩
  decide +kernel

end RecordMapper
