import RecordMapper.Proofs.Document.ReadBack
import RecordMapper.Proofs.Model.Columns
import RecordMapper.Proofs.Storage
import RecordMapper.Proofs.Upsert.Statements
import RecordMapper.Proofs.Validation

/-!
# Stored records read back

What a valid record becomes when it is stored, bound and read back.

* `Kind.readBack` is this for one value of a field; `Schema.readBack` is the whole record.
* `Kind.readBack_json`: a value of a json field comes back as the value that its document stands
  for. `Value.Natural` are the values that come back as they are.
* `Kind.readBack_of_accepts`: a value that another kind accepts comes back as it is bound, so an
  instant as its canonical text and any other as it is (`Kind.readBack_eq_self`).
* `valid_records_read_back` says this of all values of a valid record.
-/

namespace RecordMapper

/-! ## Single values -/

/-- What a value of a field becomes when it is stored, bound and read back. -/
def Kind.readBack (kind : Kind) (v : Value) : Value :=
  kind.hydrate (kind.encode v).param

/-- What a record becomes when it is stored, bound and read back. -/
def Schema.readBack (s : Schema) (r : Record) : Record :=
  s.hydrate (s.encode r).bound

namespace Value

/-- Values that are what their documents stand for. -/
inductive Natural : Value → Prop
  /-- A truth value. -/
  | bool (b : Bool) : Natural (.bool b)
  /-- A whole number. -/
  | int (n : Int64) : Natural (.int n)
  /-- A finite number. -/
  | float (x : Finite) : Natural (.float (.finite x))
  /-- A text, whatever it says. -/
  | text (s : String) : Natural (.text s)
  /-- An array. -/
  | array (items : List Document) : Natural (.document (.array items))
  /-- An object. -/
  | object (entries : List (String × Document)) : Natural (.document (.object entries))

theorem Natural.ofDocument_toDocument {v : Value} (h : v.Natural) :
    ofDocument v.toDocument = v := by
  cases h with
  | int n =>
    have small : n.toInt < 0x8000000000000000 := n.toInt_lt
    rw [toDocument, Document.ofInt64, ofDocument, if_pos small, Int64.ofInt_toInt]
  | _ => rfl

theorem Natural.ne_null {v : Value} (h : v.Natural) : v ≠ .null := by
  rintro rfl
  cases h

end Value

namespace Kind

theorem readBack_null (kind : Kind) : kind.readBack .null = .null := by
  cases kind <;> rfl

/-- A json field stores the document of a value. -/
theorem param_encode_json {v : Value} (h : v ≠ .null) :
    (Kind.json.encode v).param = .text v.toDocument.compact := by
  cases v <;> first | exact absurd rfl h | rfl

/-- **A value of a json field** comes back as what its document stands for. -/
theorem readBack_json {v : Value} (h : v ≠ .null) (restorable : v.toDocument.Restorable) :
    Kind.json.readBack v = .ofDocument v.toDocument := by
  rw [readBack, param_encode_json h, hydrate, Document.ofText?_compact restorable]

/-- **A value that a kind accepts** comes back as it is bound, unless it is a document. -/
theorem readBack_of_accepts {kind : Kind} (hk : kind ≠ .json) {v : Value}
    (accepts : kind.accepts v = true) : kind.readBack v = v.param := by
  rw [readBack, encode_of_ne_json hk]
  cases kind with
  | json => exact absurd rfl hk
  | boolean =>
    cases v with
    | bool b => rfl
    | _ => cases accepts
  | _ => rfl

theorem not_accepts_document {kind : Kind} (hk : kind ≠ .json) (d : Document) :
    kind.accepts (.document d) = false := by
  cases kind <;> first | exact absurd rfl hk | rfl

/-- An accepted value that is no instant comes back as it is. -/
theorem readBack_eq_self {kind : Kind} (hk : kind ≠ .json) {v : Value}
    (accepts : kind.accepts v = true) (unlike : ∀ t, v ≠ .instant t) : kind.readBack v = v := by
  rw [readBack_of_accepts hk accepts]
  cases v with
  | instant t => exact absurd rfl (unlike t)
  | document d =>
    rw [not_accepts_document hk] at accepts
    cases accepts
  | _ => rfl

end Kind

namespace Schema

variable {s : Schema} {r : Record}

theorem fields_readBack (s : Schema) (r : Record) : (s.readBack r).fields = r.fields := by
  rw [readBack, hydrate, mapDeclared, Record.fields_mapValues, Record.bound,
    Record.fields_mapValues, fields_encode]

theorem get?_readBack {name : String} {f : Field} (hf : s.field? name = some f) (r : Record) :
    (s.readBack r).get? name = (r.get? name).map f.kind.readBack := by
  rw [readBack, hydrate, mapDeclared, Record.get?_mapValues, Record.bound, Record.get?_mapValues,
    encode, mapDeclared, Record.get?_mapValues]
  cases r.get? name with
  | none => rfl
  | some v => simp only [Option.map_some, hf, Kind.readBack]

end Schema

/-- **Valid records read back.** Take a record that passes validation, and suppose that the
documents of the values of its json fields can be read back from their texts. When it is stored,
bound and read back, it has the same fields in the same order, all of them declared. Null stays
null. A value of a json field comes back as the one that its document stands for: a text as itself,
whatever it says, and so do truth values, numbers, arrays and objects. In other fields an instant
comes back as its canonical text, and every other value as it is. -/
theorem valid_records_read_back {s : Schema} {r : Record} (valid : s.validate .create r = .ok ())
    (restorable : ∀ name f v, s.field? name = some f → f.kind = .json → r.get? name = some v →
      v ≠ .null → v.toDocument.Restorable) :
    (s.hydrate (s.encode r).bound).fields = r.fields ∧
    ∀ name v, r.get? name = some v → ∃ f w, s.field? name = some f ∧
      (s.hydrate (s.encode r).bound).get? name = some w ∧
      (v = .null → w = .null) ∧
      (f.kind = .json → v ≠ .null → w = .ofDocument v.toDocument) ∧
      (f.kind = .json → v.Natural → w = v) ∧
      (f.kind ≠ .json → ∀ t, v = .instant t → w = .text t.canonical) ∧
      (f.kind ≠ .json → (∀ t, v ≠ .instant t) → w = v) := by
  refine ⟨s.fields_readBack r, fun name v hv => ?_⟩
  have named : name ∈ r.fields := by
    rw [Record.mem_fields, hv]
    rfl
  obtain ⟨f, hf⟩ := Option.isSome_iff_exists.1 (Schema.hasField_of_validate valid named)
  obtain ⟨declared, rfl⟩ := Schema.field?_eq_some hf
  have stored : (s.hydrate (s.encode r).bound).get? f.name = some (f.kind.readBack v) := by
    rw [← Schema.readBack, Schema.get?_readBack hf, hv, Option.map_some]
  have document : f.kind = .json → v ≠ .null → f.kind.readBack v = .ofDocument v.toDocument := by
    intro json some
    rw [json, Kind.readBack_json some (restorable f.name f v hf json hv some)]
  have accepts : v ≠ .null → f.kind.accepts v = true := fun some =>
    (Field.check_eq_nil.1 (Schema.check_of_validate valid declared hv some)).1
  refine ⟨f, _, hf, stored, ?_, document, fun json natural => ?_, fun other t ht => ?_,
    fun other instant => ?_⟩
  · rintro rfl
    exact f.kind.readBack_null
  · rw [document json natural.ne_null, natural.ofDocument_toDocument]
  · subst ht
    exact Kind.readBack_of_accepts other (accepts (by simp))
  · by_cases null : v = .null
    · rw [null, f.kind.readBack_null]
    · exact Kind.readBack_eq_self other (accepts null) instant

/-- A table of scans with three json fields. -/
def scans : Schema :=
  ⟨"scans", [.id "id", { name := "code", kind := .json }, { name := "tags", kind := .json },
    { name := "ratio", kind := .json }, { name := "at", kind := .date }], {}, 0⟩

/-- One and a half. -/
def oneAndHalf : Finite := ⟨false, 0x3FF8000000000000⟩

/-- The tags of a scan. -/
def scanTags : List Document :=
  [.text "null", .object [("a", .bool true), ("b", .array [])]]

/-- A scan whose code could be taken for a number. -/
def scan : Record :=
  .ofEntries [("at", .instant default), ("code", .text "42"), ("tags", .document (.array scanTags)),
    ("ratio", .float (.finite oneAndHalf))]

theorem scan_reads_back :
    (scans.hydrate (scans.encode scan).bound).fields = ["at", "code", "tags", "ratio"] ∧
    (scans.hydrate (scans.encode scan).bound).get? "code" = some (.text "42") ∧
    (scans.hydrate (scans.encode scan).bound).get? "tags" = some (.document (.array scanTags)) ∧
    (scans.hydrate (scans.encode scan).bound).get? "ratio" = some (.float (.finite oneAndHalf)) ∧
    (scans.hydrate (scans.encode scan).bound).get? "at"
      = some (.text (default : Instant).canonical) := by
  have number : (Number.float oneAndHalf).ReadsBack :=
    ⟨⟨false, ['1'], ['5'], none⟩, by decide +kernel, by decide +kernel⟩
  have tags : (Document.array scanTags).Legible := by
    refine Document.legible_array (List.forall_mem_cons.2 ⟨Document.legible_text _,
      List.forall_mem_cons.2 ⟨Document.legible_object (by decide) ?_, by simp⟩⟩)
    exact List.forall_mem_cons.2 ⟨Document.legible_bool true,
      List.forall_mem_cons.2 ⟨Document.legible_array (by simp), by simp⟩⟩
  have valid : scans.validate .create scan = .ok () := by decide +kernel
  have restorable : ∀ name f v, scans.field? name = some f → f.kind = .json →
      scan.get? name = some v → v ≠ .null → v.toDocument.Restorable := by
    intro name f v hf json hv _
    have named : name ∈ ["at", "code", "tags", "ratio"] := by
      have names : scan.fields = ["at", "code", "tags", "ratio"] := by decide
      rw [← names, Record.mem_fields, hv]
      rfl
    simp only [List.mem_cons, List.not_mem_nil, or_false] at named
    rcases named with rfl | rfl | rfl | rfl
    · cases hf
      cases json
    · cases hv
      exact ⟨Document.legible_text "42", by decide⟩
    · cases hv
      exact ⟨tags, by decide⟩
    · cases hv
      exact ⟨Document.legible_float number, by decide⟩
  obtain ⟨fields, values⟩ := valid_records_read_back valid restorable
  have json : ∀ name v, scan.get? name = some v → v.Natural →
      scans.field? name = some { name, kind := .json } →
      (scans.hydrate (scans.encode scan).bound).get? name = some v := by
    intro name v hv natural hf
    obtain ⟨f, w, declared, back, -, -, same, -⟩ := values name v hv
    obtain rfl := Option.some.inj (hf.symm.trans declared)
    rw [back, same rfl natural]
  obtain ⟨f, w, declared, stamped, -, -, -, instant, -⟩ := values "at" _ rfl
  cases declared
  refine ⟨fields.trans (by decide), json "code" _ rfl (.text _) rfl,
    json "tags" _ rfl (.array _) rfl, json "ratio" _ rfl (.float _) rfl, ?_⟩
  rw [stamped, instant (by decide) _ rfl]

end RecordMapper
