import Mathlib.Tactic.SplitIfs
import RecordMapper.Failure.Classification

/-!
# Classes of reports

What a message says is one thing, and how it is put into words is another. What it says is found
by the phrases in it, whatever the statement, the schema and the length of excerpts are.

* `Text.contains_iff`: searching finds what occurs.
* `Classification.sense` is what a message says, `Classification.Sense.worded` puts it into words,
  and `classify_eq` says that messages are classified this way.
* `classify_eq_duplicate`: a message is taken for one about a duplicate entry exactly if it says
  `unique` or `duplicate`, letter case aside.
* `classify_of_unique`: a message with `UNIQUE constraint failed` is one of these, whatever else it
  says.
-/

namespace RecordMapper

namespace Text

/-- **Searching** finds a text where it occurs, and only there. -/
theorem contains_iff {needle : String} {cs : List Char} :
    contains needle cs = true ↔ needle.toList <:+: cs := by
  unfold contains
  induction cs with
  | nil => cases h : needle.toList <;> simp [after?]
  | cons c rest ih =>
    rw [after?, List.infix_cons_iff, ← ih, ← List.isPrefixOf_iff_prefix]
    by_cases h : needle.toList.isPrefixOf (c :: rest) = true <;> simp [h]

/-- What occurs in a text occurs in lower case in its lower case. -/
theorem infix_lowered {needle s : String} (h : needle.toList <:+: s.toList) :
    lowered needle <:+: lowered s :=
  h.map lower

end Text

/-- Whether a class is that of a status. -/
def FailureKind.isStatus : FailureKind → Bool
  | .malformedRequest | .unauthorized | .forbidden | .notFound | .rateLimited | .serverError => true
  | _ => false

namespace Classification

/-! ## What a message says -/

/-- What a message says, apart from the names in it. -/
inductive Sense where
  /-- A unique constraint is violated. -/
  | duplicate
  /-- A foreign key constraint is violated. -/
  | foreignKey
  /-- A NOT NULL constraint is violated. -/
  | missing
  /-- A CHECK constraint is violated. -/
  | check
  /-- There is a status, which has a class and a meaning. -/
  | status (n : Nat) (kind : FailureKind) (meaning : String)
  /-- Something else. -/
  | other

/-- What a status says. -/
def Sense.ofStatus (n : Nat) : Sense :=
  match ofStatus? n with
  | some (kind, meaning) => .status n kind meaning
  | none => .other

/-- What a message says. -/
def sense (raw : String) : Sense :=
  let lowered := Text.lowered raw
  let mentions (phrase : String) : Bool := Text.contains phrase lowered
  if mentions "unique" || mentions "duplicate" then .duplicate
  else if mentions "foreign key" then .foreignKey
  else if mentions "not null" || mentions "cannot be null" || mentions "null value in column" then
    .missing
  else if mentions "check constraint" then .check
  else (((statedStatus? raw).or (phrasedStatus? lowered)).map Sense.ofStatus).getD .other

/-- What a message says, put into words. -/
def Sense.worded (schema : Option Schema) (excerptLength : Nat) (raw sql : String) :
    Sense → Classification
  | .duplicate => Classification.duplicate (duplicateField? raw sql)
  | .foreignKey =>
    ⟨.foreignKeyViolation,
      "Foreign key constraint failed: the referenced record does not exist or is still referenced",
      none⟩
  | .missing => Classification.missing schema (missingField? raw)
  | .check => ⟨.checkConstraintViolation, "Check constraint failed: " ++ raw, none⟩
  | .status n kind meaning =>
    ⟨kind, meaning ++ " (HTTP " ++ toString n ++ "). SQL: " ++ excerpt excerptLength sql, none⟩
  | .other => ⟨.unclassified, raw, none⟩

theorem kind_duplicate (field : Option String) : (duplicate field).kind = .duplicateEntry := by
  cases field <;> rfl

theorem kind_missing (schema : Option Schema) (field : Option String) :
    (missing schema field).kind = .notNullViolation ∨
      (missing schema field).kind = .schemaMismatch := by
  unfold missing
  split
  · split <;> simp
  · simp

theorem isStatus_ofStatus? {status : Nat} {kind : FailureKind} {meaning : String}
    (h : ofStatus? status = some (kind, meaning)) : kind.isStatus = true := by
  unfold ofStatus? at h
  split_ifs at h <;> cases h <;> rfl

/-- A status that a message gives has the class and the meaning that go with it. -/
theorem ofStatus?_of_sense {raw : String} {n : Nat} {kind : FailureKind} {meaning : String}
    (h : sense raw = .status n kind meaning) : ofStatus? n = some (kind, meaning) := by
  unfold sense at h
  dsimp only at h
  split_ifs at h
  cases status : (statedStatus? raw).or (phrasedStatus? (Text.lowered raw)) with
  | none => simp [status] at h
  | some m =>
    rw [status, Option.map_some, Option.getD_some, Sense.ofStatus] at h
    split at h
    · next means =>
      cases h
      exact means
    · cases h

/-- The class of a status is that of a status. -/
theorem isStatus_of_sense {raw : String} {n : Nat} {kind : FailureKind} {meaning : String}
    (h : sense raw = .status n kind meaning) : kind.isStatus = true :=
  isStatus_ofStatus? (ofStatus?_of_sense h)

end Classification

open Classification in
/-- **A message is classified** by putting into words what it says. -/
theorem classify_eq (schema : Option Schema) (excerptLength : Nat) (raw sql : String) :
    classify schema excerptLength raw sql = (sense raw).worded schema excerptLength raw sql := by
  unfold classify sense
  dsimp only
  split_ifs
  · rfl
  · rfl
  · rfl
  · rfl
  · -- What is left is a status, if there is one and it has a class.
    cases (statedStatus? raw).or (phrasedStatus? (Text.lowered raw)) with
    | none => rfl
    | some n =>
      rw [Option.bind_some, Option.map_some, Option.getD_some, Sense.ofStatus]
      cases ofStatus? n <;> rfl

open Classification in
/-- **A duplicate entry is told by its words**: nothing else about a message makes it one. -/
theorem classify_eq_duplicate (schema : Option Schema) (excerptLength : Nat) (raw sql : String) :
    (classify schema excerptLength raw sql).kind = .duplicateEntry ↔
      "unique".toList <:+: Text.lowered raw ∨ "duplicate".toList <:+: Text.lowered raw := by
  have told : sense raw = .duplicate ↔
      "unique".toList <:+: Text.lowered raw ∨ "duplicate".toList <:+: Text.lowered raw := by
    rw [← Text.contains_iff, ← Text.contains_iff, ← Bool.or_eq_true]
    unfold sense Sense.ofStatus
    dsimp only
    split_ifs with said
    · simp [said]
    all_goals simp only [said, reduceCtorEq]
    cases (statedStatus? raw).or (phrasedStatus? (Text.lowered raw)) with
    | none => simp
    | some n => cases h : ofStatus? n <;> simp [h]
  rw [classify_eq, ← told]
  cases h : sense raw with
  | duplicate => simp [Sense.worded, kind_duplicate]
  | missing => rcases kind_missing schema (missingField? raw) with k | k <;> simp [Sense.worded, k]
  | status n kind meaning =>
    have remote := isStatus_of_sense h
    refine iff_of_false ?_ (by simp)
    rintro rfl
    cases remote
  | foreignKey | check | other => simp [Sense.worded]

theorem classify_of_unique {raw : String} (h : "UNIQUE constraint failed".toList <:+: raw.toList)
    (schema : Option Schema) (excerptLength : Nat) (sql : String) :
    (classify schema excerptLength raw sql).kind = .duplicateEntry := by
  have phrase : "unique".toList <:+: Text.lowered "UNIQUE constraint failed" :=
    List.IsPrefix.isInfix (List.isPrefixOf_iff_prefix.1 (by decide))
  have told := phrase.trans (Text.infix_lowered h)
  exact (classify_eq_duplicate schema excerptLength raw sql).2 (.inl told)

end RecordMapper
