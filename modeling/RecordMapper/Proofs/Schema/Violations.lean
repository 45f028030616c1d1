import Mathlib.Data.List.Forall2
import Mathlib.Data.List.Sort
import RecordMapper.Proofs.Validation

/-!
# What validation reports

Every rule that a record breaks is reported once, and nothing else is.

* `Field.Breaks` says which constraints a value breaks and what is said about each, and
  `FieldReport` what is said about one field of a record.
* `Schema.Reports` puts the reports of the fields together in the order of their declaration, with
  the undeclared names at the end, in the order of the record.
* `Schema.violations_report`: the list that validation gives is the one that this describes; it does
  not depend on the order of the record but for its end, it is the same in both modes for a field
  with a value, and parts of a valid record are valid as changes of a row.
-/

namespace RecordMapper

/-! ## The constraints that a value breaks -/

/-- The codes of the constraints in the order in which they are checked. -/
def constraintCodes : List String :=
  ["min_length", "max_length", "min_value", "max_value", "enum", "custom"]

/-- A value breaks a constraint of a field, and this is said about it. -/
inductive Field.Breaks (f : Field) (v : Value) : Violation → Prop
  /-- A text has too few characters. -/
  | short {n : Nat} {s : String} (bound : f.minLength = some n) (text : v.asText? = some s)
      (less : s.length < n) :
      Breaks f v
        ⟨f.name, f.name ++ " must be at least " ++ toString n ++ " characters", "min_length"⟩
  /-- A text has too many characters. -/
  | long {n : Nat} {s : String} (bound : f.maxLength = some n) (text : v.asText? = some s)
      (more : n < s.length) :
      Breaks f v
        ⟨f.name, f.name ++ " must be at most " ++ toString n ++ " characters", "max_length"⟩
  /-- A number is too small. -/
  | low {x y : Binary64} (bound : f.min = some x) (number : v.asFloat? = some y)
      (less : y.less x = true) :
      Breaks f v ⟨f.name, f.name ++ " must be at least " ++ x.text .plain, "min_value"⟩
  /-- A number is too great. -/
  | high {x y : Binary64} (bound : f.max = some x) (number : v.asFloat? = some y)
      (more : x.less y = true) :
      Breaks f v ⟨f.name, f.name ++ " must be at most " ++ x.text .plain, "max_value"⟩
  /-- The value is none of those that are allowed. -/
  | unlisted {values : List Value} (listed : f.choices = some values)
      (other : ∀ allowed ∈ values, allowed.same v = false) :
      Breaks f v ⟨f.name,
        f.name ++ " must be one of: " ++ ", ".intercalate (values.map Value.display), "enum"⟩
  /-- The caller's rule complains. -/
  | refused {complaint : Value → Option String} {message : String}
      (rule : f.custom = some complaint) (complains : complaint v = some message) :
      Breaks f v ⟨f.name, message, "custom"⟩

namespace Constraint

/-- The code of the violations of a rule. -/
def code : Constraint → String
  | .minLength _ => "min_length"
  | .maxLength _ => "max_length"
  | .minValue _ => "min_value"
  | .maxValue _ => "max_value"
  | .choices _ => "enum"
  | .custom _ => "custom"

variable {name : String} {v : Value} {x : Violation}

theorem minLength_check {n : Nat} : (minLength n).check name v = some x ↔
    ∃ s, v.asText? = some s ∧ s.length < n
      ∧ ⟨name, name ++ " must be at least " ++ toString n ++ " characters", "min_length"⟩ = x := by
  cases h : v.asText? <;> simp [check, lengthOf?, h]

theorem maxLength_check {n : Nat} : (maxLength n).check name v = some x ↔
    ∃ s, v.asText? = some s ∧ n < s.length
      ∧ ⟨name, name ++ " must be at most " ++ toString n ++ " characters", "max_length"⟩ = x := by
  cases h : v.asText? <;> simp [check, lengthOf?, h]

theorem minValue_check {y : Binary64} : (minValue y).check name v = some x ↔
    ∃ number, v.asFloat? = some number ∧ number.less y = true
      ∧ ⟨name, name ++ " must be at least " ++ y.text .plain, "min_value"⟩ = x := by
  cases h : v.asFloat? <;> simp [check, h]

theorem maxValue_check {y : Binary64} : (maxValue y).check name v = some x ↔
    ∃ number, v.asFloat? = some number ∧ y.less number = true
      ∧ ⟨name, name ++ " must be at most " ++ y.text .plain, "max_value"⟩ = x := by
  cases h : v.asFloat? <;> simp [check, h]

theorem choices_check {values : List Value} : (choices values).check name v = some x ↔
    (∀ allowed ∈ values, allowed.same v = false)
      ∧ ⟨name, name ++ " must be one of: " ++ ", ".intercalate (values.map Value.display), "enum"⟩
        = x := by
  simp [check]

theorem custom_check {complaint : Value → Option String} :
    (custom complaint).check name v = some x ↔
      ∃ message, complaint v = some message ∧ ⟨name, message, "custom"⟩ = x := by
  simp [check]

/-- A violation names the field and the rule that is broken. -/
theorem field_and_code_of_check {c : Constraint} (h : c.check name v = some x) :
    x.field = name ∧ x.code = c.code := by
  cases c with
  | minLength n => obtain ⟨_, _, _, rfl⟩ := minLength_check.1 h; exact ⟨rfl, rfl⟩
  | maxLength n => obtain ⟨_, _, _, rfl⟩ := maxLength_check.1 h; exact ⟨rfl, rfl⟩
  | minValue y => obtain ⟨_, _, _, rfl⟩ := minValue_check.1 h; exact ⟨rfl, rfl⟩
  | maxValue y => obtain ⟨_, _, _, rfl⟩ := maxValue_check.1 h; exact ⟨rfl, rfl⟩
  | choices values => obtain ⟨_, rfl⟩ := choices_check.1 h; exact ⟨rfl, rfl⟩
  | custom complaint => obtain ⟨_, _, rfl⟩ := custom_check.1 h; exact ⟨rfl, rfl⟩

/-- The violations of a list of rules carry the codes of some of them, in the same order. -/
theorem codes_filterMap (rules : List Constraint) :
    ((rules.filterMap fun c => c.check name v).map (·.code)).Sublist (rules.map code) := by
  induction rules with
  | nil => exact List.Sublist.slnil
  | cons c rest ih =>
    simp only [List.filterMap_cons]
    split
    · exact ih.cons _
    · next x h =>
      rw [List.map_cons, List.map_cons, (field_and_code_of_check h).2]
      exact ih.cons_cons _

end Constraint

namespace Field

variable {f : Field} {v : Value} {x : Violation}

/-- Each kind of rule is there at most once, in a fixed order. -/
theorem codes_constraints (f : Field) :
    (f.constraints.map Constraint.code).Sublist constraintCodes := by
  have one {α : Type} (o : Option α) (rule : α → Constraint) (code : String)
      (same : ∀ a, (rule a).code = code) :
      ((o.map rule).toList.map Constraint.code).Sublist [code] := by
    cases o with
    | none => exact List.nil_sublist _
    | some a => simp [same]
  simp only [constraints, List.map_append]
  exact ((((((one f.minLength .minLength _ fun _ => rfl).append
    (one f.maxLength .maxLength _ fun _ => rfl)).append
    (one f.min .minValue _ fun _ => rfl)).append
    (one f.max .maxValue _ fun _ => rfl)).append
    (one f.choices .choices _ fun _ => rfl)).append
    (one f.custom .custom _ fun _ => rfl))

/-- The rules of a field report what the value breaks. -/
theorem check_iff_breaks :
    (∃ c ∈ f.constraints, c.check f.name v = some x) ↔ f.Breaks v x := by
  constructor
  · rintro ⟨c, mem, checked⟩
    simp only [constraints, List.mem_append, Option.mem_toList, Option.map_eq_some_iff] at mem
    rcases mem with ((((⟨n, bound, rfl⟩ | ⟨n, bound, rfl⟩) | ⟨y, bound, rfl⟩) | ⟨y, bound, rfl⟩)
      | ⟨values, listed, rfl⟩) | ⟨complaint, rule, rfl⟩
    · obtain ⟨s, text, less, rfl⟩ := Constraint.minLength_check.1 checked
      exact .short bound text less
    · obtain ⟨s, text, more, rfl⟩ := Constraint.maxLength_check.1 checked
      exact .long bound text more
    · obtain ⟨number, is, less, rfl⟩ := Constraint.minValue_check.1 checked
      exact .low bound is less
    · obtain ⟨number, is, more, rfl⟩ := Constraint.maxValue_check.1 checked
      exact .high bound is more
    · obtain ⟨other, rfl⟩ := Constraint.choices_check.1 checked
      exact .unlisted listed other
    · obtain ⟨message, complains, rfl⟩ := Constraint.custom_check.1 checked
      exact .refused rule complains
  · rintro (⟨bound, text, less⟩ | ⟨bound, text, more⟩ | ⟨bound, is, less⟩ | ⟨bound, is, more⟩
      | ⟨listed, other⟩ | ⟨rule, complains⟩)
    · exact ⟨_, by simp [constraints, bound], Constraint.minLength_check.2 ⟨_, text, less, rfl⟩⟩
    · exact ⟨_, by simp [constraints, bound], Constraint.maxLength_check.2 ⟨_, text, more, rfl⟩⟩
    · exact ⟨_, by simp [constraints, bound], Constraint.minValue_check.2 ⟨_, is, less, rfl⟩⟩
    · exact ⟨_, by simp [constraints, bound], Constraint.maxValue_check.2 ⟨_, is, more, rfl⟩⟩
    · exact ⟨_, by simp [constraints, listed], Constraint.choices_check.2 ⟨other, rfl⟩⟩
    · exact ⟨_, by simp [constraints, rule], Constraint.custom_check.2 ⟨_, complains, rfl⟩⟩

/-- The rules of a field admit what breaks none of them. -/
theorem admits_iff : f.Admits v ↔ ∀ x, ¬ f.Breaks v x := by
  constructor
  · intro admits x breaks
    obtain ⟨c, mem, checked⟩ := check_iff_breaks.2 breaks
    rw [admits c mem] at checked
    cases checked
  · intro whole c mem
    refine Option.eq_none_iff_forall_ne_some.2 fun x checked => ?_
    exact whole x (check_iff_breaks.1 ⟨c, mem, checked⟩)

/-- Two lists with codes in the order of the rules are equal if they have the same members. -/
theorem eq_of_codes {a b : List Violation} (ha : (a.map (·.code)).Sublist constraintCodes)
    (hb : (b.map (·.code)).Sublist constraintCodes) (same : ∀ x, x ∈ a ↔ x ∈ b) : a = b := by
  let place (x : Violation) : Nat := constraintCodes.idxOf x.code
  have inOrder {l : List Violation} (hl : (l.map (·.code)).Sublist constraintCodes) :
      l.Pairwise fun x y => place x < place y := by
    have codes : constraintCodes.Pairwise
        fun c d => constraintCodes.idxOf c < constraintCodes.idxOf d := by decide
    have sorted := codes.sublist hl
    rwa [List.pairwise_map] at sorted
  have distinct {l : List Violation} (hl : (l.map (·.code)).Sublist constraintCodes) : l.Nodup :=
    (inOrder hl).imp fun less e => absurd (e ▸ less) (Nat.lt_irrefl _)
  have perm : a.Perm b := (List.perm_ext_iff_of_nodup (distinct ha) (distinct hb)).2 same
  exact perm.eq_of_pairwise (fun x y _ _ less greater => absurd less (Nat.lt_asymm greater))
    (inOrder ha) (inOrder hb)

/-- What a field says about a value of its kind: what it breaks, in the order of the rules. -/
theorem check_eq_iff {found : List Violation} (accepted : f.kind.accepts v = true) :
    f.check v = found ↔
      (found.map (·.code)).Sublist constraintCodes ∧ ∀ x, x ∈ found ↔ f.Breaks v x := by
  have members : ∀ x, x ∈ f.check v ↔ f.Breaks v x := by
    intro x
    rw [check, if_pos accepted, List.mem_filterMap]
    exact check_iff_breaks
  have ordered : ((f.check v).map (·.code)).Sublist constraintCodes := by
    rw [check, if_pos accepted]
    exact (Constraint.codes_filterMap _).trans f.codes_constraints
  constructor
  · rintro rfl
    exact ⟨ordered, members⟩
  · rintro ⟨codes, exact'⟩
    exact eq_of_codes ordered codes fun x => (members x).trans (exact' x).symm

/-- What is said about a broken constraint names the field, and has not the code of an undeclared
one. -/
theorem Breaks.field_and_code (h : f.Breaks v x) : x.field = f.name ∧ x.code ≠ "unknown" := by
  cases h <;> exact ⟨rfl, by simp⟩

end Field

/-! ## The report of a record -/

/-- What validation says about one field of a record. -/
inductive FieldReport (mode : ValidationMode) (r : Record) (f : Field) : List Violation → Prop
  /-- A change does not name the field. -/
  | unnamed (changes : mode = .partialUpdate) (absent : f.name ∉ r.fields) : FieldReport mode r f []
  /-- There is no value, and there must be one. -/
  | missing (looked : mode = .create ∨ f.name ∈ r.fields) (unset : r.isUnset f.name = true)
      (required : f.required = true) (owed : mode = .create → f.autoIncrement = false) :
      FieldReport mode r f [⟨f.name, f.name ++ " is required", "required"⟩]
  /-- There is no value, and there need not be one. -/
  | omitted (looked : mode = .create ∨ f.name ∈ r.fields) (unset : r.isUnset f.name = true)
      (free : f.required = false ∨ (mode = .create ∧ f.autoIncrement = true)) :
      FieldReport mode r f []
  /-- The value is of another kind. -/
  | mistyped {v : Value} (given : r.get? f.name = some v) (some : v ≠ .null)
      (refused : f.kind.accepts v = false) :
      FieldReport mode r f [⟨f.name, f.name ++ " must be " ++ f.kind.describe, "type"⟩]
  /-- The value is of the field's kind: one violation for each constraint that it breaks. -/
  | checked {v : Value} {found : List Violation} (given : r.get? f.name = some v) (some : v ≠ .null)
      (accepted : f.kind.accepts v = true)
      (inOrder : (found.map (·.code)).Sublist constraintCodes)
      (exactly : ∀ x, x ∈ found ↔ f.Breaks v x) :
      FieldReport mode r f found

/-- What is said about a declared field names it, and has not the code of an undeclared one. -/
theorem FieldReport.field_and_code {mode : ValidationMode} {r : Record} {f : Field}
    {found : List Violation} (h : FieldReport mode r f found) :
    ∀ x ∈ found, x.field = f.name ∧ x.code ≠ "unknown" := by
  cases h with
  | unnamed | omitted => simp
  | missing | mistyped => simp
  | checked _ _ _ _ exactly => exact fun x mem => ((exactly x).1 mem).field_and_code

namespace Schema

variable {s : Schema} {mode : ValidationMode} {r r' : Record} {f : Field} {v : Value}
  {found : List Violation}

/-- The names of a record that no field bears, in order. -/
def undeclared (s : Schema) (r : Record) : List String :=
  r.fields.filter fun name => decide (name ∉ s.fields.map Field.name)

/-- What validation says about a record: the reports of the fields in order, and then one violation
for each undeclared name. -/
def Reports (s : Schema) (mode : ValidationMode) (r : Record) (found : List Violation) : Prop :=
  ∃ reports : List (List Violation), List.Forall₂ (FieldReport mode r) s.fields reports ∧
    found = reports.flatten ++ (s.undeclared r).map fun name =>
      ⟨name, name ++ " is not a field of " ++ s.table, "unknown"⟩

/-! ### One field -/

theorem fieldViolations_unnamed (absent : f.name ∉ r.fields) :
    fieldViolations .partialUpdate r f = [] := by
  rw [fieldViolations, if_pos]
  simpa [Record.contains] using absent

theorem fieldViolations_unset (looked : mode = .create ∨ f.name ∈ r.fields)
    (unset : r.isUnset f.name = true) :
    fieldViolations mode r f
      = if f.required = true ∧ (mode = .create → f.autoIncrement = false) then
          [⟨f.name, f.name ++ " is required", "required"⟩]
        else [] := by
  have goesOn : ¬ (mode = .partialUpdate ∧ (!r.contains f.name) = true) := by
    rcases looked with rfl | present
    · simp
    · simp [Record.contains, present]
  rw [fieldViolations, if_neg goesOn]
  rcases Record.isUnset_eq_true.1 unset with h | h <;> simp [h, imp_iff_not_or]

/-- The report of a field is what the check of the field gives. -/
theorem fieldReport_iff : FieldReport mode r f found ↔ fieldViolations mode r f = found := by
  constructor
  · rintro (⟨rfl, absent⟩ | ⟨looked, unset, required, owed⟩ | ⟨looked, unset, free⟩
      | ⟨given, some, refused⟩ | ⟨given, some, accepted, inOrder, exactly⟩)
    · exact fieldViolations_unnamed absent
    · rw [fieldViolations_unset looked unset, if_pos ⟨required, owed⟩]
    · rw [fieldViolations_unset looked unset, if_neg]
      rintro ⟨required, owed⟩
      rcases free with free | ⟨creates, numbered⟩
      · simp [free] at required
      · simp [owed creates] at numbered
    · rw [fieldViolations_value given some, Field.check, refused]
      rfl
    · rw [fieldViolations_value given some]
      exact (Field.check_eq_iff accepted).2 ⟨inOrder, exactly⟩
  · rintro rfl
    by_cases unset : r.isUnset f.name = true
    · by_cases looked : mode = .create ∨ f.name ∈ r.fields
      · rw [fieldViolations_unset looked unset]
        split
        · next h => exact .missing looked unset h.1 h.2
        · next h =>
          refine .omitted looked unset ?_
          by_cases required : f.required = true
          · have free : ¬ (mode = .create → f.autoIncrement = false) :=
              fun owed => h ⟨required, owed⟩
            exact .inr (by simpa using free)
          · exact .inl (Bool.eq_false_iff.2 required)
      · have changes : mode = .partialUpdate := by
          cases mode with
          | create => exact absurd (.inl rfl) looked
          | partialUpdate => rfl
        subst changes
        have absent : f.name ∉ r.fields := fun present => looked (.inr present)
        rw [fieldViolations_unnamed absent]
        exact .unnamed rfl absent
    · obtain ⟨v, given, some⟩ := Record.isUnset_eq_false.1 (Bool.eq_false_iff.2 unset)
      have some' : v ≠ .null := by
        rintro rfl
        cases some
      rw [fieldViolations_value given some']
      cases accepted : f.kind.accepts v with
      | false =>
        rw [Field.check, accepted]
        exact .mistyped given some' accepted
      | true =>
        obtain ⟨inOrder, exactly⟩ := (Field.check_eq_iff accepted).1 rfl
        exact .checked given some' accepted inOrder exactly

/-! ### The whole record -/

theorem unknownFields_eq : s.unknownFields r = (s.undeclared r).map fun name =>
    ⟨name, name ++ " is not a field of " ++ s.table, "unknown"⟩ := by
  have same : ∀ name, (!s.hasField name) = decide (name ∉ s.fields.map Field.name) := by
    intro name
    rw [Bool.eq_iff_iff]
    simp [hasField, field?]
  rw [unknownFields, undeclared, funext same]

theorem reports_iff : s.Reports mode r found ↔ found = s.violations mode r := by
  have each : FieldReport mode r = fun f found => fieldViolations mode r f = found :=
    funext fun f => funext fun found => propext fieldReport_iff
  have fields : ∀ reports, List.Forall₂ (FieldReport mode r) s.fields reports ↔
      s.fields.map (fieldViolations mode r) = reports := by
    intro reports
    rw [each, ← List.forall₂_map_left_iff (R := Eq), List.forall₂_eq_eq_eq]
  simp only [Reports, fields, violations, unknownFields_eq, List.flatMap_def, exists_eq_left']

theorem field_and_code_of_mem {x : Violation} (h : x ∈ fieldViolations mode r f) :
    x.field = f.name ∧ x.code ≠ "unknown" :=
  (fieldReport_iff.2 rfl).field_and_code x h

/-- The violations of one name: what its fields say, and what is said if it is not declared. -/
theorem ofField_violations (name : String) :
    Violation.ofField name (s.violations mode r)
      = (s.fields.filter (·.name == name)).flatMap (fieldViolations mode r)
        ++ Violation.ofField name (s.unknownFields r) := by
  rw [violations, Violation.ofField, List.filter_append]
  congr 1
  induction s.fields with
  | nil => rfl
  | cons f rest ih =>
    rw [List.flatMap_cons, List.filter_append, ih, List.filter_cons]
    by_cases h : f.name = name
    · have all : ∀ x ∈ fieldViolations mode r f, (x.field == name) = true := fun x mem => by
        simpa [h] using (field_and_code_of_mem mem).1
      simp [h, List.filter_eq_self.2 all]
    · have none : ∀ x ∈ fieldViolations mode r f, ¬ (x.field == name) = true := fun x mem => by
        simpa [(field_and_code_of_mem mem).1] using h
      simp [h, List.filter_eq_nil_iff.2 none]

/-- What is reported of a field that shares its name with no other is what is wrong with it. -/
theorem ofField_violations_of_mem (distinct : (s.fields.map Field.name).Nodup) (hf : f ∈ s.fields) :
    Violation.ofField f.name (s.violations mode r) = fieldViolations mode r f := by
  have alone : s.fields.filter (·.name == f.name) = [f] := by
    obtain ⟨before, after, split⟩ := List.append_of_mem hf
    rw [split, List.map_append, List.map_cons, List.nodup_append, List.nodup_cons] at distinct
    obtain ⟨-, ⟨fresh, -⟩, apart⟩ := distinct
    have first : before.filter (·.name == f.name) = [] := List.filter_eq_nil_iff.2 fun g hg => by
      simpa using apart g.name (List.mem_map_of_mem hg) f.name List.mem_cons_self
    have last : after.filter (·.name == f.name) = [] := List.filter_eq_nil_iff.2 fun g hg same =>
      fresh (beq_iff_eq.1 same ▸ List.mem_map_of_mem hg)
    simp [split, first, last]
  -- The other reports are of names that are not declared.
  have foreign : Violation.ofField f.name (s.unknownFields r) = [] := by
    refine List.filter_eq_nil_iff.2 fun x hx same => ?_
    rw [unknownFields_eq] at hx
    obtain ⟨name, unknown, rfl⟩ := List.mem_map.1 hx
    have named : name = f.name := beq_iff_eq.1 same
    exact of_decide_eq_true (List.mem_filter.1 unknown).2 (named ▸ List.mem_map_of_mem hf)
  rw [ofField_violations, alone, foreign, List.append_nil, List.flatMap_singleton]

/-! ### Records alike -/

/-- The order of the entries matters to the undeclared names only. -/
theorem violations_of_perm (mode : ValidationMode) (h : r'.entries.Perm r.entries) :
    ∃ declared tail tail', s.violations mode r = declared ++ tail ∧
      s.violations mode r' = declared ++ tail' ∧ tail'.Perm tail ∧
      (∀ x ∈ declared, x.code ≠ "unknown") ∧ ∀ x ∈ tail, x.code = "unknown" := by
  refine ⟨_, _, s.unknownFields r', rfl, ?_, ?_, ?_, ?_⟩
  · have same : fieldViolations mode r' = fieldViolations mode r :=
      funext fun f => fieldViolations_congr (Record.get?_of_perm h f.name)
    rw [violations, same]
  · exact ((h.map Prod.fst).filter _).map _
  · intro x mem
    obtain ⟨f, -, mem⟩ := List.mem_flatMap.1 mem
    exact (field_and_code_of_mem mem).2
  · intro x mem
    obtain ⟨name, -, rfl⟩ := List.mem_map.1 mem
    rfl

/-- Both modes say the same about a name that has a value. -/
theorem ofField_violations_mode {name : String} (given : r.get? name = some v) (some : v ≠ .null) :
    Violation.ofField name (s.violations .create r)
      = Violation.ofField name (s.violations .partialUpdate r) := by
  rw [ofField_violations, ofField_violations]
  congr 1
  refine List.flatMap_congr fun f mem => ?_
  have bears : f.name = name := by simpa using (List.mem_filter.1 mem).2
  subst bears
  rw [fieldViolations_value given some, fieldViolations_value given some]

/-- Parts of a valid record are valid as changes, but for null in a field that is required and that
the engine numbers. -/
theorem violations_of_subset (part : r'.entries ⊆ r.entries) (valid : s.violations .create r = [])
    (numbered : ∀ f ∈ s.fields, f.required = true → f.autoIncrement = true →
      r'.get? f.name ≠ some .null) :
    s.violations .partialUpdate r' = [] := by
  obtain ⟨fields, names⟩ := List.append_eq_nil_iff.1 valid
  refine List.append_eq_nil_iff.2 ⟨?_, ?_⟩
  · refine List.flatMap_eq_nil_iff.2 fun f mem => fieldViolations_eq_nil.2 fun v given => ?_
    have whole := List.flatMap_eq_nil_iff.1 fields f mem
    have given' := Record.get?_eq_some_iff.2 (part (Record.get?_eq_some_iff.1 given))
    constructor
    · rintro rfl
      -- A valid record has null only where none is required or the engine numbers the rows.
      by_contra required
      have required : f.required = true := by simpa using required
      have owed : f.autoIncrement = false :=
        Bool.eq_false_iff.2 fun counted => numbered f mem required counted given
      have unset := Record.isUnset_eq_true.2 (.inr given')
      rw [fieldViolations_unset (.inl rfl) unset, if_pos ⟨required, fun _ => owed⟩] at whole
      cases whole
    · intro some
      rwa [fieldViolations_value given' some] at whole
  · have kept : r'.fields ⊆ r.fields := List.map_subset _ part
    rw [unknownFields, List.map_eq_nil_iff, List.filter_eq_nil_iff] at names ⊢
    exact fun name mem => names name (kept mem)

/-- **Validation reports exactly what is wrong**: the reports of the fields in the order of their
declaration and then the undeclared names in the order of the record. So the order of the record
matters to the end only, both modes say the same about a field with a value, and parts of a valid
record are valid as changes, but for null in a field that is required and that the engine
numbers. -/
theorem violations_report (s : Schema) (r : Record) :
    (∀ mode found, s.Reports mode r found ↔ found = s.violations mode r) ∧
    (∀ (mode : ValidationMode) (r' : Record), r'.entries.Perm r.entries →
      ∃ declared tail tail', s.violations mode r = declared ++ tail ∧
        s.violations mode r' = declared ++ tail' ∧ tail'.Perm tail ∧
        (∀ x ∈ declared, x.code ≠ "unknown") ∧ ∀ x ∈ tail, x.code = "unknown") ∧
    (∀ (name : String) (v : Value), r.get? name = some v → v ≠ .null →
      Violation.ofField name (s.violations .create r)
        = Violation.ofField name (s.violations .partialUpdate r)) ∧
    ∀ r' : Record, r'.entries ⊆ r.entries → s.violations .create r = [] →
      (∀ f ∈ s.fields, f.required = true → f.autoIncrement = true →
        r'.get? f.name ≠ some .null) →
      s.violations .partialUpdate r' = [] :=
  ⟨fun _ _ => reports_iff, fun mode _ h => violations_of_perm mode h,
    fun _ _ given some => ofField_violations_mode given some,
    fun _ part valid numbered => violations_of_subset part valid numbered⟩

end Schema

end RecordMapper
