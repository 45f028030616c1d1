import RecordMapper.Proofs.Record
import RecordMapper.Schema.Validation

/-!
# When validation succeeds

* `Field.check_eq_nil`: nothing is wrong with a value that the kind and every constraint accept.
* `Schema.fieldViolations_eq_nil`: nothing is wrong with a field that may be unset and is, or whose
  value passes.
* `Schema.validate_eq_ok`: a record passes validation if nothing is wrong with any field and it has
  no other names.
-/

namespace RecordMapper

namespace Field

/-- The constraints of a field admit a value. -/
def Admits (f : Field) (v : Value) : Prop :=
  ∀ c ∈ f.constraints, c.check f.name v = none

instance (f : Field) (v : Value) : Decidable (f.Admits v) :=
  inferInstanceAs (Decidable (∀ c ∈ f.constraints, c.check f.name v = none))

theorem check_eq_nil {f : Field} {v : Value} :
    f.check v = [] ↔ f.kind.accepts v = true ∧ f.Admits v := by
  unfold check
  split
  · next accepts => simp [accepts, Admits]
  · next refused => simp [refused]

end Field

namespace Schema

variable {s : Schema} {mode : ValidationMode} {r : Record} {f : Field} {v : Value}

theorem fieldViolations_value (hv : r.get? f.name = some v) (some : v ≠ .null) :
    fieldViolations mode r f = f.check v := by
  have present : r.contains f.name = true := by
    rw [Record.contains, List.contains_iff_mem, Record.mem_fields, hv]
    rfl
  unfold fieldViolations
  rw [if_neg (by simp [present]), hv]
  cases v with
  | null => exact absurd rfl some
  | _ => rfl

/-- In an update, nothing is wrong with the fields that it does not name, with those that it sets to
null although nothing is required, and with those whose value passes. -/
theorem fieldViolations_eq_nil :
    fieldViolations .partialUpdate r f = [] ↔ ∀ v, r.get? f.name = some v →
      (v = .null → f.required = false) ∧ (v ≠ .null → f.check v = []) := by
  rcases hv : r.get? f.name with _ | v
  · have absent : r.contains f.name = false := by
      rw [← Bool.not_eq_true, Record.contains, List.contains_iff_mem, Record.mem_fields, hv]
      simp
    simp [fieldViolations, absent]
  · by_cases null : v = .null
    · have present : r.contains f.name = true := by
        rw [Record.contains, List.contains_iff_mem, Record.mem_fields, hv]
        rfl
      subst null
      simp [fieldViolations, present, hv]
    · rw [fieldViolations_value hv null]
      simp [null]

/-- Validation fails where there are violations, and reports all of them. -/
theorem validate_eq_error {e : Error} : s.validate mode r = .error e ↔
    s.violations mode r ≠ [] ∧ e = .validation (s.violations mode r) := by
  unfold validate Violation.check
  cases s.violations mode r <;> simp [eq_comm]

/-- A record passes validation if nothing is wrong with any field and it has no other names. -/
theorem validate_eq_ok {s : Schema} {mode : ValidationMode} {r : Record} :
    s.validate mode r = .ok () ↔
      (∀ f ∈ s.fields, fieldViolations mode r f = []) ∧
        ∀ name ∈ r.fields, s.hasField name = true := by
  have known : s.unknownFields r = [] ↔ ∀ name ∈ r.fields, s.hasField name = true := by
    rw [unknownFields, List.map_eq_nil_iff, List.filter_eq_nil_iff]
    simp
  have nothing : s.violations mode r = [] ↔ _ := List.append_eq_nil_iff
  rw [← known, ← List.flatMap_eq_nil_iff, ← nothing]
  unfold validate Violation.check
  split
  · next none => exact iff_of_true rfl (List.isEmpty_iff.1 none)
  · next some => exact iff_of_false (fun h => by cases h) fun none => some (List.isEmpty_iff.2 none)

/-- A value of a valid record passes the check of its field. -/
theorem check_of_validate (h : s.validate mode r = .ok ()) (hf : f ∈ s.fields)
    (hv : r.get? f.name = some v) (some : v ≠ .null) : f.check v = [] := by
  have same : fieldViolations mode r f = f.check v := fieldViolations_value hv some
  rw [← same]
  exact (validate_eq_ok.1 h).1 f hf

/-! ### Changes of one field -/

/-- What is wrong with the value of a field does not depend on the other fields. -/
theorem fieldViolations_congr {r' : Record} (h : r'.get? f.name = r.get? f.name) :
    fieldViolations mode r' f = fieldViolations mode r f := by
  have present : r'.contains f.name = r.contains f.name := by
    rw [Bool.eq_iff_iff, Record.contains, Record.contains, List.contains_iff_mem,
      List.contains_iff_mem, Record.mem_fields, Record.mem_fields, h]
  rw [fieldViolations, fieldViolations, present, h]

theorem fieldViolations_absent (h : r.get? f.name = none) :
    fieldViolations .partialUpdate r f = [] :=
  fieldViolations_eq_nil.2 fun v given => by
    rw [h] at given
    cases given

/-- A change with a field left out is valid if it was. -/
theorem validate_erase (h : s.validate .partialUpdate r = .ok ()) (name : String) :
    s.validate .partialUpdate (r.erase name) = .ok () := by
  obtain ⟨fields, names⟩ := validate_eq_ok.1 h
  refine validate_eq_ok.2 ⟨fun f hf => ?_, fun n hn => ?_⟩
  · by_cases erased : name = f.name
    · exact fieldViolations_absent (by rw [Record.get?_erase, if_pos erased])
    · exact (fieldViolations_congr (by rw [Record.get?_erase, if_neg erased])).trans (fields f hf)
  · rw [Record.fields_erase] at hn
    exact names n (List.mem_filter.1 hn).1

/-- **A change with one more field** is valid if the value passes the check of its field and the
rest is valid. -/
theorem validate_set {name : String} (declared : s.hasField name = true) (some : v ≠ .null) :
    s.validate .partialUpdate (r.set name v) = .ok () ↔
      (∀ f ∈ s.fields, f.name = name → f.check v = []) ∧
        s.validate .partialUpdate (r.erase name) = .ok () := by
  have here {f : Field} (bears : f.name = name) :
      fieldViolations .partialUpdate (r.set name v) f = f.check v :=
    fieldViolations_value (by rw [Record.get?_set, if_pos bears.symm]) some
  have elsewhere {f : Field} (other : f.name ≠ name) :
      fieldViolations .partialUpdate (r.set name v) f
        = fieldViolations .partialUpdate (r.erase name) f :=
    fieldViolations_congr (by
      rw [Record.get?_set, Record.get?_erase, if_neg other.symm, if_neg other.symm])
  have left {f : Field} (bears : f.name = name) :
      fieldViolations .partialUpdate (r.erase name) f = [] :=
    fieldViolations_absent (by rw [Record.get?_erase, if_pos bears.symm])
  rw [validate_eq_ok, validate_eq_ok]
  constructor
  · rintro ⟨fields, names⟩
    refine ⟨fun f hf bears => (here bears).symm.trans (fields f hf), fun f hf => ?_, fun n hn => ?_⟩
    · by_cases bears : f.name = name
      · exact left bears
      · exact (elsewhere bears).symm.trans (fields f hf)
    · rw [Record.fields_erase] at hn
      refine names n ?_
      rw [Record.fields_set]
      split
      · exact (List.mem_filter.1 hn).1
      · exact List.mem_append_left _ (List.mem_filter.1 hn).1
  · rintro ⟨passes, fields, names⟩
    refine ⟨fun f hf => ?_, fun n hn => ?_⟩
    · by_cases bears : f.name = name
      · exact (here bears).trans (passes f hf bears)
      · exact (elsewhere bears).trans (fields f hf)
    · by_cases same : n = name
      · rwa [same]
      · refine names n ?_
        rw [Record.fields_erase, List.mem_filter]
        refine ⟨?_, by simpa using same⟩
        rw [Record.fields_set] at hn
        split at hn
        · exact hn
        · exact (List.mem_append.1 hn).resolve_right (by simpa using same)

end Schema

end RecordMapper
