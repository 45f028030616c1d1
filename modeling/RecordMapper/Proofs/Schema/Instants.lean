import RecordMapper.Proofs.Instant.Canonical
import RecordMapper.Proofs.Schema.Violations

/-!
# Fields that take the text of an instant

Instants are stored as their canonical texts, which a field has to admit as it admits other texts.

* `Field.TakesText`: what the kind and the constraints of a field require of the text of an instant.
* `Field.check_canonical`: nothing is wrong with the text exactly if the field takes it.
* `Field.takesText_of_plain`: a date without constraints takes it as long as the year has four
  digits.
-/

namespace RecordMapper

/-- Only a text itself is the same as it. -/
theorem Value.same_text {v : Value} {s : String} : v.same (.text s) = true ↔ v = .text s := by
  cases v <;> simp [same]

namespace Field

variable {f : Field} {t : Instant}

/-- A field takes the text of an instant. -/
structure TakesText (f : Field) (t : Instant) : Prop where
  /-- Numbers and truth values are no texts. -/
  kind : f.kind ≠ .number ∧ f.kind ≠ .boolean
  /-- A date is read back. -/
  read : f.kind = .date → (Instant.ofText? t.canonical).isSome = true
  /-- There are enough characters. -/
  least : ∀ n, f.minLength = some n → n ≤ t.canonical.length
  /-- There are not too many characters. -/
  most : ∀ n, f.maxLength = some n → t.canonical.length ≤ n
  /-- The text is one of the allowed values; the instant is another value. -/
  listed : ∀ values, f.choices = some values → .text t.canonical ∈ values
  /-- The caller's rule does not complain about the text. -/
  admitted : ∀ complaint, f.custom = some complaint → complaint (.text t.canonical) = none

theorem accepts_canonical : f.kind.accepts (.text t.canonical) = true ↔
    (f.kind ≠ .number ∧ f.kind ≠ .boolean) ∧
      (f.kind = .date → (Instant.ofText? t.canonical).isSome = true) := by
  cases f.kind <;> simp [Kind.accepts]

theorem admits_canonical : f.Admits (.text t.canonical) ↔
    (∀ n, f.minLength = some n → n ≤ t.canonical.length) ∧
    (∀ n, f.maxLength = some n → t.canonical.length ≤ n) ∧
    (∀ values, f.choices = some values → .text t.canonical ∈ values) ∧
    ∀ complaint, f.custom = some complaint → complaint (.text t.canonical) = none := by
  rw [admits_iff]
  constructor
  · intro whole
    refine ⟨fun n bound => Nat.le_of_not_lt fun less => whole _ (.short bound rfl less),
      fun n bound => Nat.le_of_not_lt fun more => whole _ (.long bound rfl more),
      fun values listed => ?_, fun complaint rule => ?_⟩
    · by_contra missing
      refine whole _ (.unlisted listed fun allowed mem => ?_)
      rw [← Bool.not_eq_true, Value.same_text]
      rintro rfl
      exact missing mem
    · exact Option.eq_none_iff_forall_ne_some.2 fun message complains =>
        whole _ (.refused rule complains)
  · rintro ⟨least, most, listed, admitted⟩ x
      (⟨bound, ⟨⟩, less⟩ | ⟨bound, ⟨⟩, more⟩ | ⟨-, ⟨⟩, -⟩ | ⟨-, ⟨⟩, -⟩ | ⟨choices, other⟩
        | ⟨rule, complains⟩)
    · exact absurd (least _ bound) (Nat.not_le_of_lt less)
    · exact absurd (most _ bound) (Nat.not_le_of_lt more)
    · have same := other _ (listed _ choices)
      rw [← Bool.not_eq_true, Value.same_text] at same
      exact same rfl
    · rw [admitted _ rule] at complains
      cases complains

/-- **Nothing is wrong with the text of an instant** exactly if the field takes it. -/
theorem check_canonical : f.check (.text t.canonical) = [] ↔ f.TakesText t := by
  rw [check_eq_nil, accepts_canonical, admits_canonical]
  constructor
  · rintro ⟨⟨kind, read⟩, least, most, listed, admitted⟩
    exact ⟨kind, read, least, most, listed, admitted⟩
  · rintro ⟨kind, read, least, most, listed, admitted⟩
    exact ⟨⟨kind, read⟩, least, most, listed, admitted⟩

/-- A date without constraints takes all instants of years with four digits. -/
theorem takesText_of_plain (kind : f.kind = .date) (free : f.constraints = [])
    (year : 0 ≤ t.date.year ∧ t.date.year ≤ 9999) : f.TakesText t := by
  have accepted : f.kind.accepts (.text t.canonical) = true :=
    accepts_canonical.2 ⟨by simp [kind], fun _ => Instant.ofText?_canonical year⟩
  refine check_canonical.1 (check_eq_nil.2 ⟨accepted, ?_⟩)
  rw [Admits, free]
  exact List.forall_mem_nil _

end Field

end RecordMapper
