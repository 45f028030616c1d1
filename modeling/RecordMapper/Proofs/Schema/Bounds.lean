import RecordMapper.Proofs.Binary64.Rounding
import RecordMapper.Proofs.Schema.Declaration
import RecordMapper.Proofs.Schema.Violations

/-!
# Bounds of numbers

Which numbers pass the bounds of a field.

* `Value.AtLeast` and `Value.AtMost` compare a number with a bound by their exact values.
* A whole number is rounded before it is compared, so that one of more than 53 binary digits may
  pass although it is out of bounds; then it is rounded to the bound itself (`Value.RoundsTo`). NaN
  passes every bound.
* `range_checked`: these are all the exceptions.
-/

namespace RecordMapper

namespace Value

/-! ## Exact comparison -/

/-- A number is at least a bound, by their exact values. -/
def AtLeast (low : Finite) : Value → Prop
  | .int n => low.signedUnits ≤ n.toInt * unitsPerOne
  | .float (.finite x) => low.signedUnits ≤ x.signedUnits
  | .float (.infinite negative) => negative = false
  | _ => False

/-- A number is at most a bound, by their exact values. -/
def AtMost (high : Finite) : Value → Prop
  | .int n => n.toInt * unitsPerOne ≤ high.signedUnits
  | .float (.finite x) => x.signedUnits ≤ high.signedUnits
  | .float (.infinite negative) => negative = true
  | _ => False

instance (low : Finite) : ∀ v : Value, Decidable (v.AtLeast low)
  | .int _ | .float (.finite _) => inferInstanceAs (Decidable (_ ≤ _))
  | .float (.infinite _) => inferInstanceAs (Decidable (_ = _))
  | .float .nan | .null | .bool _ | .text _ | .instant _ | .document _ =>
    inferInstanceAs (Decidable False)

instance (high : Finite) : ∀ v : Value, Decidable (v.AtMost high)
  | .int _ | .float (.finite _) => inferInstanceAs (Decidable (_ ≤ _))
  | .float (.infinite _) => inferInstanceAs (Decidable (_ = _))
  | .float .nan | .null | .bool _ | .text _ | .instant _ | .document _ =>
    inferInstanceAs (Decidable False)

/-- A whole number of more than 53 binary digits is rounded to a bound. -/
def RoundsTo (bound : Finite) (v : Value) : Prop :=
  ∃ n : Int64, v = .int n ∧ 2 ^ 53 < n.toInt.natAbs ∧
    (Binary64.ofInt n.toInt).same (.finite bound) = true

/-- The number that a whole number is compared as. -/
theorem rounds_int (n : Int64) :
    ∃ x, Binary64.ofInt n.toInt = .finite x ∧ Binary64.Rounds n.toInt x := by
  have := n.toInt_lt
  have := n.le_toInt
  exact Binary64.rounds_ofInt (by omega)

theorem roundsTo_int {n : Int64} {x bound : Finite}
    (rounded : Binary64.ofInt n.toInt = .finite x) : (Value.int n).RoundsTo bound ↔
      2 ^ 53 < n.toInt.natAbs ∧ x.signedUnits = bound.signedUnits := by
  have same : (Binary64.finite x).same (.finite bound) = true ↔
      x.signedUnits = bound.signedUnits := by
    rw [Binary64.same, beq_iff_eq, le_antisymm_iff, le_antisymm_iff, Finite.signedUnits_le,
      Finite.signedUnits_le]
  rw [← same, ← rounded]
  constructor
  · rintro ⟨m, own, large, equal⟩
    exact Value.int.inj own ▸ ⟨large, equal⟩
  · rintro ⟨large, equal⟩
    exact ⟨n, rfl, large, equal⟩

variable {v : Value} {y : Binary64} {low high : Finite}

/-- **What passes a lower bound**: NaN, what is at least the bound, and what is rounded to it. -/
theorem not_less_iff (number : v.asFloat? = some y) : y.less (.finite low) = false ↔
    v = .float .nan ∨ v.AtLeast low ∨ v.RoundsTo low := by
  cases v with
  | float x =>
    obtain rfl : x = y := Option.some.inj number
    cases x <;> simp [Binary64.less, AtLeast, RoundsTo, Finite.signedUnits_le]
  | int n =>
    obtain rfl : Binary64.ofInt n.toInt = y := Option.some.inj number
    obtain ⟨x, rounded, reaches, reached, exact⟩ := rounds_int n
    have reaches := reaches low
    have reached := reached low
    rw [roundsTo_int rounded, rounded]
    simp only [Binary64.less, AtLeast, decide_eq_false_iff_not, Int.not_lt, ← Finite.signedUnits_le,
      reduceCtorEq, false_or]
    omega
  | _ => cases number

/-- **What passes an upper bound**: NaN, what is at most the bound, and what is rounded to it. -/
theorem not_more_iff (number : v.asFloat? = some y) : Binary64.less (.finite high) y = false ↔
    v = .float .nan ∨ v.AtMost high ∨ v.RoundsTo high := by
  cases v with
  | float x =>
    obtain rfl : x = y := Option.some.inj number
    cases x <;> simp [Binary64.less, AtMost, RoundsTo, Finite.signedUnits_le]
  | int n =>
    obtain rfl : Binary64.ofInt n.toInt = y := Option.some.inj number
    obtain ⟨x, rounded, reaches, reached, exact⟩ := rounds_int n
    have reaches := reaches high
    have reached := reached high
    rw [roundsTo_int rounded, rounded]
    simp only [Binary64.less, AtMost, decide_eq_false_iff_not, Int.not_lt, ← Finite.signedUnits_le,
      reduceCtorEq, false_or]
    omega
  | _ => cases number

end Value

/-! ## What is said about a number -/

/-- Nothing is said about the bounds of a field if a number passes them. -/
theorem Field.bounds_pass {f : Field} {v : Value} {y : Binary64} (kind : f.kind = .number)
    (number : v.asFloat? = some y) :
    (∀ x ∈ f.check v, x.code ≠ "min_value" ∧ x.code ≠ "max_value") ↔
      (∀ b, f.min = some b → y.less b = false) ∧ ∀ b, f.max = some b → b.less y = false := by
  have accepted : f.kind.accepts v = true := by
    rw [kind]
    cases v with
    | int | float => rfl
    | _ => cases number
  have reported (x : Violation) : x ∈ f.check v ↔ f.Breaks v x :=
    ((Field.check_eq_iff accepted).1 rfl).2 x
  constructor
  · intro silent
    refine ⟨fun b bound => Bool.eq_false_iff.2 fun less => ?_,
      fun b bound => Bool.eq_false_iff.2 fun more => ?_⟩
    · exact (silent _ ((reported _).2 (.low bound number less))).1 rfl
    · exact (silent _ ((reported _).2 (.high bound number more))).2 rfl
  · rintro ⟨low, high⟩ x said
    -- Of all rules, only the two about bounds have these codes.
    rcases (reported x).1 said with _ | _ | ⟨bound, is, less⟩ | ⟨bound, is, more⟩ | _ | _
    case low =>
      obtain rfl := Option.some.inj (number.symm.trans is)
      exact absurd less (Bool.eq_false_iff.1 (low _ bound))
    case high =>
      obtain rfl := Option.some.inj (number.symm.trans is)
      exact absurd more (Bool.eq_false_iff.1 (high _ bound))
    all_goals exact ⟨by simp, by simp⟩

/-- **The numbers that pass the bounds of a field** are those within them, NaN, and whole numbers
that are rounded to the bound which they are beyond. -/
theorem range_checked {table : String} {declared : List Field} {options : SchemaOptions}
    {s : Schema} (hs : Schema.declare table declared options = .ok s) {f : Field}
    (hf : f ∈ s.fields) (kind : f.kind = .number)
    (finite : ∀ b, f.min = some b ∨ f.max = some b → ∃ x, b = .finite x) (mode : ValidationMode)
    {r : Record} {v : Value} (given : r.get? f.name = some v)
    (number : (∃ n, v = .int n) ∨ ∃ x, v = .float x) :
    (∀ x ∈ Violation.ofField f.name (s.violations mode r),
        x.code ≠ "min_value" ∧ x.code ≠ "max_value") ↔
      v = .float .nan ∨
        (∀ low, f.min = some (.finite low) → v.AtLeast low ∨ v.RoundsTo low) ∧
        ∀ high, f.max = some (.finite high) → v.AtMost high ∨ v.RoundsTo high := by
  obtain ⟨y, number, given'⟩ : ∃ y, v.asFloat? = some y ∧ v ≠ .null := by
    rcases number with ⟨n, rfl⟩ | ⟨x, rfl⟩
    · exact ⟨_, rfl, fun null => by cases null⟩
    · exact ⟨_, rfl, fun null => by cases null⟩
  have lower : (∀ b, f.min = some b → y.less b = false) ↔
      ∀ low, f.min = some (.finite low) →
        v = .float .nan ∨ v.AtLeast low ∨ v.RoundsTo low := by
    refine ⟨fun pass low bound => (Value.not_less_iff number).1 (pass _ bound), ?_⟩
    intro pass b bound
    obtain ⟨low, rfl⟩ := finite b (.inl bound)
    exact (Value.not_less_iff number).2 (pass low bound)
  have upper : (∀ b, f.max = some b → b.less y = false) ↔
      ∀ high, f.max = some (.finite high) →
        v = .float .nan ∨ v.AtMost high ∨ v.RoundsTo high := by
    refine ⟨fun pass high bound => (Value.not_more_iff number).1 (pass _ bound), ?_⟩
    intro pass b bound
    obtain ⟨high, rfl⟩ := finite b (.inr bound)
    exact (Value.not_more_iff number).2 (pass high bound)
  rw [Schema.ofField_violations_of_mem (Schema.nodup_of_declare hs) hf,
    Schema.fieldViolations_value given given', Field.bounds_pass kind number, lower, upper]
  by_cases nan : v = .float .nan
  · simp [nan]
  · simp [nan]

/-- The greatest number up to which all whole numbers are numbers of this format, 2 ^ 53. -/
def lastExact : Finite :=
  ⟨false, ⟨0x4340000000000000, by decide⟩⟩

/-- A table of levels between 0 and 2 ^ 53. -/
def levels : Schema :=
  ⟨"levels", [.id "id",
    { name := "level", kind := .number, min := some (.finite (.zero false))
      max := some (.finite lastExact) }], {}, 0⟩

theorem level_in_range :
    Schema.declare "levels" levels.fields {} = .ok levels ∧
      (∀ x ∈ Violation.ofField "level" (levels.violations .create (.ofEntries [("level", .int 7)])),
        x.code ≠ "min_value" ∧ x.code ≠ "max_value") := by
  have declared : Schema.declare "levels" levels.fields {} = .ok levels := rfl
  have finite (b : Binary64)
      (bound : some (Binary64.finite (.zero false)) = some b ∨ some (.finite lastExact) = some b) :
      ∃ x, b = .finite x := by
    rcases bound with bound | bound <;> exact ⟨_, (Option.some.inj bound).symm⟩
  refine ⟨declared, (range_checked declared (List.mem_cons_of_mem _ List.mem_cons_self) rfl finite
    .create rfl (.inl ⟨7, rfl⟩)).2 (.inr ⟨?_, ?_⟩)⟩
  · rintro _ ⟨⟩
    exact .inl (by decide +kernel)
  · rintro _ ⟨⟩
    exact .inl (by decide +kernel)

/-- **Numbers out of bounds pass**: 2 ^ 53 + 1 is rounded down to the bound, and NaN is compared
with both bounds in vain. -/
theorem level_out_of_range :
    Schema.declare "levels" levels.fields {} = .ok levels ∧
      levels.violations .create (.ofEntries [("level", .int 9007199254740993)]) = [] ∧
      ¬ (Value.int 9007199254740993).AtMost lastExact ∧
      levels.violations .create (.ofEntries [("level", .float .nan)]) = [] ∧
      ¬ (Value.float .nan).AtLeast (.zero false) ∧ ¬ (Value.float .nan).AtMost lastExact :=
  ⟨rfl, by decide +kernel, by decide +kernel, by decide +kernel, by decide +kernel,
    by decide +kernel⟩

end RecordMapper
