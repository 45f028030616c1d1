import RecordMapper.Proofs.Sql.Lexeme
import RecordMapper.Sql.Condition

/-!
# Reading conditions

A reader of the condition of a statement, as an engine has one: it sees the lexemes of the text and
binds the parameters to the placeholders from left to right.

* `Reader.predicate` reads one predicate on a column. The `AND` of `BETWEEN` belongs to it.
* `Reader.conjunction` reads predicates with `AND` between each two, as long as an `AND` follows.
* `Statement.conjunction?` reads a whole text; every lexeme and every parameter is used.
-/

namespace RecordMapper

/-- A text without those words and signs that make up predicates, which can name a column. -/
def IsColumn (name : String) : Prop :=
  Lexeme.IsWord name ∧
    ∀ keyword ∈ ["AND", "OR", "NOT", "IN", "LIKE", "BETWEEN", "IS", "NULL"],
      Text.sameLetters keyword name = false

instance (name : String) : Decidable (IsColumn name) := inferInstanceAs (Decidable (_ ∧ _))

namespace Reader

/-- What is left to read: lexemes, and parameters for the placeholders among them. -/
structure Source where
  /-- The lexemes. -/
  tokens : List String
  /-- The parameters. -/
  params : List Value
deriving DecidableEq, Repr

/-- Placeholders with commas between and a bracket behind, with their values. -/
def values : List String → List Value → Option (List Value × Source)
  | "?" :: ")" :: tokens, v :: params => some ([v], ⟨tokens, params⟩)
  | "?" :: "," :: tokens, v :: params =>
    (values tokens params).map fun (found, rest) => (v :: found, rest)
  | _, _ => none

/-- A list of values after `IN (`. -/
def member (field : String) (negated : Bool) (tokens : List String) (params : List Value) :
    Option (Predicate × Source) :=
  match values tokens params with
  | some (first :: more, rest) => some (.member field negated first more, rest)
  | _ => none

/-- A comparison with one value. -/
def comparison (field spelling : String) (tokens : List String) (params : List Value) :
    Option (Predicate × Source) :=
  match Operator.ofSpelling? spelling, params with
  | some (.compare c), v :: params => some (.compare field c v, ⟨tokens, params⟩)
  | _, _ => none

/-- What follows a column. -/
def test (field : String) : List String → List Value → Option (Predicate × Source)
  | "IS" :: "NULL" :: tokens, params => some (.null field false, ⟨tokens, params⟩)
  | "IS" :: "NOT" :: "NULL" :: tokens, params => some (.null field true, ⟨tokens, params⟩)
  | "IN" :: "(" :: tokens, params => member field false tokens params
  | "NOT" :: "IN" :: "(" :: tokens, params => member field true tokens params
  | "BETWEEN" :: "?" :: "AND" :: "?" :: tokens, low :: high :: params =>
    some (.between field low high, ⟨tokens, params⟩)
  | "NOT" :: "LIKE" :: "?" :: tokens, params => comparison field "NOT LIKE" tokens params
  | sign :: "?" :: tokens, params => comparison field sign tokens params
  | _, _ => none

/-- One predicate. -/
def predicate : Source → Option (Predicate × Source)
  | ⟨"1" :: "=" :: "0" :: tokens, params⟩ => some (.never, ⟨tokens, params⟩)
  | ⟨field :: tokens, params⟩ => if IsColumn field then test field tokens params else none
  | ⟨[], _⟩ => none

/-! ## Every part uses up lexemes -/

theorem length_values {tokens : List String} {params found : List Value} {rest : Source}
    (h : values tokens params = some (found, rest)) : rest.tokens.length < tokens.length := by
  fun_induction values tokens params generalizing found with
  | case1 tokens v params =>
    cases h
    simp only [List.length_cons]
    omega
  | case2 tokens v params ih =>
    obtain ⟨⟨more, rest'⟩, hm, he⟩ := Option.map_eq_some_iff.1 h
    cases he
    have := ih hm
    simp only [List.length_cons]
    omega
  | case3 => cases h

theorem length_member {field : String} {negated : Bool} {tokens : List String}
    {params : List Value} {p : Predicate} {rest : Source}
    (h : member field negated tokens params = some (p, rest)) :
    rest.tokens.length < tokens.length := by
  unfold member at h
  split at h
  · next hv =>
    cases h
    exact length_values hv
  · cases h

theorem length_comparison {field spelling : String} {tokens : List String} {params : List Value}
    {p : Predicate} {rest : Source}
    (h : comparison field spelling tokens params = some (p, rest)) :
    rest.tokens = tokens := by
  unfold comparison at h
  split at h <;> cases h
  rfl

theorem length_test {field : String} {tokens : List String} {params : List Value} {p : Predicate}
    {rest : Source} (h : test field tokens params = some (p, rest)) :
    rest.tokens.length < tokens.length := by
  unfold test at h
  split at h
  · cases h
    simp only [List.length_cons]
    omega
  · cases h
    simp only [List.length_cons]
    omega
  · have := length_member h
    simp only [List.length_cons]
    omega
  · have := length_member h
    simp only [List.length_cons]
    omega
  · cases h
    simp only [List.length_cons]
    omega
  · simp only [length_comparison h, List.length_cons]
    omega
  · simp only [length_comparison h, List.length_cons]
    omega
  · cases h

theorem length_predicate {source rest : Source} {p : Predicate}
    (h : predicate source = some (p, rest)) : rest.tokens.length < source.tokens.length := by
  unfold predicate at h
  split at h
  · cases h
    simp only [List.length_cons]
    omega
  · split at h
    · have := length_test h
      simp only [List.length_cons]
      omega
    · cases h
  · cases h

/-- Predicates with `AND` between each two. -/
def conjunction (source : Source) : Option (List Predicate × Source) :=
  match _h : predicate source with
  | none => none
  | some (p, ⟨"AND" :: tokens, params⟩) =>
    (conjunction ⟨tokens, params⟩).map fun (more, rest) => (p :: more, rest)
  | some (p, rest) => some ([p], rest)
termination_by source.tokens.length
decreasing_by
  have := length_predicate _h
  simp only [List.length_cons] at this
  omega

theorem conjunction_last {source rest : Source} {p : Predicate}
    (h : predicate source = some (p, rest)) (stop : rest.tokens.head? ≠ some "AND") :
    conjunction source = some ([p], rest) := by
  rw [conjunction]
  split
  · next he => rw [he] at h; cases h
  · next he =>
    rw [he] at h
    cases h
    exact absurd rfl stop
  · next he =>
    rw [he] at h
    cases h
    rfl

theorem conjunction_and {source : Source} {p : Predicate} {tokens : List String}
    {params : List Value} (h : predicate source = some (p, ⟨"AND" :: tokens, params⟩)) :
    conjunction source
      = (conjunction ⟨tokens, params⟩).map fun (more, rest) => (p :: more, rest) := by
  rw [conjunction]
  split
  · next he => rw [he] at h; cases h
  · next he =>
    rw [he] at h
    cases h
    rfl
  · next hne he =>
    rw [he] at h
    cases h
    exact (hne _ _ rfl).elim

end Reader

/-- The predicates that a text states of its parameters, all of them together. -/
def Statement.conjunction? (s : Statement) : Option (List Predicate) :=
  match Reader.conjunction ⟨Lexeme.tokens s.sql, s.params⟩ with
  | some (predicates, ⟨[], []⟩) => some predicates
  | _ => none

end RecordMapper
