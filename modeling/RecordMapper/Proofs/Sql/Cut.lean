import RecordMapper.Proofs.Sql.Spelling

/-!
# Texts cut into lexemes

Where a text can be cut without cutting a lexeme, and what all its lexemes are.

* `Lexeme.flatten_lexemes`: nothing but blanks is left out.
* `Lexeme.lexemes_append`: texts that do not run into each other are cut where they meet.
* `Lexeme.Uses` says that all lexemes of a text belong to a vocabulary; `Uses.opens` and
  `Uses.closes` put texts together at a blank or a mark.
-/

namespace RecordMapper.Lexeme

/-! ## Texts one after the other -/

/-- A blank is glued to nothing. -/
theorem glued_blank (c : Char) : glued ' ' c = false ∧ glued c ' ' = false := by
  have blank : isName ' ' = false ∧ isSign ' ' = false := by decide
  simp [glued, blank]

/-- Only blanks are left out when a text is cut. -/
theorem flatten_lexemes (cs : List Char) : (lexemes cs).flatten = cs.filter (· != ' ') := by
  induction cs with
  | nil => rfl
  | cons c rest ih =>
    by_cases blank : c = ' '
    · subst blank
      simpa using ih
    · have kept : (lexemes (c :: rest)).flatten = c :: (lexemes rest).flatten := by
        cases cut : lexemes rest with
        | nil => simp [lexemes, put, cut, blank]
        | cons lexeme more =>
          simp only [lexemes, put, cut]
          split <;> simp
      rw [kept, ih]
      simp [blank]

theorem eq_blank_of_lexemes_nil {c : Char} {rest : List Char} (h : lexemes (c :: rest) = []) :
    c = ' ' := by
  have nothing := flatten_lexemes (c :: rest)
  rw [h] at nothing
  have blank := List.filter_eq_nil_iff.1 nothing.symm c (by simp)
  simpa using blank

/-- Lexemes after those of a text that goes on stay as they are. -/
theorem put_append {c : Char} {next : Option Char} {xs : List (List Char)}
    (h : xs = [] → next.any (glued c) = false) (ys : List (List Char)) :
    put c next (xs ++ ys) = put c next xs ++ ys := by
  cases xs with
  | cons lexeme more =>
    simp only [List.cons_append, put]
    split
    · rfl
    · split <;> rfl
  | nil =>
    cases ys with
    | nil => simp
    | cons lexeme more =>
      simp only [List.nil_append, put, h rfl, Bool.false_eq_true, if_false]
      split <;> rfl

/-- **Texts that do not run into each other** are cut where they meet. -/
theorem lexemes_append {front back : List Char}
    (apart : ∀ c ∈ front.getLast?, ∀ d ∈ back.head?, glued c d = false) :
    lexemes (front ++ back) = lexemes front ++ lexemes back := by
  induction front with
  | nil => rfl
  | cons c front ih =>
    cases front with
    | nil =>
      have meets : back.head?.any (glued c) = false := by
        cases back with
        | nil => rfl
        | cons d back => exact apart c rfl d rfl
      have cut : put c back.head? ([] ++ lexemes back) = put c back.head? [] ++ lexemes back :=
        put_append (fun _ => meets) (lexemes back)
      rw [List.singleton_append, lexemes, ← List.nil_append (lexemes back), cut]
      rfl
    | cons d front =>
      have later := ih (by simpa using apart)
      rw [List.cons_append, lexemes, later, put_append]
      · rfl
      · intro silent
        rw [eq_blank_of_lexemes_nil silent]
        simp [glued_blank]

/-! ## Texts of a vocabulary -/

/-- A character that is a lexeme of its own, or a blank. -/
def isApart (c : Char) : Bool :=
  !isName c && !isSign c

/-- A text in front of which a text may be cut. -/
def Opens (s : String) : Prop :=
  ∀ c ∈ s.toList.head?, isApart c = true

/-- A text behind which a text may be cut. -/
def Closes (s : String) : Prop :=
  ∀ c ∈ s.toList.getLast?, isApart c = true

instance (s : String) : Decidable (Opens s) :=
  decidable_of_iff (s.toList.head?.all isApart = true) (Option.all_eq_true _ _)

instance (s : String) : Decidable (Closes s) :=
  decidable_of_iff (s.toList.getLast?.all isApart = true) (Option.all_eq_true _ _)

theorem opens_append {s t : String} (h : Opens s) (empty : s = "" → Opens t) :
    Opens (s ++ t) := by
  intro c hc
  rw [String.toList_append] at hc
  cases start : s.toList with
  | nil => exact empty (String.toList_eq_nil_iff.1 start) c (by simpa [start] using hc)
  | cons d rest => exact h c (by simpa [start] using hc)

theorem closes_append (s : String) {t : String} (ne : t ≠ "") (h : Closes t) : Closes (s ++ t) := by
  intro c hc
  have ends : t.toList.getLast?.isSome := by simpa using ne
  rw [String.toList_append, List.getLast?_append, Option.or_of_isSome ends] at hc
  exact h c hc

theorem glued_of_isApart {c : Char} (h : isApart c = true) (d : Char) :
    glued c d = false ∧ glued d c = false := by
  simp only [isApart, Bool.and_eq_true, Bool.not_eq_true'] at h
  simp [glued, h]

theorem tokens_append_opens (s : String) {t : String} (h : Opens t) :
    tokens (s ++ t) = tokens s ++ tokens t := by
  rw [tokens, String.toList_append, lexemes_append, List.map_append]
  · rfl
  · exact fun c _ d hd => (glued_of_isApart (h d hd) c).2

theorem tokens_closes_append {s : String} (h : Closes s) (t : String) :
    tokens (s ++ t) = tokens s ++ tokens t := by
  rw [tokens, String.toList_append, lexemes_append, List.map_append]
  · rfl
  · exact fun c hc d _ => (glued_of_isApart (h c hc) d).1

/-- A text all of whose lexemes belong to a vocabulary. -/
def Uses (vocabulary : String → Prop) (s : String) : Prop :=
  ∀ w ∈ tokens s, vocabulary w

namespace Uses

variable {vocabulary : String → Prop} {s t : String}

theorem empty : Uses vocabulary "" := by
  intro w hw
  cases hw

/-- A single name. -/
theorem word (h : IsWord s) (hs : vocabulary s) : Uses vocabulary s := by
  have one : tokens s = [s] := (Spells.word h).tokens_eq
  intro w hw
  rw [one] at hw
  rwa [List.mem_singleton.1 hw]

/-- Texts that are cut in front of the second one. -/
theorem opens (hs : Uses vocabulary s) (ht : Uses vocabulary t) (h : Opens t) :
    Uses vocabulary (s ++ t) := by
  intro w hw
  rw [tokens_append_opens s h] at hw
  exact (List.mem_append.1 hw).elim (hs w) (ht w)

/-- Texts that are cut behind the first one. -/
theorem closes (hs : Uses vocabulary s) (h : Closes s) (ht : Uses vocabulary t) :
    Uses vocabulary (s ++ t) := by
  intro w hw
  rw [tokens_closes_append h] at hw
  exact (List.mem_append.1 hw).elim (hs w) (ht w)

end Uses

end RecordMapper.Lexeme
