import RecordMapper.Proofs.Sql.Reader
import RecordMapper.Proofs.Sql.Template

/-!
# The lexemes of conditions

How conditions are spelled, and that a reader gets them back from the spelling.

* `Spells s words` says that a text `s` has the lexemes `words`, whatever blank or mark comes after
  it. Spellings are put together with blanks and marks.
* `spells_predicate` spells the text of a predicate, `predicate_words` reads it.
* `conjunction_words` reads several predicates with `AND` between, up to where no `AND` follows.
-/

namespace RecordMapper

open Lexeme

/-! ## Spellings -/

/-- A text that a name or sign before it does not run into. -/
def Ends (rest : List Char) : Prop :=
  Stops isName rest ∧ Stops isSign rest

/-- The lexemes of a text, whatever comes after it that does not run into it. -/
def Spells (s : String) (words : List String) : Prop :=
  ∀ rest, Ends rest → lexemes (s.toList ++ rest) = words.map String.toList ++ lexemes rest

theorem ends_nil : Ends [] := by
  constructor <;> simp [Stops]

theorem ends_blank (rest : List Char) : Ends (' ' :: rest) := by
  constructor <;> simp [Stops] <;> decide

theorem Ends.append {s rest : List Char} (hs : Ends s) (hr : Ends rest) : Ends (s ++ rest) := by
  cases s with
  | nil => exact hr
  | cons c s => exact ⟨by simpa [Stops] using hs.1, by simpa [Stops] using hs.2⟩

namespace Spells

theorem word {s : String} (h : IsWord s) : Spells s [s] := fun rest hr => by
  simp [lexemes_word h hr.1]

theorem sign {s : String} (h : IsSign s) : Spells s [s] := fun rest hr => by
  simp [lexemes_sign h hr.2]

theorem mark {c : Char} (h : isMark c = true) {t : String} {words : List String}
    (ht : Spells t words) :
    Spells (String.singleton c ++ t) (String.singleton c :: words) := fun rest hr => by
  simp [lexemes_mark h, ht rest hr]

theorem blank {t : String} {words : List String} (ht : Spells t words) :
    Spells (" " ++ t) words := fun rest hr => by
  have h := ht rest hr
  simpa using h

theorem append {s t : String} {words more : List String} (hs : Spells s words)
    (ht : Spells t more) (he : Ends t.toList) : Spells (s ++ t) (words ++ more) := fun rest hr => by
  rw [String.toList_append, List.append_assoc, hs _ (he.append hr), ht rest hr]
  simp

/-- Two spellings with a blank between. -/
theorem spaced {s t : String} {words more : List String} (hs : Spells s words)
    (ht : Spells t more) : Spells (s ++ (" " ++ t)) (words ++ more) :=
  hs.append ht.blank (by simpa using ends_blank t.toList)

theorem empty : Spells "" [] := fun rest _ => by simp

/-- The lexemes of a text that ends here. -/
theorem tokens_eq {s : String} {words : List String} (h : Spells s words) : tokens s = words := by
  have := h [] ends_nil
  simp only [List.append_nil, lexemes] at this
  rw [tokens, this]
  simp [Function.comp_def]

end Spells

/-! ## Predicates -/

/-- The lexemes of a comparison's sign. -/
def Comparison.words : Comparison → List String
  | .notLike => ["NOT", "LIKE"]
  | c => [c.sql]

theorem spells_comparison (c : Comparison) : Spells c.sql c.words := by
  cases c with
  | like => exact Spells.word (by decide)
  | notLike => exact (Spells.word (s := "NOT") (by decide)).spaced (.word (s := "LIKE") (by decide))
  | _ => exact Spells.sign (by decide)

/-- The lexemes of placeholders with commas between and a bracket behind, besides the first
placeholder. -/
def placeholderWords : List Value → List String
  | [] => ["?", ")"]
  | _ :: rest => "?" :: "," :: placeholderWords rest

theorem spells_placeholders (first : Value) :
    ∀ rest : List Value,
      Spells ((Template.join ", " ((first :: rest).map .bind)).sql ++ ")") (placeholderWords rest)
  | [] => .mark (c := '?') (by decide) (.mark (c := ')') (by decide) .empty)
  | v :: rest => by
    have ih := spells_placeholders v rest
    have text : (Template.join ", " ((first :: v :: rest).map .bind)).sql ++ ")"
        = "?" ++ ("," ++ (" " ++ ((Template.join ", " ((v :: rest).map .bind)).sql ++ ")"))) := by
      rw [List.map_cons, List.map_cons, Template.join_cons_cons, Template.sql_append,
        Template.sql_append, Template.sql_raw, Template.sql_bind]
      simp only [String.append_assoc]
      rfl
    rw [text]
    exact .mark (c := '?') (by decide) (.mark (c := ',') (by decide) ih.blank)

namespace Predicate

/-- The lexemes of a predicate. -/
def words : Predicate → List String
  | .null field negated => field :: if negated then ["IS", "NOT", "NULL"] else ["IS", "NULL"]
  | .compare field c _ => field :: (c.words ++ ["?"])
  | .member field negated _ rest =>
    field :: ((if negated then ["NOT", "IN"] else ["IN"]) ++ "(" :: placeholderWords rest)
  | .between field _ _ => [field, "BETWEEN", "?", "AND", "?"]
  | .never => ["1", "=", "0"]

/-- The values that a predicate compares with. -/
def values : Predicate → List Value
  | .null _ _ | .never => []
  | .compare _ _ v => [v]
  | .member _ _ first rest => first :: rest
  | .between _ low high => [low, high]

/-- A predicate on a column that is named by a single word. -/
def OnColumn : Predicate → Prop
  | .null field _ | .compare field _ _ | .member field _ _ _ | .between field _ _ =>
    IsColumn field
  | .never => True

@[simp] theorem params_template (p : Predicate) : p.template.params = p.values := by
  cases p <;> simp [template, values]

end Predicate

theorem spells_never : Spells "1=0" ["1", "=", "0"] := fun rest hr => by
  have one : lexemes ("1".toList ++ ("=0".toList ++ rest)) = _ :=
    lexemes_word (by decide) (by simp [Stops]; decide)
  have sign : lexemes ("=".toList ++ ("0".toList ++ rest)) = _ :=
    lexemes_sign (by decide) (by simp [Stops]; decide)
  have zero : lexemes ("0".toList ++ rest) = _ := lexemes_word (by decide) hr.1
  rw [zero] at sign
  have rest' : "=0".toList ++ rest = "=".toList ++ ("0".toList ++ rest) := rfl
  rw [rest', sign] at one
  exact one

theorem spells_null {field : String} (h : IsColumn field) (negated : Bool) :
    Spells (Predicate.null field negated).template.sql (Predicate.null field negated).words := by
  have hf : Spells field [field] := .word h.1
  have text : (Predicate.null field negated).template.sql
      = field ++ (" " ++ (Operator.null negated).sql) := by
    simp [Predicate.template, String.append_assoc]
  rw [text]
  cases negated with
  | false =>
    exact hf.spaced ((Spells.word (s := "IS") (by decide)).spaced
      (.word (s := "NULL") (by decide)))
  | true =>
    exact hf.spaced ((Spells.word (s := "IS") (by decide)).spaced
      ((Spells.word (s := "NOT") (by decide)).spaced (.word (s := "NULL") (by decide))))

theorem spells_compare {field : String} (h : IsColumn field) (c : Comparison) (v : Value) :
    Spells (Predicate.compare field c v).template.sql (Predicate.compare field c v).words := by
  have hf : Spells field [field] := .word h.1
  have text : (Predicate.compare field c v).template.sql
      = field ++ (" " ++ (c.sql ++ (" " ++ ("?" ++ "")))) := by
    simp [Predicate.template, String.append_assoc]
  rw [text]
  exact hf.spaced ((spells_comparison c).spaced (.mark (c := '?') (by decide) .empty))

theorem spells_member {field : String} (h : IsColumn field) (negated : Bool) (first : Value)
    (rest : List Value) :
    Spells (Predicate.member field negated first rest).template.sql
      (Predicate.member field negated first rest).words := by
  have hf : Spells field [field] := .word h.1
  have list : Spells ("(" ++ ((Template.join ", " ((first :: rest).map .bind)).sql ++ ")"))
      ("(" :: placeholderWords rest) :=
    .mark (c := '(') (by decide) (spells_placeholders first rest)
  have text : (Predicate.member field negated first rest).template.sql
      = field ++ (" " ++ ((Operator.member negated).sql ++ (" "
        ++ ("(" ++ ((Template.join ", " ((first :: rest).map .bind)).sql ++ ")"))))) := by
    have bracket : " (" = " " ++ "(" := rfl
    simp only [Predicate.template, Template.sql_append, Template.sql_raw, String.append_assoc,
      bracket]
  rw [text]
  cases negated with
  | false => exact hf.spaced ((Spells.word (s := "IN") (by decide)).spaced list)
  | true =>
    exact hf.spaced (((Spells.word (s := "NOT") (by decide)).spaced
      (.word (s := "IN") (by decide))).spaced list)

theorem spells_between {field : String} (h : IsColumn field) (low high : Value) :
    Spells (Predicate.between field low high).template.sql
      (Predicate.between field low high).words := by
  have hf : Spells field [field] := .word h.1
  have text : (Predicate.between field low high).template.sql
      = field ++ (" " ++ ("BETWEEN" ++ (" " ++ ("?" ++ (" " ++ ("AND" ++ (" "
        ++ ("?" ++ "")))))))) := by
    have before : " BETWEEN " = " " ++ ("BETWEEN" ++ " ") := rfl
    have amid : " AND " = " " ++ ("AND" ++ " ") := rfl
    simp only [Predicate.template, Template.sql_append, Template.sql_raw, Template.sql_bind,
      String.append_assoc, before, amid, String.append_empty]
  rw [text]
  have second : Spells ("?" ++ "") ["?"] := .mark (c := '?') (by decide) .empty
  have bounds : Spells ("?" ++ (" " ++ ("AND" ++ (" " ++ ("?" ++ ""))))) ["?", "AND", "?"] :=
    .mark (c := '?') (by decide) ((Spells.word (s := "AND") (by decide)).spaced second).blank
  exact hf.spaced ((Spells.word (s := "BETWEEN") (by decide)).spaced bounds)

/-- **The text of a predicate has the predicate's lexemes.** -/
theorem spells_predicate {p : Predicate} (h : p.OnColumn) : Spells p.template.sql p.words := by
  cases p with
  | null field negated => exact spells_null h negated
  | compare field c v => exact spells_compare h c v
  | member field negated first rest => exact spells_member h negated first rest
  | between field low high => exact spells_between h low high
  | never =>
    rw [Predicate.template, Template.sql_raw]
    exact spells_never

/-! ## Reading predicates -/

theorem values_words (tokens : List String) (params : List Value) (first : Value) :
    ∀ rest : List Value,
      Reader.values (placeholderWords rest ++ tokens) (first :: rest ++ params)
        = some (first :: rest, ⟨tokens, params⟩)
  | [] => rfl
  | v :: rest => by
    have ih := values_words tokens params v rest
    simp only [placeholderWords, List.cons_append] at ih ⊢
    rw [Reader.values, ih]
    rfl

theorem test_words {p : Predicate} {field : String} {more : List String}
    (h : p.words = field :: more) (hp : p ≠ .never) (tokens : List String)
    (params : List Value) :
    Reader.test field (more ++ tokens) (p.values ++ params) = some (p, ⟨tokens, params⟩) := by
  cases p with
  | null field negated =>
    cases negated <;> cases h <;> rfl
  | compare field c v =>
    cases c <;> cases h <;> rfl
  | member field negated first rest =>
    have list := values_words tokens params first rest
    cases negated with
    | false =>
      cases h
      simp only [Predicate.values, Reader.test, Reader.member, Bool.false_eq_true, if_false,
        List.cons_append, List.nil_append] at list ⊢
      rw [list]
    | true =>
      cases h
      simp only [Predicate.values, Reader.test, Reader.member, if_true,
        List.cons_append, List.nil_append] at list ⊢
      rw [list]
  | between field low high =>
    cases h
    rfl
  | never => exact absurd rfl hp

/-- A column whose name looks like a number is not taken for the predicate `1=0`. -/
theorem predicate_cons {field : String} (h : IsColumn field) {more : List String}
    (hm : ∀ tokens, more ≠ "=" :: "0" :: tokens) (params : List Value) :
    Reader.predicate ⟨field :: more, params⟩ = Reader.test field more params := by
  unfold Reader.predicate
  split
  · next he =>
    cases he
    exact absurd rfl (hm _)
  · next he =>
    cases he
    rw [if_pos h]
  · next he => cases he

/-- **A reader gets a predicate back from its lexemes and values.** -/
theorem predicate_words {p : Predicate} (h : p.OnColumn) (tokens : List String)
    (params : List Value) :
    Reader.predicate ⟨p.words ++ tokens, p.values ++ params⟩ = some (p, ⟨tokens, params⟩) := by
  have read : ∀ {field : String} {more : List String}, IsColumn field →
      p.words = field :: more → p ≠ .never → (∀ rest, more ++ tokens ≠ "=" :: "0" :: rest) →
      Reader.predicate ⟨p.words ++ tokens, p.values ++ params⟩ = some (p, ⟨tokens, params⟩) := by
    intro field more hf hw hp hm
    rw [hw, List.cons_append, predicate_cons hf hm]
    exact test_words hw hp tokens params
  cases p with
  | null field negated => exact read h rfl (by simp) fun rest => by cases negated <;> simp
  | compare field c v =>
    exact read h rfl (by simp) fun rest => by cases c <;> simp [Comparison.words, Comparison.sql]
  | member field negated first rest =>
    exact read h rfl (by simp) fun rest => by cases negated <;> simp
  | between field low high => exact read h rfl (by simp) fun rest => by simp
  | never => rfl

/-! ## Conjunctions -/

/-- The lexemes of predicates with `AND` between each two. -/
def conjunctionWords : List Predicate → List String
  | [] => []
  | [p] => p.words
  | p :: rest => p.words ++ "AND" :: conjunctionWords rest

/-- The text of predicates with `AND` between each two. -/
def conjunctionSql (predicates : List Predicate) : String :=
  " AND ".intercalate (predicates.map fun p => p.template.sql)

theorem spells_conjunction :
    ∀ {predicates : List Predicate}, (∀ p ∈ predicates, p.OnColumn) →
      Spells (conjunctionSql predicates) (conjunctionWords predicates)
  | [], _ => .empty
  | [p], h => by
    simpa [conjunctionSql, conjunctionWords] using spells_predicate (h p (by simp))
  | p :: q :: rest, h => by
    have later : ∀ r ∈ q :: rest, r.OnColumn := fun r hr => h r (by simp [hr])
    have ih := spells_conjunction later
    have text : conjunctionSql (p :: q :: rest)
        = p.template.sql ++ (" " ++ ("AND" ++ (" " ++ conjunctionSql (q :: rest)))) := by
      have and : " AND " = " " ++ ("AND" ++ " ") := rfl
      simp only [conjunctionSql, List.map_cons, String.intercalate_cons_cons, and,
        String.append_assoc]
    rw [text]
    have word : Spells "AND" ["AND"] := .word (by decide)
    exact (spells_predicate (h p (by simp))).spaced (word.spaced ih)

/-- **A reader gets predicates back from their lexemes and values**, up to where no `AND`
follows. -/
theorem conjunction_words {tokens : List String} (stop : tokens.head? ≠ some "AND")
    (params : List Value) :
    ∀ {predicates : List Predicate}, predicates ≠ [] → (∀ p ∈ predicates, p.OnColumn) →
      Reader.conjunction
          ⟨conjunctionWords predicates ++ tokens, predicates.flatMap Predicate.values ++ params⟩
        = some (predicates, ⟨tokens, params⟩)
  | [], h, _ => absurd rfl h
  | [p], _, h => by
    have read := predicate_words (h p (by simp)) tokens params
    have bound : [p].flatMap Predicate.values ++ params = p.values ++ params := by simp
    rw [conjunctionWords, bound]
    exact Reader.conjunction_last read stop
  | p :: q :: rest, _, h => by
    have later : ∀ r ∈ q :: rest, r.OnColumn := fun r hr => h r (by simp [hr])
    have ih := conjunction_words stop params (by simp) later
    have read := predicate_words (h p (by simp))
      ("AND" :: (conjunctionWords (q :: rest) ++ tokens))
      ((q :: rest).flatMap Predicate.values ++ params)
    have words : conjunctionWords (p :: q :: rest) ++ tokens
        = p.words ++ ("AND" :: (conjunctionWords (q :: rest) ++ tokens)) := by
      simp [conjunctionWords]
    have bound : (p :: q :: rest).flatMap Predicate.values ++ params
        = p.values ++ ((q :: rest).flatMap Predicate.values ++ params) := by
      simp
    rw [words, bound, Reader.conjunction_and read, ih]
    rfl

end RecordMapper
