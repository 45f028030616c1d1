import RecordMapper.Text.Words

/-!
# The lexemes of a statement

A statement's text as an engine's reader sees it: names, signs such as `!=`, and marks such as a
bracket or a placeholder. A name or a sign is as long as it can be, a mark is one character, and
blanks only separate.

* `tokens` gives the lexemes of a text in order.
* `IsWord` and `IsSign` are the texts that are one lexeme wherever they end; `lexemes_word` and
  `lexemes_sign` read one off the front of a text, `lexemes_mark` reads a mark.
-/

namespace RecordMapper.Lexeme

/-! ## Characters -/

/-- A character of a name: a letter, a digit, an underscore or a point. -/
def isName (c : Char) : Bool :=
  Text.isWord c || c == '.'

/-- A character of a sign. -/
def isSign (c : Char) : Bool :=
  c == '=' || c == '!' || c == '<' || c == '>'

/-- Whether two neighbours belong to one lexeme. -/
def glued (c d : Char) : Bool :=
  (isName c && isName d) || (isSign c && isSign d)

/-- A character that is a lexeme of its own. -/
def isMark (c : Char) : Bool :=
  !isName c && !isSign c && c != ' '

theorem isName_of_isSign {c : Char} (h : isSign c = true) : isName c = false := by
  have hc : c = '=' ∨ c = '!' ∨ c = '<' ∨ c = '>' := by
    simpa [isSign, or_assoc] using h
  rcases hc with rfl | rfl | rfl | rfl <;> decide

theorem ne_blank_of_isName {c : Char} (h : isName c = true) : c ≠ ' ' := by
  rintro rfl
  exact absurd h (by decide)

theorem ne_blank_of_isSign {c : Char} (h : isSign c = true) : c ≠ ' ' := by
  rintro rfl
  exact absurd h (by decide)

/-! ## Cutting -/

/-- Puts a character in front of the lexemes that follow it; `next` is the character after it. -/
def put (c : Char) (next : Option Char) (following : List (List Char)) : List (List Char) :=
  match following with
  | lexeme :: more =>
    if next.any (glued c) then (c :: lexeme) :: more
    else if c = ' ' then lexeme :: more
    else [c] :: lexeme :: more
  | [] => if c = ' ' then [] else [[c]]

/-- The lexemes of a text. -/
def lexemes : List Char → List (List Char)
  | [] => []
  | c :: rest => put c rest.head? (lexemes rest)

/-- The lexemes of a text, as texts. -/
def tokens (s : String) : List String :=
  (lexemes s.toList).map String.ofList

/-- A text that does not go on with a character of a class. -/
def Stops (inClass : Char → Bool) (rest : List Char) : Prop :=
  ∀ c ∈ rest.head?, inClass c = false

@[simp] theorem lexemes_blank (rest : List Char) : lexemes (' ' :: rest) = lexemes rest := by
  have glue : ∀ d, glued ' ' d = false := fun d => by
    simp [glued, show isName ' ' = false by decide, show isSign ' ' = false by decide]
  simp only [lexemes]
  cases rest with
  | nil => simp [lexemes, put]
  | cons d rest => cases lexemes (d :: rest) <;> simp [put, glue]

theorem lexemes_mark {c : Char} (h : isMark c = true) (rest : List Char) :
    lexemes (c :: rest) = [c] :: lexemes rest := by
  simp only [isMark, Bool.and_eq_true, Bool.not_eq_true', bne_iff_ne] at h
  have glue : ∀ d, glued c d = false := fun d => by simp [glued, h]
  simp only [lexemes]
  cases lexemes rest with
  | nil => simp [put, h]
  | cons lexeme more => cases rest <;> simp [put, glue, h]

/-! ## Runs of one class -/

/-- A class of characters that stick to each other and to nothing else. -/
structure Sticky (inClass : Char → Bool) : Prop where
  glued : ∀ c d, inClass c = true → glued c d = inClass d
  ne_blank : ∀ c, inClass c = true → c ≠ ' '

theorem sticky_isName : Sticky isName where
  glued c d hc := by
    have hs : isSign c = false := by
      cases h : isSign c with
      | true => rw [isName_of_isSign h] at hc; exact absurd hc (by decide)
      | false => rfl
    simp [Lexeme.glued, hc, hs]
  ne_blank _ := ne_blank_of_isName

theorem sticky_isSign : Sticky isSign where
  glued c d hc := by simp [Lexeme.glued, hc, isName_of_isSign hc]
  ne_blank _ := ne_blank_of_isSign

/-- A run of a class, as long as it can be, is one lexeme. -/
theorem lexemes_run {inClass : Char → Bool} (hs : Sticky inClass) {rest : List Char}
    (stops : Stops inClass rest) :
    ∀ {w : List Char}, w ≠ [] → (∀ c ∈ w, inClass c = true) →
      lexemes (w ++ rest) = w :: lexemes rest
  | [], h, _ => absurd rfl h
  | [c], _, hw => by
    have hc : inClass c = true := hw c (by simp)
    have last : ∀ d ∈ rest.head?, glued c d = false := fun d hd => by
      rw [hs.glued c d hc]
      exact stops d hd
    have hb := hs.ne_blank c hc
    simp only [List.singleton_append, lexemes]
    cases rest with
    | nil => simp [lexemes, put, hb]
    | cons d rest => cases lexemes (d :: rest) <;> simp [put, hb, last d rfl]
  | c :: d :: w, _, hw => by
    have ih := lexemes_run hs stops (w := d :: w) (by simp) fun e he => hw e (by simp [he])
    have hg : glued c d = true := by
      rw [hs.glued c d (hw c (by simp))]
      exact hw d (by simp)
    rw [List.cons_append, lexemes, ih]
    simp [put, hg]

/-- A text that is one name. -/
def IsWord (s : String) : Prop :=
  s.toList ≠ [] ∧ s.toList.all isName = true

/-- A text that is one sign. -/
def IsSign (s : String) : Prop :=
  s.toList ≠ [] ∧ s.toList.all isSign = true

instance (s : String) : Decidable (IsWord s) := inferInstanceAs (Decidable (_ ∧ _))

instance (s : String) : Decidable (IsSign s) := inferInstanceAs (Decidable (_ ∧ _))

/-- A name at the front of a text. -/
theorem lexemes_word {s : String} (h : IsWord s) {rest : List Char} (stops : Stops isName rest) :
    lexemes (s.toList ++ rest) = s.toList :: lexemes rest :=
  lexemes_run sticky_isName stops h.1 (List.all_eq_true.1 h.2)

/-- A sign at the front of a text. -/
theorem lexemes_sign {s : String} (h : IsSign s) {rest : List Char} (stops : Stops isSign rest) :
    lexemes (s.toList ++ rest) = s.toList :: lexemes rest :=
  lexemes_run sticky_isSign stops h.1 (List.all_eq_true.1 h.2)

end RecordMapper.Lexeme
