import RecordMapper.Text.Classes

/-!
# Words and pieces of a text

Trimming, cutting and joining texts, and comparing them without regard to letter case.

* `pieces` cuts a text at every character of a class; nothing is lost but the cuts
  (`intercalate_pieces`).
* `words` are the non-empty pieces between blanks.
* `lower` and `fold` are the two case maps that the keywords of messages are found by.
-/

namespace RecordMapper.Text

/-! ## Trimming and cutting -/

/-- A text without the blanks at its start. -/
def trimStart (cs : List Char) : List Char :=
  cs.dropWhile isBlank

/-- A text without the blanks at its start and end. -/
def trim (cs : List Char) : List Char :=
  (trimStart (trimStart cs).reverse).reverse

/-- The pieces of a text between the characters that satisfy `cut`. -/
def pieces (cut : Char → Bool) : List Char → List (List Char)
  | [] => [[]]
  | c :: rest =>
    if cut c then [] :: pieces cut rest
    else
      match pieces cut rest with
      | [] => [[c]]
      | piece :: more => (c :: piece) :: more

theorem pieces_ne_nil (cut : Char → Bool) (cs : List Char) : pieces cut cs ≠ [] := by
  cases cs with
  | nil => simp [pieces]
  | cons c rest =>
    unfold pieces
    split
    · simp
    · split <;> simp

/-- Cutting at one character loses nothing but that character. -/
theorem intercalate_pieces (sep : Char) (cs : List Char) :
    [sep].intercalate (pieces (· == sep) cs) = cs := by
  induction cs with
  | nil => rfl
  | cons c rest ih =>
    have hne := pieces_ne_nil (· == sep) rest
    unfold pieces
    by_cases h : c = sep
    · subst h
      cases hp : pieces (· == c) rest with
      | nil => exact absurd hp hne
      | cons piece more =>
        rw [hp] at ih
        simp [List.intercalate] at ih ⊢
        exact ih
    · simp only [beq_iff_eq, h, if_false]
      cases hp : pieces (· == sep) rest with
      | nil => exact absurd hp hne
      | cons piece more =>
        rw [hp] at ih
        cases more with
        | nil => simpa [List.intercalate] using ih
        | cons next more => simpa [List.intercalate] using ih

/-- The words of a text: its longest runs without a blank. -/
def words (cs : List Char) : List (List Char) :=
  (pieces isBlank cs).filter fun piece => !piece.isEmpty

/-! ## Searching -/

/-- What follows the first occurrence of `needle` in a text. -/
def after? (needle : List Char) : List Char → Option (List Char)
  | [] => if needle.isEmpty then some [] else none
  | c :: rest =>
    if needle.isPrefixOf (c :: rest) then some ((c :: rest).drop needle.length)
    else after? needle rest

/-- Whether `needle` occurs in a text. -/
def contains (needle : String) (cs : List Char) : Bool :=
  (after? needle.toList cs).isSome

/-! ## Letter case -/

/-- The lower-case form of a character, as far as it is a letter of a keyword: ASCII capitals and
the Kelvin sign become ASCII letters, and every other character keeps out of their way. -/
def lower (c : Char) : Char :=
  if c == '\u212A' then 'k' else c.toLower

/-- The class of characters equal to `c` but for letter case, named by its ASCII letter where it
has one: the long s counts as `s` and the Kelvin sign as `k`. -/
def fold (c : Char) : Char :=
  if c == '\u017F' then 's' else lower c

/-- The upper-case form of a character, as far as it is a letter of a keyword: ASCII letters, the
dotless i and the long s become ASCII capitals. -/
def upper (c : Char) : Char :=
  if c == '\u0131' then 'I' else if c == '\u017F' then 'S' else c.toUpper

/-- A text in lower case, for finding keywords in it. -/
def lowered (s : String) : List Char :=
  s.toList.map lower

/-- Whether two texts are equal but for the case of ASCII letters. -/
def sameLetters (a b : String) : Bool :=
  a.toList.map Char.toLower == b.toList.map Char.toLower

/-- `n` in decimal with zeros in front, at least `width` digits. -/
def padded (width n : Nat) : String :=
  let digits := Nat.toDigits 10 n
  String.ofList (List.replicate (width - digits.length) '0' ++ digits)

end RecordMapper.Text
