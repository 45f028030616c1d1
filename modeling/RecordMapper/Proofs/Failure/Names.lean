import Mathlib.Data.List.Forall2
import Mathlib.Data.List.TakeWhile
import RecordMapper.Proofs.Failure.LetterCase
import RecordMapper.Proofs.Sql.Orders

/-!
# The names in reports

Engines name the column at fault in a few shapes, and what is reported is the last component of the
name: what follows its last point.

* `Pattern.Shape` are the shapes, each said as a whole: what is written, where the name is in it and
  where it ends. The matchers give the names of the shapes (`Pattern.Reads`), and a search gives the
  first of them (`Pattern.First`, `Pattern.Named`).
* `Classification.isLast_columnName`: the column of a name is its last component, which is empty
  where the name ends in a point.
-/

namespace RecordMapper

/-! ## Runs of a class -/

namespace Text

/-- A blank is no word character. -/
theorem isWord_of_isBlank {c : Char} (h : isBlank c = true) : isWord c = false := by
  have apart : ∀ range ∈ blankRanges, ∀ n ≤ range.2 - range.1,
      isWord (Char.ofNat (range.1 + n)) = false := by
    decide +kernel
  obtain ⟨range, mem, within⟩ := List.any_eq_true.1 h
  simp only [Bool.and_eq_true, decide_eq_true_eq] at within
  have it := apart range mem (c.toNat - range.1) (by omega)
  rwa [Nat.add_sub_cancel' within.1, Char.ofNat_toNat] at it

/-- A text falls into its longest run of a class and the rest. -/
theorem run_iff {p : Char → Bool} {cs found rest : List Char} :
    (cs.takeWhile p = found ∧ cs.dropWhile p = rest) ↔
      cs = found ++ rest ∧ (∀ c ∈ found, p c = true) ∧ ∀ c ∈ rest.head?, p c = false := by
  constructor
  · rintro ⟨rfl, rfl⟩
    refine ⟨List.takeWhile_append_dropWhile.symm, fun c hc => List.mem_takeWhile_imp hc, ?_⟩
    intro c hc
    have not := List.head?_dropWhile_not p cs
    rw [hc] at not
    exact not
  · rintro ⟨rfl, all, ends⟩
    have stops : rest.takeWhile p = [] ∧ rest.dropWhile p = rest := by
      cases rest with
      | nil => exact ⟨rfl, rfl⟩
      | cons c rest =>
        have first := ends c rfl
        simp [first]
    rw [List.takeWhile_append_of_pos all, List.dropWhile_append_of_pos all, stops.1, stops.2]
    exact ⟨List.append_nil found, rfl⟩

end Text

namespace Pattern

/-- A phrase is said by words that are equal to it but for letter case. -/
def Said (phrase : String) (words : List Char) : Prop :=
  words.map Text.fold = phrase.toList

theorem afterPhrase_eq_some {phrase : String} {cs rest : List Char} :
    afterPhrase phrase cs = some rest ↔ ∃ words, Said phrase words ∧ cs = words ++ rest := by
  unfold afterPhrase Said
  dsimp only
  constructor
  · intro h
    split at h
    · next said =>
      cases h
      exact ⟨_, eq_of_beq said, (List.take_append_drop _ cs).symm⟩
    · cases h
  · rintro ⟨words, said, rfl⟩
    have length : phrase.length = words.length := by
      rw [← String.length_toList, ← said, List.length_map]
    rw [length, List.take_left, List.drop_left, said]
    simp

theorem skipBlanks_append {blanks rest : List Char} (blank : ∀ c ∈ blanks, Text.isBlank c = true)
    (ends : ∀ c ∈ rest.head?, Text.isBlank c = false) : skipBlanks (blanks ++ rest) = rest :=
  (Text.run_iff.2 ⟨rfl, blank, ends⟩).2

theorem exists_skipBlanks (cs : List Char) : ∃ blanks, (∀ c ∈ blanks, Text.isBlank c = true) ∧
    cs = blanks ++ skipBlanks cs := by
  obtain ⟨whole, blank, -⟩ := Text.run_iff.1 ⟨rfl, rfl⟩
  exact ⟨cs.takeWhile Text.isBlank, blank, whole⟩

theorem run?_eq_some {p : Char → Bool} {cs found rest : List Char} :
    run? p cs = some (found, rest) ↔ found ≠ [] ∧ cs = found ++ rest ∧
      (∀ c ∈ found, p c = true) ∧ ∀ c ∈ rest.head?, p c = false := by
  rw [← Text.run_iff]
  unfold run?
  constructor
  · intro h
    split at h
    · cases h
    · next nonempty =>
      cases h
      exact ⟨nonempty, rfl, rfl⟩
  · rintro ⟨nonempty, rfl, rfl⟩
    split
    · next none => exact absurd none nonempty
    · rfl

/-- A text that begins with some characters of a class begins with one. -/
theorem head?_append {P : Char → Prop} {name : List Char} (nonempty : name ≠ [])
    (chars : ∀ c ∈ name, P c) (rest : List Char) : ∀ c ∈ (name ++ rest).head?, P c := by
  cases name with
  | nil => exact absurd rfl nonempty
  | cons first more =>
    intro c hc
    cases hc
    exact chars first List.mem_cons_self

/-- A text begins with a character of a class, if those before the rest are of it and the rest
begins with one. -/
theorem head?_append_of_head? {P : Char → Prop} {cs rest : List Char} (chars : ∀ c ∈ cs, P c)
    (first : ∀ c ∈ rest.head?, P c) : ∀ c ∈ (cs ++ rest).head?, P c := by
  cases cs with
  | nil => exact first
  | cons c more => exact head?_append (by simp) chars rest

theorem isBlank_of_isWord {c : Char} (h : Text.isWord c = true) : Text.isBlank c = false := by
  cases blank : Text.isBlank c with
  | false => rfl
  | true => rw [Text.isWord_of_isBlank blank] at h; cases h

/-! ## Shapes -/

/-- A shape of the start of a text, with a name in it. -/
abbrev Shape : Type := List Char → List Char → Prop

/-- The phrase, blanks, and the longest run of word characters and points as the name. -/
inductive Qualified (phrase : String) : Shape
  | intro {words blanks name rest : List Char} (said : Said phrase words)
    (blank : ∀ c ∈ blanks, Text.isBlank c = true) (nonempty : name ≠ [])
    (chars : ∀ c ∈ name, (Text.isWord c || c == '.') = true)
    (ends : ∀ c ∈ rest.head?, (Text.isWord c || c == '.') = false) :
    Qualified phrase (words ++ (blanks ++ (name ++ rest))) name

/-- `for key`, and the name between single quotes. -/
inductive QuotedKey : Shape
  | intro {words name rest : List Char} (said : Said "for key '" words) (nonempty : name ≠ [])
    (chars : '\'' ∉ name) : QuotedKey (words ++ (name ++ '\'' :: rest)) name

/-- `key`, and a word as the name, between parentheses and possibly between double quotes. -/
inductive ParenthesizedKey : Shape
  | intro {words blanks opening name closing more rest : List Char} (said : Said "key (" words)
    (blank : ∀ c ∈ blanks, Text.isBlank c = true) (opens : opening = [] ∨ opening = ['"'])
    (nonempty : name ≠ []) (chars : ∀ c ∈ name, Text.isWord c = true)
    (closes : closing = [] ∨ closing = ['"']) (blank' : ∀ c ∈ more, Text.isBlank c = true) :
    ParenthesizedKey
      (words ++ (blanks ++ (opening ++ (name ++ (closing ++ (more ++ ')' :: rest)))))) name

/-- `null value in column`, and a longest word as the name, possibly after a double quote. -/
inductive NullColumn : Shape
  | intro {words opening name rest : List Char} (said : Said "null value in column " words)
    (opens : opening = [] ∨ opening = ['"']) (nonempty : name ≠ [])
    (chars : ∀ c ∈ name, Text.isWord c = true) (ends : ∀ c ∈ rest.head?, Text.isWord c = false) :
    NullColumn (words ++ (opening ++ (name ++ rest))) name

/-- `column`, a word between single quotes as the name, and `cannot be null`. -/
inductive QuotedColumn : Shape
  | intro {words name more rest : List Char} (said : Said "column '" words) (nonempty : name ≠ [])
    (chars : ∀ c ∈ name, Text.isWord c = true) (said' : Said "' cannot be null" more) :
    QuotedColumn (words ++ (name ++ (more ++ rest))) name

/-- A matcher gives the names that a shape has in it. -/
def Reads (m : Matcher) (shape : Shape) : Prop :=
  ∀ cs name, m cs = some name ↔ shape cs name

theorem reads_qualifiedName (phrase : String) :
    Reads (qualifiedName phrase) (Qualified phrase) := by
  intro cs name
  simp only [qualifiedName, bind, Option.bind_eq_some_iff, pure, Option.some.injEq, Prod.exists]
  constructor
  · rintro ⟨after, phrased, _, rest, found, rfl⟩
    obtain ⟨words, said, rfl⟩ := afterPhrase_eq_some.1 phrased
    obtain ⟨blanks, blank, whole⟩ := exists_skipBlanks after
    obtain ⟨nonempty, same, chars, ends⟩ := run?_eq_some.1 found
    rw [whole, same]
    exact ⟨said, blank, nonempty, chars, ends⟩
  · rintro @⟨words, blanks, _, rest, said, blank, nonempty, chars, ends⟩
    refine ⟨_, afterPhrase_eq_some.2 ⟨_, said, rfl⟩, name, rest, ?_, rfl⟩
    rw [skipBlanks_append blank]
    · exact run?_eq_some.2 ⟨nonempty, rfl, chars, ends⟩
    · refine head?_append nonempty (fun c hc => ?_) rest
      rcases Bool.or_eq_true_iff.1 (chars c hc) with word | point
      · exact isBlank_of_isWord word
      · rw [eq_of_beq point]
        decide

theorem startsWith_iff {c : Char} {cs : List Char} :
    startsWith c cs = true ↔ ∃ rest, cs = c :: rest := by
  cases cs with
  | nil => simp [startsWith]
  | cons d rest => simp [startsWith]

theorem reads_quotedKey : Reads quotedKey QuotedKey := by
  intro cs name
  simp only [quotedKey, bind, Option.bind_eq_some_iff, pure, Prod.exists,
    Option.ite_none_right_eq_some, Option.some.injEq]
  constructor
  · rintro ⟨after, phrased, _, rest, found, closed, rfl⟩
    obtain ⟨words, said, rfl⟩ := afterPhrase_eq_some.1 phrased
    obtain ⟨nonempty, rfl, chars, -⟩ := run?_eq_some.1 found
    obtain ⟨rest, rfl⟩ := startsWith_iff.1 closed
    exact ⟨said, nonempty, fun quote => by simpa using chars _ quote⟩
  · rintro @⟨words, _, rest, said, nonempty, chars⟩
    refine ⟨_, afterPhrase_eq_some.2 ⟨_, said, rfl⟩, name, '\'' :: rest, ?_, rfl, rfl⟩
    refine run?_eq_some.2 ⟨nonempty, rfl, fun c hc => ?_, by simp⟩
    have apart : c ≠ '\'' := by
      rintro rfl
      exact chars hc
    simpa using apart

theorem skipQuote_append {opening rest : List Char} (opens : opening = [] ∨ opening = ['"'])
    (h : ∀ c ∈ rest.head?, c ≠ '"') : skipOptional '"' (opening ++ rest) = rest := by
  rcases opens with rfl | rfl
  · cases rest with
    | nil => rfl
    | cons c rest => exact if_neg (h c rfl)
  · rfl

theorem exists_skipQuote (cs : List Char) : ∃ opening, (opening = [] ∨ opening = ['"']) ∧
    cs = opening ++ skipOptional '"' cs := by
  cases cs with
  | nil => exact ⟨[], .inl rfl, rfl⟩
  | cons c rest =>
    rw [skipOptional]
    split
    · next quote => exact ⟨['"'], .inr rfl, by rw [quote]; rfl⟩
    · exact ⟨[], .inl rfl, rfl⟩

theorem ne_quote_of_isWord {c : Char} (h : Text.isWord c = true) : c ≠ '"' := by
  rintro rfl
  revert h
  decide

theorem reads_parenthesizedKey : Reads parenthesizedKey ParenthesizedKey := by
  intro cs name
  simp only [parenthesizedKey, bind, Option.bind_eq_some_iff, pure, Prod.exists,
    Option.ite_none_right_eq_some, Option.some.injEq]
  constructor
  · rintro ⟨after, phrased, _, rest, found, closed, rfl⟩
    obtain ⟨words, said, rfl⟩ := afterPhrase_eq_some.1 phrased
    obtain ⟨blanks, blank, whole⟩ := exists_skipBlanks after
    obtain ⟨opening, opens, opened⟩ := exists_skipQuote (skipBlanks after)
    obtain ⟨nonempty, same, chars, -⟩ := run?_eq_some.1 found
    obtain ⟨closing, closes, left⟩ := exists_skipQuote rest
    obtain ⟨more, blank', ended⟩ := exists_skipBlanks (skipOptional '"' rest)
    obtain ⟨last, parenthesis⟩ := startsWith_iff.1 closed
    rw [whole, opened, same, left, ended, parenthesis]
    exact ⟨said, blank, opens, nonempty, chars, closes, blank'⟩
  · rintro @⟨words, blanks, opening, _, closing, more, rest, said, blank, opens, nonempty, chars,
      closes, blank'⟩
    -- Neither a double quote nor a blank nor the parenthesis goes on with the word.
    have later (P : Char → Prop) (blank : ∀ c, Text.isBlank c = true → P c) (last : P ')') :
        ∀ c ∈ (more ++ ')' :: rest).head?, P c :=
      head?_append_of_head? (fun c hc => blank c (blank' c hc)) (by rintro c ⟨rfl⟩; exact last)
    have ends : ∀ c ∈ (closing ++ (more ++ ')' :: rest)).head?, Text.isWord c = false := by
      rcases closes with rfl | rfl
      · exact later _ (fun c blank => Text.isWord_of_isBlank blank) (by decide)
      · rintro c ⟨rfl⟩
        decide
    have begins : ∀ c ∈ (opening ++ (name ++ (closing ++ (more ++ ')' :: rest)))).head?,
        Text.isBlank c = false := by
      refine head?_append_of_head? ?_
        (head?_append nonempty (fun c hc => isBlank_of_isWord (chars c hc)) _)
      rcases opens with rfl | rfl
      · exact fun c hc => absurd hc List.not_mem_nil
      · rintro c (_ | ⟨_, ⟨⟩⟩)
        decide
    refine ⟨_, afterPhrase_eq_some.2 ⟨_, said, rfl⟩, name, closing ++ (more ++ ')' :: rest), ?_,
      ?_, rfl⟩
    · rw [skipBlanks_append blank begins, skipQuote_append opens]
      · exact run?_eq_some.2 ⟨nonempty, rfl, chars, ends⟩
      · exact head?_append nonempty (fun c hc => ne_quote_of_isWord (chars c hc)) _
    · rw [skipQuote_append closes, skipBlanks_append blank']
      · rfl
      · rintro c ⟨rfl⟩
        decide
      · refine later _ (fun c blank quote => ?_) (by decide)
        rw [quote] at blank
        revert blank
        decide

theorem reads_nullColumn : Reads nullColumn NullColumn := by
  intro cs name
  simp only [nullColumn, bind, Option.bind_eq_some_iff, pure, Prod.exists, Option.some.injEq]
  constructor
  · rintro ⟨after, phrased, _, rest, found, rfl⟩
    obtain ⟨words, said, rfl⟩ := afterPhrase_eq_some.1 phrased
    obtain ⟨opening, opens, opened⟩ := exists_skipQuote after
    obtain ⟨nonempty, same, chars, ends⟩ := run?_eq_some.1 found
    rw [opened, same]
    exact ⟨said, opens, nonempty, chars, ends⟩
  · rintro @⟨words, opening, _, rest, said, opens, nonempty, chars, ends⟩
    refine ⟨_, afterPhrase_eq_some.2 ⟨_, said, rfl⟩, name, rest, ?_, rfl⟩
    rw [skipQuote_append opens]
    · exact run?_eq_some.2 ⟨nonempty, rfl, chars, ends⟩
    · exact head?_append nonempty (fun c hc => ne_quote_of_isWord (chars c hc)) _

/-- A single quote is no letter. -/
theorem eq_quote_of_fold {c : Char} (h : Text.fold c = '\'') : c = '\'' := by
  have lower : c.toLower = '\'' ↔ c = '\'' := by
    simpa using Text.of_lower (f := fun c => decide (c = '\'')) (by decide) c
  unfold Text.fold Text.lower at h
  split at h
  · cases h
  · split at h
    · cases h
    · exact lower.1 h

theorem reads_columnCannotBeNull : Reads columnCannotBeNull QuotedColumn := by
  intro cs name
  simp only [columnCannotBeNull, bind, Option.bind_eq_some_iff, pure, Prod.exists,
    Option.some.injEq]
  constructor
  · rintro ⟨after, phrased, _, rest, found, last, phrased', rfl⟩
    obtain ⟨words, said, rfl⟩ := afterPhrase_eq_some.1 phrased
    obtain ⟨nonempty, rfl, chars, -⟩ := run?_eq_some.1 found
    obtain ⟨more, said', rfl⟩ := afterPhrase_eq_some.1 phrased'
    exact ⟨said, nonempty, chars, said'⟩
  · rintro @⟨words, _, more, rest, said, nonempty, chars, said'⟩
    refine ⟨_, afterPhrase_eq_some.2 ⟨_, said, rfl⟩, name, more ++ rest, ?_, rest,
      afterPhrase_eq_some.2 ⟨_, said', rfl⟩, rfl⟩
    refine run?_eq_some.2 ⟨nonempty, rfl, chars, ?_⟩
    -- The word ends at the quote.
    cases more with
    | nil => cases said'
    | cons c more =>
      have quote : Text.fold c = '\'' := (List.cons.inj said').1
      rintro d ⟨rfl⟩
      rw [eq_quote_of_fold quote]
      decide

/-! ## The first name -/

/-- The first place of a text that has a shape, and the name there. -/
def First (shape : Shape) (cs name : List Char) : Prop :=
  ∃ before rest, cs = before ++ rest ∧ shape rest name ∧
    ∀ longer, longer <:+ cs → rest.length < longer.length → ∀ other, ¬ shape longer other

/-- The name of the first shape that a text has anywhere. -/
inductive Named : List Shape → List Char → List Char → Prop
  /-- The text has the shape. -/
  | here {shape : Shape} {shapes : List Shape} {cs name : List Char} (first : First shape cs name) :
    Named (shape :: shapes) cs name
  /-- The text does not have the shape, but one of those after it. -/
  | later {shape : Shape} {shapes : List Shape} {cs name : List Char}
    (absent : ∀ rest, rest <:+ cs → ∀ other, ¬ shape rest other) (named : Named shapes cs name) :
    Named (shape :: shapes) cs name

variable {m : Matcher} {shape : Shape} {cs name : List Char}

theorem Reads.eq_none (reads : Reads m shape) (cs : List Char) :
    m cs = none ↔ ∀ other, ¬ shape cs other := by
  simp only [Option.eq_none_iff_forall_ne_some, ne_eq, reads cs _]

/-- A search finds nothing where no place has the shape. -/
theorem search_eq_none (reads : Reads m shape) :
    search m cs = none ↔ ∀ rest, rest <:+ cs → ∀ other, ¬ shape rest other := by
  induction cs with
  | nil => simp only [search, reads.eq_none, List.suffix_nil, forall_eq]
  | cons c rest ih =>
    simp only [search, Option.or_eq_none_iff, reads.eq_none, ih, List.suffix_cons_iff, or_imp,
      forall_and, forall_eq]

/-- **A search finds** the name of the first place that has the shape. -/
theorem search_eq_some (reads : Reads m shape) :
    search m cs = some name ↔ First shape cs name := by
  induction cs with
  | nil =>
    rw [search, reads]
    constructor
    · intro here
      refine ⟨[], [], rfl, here, fun longer suffix less => ?_⟩
      have most := suffix.length_le
      omega
    · rintro ⟨before, rest, whole, here, -⟩
      rwa [(List.nil_eq_append_iff.1 whole).2] at here
  | cons c cs ih =>
    rw [search, Option.or_eq_some_iff, reads, reads.eq_none, ih]
    constructor
    · rintro (here | ⟨absent, before, rest, rfl, there, least⟩)
      · refine ⟨[], c :: cs, rfl, here, fun longer suffix less => ?_⟩
        have most := suffix.length_le
        omega
      · refine ⟨c :: before, rest, rfl, there, fun longer suffix less => ?_⟩
        rcases List.suffix_cons_iff.1 suffix with rfl | suffix
        · exact absent
        · exact least longer suffix less
    · rintro ⟨_ | ⟨d, before⟩, rest, whole, there, least⟩
      · rw [List.nil_append] at whole
        exact .inl (whole ▸ there)
      · obtain ⟨rfl, rfl⟩ := List.cons.inj whole
        refine .inr ⟨least _ List.suffix_rfl ?_, before, rest, rfl, there,
          fun longer suffix => least longer (suffix.trans (List.suffix_cons c _))⟩
        show rest.length < (c :: (before ++ rest)).length
        rw [List.length_cons, List.length_append]
        omega

/-- **The first matcher that finds a name** finds that of the first shape. -/
theorem findSome?_search {ms : List Matcher} {shapes : List Shape}
    (reads : List.Forall₂ Reads ms shapes) :
    (ms.findSome? fun m => search m cs) = some name ↔ Named shapes cs name := by
  induction reads with
  | nil => exact iff_of_false (by simp) nofun
  | @cons m shape ms shapes reads _ ih =>
    rw [List.findSome?_cons]
    constructor
    · intro found
      split at found
      · next here =>
        cases found
        exact .here ((search_eq_some reads).1 here)
      · next absent => exact .later ((search_eq_none reads).1 absent) (ih.1 found)
    · rintro (first | ⟨absent, named⟩)
      · rw [(search_eq_some reads).2 first]
      · rw [(search_eq_none reads).2 absent]
        exact ih.2 named

theorem not_named_nil {P : List Char → Prop} : ¬ ∃ name, Named [] cs name ∧ P name := by
  rintro ⟨name, named, -⟩
  cases named

/-- What every shape says of its names holds of the name that is found. -/
theorem Named.of_shapes {P : List Char → Prop} {shapes : List Shape}
    (h : ∀ shape ∈ shapes, ∀ rest name, shape rest name → P name) (named : Named shapes cs name) :
    P name := by
  induction named with
  | here first =>
    obtain ⟨-, rest, -, here, -⟩ := first
    exact h _ List.mem_cons_self rest _ here
  | later _ _ ih => exact ih fun shape mem => h shape (List.mem_cons_of_mem _ mem)

end Pattern

/-! ## Components of names -/

/-- What follows the last point of a name, or all of it. -/
def IsLast (name part : List Char) : Prop :=
  '.' ∉ part ∧ (name = part ∨ ∃ before, name = before ++ '.' :: part)

/-- The last component of a name is empty exactly if the name ends in a point. -/
theorem IsLast.eq_nil_iff {name part : List Char} (last : IsLast name part) (some : name ≠ []) :
    part = [] ↔ ['.'] <:+ name := by
  obtain ⟨pointless, rfl | ⟨before, rfl⟩⟩ := last
  · refine iff_of_false some fun suffix => pointless ?_
    exact suffix.subset List.mem_cons_self
  · constructor
    · rintro rfl
      exact List.suffix_append before _
    · intro suffix
      cases part with
      | nil => rfl
      | cons c part =>
        have tail : c :: part <:+ before ++ '.' :: c :: part :=
          ⟨before ++ ['.'], by rw [List.append_assoc]; rfl⟩
        have last := List.suffix_of_suffix_length_le suffix tail (by simp)
        exact absurd (last.subset List.mem_cons_self) pointless

namespace Classification

open Pattern

/-- A name without a point is its own last component. -/
theorem columnName_of_not_mem {name : List Char} (h : '.' ∉ name) :
    (columnName name).toList = name := by
  have uncut : ∀ c ∈ name, (c == '.') = false := by
    rintro c hc
    exact beq_eq_false_iff_ne.2 fun point => h (point ▸ hc)
  rw [columnName, String.toList_ofList, Text.pieces_of_uncut uncut]
  rfl

/-- What stands before a point does not matter. -/
theorem columnName_append {before rest : List Char} (h : '.' ∉ before) :
    columnName (before ++ '.' :: rest) = columnName rest := by
  have uncut : ∀ c ∈ before, (c == '.') = false := by
    rintro c hc
    exact beq_eq_false_iff_ne.2 fun point => h (point ▸ hc)
  have some := Text.pieces_ne_nil (· == '.') rest
  rw [columnName, columnName, Text.pieces_append_cons uncut (by rfl)]
  cases pieces : Text.pieces (· == '.') rest with
  | nil => exact absurd pieces some
  | cons first more => rfl

/-- **The column of a name** is its last component. -/
theorem isLast_columnName (name : List Char) : IsLast name (columnName name).toList := by
  induction length : name.length using Nat.strong_induction_on generalizing name with
  | h n ih =>
    by_cases pointed : '.' ∈ name
    · obtain ⟨before, rest, rfl, first⟩ := List.eq_append_cons_of_mem pointed
      have shorter : rest.length < n := by
        rw [← length, List.length_append, List.length_cons]
        omega
      obtain ⟨pointless, last⟩ := ih _ shorter rest rfl
      rw [columnName_append first]
      refine ⟨pointless, .inr ?_⟩
      rcases last with whole | ⟨middle, whole⟩
      · exact ⟨before, by rw [← whole]⟩
      · exact ⟨before ++ '.' :: middle, by rw [List.append_assoc, List.cons_append, ← whole]⟩
    · rw [columnName_of_not_mem pointed]
      exact ⟨pointed, .inl rfl⟩

/-! ## Quotes -/

/-- Two quotes in a row are the only ones where nothing stands between them. -/
theorem twoQuotes_iff {before part after : List Char} (h : '\'' ∉ before) (h' : '\'' ∉ part)
    (h'' : '\'' ∉ after) :
    ['\'', '\''] <:+: before ++ '\'' :: (part ++ '\'' :: after) ↔ part = [] := by
  have uncut {cs : List Char} (h : '\'' ∉ cs) : ∀ c ∈ cs, (c == '\'') = false := fun c hc =>
    beq_eq_false_iff_ne.2 fun quote => h (quote ▸ hc)
  constructor
  · rintro ⟨left, right, same⟩
    have quotes := congrArg (List.count '\'') same
    simp only [List.count_append, List.count_cons, List.count_nil, List.count_eq_zero.2 h,
      List.count_eq_zero.2 h', List.count_eq_zero.2 h'', beq_self_eq_true, if_true] at quotes
    have first : '\'' ∉ left := List.count_eq_zero.1 (by omega)
    have last : '\'' ∉ right := List.count_eq_zero.1 (by omega)
    have within : left ++ ['\'', '\''] ++ right = left ++ '\'' :: ([] ++ '\'' :: right) := by simp
    have pieces := congrArg (Text.pieces (· == '\'')) (within.symm.trans same)
    rw [Text.pieces_append_cons (uncut first) (by rfl), Text.pieces_append_cons (by simp) (by rfl),
      Text.pieces_append_cons (uncut h) (by rfl), Text.pieces_append_cons (uncut h') (by rfl)]
      at pieces
    exact (List.cons.inj (List.cons.inj pieces).2).1.symm
  · rintro rfl
    exact ⟨before, after, by simp⟩

end Classification

/-- The shapes in which a message of a class has the name of the column. -/
def FailureKind.shapes : FailureKind → List Pattern.Shape
  | .duplicateEntry =>
    [Pattern.Qualified "unique constraint failed:", Pattern.QuotedKey, Pattern.ParenthesizedKey]
  | .notNullViolation | .schemaMismatch =>
    [Pattern.Qualified "not null constraint failed:", Pattern.NullColumn, Pattern.QuotedColumn]
  | _ => []

namespace Classification

open Pattern

/-- No name is empty, and none has a quote in it. -/
theorem named_chars {kind : FailureKind} {raw name : List Char}
    (named : Named kind.shapes raw name) : name ≠ [] ∧ '\'' ∉ name := by
  refine named.of_shapes (P := fun name => name ≠ [] ∧ '\'' ∉ name) fun shape mem rest name => ?_
  have word (h : ∀ c ∈ name, Text.isWord c = true) : '\'' ∉ name :=
    fun mem => absurd (h _ mem) (by decide)
  have qualified (phrase : String) : Qualified phrase rest name → name ≠ [] ∧ '\'' ∉ name := by
    rintro ⟨-, -, nonempty, chars, -⟩
    exact ⟨nonempty, fun mem => absurd (chars _ mem) (by decide)⟩
  cases kind
  case duplicateEntry =>
    simp only [FailureKind.shapes, List.mem_cons, List.not_mem_nil, or_false] at mem
    rcases mem with rfl | rfl | rfl
    · exact qualified _
    · rintro ⟨-, nonempty, chars⟩
      exact ⟨nonempty, chars⟩
    · rintro ⟨-, -, -, nonempty, chars, -, -⟩
      exact ⟨nonempty, word chars⟩
  case notNullViolation | schemaMismatch =>
    simp only [FailureKind.shapes, List.mem_cons, List.not_mem_nil, or_false] at mem
    rcases mem with rfl | rfl | rfl
    · exact qualified _
    · rintro ⟨-, -, nonempty, chars, -⟩
      exact ⟨nonempty, word chars⟩
    · rintro ⟨-, nonempty, chars, -⟩
      exact ⟨nonempty, word chars⟩
  all_goals exact absurd mem List.not_mem_nil

theorem reads_keys : List.Forall₂ Reads
    [qualifiedName "unique constraint failed:", quotedKey, parenthesizedKey]
    FailureKind.duplicateEntry.shapes :=
  .cons (reads_qualifiedName _) (.cons reads_quotedKey (.cons reads_parenthesizedKey .nil))

theorem reads_columns : List.Forall₂ Reads
    [qualifiedName "not null constraint failed:", nullColumn, columnCannotBeNull]
    FailureKind.notNullViolation.shapes :=
  .cons (reads_qualifiedName _) (.cons reads_nullColumn (.cons reads_columnCannotBeNull .nil))

/-- The field of a duplicate entry is the column of the first name in the message, or else the first
hint in the statement. -/
theorem duplicateField?_eq_some {raw sql f : String} : duplicateField? raw sql = some f ↔
    (∃ name, Named FailureKind.duplicateEntry.shapes raw.toList name ∧ columnName name = f) ∨
      ((∀ name, ¬ Named FailureKind.duplicateEntry.shapes raw.toList name) ∧
        duplicateHints.find? (fun hint => Text.contains hint (Text.lowered sql)) = some f) := by
  have found (name : List Char) : _ ↔ Named FailureKind.duplicateEntry.shapes raw.toList name :=
    findSome?_search reads_keys
  simp only [← found]
  unfold duplicateField?
  dsimp only
  split
  · next name here => simp [here]
  · next absent => simp [absent]

/-- The field of a missing value is the column of the first name in the message. -/
theorem missingField?_eq_some {raw f : String} : missingField? raw = some f ↔
    ∃ name, Named FailureKind.notNullViolation.shapes raw.toList name ∧ columnName name = f := by
  have found (name : List Char) : _ ↔ Named FailureKind.notNullViolation.shapes raw.toList name :=
    findSome?_search reads_columns
  simp only [← found]
  exact Option.map_eq_some_iff

/-! ## What messages say about fields -/

/-- A message that writes a field between quotes writes an empty one exactly if it is. -/
theorem writesNothing_iff {before f after : String} (h : '\'' ∉ before.toList)
    (h' : '\'' ∉ f.toList) (h'' : '\'' ∉ after.toList) :
    "field ''".toList <:+: (before ++ "field '" ++ f ++ "'" ++ after).toList ↔ f = "" := by
  have whole : (before ++ "field '" ++ f ++ "'" ++ after).toList
      = (before.toList ++ "field ".toList) ++ '\'' :: (f.toList ++ '\'' :: after.toList) := by
    simp
  have apart : '\'' ∉ before.toList ++ "field ".toList := by
    simp [h]
  rw [whole]
  constructor
  · intro written
    have quotes : ['\'', '\''] <:+: "field ''".toList := ⟨"field ".toList, [], by simp⟩
    have none := (twoQuotes_iff apart h' h'').1 (quotes.trans written)
    exact String.toList_eq_nil_iff.1 none
  · rintro rfl
    exact ⟨before.toList, after.toList, by simp⟩

theorem field_duplicate (field : Option String) : (duplicate field).field = field := by
  cases field <;> rfl

theorem field_missing (schema : Option Schema) (field : Option String) :
    (missing schema field).field = field := by
  unfold missing
  split
  · split <;> rfl
  · rfl

theorem shapes_missing (schema : Option Schema) (field : Option String) :
    (missing schema field).kind.shapes = FailureKind.notNullViolation.shapes := by
  rcases kind_missing schema field with kind | kind <;> rw [kind]
  rfl

/-- A message about a status has no name of a column. -/
theorem shapes_of_isStatus {kind : FailureKind} (status : kind.isStatus = true) :
    kind.shapes = [] ∧
      ¬ (kind = .duplicateEntry ∨ kind = .notNullViolation ∨ kind = .schemaMismatch) := by
  cases kind
  case malformedRequest | unauthorized | forbidden | notFound | rateLimited | serverError =>
    exact ⟨rfl, by decide⟩
  all_goals cases status

/-- A message about a duplicate entry writes an empty field exactly if that is its field. -/
theorem duplicate_writesNothing {field : Option String}
    (noQuote : ∀ f, field = some f → '\'' ∉ f.toList) :
    "field ''".toList <:+: (duplicate field).message.toList ↔ field = some "" := by
  cases field with
  | none =>
    refine iff_of_false (fun written => ?_) (by simp)
    have quote := written.subset (a := '\'') (by simp)
    revert quote
    decide
  | some f =>
    have whole : "Duplicate entry for field '" ++ f ++ "'"
        = "Duplicate entry for " ++ "field '" ++ f ++ "'" ++ "" := by
      rw [String.append_empty]
      rfl
    rw [duplicate, whole, writesNothing_iff (by decide) (noQuote f rfl) (by decide),
      Option.some.injEq]

/-- So does a message about a missing value. -/
theorem missing_writesNothing (schema : Option Schema) {field : Option String}
    (noQuote : ∀ f, field = some f → '\'' ∉ f.toList) :
    "field ''".toList <:+: (missing schema field).message.toList ↔ field = some "" := by
  cases field with
  | none =>
    refine iff_of_false (fun written => ?_) (by simp)
    have quote := written.subset (a := '\'') (by simp)
    revert quote
    simp only [missing]
    decide
  | some f =>
    rw [missing]
    split
    · have whole : "Schema mismatch: field '" ++ f
          ++ "' is optional in the schema but NOT NULL in the database table"
          = "Schema mismatch: " ++ "field '" ++ f ++ "'"
            ++ " is optional in the schema but NOT NULL in the database table" := by
        apply String.toList_inj.1
        simp
      rw [whole, writesNothing_iff (by decide) (noQuote f rfl) (by decide), Option.some.injEq]
    · have whole : "Missing required field '" ++ f ++ "'"
          = "Missing required " ++ "field '" ++ f ++ "'" ++ "" := by
        rw [String.append_empty]
        rfl
      rw [whole, writesNothing_iff (by decide) (noQuote f rfl) (by decide), Option.some.injEq]

/-- The column of a name is empty exactly if the name ends in a point. -/
theorem columnName_eq_empty_iff {kind : FailureKind} {raw name : List Char}
    (named : Named kind.shapes raw name) : columnName name = "" ↔ ['.'] <:+ name := by
  rw [← (isLast_columnName name).eq_nil_iff (named_chars named).1, String.toList_eq_nil_iff]

theorem noQuote_columnName {kind : FailureKind} {raw name : List Char}
    (named : Named kind.shapes raw name) : '\'' ∉ (columnName name).toList := by
  intro quote
  refine (named_chars named).2 ?_
  obtain ⟨-, whole | ⟨before, whole⟩⟩ := isLast_columnName name
  · rw [whole]
    exact quote
  · rw [whole]
    exact List.mem_append_right before (List.mem_cons_of_mem _ quote)

/-- The column of a name is the last component of one, and has no point. -/
theorem field_of_named {kind : FailureKind} {raw name : List Char}
    (named : Named kind.shapes raw name) :
    '.' ∉ (columnName name).toList ∧
      ∃ name', Named kind.shapes raw name' ∧ IsLast name' (columnName name).toList :=
  ⟨(isLast_columnName name).1, name, named, isLast_columnName name⟩

/-- The field of a missing value is empty exactly if the name ends in a point. -/
theorem missingField?_eq_empty {raw : String} : missingField? raw = some "" ↔
    ∃ name, Named FailureKind.notNullViolation.shapes raw.toList name ∧ ['.'] <:+ name := by
  rw [missingField?_eq_some]
  exact exists_congr fun name => and_congr_right columnName_eq_empty_iff

/-- Hints are names without points and quotes. -/
theorem plain_hints : ∀ f ∈ duplicateHints, '.' ∉ f.toList ∧ f ≠ "" ∧ '\'' ∉ f.toList := by
  decide

/-- So is the field of a duplicate entry: no hint is empty. -/
theorem duplicateField?_eq_empty {raw sql : String} : duplicateField? raw sql = some "" ↔
    ∃ name, Named FailureKind.duplicateEntry.shapes raw.toList name ∧ ['.'] <:+ name := by
  rw [duplicateField?_eq_some]
  constructor
  · rintro (⟨name, named, empty⟩ | ⟨-, found⟩)
    · exact ⟨name, named, (columnName_eq_empty_iff named).1 empty⟩
    · exact absurd rfl (plain_hints "" (List.mem_of_find?_eq_some found)).2.1
  · rintro ⟨name, named, pointed⟩
    exact .inl ⟨name, named, (columnName_eq_empty_iff named).2 pointed⟩

end Classification

open Classification Pattern

/-- **A reported field** is the last component of the name that the message has in the first of the
shapes of its class, or a hint in the statement. It has no point; it is empty, and then the message
writes an empty field, exactly if that name ends in a point. -/
theorem reported_field_is_last_component (schema : Option Schema) (n : Nat) (raw sql : String) :
    let told := classify schema n raw sql
    (∀ f, told.field = some f → '.' ∉ f.toList ∧
        ((∃ name, Named told.kind.shapes raw.toList name ∧ IsLast name f.toList) ∨
          (told.kind = .duplicateEntry ∧ f ∈ duplicateHints ∧
            f.toList <:+: Text.lowered sql))) ∧
      (told.field = some "" ↔ ∃ name, Named told.kind.shapes raw.toList name ∧ ['.'] <:+ name) ∧
      (told.kind = .duplicateEntry ∨ told.kind = .notNullViolation ∨ told.kind = .schemaMismatch →
        ("field ''".toList <:+: told.message.toList ↔ told.field = some "")) := by
  dsimp only
  rw [classify_eq]
  cases said : sense raw with
  | duplicate =>
    simp only [Sense.worded, field_duplicate, kind_duplicate]
    refine ⟨fun f h => ?_, duplicateField?_eq_empty, fun _ => duplicate_writesNothing fun f h => ?_⟩
    · rcases duplicateField?_eq_some.1 h with ⟨name, named, rfl⟩ | ⟨-, found⟩
      · exact (field_of_named named).imp id .inl
      · have mem := List.mem_of_find?_eq_some found
        have there := List.find?_some found
        exact ⟨(plain_hints f mem).1, .inr ⟨trivial, mem, Text.contains_iff.1 there⟩⟩
    · rcases duplicateField?_eq_some.1 h with ⟨name, named, rfl⟩ | ⟨-, found⟩
      · exact noQuote_columnName named
      · exact (plain_hints f (List.mem_of_find?_eq_some found)).2.2
  | missing =>
    simp only [Sense.worded, field_missing, shapes_missing]
    refine ⟨fun f h => ?_, missingField?_eq_empty,
      fun _ => missing_writesNothing schema fun f h => ?_⟩
    · obtain ⟨name, named, rfl⟩ := missingField?_eq_some.1 h
      exact (field_of_named named).imp id .inl
    · obtain ⟨name, named, rfl⟩ := missingField?_eq_some.1 h
      exact noQuote_columnName named
  | status code kind meaning =>
    obtain ⟨unnamed, apart⟩ := shapes_of_isStatus (isStatus_of_sense said)
    simp only [Sense.worded, unnamed, apart, false_implies, and_true]
    exact ⟨fun _ absent => (by cases absent),
      iff_of_false (fun absent => by cases absent) not_named_nil⟩
  | foreignKey | check | other =>
    refine ⟨fun _ absent => (by cases absent),
      iff_of_false (fun absent => by cases absent) not_named_nil, fun kind => ?_⟩
    rcases kind with kind | kind | kind <;> cases kind

/-- The column of a key is reported without its table. -/
theorem username_is_reported :
    let told := classify none 200 "Duplicate entry 'ann' for key 'users.username'" ""
    told.field = some "username" ∧ '.' ∉ "username".toList ∧
      ((∃ name,
          Named told.kind.shapes "Duplicate entry 'ann' for key 'users.username'".toList name ∧
          IsLast name "username".toList) ∨
        (told.kind = .duplicateEntry ∧ "username" ∈ duplicateHints ∧
          "username".toList <:+: Text.lowered "")) ∧
      (told.kind = .duplicateEntry ∧ ¬ "field ''".toList <:+: told.message.toList) := by
  have field : (classify none 200 "Duplicate entry 'ann' for key 'users.username'" "").field
    = some "username" := by decide +kernel
  have kind : (classify none 200 "Duplicate entry 'ann' for key 'users.username'" "").kind
    = .duplicateEntry := by decide +kernel
  obtain ⟨reported, -, written⟩ :=
    reported_field_is_last_component none 200 "Duplicate entry 'ann' for key 'users.username'" ""
  obtain ⟨pointless, origin⟩ := reported "username" field
  refine ⟨field, pointless, origin, kind, ?_⟩
  rw [written (.inl kind), field]
  decide

/-- **A point after the name empties the field**: the message ends in one as a sentence does, and
names a field that is nowhere. -/
theorem point_empties_field :
    classify none 200 "UNIQUE constraint failed: users.email." ""
        = ⟨.duplicateEntry, "Duplicate entry for field ''", some ""⟩ ∧
      classify none 200 "NOT NULL constraint failed: users.email." ""
        = ⟨.notNullViolation, "Missing required field ''", some ""⟩ ∧
      ¬ ∀ (schema : Option Schema) (n : Nat) (raw sql f : String),
        (classify schema n raw sql).field = some f → f ≠ "" := by
  have duplicate : classify none 200 "UNIQUE constraint failed: users.email." ""
    = ⟨.duplicateEntry, "Duplicate entry for field ''", some ""⟩ := by decide +kernel
  refine ⟨duplicate, by decide +kernel, fun always => ?_⟩
  exact always none 200 "UNIQUE constraint failed: users.email." "" "" (by rw [duplicate]) rfl

end RecordMapper
