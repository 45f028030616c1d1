import Mathlib.Data.List.DropRight
import RecordMapper.Proofs.Sql.Plain

/-!
# Words and the blanks around them

What trimming and cutting into words make of a text that is put together from words and blanks.

* `Text.trim_surrounded`: blanks around a text are trimmed away, and `Text.exists_trim`: nothing
  else is.
* `Text.words_cons_blank` and `Text.words_append_blank` cut a text into its words, one by one.
* `Text.map_pieces_blanks`: blanks in front of a text that is cut into pieces.
-/

namespace RecordMapper.Text

variable {cs word : List Char}

/-! ## Trimming -/

/-- Blanks around a text do not outlive trimming. -/
theorem trim_surrounded {before after : List Char} (start : ∀ c ∈ before, isBlank c = true)
    (finish : ∀ c ∈ after, isBlank c = true) (cs : List Char) :
    trim (before ++ (cs ++ after)) = trim cs := by
  have kept : trimStart (before ++ (cs ++ after)) = trimStart (cs ++ after) :=
    List.dropWhile_append_of_pos start
  have dropped : ∀ c ∈ after.reverse, isBlank c = true :=
    fun c hc => finish c (List.mem_reverse.1 hc)
  rw [trim, kept, trim]
  simp only [trimStart, List.dropWhile_append]
  split
  · next empty =>
    rw [List.isEmpty_iff.1 empty, List.dropWhile_eq_nil_iff.2 finish]
  · rw [List.reverse_append, List.dropWhile_append_of_pos dropped]

/-- **A text is its trimmed form** with blanks around it. -/
theorem exists_trim (cs : List Char) :
    ∃ before after, (∀ c ∈ before, isBlank c = true) ∧ (∀ c ∈ after, isBlank c = true) ∧
      cs = before ++ (trim cs ++ after) := by
  refine ⟨cs.takeWhile isBlank, (trimStart cs).rtakeWhile isBlank,
    fun c => List.mem_takeWhile_imp, fun c => List.mem_rtakeWhile_imp, ?_⟩
  have ends : trim cs ++ (trimStart cs).rtakeWhile isBlank = trimStart cs :=
    List.rdropWhile_append_rtakeWhile
  rw [ends]
  exact List.takeWhile_append_dropWhile.symm

theorem trim_trim (cs : List Char) : trim (trim cs) = trim cs := by
  obtain ⟨before, after, start, finish, whole⟩ := exists_trim cs
  have again := trim_surrounded start finish (trim cs)
  rw [← whole] at again
  exact again.symm

/-- A text with no blank at either end stays as it is. -/
theorem trim_of_ends (first : ∀ c, cs.head? = some c → isBlank c = false)
    (last : ∀ c, cs.getLast? = some c → isBlank c = false) : trim cs = cs := by
  have start {cs : List Char} (first : ∀ c, cs.head? = some c → isBlank c = false) :
      trimStart cs = cs := by
    cases cs with
    | nil => rfl
    | cons c rest => exact List.dropWhile_cons_of_neg (by simp [first c rfl])
  rw [trim, start first, start fun c hc => last c (List.head?_reverse.symm.trans hc),
    List.reverse_reverse]

/-- The first character of a trimmed text is no blank. -/
theorem isBlank_of_head?_trim {c : Char} (h : (trim cs).head? = some c) : isBlank c = false := by
  have start : trim cs <+: trimStart cs := List.rdropWhile_prefix isBlank (trimStart cs)
  obtain ⟨rest, trimmed⟩ := List.head?_eq_some_iff.1 h
  obtain ⟨more, whole⟩ := start
  rw [trimmed, List.cons_append] at whole
  have dropped := List.head?_dropWhile_not isBlank cs
  rw [trimStart] at whole
  rw [← whole] at dropped
  simpa using dropped

/-- Trimming does not change how often a character occurs that is no blank. -/
theorem count_trim {c : Char} (h : isBlank c = false) (cs : List Char) :
    (trim cs).count c = cs.count c := by
  have absent {blanks : List Char} (blank : ∀ c ∈ blanks, isBlank c = true) :
      blanks.count c = 0 := by
    refine List.count_eq_zero.2 fun mem => ?_
    rw [blank c mem] at h
    cases h
  obtain ⟨before, after, start, finish, whole⟩ := exists_trim cs
  conv_rhs => rw [whole]
  rw [List.count_append, List.count_append, absent start, absent finish, Nat.zero_add, Nat.add_zero]

/-! ## Words -/

/-- A blank in front is passed over. -/
theorem words_cons_blank {c : Char} (blank : isBlank c = true) (cs : List Char) :
    words (c :: cs) = words cs := by
  rw [words, pieces, if_pos blank]
  rfl

theorem words_blanks {blanks : List Char} (blank : ∀ c ∈ blanks, isBlank c = true)
    (cs : List Char) : words (blanks ++ cs) = words cs := by
  induction blanks with
  | nil => rfl
  | cons c rest ih =>
    obtain ⟨first, others⟩ := List.forall_mem_cons.1 blank
    rw [List.cons_append, words_cons_blank first, ih others]

/-- A word ends at the first blank. -/
theorem words_append_blank {c : Char} (ne : word ≠ []) (unblank : ∀ c ∈ word, isBlank c = false)
    (blank : isBlank c = true) (cs : List Char) : words (word ++ c :: cs) = word :: words cs := by
  rw [words, pieces_append_cons unblank blank, List.filter_cons_of_pos (by simpa using ne)]
  rfl

/-- **The first word** of a text that starts with none but a word. -/
theorem head?_words {c : Char} (h : isBlank c = false) (rest : List Char) :
    ∃ more others, words (c :: rest) = (c :: more) :: others := by
  have split := List.takeWhile_append_dropWhile (p := fun c => !isBlank c) (l := c :: rest)
  have first : (c :: rest).takeWhile (fun c => !isBlank c)
      = c :: rest.takeWhile fun c => !isBlank c := List.takeWhile_cons_of_pos (by simp [h])
  have unblank : ∀ d ∈ (c :: rest).takeWhile (fun c => !isBlank c), isBlank d = false := by
    intro d hd
    simpa using List.mem_takeWhile_imp hd
  rw [first] at split unblank
  cases after : (c :: rest).dropWhile (fun c => !isBlank c) with
  | nil =>
    rw [after, List.append_nil] at split
    rw [← split, words_of_unblank (List.cons_ne_nil _ _) unblank]
    exact ⟨_, _, rfl⟩
  | cons b later =>
    have blank : isBlank b = true := by
      have dropped := List.head?_dropWhile_not (fun c => !isBlank c) (c :: rest)
      rw [after] at dropped
      simpa using dropped
    rw [after] at split
    rw [← split, words_append_blank (List.cons_ne_nil _ _) unblank blank]
    exact ⟨_, _, rfl⟩

/-! ## Pieces -/

/-- Blanks in front go to the first piece. They do not matter to what overlooks blanks in front. -/
theorem map_pieces_blanks {α : Type} {f : List Char → α} {sep : Char} {blanks : List Char}
    (separates : isBlank sep = false)
    (blind : ∀ c, isBlank c = true → ∀ piece, f (c :: piece) = f piece)
    (blank : ∀ c ∈ blanks, isBlank c = true) (cs : List Char) :
    (pieces (· == sep) (blanks ++ cs)).map f = (pieces (· == sep) cs).map f := by
  induction blanks with
  | nil => rfl
  | cons c rest ih =>
    obtain ⟨first, others⟩ := List.forall_mem_cons.1 blank
    have uncut : (c == sep) = false := by
      refine beq_eq_false_iff_ne.2 fun same => ?_
      rw [same, separates] at first
      cases first
    rw [← ih others, List.cons_append, pieces, if_neg (by simp [uncut])]
    cases cut : pieces (· == sep) (rest ++ cs) with
    | nil => exact absurd cut (pieces_ne_nil _ _)
    | cons piece more => simp only [List.map_cons, blind c first]

end RecordMapper.Text
