import Mathlib.Data.List.Forall2
import RecordMapper.Proofs.Failure.LetterCase
import RecordMapper.Proofs.Text.Words

/-!
# The spellings of an ordering

An ordering may be spelled with its direction in words or by a sign, in any letter case and with any
blanks around its parts, and each of these spellings is read as the ordering.

* `Order.Spells` are the spellings of an ordering. What statements write is one of them
  (`Order.spells_sql`).
* `Order.IsWord` are the columns that come back: one word, with no minus sign in front.
* `Order.Spells.ofText?`: every spelling of an ordering of such a column is read as it.
* `orderings_read_back`: so is a list of orderings, however each is spelled.
-/

namespace RecordMapper

namespace Text

/-- A text of blanks, or none at all. -/
def Blank (s : String) : Prop :=
  ∀ c ∈ s.toList, isBlank c = true

instance (s : String) : Decidable (Blank s) :=
  List.decidableBAll (fun c => isBlank c = true) s.toList

/-- What holds of the letters of a word in both cases holds of it in any letter case. -/
theorem of_sameLetters {f : Char → Bool} (blind : ∀ c, f c.toLower = f c) {word keyword : String}
    (same : sameLetters word keyword = true) (h : keyword.toList.any f = false) :
    ∀ c ∈ word.toList, f c = false := by
  intro c hc
  have letters : word.toList.map Char.toLower = keyword.toList.map Char.toLower := by
    simpa [sameLetters] using same
  have mem : c.toLower ∈ keyword.toList.map Char.toLower := letters ▸ List.mem_map_of_mem hc
  obtain ⟨k, hk, lower⟩ := List.mem_map.1 mem
  rw [← blind c, ← lower, blind k]
  exact Bool.eq_false_iff.2 (List.any_eq_false.1 h k hk)

theorem isComma_toLower (c : Char) : (c.toLower == ',') = (c == ',') :=
  of_lower (f := fun c => c == ',') (by decide) c

end Text

/-! ## Directions in words -/

namespace Direction

/-- A direction in any letter case is one word, and no comma is in it. -/
theorem word_of_sameLetters {d : Direction} {word : String}
    (same : Text.sameLetters word d.sql = true) :
    word.toList ≠ [] ∧ (∀ c ∈ word.toList, Text.isBlank c = false) ∧
      ∀ c ∈ word.toList, (c == ',') = false := by
  refine ⟨?_, Text.of_sameLetters Text.isBlank_toLower same (by cases d <;> decide),
    Text.of_sameLetters Text.isComma_toLower same (by cases d <;> decide)⟩
  intro empty
  rw [Text.sameLetters, empty] at same
  cases d <;> cases same

/-- **A direction is read** in any letter case. -/
theorem read_of_sameLetters {d : Direction} {word : String}
    (same : Text.sameLetters word d.sql = true) :
    (if Text.sameLetters word "desc" then Direction.desc else .asc) = d := by
  have letters : word.toList.map Char.toLower = d.sql.toList.map Char.toLower := by
    simpa [Text.sameLetters] using same
  rw [Text.sameLetters, letters]
  cases d <;> rfl

end Direction

namespace Order

variable {o : Order} {cs : List Char}

/-! ## Reading by cases -/

/-- A sign is read, and the rest is the column. -/
theorem ofChars?_signed {rest : List Char} (signed : Text.trim cs = '-' :: rest) :
    ofChars? cs = if (Text.trim rest).isEmpty then none
      else some ⟨String.ofList (Text.trim rest), .desc⟩ := by
  rw [ofChars?, signed]
  rfl

/-- Without a sign the words are read. -/
theorem ofChars?_unsigned (unsigned : (Text.trim cs).head? ≠ some '-') :
    ofChars? cs = match Text.words (Text.trim cs) with
      | [] => none
      | [column] => some ⟨String.ofList column, .asc⟩
      | column :: direction :: _ => some ⟨String.ofList column,
          if Text.sameLetters (String.ofList direction) "desc" then .desc else .asc⟩ := by
  unfold ofChars?
  split
  · next rest signed => exact absurd (by rw [signed]; rfl) unsigned
  · rfl

/-- Blanks in front do not matter. -/
theorem ofChars?_cons_blank {c : Char} (blank : Text.isBlank c = true) (cs : List Char) :
    ofChars? (c :: cs) = ofChars? cs := by
  have trimmed : Text.trim (c :: cs) = Text.trim cs := by
    have surrounded : Text.trim ([c] ++ (cs ++ [])) = Text.trim cs :=
      Text.trim_surrounded (by simpa using blank) (by simp) cs
    rwa [List.append_nil] at surrounded
  rw [ofChars?, trimmed, ← ofChars?]

/-! ## Spellings -/

/-- A column that is one word, with no minus sign in front. -/
structure IsWord (column : String) : Prop where
  /-- There is a word. -/
  nonempty : column ≠ ""
  /-- There is no other. -/
  unblank : ∀ c ∈ column.toList, Text.isBlank c = false
  /-- It is not taken for a descending ordering. -/
  unsigned : column.toList.head? ≠ some '-'

instance (column : String) : Decidable (IsWord column) :=
  decidable_of_iff
    (column ≠ "" ∧ column.toList.any Text.isBlank = false ∧ column.toList.head? ≠ some '-')
    ⟨fun ⟨nonempty, unblank, unsigned⟩ =>
      ⟨nonempty, fun c hc => Bool.eq_false_iff.2 (List.any_eq_false.1 unblank c hc), unsigned⟩,
    fun ⟨nonempty, unblank, unsigned⟩ =>
      ⟨nonempty, List.any_eq_false.2 fun c hc => Bool.eq_false_iff.1 (unblank c hc), unsigned⟩⟩

/-- The texts that an ordering may be spelled as. -/
inductive Spells (o : Order) : String → Prop
  /-- The column and the direction in words, in any letter case. -/
  | worded {before between after word : String} (start : Text.Blank before)
      (apart : Text.Blank between) (finish : Text.Blank after) (some : between ≠ "")
      (spelled : Text.sameLetters word o.direction.sql = true) :
    Spells o (before ++ o.column ++ between ++ word ++ after)
  /-- The column alone, where the direction is ascending. -/
  | bare {before after : String} (start : Text.Blank before) (finish : Text.Blank after)
      (ascending : o.direction = .asc) : Spells o (before ++ o.column ++ after)
  /-- A minus sign and the column, where the direction is descending. -/
  | signed {before between after : String} (start : Text.Blank before)
      (apart : Text.Blank between) (finish : Text.Blank after) (descending : o.direction = .desc) :
    Spells o (before ++ "-" ++ between ++ o.column ++ after)

/-- **What statements write** is a spelling. -/
theorem spells_sql (o : Order) : o.Spells o.sql := by
  have same : Text.sameLetters o.direction.sql o.direction.sql = true := by
    simp [Text.sameLetters]
  have written : o.Spells ("" ++ o.column ++ " " ++ o.direction.sql ++ "") :=
    .worded (by decide) (by decide) (by decide) (by decide) same
  simpa [sql] using written

theorem IsWord.ne_nil (word : IsWord o.column) : o.column.toList ≠ [] := by
  simpa using word.nonempty

/-- A direction in words after the column. -/
theorem ofChars?_worded {before between after : List Char} {word : String}
    (column : IsWord o.column) (start : ∀ c ∈ before, Text.isBlank c = true)
    (apart : ∀ c ∈ between, Text.isBlank c = true) (finish : ∀ c ∈ after, Text.isBlank c = true)
    (some : between ≠ []) (spelled : Text.sameLetters word o.direction.sql = true) :
    ofChars? (before ++ (o.column.toList ++ (between ++ word.toList) ++ after))
      = .some o := by
  obtain ⟨letters, unblank, -⟩ := Direction.word_of_sameLetters spelled
  have trimmed : Text.trim (before ++ (o.column.toList ++ (between ++ word.toList) ++ after))
      = o.column.toList ++ (between ++ word.toList) := by
    rw [Text.trim_surrounded start finish]
    refine Text.trim_of_ends (fun c hc => ?_) fun c hc => ?_
    · rw [List.head?_append_of_ne_nil _ column.ne_nil] at hc
      exact column.unblank c (List.mem_of_head? hc)
    · rw [← List.append_assoc, List.getLast?_append_of_ne_nil _ letters] at hc
      exact unblank c (List.mem_of_getLast? hc)
  have words : Text.words (o.column.toList ++ (between ++ word.toList))
      = [o.column.toList, word.toList] := by
    obtain ⟨b, more, rfl⟩ := List.exists_cons_of_ne_nil some
    obtain ⟨blank, others⟩ := List.forall_mem_cons.1 apart
    rw [List.cons_append, Text.words_append_blank column.ne_nil column.unblank blank,
      Text.words_blanks others, Text.words_of_unblank letters unblank]
  have unsigned :
      (Text.trim (before ++ (o.column.toList ++ (between ++ word.toList) ++ after))).head?
        ≠ .some '-' := by
    rw [trimmed, List.head?_append_of_ne_nil _ column.ne_nil]
    exact column.unsigned
  rw [ofChars?_unsigned unsigned, trimmed, words]
  simp only [String.ofList_toList, Direction.read_of_sameLetters spelled]

/-- **Every spelling of an ordering** is read as it. -/
theorem Spells.ofText? {s : String} (h : o.Spells s) (column : IsWord o.column) :
    Order.ofText? s = some o := by
  have whole : Text.trim o.column.toList = o.column.toList := Text.trim_of_unblank column.unblank
  rw [Order.ofText?]
  cases h with
  | @worded before between after word start apart finish some spelled =>
    have gap : between.toList ≠ [] := by simpa using some
    rw [← ofChars?_worded column start apart finish gap spelled]
    simp [String.toList_append, List.append_assoc]
  | @bare before after start finish ascending =>
    have letters : (before ++ o.column ++ after).toList
        = before.toList ++ (o.column.toList ++ after.toList) := by
      simp [String.toList_append, List.append_assoc]
    have trimmed := (Text.trim_surrounded start finish o.column.toList).trans whole
    rw [letters, ofChars?_unsigned (by rw [trimmed]; exact column.unsigned), trimmed,
      Text.words_of_unblank column.ne_nil column.unblank, ← ascending]
    simp
  | @signed before between after start apart finish descending =>
    have letters : (before ++ "-" ++ between ++ o.column ++ after).toList
        = before.toList ++ ('-' :: (between.toList ++ o.column.toList) ++ after.toList) := by
      have sign : "-".toList = ['-'] := rfl
      simp [String.toList_append, sign, List.append_assoc]
    have trimmed : Text.trim (before.toList ++
        ('-' :: (between.toList ++ o.column.toList) ++ after.toList))
          = '-' :: (between.toList ++ o.column.toList) := by
      rw [Text.trim_surrounded start finish]
      refine Text.trim_of_ends (fun c hc => ?_) fun c hc => ?_
      · cases hc
        decide
      · rw [← List.cons_append, List.getLast?_append_of_ne_nil _ column.ne_nil] at hc
        exact column.unblank c (List.mem_of_getLast? hc)
    have rest : Text.trim (between.toList ++ o.column.toList) = o.column.toList := by
      have surrounded := Text.trim_surrounded apart (List.forall_mem_nil _) o.column.toList
      rwa [List.append_nil, whole] at surrounded
    rw [letters, ofChars?_signed trimmed, rest, if_neg (by simpa using column.nonempty),
      ← descending]
    simp

/-! ## Lists of orderings -/

/-- A gap has no comma. -/
theorem uncut_of_blank {s : String} (h : Text.Blank s) : ∀ c ∈ s.toList, (c == ',') = false := by
  intro c hc
  refine beq_eq_false_iff_ne.2 fun comma => ?_
  have blank := h c hc
  rw [comma] at blank
  exact absurd blank (by decide)

/-- No comma is in a spelling, if none is in the column. -/
theorem Spells.uncut {s : String} (h : o.Spells s)
    (column : ∀ c ∈ o.column.toList, (c == ',') = false) : ∀ c ∈ s.toList, (c == ',') = false := by
  cases h with
  | worded start apart finish _ spelled =>
    have word := (Direction.word_of_sameLetters spelled).2.2
    simp only [String.toList_append, List.forall_mem_append]
    exact ⟨⟨⟨⟨uncut_of_blank start, column⟩, uncut_of_blank apart⟩, word⟩, uncut_of_blank finish⟩
  | bare start finish _ =>
    simp only [String.toList_append, List.forall_mem_append]
    exact ⟨⟨uncut_of_blank start, column⟩, uncut_of_blank finish⟩
  | signed start apart finish _ =>
    have sign : ∀ c ∈ "-".toList, (c == ',') = false := List.forall_mem_singleton.2 rfl
    simp only [String.toList_append, List.forall_mem_append]
    exact ⟨⟨⟨⟨uncut_of_blank start, sign⟩, uncut_of_blank apart⟩, column⟩,
      uncut_of_blank finish⟩

/-- Blanks in front of a list of orderings do not matter. -/
theorem filterMap_pieces_blanks {gap : List Char} (blank : ∀ c ∈ gap, Text.isBlank c = true)
    (cs : List Char) : (Text.pieces (· == ',') (gap ++ cs)).filterMap ofChars?
      = (Text.pieces (· == ',') cs).filterMap ofChars? := by
  have read (pieces : List (List Char)) :
      pieces.filterMap ofChars? = (pieces.map ofChars?).filterMap id := by
    rw [List.filterMap_map]
    rfl
  rw [read, read, Text.map_pieces_blanks (by decide) (fun _ => ofChars?_cons_blank) blank]

/-- **Orderings with commas between** are read back, however each is spelled. -/
theorem listOfText_spelled {orders : List Order} {texts : List String} (gap : String)
    (blank : Text.Blank gap) (spelled : List.Forall₂ Spells orders texts)
    (named : ∀ o ∈ orders, IsWord o.column ∧ ∀ c ∈ o.column.toList, c ≠ ',') :
    listOfText (("," ++ gap).intercalate texts) = orders := by
  induction spelled with
  | nil => rfl
  | @cons o text orders texts first others ih =>
    obtain ⟨⟨word, comma⟩, rest⟩ := List.forall_mem_cons.1 named
    have uncut : ∀ c ∈ text.toList, (c == ',') = false :=
      first.uncut fun c hc => beq_eq_false_iff_ne.2 (comma c hc)
    have read : ofChars? text.toList = some o := first.ofText? word
    cases others with
    | nil =>
      rw [String.intercalate_singleton, listOfText, Text.pieces_of_uncut uncut,
        List.filterMap_cons, read]
      rfl
    | cons second more =>
      have later := ih rest
      have separator : ("," ++ gap).toList = ',' :: gap.toList := by
        rw [String.toList_append]
        rfl
      rw [listOfText] at later ⊢
      rw [String.intercalate_cons_cons, String.toList_append, String.toList_append, separator,
        List.append_assoc, List.cons_append, Text.pieces_append_cons uncut rfl,
        List.filterMap_cons, read, filterMap_pieces_blanks blank, later]

end Order

/-- **Orderings read back.** Take a list of orderings whose columns are words without commas and
without a minus sign in front. What statements write of them, with commas between, is read as the
same list in the same order. So is every other spelling of them: the direction in words may be in
any letter case, an ascending ordering may be the column alone and a descending one the column after
a minus sign, and any blanks may stand around the parts. -/
theorem orderings_read_back {orders : List Order}
    (named : ∀ o ∈ orders, Order.IsWord o.column ∧ ∀ c ∈ o.column.toList, c ≠ ',') :
    (∀ separator ∈ [", ", ","],
      Order.listOfText (separator.intercalate (orders.map Order.sql)) = orders) ∧
    ∀ texts, List.Forall₂ Order.Spells orders texts → ∀ separator ∈ [", ", ","],
      Order.listOfText (separator.intercalate texts) = orders := by
  have spelled : ∀ texts, List.Forall₂ Order.Spells orders texts → ∀ separator ∈ [", ", ","],
      Order.listOfText (separator.intercalate texts) = orders := by
    intro texts each separator mem
    rcases List.mem_pair.1 mem with rfl | rfl
    · exact Order.listOfText_spelled " " (by decide) each named
    · exact Order.listOfText_spelled "" (by decide) each named
  refine ⟨spelled _ ?_, spelled⟩
  rw [List.forall₂_map_right_iff, List.forall₂_same]
  exact fun o _ => o.spells_sql

/-- Orderings of a list of people. -/
def roster : List Order :=
  [⟨"name", .desc⟩, ⟨"age", .desc⟩, ⟨"email", .asc⟩]

theorem roster_reads_back :
    (∀ o ∈ roster, Order.IsWord o.column ∧ ∀ c ∈ o.column.toList, c ≠ ',') ∧
    Order.listOfText "name DESC, age DESC, email ASC" = roster ∧
    Order.listOfText "\tname  dEsC ,- age,email" = roster := by
  have named : ∀ o ∈ roster, Order.IsWord o.column ∧ ∀ c ∈ o.column.toList, c ≠ ',' := by
    intro o ho
    simp only [roster, List.mem_cons, List.not_mem_nil, or_false] at ho
    rcases ho with rfl | rfl | rfl <;>
    exact ⟨by decide, by simp⟩
  obtain ⟨written, spelled⟩ := orderings_read_back named
  have name : Order.Spells ⟨"name", .desc⟩ ("\t" ++ "name" ++ "  " ++ "dEsC" ++ " ") :=
    .worded (by decide) (by decide) (by decide) (by decide) (by decide)
  have age : Order.Spells ⟨"age", .desc⟩ ("" ++ "-" ++ " " ++ "age" ++ "") :=
    .signed (by decide) (by decide) (by decide) rfl
  have email : Order.Spells ⟨"email", .asc⟩ ("" ++ "email" ++ "") :=
    .bare (by decide) (by decide) rfl
  exact ⟨named, written ", " (by simp),
    spelled _ (.cons name (.cons age (.cons email .nil))) "," (by simp)⟩

end RecordMapper
