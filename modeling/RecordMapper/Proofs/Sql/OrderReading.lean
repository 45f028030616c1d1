import RecordMapper.Proofs.Sql.OrderSpellings
import RecordMapper.Proofs.Sql.Orders

/-!
# The orderings that texts are read as

What can be said of an ordering that is read from an arbitrary text, and what becomes of it in a
statement.

* `Order.isWord_of_unsigned`: without a minus sign in front of the text the column is one word.
  `Order.eq_of_signed`: with one it is all that follows, blanks and further signs included.
* `Order.ofText?_sql_iff`: what statements write of an ordering is read as it exactly if its column
  is a word.
* `Order.terms` reads the list of orderings in a statement; `Order.terms_sql_iff` and
  `Order.terms_list_iff` say when it finds one column and one direction for each ordering.
* `orderings_come_from_text` puts this together.
-/

namespace RecordMapper

namespace Order

variable {o : Order} {cs : List Char}

/-! ## Columns -/

/-- **After a minus sign** everything is the column. -/
theorem eq_of_signed {rest : List Char} (signed : Text.trim cs = '-' :: rest)
    (read : ofChars? cs = some o) :
    o = ⟨String.ofList (Text.trim rest), .desc⟩ ∧ Text.trim rest ≠ [] := by
  rw [ofChars?_signed signed] at read
  split at read
  · cases read
  · next some =>
    exact ⟨(Option.some.inj read).symm, by simpa using some⟩

/-- **Without a minus sign** the column is the first word. -/
theorem isWord_of_unsigned (unsigned : (Text.trim cs).head? ≠ some '-')
    (read : ofChars? cs = some o) : IsWord o.column := by
  rw [ofChars?_unsigned unsigned] at read
  cases trimmed : Text.trim cs with
  | nil =>
    rw [trimmed] at read
    cases read
  | cons c rest =>
    have first : Text.isBlank c = false := Text.isBlank_of_head?_trim (by rw [trimmed]; rfl)
    obtain ⟨more, others, words⟩ := Text.head?_words first rest
    have column : o.column.toList = c :: more := by
      rw [trimmed, words] at read
      cases others <;>
      · cases read
        exact String.toList_ofList
    have member : c :: more ∈ Text.words (c :: rest) := words ▸ List.mem_cons_self
    refine ⟨fun empty => ?_, fun d hd => ?_, fun minus => unsigned ?_⟩
    · rw [empty] at column
      cases column
    · exact ((Text.of_mem_words member).2 d (column ▸ hd)).2
    · rw [column] at minus
      rw [trimmed]
      exact minus

/-- The column of an ordering that is read is not empty, and no blanks are around it. -/
theorem trim_column (read : ofChars? cs = some o) :
    o.column ≠ "" ∧ Text.trim o.column.toList = o.column.toList := by
  by_cases minus : (Text.trim cs).head? = some '-'
  · obtain ⟨rest, signed⟩ := List.head?_eq_some_iff.1 minus
    obtain ⟨rfl, some⟩ := eq_of_signed signed read
    rw [String.toList_ofList, Text.trim_trim]
    exact ⟨by simpa using some, rfl⟩
  · have word := isWord_of_unsigned minus read
    exact ⟨word.nonempty, Text.trim_of_unblank word.unblank⟩

/-! ## Reading what is written -/

theorem toList_sql (o : Order) :
    o.sql.toList = o.column.toList ++ ' ' :: o.direction.sql.toList := by
  have blank : " ".toList = [' '] := rfl
  rw [sql, String.toList_append, String.toList_append, blank, List.append_assoc]
  rfl

/-- **What is written of an ordering** is read as it exactly if its column is a word. -/
theorem ofText?_sql_iff : ofText? o.sql = some o ↔ IsWord o.column := by
  refine ⟨fun read => ?_, fun word => o.spells_sql.ofText? word⟩
  by_cases minus : (Text.trim o.sql.toList).head? = some '-'
  · -- The letter C of the direction is read as one more letter of the column.
    obtain ⟨rest, signed⟩ := List.head?_eq_some_iff.1 minus
    obtain ⟨same, -⟩ := eq_of_signed signed read
    have column : o.column.toList = Text.trim rest := by
      rw [same, String.toList_ofList]
    have written : o.sql.toList.count 'C' = o.column.toList.count 'C' + 1 := by
      have one : (' ' :: o.direction.sql.toList).count 'C' = 1 := by
        cases o.direction <;> decide
      rw [toList_sql, List.count_append, one]
    have left : o.sql.toList.count 'C' = rest.count 'C' := by
      rw [← Text.count_trim (by decide) o.sql.toList, signed]
      exact List.count_cons_of_ne (by decide)
    have kept : o.column.toList.count 'C' = rest.count 'C' := by
      rw [column]
      exact Text.count_trim (by decide) rest
    omega
  · exact isWord_of_unsigned minus read

/-! ## Lists of orderings in statements -/

/-- The words of each term of a list of orderings: of what stands between two commas. -/
def terms (list : String) : List (List String) :=
  (Text.pieces (· == ',') list.toList).map fun term => (Text.words term).map String.ofList

/-- What a term should be: the column and the direction. -/
def term (o : Order) : List String :=
  [o.column, o.direction.sql]

/-- No comma is in a written ordering, if none is in the column. -/
theorem uncut_sql (uncut : ∀ c ∈ o.column.toList, c ≠ ',') :
    ∀ c ∈ o.sql.toList, (c == ',') = false :=
  o.spells_sql.uncut fun c hc => beq_eq_false_iff_ne.2 (uncut c hc)

/-- A written ordering has these two words exactly if no blank is in the column. -/
theorem words_sql_iff (some : o.column ≠ "") :
    (Text.words o.sql.toList).map String.ofList = o.term ↔
      ∀ c ∈ o.column.toList, Text.isBlank c = false := by
  have ne : o.column.toList ≠ [] := by simpa using some
  constructor
  · intro same
    have member : o.column ∈ (Text.words o.sql.toList).map String.ofList := by
      rw [same]
      exact List.mem_cons_self
    obtain ⟨word, hw, letters⟩ := List.mem_map.1 member
    rw [← letters, String.toList_ofList]
    exact fun c hc => ((Text.of_mem_words hw).2 c hc).2
  · intro unblank
    have keyword : Text.words o.direction.sql.toList = [o.direction.sql.toList] := by
      cases o.direction <;> decide
    rw [toList_sql, Text.words_append_blank ne unblank Text.isBlank_space, keyword]
    simp [term]

/-- **A written ordering is one term** of a column and a direction exactly if neither a blank nor a
comma is in the column. -/
theorem terms_sql_iff (some : o.column ≠ "") :
    terms o.sql = [o.term] ↔ ∀ c ∈ o.column.toList, Text.isBlank c = false ∧ c ≠ ',' := by
  constructor
  · intro same
    obtain ⟨piece, whole, words⟩ := List.map_eq_singleton_iff.1 same
    obtain rfl : piece = o.sql.toList := by
      have joined := Text.intercalate_pieces ',' o.sql.toList
      rwa [whole, List.intercalate_singleton] at joined
    have uncut : ∀ c ∈ o.sql.toList, (c == ',') = false :=
      fun c hc => (Text.of_mem_pieces (whole ▸ List.mem_singleton_self _) c hc).2
    intro c hc
    have there : c ∈ o.sql.toList := by
      rw [toList_sql]
      exact List.mem_append_left _ hc
    exact ⟨(words_sql_iff some).1 words c hc, by simpa using uncut c there⟩
  · intro plain
    have uncut := uncut_sql fun c hc => (plain c hc).2
    rw [terms, Text.pieces_of_uncut uncut, List.map_singleton,
      (words_sql_iff some).2 fun c hc => (plain c hc).1]

/-- Without commas in the columns the terms of a list are the written orderings. -/
theorem terms_list {orders : List Order} (some : orders ≠ [])
    (uncut : ∀ o ∈ orders, ∀ c ∈ o.column.toList, c ≠ ',') :
    terms (", ".intercalate (orders.map sql))
      = orders.map fun o => (Text.words o.sql.toList).map String.ofList := by
  have blind : ∀ c, Text.isBlank c = true → ∀ piece : List Char,
      (Text.words (c :: piece)).map String.ofList = (Text.words piece).map String.ofList :=
    fun c blank piece => congrArg _ (Text.words_cons_blank blank piece)
  induction orders with
  | nil => exact absurd rfl some
  | cons o rest ih =>
    obtain ⟨first, others⟩ := List.forall_mem_cons.1 uncut
    cases rest with
    | nil =>
      rw [List.map_singleton, String.intercalate_singleton, terms,
        Text.pieces_of_uncut (uncut_sql first)]
      rfl
    | cons second more =>
      have later := ih (List.cons_ne_nil _ _) others
      have separator : ", ".toList = ',' :: [' '] := rfl
      have gap : ∀ c ∈ [' '], Text.isBlank c = true := List.forall_mem_singleton.2 rfl
      rw [terms] at later ⊢
      rw [List.map_cons, List.map_cons, String.intercalate_cons_cons, String.toList_append,
        String.toList_append, separator, List.append_assoc, List.cons_append,
        Text.pieces_append_cons (uncut_sql first) rfl, List.map_cons,
        Text.map_pieces_blanks (by decide) blind gap, ← List.map_cons, later]
      rfl

/-- **A list of orderings is one column and one direction for each** exactly if no blank is in a
column. -/
theorem terms_list_iff {orders : List Order} (some : orders ≠ [])
    (named : ∀ o ∈ orders, o.column ≠ "" ∧ ∀ c ∈ o.column.toList, c ≠ ',') :
    terms (", ".intercalate (orders.map sql)) = orders.map term ↔
      ∀ o ∈ orders, ∀ c ∈ o.column.toList, Text.isBlank c = false := by
  rw [terms_list some fun o ho => (named o ho).2, List.map_inj_left]
  exact forall₂_congr fun o ho => words_sql_iff (named o ho).1

/-- An ordering of a list is read from a piece of the text between two commas. -/
theorem of_mem_listOfText {s : String} (h : o ∈ listOfText s) :
    (∃ piece ∈ Text.pieces (· == ',') s.toList, ofText? (String.ofList piece) = some o) ∧
      ∀ c ∈ o.column.toList, c ≠ ',' := by
  obtain ⟨piece, cut, read⟩ := List.mem_filterMap.1 h
  refine ⟨⟨piece, cut, by rw [ofText?, String.toList_ofList, read]⟩, fun c hc => ?_⟩
  simpa using (Text.of_mem_pieces cut c (mem_of_mem_column read c hc)).2

end Order

/-- The orderings in a statement that selects rows. -/
theorem Query.sql_find_ordered {q : Query} (some : q.orderBy ≠ []) :
    q.find.sql = q.core.sql ++ (" ORDER BY " ++ ", ".intercalate (q.orderBy.map Order.sql)
      ++ q.windowSql) := by
  rw [find, Template.sql_append, Template.sql_raw, orderSql, if_neg (by simpa using some)]

/-- **Orderings come from text.** Take any text. Where it is read as one ordering, the column is
not empty and has no blanks around it. If no minus sign stands in front of the text, the column is
one word. If one does, the ordering is descending and its column is all that follows, trimmed. A
statement has one column and one direction for the ordering exactly if neither a blank nor a comma
is in the column, and what it has is read as the ordering again exactly if the column is one word
with no minus sign in front. Where the text is read as a list, each of the orderings is read so from
what stands between two commas; then a statement has one column and one direction for each of them
exactly if no blank is in any of the columns. -/
theorem orderings_come_from_text (s : String) :
    (∀ o, Order.ofText? s = some o →
      (o.column ≠ "" ∧ Text.trim o.column.toList = o.column.toList) ∧
      ((Text.trim s.toList).head? ≠ some '-' → Order.IsWord o.column) ∧
      (∀ rest, Text.trim s.toList = '-' :: rest →
        o = ⟨String.ofList (Text.trim rest), .desc⟩) ∧
      (Order.terms o.sql = [[o.column, o.direction.sql]] ↔
        ∀ c ∈ o.column.toList, Text.isBlank c = false ∧ c ≠ ',') ∧
      (Order.ofText? o.sql = some o ↔ Order.IsWord o.column)) ∧
    (∀ o ∈ Order.listOfText s,
      (∃ piece ∈ Text.pieces (· == ',') s.toList,
        Order.ofText? (String.ofList piece) = some o) ∧
      ∀ c ∈ o.column.toList, c ≠ ',') ∧
    ∀ q : Query, q.orderBy = Order.listOfText s → q.orderBy ≠ [] →
      ∃ list, q.find.sql = q.core.sql ++ (" ORDER BY " ++ list ++ q.windowSql) ∧
        (Order.terms list = q.orderBy.map (fun o => [o.column, o.direction.sql]) ↔
          ∀ o ∈ q.orderBy, ∀ c ∈ o.column.toList, Text.isBlank c = false) := by
  refine ⟨fun o read => ?_, fun o => Order.of_mem_listOfText, fun q orders some => ?_⟩
  · have column := Order.trim_column read
    exact ⟨column, fun unsigned => Order.isWord_of_unsigned unsigned read,
      fun rest signed => (Order.eq_of_signed signed read).1, Order.terms_sql_iff column.1,
      Order.ofText?_sql_iff⟩
  · refine ⟨_, Query.sql_find_ordered some, Order.terms_list_iff some fun o ho => ?_⟩
    obtain ⟨⟨piece, -, read⟩, uncut⟩ := Order.of_mem_listOfText (orders ▸ ho)
    exact ⟨(Order.trim_column read).1, uncut⟩

/-- A query on people, ordered by a text that has a sign and a direction in words. -/
def people : Query :=
  { table := "people", orderBy := Order.listOfText "-name DESC" }

/-- **A direction is taken for a part of the column** behind a minus sign: the statement has two
directions, and what it has is read as another ordering. -/
theorem direction_joins_column :
    Order.ofText? "-name DESC" = some ⟨"name DESC", .desc⟩ ∧
    people.find.sql = "SELECT * FROM people ORDER BY name DESC DESC" ∧
    Order.ofText? "name DESC DESC" = some ⟨"name", .desc⟩ ∧
    ¬ ∀ s o, Order.ofText? s = some o →
      (∀ c ∈ o.column.toList, Text.isBlank c = false) ∧ Order.ofText? o.sql = some o := by
  have read : Order.ofText? "-name DESC" = some ⟨"name DESC", .desc⟩ := by decide +kernel
  refine ⟨read, by decide +kernel, by decide +kernel, fun always => ?_⟩
  exact absurd ((always _ _ read).1 ' ' (by decide)) (by decide)

end RecordMapper
