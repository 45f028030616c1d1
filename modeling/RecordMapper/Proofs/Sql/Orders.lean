import RecordMapper.Proofs.Sql.Plain

/-!
# Orderings that are read from names

Which names are orderings by themselves: `Order.byField_eq_iff` says that a name is read as the one
ascending ordering of the column of this name exactly if it is bare. From any other name a comma, a
blank or a minus sign is lost, so that it is not the column of any ordering that is read from it
(`Order.isBare_of_mem_byField`).
-/

namespace RecordMapper

namespace Text

variable {cut : Char → Bool} {cs piece word : List Char}

/-- A piece of a text has only characters of the text, and is not cut again. -/
theorem of_mem_pieces (h : piece ∈ pieces cut cs) : ∀ c ∈ piece, c ∈ cs ∧ cut c = false := by
  induction cs generalizing piece with
  | nil =>
    obtain rfl : piece = [] := List.mem_singleton.1 h
    simp
  | cons first rest ih =>
    have later {piece : List Char} (h : piece ∈ pieces cut rest) :
        ∀ c ∈ piece, c ∈ first :: rest ∧ cut c = false :=
      fun c hc => ⟨List.mem_cons_of_mem _ (ih h c hc).1, (ih h c hc).2⟩
    rw [pieces] at h
    split at h
    · rcases List.mem_cons.1 h with rfl | h
      · simp
      · exact later h
    · next whole =>
      have own : first ∈ first :: rest ∧ cut first = false :=
        ⟨List.mem_cons_self, Bool.eq_false_iff.2 whole⟩
      cases rests : pieces cut rest with
      | nil => exact absurd rests (pieces_ne_nil cut rest)
      | cons next more =>
        rw [rests] at h later
        rcases List.mem_cons.1 h with rfl | h
        · exact List.forall_mem_cons.2 ⟨own, later List.mem_cons_self⟩
        · exact later (List.mem_cons_of_mem _ h)

/-- A word of a text is not empty, has only characters of the text, and no blanks. -/
theorem of_mem_words (h : word ∈ words cs) :
    word ≠ [] ∧ ∀ c ∈ word, c ∈ cs ∧ isBlank c = false := by
  obtain ⟨piece, some⟩ := List.mem_filter.1 h
  exact ⟨by simpa using some, of_mem_pieces piece⟩

/-- A trimmed text is a part of the text. -/
theorem trim_sublist (cs : List Char) : (trim cs).Sublist cs := by
  have reversed : (trim cs).Sublist (trimStart cs).reverse.reverse :=
    List.reverse_sublist.2 (List.dropWhile_sublist isBlank)
  rw [List.reverse_reverse] at reversed
  exact reversed.trans (List.dropWhile_sublist isBlank)

end Text

namespace Order

variable {name : String}

/-- The column of an ordering: what stands after a minus sign, or a word of a text without one. -/
theorem column_of_ofChars? {cs : List Char} {o : Order} (h : Order.ofChars? cs = some o) :
    (∃ rest, Text.trim cs = '-' :: rest ∧ o.column.toList = Text.trim rest) ∨
      ((Text.trim cs).head? ≠ some '-' ∧ o.column.toList ∈ Text.words (Text.trim cs)) := by
  unfold Order.ofChars? at h
  split at h
  · next rest signed =>
    dsimp only at h
    split at h <;> cases h
    exact .inl ⟨rest, signed, String.toList_ofList⟩
  · next unsigned =>
    have head : (Text.trim cs).head? ≠ some '-' := fun minus => by
      obtain ⟨rest, signed⟩ := List.head?_eq_some_iff.1 minus
      exact unsigned rest signed
    split at h
    · cases h
    · next single =>
      cases h
      exact .inr ⟨head, by simp [single]⟩
    · next several =>
      obtain rfl := Option.some.inj h
      exact .inr ⟨head, by simp [several]⟩

/-- The column of an ordering is a part of the text that it is read from. -/
theorem mem_of_mem_column {cs : List Char} {o : Order} (h : Order.ofChars? cs = some o) :
    ∀ c ∈ o.column.toList, c ∈ cs := by
  intro c hc
  rcases column_of_ofChars? h with ⟨rest, signed, after⟩ | ⟨-, word⟩
  · rw [after] at hc
    exact (Text.trim_sublist cs).mem
      (signed ▸ List.mem_cons_of_mem _ ((Text.trim_sublist rest).mem hc))
  · exact (Text.trim_sublist cs).mem ((Text.of_mem_words word).2 c hc).1

/-- **A name that is read as an ordering of its column** is bare. -/
theorem isBare_of_mem_byField {o : Order} (h : o ∈ byField name) (same : o.column = name) :
    IsBare name := by
  obtain ⟨piece, cut, read⟩ := List.mem_filterMap.1 h
  have column := column_of_ofChars? read
  have uncut : ∀ c ∈ name.toList, (c == ',') = false :=
    fun c hc => (Text.of_mem_pieces cut c (mem_of_mem_column read c (same ▸ hc))).2
  rw [same] at column
  obtain rfl : piece = name.toList := by
    rw [Text.pieces_of_uncut uncut] at cut
    exact List.mem_singleton.1 cut
  rcases column with ⟨rest, signed, after⟩ | ⟨unsigned, word⟩
  · -- What stands after the sign is shorter than the name.
    have shorter : rest.length < name.toList.length := by
      have trimmed := (Text.trim_sublist name.toList).length_le
      rw [signed, List.length_cons] at trimmed
      omega
    have least := (Text.trim_sublist rest).length_le
    rw [← after] at least
    omega
  · have unblank : ∀ c ∈ name.toList, Text.isBlank c = false :=
      fun c hc => ((Text.of_mem_words word).2 c hc).2
    rw [Text.trim_of_unblank unblank] at unsigned
    exact ⟨fun c hc => by simpa using uncut c hc, unblank, unsigned⟩

/-- **A name is the ascending ordering of its column** exactly if it is bare. -/
theorem byField_eq_iff (ne : name ≠ "") : byField name = [⟨name, .asc⟩] ↔ IsBare name := by
  have letters : name.toList ≠ [] := by simpa using ne
  exact ⟨fun h => isBare_of_mem_byField (h ▸ List.mem_singleton_self _) rfl,
    fun bare => bare.byField letters⟩

end Order

end RecordMapper
