import RecordMapper.Model.Aggregate
import RecordMapper.Proofs.Sql.Lexeme
import RecordMapper.Proofs.Sql.Template

/-!
# Plain names

What an ASCII identifier is as a text: one name for a reader of statements, without a placeholder,
and the ordering by itself.

* `Text.isPlain` are the characters of such names.
* `Lexeme.isWord_of_isIdentifier`, `placeholders_of_isIdentifier`, `Order.byField_of_isIdentifier`.
* `Order.IsBare` are all names that are orderings by themselves.
-/

namespace RecordMapper

namespace Text

/-- A character of an ASCII identifier. -/
def isPlain (c : Char) : Bool :=
  c.isAlphanum || c == '_'

/-- The code points of ASCII identifiers. -/
theorem isPlain_range {c : Char} (h : isPlain c = true) :
    (48 ≤ c.toNat ∧ c.toNat ≤ 57) ∨ (65 ≤ c.toNat ∧ c.toNat ≤ 90) ∨ c.toNat = 95 ∨
      (97 ≤ c.toNat ∧ c.toNat ≤ 122) := by
  have code : c.toNat = c.val.toNat := rfl
  unfold isPlain Char.isAlphanum Char.isAlpha Char.isUpper Char.isLower Char.isDigit at h
  simp only [Bool.or_eq_true, Bool.and_eq_true, decide_eq_true_eq, beq_iff_eq,
    UInt32.le_iff_toNat_le, ge_iff_le] at h
  rcases h with h | rfl
  · simp at h
    omega
  · decide

theorem isWord_of_isPlain {c : Char} (h : isPlain c = true) : isWord c = true := by
  have range := isPlain_range h
  have ascii : c.toNat < 0x80 := by omega
  rw [isWord, if_pos ascii]
  exact h

theorem isBlank_of_isPlain {c : Char} (h : isPlain c = true) : isBlank c = false := by
  have range := isPlain_range h
  simp [isBlank, inRanges, blankRanges]
  omega

/-- A text that is not cut is its only piece. -/
theorem pieces_of_uncut {cut : Char → Bool} {cs : List Char} (h : ∀ c ∈ cs, cut c = false) :
    pieces cut cs = [cs] := by
  induction cs with
  | nil => rfl
  | cons c rest ih =>
    rw [pieces, if_neg (by simp [h c]), ih fun d hd => h d (by simp [hd])]

/-- A text is cut for the first time where the class occurs first. -/
theorem pieces_append_cons {cut : Char → Bool} {cs : List Char} {sep : Char}
    (uncut : ∀ c ∈ cs, cut c = false) (cuts : cut sep = true) (rest : List Char) :
    pieces cut (cs ++ sep :: rest) = cs :: pieces cut rest := by
  induction cs with
  | nil => rw [List.nil_append, pieces, if_pos cuts]
  | cons c cs ih =>
    have later := ih fun d hd => uncut d (List.mem_cons_of_mem c hd)
    rw [List.cons_append, pieces, if_neg (by simp [uncut c]), later]

/-- Parts that are joined by a character that none of them has are the pieces between it. -/
theorem pieces_intercalate {sep : Char} {parts : List (List Char)} (some : parts ≠ [])
    (uncut : ∀ part ∈ parts, sep ∉ part) :
    pieces (· == sep) ([sep].intercalate parts) = parts := by
  have whole {part : List Char} (mem : part ∈ parts) : ∀ c ∈ part, (c == sep) = false := by
    intro c hc
    exact beq_eq_false_iff_ne.2 fun same => uncut part mem (same ▸ hc)
  induction parts with
  | nil => exact absurd rfl some
  | cons part rest ih =>
    cases rest with
    | nil =>
      rw [List.intercalate_singleton]
      exact pieces_of_uncut (whole List.mem_cons_self)
    | cons next more =>
      have later := ih (List.cons_ne_nil _ _) (fun p hp => uncut p (List.mem_cons_of_mem part hp))
        fun hp => whole (List.mem_cons_of_mem part hp)
      rw [List.intercalate_cons_cons, List.append_assoc, List.singleton_append,
        pieces_append_cons (whole List.mem_cons_self) (beq_self_eq_true sep), later]

/-- A text without blanks has none at its ends. -/
theorem trim_of_unblank {cs : List Char} (h : ∀ c ∈ cs, isBlank c = false) : trim cs = cs := by
  have start : ∀ {cs : List Char}, (∀ c ∈ cs, isBlank c = false) → trimStart cs = cs := by
    intro cs h
    cases cs with
    | nil => rfl
    | cons c rest => exact List.dropWhile_cons_of_neg (by simp [h c])
  rw [trim, start h, start fun c hc => h c (List.mem_reverse.1 hc), List.reverse_reverse]

/-- A text without blanks is its only word. -/
theorem words_of_unblank {cs : List Char} (ne : cs ≠ []) (h : ∀ c ∈ cs, isBlank c = false) :
    words cs = [cs] := by
  rw [words, pieces_of_uncut h]
  simp [ne]

end Text

variable {name : String}

theorem ne_nil_of_isIdentifier (h : Aggregate.isIdentifier name = true) : name.toList ≠ [] := by
  intro empty
  rw [Aggregate.isIdentifier, empty] at h
  cases h

theorem isPlain_of_isIdentifier (h : Aggregate.isIdentifier name = true) :
    ∀ c ∈ name.toList, Text.isPlain c = true := by
  unfold Aggregate.isIdentifier at h
  split at h
  · cases h
  · next first rest letters =>
    simp only [Bool.and_eq_true, List.all_eq_true] at h
    rw [letters]
    exact h.2

/-- An identifier is one name. -/
theorem Lexeme.isWord_of_isIdentifier (h : Aggregate.isIdentifier name = true) :
    Lexeme.IsWord name := by
  refine ⟨ne_nil_of_isIdentifier h, List.all_eq_true.2 fun c hc => ?_⟩
  simp [Lexeme.isName, Text.isWord_of_isPlain (isPlain_of_isIdentifier h c hc)]

theorem placeholders_of_isIdentifier (h : Aggregate.isIdentifier name = true) :
    placeholders name = 0 :=
  placeholders_eq_zero.2 fun mark =>
    absurd (isPlain_of_isIdentifier h '?' mark) (by decide)

/-! ## Names as orderings -/

namespace Order

/-- A name that spells an ordering: no comma and no blank is in it, and no minus sign in front. -/
structure IsBare (name : String) : Prop where
  /-- It is not cut. -/
  uncut : ∀ c ∈ name.toList, c ≠ ','
  /-- It is one word. -/
  unblank : ∀ c ∈ name.toList, Text.isBlank c = false
  /-- It is not taken for a descending ordering. -/
  unsigned : name.toList.head? ≠ some '-'

/-- Such a name is read as the ascending ordering. -/
theorem IsBare.ofChars? (h : IsBare name) (ne : name.toList ≠ []) :
    Order.ofChars? name.toList = some ⟨name, .asc⟩ := by
  rw [Order.ofChars?, Text.trim_of_unblank h.unblank]
  split
  · next rest letters => exact absurd (by rw [letters]; rfl) h.unsigned
  · rw [Text.words_of_unblank ne h.unblank]
    simp

/-- **A bare name as an ordering** is the ascending one by itself. -/
theorem IsBare.byField (h : IsBare name) (ne : name.toList ≠ []) :
    Order.byField name = [⟨name, .asc⟩] := by
  have uncut : ∀ c ∈ name.toList, (c == ',') = false :=
    fun c hc => beq_eq_false_iff_ne.2 (h.uncut c hc)
  rw [Order.byField, Order.listOfText, Text.pieces_of_uncut uncut, List.filterMap_cons,
    h.ofChars? ne]
  rfl

theorem isBare_of_isIdentifier (h : Aggregate.isIdentifier name = true) : IsBare name := by
  have plain := isPlain_of_isIdentifier h
  refine ⟨fun c hc => ?_, fun c hc => Text.isBlank_of_isPlain (plain c hc), fun minus => ?_⟩
  · rintro rfl
    exact absurd (plain ',' hc) (by decide)
  · exact absurd (plain '-' (List.mem_of_head? minus)) (by decide)

theorem byField_of_isIdentifier (h : Aggregate.isIdentifier name = true) :
    Order.byField name = [⟨name, .asc⟩] :=
  (isBare_of_isIdentifier h).byField (ne_nil_of_isIdentifier h)

end Order

end RecordMapper
