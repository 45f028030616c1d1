import RecordMapper.Text.Quoted

/-!
# String literals

A string literal of SQL by the rule that it is read by: it starts with a quote, two quotes in it
denote one, and the first quote that is not doubled ends it.

* `Text.readLiteral?` is a reader by this rule; it knows nothing of how literals are written.
* `Text.readLiteral?_quoteSingle`: a written literal denotes its text and ends where it was ended.
* `Text.readLiteral?_eq_some`: nothing but the written literal denotes the text. In particular, two
  texts are never written alike (`Text.quoteSingle_inj`).
-/

namespace RecordMapper.Text

/-! ## A reader -/

/-- What the body of a string literal denotes, and what follows it: a quote ends the literal, unless
another one follows; two of them denote one. -/
def readBody? : List Char → Option (List Char × List Char)
  | [] => none
  | c :: rest =>
    if c = '\'' then
      match rest with
      | '\'' :: more => (readBody? more).map fun (text, after) => ('\'' :: text, after)
      | after => some ([], after)
    else (readBody? rest).map fun (text, after) => (c :: text, after)

/-- What the string literal at the start of a text denotes, and what follows it. -/
def readLiteral? : List Char → Option (List Char × List Char)
  | '\'' :: rest => readBody? rest
  | _ => none

/-! ## Written literals -/

theorem toList_quoteSingle (s : String) :
    (quoteSingle s).toList = '\'' :: (doubleQuotes s.toList ++ ['\'']) :=
  String.toList_ofList

/-- A written literal and what follows it. -/
theorem toList_quoteSingle_append (s : String) (after : List Char) :
    (quoteSingle s).toList ++ after = '\'' :: (doubleQuotes s.toList ++ '\'' :: after) := by
  rw [toList_quoteSingle, List.cons_append, List.append_assoc]
  rfl

theorem readBody?_doubleQuotes {after : List Char} (ends : after.head? ≠ some '\'')
    (cs : List Char) : readBody? (doubleQuotes cs ++ '\'' :: after) = some (cs, after) := by
  induction cs with
  | nil =>
    cases after with
    | nil => rfl
    | cons c rest =>
      have other : c ≠ '\'' := fun same => ends (congrArg some same)
      simp [doubleQuotes, readBody?, other]
  | cons c rest ih =>
    rw [doubleQuotes]
    split
    · next quote =>
      subst quote
      simp only [List.cons_append, readBody?, if_pos, ih]
      rfl
    · next other =>
      rw [List.cons_append, readBody?.eq_def]
      simp [other, ih]

/-- **A literal denotes the text** that it was written for, and ends where it was ended. -/
theorem readLiteral?_quoteSingle (s : String) {after : List Char}
    (ends : after.head? ≠ some '\'') :
    readLiteral? ((quoteSingle s).toList ++ after) = some (s.toList, after) := by
  rw [toList_quoteSingle_append]
  exact readBody?_doubleQuotes ends s.toList

/-- What is read as the body of a literal was written as one. -/
theorem eq_of_readBody? {cs text after : List Char} (h : readBody? cs = some (text, after)) :
    cs = doubleQuotes text ++ '\'' :: after ∧ after.head? ≠ some '\'' := by
  fun_induction readBody? cs generalizing text after with
  | case1 => cases h
  | case2 more ih =>
    obtain ⟨⟨read, rest⟩, body, same⟩ := Option.map_eq_some_iff.1 h
    cases same
    obtain ⟨rfl, ends⟩ := ih body
    exact ⟨by simp [doubleQuotes], ends⟩
  | case3 rest single =>
    -- The quote that ends the literal: what follows is the rest, which starts with no other one.
    cases h
    refine ⟨rfl, fun doubled => ?_⟩
    obtain ⟨more, same⟩ := List.head?_eq_some_iff.1 doubled
    exact single more same
  | case4 c rest other ih =>
    obtain ⟨⟨read, after⟩, body, same⟩ := Option.map_eq_some_iff.1 h
    cases same
    obtain ⟨rfl, ends⟩ := ih body
    exact ⟨by simp [doubleQuotes, other], ends⟩

/-- **Nothing else denotes the text**: what is read as a literal was written as the one of the text
that it denotes, and no quote follows it. -/
theorem readLiteral?_eq_some {cs text after : List Char} :
    readLiteral? cs = some (text, after) ↔
      cs = (quoteSingle (String.ofList text)).toList ++ after ∧ after.head? ≠ some '\'' := by
  constructor
  · intro h
    unfold readLiteral? at h
    split at h
    · obtain ⟨rfl, ends⟩ := eq_of_readBody? h
      exact ⟨by rw [toList_quoteSingle_append, String.toList_ofList], ends⟩
    · cases h
  · rintro ⟨rfl, ends⟩
    rw [readLiteral?_quoteSingle _ ends, String.toList_ofList]

/-- A whole text is the literal of what it denotes. -/
theorem readLiteral?_eq_whole {cs : List Char} {s : String} :
    readLiteral? cs = some (s.toList, []) ↔ cs = (quoteSingle s).toList := by
  rw [readLiteral?_eq_some, String.ofList_toList, List.append_nil]
  exact and_iff_left nofun

theorem quoteSingle_inj {s t : String} : quoteSingle s = quoteSingle t ↔ s = t := by
  refine ⟨fun same => ?_, congrArg quoteSingle⟩
  have read : some (s.toList, ([] : List Char)) = some (t.toList, []) := by
    rw [← readLiteral?_eq_whole.2 rfl, same, readLiteral?_eq_whole.2 rfl]
  exact String.toList_inj.1 (Prod.mk.inj (Option.some.inj read)).1

end RecordMapper.Text
