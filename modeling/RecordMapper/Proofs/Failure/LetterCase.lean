import RecordMapper.Proofs.Failure

/-!
# Reports in another letter case

An engine's message means the same in every letter case. Only the names in it are read as they are
written, and the schema is asked about them.

* `Text.of_lower`: what is said of a letter in lower case is said of the letter.
* `Pattern.Blind` are the readings of a text that letter case does not matter to. That of a status
  is one of them (`Pattern.blind_statedStatus`), and so is what a message says
  (`Classification.sense_congr`).
* `kind_goes_by_message` says what becomes of this where the statement and the length of excerpts
  change as well.
-/

namespace RecordMapper

/-! ## Letters -/

namespace Text

/-- What holds of the ASCII capitals one by one holds of every character that is one. -/
theorem forall_capital {P : Char → Prop} (h : ∀ n < 26, P (Char.ofNat (65 + n))) {c : Char}
    (capital : c.isUpper = true) : P c := by
  have range : 65 ≤ c.toNat ∧ c.toNat ≤ 90 := of_decide_eq_true capital
  have place : 65 + (c.toNat - 65) = c.toNat := by omega
  have it := h (c.toNat - 65) (by omega)
  rwa [place, Char.ofNat_toNat] at it

/-- A letter in lower case is itself, or what a capital becomes. -/
theorem toLower_of_not_capital {c : Char} (h : c.isUpper = false) : c.toLower = c := by
  have range : ¬ ('A'.val ≤ c.val ∧ c.val ≤ 'Z'.val) := of_decide_eq_false h
  exact dif_neg range

/-- What a function makes of the lower case of every capital, it makes of every lower case. -/
theorem of_lower {α : Type} {f : Char → α}
    (h : ∀ n < 26, f (Char.ofNat (65 + n)).toLower = f (Char.ofNat (65 + n))) (c : Char) :
    f c.toLower = f c := by
  cases capital : c.isUpper with
  | true => exact forall_capital (P := fun c => f c.toLower = f c) h capital
  | false => rw [toLower_of_not_capital capital]

theorem lower_toLower (c : Char) : lower c.toLower = lower c := of_lower (by decide) c

theorem fold_toLower (c : Char) : fold c.toLower = fold c := of_lower (by decide) c

theorem isBlank_toLower (c : Char) : isBlank c.toLower = isBlank c := of_lower (by decide) c

theorem isDigit_toLower (c : Char) : isDigit c.toLower = isDigit c := of_lower (by decide) c

theorem isWord_toLower (c : Char) : isWord c.toLower = isWord c := of_lower (by decide) c

/-- A digit has no letter case. -/
theorem toLower_of_isDigit {c : Char} (h : isDigit c = true) : c.toLower = c := by
  cases capital : c.isUpper with
  | true =>
    have none : isDigit c = false :=
      forall_capital (P := fun c => isDigit c = false) (by decide) capital
    rw [none] at h
    cases h
  | false => exact toLower_of_not_capital capital

end Text

/-! ## Patterns -/

namespace Pattern

/-- Letter case does not matter to a reading of a text. -/
def Blind {α : Type} (f : List Char → α) : Prop :=
  ∀ cs, f (cs.map Char.toLower) = f cs

/-- Texts in the same letters are read in the same way. -/
theorem Blind.congr {α : Type} {f : List Char → α} (blind : Blind f) {s t : String}
    (same : Text.sameLetters s t = true) : f s.toList = f t.toList := by
  rw [← blind s.toList, ← blind t.toList, eq_of_beq same]

theorem afterPhrase_toLower (phrase : String) (cs : List Char) :
    afterPhrase phrase (cs.map Char.toLower)
      = (afterPhrase phrase cs).map (·.map Char.toLower) := by
  have folded : Text.fold ∘ Char.toLower = Text.fold := funext Text.fold_toLower
  simp only [afterPhrase, ← List.map_take, ← List.map_drop, List.map_map, folded]
  split <;> rfl

theorem skipBlanks_toLower (cs : List Char) :
    skipBlanks (cs.map Char.toLower) = (skipBlanks cs).map Char.toLower := by
  have blanks : Text.isBlank ∘ Char.toLower = Text.isBlank := funext Text.isBlank_toLower
  simp only [skipBlanks, Text.trimStart, List.dropWhile_map, blanks]

theorem skipColon_toLower (cs : List Char) :
    skipOptional ':' (cs.map Char.toLower) = (skipOptional ':' cs).map Char.toLower := by
  cases cs with
  | nil => rfl
  | cons c rest =>
    have colon : c.toLower = ':' ↔ c = ':' := by
      have it := Text.of_lower (f := fun c => decide (c = ':')) (by decide) c
      simpa using it
    simp only [List.map_cons, skipOptional, colon]
    split <;> simp

/-- What follows the word `code`, or else the same text. -/
def skipCode (rest : List Char) : List Char :=
  if (rest.takeWhile Text.isBlank).isEmpty then rest
  else (afterPhrase "code" (skipBlanks rest)).getD rest

theorem afterStatusWord_eq (cs : List Char) :
    afterStatusWord cs = (afterPhrase "http" cs).or ((afterPhrase "status" cs).map skipCode) := by
  unfold afterStatusWord
  cases afterPhrase "http" cs with
  | some rest => rfl
  | none =>
    cases afterPhrase "status" cs with
    | none => rfl
    | some rest =>
      show (if _ then _ else _) = some (skipCode rest)
      rw [skipCode]
      split <;> rfl

theorem skipCode_toLower (rest : List Char) :
    skipCode (rest.map Char.toLower) = (skipCode rest).map Char.toLower := by
  have blanks : Text.isBlank ∘ Char.toLower = Text.isBlank := funext Text.isBlank_toLower
  simp only [skipCode, List.takeWhile_map, blanks, List.isEmpty_map, skipBlanks_toLower,
    afterPhrase_toLower]
  split
  · rfl
  · cases afterPhrase "code" (skipBlanks rest) <;> rfl

theorem afterStatusWord_toLower (cs : List Char) :
    afterStatusWord (cs.map Char.toLower) = (afterStatusWord cs).map (·.map Char.toLower) := by
  simp only [afterStatusWord_eq, afterPhrase_toLower]
  cases afterPhrase "http" cs with
  | some rest => rfl
  | none =>
    cases afterPhrase "status" cs with
    | none => rfl
    | some rest => exact congrArg some (skipCode_toLower rest)

/-- Whether a word ends before a text. -/
def endsWord : List Char → Bool
  | c :: _ => !Text.isWord c
  | [] => true

/-- Three digits that end a word. -/
def threeDigits (cs : List Char) : Option (List Char) :=
  if (cs.take 3).length = 3 && (cs.take 3).all Text.isDigit && endsWord (cs.drop 3) then
    some (cs.take 3)
  else none

theorem statusCode_eq (cs : List Char) : statusCode cs = (afterStatusWord cs).bind fun rest =>
    threeDigits (skipBlanks (skipOptional ':' (skipBlanks rest))) := rfl

theorem blind_endsWord : Blind endsWord := by
  intro cs
  cases cs with
  | nil => rfl
  | cons c rest => exact congrArg not (Text.isWord_toLower c)

/-- Digits have no letter case. -/
theorem blind_threeDigits : Blind threeDigits := by
  intro cs
  have digits : Text.isDigit ∘ Char.toLower = Text.isDigit := funext Text.isDigit_toLower
  simp only [threeDigits, ← List.map_take, ← List.map_drop, List.length_map, List.all_map, digits,
    blind_endsWord _]
  by_cases found : (cs.take 3).all Text.isDigit = true
  · have same : (cs.take 3).map Char.toLower = cs.take 3 :=
      (List.map_congr_left fun c hc =>
        Text.toLower_of_isDigit (List.all_eq_true.1 found c hc)).trans (List.map_id _)
    rw [same]
  · simp [found]

/-- **A status is read in every letter case.** -/
theorem blind_statusCode : Blind statusCode := by
  intro cs
  simp only [statusCode_eq, afterStatusWord_toLower, Option.bind_map, Function.comp_def,
    skipBlanks_toLower, skipColon_toLower, blind_threeDigits _]

theorem blind_searchAtWord {m : Matcher} (blind : Blind m) (inWord : Bool) :
    Blind (searchAtWord m inWord) := by
  intro cs
  induction cs generalizing inWord with
  | nil => rfl
  | cons c rest ih =>
    have here : m (c.toLower :: rest.map Char.toLower) = m (c :: rest) := blind (c :: rest)
    rw [List.map_cons, searchAtWord, searchAtWord, here, Text.isWord_toLower, ih]

end Pattern

/-! ## What a message says -/

namespace Classification

theorem lowered_congr {raw raw' : String} (same : Text.sameLetters raw raw' = true) :
    Text.lowered raw = Text.lowered raw' := by
  have blind : Pattern.Blind (List.map Text.lower) := fun cs => by
    have lower : Text.lower ∘ Char.toLower = Text.lower := funext Text.lower_toLower
    rw [List.map_map, lower]
  exact blind.congr same

theorem statedStatus?_congr {raw raw' : String} (same : Text.sameLetters raw raw' = true) :
    statedStatus? raw = statedStatus? raw' := by
  have read := (Pattern.blind_searchAtWord Pattern.blind_statusCode false).congr same
  rw [statedStatus?, statedStatus?, read]

/-- **A message says the same** in every letter case. -/
theorem sense_congr {raw raw' : String} (same : Text.sameLetters raw raw' = true) :
    sense raw = sense raw' := by
  simp only [sense, lowered_congr same, statedStatus?_congr same]

end Classification

open Classification

/-- **What a message means** goes by the message alone, letter case aside. Where there is a schema,
it is asked about the field as the message writes it, so that messages that differ in letter case
may be about a required field and an optional one. The statement matters to the field of a duplicate
entry only, and, with the length of excerpts, to the words of a duplicate entry or a status; what is
not understood is passed on word by word. -/
theorem kind_goes_by_message {raw raw' : String} (same : Text.sameLetters raw raw' = true)
    (schema : Option Schema) (sql sql' : String) (n n' : Nat) :
    (classify none n raw sql).kind = (classify none n' raw' sql').kind ∧
      (let kind := (classify schema n raw sql).kind
       let kind' := (classify schema n' raw' sql').kind
       kind = kind' ∨ (kind = .notNullViolation ∧ kind' = .schemaMismatch) ∨
        (kind = .schemaMismatch ∧ kind' = .notNullViolation)) ∧
      (let told := classify schema n raw sql
       let again := classify schema n' raw sql'
       told.kind = again.kind ∧
        (told.field ≠ again.field → told.kind = .duplicateEntry) ∧
        (told.message ≠ again.message → told.kind = .duplicateEntry ∨ told.kind.isStatus = true) ∧
        (told.kind = .unclassified → told.message = raw)) := by
  have unasked (field : Option String) : (missing none field).kind = .notNullViolation := by
    cases field <;> rfl
  simp only [classify_eq, ← sense_congr same]
  cases said : sense raw with
  | duplicate => simp [Sense.worded, kind_duplicate]
  | missing =>
    refine ⟨by simp [Sense.worded, unasked], ?_, by simp [Sense.worded], by simp [Sense.worded],
      by simp [Sense.worded], ?_⟩
    · simp only [Sense.worded]
      rcases kind_missing schema (missingField? raw) with k | k <;>
        rcases kind_missing schema (missingField? raw') with k' | k' <;> simp [k, k']
    · rcases kind_missing schema (missingField? raw) with k | k <;> simp [Sense.worded, k]
  | status code kind meaning =>
    have status := isStatus_of_sense said
    have told : kind ≠ .unclassified := by
      rintro rfl
      cases status
    simp [Sense.worded, status, told]
  | foreignKey | check | other => simp [Sense.worded]

/-- A table of members, who need not say anything about themselves. -/
def members : Schema :=
  ⟨"members", [.id "id", { name := "bio", kind := .text }], {}, ⟨0, by decide⟩⟩

/-- A message about an optional field is about a required one in another letter case, as nobody
declares such a field. -/
theorem bio_in_capitals :
    Text.sameLetters "NOT NULL constraint failed: members.bio"
        "not null constraint failed: members.BIO" = true ∧
      (classify none 200 "NOT NULL constraint failed: members.bio" "").kind
        = (classify none 80 "not null constraint failed: members.BIO" "INSERT").kind ∧
      (classify (some members) 200 "NOT NULL constraint failed: members.bio" "").kind
        = .schemaMismatch ∧
      (classify (some members) 80 "not null constraint failed: members.BIO" "INSERT").kind
        = .notNullViolation := by
  have same : Text.sameLetters "NOT NULL constraint failed: members.bio"
    "not null constraint failed: members.BIO" = true := by decide
  have goes := kind_goes_by_message same (some members) "" "INSERT" 200 80
  exact ⟨same, goes.1, by decide +kernel, by decide +kernel⟩

end RecordMapper
