import RecordMapper.Document.Reader
import RecordMapper.Document.Text

/-!
# Texts in documents

Reading back a text that is written between quotes: every character is escaped in one way, and each
escape is read as the character that it stands for. A text between quotes is longer than the text
that it denotes, so that no text spells itself (`Document.ofText?_ne_text`).
-/

namespace RecordMapper

namespace RawChar

theorem join?_plain (c : Char) (raws : List RawChar) :
    join? (.plain c :: raws) = (join? raws).map (c :: ·) := by
  rw [join?]

theorem join?_control {c : Char} (h : c.toNat < 0x20) (raws : List RawChar) :
    join? (.unit c.toNat :: raws) = (join? raws).map (c :: ·) := by
  have low : ¬ (0xD800 ≤ c.toNat ∧ c.toNat < 0xDC00) := by omega
  have lower : ¬ (0xDC00 ≤ c.toNat ∧ c.toNat < 0xE000) := by omega
  conv => lhs; unfold join?
  rw [if_neg low, if_neg lower, Char.ofNat_toNat]

end RawChar

namespace RawDocument

open Document

/-- A text that goes on after one of its characters. -/
def continued (c : RawChar) (read : Option (List RawChar × List Char)) :
    Option (List RawChar × List Char) :=
  read.map fun (cs, rest) => (c :: cs, rest)

/-- The units that are written for control characters. -/
theorem hexNumber?_control : ∀ n < 0x20,
    hexNumber? ['0', '0', Nat.digitChar (n / 16), Nat.digitChar (n % 16)] = some n := by
  decide

theorem readText?_control {c : Char} (h : c.toNat < 0x20) (cs : List Char) :
    readText? ('\\' :: 'u' :: '0' :: '0' :: Nat.digitChar (c.toNat / 16)
      :: Nat.digitChar (c.toNat % 16) :: cs) = continued (.unit c.toNat) (readText? cs) := by
  rw [readText?, hexNumber?_control c.toNat h]
  cases readText? cs <;> rfl

theorem readText?_plain {c : Char} (quote : c ≠ '"') (escape : c ≠ '\\') (h : ¬ c.toNat < 0x20)
    (cs : List Char) : readText? (c :: cs) = continued (.plain c) (readText? cs) := by
  have printed : (decide (c.toNat < 0x20) || c == '\\') = false := by simp [h, escape]
  rw [readText?]
  · rw [printed]
    cases readText? cs <;> rfl
  · exact quote
  · exact fun _ _ _ _ _ same _ => escape same
  · exact fun _ _ same _ => escape same

theorem readText?_short {e c : Char} (h : shortEscape? e = some c) (cs : List Char) :
    readText? ('\\' :: e :: cs) = continued (.plain c) (readText? cs) := by
  have letter : e ≠ 'u' := by
    rintro rfl
    cases h
  rw [readText?]
  · rw [h]
    cases readText? cs <;> rfl
  · simp [letter]

/-- **An escaped character reads back.** -/
theorem escapeChar_reads (c : Char) : ∃ raw,
    (∀ cs, readText? (escapeChar c ++ cs) = continued raw (readText? cs)) ∧
      ∀ raws, RawChar.join? (raw :: raws) = (RawChar.join? raws).map (c :: ·) := by
  unfold escapeChar
  split
  any_goals exact ⟨_, readText?_short rfl, RawChar.join?_plain _⟩
  next quote escape _ _ _ _ _ =>
    split
    · next control => exact ⟨_, readText?_control control, RawChar.join?_control control⟩
    · next printed => exact ⟨_, readText?_plain quote escape printed, RawChar.join?_plain c⟩

/-- **A quoted text reads back**, whatever follows it. -/
theorem quoted_reads (s : String) : ∃ raws,
    (∀ rest, readText? (s.toList.flatMap escapeChar ++ '"' :: rest) = some (raws, rest)) ∧
      RawChar.text? raws = some s := by
  have chars : ∀ cs : List Char, ∃ raws,
      (∀ rest, readText? (cs.flatMap escapeChar ++ '"' :: rest) = some (raws, rest)) ∧
        RawChar.join? raws = some cs := by
    intro cs
    induction cs with
    | nil => exact ⟨[], fun rest => rfl, rfl⟩
    | cons c cs ih =>
      obtain ⟨raws, reads, joins⟩ := ih
      obtain ⟨raw, readsFirst, joinsFirst⟩ := escapeChar_reads c
      refine ⟨raw :: raws, fun rest => ?_, by rw [joinsFirst, joins]; rfl⟩
      rw [List.flatMap_cons, List.append_assoc, readsFirst, reads]
      rfl
  obtain ⟨raws, reads, joins⟩ := chars s.toList
  exact ⟨raws, reads, by rw [RawChar.text?, joins, Option.map_some, String.ofList_toList]⟩

end RawDocument

/-! ## No text spells itself -/

/-- A text has no more characters than are written. -/
theorem RawChar.length_join?_le (raws : List RawChar) :
    ∀ cs, join? raws = some cs → cs.length ≤ raws.length := by
  fun_induction join? raws with
  | case1 =>
    rintro cs h
    cases h
    exact Nat.le_refl _
  | case2 c rest ih =>
    intro cs h
    obtain ⟨later, joined, rfl⟩ := Option.map_eq_some_iff.1 h
    exact Nat.succ_le_succ (ih later joined)
  | case3 n high m rest low ih =>
    intro cs h
    obtain ⟨later, joined, rfl⟩ := Option.map_eq_some_iff.1 h
    exact Nat.le_succ_of_le (Nat.succ_le_succ (ih later joined))
  | case7 n rest high low ih =>
    intro cs h
    obtain ⟨later, joined, rfl⟩ := Option.map_eq_some_iff.1 h
    exact Nat.succ_le_succ (ih later joined)
  | _ => nofun

namespace RawDocument

/-- Fewer characters are written than stand between the quotes, with the closing one. -/
theorem length_readText?_lt (cs : List Char) :
    ∀ raws rest, readText? cs = some (raws, rest) → raws.length < cs.length := by
  fun_induction readText? cs with
  | case2 rest =>
    rintro raws rest h
    cases h
    exact Nat.zero_lt_succ _
  | case3 a b c d after n cs rest reads hex ih =>
    rintro raws rest h
    cases h
    have shorter := ih cs rest reads
    simp only [List.length_cons]
    omega
  | case5 e after other c cs rest reads short ih =>
    rintro raws rest h
    cases h
    have shorter := ih cs rest reads
    simp only [List.length_cons]
    omega
  | case8 c after quote unit short printed cs rest reads ih =>
    rintro raws rest h
    cases h
    exact Nat.succ_lt_succ (ih cs rest reads)
  | _ => nofun

/-- A text is written between quotes. -/
theorem readText?_of_read? {levels : Nat} {cs : List Char} {raws : List RawChar}
    {rest : List Char} (h : read? levels cs = some (.text raws, rest)) :
    ∃ inner, cs = '"' :: inner ∧ readText? inner = some (raws, rest) := by
  unfold read? at h
  split at h
  · split at h
    · cases h
    · split at h
      · cases h
      · obtain ⟨_, -, same⟩ := Option.map_eq_some_iff.1 h
        cases same
  · split at h
    · cases h
    · split at h
      · cases h
      · obtain ⟨_, -, same⟩ := Option.map_eq_some_iff.1 h
        cases same
  · next inner =>
    obtain ⟨_, reads, same⟩ := Option.map_eq_some_iff.1 h
    cases same
    exact ⟨inner, rfl, reads⟩
  all_goals
    obtain ⟨_, -, same⟩ := Option.map_eq_some_iff.1 h
    cases same

end RawDocument

/-- What denotes a text is written as one. -/
theorem Document.text_of_ofRaw? {levels : Nat} {raw : RawDocument} {s : String}
    (h : ofRaw? levels raw = some (.text s)) :
    ∃ raws, raw = .text raws ∧ RawChar.join? raws = some s.toList := by
  cases raw with
  | text raws =>
    rw [ofRaw?] at h
    obtain ⟨t, read, same⟩ := Option.map_eq_some_iff.1 h
    cases same
    obtain ⟨cs, joined, rfl⟩ := Option.map_eq_some_iff.1 read
    exact ⟨raws, rfl, by rw [String.toList_ofList, joined]⟩
  | null | bool => cases h
  | number n =>
    rw [ofRaw?] at h
    obtain ⟨_, -, same⟩ := Option.map_eq_some_iff.1 h
    cases same
  | array items =>
    rw [ofRaw?] at h
    split at h
    · cases h
    · obtain ⟨_, -, same⟩ := Option.map_eq_some_iff.1 h
      cases same
  | object entries =>
    rw [ofRaw?] at h
    split at h
    · cases h
    · obtain ⟨_, -, same⟩ := Option.map_eq_some_iff.1 h
      cases same

/-- **No text spells itself**: with its quotes it would be longer. -/
theorem Document.ofText?_ne_text (s : String) : ofText? s ≠ some (.text s) := by
  intro h
  obtain ⟨raw, read, denotes⟩ := Option.bind_eq_some_iff.1 h
  obtain ⟨raws, rfl, joined⟩ := text_of_ofRaw? denotes
  have most := RawChar.length_join?_le raws _ joined
  unfold RawDocument.ofText? at read
  dsimp only at read
  split at read
  · next d rest reads =>
    split at read
    · cases read
      obtain ⟨inner, quoted, inside⟩ := RawDocument.readText?_of_read? reads
      have shorter := RawDocument.length_readText?_lt inner raws rest inside
      have skipped : (RawDocument.skipBlanks s.toList).length ≤ s.toList.length :=
        (List.dropWhile_sublist _).length_le
      rw [quoted, List.length_cons] at skipped
      omega
    · cases read
  · cases read

end RecordMapper
