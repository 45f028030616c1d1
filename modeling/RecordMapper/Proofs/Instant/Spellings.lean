import RecordMapper.Proofs.Instant.Canonical
import RecordMapper.Proofs.Storage.ReadBack

/-!
# The spellings of an instant

An instant is read back from each of the three texts that spell it, up to the part of a second that
the text leaves out, as long as the year has four digits.

* `Instant.ofText?_canonical_eq`: the canonical text gives the instant cut to milliseconds.
* `Date.plain` and `Instant.plain` are the texts without a zone. No text of these is also RFC 3339,
  so that the later spellings are tried (`Instant.rfc3339?_plain`, `Instant.rfc3339?_date`).
* `times_read_back` puts this together with what date fields accept and store.
-/

namespace RecordMapper

namespace Text

theorem isBlank_of_isDigit {c : Char} (h : c.isDigit = true) : isBlank c = false := by
  have code : c.toNat = c.val.toNat := rfl
  simp only [Char.isDigit, Bool.and_eq_true, decide_eq_true_eq, ge_iff_le,
    UInt32.le_iff_toNat_le] at h
  simp at h
  simp [isBlank, inRanges, blankRanges]
  omega

/-- A number that is written out starts with a digit. -/
theorem exists_digit_padded (width n : Nat) :
    ∃ d ds, (padded width n).toList = d :: ds ∧ d.isDigit = true := by
  have some : (padded width n).toList ≠ [] := by
    simp [toList_padded]
  obtain ⟨d, ds, digits⟩ := List.exists_cons_of_ne_nil some
  exact ⟨d, ds, digits, isDigit_padded width n d (digits ▸ List.mem_cons_self)⟩

end Text

namespace Instant

/-! ## Cutting the fraction -/

/-- An instant with its fraction cut to whole milliseconds. -/
def wholeMillis (t : Instant) : Instant :=
  { t with nano := ⟨t.nano / 1000000 * 1000000, by have := t.nano.isLt; omega⟩ }

/-- An instant with its fraction cut off. -/
def wholeSecond (t : Instant) : Instant :=
  { t with nano := ⟨0, by decide⟩ }

/-- **The canonical text** only shows whole milliseconds. -/
theorem canonical_wholeMillis (t : Instant) : t.wholeMillis.canonical = t.canonical := by
  have second : t.wholeMillis.secondOfMinute = t.secondOfMinute := by
    simp only [secondOfMinute, wholeMillis]
    omega
  have millis : t.wholeMillis.fraction / 1000000 = t.fraction / 1000000 := by
    simp only [fraction, wholeMillis]
    omega
  simp only [canonical, rfc3339, clockText, fractionText, second, millis]
  rfl

/-- Outside leap seconds the time of day is that of its hour, minute and second. -/
theorem of?_clock (t : Instant) {nano : Nat} (small : nano < 1000000000) :
    of? t.date (t.second / 3600) (t.second / 60 % 60) (t.second % 60) nano
      = some { t with nano := ⟨nano, by omega⟩ } := by
  have inDay : t.second.val < 86400 := t.second.isLt
  have second : Fin.ofNat 86400 (3600 * (t.second.val / 3600) + 60 * (t.second.val / 60 % 60)
      + t.second.val % 60) = t.second := by
    ext
    rw [Fin.val_ofNat]
    omega
  have fraction : Fin.ofNat 2000000000 nano = ⟨nano, by omega⟩ := by
    ext
    exact Nat.mod_eq_of_lt (by omega)
  rw [of?, if_pos (by omega)]
  dsimp only
  rw [if_pos (by omega), second, fraction]

/-- **The canonical text is read back** as the instant, cut to milliseconds. -/
theorem ofText?_canonical_eq {t : Instant} (year : 0 ≤ t.date.year ∧ t.date.year ≤ 9999)
    (regular : t.nano.val < 1000000000) : ofText? t.canonical = some t.wholeMillis := by
  have second : t.secondOfMinute = t.second % 60 := by
    rw [secondOfMinute]
    omega
  have fraction : t.fraction = t.nano := Nat.mod_eq_of_lt regular
  have read : rfc3339? t.canonical.toList = some t.wholeMillis := by
    rw [rfc3339?_canonical year, second, fraction, of?_clock t (by omega)]
    rfl
  rw [ofText?, read]
  rfl

end Instant

/-! ## Texts without a zone -/

/-- A date as `YYYY-MM-DD`. -/
def Date.plain (d : Date) : String :=
  Text.padded 4 d.year.natAbs ++ "-" ++ Text.padded 2 d.month ++ "-" ++ Text.padded 2 d.day

/-- The second of an instant as `YYYY-MM-DD HH:MM:SS`. -/
def Instant.plain (t : Instant) : String :=
  t.date.plain ++ " " ++ Text.padded 2 (t.second / 3600) ++ ":"
    ++ Text.padded 2 (t.second / 60 % 60) ++ ":" ++ Text.padded 2 (t.second % 60)

namespace Instant

/-- The fields of a date, and what follows. -/
theorem toList_plain_append (d : Date) (rest : List Char) :
    d.plain.toList ++ rest = (Text.padded 4 d.year.natAbs).toList ++
      '-' :: ((Text.padded 2 d.month).toList ++
      '-' :: ((Text.padded 2 d.day).toList ++ rest)) := by
  have dash : "-".toList = ['-'] := rfl
  simp only [Date.plain, String.toList_append, dash, List.append_assoc, List.cons_append,
    List.nil_append]

/-- The fields of a date and a time. -/
theorem toList_plain (t : Instant) :
    t.plain.toList = t.date.plain.toList ++
      ' ' :: ((Text.padded 2 (t.second / 3600)).toList ++
      ':' :: ((Text.padded 2 (t.second / 60 % 60)).toList ++
      ':' :: ((Text.padded 2 (t.second % 60)).toList ++ []))) := by
  have blank : " ".toList = [' '] := rfl
  have colon : ":".toList = [':'] := rfl
  simp only [plain, String.toList_append, blank, colon, List.append_assoc, List.cons_append,
    List.nil_append, List.append_nil]

/-- No blanks are passed over in front of a digit. -/
theorem trimStart_padded (width n : Nat) (rest : List Char) :
    Text.trimStart ((Text.padded width n).toList ++ rest)
      = (Text.padded width n).toList ++ rest := by
  obtain ⟨d, ds, digits, digit⟩ := Text.exists_digit_padded width n
  rw [digits, List.cons_append, Text.trimStart,
    List.dropWhile_cons_of_neg (by simp [Text.isBlank_of_isDigit digit])]

/-- A field of two digits is read back. -/
theorem field_padded {n : Nat} (fits : n < 100) (rest : List Char) :
    field ((Text.padded 2 n).toList ++ rest) = some (n, rest) := by
  rw [field, trimStart_padded]
  exact number_padded (by decide) (by decide) fits rest

/-- A blank in front of a field is passed over. -/
theorem field_blank_padded {n : Nat} (fits : n < 100) (rest : List Char) :
    field (' ' :: ((Text.padded 2 n).toList ++ rest)) = some (n, rest) := by
  have passed : Text.trimStart (' ' :: ((Text.padded 2 n).toList ++ rest))
      = Text.trimStart ((Text.padded 2 n).toList ++ rest) :=
    List.dropWhile_cons_of_pos (by decide)
  rw [field, passed]
  exact field_padded fits rest

/-- A year of four digits is read back. -/
theorem year_padded {n : Nat} (fits : n < 10000) (rest : List Char) :
    year ((Text.padded 4 n).toList ++ rest) = some ((n : Int), rest) := by
  have read : number 1 4 ((Text.padded 4 n).toList ++ rest) = some (n, rest) :=
    number_padded (by decide) (by decide) fits rest
  obtain ⟨d, ds, digits, digit⟩ := Text.exists_digit_padded 4 n
  have unsigned : d ≠ '-' ∧ d ≠ '+' := by
    constructor <;>
    · rintro rfl
      exact absurd digit (by decide)
  rw [year, trimStart_padded]
  split
  · next signed =>
    rw [digits] at signed
    exact absurd (List.cons.inj signed).1 unsigned.1
  · next signed =>
    rw [digits] at signed
    exact absurd (List.cons.inj signed).1 unsigned.2
  · rw [read]
    rfl

/-- **A date is read back**, whatever follows. -/
theorem dateFields_plain {d : Date} (year : 0 ≤ d.year ∧ d.year ≤ 9999) (rest : List Char) :
    dateFields (d.plain.toList ++ rest) = some (d, rest) := by
  have valid := d.valid
  have days := daysInMonth_le d.year d.month
  have named : (d.year.natAbs : Int) = d.year := Int.natAbs_of_nonneg year.1
  have known : inYearRange d.year = true := by
    simp only [inYearRange, Bool.and_eq_true, decide_eq_true_eq]
    omega
  rw [toList_plain_append]
  refine (bind_read (year_padded (by omega) _) _).trans ?_
  refine (bind_read (mark_cons '-' _) _).trans ?_
  refine (bind_read (field_padded (by omega) _) _).trans ?_
  refine (bind_read (mark_cons '-' _) _).trans ?_
  refine (bind_read (field_padded (by omega) _) _).trans ?_
  dsimp only
  rw [named, if_pos known, Date.of?_fields]
  rfl

/-- A date and a time without a zone are not RFC 3339. -/
theorem rfc3339?_plain {t : Instant} (year : 0 ≤ t.date.year ∧ t.date.year ≤ 9999) :
    rfc3339? t.plain.toList = none := by
  have inDay : t.second.val < 86400 := t.second.isLt
  have valid := t.date.valid
  have days := daysInMonth_le t.date.year t.date.month
  have between (rest : List Char) : oneOf ['t', 'T', ' '] (' ' :: rest) = some (' ', rest) := rfl
  have whole : fractionDigits [] = some (0, []) := rfl
  have zoneless : zone [] = none := rfl
  have fourDigits : t.date.year.natAbs < 10000 := by omega
  rw [toList_plain, toList_plain_append]
  refine (bind_read (number_padded (Nat.le_refl 4) (by decide) fourDigits _) _).trans ?_
  refine (bind_read (mark_cons '-' _) _).trans ?_
  refine (bind_read (number_two (by omega) _) _).trans ?_
  refine (bind_read (mark_cons '-' _) _).trans ?_
  refine (bind_read (number_two (by omega) _) _).trans ?_
  refine (bind_read (between _) _).trans ?_
  refine (bind_read (number_two (by omega) _) _).trans ?_
  refine (bind_read (mark_cons ':' _) _).trans ?_
  refine (bind_read (number_two (by omega) _) _).trans ?_
  refine (bind_read (mark_cons ':' _) _).trans ?_
  refine (bind_read (number_two (by omega) _) _).trans ?_
  refine (bind_read whole _).trans ?_
  dsimp only
  rw [zoneless]
  rfl

/-- A date alone is not RFC 3339. -/
theorem rfc3339?_date {d : Date} (year : 0 ≤ d.year ∧ d.year ≤ 9999) :
    rfc3339? d.plain.toList = none := by
  have valid := d.valid
  have days := daysInMonth_le d.year d.month
  have timeless : oneOf ['t', 'T', ' '] [] = none := rfl
  have fourDigits : d.year.natAbs < 10000 := by omega
  rw [← List.append_nil d.plain.toList, toList_plain_append]
  refine (bind_read (number_padded (Nat.le_refl 4) (by decide) fourDigits _) _).trans ?_
  refine (bind_read (mark_cons '-' _) _).trans ?_
  refine (bind_read (number_two (by omega) _) _).trans ?_
  refine (bind_read (mark_cons '-' _) _).trans ?_
  refine (bind_read (number_two (by omega) _) _).trans ?_
  dsimp only
  rw [timeless]
  rfl

/-- **A date and a time without a zone** are read back as the second that they spell. -/
theorem ofText?_plain {t : Instant} (year : 0 ≤ t.date.year ∧ t.date.year ≤ 9999) :
    ofText? t.plain = some t.wholeSecond := by
  have inDay : t.second.val < 86400 := t.second.isLt
  have whole : fractionDigits [] = some (0, []) := rfl
  have read : dateAndTime? t.plain.toList = some t.wholeSecond := by
    rw [toList_plain]
    refine (bind_read (dateFields_plain year _) _).trans ?_
    refine (bind_read (field_blank_padded (by omega) _) _).trans ?_
    refine (bind_read (mark_cons ':' _) _).trans ?_
    refine (bind_read (field_padded (by omega) _) _).trans ?_
    refine (bind_read (mark_cons ':' _) _).trans ?_
    refine (bind_read (field_padded (by omega) _) _).trans ?_
    refine (bind_read whole _).trans ?_
    exact of?_clock t (by decide)
  rw [ofText?, rfc3339?_plain year, read]
  rfl

/-- **A date alone** is read back as its midnight. -/
theorem ofText?_date {d : Date} (year : 0 ≤ d.year ∧ d.year ≤ 9999) :
    ofText? d.plain = some (midnight d) := by
  have fields : dateFields d.plain.toList = some (d, []) := by
    rw [← List.append_nil d.plain.toList, dateFields_plain year]
  have timeless : dateAndTime? d.plain.toList = none := (bind_read fields _).trans rfl
  have read : dateAlone? d.plain.toList = some (midnight d) := (bind_read fields _).trans rfl
  rw [ofText?, rfc3339?_date year, timeless, read]
  rfl

end Instant

/-! ## Date fields -/

/-- A text that a date field accepts is stored as it is. -/
theorem Kind.readBack_date_text (s : String) : Kind.date.readBack (.text s) = .text s :=
  rfl

theorem Kind.accepts_date_text {s : String} {t : Instant} (h : Instant.ofText? s = some t) :
    Kind.date.accepts (.text s) = true := by
  rw [accepts, h]
  rfl

/-- **Times read back.** Take an instant of a year from 0 to 9999, outside leap seconds. Its
canonical text is read as the instant with its fraction cut to whole milliseconds, whose canonical
text is the same again. The texts `YYYY-MM-DD HH:MM:SS` and `YYYY-MM-DD` are read as its second and
as the midnight of its day. So the stamp of the instant, or the instant itself, is accepted again by
a date field after it was stored, and is read as that instant in whole milliseconds; and a text that
spells an instant, in whatever way, is stored as it is. -/
theorem times_read_back {t : Instant} (year : 0 ≤ t.date.year ∧ t.date.year ≤ 9999)
    (regular : t.nano.val < 1000000000) :
    Instant.ofText? t.canonical = some t.wholeMillis ∧
    t.wholeMillis.canonical = t.canonical ∧
    Instant.ofText? t.plain = some t.wholeSecond ∧
    Instant.ofText? t.date.plain = some (Instant.midnight t.date) ∧
    (∀ v ∈ [Value.stamp t, .instant t], Kind.date.accepts (Kind.date.readBack v) = true ∧
      (Kind.date.readBack v).asInstant? = some t.wholeMillis) ∧
    ∀ s u, Value.asInstant? (.text s) = some u →
      Kind.date.accepts (Kind.date.readBack (.text s)) = true ∧
        (Kind.date.readBack (.text s)).asInstant? = some u := by
  have read := Instant.ofText?_canonical_eq year regular
  refine ⟨read, t.canonical_wholeMillis, Instant.ofText?_plain year, Instant.ofText?_date year,
    fun v hv => ?_, fun s u spells => ?_⟩
  · -- An instant is bound as the text that stamps it.
    have stored : Kind.date.readBack v = .text t.canonical := by
      rcases List.mem_pair.1 hv with rfl | rfl <;> rfl
    rw [stored]
    exact ⟨Kind.accepts_date_text read, read⟩
  · rw [Kind.readBack_date_text]
    exact ⟨Kind.accepts_date_text spells, spells⟩

/-- The last moment of a leap day. -/
def leapDayEnd : Instant :=
  ⟨⟨0, 2, 29, by decide, by decide⟩, ⟨86399, by decide⟩, ⟨999999999, by decide⟩⟩

theorem leapDayEnd_reads_back :
    (0 ≤ leapDayEnd.date.year ∧ leapDayEnd.date.year ≤ 9999) ∧
    leapDayEnd.nano.val < 1000000000 ∧
    Instant.ofText? "0000-02-29T23:59:59.999Z"
      = some { leapDayEnd with nano := ⟨999000000, by decide⟩ } ∧
    Instant.ofText? "0000-02-29 23:59:59" = some { leapDayEnd with nano := ⟨0, by decide⟩ } ∧
    Instant.ofText? "0000-02-29" = some (Instant.midnight leapDayEnd.date) := by
  obtain ⟨canonical, -, plain, date, -⟩ :=
    times_read_back (t := leapDayEnd) (by decide) (by decide)
  exact ⟨by decide, by decide, canonical, plain, date⟩

end RecordMapper
