import RecordMapper.Instant.Reader
import RecordMapper.Proofs.Text.Digits

/-!
# Canonical texts read back

The canonical text of an instant is RFC 3339 as long as the year has four digits.

* `Instant.number_padded` reads a field of full width, whatever follows.
* `Instant.rfc3339?_canonical` reads the fields of a canonical text one by one.
* `Instant.ofText?_canonical`: the text is that of an instant.
-/

namespace RecordMapper

theorem daysInMonth_le (year : Int) (month : Nat) : daysInMonth year month ≤ 31 := by
  unfold daysInMonth
  split
  · split <;> omega
  · split <;> omega

/-- A date is that of its fields. -/
theorem Date.of?_fields (d : Date) : of? d.year d.month d.day = some d :=
  dif_pos d.valid

namespace Instant

/-! ## Fields -/

/-- A number of full width is read back, whatever follows, and also where fewer digits do. -/
theorem number_padded {least width n : Nat} (enough : least ≤ width) (positive : 0 < width)
    (fits : n < Nat.pow 10 width) (rest : List Char) :
    number least width ((Text.padded width n).toList ++ rest) = some (n, rest) := by
  have length := Text.length_padded positive fits
  have taken : ((Text.padded width n).toList ++ rest).take width
      = (Text.padded width n).toList := by
    rw [List.take_append_of_le_length length.ge, List.take_of_length_le length.le]
  have digits := List.takeWhile_eq_self_iff.2 (Text.isDigit_padded width n)
  rw [number, taken, digits, length, if_neg (Nat.not_lt_of_le enough), Text.digitsValue_padded,
    List.drop_append_of_le_length length.ge, List.drop_of_length_le length.le, List.nil_append]

/-- A number of two digits is read back. -/
theorem number_two {n : Nat} (fits : n < 100) (rest : List Char) :
    number 2 2 ((Text.padded 2 n).toList ++ rest) = some (n, rest) :=
  number_padded (Nat.le_refl 2) (by decide) fits rest

/-- A fraction in milliseconds is read back in nanoseconds. -/
theorem fractionDigits_padded {n : Nat} (fits : n < 1000) :
    fractionDigits ('.' :: ((Text.padded 3 n).toList ++ ['Z'])) = some (n * 1000000, ['Z']) := by
  have length : (Text.padded 3 n).toList.length = 3 := Text.length_padded (by decide) fits
  have digits := Text.isDigit_padded 3 n
  have split : Text.spanDigits ((Text.padded 3 n).toList ++ ['Z'])
      = ((Text.padded 3 n).toList, ['Z']) := by
    rw [Text.spanDigits, List.takeWhile_append_of_pos digits, List.dropWhile_append_of_pos digits]
    simp
  have some : (Text.padded 3 n).toList.isEmpty = false := by
    rw [← Bool.not_eq_true, List.isEmpty_iff, ← List.length_eq_zero_iff, length]
    decide
  have counted : (Text.padded 3 n).toList.take 9 = (Text.padded 3 n).toList :=
    List.take_of_length_le (by omega)
  have scale : Nat.pow 10 (9 - 3) = 1000000 := rfl
  simp only [fractionDigits, split, some, counted, length, Text.digitsValue_padded, scale,
    Bool.false_eq_true, if_false]

theorem mark_cons (c : Char) (rest : List Char) : mark c (c :: rest) = some ((), rest) :=
  if_pos rfl

/-- Reading goes on behind what is read. -/
theorem bind_read {α β : Type} {read : Option (α × List Char)} {a : α} {rest : List Char}
    (h : read = some (a, rest)) (next : α × List Char → Option β) :
    (read >>= next) = next (a, rest) := by
  rw [h]
  rfl

/-- The second 60 is a leap second. -/
theorem secondOfMinute_le (t : Instant) : t.secondOfMinute ≤ 60 := by
  have nano : t.nano.val < 2000000000 := t.nano.isLt
  unfold secondOfMinute
  omega

theorem minusMinutes_zero (t : Instant) : t.minusMinutes 0 = t := by
  have inDay : t.second.val < 86400 := t.second.isLt
  have same : Fin.ofNat 86400 t.second.val = t.second := by
    ext
    exact Nat.mod_eq_of_lt inDay
  have moved : ((t.second.val : Int) - 60 * 0) = t.second.val := by omega
  rw [minusMinutes, moved, if_neg (by omega), if_neg (by omega), Int.toNat_natCast, same]

/-! ## Canonical texts -/

/-- The fields of a canonical text. -/
theorem toList_canonical {t : Instant} (year : 0 ≤ t.date.year ∧ t.date.year ≤ 9999) :
    t.canonical.toList = (Text.padded 4 t.date.year.natAbs).toList ++
      '-' :: ((Text.padded 2 t.date.month).toList ++
      '-' :: ((Text.padded 2 t.date.day).toList ++
      'T' :: ((Text.padded 2 (t.second / 3600)).toList ++
      ':' :: ((Text.padded 2 (t.second / 60 % 60)).toList ++
      ':' :: ((Text.padded 2 t.secondOfMinute).toList ++
      '.' :: ((Text.padded 3 (t.fraction / 1000000)).toList ++ ['Z'])))))) := by
  have dash : "-".toList = ['-'] := rfl
  have colon : ":".toList = [':'] := rfl
  have point : ".".toList = ['.'] := rfl
  have time : "T".toList = ['T'] := rfl
  have utc : "Z".toList = ['Z'] := rfl
  simp only [canonical, rfc3339, Date.text, Date.yearText, if_pos year, clockText, fractionText,
    String.toList_append, dash, colon, point, time, utc, List.append_assoc, List.cons_append,
    List.nil_append]

/-- **The fields of a canonical text** are read as they are written; of the fraction the
milliseconds are written. -/
theorem rfc3339?_canonical {t : Instant} (year : 0 ≤ t.date.year ∧ t.date.year ≤ 9999) :
    rfc3339? t.canonical.toList
      = of? t.date (t.second / 3600) (t.second / 60 % 60) t.secondOfMinute
          (t.fraction / 1000000 * 1000000) := by
  have inDay : t.second.val < 86400 := t.second.isLt
  have valid := t.date.valid
  have days := daysInMonth_le t.date.year t.date.month
  have second := t.secondOfMinute_le
  have fraction : t.fraction < 1000000000 := Nat.mod_lt _ (by decide)
  have named : (t.date.year.natAbs : Int) = t.date.year := Int.natAbs_of_nonneg year.1
  have between (rest : List Char) : oneOf ['t', 'T', ' '] ('T' :: rest) = some ('T', rest) := rfl
  have utc : zone ['Z'] = some (0, []) := rfl
  have fourDigits : t.date.year.natAbs < 10000 := by omega
  rw [toList_canonical year]
  -- the fields and marks in the order of the text
  refine (bind_read (number_padded (Nat.le_refl 4) (by decide) fourDigits _) _).trans ?_
  refine (bind_read (mark_cons '-' _) _).trans ?_
  refine (bind_read (number_two (by omega) _) _).trans ?_
  refine (bind_read (mark_cons '-' _) _).trans ?_
  refine (bind_read (number_two (by omega) _) _).trans ?_
  refine (bind_read (between _) _).trans ?_
  refine (bind_read (number_two (by omega) _) _).trans ?_
  refine (bind_read (mark_cons ':' _) _).trans ?_
  refine (bind_read (number_two (by omega) _) _).trans ?_
  refine (bind_read (mark_cons ':' _) _).trans ?_
  refine (bind_read (number_two (by omega) _) _).trans ?_
  refine (bind_read (fractionDigits_padded (by omega)) _).trans ?_
  refine (bind_read utc _).trans ?_
  dsimp only
  rw [named, Date.of?_fields, List.isEmpty_nil, if_pos rfl]
  simp only [minusMinutes_zero]
  exact Option.bind_fun_some _

/-- **A canonical text reads back** as an instant. -/
theorem ofText?_canonical {t : Instant} (year : 0 ≤ t.date.year ∧ t.date.year ≤ 9999) :
    (ofText? t.canonical).isSome = true := by
  have inDay : t.second.val < 86400 := t.second.isLt
  have second := t.secondOfMinute_le
  have fraction : t.fraction < 1000000000 := Nat.mod_lt _ (by decide)
  have read : (rfc3339? t.canonical.toList).isSome = true := by
    rw [rfc3339?_canonical year, of?, if_pos (by omega)]
    dsimp only
    split
    · rfl
    · rw [if_pos (by omega)]
      rfl
  obtain ⟨u, hu⟩ := Option.isSome_iff_exists.1 read
  rw [ofText?, hu]
  rfl

end Instant

end RecordMapper
