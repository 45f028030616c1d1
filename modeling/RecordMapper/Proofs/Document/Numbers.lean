import RecordMapper.Document.Reader
import RecordMapper.Document.Text
import RecordMapper.Proofs.Text.Digits

/-!
# Numbers in documents

Reading back the text of a number.

* `RawDocument.Closes`: what may follow a value inside a compact document. The number in front of it
  is read as if nothing followed (`RawDocument.readNumber?_append`).
* `Number.ReadsBack`: the text of a number is read as this number. All whole numbers do
  (`Number.readsBack_whole`); a float does unless its reading is rounded to one of its neighbours.
-/

namespace RecordMapper

/-! ## What follows a number -/

namespace RawDocument

/-- Whether a text may follow a value inside a compact document. -/
def Closes (rest : List Char) : Prop :=
  ∀ c ∈ rest.head?, c = ',' ∨ c = ']' ∨ c = '\x7d'

theorem closes_nil : Closes [] := by
  simp [Closes]

variable {cs more rest : List Char}

/-- What closes a value is no part of a number. -/
theorem Closes.apart (h : Closes rest) : ∀ c ∈ rest.head?, c.isDigit = false ∧ c ≠ '-' ∧
    c ≠ '+' ∧ c ≠ '.' ∧ c ≠ 'e' ∧ c ≠ 'E' := by
  intro c hc
  rcases h c hc with rfl | rfl | rfl <;> decide

theorem Closes.spanDigits (h : Closes rest) (cs : List Char) :
    Text.spanDigits (cs ++ rest) = ((Text.spanDigits cs).1, (Text.spanDigits cs).2 ++ rest) := by
  induction cs with
  | nil =>
    cases rest with
    | nil => rfl
    | cons c rest => simp [Text.spanDigits, (h.apart c rfl).1]
  | cons c cs ih =>
    cases digit : c.isDigit with
    | true => simpa [Text.spanDigits, digit] using ih
    | false => simp [Text.spanDigits, digit]

theorem Closes.spanSign (h : Closes rest) (cs : List Char) :
    Text.spanSign (cs ++ rest) = ((Text.spanSign cs).1, (Text.spanSign cs).2 ++ rest) := by
  cases cs with
  | nil =>
    cases rest with
    | nil => rfl
    | cons c rest => rcases h c rfl with rfl | rfl | rfl <;> rfl
  | cons c cs =>
    rw [List.cons_append]
    unfold Text.spanSign
    split <;> simp_all

/-! ## The parts of a number -/

/-- The digits before the point are those at the start, unless a superfluous zero leads them. -/
theorem readWhole?_eq_some {whole : List Char} :
    readWhole? cs = some (whole, more) ↔
      Text.spanDigits cs = (whole, more) ∧ whole ≠ [] ∧ ∀ d ds, whole ≠ '0' :: d :: ds := by
  unfold readWhole?
  split
  · next tail none =>
    rw [none]
    refine ⟨fun h => (by cases h), fun ⟨same, any, _⟩ => ?_⟩
    exact absurd (Prod.mk.inj same).1.symm any
  · next d ds tail zero =>
    rw [zero]
    refine ⟨fun h => (by cases h), fun ⟨same, _, led⟩ => ?_⟩
    exact absurd (Prod.mk.inj same).1.symm (led d ds)
  · next digits tail any led found =>
    rw [found, Option.some.injEq]
    refine ⟨fun h => ⟨h, ?_⟩, And.left⟩
    obtain ⟨rfl, rfl⟩ := Prod.mk.inj h
    exact ⟨any, led⟩

theorem readFraction?_point (cs : List Char) :
    readFraction? ('.' :: cs)
      = if (Text.spanDigits cs).1 = [] then none else some (Text.spanDigits cs) := by
  rcases found : Text.spanDigits cs with ⟨_ | ⟨d, ds⟩, tail⟩ <;> simp [readFraction?, found]

theorem readFraction?_absent (h : ∀ c ∈ cs.head?, c ≠ '.') :
    readFraction? cs = some ([], cs) := by
  unfold readFraction?
  split
  · exact absurd rfl (h '.' rfl)
  · rfl

theorem readExponent?_mark {c : Char} (h : c = 'e' ∨ c = 'E') (cs : List Char) :
    readExponent? (c :: cs) =
      let signed := Text.spanSign cs
      let digits := Text.spanDigits signed.2
      if digits.1 = [] then none else some (some (signed.1, digits.1), digits.2) := by
  have mark : (c == 'e' || c == 'E') = true := by simpa using h
  rcases found : Text.spanDigits (Text.spanSign cs).2 with ⟨_ | ⟨d, ds⟩, tail⟩ <;>
    simp [readExponent?, mark, found]

theorem readExponent?_absent (h : ∀ c ∈ cs.head?, c ≠ 'e' ∧ c ≠ 'E') :
    readExponent? cs = some (none, cs) := by
  cases cs with
  | nil => rfl
  | cons c cs =>
    have other : ¬ (c = 'e' ∨ c = 'E') := not_or.2 (h c rfl)
    simp [readExponent?, other]

/-! ## What follows a number -/

theorem readWhole?_append {whole : List Char} (closes : Closes rest)
    (h : readWhole? cs = some (whole, more)) :
    readWhole? (cs ++ rest) = some (whole, more ++ rest) := by
  obtain ⟨same, digits⟩ := readWhole?_eq_some.1 h
  exact readWhole?_eq_some.2 ⟨by rw [closes.spanDigits, same], digits⟩

theorem readFraction?_append {fraction : List Char} (closes : Closes rest)
    (h : readFraction? cs = some (fraction, more)) :
    readFraction? (cs ++ rest) = some (fraction, more ++ rest) := by
  cases cs with
  | nil =>
    cases h
    exact readFraction?_absent fun c hc => (closes.apart c hc).2.2.2.1
  | cons c cs =>
    by_cases point : c = '.'
    · subst point
      rw [readFraction?_point] at h
      rw [List.cons_append, readFraction?_point, closes.spanDigits]
      split at h
      · cases h
      · next digits => rw [if_neg digits, Option.some.inj h]
    · have absent : ∀ d ∈ (c :: cs).head?, d ≠ '.' := by simpa using point
      rw [readFraction?_absent absent] at h
      cases h
      exact readFraction?_absent absent

theorem readExponent?_append {exponent : Option (Bool × List Char)} (closes : Closes rest)
    (h : readExponent? cs = some (exponent, more)) :
    readExponent? (cs ++ rest) = some (exponent, more ++ rest) := by
  cases cs with
  | nil =>
    cases h
    exact readExponent?_absent fun c hc => (closes.apart c hc).2.2.2.2
  | cons c cs =>
    by_cases mark : c = 'e' ∨ c = 'E'
    · rw [readExponent?_mark mark] at h
      rw [List.cons_append, readExponent?_mark mark]
      dsimp only at h ⊢
      rw [closes.spanSign, closes.spanDigits]
      split at h
      · cases h
      · next digits =>
        obtain ⟨rfl, rfl⟩ := Prod.mk.inj (Option.some.inj h)
        rw [if_neg digits]
    · have absent : ∀ d ∈ (c :: cs).head?, d ≠ 'e' ∧ d ≠ 'E' := by simpa using mark
      rw [readExponent?_absent absent] at h
      cases h
      exact readExponent?_absent absent

/-- A number without its sign. -/
def readMagnitude? (negative : Bool) (cs : List Char) : Option (RawNumber × List Char) := do
  let (whole, cs) ← readWhole? cs
  let (fraction, cs) ← readFraction? cs
  let (exponent, cs) ← readExponent? cs
  return (⟨negative, whole, fraction, exponent⟩, cs)

theorem readNumber?_minus (cs : List Char) :
    readNumber? ('-' :: cs) = readMagnitude? true cs := rfl

theorem readNumber?_plain (h : ∀ c ∈ cs.head?, c ≠ '-') :
    readNumber? cs = readMagnitude? false cs := by
  unfold readNumber?
  split
  next negative tail signed =>
    split at signed
    · exact absurd rfl (h '-' rfl)
    · cases signed
      rfl

theorem readMagnitude?_append {negative : Bool} {n : RawNumber} (closes : Closes rest)
    (h : readMagnitude? negative cs = some (n, more)) :
    readMagnitude? negative (cs ++ rest) = some (n, more ++ rest) := by
  unfold readMagnitude? at h ⊢
  simp only [Option.bind_eq_bind, Option.bind_eq_some_iff, Prod.exists] at h ⊢
  obtain ⟨whole, cs₁, hw, fraction, cs₂, hf, exponent, cs₃, he, same⟩ := h
  cases same
  exact ⟨_, _, readWhole?_append closes hw, _, _, readFraction?_append closes hf, _, _,
    readExponent?_append closes he, rfl⟩

/-- A number begins with a sign or a digit. -/
theorem readNumber?_opens {n : RawNumber} (h : readNumber? cs = some (n, more)) :
    ∃ c tail, cs = c :: tail ∧ (c = '-' ∨ c.isDigit = true) := by
  cases cs with
  | nil => cases h
  | cons c cs =>
    refine ⟨c, cs, rfl, ?_⟩
    by_cases minus : c = '-'
    · exact .inl minus
    · rw [readNumber?_plain (by simpa using minus)] at h
      unfold readMagnitude? at h
      simp only [Option.bind_eq_bind, Option.bind_eq_some_iff, Prod.exists] at h
      obtain ⟨whole, _, hw, -⟩ := h
      obtain ⟨found, any, -⟩ := readWhole?_eq_some.1 hw
      cases digit : c.isDigit with
      | true => exact .inr rfl
      | false =>
        rw [Text.spanDigits, List.takeWhile_cons_of_neg (by simp [digit])] at found
        exact absurd (Prod.mk.inj found).1.symm any

/-- **A number ends where a value may end.** -/
theorem readNumber?_append {n : RawNumber} (closes : Closes rest)
    (h : readNumber? cs = some (n, more)) : readNumber? (cs ++ rest) = some (n, more ++ rest) := by
  obtain ⟨c, tail, rfl, -⟩ := readNumber?_opens h
  by_cases minus : c = '-'
  · subst minus
    exact readMagnitude?_append closes h
  · rw [readNumber?_plain (by simpa using minus)] at h
    rw [readNumber?_plain (by simpa using minus)]
    exact readMagnitude?_append closes h

end RawDocument

/-! ## Whole numbers -/

namespace RawDocument

/-- The digits of a natural number are read as they are. -/
theorem readMagnitude?_toDigits (negative : Bool) (n : Nat) :
    readMagnitude? negative (Nat.toDigits 10 n)
      = some (⟨negative, Nat.toDigits 10 n, [], none⟩, []) := by
  have led : ∀ d ds, Nat.toDigits 10 n ≠ '0' :: d :: ds := by
    intro d ds zero
    rcases Nat.eq_zero_or_pos n with rfl | positive
    · cases zero
    · exact Text.head?_toDigits positive (by rw [zero, List.head?_cons])
  have whole : readWhole? (Nat.toDigits 10 n) = some (Nat.toDigits 10 n, []) :=
    readWhole?_eq_some.2 ⟨Text.spanDigits_toDigits n, Nat.toDigits_ne_nil, led⟩
  rw [readMagnitude?, whole]
  rfl

end RawDocument

namespace Number

/-- Whether the text of a number is read as this number. -/
def ReadsBack (n : Number) : Prop :=
  ∃ raw, RawDocument.readNumber? (Document.numberText n) = some (raw, []) ∧ raw.read? = some n

/-- **Whole numbers read back.** -/
theorem readsBack_whole (n : Whole) : (whole n).ReadsBack := by
  obtain ⟨n, least, greatest⟩ := n
  refine ⟨⟨decide (n < 0), Nat.toDigits 10 n.natAbs, [], none⟩, ?_, ?_⟩
  · show RawDocument.readNumber? (toString n).toList = _
    rw [Int.toString_eq_repr, Int.repr_eq_if]
    by_cases positive : 0 ≤ n
    · have same : n.natAbs = n.toNat := by omega
      have sign : decide (n < 0) = false := by simp [positive]
      have unsigned : ∀ c ∈ (Nat.toDigits 10 n.toNat).head?, c ≠ '-' := by
        rintro c hc rfl
        exact absurd (Text.isDigit_toDigits n.toNat '-' (List.mem_of_mem_head? hc)) (by decide)
      rw [if_pos positive, Nat.repr_eq_ofList_toDigits, String.toList_ofList, same, sign,
        RawDocument.readNumber?_plain unsigned, RawDocument.readMagnitude?_toDigits]
    · have same : n.natAbs = (-n).toNat := by omega
      have sign : decide (n < 0) = true := by simpa using positive
      have minus : "-".toList = ['-'] := rfl
      rw [if_neg positive, Nat.repr_eq_ofList_toDigits, String.toList_append, minus,
        String.toList_ofList, same, sign, List.singleton_append, RawDocument.readNumber?_minus,
        RawDocument.readMagnitude?_toDigits]
  · have value : (if decide (n < 0) = true then -(n.natAbs : Int) else n.natAbs) = n := by
      by_cases negative : n < 0
      · rw [if_pos (by simpa using negative)]
        omega
      · rw [if_neg (by simpa using negative)]
        omega
    have sign : (decide (n < 0) && n == 0) = false := by
      by_cases negative : n < 0
      · simp [negative]
        omega
      · simp [negative]
    have whole : RawNumber.whole? ⟨decide (n < 0), Nat.toDigits 10 n.natAbs, [], none⟩
        = some ⟨n, least, greatest⟩ := by
      simp only [RawNumber.whole?, Text.digitsValue_toDigits, value]
      rw [dif_pos ⟨least, greatest⟩, sign]
      rfl
    rw [RawNumber.read?, whole]

end Number

end RecordMapper
