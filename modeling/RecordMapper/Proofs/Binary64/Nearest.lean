import Mathlib.Algebra.Group.Nat.Even
import Mathlib.Tactic.Linarith
import RecordMapper.Proofs.Binary64.Rounding

/-!
# The nearest number

Which of two neighbouring numbers a ratio is rounded to.

* `nearestRank_le_iff`: a ratio is rounded to a magnitude or below exactly if it does not lie beyond
  the middle between this magnitude and the next one; the middle itself goes to the even rank.
* `RoundedAtMost num den place` says this of a whole number, without ranks: the middle after a whole
  number is half a step above it, and the step is known from its binary digits.
* `Binary64.toNat_ceilCount_le_iff`: where a ratio is rounded and then rounded up to a count, the
  count is at most `place` exactly then.
* `nearestRank_error`: a ratio up to 1 is changed by at most 2 ^ -54.
-/

namespace RecordMapper

/-! ## Whole numbers -/

/-- **A quotient is rounded to `k` or below** exactly if it is not beyond `k + 1 / 2`, which itself
goes to the even neighbour. -/
theorem roundHalfEven_le_iff {num den k : Nat} (positive : 0 < den) :
    roundHalfEven num den ≤ k ↔
      2 * num < (2 * k + 1) * den ∨ 2 * num = (2 * k + 1) * den ∧ Even k := by
  have parts := Nat.div_add_mod num den
  have below := Nat.mod_lt num positive
  rcases Nat.lt_trichotomy k (num / den) with above | same | less
  · -- The quotient is `k + 1` or more.
    have scaled : den * (k + 1) ≤ den * (num / den) := Nat.mul_le_mul_left den above
    have grown : k + 1 ≤ roundHalfEven num den :=
      le_roundHalfEven positive (by rw [Nat.mul_comm]; omega)
    have beyond : (2 * k + 1) * den < 2 * num := by
      have : (2 * k + 1) * den + den = 2 * (den * (k + 1)) := by ring
      omega
    omega
  · subst same
    have middle : (2 * (num / den) + 1) * den = 2 * (den * (num / den)) + den := by ring
    rw [middle, Nat.even_iff]
    unfold roundHalfEven
    dsimp only
    split
    · omega
    · split
      · omega
      · split
        · next even =>
          rw [beq_iff_eq] at even
          omega
        · next odd =>
          rw [beq_iff_eq] at odd
          omega
  · have scaled : den * (num / den + 1) ≤ den * k := Nat.mul_le_mul_left den less
    have within : roundHalfEven num den ≤ k := by
      refine roundHalfEven_le positive ?_
      have : den * (num / den + 1) = den * (num / den) + den := by ring
      have : k * den = den * k := Nat.mul_comm k den
      omega
    have inside : 2 * num < (2 * k + 1) * den := by
      have : den * (num / den + 1) = den * (num / den) + den := by ring
      have : (2 * k + 1) * den = 2 * (den * k) + den := by ring
      omega
    exact iff_of_true within (.inl inside)

/-- A quotient is changed by at most one half. -/
theorem roundHalfEven_error (num : Nat) {den : Nat} (positive : 0 < den) :
    2 * (roundHalfEven num den * den) ≤ 2 * num + den ∧
      2 * num ≤ 2 * (roundHalfEven num den * den) + den := by
  obtain ⟨q, hq⟩ : ∃ q, q = roundHalfEven num den := ⟨_, rfl⟩
  rw [← hq]
  constructor
  · rcases q with _ | q
    · omega
    · -- It is not rounded to the number before.
      have passed : ¬ roundHalfEven num den ≤ q := by omega
      rw [roundHalfEven_le_iff positive] at passed
      have : 2 * ((q + 1) * den) = (2 * q + 1) * den + den := by ring
      omega
  · have reached := (roundHalfEven_le_iff (k := q) positive).1 hq.ge
    have : (2 * q + 1) * den = 2 * (q * den) + den := by ring
    omega

/-! ## Magnitudes -/

/-- The magnitudes in steps of `2 ^ s`. -/
theorem unitsOfRank_steps {s k : Nat} (inside : s = 0 ∨ 2 ^ 52 ≤ k) (small : k ≤ 2 ^ 53) :
    unitsOfRank (s * 2 ^ 52 + k) = k * 2 ^ s := by
  rcases inside with rfl | inside
  · rw [Nat.zero_mul, Nat.zero_add, pow_zero, Nat.mul_one]
    exact unitsOfRank_small small
  · exact unitsOfRank_normal s inside small

/-- The middle after a magnitude that lies above those in steps of `2 ^ s`. -/
theorem le_middle {s r : Nat} (above : s * 2 ^ 52 + 2 ^ 53 ≤ r) :
    (2 ^ 54 + 2) * 2 ^ s ≤ unitsOfRank r + unitsOfRank (r + 1) := by
  have this : 2 ^ 53 * 2 ^ s ≤ unitsOfRank r := by
    rw [← unitsOfRank_normal s (by decide) (Nat.le_refl _)]
    exact strictMono_unitsOfRank.monotone above
  have next : (2 ^ 53 + 2) * 2 ^ s ≤ unitsOfRank (r + 1) := by
    have double : (2 ^ 53 + 2) * 2 ^ s = (2 ^ 52 + 1) * 2 ^ (s + 1) := by ring
    have place : (s + 1) * 2 ^ 52 + (2 ^ 52 + 1) = s * 2 ^ 52 + 2 ^ 53 + 1 := by ring
    rw [double, ← unitsOfRank_normal (s + 1) (by decide) (by decide), place]
    exact strictMono_unitsOfRank.monotone (Nat.succ_le_succ above)
  calc (2 ^ 54 + 2) * 2 ^ s = 2 ^ 53 * 2 ^ s + (2 ^ 53 + 2) * 2 ^ s := by ring
    _ ≤ unitsOfRank r + unitsOfRank (r + 1) := Nat.add_le_add this next

/-- The middle after a magnitude that lies below those in steps of `2 ^ s`. -/
theorem middle_lt {s r : Nat} (below : r < s * 2 ^ 52 + 2 ^ 52) :
    unitsOfRank r + unitsOfRank (r + 1) < 2 * 2 ^ (52 + s) := by
  have rises : unitsOfRank r < unitsOfRank (r + 1) := strictMono_unitsOfRank (Nat.lt_succ_self r)
  have next : unitsOfRank (r + 1) ≤ 2 ^ (52 + s) := by
    rw [pow_add, ← unitsOfRank_normal s (Nat.le_refl _) (by decide)]
    exact strictMono_unitsOfRank.monotone below
  omega

/-- **A ratio is rounded to a magnitude or below** exactly if it is not beyond the middle between
this magnitude and the next one, which itself goes to the even rank. -/
theorem nearestRank_le_iff {num den r : Nat} (positive : 0 < den) :
    nearestRank num den ≤ r ↔
      2 * (num * unitsPerOne) < (unitsOfRank r + unitsOfRank (r + 1)) * den ∨
        2 * (num * unitsPerOne) = (unitsOfRank r + unitsOfRank (r + 1)) * den ∧ Even r := by
  obtain ⟨s, q, rank, -, rounded, high, least⟩ := nearestRank_eq num positive
  have step : 0 < den * 2 ^ s := Nat.mul_pos positive (Nat.two_pow_pos s)
  rw [rank]
  by_cases low : s = 0 ∨ s * 2 ^ 52 + 2 ^ 52 ≤ r
  · by_cases top : s * 2 ^ 52 + 2 ^ 53 ≤ r
    · -- The magnitude lies above all to which the ratio could be rounded.
      have error := (roundHalfEven_error (num * unitsPerOne) step).2
      rw [← rounded] at error
      refine iff_of_true (by omega) (.inl ?_)
      calc 2 * (num * unitsPerOne) ≤ 2 * (q * (den * 2 ^ s)) + den * 2 ^ s := error
        _ ≤ 2 * (2 ^ 53 * (den * 2 ^ s)) + den * 2 ^ s := by gcongr
        _ < 2 * (2 ^ 53 * (den * 2 ^ s)) + 2 * (den * 2 ^ s) := by omega
        _ = (2 ^ 54 + 2) * 2 ^ s * den := by ring
        _ ≤ (unitsOfRank r + unitsOfRank (r + 1)) * den := Nat.mul_le_mul_right den (le_middle top)
    · -- The magnitude and the next one are steps of the size to which the ratio is rounded.
      obtain ⟨k, rfl⟩ : ∃ k, r = s * 2 ^ 52 + k := ⟨r - s * 2 ^ 52, by omega⟩
      have even : Even (s * 2 ^ 52 + k) ↔ Even k := by
        rw [Nat.even_add, iff_true_left ((by decide : Even (2 ^ 52)).mul_left s)]
      have middle : (k * 2 ^ s + (k + 1) * 2 ^ s) * den = (2 * k + 1) * (den * 2 ^ s) := by ring
      rw [Nat.add_assoc, unitsOfRank_steps (by omega) (by omega),
        unitsOfRank_steps (by omega) (by omega), middle, even, ← roundHalfEven_le_iff step,
        ← rounded]
      omega
  · -- The ratio reaches a magnitude above this one.
    rw [not_or, Nat.not_le] at low
    have least : 2 ^ (52 + s) * den ≤ num * unitsPerOne := least.resolve_left low.1
    have reached : 2 ^ 52 ≤ q := by
      rw [rounded]
      exact le_roundHalfEven step (le_of_eq_of_le (by ring) least)
    have beyond : (unitsOfRank r + unitsOfRank (r + 1)) * den < 2 * (num * unitsPerOne) :=
      calc (unitsOfRank r + unitsOfRank (r + 1)) * den < 2 * 2 ^ (52 + s) * den :=
            Nat.mul_lt_mul_of_pos_right (middle_lt low.2) positive
        _ = 2 * (2 ^ (52 + s) * den) := Nat.mul_assoc ..
        _ ≤ 2 * (num * unitsPerOne) := Nat.mul_le_mul_left 2 least
    refine iff_of_false (by omega) ?_
    omega

/-- Only the ratio matters, not its terms. -/
theorem nearestRank_mul {num den c : Nat} (positive : 0 < den) (scale : 0 < c) :
    nearestRank (num * c) (den * c) = nearestRank num den := by
  refine eq_of_forall_ge_iff fun r => ?_
  have left : 2 * (num * c * unitsPerOne) = 2 * (num * unitsPerOne) * c := by ring
  have right : (unitsOfRank r + unitsOfRank (r + 1)) * (den * c)
      = (unitsOfRank r + unitsOfRank (r + 1)) * den * c := by ring
  rw [nearestRank_le_iff positive, nearestRank_le_iff (Nat.mul_pos positive scale), left, right,
    Nat.mul_lt_mul_right scale, Nat.mul_left_inj scale.ne']

/-- The steps to which a ratio below 1 is rounded are at most 2 ^ -53. -/
theorem steps_fine {num den s : Nat} (less : num < den)
    (least : s = 0 ∨ 2 ^ (52 + s) * den ≤ num * unitsPerOne) : 2 ^ 53 * 2 ^ s ≤ unitsPerOne := by
  obtain ⟨e, he, units⟩ : ∃ e, e = 1074 ∧ unitsPerOne = 2 ^ e := ⟨_, rfl, unitsPerOne_eq⟩
  have exponent : 53 + s ≤ e := by
    rcases least with rfl | least
    · omega
    · have small : 2 ^ (52 + s) * den < 2 ^ e * den :=
        calc 2 ^ (52 + s) * den ≤ num * 2 ^ e := units ▸ least
          _ < den * 2 ^ e := Nat.mul_lt_mul_of_pos_right less (Nat.two_pow_pos e)
          _ = 2 ^ e * den := Nat.mul_comm _ _
      have := (Nat.pow_lt_pow_iff_right (by decide : 1 < 2)).1 (Nat.lt_of_mul_lt_mul_right small)
      omega
  rw [units, ← pow_add]
  exact Nat.pow_le_pow_right (by decide) exponent

/-- **A ratio up to 1** is changed by at most 2 ^ -54. -/
theorem nearestRank_error {num den : Nat} (positive : 0 < den) (le : num ≤ den) :
    2 ^ 54 * (unitsOfRank (nearestRank num den) * den) ≤ (2 ^ 54 * num + den) * unitsPerOne ∧
      2 ^ 54 * (num * unitsPerOne)
        ≤ 2 ^ 54 * (unitsOfRank (nearestRank num den) * den) + den * unitsPerOne := by
  rcases Nat.lt_or_eq_of_le le with less | rfl
  · obtain ⟨s, q, rank, units, rounded, -, least⟩ := nearestRank_eq num positive
    have step : 0 < den * 2 ^ s := Nat.mul_pos positive (Nat.two_pow_pos s)
    have scaled : 2 ^ 53 * (den * 2 ^ s) ≤ den * unitsPerOne :=
      calc 2 ^ 53 * (den * 2 ^ s) = den * (2 ^ 53 * 2 ^ s) := by ring
        _ ≤ den * unitsPerOne := Nat.mul_le_mul_left den (steps_fine less least)
    have value : unitsOfRank (nearestRank num den) * den = q * (den * 2 ^ s) := by
      rw [rank, units]
      ring
    obtain ⟨above, below⟩ := roundHalfEven_error (num * unitsPerOne) step
    rw [← rounded, ← value] at above below
    have parts : (2 ^ 54 * num + den) * unitsPerOne
        = 2 ^ 54 * (num * unitsPerOne) + den * unitsPerOne := by ring
    rw [parts]
    constructor <;> omega
  · obtain ⟨r, one⟩ := exists_unitsOfRank (n := 1) (by decide)
    rw [Nat.one_mul] at one
    have exact : nearestRank num num = r :=
      nearestRank_of_eq positive (by rw [one, Nat.mul_comm])
    rw [exact, one]
    constructor
    · nlinarith [Nat.zero_le (num * unitsPerOne)]
    · rw [Nat.mul_comm unitsPerOne]
      exact Nat.le_add_right _ _

/-! ## Whole places -/

/-- The ratio is not beyond the middle between a whole number and the number after it. The middle
itself counts unless it goes to the number after, as it does where odd numbers have the next whole
number as neighbour. -/
def RoundedAtMost (num den place : Nat) : Prop :=
  2 ^ 53 * num < (2 ^ 53 * place + 2 ^ Nat.log2 place) * den ∨
    2 ^ 53 * num = (2 ^ 53 * place + 2 ^ Nat.log2 place) * den ∧ (place < 2 ^ 52 ∨ Even place)

theorem roundedAtMost_mul {num den place c : Nat} (scale : 0 < c) :
    RoundedAtMost (num * c) (den * c) place ↔ RoundedAtMost num den place := by
  unfold RoundedAtMost
  rw [← Nat.mul_assoc, ← Nat.mul_assoc, Nat.mul_lt_mul_right scale, Nat.mul_left_inj scale.ne']

theorem unitsPerOne_pos : 0 < unitsPerOne := by
  unfold unitsPerOne
  generalize 1074 = exponent
  exact Nat.pow_eq ▸ Nat.two_pow_pos exponent

theorem log2_le_of_lt {n : Nat} (positive : 0 < n) (small : n < 2 ^ 53) : Nat.log2 n ≤ 52 :=
  Nat.lt_succ_iff.1 ((Nat.log2_lt positive.ne').2 small)

/-- The rank of a whole number, and the distance of the next magnitude. -/
theorem exists_rank_of_place {place : Nat} (positive : 0 < place) (small : place < 2 ^ 53) :
    ∃ r, unitsOfRank r = place * unitsPerOne ∧
      2 ^ 52 * (unitsOfRank r + unitsOfRank (r + 1))
        = (2 ^ 53 * place + 2 ^ Nat.log2 place) * unitsPerOne ∧
      (Even r ↔ place < 2 ^ 52 ∨ Even place) := by
  obtain ⟨l, hl⟩ : ∃ l, l = Nat.log2 place := ⟨_, rfl⟩
  have bits : l ≤ 52 := hl ▸ log2_le_of_lt positive small
  have lower : 2 ^ l ≤ place := hl ▸ Nat.log2_self_le positive.ne'
  have upper : place < 2 ^ (l + 1) := hl ▸ Nat.lt_log2_self
  obtain ⟨t, ht⟩ : ∃ t, t + l = 52 := ⟨52 - l, Nat.sub_add_cancel bits⟩
  have low : 2 ^ 52 ≤ place * 2 ^ t :=
    calc 2 ^ 52 = 2 ^ l * 2 ^ t := by rw [← ht, pow_add, Nat.mul_comm]
      _ ≤ place * 2 ^ t := Nat.mul_le_mul_right _ lower
  have high : place * 2 ^ t < 2 ^ 53 :=
    calc place * 2 ^ t < 2 ^ (l + 1) * 2 ^ t :=
          Nat.mul_lt_mul_of_pos_right upper (Nat.two_pow_pos t)
      _ = 2 ^ 53 := by rw [← pow_add, show l + 1 + t = 53 by omega]
  obtain ⟨e, he⟩ : ∃ e, e = l + 1022 := ⟨_, rfl⟩
  have one : unitsPerOne = 2 ^ t * 2 ^ e := by
    rw [unitsPerOne_eq, ← pow_add, show t + e = 1074 by omega]
  refine ⟨e * 2 ^ 52 + place * 2 ^ t, ?_, ?_, ?_⟩
  · rw [unitsOfRank_normal _ low high.le, one, Nat.mul_assoc]
  · have steps : 2 ^ 52 = 2 ^ t * 2 ^ l := by rw [← pow_add, ht]
    have double : 2 ^ 53 = 2 * (2 ^ t * 2 ^ l) := by rw [← steps]; rfl
    have next : unitsOfRank (e * 2 ^ 52 + (place * 2 ^ t + 1)) = (place * 2 ^ t + 1) * 2 ^ e :=
      unitsOfRank_normal _ (low.trans (Nat.le_succ _)) high
    rw [Nat.add_assoc, unitsOfRank_normal _ low high.le, next, one, ← hl, double, steps]
    ring
  · rw [Nat.even_add, iff_true_left ((by decide : Even (2 ^ 52)).mul_left e), Nat.even_mul]
    rcases Nat.eq_zero_or_pos t with rfl | some
    · -- The number after `place` is the next whole number.
      rw [pow_zero, Nat.mul_one] at low
      rw [pow_zero, or_iff_left Nat.not_even_one, or_iff_right (Nat.not_lt_of_le low)]
    · have small : place < 2 ^ 52 := upper.trans_le (Nat.pow_le_pow_right (by decide) (by omega))
      have even : Even (2 ^ t) := (Nat.even_pow.2 ⟨even_two, some.ne'⟩)
      exact iff_of_true (.inr even) (.inl small)

/-- **A ratio is rounded to a whole number or below** exactly if it is not beyond the middle after
it. -/
theorem exists_nearestRank_le_iff (num : Nat) {den place : Nat} (positive : 0 < den)
    (some : 0 < place) (small : place < 2 ^ 53) : ∃ r, unitsOfRank r = place * unitsPerOne ∧
      (nearestRank num den ≤ r ↔ RoundedAtMost num den place) := by
  obtain ⟨r, units, middle, even⟩ := exists_rank_of_place some small
  refine ⟨r, units, ?_⟩
  obtain ⟨sum, hsum⟩ : ∃ sum, sum = unitsOfRank r + unitsOfRank (r + 1) := ⟨_, rfl⟩
  have left : 2 ^ 52 * (2 * (num * unitsPerOne)) = 2 ^ 53 * num * unitsPerOne := by ring
  have right : 2 ^ 52 * (sum * den)
      = (2 ^ 53 * place + 2 ^ Nat.log2 place) * den * unitsPerOne := by
    rw [← Nat.mul_assoc, hsum, middle]
    ring
  rw [nearestRank_le_iff positive, ← hsum, even, RoundedAtMost,
    ← Nat.mul_lt_mul_left (Nat.two_pow_pos 52), ← Nat.mul_right_inj (Nat.two_pow_pos 52).ne', left,
    right, Nat.mul_lt_mul_right unitsPerOne_pos, Nat.mul_left_inj unitsPerOne_pos.ne']

namespace Binary64

theorem ceilDiv_le_iff {units place : Nat} :
    (units + (unitsPerOne - 1)) / unitsPerOne ≤ place ↔ units ≤ place * unitsPerOne := by
  rw [← Nat.lt_succ_iff, Nat.div_lt_iff_lt_mul unitsPerOne_pos, Nat.succ_mul]
  have := unitsPerOne_pos
  omega

/-- **A rounded ratio that is rounded up to a count**: the count is at most `place` exactly if the
ratio is not beyond the middle after it. -/
theorem toNat_ceilCount_le_iff {num den place : Nat} (positive : 0 < den) (some : 0 < place)
    (small : place < 2 ^ 53) :
    (ofRatio false num den).ceilCount.toNat ≤ place ↔ RoundedAtMost num den place := by
  obtain ⟨r, units, within⟩ := exists_nearestRank_le_iff num positive some small
  have least : 2 ^ 53 ≤ UInt64.size - 1 := by decide
  rw [← within, ofRatio, ofRank]
  split
  · next finite =>
    have word : min ((unitsOfRank (nearestRank num den) + (unitsPerOne - 1)) / unitsPerOne)
        (UInt64.size - 1) < UInt64.size := by
      have := Nat.min_le_right ((unitsOfRank (nearestRank num den) + (unitsPerOne - 1))
        / unitsPerOne) (UInt64.size - 1)
      omega
    show (UInt64.ofNat (min ((unitsOfRank (nearestRank num den) + (unitsPerOne - 1)) / unitsPerOne)
      (UInt64.size - 1))).toNat ≤ place ↔ _
    rw [UInt64.toNat_ofNat_of_lt' word, min_le_iff, or_iff_left (by omega), ceilDiv_le_iff, ← units,
      strictMono_unitsOfRank.le_iff_le]
  · next large =>
    have finite : r < magnitudes := by
      have exact : nearestRank place 1 = r :=
        nearestRank_of_eq Nat.one_pos (by rw [units, Nat.mul_one])
      exact exact ▸ nearestRank_lt (small.le.trans (by decide))
    refine iff_of_false ?_ (by omega)
    show ¬ (UInt64.ofNat (UInt64.size - 1)).toNat ≤ place
    rw [UInt64.toNat_ofNat_of_lt' (by decide)]
    omega

end Binary64

end RecordMapper
