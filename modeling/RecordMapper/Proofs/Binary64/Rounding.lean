import Mathlib.Algebra.Order.Ring.Nat
import Mathlib.Data.Nat.Log
import Mathlib.Order.Monotone.Basic
import Mathlib.Tactic.Ring
import RecordMapper.Binary64.Basic

/-!
# Order and rounding

The ranks of binary64 numbers against their exact values.

* `strictMono_unitsOfRank`: magnitudes are numbered in increasing order, so that two finite numbers
  compare as their values do (`Finite.signedUnits_lt`).
* `le_nearestRank` and `nearestRank_le`: no magnitude lies between a ratio and that to which it is
  rounded.
* `Binary64.Rounds` says this of the whole numbers of a word (`Binary64.rounds_ofInt`); up to 2 ^ 53
  they are not changed.
-/

namespace RecordMapper

/-! ## Magnitudes -/

theorem unitsPerOne_eq : unitsPerOne = 2 ^ 1074 := by
  unfold unitsPerOne
  generalize 1074 = exponent
  exact Nat.pow_eq

/-- The magnitudes between two powers of two are evenly spaced. -/
theorem unitsOfRank_normal (p : Nat) {q : Nat} (low : 2 ^ 52 ≤ q) (high : q ≤ 2 ^ 53) :
    unitsOfRank (p * 2 ^ 52 + q) = q * 2 ^ p := by
  have large : ¬ p * 2 ^ 52 + q < 2 ^ 52 := by omega
  simp only [unitsOfRank, Nat.pow_eq, if_neg large]
  rcases Nat.lt_or_eq_of_le high with below | rfl
  · have power : (p * 2 ^ 52 + q) / 2 ^ 52 = p + 1 := by omega
    have place : 2 ^ 52 + (p * 2 ^ 52 + q) % 2 ^ 52 = q := by omega
    rw [power, place, Nat.add_sub_cancel]
  · -- This is the first magnitude of the next power.
    have power : (p * 2 ^ 52 + 2 ^ 53) / 2 ^ 52 = p + 1 + 1 := by omega
    have place : 2 ^ 52 + (p * 2 ^ 52 + 2 ^ 53) % 2 ^ 52 = 2 ^ 52 := by omega
    rw [power, place, Nat.add_sub_cancel]
    ring

/-- The smallest magnitudes are their own ranks. -/
theorem unitsOfRank_small {r : Nat} (h : r ≤ 2 ^ 53) : unitsOfRank r = r := by
  by_cases below : r < 2 ^ 52
  · simp only [unitsOfRank, Nat.pow_eq, if_pos below]
  · have normal := unitsOfRank_normal 0 (Nat.le_of_not_lt below) h
    rwa [Nat.zero_mul, Nat.zero_add, pow_zero, mul_one] at normal

/-- Every other rank is that of a place between two powers of two. -/
theorem exists_normal {r : Nat} (h : 2 ^ 52 ≤ r) :
    ∃ p q, r = p * 2 ^ 52 + q ∧ 2 ^ 52 ≤ q ∧ q < 2 ^ 53 :=
  ⟨r / 2 ^ 52 - 1, 2 ^ 52 + r % 2 ^ 52, by omega, by omega, by omega⟩

/-- **Magnitudes are numbered in increasing order.** -/
theorem strictMono_unitsOfRank : StrictMono unitsOfRank := by
  refine strictMono_nat_of_lt_succ fun r => ?_
  by_cases small : r < 2 ^ 52
  · rw [unitsOfRank_small (by omega), unitsOfRank_small (by omega)]
    omega
  · obtain ⟨p, q, rfl, low, high⟩ := exists_normal (Nat.le_of_not_lt small)
    rw [Nat.add_assoc, unitsOfRank_normal p low high.le, unitsOfRank_normal p (by omega) high]
    exact Nat.mul_lt_mul_of_pos_right (Nat.lt_succ_self q) (Nat.two_pow_pos p)

theorem unitsOfRank_zero : unitsOfRank 0 = 0 :=
  unitsOfRank_small (by decide)

/-- Large magnitudes are multiples of large powers of two. -/
theorem dvd_unitsOfRank {r s : Nat} (h : 2 ^ (52 + s) ≤ unitsOfRank r) :
    2 ^ s ∣ unitsOfRank r := by
  by_cases small : r < 2 ^ 52
  · rw [unitsOfRank_small (by omega)] at h
    have grows : 2 ^ 52 ≤ 2 ^ (52 + s) := Nat.pow_le_pow_right (by decide) (by omega)
    omega
  · obtain ⟨p, q, rfl, low, high⟩ := exists_normal (Nat.le_of_not_lt small)
    rw [unitsOfRank_normal p low high.le] at h ⊢
    have bounded : 2 ^ (52 + s) < 2 ^ (53 + p) :=
      calc 2 ^ (52 + s) ≤ q * 2 ^ p := h
        _ < 2 ^ 53 * 2 ^ p := Nat.mul_lt_mul_of_pos_right high (Nat.two_pow_pos p)
        _ = 2 ^ (53 + p) := (pow_add 2 53 p).symm
    have fits : s ≤ p := by
      have := (Nat.pow_lt_pow_iff_right (by decide : 1 < 2)).1 bounded
      omega
    exact Dvd.dvd.mul_left (pow_dvd_pow 2 fits) q

/-! ## Rounding -/

theorem le_roundHalfEven {num den k : Nat} (positive : 0 < den) (h : k * den ≤ num) :
    k ≤ roundHalfEven num den := by
  have floor : k ≤ num / den := (Nat.le_div_iff_mul_le positive).2 h
  unfold roundHalfEven
  dsimp only
  split
  · exact floor
  · split
    · omega
    · split <;> omega

theorem roundHalfEven_le {num den k : Nat} (positive : 0 < den) (h : num ≤ k * den) :
    roundHalfEven num den ≤ k := by
  have parts := Nat.div_add_mod num den
  have below := Nat.mod_lt num positive
  have floor : num / den ≤ k := Nat.div_le_of_le_mul (by rwa [Nat.mul_comm])
  rcases Nat.lt_or_eq_of_le floor with less | same
  · unfold roundHalfEven
    dsimp only
    split
    · exact floor
    · split
      · exact less
      · split <;> omega
  · -- Nothing is left over, so nothing is rounded.
    have whole : num % den = 0 := by
      rw [same, Nat.mul_comm] at parts
      omega
    simp only [roundHalfEven, whole, Nat.mul_zero, if_pos positive]
    exact floor

/-- How a ratio is rounded: `q` steps of the size `2 ^ s`, where the step is the smallest one or `q`
has 53 binary digits. -/
theorem nearestRank_eq {den : Nat} (num : Nat) (positive : 0 < den) :
    ∃ s q, nearestRank num den = s * 2 ^ 52 + q ∧ unitsOfRank (s * 2 ^ 52 + q) = q * 2 ^ s ∧
      q = roundHalfEven (num * unitsPerOne) (den * 2 ^ s) ∧ q ≤ 2 ^ 53 ∧
      (s = 0 ∨ 2 ^ (52 + s) * den ≤ num * unitsPerOne) := by
  obtain ⟨s, hs⟩ : ∃ s, s = Nat.log2 (num * unitsPerOne / den) - 52 := ⟨_, rfl⟩
  have step : 0 < den * 2 ^ s := Nat.mul_pos positive (Nat.two_pow_pos s)
  have least : s = 0 ∨ 2 ^ (52 + s) * den ≤ num * unitsPerOne := by
    by_cases small : s = 0
    · exact .inl small
    · have power : 52 + s = Nat.log2 (num * unitsPerOne / den) := by omega
      have some : num * unitsPerOne / den ≠ 0 := by
        intro none
        rw [none, Nat.log2_zero] at power
        omega
      refine .inr ((Nat.le_div_iff_mul_le positive).1 ?_)
      rw [power]
      exact Nat.log2_self_le some
  have high : roundHalfEven (num * unitsPerOne) (den * 2 ^ s) ≤ 2 ^ 53 := by
    refine roundHalfEven_le step ?_
    have above : num * unitsPerOne / den < 2 ^ (53 + s) :=
      (Nat.lt_log2_self).trans_le (Nat.pow_le_pow_right (by decide) (by omega))
    have scaled := (Nat.div_lt_iff_lt_mul positive).1 above
    calc num * unitsPerOne ≤ 2 ^ (53 + s) * den := scaled.le
      _ = 2 ^ 53 * (den * 2 ^ s) := by ring
  refine ⟨s, _, ?_, ?_, rfl, high, least⟩
  · rw [hs]
    rfl
  · rcases least with rfl | least
    · rw [Nat.zero_mul, Nat.zero_add, pow_zero, Nat.mul_one, Nat.mul_one] at *
      exact unitsOfRank_small high
    · refine unitsOfRank_normal s (le_roundHalfEven step ?_) high
      calc 2 ^ 52 * (den * 2 ^ s) = 2 ^ (52 + s) * den := by ring
        _ ≤ num * unitsPerOne := least

/-- **Rounding does not go below** a magnitude that the ratio reaches. -/
theorem le_nearestRank {num den r : Nat} (positive : 0 < den)
    (h : unitsOfRank r * den ≤ num * unitsPerOne) : r ≤ nearestRank num den := by
  obtain ⟨s, q, rank, units, rounded, -, least⟩ := nearestRank_eq num positive
  have step : 0 < den * 2 ^ s := Nat.mul_pos positive (Nat.two_pow_pos s)
  rw [rank, ← strictMono_unitsOfRank.le_iff_le, units, rounded]
  by_cases spaced : 2 ^ s ∣ unitsOfRank r
  · obtain ⟨k, steps⟩ := spaced
    rw [steps, Nat.mul_comm (2 ^ s)] at h ⊢
    refine Nat.mul_le_mul_right _ (le_roundHalfEven step (le_of_eq_of_le ?_ h))
    ring
  · -- The magnitude is too small to be rounded to.
    have small : unitsOfRank r ≤ 2 ^ (52 + s) :=
      Nat.le_of_not_le fun large => spaced (dvd_unitsOfRank large)
    have least : 2 ^ (52 + s) * den ≤ num * unitsPerOne :=
      least.resolve_left fun zero => spaced (by rw [zero, pow_zero]; exact one_dvd _)
    have high : 2 ^ 52 ≤ roundHalfEven (num * unitsPerOne) (den * 2 ^ s) :=
      le_roundHalfEven step (le_of_eq_of_le (by ring) least)
    calc unitsOfRank r ≤ 2 ^ 52 * 2 ^ s := (pow_add 2 52 s) ▸ small
      _ ≤ _ := Nat.mul_le_mul_right _ high

/-- **Rounding does not go above** a magnitude that reaches the ratio. -/
theorem nearestRank_le {num den r : Nat} (positive : 0 < den)
    (h : num * unitsPerOne ≤ unitsOfRank r * den) : nearestRank num den ≤ r := by
  obtain ⟨s, q, rank, units, rounded, -, least⟩ := nearestRank_eq num positive
  have step : 0 < den * 2 ^ s := Nat.mul_pos positive (Nat.two_pow_pos s)
  rw [rank, ← strictMono_unitsOfRank.le_iff_le, units, rounded]
  have spaced : 2 ^ s ∣ unitsOfRank r := by
    rcases least with rfl | least
    · rw [pow_zero]
      exact one_dvd _
    · exact dvd_unitsOfRank (Nat.le_of_mul_le_mul_right (least.trans h) positive)
  obtain ⟨k, steps⟩ := spaced
  rw [steps, Nat.mul_comm (2 ^ s)] at h ⊢
  refine Nat.mul_le_mul_right _ (roundHalfEven_le step (h.trans_eq ?_))
  ring

/-- A ratio that is a magnitude is not changed. -/
theorem nearestRank_of_eq {num den r : Nat} (positive : 0 < den)
    (h : num * unitsPerOne = unitsOfRank r * den) : nearestRank num den = r :=
  Nat.le_antisymm (nearestRank_le positive h.le) (le_nearestRank positive h.ge)

/-- Up to 2 ^ 53 every natural number is a magnitude. -/
theorem exists_unitsOfRank {n : Nat} (h : n ≤ 2 ^ 53) : ∃ r, unitsOfRank r = n * unitsPerOne := by
  by_cases zero : n = 0
  · exact ⟨0, by rw [zero, unitsOfRank_zero, Nat.zero_mul]⟩
  · obtain ⟨l, bits, lower, upper⟩ : ∃ l ≤ 52, 2 ^ l ≤ n ∧ n ≤ 2 ^ (l + 1) := by
      by_cases top : Nat.log2 n ≤ 52
      · exact ⟨_, top, Nat.log2_self_le zero, Nat.lt_log2_self.le⟩
      · have large := Nat.log2_self_le zero
        have grows : 2 ^ 52 ≤ 2 ^ Nat.log2 n := Nat.pow_le_pow_right (by decide) (by omega)
        exact ⟨52, Nat.le_refl _, grows.trans large, h⟩
    refine ⟨(l + 1022) * 2 ^ 52 + n * 2 ^ (52 - l), ?_⟩
    have low : 2 ^ 52 ≤ n * 2 ^ (52 - l) :=
      calc 2 ^ 52 = 2 ^ l * 2 ^ (52 - l) := by rw [← pow_add, Nat.add_sub_cancel' bits]
        _ ≤ n * 2 ^ (52 - l) := Nat.mul_le_mul_right _ lower
    have high : n * 2 ^ (52 - l) ≤ 2 ^ 53 :=
      calc n * 2 ^ (52 - l) ≤ 2 ^ (l + 1) * 2 ^ (52 - l) := Nat.mul_le_mul_right _ upper
        _ = 2 ^ 53 := by rw [← pow_add, show l + 1 + (52 - l) = 53 by omega]
    have scale : 52 - l + (l + 1022) = 1074 := by omega
    rw [unitsOfRank_normal _ low high, Nat.mul_assoc, ← pow_add, scale, unitsPerOne_eq]

/-- The rank of 2 ^ 64 is that of a finite number. -/
theorem nearestRank_lt {n : Nat} (h : n ≤ 2 ^ 64) : nearestRank n 1 < magnitudes := by
  have word : unitsOfRank (1086 * 2 ^ 52 + 2 ^ 52) = 2 ^ 64 * unitsPerOne := by
    have same : 52 + 1086 = 64 + 1074 := rfl
    rw [unitsOfRank_normal 1086 (Nat.le_refl _) (by decide), unitsPerOne_eq, ← pow_add, ← pow_add,
      same]
  have below : nearestRank n 1 ≤ 1086 * 2 ^ 52 + 2 ^ 52 := by
    refine nearestRank_le Nat.one_pos ?_
    rw [Nat.mul_one, word]
    exact Nat.mul_le_mul_right _ h
  exact below.trans_lt (by decide)

/-! ## Values with a sign -/

namespace Finite

/-- The value of a number, in units. -/
def signedUnits (x : Finite) : Int :=
  if x.negative then -(x.units : Int) else x.units

/-- **Finite numbers compare as their values do.** -/
theorem signedUnits_lt {x y : Finite} : x.signedUnits < y.signedUnits ↔ x.place < y.place := by
  have ranked : x.units < y.units ↔ x.rank.val < y.rank.val := strictMono_unitsOfRank.lt_iff_lt
  have ranked' : y.units < x.units ↔ y.rank.val < x.rank.val := strictMono_unitsOfRank.lt_iff_lt
  have zero (z : Finite) : z.units = 0 ↔ z.rank.val = 0 := by
    have injective := strictMono_unitsOfRank.injective.eq_iff (a := z.rank.val) (b := 0)
    rwa [unitsOfRank_zero] at injective
  have := zero x
  have := zero y
  cases hx : x.negative <;> cases hy : y.negative <;>
    simp only [signedUnits, place, hx, hy, Bool.false_eq_true, if_true, if_false] <;> omega

theorem signedUnits_le {x y : Finite} : x.signedUnits ≤ y.signedUnits ↔ x.place ≤ y.place := by
  rw [← Int.not_lt, ← Int.not_lt, signedUnits_lt]

end Finite

namespace Binary64

/-- The finite number `x` is what the whole number `n` is rounded to: no number lies between them,
and nothing is rounded up to 2 ^ 53. -/
structure Rounds (n : Int) (x : Finite) : Prop where
  /-- A number that `n` reaches is reached by `x`. -/
  reaches : ∀ b : Finite, b.signedUnits ≤ n * unitsPerOne → b.signedUnits ≤ x.signedUnits
  /-- A number that reaches `n` reaches `x`. -/
  reached : ∀ b : Finite, n * unitsPerOne ≤ b.signedUnits → x.signedUnits ≤ b.signedUnits
  /-- Numbers of at most 53 binary digits are as they were. -/
  exact : n.natAbs ≤ 2 ^ 53 → x.signedUnits = n * unitsPerOne

/-- **The whole numbers of a word are rounded** to finite numbers. -/
theorem rounds_ofInt {n : Int} (h : n.natAbs ≤ 2 ^ 64) :
    ∃ x, Binary64.ofInt n = .finite x ∧ Rounds n x := by
  refine ⟨⟨decide (n < 0), ⟨nearestRank n.natAbs 1, nearestRank_lt h⟩⟩, ?_, ?_⟩
  · rw [ofInt, ofRatio, ofRank, dif_pos (nearestRank_lt h)]
  · obtain ⟨u, hu⟩ : ∃ u, u = unitsOfRank (nearestRank n.natAbs 1) := ⟨_, rfl⟩
    have reaches (r : Nat) (le : unitsOfRank r ≤ n.natAbs * unitsPerOne) : unitsOfRank r ≤ u :=
      hu ▸ strictMono_unitsOfRank.monotone (le_nearestRank Nat.one_pos (by rwa [Nat.mul_one]))
    have reached (r : Nat) (le : n.natAbs * unitsPerOne ≤ unitsOfRank r) : u ≤ unitsOfRank r :=
      hu ▸ strictMono_unitsOfRank.monotone (nearestRank_le Nat.one_pos (by rwa [Nat.mul_one]))
    have exact (small : n.natAbs ≤ 2 ^ 53) : u = n.natAbs * unitsPerOne := by
      obtain ⟨r, hr⟩ := exists_unitsOfRank small
      rw [hu, nearestRank_of_eq Nat.one_pos (by rw [hr, Nat.mul_one]), hr]
    have value : (n * unitsPerOne : Int)
        = if n < 0 then -((n.natAbs * unitsPerOne : Nat) : Int)
          else (n.natAbs * unitsPerOne : Nat) := by
      rw [Nat.cast_mul]
      split
      · rw [Int.ofNat_natAbs_of_nonpos (by omega), Int.neg_mul, Int.neg_neg]
      · rw [Int.natAbs_of_nonneg (by omega)]
    have rounded : Finite.signedUnits ⟨decide (n < 0), ⟨nearestRank n.natAbs 1, nearestRank_lt h⟩⟩
        = if n < 0 then -(u : Int) else u := by
      simp only [Finite.signedUnits, Finite.units, decide_eq_true_eq, hu]
    -- A value is a magnitude or the negative of one.
    have sides (b : Finite) : b.signedUnits = unitsOfRank b.rank ∨
        b.signedUnits = -(unitsOfRank b.rank : Int) := by
      unfold Finite.signedUnits
      split
      · exact .inr rfl
      · exact .inl rfl
    refine ⟨fun b le => ?_, fun b le => ?_, fun small => ?_⟩
    · have := reaches b.rank
      have := reached b.rank
      rw [value] at le
      rw [rounded]
      split <;> rcases sides b with same | same <;> omega
    · have := reaches b.rank
      have := reached b.rank
      rw [value] at le
      rw [rounded]
      split <;> rcases sides b with same | same <;> omega
    · rw [rounded, value, exact small]

end Binary64

end RecordMapper
