import Mathlib.Algebra.Order.Floor.Div
import RecordMapper.Proofs.Aggregate.Percentiles
import RecordMapper.Proofs.Binary64.Nearest

/-!
# Nearest ranks

The place at which a percentile is fetched against the place of nearest rank, for whole percentages
and counts that are exact in binary64.

* `nearestPlace p n` is the place of nearest rank in whole numbers, and `share p` the number to
  which `p` hundredths are rounded before they are multiplied by the count.
* `Placed p n place`: the place is the first one that the product of share and count does not pass.
  `Model.placed_percentileRank` says this of the place that is computed, rounding by rounding.
* `NearestRank p n place` is what follows for the place of nearest rank: the two are the same but
  for the roundings, and never more than one place apart.
* `percentile_goes_by_rounded_share` says it of the offset in the statement that fetches the row.
  `score_beside_nearest_rank` is a percentile at the wrong place.
-/

namespace RecordMapper

/-! ## Places -/

/-- The place, from 1, of the `p`-th percentile among `n` values by nearest rank. -/
def nearestPlace (p n : Nat) : Nat :=
  max 1 (p * n ⌈/⌉ 100)

/-- The magnitude nearest to `p` hundredths, in units. -/
def share (p : Nat) : Nat :=
  unitsOfRank (nearestRank p 100)

theorem one_le_nearestPlace (p n : Nat) : 1 ≤ nearestPlace p n :=
  Nat.le_max_left 1 _

theorem nearestPlace_le {p n : Nat} (percent : p ≤ 100) (some : 0 < n) : nearestPlace p n ≤ n := by
  refine Nat.max_le.2 ⟨some, ?_⟩
  rw [ceilDiv_le_iff_le_mul (by decide)]
  exact Nat.mul_le_mul_right n percent

/-- The place of nearest rank reaches the exact product, and the place before it does not. -/
theorem nearestPlace_bounds (p n : Nat) : p * n ≤ 100 * nearestPlace p n ∧
    (nearestPlace p n = 1 ∨ 100 * (nearestPlace p n - 1) < p * n) := by
  have reached : p * n ≤ 100 * (p * n ⌈/⌉ 100) :=
    (ceilDiv_le_iff_le_mul (by decide)).1 (Nat.le_refl _)
  have least : ∀ k, p * n ≤ 100 * k → p * n ⌈/⌉ 100 ≤ k := fun k =>
    (ceilDiv_le_iff_le_mul (by decide)).2
  unfold nearestPlace
  rcases Nat.le_total (p * n ⌈/⌉ 100) 1 with one | more
  · rw [Nat.max_eq_left one]
    omega
  · rw [Nat.max_eq_right more]
    refine ⟨reached, ?_⟩
    have := least (p * n ⌈/⌉ 100 - 1)
    omega

/-- The share is off by at most 2 ^ -54, and so is its product with a count in proportion. -/
theorem share_error {p : Nat} (percent : p ≤ 100) (n : Nat) :
    2 ^ 54 * 100 * (share p * n) ≤ (2 ^ 54 * (p * n) + 100 * n) * unitsPerOne ∧
      2 ^ 54 * (p * n) * unitsPerOne
        ≤ 2 ^ 54 * 100 * (share p * n) + 100 * n * unitsPerOne := by
  obtain ⟨above, below⟩ := nearestRank_error (by decide : 0 < 100) percent
  have above := Nat.mul_le_mul_right n above
  have below := Nat.mul_le_mul_right n below
  unfold share
  constructor
  · calc _ = 2 ^ 54 * (unitsOfRank (nearestRank p 100) * 100) * n := by ring
      _ ≤ _ := above
      _ = _ := by ring
  · calc _ = 2 ^ 54 * (p * unitsPerOne) * n := by ring
      _ ≤ _ := below
      _ = _ := by ring

/-- A product that is not above a place is rounded to it or below. -/
theorem roundedAtMost_of_le {num den j : Nat} (positive : 0 < den) (h : num ≤ j * den) :
    RoundedAtMost num den j := by
  refine .inl ?_
  calc 2 ^ 53 * num ≤ 2 ^ 53 * (j * den) := Nat.mul_le_mul_left _ h
    _ < 2 ^ 53 * (j * den) + 2 ^ Nat.log2 j * den :=
      Nat.lt_add_of_pos_right (Nat.mul_pos (Nat.two_pow_pos _) positive)
    _ = (2 ^ 53 * j + 2 ^ Nat.log2 j) * den := by ring

/-- The exact product is so far below a place that the error of the share does not matter. -/
theorem roundedAtMost_of_below {p n j : Nat} (percent : p ≤ 100)
    (h : 2 ^ 54 * (p * n) + 100 * n ≤ 2 ^ 54 * 100 * j) :
    RoundedAtMost (share p * n) unitsPerOne j := by
  have factor : 0 < 2 ^ 54 * 100 := by decide
  refine roundedAtMost_of_le unitsPerOne_pos (Nat.le_of_mul_le_mul_left ?_ factor)
  calc 2 ^ 54 * 100 * (share p * n) ≤ (2 ^ 54 * (p * n) + 100 * n) * unitsPerOne :=
        (share_error percent n).1
    _ ≤ 2 ^ 54 * 100 * j * unitsPerOne := Nat.mul_le_mul_right _ h
    _ = 2 ^ 54 * 100 * (j * unitsPerOne) := Nat.mul_assoc _ _ _

/-- The exact product is so far above a place that neither the error of the share nor that of the
product matters. -/
theorem not_roundedAtMost_of_above {p n j half : Nat} (percent : p ≤ 100)
    (power : 2 ^ Nat.log2 j ≤ half)
    (h : 200 * (2 ^ 53 * j + half) + 100 * n < 2 ^ 54 * (p * n)) :
    ¬ RoundedAtMost (share p * n) unitsPerOne j := by
  have middle : 200 * (2 ^ 53 * j + 2 ^ Nat.log2 j) + 100 * n < 2 ^ 54 * (p * n) := by
    refine Nat.lt_of_le_of_lt ?_ h
    gcongr
  have scaled := Nat.mul_lt_mul_of_pos_right middle unitsPerOne_pos
  have error := (share_error percent n).2
  have left : (200 * (2 ^ 53 * j + 2 ^ Nat.log2 j) + 100 * n) * unitsPerOne
      = 200 * ((2 ^ 53 * j + 2 ^ Nat.log2 j) * unitsPerOne) + 100 * n * unitsPerOne := by ring
  unfold RoundedAtMost
  omega

theorem share_of_eq {p r : Nat} (exact : p * unitsPerOne = unitsOfRank r * 100) :
    share p = unitsOfRank r := by
  rw [share, nearestRank_of_eq (by decide) exact]

theorem share_zero : share 0 = 0 := by
  rw [share_of_eq (r := 0), unitsOfRank_zero]
  rw [unitsOfRank_zero, Nat.zero_mul, Nat.zero_mul]

theorem share_hundred : share 100 = unitsPerOne := by
  obtain ⟨r, one⟩ := exists_unitsOfRank (n := 1) (by decide)
  rw [Nat.one_mul] at one
  rw [share_of_eq (r := r), one]
  rw [one, Nat.mul_comm]

theorem share_fifty : 2 * share 50 = unitsPerOne := by
  have half : 2 * unitsOfRank (1021 * 2 ^ 52 + 2 ^ 52) = unitsPerOne := by
    obtain ⟨e, he⟩ : ∃ e, e = 1021 := ⟨_, rfl⟩
    rw [← he, unitsOfRank_normal e (Nat.le_refl _) (by decide), unitsPerOne_eq,
      show 1074 = e + 53 by omega, pow_add]
    ring
  rw [share_of_eq (r := 1021 * 2 ^ 52 + 2 ^ 52), half]
  rw [← half]
  ring

/-- The place is one of `n`, and the first one that the product of share and count does not pass
when it is rounded. -/
structure Placed (p n place : Nat) : Prop where
  /-- It is no place before the first one. -/
  first : 1 ≤ place
  /-- It is no place after the last one. -/
  last : place ≤ n
  /-- It is `j` or one before if the product is rounded to `j` or below. -/
  le_iff : ∀ j, 0 < j → j < n →
    (place ≤ j ↔ RoundedAtMost (share p * n) unitsPerOne j)

namespace Placed

variable {p n place : Nat} (h : Placed p n place)

include h

/-- The place is the one of nearest rank exactly if the product is rounded to this place or below,
and not to the place before or below. -/
theorem eq_nearestPlace_iff (percent : p ≤ 100) : place = nearestPlace p n ↔
    (nearestPlace p n < n → RoundedAtMost (share p * n) unitsPerOne (nearestPlace p n)) ∧
      (1 < nearestPlace p n →
        ¬ RoundedAtMost (share p * n) unitsPerOne (nearestPlace p n - 1)) := by
  have one := one_le_nearestPlace p n
  have all := nearestPlace_le (n := n) percent (h.first.trans h.last)
  have first := h.first
  have last := h.last
  constructor
  · intro same
    refine ⟨fun inside => ?_, fun more => ?_⟩
    · rw [← h.le_iff _ one inside]
      exact same.le
    · rw [← h.le_iff _ (by omega) (by omega)]
      omega
  · rintro ⟨below, above⟩
    have upper : place ≤ nearestPlace p n := by
      rcases Nat.lt_or_eq_of_le all with inside | top
      · exact (h.le_iff _ one inside).2 (below inside)
      · rwa [top]
    have lower : nearestPlace p n ≤ place := by
      by_contra before
      exact above (by omega) ((h.le_iff _ (by omega) (by omega)).1 (by omega))
    exact Nat.le_antisymm upper lower

/-- The two places are never more than one apart. -/
theorem near (percent : p ≤ 100) (exact : n ≤ 2 ^ 53) :
    nearestPlace p n ≤ place + 1 ∧ place ≤ nearestPlace p n + 1 := by
  obtain ⟨reached, least⟩ := nearestPlace_bounds p n
  have first := h.first
  have last := h.last
  constructor
  · by_contra far
    have all := nearestPlace_le (n := n) percent (first.trans last)
    have power : 2 ^ Nat.log2 (nearestPlace p n - 2) ≤ 2 ^ 52 :=
      Nat.pow_le_pow_right (by decide) (log2_le_of_lt (by omega) (by omega))
    have passed : ¬ RoundedAtMost (share p * n) unitsPerOne (nearestPlace p n - 2) :=
      not_roundedAtMost_of_above percent power (by omega)
    exact passed ((h.le_iff _ (by omega) (by omega)).1 (by omega))
  · by_contra far
    have kept : RoundedAtMost (share p * n) unitsPerOne (nearestPlace p n + 1) :=
      roundedAtMost_of_below percent (by omega)
    exact far ((h.le_iff _ (by omega) (by omega)).2 kept)

/-- Up to 2 ^ 45 values, the place is the one of nearest rank or the next one. The next one is taken
only if the exact product is a whole number and the share is rounded up. -/
theorem moderate (percent : p ≤ 100) (some : n ≤ 2 ^ 45) : place = nearestPlace p n ∨
    place = nearestPlace p n + 1 ∧ 100 ∣ p * n ∧ p * unitsPerOne < 100 * share p := by
  obtain ⟨reached, least⟩ := nearestPlace_bounds p n
  have first := h.first
  have last := h.last
  have one := one_le_nearestPlace p n
  have all := nearestPlace_le (n := n) percent (first.trans last)
  have lower : nearestPlace p n ≤ place := by
    by_contra before
    have power : 2 ^ Nat.log2 (nearestPlace p n - 1) ≤ nearestPlace p n - 1 :=
      Nat.log2_self_le (by omega)
    have passed : ¬ RoundedAtMost (share p * n) unitsPerOne (nearestPlace p n - 1) :=
      not_roundedAtMost_of_above percent power (by omega)
    exact passed ((h.le_iff _ (by omega) (by omega)).1 (by omega))
  rcases Nat.lt_or_eq_of_le lower with beyond | same
  · have passed : ¬ RoundedAtMost (share p * n) unitsPerOne (nearestPlace p n) := fun kept => by
      have := (h.le_iff _ one (by omega)).2 kept
      omega
    refine .inr ⟨?_, ?_, ?_⟩
    · have := (h.near percent (some.trans (by decide))).2
      omega
    · by_contra broken
      exact passed (roundedAtMost_of_below percent (by omega))
    · by_contra low
      have factor : 0 < 100 := by decide
      refine passed (roundedAtMost_of_le unitsPerOne_pos (Nat.le_of_mul_le_mul_left ?_ factor))
      calc 100 * (share p * n) = 100 * share p * n := by ring
        _ ≤ p * unitsPerOne * n := Nat.mul_le_mul_right n (Nat.le_of_not_lt low)
        _ = p * n * unitsPerOne := by ring
        _ ≤ 100 * nearestPlace p n * unitsPerOne := Nat.mul_le_mul_right _ reached
        _ = 100 * (nearestPlace p n * unitsPerOne) := by ring
  · exact .inl same.symm

omit h in
/-- The smallest value is at the first place. -/
theorem minimum (h : Placed 0 n place) : place = 1 := by
  have first := h.first
  have last := h.last
  rcases Nat.lt_or_eq_of_le (first.trans last) with more | one
  · have kept : RoundedAtMost (share 0 * n) unitsPerOne 1 :=
      roundedAtMost_of_le unitsPerOne_pos (by rw [share_zero, Nat.zero_mul]; exact Nat.zero_le _)
    have := (h.le_iff 1 (by decide) more).2 kept
    omega
  · omega

omit h in
/-- The largest value is at the last place. -/
theorem maximum (h : Placed 100 n place) (exact : n ≤ 2 ^ 53) : place = n := by
  have first := h.first
  have last := h.last
  by_contra before
  have small : Nat.log2 (n - 1) ≤ 52 := log2_le_of_lt (by omega) (by omega)
  have power : 2 ^ Nat.log2 (n - 1) ≤ 2 ^ 52 := Nat.pow_le_pow_right (by decide) small
  have kept := (h.le_iff (n - 1) (by omega) (by omega)).1 (by omega)
  have middle : 2 ^ 53 * (n - 1) + 2 ^ Nat.log2 (n - 1) < 2 ^ 53 * n := by omega
  have beyond := Nat.mul_lt_mul_of_pos_right middle unitsPerOne_pos
  have product : 2 ^ 53 * n * unitsPerOne = 2 ^ 53 * (unitsPerOne * n) := by ring
  rw [RoundedAtMost, share_hundred] at kept
  omega

omit h in
/-- The middle value is at the place of nearest rank. -/
theorem median (h : Placed 50 n place) (exact : n ≤ 2 ^ 53) : place = nearestPlace 50 n := by
  obtain ⟨reached, least⟩ := nearestPlace_bounds 50 n
  rw [h.eq_nearestPlace_iff (by decide)]
  refine ⟨fun _ => roundedAtMost_of_le unitsPerOne_pos ?_, fun more kept => ?_⟩
  · refine Nat.le_of_mul_le_mul_left ?_ two_pos
    calc 2 * (share 50 * n) = 2 * share 50 * n := by ring
      _ = n * unitsPerOne := by rw [share_fifty, Nat.mul_comm]
      _ ≤ 2 * nearestPlace 50 n * unitsPerOne := Nat.mul_le_mul_right _ (by omega)
      _ = 2 * (nearestPlace 50 n * unitsPerOne) := by ring
  · have small : Nat.log2 (nearestPlace 50 n - 1) ≤ 51 :=
      Nat.lt_succ_iff.1 ((Nat.log2_lt (by omega)).2 (by omega))
    have power : 2 ^ Nat.log2 (nearestPlace 50 n - 1) ≤ 2 ^ 51 :=
      Nat.pow_le_pow_right (by decide) small
    have middle : 2 * (2 ^ 53 * (nearestPlace 50 n - 1) + 2 ^ Nat.log2 (nearestPlace 50 n - 1))
        < 2 ^ 53 * n := by omega
    have beyond := Nat.mul_lt_mul_of_pos_right middle unitsPerOne_pos
    have product : 2 ^ 53 * n * unitsPerOne = 2 * (2 ^ 53 * (share 50 * n)) := by
      rw [← share_fifty]
      ring
    rw [product, Nat.mul_assoc] at beyond
    unfold RoundedAtMost at kept
    omega

end Placed

/-! ## What is computed -/

/-- A number that is the natural number `k`. Both zeros are 0. -/
def Binary64.IsNat (x : Binary64) (k : Nat) : Prop :=
  ∃ y : Finite, x = .finite y ∧ y.signedUnits = (k * unitsPerOne : Nat)

theorem Binary64.isNat_ofNat {k : Nat} (small : k ≤ 2 ^ 53) : (Binary64.ofNat k).IsNat k := by
  obtain ⟨y, rounded, exact⟩ := exists_ofNat small
  exact ⟨y, rounded, by rw [exact, Nat.cast_mul]⟩

/-- The sign and the magnitude of a natural number. -/
theorem Finite.of_signedUnits {y : Finite} {k : Nat} (h : y.signedUnits = (k : Nat)) :
    y.units = k ∧ (y.negative = true → k = 0) := by
  unfold signedUnits at h
  split at h
  · next negative => omega
  · next positive => exact ⟨by omega, fun negative => absurd negative positive⟩

theorem ofRank_of_lt {rank : Nat} (negative : Bool) (h : rank < magnitudes) :
    Binary64.ofRank negative rank = .finite ⟨negative, ⟨rank, h⟩⟩ :=
  dif_pos h

theorem nearestRank_zero {den : Nat} (positive : 0 < den) : nearestRank 0 den = 0 :=
  nearestRank_of_eq positive (by rw [unitsOfRank_zero, Nat.zero_mul, Nat.zero_mul])

/-- The rank of a share is that of a finite number. -/
theorem nearestRank_share_lt {p : Nat} (percent : p ≤ 100) : nearestRank p 100 < magnitudes := by
  obtain ⟨r, one⟩ := exists_unitsOfRank (n := 1) (by decide)
  have exact : nearestRank 1 1 = r := nearestRank_of_eq Nat.one_pos (by rw [one, Nat.mul_one])
  have below : nearestRank p 100 ≤ r := by
    refine nearestRank_le (by decide) ?_
    rw [one, Nat.one_mul, Nat.mul_comm unitsPerOne]
    exact Nat.mul_le_mul_right _ percent
  exact below.trans_lt (exact ▸ nearestRank_lt (by decide))

/-- **The product of share and count**, each rounded once, as a count: it is at most a place exactly
if the exact product of the rounded share is not beyond the middle after that place. -/
theorem toNat_ceilCount_product {x : Binary64} {p n j : Nat} (is : x.IsNat p) (percent : p ≤ 100)
    (counted : 0 < n) (exact : n ≤ 2 ^ 53) (some : 0 < j) (small : j < 2 ^ 53) :
    ((x.div (.ofNat 100)).mul (.ofNat n)).ceilCount.toNat ≤ j ↔
      RoundedAtMost (share p * n) unitsPerOne j := by
  obtain ⟨y, rfl, hy⟩ := is
  obtain ⟨h, hundred, hh⟩ := Binary64.isNat_ofNat (k := 100) (by decide)
  obtain ⟨c, count, hc⟩ := Binary64.isNat_ofNat exact
  obtain ⟨yUnits, yZero⟩ := Finite.of_signedUnits hy
  obtain ⟨hUnits, hZero⟩ := Finite.of_signedUnits hh
  obtain ⟨cUnits, cZero⟩ := Finite.of_signedUnits hc
  have one := unitsPerOne_pos
  have hPositive : h.negative = false := Bool.eq_false_iff.2 fun negative => by
    have := hZero negative
    omega
  have cPositive : c.negative = false := Bool.eq_false_iff.2 fun negative =>
    (Nat.mul_pos counted one).ne' (cZero negative)
  rw [hundred, count]
  have quotient : (Binary64.finite y).div (.finite h)
      = .finite ⟨y.negative, ⟨nearestRank p 100, nearestRank_share_lt percent⟩⟩ := by
    rw [Binary64.div, if_neg (by omega), hPositive, Bool.bne_false, yUnits, hUnits,
      Binary64.ofRatio, nearestRank_mul (by decide) one, ofRank_of_lt]
  have product :
      (Binary64.finite ⟨y.negative, ⟨nearestRank p 100, nearestRank_share_lt percent⟩⟩).mul
        (.finite c)
        = .ofRatio y.negative (share p * n * unitsPerOne) (unitsPerOne * unitsPerOne) := by
    rw [Binary64.mul, cPositive, Bool.bne_false, cUnits, ← Nat.mul_assoc]
    rfl
  have denominator : 0 < unitsPerOne * unitsPerOne := Nat.mul_pos one one
  rw [quotient, product]
  cases sign : y.negative with
  | false => rw [Binary64.toNat_ceilCount_le_iff denominator some small, roundedAtMost_mul one]
  | true =>
    -- Nothing but zero has both signs.
    obtain rfl : p = 0 := (Nat.mul_eq_zero.1 (yZero sign)).resolve_right one.ne'
    rw [share_zero, Nat.zero_mul, Nat.zero_mul, Binary64.ofRatio, nearestRank_zero denominator,
      ofRank_of_lt true (by decide)]
    exact iff_of_true (Nat.zero_le j) (roundedAtMost_of_le one (Nat.zero_le _))

/-- **The place that is computed** for a whole percentage of an exact count. -/
theorem Model.placed_percentileRank {x : Binary64} {p : Nat} {total : UInt64} (is : x.IsNat p)
    (percent : p ≤ 100) (some : total ≠ 0) (exact : total.toNat ≤ 2 ^ 53) :
    Placed p total.toNat (percentileRank x total).toNat where
  first := (percentileRank_bounds x some).1
  last := (percentileRank_bounds x some).2
  le_iff j positive inside := by
    have one : (1 : UInt64).toNat = 1 := rfl
    have counted : total.toNat ≠ 0 := fun none => some (UInt64.toNat_inj.1 none)
    rw [← toNat_ceilCount_product is percent (by omega) exact positive (by omega), percentileRank]
    generalize ((x.div (.ofNat 100)).mul (.ofNat total.toNat)).ceilCount = rank
    simp only [UInt64.lt_iff_toNat_lt]
    split
    · omega
    · split <;> omega

/-! ## Nearest ranks -/

/-- What is known of the place of the `p`-th percentile among `n` values. -/
structure NearestRank (p n place : Nat) : Prop where
  /-- It is the place of nearest rank exactly if the product of share and count is rounded to this
  place or below, and not to the place before or below. -/
  eq_iff : place = nearestPlace p n ↔
    (nearestPlace p n < n → RoundedAtMost (share p * n) unitsPerOne (nearestPlace p n)) ∧
      (1 < nearestPlace p n → ¬ RoundedAtMost (share p * n) unitsPerOne (nearestPlace p n - 1))
  /-- It is never more than one place beside that. -/
  near : nearestPlace p n ≤ place + 1 ∧ place ≤ nearestPlace p n + 1
  /-- Up to 2 ^ 45 values it can only be the place after that, and only where the exact product is a
  whole number and the share is rounded up. -/
  moderate : n ≤ 2 ^ 45 → place = nearestPlace p n ∨
    place = nearestPlace p n + 1 ∧ 100 ∣ p * n ∧ p * unitsPerOne < 100 * share p
  /-- The smallest value is at the first place. -/
  minimum : p = 0 → place = 1
  /-- The largest value is at the last place. -/
  maximum : p = 100 → place = n
  /-- The middle value is at the place of nearest rank. -/
  median : p = 50 → place = nearestPlace p n

theorem Placed.nearestRank {p n place : Nat} (h : Placed p n place) (percent : p ≤ 100)
    (exact : n ≤ 2 ^ 53) : NearestRank p n place where
  eq_iff := h.eq_nearestPlace_iff percent
  near := h.near percent exact
  moderate := h.moderate percent
  minimum zero := by
    subst zero
    exact h.minimum
  maximum hundred := by
    subst hundred
    exact h.maximum exact
  median fifty := by
    subst fifty
    exact h.median exact

/-- The percentage and the number of values are written at the end of the statement that fetches
the row, as its offset. -/
theorem Model.exists_sql_ranked {σ : Type} (m : Model σ) (field : String) (filter : Filter) :
    ∃ text : String, ∀ x total, (m.ranked field x filter total).find.statement.wire.sql
      = text ++ " LIMIT 1 OFFSET " ++ toString (percentileRank x total - 1).toNat := by
  obtain ⟨q, hq⟩ : ∃ q : Query,
      q = { (m.valued field filter).addOrders (Order.byField field) with select := [field] } :=
    ⟨_, rfl⟩
  refine ⟨q.core.sql ++ q.orderSql, fun x total => ?_⟩
  have paged : m.ranked field x filter total
      = { q with limit := some 1, offset := some (percentileRank x total - 1) } := by
    rw [hq]
    rfl
  have window : (m.ranked field x filter total).windowSql
      = " LIMIT 1 OFFSET " ++ toString (percentileRank x total - 1).toNat := rfl
  show (m.ranked field x filter total).find.sql = _
  rw [Query.find, Template.sql_append, Template.sql_raw, window, String.append_assoc,
    String.append_assoc, paged]
  rfl

/-- **A percentile goes by a rounded share of the count.** Take any model, column, filter and whole
percentage, and any answers of an engine: the values are counted, and if there are any, one row is
fetched by a statement that ends with its offset. For a count up to 2 ^ 53 this offset leads to the
place of nearest rank exactly if the product of the count and the number nearest to the percentage
in hundredths is rounded to this place or below, and not to the one before or below. Otherwise the
place is the next one on either side, and up to 2 ^ 45 values that can only be the one after it,
where the exact product is a whole number. The smallest value, the largest and the middle one are
always at their places. -/
theorem percentile_goes_by_rounded_share {σ : Type} (m : Model σ) (field : String)
    (filter : Filter) : ∃ text : String, ∀ (x : Binary64) (p : Nat), x.IsNat p → p ≤ 100 →
      (∀ w : World σ,
        m.Follows (m.percentile field x filter) w (m.Percentiled field x filter)) ∧
      ∀ total : UInt64, total ≠ 0 → total.toNat ≤ 2 ^ 53 → ∃ place : Nat,
        (m.ranked field x filter total).find.statement.wire.sql
            = text ++ " LIMIT 1 OFFSET " ++ toString (place - 1) ∧
          NearestRank p total.toNat place := by
  obtain ⟨text, sql⟩ := m.exists_sql_ranked field filter
  refine ⟨text, fun x p is percent => ⟨m.follows_percentile field x filter, ?_⟩⟩
  intro total some exact
  have one : (1 : UInt64).toNat = 1 := rfl
  have placed := Model.placed_percentileRank is percent some exact
  refine ⟨_, ?_, placed.nearestRank percent exact⟩
  have first : (1 : UInt64) ≤ Model.percentileRank x total := by
    rw [UInt64.le_iff_toNat_le, one]
    exact placed.first
  rw [sql, UInt64.toNat_sub_of_le _ _ first, one]

/-! ### Twenty-five marks -/

/-- A table of marks, of which twenty-five have a score. -/
def marks : Model Unit where
  schema := ⟨"marks", [.id "id", { name := "score", kind := .number }], {}, ⟨0, by decide⟩⟩
  engine s state :=
    if s.sql = "SELECT COUNT(*) AS count FROM marks WHERE score IS NOT NULL" then
      (.ok { rows := [.ofEntries [("count", .int 25)]] }, state)
    else (.ok { rows := [.ofEntries [("score", .int 8)]] }, state)

/-- The 28th percentile of twenty-five scores is at the eighth place or at the seventh. -/
theorem marks_are_placed : (Binary64.ofNat 28).IsNat 28 ∧ 28 ≤ 100 ∧ (25 : UInt64) ≠ 0 ∧
    (25 : UInt64).toNat ≤ 2 ^ 53 ∧ ∃ text place,
      (marks.ranked "score" (.ofNat 28) [] 25).find.statement.wire.sql
          = text ++ " LIMIT 1 OFFSET " ++ toString (place - 1) ∧ NearestRank 28 25 place := by
  have is : (Binary64.ofNat 28).IsNat 28 := Binary64.isNat_ofNat (by decide)
  have few : (25 : UInt64).toNat ≤ 2 ^ 53 := by decide
  obtain ⟨text, percentiles⟩ := percentile_goes_by_rounded_share marks "score" []
  obtain ⟨place, sql, nearest⟩ := (percentiles (.ofNat 28) 28 is (by decide)).2 25 (by decide) few
  exact ⟨is, by decide, by decide, few, text, place, sql, nearest⟩

/-- **A percentile beside the nearest rank.** Among twenty-five values the 28th percentile is the
seventh one, and the eighth one is fetched. -/
theorem score_beside_nearest_rank :
    nearestPlace 28 25 = 7 ∧
      (marks.percentile "score" (.ofNat 28) []).issued ⟨(), default, [], []⟩
        = [⟨"SELECT COUNT(*) AS count FROM marks WHERE score IS NOT NULL", []⟩,
          ⟨"SELECT score FROM marks WHERE score IS NOT NULL ORDER BY score ASC LIMIT 1 OFFSET 7",
            []⟩] ∧
      ¬ ∀ (p : Nat) (total : UInt64), p ≤ 100 → total ≠ 0 → total.toNat ≤ 2 ^ 53 →
        (Model.percentileRank (.ofNat p) total).toNat = nearestPlace p total.toNat := by
  refine ⟨by decide, by decide +kernel, fun always => ?_⟩
  have same := always 28 25 (by decide) (by decide) (by decide)
  exact absurd same (by decide +kernel)

end RecordMapper
