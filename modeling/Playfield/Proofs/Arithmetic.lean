import Mathlib.Algebra.Group.Int.Defs
import Mathlib.Algebra.Group.Nat.Defs
import Mathlib.Algebra.Order.Group.Unbundled.Int
import Mathlib.Data.Int.ModEq
import Playfield.Language.Operator

/-!
Arithmetic on words against arithmetic on integers. A result that does not fit is replaced by the
one word that is congruent to it modulo `2 ^ 64`. Remainders always fit, and of all quotients only
one does not, that of the least word by minus one; the law of division holds there too, but as a
congruence.
-/

namespace Playfield.Operator

/-- This word, and no other, is congruent to an exact result. -/
def Wraps (word : Int64) (exact : Int) : Prop :=
  ∀ other : Int64, other.toInt ≡ exact [ZMOD 2 ^ 64] ↔ other = word

theorem wraps_of_bmod {word : Int64} {exact : Int} (folded : word.toInt = exact.bmod (2 ^ 64)) :
    Wraps word exact := by
  intro other
  constructor
  · intro congruent
    -- A word is its own balanced remainder, so congruent words are equal.
    have same : other.toInt.bmod (2 ^ 64) = exact.bmod (2 ^ 64) := by
      rw [← Int.emod_bmod other.toInt, ← Int.emod_bmod exact]
      exact congrArg (Int.bmod · (2 ^ 64)) congruent
    have own : other.toInt.bmod (2 ^ 64) = other.toInt := other.toInt_bmod
    apply Int64.toInt_inj.mp
    rw [folded, ← same, own]
  · rintro rfl
    rw [folded]
    exact Int.bmod_emod

theorem Wraps.congruent {word : Int64} {exact : Int} (wraps : Wraps word exact) :
    word.toInt ≡ exact [ZMOD 2 ^ 64] :=
  (wraps word).mpr rfl

/-- A quotient cut off toward zero, and the remainder that belongs to it. -/
structure Truncates (a b quotient remainder : Int64) : Prop where
  cut : Wraps quotient (a.toInt.tdiv b.toInt)
  whole : quotient.toInt * b.toInt + remainder.toInt ≡ a.toInt [ZMOD 2 ^ 64]
  small : |remainder.toInt| < |b.toInt|
  sign : remainder = 0 ∨ remainder.toInt.sign = a.toInt.sign
  fits : quotient.toInt = a.toInt.tdiv b.toInt ↔ ¬ (a.toInt = -2 ^ 63 ∧ b.toInt = -1)
  least : a.toInt = -2 ^ 63 ∧ b.toInt = -1 → quotient.toInt = -2 ^ 63 ∧ remainder.toInt = 0

section Division
variable (a b : Int64)

theorem quotient_wraps : Wraps (a / b) (a.toInt.tdiv b.toInt) :=
  wraps_of_bmod (Int64.toInt_div a b)

theorem quotient_remainder :
    (a / b).toInt * b.toInt + (a % b).toInt ≡ a.toInt [ZMOD 2 ^ 64] := by
  calc (a / b).toInt * b.toInt + (a % b).toInt
      ≡ a.toInt.tdiv b.toInt * b.toInt + (a % b).toInt [ZMOD 2 ^ 64] :=
        ((quotient_wraps a b).congruent.mul_right b.toInt).add_right (a % b).toInt
    _ = a.toInt.tdiv b.toInt * b.toInt + a.toInt.tmod b.toInt := by rw [Int64.toInt_mod]
    _ = a.toInt := Int.tdiv_mul_add_tmod a.toInt b.toInt

theorem remainder_small (nonzero : b ≠ 0) : |(a % b).toInt| < |b.toInt| := by
  have divisor : b.toInt ≠ 0 := fun zero => nonzero (Int64.toInt_inj.mp zero)
  rw [Int64.toInt_mod, Int.abs_eq_natAbs, Int.abs_eq_natAbs, Int.natAbs_tmod]
  exact_mod_cast Nat.mod_lt _ (Int.natAbs_pos.mpr divisor)

theorem remainder_sign : a % b = 0 ∨ (a % b).toInt.sign = a.toInt.sign := by
  have sign := Int.sign_tmod a.toInt b.toInt
  rw [← Int64.toInt_mod] at sign
  split at sign
  · left
    exact Int64.toInt_inj.mp (Int.sign_eq_zero_iff_zero.mp sign)
  · exact .inr sign

theorem least_divided (least : a.toInt = -2 ^ 63) (minusOne : b.toInt = -1) :
    (a / b).toInt = -2 ^ 63 ∧ (a % b).toInt = 0 := by
  rw [Int64.toInt_div, Int64.toInt_mod, least, minusOne]
  decide

theorem quotient_fits_iff :
    (a / b).toInt = a.toInt.tdiv b.toInt ↔ ¬ (a.toInt = -2 ^ 63 ∧ b.toInt = -1) := by
  constructor
  · rintro fits ⟨least, minusOne⟩
    rw [(least_divided a b least minusOne).1, least, minusOne] at fits
    exact absurd fits (by decide)
  · intro ordinary
    by_cases least : a = Int64.minValue
    · apply Int64.toInt_div_of_ne_right
      rintro rfl
      exact ordinary ⟨congrArg Int64.toInt least, rfl⟩
    · exact Int64.toInt_div_of_ne_left a b least

end Division

/-- The laws of arithmetic, for all words. Sums, differences and products are the words congruent
to the exact results. A quotient and a remainder exist unless the divisor is zero, and are then
those of a division that is cut off toward zero. -/
theorem apply_laws (a b : Int64) :
    (∃ sum, add.apply a b = some sum ∧ Wraps sum (a.toInt + b.toInt)) ∧
    (∃ difference, subtract.apply a b = some difference ∧
      Wraps difference (a.toInt - b.toInt)) ∧
    (∃ product, multiply.apply a b = some product ∧ Wraps product (a.toInt * b.toInt)) ∧
    (divide.apply a b = none ↔ b = 0) ∧ (remainder.apply a b = none ↔ b = 0) ∧
    (b ≠ 0 → ∃ q r, divide.apply a b = some q ∧ remainder.apply a b = some r ∧
      Truncates a b q r) := by
  refine ⟨⟨a + b, rfl, wraps_of_bmod (Int64.toInt_add a b)⟩,
    ⟨a - b, rfl, wraps_of_bmod (Int64.toInt_sub a b)⟩,
    ⟨a * b, rfl, wraps_of_bmod (Int64.toInt_mul a b)⟩, ?_, ?_, ?_⟩
  · simp [apply]
  · simp [apply]
  · intro nonzero
    refine ⟨a / b, a % b, if_neg nonzero, if_neg nonzero, ?_⟩
    exact {
      cut := quotient_wraps a b
      whole := quotient_remainder a b
      small := remainder_small a b nonzero
      sign := remainder_sign a b
      fits := quotient_fits_iff a b
      least := fun extreme => least_divided a b extreme.1 extreme.2 }

/-- The one quotient that does not fit. -/
theorem apply_laws_least :
    ((-1 : Int64) ≠ 0) ∧ ∃ q r, divide.apply Int64.minValue (-1) = some q ∧
      remainder.apply Int64.minValue (-1) = some r ∧ Truncates Int64.minValue (-1) q r ∧
      q = Int64.minValue ∧ r = 0 := by
  have nonzero : (-1 : Int64) ≠ 0 := by decide
  obtain ⟨_, _, _, _, _, division⟩ := apply_laws Int64.minValue (-1)
  obtain ⟨q, r, divided, left, truncates⟩ := division nonzero
  obtain ⟨quotient, remainder⟩ := truncates.least ⟨rfl, rfl⟩
  exact ⟨nonzero, q, r, divided, left, truncates, Int64.toInt_inj.mp quotient,
    Int64.toInt_inj.mp remainder⟩

end Playfield.Operator
