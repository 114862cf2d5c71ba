import Mathlib.Algebra.Order.Field.Rat
import Mathlib.Algebra.Order.Field.Basic
import Mathlib.Order.WithBot
import Mathlib.Data.Nat.Cast.Order.Basic
import SqlRelay.Proofs.Double.Rounding
/-!
# The order of doubles

A finite double is a rational number, and the infinities lie at the ends of the number line.  A NaN
has no place there, so no comparison with it holds.  The tests of a double against zero and one,
which look at its bits, are comparisons of these numbers.

Main results:

- Definition `Double.place?` is the place of a double on the number line, and `Double.AtMost` and
  `Double.Less` compare two doubles by their places.
- Theorems `Double.isNonNegative_iff` and `Double.atMostOne_iff`: what the tests of bits say.
- Theorem `Double.nearest_isNaN`: rounding never makes a NaN.
-/

namespace SqlRelay.Double

/-- The number that a finite double is, without its sign. -/
def magnitude (x : Double) : ℚ :=
  x.ratio.1 / x.ratio.2

/-- The number that a finite double is. -/
def value (x : Double) : ℚ :=
  if x.isNegative then -x.magnitude else x.magnitude

/-- The place of a double on the number line with an infinity at each end; a NaN has none. -/
def place? (x : Double) : Option (WithBot (WithTop ℚ)) :=
  if x.isNaN then none
  else if x.isFinite then some ((x.value : WithTop ℚ) : WithBot (WithTop ℚ))
  else if x.isNegative then some ⊥ else some ⊤

/-- One double is at most another one. -/
def AtMost (x y : Double) : Prop :=
  ∃ p q, x.place? = some p ∧ y.place? = some q ∧ p ≤ q

/-- One double is less than another one. -/
def Less (x y : Double) : Prop :=
  ∃ p q, x.place? = some p ∧ y.place? = some q ∧ p < q

/-- What the place of a double is. -/
inductive Place (x : Double) : Prop
  | nan (nan : x.isNaN = true) (place : x.place? = none)
  | finite (finite : x.isFinite = true) (number : x.isNaN = false)
      (place : x.place? = some ((x.value : WithTop ℚ) : WithBot (WithTop ℚ)))
  | least (infinite : x.isFinite = false) (number : x.isNaN = false) (sign : x.isNegative = true)
      (place : x.place? = some ⊥)
  | greatest (infinite : x.isFinite = false) (number : x.isNaN = false)
      (sign : x.isNegative = false) (place : x.place? = some ⊤)

/-- Every double that is no NaN has a place on the extended line. -/
theorem exists_place {x : Double} (h : x.isNaN = false) : ∃ p, x.place? = some p := by
  unfold place?
  split_ifs <;> simp_all

/-- Every double is a NaN without a place, a number at its value, or an infinity at one of the ends. -/
theorem place (x : Double) : x.Place := by
  cases hnan : x.isNaN with
  | true => exact .nan hnan (by simp [place?, hnan])
  | false =>
    cases hfinite : x.isFinite with
    | true => exact .finite hfinite hnan (by simp [place?, hnan, hfinite])
    | false =>
      cases hsign : x.isNegative with
      | true => exact .least hfinite hnan hsign (by simp [place?, hnan, hfinite, hsign])
      | false => exact .greatest hfinite hnan hsign (by simp [place?, hnan, hfinite, hsign])

/-- The comparison of doubles is the order of their places. -/
theorem atMost_iff {x y : Double} {p q : WithBot (WithTop ℚ)} (hx : x.place? = some p)
    (hy : y.place? = some q) : x.AtMost y ↔ p ≤ q := by
  simp [AtMost, hx, hy]

/-- The strict comparison of doubles is the strict order of their places. -/
theorem less_iff {x y : Double} {p q : WithBot (WithTop ℚ)} (hx : x.place? = some p)
    (hy : y.place? = some q) : x.Less y ↔ p < q := by
  simp [Less, hx, hy]

/-- No comparison with a NaN holds. -/
theorem AtMost.number {x y : Double} (h : x.AtMost y) : x.isNaN = false ∧ y.isNaN = false := by
  obtain ⟨p, q, hx, hy, -⟩ := h
  constructor <;> by_contra hnan <;> simp_all [place?]

/-- Of two numbers one is at most the other one, or it is the greater one. -/
theorem less_iff_not_atMost {x y : Double} (hx : x.isNaN = false) (hy : y.isNaN = false) :
    x.Less y ↔ ¬ y.AtMost x := by
  obtain ⟨p, hp⟩ := exists_place hx
  obtain ⟨q, hq⟩ := exists_place hy
  rw [less_iff hp hq, atMost_iff hq hp, not_le]

/-- A double that is less than another one is not above it. -/
theorem Less.not_atMost {x y : Double} (h : x.Less y) : ¬ y.AtMost x := by
  obtain ⟨p, q, hp, hq, hless⟩ := h
  rw [atMost_iff hq hp]
  exact not_le_of_gt hless

/-! ## Fields -/

/-- The fraction field has fifty-two bits. -/
theorem fractionField_lt (x : Double) : x.fractionField < 2 ^ 52 :=
  Nat.mod_lt _ (Nat.two_pow_pos 52)

/-- The bits of a double without a sign are its two other fields. -/
theorem bits_eq {x : Double} (sign : x.isNegative = false) :
    x.bits.toNat = x.exponentField * 2 ^ 52 + x.fractionField := by
  have hbound : ¬ 2 ^ 63 ≤ x.bits.toNat := of_decide_eq_false sign
  simp only [exponentField, fractionField, twoTo_eq]
  omega

theorem le_twoTo {few many : Nat} (h : few ≤ many) : 2 ^ few ≤ twoTo many :=
  Nat.pow_le_pow_right Nat.two_pos h

/-- The denominator of a magnitude is positive. -/
theorem ratio_pos (x : Double) : 0 < x.ratio.2 := by
  unfold ratio
  split
  · exact Nat.one_pos
  · exact Nat.two_pow_pos _

/-- The zeros are the doubles whose magnitude has the numerator zero. -/
theorem ratio_eq_zero_iff (x : Double) : x.ratio.1 = 0 ↔ x.isZero = true := by
  have hsignificand : x.significand = 0 ↔ x.isZero = true := by
    simp only [significand, isZero, twoTo_eq, Bool.and_eq_true, beq_iff_eq]
    split <;> omega
  rw [← hsignificand]
  unfold ratio
  split
  · have hpower : twoTo (x.scale - 1074) ≠ 0 := (Nat.two_pow_pos _).ne'
    simp [hpower]
  · rfl

/-- A normal double has one bit in front of its fraction. -/
theorem significand_of_normal {x : Double} (normal : 1 ≤ x.exponentField) :
    x.significand = x.fractionField + 2 ^ 52 := by
  simp only [significand, Nat.ne_of_gt normal, if_false, twoTo_eq]

/-- A double whose last bit is a whole number is whole. -/
theorem ratio_of_whole {x : Double} (h : 1075 ≤ x.exponentField) :
    x.ratio = (x.significand * twoTo (x.scale - 1074), 1) :=
  if_pos (Nat.le_sub_one_of_lt h)

/-- All others are parts of a power of two. -/
theorem ratio_of_part {x : Double} (h : x.exponentField ≤ 1074) :
    x.ratio = (x.significand, twoTo (1074 - (x.exponentField - 1))) :=
  if_neg (by simp only [scale]; omega)

/-- A double without a sign is at most one exactly if its bits are: the exponent field decides, and
the fraction if that is the one of one. -/
theorem ratio_le_iff {x : Double} (sign : x.isNegative = false) :
    x.ratio.1 ≤ x.ratio.2 ↔ x.bits.toNat ≤ one.bits.toNat := by
  have hone : one.bits.toNat = 1023 * 2 ^ 52 := rfl
  have hfraction := x.fractionField_lt
  rw [bits_eq sign, hone]
  obtain hwhole | hpart := Nat.lt_or_ge 1074 x.exponentField
  · have hsignificand := significand_of_normal (x := x) (by omega)
    have hlarge : x.significand ≤ x.significand * twoTo (x.scale - 1074) :=
      Nat.le_mul_of_pos_right _ (Nat.two_pow_pos _)
    rw [ratio_of_whole hwhole]
    dsimp only
    omega
  · rw [ratio_of_part hpart]
    dsimp only
    -- a normal significand begins at `2 ^ 52`, which is the denominator of one
    obtain hsmall | hless | hsame | hmore : x.exponentField = 0 ∨
        (1 ≤ x.exponentField ∧ x.exponentField ≤ 1022) ∨ x.exponentField = 1023 ∨
          1024 ≤ x.exponentField := by
      omega
    · have hsignificand : x.significand = x.fractionField := if_pos hsmall
      have hpower : 2 ^ 52 ≤ twoTo (1074 - (x.exponentField - 1)) := le_twoTo (by omega)
      omega
    · have hsignificand := significand_of_normal hless.1
      have hpower : 2 ^ 53 ≤ twoTo (1074 - (x.exponentField - 1)) := le_twoTo (by omega)
      omega
    · have hsignificand := significand_of_normal (x := x) (by omega)
      have hpower : twoTo (1074 - (x.exponentField - 1)) = 2 ^ 52 := by rw [hsame]; rfl
      omega
    · have hsignificand := significand_of_normal (x := x) (by omega)
      have hpower : twoTo (1074 - (x.exponentField - 1)) ≤ 2 ^ 51 :=
        Nat.pow_le_pow_right (by decide) (by omega)
      omega

/-! ## Zero and one -/

theorem magnitude_nonneg (x : Double) : 0 ≤ x.magnitude :=
  div_nonneg (Nat.cast_nonneg _) (Nat.cast_nonneg _)

/-- The zeros are the doubles without magnitude. -/
theorem magnitude_eq_zero_iff (x : Double) : x.magnitude = 0 ↔ x.isZero = true := by
  have hdenominator : (x.ratio.2 : ℚ) ≠ 0 := Nat.cast_ne_zero.2 x.ratio_pos.ne'
  rw [magnitude, div_eq_zero_iff, or_iff_left hdenominator, Nat.cast_eq_zero, ratio_eq_zero_iff]

/-- The bits of doubles without sign tell which of them are at most one. -/
theorem magnitude_le_one_iff {x : Double} (sign : x.isNegative = false) :
    x.magnitude ≤ 1 ↔ x.bits.toNat ≤ one.bits.toNat := by
  have hdenominator : (0 : ℚ) < x.ratio.2 := Nat.cast_pos.2 x.ratio_pos
  rw [magnitude, div_le_one hdenominator, Nat.cast_le, ratio_le_iff sign]

/-- A value is not negative if its sign bit is not set, or if it is a zero. -/
theorem value_nonneg_iff (x : Double) :
    0 ≤ x.value ↔ x.isNegative = false ∨ x.isZero = true := by
  have hmagnitude := x.magnitude_nonneg
  cases hsign : x.isNegative with
  | false => simpa [value, hsign] using hmagnitude
  | true =>
    rw [← magnitude_eq_zero_iff]
    simp only [value, hsign, if_true, neg_nonneg, Bool.true_eq_false, false_or]
    exact ⟨fun h => le_antisymm h hmagnitude, le_of_eq⟩

/-- A value is at most one if its sign bit is set, or if its bits are those of one at most. -/
theorem value_le_one_iff (x : Double) :
    x.value ≤ 1 ↔ x.isNegative = true ∨ x.bits.toNat ≤ one.bits.toNat := by
  cases hsign : x.isNegative with
  | false => simpa [value, hsign] using magnitude_le_one_iff hsign
  | true =>
    have hbelow : -x.magnitude ≤ 1 :=
      (neg_nonpos.2 x.magnitude_nonneg).trans zero_le_one
    simpa [value, hsign] using hbelow

theorem place?_zero : (zero false).place? = some 0 := by
  have hmagnitude : (zero false).magnitude = 0 := (magnitude_eq_zero_iff _).2 (by decide)
  have hvalue : (zero false).value = 0 := by
    rw [value, if_neg (by decide), hmagnitude]
  rw [place?, if_neg (by decide), if_pos (by decide), hvalue]
  rfl

theorem place?_one : one.place? = some 1 := by
  have hratio : one.ratio = (2 ^ 52, 2 ^ 52) := rfl
  have hvalue : one.value = 1 := by
    rw [value, if_neg (by decide), magnitude, hratio]
    exact div_self (Nat.cast_ne_zero.2 (by decide))
  rw [place?, if_neg (by decide), if_pos (by decide), hvalue]
  rfl

/-- The test for a double that is at least zero compares it with zero. -/
theorem isNonNegative_iff (x : Double) : x.isNonNegative = true ↔ (zero false).AtMost x := by
  obtain ⟨hnan, -⟩ | ⟨-, hnumber, hplace⟩ | ⟨hinfinite, hnumber, hsign, hplace⟩ |
    ⟨-, hnumber, hsign, hplace⟩ := x.place
  · have hno : ¬ (zero false).AtMost x := fun h => by simp [h.number.2] at hnan
    simp [isNonNegative, hnan, hno]
  · have hzero : (0 : WithBot (WithTop ℚ)) ≤ ((x.value : WithTop ℚ) : WithBot (WithTop ℚ)) ↔
        0 ≤ x.value := by
      norm_cast
    rw [atMost_iff place?_zero hplace, hzero, value_nonneg_iff]
    simp [isNonNegative, hnumber]
  · have hnonzero : x.isZero = false := by
      by_contra hzero
      simp_all [isZero, isFinite]
    rw [atMost_iff place?_zero hplace]
    simp [isNonNegative, hnumber, hsign, hnonzero]
  · rw [atMost_iff place?_zero hplace]
    simp [isNonNegative, hnumber, hsign]

/-- The test for a double that is at most one compares it with one. -/
theorem atMostOne_iff (x : Double) : x.atMostOne = true ↔ x.AtMost one := by
  obtain ⟨hnan, -⟩ | ⟨-, hnumber, hplace⟩ | ⟨-, hnumber, hsign, hplace⟩ |
    ⟨hinfinite, hnumber, hsign, hplace⟩ := x.place
  · have hno : ¬ x.AtMost one := fun h => by simp [h.number.1] at hnan
    simp [atMostOne, hnan, hno]
  · have hone : ((x.value : WithTop ℚ) : WithBot (WithTop ℚ)) ≤ (1 : WithBot (WithTop ℚ)) ↔
        x.value ≤ 1 := by
      norm_cast
    rw [atMost_iff hplace place?_one, hone, value_le_one_iff]
    simp [atMostOne, hnumber]
  · rw [atMost_iff hplace place?_one]
    simp [atMostOne, hnumber, hsign]
  · have hone : one.bits.toNat = 1023 * 2 ^ 52 := rfl
    have hexponent : x.exponentField = 2047 := by simpa [isFinite] using hinfinite
    have hbits := bits_eq hsign
    have hlarge : ¬ x.bits.toNat ≤ one.bits.toNat := by omega
    have hbeyond : (1 : WithBot (WithTop ℚ)) < ⊤ := WithBot.coe_lt_coe.2 (WithTop.coe_lt_top 1)
    rw [atMost_iff hplace place?_one]
    simp [atMostOne, hnumber, hsign, hlarge, hbeyond.not_ge]

/-- Bits up to those of infinity, behind a sign, make no NaN. -/
theorem withSign_isNaN (negative : Bool) {bits : Nat} (h : bits ≤ 2047 * 2 ^ 52) :
    (withSign negative bits).isNaN = false := by
  have hfields : (withSign negative bits).bits.toNat = bits + if negative then 2 ^ 63 else 0 := by
    cases negative <;> simp only [withSign, UInt64.toNat_ofNat', twoTo_eq, if_true] <;> simp <;>
      omega
  by_contra hnan
  rw [Bool.not_eq_false, isNaN, Bool.and_eq_true, beq_iff_eq, bne_iff_ne, exponentField,
    fractionField, hfields] at hnan
  simp only [twoTo_eq] at hnan
  split at hnan <;> omega

/-- Rounding never makes a NaN. -/
theorem nearest_isNaN (negative : Bool) (num den : Nat) :
    (nearest negative num den).isNaN = false := by
  have hcapped (bits : Nat) :
      (if 2047 * twoTo 52 ≤ bits then infinity negative else withSign negative bits).isNaN =
        false := by
    split
    · exact withSign_isNaN negative le_rfl
    · rename_i hfinite
      exact withSign_isNaN negative (Nat.le_of_not_le hfinite)
  unfold nearest
  split
  · exact withSign_isNaN negative (Nat.zero_le _)
  · exact hcapped _

end SqlRelay.Double
