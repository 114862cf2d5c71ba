import Mathlib.Tactic.Ring
import SqlRelay.Double.Decimal
/-!
# Rounding of large quotients

A quotient that is at least `2 ^ 52` is rounded to a whole double: its significand is the nearest
number of steps, and a step is a whole power of two.  So rounding keeps a large quotient as large as
any power of two below it, and the number is known exactly where the power is.

Main results:

- Theorem `binaryMagnitude_eq`: the magnitude of a quotient is the power of two below it.
- Definition `IsWhole` says that a double is finite and a natural number.
- Theorem `nearest_isWhole_or_infinite`: what a large quotient is rounded to.
- Theorem `scaled_large`: scaling a significand of nearly sixty-four bits by a power of ten leaves
  more than sixty-four bits.
-/

namespace SqlRelay

theorem twoTo_eq (exponent : Nat) : twoTo exponent = 2 ^ exponent := rfl

namespace Double

theorem num_ne_zero {num den k : Nat} (hden : 0 < den) (hlow : den * 2 ^ k ≤ num) : num ≠ 0 :=
  ((Nat.mul_pos hden (Nat.two_pow_pos k)).trans_le hlow).ne'

/-- The magnitude of a quotient is the exponent of the power of two below it. -/
theorem binaryMagnitude_eq {num den k : Nat} (hden : 0 < den) (hlow : den * 2 ^ k ≤ num)
    (hhigh : num < den * 2 ^ (k + 1)) : binaryMagnitude num den = k := by
  have hnum : num ≠ 0 := num_ne_zero hden hlow
  have hfew : den.log2 + k ≤ num.log2 := by
    rw [Nat.le_log2 hnum, Nat.pow_add]
    exact (Nat.mul_le_mul_right _ (Nat.log2_self_le hden.ne')).trans hlow
  have hmany : num.log2 < den.log2 + 1 + (k + 1) := by
    rw [Nat.log2_lt hnum, Nat.pow_add]
    exact hhigh.trans_le (Nat.mul_le_mul_right _ Nat.lt_log2_self.le)
  -- the difference of the lengths is the magnitude or one more
  obtain hsame | hmore : num.log2 = den.log2 + k ∨ num.log2 = den.log2 + (k + 1) := by omega
  · have hdiff : ((num.log2 : Nat) : Int) - den.log2 = (k : Nat) := by omega
    have hbelow : ¬ num < den * twoTo k := Nat.not_lt.2 hlow
    simp [binaryMagnitude, hdiff, hbelow]
  · have hdiff : ((num.log2 : Nat) : Int) - den.log2 = (k + 1 : Nat) := by omega
    have hbelow : num < den * twoTo (k + 1) := hhigh
    simp only [binaryMagnitude, hdiff, Int.natCast_nonneg, if_true, Int.toNat_natCast, hbelow]
    omega

/-- Every quotient that is at least one has a power of two below it. -/
theorem exists_magnitude {num den : Nat} (hden : 0 < den) (h : den ≤ num) :
    ∃ k, den * 2 ^ k ≤ num ∧ num < den * 2 ^ (k + 1) := by
  have hquotient : num / den ≠ 0 := (Nat.div_pos h hden).ne'
  refine ⟨(num / den).log2, ?_, ?_⟩
  · rw [Nat.mul_comm, ← Nat.le_div_iff_mul_le hden]
    exact Nat.log2_self_le hquotient
  · rw [Nat.mul_comm, ← Nat.div_lt_iff_lt_mul hden]
    exact Nat.lt_log2_self

/-- A whole lower bound of a quotient is one of its nearest number. -/
theorem le_divNearest {num den low : Nat} (hden : 0 < den) (h : low * den ≤ num) :
    low ≤ divNearest num den := by
  have hquotient : low ≤ num / den := (Nat.le_div_iff_mul_le hden).2 h
  unfold divNearest
  dsimp only
  split_ifs <;> omega

/-- A whole upper bound of a quotient is one of its nearest number. -/
theorem divNearest_le {num den high : Nat} (hden : 0 < den) (h : num < high * den) :
    divNearest num den ≤ high := by
  have hquotient : num / den < high := (Nat.div_lt_iff_lt_mul hden).2 h
  unfold divNearest
  dsimp only
  split_ifs <;> omega

/-! ## Whole doubles -/

/-- A finite double that is a natural number. -/
structure IsWhole (x : Double) (n : Nat) : Prop where
  finite : x.isFinite = true
  nonNegative : x.isNegative = false
  ratio : x.ratio = (n, 1)

/-- The fields of a double that is put together from them. -/
theorem fields_withSign {exponent fraction : Nat} (hexponent : exponent < 2047)
    (hfraction : fraction < 2 ^ 52) :
    (withSign false (exponent * 2 ^ 52 + fraction)).isNegative = false ∧
      (withSign false (exponent * 2 ^ 52 + fraction)).exponentField = exponent ∧
      (withSign false (exponent * 2 ^ 52 + fraction)).fractionField = fraction := by
  have hbits : (withSign false (exponent * 2 ^ 52 + fraction)).bits.toNat =
      exponent * 2 ^ 52 + fraction := by
    simp only [withSign, Bool.false_eq_true, if_false, UInt64.toNat_ofNat']
    omega
  simp only [isNegative, exponentField, fractionField, hbits, twoTo_eq, decide_eq_false_iff_not]
  omega

/-- A double with a step of at least one is whole. -/
theorem isWhole_withSign {exponent fraction : Nat} (hstep : 1075 ≤ exponent)
    (hexponent : exponent < 2047) (hfraction : fraction < 2 ^ 52) :
    IsWhole (withSign false (exponent * 2 ^ 52 + fraction))
      ((fraction + 2 ^ 52) * 2 ^ (exponent - 1075)) := by
  obtain ⟨hsign, hfield, hfractionField⟩ := fields_withSign hexponent hfraction
  refine ⟨?_, hsign, ?_⟩
  · simp only [isFinite, hfield, bne_iff_ne, ne_eq]
    omega
  · have hnormal : exponent ≠ 0 := by omega
    have hscale : 1074 ≤ exponent - 1 := by omega
    have hshift : exponent - 1 - 1074 = exponent - 1075 := by omega
    simp only [ratio, significand, scale, hfield, hfractionField, hnormal, hscale, if_true, if_false,
      hshift, twoTo_eq]

/-- A significand may be rounded up to the next power of two. -/
theorem isWhole_of_significand {k s : Nat} (hk : 52 ≤ k) (hlow : 2 ^ 52 ≤ s) (hhigh : s ≤ 2 ^ 53)
    (hfinite : (k + 1022) * 2 ^ 52 + s < 2047 * 2 ^ 52) :
    IsWhole (withSign false ((k + 1022) * 2 ^ 52 + s)) (s * 2 ^ (k - 52)) := by
  obtain hless | rfl := Nat.lt_or_eq_of_le hhigh
  · have hbits : (k + 1022) * 2 ^ 52 + s = (k + 1023) * 2 ^ 52 + (s - 2 ^ 52) := by omega
    have hvalue : s - 2 ^ 52 + 2 ^ 52 = s := by omega
    have hshift : k + 1023 - 1075 = k - 52 := by omega
    have hwhole : IsWhole (withSign false ((k + 1023) * 2 ^ 52 + (s - 2 ^ 52))) _ :=
      isWhole_withSign (by omega) (by omega) (by omega)
    rwa [hvalue, hshift, ← hbits] at hwhole
  · have hbits : (k + 1022) * 2 ^ 52 + 2 ^ 53 = (k + 1024) * 2 ^ 52 + 0 := by omega
    have hshift : k + 1024 - 1075 = k - 52 + 1 := by omega
    have hvalue : (0 + 2 ^ 52) * 2 ^ (k - 52 + 1) = 2 ^ 53 * 2 ^ (k - 52) := by ring
    have hwhole : IsWhole (withSign false ((k + 1024) * 2 ^ 52 + 0)) _ :=
      isWhole_withSign (by omega) (by omega) (by omega)
    rwa [hshift, hvalue, ← hbits] at hwhole

section Large

variable {num den k : Nat}

/-- The significand of a large quotient is at least the power of two that normal ones begin at. -/
theorem significand_bounds (hden : 0 < den) (hk : 52 ≤ k) (hlow : den * 2 ^ k ≤ num)
    (hhigh : num < den * 2 ^ (k + 1)) :
    2 ^ 52 ≤ divNearest num (den * 2 ^ (k - 52)) ∧
      divNearest num (den * 2 ^ (k - 52)) ≤ 2 ^ 53 := by
  have hstep : 0 < den * 2 ^ (k - 52) := Nat.mul_pos hden (Nat.two_pow_pos _)
  have hsplit : 2 ^ 52 * 2 ^ (k - 52) = 2 ^ k := pow_mul_pow_sub 2 hk
  constructor
  · apply le_divNearest hstep
    calc 2 ^ 52 * (den * 2 ^ (k - 52)) = den * 2 ^ k := by rw [← hsplit]; ring
      _ ≤ num := hlow
  · apply divNearest_le hstep
    calc num < den * 2 ^ (k + 1) := hhigh
      _ = 2 ^ 53 * (den * 2 ^ (k - 52)) := by rw [Nat.pow_succ, ← hsplit]; ring

/-- What a large quotient is rounded to, as bits. -/
theorem nearest_eq (hden : 0 < den) (hk : 52 ≤ k) (hlow : den * 2 ^ k ≤ num)
    (hhigh : num < den * 2 ^ (k + 1)) :
    nearest false num den =
      if 2047 * 2 ^ 52 ≤ (k + 1022) * 2 ^ 52 + divNearest num (den * 2 ^ (k - 52))
      then infinity false
      else withSign false ((k + 1022) * 2 ^ 52 + divNearest num (den * 2 ^ (k - 52))) := by
  have hnum : num ≠ 0 := num_ne_zero hden hlow
  have hmax : max ((k : Nat) : Int) (-1022) = k := by omega
  have hbias : ((k : Nat) + 1022 : Int).toNat = k + 1022 := by omega
  simp only [nearest, if_neg hnum, binaryMagnitude_eq hden hlow hhigh, hmax, hbias, twoTo_eq]
  obtain rfl | hmore := Nat.eq_or_lt_of_le hk
  · simp
  · have hshift : ¬ 0 ≤ 52 - ((k : Nat) : Int) := by omega
    have hback : (-(52 - ((k : Nat) : Int))).toNat = k - 52 := by omega
    rw [if_neg hshift, hback]

/-- A large quotient is rounded to the nearest number of steps, or to infinity. -/
theorem nearest_isWhole_or_infinite (hden : 0 < den) (hk : 52 ≤ k) (hlow : den * 2 ^ k ≤ num)
    (hhigh : num < den * 2 ^ (k + 1)) :
    IsWhole (nearest false num den) (divNearest num (den * 2 ^ (k - 52)) * 2 ^ (k - 52)) ∨
      nearest false num den = infinity false := by
  obtain ⟨hleast, hmost⟩ := significand_bounds hden hk hlow hhigh
  rw [nearest_eq hden hk hlow hhigh]
  split
  · exact .inr rfl
  · rename_i hfinite
    exact .inl (isWhole_of_significand hk hleast hmost (by omega))

/-- Up to the magnitude of the greatest double but one, it is not infinity. -/
theorem nearest_isWhole (hden : 0 < den) (hk : 52 ≤ k) (hk' : k ≤ 1022)
    (hlow : den * 2 ^ k ≤ num) (hhigh : num < den * 2 ^ (k + 1)) :
    IsWhole (nearest false num den) (divNearest num (den * 2 ^ (k - 52)) * 2 ^ (k - 52)) := by
  obtain ⟨hleast, hmost⟩ := significand_bounds hden hk hlow hhigh
  have hfinite : (k + 1022) * 2 ^ 52 + divNearest num (den * 2 ^ (k - 52)) < 2047 * 2 ^ 52 := by
    omega
  rw [nearest_eq hden hk hlow hhigh, if_neg (Nat.not_le.2 hfinite)]
  exact isWhole_of_significand hk hleast hmost hfinite

/-- The power of two below a large quotient is one below its nearest double. -/
theorem le_rounded (hden : 0 < den) (hk : 52 ≤ k) (hlow : den * 2 ^ k ≤ num)
    (hhigh : num < den * 2 ^ (k + 1)) :
    2 ^ k ≤ divNearest num (den * 2 ^ (k - 52)) * 2 ^ (k - 52) := by
  calc 2 ^ k = 2 ^ 52 * 2 ^ (k - 52) := (pow_mul_pow_sub 2 hk).symm
    _ ≤ _ := Nat.mul_le_mul_right _ (significand_bounds hden hk hlow hhigh).1

/-- A quotient beyond a large power of two stays beyond it. -/
theorem nearest_large (hden : 0 < den) (hk : 52 ≤ k) (hlow : den * 2 ^ k ≤ num) :
    (∃ n, IsWhole (nearest false num den) n ∧ 2 ^ k ≤ n) ∨
      nearest false num den = infinity false := by
  have hone : den ≤ num := (Nat.le_mul_of_pos_right den (Nat.two_pow_pos k)).trans hlow
  obtain ⟨j, hjlow, hjhigh⟩ := exists_magnitude hden hone
  have hkj : k ≤ j := by
    have hlt : 2 ^ k < 2 ^ (j + 1) := Nat.lt_of_mul_lt_mul_left (hlow.trans_lt hjhigh)
    exact Nat.le_of_lt_succ ((Nat.pow_lt_pow_iff_right (by decide)).1 hlt)
  refine (nearest_isWhole_or_infinite hden (hk.trans hkj) hjlow hjhigh).imp_left ?_
  intro hwhole
  refine ⟨_, hwhole, ?_⟩
  exact (Nat.pow_le_pow_right (by decide) hkj).trans
    (le_rounded hden (hk.trans hkj) hjlow hjhigh)

end Large

/-! ## Scaling -/

/-- A number of sixty-four bits that leaves no room for every further digit keeps more than a tenth
of what fits into sixty-four bits when it is rounded. -/
theorem ofNat_full {s : Nat} (hlow : (2 ^ 64 - 1) / 10 ≤ s) (hhigh : s < 2 ^ 64) :
    ∃ n, IsWhole (ofNat s) n ∧ 2 ^ 64 ≤ n * 10 := by
  obtain hfew | hmany := Nat.lt_or_ge s (2 ^ 61)
  · have hwhole : IsWhole (ofNat s) _ := nearest_isWhole (k := 60) Nat.one_pos (by decide) (by decide)
      (by omega) (by omega)
    refine ⟨_, hwhole, ?_⟩
    -- the least such number is rounded up, past the tenth
    have hnearest : 7205759403792794 ≤ divNearest s (1 * 2 ^ (60 - 52)) := by
      unfold divNearest
      dsimp only
      split_ifs <;> omega
    omega
  · obtain ⟨k, hklow, hkhigh⟩ := exists_magnitude Nat.one_pos (show 1 ≤ s by omega)
    have hk : 61 ≤ k := by
      have hlt : 2 ^ 61 < 2 ^ (k + 1) := by omega
      exact Nat.le_of_lt_succ ((Nat.pow_lt_pow_iff_right (by decide)).1 hlt)
    have hk' : k < 64 := by
      have hlt : 2 ^ k < 2 ^ 64 := by omega
      exact (Nat.pow_lt_pow_iff_right (by decide)).1 hlt
    refine ⟨_, nearest_isWhole Nat.one_pos (by omega) (by omega) hklow hkhigh, ?_⟩
    have hrounded := le_rounded Nat.one_pos (by omega) hklow hkhigh
    have hpower : 2 ^ 61 ≤ 2 ^ k := Nat.pow_le_pow_right (by decide) hk
    omega

/-- The double of a power of ten is at least ten, and positive below. -/
theorem powerOfTen_ratio {e : Nat} (he : 1 ≤ e) :
    0 < (powerOfTen e).ratio.2 ∧ 10 * (powerOfTen e).ratio.2 ≤ (powerOfTen e).ratio.1 := by
  obtain hsmall | hlarge := Nat.lt_or_ge e 16
  · have hall : ∀ e < 16, 1 ≤ e → 0 < (powerOfTen e).ratio.2 ∧
        10 * (powerOfTen e).ratio.2 ≤ (powerOfTen e).ratio.1 := by
      decide +kernel
    exact hall e hsmall he
  · have hpower : 1 * 2 ^ 52 ≤ tenTo e := by
      calc 1 * 2 ^ 52 ≤ 10 ^ 16 := by decide
        _ ≤ tenTo e := Nat.pow_le_pow_right (by decide) hlarge
    obtain ⟨n, hwhole, hn⟩ | hinfinite := nearest_large Nat.one_pos (le_refl 52) hpower
    · have hratio : (powerOfTen e).ratio = (n, 1) := hwhole.ratio
      rw [hratio]
      dsimp only
      omega
    · have hsame : powerOfTen e = infinity false := hinfinite
      rw [hsame]
      decide +kernel

/-- A whole number that is not zero is no zero among the doubles. -/
theorem IsWhole.not_zero {x : Double} {n : Nat} (h : IsWhole x n) (hn : n ≠ 0) :
    x.isZero = false := by
  rw [Bool.eq_false_iff]
  intro hzero
  obtain ⟨hexponent, hfraction⟩ : x.exponentField = 0 ∧ x.fractionField = 0 := by
    simpa [isZero] using hzero
  have hratio : x.ratio = (0, twoTo 1074) := by
    simp [Double.ratio, significand, scale, hexponent, hfraction]
  exact hn (congrArg Prod.fst (h.ratio.symm.trans hratio))

/-- A full significand that is scaled by a power of ten leaves more than sixty-four bits, if it
leaves a number at all. -/
theorem scaled_large {s e : Nat} (hlow : (2 ^ 64 - 1) / 10 ≤ s) (hhigh : s < 2 ^ 64) (he : 1 ≤ e)
    {x : Double} (h : scaled (ofNat s) (e : Int) = some x) : ∃ n, IsWhole x n ∧ 2 ^ 64 ≤ n := by
  obtain ⟨n, hwhole, hn⟩ := ofNat_full hlow hhigh
  rw [scaled, Int.natAbs_natCast, if_pos (Int.natCast_nonneg e)] at h
  split at h
  · obtain ⟨hden, hten⟩ := powerOfTen_ratio he
    dsimp only at h
    split at h
    · rename_i hfinite
      rw [Option.some.injEq] at h
      subst h
      have hlarge : 1 * (powerOfTen e).ratio.2 * 2 ^ 64 ≤ n * (powerOfTen e).ratio.1 := by
        calc 1 * (powerOfTen e).ratio.2 * 2 ^ 64 ≤ (powerOfTen e).ratio.2 * (n * 10) := by
              rw [Nat.one_mul]
              exact Nat.mul_le_mul_left _ hn
          _ = n * (10 * (powerOfTen e).ratio.2) := by ring
          _ ≤ n * (powerOfTen e).ratio.1 := Nat.mul_le_mul_left _ hten
      have hproduct := nearest_large (by omega) (by decide) hlarge
      unfold times at hfinite ⊢
      rw [hwhole.ratio] at hfinite ⊢
      refine hproduct.resolve_right ?_
      intro hinfinite
      rw [hinfinite] at hfinite
      exact absurd hfinite (by decide)
    · exact absurd h (by simp)
  · have hnot : ¬ (ofNat s).isZero = true := by
      rw [hwhole.not_zero (by omega)]
      decide
    rw [if_neg hnot, if_pos (Int.natCast_nonneg e)] at h
    exact absurd h (by simp)

end Double
end SqlRelay
