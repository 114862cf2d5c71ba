import SqlRelay.Parameter
import SqlRelay.Proofs.Json.Integers
import SqlRelay.Proofs.Text.Trim
/-!
# Counts of query and body

A count in the query is decimal text and is read exactly, or refused if it does not fit into
sixty-four bits.  A count in the body is a number: up to sixty-three bits it is an integer, and
beyond that a double, which has been rounded to a multiple of 2048 and is capped instead of refused.

Main results:

- Theorem `Parameter.count_ofQuery`: a count in the query is exact or refused.
- Definition `Parameter.roundedCount`: what is left of a count in the body.
- Theorem `Parameter.count_ofJson`: a count in the body is this, unless its double is infinite.
- Theorem `Parameter.roundedCount_eq_iff`: the counts that are left as they are.
-/

namespace SqlRelay

/-- The values that a natural number in a body may be: the number itself, or what is read from its
digits. -/
inductive Json.Writes (n : Nat) : Json → Prop
  | itself : Writes n (.int n)
  | read {v : Json} (h : ofText? (toString n) = some v) : Writes n v

namespace Parameter

theorem toList_toString (n : Nat) : (toString n).toList = Nat.toDigits 10 n := by
  rw [Nat.toString_eq_repr, Nat.toList_repr]

theorem trim_toDigits (n : Nat) : Text.trim (Nat.toDigits 10 n) = Nat.toDigits 10 n := by
  have hdigit : Json.decimalDigits.all (fun c => !Text.isBlank c) = true := by decide
  have hnone : ∀ {blanks : List Char}, Text.AllBlank blanks → blanks ⊆ Nat.toDigits 10 n →
      blanks = [] := by
    intro blanks hblanks hpart
    rw [List.eq_nil_iff_forall_not_mem]
    intro c hc
    have hmem := Json.mem_decimalDigits (Json.isDigit_of_mem_toDigits c (hpart hc))
    have hnot := List.all_eq_true.1 hdigit c hmem
    rw [hblanks c hc] at hnot
    exact absurd hnot (by decide)
  obtain ⟨before, after, hbefore, hafter, hsplit⟩ := Text.trim_split (Nat.toDigits 10 n)
  have hempty : before = [] := hnone hbefore (by rw [hsplit, List.append_assoc]; simp)
  have hempty' : after = [] := hnone hafter (by rw [hsplit]; simp)
  rw [hempty, hempty', List.nil_append, List.append_nil] at hsplit
  exact hsplit.symm

/-- A number is written in decimal digits. -/
theorem isDecimal_toDigits (n : Nat) : isDecimal (Nat.toDigits 10 n) = true := by
  simpa [isDecimal] using fun c hc => Json.isDigit_of_mem_toDigits c hc

/-- A number of sixty-four bits is read back from its digits, and no greater one is. -/
theorem naturalOfText?_toDigits (n : Nat) :
    naturalOfText? (Nat.toDigits 10 n) = if n < 2 ^ 64 then some n else none := by
  have hdecimal := isDecimal_toDigits n
  have hvalue := Json.digitsValue_toDigits n
  unfold naturalOfText?
  split
  · rename_i rest hplus
    have hsign := Json.isDigit_of_mem_toDigits '+' (hplus ▸ List.mem_cons_self)
    exact absurd hsign (by decide)
  · have hlimit : n ≤ twoTo 64 - 1 ↔ n < 2 ^ 64 := by
      rw [twoTo_eq]
      omega
    simp only [decimal?, hdecimal, hvalue, Bool.true_and, decide_eq_true_eq, hlimit]

/-- A count in the query is read exactly, or refused if it does not fit into sixty-four bits. -/
theorem count_ofQuery (n : Nat) :
    (ofQuery (toString n)).count = if n < 2 ^ 64 then .given n else .invalid := by
  have htext : ofQuery (toString n) = .text (toString n) := by
    rw [ofQuery, if_neg]
    intro hnull
    have hletter : 'N' ∈ Nat.toDigits 10 n := by
      rw [← toList_toString, hnull]
      decide
    exact absurd (Json.isDigit_of_mem_toDigits 'N' hletter) (by decide)
  rw [htext]
  simp only [count, toList_toString, trim_toDigits]
  split
  · rename_i hempty
    exact absurd hempty Nat.toDigits_ne_nil
  · rw [naturalOfText?_toDigits]
    by_cases hfits : n < 2 ^ 64
    · rw [if_pos hfits, if_pos hfits]
    · rw [if_neg hfits, if_neg hfits]

/-! ## Counts in the body -/

/-- A whole double is the count of its value, capped at the greatest number of sixty-four bits. -/
theorem count_of_isWhole {x : Double} {m : Nat} (h : x.IsWhole m) :
    (Parameter.float x).count = .given (min m (2 ^ 64 - 1)) := by
  have hfinite : x.exponentField ≠ 2047 := by
    simpa [Double.isFinite] using h.finite
  simp [count, Double.isIntegral, Double.isNonNegative, Double.isNaN, Double.toCount, h.finite,
    h.nonNegative, h.ratio, hfinite, twoTo_eq, Nat.mod_one]

/-- What is left of a count in the body. -/
def roundedCount (n : Nat) : Nat :=
  if n < 2 ^ 63 then n else min (Double.divNearest n 2048 * 2048) (2 ^ 64 - 1)

/-- A count beyond sixty-four bits is capped. -/
theorem roundedCount_of_le {n : Nat} (h : 2 ^ 64 ≤ n) : roundedCount n = 2 ^ 64 - 1 := by
  have hsteps : 2 ^ 53 ≤ Double.divNearest n 2048 := Double.le_divNearest (by decide) (by omega)
  rw [roundedCount, if_neg (by omega)]
  omega

/-- The counts that are left as they are: up to sixty-three bits all, and up to sixty-four bits the
multiples of 2048 and the greatest. -/
theorem roundedCount_eq_iff {n : Nat} (h : n < 2 ^ 64) :
    roundedCount n = n ↔ n < 2 ^ 63 ∨ 2048 ∣ n ∨ n = 2 ^ 64 - 1 := by
  unfold roundedCount Double.divNearest
  dsimp only
  split_ifs <;> omega

/-- The integers of sixty-four bits end below two to the sixty-third. -/
theorem isInteger64_iff (n : Nat) : isInteger64 n = true ↔ n < 2 ^ 63 := by
  have hlimit : ((twoTo 63 : Nat) : Int) = 2 ^ 63 := by simp [twoTo_eq]
  simp only [isInteger64, hlimit, Bool.and_eq_true, decide_eq_true_eq]
  omega

/-- The integer of a count in the body, or its double: a whole number that was rounded, or
infinity. -/
theorem ofJson_int (n : Nat) :
    (n < 2 ^ 63 ∧ ofJson (.int n) = .int n) ∨
    (2 ^ 63 ≤ n ∧ n < 2 ^ 64 ∧ ∃ x, ofJson (.int n) = .float x ∧
      x.IsWhole (Double.divNearest n 2048 * 2048)) ∨
    (2 ^ 64 ≤ n ∧ ∃ x, ofJson (.int n) = .float x ∧
      ((∃ m, x.IsWhole m ∧ 2 ^ 64 ≤ m) ∨ x = Double.infinity false)) := by
  by_cases hsmall : n < 2 ^ 63
  · exact .inl ⟨hsmall, by rw [ofJson, if_pos ((isInteger64_iff n).2 hsmall)]⟩
  · have hdouble : ofJson (.int n) = .float (Double.nearest false n 1) := by
      have hsign : ¬ (n : Int) < 0 := by omega
      rw [ofJson, if_neg (mt (isInteger64_iff n).1 hsmall)]
      simp [Double.ofInt, hsign]
    right
    by_cases hmiddle : n < 2 ^ 64
    · refine .inl ⟨by omega, hmiddle, _, hdouble, ?_⟩
      exact Double.nearest_isWhole (k := 63) Nat.one_pos (by decide) (by decide) (by omega)
        (by omega)
    · refine .inr ⟨by omega, _, hdouble, ?_⟩
      exact Double.nearest_large (k := 64) Nat.one_pos (by decide) (by omega)

/-- A count in the body is what is left of the number, unless its double is infinite. -/
theorem count_ofJson {n : Nat} {v : Json} (h : Json.Writes n v) :
    (ofJson v).count = .given (roundedCount n) ∨
      2 ^ 64 ≤ n ∧ ofJson v = .float (Double.infinity false) ∧ (ofJson v).count = .invalid := by
  have hcapped : ∀ {x m}, 2 ^ 64 ≤ n → Double.IsWhole x m → 2 ^ 64 ≤ m →
      (Parameter.float x).count = .given (roundedCount n) := by
    intro x m hn hwhole hm
    rw [count_of_isWhole hwhole, roundedCount_of_le hn, Nat.min_eq_right (by omega)]
  have hitself : (ofJson (.int n)).count = .given (roundedCount n) ∨ 2 ^ 64 ≤ n ∧
      ofJson (.int n) = .float (Double.infinity false) ∧ (ofJson (.int n)).count = .invalid := by
    obtain ⟨hsmall, hint⟩ | ⟨hlow, hhigh, x, hfloat, hwhole⟩ | ⟨hn, x, hfloat, hlarge⟩ := ofJson_int n
    · rw [hint, roundedCount, if_pos hsmall]
      simp [count]
    · rw [hfloat, count_of_isWhole hwhole, roundedCount, if_neg (by omega)]
      exact .inl rfl
    · obtain ⟨m, hwhole, hm⟩ | rfl := hlarge
      · rw [hfloat]
        exact .inl (hcapped hn hwhole hm)
      · refine .inr ⟨hn, hfloat, ?_⟩
        rw [hfloat]
        decide
  cases h with
  | itself => exact hitself
  | read hread =>
    by_cases hword : n < 2 ^ 64
    · obtain rfl : v = .int n := Option.some.inj (hread.symm.trans (Json.ofText?_toString_of_lt hword))
      exact hitself
    · obtain ⟨x, m, rfl, hwhole, hm⟩ := Json.ofText?_toString_of_le (Nat.not_lt.1 hword) hread
      exact .inl (hcapped (Nat.not_lt.1 hword) hwhole hm)

end Parameter
end SqlRelay
