import SqlRelay.Sampling
import SqlRelay.Proofs.Double.Notation
/-!
# Rates are probabilities

A rate is one of the numbers from zero to one.  A number beyond them is brought back to the nearer
bound, and a text that is no number leaves the full rate, both with a warning.  What says that it is
no number is beyond both bounds and near to neither, and it stays what it is.

Main results:

- Definition `Sampling.Proper` is how the variable is meant to be read.
- Theorem `Sampling.ofText_proper_iff`: it is read so unless it says that it is no number, and the
  rate is a probability in the same cases.
-/

namespace SqlRelay.Sampling

/-- The numbers from zero to one. -/
def IsProbability (x : Double) : Prop :=
  (Double.zero false).AtMost x ∧ x.AtMost Double.one

/-- The test for rates accepts the probabilities. -/
theorem isRate_iff (x : Double) : isRate x = true ↔ IsProbability x := by
  rw [isRate, Bool.and_eq_true, Double.isNonNegative_iff, Double.atMostOne_iff, IsProbability]

theorem IsProbability.zero : IsProbability (Double.zero false) :=
  (isRate_iff _).1 (by decide)

theorem IsProbability.one : IsProbability Double.one :=
  (isRate_iff _).1 (by decide)

/-- A number beyond the bounds lies below zero if it has a sign, and above one otherwise. -/
theorem clamped_spec {x : Double} (hrange : ¬ IsProbability x) (hnumber : x.isNaN = false) :
    (x.Less (Double.zero false) ∧ clamped x = Double.zero false) ∨
      (Double.one.Less x ∧ clamped x = Double.one) := by
  cases hsign : x.isNegative with
  | true =>
    have hone : x.AtMost Double.one := (Double.atMostOne_iff x).1 (by simp [Double.atMostOne, *])
    have hzero : ¬ (Double.zero false).AtMost x := fun hzero => hrange ⟨hzero, hone⟩
    exact .inl ⟨(Double.less_iff_not_atMost hnumber (by decide)).2 hzero, by simp [clamped, *]⟩
  | false =>
    have hzero : (Double.zero false).AtMost x :=
      (Double.isNonNegative_iff x).1 (by simp [Double.isNonNegative, *])
    have hone : ¬ x.AtMost Double.one := fun hone => hrange ⟨hzero, hone⟩
    exact .inr ⟨(Double.less_iff_not_atMost (by decide) hnumber).2 hone, by simp [clamped, *]⟩

/-! ## Readings -/

/-- How the variable is meant to be read. -/
inductive Proper : Option String → Sampling → Prop
  | unset : Proper none ⟨.one, none⟩
  | empty {text : String} (blank : Text.trim text.toList = []) :
      Proper (some text) ⟨.one, some .empty⟩
  | unread {text : String} (written : Text.trim text.toList ≠ [])
      (unread : ∀ x, ¬ Double.Notation (Text.trim text.toList) x) :
      Proper (some text) ⟨.one, some (.noNumber (Text.trimmed text))⟩
  | within {text : String} {x : Double} (number : Double.Notation (Text.trim text.toList) x)
      (range : IsProbability x) : Proper (some text) ⟨x, none⟩
  | below {text : String} {x : Double} (number : Double.Notation (Text.trim text.toList) x)
      (range : x.Less (Double.zero false)) :
      Proper (some text) ⟨.zero false, some (.beyond (Text.trimmed text) (.zero false))⟩
  | above {text : String} {x : Double} (number : Double.Notation (Text.trim text.toList) x)
      (range : Double.one.Less x) :
      Proper (some text) ⟨.one, some (.beyond (Text.trimmed text) .one)⟩

/-- The rate of a proper reading is a probability. -/
theorem Proper.isProbability {raw : Option String} {sampling : Sampling}
    (h : Proper raw sampling) : IsProbability sampling.rate := by
  cases h with
  | unset => exact .one
  | empty => exact .one
  | unread => exact .one
  | within _ range => exact range
  | below => exact .zero
  | above => exact .one

/-- The variable says that it is no number. -/
def SaysNaN (raw : Option String) : Prop :=
  ∃ text, raw = some text ∧ Double.WritesNaN (Text.trim text.toList)

/-- The variable is left out or says a rate. -/
def SaysRate (raw : Option String) : Prop :=
  raw = none ∨ ∃ text x, raw = some text ∧ Double.Notation (Text.trim text.toList) x ∧
    IsProbability x

/-- A text says a rate if it writes a probability between its blanks. -/
theorem saysRate_some {text : String} :
    SaysRate (some text) ↔
      ∃ x, Double.Notation (Text.trim text.toList) x ∧ IsProbability x := by
  simp [SaysRate]

/-- A text that writes no probability says no rate. -/
theorem not_saysRate {text : String}
    (h : ∀ x, Double.Notation (Text.trim text.toList) x → ¬ IsProbability x) :
    ¬ SaysRate (some text) := by
  rw [saysRate_some]
  rintro ⟨x, number, range⟩
  exact h x number range

/-- A blank text gives the standard rate, with a warning. -/
theorem ofText_blank {text : String} (h : Text.trim text.toList = []) :
    ofText (some text) = ⟨.one, some .empty⟩ := by
  simp [ofText, h]

/-- A text that writes no number gives the standard rate, with a warning. -/
theorem ofText_unread {text : String} (written : Text.trim text.toList ≠ [])
    (unread : Double.ofText? (Text.trim text.toList) = none) :
    ofText (some text) = ⟨.one, some (.noNumber (Text.trimmed text))⟩ := by
  simp [ofText, written, unread, Text.trimmed]

/-- A text that writes a number gives it if it is a rate, and otherwise the clamped number with a
warning. -/
theorem ofText_number {text : String} {x : Double}
    (number : Double.Notation (Text.trim text.toList) x) :
    ofText (some text) =
      if isRate x then ⟨x, none⟩
      else ⟨clamped x, some (.beyond (Text.trimmed text) (clamped x))⟩ := by
  have hread := Double.ofText?_iff.2 number
  simp [ofText, number.ne_nil, hread, Text.trimmed]

/-- A number is the rate itself, or is brought back to the bound that it is beyond. -/
theorem proper_of_number {text : String} {x : Double}
    (number : Double.Notation (Text.trim text.toList) x) (hnumber : x.isNaN = false) :
    Proper (some text) (ofText (some text)) := by
  rw [ofText_number number]
  by_cases hrange : IsProbability x
  · rw [if_pos ((isRate_iff x).2 hrange)]
    exact .within number hrange
  · rw [if_neg (mt (isRate_iff x).1 hrange)]
    obtain ⟨hbelow, hclamped⟩ | ⟨habove, hclamped⟩ := clamped_spec hrange hnumber
    · rw [hclamped]
      exact .below number hbelow
    · rw [hclamped]
      exact .above number habove

/-- Every text that writes no NaN is read properly. -/
theorem ofText_proper {raw : Option String} (h : ¬ SaysNaN raw) : Proper raw (ofText raw) := by
  cases raw with
  | none => exact .unset
  | some text =>
    by_cases hblank : Text.trim text.toList = []
    · rw [ofText_blank hblank]
      exact .empty hblank
    · cases hread : Double.ofText? (Text.trim text.toList) with
      | none =>
        rw [ofText_unread hblank hread]
        refine .unread hblank fun x hx => ?_
        rw [Double.ofText?_iff.2 hx] at hread
        exact absurd hread (by simp)
      | some x =>
        have number := Double.ofText?_iff.1 hread
        refine proper_of_number number ?_
        rw [Bool.eq_false_iff, ne_eq, number.isNaN_iff]
        exact fun hnan => h ⟨text, rfl, hnan⟩

/-- What says that it is no number gets a warning and stays what it is. -/
theorem ofText_of_saysNaN {raw : Option String} (h : SaysNaN raw) :
    (ofText raw).warning ≠ none ∧ ¬ IsProbability (ofText raw).rate ∧ ¬ SaysRate raw := by
  obtain ⟨text, rfl, hnan⟩ := h
  obtain ⟨x, hnumber, hx⟩ := hnan.exists_notation
  have hrange {y : Double} (hy : y.isNaN = true) : ¬ IsProbability y :=
    fun hy' => by simp [hy'.2.number.1] at hy
  have hclamped : clamped x = x := by simp [clamped, hx]
  rw [ofText_number hnumber, if_neg (mt (isRate_iff x).1 (hrange hx)), hclamped]
  exact ⟨by simp, hrange hx, not_saysRate fun y hy => hrange (hy.isNaN_iff.2 hnan)⟩

/-- A proper reading comes without a warning exactly if there is nothing to warn of. -/
theorem Proper.warning_eq_none_iff {raw : Option String} {sampling : Sampling}
    (h : Proper raw sampling) : sampling.warning = none ↔ SaysRate raw := by
  cases h with
  | unset => exact iff_of_true rfl (.inl rfl)
  | within number range => exact iff_of_true rfl (saysRate_some.2 ⟨_, number, range⟩)
  | empty blank =>
    exact iff_of_false (by simp) (not_saysRate fun x number _ => number.ne_nil blank)
  | unread _ unread =>
    exact iff_of_false (by simp) (not_saysRate fun x number _ => unread x number)
  | below number less =>
    refine iff_of_false (by simp) (not_saysRate fun x hx range => ?_)
    rw [number.unique hx] at less
    exact less.not_atMost range.1
  | above number less =>
    refine iff_of_false (by simp) (not_saysRate fun x hx range => ?_)
    rw [number.unique hx] at less
    exact less.not_atMost range.2

/-- The variable is read as it is meant to be unless it says that it is no number; in the same cases
the rate is a probability.  There is no warning exactly if it is left out or says a rate. -/
theorem ofText_proper_iff (raw : Option String) :
    (Proper raw (ofText raw) ↔ ¬ SaysNaN raw) ∧
      (IsProbability (ofText raw).rate ↔ ¬ SaysNaN raw) ∧
      ((ofText raw).warning = none ↔ SaysRate raw) := by
  by_cases hnan : SaysNaN raw
  · obtain ⟨hwarning, hrate, hsays⟩ := ofText_of_saysNaN hnan
    exact ⟨iff_of_false (fun h => hrate h.isProbability) (not_not.2 hnan),
      iff_of_false hrate (not_not.2 hnan), iff_of_false hwarning hsays⟩
  · have hproper := ofText_proper hnan
    exact ⟨iff_of_true hproper hnan, iff_of_true hproper.isProbability hnan,
      hproper.warning_eq_none_iff⟩

/-- The word for no number is taken as a rate, and it is no probability. -/
theorem nan_is_no_probability : ¬ IsProbability (ofText (some "nan")).rate :=
  (ofText_of_saysNaN ⟨"nan", rfl, .word .without rfl⟩).2.1

end SqlRelay.Sampling
