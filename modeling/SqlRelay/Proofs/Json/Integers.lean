import Mathlib.Data.List.Basic
import Mathlib.Data.List.TakeWhile
import Mathlib.Tactic.IntervalCases
import SqlRelay.Json.Reader
import SqlRelay.Proofs.Double.Rounding
/-!
# Integers of documents

A natural number that is written in decimal digits is read as itself as long as it fits into
sixty-four bits.  A longer one is the double of its leading digits, scaled by a power of ten, and
that is beyond sixty-four bits as well; or it is beyond all doubles, and the document is refused.

Main results:

- Theorem `ofText?_toString`: the digits of a number are read as one number.
- Theorem `foldl_wholeDigit`: what the leading digits are after all digits.
- Theorem `ofText?_toString_of_lt`: a number of sixty-four bits is read as itself.
- Theorem `ofText?_toString_of_le`: a longer one is read as a whole double beyond sixty-four bits.
-/

namespace SqlRelay.Json

/-- The decimal digits. -/
def decimalDigits : List Char :=
  ['0', '1', '2', '3', '4', '5', '6', '7', '8', '9']

theorem mem_decimalDigits {c : Char} (h : c.isDigit = true) : c ∈ decimalDigits := by
  obtain ⟨hlow, hhigh⟩ : 48 ≤ c.toNat ∧ c.toNat ≤ 57 := by
    simpa [Char.isDigit, UInt32.le_iff_toNat_le] using h
  rw [← Char.ofNat_toNat c]
  generalize c.toNat = code at hlow hhigh
  interval_cases code <;> decide

/-- A digit goes on with a word. -/
theorem foldlM_advance_digit {c : Char} (h : c.isDigit = true) (back : List Char) :
    (String.utf8EncodeChar c).foldlM advance (.word back, []) = some (.word (c :: back), []) := by
  have hall : ∀ c ∈ decimalDigits,
      (String.utf8EncodeChar c).foldlM advance (.word back, []) = some (.word (c :: back), []) := by
    simp only [decimalDigits, List.forall_mem_cons]
    exact ⟨rfl, rfl, rfl, rfl, rfl, rfl, rfl, rfl, rfl, rfl, by simp⟩
  exact hall c (mem_decimalDigits h)

/-- A digit begins a word. -/
theorem foldlM_advance_first {c : Char} (h : c.isDigit = true) :
    (String.utf8EncodeChar c).foldlM advance (.between, []) = some (.word [c], []) := by
  have hall : ∀ c ∈ decimalDigits,
      (String.utf8EncodeChar c).foldlM advance (.between, []) = some (.word [c], []) := by
    simp only [decimalDigits, List.forall_mem_cons]
    exact ⟨rfl, rfl, rfl, rfl, rfl, rfl, rfl, rfl, rfl, rfl, by simp⟩
  exact hall c (mem_decimalDigits h)

/-- A word goes on with digits. -/
theorem foldlM_advance_digits {digits : List Char} (h : ∀ c ∈ digits, c.isDigit = true)
    (back : List Char) :
    (digits.flatMap String.utf8EncodeChar).foldlM advance (.word back, []) =
      some (.word (digits.reverse ++ back), []) := by
  induction digits generalizing back with
  | nil => rfl
  | cons c digits ih =>
    rw [List.flatMap_cons, List.foldlM_append, foldlM_advance_digit (h c List.mem_cons_self)]
    have hrest := ih (fun d hd => h d (List.mem_cons_of_mem _ hd)) (c :: back)
    simpa using hrest

/-! ## Numbers as text -/

/-- A natural number as it is written. -/
def NumberText.ofNat (n : Nat) : NumberText :=
  ⟨false, Nat.toDigits 10 n, none, none⟩

theorem isDigit_of_mem_toDigits {n : Nat} : ∀ c ∈ Nat.toDigits 10 n, c.isDigit = true :=
  fun _ h => Nat.isDigit_of_mem_toDigits (by decide) (by decide) h

/-- Only zero is written with a zero in front. -/
theorem head?_toDigits {n : Nat} (hn : n ≠ 0) : (Nat.toDigits 10 n).head? ≠ some '0' := by
  induction n using Nat.strongRecOn with
  | ind n ih =>
    rw [Nat.toDigits_eq_if (by decide)]
    split
    · rename_i hdigit
      interval_cases n <;> first | exact absurd rfl hn | decide
    · rename_i hmore
      rw [List.head?_append_of_ne_nil _ Nat.toDigits_ne_nil]
      exact ih (n / 10) (by omega) (by omega)

/-- The digits of a number are a whole number. -/
theorem isWhole_toDigits (n : Nat) : isWhole (Nat.toDigits 10 n) = true := by
  by_cases hn : n = 0
  · subst hn
    decide
  · have hhead := head?_toDigits hn
    have hall : (Nat.toDigits 10 n).all Char.isDigit = true :=
      List.all_eq_true.2 isDigit_of_mem_toDigits
    cases hdigits : Nat.toDigits 10 n with
    | nil => exact absurd hdigits Nat.toDigits_ne_nil
    | cons c digits =>
      rw [hdigits] at hhead hall
      have hc : c ≠ '0' := by simpa using hhead
      unfold isWhole
      split
      · rename_i hempty
        exact absurd hempty (by simp)
      · rfl
      · rename_i c' digits' _ hsame
        obtain ⟨rfl, rfl⟩ := List.cons.inj hsame
        simp [hc, hall]

/-- The digits of a number are read as the number. -/
theorem number?_toDigits (n : Nat) : number? (Nat.toDigits 10 n) = some (.ofNat n) := by
  have hwhole := isWhole_toDigits n
  have hdigits : ∀ c ∈ Nat.toDigits 10 n, c.isDigit = true := isDigit_of_mem_toDigits
  unfold NumberText.ofNat
  generalize Nat.toDigits 10 n = digits at hwhole hdigits
  have hunsigned : ∀ rest, digits ≠ '-' :: rest := by
    rintro rest rfl
    exact absurd (hdigits '-' List.mem_cons_self) (by decide)
  have hmark : ∀ c ∈ digits, (!(c == 'e' || c == 'E')) = true := by
    intro c hc
    have hc' := hdigits c hc
    rcases eq_or_ne c 'e' with rfl | hlower
    · exact absurd hc' (by decide)
    · rcases eq_or_ne c 'E' with rfl | hupper
      · exact absurd hc' (by decide)
      · simp [hlower, hupper]
  have hpoint : ∀ c ∈ digits, (c != '.') = true := by
    intro c hc
    rcases eq_or_ne c '.' with rfl | hother
    · exact absurd (hdigits '.' hc) (by decide)
    · simpa using hother
  simp only [number?, List.takeWhile_eq_self_iff.2 hmark, List.dropWhile_eq_nil_iff.2 hmark,
    List.takeWhile_eq_self_iff.2 hpoint, List.dropWhile_eq_nil_iff.2 hpoint, hwhole]

theorem word?_toDigits (n : Nat) : word? (Nat.toDigits 10 n) = some (.number (.ofNat n)) := by
  have hword : ∀ c word, c.isDigit = false → Nat.toDigits 10 n ≠ c :: word := by
    intro c word hc hsame
    have hdigit := isDigit_of_mem_toDigits c (hsame ▸ List.mem_cons_self)
    exact absurd hdigit (by simp [hc])
  rw [word?, if_neg (hword 'n' _ rfl), if_neg (hword 't' _ rfl), if_neg (hword 'f' _ rfl),
    number?_toDigits]
  rfl

/-- The digits of a number are read as one number. -/
theorem ofText?_toString (n : Nat) : ofText? (toString n) = (NumberText.ofNat n).value? := by
  have hmarks : marks? (Utf8.encode (toString n)) = some [.number (.ofNat n)] := by
    rw [Utf8.encode, Nat.toString_eq_repr, Nat.toList_repr, marks?]
    have hdigits : ∀ c ∈ Nat.toDigits 10 n, c.isDigit = true := isDigit_of_mem_toDigits
    have hword := word?_toDigits n
    cases hall : Nat.toDigits 10 n with
    | nil => exact absurd hall Nat.toDigits_ne_nil
    | cons c digits =>
      rw [hall] at hdigits hword
      have hrest := foldlM_advance_digits (fun d hd => hdigits d (List.mem_cons_of_mem _ hd)) [c]
      rw [List.flatMap_cons, List.foldlM_append,
        foldlM_advance_first (hdigits c List.mem_cons_self)]
      simp only [Option.bind_eq_bind, Option.bind_some, hrest]
      rw [List.reverse_append, List.reverse_reverse, List.reverse_singleton, List.singleton_append,
        hword]
      rfl
  rw [ofText?, ofBytes?, Tree.ofBytes?, hmarks]
  simp only [Option.bind_some, Tree.ofMarks?, Growth.start, Growth.step, Growth.beginValue,
    Growth.deliver, List.foldlM_cons, List.foldlM_nil, Option.bind_eq_bind, Option.pure_def,
    ofTree?]

/-- Once no digit fits any more, each one only counts. -/
theorem foldl_wholeDigit_full (digits : List Char) (significand : Nat) (exponent : Int) :
    digits.foldl Leading.wholeDigit ⟨significand, exponent, true⟩ =
      ⟨significand, exponent + digits.length, true⟩ := by
  induction digits generalizing exponent with
  | nil => simp
  | cons c digits ih =>
    rw [List.foldl_cons, Leading.wholeDigit, Bool.true_or, if_pos rfl, ih, List.length_cons]
    simp only [Leading.mk.injEq, and_true, true_and]
    omega

/-- Either all digits fit into sixty-four bits, or the significand has no room for every further
digit and the digits from some on are scaled for. -/
theorem foldl_wholeDigit {digits : List Char} (h : ∀ c ∈ digits, c.isDigit = true)
    {significand : Nat} (hfits : significand ≤ greatestWord) :
    (digitsValue significand digits ≤ greatestWord ∧
      digits.foldl Leading.wholeDigit ⟨significand, 0, false⟩ =
        ⟨digitsValue significand digits, 0, false⟩) ∨
    ∃ s e : Nat, digits.foldl Leading.wholeDigit ⟨significand, 0, false⟩ = ⟨s, e, true⟩ ∧
      greatestWord / 10 ≤ s ∧ s ≤ greatestWord ∧ 1 ≤ e := by
  induction digits generalizing significand with
  | nil => exact .inl ⟨hfits, rfl⟩
  | cons c digits ih =>
    have hc : c.toNat - '0'.toNat ≤ 9 := by
      obtain ⟨-, hhigh⟩ : 48 ≤ c.toNat ∧ c.toNat ≤ 57 := by
        simpa [Char.isDigit, UInt32.le_iff_toNat_le] using h c List.mem_cons_self
      have hzero : '0'.toNat = 48 := rfl
      omega
    rw [List.foldl_cons, Leading.wholeDigit, Bool.false_or]
    by_cases hnext : significand * 10 + (c.toNat - '0'.toNat) ≤ greatestWord
    · rw [if_neg (by simpa using hnext)]
      exact ih (fun d hd => h d (List.mem_cons_of_mem _ hd)) hnext
    · rw [if_pos (by simpa using hnext), foldl_wholeDigit_full]
      refine .inr ⟨significand, digits.length + 1, ?_, ?_, hfits, by omega⟩
      · simp only [Leading.mk.injEq, and_true, true_and]
        omega
      · omega

/-! ## Values -/

/-- The digits of a number have its value. -/
theorem digitsValue_toDigits (n : Nat) : digitsValue 0 (Nat.toDigits 10 n) = n := by
  have hvalue : digitsValue 0 (Nat.toDigits 10 n) = Nat.ofDigitChars 10 (Nat.toDigits 10 n) 0 := by
    simp only [digitsValue, Nat.ofDigitChars, Nat.mul_comm]
  rw [hvalue, Nat.ofDigitChars_toDigits (by decide) (by decide)]

/-- A number of sixty-four bits is read as itself. -/
theorem ofText?_toString_of_lt {n : Nat} (h : n < 2 ^ 64) :
    ofText? (toString n) = some (.int n) := by
  have hfits : n ≤ greatestWord := Nat.le_sub_one_of_lt h
  rw [ofText?_toString, NumberText.value?]
  simp [NumberText.ofNat, digitsValue_toDigits, hfits]

/-- A longer number is read as the double of its leading digits, scaled for the others. -/
theorem ofText?_toString_of_not_le {n s : Nat} {e : Int} {full : Bool} (hlong : ¬ n ≤ greatestWord)
    (hleading : (Nat.toDigits 10 n).foldl Leading.wholeDigit ⟨0, 0, false⟩ = ⟨s, e, full⟩) :
    ofText? (toString n) = (Double.scaled (Double.ofNat s) e).map .double := by
  have hdouble : (NumberText.ofNat n).double? = Double.scaled (Double.ofNat s) e := by
    simp [NumberText.double?, NumberText.ofNat, hleading, twoTo_eq]
  rw [ofText?_toString, ← hdouble]
  simp [NumberText.value?, NumberText.ofNat, digitsValue_toDigits, hlong]

/-- So it is a whole double beyond sixty-four bits, if it is a double at all. -/
theorem ofText?_toString_of_le {n : Nat} (h : 2 ^ 64 ≤ n) {v : Json}
    (hv : ofText? (toString n) = some v) :
    ∃ x m, v = .double x ∧ Double.IsWhole x m ∧ 2 ^ 64 ≤ m := by
  have hlong : ¬ n ≤ greatestWord := by
    rw [greatestWord, twoTo_eq]
    omega
  obtain ⟨hfits, -⟩ | ⟨s, e, hleading, hlow, hhigh, he⟩ :=
    foldl_wholeDigit (isDigit_of_mem_toDigits (n := n)) (Nat.zero_le greatestWord)
  · exact absurd (digitsValue_toDigits n ▸ hfits) hlong
  · rw [ofText?_toString_of_not_le hlong hleading, Option.map_eq_some_iff] at hv
    obtain ⟨x, hscaled, rfl⟩ := hv
    have hword : s < 2 ^ 64 := by
      rw [greatestWord, twoTo_eq] at hhigh
      omega
    obtain ⟨m, hwhole, hm⟩ := Double.scaled_large hlow hword he hscaled
    exact ⟨x, m, rfl, hwhole, hm⟩

end SqlRelay.Json
