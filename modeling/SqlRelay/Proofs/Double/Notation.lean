import Mathlib.Data.List.TakeWhile
import SqlRelay.Double.Decimal
import SqlRelay.Proofs.Double.Order
/-!
# The notation of doubles

A text is a double in three ways: as a word for infinity, as a word for a NaN, or as decimal digits
with an optional point and an optional exponent, each behind an optional sign.

Main results:

- Definition `Double.Notation` is the grammar of these texts with the double of each.
- Theorem `Double.ofText?_iff`: reading follows the grammar.
- Theorem `Double.Notation.isNaN_iff`: only the word for a NaN is read as one.
-/

namespace SqlRelay.Double

/-- The sign in front of a number, with whether it is a minus. -/
inductive SignNotation : List Char → Bool → Prop
  | minus : SignNotation ['-'] true
  | plus : SignNotation ['+'] false
  | without : SignNotation [] false

/-- The exponent behind a number. -/
inductive ExponentNotation : List Char → Int → Prop
  | without : ExponentNotation [] 0
  | written {mark : Char} {sign digits : List Char} {negative : Bool} (letter : mark.toLower = 'e')
      (signed : SignNotation sign negative) (decimal : isDecimal digits = true) :
      ExponentNotation (mark :: (sign ++ digits))
        (if negative then -(digitsValue 0 digits : Int) else digitsValue 0 digits)

/-- A number without its sign: digits before a point, behind one, or both. -/
inductive UnsignedNotation (negative : Bool) : List Char → Double → Prop
  | whole {digits behind : List Char} {exponent : Int} (decimal : isDecimal digits = true)
      (scaled : ExponentNotation behind exponent) :
      UnsignedNotation negative (digits ++ behind)
        (ofDecimal negative (digitsValue 0 digits) exponent)
  | pointed {digits fraction behind : List Char} {exponent : Int}
      (decimal : isDecimal (digits ++ fraction) = true)
      (scaled : ExponentNotation behind exponent) :
      UnsignedNotation negative (digits ++ '.' :: (fraction ++ behind))
        (ofDecimal negative (digitsValue 0 (digits ++ fraction)) (exponent - fraction.length))

/-- A word in any case. -/
def Spells (word : String) (cs : List Char) : Prop :=
  cs.map Char.toLower = word.toList

instance (word : String) (cs : List Char) : Decidable (Spells word cs) :=
  inferInstanceAs (Decidable (cs.map Char.toLower = word.toList))

/-- The texts of doubles. -/
inductive Notation : List Char → Double → Prop
  | infinity {sign cs : List Char} {negative : Bool} (signed : SignNotation sign negative)
      (word : Spells "inf" cs ∨ Spells "infinity" cs) : Notation (sign ++ cs) (infinity negative)
  | nan {sign cs : List Char} {negative : Bool} (signed : SignNotation sign negative)
      (word : Spells "nan" cs) : Notation (sign ++ cs) (quietNaN negative)
  | number {sign cs : List Char} {negative : Bool} {x : Double}
      (signed : SignNotation sign negative) (number : UnsignedNotation negative cs x) :
      Notation (sign ++ cs) x

/-- A text that says that it is no number: the word for that, behind an optional sign. -/
inductive WritesNaN : List Char → Prop
  | word {sign cs : List Char} {negative : Bool} (signed : SignNotation sign negative)
      (word : Spells "nan" cs) : WritesNaN (sign ++ cs)

/-! ## Signs, digits and exponents -/

/-- A text is a sign, which may be missing, and what is left of it without the sign. -/
theorem splitSign_spec (cs : List Char) :
    ∃ sign, SignNotation sign (splitSign cs).1 ∧ cs = sign ++ (splitSign cs).2 := by
  unfold splitSign
  split
  · exact ⟨['-'], .minus, rfl⟩
  · exact ⟨['+'], .plus, rfl⟩
  · exact ⟨[], .without, rfl⟩

/-- A text that does not begin with a sign. -/
def Unsigned (cs : List Char) : Prop :=
  cs.head? ≠ some '-' ∧ cs.head? ≠ some '+'

/-- The sign of a text is split off if none stands behind it. -/
theorem splitSign_append {sign cs : List Char} {negative : Bool}
    (hsign : SignNotation sign negative) (hcs : Unsigned cs) :
    splitSign (sign ++ cs) = (negative, cs) := by
  cases hsign with
  | minus => rfl
  | plus => rfl
  | without =>
    obtain ⟨hminus, hplus⟩ := hcs
    rw [List.nil_append]
    unfold splitSign
    split
    · exact absurd rfl hminus
    · exact absurd rfl hplus
    · rfl

theorem toLower_digit {c : Char} (h : c.isDigit = true) : c.toLower = c := by
  have hlow : c.val ≤ 57 := by simpa using (Bool.and_eq_true_iff.1 h).2
  unfold Char.toLower
  rw [dif_neg]
  rintro ⟨hupper, -⟩
  exact absurd (UInt32.le_trans hupper hlow) (by decide)

/-- A text is decimal if it has characters and all are digits. -/
theorem isDecimal_iff {cs : List Char} :
    isDecimal cs = true ↔ cs ≠ [] ∧ ∀ c ∈ cs, c.isDigit = true := by
  simp [isDecimal]

/-- A text that no digit begins. -/
def EndsDigits (cs : List Char) : Prop :=
  ∀ c ∈ cs.head?, c.isDigit = false

/-- The digits of a text are cut off where no digit begins. -/
theorem cut_digits {digits behind : List Char} (hdigits : ∀ c ∈ digits, c.isDigit = true)
    (hbehind : EndsDigits behind) :
    (digits ++ behind).takeWhile Char.isDigit = digits ∧
      (digits ++ behind).dropWhile Char.isDigit = behind := by
  rw [List.takeWhile_append_of_pos hdigits, List.dropWhile_append_of_pos hdigits]
  cases behind with
  | nil => simp
  | cons c behind =>
    have hc : c.isDigit = false := hbehind c rfl
    simp [hc]

/-- Every text is its digits in front and the rest. -/
theorem exists_digits (cs : List Char) :
    ∃ digits behind, cs = digits ++ behind ∧ (∀ c ∈ digits, c.isDigit = true) ∧
      EndsDigits behind := by
  refine ⟨cs.takeWhile Char.isDigit, cs.dropWhile Char.isDigit,
    List.takeWhile_append_dropWhile.symm, fun c hc => List.mem_takeWhile_imp hc, ?_⟩
  intro c hc
  have hfirst := List.head?_dropWhile_not Char.isDigit cs
  rw [Option.mem_def.1 hc] at hfirst
  simpa using hfirst

/-- Digits have no sign in front. -/
theorem digits_unsigned {digits : List Char} (h : isDecimal digits = true) : Unsigned digits := by
  obtain ⟨hsome, hdigits⟩ := isDecimal_iff.1 h
  cases digits with
  | nil => exact absurd rfl hsome
  | cons c digits =>
    have hc : c.isDigit = true := hdigits c List.mem_cons_self
    constructor <;> rintro ⟨⟩ <;> exact absurd hc (by decide)

/-- The reader of exponents accepts their grammar and nothing else. -/
theorem exponent?_iff {cs : List Char} {e : Int} :
    exponent? cs = some e ↔ ExponentNotation cs e := by
  constructor
  · intro h
    cases cs with
    | nil =>
      obtain rfl : 0 = e := by simpa [exponent?] using h
      exact .without
    | cons mark rest =>
      obtain ⟨sign, hsign, hrest⟩ := splitSign_spec rest
      by_cases hletter : mark.toLower = 'e'
      · rw [exponent?, if_pos hletter] at h
        generalize splitSign rest = parts at hsign hrest h
        obtain ⟨negative, digits⟩ := parts
        dsimp only at hsign hrest h
        by_cases hdecimal : isDecimal digits = true
        · rw [if_pos hdecimal, Option.some.injEq] at h
          rw [hrest, ← h]
          exact .written hletter hsign hdecimal
        · simp [hdecimal] at h
      · simp [exponent?, hletter] at h
  · rintro (_ | ⟨hletter, hsign, hdecimal⟩)
    · rfl
    · rw [exponent?, if_pos hletter, splitSign_append hsign (digits_unsigned hdecimal)]
      dsimp only
      rw [if_pos hdecimal]

/-- Neither a digit nor a point begins an exponent. -/
theorem ExponentNotation.head {cs : List Char} {e : Int} (h : ExponentNotation cs e) :
    EndsDigits cs ∧ cs.head? ≠ some '.' := by
  cases h with
  | without => exact ⟨by rintro c ⟨⟩, by simp⟩
  | @written mark sign digits negative hletter hsign hdecimal =>
    constructor
    · rintro c ⟨⟩
      by_contra hdigit
      rw [toLower_digit (Bool.eq_true_of_not_eq_false hdigit)] at hletter
      exact hdigit (hletter ▸ rfl)
    · rintro ⟨⟩
      exact absurd hletter (by decide)

/-! ## Numbers -/

/-- What is read without a point. -/
theorem unsigned?_whole {negative : Bool} {digits behind : List Char}
    (hdigits : ∀ c ∈ digits, c.isDigit = true) (hbehind : EndsDigits behind)
    (hpoint : behind.head? ≠ some '.') :
    unsigned? negative (digits ++ behind) =
      if digits.isEmpty then none
      else (exponent? behind).map (ofDecimal negative (digitsValue 0 digits)) := by
  obtain ⟨htake, hdrop⟩ := cut_digits hdigits hbehind
  simp only [unsigned?, htake, hdrop]
  split
  · exact absurd rfl hpoint
  · cases exponent? behind <;> simp

/-- What is read with a point. -/
theorem unsigned?_pointed {negative : Bool} {digits fraction behind : List Char}
    (hdigits : ∀ c ∈ digits, c.isDigit = true) (hfraction : ∀ c ∈ fraction, c.isDigit = true)
    (hbehind : EndsDigits behind) :
    unsigned? negative (digits ++ '.' :: (fraction ++ behind)) =
      if (digits ++ fraction).isEmpty then none
      else (exponent? behind).map fun e =>
        ofDecimal negative (digitsValue 0 (digits ++ fraction)) (e - fraction.length) := by
  have hpoint : EndsDigits ('.' :: (fraction ++ behind)) := by
    rintro c ⟨⟩
    rfl
  obtain ⟨htake, hdrop⟩ := cut_digits hdigits hpoint
  obtain ⟨htakeFraction, hdropFraction⟩ := cut_digits hfraction hbehind
  simp only [unsigned?, htake, hdrop, htakeFraction, hdropFraction]
  cases exponent? behind <;> simp

/-- The reader of numbers without a sign accepts their grammar and nothing else. -/
theorem unsigned?_iff {negative : Bool} {cs : List Char} {x : Double} :
    unsigned? negative cs = some x ↔ UnsignedNotation negative cs x := by
  constructor
  · intro h
    obtain ⟨digits, rest, rfl, hdigits, hrest⟩ := exists_digits cs
    by_cases hpoint : rest.head? = some '.'
    · obtain ⟨more, rfl⟩ := List.head?_eq_some_iff.1 hpoint
      obtain ⟨fraction, behind, rfl, hfraction, hbehind⟩ := exists_digits more
      rw [unsigned?_pointed hdigits hfraction hbehind] at h
      split at h
      · exact absurd h (by simp)
      · rename_i hsome
        obtain ⟨e, he, rfl⟩ := Option.map_eq_some_iff.1 h
        have hdecimal : isDecimal (digits ++ fraction) = true :=
          isDecimal_iff.2 ⟨by simpa using hsome, List.forall_mem_append.2 ⟨hdigits, hfraction⟩⟩
        exact .pointed hdecimal (exponent?_iff.1 he)
    · rw [unsigned?_whole hdigits hrest hpoint] at h
      split at h
      · exact absurd h (by simp)
      · rename_i hsome
        obtain ⟨e, he, rfl⟩ := Option.map_eq_some_iff.1 h
        exact .whole (isDecimal_iff.2 ⟨by simpa using hsome, hdigits⟩) (exponent?_iff.1 he)
  · rintro (⟨hdecimal, hscaled⟩ | ⟨hdecimal, hscaled⟩)
    · obtain ⟨hsome, hdigits⟩ := isDecimal_iff.1 hdecimal
      rw [unsigned?_whole hdigits hscaled.head.1 hscaled.head.2, exponent?_iff.2 hscaled]
      simp [hsome]
    · obtain ⟨hsome, hall⟩ := isDecimal_iff.1 hdecimal
      obtain ⟨hdigits, hfraction⟩ := List.forall_mem_append.1 hall
      rw [unsigned?_pointed hdigits hfraction hscaled.head.1, exponent?_iff.2 hscaled]
      simp [hsome]

/-- A digit or a point begins a number. -/
theorem UnsignedNotation.head {negative : Bool} {cs : List Char} {x : Double}
    (h : UnsignedNotation negative cs x) : ∃ c ∈ cs.head?, c.isDigit = true ∨ c = '.' := by
  have hfirst {digits : List Char} (hdigits : ∀ c ∈ digits, c.isDigit = true) (rest : List Char)
      (hsome : digits ≠ []) : ∃ c ∈ (digits ++ rest).head?, c.isDigit = true ∨ c = '.' := by
    obtain ⟨c, digits, rfl⟩ := List.exists_cons_of_ne_nil hsome
    exact ⟨c, rfl, .inl (hdigits c List.mem_cons_self)⟩
  cases h with
  | whole hdecimal =>
    obtain ⟨hsome, hdigits⟩ := isDecimal_iff.1 hdecimal
    exact hfirst hdigits _ hsome
  | @pointed digits fraction behind e hdecimal hscaled =>
    obtain ⟨-, hall⟩ := isDecimal_iff.1 hdecimal
    by_cases hsome : digits = []
    · subst hsome
      exact ⟨'.', rfl, .inr rfl⟩
    · exact hfirst (List.forall_mem_append.1 hall).1 _ hsome

/-- The spelling of a word begins with its first letter, in either case. -/
theorem Spells.head {word : String} {cs : List Char} (h : Spells word cs) :
    cs.head?.map Char.toLower = word.toList.head? := by
  rw [← List.head?_map, h]

/-- A word that begins with a letter has no sign in front. -/
theorem Spells.unsigned {word : String} {cs : List Char} (h : Spells word cs) {letter : Char}
    (hword : word.toList.head? = some letter) (hletter : letter ≠ '-' ∧ letter ≠ '+') :
    Unsigned cs := by
  have hhead := h.head.trans hword
  constructor
  · intro hminus
    rw [hminus] at hhead
    exact hletter.1 (Option.some.inj hhead).symm
  · intro hplus
    rw [hplus] at hhead
    exact hletter.2 (Option.some.inj hhead).symm

/-- A text spells one word only. -/
theorem Spells.not_spells {word other : String} {cs : List Char} (h : Spells word cs)
    (hother : word.toList ≠ other.toList) : ¬ Spells other cs :=
  fun hspells => hother (h.symm.trans hspells)

/-- What is written without a sign does not begin with one. -/
theorem UnsignedNotation.unsigned {negative : Bool} {cs : List Char} {x : Double}
    (h : UnsignedNotation negative cs x) : Unsigned cs := by
  obtain ⟨c, hc, hkind⟩ := h.head
  rw [Option.mem_def] at hc
  constructor <;> intro hsign <;> obtain rfl := Option.some.inj (hc.symm.trans hsign) <;>
    simp at hkind

/-- No number is a word. -/
theorem UnsignedNotation.not_spells {negative : Bool} {cs : List Char} {x : Double}
    (h : UnsignedNotation negative cs x) {word : String} {letter : Char}
    (hword : word.toList.head? = some letter) (hletter : letter.isDigit = false ∧ letter ≠ '.') :
    ¬ Spells word cs := by
  intro hspells
  obtain ⟨c, hc, hkind⟩ := h.head
  have hlower : c.toLower = letter := by
    simpa [Option.mem_def.1 hc, hword] using hspells.head
  obtain hdigit | rfl := hkind
  · rw [toLower_digit hdigit] at hlower
    simp [← hlower, hdigit] at hletter
  · exact hletter.2 (hlower.symm.trans (by decide))

/-- A text spells a word if it is the word in lower case. -/
theorem spells_iff {word : String} {cs : List Char} :
    String.ofList (cs.map Char.toLower) = word ↔ Spells word cs := by
  rw [Spells, ← String.toList_inj, String.toList_ofList]

/-! ## Texts of doubles -/

/-- What is read behind the sign. -/
theorem ofText?_append {sign cs : List Char} {negative : Bool}
    (hsign : SignNotation sign negative) (hcs : Unsigned cs) :
    ofText? (sign ++ cs) =
      if Spells "inf" cs ∨ Spells "infinity" cs then some (infinity negative)
      else if Spells "nan" cs then some (quietNaN negative) else unsigned? negative cs := by
  simp only [ofText?, splitSign_append hsign hcs, spells_iff]

/-- The reader of doubles accepts their grammar and nothing else. -/
theorem ofText?_iff {cs : List Char} {x : Double} : ofText? cs = some x ↔ Notation cs x := by
  constructor
  · intro h
    obtain ⟨sign, hsign, hcs⟩ := splitSign_spec cs
    simp only [ofText?, spells_iff] at h
    generalize splitSign cs = parts at hsign hcs h
    obtain ⟨negative, rest⟩ := parts
    subst hcs
    dsimp only at hsign h ⊢
    split at h
    · rename_i hword
      exact Option.some.inj h ▸ .infinity hsign hword
    · split at h
      · rename_i hword
        exact Option.some.inj h ▸ .nan hsign hword
      · exact .number hsign (unsigned?_iff.1 h)
  · rintro (⟨hsign, hword⟩ | ⟨hsign, hword⟩ | ⟨hsign, hnumber⟩)
    · have hunsigned := hword.elim (fun h => h.unsigned rfl (by decide))
        (fun h => h.unsigned rfl (by decide))
      rw [ofText?_append hsign hunsigned, if_pos hword]
    · have hother : ¬ (Spells "inf" _ ∨ Spells "infinity" _) :=
        not_or.2 ⟨hword.not_spells (by decide), hword.not_spells (by decide)⟩
      rw [ofText?_append hsign (hword.unsigned rfl (by decide)), if_neg hother, if_pos hword]
    · have hother : ¬ (Spells "inf" _ ∨ Spells "infinity" _) :=
        not_or.2 ⟨hnumber.not_spells rfl (by decide), hnumber.not_spells rfl (by decide)⟩
      rw [ofText?_append hsign hnumber.unsigned, if_neg hother,
        if_neg (hnumber.not_spells rfl (by decide)), unsigned?_iff.2 hnumber]

/-- A text writes one double at most. -/
theorem Notation.unique {cs : List Char} {x y : Double} (hx : Notation cs x) (hy : Notation cs y) :
    x = y :=
  Option.some.inj ((ofText?_iff.2 hx).symm.trans (ofText?_iff.2 hy))

/-- The empty text writes no double. -/
theorem Notation.ne_nil {cs : List Char} {x : Double} (h : Notation cs x) : cs ≠ [] := by
  rintro rfl
  have hread : ofText? [] = none := by decide
  rw [ofText?_iff.2 h] at hread
  exact absurd hread (by simp)

/-- No decimal number is a NaN. -/
theorem ofDecimal_isNaN (negative : Bool) (significand : Nat) (exponent : Int) :
    (ofDecimal negative significand exponent).isNaN = false := by
  unfold ofDecimal
  dsimp only
  split_ifs
  · exact withSign_isNaN negative (Nat.zero_le _)
  · exact withSign_isNaN negative le_rfl
  · exact withSign_isNaN negative (Nat.zero_le _)
  · exact nearest_isNaN negative _ _
  · exact nearest_isNaN negative _ _

/-- Only the word for a NaN is read as one. -/
theorem Notation.isNaN_iff {cs : List Char} {x : Double} (h : Notation cs x) :
    x.isNaN = true ↔ WritesNaN cs := by
  constructor
  · intro hnan
    cases h with
    | @infinity _ _ negative =>
      have hnumber : (Double.infinity negative).isNaN = false := withSign_isNaN negative le_rfl
      simp [hnumber] at hnan
    | nan hsign hword => exact .word hsign hword
    | number hsign hnumber =>
      cases hnumber <;> simp [ofDecimal_isNaN] at hnan
  · rintro (@⟨_, _, negative, hsign, hword⟩)
    rw [h.unique (.nan hsign hword)]
    cases negative <;> decide

/-- The texts for a NaN are read as one. -/
theorem WritesNaN.exists_notation {cs : List Char} (h : WritesNaN cs) :
    ∃ x, Notation cs x ∧ x.isNaN = true := by
  obtain ⟨hsign, hword⟩ := id h
  exact ⟨_, .nan hsign hword, (Notation.nan hsign hword).isNaN_iff.2 h⟩

end SqlRelay.Double
