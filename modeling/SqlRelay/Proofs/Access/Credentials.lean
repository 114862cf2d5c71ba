import Mathlib.Data.List.Basic
import SqlRelay.Access.Bearer
import SqlRelay.Proofs.Text.Trim
/-!
# Tokens of header values

Credentials are the scheme word in letters of any case, a space, and a token, with blanks around and
between them.  Reading them gives the token, unless it is empty: then the space behind the scheme
word is trimmed away before the scheme is looked for, so the scheme word itself is taken for a
token.  All values that do not begin with the scheme word and a space are tokens as they are,
without the blanks around them.

Main results:

- Definition `Credentials` says how a header value writes a token.
- Theorem `bearerChars_credentials`: a token that is not empty is read.
- Theorem `bearerChars_noToken`: an empty token is read as the scheme word.
- Theorem `bearerToken_reads_iff` puts both together with the values that are no credentials.
-/

namespace SqlRelay

namespace Text

theorem isBlank_of_letter {c : Char} (h : 65 ≤ c.toNat ∧ c.toNat ≤ 122) : isBlank c = false := by
  simp only [isBlank, Bool.or_eq_false_iff, Bool.and_eq_false_iff, decide_eq_false_iff_not,
    beq_eq_false_iff_ne]
  omega

/-- No letter is a blank, so a character is one exactly if its lower-case form is. -/
theorem isBlank_toLower (c : Char) : isBlank c.toLower = isBlank c := by
  unfold Char.toLower
  split
  case isTrue upper =>
    have hrange : 65 ≤ c.toNat ∧ c.toNat ≤ 90 := by
      simpa [UInt32.le_iff_toNat_le] using upper
    have hlower : (c.val + ('a'.val - 'A'.val)).toNat = c.toNat + 32 := by
      have hsum : (c.val + ('a'.val - 'A'.val)).toNat = (c.toNat + 32) % 2 ^ 32 :=
        UInt32.toNat_add _ _
      omega
    have hupper : isBlank c = false := isBlank_of_letter (by omega)
    rw [hupper]
    apply isBlank_of_letter
    change 65 ≤ (c.val + ('a'.val - 'A'.val)).toNat ∧ (c.val + ('a'.val - 'A'.val)).toNat ≤ 122
    omega
  case isFalse => rfl

/-- Two texts have the same letters if they agree in lower case. -/
theorem sameLetters_iff (a b : List Char) : sameLetters a b = true ↔ lowerAscii a = lowerAscii b :=
  beq_iff_eq

theorem length_of_sameLetters {a b : List Char} (h : sameLetters a b = true) :
    a.length = b.length := by
  have hlength := congrArg List.length ((sameLetters_iff a b).1 h)
  simpa [lowerAscii] using hlength

/-- Texts of the same letters have their blanks in the same places. -/
theorem map_isBlank_of_sameLetters {a b : List Char} (h : sameLetters a b = true) :
    a.map isBlank = b.map isBlank := by
  have hmap (cs : List Char) : (lowerAscii cs).map isBlank = cs.map isBlank := by
    simp [lowerAscii, Function.comp_def, isBlank_toLower]
  rw [← hmap a, (sameLetters_iff a b).1 h, hmap]

end Text

/-! ## Credentials -/

/-- The scheme word. -/
def schemeWord : List Char :=
  ['b', 'e', 'a', 'r', 'e', 'r']

/-- A header value that writes a token: the scheme word in letters of any case, a space, and the
token, which is trimmed.  There may be blanks in front, behind the space, and at the end. -/
structure Credentials (token header : List Char) : Prop where
  trimmed : Text.trim token = token
  written : ∃ before scheme between after, header =
      before ++ (scheme ++ ' ' :: (between ++ token)) ++ after ∧
    Text.AllBlank before ∧ Text.AllBlank between ∧ Text.AllBlank after ∧
    Text.sameLetters scheme schemeWord = true

/-- A text begins with the scheme word and a space. -/
def BeginsWithScheme (cs : List Char) : Prop :=
  ∃ scheme rest, cs = scheme ++ rest ∧ Text.sameLetters scheme bearerScheme = true

/-- The test of the first seven characters tells whether the scheme stands in front. -/
theorem take_scheme_iff (cs : List Char) :
    Text.sameLetters (cs.take 7) bearerScheme = true ↔ BeginsWithScheme cs := by
  constructor
  · intro h
    exact ⟨cs.take 7, cs.drop 7, (List.take_append_drop 7 cs).symm, h⟩
  · rintro ⟨scheme, rest, rfl, h⟩
    have hlength : scheme.length = 7 := Text.length_of_sameLetters h
    rwa [List.take_left' hlength]

instance (cs : List Char) : Decidable (BeginsWithScheme cs) :=
  decidable_of_iff _ (take_scheme_iff cs)

section Scheme

variable {scheme : List Char} (h : Text.sameLetters scheme schemeWord = true)

include h

theorem scheme_length : scheme.length = 6 :=
  Text.length_of_sameLetters h

theorem isBlank_of_mem_scheme {c : Char} (hc : c ∈ scheme) : Text.isBlank c = false := by
  have hword : schemeWord.map Text.isBlank = List.replicate 6 false := by decide
  have hmem : Text.isBlank c ∈ scheme.map Text.isBlank := List.mem_map_of_mem hc
  rw [Text.map_isBlank_of_sameLetters h, hword] at hmem
  exact (List.mem_replicate.1 hmem).2

/-- The scheme word in front of a text that does not end with a blank is not trimmed. -/
theorem trim_scheme_append {rest : List Char}
    (hlast : ∀ c ∈ rest.getLast?, Text.isBlank c = false) :
    Text.trim (scheme ++ rest) = scheme ++ rest := by
  have hlength := scheme_length h
  rw [Text.trim_eq_self_iff]
  constructor
  · intro c hc
    have hsome : scheme ≠ [] := by
      rintro rfl
      simp at hlength
    rw [List.head?_append_of_ne_nil _ hsome] at hc
    exact isBlank_of_mem_scheme h (List.mem_of_mem_head? hc)
  · intro c hc
    rcases List.mem_append.1 (List.mem_of_getLast? hc) with hscheme | hrest
    · exact isBlank_of_mem_scheme h hscheme
    · have hsome : rest ≠ [] := List.ne_nil_of_mem hrest
      rw [List.getLast?_append_of_ne_nil _ hsome] at hc
      exact hlast c hc

theorem sameLetters_scheme_space : Text.sameLetters (scheme ++ [' ']) bearerScheme = true := by
  have hword : Text.lowerAscii bearerScheme = Text.lowerAscii schemeWord ++ [' '] := by decide
  rw [Text.sameLetters_iff, hword, ← (Text.sameLetters_iff _ _).1 h]
  simp [Text.lowerAscii]

end Scheme

/-! ## Reading -/

/-- What a value without the scheme is read as. -/
theorem bearerChars_of_not_scheme {header : List Char}
    (other : ¬ BeginsWithScheme (Text.trim header)) : bearerChars header = Text.trim header := by
  rw [← take_scheme_iff] at other
  simp [bearerChars, other]

/-- A token that is not empty is read. -/
theorem bearerChars_credentials {token header : List Char} (written : Credentials token header)
    (some : token ≠ []) : bearerChars header = token := by
  obtain ⟨trimmed, before, scheme, between, after, rfl, hbefore, hbetween, hafter, h⟩ := written
  have hlast : ∀ c ∈ (' ' :: (between ++ token)).getLast?, Text.isBlank c = false := by
    rw [← List.cons_append, List.getLast?_append_of_ne_nil _ some]
    exact ((Text.trim_eq_self_iff token).1 trimmed).2
  have htrim : Text.trim (before ++ (scheme ++ ' ' :: (between ++ token)) ++ after) =
      (scheme ++ [' ']) ++ (between ++ token) := by
    rw [Text.trim_append_blanks _ hafter, Text.trim_blanks_append hbefore,
      trim_scheme_append h hlast]
    simp
  have hlength : (scheme ++ [' ']).length = 7 := by simp [scheme_length h]
  simp only [bearerChars, htrim, List.take_left' hlength, List.drop_left' hlength,
    sameLetters_scheme_space h, if_true, Text.trim_blanks_append hbetween, trimmed]

/-- An empty token is read as the scheme word: the blanks behind the word are trimmed before it is
looked for. -/
theorem bearerChars_noToken {header : List Char} (written : Credentials [] header) :
    Text.sameLetters (bearerChars header) schemeWord = true := by
  obtain ⟨-, before, scheme, between, after, rfl, hbefore, hbetween, hafter, h⟩ := written
  have htrim : Text.trim (before ++ (scheme ++ ' ' :: (between ++ [])) ++ after) = scheme := by
    have hblanks : Text.AllBlank (' ' :: (between ++ [])) := by
      rw [List.append_nil, Text.allBlank_cons]
      exact ⟨by decide, hbetween⟩
    have hscheme : Text.trim (scheme ++ []) = scheme ++ [] := trim_scheme_append h (by simp)
    rw [List.append_nil] at hscheme
    rw [Text.trim_append_blanks _ hafter, Text.trim_blanks_append hbefore,
      Text.trim_append_blanks _ hblanks, hscheme]
  have hshort : ¬ BeginsWithScheme scheme := by
    rintro ⟨word, rest, hsplit, hword⟩
    have hlength := congrArg List.length hsplit
    rw [scheme_length h, List.length_append, Text.length_of_sameLetters hword] at hlength
    simp [bearerScheme] at hlength
    omega
  rw [← htrim] at hshort
  rw [bearerChars_of_not_scheme hshort, htrim]
  exact h

/-- The token of a header value.  Credentials are read as the token that they write exactly if this
is not empty; a value that does not begin with the scheme word and a space is read as it is, without
the blanks around it. -/
theorem bearerToken_reads_iff (header : String) :
    (∀ token : String, Credentials token.toList header.toList →
      (bearerToken header = token ↔ token ≠ "")) ∧
    (¬ BeginsWithScheme (Text.trim header.toList) → bearerToken header = Text.trimmed header) := by
  constructor
  · intro token written
    constructor
    · rintro htoken rfl
      have hscheme := bearerChars_noToken written
      have hempty : bearerChars header.toList = [] := String.ofList_eq_empty_iff.1 htoken
      rw [hempty] at hscheme
      exact absurd hscheme (by decide)
    · intro some
      rw [bearerToken, bearerChars_credentials written (by simpa using some), String.ofList_toList]
  · intro other
    rw [bearerToken, bearerChars_of_not_scheme other, Text.trimmed]

/-- A token that begins with the scheme word itself, in credentials with blanks all around. -/
theorem nested_credentials :
    Credentials "bearer x".toList "\t bEaReR \u3000bearer x ".toList where
  trimmed := by decide
  written := ⟨['\t', ' '], "bEaReR".toList, ['\u3000'], [' '], by decide,
    by simp [Text.isBlank], by simp [Text.isBlank], by simp [Text.isBlank], by decide⟩

/-- That token is read, and so is a text without the scheme. -/
theorem nestedToken_is_read :
    bearerToken "\t bEaReR \u3000bearer x " = "bearer x" ∧ bearerToken " Bearer-x " = "Bearer-x" :=
  ⟨((bearerToken_reads_iff _).1 _ nested_credentials).2 (by decide),
    (bearerToken_reads_iff _).2 (by decide)⟩

/-- Credentials of an empty token are read as the scheme word. -/
theorem emptyToken_is_not_read :
    ¬ ∀ header token : String, Credentials token.toList header.toList →
      bearerToken header = token := by
  intro h
  have written : Credentials "".toList "Bearer ".toList :=
    ⟨by decide, [], "Bearer".toList, [], [], by decide, by simp, by simp, by simp, by decide⟩
  exact absurd (h _ _ written) (by decide)

end SqlRelay
