import Mathlib.Data.List.Basic
import SqlRelay.Proofs.Text.Utf8
import SqlRelay.Text.Notation
/-!
# Percent notation

A text in percent notation shows some characters as they are and each byte of all others as a
percent sign with two digits.  It is longer than the text unless every character is shown as it is,
and it is read back as the text, also as a part of a form-encoded query.

Main results:

- Theorem `Text.percentEncode_eq_self_iff`: which texts are their own percent notation.
- Theorem `Text.percentDecode_percentEncode`: percent notation is read back.
- Theorem `Text.formPairs_percentEncode`: so is a pair of a query whose parts are in percent
  notation.
-/

namespace SqlRelay.Text

open Utf8 (encodeChars encodeChars_nil encodeChars_cons encodeChars_append mem_encodeChar)

variable {escaped : Char → Bool}

/-- The digits of percent notation. -/
def upperHexDigits : List Char :=
  (List.range 16).map upperHexDigit

/-- Every digit of a byte is a hexadecimal one in upper case. -/
theorem upperHexDigit_mem {n : Nat} (h : n < 16) : upperHexDigit n ∈ upperHexDigits :=
  List.mem_map_of_mem (List.mem_range.2 h)

/-- A digit is one byte, and its value is read from it. -/
theorem upperHexDigit_byte : ∀ n < 16,
    String.utf8EncodeChar (upperHexDigit n) = [UInt8.ofNat (upperHexDigit n).toNat] ∧
      hexByte? (UInt8.ofNat (upperHexDigit n).toNat) = some n := by
  decide

theorem percentEncode_nil : percentEncode escaped [] = [] := rfl

theorem percentEncode_append (a b : List Char) :
    percentEncode escaped (a ++ b) = percentEncode escaped a ++ percentEncode escaped b :=
  List.flatMap_append

theorem percentEncode_cons_plain {c : Char} (h : escaped c = false) (cs : List Char) :
    percentEncode escaped (c :: cs) = c :: percentEncode escaped cs := by
  simp [percentEncode, h]

theorem percentEncode_cons_escaped {c : Char} (h : escaped c = true) (cs : List Char) :
    percentEncode escaped (c :: cs) =
      (String.utf8EncodeChar c).flatMap percentByte ++ percentEncode escaped cs := by
  simp [percentEncode, h]

/-- The notation of a byte has a percent sign and hexadecimal digits. -/
theorem mem_percentByte {b : UInt8} {c : Char} (h : c ∈ percentByte b) :
    c = '%' ∨ c ∈ upperHexDigits := by
  have hbyte : b.toNat < 256 := b.toNat_lt
  simp only [percentByte, List.mem_cons, List.not_mem_nil, or_false] at h
  obtain rfl | rfl | rfl := h
  · exact .inl rfl
  · exact .inr (upperHexDigit_mem (by omega))
  · exact .inr (upperHexDigit_mem (by omega))

/-- What stands in percent notation: characters that are shown as they are, percent signs and
digits. -/
theorem mem_percentEncode {cs : List Char} {c : Char} (h : c ∈ percentEncode escaped cs) :
    (c ∈ cs ∧ escaped c = false) ∨ c = '%' ∨ c ∈ upperHexDigits := by
  obtain ⟨d, hd, hc⟩ := List.mem_flatMap.1 h
  split at hc
  · obtain ⟨b, -, hb⟩ := List.mem_flatMap.1 hc
    exact .inr (mem_percentByte hb)
  · rename_i hplain
    obtain rfl := List.mem_singleton.1 hc
    exact .inl ⟨hd, by simpa using hplain⟩

/-- A sign that is not shown as it is does not stand in percent notation. -/
theorem not_mem_percentEncode {c : Char} (hescaped : escaped c = true)
    (hsign : c ≠ '%' ∧ c ∉ upperHexDigits) (cs : List Char) : c ∉ percentEncode escaped cs := by
  intro hc
  obtain ⟨-, hplain⟩ | hpercent | hdigit := mem_percentEncode hc
  · simp [hescaped] at hplain
  · exact hsign.1 hpercent
  · exact hsign.2 hdigit

/-- A text in percent notation. -/
def percentText (escaped : Char → Bool) (s : String) : String :=
  String.ofList (percentEncode escaped s.toList)

/-- Percent notation that may stand in a path: the signs that end a path are not shown as they
are. -/
structure FitsPath (escaped : Char → Bool) : Prop where
  question : escaped '?' = true
  number : escaped '#' = true

/-- Percent notation that may stand in a query: its signs are not shown as they are. -/
structure FitsQuery (escaped : Char → Bool) : Prop where
  percent : escaped '%' = true
  plus : escaped '+' = true
  ampersand : escaped '&' = true
  equals : escaped '=' = true

/-- A character that is not shown as it is takes three characters at least. -/
theorem length_escaped (c : Char) : 3 ≤ ((String.utf8EncodeChar c).flatMap percentByte).length := by
  have hsome : String.utf8EncodeChar c ≠ [] := by simp
  obtain ⟨b, bytes, hbytes⟩ := List.exists_cons_of_ne_nil hsome
  simp [hbytes, percentByte]

/-- Encoding makes no text shorter. -/
theorem length_le_percentEncode (escaped : Char → Bool) (cs : List Char) :
    cs.length ≤ (percentEncode escaped cs).length := by
  induction cs with
  | nil => simp
  | cons c cs ih =>
    cases hc : escaped c with
    | true =>
      have hlong := length_escaped c
      rw [percentEncode_cons_escaped hc, List.length_append, List.length_cons]
      omega
    | false =>
      rw [percentEncode_cons_plain hc, List.length_cons, List.length_cons]
      omega

/-- A text is its own percent notation exactly if every character is shown as it is. -/
theorem percentEncode_eq_self_iff {cs : List Char} :
    percentEncode escaped cs = cs ↔ ∀ c ∈ cs, escaped c = false := by
  induction cs with
  | nil => simp [percentEncode_nil]
  | cons c cs ih =>
    rw [List.forall_mem_cons]
    cases hc : escaped c with
    | true =>
      refine iff_of_false (fun hsame => ?_) (by simp)
      have hlength := congrArg List.length hsame
      have hlong := length_escaped c
      have hrest := length_le_percentEncode escaped cs
      rw [percentEncode_cons_escaped hc, List.length_append, List.length_cons] at hlength
      omega
    | false => simp [percentEncode_cons_plain hc, ih]

/-- A text is its own percent notation if none of its characters is escaped. -/
theorem percentText_eq_self_iff {s : String} :
    percentText escaped s = s ↔ ∀ c ∈ s.toList, escaped c = false := by
  rw [percentText, ← String.toList_inj, String.toList_ofList, percentEncode_eq_self_iff]

/-- No percent notation ends with a slash but that of a text that does. -/
theorem getLast?_percentEncode {cs : List Char} (h : cs.getLast? ≠ some '/') :
    (percentEncode escaped cs).getLast? ≠ some '/' := by
  obtain rfl | ⟨front, c, rfl⟩ := List.eq_nil_or_concat cs
  · simp [percentEncode_nil]
  · have hlast : c ≠ '/' := by simpa using h
    have hsome : percentEncode escaped [c] ≠ [] := by
      have hlength := length_le_percentEncode escaped [c]
      intro hnone
      simp [hnone] at hlength
    rw [List.concat_eq_append, percentEncode_append, List.getLast?_append_of_ne_nil _ hsome]
    intro hslash
    obtain ⟨hmem, -⟩ | hpercent | hdigit := mem_percentEncode (List.mem_of_getLast? hslash)
    · exact hlast (List.mem_singleton.1 hmem).symm
    · exact absurd hpercent (by decide)
    · exact absurd hdigit (by decide)

/-! ## Reading back -/

theorem percentDecode_cons_of_ne {b : UInt8} (h : b ≠ percentSign) (bytes : List UInt8) :
    percentDecode (b :: bytes) = b :: percentDecode bytes := by
  match bytes with
  | [] => rfl
  | [_] => rfl
  | _ :: _ :: _ => rw [percentDecode, if_neg h]

/-- Bytes without a percent sign stay. -/
theorem percentDecode_append_of_not_mem {front : List UInt8} (h : percentSign ∉ front)
    (rest : List UInt8) : percentDecode (front ++ rest) = front ++ percentDecode rest := by
  induction front with
  | nil => rfl
  | cons b front ih =>
    obtain ⟨hfirst, hfront⟩ := not_or.1 (mt List.mem_cons.2 h)
    rw [List.cons_append, percentDecode_cons_of_ne (Ne.symm hfirst), ih hfront, List.cons_append]

/-- The notation of a byte is read back. -/
theorem percentDecode_percentByte (b : UInt8) (rest : List UInt8) :
    percentDecode (encodeChars (percentByte b) ++ rest) = b :: percentDecode rest := by
  have hbyte : b.toNat < 256 := b.toNat_lt
  obtain ⟨hhigh, hhighValue⟩ := upperHexDigit_byte (b.toNat / 16) (by omega)
  obtain ⟨hlow, hlowValue⟩ := upperHexDigit_byte (b.toNat % 16) (by omega)
  have hsign : String.utf8EncodeChar '%' = [percentSign] := by decide
  have hvalue : b.toNat / 16 * 16 + b.toNat % 16 = b.toNat := by omega
  simp only [percentByte, encodeChars_cons, encodeChars_nil, hsign, hhigh, hlow, List.append_nil,
    List.cons_append, List.nil_append]
  rw [percentDecode, if_pos rfl, hhighValue, hlowValue]
  simp [hvalue]

/-- The notation of bytes is read back. -/
theorem percentDecode_percentBytes (bytes rest : List UInt8) :
    percentDecode (encodeChars (bytes.flatMap percentByte) ++ rest) =
      bytes ++ percentDecode rest := by
  induction bytes with
  | nil => rfl
  | cons b bytes ih =>
    rw [List.flatMap_cons, encodeChars_append, List.append_assoc, percentDecode_percentByte, ih,
      List.cons_append]

/-- An ASCII byte of a text is a character of it. -/
theorem mem_of_mem_encodeChars {cs : List Char} {b : UInt8} (hb : b ∈ encodeChars cs)
    (hascii : b.toNat < 0x80) : Char.ofNat b.toNat ∈ cs := by
  obtain ⟨c, hc, hmem⟩ := List.mem_flatMap.1 hb
  obtain hsame | hwide := mem_encodeChar hmem
  · rwa [hsame, Char.ofNat_toNat]
  · omega

/-- Percent notation is read back, if it shows no percent sign as it is. -/
theorem percentDecode_percentEncode (hpercent : escaped '%' = true) (cs : List Char) :
    percentDecode (encodeChars (percentEncode escaped cs)) = encodeChars cs := by
  induction cs with
  | nil => rfl
  | cons c cs ih =>
    cases hc : escaped c with
    | true =>
      rw [percentEncode_cons_escaped hc, encodeChars_append, percentDecode_percentBytes, ih,
        encodeChars_cons]
    | false =>
      have hplain : percentSign ∉ String.utf8EncodeChar c := by
        intro hmem
        obtain hsame | hwide := mem_encodeChar hmem
        · rw [← Char.ofNat_toNat c, ← hsame] at hc
          exact absurd (hpercent.symm.trans hc) (by decide)
        · exact absurd hwide (by decide)
      rw [percentEncode_cons_plain hc, encodeChars_cons, percentDecode_append_of_not_mem hplain, ih,
        encodeChars_cons]

/-! ## Form-encoded queries -/

/-- An escaped sign is no byte of percent notation. -/
theorem not_mem_encodeChars_percentEncode {b : UInt8} (hascii : b.toNat < 0x80)
    (hescaped : escaped (Char.ofNat b.toNat) = true)
    (hsign : Char.ofNat b.toNat ≠ '%' ∧ Char.ofNat b.toNat ∉ upperHexDigits) (cs : List Char) :
    b ∉ encodeChars (percentEncode escaped cs) :=
  fun hb => not_mem_percentEncode hescaped hsign cs (mem_of_mem_encodeChars hb hascii)

/-- Percent notation that fits a query is read back from a form. -/
theorem formDecode_percentEncode (fits : FitsQuery escaped) (cs : List Char) :
    formDecode (encodeChars (percentEncode escaped cs)) = encodeChars cs := by
  have hplus : (0x2B : UInt8) ∉ encodeChars (percentEncode escaped cs) :=
    not_mem_encodeChars_percentEncode (by decide) fits.plus (by decide) cs
  have hkept : (encodeChars (percentEncode escaped cs)).map
      (fun b => if b = 0x2B then 0x20 else b) = encodeChars (percentEncode escaped cs) := by
    refine (List.map_congr_left fun b hb => if_neg ?_).trans (List.map_id' _)
    rintro rfl
    exact hplus hb
  rw [formDecode, hkept, percentDecode_percentEncode fits.percent]

/-- Bytes without separators are one part. -/
theorem cutBytes_of_not_mem {sep : UInt8} {bytes : List UInt8} (h : sep ∉ bytes) :
    cutBytes sep bytes = [bytes] := by
  induction bytes with
  | nil => rfl
  | cons b bytes ih =>
    obtain ⟨hfirst, hrest⟩ := not_or.1 (mt List.mem_cons.2 h)
    have hcut := ih hrest
    unfold cutBytes at hcut ⊢
    rw [List.foldr_cons, hcut, if_neg (Ne.symm hfirst)]

/-- A pair of a query whose parts are in percent notation is read back. -/
theorem formPairs_percentEncode (fits : FitsQuery escaped) (name value : List Char) :
    formPairs (encodeChars (percentEncode escaped name ++ '=' :: percentEncode escaped value)) =
      [(encodeChars name, encodeChars value)] := by
  have hequals : String.utf8EncodeChar '=' = [0x3D] := by decide
  have hname : ∀ b ∈ encodeChars (percentEncode escaped name), (b != 0x3D) = true := by
    intro b hb
    rw [bne_iff_ne]
    rintro rfl
    exact not_mem_encodeChars_percentEncode (by decide) fits.equals (by decide) name hb
  have hampersand (cs : List Char) : (0x26 : UInt8) ∉ encodeChars (percentEncode escaped cs) :=
    not_mem_encodeChars_percentEncode (by decide) fits.ampersand (by decide) cs
  rw [encodeChars_append, encodeChars_cons, hequals, List.singleton_append, formPairs,
    cutBytes_of_not_mem (by simp [hampersand])]
  simp [List.takeWhile_append_of_pos hname, List.dropWhile_append_of_pos hname,
    formDecode_percentEncode fits]

end SqlRelay.Text
