import SqlRelay.Text.Utf8
/-!
# The order of texts and of their bytes

UTF-8 keeps the order of code points: of two texts the one whose bytes come first comes first
itself.

Main results:

- Theorem `Utf8.bytesOf_append_lt`: a lesser code point has lesser bytes, whatever follows.
- Theorem `Utf8.encode_lt_iff`: texts compare as their bytes do.
-/

namespace SqlRelay.Utf8

/-- The bytes of a code point. -/
def bytesOf (n : Nat) : List Nat :=
  if n ≤ 0x7F then [n]
  else if n ≤ 0x7FF then [0xC0 + n / 64, 0x80 + n % 64]
  else if n ≤ 0xFFFF then [0xE0 + n / 4096, 0x80 + n / 64 % 64, 0x80 + n % 64]
  else [0xF0 + n / 262144, 0x80 + n / 4096 % 64, 0x80 + n / 64 % 64, 0x80 + n % 64]

/-- The bytes of a character are those of its code point. -/
theorem map_toNat_encodeChar (c : Char) :
    (String.utf8EncodeChar c).map UInt8.toNat = bytesOf c.toNat := by
  have hcode : c.toNat = c.val.toNat := rfl
  have hvalid : c.val.toNat < 0x110000 := by
    rcases c.valid with h | ⟨-, h⟩
    · omega
    · exact h
  rw [hcode]
  unfold String.utf8EncodeChar bytesOf
  dsimp only
  split
  · simp; omega
  · split
    · simp; omega
    · split
      · simp; omega
      · simp; omega

/-- Lists of one length that differ compare alike, whatever follows. -/
theorem append_lt_append {as bs : List Nat} (h : as < bs) (hlength : as.length = bs.length)
    (xs ys : List Nat) : as ++ xs < bs ++ ys := by
  induction h with
  | nil => simp at hlength
  | rel hlt => exact List.Lex.rel hlt
  | cons _ ih => exact List.Lex.cons (ih (by simpa using hlength))

/-- The bytes of a lesser code point are less at the first place where they differ. -/
theorem bytesOf_append_lt {m n : Nat} (h : m < n) (xs ys : List Nat) :
    bytesOf m ++ xs < bytesOf n ++ ys := by
  -- a shorter form has a lesser first byte; forms of one length compare digit by digit
  have hfirst : ∀ {a b : Nat} (as bs : List Nat), a < b → a :: as < b :: bs :=
    fun _ _ hlt => List.Lex.rel hlt
  unfold bytesOf
  by_cases hm₁ : m ≤ 0x7F
  · rw [if_pos hm₁]
    split
    · exact hfirst _ _ h
    · split
      · exact hfirst _ _ (by omega)
      · split
        · exact hfirst _ _ (by omega)
        · exact hfirst _ _ (by omega)
  · rw [if_neg hm₁, if_neg (show ¬ n ≤ 0x7F by omega)]
    by_cases hm₂ : m ≤ 0x7FF
    · rw [if_pos hm₂]
      split
      · refine append_lt_append ?_ (by rfl) xs ys
        simp only [List.cons_lt_cons_iff, List.not_lt_nil, and_false, or_false]
        omega
      · split
        · exact hfirst _ _ (by omega)
        · exact hfirst _ _ (by omega)
    · rw [if_neg hm₂, if_neg (show ¬ n ≤ 0x7FF by omega)]
      by_cases hm₃ : m ≤ 0xFFFF
      · rw [if_pos hm₃]
        split
        · refine append_lt_append ?_ (by rfl) xs ys
          simp only [List.cons_lt_cons_iff, List.not_lt_nil, and_false, or_false]
          omega
        · exact hfirst _ _ (by omega)
      · rw [if_neg hm₃, if_neg (show ¬ n ≤ 0xFFFF by omega)]
        refine append_lt_append ?_ (by rfl) xs ys
        simp only [List.cons_lt_cons_iff, List.not_lt_nil, and_false, or_false]
        omega

theorem map_toNat_lt_iff (xs ys : List UInt8) :
    xs.map UInt8.toNat < ys.map UInt8.toNat ↔ xs < ys := by
  induction xs generalizing ys with
  | nil => cases ys <;> simp
  | cons x xs ih =>
    cases ys with
    | nil => simp
    | cons y ys =>
      simp only [List.map_cons, List.cons_lt_cons_iff, ih, UInt8.lt_iff_toNat_lt, UInt8.toNat_inj]

/-- The bytes of a lesser character are less, whatever follows. -/
theorem encodeChar_append_lt {c d : Char} (h : c < d) (xs ys : List UInt8) :
    String.utf8EncodeChar c ++ xs < String.utf8EncodeChar d ++ ys := by
  rw [← map_toNat_lt_iff, List.map_append, List.map_append, map_toNat_encodeChar,
    map_toNat_encodeChar]
  exact bytesOf_append_lt h _ _

/-! ## Texts -/

/-- Texts are ordered as their bytes are. -/
theorem flatMap_encodeChar_lt {cs ds : List Char} (h : cs < ds) :
    cs.flatMap String.utf8EncodeChar < ds.flatMap String.utf8EncodeChar := by
  induction h with
  | @nil d _ =>
    cases hbytes : String.utf8EncodeChar d with
    | nil => simp [String.utf8EncodeChar_ne_nil] at hbytes
    | cons b bs =>
      rw [List.flatMap_cons, hbytes]
      exact List.Lex.nil
  | rel hlt => exact encodeChar_append_lt hlt _ _
  | cons _ ih =>
    rw [List.flatMap_cons, List.flatMap_cons]
    exact List.append_left_lt ih

/-- Texts compare as their bytes do. -/
theorem encode_lt_iff (s t : String) : encode s < encode t ↔ s < t := by
  constructor
  · intro hbytes
    apply Classical.byContradiction
    intro hst
    by_cases hts : t < s
    · exact List.lt_asymm hbytes (flatMap_encodeChar_lt hts)
    · have hsame : s = t := String.le_antisymm (String.not_lt.1 hts) (String.not_lt.1 hst)
      rw [hsame] at hbytes
      exact List.lt_irrefl _ hbytes
  · intro h
    exact flatMap_encodeChar_lt h

end SqlRelay.Utf8
