import SqlRelay.Text.Notation
/-!
# The base 64 form of bytes

Four characters of the alphabet write twenty-four bits, as three bytes do.  What is left at the end
is one byte or two, whose bits are filled up with zeros, and padding stands for the characters that
are missing.

Main results:

- Definition `Base64Of` says which text is the base 64 form of bytes.
- Theorem `base64Of_base64`: the text that is written for bytes is their base 64 form.
-/

namespace SqlRelay.Text

/-- The characters in the order of their values. -/
def base64Alphabet : List Char :=
  "ABCDEFGHIJKLMNOPQRSTUVWXYZabcdefghijklmnopqrstuvwxyz0123456789+/".toList

/-- The number that characters write, with six bits each. -/
def base64Number? (cs : List Char) : Option Nat :=
  cs.foldlM (fun n c => (base64Alphabet.idxOf? c).map (n * 64 + ·)) 0

/-- The text is the base 64 form of the bytes. -/
inductive Base64Of : List UInt8 → List Char → Prop
  | done : Base64Of [] []
  | one {a : UInt8} {text : List Char} (length : text.length = 2)
      (number : base64Number? text = some (a.toNat * 16)) : Base64Of [a] (text ++ ['=', '='])
  | two {a b : UInt8} {text : List Char} (length : text.length = 3)
      (number : base64Number? text = some ((a.toNat * 256 + b.toNat) * 4)) :
      Base64Of [a, b] (text ++ ['='])
  | three {a b c : UInt8} {bytes : List UInt8} {text more : List Char} (length : text.length = 4)
      (number : base64Number? text = some ((a.toNat * 256 + b.toNat) * 256 + c.toNat))
      (rest : Base64Of bytes more) : Base64Of (a :: b :: c :: bytes) (text ++ more)

/-- A value has its place in the alphabet. -/
theorem idxOf?_base64Digit {n : Nat} (h : n < 64) :
    base64Alphabet.idxOf? (base64Digit n) = some n := by
  have hall : ∀ n < 64, base64Alphabet.idxOf? (base64Digit n) = some n := by decide
  exact hall n h

/-- Digits are read as the number they write. -/
theorem base64Number?_digits {values : List Nat} (h : ∀ n ∈ values, n < 64) :
    base64Number? (values.map base64Digit) =
      some (values.foldl (fun number n => number * 64 + n) 0) := by
  unfold base64Number?
  generalize 0 = start
  induction values generalizing start with
  | nil => rfl
  | cons n values ih =>
    rw [List.map_cons, List.foldlM_cons, idxOf?_base64Digit (h n List.mem_cons_self)]
    exact ih (fun m hm => h m (List.mem_cons_of_mem _ hm)) (start * 64 + n)

/-- The text that is written for bytes is their base 64 form. -/
theorem base64Of_base64 (bytes : List UInt8) : Base64Of bytes (base64 bytes) := by
  fun_induction base64 bytes with
  | case1 => exact .done
  | case2 a n =>
    have ha := a.toNat_lt
    have hnumber : base64Number? ([n / 64, n % 64].map base64Digit) = some (a.toNat * 16) := by
      rw [base64Number?_digits (by simp; omega)]
      simp only [List.foldl_cons, List.foldl_nil, Option.some.injEq]
      omega
    exact Base64Of.one rfl hnumber
  | case3 a b n =>
    have ha := a.toNat_lt
    have hb := b.toNat_lt
    have hnumber : base64Number? ([n / 4096, n / 64 % 64, n % 64].map base64Digit) =
        some ((a.toNat * 256 + b.toNat) * 4) := by
      rw [base64Number?_digits (by simp; omega)]
      simp only [List.foldl_cons, List.foldl_nil, Option.some.injEq]
      omega
    exact Base64Of.two rfl hnumber
  | case4 a b c rest n ih =>
    have ha := a.toNat_lt
    have hb := b.toNat_lt
    have hc := c.toNat_lt
    have hnumber : base64Number?
        ([n / 262144, n / 4096 % 64, n / 64 % 64, n % 64].map base64Digit) =
          some ((a.toNat * 256 + b.toNat) * 256 + c.toNat) := by
      rw [base64Number?_digits (by simp; omega)]
      simp only [List.foldl_cons, List.foldl_nil, Option.some.injEq]
      omega
    exact Base64Of.three rfl hnumber ih

/-- One byte is written with two padding characters. -/
example : base64 [0xFB] = ['+', 'w', '=', '='] := by decide

end SqlRelay.Text
