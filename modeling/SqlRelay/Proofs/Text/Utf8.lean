import SqlRelay.Proofs.Text.ByteOrder
/-!
# Texts and their bytes

The decoder reads the bytes of each character as this character, whatever stands before it, so the
bytes of a text are read as the text.

Main results:

- Theorem `Utf8.foldl_bytesOf`: the bytes of a code point, in each of the four forms.
- Theorem `Utf8.strict?_encode`: the bytes of a text are read as the text.
-/

namespace SqlRelay.Utf8

/-- Reads the number of a byte. -/
def readNumber (state : Pending × List (Option Char)) (b : Nat) : Pending × List (Option Char) :=
  ((step state.1 b).2, (step state.1 b).1.reverse ++ state.2)

/-- Reading bytes is reading their numbers. -/
theorem foldl_advance (bytes : List UInt8) (state : Pending × List (Option Char)) :
    bytes.foldl advance state = (bytes.map UInt8.toNat).foldl readNumber state := by
  rw [List.foldl_map]
  rfl

/-- A byte that begins a longer character is kept. -/
theorem readNumber_lead {b : Nat} {p : Pending} (h : lead b = some p) (owed : p.owed ≠ [])
    (back : List (Option Char)) : readNumber (idle, back) b = (p, back) := by
  have howed : p.owed.isEmpty = false := by simpa using owed
  simp [readNumber, step, idle, first, h, howed]

/-- A byte that fits and is not the last. -/
theorem readNumber_owed {value low high b : Nat} {owed : List (Nat × Nat)} (h : low ≤ b ∧ b ≤ high)
    (more : owed ≠ []) (back : List (Option Char)) :
    readNumber (⟨value, (low, high) :: owed⟩, back) b = (⟨value * 64 + b % 64, owed⟩, back) := by
  simp [readNumber, step, h, more]

/-- The last byte of a character gives it. -/
theorem readNumber_last {value low high b : Nat} (h : low ≤ b ∧ b ≤ high)
    (back : List (Option Char)) :
    readNumber (⟨value, [(low, high)]⟩, back) b =
      (idle, some (Char.ofNat (value * 64 + b % 64)) :: back) := by
  simp [readNumber, step, h]

/-! ## Characters -/

/-- The first byte of two. -/
theorem lead_two {n : Nat} (low : 0x7F < n) (high : n ≤ 0x7FF) :
    lead (0xC0 + n / 64) = some ⟨n / 64, [tail]⟩ := by
  rw [lead, if_neg (by omega), if_pos (by omega), Nat.add_sub_cancel_left]

/-- The first byte of three fixes which second bytes may follow. -/
theorem lead_three {n : Nat} (low : 0x7FF < n) (high : n ≤ 0xFFFF)
    (valid : n < 0xD800 ∨ 0xDFFF < n) :
    ∃ least greatest, lead (0xE0 + n / 4096) = some ⟨n / 4096, [(least, greatest), tail]⟩ ∧
      least ≤ 0x80 + n / 64 % 64 ∧ 0x80 + n / 64 % 64 ≤ greatest := by
  rw [lead, if_neg (by omega), if_neg (by omega)]
  by_cases hleast : n / 4096 = 0
  · exact ⟨0xA0, 0xBF, by simp [hleast], by omega, by omega⟩
  · rw [if_neg (by omega)]
    by_cases hsurrogate : n / 4096 = 0xD
    · exact ⟨0x80, 0x9F, by simp [hsurrogate], by omega, by omega⟩
    · rw [if_neg (by omega), if_pos (by omega), Nat.add_sub_cancel_left]
      exact ⟨0x80, 0xBF, rfl, by omega, by omega⟩

/-- So does the first byte of four. -/
theorem lead_four {n : Nat} (low : 0xFFFF < n) (high : n < 0x110000) :
    ∃ least greatest, lead (0xF0 + n / 262144) =
        some ⟨n / 262144, [(least, greatest), tail, tail]⟩ ∧
      least ≤ 0x80 + n / 4096 % 64 ∧ 0x80 + n / 4096 % 64 ≤ greatest := by
  rw [lead, if_neg (by omega), if_neg (by omega), if_neg (by omega), if_neg (by omega),
    if_neg (by omega)]
  by_cases hleast : n / 262144 = 0
  · exact ⟨0x90, 0xBF, by simp [hleast], by omega, by omega⟩
  · rw [if_neg (by omega)]
    by_cases hgreatest : n / 262144 = 4
    · exact ⟨0x80, 0x8F, by simp [hgreatest], by omega, by omega⟩
    · rw [if_pos (by omega), Nat.add_sub_cancel_left]
      exact ⟨0x80, 0xBF, rfl, by omega, by omega⟩

/-- The bytes of a code point are read as its character. -/
theorem foldl_bytesOf {n : Nat} (valid : n < 0xD800 ∨ 0xDFFF < n ∧ n < 0x110000)
    (back : List (Option Char)) :
    (bytesOf n).foldl readNumber (idle, back) = (idle, some (Char.ofNat n) :: back) := by
  have htail (m : Nat) : tail.1 ≤ 0x80 + m % 64 ∧ 0x80 + m % 64 ≤ tail.2 := by
    simp only [tail]
    omega
  unfold bytesOf
  split
  case isTrue hone => simp [readNumber, step, idle, first, lead, hone]
  case isFalse hone =>
    split
    case isTrue htwo =>
      have hvalue : n / 64 * 64 + (0x80 + n % 64) % 64 = n := by omega
      simp only [List.foldl_cons, List.foldl_nil]
      rw [readNumber_lead (lead_two (by omega) htwo) (by simp), readNumber_last (htail n), hvalue]
    case isFalse htwo =>
      split
      case isTrue hthree =>
        have hvalue : (n / 4096 * 64 + (0x80 + n / 64 % 64) % 64) * 64 +
            (0x80 + n % 64) % 64 = n := by
          omega
        obtain ⟨least, greatest, hlead, hsecond⟩ := lead_three (n := n) (by omega) hthree (by omega)
        simp only [List.foldl_cons, List.foldl_nil]
        rw [readNumber_lead hlead (by simp), readNumber_owed hsecond (by simp),
          readNumber_last (htail n), hvalue]
      case isFalse hthree =>
        have hvalue : ((n / 262144 * 64 + (0x80 + n / 4096 % 64) % 64) * 64 +
            (0x80 + n / 64 % 64) % 64) * 64 + (0x80 + n % 64) % 64 = n := by
          omega
        obtain ⟨least, greatest, hlead, hsecond⟩ := lead_four (n := n) (by omega) (by omega)
        simp only [List.foldl_cons, List.foldl_nil]
        rw [readNumber_lead hlead (by simp), readNumber_owed hsecond (by simp),
          readNumber_owed (htail _) (by simp), readNumber_last (htail n), hvalue]

/-- The bytes of a character are read as this character. -/
theorem foldl_advance_encodeChar (c : Char) (back : List (Option Char)) :
    (String.utf8EncodeChar c).foldl advance (idle, back) = (idle, some c :: back) := by
  have hvalid : c.toNat < 0xD800 ∨ 0xDFFF < c.toNat ∧ c.toNat < 0x110000 := c.valid
  rw [foldl_advance, map_toNat_encodeChar, foldl_bytesOf hvalid, Char.ofNat_toNat]

/-- A byte of a character is the character itself or lies beyond ASCII. -/
theorem mem_encodeChar {c : Char} {b : UInt8} (h : b ∈ String.utf8EncodeChar c) :
    b.toNat = c.toNat ∨ 0x80 ≤ b.toNat := by
  have hmem : b.toNat ∈ bytesOf c.toNat := by
    rw [← map_toNat_encodeChar]
    exact List.mem_map_of_mem h
  unfold bytesOf at hmem
  split at hmem
  · exact .inl (List.mem_singleton.1 hmem)
  · right
    split at hmem
    · simp only [List.mem_cons, List.not_mem_nil, or_false] at hmem
      omega
    · split at hmem
      · simp only [List.mem_cons, List.not_mem_nil, or_false] at hmem
        omega
      · simp only [List.mem_cons, List.not_mem_nil, or_false] at hmem
        omega

/-- The bytes of characters. -/
def encodeChars (cs : List Char) : List UInt8 :=
  cs.flatMap String.utf8EncodeChar

@[simp]
theorem encodeChars_nil : encodeChars [] = [] := rfl

theorem encodeChars_cons (c : Char) (cs : List Char) :
    encodeChars (c :: cs) = String.utf8EncodeChar c ++ encodeChars cs := rfl

theorem encodeChars_append (a b : List Char) :
    encodeChars (a ++ b) = encodeChars a ++ encodeChars b := by
  simp [encodeChars]

theorem encode_eq (s : String) : encode s = encodeChars s.toList := rfl

/-- The bytes of characters are read as these characters. -/
theorem foldl_advance_chars (cs : List Char) (back : List (Option Char)) :
    (encodeChars cs).foldl advance (idle, back) = (idle, (cs.map some).reverse ++ back) := by
  induction cs generalizing back with
  | nil => rfl
  | cons c cs ih =>
    rw [encodeChars_cons, List.foldl_append, foldl_advance_encodeChar, ih]
    simp

/-- Every text is decoded from its bytes. -/
theorem decode_encode (s : String) : decode (encode s) = s.toList.map some := by
  rw [decode, encode_eq, foldl_advance_chars]
  simp [idle]

/-- The bytes of a text are read as the text. -/
theorem strict?_encode (s : String) : strict? (encode s) = some s := by
  have hchars (cs : List Char) : (cs.map some).mapM id = some cs := by
    induction cs with
    | nil => rfl
    | cons c cs ih => simp [ih]
  rw [strict?, decode_encode, hchars]
  simp

/-- Nothing is lost of a text that was encoded. -/
theorem lossy_encode (s : String) : lossy (encode s) = s := by
  simp [lossy, decode_encode, Function.comp_def]

end SqlRelay.Utf8
