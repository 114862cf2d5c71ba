/-!
# Hexadecimal, base 64 and percent notation

Byte sequences in three notations of ASCII characters.

Main results:

- Definition `hexValue?` reads one hexadecimal digit, `hexText` writes bytes.
- Definition `base64` writes bytes in groups of four characters with padding.
- Definitions `percentDecode` and `percentEncode` read and write `%XX`; a percent sign without two
  hexadecimal digits stands for itself.
- Definition `formPairs` reads the pairs of a form-encoded query.
-/

namespace SqlRelay.Text

/-- The value of a hexadecimal digit. -/
def hexValue? (c : Char) : Option Nat :=
  if '0' ≤ c ∧ c ≤ '9' then some (c.toNat - '0'.toNat)
  else if 'a' ≤ c ∧ c ≤ 'f' then some (c.toNat - 'a'.toNat + 10)
  else if 'A' ≤ c ∧ c ≤ 'F' then some (c.toNat - 'A'.toNat + 10)
  else none

/-- The number that hexadecimal digits write. -/
def hexNumber? (cs : List Char) : Option Nat :=
  if cs.isEmpty then none
  else cs.foldlM (fun n c => (hexValue? c).map (n * 16 + ·)) 0

/-- The digit of a value below sixteen, in lower case. -/
def hexDigit (n : Nat) : Char :=
  if n < 10 then Char.ofNat ('0'.toNat + n) else Char.ofNat ('a'.toNat + (n - 10))

/-- Two lower-case digits for each byte. -/
def hexText (bytes : List UInt8) : List Char :=
  bytes.flatMap (fun b => [hexDigit (b.toNat / 16), hexDigit (b.toNat % 16)])

/-- The bytes that pairs of hexadecimal digits write. -/
def hexBytes? : List Char → Option (List UInt8)
  | [] => some []
  | a :: b :: rest =>
    match hexValue? a, hexValue? b, hexBytes? rest with
    | some high, some low, some bytes => some (UInt8.ofNat (high * 16 + low) :: bytes)
    | _, _, _ => none
  | [_] => none

/-- The character of a six-bit value. -/
def base64Digit (n : Nat) : Char :=
  if n < 26 then Char.ofNat ('A'.toNat + n)
  else if n < 52 then Char.ofNat ('a'.toNat + (n - 26))
  else if n < 62 then Char.ofNat ('0'.toNat + (n - 52))
  else if n = 62 then '+' else '/'

/-- Bytes in base 64, padded with equals signs. -/
def base64 : List UInt8 → List Char
  | [] => []
  | [a] =>
    let n := a.toNat * 16
    [base64Digit (n / 64), base64Digit (n % 64), '=', '=']
  | [a, b] =>
    let n := (a.toNat * 256 + b.toNat) * 4
    [base64Digit (n / 4096), base64Digit (n / 64 % 64), base64Digit (n % 64), '=']
  | a :: b :: c :: rest =>
    let n := (a.toNat * 256 + b.toNat) * 256 + c.toNat
    base64Digit (n / 262144) :: base64Digit (n / 4096 % 64) :: base64Digit (n / 64 % 64) ::
      base64Digit (n % 64) :: base64 rest

/-! ## Percent notation and form-encoded queries -/

/-- The byte of a percent sign. -/
def percentSign : UInt8 := 0x25

/-- The value of a byte that is a hexadecimal digit. -/
def hexByte? (b : UInt8) : Option Nat :=
  hexValue? (Char.ofNat b.toNat)

/-- Reads each percent sign with two hexadecimal digits as one byte. -/
def percentDecode : List UInt8 → List UInt8
  | [] => []
  | [b] => [b]
  | [b, c] => [b, c]
  | b :: high :: low :: rest =>
    if b = percentSign then
      match hexByte? high, hexByte? low with
      | some h, some l => UInt8.ofNat (h * 16 + l) :: percentDecode rest
      | _, _ => b :: percentDecode (high :: low :: rest)
    else b :: percentDecode (high :: low :: rest)

/-- The upper-case digit of a value below sixteen. -/
def upperHexDigit (n : Nat) : Char :=
  (hexDigit n).toUpper

/-- Writes one byte as a percent sign and two upper-case digits. -/
def percentByte (b : UInt8) : List Char :=
  ['%', upperHexDigit (b.toNat / 16), upperHexDigit (b.toNat % 16)]

/-- Writes the characters that `escaped` accepts byte by byte, all others as they are. -/
def percentEncode (escaped : Char → Bool) (cs : List Char) : List Char :=
  cs.flatMap (fun c =>
    if escaped c then (String.utf8EncodeChar c).flatMap percentByte else [c])

/-- Cuts bytes at each `sep`. -/
def cutBytes (sep : UInt8) (bytes : List UInt8) : List (List UInt8) :=
  bytes.foldr (fun b parts =>
    if b = sep then [] :: parts
    else match parts with
      | [] => [[b]]
      | part :: more => (b :: part) :: more) [[]]

/-- A plus sign is a blank, then percent notation. -/
def formDecode (bytes : List UInt8) : List UInt8 :=
  percentDecode (bytes.map (fun b => if b = 0x2B then 0x20 else b))

/-- The pairs between ampersands, each cut at its first equals sign; empty parts are none. -/
def formPairs (bytes : List UInt8) : List (List UInt8 × List UInt8) :=
  ((cutBytes 0x26 bytes).filter (fun part => !part.isEmpty)).map (fun part =>
    (formDecode (part.takeWhile (· != 0x3D)), formDecode ((part.dropWhile (· != 0x3D)).drop 1)))

end SqlRelay.Text
