import SqlRelay.Number
import SqlRelay.Text.Utf8
import SqlRelay.Text.Notation
/-!
# Digests of texts

The digest SHA-256 over thirty-two-bit words: the message is padded to whole blocks of sixteen
words, each block is stretched to sixty-four words, and the rounds fold these into eight words.

Main results:

- Definition `Digest.sha256` gives the thirty-two bytes of the digest.
- Definition `Digest.fingerprint` shows the first six bytes of a text's digest.
-/

namespace SqlRelay.Digest

/-- The fractional parts of the cube roots of the first sixty-four primes. -/
def roundConstants : List UInt32 :=
  [0x428a2f98, 0x71374491, 0xb5c0fbcf, 0xe9b5dba5, 0x3956c25b, 0x59f111f1, 0x923f82a4, 0xab1c5ed5,
   0xd807aa98, 0x12835b01, 0x243185be, 0x550c7dc3, 0x72be5d74, 0x80deb1fe, 0x9bdc06a7, 0xc19bf174,
   0xe49b69c1, 0xefbe4786, 0x0fc19dc6, 0x240ca1cc, 0x2de92c6f, 0x4a7484aa, 0x5cb0a9dc, 0x76f988da,
   0x983e5152, 0xa831c66d, 0xb00327c8, 0xbf597fc7, 0xc6e00bf3, 0xd5a79147, 0x06ca6351, 0x14292967,
   0x27b70a85, 0x2e1b2138, 0x4d2c6dfc, 0x53380d13, 0x650a7354, 0x766a0abb, 0x81c2c92e, 0x92722c85,
   0xa2bfe8a1, 0xa81a664b, 0xc24b8b70, 0xc76c51a3, 0xd192e819, 0xd6990624, 0xf40e3585, 0x106aa070,
   0x19a4c116, 0x1e376c08, 0x2748774c, 0x34b0bcb5, 0x391c0cb3, 0x4ed8aa4a, 0x5b9cca4f, 0x682e6ff3,
   0x748f82ee, 0x78a5636f, 0x84c87814, 0x8cc70208, 0x90befffa, 0xa4506ceb, 0xbef9a3f7, 0xc67178f2]

/-- The eight words of the digest while it is folded. -/
structure Chain where
  a : UInt32
  b : UInt32
  c : UInt32
  d : UInt32
  e : UInt32
  f : UInt32
  g : UInt32
  h : UInt32

/-- The fractional parts of the square roots of the first eight primes. -/
def start : Chain :=
  ⟨0x6a09e667, 0xbb67ae85, 0x3c6ef372, 0xa54ff53a, 0x510e527f, 0x9b05688c, 0x1f83d9ab, 0x5be0cd19⟩

/-- The bytes of a number, the most significant of `count` first. -/
def bigEndian (count n : Nat) : List UInt8 :=
  (List.range count).map (fun i => UInt8.ofNat (n / power 256 (count - 1 - i)))

/-- A closing byte, zeros, and the length in bits fill the last block. -/
def pad (message : List UInt8) : List UInt8 :=
  message ++ 0x80 :: List.replicate ((119 - message.length % 64) % 64) 0 ++
    bigEndian 8 (message.length * 8)

/-- The words of a byte sequence, four bytes each. -/
def wordsOf : List UInt8 → List UInt32
  | a :: b :: c :: d :: rest =>
    (a.toUInt32 <<< 24 ||| b.toUInt32 <<< 16 ||| c.toUInt32 <<< 8 ||| d.toUInt32) :: wordsOf rest
  | _ => []

/-- Rotates a word to the right. -/
def rotate (x : UInt32) (n : UInt32) : UInt32 :=
  x >>> n ||| x <<< (32 - n)

/-- The next word of the schedule, from the words so far with the last one first. -/
def nextWord (back : List UInt32) : UInt32 :=
  let w2 := back.getD 1 0
  let w7 := back.getD 6 0
  let w15 := back.getD 14 0
  let w16 := back.getD 15 0
  let s0 := rotate w15 7 ^^^ rotate w15 18 ^^^ w15 >>> 3
  let s1 := rotate w2 17 ^^^ rotate w2 19 ^^^ w2 >>> 10
  w16 + s0 + w7 + s1

/-- Extends a schedule, last word first, by `count` words. -/
def extend : Nat → List UInt32 → List UInt32
  | 0, back => back
  | count + 1, back => extend count (nextWord back :: back)

/-- One round. -/
def round (s : Chain) (constant word : UInt32) : Chain :=
  let s1 := rotate s.e 6 ^^^ rotate s.e 11 ^^^ rotate s.e 25
  let choice := (s.e &&& s.f) ^^^ ((~~~ s.e) &&& s.g)
  let t1 := s.h + s1 + choice + constant + word
  let s0 := rotate s.a 2 ^^^ rotate s.a 13 ^^^ rotate s.a 22
  let majority := (s.a &&& s.b) ^^^ (s.a &&& s.c) ^^^ (s.b &&& s.c)
  ⟨t1 + (s0 + majority), s.a, s.b, s.c, s.d + t1, s.e, s.f, s.g⟩

/-- Folds one block of sixteen words into the digest. -/
def compress (s : Chain) (block : List UInt32) : Chain :=
  let schedule := (extend 48 block.reverse).reverse
  let t := (roundConstants.zip schedule).foldl (fun s kw => round s kw.1 kw.2) s
  ⟨s.a + t.a, s.b + t.b, s.c + t.c, s.d + t.d, s.e + t.e, s.f + t.f, s.g + t.g, s.h + t.h⟩

/-- Folds the first `count` blocks. -/
def compressAll : Nat → List UInt32 → Chain → Chain
  | 0, _, s => s
  | count + 1, words, s => compressAll count (words.drop 16) (compress s (words.take 16))

/-- The thirty-two bytes of the digest of a message. -/
def sha256 (message : List UInt8) : List UInt8 :=
  let words := wordsOf (pad message)
  let s := compressAll (words.length / 16) words start
  [s.a, s.b, s.c, s.d, s.e, s.f, s.g, s.h].flatMap (fun w => bigEndian 4 w.toNat)

/-- The first six bytes of the digest of a text, in hexadecimal. -/
def fingerprint (text : String) : String :=
  String.ofList (Text.hexText ((sha256 (Utf8.encode text)).take 6))

end SqlRelay.Digest
