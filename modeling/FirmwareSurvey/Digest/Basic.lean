import FirmwareSurvey.Text.Numeral

/-!
# SHA-256

The digest of a message is eight words of thirty-two bits. They start as the fractional parts of the
square roots of the first primes, and the message is stirred into them sixteen words at a time: the
words of a block are stretched to one for each of sixty-four rounds, and a round adds its word and
the fractional part of the cube root of a prime.
-/

namespace FirmwareSurvey.Digest

/-- The words of a digest. -/
structure Words where
  /-- The first word. -/
  a : UInt32
  /-- The second word. -/
  b : UInt32
  /-- The third word. -/
  c : UInt32
  /-- The fourth word. -/
  d : UInt32
  /-- The fifth word. -/
  e : UInt32
  /-- The sixth word. -/
  f : UInt32
  /-- The seventh word. -/
  g : UInt32
  /-- The eighth word. -/
  h : UInt32
deriving DecidableEq

/-- The fractional parts of the square roots of the first eight primes. -/
def start : Words :=
  ⟨0x6A09E667, 0xBB67AE85, 0x3C6EF372, 0xA54FF53A, 0x510E527F, 0x9B05688C, 0x1F83D9AB,
    0x5BE0CD19⟩

/-- The fractional parts of the cube roots of the first sixty-four primes. -/
def roundConstants : List UInt32 := [
  0x428A2F98, 0x71374491, 0xB5C0FBCF, 0xE9B5DBA5, 0x3956C25B, 0x59F111F1, 0x923F82A4, 0xAB1C5ED5,
  0xD807AA98, 0x12835B01, 0x243185BE, 0x550C7DC3, 0x72BE5D74, 0x80DEB1FE, 0x9BDC06A7, 0xC19BF174,
  0xE49B69C1, 0xEFBE4786, 0x0FC19DC6, 0x240CA1CC, 0x2DE92C6F, 0x4A7484AA, 0x5CB0A9DC, 0x76F988DA,
  0x983E5152, 0xA831C66D, 0xB00327C8, 0xBF597FC7, 0xC6E00BF3, 0xD5A79147, 0x06CA6351, 0x14292967,
  0x27B70A85, 0x2E1B2138, 0x4D2C6DFC, 0x53380D13, 0x650A7354, 0x766A0ABB, 0x81C2C92E, 0x92722C85,
  0xA2BFE8A1, 0xA81A664B, 0xC24B8B70, 0xC76C51A3, 0xD192E819, 0xD6990624, 0xF40E3585, 0x106AA070,
  0x19A4C116, 0x1E376C08, 0x2748774C, 0x34B0BCB5, 0x391C0CB3, 0x4ED8AA4A, 0x5B9CCA4F, 0x682E6FF3,
  0x748F82EE, 0x78A5636F, 0x84C87814, 0x8CC70208, 0x90BEFFFA, 0xA4506CEB, 0xBEF9A3F7, 0xC67178F2]

/-- A word turned to the right. -/
def turn (x places : UInt32) : UInt32 := x >>> places ||| x <<< (32 - places)

/-- The mixture of a word of a block that stands fifteen places before the one to find. -/
def nearMix (x : UInt32) : UInt32 := turn x 7 ^^^ turn x 18 ^^^ x >>> 3

/-- The mixture of a word of a block that stands two places before the one to find. -/
def farMix (x : UInt32) : UInt32 := turn x 17 ^^^ turn x 19 ^^^ x >>> 10

namespace Words

/-- One round: a word is stirred in, and the words move on by one place. -/
def round (s : Words) (word : UInt32) : Words :=
  let choice := (s.e &&& s.f) ^^^ (~~~s.e &&& s.g)
  let majority := (s.a &&& s.b) ^^^ (s.a &&& s.c) ^^^ (s.b &&& s.c)
  let first := s.h + (turn s.e 6 ^^^ turn s.e 11 ^^^ turn s.e 25) + choice + word
  let second := (turn s.a 2 ^^^ turn s.a 13 ^^^ turn s.a 22) + majority
  ⟨first + second, s.a, s.b, s.c, s.d + first, s.e, s.f, s.g⟩

/-- Rounds, one for each constant. The next sixteen words of the block stand in `window`. -/
def rounds (s : Words) (window : List UInt32) : List UInt32 → Words
  | [] => s
  | k :: ks =>
    match window with
    | [] => s
    | w :: later =>
      let next := w + nearMix (later.getD 0 0) + later.getD 8 0 + farMix (later.getD 13 0)
      rounds (s.round (k + w)) (later ++ [next]) ks

/-- The sum of words, place by place. -/
def add (s t : Words) : Words :=
  ⟨s.a + t.a, s.b + t.b, s.c + t.c, s.d + t.d, s.e + t.e, s.f + t.f, s.g + t.g, s.h + t.h⟩

/-- Stirs a block of sixteen words in. -/
def stir (s : Words) (block : List UInt32) : Words := s.add (s.rounds block roundConstants)

/-- Stirs bytes in, four to a word with the highest byte first, block by block; `block` holds the
words of the block begun. -/
def stirBytes (s : Words) (block : List UInt32) : List UInt8 → Words
  | b₀ :: b₁ :: b₂ :: b₃ :: rest =>
    let word := b₀.toUInt32 <<< 24 ||| b₁.toUInt32 <<< 16 ||| b₂.toUInt32 <<< 8 ||| b₃.toUInt32
    if block.length = 15 then stirBytes (s.stir (block ++ [word])) [] rest
    else stirBytes s (block ++ [word]) rest
  | _ => s

/-- The words in order. -/
def toList (s : Words) : List UInt32 := [s.a, s.b, s.c, s.d, s.e, s.f, s.g, s.h]

end Words

/-- The eight bytes of a number, the highest first. -/
def lengthBytes (n : Nat) : List UInt8 :=
  [56, 48, 40, 32, 24, 16, 8, 0].map fun place => (n >>> place).toUInt8

/-- A message filled up to whole blocks: a single bit, zeros, and the number of its bits. -/
def padded (message : List UInt8) : List UInt8 :=
  let zeros := (119 - message.length % 64) % 64
  message ++ 0x80 :: (List.replicate zeros 0 ++ lengthBytes (8 * message.length))

/-- The digest of a message. -/
def sha256 (message : List UInt8) : Words := start.stirBytes [] (padded message)

/-- The eight hexadecimal digits of a word. -/
def wordDigits (w : UInt32) : List Char := Text.padZeros 8 (Nat.toDigits 16 w.toNat)

/-- A digest in hexadecimal digits. -/
def Words.digits (s : Words) : List Char := s.toList.flatMap wordDigits

end FirmwareSurvey.Digest

/-!
## MD5 and SHA-1

Two older digests, of four and of five words. Both stir a message in sixteen words at a time, as
SHA-256 does; MD5 reads words with the lowest byte first, and both count rounds in rows, each with a
mixture of its own.
-/

namespace FirmwareSurvey.Digest

/-- A word turned to the left. -/
def turnLeft (x places : UInt32) : UInt32 := x <<< places ||| x >>> (32 - places)

/-- The eight bytes of a number, the lowest first. -/
def lowLengthBytes (n : Nat) : List UInt8 := (lengthBytes n).reverse

/-- The word of four bytes, the highest first. -/
def wordOf : List UInt8 → UInt32
  | [a, b, c, d] => a.toUInt32 <<< 24 ||| b.toUInt32 <<< 16 ||| c.toUInt32 <<< 8 ||| d.toUInt32
  | _ => 0

/-- The bytes of a word, the highest first. -/
def wordBytes (w : UInt32) : List UInt8 :=
  [(w >>> 24).toUInt8, (w >>> 16).toUInt8, (w >>> 8).toUInt8, w.toUInt8]

/-- The words of bytes, four to a word; `isLow` tells whether the lowest byte comes first. -/
def wordsOf (isLow : Bool) : List UInt8 → List UInt32
  | a :: b :: c :: d :: rest =>
    wordOf (if isLow then [d, c, b, a] else [a, b, c, d]) :: wordsOf isLow rest
  | _ => []

/-- Goes through words in blocks of sixteen. -/
def overBlocks {α : Type} (stir : α → List UInt32 → α) : Nat → α → List UInt32 → α
  | 0, s, _ => s
  | fuel + 1, s, words =>
    if words.length < 16 then s
    else overBlocks stir fuel (stir s (words.take 16)) (words.drop 16)

/-- A message filled up to whole blocks for MD5. -/
def lowPadded (message : List UInt8) : List UInt8 :=
  let zeros := (119 - message.length % 64) % 64
  message ++ 0x80 :: (List.replicate zeros 0 ++ lowLengthBytes (8 * message.length))

/-! ### MD5 -/

/-- The whole parts of the sines of the numbers from one on, without their signs, times the number of
words. -/
def sines : List UInt32 := [
  0xD76AA478, 0xE8C7B756, 0x242070DB, 0xC1BDCEEE, 0xF57C0FAF, 0x4787C62A, 0xA8304613, 0xFD469501,
  0x698098D8, 0x8B44F7AF, 0xFFFF5BB1, 0x895CD7BE, 0x6B901122, 0xFD987193, 0xA679438E, 0x49B40821,
  0xF61E2562, 0xC040B340, 0x265E5A51, 0xE9B6C7AA, 0xD62F105D, 0x02441453, 0xD8A1E681, 0xE7D3FBC8,
  0x21E1CDE6, 0xC33707D6, 0xF4D50D87, 0x455A14ED, 0xA9E3E905, 0xFCEFA3F8, 0x676F02D9, 0x8D2A4C8A,
  0xFFFA3942, 0x8771F681, 0x6D9D6122, 0xFDE5380C, 0xA4BEEA44, 0x4BDECFA9, 0xF6BB4B60, 0xBEBFBC70,
  0x289B7EC6, 0xEAA127FA, 0xD4EF3085, 0x04881D05, 0xD9D4D039, 0xE6DB99E5, 0x1FA27CF8, 0xC4AC5665,
  0xF4292244, 0x432AFF97, 0xAB9423A7, 0xFC93A039, 0x655B59C3, 0x8F0CCC92, 0xFFEFF47D, 0x85845DD1,
  0x6FA87E4F, 0xFE2CE6E0, 0xA3014314, 0x4E0811A1, 0xF7537E82, 0xBD3AF235, 0x2AD7D2BB, 0xEB86D391]

/-- How far the rounds of a row turn words. -/
def md5Turns : Nat → List UInt32
  | 0 => [7, 12, 17, 22]
  | 1 => [5, 9, 14, 20]
  | 2 => [4, 11, 16, 23]
  | _ => [6, 10, 15, 21]

/-- One round of MD5 with its number and the number of its own. -/
def md5Round (block : Array UInt32) (s : List UInt32) (round : Nat × UInt32) : List UInt32 :=
  match s with
  | [a, b, c, d] =>
    let (n, k) := round
    let (mix, place) := match n / 16 with
      | 0 => ((b &&& c) ||| (~~~b &&& d), n)
      | 1 => ((d &&& b) ||| (~~~d &&& c), 5 * n + 1)
      | 2 => (b ^^^ c ^^^ d, 3 * n + 5)
      | _ => (c ^^^ (b ||| ~~~d), 7 * n)
    let sum := a + mix + k + block.getD (place % 16) 0
    [d, b + turnLeft sum ((md5Turns (n / 16)).getD (n % 4) 0), b, c]
  | s => s

/-- Stirs a block into the words of MD5. -/
def md5Stir (s : List UInt32) (block : List UInt32) : List UInt32 :=
  let rounds := (List.range 64).zip sines
  List.zipWith (· + ·) s (rounds.foldl (md5Round block.toArray) s)

/-- The MD5 digest of a message. -/
def md5 (message : List UInt8) : List UInt8 :=
  let words := wordsOf true (lowPadded message)
  let s := overBlocks md5Stir words.length [0x67452301, 0xEFCDAB89, 0x98BADCFE, 0x10325476] words
  s.flatMap fun w => (wordBytes w).reverse

/-! ### SHA-1 -/

/-- One round of SHA-1 with its number and its word. -/
def sha1Round (s : List UInt32) (round : Nat × UInt32) : List UInt32 :=
  match s with
  | [a, b, c, d, e] =>
    let (n, word) := round
    let (mix, k) : UInt32 × UInt32 := match n / 20 with
      | 0 => ((b &&& c) ||| (~~~b &&& d), 0x5A827999)
      | 1 => (b ^^^ c ^^^ d, 0x6ED9EBA1)
      | 2 => ((b &&& c) ||| (b &&& d) ||| (c &&& d), 0x8F1BBCDC)
      | _ => (b ^^^ c ^^^ d, 0xCA62C1D6)
    [turnLeft a 5 + mix + e + k + word, a, turnLeft b 30, c, d]
  | s => s

/-- The words of the rounds for a block: those of the block first, then mixtures of earlier ones.
The last sixteen stand in `window`. -/
def sha1Words : Nat → List UInt32 → List UInt32
  | 0, _ => []
  | count + 1, window =>
    let next := turnLeft
      (window.getD 13 0 ^^^ window.getD 8 0 ^^^ window.getD 2 0 ^^^ window.getD 0 0) 1
    window.getD 0 0 :: sha1Words count (window.drop 1 ++ [next])

/-- Stirs a block into the words of SHA-1. -/
def sha1Stir (s : List UInt32) (block : List UInt32) : List UInt32 :=
  let rounds := (List.range 80).zip (sha1Words 80 block)
  List.zipWith (· + ·) s (rounds.foldl sha1Round s)

/-- The SHA-1 digest of a message. -/
def sha1 (message : List UInt8) : List UInt8 :=
  let words := wordsOf false (padded message)
  let start := [0x67452301, 0xEFCDAB89, 0x98BADCFE, 0x10325476, 0xC3D2E1F0]
  (overBlocks sha1Stir words.length start words).flatMap wordBytes

end FirmwareSurvey.Digest
