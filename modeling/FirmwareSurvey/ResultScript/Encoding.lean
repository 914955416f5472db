import FirmwareSurvey.Text.Numeral
import FirmwareSurvey.Text.Octets

/-!
# Characters as bytes

A text is written as bytes in one of a few encodings. Bytes that are no text in an encoding, and
characters that an encoding cannot write, are either refused, with the place and the reason, or left
out, or replaced.
-/

namespace FirmwareSurvey.ResultScript

/-- How characters are written as bytes. -/
inductive Encoding where
  /-- One to four bytes for a character. -/
  | utf8
  /-- The same, behind a mark. -/
  | marked
  /-- One byte, for the characters below 128. -/
  | ascii
  /-- One byte, for the characters below 256. -/
  | latin
  /-- Units of two bytes; whether the higher byte comes first. -/
  | wide (isBig : Bool)
deriving DecidableEq

/-- Why bytes are no text, or a text cannot be written: from which place to which one, and the
wording. -/
structure EncodingFlaw where
  /-- The first place. -/
  start : Nat
  /-- The place behind the last one. -/
  stop : Nat
  /-- The wording. -/
  reason : String

namespace Encoding

/-- The encoding of a name. -/
def ofName? (name : List Char) : Option Encoding :=
  let plain := String.ofList ((name.map Char.toLower).map fun c => if c = '_' || c = ' ' then '-' else c)
  if ["utf-8", "utf8", "u8", "utf", "cp65001"].contains plain then some .utf8
  else if ["utf-8-sig", "utf8-sig"].contains plain then some .marked
  else if ["ascii", "us-ascii", "646"].contains plain then some .ascii
  else if ["latin-1", "latin1", "iso-8859-1", "iso8859-1", "8859", "cp819", "l1"].contains plain then
    some .latin
  else if ["utf-16-le", "utf-16le", "utf16-le"].contains plain then some (.wide false)
  else if ["utf-16-be", "utf-16be", "utf16-be"].contains plain then some (.wide true)
  else none

/-- The name of an encoding in a complaint. -/
def text : Encoding → String
  | .utf8 => "utf-8"
  | .marked => "utf-8"
  | .ascii => "ascii"
  | .latin => "latin-1"
  | .wide false => "utf-16-le"
  | .wide true => "utf-16-be"

/-- Reads the rest of a character: the character, or why there is none, with how many bytes were
read. -/
def characterFrom (p : Text.Pending) (read : Nat) : List UInt8 → Except String Char × Nat
  | [] => (.error "unexpected end of data", read)
  | b :: bytes =>
    let n := b.toNat
    if p.low ≤ n && n ≤ p.high then
      let value := p.value * 64 + (n - 0x80)
      if p.missing = 1 then (.ok (Char.ofNat value), read + 1)
      else characterFrom ⟨value, p.missing - 1, 0x80, 0xBF⟩ (read + 1) bytes
    else (.error "invalid continuation byte", read)

/-- Reads a character. -/
def character (e : Encoding) : List UInt8 → Except String Char × Nat
  | [] => (.error "unexpected end of data", 0)
  | b :: bytes =>
    let n := b.toNat
    match e with
    | .latin => (.ok (Char.ofNat n), 1)
    | .ascii => if n < 128 then (.ok (Char.ofNat n), 1) else (.error "ordinal not in range(128)", 1)
    | .wide isBig =>
      let unit? (bytes : List UInt8) : Option Nat :=
        match bytes with
        | a :: b :: _ =>
          some (if isBig then a.toNat * 256 + b.toNat else b.toNat * 256 + a.toNat)
        | _ => none
      match unit? (b :: bytes) with
      | none => (.error "truncated data", 1)
      | some unit =>
        if unit < 0xD800 || 0xE000 ≤ unit then (.ok (Char.ofNat unit), 2)
        else if 0xDC00 ≤ unit then (.error "illegal encoding", 2)
        else
          match unit? (bytes.drop 1) with
          | none => (.error "unexpected end of data", 2)
          | some second =>
            if 0xDC00 ≤ second && second < 0xE000 then
              (.ok (Char.ofNat (0x10000 + (unit - 0xD800) * 0x400 + (second - 0xDC00))), 4)
            else (.error "illegal UTF-16 surrogate", 2)
    | _ =>
      match Text.firstByte n with
      | (some c, none) => if n < 0x80 then (.ok c, 1) else (.error "invalid start byte", 1)
      | (_, some p) => characterFrom p 1 bytes
      | (none, none) => (.error "invalid start byte", 1)

/-- Reads characters; `place` counts the bytes before them. What is no text is dealt with as `errors`
says. `fuel` bounds the number of bytes. -/
def charactersFrom (e : Encoding) (errors : String) :
    Nat → Nat → List Char → List UInt8 → Except EncodingFlaw (List Char)
  | 0, _, read, _ => .ok read.reverse
  | _ + 1, _, read, [] => .ok read.reverse
  | fuel + 1, place, read, b :: bytes =>
    match e.character (b :: bytes) with
    | (.ok c, n) => charactersFrom e errors fuel (place + n) (c :: read) ((b :: bytes).drop n)
    | (.error reason, n) =>
      let bad := (b :: bytes).take n
      let rest := (b :: bytes).drop n
      let goOn (cs : List Char) := charactersFrom e errors fuel (place + n) (cs.reverse ++ read) rest
      if errors == "ignore" then goOn []
      else if errors == "replace" || errors == "surrogateescape" then goOn [Text.replacement]
      else if errors == "backslashreplace" then
        goOn (bad.flatMap fun b =>
          '\\' :: 'x' :: Text.padZeros 2 (Nat.toDigits 16 b.toNat))
      else .error ⟨place, place + n, reason⟩

/-- The text of bytes. -/
def decode (e : Encoding) (errors : String) (bytes : List UInt8) :
    Except EncodingFlaw (List Char) :=
  let bytes := match e, bytes with
    | .marked, 0xEF :: 0xBB :: 0xBF :: rest => rest
    | _, bytes => bytes
  charactersFrom e errors (bytes.length + 1) 0 [] bytes

/-- The bytes of a unit of two bytes. -/
def unitBytes (isBig : Bool) (n : Nat) : List UInt8 :=
  let high := (n / 256).toUInt8
  let low := (n % 256).toUInt8
  if isBig then [high, low] else [low, high]

/-- The bytes of a character; none when it cannot be written. -/
def bytesOf? (e : Encoding) (c : Char) : Option (List UInt8) :=
  let n := c.toNat
  match e with
  | .ascii => if n < 128 then some [n.toUInt8] else none
  | .latin => if n < 256 then some [n.toUInt8] else none
  | .wide isBig =>
    if n < 0x10000 then some (unitBytes isBig n)
    else
      some (unitBytes isBig (0xD800 + (n - 0x10000) / 0x400) ++
        unitBytes isBig (0xDC00 + (n - 0x10000) % 0x400))
  | _ => some (String.singleton c).toUTF8.data.toList

/-- The bytes of characters; `place` counts the characters before them. -/
def bytesFrom (e : Encoding) (errors : String) :
    Nat → List UInt8 → List Char → Except EncodingFlaw (List UInt8)
  | _, written, [] => .ok written.reverse
  | place, written, c :: cs =>
    match e.bytesOf? c with
    | some bytes => bytesFrom e errors (place + 1) (bytes.reverse ++ written) cs
    | none =>
      let goOn (text : List Char) :=
        bytesFrom e errors (place + 1) ((text.map fun c => c.toNat.toUInt8).reverse ++ written) cs
      if errors == "ignore" then goOn []
      else if errors == "replace" then goOn ['?']
      else if errors == "backslashreplace" then
        let n := c.toNat
        goOn (if n < 0x100 then '\\' :: 'x' :: Text.padZeros 2 (Nat.toDigits 16 n)
          else if n < 0x10000 then '\\' :: 'u' :: Text.padZeros 4 (Nat.toDigits 16 n)
          else '\\' :: 'U' :: Text.padZeros 8 (Nat.toDigits 16 n))
      else if errors == "xmlcharrefreplace" then
        goOn ('&' :: '#' :: Text.decimalChars c.toNat ++ [';'])
      else
        let bad := (c :: cs).takeWhile fun c => (e.bytesOf? c).isNone
        let limit := if e = .ascii then "128" else "256"
        .error ⟨place, place + bad.length, s!"ordinal not in range({limit})"⟩

/-- The bytes of a text. -/
def encode (e : Encoding) (errors : String) (cs : List Char) : Except EncodingFlaw (List UInt8) :=
  let start : List UInt8 := if e = .marked then [0xBF, 0xBB, 0xEF] else []
  bytesFrom e errors 0 start cs

end Encoding

end FirmwareSurvey.ResultScript
