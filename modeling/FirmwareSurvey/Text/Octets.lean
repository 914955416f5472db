

/-!
# Bytes read as text

Bytes are read as UTF-8. Where they are none, one replacement character stands for each start of a
character that breaks off, as far as it goes, and for each byte that starts no character.

The reading is an automaton over the bytes. Between characters it waits for a first byte; inside
one it knows the value read so far, how many bytes are to come, and between which bounds the next
one has to lie.
-/

namespace FirmwareSurvey.Text

/-- The character that stands for what is no text. -/
def replacement : Char := '\uFFFD'

/-- A character that is being read. -/
structure Pending where
  /-- The value read so far. -/
  value : Nat
  /-- How many bytes are to come. -/
  missing : Nat
  /-- The least value of the next byte. -/
  low : Nat
  /-- The greatest value of the next byte. -/
  high : Nat

/-- Reads the first byte of a character: the character that it is or starts. -/
def firstByte (b : Nat) : Option Char × Option Pending :=
  if b < 0x80 then (some (Char.ofNat b), none)
  else if 0xC2 ≤ b && b ≤ 0xDF then (none, some ⟨b - 0xC0, 1, 0x80, 0xBF⟩)
  else if b = 0xE0 then (none, some ⟨0, 2, 0xA0, 0xBF⟩)
  else if b = 0xED then (none, some ⟨0xD, 2, 0x80, 0x9F⟩)
  else if 0xE1 ≤ b && b ≤ 0xEF then (none, some ⟨b - 0xE0, 2, 0x80, 0xBF⟩)
  else if b = 0xF0 then (none, some ⟨0, 3, 0x90, 0xBF⟩)
  else if 0xF1 ≤ b && b ≤ 0xF3 then (none, some ⟨b - 0xF0, 3, 0x80, 0xBF⟩)
  else if b = 0xF4 then (none, some ⟨4, 3, 0x80, 0x8F⟩)
  else (some replacement, none)

/-- Reads a byte: the characters that it completes, put before those read so far. -/
def lossyStep : List Char × Option Pending → UInt8 → List Char × Option Pending
  | (read, none), b =>
    let (c, pending) := firstByte b.toNat
    (c.toList ++ read, pending)
  | (read, some p), b =>
    let n := b.toNat
    if p.low ≤ n && n ≤ p.high then
      let value := p.value * 64 + (n - 0x80)
      if p.missing = 1 then (Char.ofNat value :: read, none)
      else (read, some ⟨value, p.missing - 1, 0x80, 0xBF⟩)
    else
      let (c, pending) := firstByte n
      (c.toList ++ replacement :: read, pending)

/-- The text of bytes. -/
def lossy (bytes : ByteArray) : String :=
  let (read, pending) := bytes.foldl lossyStep ([], none)
  String.ofList (if pending.isSome then replacement :: read else read).reverse

end FirmwareSurvey.Text

/-!
## Bytes as characters

What programs hand to each other are bytes. Written as characters, one for each byte and numbered
like it, bytes can be read by the same functions as texts, and no byte is lost on the way.
-/

namespace FirmwareSurvey.Octets

/-- Bytes as characters. -/
def ofBytes (b : ByteArray) : List Char := b.data.toList.map fun x => Char.ofNat x.toNat

/-- Characters as bytes. -/
def toBytes (cs : List Char) : ByteArray := ⟨(cs.map fun c => c.toNat.toUInt8).toArray⟩

/-- The bytes of a text as characters. -/
def ofText (s : String) : List Char := ofBytes s.toUTF8

/-- The text of bytes that are written as characters. -/
def toText (cs : List Char) : String := Text.lossy (toBytes cs)

end FirmwareSurvey.Octets

/-!
## Printable runs

A byte is printable when it is a tab or lies between the space and the tilde. The printable runs of
a row of bytes are what is left between the other bytes, as far as they have a least length.
-/

namespace FirmwareSurvey.Text

/-- Whether a byte is printable. -/
def isPrintable (b : UInt8) : Bool := b == 9 || (0x20 ≤ b && b ≤ 0x7E)

/-- The runs of printable bytes between the others; there is always at least one. -/
def runs (bytes : List UInt8) : List (List UInt8) :=
  let pieces := bytes.foldr
    (fun b p => if isPrintable b then (b :: p.1, p.2) else ([], p.1 :: p.2))
    (([], []) : List UInt8 × List (List UInt8))
  pieces.1 :: pieces.2

/-- The text of printable bytes. -/
def ofPrintable (run : List UInt8) : String :=
  String.ofList (run.map fun b => Char.ofNat b.toNat)

/-- The printable runs of at least a length, as texts. -/
def printableRuns (bytes : ByteArray) (least : Nat) : List String :=
  ((runs bytes.data.toList).filter fun r => least ≤ r.length).map ofPrintable

end FirmwareSurvey.Text
