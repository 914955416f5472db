/-!
# Reading bits

The bits of a row of bytes, the lowest bit of each byte first. Reading stops with a flaw where the
bytes end or where they say what no such stream says.
-/

namespace FirmwareSurvey.Gzip

/-- Why a stream cannot be read on. -/
inductive Flaw where
  /-- The bytes end too early. -/
  | truncated
  /-- The bytes are no such stream. -/
  | corrupt
deriving DecidableEq, Repr

/-- The byte at a place. -/
def byteAt (data : ByteArray) (place : Nat) : Except Flaw Nat :=
  if h : place < data.size then .ok data[place].toNat else .error .truncated

/-- The bit at a place counted in bits. -/
def bitAt (data : ByteArray) (place : Nat) : Except Flaw Nat :=
  (byteAt data (place / 8)).map fun b => b >>> (place % 8) &&& 1

/-- The number of some bits from a place on, the lowest first. -/
def number (data : ByteArray) (place : Nat) : Nat → Except Flaw Nat
  | 0 => .ok 0
  | n + 1 => do
    let low ← bitAt data place
    let high ← number data (place + 1) n
    .ok (low + 2 * high)

/-- The number of some bytes from a place on, the lowest first. -/
def bytesNumber (data : ByteArray) (place : Nat) : Nat → Except Flaw Nat
  | 0 => .ok 0
  | n + 1 => do
    let low ← byteAt data place
    let high ← bytesNumber data (place + 1) n
    .ok (low + 256 * high)

/-- The first whole byte from a place counted in bits on. -/
def nextByte (place : Nat) : Nat := (place + 7) / 8

end FirmwareSurvey.Gzip

/-!
## The window of an unpacker

What comes out of packed data goes through a window of fixed size, which is written whenever it is
full and filled anew from its start. It is never cleared: data that follows finds there what came out
last.
-/

namespace FirmwareSurvey.Gzip

/-- The size of the window. -/
def windowSize : Nat := 32768

/-- The window before anything came out. -/
def emptyWindow : ByteArray := ⟨Array.replicate windowSize 0⟩

/-- The window when bytes came out that were put into it from its start on. -/
def windowAfter (window out : ByteArray) : ByteArray :=
  if out.size < windowSize then out ++ window.extract out.size windowSize
  else
    let newest := out.size - out.size % windowSize
    out.extract newest out.size ++ out.extract (out.size - windowSize) newest

/-- What of the bytes filled whole windows. -/
def wholeWindows (size : Nat) (out : ByteArray) : ByteArray :=
  out.extract 0 (out.size / size * size)

end FirmwareSurvey.Gzip

/-!
## Cyclic checksums

The checksum of a row of bytes is the remainder of the row, read as a polynomial over two elements,
by a fixed polynomial of degree 32; it is written with the lowest bit first and inverted.
-/

namespace FirmwareSurvey.Gzip

/-- The polynomial, its lowest coefficient first. -/
def polynomial : UInt32 := 0xEDB88320

/-- The remainder when one more zero bit is read. -/
def shiftBit (r : UInt32) : UInt32 := if r &&& 1 = 1 then r >>> 1 ^^^ polynomial else r >>> 1

/-- The remainders when eight more bits are read, by the byte that they make. -/
def byteRemainders : Array UInt32 :=
  Array.ofFn fun i : Fin 256 => Nat.repeat shiftBit 8 (UInt32.ofNat i)

/-- The remainder when one more byte is read. -/
def shiftByte (r : UInt32) (b : UInt8) : UInt32 :=
  r >>> 8 ^^^ byteRemainders.getD ((r ^^^ b.toUInt32) &&& 0xFF).toNat 0

/-- The checksum of bytes. -/
def checksum (data : ByteArray) : Nat := (data.foldl shiftByte 0xFFFFFFFF ^^^ 0xFFFFFFFF).toNat

end FirmwareSurvey.Gzip

/-!
## Prefix codes

A code assigns to each symbol a word of bits, so that no word begins another. It is held as a tree:
to read a word is to walk down from the root, one bit a step, until a symbol is reached. A place
that no word leads to is a hole.

`Tree.ofLengths?` builds the code that is given by the lengths of its words alone: shorter words come
first, and words of one length follow in the order of their symbols. `Tree.read` reads a word. It
looks at bits in groups, as a reader does that looks words up in tables, and refuses when a group is
not all there, even where the word itself ends before the bits do.
-/

namespace FirmwareSurvey.Gzip

/-- A prefix code. -/
inductive Tree where
  /-- No word leads here. -/
  | hole
  /-- A word ends here. -/
  | leaf (symbol : Nat)
  /-- Another bit follows; the greatest number of bits that may follow is held too. -/
  | fork (depth : Nat) (zero one : Tree)

namespace Tree

/-- The greatest number of bits from here to a symbol. -/
def depth : Tree → Nat
  | .hole => 0
  | .leaf _ => 0
  | .fork depth _ _ => depth

/-- The code whose words start with a bit that tells which of two codes the rest is of. -/
def join (zero one : Tree) : Tree := .fork (max zero.depth one.depth + 1) zero one

/-- Whether every row of bits leads to a symbol. -/
def isFull : Tree → Bool
  | .hole => false
  | .leaf _ => true
  | .fork _ zero one => zero.isFull && one.isFull

/-- The code in which every bit is inverted. -/
def inverted : Tree → Tree
  | .hole => .hole
  | .leaf symbol => .leaf symbol
  | .fork depth zero one => .fork depth one.inverted zero.inverted

/-- Grows the part of a code below a depth out of lengths and symbols, the shorter lengths first, and
tells which of them found no room. `room` is how much deeper words may lead. -/
def grow : Nat → Nat → List (Nat × Nat) → Tree × List (Nat × Nat)
  | _, _, [] => (.hole, [])
  | 0, _, (_, symbol) :: rest => (.leaf symbol, rest)
  | room + 1, depth, (length, symbol) :: rest =>
    if length ≤ depth then (.leaf symbol, rest)
    else
      let (zero, rest) := grow room (depth + 1) ((length, symbol) :: rest)
      let (one, rest) := grow room (depth + 1) rest
      (zero.join one, rest)

/-- The code of the symbols in a row, given the length of the word of each, the shorter first; none
when they are too many. -/
def ofSorted? (longest : Nat) (words : List (Nat × Nat)) : Option Tree :=
  match grow longest 0 words with
  | (.hole, []) => some (join .hole .hole)
  | (tree, []) => some tree
  | (_, _ :: _) => none

/-- The symbols of a row of lengths, in the order of their words. A length of zero means that there
is no word. -/
def sorted (longest : Nat) (lengths : List Nat) : List (Nat × Nat) :=
  let indexed := lengths.zipIdx
  (List.range longest).flatMap fun i => indexed.filter (·.1 = i + 1)

/-- The code given by the lengths of its words; none when there are too many words. -/
def ofLengths? (longest : Nat) (lengths : List Nat) : Option Tree :=
  ofSorted? longest (sorted longest lengths)

/-- Reads the rest of a word from a place on: the symbol, and the place behind it. `bit` reads the bit
at a place, `seen` tells how many bits are known to be there, and `more` how many the next groups
have. -/
def readFrom (bit : Nat → Except Flaw Nat) (more : Nat) :
    Tree → Nat → Nat → Except Flaw (Nat × Nat)
  | .hole, _, _ => .error .corrupt
  | .leaf symbol, place, _ => .ok (symbol, place)
  | .fork _ zero one, place, seen + 1 => do
    if (← bit place) = 0 then zero.readFrom bit more (place + 1) seen
    else one.readFrom bit more (place + 1) seen
  | .fork depth zero one, place, 0 => do
    let seen := min more depth - 1
    let _ ← bit (place + seen)
    if (← bit place) = 0 then zero.readFrom bit more (place + 1) seen
    else one.readFrom bit more (place + 1) seen

end Tree

/-- A prefix code and how it is read. -/
structure Code where
  /-- The words. -/
  tree : Tree
  /-- How many bits are looked at together. -/
  group : Nat

namespace Code

/-- The greatest length of a word in deflated data. -/
def maxLength : Nat := 15

/-- The code of a row of lengths in deflated data. Its words must use up all rows of bits, except
that a code may consist of a single word of one bit or of none at all. -/
def ofLengths (group : Nat) (lengths : List Nat) : Except Flaw Code :=
  match Tree.ofLengths? maxLength lengths with
  | some tree => if tree.isFull || tree.depth ≤ 1 then .ok ⟨tree, group⟩ else .error .corrupt
  | none => .error .corrupt

/-- Reads a symbol at a place: the symbol, and the place behind it. -/
def read (c : Code) (data : ByteArray) (place : Nat) : Except Flaw (Nat × Nat) :=
  c.tree.readFrom (bitAt data) c.group place 0

end Code

end FirmwareSurvey.Gzip
