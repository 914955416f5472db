import FirmwareSurvey.Gzip.Basic

/-!
# Deflated data

Deflated data is a row of blocks, the last of which says so. A block is stored as it is, or written
in two prefix codes: one for bytes, the end of the block and lengths of copies, the other for the
distances at which copies start. The codes are fixed, or given by lengths that are themselves
written in a code.

Data may refer to what is not there: a copy may start before the first byte, and a length may be
repeated when none was given yet. Read exactly, that is a flaw. Read leniently, a copy takes what an
earlier reading left in the window, and the length repeated is zero. What came out before a flaw is
kept either way.
-/

namespace FirmwareSurvey.Gzip

/-- What an earlier reading left in the window, when data is read leniently. -/
abbrev Past := Option ByteArray

/-- What came out of deflated data. -/
structure Inflated where
  /-- The bytes. -/
  bytes : ByteArray
  /-- The place behind the data, counted in bits, or why it could not be read to its end. -/
  ending : Except Flaw Nat

/-! ### Copies -/

/-- The least length of a copy for each symbol from 257 on, and how many bits add to it. -/
def lengthTable : Array (Nat × Nat) := #[
  (3, 0), (4, 0), (5, 0), (6, 0), (7, 0), (8, 0), (9, 0), (10, 0), (11, 1), (13, 1), (15, 1),
  (17, 1), (19, 2), (23, 2), (27, 2), (31, 2), (35, 3), (43, 3), (51, 3), (59, 3), (67, 4), (83, 4),
  (99, 4), (115, 4), (131, 5), (163, 5), (195, 5), (227, 5), (258, 0)]

/-- The least distance of a copy for each symbol, and how many bits add to it. -/
def distanceTable : Array (Nat × Nat) := #[
  (1, 0), (2, 0), (3, 0), (4, 0), (5, 1), (7, 1), (9, 2), (13, 2), (17, 3), (25, 3), (33, 4),
  (49, 4), (65, 5), (97, 5), (129, 6), (193, 6), (257, 7), (385, 7), (513, 8), (769, 8), (1025, 9),
  (1537, 9), (2049, 10), (3073, 10), (4097, 11), (6145, 11), (8193, 12), (12289, 12), (16385, 13),
  (24577, 13)]

/-- Reads the bits that add to an entry of a table. -/
def extended (table : Array (Nat × Nat)) (symbol : Nat) (data : ByteArray) (place : Nat) :
    Except Flaw (Nat × Nat) := do
  match table[symbol]? with
  | none => .error .corrupt
  | some (least, bits) =>
    let more ← number data place bits
    .ok (least + more, place + bits)

/-- The byte at a distance back from the end. -/
def byteBack (past : ByteArray) (out : ByteArray) (distance : Nat) : UInt8 :=
  if distance ≤ out.size then (out[out.size - distance]?).getD 0
  else (past[past.size - (distance - out.size)]?).getD 0

/-- Copies bytes from a distance back to the end, one by one. -/
def copyBack (past : ByteArray) (distance : Nat) : Nat → ByteArray → ByteArray
  | 0, out => out
  | n + 1, out => copyBack past distance n (out.push (byteBack past out distance))

/-- Whether a copy may start at a distance back. -/
def reaches (past : Past) (out : ByteArray) (distance : Nat) : Bool :=
  distance ≤ out.size || past.isSome

/-- One more than the symbols of bytes: the end of a block. -/
def endOfBlock : Nat := 256

/-- Reads the symbols of a block up to its end. `fuel` bounds their number. -/
def readSymbols (past : Past) (literals distances : Code) (data : ByteArray) :
    Nat → Nat → ByteArray → ByteArray × Except Flaw Nat
  | 0, _, out => (out, .error .truncated)
  | fuel + 1, place, out =>
    match literals.read data place with
    | .error e => (out, .error e)
    | .ok (symbol, place) =>
      if symbol < endOfBlock then
        readSymbols past literals distances data fuel place (out.push symbol.toUInt8)
      else if symbol = endOfBlock then (out, .ok place)
      else
        match extended lengthTable (symbol - (endOfBlock + 1)) data place with
        | .error e => (out, .error e)
        | .ok (length, place) =>
          match distances.read data place with
          | .error e => (out, .error e)
          | .ok (symbol, place) =>
            match extended distanceTable symbol data place with
            | .error e => (out, .error e)
            | .ok (distance, place) =>
              if reaches past out distance then
                readSymbols past literals distances data fuel place
                  (copyBack (past.getD .empty) distance length out)
              else (out, .error .corrupt)

/-! ### The codes of a block -/

/-- The lengths of the fixed code for bytes and lengths. -/
def fixedLengths : List Nat :=
  List.replicate 144 8 ++ List.replicate 112 9 ++ List.replicate 24 7 ++ List.replicate 8 8

/-- The fixed codes. -/
def fixedCodes : Except Flaw (Code × Code) := do
  let literals ← Code.ofLengths 7 fixedLengths
  let distances ← Code.ofLengths 5 (List.replicate 32 5)
  .ok (literals, distances)

/-- The order in which the lengths of the code for lengths are written. -/
def lengthOrder : List Nat := [16, 17, 18, 0, 8, 7, 9, 6, 10, 5, 11, 4, 12, 3, 13, 2, 14, 1, 15]

/-- Reads numbers of three bits. -/
def readTriples (data : ByteArray) (place : Nat) : Nat → Except Flaw (List Nat)
  | 0 => .ok []
  | n + 1 => do
    let first ← number data place 3
    let rest ← readTriples data (place + 3) n
    .ok (first :: rest)

/-- Reads lengths written in a code until there are as many as wanted. `found` holds those read,
backwards; `fuel` bounds the number of symbols. -/
def readLengths (past : Past) (code : Code) (data : ByteArray) (wanted : Nat) :
    Nat → Nat → List Nat → Except Flaw (List Nat × Nat)
  | 0, _, _ => .error .truncated
  | fuel + 1, place, found =>
    if found.length = wanted then .ok (found.reverse, place)
    else if wanted < found.length then .error .corrupt
    else do
      let (symbol, place) ← code.read data place
      if symbol < 16 then readLengths past code data wanted fuel place (symbol :: found)
      else if symbol = 16 then
        match found.head? <|> past.map fun _ => 0 with
        | none => .error .corrupt
        | some last => do
          let more ← number data place 2
          readLengths past code data wanted fuel (place + 2) (List.replicate (3 + more) last ++ found)
      else if symbol = 17 then do
        let more ← number data place 3
        readLengths past code data wanted fuel (place + 3) (List.replicate (3 + more) 0 ++ found)
      else do
        let more ← number data place 7
        readLengths past code data wanted fuel (place + 7) (List.replicate (11 + more) 0 ++ found)

/-- The codes that a block gives, and the place behind them. -/
def givenCodes (past : Past) (data : ByteArray) (place : Nat) : Except Flaw (Code × Code × Nat) := do
  let literals := (← number data place 5) + 257
  let distances := (← number data (place + 5) 5) + 1
  let triples := (← number data (place + 10) 4) + 4
  if 286 < literals || 30 < distances then .error .corrupt
  else
    let written ← readTriples data (place + 14) triples
    let lengths := (List.range 19).map fun s =>
      ((lengthOrder.zip written).lookup s).getD 0
    let code ← Code.ofLengths 7 lengths
    let (lengths, place) ←
      readLengths past code data (literals + distances) (literals + distances + 1)
        (place + 14 + 3 * triples) []
    let first ← Code.ofLengths 9 (lengths.take literals)
    let second ← Code.ofLengths 6 (lengths.drop literals)
    .ok (first, second, place)

/-! ### Blocks -/

/-- Reads a stored block: its length, the length inverted, and the bytes. -/
def readStored (data : ByteArray) (place : Nat) (out : ByteArray) : ByteArray × Except Flaw Nat :=
  let start := nextByte place
  match bytesNumber data start 2, bytesNumber data (start + 2) 2 with
  | .ok length, .ok inverse =>
    if length + inverse ≠ 0xFFFF then (out, .error .corrupt)
    else
      let body := data.extract (start + 4) (start + 4 + length)
      (out ++ body,
        if body.size < length then .error .truncated else .ok (8 * (start + 4 + length)))
  | _, _ => (out, .error .truncated)

/-- Reads the block behind its three bits of header, of the kind that they tell. -/
def readBlock (past : Past) (data : ByteArray) (kind place : Nat) (out : ByteArray) :
    ByteArray × Except Flaw Nat :=
  let fuel := 8 * data.size + 1
  match kind with
  | 0 => readStored data place out
  | 1 =>
    match fixedCodes with
    | .ok (literals, distances) => readSymbols past literals distances data fuel place out
    | .error e => (out, .error e)
  | 2 =>
    match givenCodes past data place with
    | .ok (literals, distances, place) => readSymbols past literals distances data fuel place out
    | .error e => (out, .error e)
  | _ => (out, .error .corrupt)

/-- Reads blocks up to the last. `fuel` bounds their number. -/
def readBlocks (past : Past) (data : ByteArray) : Nat → Nat → ByteArray → Inflated
  | 0, _, out => ⟨out, .error .truncated⟩
  | fuel + 1, place, out =>
    match number data place 1, number data (place + 1) 2 with
    | .ok last, .ok kind =>
      match readBlock past data kind (place + 3) out with
      | (more, .ok place) =>
        if last = 1 then ⟨more, .ok place⟩ else readBlocks past data fuel place more
      | (more, .error e) => ⟨more, .error e⟩
    | _, _ => ⟨out, .error .truncated⟩

/-- Inflates data from a byte on. -/
def inflate (past : Past) (data : ByteArray) (start : Nat) : Inflated :=
  readBlocks past data (8 * data.size + 1) (8 * start) .empty

/-- What was written of deflated data before it could not be read on: all of it when the bytes just
ended, and whole windows when they are no such data. -/
def Inflated.saved (i : Inflated) : ByteArray :=
  match i.ending with
  | .ok _ => i.bytes
  | .error .truncated => i.bytes
  | .error .corrupt => wholeWindows windowSize i.bytes

end FirmwareSurvey.Gzip

/-!
## Members of a gzip stream

A member is a header, deflated data, and a trailer with the checksum and the length of what comes
out. The header starts with two fixed bytes and the number of the method; its flags tell which of an
extra field, a file name, a comment and a checksum of its own follow.

`exactly?` reads data that consists of one member and nothing else.
-/

namespace FirmwareSurvey.Gzip

/-- The two bytes that a member starts with, as a number. -/
def memberMark : Nat := 0x8B1F

/-- Whether a flag is set. -/
def hasFlag (flags bit : Nat) : Bool := flags &&& bit != 0

/-- The place behind a text that a zero byte ends, when that is among the next bytes. -/
def behindText (data : ByteArray) : Nat → Nat → Except Flaw Nat
  | 0, _ => .error .truncated
  | within + 1, place => do
    if (← byteAt data place) = 0 then .ok (place + 1) else behindText data within (place + 1)

/-- The place behind the header of a member, whose two fixed bytes stand at a place. A text in it has
no more bytes than told, with the zero byte. -/
def behindHeader (data : ByteArray) (longest start : Nat) : Except Flaw Nat := do
  if (← byteAt data (start + 2)) ≠ 8 then .error .corrupt
  else
    let flags ← byteAt data (start + 3)
    if hasFlag flags 0xE0 then .error .corrupt
    else
      let _ ← byteAt data (start + 9)
      let place ← if hasFlag flags 4 then do
          let length ← bytesNumber data (start + 10) 2
          .ok (start + 12 + length)
        else .ok (start + 10)
      let place ← if hasFlag flags 8 then behindText data longest place else .ok place
      let place ← if hasFlag flags 16 then behindText data longest place else .ok place
      if hasFlag flags 2 then do
        let told ← bytesNumber data place 2
        if told = checksum (data.extract start place) % 0x10000 then .ok (place + 2)
        else .error .corrupt
      else if data.size < place then .error .truncated
      else .ok place

/-- The place behind the trailer of a member, when that vouches for what came out. -/
def behindTrailer (data : ByteArray) (out : Inflated) : Except Flaw Nat := do
  let trailer := nextByte (← out.ending)
  let told ← bytesNumber data trailer 4
  let length ← bytesNumber data (trailer + 4) 4
  if told = checksum out.bytes && length = out.bytes.size % 0x100000000 then .ok (trailer + 8)
  else .error .corrupt

/-- The most bytes that a text in the header of a single member has. -/
def longestText : Nat := 65536

/-- The contents of data that consists of exactly one member. -/
def exactly? (data : ByteArray) : Option ByteArray :=
  let contents : Except Flaw ByteArray := do
    if (← bytesNumber data 0 2) ≠ memberMark then .error .corrupt
    else
      let out := inflate none data (← behindHeader data longestText 0)
      if (← behindTrailer data out) = data.size then .ok out.bytes else .error .corrupt
  contents.toOption

end FirmwareSurvey.Gzip
