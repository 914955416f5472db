import FirmwareSurvey.Gzip.Basic
import FirmwareSurvey.Gzip.Inflate
import FirmwareSurvey.Gzip.Older

/-!
# Whatever can be unpacked

What comes out of packed data, of the first entry of an archive, and of a row of members.
-/

/-!
## Packed data

Packed data is written in one prefix code for bytes and the end of the data. The header tells the
length of what comes out, how many words there are of each length, and the bytes that the words stand
for, the shorter words first. The longest words have the least numbers, and the last of them is the
end. Bits are read from the highest of each byte on.
-/

namespace FirmwareSurvey.Gzip.Pack

/-- The greatest length of a word. -/
def maxLength : Nat := 25

/-- How many bits are looked up together; those that follow are looked at one by one. -/
def lookupBits : Nat := 12

/-- The symbol that stands for the end of the data. -/
def endOfData : Nat := 256

/-- The bit at a place, the highest bit of each byte first. -/
def highBitAt (data : ByteArray) (place : Nat) : Except Flaw Nat :=
  (byteAt data (place / 8)).map fun b => b >>> (7 - place % 8) &&& 1

/-- The number of some bytes, the highest first. -/
def highNumber (data : ByteArray) (place count : Nat) : Except Flaw Nat :=
  (List.range count).foldlM (fun n i => (byteAt data (place + i)).map fun b => 256 * n + b) 0

/-- Reads how many words there are of each length but the longest, and two less than how many there
are of that. `room` is one more than how many words of the next length there may be. -/
def readCounts (data : ByteArray) (place : Nat) : Nat → Nat → Except Flaw (List Nat)
  | 0, _ => .ok []
  | more + 1, room => do
    let count ← byteAt data place
    let most := if more = 0 then room - 1 else room
    if most < count then .error .corrupt
    else
      let rest ← readCounts data (place + 1) more ((room - count + 1) * 2 - 1)
      .ok (count :: rest)

/-- Reads the bytes that words stand for, by the lengths of the words. -/
def readBytes (data : ByteArray) : Nat → List Nat → Except Flaw (List (List Nat))
  | _, [] => .ok []
  | place, count :: counts => do
    let here ← (List.range count).mapM fun i => byteAt data (place + i)
    let rest ← readBytes data (place + count) counts
    .ok (here :: rest)

/-- The code and the place of its first word behind the header, whose lengths start at a place. -/
def readCode (data : ByteArray) (place : Nat) : Except Flaw (Tree × Nat) := do
  let longest ← byteAt data place
  if maxLength < longest then .error .corrupt
  else
    let counts ← readCounts data (place + 1) longest 1
    let total := counts.foldl (· + ·) 0
    if 256 ≤ total then .error .corrupt
    else
      let counts := counts.dropLast ++ (counts.getLast?.map (· + 1)).toList
      let bytes ← readBytes data (place + 1 + longest) counts
      let bytes := bytes.dropLast ++ (bytes.getLast?.map (· ++ [endOfData])).toList
      let words := bytes.zipIdx.flatMap fun (symbols, i) => symbols.reverse.map fun s => (i + 1, s)
      match Tree.ofSorted? longest words with
      | some tree =>
        if tree.isFull && longest ≠ 0 then
          .ok (tree.inverted, place + 1 + longest + counts.foldl (· + ·) 0)
        else .error .corrupt
      | none => .error .corrupt

/-- The symbol of the word at a place, and the place behind it. -/
def readWord (tree : Tree) (data : ByteArray) (place : Nat) : Except Flaw (Nat × Nat) := do
  let _ ← highBitAt data (place + min lookupBits tree.depth - 1)
  tree.readFrom (highBitAt data) 1 place 0

/-- Reads words up to the end. `fuel` bounds their number. -/
def readWords (tree : Tree) (data : ByteArray) :
    Nat → Nat → ByteArray → ByteArray × Except Flaw Nat
  | 0, _, out => (out, .error .truncated)
  | fuel + 1, place, out =>
    match readWord tree data place with
    | .error e => (out, .error e)
    | .ok (symbol, behind) =>
      if symbol = endOfData then (out, .ok (nextByte (place + max (behind - place) (min lookupBits tree.depth))))
      else readWords tree data fuel behind (out.push symbol.toUInt8)

/-- What comes out of data that starts at a place: the bytes, and the place behind it. -/
def unpack (data : ByteArray) (start : Nat) : ByteArray × Except Flaw Nat :=
  match highNumber data start 4, readCode data (start + 4) with
  | .ok length, .ok (tree, place) =>
    let (out, ending) := readWords tree data (8 * data.size + 1) (8 * place) .empty
    (out, ending.bind fun place =>
      if length = out.size % 0x100000000 then .ok place else .error .corrupt)
  | .error e, _ => (.empty, .error e)
  | _, .error e => (.empty, .error e)

end FirmwareSurvey.Gzip.Pack

/-!
## The first entry of an archive

An archive starts with an entry: a header with the method, the sizes, and the lengths of a name and
of an extra field, which follow; then the data, deflated or stored as it is.
-/

namespace FirmwareSurvey.Gzip.Zip

/-- What is written of the first entry of an archive. -/
def unpack (data : ByteArray) : ByteArray :=
  let entry : Except Flaw ByteArray := do
    let flags ← byteAt data 6
    let method ← byteAt data 8
    let packed ← bytesNumber data 18 4
    let length ← bytesNumber data 22 4
    let name ← bytesNumber data 26 2
    let extra ← bytesNumber data 28 2
    let start := 30 + name + extra
    if data.size < start || flags % 2 = 1 then .error .corrupt
    else
      match method with
      | 0 =>
        if packed = length then .ok (data.extract start (start + length)) else .error .corrupt
      | 8 => .ok (inflate (some emptyWindow) data start).saved
      | _ => .error .corrupt
  entry.toOption.getD .empty

end FirmwareSurvey.Gzip.Zip

/-!
## Saving what can be saved

A lenient reader unpacks members one behind the other as far as they go, and keeps what it wrote up
to the first flaw. It also takes data that was packed in older ways, and the first entry of an
archive; the first bytes tell them apart. What stands behind the last member and is none is passed
over.
-/

namespace FirmwareSurvey.Gzip

/-- How far saving has come. -/
structure Salvaged where
  /-- What was written. -/
  written : ByteArray
  /-- What stands in the window. -/
  window : ByteArray
  /-- The place behind the member, when another may follow. -/
  next : Option Nat

namespace Salvaged

/-- What is saved of deflated data with a header and a trailer. -/
def ofMember (data window : ByteArray) (start : Nat) : Salvaged :=
  match behindHeader data (data.size + 1) start with
  | .error _ => ⟨.empty, window, none⟩
  | .ok place =>
    let out := inflate (some window) data place
    ⟨out.saved, windowAfter window out.bytes, (behindTrailer data out).toOption⟩

/-- What is saved of packed data. -/
def ofPacked (data window : ByteArray) (start : Nat) : Salvaged :=
  let (out, ending) := Pack.unpack data (start + 2)
  ⟨out, windowAfter window out, ending.toOption⟩

/-- What is saved of data behind which nothing is looked for. -/
def last (out : ByteArray) : Salvaged := ⟨out, .empty, none⟩

/-- What is saved of the member at a place. -/
def ofData (data window : ByteArray) (start : Nat) : Salvaged :=
  match bytesNumber data start 2 with
  | .ok 0x8B1F => ofMember data window start
  | .ok 0x9E1F => ofMember data window start
  | .ok 0x1E1F => ofPacked data window start
  | .ok 0x9D1F => last (Lzw.unpack data (start + 2))
  | .ok 0xA01F => last (Lzh.unpack data (start + 2))
  | .ok 0x4B50 =>
    if start = 0 && (bytesNumber data 2 2).toOption == some 0x0403 then last (Zip.unpack data)
    else last .empty
  | _ => last .empty

end Salvaged

/-- Saves members from a place on. `fuel` bounds their number. -/
def salvageFrom (data : ByteArray) : Nat → Nat → ByteArray → ByteArray → ByteArray
  | 0, _, _, out => out
  | fuel + 1, start, window, out =>
    let member := Salvaged.ofData data window start
    let out := out ++ member.written
    match member.next with
    | some place => salvageFrom data fuel place member.window out
    | none => out

/-- What is written of the members at the start of data. -/
def salvage (data : ByteArray) : ByteArray :=
  salvageFrom data (data.size + 1) 0 emptyWindow .empty

end FirmwareSurvey.Gzip
