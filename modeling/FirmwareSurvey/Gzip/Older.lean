import FirmwareSurvey.Gzip.Basic

/-!
# Older ways of packing

Two ways of packing that a reader of packed bytes knows beside its own: by a table that grows with
the data, and by copies in blocks.
-/

/-!
## Data packed by a growing table

The data is a row of numbers. Each stands for a text: below 256 for that byte, above for a text that
came out before with the byte that followed it. Such a text stands in what has come out, so the table
holds only where it starts and how long it is.

The numbers start with nine bits. When the table has no more room for them they get one more bit, up
to a limit that the first byte tells; then they go on with the table as it is. When that byte says
so, a number of its own empties the table. Numbers of one width are written in rows of eight, and at
every change of width the rest of the row is left out.
-/

namespace FirmwareSurvey.Gzip.Lzw

/-- How far reading has come. -/
structure Progress where
  /-- The place of the next number, counted in bits. -/
  place : Nat
  /-- Where the rows of the present width start. -/
  origin : Nat
  /-- The width of numbers. -/
  width : Nat
  /-- The greatest number that there is room for. -/
  ceiling : Nat
  /-- Start and length of the texts of the numbers from 256 on. -/
  texts : Array (Nat × Nat)
  /-- Start and length of the text that came out last. -/
  last : Option (Nat × Nat)
  /-- What came out. -/
  out : ByteArray

/-- The greatest width of numbers that is understood. -/
def greatestWidth : Nat := 16

/-- The width of numbers at the start. -/
def leastWidth : Nat := 9

/-- The number that empties the table. -/
def clearing : Nat := 256

/-- Appends a text that stands in a row of bytes, or runs beyond its end into itself. -/
def again (start : Nat) : Nat → ByteArray → ByteArray
  | 0, out => out
  | n + 1, out => again (start + 1) n (out.push ((out[start]?).getD 0))

namespace Progress

/-- The least number that stands for no text yet. -/
def free (p : Progress) : Nat := 256 + p.texts.size

/-- The place where the present row of numbers ends. -/
def rowEnd (p : Progress) : Nat :=
  let row := 8 * p.width
  p.origin + (p.place - p.origin + row - 1) / row * row

/-- Makes numbers one bit wider. -/
def widen (p : Progress) (limit : Nat) : Progress :=
  let width := p.width + 1
  { p with
    place := p.rowEnd, origin := p.rowEnd, width
    ceiling := if width = limit then 1 <<< limit else (1 <<< width) - 1 }

/-- Empties the table. -/
def clear (p : Progress) : Progress :=
  { p with
    place := p.rowEnd, origin := p.rowEnd, width := leastWidth
    ceiling := (1 <<< leastWidth) - 1, texts := #[] }

/-- Appends the text of a number when another text came out before: all that came out then, and the
length of the text. None when the number stands for nothing. -/
def append? (p : Progress) (last : Nat × Nat) (number : Nat) : Option (ByteArray × Nat) :=
  if number < 256 then some (p.out.push number.toUInt8, 1)
  else if p.free < number then none
  else
    let (start, length) := (p.texts[number - 256]?).getD (last.1, last.2 + 1)
    some (again start length p.out, length)

/-- The progress when a number was read; none when it stands for nothing. -/
def take? (p : Progress) (limit number : Nat) : Option Progress :=
  let start := p.out.size
  let place := p.place + p.width
  match p.last with
  | none =>
    if number < 256 then
      some { p with place, out := p.out.push number.toUInt8, last := some (start, 1) }
    else none
  | some last =>
    (p.append? last number).map fun (out, length) =>
      let texts := if p.free < 1 <<< limit then p.texts.push (last.1, last.2 + 1) else p.texts
      { p with place, out, last := some (start, length), texts }

end Progress

/-- Reads numbers up to the end of the data. `fuel` bounds the number of steps. -/
def readNumbers (data : ByteArray) (limit : Nat) (clears : Bool) : Nat → Progress → Progress
  | 0, p => p
  | fuel + 1, p =>
    if 8 * data.size < p.place + p.width then p
    else if p.ceiling < p.free then readNumbers data limit clears fuel (p.widen limit)
    else
      match number data p.place p.width with
      | .error _ => p
      | .ok n =>
        if clears && n = clearing && p.last.isSome then
          readNumbers data limit clears fuel { p with place := p.place + p.width }.clear
        else
          match p.take? limit n with
          | some p => readNumbers data limit clears fuel p
          | none => p

/-- What comes out of data whose first byte stands at a place. -/
def unpack (data : ByteArray) (start : Nat) : ByteArray :=
  match byteAt data start with
  | .error _ => .empty
  | .ok first =>
    let limit := first % 32
    let clears := decide (128 ≤ first)
    if greatestWidth < limit then .empty
    else
      let place := 8 * (start + 1)
      let texts := if clears then #[(0, 0)] else #[]
      (readNumbers data limit clears (16 * data.size + 1)
        ⟨place, place, leastWidth, (1 <<< leastWidth) - 1, texts, none, .empty⟩).out

end FirmwareSurvey.Gzip.Lzw

/-!
## Data packed by copies in blocks

The data is a row of blocks, each with the number of its symbols and two prefix codes: one for bytes
and lengths of copies, the other for the widths of the distances at which copies start. The lengths
of the first code are written in a third. Bits are read from the highest of each byte on, and behind
the data there are zeros without end. A block without symbols is the end.
-/

namespace FirmwareSurvey.Gzip.Lzh

/-- How far back copies reach, and how much is written at once. -/
def reach : Nat := 8192

/-- The greatest length of a word. -/
def maxLength : Nat := 16

/-- The bit at a place, the highest bit of each byte first. -/
def bitOrZero (data : ByteArray) (place : Nat) : Nat :=
  ((data[place / 8]?).map fun b => b.toNat >>> (7 - place % 8) &&& 1).getD 0

/-- The number of some bits from a place on, the highest first. -/
def bits (data : ByteArray) (place count : Nat) : Nat :=
  (List.range count).foldl (fun n i => 2 * n + bitOrZero data (place + i)) 0

/-- Reads a symbol at a place: the symbol, and the place behind it. -/
def read (tree : Tree) (data : ByteArray) (place : Nat) : Except Flaw (Nat × Nat) :=
  tree.readFrom (fun place => .ok (bitOrZero data place)) 1 place 0

/-- The code of a row of lengths; one without words is taken for zero in no bits. -/
def ofLengths (lengths : List Nat) : Except Flaw Tree :=
  if lengths.all (· = 0) then .ok (.leaf 0)
  else match Tree.ofLengths? maxLength lengths with
  | some tree => if tree.isFull then .ok tree else .error .corrupt
  | none => .error .corrupt

/-- How many bits are set from a place on, at most so many. -/
def ones (data : ByteArray) : Nat → Nat → Nat
  | 0, _ => 0
  | most + 1, place =>
    if bitOrZero data place = 1 then ones data most (place + 1) + 1 else 0

/-- Reads a length: three bits, and when they are all set one more for every set bit that follows. -/
def readLength (data : ByteArray) (place : Nat) : Except Flaw (Nat × Nat) :=
  let short := bits data place 3
  if short < 7 then .ok (short, place + 3)
  else
    let more := ones data (maxLength - 6) (place + 3)
    if maxLength < 7 + more then .error .corrupt else .ok (7 + more, place + 4 + more)

/-- Reads lengths until there are as many as wanted. Behind as many as `gap` tells stands how many
zeros follow. `found` holds those read, backwards; `fuel` bounds their number. -/
def readShort (data : ByteArray) (wanted gap : Nat) :
    Nat → Nat → List Nat → Except Flaw (List Nat × Nat)
  | 0, place, found => .ok (found.reverse, place)
  | fuel + 1, place, found => do
    if wanted ≤ found.length then .ok (found.reverse, place)
    else
      let (length, place) ← readLength data place
      let found := length :: found
      if found.length = gap then
        readShort data wanted gap fuel (place + 2)
          (List.replicate (bits data place 2) 0 ++ found)
      else readShort data wanted gap fuel place found

/-- Reads a code whose lengths are written plainly, their number in so many bits first. When there are
none, the code has one symbol and its word no bits. -/
def readPlainCode (data : ByteArray) (width gap place : Nat) : Except Flaw (Tree × Nat) := do
  let wanted := bits data place width
  if wanted = 0 then .ok (.leaf (bits data (place + width) width), place + 2 * width)
  else
    let (lengths, place) ← readShort data wanted gap wanted (place + width) []
    .ok (← ofLengths lengths, place)

/-- Reads lengths written in a code until there are as many as wanted. `found` holds those read,
backwards; `fuel` bounds the number of symbols. -/
def readLong (code : Tree) (data : ByteArray) (wanted : Nat) :
    Nat → Nat → List Nat → Except Flaw (List Nat × Nat)
  | 0, place, found => .ok (found.reverse, place)
  | fuel + 1, place, found => do
    if wanted ≤ found.length then .ok (found.reverse, place)
    else
      let (symbol, place) ← read code data place
      let (lengths, place) := match symbol with
        | 0 => ([0], place)
        | 1 => (List.replicate (bits data place 4 + 3) 0, place + 4)
        | 2 => (List.replicate (bits data place 9 + 20) 0, place + 9)
        | n => ([n - 2], place)
      readLong code data wanted fuel place (lengths ++ found)

/-- Reads the code for bytes and lengths of copies. -/
def readMainCode (code : Tree) (data : ByteArray) (place : Nat) : Except Flaw (Tree × Nat) := do
  let wanted := bits data place 9
  if wanted = 0 then .ok (.leaf (bits data (place + 9) 9), place + 18)
  else
    let (lengths, place) ← readLong code data wanted wanted (place + 9) []
    .ok (← ofLengths lengths, place)

/-- Appends a copy from a distance back, with zeros where nothing came out yet. -/
def copyBack (distance : Nat) : Nat → ByteArray → ByteArray
  | 0, out => out
  | n + 1, out =>
    copyBack distance n
      (out.push (if distance ≤ out.size then (out[out.size - distance]?).getD 0 else 0))

/-- Reads the symbols of a block: what came out, and the place behind it. -/
def readSymbols (main distances : Tree) (data : ByteArray) :
    Nat → Nat → ByteArray → ByteArray × Except Flaw Nat
  | 0, place, out => (out, .ok place)
  | more + 1, place, out =>
    match read main data place with
    | .error e => (out, .error e)
    | .ok (symbol, place) =>
      if symbol < 256 then readSymbols main distances data more place (out.push symbol.toUInt8)
      else
        match read distances data place with
        | .error e => (out, .error e)
        | .ok (width, place) =>
          let distance := if width = 0 then 0 else 1 <<< (width - 1) + bits data place (width - 1)
          readSymbols main distances data more (place + (width - 1))
            (copyBack (distance + 1) (symbol - 253) out)

/-- Reads blocks up to the end. `fuel` bounds their number. -/
def readBlocks (data : ByteArray) : Nat → Nat → ByteArray → ByteArray × Except Flaw Nat
  | 0, place, out => (out, .ok place)
  | fuel + 1, place, out =>
    let size := bits data place 16
    if size = 0 then (out, .ok place)
    else
      let codes : Except Flaw (Tree × Tree × Nat) := do
        let (code, place) ← readPlainCode data 5 3 (place + 16)
        let (main, place) ← readMainCode code data place
        let (distances, place) ← readPlainCode data 4 0 place
        .ok (main, distances, place)
      match codes with
      | .error e => (out, .error e)
      | .ok (main, distances, place) =>
        match readSymbols main distances data size place out with
        | (out, .ok place) => readBlocks data fuel place out
        | (out, .error e) => (out, .error e)

/-- What is written of data that starts at a place: of data with a flaw, what filled the window. -/
def unpack (data : ByteArray) (start : Nat) : ByteArray :=
  match readBlocks data (data.size + 1) (8 * start) .empty with
  | (out, .ok _) => out
  | (out, .error _) => wholeWindows reach out

end FirmwareSurvey.Gzip.Lzh
