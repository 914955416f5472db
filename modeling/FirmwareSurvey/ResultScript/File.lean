import FirmwareSurvey.ResultScript.State

/-!
# Files of a script

A file that is open has a next place, where reading and writing go on. What is written lies in
storage at once. A file of characters has its bytes read as a text, where every kind of line end
counts as a line feed; in a file of bytes places are counted as they are.
-/

namespace FirmwareSurvey.ResultScript

namespace Run

/-! ### Texts and bytes -/

/-- Fails because bytes are no text. -/
def failDecoding {α : Type} (e : Encoding) (bytes : List UInt8) (flaw : EncodingFlaw) : Run α := do
  let place :=
    if flaw.stop = flaw.start + 1 then
      let byte := Text.padZeros 2 (Nat.toDigits 16 ((bytes[flaw.start]?.map UInt8.toNat).getD 0))
      s!"byte 0x{String.ofList byte} in position {flaw.start}"
    else s!"bytes in position {flaw.start}-{flaw.stop - 1}"
  let text := s!"'{e.text}' codec can't decode {place}: {flaw.reason}"
  raise (← makeFailure "UnicodeDecodeError"
    [.ofString e.text, .octets bytes, .ofNat flaw.start, .ofNat flaw.stop, .ofString flaw.reason]
    [("encoding", .ofString e.text), ("object", .octets bytes), ("start", .ofNat flaw.start),
      ("end", .ofNat flaw.stop), ("reason", .ofString flaw.reason),
      ("__text__", .ofString text)])

/-- The text of bytes. -/
def decoded (e : Encoding) (errors : String) (bytes : List UInt8) : Run (List Char) :=
  match e.decode errors bytes with
  | .ok cs => return cs
  | .error flaw => failDecoding e bytes flaw

/-- A character as a complaint shows it. -/
def escapedCode (c : Char) : String :=
  let n := c.toNat
  let digits := Nat.toDigits 16 n
  String.ofList (if n < 0x100 then '\\' :: 'x' :: Text.padZeros 2 digits
    else if n < 0x10000 then '\\' :: 'u' :: Text.padZeros 4 digits
    else '\\' :: 'U' :: Text.padZeros 8 digits)

/-- The bytes of a text. -/
def encoded (e : Encoding) (errors : String) (cs : List Char) : Run (List UInt8) := do
  match e.encode errors cs with
  | .ok bytes => return bytes
  | .error flaw =>
    let place :=
      if flaw.stop = flaw.start + 1 then
        let code := escapedCode ((cs[flaw.start]?).getD ' ')
        s!"character '{code}' in position {flaw.start}"
      else s!"characters in position {flaw.start}-{flaw.stop - 1}"
    let text := s!"'{e.text}' codec can't encode {place}: {flaw.reason}"
    raise (← makeFailure "UnicodeEncodeError"
      [.ofString e.text, .text cs, .ofNat flaw.start, .ofNat flaw.stop, .ofString flaw.reason]
      [("encoding", .ofString e.text), ("object", .text cs), ("start", .ofNat flaw.start),
        ("end", .ofNat flaw.stop), ("reason", .ofString flaw.reason),
        ("__text__", .ofString text)])

/-- The encoding of a name. -/
def encodingOf (name : List Char) : Run Encoding :=
  match Encoding.ofName? name with
  | some e => return e
  | none => fail "LookupError" s!"unknown encoding: {String.ofList name}"

/-- A text with the ends of its lines made line feeds. -/
def plainLines : List Char → List Char
  | '\r' :: '\n' :: cs => '\n' :: plainLines cs
  | '\r' :: cs => '\n' :: plainLines cs
  | c :: cs => c :: plainLines cs
  | [] => []

/-- The first characters of a text with line feeds as the ends of lines, and how many characters
stand for them. -/
def takePlain : Nat → List Char → List Char × List Char
  | 0, _ => ([], [])
  | _, [] => ([], [])
  | n + 1, '\r' :: '\n' :: cs =>
    let (plain, raw) := takePlain n cs
    ('\n' :: plain, '\r' :: '\n' :: raw)
  | n + 1, '\r' :: cs =>
    let (plain, raw) := takePlain n cs
    ('\n' :: plain, '\r' :: raw)
  | n + 1, c :: cs =>
    let (plain, raw) := takePlain n cs
    (c :: plain, c :: raw)

/-! ### Opening -/

/-- What a mode says: what is done first, and whether it is read, written or holds bytes. -/
structure Mode where
  /-- The letter for what is done first. -/
  first : Char
  /-- Whether it is both read and written. -/
  isBoth : Bool
  /-- Whether it holds bytes. -/
  isOctets : Bool

/-- Reads a mode. -/
def modeOf (mode : List Char) : Run Mode := do
  let text := String.ofList mode
  if mode.any (fun c => !"rwaxbt+".toList.contains c) || mode.eraseDups.length != mode.length then
    unfit s!"invalid mode: '{text}'"
  else if mode.contains 'b' && mode.contains 't' then
    unfit "can't have text and binary mode at once"
  else
    match mode.filter fun c => "rwax".toList.contains c with
    | [first] => return ⟨first, mode.contains '+', mode.contains 'b'⟩
    | [] =>
      unfit "Must have exactly one of create/read/write/append mode and at most one plus"
    | _ => unfit "must have exactly one of create/read/write/append mode"

/-- Opens a file. -/
def openFile (path mode : List Char) (encoding : Encoding) (errors : String) : Run Value := do
  let m ← modeOf mode
  let p : Path := ⟨String.ofList path⟩
  let shown := Value.text path
  let s ← get
  if m.first = 'r' then
    let bytes ← stored shown (s.storage.readBytes p)
    make (.file {
      path, mode, encoding, errors
      contents := bytes, canWrite := m.isBoth, isOctets := m.isOctets })
  else
    if s.storage.isDirectory p then failStorage .isDirectory shown
    let before := (s.storage.readBytes p).toOption
    if m.first = 'x' && before.isSome then failStorage .taken shown
    let contents := if m.first = 'a' then before.getD .empty else .empty
    let storage ← stored shown (s.storage.writeBytes p contents)
    modify fun s => { s with storage }
    make (.file {
      path, mode, contents, encoding, errors
      canRead := m.isBoth, canWrite := true, atEnd := m.first = 'a', isOctets := m.isOctets
      place := if m.first = 'a' then contents.size else 0 })

/-- The file at a place, which has to be open. -/
def openAt (place : Nat) : Run File := do
  match (← get).things[place]? with
  | some (.file f) =>
    if f.isOpen then return f else unfit "I/O operation on closed file."
  | _ => misfit "not a file"

/-- The file at a place, which has to be one that can be read. -/
def readableAt (place : Nat) : Run File := do
  let f ← openAt place
  if f.canRead then return f
  else fail "io.UnsupportedOperation" (if f.isOctets then "read" else "not readable")

/-! ### Reading -/

/-- The bytes of a file from its next place on. -/
def File.rest (f : File) : List UInt8 := (f.contents.extract f.place f.contents.size).data.toList

/-- The characters that bytes of a file are read as. -/
def decodedInside (f : File) (bytes : List UInt8) : Run (List Char) :=
  inside [["  File \"<frozen codecs>\", line 322, in decode"]] (decoded f.encoding f.errors bytes)

/-- Reads so many bytes or characters, or all that are left. -/
def readFile (place : Nat) (count : Option Nat) : Run Value := do
  let f ← readableAt place
  if f.isOctets then
    let stop := match count with
      | some n => min (f.place + n) f.contents.size
      | none => max f.place f.contents.size
    change place (.file { f with place := max f.place stop })
    return .octets (f.contents.extract f.place stop).data.toList
  else
    let cs ← decodedInside f (File.rest f)
    match count with
    | none => do
      change place (.file { f with place := max f.place f.contents.size })
      return .text (plainLines cs)
    | some n => do
      let (plain, raw) := takePlain n cs
      let bytes ← encoded f.encoding "replace" raw
      change place (.file { f with place := f.place + bytes.length })
      return .text plain

/-- The length of the first line of bytes, its end included. -/
def lineLength (isOctets : Bool) : Nat → List UInt8 → Nat
  | n, [] => n
  | n, 0x0A :: _ => n + 1
  | n, 0x0D :: rest =>
    if isOctets then lineLength isOctets (n + 1) rest
    else if rest.head? = some 0x0A then n + 2 else n + 1
  | n, _ :: rest => lineLength isOctets (n + 1) rest

/-- Reads a line; an empty one at the end. -/
def readLine (place : Nat) : Run Value := do
  let f ← readableAt place
  let n := lineLength f.isOctets 0 (File.rest f)
  let line := (f.contents.extract f.place (f.place + n)).data.toList
  if f.isOctets then
    change place (.file { f with place := f.place + n })
    return .octets line
  else
    -- a file is looked at as a whole before its first line is taken
    if f.place = 0 then
      let _ ← decodedInside f (File.rest f)
    let cs ← decoded f.encoding f.errors line
    change place (.file { f with place := f.place + n })
    return .text (plainLines cs)

/-- Whether a text or bytes are empty. -/
def isEmptyText : Value → Bool
  | .text cs => cs.isEmpty
  | .octets bytes => bytes.isEmpty
  | _ => true

/-- Reads the lines that are left. -/
def readLines (place : Nat) : Nat → Run (List Value)
  | 0 => return []
  | fuel + 1 => do
    let line ← readLine place
    if isEmptyText line then return [] else return line :: (← readLines place fuel)

/-! ### Writing -/

/-- The bytes of a file with some written at a place. -/
def overwritten (contents : ByteArray) (place : Nat) (bytes : ByteArray) : ByteArray :=
  let before := contents.extract 0 place
  let gap := ByteArray.mk (Array.replicate (place - contents.size) 0)
  before ++ gap ++ bytes ++ contents.extract (place + bytes.size) contents.size

/-- Writes to a file. -/
def writeFile (place : Nat) (v : Value) : Run Value := do
  let f ← openAt place
  if !f.canWrite then
    fail "io.UnsupportedOperation" (if f.isOctets then "write" else "not writable")
  let (bytes, count) ← match v with
    | .text cs =>
      if f.isOctets then misfit "a bytes-like object is required, not 'str'"
      else do pure ((← encoded f.encoding f.errors cs), cs.length)
    | .octets bytes =>
      if f.isOctets then pure (bytes, bytes.length)
      else misfit "write() argument must be str, not bytes"
    | v => do
      let kind ← kindName v
      if f.isOctets then misfit s!"a bytes-like object is required, not '{kind}'"
      else misfit s!"write() argument must be str, not {kind}"
  let bytes : ByteArray := ⟨bytes.toArray⟩
  match f.channel with
  | some channel => writeBytes channel bytes
  | none => do
    let start := if f.atEnd then f.contents.size else f.place
    let contents := overwritten f.contents start bytes
    change place (.file { f with contents, place := start + bytes.size })
    if f.isStored then
      match (← get).storage.writeBytes ⟨String.ofList f.path⟩ contents with
      | .ok storage => modify fun s => { s with storage }
      | .error _ => pure ()
  return .ofNat count

/-- Sets the next place of a file. -/
def seekFile (place : Nat) (offset : Int) (whence : Int) : Run Value := do
  let f ← openAt place
  let base : Int := if whence = 1 then (f.place : Int) else if whence = 2 then f.contents.size else 0
  if !f.isOctets && whence != 0 && offset != 0 then
    fail "io.UnsupportedOperation" (if whence = 1 then "can't do nonzero cur-relative seeks"
      else "can't do nonzero end-relative seeks")
  else
    let target := base + offset
    if target < 0 then
      if f.isStored && f.isOctets then
        raise (← makeFailure "OSError" [.number 22, .ofString "Invalid argument"]
          [("errno", .number 22), ("strerror", .ofString "Invalid argument")])
      else unfit s!"negative seek position {offset}"
    else
      change place (.file { f with place := target.toNat })
      return .number target

/-- Makes a file so long. -/
def cutFile (place : Nat) (size : Nat) : Run Value := do
  let f ← openAt place
  let contents := overwritten (f.contents.extract 0 size) size .empty
  change place (.file { f with contents })
  if f.isStored then
    match (← get).storage.writeBytes ⟨String.ofList f.path⟩ contents with
    | .ok storage => modify fun s => { s with storage }
    | .error _ => pure ()
  return .ofNat size

/-- Closes a file. -/
def closeFile (place : Nat) : Run Unit := do
  match (← get).things[place]? with
  | some (.file f) => change place (.file { f with isOpen := false })
  | _ => return ()

end Run

end FirmwareSurvey.ResultScript
