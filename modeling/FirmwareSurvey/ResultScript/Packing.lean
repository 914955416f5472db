import FirmwareSurvey.Digest.Basic
import FirmwareSurvey.Gzip.Inflate
import FirmwareSurvey.ResultScript.Function

/-!
# Values packed into bytes

Numbers are packed into bytes by formats, which give each one a size and all of them an order of
bytes. Bytes are also written as digits or letters, and told apart by digests and sums.
-/

namespace FirmwareSurvey.ResultScript

/-! ### Formats -/

/-- A field of a format. -/
structure PackField where
  /-- Its letter. -/
  letter : Char
  /-- How many values it stands for, or how many bytes a text has. -/
  count : Nat

/-- A format. -/
structure PackFormat where
  /-- Whether the highest byte comes first. -/
  isBig : Bool
  /-- Whether fields start at places that fit their sizes, which may differ then. -/
  isNative : Bool
  /-- The fields. -/
  fields : List PackField

namespace PackFormat

/-- The size of a value of a letter; none for an unknown one. -/
def size? (isNative : Bool) : Char → Option Nat
  | 'x' => some 1
  | 'c' => some 1
  | 'b' => some 1
  | 'B' => some 1
  | '?' => some 1
  | 's' => some 1
  | 'p' => some 1
  | 'h' => some 2
  | 'H' => some 2
  | 'e' => some 2
  | 'i' => some 4
  | 'I' => some 4
  | 'f' => some 4
  | 'l' => some (if isNative then 8 else 4)
  | 'L' => some (if isNative then 8 else 4)
  | 'q' => some 8
  | 'Q' => some 8
  | 'd' => some 8
  | 'n' => if isNative then some 8 else none
  | 'N' => if isNative then some 8 else none
  | 'P' => if isNative then some 8 else none
  | _ => none

/-- Reads the fields of a format. -/
def fieldsOf (isNative : Bool) : Nat → List Char → Except String (List PackField)
  | 0, _ => .ok []
  | _ + 1, [] => .ok []
  | fuel + 1, c :: cs => do
    if isBlankOctet c then fieldsOf isNative fuel cs
    else
      let digits := (c :: cs).takeWhile Char.isDigit
      match (c :: cs).drop digits.length with
      | [] => .error "repeat count given without format specifier"
      | letter :: rest =>
        if (size? isNative letter).isNone then .error "bad char in struct format"
        else
          let count := if digits.isEmpty then 1 else (Text.digitsValue? 10 0 digits).getD 0
          return ⟨letter, count⟩ :: (← fieldsOf isNative fuel rest)

/-- Reads a format. -/
def ofChars (cs : List Char) : Except String PackFormat := do
  let (isBig, isNative, rest) := match cs with
    | '@' :: rest => (false, true, rest)
    | '=' :: rest => (false, false, rest)
    | '<' :: rest => (false, false, rest)
    | '>' :: rest => (true, false, rest)
    | '!' :: rest => (true, false, rest)
    | rest => (false, true, rest)
  return ⟨isBig, isNative, ← fieldsOf isNative (rest.length + 1) rest⟩

/-- How many bytes stand before a field that starts at a place or behind it. -/
def gap (f : PackFormat) (letter : Char) (place : Nat) : Nat :=
  let size := (size? f.isNative letter).getD 1
  if f.isNative && ! ['x', 's', 'p', 'c'].contains letter then (size - place % size) % size else 0

/-- How many bytes a format stands for. -/
def size (f : PackFormat) : Nat :=
  f.fields.foldl (fun n field =>
    n + f.gap field.letter n + field.count * (size? f.isNative field.letter).getD 1) 0

/-- How many values a format stands for. -/
def valueCount (f : PackFormat) : Nat :=
  f.fields.foldl (fun n field => n + (if field.letter = 'x' then 0
    else if field.letter = 's' || field.letter = 'p' then 1 else field.count)) 0

end PackFormat

/-- Whether numbers of a letter have signs. -/
def isSignedLetter (c : Char) : Bool := "bhilqn".toList.contains c

namespace Run

variable (ev : Evaluator)

/-- Fails because values cannot be packed. -/
def failPacking {α : Type} (reason : String) : Run α := fail "struct.error" reason

/-- The format that a value stands for. -/
def packFormat (v : Value) : Run PackFormat := do
  let cs ← match v with
    | .text cs => pure cs
    | .octets bytes => pure (bytes.map fun b => Char.ofNat b.toNat)
    | v => misfit s!"Struct() argument 1 must be a str or bytes object, not {← kindName v}"
  match PackFormat.ofChars cs with
  | .ok f => return f
  | .error reason => failPacking reason

/-- The bytes of a number of a letter. -/
def packedNumber (f : PackFormat) (letter : Char) (v : Value) : Run (List UInt8) := do
  let size := (PackFormat.size? f.isNative letter).getD 1
  let n ← match ← place? ev v with
    | some n => pure n
    | none => failPacking "required argument is not an integer"
  let limit : Int := (Nat.pow 256 size : Nat)
  let (least, most) := if isSignedLetter letter then (-(limit / 2), limit / 2 - 1) else (0, limit - 1)
  if n < least || most < n then
    if letter = 'b' then failPacking "byte format requires -128 <= number <= 127"
    else if letter = 'B' then failPacking "ubyte format requires 0 <= number <= 255"
    else if f.isNative && letter = 'h' then
      failPacking "short format requires (-32767 -1) <= number <= 32767"
    else if f.isNative && letter = 'H' then
      failPacking "ushort format requires 0 <= number <= (32767 *2 +1)"
    else if size = 8 then
      failPacking (if f.isNative then "int too large to convert" else "int too large to convert")
    else failPacking s!"'{letter}' format requires {least} <= number <= {most}"
  else
    let bytes := lowBytes size (n.emod limit).toNat
    return if f.isBig then bytes.reverse else bytes

/-- The bytes of a value of a letter. -/
def packedValue (f : PackFormat) (letter : Char) (v : Value) : Run (List UInt8) := do
  let turned (bytes : List UInt8) : List UInt8 := if f.isBig then bytes.reverse else bytes
  match letter with
  | 'c' =>
    match v with
    | .octets [b] => return [b]
    | _ => failPacking "char format requires a bytes object of length 1"
  | '?' => return [if ← truth ev v then 1 else 0]
  | 'd' =>
    match v.real? with
    | some x => return turned (lowBytes 8 x.bits.toNat)
    | none => failPacking "required argument is not a float"
  | 'f' =>
    match v.real? with
    | some x => return turned (lowBytes 4 x.toFloat.toFloat32.toBits.toNat)
    | none => failPacking "required argument is not a float"
  | letter => packedNumber ev f letter v

/-- Packs values by the fields that are left. -/
def packedFields (f : PackFormat) : List PackField → List Value → List UInt8 → Run (List UInt8)
  | [], _, done => return done
  | field :: fields, values, done => do
    let done := done ++ List.replicate (f.gap field.letter done.length) 0
    if field.letter = 'x' then
      packedFields f fields values (done ++ List.replicate field.count 0)
    else if field.letter = 's' || field.letter = 'p' then
      match values with
      | .octets bytes :: rest =>
        let bytes := if field.letter = 's' then bytes
          else if field.count = 0 then []
          else
            let kept := bytes.take (min (field.count - 1) 255)
            kept.length.toUInt8 :: kept
        let part := bytes.take field.count
        packedFields f fields rest
          (done ++ part ++ List.replicate (field.count - part.length) 0)
      | _ => failPacking s!"argument for '{field.letter}' must be a bytes object"
    else
      let parts ← (values.take field.count).mapM (packedValue ev f field.letter)
      packedFields f fields (values.drop field.count) (done ++ parts.flatten)

/-- Packs values. -/
def packed (f : PackFormat) (values : List Value) : Run Value := do
  if values.length != f.valueCount then
    failPacking s!"pack expected {f.valueCount} items for packing (got {values.length})"
  else return .octets (← packedFields ev f f.fields values [])

/-- The value of bytes of a letter. -/
def unpackedValue (f : PackFormat) (letter : Char) (bytes : List UInt8) : Value :=
  let low := if f.isBig then bytes.reverse else bytes
  let n := ofLowBytes low
  match letter with
  | 'c' => .octets bytes
  | '?' => .truth (n != 0)
  | 'd' => .real ⟨UInt64.ofNat n⟩
  | 'f' => .real (.ofFloat (Float32.ofBits (UInt32.ofNat n)).toFloat)
  | letter =>
    let limit := Nat.pow 256 bytes.length
    if isSignedLetter letter && limit ≤ 2 * n then .number ((n : Int) - limit) else .ofNat n

/-- Unpacks the fields that are left; `place` is how many bytes were read. -/
def unpackedFields (f : PackFormat) : List PackField → Nat → List UInt8 → List Value
  | [], _, _ => []
  | field :: fields, place, bytes =>
    let gap := f.gap field.letter place
    let bytes := bytes.drop gap
    let size := (PackFormat.size? f.isNative field.letter).getD 1
    let all := field.count * size
    let rest := unpackedFields f fields (place + gap + all) (bytes.drop all)
    let part := bytes.take all
    if field.letter = 'x' then rest
    else if field.letter = 's' then .octets part :: rest
    else if field.letter = 'p' then
      .octets ((part.drop 1).take ((part.head?.map UInt8.toNat).getD 0)) :: rest
    else
      (List.range field.count).map (fun k =>
        unpackedValue f field.letter ((part.drop (k * size)).take size)) ++ rest

/-- The bytes of an argument. -/
def octetsArgument (v : Value) : Run (List UInt8) := do
  match v with
  | .octets bytes => return bytes
  | v => misfit s!"a bytes-like object is required, not '{← kindName v}'"

/-- Unpacks all values of bytes, again and again. -/
def unpackedAgain (f : PackFormat) (size : Nat) : Nat → List UInt8 → List Value
  | 0, _ => []
  | fuel + 1, bytes =>
    if bytes.length < size || size = 0 then []
    else .tuple (unpackedFields f f.fields 0 (bytes.take size)) ::
      unpackedAgain f size fuel (bytes.drop size)

/-- Does something with a format; none when there is no such thing to do. -/
def useFormat (f : PackFormat) (name : String) (given : List Value) (named : Members Value) :
    Run (Option Value) := do
  match name, given with
  | "pack", values => return some (← packed ev f values)
  | "unpack", [v] => do
    let bytes ← octetsArgument v
    if bytes.length != f.size then failPacking s!"unpack requires a buffer of {f.size} bytes"
    else return some (.tuple (unpackedFields f f.fields 0 bytes))
  | "unpack_from", v :: rest => do
    let bytes ← octetsArgument v
    let offset ← match rest.head?.orElse fun _ => Members.get? named "offset" with
      | some n => numberArgument ev n
      | none => pure 0
    let start := if offset < 0 then offset + bytes.length else offset
    if start < 0 then
      failPacking s!"offset {offset} out of range for {bytes.length}-byte buffer"
    else if (bytes.length : Int) < start + f.size then
      failPacking (s!"unpack_from requires a buffer of at least {start + f.size} bytes for " ++
        s!"unpacking {f.size} bytes at offset {offset} (actual buffer size is {bytes.length})")
    else return some (.tuple (unpackedFields f f.fields 0 ((bytes.drop start.toNat).take f.size)))
  | "iter_unpack", [v] => do
    let bytes ← octetsArgument v
    if f.size = 0 then failPacking "cannot iteratively unpack with a struct of length 0"
    else if bytes.length % f.size != 0 then
      failPacking s!"iterative unpacking requires a buffer of a multiple of {f.size} bytes"
    else return some (← makeRow "unpack_iterator" (unpackedAgain f f.size bytes.length bytes))
  | _, _ => return none

/-- What a function for packing does; none when there is no such function. -/
def callStruct (name : String) (given : List Value) (named : Members Value) :
    Run (Option Value) := do
  match given with
  | [] => return none
  | v :: rest => do
    let f ← packFormat v
    match name with
    | "calcsize" => return some (.ofNat f.size)
    | "Struct" =>
      return some (← make (.plain (.known "struct.Struct")
        [("format", v), ("size", .ofNat f.size)]))
    | name => useFormat ev f name rest named

/-! ### Digests -/

/-- The names of digests with their sizes in bytes and in blocks. -/
def digestSizes : List (String × Nat) := [("md5", 16), ("sha1", 20), ("sha256", 32)]

/-- A digest of bytes. -/
def digestOf (name : String) (bytes : List UInt8) : List UInt8 :=
  match name with
  | "md5" => Digest.md5 bytes
  | "sha1" => Digest.sha1 bytes
  | _ => (Digest.sha256 bytes).toList.flatMap Digest.wordBytes

/-- Two digits for each byte. -/
def hexText (bytes : List UInt8) : List Char :=
  bytes.flatMap fun b => Text.padZeros 2 (Nat.toDigits 16 b.toNat)

/-- Makes a digest that goes on with more bytes. -/
def makeDigest (name : String) (bytes : List UInt8) : Run Value :=
  make (.plain (.known "_hashlib.HASH")
    [("name", .ofString name), ("digest_size", .ofNat ((digestSizes.lookup name).getD 0)),
      ("block_size", .number 64), ("__data__", .octets bytes)])

/-- The bytes that a digest starts with. -/
def digestStart (given : List Value) : Run (List UInt8) := do
  match given with
  | [] => return []
  | .text _ :: _ => misfit "Strings must be encoded before hashing"
  | v :: _ =>
    match v with
    | .octets bytes => return bytes
    | _ => misfit "object supporting the buffer API required"

/-- What a function for digests does; none when there is no such function. -/
def callDigest (name : String) (given : List Value) : Run (Option Value) := do
  match name, given with
  | "new", .text n :: rest => do
    let n := String.ofList n
    if (digestSizes.lookup n).isSome then return some (← makeDigest n (← digestStart rest))
    else unfit s!"unsupported hash type {n}"
  | name, given =>
    if (digestSizes.lookup name).isSome then
      return some (← makeDigest name (← digestStart given))
    else return none

/-- What a digest does under a name. -/
def digestAbility (place : Nat) (members : Members Value) (name : String) (given : List Value) :
    Run Value := do
  let digest := match Members.get? members "name" with
    | some (.text cs) => String.ofList cs
    | _ => ""
  let data := match Members.get? members "__data__" with
    | some (.octets bytes) => bytes
    | _ => []
  match name with
  | "update" => do
    setMember place "__data__" (.octets (data ++ (← digestStart given)))
    return .nothing
  | "digest" => return .octets (digestOf digest data)
  | "hexdigest" => return .text (hexText (digestOf digest data))
  | "copy" => makeDigest digest data
  | name => wrongArguments name given

/-! ### Digits and letters for bytes -/

/-- The letters for six bits each. -/
def base64Letters (isForPaths : Bool) : Array Char :=
  ("ABCDEFGHIJKLMNOPQRSTUVWXYZabcdefghijklmnopqrstuvwxyz0123456789" ++
    (if isForPaths then "-_" else "+/")).toList.toArray

/-- Bytes as letters, four for three bytes. -/
def toBase64 (letters : Array Char) : List UInt8 → List Char
  | a :: b :: c :: rest =>
    let n := a.toNat * 65536 + b.toNat * 256 + c.toNat
    let letter (k : Nat) := letters.getD (n / k % 64) '='
    letter 262144 :: letter 4096 :: letter 64 :: letter 1 :: toBase64 letters rest
  | [a, b] =>
    let n := a.toNat * 65536 + b.toNat * 256
    let letter (k : Nat) := letters.getD (n / k % 64) '='
    [letter 262144, letter 4096, letter 64, '=']
  | [a] =>
    let n := a.toNat * 65536
    let letter (k : Nat) := letters.getD (n / k % 64) '='
    [letter 262144, letter 4096, '=', '=']
  | [] => []

/-- The bytes of numbers below sixty-four, three for four of them. -/
def ofBase64 : List Nat → List UInt8
  | a :: b :: c :: d :: rest =>
    let n := a * 262144 + b * 4096 + c * 64 + d
    (n / 65536).toUInt8 :: (n / 256 % 256).toUInt8 :: (n % 256).toUInt8 :: ofBase64 rest
  | [a, b, c] =>
    let n := a * 262144 + b * 4096 + c * 64
    [(n / 65536).toUInt8, (n / 256 % 256).toUInt8]
  | [a, b] => [((a * 262144 + b * 4096) / 65536).toUInt8]
  | _ => []

/-- The bytes that letters stand for; other characters are left out. -/
def base64Bytes (isForPaths : Bool) (cs : List Char) : Run (List UInt8) := do
  let letters := (base64Letters isForPaths).toList
  let known := cs.filter fun c => letters.contains c || c = '='
  let data := known.takeWhile (· != '=')
  let fills := ((known.drop data.length).takeWhile (· = '=')).length
  let numbers := data.map fun c => (letters.idxOf? c).getD 0
  if data.length % 4 = 1 then
    fail "binascii.Error" (s!"Invalid base64-encoded string: number of data characters " ++
      s!"({data.length}) cannot be 1 more than a multiple of 4")
  else if data.length % 4 != 0 && fills < 4 - data.length % 4 then
    fail "binascii.Error" "Incorrect padding"
  else return ofBase64 numbers

/-- The bytes of digits, two for each. -/
def hexBytes (cs : List Char) : Run (List UInt8) := do
  if cs.length % 2 != 0 then fail "binascii.Error" "Odd-length string"
  else go cs.length cs
where
  /-- The bytes of the digits that are left. -/
  go : Nat → List Char → Run (List UInt8)
    | fuel + 1, a :: b :: rest => do
      match Text.digitsValue? 16 0 [a, b] with
      | some n => return n.toUInt8 :: (← go fuel rest)
      | none => fail "binascii.Error" "Non-hexadecimal digit found"
    | _, _ => return []

/-- The characters of text or bytes that hold plain ones only. -/
def asciiArgument (v : Value) : Run (List Char) := do
  match v with
  | .text cs =>
    if cs.all fun c => c.toNat < 128 then return cs
    else unfit "string argument should contain only ASCII characters"
  | .octets bytes => return bytes.map fun b => Char.ofNat b.toNat
  | v =>
    misfit s!"argument should be bytes, buffer or ASCII string, not '{← kindName v}'"

/-- The sum of bytes that compressed data is checked by. -/
def adler (bytes : List UInt8) (start : Nat) : Nat :=
  let (a, b) := bytes.foldl (fun (a, b) x =>
    let a := (a + x.toNat) % 65521
    (a, (b + a) % 65521)) (start % 65536, start / 65536)
  b * 65536 + a

/-- What a function for bytes as digits, letters or sums does; none when there is no such one. -/
def callBytes (name : String) (given : List Value) : Run (Option Value) := do
  let letters (cs : List Char) : Run (Option Value) := return some (ofChars true cs)
  let data (v : Value) : Run (List UInt8) := octetsArgument v
  match name, given with
  | "hexlify", [v] => do letters (hexText (← data v))
  | "hexlify", [v, .text mark] => do
    let pairs := (← data v).map fun b => hexText [b]
    letters (joinTexts mark pairs)
  | "unhexlify", [v] => do return some (.octets (← hexBytes (← asciiArgument v)))
  | "crc32", [v] => do return some (.ofNat (Gzip.checksum ⟨(← data v).toArray⟩))
  | "adler32", [v] => do return some (.ofNat (adler (← data v) 1))
  | "b2a_base64", [v] => do letters (toBase64 (base64Letters false) (← data v) ++ ['\n'])
  | "a2b_base64", [v] => do return some (.octets (← base64Bytes false (← asciiArgument v)))
  | "b64encode", [v] => do letters (toBase64 (base64Letters false) (← data v))
  | "urlsafe_b64encode", [v] => do letters (toBase64 (base64Letters true) (← data v))
  | "b64decode", v :: _ => do return some (.octets (← base64Bytes false (← asciiArgument v)))
  | "urlsafe_b64decode", [v] => do return some (.octets (← base64Bytes true (← asciiArgument v)))
  | "b16encode", [v] => do letters ((hexText (← data v)).map Char.toUpper)
  | "b16decode", [v] => do return some (.octets (← hexBytes (← asciiArgument v)))
  | "decompress", v :: _ => do
    let bytes : ByteArray := ⟨(← data v).toArray⟩
    match Gzip.exactly? bytes with
    | some out => return some (.octets out.data.toList)
    | none => do
      let out := Gzip.inflate none bytes 16
      match out.ending with
      | .ok _ =>
        if bytes.size < 2 || (bytes.get! 0).toNat % 16 != 8 then
          fail "zlib.error" "Error -3 while decompressing data: incorrect header check"
        else return some (.octets out.bytes.data.toList)
      | .error _ => fail "zlib.error" "Error -3 while decompressing data: incorrect header check"
  | _, _ => return none

end Run

end FirmwareSurvey.ResultScript
