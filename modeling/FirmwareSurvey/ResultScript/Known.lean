import FirmwareSurvey.ResultScript.Combining
import FirmwareSurvey.ResultScript.Mathematics
import FirmwareSurvey.ResultScript.Packing
import FirmwareSurvey.ResultScript.Print
import FirmwareSurvey.ResultScript.Search
import FirmwareSurvey.ResultScript.System

/-!
# What is known from the start

What is called by a name that is known from the start is looked for by the module that the name lies
in. A kind that is known from the start makes its values when it is called, and what its values can do
can be asked of the kind too, with the value as the first argument.
-/

namespace FirmwareSurvey.ResultScript

/-- The module and the member that a name with points in it stands for. -/
def nameParts (name : String) : String × String :=
  let last := name.toList.reverse.takeWhile (· != '.')
  (String.ofList (name.toList.take (name.length - last.length - 1)), String.ofList last.reverse)

namespace Run

variable (ev : Evaluator)

/-! ### JSON -/

/-- Where the reader and the writer of JSON texts are. -/
def jsonPlace (file : String) (line : Nat) (function : String) : String :=
  s!"  File \"/usr/lib/python3.12/json/{file}.py\", line {line}, in {function}"

/-- The lists and tables around the first value that JSON does not have; none when there is none.
Tables count as true. -/
def jsonTrail : Nat → Value → Run (Option (List Bool))
  | 0, _ => return none
  | fuel + 1, v => do
    match v with
    | .nothing => return none
    | .truth _ => return none
    | .number _ => return none
    | .real _ => return none
    | .text _ => return none
    | .tuple items => return (← items.findSomeM? (jsonTrail fuel)).map (false :: ·)
    | v =>
      match ← thing? v with
      | some (.list items) =>
        return (← items.toList.findSomeM? (jsonTrail fuel)).map (false :: ·)
      | some (.table _ _ members) =>
        return (← (members.map (·.2)).findSomeM? (jsonTrail fuel)).map (true :: ·)
      | _ => return some []

/-- The calls inside of the writer that leads from value to value. -/
def jsonSteps (trail : List Bool) : List (List String) :=
  let name (isTable : Bool) := if isTable then "_iterencode_dict" else "_iterencode_list"
  let first := match trail with
    | [] => []
    | isTable :: _ =>
      [[jsonPlace "encoder" (if isTable then 432 else 430) "_iterencode",
        s!"    yield from {name isTable}(o, _current_indent_level)"]]
  let between := trail.dropLast.map fun isTable =>
    [jsonPlace "encoder" (if isTable then 406 else 326) (name isTable), "    yield from chunks"]
  let last := trail.getLast?.toList.map fun isTable =>
    [jsonPlace "encoder" (if isTable then 406 else 326) (name isTable), "    yield from chunks"]
  first ++ between ++ last ++ [[jsonPlace "encoder" 439 "_iterencode", "    o = _default(o)",
    "        ^^^^^^^^^^^"]]

/-- The call inside of the writer that refuses a value. -/
def jsonRefusal : List String :=
  [jsonPlace "encoder" 180 "default",
    "    raise TypeError(f'Object of type \x7bo.__class__.__name__\x7d '"]

/-- Writes a value as a JSON text; failures come from inside of the writer. -/
def jsonWritten (v : Value) (named : Members Value) : Run (List Char) := do
  let usual := named.isEmpty
  let isSteps := match Members.get? named "indent" with
    | some .nothing => false
    | some _ => true
    | none => false
  match ← attempt (jsonDumped ev v named) with
  | .ok cs => return cs
  | .error (.failed place) => do
    let head := if usual then
        [jsonPlace "__init__" 231 "dumps", "    return _default_encoder.encode(obj)",
          "           ^^^^^^^^^^^^^^^^^^^^^^^^^^^^"]
      else [jsonPlace "__init__" 238 "dumps", "    **kw).encode(obj)", "          ^^^^^^^^^^^"]
    let trail ← jsonTrail shownLimit v
    let isRefused := trail.isSome && (← isOfKind (.thing place) "TypeError") &&
      (Members.get? named "default").isNone
    let rest := if isSteps then
        [[jsonPlace "encoder" 202 "encode", "    chunks = list(chunks)",
          "             ^^^^^^^^^^^^"]] ++ (if isRefused then jsonSteps (trail.getD []) else [])
      else
        [[jsonPlace "encoder" 200 "encode", "    chunks = self.iterencode(o, _one_shot=True)",
          "             ^^^^^^^^^^^^^^^^^^^^^^^^^^^^^^^^^^"],
          [jsonPlace "encoder" 258 "iterencode", "    return _iterencode(o, 0)",
            "           ^^^^^^^^^^^^^^^^^"]]
    comesFrom place (head :: rest ++ (if isRefused then [jsonRefusal] else []))
    throw (.failed place)
  | .error signal => throw signal

/-- Reads a JSON text; failures come from inside of the reader. -/
def jsonRead (v : Value) (named : Members Value) : Run Value := do
  match ← attempt (jsonLoaded ev v named) with
  | .ok v => return v
  | .error (.failed place) => do
    let message ← match ← thing? (.thing place) with
      | some (.plain (.known "json.decoder.JSONDecodeError") members) =>
        match Members.get? members "msg" with
        | some (.text cs) => pure (String.ofList cs)
        | _ => pure ""
      | _ => pure ""
    let isDecoding ← isOfKind (.thing place) "UnicodeDecodeError"
    let decode := [jsonPlace "__init__" 346 "loads", "    return _default_decoder.decode(s)",
      "           ^^^^^^^^^^^^^^^^^^^^^^^^^^"]
    let rawDecode := [jsonPlace "decoder" 337 "decode",
      "    obj, end = self.raw_decode(s, idx=_w(s, 0).end())",
      "               ^^^^^^^^^^^^^^^^^^^^^^^^^^^^^^^^^^^^^^"]
    comesFrom place (
      if message == "" then
        if isDecoding then
          [[jsonPlace "__init__" 341 "loads",
            "    s = s.decode(detect_encoding(s), 'surrogatepass')",
            "        ^^^^^^^^^^^^^^^^^^^^^^^^^^^^^^^^^^^^^^^^^^^^^"]]
        else
          [[jsonPlace "__init__" 339 "loads",
            "    raise TypeError(f'the JSON object must be str, bytes or bytearray, '"]]
      else if message == "Extra data" then
        [decode, [jsonPlace "decoder" 340 "decode",
          "    raise JSONDecodeError(\"Extra data\", s, end)"]]
      else if message == "Expecting value" then
        [decode, rawDecode, [jsonPlace "decoder" 355 "raw_decode",
          "    raise JSONDecodeError(\"Expecting value\", s, err.value) from None"]]
      else if message.startsWith "Unexpected UTF-8 BOM" then
        [[jsonPlace "__init__" 335 "loads",
          "    raise JSONDecodeError(\"Unexpected UTF-8 BOM (decode using utf-8-sig)\","]]
      else
        [decode, rawDecode, [jsonPlace "decoder" 353 "raw_decode",
          "    obj, end = self.scan_once(s, idx)", "               ^^^^^^^^^^^^^^^^^^^^^^"]])
    throw (.failed place)
  | .error signal => throw signal

/-- What a function for JSON does; none when there is no such function. -/
def callJson (name : String) (given : List Value) (named : Members Value) :
    Run (Option Value) := do
  let (given, named) := match given, Members.get? named "obj", Members.get? named "s" with
    | [], some v, _ => ([v], Members.drop named "obj")
    | [], none, some v => ([v], Members.drop named "s")
    | given, _, _ => (given, named)
  match name, given with
  | "dumps", [v] => return some (.text (← jsonWritten ev v named))
  | "dump", v :: rest => do
    let file := (rest.head?.orElse fun _ => Members.get? named "fp").getD .nothing
    let cs ← jsonWritten ev v (Members.drop named "fp")
    let _ ← ev.call (← memberOf ev file "write") [.text cs] []
    return some .nothing
  | "loads", [v] => return some (← jsonRead ev v named)
  | "load", [file] => do
    let text ← match ← member? ev file "read" with
      | some f => inside [[jsonPlace "__init__" 293 "load", "    return loads(fp.read(),",
          "                 ^^^^^^^^^"]] (ev.call f [] [])
      | none =>
        inside [[jsonPlace "__init__" 293 "load", "    return loads(fp.read(),",
          "                 ^^^^^^^"]] (memberOf ev file "read")
    let v ← match ← attempt (jsonRead ev text named) with
      | .ok v => pure v
      | .error (.failed place) => do
        modify fun s => { s with traces := s.traces.map fun t =>
          if t.1 = place then
            (t.1, t.2.take 1 ++ .inner [jsonPlace "__init__" 293 "load",
              "    return loads(fp.read(),", "           ^^^^^^^^^^^^^^^^"] :: t.2.drop 1)
          else t }
        throw (.failed place)
      | .error signal => throw signal
    return some v
  | _, _ => return none

/-! ### Texts -/

/-- Lines without the blanks that all of them start with. -/
def dedented (cs : List Char) : List Char :=
  let lines := Text.cut '\n' cs
  let isBare (l : List Char) := l.all fun c => c = ' ' || c = '\t'
  let margins := (lines.filter fun l => !isBare l).map fun l =>
    l.takeWhile fun c => c = ' ' || c = '\t'
  let margin := match margins with
    | [] => []
    | m :: ms => ms.foldl commonStart m
  joinTexts ['\n'] (lines.map fun l => if isBare l then [] else l.drop margin.length)

/-- Lines of words, as many in each as fit. -/
def wrapped (width : Nat) : List (List Char) → List Char → List (List Char)
  | [], [] => []
  | [], line => [line]
  | w :: ws, [] => wrapped width ws w
  | w :: ws, line =>
    if line.length + 1 + w.length ≤ width then wrapped width ws (line ++ ' ' :: w)
    else line :: wrapped width ws w

/-- A text as a shell takes it for one word. -/
def shellQuoted (cs : List Char) : List Char :=
  let isPlain (c : Char) := c.isAlphanum || "@%+=:,./-_".toList.contains c
  if cs.isEmpty then ['\'', '\'']
  else if cs.all isPlain then cs
  else '\'' :: replaceText ['\''] "'\"'\"'".toList (cs.length + 1) none cs ++ ['\'']

/-- The words of a text as a shell takes them; `word` is the one that is read. -/
def shellWords : Nat → List Char → Option (List Char) → Run (List (List Char))
  | 0, _, _ => return []
  | _ + 1, [], word => return word.toList.map List.reverse
  | fuel + 1, c :: cs, word => do
    if isBlankOctet c then
      let rest ← shellWords fuel cs none
      return word.toList.map List.reverse ++ rest
    else if c = '\'' then
      let inner := cs.takeWhile (· != '\'')
      if inner.length = cs.length then unfit "No closing quotation"
      else shellWords fuel (cs.drop (inner.length + 1)) (some (inner.reverse ++ word.getD []))
    else if c = '"' then
      match closing cs with
      | none => unfit "No closing quotation"
      | some (inner, rest) => shellWords fuel rest (some (inner.reverse ++ word.getD []))
    else if c = '\\' then
      match cs with
      | [] => unfit "No escaped character"
      | d :: rest => shellWords fuel rest (some (d :: word.getD []))
    else shellWords fuel cs (some (c :: word.getD []))
where
  /-- What stands before a closing quote, and what follows it. -/
  closing : List Char → Option (List Char × List Char)
    | [] => none
    | '"' :: rest => some ([], rest)
    | '\\' :: c :: rest =>
      (closing rest).map fun (a, b) =>
        (if c = '"' || c = '\\' then c :: a else '\\' :: c :: a, b)
    | c :: rest => (closing rest).map fun (a, b) => (c :: a, b)

/-- What a function for texts does; none when there is no such function. -/
def callTexts (name : String) (given : List Value) (named : Members Value) :
    Run (Option Value) := do
  let text (cs : List Char) : Run (Option Value) := return some (.text cs)
  let width : Run Nat := do
    match (given.drop 1).head?.orElse fun _ => Members.get? named "width" with
    | some n => return (← numberArgument ev n).toNat
    | none => return 70
  match name, given with
  | "dedent", [.text cs] => text (dedented cs)
  | "indent", .text cs :: .text start :: _ =>
    let lines := cutLines endsLine true (cs.length + 1) cs
    text (lines.flatMap fun l => if l.all isBlankChar then l else start ++ l)
  | "wrap", .text cs :: _ => do
    let words := cutBlanks isBlankChar (cs.length + 1) none cs
    return some (← makeTexts (wrapped (← width) words []))
  | "fill", .text cs :: _ => do
    let words := cutBlanks isBlankChar (cs.length + 1) none cs
    text (joinTexts ['\n'] (wrapped (← width) words []))
  | "capwords", [.text cs] =>
    let words := cutBlanks isBlankChar (cs.length + 1) none cs
    text (joinTexts [' '] (words.map fun w =>
      Text.upperChars (w.take 1) ++ Text.lowerChars (w.drop 1)))
  | "quote", [.text cs] => text (shellQuoted cs)
  | "join", [v] => do
    let words ← (← itemsOf ev v).mapM (pathText ev)
    text (joinTexts [' '] (words.map shellQuoted))
  | "split", .text cs :: _ => do
    return some (← makeTexts (← shellWords (cs.length + 1) cs none))
  | "escape", .text cs :: _ =>
    text (cs.flatMap fun c => match c with
      | '&' => "&amp;".toList
      | '<' => "&lt;".toList
      | '>' => "&gt;".toList
      | '"' => "&quot;".toList
      | '\'' => "&#x27;".toList
      | c => [c])
  | "fnmatch", [v, p] => do return some (.truth (Text.glob (← pathText ev p) (← pathText ev v)))
  | "fnmatchcase", [v, p] => do
    return some (.truth (Text.glob (← pathText ev p) (← pathText ev v)))
  | "filter", [v, p] => do
    let pattern ← pathText ev p
    return some (← makeList (← (← itemsOf ev v).filterM fun v => do
      return Text.glob pattern (← pathText ev v)))
  | "glob", p :: _ => do return some (← makeTexts (← globPaths (← pathText ev p)))
  | "iglob", p :: _ => do
    return some (← makeRow "generator" ((← globPaths (← pathText ev p)).map .text))
  | _, _ => return none

/-! ### All modules -/

/-- The script that runs with its directory, or what stands for it. -/
def scriptPath : Run (List Char) := do
  let name := (← read).name
  if name.head? = some '<' then return name else return PathName.join (← currentPath) name

/-- What makes a value of a kind that is known from the start; none when nothing does. -/
def callKind (kind : String) (given : List Value) (named : Members Value) :
    Run (Option Value) := do
  match kind with
  | "pathlib.PosixPath" => do
    let parts ← given.mapM (pathText ev)
    return some (← makePath (parts.foldl PathName.join []))
  | "_io.StringIO" =>
    let cs := match given with
      | .text cs :: _ => cs
      | _ => []
    return some (← make (.file {
      path := [], mode := [], contents := (String.ofList cs).toUTF8, canWrite := true
      isStored := false }))
  | "_io.BytesIO" =>
    let bytes := match given with
      | .octets bytes :: _ => bytes
      | _ => []
    return some (← make (.file {
      path := [], mode := [], contents := ⟨bytes.toArray⟩, canWrite := true, isOctets := true
      isStored := false }))
  | "types.SimpleNamespace" => return some (← make (.plain (.known kind) named))
  | "argparse.Namespace" => return some (← make (.plain (.known kind) named))
  | "contextlib.suppress" => return some (← make (.plain (.known kind) [("args", .tuple given)]))
  | "contextlib.nullcontext" =>
    return some (← make (.plain (.known kind) [("value", given.headD .nothing)]))
  | "contextlib.closing" =>
    return some (← make (.plain (.known kind) [("value", given.headD .nothing)]))
  | _ => return none

/-- What a function of the running script does; none when there is no such function. -/
def callRunning (name : String) (given : List Value) : Run (Option Value) := do
  let handledLines : Run (List String) := do
    match (← get).handled.head? with
    | some (.thing place) => failureLines ev (String.ofList (← scriptPath)) 64 place
    | _ => return ["NoneType: None"]
  let all (lines : List String) : List Char := lines.flatMap fun l => l.toList ++ ['\n']
  match name, given with
  | "exit", given => do raise (← makeFailureFrom "SystemExit" given [])
  | "getsizeof", _ => return some (.number 64)
  | "intern", [v] => return some v
  | "getrecursionlimit", _ => return some (.number 1000)
  | "setrecursionlimit", _ => return some .nothing
  | "getdefaultencoding", _ => return some (.ofString "utf-8")
  | "getfilesystemencoding", _ => return some (.ofString "utf-8")
  | "exc_info", _ => do
    match (← get).handled.head? with
    | some v => return some (.tuple [← kindOf v, v, .nothing])
    | none => return some (.tuple [.nothing, .nothing, .nothing])
  | "format_exc", _ => do return some (.text (all (← handledLines)))
  | "print_exc", _ => do
    write 2 (all (← handledLines))
    return some .nothing
  | _, _ => return none

/-- Calls a function of a module; none when there is no such function. -/
def callModule (module name : String) (given : List Value) (named : Members Value) :
    Run (Option Value) := do
  match module with
  | "json" => callJson ev name given named
  | "os" => callSystem ev name given named
  | "os.path" => callPath ev name given
  | "subprocess" => callProgram ev name given named
  | "shutil" => callShutil ev name given named
  | "math" => callMathematics ev name given named
  | "re" => callSearch ev name given named
  | "struct" => callStruct ev name given named
  | "hashlib" => callDigest name given
  | "binascii" => callBytes name given
  | "base64" => callBytes name given
  | "zlib" => callBytes name given
  | "gzip" => callBytes name given
  | "itertools" => callRows ev name given named
  | "itertools.chain" => callRows ev name given named
  | "functools" => callFunctions ev name given named
  | "operator" => callSigns ev name given named
  | "collections" => callCollections ev name given named
  | "copy" => do
    match name, given with
    | "copy", [v] => return some (← copied ev false 2 v)
    | "deepcopy", v :: _ => return some (← copied ev true 1000 v)
    | _, _ => return none
  | "heapq" => callSorted ev name given named
  | "bisect" => callSorted ev name given named
  | "textwrap" => callTexts ev name given named
  | "string" => callTexts ev name given named
  | "shlex" => callTexts ev name given named
  | "html" => callTexts ev name given named
  | "fnmatch" => callTexts ev name given named
  | "glob" => callTexts ev name given named
  | "sys" => callRunning ev name given
  | "traceback" => callRunning ev name given
  | "typing" =>
    match name, given with
    | "cast", [_, v] => return some v
    | "overload", [f] => return some f
    | _, _ => return some .nothing
  | "abc" =>
    match given with
    | [f] => return some f
    | _ => return none
  | "time" =>
    match name with
    | "sleep" => return some .nothing
    | "time" => return some (.real (Binary64.ofInt 1700000000))
    | "monotonic" => return some (.real (Binary64.ofInt 1000))
    | "perf_counter" => return some (.real (Binary64.ofInt 1000))
    | _ => return none
  | "platform" =>
    match name with
    | "system" => return some (.ofString "Linux")
    | "machine" => return some (.ofString "x86_64")
    | "python_version" => return some (.ofString "3.12.3")
    | _ => return none
  | "signal" => return some .nothing
  | "warnings" => return some .nothing
  | "gc" => return some (.number 0)
  | "atexit" => return some (given.headD .nothing)
  | _ => return none

/-- What the values of a kind that is known from the start can do, asked of the kind. -/
def askKind (kind name : String) (given : List Value) (named : Members Value) :
    Run (Option Value) := do
  match kind, name, given with
  | "dict", "fromkeys", given =>
    return some (← ability ev (memberOf ev) (← makeTable []) name given named)
  | "str", "maketrans", given => return some (← translation given)
  | "bytes", "fromhex", [.text cs] => do
    match ← attempt (hexBytes (cs.filter fun c => !isBlankOctet c)) with
    | .ok bytes => return some (.octets bytes)
    | .error _ =>
      let bad := (cs.takeWhile fun c => isBlankOctet c || (Text.digitValue? 16 c).isSome).length
      unfit s!"non-hexadecimal number found in fromhex() arg at position {bad}"
  | "int", "from_bytes", v :: rest => do
    let bytes ← match v with
      | .octets bytes => pure bytes
      | v => octetsOf (← itemsOf ev v)
    let isBig := match rest.head?.orElse fun _ => Members.get? named "byteorder" with
      | some (.text cs) => cs == "big".toList
      | _ => true
    let isSigned ← match Members.get? named "signed" with
      | some v => truth ev v
      | none => pure false
    let n := ofLowBytes (if isBig then bytes.reverse else bytes)
    let limit := Nat.pow 256 bytes.length
    return some (if isSigned && limit ≤ 2 * n then .number ((n : Int) - limit) else .ofNat n)
  | "pathlib.PosixPath", "cwd", _ => return some (← makePath (← currentPath))
  | "pathlib.PosixPath", "home", _ => return some (← makePath "/root".toList)
  | _, "__init__", _ :: _ => return some .nothing
  | _, "__init_subclass__", _ => return some .nothing
  | _, "__new__", .thing place :: _ => return some (← make (.plain (.thing place) []))
  | _, "__setattr__", [.thing place, .text name, v] => do
    setMember place (String.ofList name) v
    return some .nothing
  | _, name, v :: rest => do
    if (← abilitiesOf v).contains name then
      return some (← ability ev (memberOf ev) v name rest named)
    else return none
  | _, _, _ => return none
where
  /-- The bytes of numbers. -/
  octetsOf (items : List Value) : Run (List UInt8) :=
    return items.filterMap fun v => v.whole?.map fun n => n.toNat.toUInt8

/-- Calls what is known by a name from the start. -/
def callKnown (name : String) (given : List Value) (named : Members Value) : Run Value := do
  match ← callEverywhere ev name given named with
  | some v => return v
  | none =>
    match ← callKind ev name given named with
    | some v => return v
    | none =>
      let (module, member) := nameParts name
      match ← callModule ev module member given named with
      | some v => return v
      | none =>
        if isKindName module then
          match ← askKind ev module member given named with
          | some v => return v
          | none => wrongArguments name given
        else if isModule name then misfit "'module' object is not callable"
        else wrongArguments member given

end Run

end FirmwareSurvey.ResultScript
