import FirmwareSurvey.ResultScript.Evaluate
import FirmwareSurvey.ResultScript.Reader

/-!
# Running a result script

The statements of a script run in order. A script ends with its last statement, when it asks for that,
or with a failure that nobody deals with, which is told together with the calls that it came through.
-/

namespace FirmwareSurvey.ResultScript

/-- How many steps a script may take in a row. -/
def stepLimit : Nat := 10000000

/-- What a script is run with. -/
structure Invoked where
  /-- The arguments, the name of the script first. -/
  arguments : List String
  /-- What stands for the script when it lies in no file. -/
  label : Option String := none
  /-- The names that programs are given, with their values. -/
  environment : List (String × String) := []
  /-- What can be read. -/
  input : ByteArray := .empty
  /-- Starts a program. -/
  start : Invocation → Storage → Except Storage.Fault (Completion × Storage) :=
    fun _ _ => .error .notFound

namespace Run

/-- A channel as a file. -/
def makeChannel (name : String) (channel : Nat) (contents : ByteArray) : Run Value :=
  make (.file {
    path := name.toList, mode := [if channel = 0 then 'r' else 'w'], contents
    canRead := channel = 0, canWrite := channel != 0, isStored := false
    channel := if channel = 0 then none else some channel })

/-- Makes the values that a script finds under names of modules, and its own names. -/
def prepare (remark : Value) (input : ByteArray) : Run Unit := do
  let session ← read
  let full ← scriptPath
  let stdin ← makeChannel "<stdin>" 0 input
  let stdout ← makeChannel "<stdout>" 1 .empty
  let stderr ← makeChannel "<stderr>" 2 .empty
  let arguments ← makeTexts session.arguments
  let isFile := full.head? != some '<'
  let around := if isFile then PathName.directory full else []
  let path ← makeTexts [around, "/usr/lib/python312.zip".toList,
    "/usr/lib/python3.12".toList, "/usr/lib/python3.12/lib-dynload".toList]
  let environment ← makeTable (session.environment.map fun (k, v) => (.ofString k, .ofString v))
  let modules ← makeTable []
  modify fun s => { s with replaced :=
    [("sys.stdin", stdin), ("sys.stdout", stdout), ("sys.stderr", stderr), ("sys.argv", arguments),
      ("sys.path", path), ("sys.modules", modules), ("os.environ", environment)] }
  changeScope 0 fun s => { s with names :=
    [("__name__", .ofString "__main__"), ("__doc__", remark), ("__package__", .nothing),
      ("__spec__", .nothing), ("__annotations__", .nothing)] ++
    if isFile then [("__file__", .text full)] else [] }

/-- What calls values in parts that are run from outside. -/
def outerEvaluator : Evaluator :=
  ⟨fun f given named => callValue stepLimit f given named, fun p => unfold stepLimit p⟩

/-- Tells how a script ends that is ended by a failure, and with which code. -/
def endedBy (failure : Nat) : Run Nat := do
  let tell (lines : List String) : Run Unit :=
    write 2 (lines.flatMap fun l => l.toList ++ ['\n'])
  if ← isOfKind (.thing failure) "SystemExit" then
    let code ← match ← thing? (.thing failure) with
      | some (.plain _ members) =>
        match Members.get? members "code", Members.get? members "args" with
        | some v, _ => pure v
        | none, some (.tuple [v]) => pure v
        | _, _ => pure .nothing
      | _ => pure .nothing
    match code.whole?, code with
    | some n, _ => return (n.emod 256).toNat
    | none, .nothing => return 0
    | none, v => do
      tell [String.ofList (← printed outerEvaluator v)]
      return 1
  else do
    tell (← failureLines outerEvaluator (String.ofList (← scriptPath)) 64 failure)
    return if ← isOfKind (.thing failure) "KeyboardInterrupt" then 130 else 1

/-- Runs the statements of a script and tells how it ends. -/
def whole (block : Block) (input : ByteArray) : Run Nat := do
  prepare block.remark input
  match ← attempt (runBlock stepLimit block) with
  | .error (.failed failure) => endedBy failure
  | .error .spent => return 1
  | _ => return 0

end Run

/-- The lines that tell of backslashes without need. -/
def strangeLines (path : String) (lines : Array (List Char)) (strange : List (Nat × Char)) :
    List String :=
  strange.flatMap fun (line, c) =>
    let text := bareLine ((lines[line - 1]?).getD [])
    s!"{path}:{line}: SyntaxWarning: invalid escape sequence '\\{c}'" ::
      if lines.isEmpty then [] else ["  " ++ String.ofList text]

/-- Runs a script. -/
def run (script : List Char) (i : Invoked) (storage : Storage) : Completion × Storage :=
  let script := match script with
    | '\uFEFF' :: rest => rest
    | cs => cs
  -- the lines of a script that lies in no file cannot be told
  let lines := if i.label.isSome then #[] else (Text.cut '\n' script).toArray
  let name := (i.label.getD (i.arguments.headD "")).toList
  let session : Session := {
    name, lines, arguments := i.arguments.map String.toList, environment := i.environment
    start := i.start }
  let state : State := { storage }
  let together (parts : List ByteArray) : ByteArray :=
    parts.reverse.foldl (fun all part => all ++ part) .empty
  let current := '/' :: PathName.joinNames (storage.current.map String.toList)
  let path := i.label.getD (String.ofList (PathName.join current name))
  let told (ls : List String) : ByteArray := (String.join (ls.map (· ++ "\n"))).toUTF8
  match sourceOf script with
  | .error flaw =>
    let whole := (Text.cut '\n' script).toArray
    ({ errors := told (flaw.lines path whole), status := .exited 1 }, storage)
  | .ok source =>
    let (r, s) := ((Run.whole source.block i.input session).run).run state
    let code := match r with
      | .ok code => code
      | .error _ => 1
    let errors := told (strangeLines path lines source.strange) ++ together s.errors
    ({ output := together s.output, errors, status := .exited code }, s.storage)

end FirmwareSurvey.ResultScript
