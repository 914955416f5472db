import FirmwareSurvey.Host.Basic
import FirmwareSurvey.Shell.Print
import FirmwareSurvey.Text.Octets

/-!
# Utilities

The small programs that scripts are made of: they show, name, make and remove files. A program is
what it does to storage with its arguments and its input.
-/

namespace FirmwareSurvey

/-- What a program does with its arguments and its input. -/
abbrev Program := List String → ByteArray → Storage → Completion × Storage

namespace Program

/-- A program that writes and ends well. -/
def writing (output : ByteArray) : Completion := { output, status := .exited 0 }

/-- A program that complains and fails. -/
def failing (code : Nat) (complaint : String) : Completion :=
  { errors := (complaint ++ "\n").toUTF8, status := .exited code }

/-- Adds a complaint to what a program leaves behind. -/
def complain (c : Completion) (complaint : String) : Completion :=
  { c with errors := c.errors ++ (complaint ++ "\n").toUTF8, status := .exited 1 }

/-- Takes each name in turn, going on after a complaint. -/
def forNames (names : List String) (storage : Storage)
    (act : String → Storage → Except String (ByteArray × Storage)) : Completion × Storage :=
  names.foldl (fun (c, s) name =>
    match act name s with
    | .ok (output, s) => ({ c with output := c.output ++ output }, s)
    | .error complaint => (complain c complaint, s)) (writing .empty, storage)

/-- Shows files one behind the other. -/
def cat : Program := fun arguments input storage =>
  forNames (if arguments.isEmpty then ["-"] else arguments) storage fun name s =>
    if name == "-" then .ok (input, s)
    else
      match s.readBytes ⟨name⟩ with
      | .ok bytes => .ok (bytes, s)
      | .error fault => .error s!"cat: {name}: {fault.reason}"

/-- The arguments that are no options. -/
def operands (arguments : List String) : List String :=
  arguments.filter fun a => !"-".toList.isPrefixOf a.toList || a == "-"

/-- Makes directories. -/
def makeDirectories : Program := fun arguments _ storage =>
  forNames (operands arguments) storage fun name s =>
    let made := if arguments.contains "-p" then s.makeDirectories ⟨name⟩ else s.makeDirectory ⟨name⟩
    match made with
    | .ok s => .ok (.empty, s)
    | .error fault => .error s!"mkdir: cannot create directory '{name}': {fault.reason}"

/-- Makes files that are missing. -/
def touch : Program := fun arguments _ storage =>
  forNames (operands arguments) storage fun name s =>
    match s.node? true ⟨name⟩ with
    | .ok _ => .ok (.empty, s)
    | .error _ =>
      match s.writeBytes ⟨name⟩ .empty with
      | .ok s => .ok (.empty, s)
      | .error fault => .error s!"touch: cannot touch '{name}': {fault.reason}"

/-- Removes files, and directories on demand. -/
def remove : Program := fun arguments _ storage =>
  let options := (arguments.filter (!(operands arguments).contains ·)).flatMap String.toList
  forNames (operands arguments) storage fun name s =>
    let node := s.node? false ⟨name⟩
    match node, s.remove ⟨name⟩ with
    | .ok (.directory _), .ok s =>
      if options.contains 'r' || options.contains 'R' then .ok (.empty, s)
      else .error s!"rm: cannot remove '{name}': Is a directory"
    | _, .ok s => .ok (.empty, s)
    | _, .error fault =>
      if options.contains 'f' && fault == .notFound then .ok (.empty, s)
      else .error s!"rm: cannot remove '{name}': {fault.reason}"

/-- A text without the slashes at its end. -/
def dropSlashes (cs : List Char) : List Char := (cs.reverse.dropWhile (· = '/')).reverse

/-- The last name of a path. -/
def lastName (cs : List Char) : List Char :=
  let cs' := dropSlashes cs
  if cs'.isEmpty && !cs.isEmpty then ['/']
  else (cs'.reverse.takeWhile (· != '/')).reverse

/-- A name without an ending, unless there is nothing else to it. -/
def dropEnding (ending name : List Char) : List Char :=
  if ending.isSuffixOf name && ending != name then name.take (name.length - ending.length) else name

/-- Tells the last name of a path, without an ending. -/
def baseName : Program := fun arguments _ storage =>
  let line (cs : List Char) := (String.ofList cs ++ "\n").toUTF8
  match arguments with
  | [path] => (writing (line (lastName path.toList)), storage)
  | [path, ending] => (writing (line (dropEnding ending.toList (lastName path.toList))), storage)
  | _ => (failing 1 "basename: missing operand", storage)

/-- Tells a path without its last name. -/
def directoryName : Program := fun arguments _ storage =>
  let above (path : String) :=
    let cs := dropSlashes path.toList
    if cs.isEmpty then (if path.isEmpty then ['.'] else ['/'])
    else if !cs.contains '/' then ['.']
    else
      let up := dropSlashes (cs.reverse.dropWhile (· != '/')).reverse
      if up.isEmpty then ['/'] else up
  (writing (String.join (arguments.map fun a => String.ofList (above a) ++ "\n")).toUTF8, storage)

/-- Writes its arguments on a line. -/
def echo : Program := fun arguments _ storage =>
  (writing (Octets.toBytes (Shell.echoText .extended (arguments.map Octets.ofText))), storage)

/-- Writes its arguments in a format. -/
def printf : Program := fun arguments _ storage =>
  match arguments.map Octets.ofText with
  | format :: rest =>
    let p := Shell.formatText .extended format rest
    let errors := String.join (p.complaints.map fun c => s!"printf: {c}\n")
    ({ output := Octets.toBytes p.text, errors := errors.toUTF8, status := .exited p.status }, storage)
  | [] => (failing 1 "printf: missing operand", storage)

/-- Ends at once. -/
def ending (code : Nat) : Program := fun _ _ storage => ({ status := .exited code }, storage)

end Program

end FirmwareSurvey

/-!
## The options of utilities

Options and operands may stand in any order; behind two dashes there are only operands. An option is
a letter, or a name that stands for one; letters may stand together, and one that needs a value takes
the rest of its argument or the next one.
-/

namespace FirmwareSurvey.Program

/-- What a utility is asked for. -/
structure Asked where
  /-- The options with their values. -/
  options : List (Char × String) := []
  /-- The operands. -/
  operands : List String := []

namespace Asked

/-- Whether an option is given. -/
def has (a : Asked) (letter : Char) : Bool := a.options.any (·.1 = letter)

/-- The values of an option. -/
def values (a : Asked) (letter : Char) : List String :=
  (a.options.filter (·.1 = letter)).map (·.2)

/-- The value of an option, the last one when there are several. -/
def value? (a : Asked) (letter : Char) : Option String := (a.values letter).getLast?

/-- An option before others. -/
def withOption (a : Asked) (letter : Char) (value : String) : Asked :=
  { a with options := (letter, value) :: a.options }

/-- An operand before others. -/
def withOperand (a : Asked) (operand : String) : Asked :=
  { a with operands := operand :: a.operands }

end Asked

/-- What is wrong with the arguments of a utility. -/
inductive Misuse where
  /-- It has no such letter. -/
  | letter (c : Char)
  /-- It has no such name. -/
  | name (name : String)
  /-- A letter has no value. -/
  | value (c : Char)

/-- The wording, for a utility. -/
def Misuse.message (m : Misuse) (utility : String) : String :=
  let reason := match m with
    | .letter c => s!"invalid option -- '{c}'"
    | .name n => s!"unrecognized option '{n}'"
    | .value c => s!"option requires an argument -- '{c}'"
  s!"{utility}: {reason}\nTry '{utility} --help' for more information."

/-- The options of a utility. -/
structure OptionSet where
  /-- The letters without values. -/
  plain : List Char := []
  /-- The letters with values. -/
  valued : List Char := []
  /-- The names that stand for letters. -/
  names : List (String × Char) := []

/-- Reads the letters of an argument: the options, and the letter that waits for a value. -/
def OptionSet.readLetters (o : OptionSet) :
    List Char → Except Misuse (List (Char × String) × Option Char)
  | [] => .ok ([], none)
  | c :: cs =>
    if o.valued.contains c then
      .ok (if cs.isEmpty then ([], some c) else ([(c, String.ofList cs)], none))
    else if o.plain.contains c then
      (o.readLetters cs).map fun (options, waiting) => ((c, "") :: options, waiting)
    else .error (.letter c)

/-- Reads arguments behind a letter that waits for a value, if there is one. -/
def OptionSet.readFrom (o : OptionSet) : Option Char → List String → Except Misuse Asked
  | some c, [] => .error (.value c)
  | some c, value :: rest => (o.readFrom none rest).map (·.withOption c value)
  | none, [] => .ok {}
  | none, argument :: rest =>
    match argument.toList with
    | ['-', '-'] => .ok { operands := rest }
    | '-' :: '-' :: text =>
      let name := String.ofList (text.takeWhile (· != '='))
      let value := String.ofList ((text.dropWhile (· != '=')).drop 1)
      match o.names.lookup name with
      | some c =>
        if o.valued.contains c && !text.contains '=' then o.readFrom (some c) rest
        else (o.readFrom none rest).map (·.withOption c value)
      | none => .error (.name argument)
    | '-' :: c :: cs =>
      match o.readLetters (c :: cs) with
      | .error m => .error m
      | .ok (options, waiting) =>
        (o.readFrom waiting rest).map fun a => { a with options := options ++ a.options }
    | _ => (o.readFrom none rest).map (·.withOperand argument)

/-- A utility that fails with a number when its arguments make no sense. -/
def reading (utility : String) (code : Nat) (o : OptionSet)
    (act : Asked → ByteArray → Storage → Completion × Storage) : Program :=
  fun arguments input storage =>
    match o.readFrom none arguments with
    | .ok asked => act asked input storage
    | .error m => (failing code (m.message utility), storage)

end FirmwareSurvey.Program
