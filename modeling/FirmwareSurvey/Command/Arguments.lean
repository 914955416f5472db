import FirmwareSurvey.Analysis.Topic
import FirmwareSurvey.Config.Options
import FirmwareSurvey.Members
import FirmwareSurvey.Text.Lines

/-!
# Commands

A command reports on a topic, gives the stored results of a type of analysis, fills a template in
with such results, or lists the topics.
-/

namespace FirmwareSurvey

/-- The form a report is written in. -/
inductive Format where
  /-- A commented TOML document. -/
  | toml
  /-- JSON. -/
  | json
deriving DecidableEq, Repr

namespace Format

/-- The name of a form. -/
def name : Format → String
  | .toml => "toml"
  | .json => "json"

/-- The form of a name. -/
def named? (s : String) : Option Format := [toml, json].find? fun f => f.name = s

end Format

/-- A command. -/
inductive Command where
  /-- Reports on a topic. -/
  | report (topic : Topic) (image : Option Path) (format : Format) (out : Option Path)
  /-- Gives the results of a type of analysis. -/
  | analyze (type : String) (image : Option Path)
  /-- Fills a template in with results. -/
  | render (template : Path) (image : Option Path) (out : Option Path)
  /-- Lists the topics. -/
  | list (json : Bool)
deriving DecidableEq

/-- What a command line asks for. -/
structure CommandLine where
  /-- The options of every command. -/
  options : Options
  /-- The command. -/
  command : Command
deriving DecidableEq

end FirmwareSurvey

/-!
## Reading a command line

A command line names a command, with options of every command on either side of the name and those
of the command behind it. An option has its value behind an equals sign or in the next argument,
which may then not look like an option itself. After two hyphens every argument is a word. At either
side of the name an option is given once at most; the one behind the name goes before the other.
-/

namespace FirmwareSurvey.CommandLine

/-- Why a command line names no command to run. -/
inductive Halt where
  /-- It asks how the program is used. -/
  | help
  /-- It asks which version the program has. -/
  | version
  /-- It is not as it should be. -/
  | misuse
deriving DecidableEq, Repr

/-- What a value has to be. -/
inductive ValueKind where
  /-- Any text. -/
  | text
  /-- A path, which is not empty. -/
  | path
  /-- The name of a form. -/
  | format
deriving DecidableEq

/-- Whether a text is a value of a kind. -/
def ValueKind.accepts : ValueKind → String → Bool
  | .text, _ => true
  | .path, v => v != ""
  | .format, v => (Format.named? v).isSome

/-- What may stand at one side of the name of the command. -/
structure Level where
  /-- The options with a value. -/
  options : Members ValueKind
  /-- The options without one. -/
  flags : List String
  /-- The words. -/
  words : List ValueKind
  /-- Whether the version may be asked for. -/
  hasVersion : Bool := false

/-- The options of every command. -/
def sharedOptions : Members ValueKind :=
  [("config", .path), ("output-dir", .path), ("work-dir", .path)]

/-- What may stand before the name of the command. The flag asks for more to be told of the run, of
which nothing is told here. -/
def before : Level := ⟨sharedOptions, ["verbose"], [], true⟩

/-- What may stand behind the name of a command. -/
def behind? (name : String) : Option Level :=
  let level (options : Members ValueKind) (flags : List String) (words : List ValueKind) : Level :=
    { options := sharedOptions ++ options, flags := "verbose" :: flags, words := words }
  if name == "analyze" then some (level [] [] [.text, .path])
  else if name == "render" then some (level [("out", .path)] [] [.path, .path])
  else if name == "list" then some (level [] ["json"] [])
  else (Topic.named? name).map fun _ => level [("format", .format), ("out", .path)] [] [.path]

/-- The shape of an argument. -/
inductive Argument where
  /-- A word. -/
  | word (text : String)
  /-- Two hyphens. -/
  | wordsFollow
  /-- An option by its name, with the value that is written to it. -/
  | named (name : String) (value : Option String)
  /-- Options by their letters. -/
  | letters (letters : List Char)
deriving DecidableEq

/-- The shape of a text. A single hyphen is a word. -/
def Argument.ofText (text : String) : Argument :=
  match text.toList with
  | ['-', '-'] => .wordsFollow
  | '-' :: '-' :: cs =>
    match Text.cutOnce? '=' cs with
    | some (name, value) => .named (String.ofList name) (some (String.ofList value))
    | none => .named (String.ofList cs) none
  | '-' :: c :: cs => .letters (c :: cs)
  | _ => .word text

/-- What stands at one side of the name of the command. -/
structure Given where
  /-- The options with their values. -/
  options : Members String := []
  /-- The options without. -/
  flags : List String := []
  /-- The words. -/
  words : List String := []
deriving DecidableEq

namespace Level

/-- Takes an option with its value. -/
def option (l : Level) (g : Given) (name value : String) : Except Halt Given :=
  match l.options.get? name with
  | none => .error .misuse
  | some kind =>
    if g.options.has name || !kind.accepts value then .error .misuse
    else .ok { g with options := g.options.put name value }

/-- Takes an option without a value. -/
def flag (l : Level) (g : Given) (name : String) : Except Halt Given :=
  if name == "help" then .error .help
  else if name == "version" && l.hasVersion then .error .version
  else if l.flags.contains name && !g.flags.contains name then
    .ok { g with flags := g.flags ++ [name] }
  else .error .misuse

/-- Takes a word. -/
def word (l : Level) (g : Given) (text : String) : Except Halt Given :=
  match l.words[g.words.length]? with
  | none => .error .misuse
  | some kind =>
    if kind.accepts text then .ok { g with words := g.words ++ [text] } else .error .misuse

/-- The name of an option that has a letter. -/
def nameOfLetter (c : Char) : String :=
  if c = 'v' then "verbose" else if c = 'h' then "help" else if c = 'V' then "version" else ""

/-- Takes options by their letters. -/
def letters (l : Level) (g : Given) : List Char → Except Halt Given
  | [] => .ok g
  | c :: cs =>
    match l.flag g (nameOfLetter c) with
    | .ok g => letters l g cs
    | .error e => .error e

/-- How far the arguments of one side are read. -/
structure Reading where
  /-- What stands there so far. -/
  given : Given := {}
  /-- The option whose value comes next. -/
  pending : Option String := none
  /-- Whether only words follow. -/
  wordsOnly : Bool := false

/-- Takes an argument. -/
def step (l : Level) (r : Reading) (argument : String) : Except Halt Reading :=
  let next (g : Except Halt Given) : Except Halt Reading :=
    g.map fun g => { given := g, wordsOnly := r.wordsOnly }
  if r.wordsOnly then next (l.word r.given argument)
  else
    match Argument.ofText argument, r.pending with
    | .word text, some name => next (l.option r.given name text)
    | _, some _ => .error .misuse
    | .word text, none => next (l.word r.given text)
    | .wordsFollow, none => .ok { r with wordsOnly := true }
    | .named name (some value), none => next (l.option r.given name value)
    | .named name none, none =>
      if l.options.has name then .ok { r with pending := some name }
      else next (l.flag r.given name)
    | .letters cs, none => next (l.letters r.given cs)

/-- Takes all arguments. -/
def read (l : Level) (r : Reading) : List String → Except Halt Given
  | [] => if r.pending.isSome then .error .misuse else .ok r.given
  | a :: rest =>
    match l.step r a with
    | .ok r => l.read r rest
    | .error e => .error e

/-- Takes the arguments up to the first word that is no value; gives that word and what follows. -/
def readUpToWord (l : Level) (r : Reading) : List String →
    Except Halt (Given × String × List String)
  | [] => .error .misuse
  | a :: rest =>
    if r.pending.isNone && !r.wordsOnly && Argument.ofText a = .word a then .ok (r.given, a, rest)
    else
      match l.step r a with
      | .ok r => l.readUpToWord r rest
      | .error e => .error e

end Level

namespace Given

/-- The value of an option that is a path. -/
def path? (g : Given) (name : String) : Option Path := (g.options.get? name).map Path.mk

/-- The options of every command. -/
def shared (g : Given) : Options := ⟨g.path? "config", g.path? "output-dir", g.path? "work-dir"⟩

/-- The command of a name. -/
def command? (g : Given) (name : String) : Option Command :=
  match name, g.words with
  | "list", _ => some (.list (g.flags.contains "json"))
  | "analyze", type :: rest => some (.analyze type (rest.head?.map Path.mk))
  | "render", template :: rest => some (.render ⟨template⟩ (rest.head?.map Path.mk) (g.path? "out"))
  | _, words =>
    let format := ((g.options.get? "format").bind Format.named?).getD .toml
    (Topic.named? name).map fun topic =>
      .report topic (words.head?.map Path.mk) format (g.path? "out")

end Given

/-- The options of two sides; the second goes before the first. -/
def merge (first second : Options) : Options :=
  ⟨second.config.or first.config, second.outputDir.or first.outputDir,
    second.workDir.or first.workDir⟩

/-- Asks how the program, or a command of it, is used. -/
def readHelp : List String → Halt
  | [] => .help
  | [name] => if name == "help" || (behind? name).isSome then .help else .misuse
  | _ => .misuse

/-- Reads a command line. -/
def read (arguments : List String) : Except Halt CommandLine := do
  let (first, name, rest) ← before.readUpToWord {} arguments
  if name == "help" then .error (readHelp rest)
  else
    match behind? name with
    | none => .error .misuse
    | some level =>
      let second ← level.read {} rest
      match second.command? name with
      | none => .error .misuse
      | some command => .ok ⟨merge first.shared second.shared, command⟩

end FirmwareSurvey.CommandLine
