import FirmwareSurvey.Analysis.Context
import FirmwareSurvey.Analysis.Session
import FirmwareSurvey.Cache.Basic
import FirmwareSurvey.Command.Arguments
import FirmwareSurvey.Programs.Utility
import FirmwareSurvey.Report.Document
import FirmwareSurvey.Template.References
import FirmwareSurvey.Template.Render

/-!
# Commands

What a command does on a host and tells, and what it tells when it fails.
-/

/-!
## Why a command fails

A command that fails tells why in a chain of texts, from what it was about to do down to the first
cause. An error that has a cause of its own and tells of it already has the cause told once more
behind it.
-/

namespace FirmwareSurvey

/-! ### Chains of texts -/

/-- The chain of an error of a program. -/
def Tool.Error.chain (e : Tool.Error) : List String :=
  match e with
  | .spawn _ cause => [e.message, cause.message]
  | .workspace _ cause => [e.message, cause.message]
  | .missing _ _ => [e.message]
  | .failed _ _ _ => [e.message]

/-- The chain of an error of finding the image. -/
def Firmware.Error.chain (e : Firmware.Error) : List String :=
  match e with
  | .workDir _ cause => [e.message, cause.message]
  | .size _ cause => [e.message, cause.message]
  | .download cause => e.message :: cause.chain
  | .notFound _ => [e.message]
  | .noSource => [e.message]
  | .badUrl _ => [e.message]

/-- The chain of an error of the offsets. -/
def Offsets.Error.chain (e : Offsets.Error) : List String :=
  match e with
  | .read _ cause => [e.message, cause.message]
  | .noLocation => [e.message]
  | .notFound _ => [e.message]
  | .invalidDecimal _ _ => [e.message]

/-- The chain of an error of the configuration. -/
def Config.Error.chain (e : Config.Error) : List String :=
  match e with
  | .read _ cause => [e.message, cause.message]
  | .parse _ => [e.message]

/-- The chain of an error of an analysis; one that passes another on adds nothing. -/
def Analysis.Error.chain (e : Analysis.Error) : List String :=
  match e with
  | .tool cause => cause.chain
  | .firmware cause => cause.chain
  | .offsets cause => cause.chain
  | .access _ cause => e.message?.toList ++ [cause.message]
  | _ => e.message?.toList

/-- The chain of an error of stored results. -/
def Cache.Error.chain (e : Cache.Error) : List String :=
  match e with
  | .fingerprint _ cause => e.message?.toList ++ [cause.message]
  | .access _ cause => e.message?.toList ++ [cause.message]
  | .spawn _ cause => e.message?.toList ++ [cause.message]
  | .noProgram cause => e.message?.toList ++ [cause.message]
  | .parse path => [s!"Failed to parse {path}"]
  | .badOutput script => [s!"{script} did not print valid JSON"]
  | .failed _ _ _ => e.message?.toList
  | .notATable _ => e.message?.toList

namespace Command

/-- Why a command fails. -/
inductive Error where
  /-- There is no configuration. -/
  | config (cause : Config.Error)
  /-- A topic cannot be looked into. -/
  | survey (topic : Topic) (cause : Analysis.Error)
  /-- A report cannot be written in its form. -/
  | report (format : Format) (cause : Report.Error)
  /-- There is no topic of a name. -/
  | unknownTopic (name : String)
  /-- There is no image. -/
  | image (cause : Firmware.Error)
  /-- There are no results of a type. -/
  | results (type : String) (cause : Cache.Error)
  /-- A template cannot be read. -/
  | template (path : Path) (cause : Storage.Fault)
  /-- A template cannot be filled in. -/
  | render (path : Path)
  /-- The directory of a file cannot be made. -/
  | directory (path : Path) (cause : Storage.Fault)
  /-- A file cannot be written. -/
  | write (path : Path) (cause : Storage.Fault)

namespace Error

/-- The chain of an error. -/
def chain : Error → List String
  | .config cause => "Failed to load fwprobe configuration" :: cause.chain
  | .survey topic cause => s!"{topic.name} analysis failed" :: cause.chain
  | .report .toml cause => "Failed to render TOML report" :: cause.message?.toList
  | .report .json cause => "Failed to render JSON report" :: cause.message?.toList
  | .unknownTopic name => (Analysis.Error.unknownTopic name).chain
  | .image cause => "Failed to resolve firmware" :: cause.chain
  | .results type cause => s!"Cached analysis '{type}' failed" :: cause.chain
  | .template path cause => [s!"Failed to read template {path}", cause.message]
  | .render path => [s!"Failed to render {path}", "Failed to render template"]
  | .directory path cause => [s!"Failed to create {path}", cause.message]
  | .write path cause => [s!"Failed to write {path}", cause.message]

/-- The wording of an error. -/
def message (e : Error) : String := ": ".intercalate e.chain

/-- The number a program ends with that fails for an error. A sum beyond the words of a device tree
ends it in its own way. -/
def code : Error → Nat
  | .survey _ (.memory _) => 101
  | _ => 1

end Error

end Command

end FirmwareSurvey

/-!
## Running commands

A command runs on a host and tells what it has to say; a report or a filled template goes to a file
on demand, of which a note is then left. The results of types of analysis are taken from store as
long as the image and what makes them are the same.
-/

namespace FirmwareSurvey

namespace Command

/-- What a command tells. -/
structure Told where
  /-- What it has to say. -/
  output : String := ""
  /-- What it notes on the way. -/
  notes : String := ""
deriving DecidableEq

/-- A part of a command. -/
abbrev Step (α : Type) := OnHost Error α

/-- A text that ends in a line feed. -/
def endedLine (text : String) : String :=
  if text.toList.getLast? = some '\n' then text else text ++ "\n"

/-- Tells a text, or writes it to a file. -/
def deliver (text : String) : Option Path → Step Told
  | none => return { output := endedLine text }
  | some path => do
    match path.parent? with
    | some above => OnHost.tryChange (·.makeDirectories above) (.directory above)
    | none => pure ()
    OnHost.tryChange (·.writeText path text) (.write path)
    return { notes := s!"✓ Wrote {path}\n" }

/-- The session of the options: its files lie below the current directory. -/
def session (options : Options) : Step Session := do
  let host ← read
  let config ← OnHost.tryLook (options.loadConfig · host.configVariable) .config
  return .ofConfig config host.currentDirectory

/-- A report as a text. -/
def reportText (report : Report) (format : Format) (stamp : String) : Except Report.Error String :=
  match format with
  | .toml => report.toToml stamp report.title none none
  | .json => report.toJson

/-- Reports on a topic. -/
def runReport (options : Options) (topic : Topic) (image : Option Path) (format : Format)
    (out : Option Path) : Step Told := do
  let session ← session options
  let analysis ← OnHost.mapError (.survey topic) (session.run topic image)
  match reportText analysis.report format (← read).now with
  | .error cause => throw (.report format cause)
  | .ok text => deliver text out

/-- The results of types of analysis, one after the other; those made new are stored. -/
def resultsOf (options : Options) (image : Path) : Cache → List String → Step (List (String × Json))
  | _, [] => return []
  | cache, type :: types => do
    let (results, cache) ←
      OnHost.mapError (.results type) (cache.analyze type image (Cache.Script.run options.toArgs))
    return (type, results) :: (← resultsOf options image cache types)

/-- The results of types of analysis for an image. -/
def results (options : Options) (types : List String) (image : Option Path) :
    Step (List (String × Json)) := do
  let types := types.map TypeName.normal
  match types.find? fun type => (Topic.named? type).isNone with
  | some name => throw (.unknownTopic name)
  | none => do
    let session ← session options
    let image ← OnHost.mapError .image
      (Firmware.resolve session.config session.layout.workDir image)
    let cache : Cache :=
      { layout := session.layout, locator := { scriptsDir := session.config.scriptsDir } }
    resultsOf options image.path cache types

/-- Gives the results of a type of analysis. -/
def runAnalyze (options : Options) (type : String) (image : Option Path) : Step Told := do
  let found ← results options [type] image
  return { output := String.join (found.map fun (_, v) => v.pretty ++ "\n") }

/-- Fills a template in with the results it refers to. -/
def runRender (options : Options) (template : Path) (image out : Option Path) : Step Told := do
  let text ← OnHost.tryLook (·.readText template) (.template template)
  let types := (Template.referencedTypes text).filter fun type => (Topic.named? type).isSome
  let found ← if types.isEmpty then pure [] else results options types image
  let renderer : Template.Renderer := found.foldl (fun r (type, v) => r.add type v) {}
  match renderer.render? text with
  | none => throw (.render template)
  | some document => deliver document out

/-- What is told of a topic on a line. -/
def topicLine (t : Topic) : String :=
  let needs := (if t.requirements.extraction then ["extraction"] else []) ++
    (if t.requirements.offsets then ["offsets"] else [])
  let ending := if needs.isEmpty then "" else " (needs " ++ ", ".intercalate needs ++ ")"
  s!"- {t.name}: {t.description}" ++ ending ++ "\n"

/-- Lists the topics. -/
def listing (json : Bool) : String :=
  if json then (Json.arr (Topic.all.map Topic.toJson)).pretty ++ "\n"
  else "Analyzers:\n" ++ String.join (Topic.all.map topicLine)

/-- Runs a command. -/
def run (options : Options) : Command → Step Told
  | .report topic image format out => runReport options topic image format out
  | .analyze type image => runAnalyze options type image
  | .render template image out => runRender options template image out
  | .list json => return { output := listing json }

end Command

namespace CommandLine

/-- How the program is used. -/
def usage : String :=
  "Usage: fwprobe [--config PATH] [--output-dir PATH] [--work-dir PATH] COMMAND\n\n" ++
    "Commands:\n" ++
    String.join (Topic.all.map fun t =>
      s!"  {t.name} [FIRMWARE] [--format toml|json] [--out PATH]\n") ++
    "  analyze TYPE [FIRMWARE]\n  render TEMPLATE [FIRMWARE] [--out PATH]\n  list [--json]\n"

/-- The version of the program. -/
def versionLine : String := "fwprobe 0.1.0\n"

/-- The program on a host: it does what its arguments ask for. -/
def program (host : Host) : Program := fun arguments _ storage =>
  match read arguments with
  | .error .help => (Program.writing usage.toUTF8, storage)
  | .error .version => (Program.writing versionLine.toUTF8, storage)
  | .error .misuse => ({ errors := usage.toUTF8, status := .exited 2 }, storage)
  | .ok line =>
    match (line.command.run line.options).exec host storage with
    | (.ok told, storage) =>
      ({ output := told.output.toUTF8, errors := told.notes.toUTF8, status := .exited 0 }, storage)
    | (.error e, storage) => (Program.failing e.code s!"error: {e.message}", storage)

end CommandLine

end FirmwareSurvey
