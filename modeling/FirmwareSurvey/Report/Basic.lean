import FirmwareSurvey.Json.Basic
import FirmwareSurvey.Text.Lines

/-!
# Reports

A report is a record of an analysis: a title, its fields in the order of their declaration, and for
some fields an origin that says where the value came from and how it was found. A field is *kept*
when its name does not start with an underscore and its value is neither null nor an empty list.

Flattened with its sidecars, each kept field is followed by its source and its method, when it has
an origin.
-/

namespace FirmwareSurvey

namespace Report

/-- Where the value of a field came from and how it was found. -/
structure Origin where
  /-- What the value was read from. -/
  source : String
  /-- How the value was found there. -/
  method : String
deriving DecidableEq

/-- The origins of fields. -/
abbrev Provenance := Members Origin

/-- Records the origin of a field; a second one replaces the first. -/
def Provenance.add (p : Provenance) (field source method : String) : Provenance :=
  Members.put p field ⟨source, method⟩

/-- The origins of a list of fields, each with its source and its method. -/
def Provenance.ofList (l : List (String × String × String)) : Provenance :=
  l.foldl (fun p e => p.add e.1 e.2.1 e.2.2) []

/-- Why a report cannot be written. -/
inductive Error where
  /-- The record is no object. -/
  | notATable
  /-- The text written is no TOML document. -/
  | invalidToml
deriving DecidableEq

/-- The wording of an error that has a stable one. -/
def Error.message? : Error → Option String
  | .notATable => some "Report did not serialize to a table"
  | .invalidToml => none

end Report

open Report

/-- A record of an analysis with the origins of its fields. -/
structure Report where
  /-- The title. -/
  title : String
  /-- The record: an object for every report that can be written. -/
  value : Json
  /-- The origins of fields. -/
  provenance : Provenance := []
  /-- The preferred order of scalar fields. -/
  simpleFields : Option (List String) := none
  /-- The preferred order of the other fields. -/
  complexFields : Option (List String) := none

namespace Report

/-- Whether a value says nothing: null or an empty list. -/
def isEmptyValue : Json → Bool
  | .null => true
  | .arr items => items.isEmpty
  | _ => false

/-- Whether a field is kept. -/
def isKept (field : String × Json) : Bool :=
  field.1.toList.head? != some '_' && !isEmptyValue field.2

/-- Whether a value is a list or an object. -/
def isComplex : Json → Bool
  | .arr _ => true
  | .obj _ => true
  | _ => false

/-- The name of the sidecar that holds a field's source. -/
def sourceName (field : String) : String := field ++ "_source"

/-- The name of the sidecar that holds a field's method. -/
def methodName (field : String) : String := field ++ "_method"

/-- Adds the sidecars of a field. -/
def putOrigin (m : Members Json) (field : String) : Option Origin → Members Json
  | none => m
  | some o => (m.put (sourceName field) (.str o.source)).put (methodName field) (.str o.method)

/-- The declared fields of a report. -/
def declared? (r : Report) : Except Error (Members Json) :=
  match r.value with
  | .obj members => .ok members
  | _ => .error .notATable

/-- The kept fields, each put after those before it and followed by its sidecars on demand. -/
def flatten (provenance : Provenance) (sidecars : Bool) (declared : Members Json) : Members Json :=
  (declared.filter isKept).foldl (fun m field =>
    let m := Members.put m field.1 field.2
    if sidecars then putOrigin m field.1 (provenance.get? field.1) else m) []

/-- The report as a table of kept fields, with or without their sidecars. -/
def toMap (r : Report) (sidecars : Bool) : Except Error (Members Json) :=
  r.declared?.map (flatten r.provenance sidecars)

end Report

end FirmwareSurvey

/-!
## Markdown summaries

A summary is a title, sections with headings, lines and tables. A bar inside a table's cell is
escaped.
-/

namespace FirmwareSurvey.Report.Markdown

/-- A line. -/
def line (text : String) : String := text ++ "\n"

/-- The title of a summary. -/
def title (text : String) : String := line ("# " ++ text) ++ "\n"

/-- The heading of a section. -/
def heading (text : String) : String := line ("## " ++ text) ++ "\n"

/-- A text between backquotes. -/
def code (text : String) : String := "\x60" ++ text ++ "\x60"

/-- A cell with its bars escaped. -/
def cell (text : String) : String :=
  String.ofList (text.toList.flatMap fun c => if c = '|' then ['\\', '|'] else [c])

/-- A row of cells. -/
def row (cells : List String) : String := line ("| " ++ " | ".intercalate cells ++ " |")

/-- A table. -/
def table (headers : List String) (rows : List (List String)) : String :=
  row headers ++ line ("|" ++ String.join (headers.map fun _ => "---|")) ++
    String.join (rows.map fun r => row (r.map cell)) ++ "\n"

end FirmwareSurvey.Report.Markdown
