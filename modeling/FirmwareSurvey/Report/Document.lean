import FirmwareSurvey.Json.Printer
import FirmwareSurvey.Report.Basic
import FirmwareSurvey.Text.Case
import FirmwareSurvey.Text.Lines
import FirmwareSurvey.Toml.Printer
import FirmwareSurvey.Toml.Reader

/-!
# Reports as documents

As JSON, a report is its table of kept fields with sidecars. As TOML, it is a commented document:
the scalar fields first, then lists that fit on a line, then everything that needs headers, each
field written on its own and preceded by comments on its origin. The text is read back before it is
handed out.
-/

namespace FirmwareSurvey.Report

/-! ### Comments -/

/-- The greatest length of a method in a comment. -/
def methodLimit : Nat := 80

/-- A method cut to the limit, three dots standing for what was cut. -/
def truncateMethod (cs : List Char) : List Char :=
  if cs.length ≤ methodLimit then cs else cs.take (methodLimit - 3) ++ ['.', '.', '.']

/-- A text with its line ends replaced by spaces. -/
def singleLine (cs : List Char) : List Char :=
  cs.map fun c => if c == '\r' || c == '\n' then ' ' else c

/-- A word with a capital at its start. -/
def capitalized : List Char → List Char
  | [] => []
  | c :: cs => Text.upperChar c ++ cs

/-- The heading of a field: its words, cut at underscores, with capitals. -/
def heading (field : String) : String :=
  let words := (Text.cut '_' field.toList).filter (!·.isEmpty)
  String.ofList (Text.joinWith ' ' (words.map capitalized))

/-- A comment line. -/
def commentLine (cs : List Char) : String := String.ofList ('#' :: ' ' :: cs ++ ['\n'])

/-- The comments on an origin. -/
def originLines : Option Origin → String
  | none => ""
  | some o =>
    commentLine ("Source: ".toList ++ singleLine o.source.toList) ++
      commentLine ("Method: ".toList ++ truncateMethod (singleLine o.method.toList))

/-! ### The order of fields -/

/-- Whether a value is written on one line as far as its shape shows: a scalar, or a list without
objects. -/
def rendersInline : Json → Bool
  | .arr items => !items.any Json.isObject
  | .obj _ => false
  | _ => true

/-- The names of a list, each once, in the order of first mention. -/
def distinct (names : List String) : List String :=
  names.foldl (fun seen n => if n ∈ seen then seen else seen ++ [n]) []

/-- The names of the fields of a class: those that the lists mention first, then the others in the
order of declaration. -/
def ordered (p : Json → Bool) (fields : Members Json) (listed : List String) : List String :=
  distinct (listed.filter (fun k => ((fields.get? k).map p).getD false) ++
    Members.keys (fields.filter fun f => p f.2))

/-- The order in which fields are written: the scalar ones, and the others with the lists that fit
on a line before the rest. -/
def fieldOrder (fields : Members Json) (simple complex : Option (List String)) :
    List String × List String :=
  let listed := simple.getD [] ++ complex.getD []
  let others := ordered isComplex fields listed
  let inline (k : String) : Bool := ((fields.get? k).map rendersInline).getD false
  (ordered (!isComplex ·) fields listed, others.filter inline ++ others.filter (!inline ·))

/-! ### The document -/

/-- A field as a document of its own. -/
def entryText (field : String) (value : Json) : String :=
  match Toml.ofJson? value with
  | some v => Toml.documentText [(field, v)]
  | none => ""

/-- A scalar field with its comments. -/
def simpleText (r : Report) (fields : Members Json) (field : String) : String :=
  match fields.get? field with
  | some value => originLines (r.provenance.get? field) ++ entryText field value
  | none => ""

/-- Any other field with its heading and comments. -/
def complexText (r : Report) (fields : Members Json) (field : String) : String :=
  match fields.get? field with
  | some value =>
    "\n" ++ commentLine (heading field).toList ++ originLines (r.provenance.get? field) ++
      entryText field value
  | none => ""

/-- The text of a document; `stamp` tells when it was made. -/
def tomlText (r : Report) (fields : Members Json) (stamp title : String)
    (simple complex : Option (List String)) : String :=
  let order := fieldOrder fields (simple.or r.simpleFields) (complex.or r.complexFields)
  commentLine (singleLine title.toList) ++ commentLine ("Generated: ".toList ++ stamp.toList) ++
    (if order.1.isEmpty then "" else "\n") ++
    String.join (order.1.map (r.simpleText fields)) ++
    String.join (order.2.map (r.complexText fields))

/-- The report as a commented TOML document. The lists given go before the report's own. -/
def toToml (r : Report) (stamp title : String) (simple complex : Option (List String)) :
    Except Error String := do
  let fields ← r.toMap false
  let text := r.tomlText fields stamp title simple complex
  match Toml.parse? text with
  | some _ => .ok text
  | none => .error .invalidToml

/-- The report as JSON, with sidecars. -/
def toJson (r : Report) : Except Error String := do
  let fields ← r.toMap true
  .ok (Json.obj fields).pretty

end FirmwareSurvey.Report
