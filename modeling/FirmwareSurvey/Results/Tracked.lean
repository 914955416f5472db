import FirmwareSurvey.Json.Printer
import FirmwareSurvey.Report.Basic

/-!
# Tracked values

Read back from a flat table, a value is tracked together with the source and the method that its
sidecars tell. A member is a sidecar when its name is that of another member with `_source` or
`_method` behind it; all others are fields.
-/

namespace FirmwareSurvey

/-- A value with its source and its method. -/
structure Tracked where
  /-- The value. -/
  value : Json
  /-- Where the value came from. -/
  source : Option String := none
  /-- How the value was found. -/
  method : Option String := none

namespace Tracked

/-- The text of a value in a document: a text as it is, all else as compact JSON. -/
def plainText : Json → String
  | .str s => s
  | v => v.compact

/-- The text of a tracked value in a document. -/
def text (t : Tracked) : String := plainText t.value

/-! ### Sidecars -/

/-- What a sidecar tells. -/
inductive Role where
  /-- Where a value came from. -/
  | source
  /-- How a value was found. -/
  | method
deriving DecidableEq, Repr

/-- What a name ends in when it is that of a sidecar. -/
def Role.ending : Role → String
  | .source => "_source"
  | .method => "_method"

/-- A name without the ending it has. -/
def dropEnding? (ending name : String) : Option String :=
  if ending.toList.isSuffixOf name.toList then
    some (String.ofList (name.toList.take (name.toList.length - ending.toList.length)))
  else none

/-- The member that a sidecar belongs to, and what it tells about it. -/
def sidecar? (m : Members Json) (name : String) : Option (String × Role) :=
  let known (role : Role) (base : String) : Option (String × Role) :=
    if m.has base then some (base, role) else none
  match dropEnding? "_source" name with
  | some base => known .source base
  | none => (dropEnding? "_method" name).bind (known .method)

/-- Notes a source or a method. -/
def note (t : Tracked) (role : Role) (text : String) : Tracked :=
  match role with
  | .source => { t with source := some text }
  | .method => { t with method := some text }

/-- Notes a source or a method on a field that is there. -/
def noteAt (fields : Members Tracked) (base : String) (role : Role) (text : String) :
    Members Tracked :=
  match fields.get? base with
  | some t => fields.put base (t.note role text)
  | none => fields

/-- The fields of a table, sorted by name, with their sidecars folded in. -/
def ofMembers (m : Members Json) : Members Tracked :=
  let fields := (m.filter fun p => (sidecar? m p.1).isNone).map fun p => (p.1, (⟨p.2, none, none⟩ : Tracked))
  Members.sorted (m.foldl (fun fields p =>
    match sidecar? m p.1 with
    | some (base, role) => noteAt fields base role (plainText p.2)
    | none => fields) fields)

end Tracked

end FirmwareSurvey
