import FirmwareSurvey.Layout
import FirmwareSurvey.Text.Word

/-!
# The types a template refers to

Which analyses a template needs is read off its text, before it is parsed: inside every tag, a name
followed at once by a point and a letter refers to the analysis type of that name, unless a word
character or a point stands right before it. Names of loop variables come up too; who asks drops
those that are no types.

A tag reaches from `{{` or `{%` to the next `}}` or `%}`. Each of the two scans is a small automaton
that looks at every character once.
-/

namespace FirmwareSurvey.Template

/-- The insides of the tags of a template. `inside` holds what was read of the tag that is open,
backwards. -/
def tagsFrom (inside : Option (List Char)) : List Char → List (List Char)
  | [] => []
  | [_] => []
  | c :: d :: rest =>
    match inside with
    | none =>
      if c = '{' && (d = '{' || d = '%') then tagsFrom (some []) rest
      else tagsFrom none (d :: rest)
    | some read =>
      if (c = '}' || c = '%') && d = '}' then read.reverse :: tagsFrom none rest
      else tagsFrom (some (c :: read)) (d :: rest)

/-- The insides of the tags of a template. -/
def tags (cs : List Char) : List (List Char) := tagsFrom none cs

/-! ### Names before a point -/

/-- A character a name may start with. -/
def isNameStart (c : Char) : Bool := Text.isAsciiLetter c || c == '_'

/-- A character of a name. -/
def isNameChar (c : Char) : Bool := isNameStart c || Text.isAsciiDigit c

/-- What was just read of a tag. -/
inductive Reading where
  /-- A name may start here. -/
  | ready
  /-- A word character or a point: no name starts here. -/
  | busy
  /-- A name, backwards. -/
  | name (read : List Char)
  /-- A name, backwards, and the point after it. -/
  | point (read : List Char)

/-- What was read when no name goes on with a character. -/
def Reading.after (c : Char) : Reading := if Text.isWord c || c == '.' then .busy else .ready

/-- Reads a character: what was read then, and the name that the character completes. -/
def Reading.step (c : Char) : Reading → Reading × Option (List Char)
  | .ready => (if isNameStart c then .name [c] else after c, none)
  | .busy => (after c, none)
  | .name read =>
    (if isNameChar c then .name (c :: read) else if c = '.' then .point read else after c, none)
  | .point read => if isNameStart c then (.busy, some read.reverse) else (after c, none)

/-- The names before a point in the inside of a tag. -/
def accesses (reading : Reading) : List Char → List (List Char)
  | [] => []
  | c :: cs =>
    let (reading, name) := reading.step c
    name.toList ++ accesses reading cs

/-- The types a template refers to, each once, in the order of first mention. -/
def referencedTypes (template : String) : List String :=
  ((tags template.toList).flatMap (accesses .ready)).foldl (fun types name =>
    let type := TypeName.normal (String.ofList name)
    if type ∈ types then types else types ++ [type]) []

end FirmwareSurvey.Template
