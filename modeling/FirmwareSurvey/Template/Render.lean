import FirmwareSurvey.Template.Filter
import FirmwareSurvey.Template.Operators
import FirmwareSurvey.Template.Parser

/-!
# Rendering a template

A template is rendered with the results of analyses. Every analysis type is a name whose members
are the fields of its results; what is not there is written as nothing. At the end of the document
stand the footnotes that were cited on the way.

Names are looked up in frames, the innermost first. Every round of a loop has a frame of its own, in
which its targets, what the loop knows about itself and everything assigned in its body stand; it
goes when the round ends. Branches have no frame of their own.
-/

namespace FirmwareSurvey.Template

/-- The values of names, innermost frame first. -/
abbrev Frames := List (Members Value)

/-- The value of a name; undefined when no frame has it. -/
def Frames.lookup (frames : Frames) (name : String) : Value :=
  (frames.findSome? (Members.get? · name)).getD .undefined

/-! ### Calls -/

/-- The whole numbers from one on, by a step, before another. None for a step of zero and for more
numbers than may be. -/
def rangeOf? (start stop step : Int) : Option Value :=
  if step = 0 then none
  else
    let count := if 0 < step then (stop - start + step - 1) / step else (start - stop - step - 1) / -step
    if 100000 < count then none
    else some (.run ((List.range count.toNat).map fun i : Nat => .int (start + (i : Int) * step)))

/-- The value of a function. -/
def call? (name : String) (g : Given) : Option Value :=
  match name, g.all with
  | "range", [stop] => stop.place?.bind fun stop => rangeOf? 0 stop 1
  | "range", [start, stop] => do rangeOf? (← start.place?) (← stop.place?) 1
  | "range", [start, stop, step] => do rangeOf? (← start.place?) (← stop.place?) (← step.place?)
  | "dict", [] => some (.map [])
  | "dict", [.map members] => some (.map members)
  | _, _ => none

/-- The value of what belongs to a value and can be called. -/
def callOn? (v : Value) (name : String) (g : Given) : Option Value :=
  match v, name with
  | .round index _ _ _, "cycle" => some ((g.all[index % g.all.length]?).getD .undefined)
  | _, _ => none

/-! ### Expressions -/

mutual

/-- The value of an expression. -/
def evaluate (frames : Frames) : Expression → Citing Value
  | .nothing => pure .nothing
  | .bool b => pure (.bool b)
  | .int n => pure (.int n)
  | .float x => pure (.float x)
  | .text s => pure (.text s)
  | .name n => pure (frames.lookup n)
  | .list items => return .list (← evaluateAll frames items)
  | .map members => return Value.mapOfPairs (← evaluateMembers frames members)
  | .member base name => return (← evaluate frames base).member name
  | .item base index => do
    let base ← evaluate frames base
    return base.item (← evaluate frames index)
  | .part base start stop step => do
    let base ← evaluate frames base
    let start ← evaluateBound frames start
    let stop ← evaluateBound frames stop
    liftM (part? base start stop (← evaluateBound frames step))
  | .call (.name n) arguments named => do
    let plain ← evaluateAll frames arguments
    let named ← evaluateNamed frames named
    if frames.lookup n matches .undefined then liftM (call? n ⟨plain, named⟩) else failure
  | .call (.member base name) arguments named => do
    let base ← evaluate frames base
    let plain ← evaluateAll frames arguments
    let named ← evaluateNamed frames named
    liftM (callOn? base name ⟨plain, named⟩)
  | .call _ _ _ => failure
  | .filter base name arguments named => do
    let base ← evaluate frames base
    let plain ← evaluateAll frames arguments
    filter name base ⟨plain, ← evaluateNamed frames named⟩
  | .test base name arguments named => do
    let base ← evaluate frames base
    let plain ← evaluateAll frames arguments
    let named ← evaluateNamed frames named
    return .bool (← liftM (passes? name base ⟨plain, named⟩))
  | .unary op operand => do liftM (unary? op (← evaluate frames operand))
  | .either left right => do
    let left ← evaluate frames left
    if left.isTrue then return left else evaluate frames right
  | .both left right => do
    let left ← evaluate frames left
    if left.isTrue then evaluate frames right else return left
  | .binary op left right => do
    let left ← evaluate frames left
    liftM (binary? op left (← evaluate frames right))
  | .comparisons first rest => do
    let first ← evaluate frames first
    return .bool (← evaluateComparisons frames first rest)
  | .choice condition yes (some no) => do
    if (← evaluate frames condition).isTrue then evaluate frames yes else evaluate frames no
  | .choice condition yes none => do
    if (← evaluate frames condition).isTrue then evaluate frames yes else return .undefined

/-- The values of expressions. -/
def evaluateAll (frames : Frames) : List Expression → Citing (List Value)
  | [] => pure []
  | e :: es => do
    let v ← evaluate frames e
    return v :: (← evaluateAll frames es)

/-- The value of a bound of a part. -/
def evaluateBound (frames : Frames) : Option Expression → Citing Value
  | some e => evaluate frames e
  | none => pure .nothing

/-- Whether comparisons hold one after another; after one that does not, nothing is evaluated. -/
def evaluateComparisons (frames : Frames) (left : Value) :
    List (Comparison × Expression) → Citing Bool
  | [] => pure true
  | (c, e) :: rest => do
    let right ← evaluate frames e
    if ← liftM (compares? c left right) then evaluateComparisons frames right rest
    else return false

/-- The values of named expressions. -/
def evaluateNamed (frames : Frames) :
    List (String × Expression) → Citing (List (String × Value))
  | [] => pure []
  | (k, e) :: es => do
    let v ← evaluate frames e
    return (k, v) :: (← evaluateNamed frames es)

/-- The members of a map. -/
def evaluateMembers (frames : Frames) :
    List (Expression × Expression) → Citing (List (Value × Value))
  | [] => pure []
  | (k, e) :: es => do
    let k ← evaluate frames k
    let v ← evaluate frames e
    return (k, v) :: (← evaluateMembers frames es)

end

/-! ### Statements -/

mutual

/-- A frame with a value assigned to a target. -/
def assigned? (frame : Members Value) (v : Value) : Target → Option (Members Value)
  | .name n => some (frame.put n v)
  | .list targets => v.elements?.bind fun vs => assignedAll? frame vs targets

/-- A frame with values assigned to as many targets. -/
def assignedAll? (frame : Members Value) (vs : List Value) : List Target → Option (Members Value)
  | [] => if vs.isEmpty then some frame else none
  | t :: ts =>
    match vs with
    | [] => none
    | v :: vs => (assigned? frame v t).bind fun frame => assignedAll? frame vs ts

end

/-- How far a rendering has come. -/
structure Progress where
  /-- The values of names. -/
  frames : Frames
  /-- The sources cited. -/
  notes : Footnotes
  /-- The text written. -/
  written : String

namespace Progress

/-- Evaluates an expression. -/
def value (p : Progress) (e : Expression) : Option (Value × Progress) :=
  (evaluate p.frames e p.notes).map fun (v, notes) => (v, { p with notes })

/-- Writes a text. -/
def write (p : Progress) (text : String) : Progress := { p with written := p.written ++ text }

/-- Assigns a value in the innermost frame. -/
def assign (p : Progress) (target : Target) (v : Value) : Option Progress :=
  match p.frames with
  | [] => none
  | frame :: outer =>
    (assigned? frame v target).map fun frame => { p with frames := frame :: outer }

/-- Opens a frame. -/
def enter (p : Progress) : Progress := { p with frames := [] :: p.frames }

/-- Closes the innermost frame. -/
def leave (p : Progress) : Progress := { p with frames := p.frames.drop 1 }

end Progress

/-- The items that fulfil the condition of a loop. -/
def selected (p : Progress) (target : Target) (condition : Option Expression) (items : List Value) :
    Option (List Value × Progress) :=
  match condition with
  | none => some (items, p)
  | some condition =>
    items.foldlM (fun (kept, p) v => do
      let p ← Progress.assign p.enter target v
      let (b, p) ← p.value condition
      some (if b.isTrue then kept ++ [v] else kept, p.leave)) (([] : List Value), p)

/-- Applies filters to a text. -/
def filterText (frames : Frames) : List FilterCall → Value → Citing Value
  | [], v => pure v
  | f :: fs, v => do
    let plain ← evaluateAll frames f.arguments
    let v ← filter f.name v ⟨plain, ← evaluateNamed frames f.named⟩
    filterText frames fs v

/-- What a loop knows about itself in a round. A loop over the characters of a text does not know
how many there are. -/
def roundOf (row : Value) (items : List Value) (index : Nat) : Value :=
  .round index (if row matches .text _ then none else some items.length)
    (if index = 0 then .undefined else (items[index - 1]?).getD .undefined)
    ((items[index + 1]?).getD .undefined)

mutual

/-- Runs a statement. -/
def run : Statement → Progress → Option Progress
  | .plain text, p => some (p.write text)
  | .output e, p => do
    let (v, p) ← p.value e
    some (p.write v.written)
  | .branch condition yes no, p => do
    let (v, p) ← p.value condition
    if v.isTrue then runAll yes p else runAll no p
  | .loop target row condition body otherwise, p => do
    let (v, p) ← p.value row
    let items ← v.items?
    let (items, p) ← selected p target condition items
    let row := if condition.isSome then .list items else v
    let p ← items.zipIdx.foldlM (fun p item => do
      let p ← Progress.assign p.enter target item.1
      let p ← p.assign (.name "loop") (roundOf row items item.2)
      let p ← runAll body p
      some p.leave) p
    if items.isEmpty then runAll otherwise p else some p
  | .assign target e, p => do
    let (v, p) ← p.value e
    p.assign target v
  | .capture name filters body, p => do
    let q ← runAll body { p with written := "" }
    let (v, notes) ← filterText q.frames filters (.text q.written) q.notes
    { q with written := p.written, notes }.assign (.name name) v
  | .filtered filters body, p => do
    let q ← runAll body { p with written := "" }
    let (v, notes) ← filterText q.frames filters (.text q.written) q.notes
    some { q with written := p.written ++ v.written, notes }
  | .scope assignments body, p => do
    let p ← assignments.foldlM (fun p a => do
      let (v, p) ← Progress.value p a.2
      p.assign a.1 v) p.enter
    let p ← runAll body p
    some p.leave

/-- Runs statements one after another. -/
def runAll : List Statement → Progress → Option Progress
  | [], p => some p
  | s :: ss, p => do
    let p ← run s p
    runAll ss p

end

/-! ### Documents -/

/-- The results that templates are rendered with: the tracked fields of every analysis type, by the
type's normal name. -/
structure Renderer where
  /-- The fields of every type. -/
  results : Members (Members Tracked) := []

namespace Renderer

/-- Adds the results of an analysis; what is no object is passed over. -/
def add (r : Renderer) (type : String) (results : Json) : Renderer :=
  match results with
  | .obj members => ⟨r.results.put (TypeName.normal type) (Tracked.ofMembers members)⟩
  | _ => r

/-- The tracked value of a field. -/
def value? (r : Renderer) (type field : String) : Option Tracked :=
  (r.results.get? (TypeName.normal type)).bind (Members.get? · field)

/-- The value of every type's name inside a template. -/
def context (r : Renderer) : Members Value :=
  r.results.map fun (type, fields) =>
    (TypeName.inTemplates type,
      .map (Value.ofNamed (fields.map fun (k, t) => (k, Value.ofTracked t))))

/-- A document with its footnotes. -/
def withNotes (written : String) (notes : Footnotes) : String :=
  if notes.size = 0 then written
  else
    written ++ (if written.toList.getLast? == some '\n' then "" else "\n") ++ "\n" ++ notes.text

/-- The document of a template; none when it is no template or an expression in it fails. -/
def render? (r : Renderer) (template : String) : Option String := do
  let statements ← ofText? template
  let p ← runAll statements ⟨[r.context], {}, ""⟩
  some (withNotes p.written p.notes)

end Renderer

end FirmwareSurvey.Template
