import FirmwareSurvey.Members
import FirmwareSurvey.Storage.Basic
import FirmwareSurvey.Text.Search

/-!
# Finding files

Everything below a directory, each directory before what is in it and the names in one directory in
order; links are listed and not followed. Sorted this way, the rows of names that lead from the
directory to what is below it are in lexicographic order, so that the list is a plain sort of them.

A query picks from that list by name, by kind and by depth.
-/

namespace FirmwareSurvey

namespace Storage

/-- Something found below a directory. -/
structure Entry where
  /-- The path to it, through the directory. -/
  path : Path
  /-- The names that lead from the directory to it. -/
  names : List String
  /-- What it is. -/
  node : Node

/-- The name of what was found. -/
def Entry.name (e : Entry) : String := e.names.getLast?.getD ""

/-- A path behind which names follow. -/
def pathBelow (p : Path) (names : List String) : Path := names.foldl Path.child p

/-- Whether a row of names does not come after another, name by name. -/
def namesLe : List String → List String → Bool
  | [], _ => true
  | _ :: _, [] => false
  | a :: as, b :: bs => if a = b then namesLe as bs else decide (a < b)

/-- Everything below the directory at a path; nothing when there is no such directory. -/
def below (s : Storage) (p : Path) : List Entry :=
  match s.resolve true p with
  | .ok (.node l (.directory _)) =>
    Sorting.sort (fun a b => namesLe a.names b.names) <| s.nodes.filterMap fun q =>
      match q.1.drop l.length with
      | [] => none
      | names => if l.isPrefixOf q.1 then some ⟨pathBelow p names, names, q.2⟩ else none
  | _ => []

/-- A query for files. -/
structure Query where
  /-- The patterns one of which a name has to match; none means that any name will do. -/
  wanted : List String := []
  /-- The patterns that a name may not match. -/
  unwanted : List String := []
  /-- The kind asked for. -/
  kind : Option Kind := none
  /-- How many steps below the directory the search goes, one at least. -/
  depth : Option Nat := none

namespace Query

/-- Whether a name matches one of some patterns. -/
def matchesAny (patterns : List String) (name : String) : Bool :=
  patterns.any fun p => Text.glob p.toList name.toList

/-- Whether an entry is asked for. -/
def accepts (q : Query) (e : Entry) : Bool :=
  (match q.kind with
    | some k => e.node.kind == k
    | none => true) &&
  (match q.depth with
    | some d => e.names.length ≤ max 1 d
    | none => true) &&
  (q.wanted.isEmpty || matchesAny q.wanted e.name) && !matchesAny q.unwanted e.name

/-- The paths that a query finds below a directory. -/
def find (q : Query) (s : Storage) (root : Path) : List Path :=
  ((s.below root).filter q.accepts).map (·.path)

/-- The first path that a query finds below a directory. -/
def first? (q : Query) (s : Storage) (root : Path) : Option Path :=
  ((s.below root).find? q.accepts).map (·.path)

end Query

/-! ### Counting -/

/-- What there is below a directory. -/
structure Statistics where
  /-- How many files. -/
  files : Nat
  /-- How many directories. -/
  directories : Nat
  /-- How many links. -/
  links : Nat
  /-- The sizes of the files, summed up. -/
  totalSize : Nat
deriving DecidableEq

/-- The size of a file; other nodes count nothing. -/
def Node.fileSize : Node → Nat
  | .file c _ => c.size
  | _ => 0

/-- Counts what there is below a directory. -/
def statistics (s : Storage) (root : Path) : Statistics :=
  let nodes := (s.below root).map (·.node)
  let count (k : Kind) := (nodes.filter fun n => n.kind == k).length
  ⟨count .file, count .directory, count .link, nodes.foldl (fun total n => total + n.fileSize) 0⟩

end Storage

end FirmwareSurvey
