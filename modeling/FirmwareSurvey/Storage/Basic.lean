import FirmwareSurvey.Members
import FirmwareSurvey.Storage.Path

/-!
# Why an access to storage fails

Each fault has the wording and the number that the system gives it.
-/

namespace FirmwareSurvey.Storage

/-- The cause of a failed access. -/
inductive Fault where
  /-- There is nothing at the path. -/
  | notFound
  /-- The caller may not do this. -/
  | denied
  /-- Something is already there. -/
  | taken
  /-- A part of the path that has to be a directory is none. -/
  | notDirectory
  /-- The path leads to a directory where a file is wanted. -/
  | isDirectory
  /-- A place in a file that the system cannot count to. -/
  | outOfRange
  /-- The file is no program the system can start. -/
  | badProgram
  /-- The path passes through too many links. -/
  | linkLoop
  /-- A directory that has to be empty is not. -/
  | notEmpty
  /-- A file read as text holds bytes that are no text. -/
  | notText
deriving DecidableEq, Repr

/-- What a fault says. -/
def Fault.reason : Fault → String
  | .notFound => "No such file or directory"
  | .denied => "Permission denied"
  | .taken => "File exists"
  | .notDirectory => "Not a directory"
  | .isDirectory => "Is a directory"
  | .outOfRange => "Invalid argument"
  | .badProgram => "Exec format error"
  | .linkLoop => "Too many levels of symbolic links"
  | .notEmpty => "Directory not empty"
  | .notText => "stream did not contain valid UTF-8"

/-- The number the system gives to a fault; one that is found only afterwards has none. -/
def Fault.number? : Fault → Option Nat
  | .notFound => some 2
  | .denied => some 13
  | .taken => some 17
  | .notDirectory => some 20
  | .isDirectory => some 21
  | .outOfRange => some 22
  | .badProgram => some 8
  | .linkLoop => some 40
  | .notEmpty => some 39
  | .notText => none

/-- The wording of a fault. -/
def Fault.message (f : Fault) : String :=
  match f.number? with
  | some n => s!"{f.reason} (os error {n})"
  | none => f.reason

end FirmwareSurvey.Storage

/-!
## Storage

Storage is a value: the nodes of a directory tree by location, and a current directory. A location
is the row of names that leads from the root to a node, with no link and no dot in it; the root is
always there. A path is resolved to a location step by step, links are followed on the way, and
every access goes through that resolution.

A file is a row of bytes followed by a number of zero bytes, so that a great empty file costs
nothing.
-/

namespace FirmwareSurvey

namespace Storage

/-- The contents of a file: bytes, then zeros. -/
structure Contents where
  /-- The bytes written. -/
  bytes : ByteArray
  /-- How many zero bytes follow. -/
  zeros : Nat := 0

/-- The length of a file. -/
def Contents.size (c : Contents) : Nat := c.bytes.size + c.zeros

/-- The bytes of a file, its zeros written out. -/
def Contents.toBytes (c : Contents) : ByteArray :=
  if c.zeros == 0 then c.bytes else c.bytes ++ ⟨Array.replicate c.zeros 0⟩

/-- The bytes of a file between two places, as far as it reaches. -/
def Contents.range (c : Contents) (start stop : Nat) : ByteArray :=
  let zeros := min c.size stop - max start c.bytes.size
  let written := c.bytes.extract start stop
  if zeros == 0 then written else written ++ ⟨Array.replicate zeros 0⟩

/-- Contents cut or filled up with zeros to a length. -/
def Contents.resize (c : Contents) (size : Nat) : Contents :=
  if size ≤ c.bytes.size then ⟨c.bytes.extract 0 size, 0⟩ else ⟨c.bytes, size - c.bytes.size⟩

/-- What a location holds. Permission bits are kept as a number. -/
inductive Node where
  /-- A file. -/
  | file (contents : Contents) (mode : Nat)
  /-- A directory. -/
  | directory (mode : Nat)
  /-- A link to a path. -/
  | link (target : Path)

/-- What kind of node a location holds. -/
inductive Kind where
  /-- A file. -/
  | file
  /-- A directory. -/
  | directory
  /-- A link. -/
  | link
deriving DecidableEq, Repr

/-- The kind of a node. -/
def Node.kind : Node → Kind
  | .file _ _ => .file
  | .directory _ => .directory
  | .link _ => .link

/-- The names from the root to a node. -/
abbrev Location := List String

/-- The permission bits of a new file. -/
def newFileMode : Nat := 0o644

/-- The permission bits of a new directory. -/
def newDirectoryMode : Nat := 0o755

end Storage

open Storage

/-- A directory tree with a current directory. -/
structure Storage where
  /-- The nodes below the root, by location. -/
  nodes : List (Location × Node) := []
  /-- Where relative paths start. -/
  current : Location := []

namespace Storage

/-! ### Nodes by location -/

/-- The node at a location. -/
def at? (s : Storage) (l : Location) : Option Node :=
  if l = [] then some (.directory newDirectoryMode) else (s.nodes.find? (·.1 = l)).map (·.2)

/-- Replaces or adds a node. -/
def set (s : Storage) (l : Location) (n : Node) : Storage :=
  if s.nodes.any (·.1 = l) then
    { s with nodes := s.nodes.map fun p => if p.1 = l then (l, n) else p }
  else { s with nodes := s.nodes ++ [(l, n)] }

/-- Takes a node away, with all below it. -/
def erase (s : Storage) (l : Location) : Storage :=
  { s with nodes := s.nodes.filter fun p => !l.isPrefixOf p.1 }

/-- The names and nodes directly inside a location, sorted by name. -/
def childrenAt (s : Storage) (l : Location) : List (String × Node) :=
  Sorting.sort (fun a b => decide (a.1 ≤ b.1)) <| s.nodes.filterMap fun p =>
    match p.1.getLast? with
    | some name => if p.1.dropLast = l then some (name, p.2) else none
    | none => none

/-! ### Resolving a path -/

/-- Where a path leads. -/
inductive Spot where
  /-- To a node. -/
  | node (l : Location) (n : Node)
  /-- To a name that is free in a directory that exists. -/
  | free (l : Location)

/-- The greatest number of links on the way. -/
def linkLimit : Nat := 40

/-- Takes the steps of a path from a location, links as far as `beyond` does: it goes on behind a
link. A link at the very end is followed only on demand. -/
def walkWith (s : Storage) (follow : Bool)
    (beyond : Location → List String → Except Fault Spot) (l : Location) :
    List String → Except Fault Spot
  | [] =>
    match s.at? l with
    | some n => .ok (.node l n)
    | none => .error .notFound
  | step :: rest =>
    if step = ".." then walkWith s follow beyond l.dropLast rest
    else
      match s.at? (l ++ [step]) with
      | none => if rest = [] then .ok (.free (l ++ [step])) else .error .notFound
      | some (.directory _) => walkWith s follow beyond (l ++ [step]) rest
      | some (.file c m) =>
        if rest = [] then .ok (.node (l ++ [step]) (.file c m)) else .error .notDirectory
      | some (.link target) =>
        if rest = [] && !follow then .ok (.node (l ++ [step]) (.link target))
        else beyond (if target.isAbsolute then [] else l) (target.steps ++ rest)

/-- Takes the steps of a path from a location, through no more than a number of links. -/
def walk (s : Storage) (follow : Bool) : Nat → Location → List String → Except Fault Spot
  | 0 => walkWith s follow fun _ _ => .error .linkLoop
  | links + 1 => walkWith s follow (walk s follow links)

/-- Where a path leads from the current directory. -/
def resolve (s : Storage) (follow : Bool) (p : Path) : Except Fault Spot :=
  if p.text == "" then .error .notFound
  else
    let start := if p.isAbsolute then [] else s.current
    match s.walk (follow || p.namesDirectory) linkLimit start p.steps with
    | .ok (.node l n) =>
      if p.namesDirectory && n.kind != .directory then .error .notDirectory else .ok (.node l n)
    | r => r

/-- The node a path leads to. -/
def node? (s : Storage) (follow : Bool) (p : Path) : Except Fault Node :=
  match s.resolve follow p with
  | .ok (.node _ n) => .ok n
  | .ok (.free _) => .error .notFound
  | .error e => .error e

/-! ### Looking -/

/-- Whether a path leads to a file, through links. -/
def isFile (s : Storage) (p : Path) : Bool :=
  match s.node? true p with
  | .ok (.file _ _) => true
  | _ => false

/-- Whether a path leads to a directory, through links. -/
def isDirectory (s : Storage) (p : Path) : Bool :=
  match s.node? true p with
  | .ok (.directory _) => true
  | _ => false

/-- The size of a directory itself, as the system reports it. -/
def directorySize : Nat := 4096

/-- The size of what a path leads to, through links. -/
def size? (s : Storage) (p : Path) : Except Fault Nat := do
  match ← s.node? true p with
  | .file c _ => .ok c.size
  | _ => .ok directorySize

/-- The contents of the file at a path. -/
def readContents (s : Storage) (p : Path) : Except Fault Contents := do
  match ← s.node? true p with
  | .file c _ => .ok c
  | _ => .error .isDirectory

/-- The bytes of the file at a path. -/
def readBytes (s : Storage) (p : Path) : Except Fault ByteArray :=
  (s.readContents p).map Contents.toBytes

/-- One more than the greatest place in a file that the system counts to. -/
def placeLimit : Nat := 0x8000000000000000

/-- The bytes of the file at a path from a place on, up to a length or to the end. -/
def readRange (s : Storage) (p : Path) (start : Nat) (length : Option Nat) :
    Except Fault ByteArray := do
  let node ← s.node? true p
  if placeLimit ≤ start then .error .outOfRange
  else if length = some 0 then .ok .empty
  else
    match node with
    | .file c _ => .ok (c.range start (match length with | some n => start + n | none => c.size))
    | _ => .error .isDirectory

/-- The text of the file at a path. -/
def readText (s : Storage) (p : Path) : Except Fault String := do
  let bytes ← s.readBytes p
  match String.fromUTF8? bytes with
  | some text => .ok text
  | none => .error .notText

/-- The names and nodes inside the directory at a path, sorted by name. -/
def entries (s : Storage) (p : Path) : Except Fault (List (String × Node)) :=
  match s.resolve true p with
  | .ok (.node l (.directory _)) => .ok (s.childrenAt l)
  | .ok (.node _ _) => .error .notDirectory
  | .ok (.free _) => .error .notFound
  | .error e => .error e

/-! ### Changing -/

/-- Writes a file, new or over an old one; an old one keeps its permissions. -/
def writeContents (s : Storage) (p : Path) (c : Contents) : Except Fault Storage :=
  match s.resolve true p with
  | .ok (.node l (.file _ mode)) => .ok (s.set l (.file c mode))
  | .ok (.node _ _) => .error .isDirectory
  | .ok (.free l) =>
    if p.namesDirectory then .error .isDirectory else .ok (s.set l (.file c newFileMode))
  | .error e => .error e

/-- Writes bytes to a file. -/
def writeBytes (s : Storage) (p : Path) (bytes : ByteArray) : Except Fault Storage :=
  s.writeContents p ⟨bytes, 0⟩

/-- Writes a text to a file. -/
def writeText (s : Storage) (p : Path) (text : String) : Except Fault Storage :=
  s.writeBytes p text.toUTF8

/-- Adds bytes at the end of a file, which is made when it is missing. -/
def appendBytes (s : Storage) (p : Path) (bytes : ByteArray) : Except Fault Storage :=
  match s.readBytes p with
  | .ok old => s.writeBytes p (old ++ bytes)
  | .error .notFound => s.writeBytes p bytes
  | .error e => .error e

/-- Makes one directory. -/
def makeDirectory (s : Storage) (p : Path) : Except Fault Storage :=
  match s.resolve false p with
  | .ok (.free l) => .ok (s.set l (.directory newDirectoryMode))
  | .ok (.node _ _) => .error .taken
  | .error e => .error e

/-- Makes a directory and those above it that are missing, the nearest existing one first; `depth`
bounds how many may be missing. -/
def makeDirectoriesUpTo (s : Storage) (p : Path) : Nat → Except Fault Storage
  | 0 => .error .notFound
  | depth + 1 =>
    if p.text == "" then .ok s
    else
      match s.makeDirectory p with
      | .ok s => .ok s
      | .error .notFound =>
        match p.parent? with
        | none => .error .notFound
        | some above =>
          match s.makeDirectoriesUpTo above depth with
          | .error e => .error e
          | .ok s =>
            match s.makeDirectory p with
            | .ok s => .ok s
            | .error e => if s.isDirectory p then .ok s else .error e
      | .error e => if s.isDirectory p then .ok s else .error e

/-- Makes a directory and those above it that are missing. -/
def makeDirectories (s : Storage) (p : Path) : Except Fault Storage :=
  s.makeDirectoriesUpTo p (p.parts.length + 1)

/-- Makes a link. -/
def makeLink (s : Storage) (p target : Path) : Except Fault Storage :=
  match s.resolve false p with
  | .ok (.free l) => .ok (s.set l (.link target))
  | .ok (.node _ _) => .error .taken
  | .error e => .error e

/-- Sets the permission bits of what a path leads to. -/
def setMode (s : Storage) (p : Path) (mode : Nat) : Except Fault Storage :=
  match s.resolve true p with
  | .ok (.node l (.file c _)) => .ok (s.set l (.file c mode))
  | .ok (.node l (.directory _)) => .ok (s.set l (.directory mode))
  | .ok (.node _ (.link _)) => .error .notFound
  | .ok (.free _) => .error .notFound
  | .error e => .error e

/-- Takes away what a path leads to, a link itself and not its target. -/
def remove (s : Storage) (p : Path) : Except Fault Storage :=
  match s.resolve false p with
  | .ok (.node l _) => .ok (s.erase l)
  | .ok (.free _) => .error .notFound
  | .error e => .error e

/-- Takes an empty directory away. -/
def removeDirectory (s : Storage) (p : Path) : Except Fault Storage :=
  match s.resolve false p with
  | .ok (.node l (.directory _)) =>
    if (s.childrenAt l).isEmpty then .ok (s.erase l) else .error .notEmpty
  | .ok (.node _ _) => .error .notDirectory
  | .ok (.free _) => .error .notFound
  | .error e => .error e

/-- Takes what a path leads to, with all below it, to another location. -/
def relocate (s : Storage) (l target : Location) : Storage :=
  let others := s.nodes.filter fun p => !target.isPrefixOf p.1 || l.isPrefixOf p.1
  { s with nodes := others.map fun p =>
      if l.isPrefixOf p.1 then (target ++ p.1.drop l.length, p.2) else p }

/-- Gives what a path leads to another path, where it replaces a file or an empty directory. -/
def move (s : Storage) (p q : Path) : Except Fault Storage :=
  match s.resolve false p, s.resolve false q with
  | .ok (.node l n), .ok (.free target) =>
    if l.isPrefixOf target then .error .outOfRange
    else if q.namesDirectory && n.kind != .directory then .error .notDirectory
    else .ok (s.relocate l target)
  | .ok (.node l n), .ok (.node target old) =>
    if l = target then .ok s
    else
      match n.kind, old.kind with
      | .directory, .directory =>
        if (s.childrenAt target).isEmpty then .ok (s.relocate l target) else .error .notEmpty
      | .directory, _ => .error .notDirectory
      | _, .directory => .error .isDirectory
      | _, _ => .ok (s.relocate l target)
  | .ok (.free _), _ => .error .notFound
  | .error e, _ => .error e
  | _, .error e => .error e

end Storage

end FirmwareSurvey
