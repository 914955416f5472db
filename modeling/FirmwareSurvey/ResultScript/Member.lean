import FirmwareSurvey.ResultScript.JsonText
import FirmwareSurvey.ResultScript.Naming

/-!
# Members

What a value has under a name: members of its own, those of its kind, what it can do, and for a module
what lies in it. A function in a kind becomes one that belongs to the value.
-/

namespace FirmwareSurvey.ResultScript

/-- The letters, digits and signs that are known by names. -/
def characterSets : List (String × String) :=
  [("string.ascii_lowercase", "abcdefghijklmnopqrstuvwxyz"),
    ("string.ascii_uppercase", "ABCDEFGHIJKLMNOPQRSTUVWXYZ"),
    ("string.ascii_letters", "abcdefghijklmnopqrstuvwxyzABCDEFGHIJKLMNOPQRSTUVWXYZ"),
    ("string.digits", "0123456789"), ("string.hexdigits", "0123456789abcdefABCDEF"),
    ("string.octdigits", "01234567"),
    ("string.punctuation", "!\"#$%&'()*+,-./:;<=>?@[\\]^_\x60\x7b|\x7d~"),
    ("string.whitespace", " \t\n\r\x0b\x0c"),
    ("string.printable", "0123456789abcdefghijklmnopqrstuvwxyzABCDEFGHIJKLMNOPQRSTUVWXYZ" ++
      "!\"#$%&'()*+,-./:;<=>?@[\\]^_\x60\x7b|\x7d~ \t\n\r\x0b\x0c"),
    ("os.sep", "/"), ("os.path.sep", "/"), ("os.linesep", "\n"), ("os.curdir", "."),
    ("os.path.curdir", "."), ("os.pardir", ".."), ("os.path.pardir", ".."), ("os.pathsep", ":"),
    ("os.path.pathsep", ":"), ("os.extsep", "."), ("os.path.extsep", "."), ("os.name", "posix"),
    ("os.devnull", "/dev/null"), ("sys.platform", "linux"), ("sys.byteorder", "little"),
    ("sys.executable", "/usr/bin/python3"),
    ("sys.version", "3.12.3 (main) [GCC 13.2.0]")]

/-- The numbers that are known by names. -/
def namedNumbers : List (String × Int) :=
  [("sys.maxsize", 0x7fffffffffffffff), ("sys.maxunicode", 0x10ffff), ("sys.hexversion", 0x030c03f0),
    ("os.F_OK", 0), ("os.R_OK", 4), ("os.W_OK", 2), ("os.X_OK", 1), ("os.O_RDONLY", 0),
    ("os.SEEK_SET", 0), ("os.SEEK_CUR", 1), ("os.SEEK_END", 2), ("io.SEEK_SET", 0),
    ("io.SEEK_CUR", 1), ("io.SEEK_END", 2), ("re.IGNORECASE", 2), ("re.MULTILINE", 8),
    ("re.DOTALL", 16), ("re.UNICODE", 32), ("re.VERBOSE", 64), ("re.ASCII", 256),
    ("subprocess.PIPE", -1), ("subprocess.STDOUT", -2), ("subprocess.DEVNULL", -3),
    ("errno.EPERM", 1), ("errno.ENOENT", 2), ("errno.EACCES", 13), ("errno.EEXIST", 17),
    ("errno.ENOTDIR", 20), ("errno.EISDIR", 21), ("errno.EINVAL", 22), ("errno.ENOTEMPTY", 39),
    ("signal.SIGINT", 2), ("signal.SIGPIPE", 13), ("signal.SIGTERM", 15), ("signal.SIG_DFL", 0),
    ("signal.SIG_IGN", 1), ("stat.S_IXUSR", 64), ("logging.DEBUG", 10), ("logging.INFO", 20),
    ("logging.WARNING", 30), ("logging.ERROR", 40)]

/-- The doubles that are known by names. -/
def namedReals : List (String × Binary64) :=
  [("math.pi", ⟨0x400921FB54442D18⟩), ("math.e", ⟨0x4005BF0A8B145769⟩),
    ("math.tau", ⟨0x401921FB54442D18⟩), ("math.inf", .infinity false),
    ("math.nan", .undefined false)]

/-- The value that is known by a name, if it is one that never changes. -/
def constant? (name : String) : Option Value :=
  match characterSets.lookup name, namedNumbers.lookup name, namedReals.lookup name with
  | some s, _, _ => some (.ofString s)
  | _, some n, _ => some (.number n)
  | _, _, some x => some (.real x)
  | none, none, none =>
    if name == "sys.version_info" then
      some (.tuple [.number 3, .number 12, .number 3, .ofString "final", .number 0])
    else if name == "typing.TYPE_CHECKING" then some (.truth false)
    else if name == "os.altsep" || name == "os.path.altsep" then some .nothing
    else none

/-- What statements say about themselves: the text that they start with. -/
def Block.remark : Block → Value
  | (_, .eval (.literal (.text cs))) :: _ => .text cs
  | _ => .nothing

namespace Run

variable (ev : Evaluator)

/-- Fails because a value has nothing under a name. -/
def noMember {α : Type} (text name : String) (names : List String) : Run α := do
  let hint := match suggestion? name names with
    | some other => s!". Did you mean: '{other}'?"
    | none => ""
  raise (← makeFailure "AttributeError" [.ofString text]
    [("name", .ofString name), ("__hint__", .ofString hint)])

/-- A member of a module. -/
def moduleMember (module name : String) : Run Value := do
  let full := module ++ "." ++ name
  match Members.get? (← get).replaced full with
  | some v => return v
  | none =>
    match constant? (meantName full) with
    | some v => return v
    | none =>
      let names := (modules.lookup module).getD []
      if names.contains name then return .known (meantName full)
      else if name == "__name__" then return .ofString module
      else if name == "__file__" then return .ofString s!"/usr/lib/python3.12/{module}.py"
      else if name == "__doc__" then return .nothing
      else noMember s!"module '{module}' has no attribute '{name}'" name names

/-- What belongs to a value of a kind, from a member of the kind. -/
def belonging (owner kind found : Value) : Run Value := do
  match found with
  | .thing place =>
    match (← get).things[place]? with
    | some (.function _) => return .bound found owner
    | some (.plain (.known "property") members) =>
      match Members.get? members "fget" with
      | some f => ev.call f [owner] []
      | none => return found
    | some (.plain (.known "staticmethod") members) =>
      return (Members.get? members "f").getD found
    | some (.plain (.known "classmethod") members) =>
      return .bound ((Members.get? members "f").getD found) kind
    | _ => return found
  | _ => return found

/-- A member of a kind itself. -/
def kindMember? (kind : Value) (name : String) : Run (Option Value) := do
  match ← memberAmong? name (← ancestry 24 kind) with
  | none => return none
  | some found =>
    match ← thing? found with
    | some (.plain (.known "staticmethod") members) =>
      return some ((Members.get? members "f").getD found)
    | some (.plain (.known "classmethod") members) =>
      return some (.bound ((Members.get? members "f").getD found) kind)
    | _ => return some found

/-- What kinds that are there from the start do for the values of others. -/
def inheritedNames : List String :=
  ["__init__", "__str__", "__repr__", "__setattr__", "__eq__", "__hash__", "__init_subclass__",
    "__enter__", "__exit__", "__new__"]

/-- The members that a kind has, by their names. -/
def kindNames (kind : Value) : Run (List String) := do
  let scopes ← (← ancestry 24 kind).mapM fun k => do
    match ← thing? k with
    | some (.kind _ _ scope) => return (((← get).scopes[scope]?).map fun s => s.names.map (·.1)).getD []
    | _ => return []
  return scopes.flatten

/-- What a thing with members has under a name. -/
def plainMember (v kind : Value) (members : Members Value) (name : String) : Run Value := do
  match Members.get? members name with
  | some w => return w
  | none =>
    match ← memberAmong? name (← ancestry 24 kind) with
    | some found => belonging ev v kind found
    | none =>
      if name == "__class__" then return kind
      else if name == "__dict__" then makeTable (namedMembers members)
      else if inheritedNames.contains name then return .ability v name
      else if name == "__doc__" then return .nothing
      else
        let isFailure ← isUnder kind (.known "BaseException")
        if isFailure && ["errno", "strerror", "filename", "filename2", "__cause__", "__context__",
            "__traceback__", "code", "value"].contains name &&
            (name.startsWith "__" || (← isUnder kind (.known "OSError")) ||
              (← isUnder kind (.known "SystemExit")) || (← isUnder kind (.known "StopIteration"))) then
          return .nothing
        else
          let abilities ← abilitiesOf v
          if abilities.contains name then return .ability v name
          else
            match ← special? v "__getattr__" with
            | some f => ev.call f [v, .ofString name] []
            | none =>
              let names := (← kindNames kind) ++ members.map (·.1)
              let text := s!"'{← nameOfKind kind}' object has no attribute '{name}'"
              noMember text name (Sorting.sort (fun a b => decide (a ≤ b)) names)

/-- What a value has under a name. -/
def memberOf (v : Value) (name : String) : Run Value := do
  let refuse : Run Value := do
    let abilities ← abilitiesOf v
    noMember s!"'{← kindName v}' object has no attribute '{name}'" name
      (Sorting.sort (fun a b => decide (a ≤ b)) abilities)
  let usual : Run Value := do
    if (← abilitiesOf v).contains name then return .ability v name
    else if name == "__class__" then kindOf v
    else if name == "__doc__" then return .nothing
    else refuse
  match v with
  | .known known =>
    if isModule known then moduleMember known name
    else if name == "__name__" || name == "__qualname__" then return .ofString (bareKindName known)
    else if name == "__doc__" then return .nothing
    else if name == "__module__" then return .ofString "builtins"
    else
      match Members.get? (← get).replaced (known ++ "." ++ name) with
      | some v => return v
      | none =>
        if isKindName known || known == "itertools.chain" then
          return .known (known ++ "." ++ name)
        else refuse
  | .number n =>
    if name == "real" || name == "numerator" then return .number n
    else if name == "imag" then return .number 0
    else if name == "denominator" then return .number 1
    else usual
  | .real x => if name == "real" then return .real x else usual
  | .slice a b c =>
    if name == "start" then return a else if name == "stop" then return b
    else if name == "step" then return c else usual
  | .range a b c =>
    if name == "start" then return .number a else if name == "stop" then return .number b
    else if name == "step" then return .number c else usual
  | .bound f owner =>
    if name == "__self__" then return owner
    else if name == "__func__" then return f
    else if name == "__name__" then
      match ← thing? f with
      | some (.function f) => return .ofString f.name
      | _ => refuse
    else refuse
  | .ability owner ability =>
    if name == "__name__" then return .ofString ability
    else if name == "__self__" then return owner else refuse
  | .thing place =>
    match (← get).things[place]? with
    | some (.plain (.known "super") members) =>
      match Members.get? members "above", Members.get? members "owner" with
      | some (.tuple above), some owner =>
        match ← memberAmong? name above with
        | some found => belonging ev owner (← kindOf owner) found
        | none => return .ability owner name
      | _, _ => refuse
    | some (.plain kind members) => plainMember ev v kind members name
    | some (.function f) =>
      if name == "__name__" then return .ofString f.name
      else if name == "__qualname__" then return .ofString f.path
      else if name == "__doc__" then return f.body.remark
      else if name == "__module__" then return .ofString "__main__"
      else
        match Members.get? (← get).replaced s!"{place}.{name}" with
        | some v => return v
        | none => noMember s!"'function' object has no attribute '{name}'" name []
    | some (.kind kind _ _) =>
      match ← kindMember? v name with
      | some w => return w
      | none =>
        if name == "__name__" || name == "__qualname__" then return .ofString kind
        else if name == "__module__" then return .ofString "__main__"
        else if name == "__doc__" then return .nothing
        else if name == "__mro__" then return .tuple (← ancestry 24 v)
        else if inheritedNames.contains name then
          let above := (← ancestry 24 v).find? fun k => match k with
            | .known _ => true
            | _ => false
          match above with
          | some (.known known) => return .known (known ++ "." ++ name)
          | _ => return .known ("object." ++ name)
        else
          noMember s!"type object '{kind}' has no attribute '{name}'" name (← kindNames v)
    | some (.file f) =>
      if name == "name" then return .text f.path
      else if name == "mode" then return .text f.mode
      else if name == "closed" then return .truth (!f.isOpen)
      else if name == "encoding" then return .ofString f.encoding.text
      else if name == "errors" then return .ofString f.errors
      else if name == "buffer" then make (.file { f with isOctets := true })
      else usual
    | some (.table kind maker _) =>
      if name == "default_factory" && kind == "collections.defaultdict" then return maker else usual
    | some (.deque _ most) =>
      if name == "maxlen" then return (most.map Value.ofNat).getD .nothing else usual
    | _ => usual
  | _ => usual

/-- Whether a value has something under a name, and what. -/
def member? (v : Value) (name : String) : Run (Option Value) :=
  orNone "AttributeError" (memberOf ev v name)

/-- Gives a value something under a name. -/
def setMemberOf (v : Value) (name : String) (new : Value) : Run Unit := do
  match v with
  | .known known => modify fun s => { s with replaced := Members.put s.replaced (known ++ "." ++ name) new }
  | .thing place =>
    match (← get).things[place]? with
    | some (.plain kind members) => do
      let found ← match kind with
        | .thing _ => memberAmong? name (← ancestry 24 kind)
        | _ => pure none
      let setter? ← match found with
        | some f => do
          match ← thing? f with
          | some (.plain (.known "property") ms) => pure (some (Members.get? ms "fset"))
          | _ => pure none
        | none => pure none
      match setter?, ← special? v "__setattr__" with
      | some (some f), _ => do
        let _ ← ev.call f [v, new] []
      | some none, _ =>
        noMember s!"property '{name}' of '{← nameOfKind kind}' object has no setter" name []
      | none, some f => do
        let _ ← ev.call f [v, .ofString name, new] []
      | none, none => change place (.plain kind (Members.put members name new))
    | some (.kind _ _ scope) =>
      modify fun s => { s with scopes := s.scopes.modify scope fun x =>
        { x with names := Members.put x.names name new } }
    | some (.function _) =>
      modify fun s => { s with replaced := Members.put s.replaced s!"{place}.{name}" new }
    | _ => noMember s!"'{← kindName v}' object has no attribute '{name}'" name []
  | v => noMember s!"'{← kindName v}' object has no attribute '{name}'" name []

/-- Takes away what a value has under a name. -/
def deleteMemberOf (v : Value) (name : String) : Run Unit := do
  match v with
  | .thing place =>
    match (← get).things[place]? with
    | some (.plain kind members) =>
      if (Members.get? members name).isSome then change place (.plain kind (Members.drop members name))
      else noMember s!"'{← nameOfKind kind}' object has no attribute '{name}'" name []
    | some (.kind kind _ scope) =>
      match (← get).scopes[scope]? with
      | some x =>
        if (Members.get? x.names name).isSome then
          modify fun s => { s with scopes := s.scopes.modify scope fun x =>
            { x with names := Members.drop x.names name } }
        else noMember s!"type object '{kind}' has no attribute '{name}'" name []
      | none => return ()
    | _ => noMember s!"'{← kindName v}' object has no attribute '{name}'" name []
  | v => noMember s!"'{← kindName v}' object has no attribute '{name}'" name []

end Run

end FirmwareSurvey.ResultScript
