

/-!
# Kinds of values

Every value of a script has a kind, and a kind may be a special case of another one. The kinds that
are there from the start are known by their names; those of failures form the largest family. Whoever
deals with failures of a kind deals with those of its special cases too.
-/

namespace FirmwareSurvey.ResultScript

/-- The kinds of failures, each with the one that it is a special case of. -/
def failureKinds : List (String × String) :=
  [("BaseException", "object"), ("SystemExit", "BaseException"),
    ("KeyboardInterrupt", "BaseException"), ("GeneratorExit", "BaseException"),
    ("Exception", "BaseException"), ("StopIteration", "Exception"),
    ("ArithmeticError", "Exception"), ("FloatingPointError", "ArithmeticError"),
    ("OverflowError", "ArithmeticError"), ("ZeroDivisionError", "ArithmeticError"),
    ("AssertionError", "Exception"), ("AttributeError", "Exception"), ("BufferError", "Exception"),
    ("EOFError", "Exception"), ("ImportError", "Exception"), ("ModuleNotFoundError", "ImportError"),
    ("LookupError", "Exception"), ("IndexError", "LookupError"), ("KeyError", "LookupError"),
    ("MemoryError", "Exception"), ("NameError", "Exception"), ("UnboundLocalError", "NameError"),
    ("OSError", "Exception"), ("BlockingIOError", "OSError"), ("ChildProcessError", "OSError"),
    ("ConnectionError", "OSError"), ("BrokenPipeError", "ConnectionError"),
    ("ConnectionAbortedError", "ConnectionError"), ("ConnectionRefusedError", "ConnectionError"),
    ("ConnectionResetError", "ConnectionError"), ("FileExistsError", "OSError"),
    ("FileNotFoundError", "OSError"), ("InterruptedError", "OSError"),
    ("IsADirectoryError", "OSError"), ("NotADirectoryError", "OSError"),
    ("PermissionError", "OSError"), ("ProcessLookupError", "OSError"), ("TimeoutError", "OSError"),
    ("io.UnsupportedOperation", "OSError"), ("shutil.Error", "OSError"),
    ("ReferenceError", "Exception"), ("RuntimeError", "Exception"),
    ("NotImplementedError", "RuntimeError"), ("RecursionError", "RuntimeError"),
    ("SyntaxError", "Exception"), ("IndentationError", "SyntaxError"),
    ("TabError", "IndentationError"), ("SystemError", "Exception"), ("TypeError", "Exception"),
    ("ValueError", "Exception"), ("UnicodeError", "ValueError"),
    ("UnicodeDecodeError", "UnicodeError"), ("UnicodeEncodeError", "UnicodeError"),
    ("UnicodeTranslateError", "UnicodeError"), ("json.decoder.JSONDecodeError", "ValueError"),
    ("Warning", "Exception"), ("DeprecationWarning", "Warning"), ("UserWarning", "Warning"),
    ("RuntimeWarning", "Warning"), ("FutureWarning", "Warning"), ("SyntaxWarning", "Warning"),
    ("ImportWarning", "Warning"), ("UnicodeWarning", "Warning"), ("BytesWarning", "Warning"),
    ("ResourceWarning", "Warning"), ("PendingDeprecationWarning", "Warning"),
    ("struct.error", "Exception"), ("re.error", "Exception"), ("binascii.Error", "ValueError"),
    ("zlib.error", "Exception"), ("subprocess.SubprocessError", "Exception"),
    ("subprocess.CalledProcessError", "subprocess.SubprocessError"),
    ("subprocess.TimeoutExpired", "subprocess.SubprocessError")]

/-- The other kinds that are there from the start, each with the one that it is a special case of. -/
def plainKinds : List (String × String) :=
  [("int", "object"), ("bool", "int"), ("float", "object"), ("str", "object"), ("bytes", "object"),
    ("bytearray", "object"), ("list", "object"), ("tuple", "object"), ("dict", "object"),
    ("set", "object"), ("frozenset", "object"), ("range", "object"), ("slice", "object"),
    ("type", "object"), ("NoneType", "object"), ("ellipsis", "object"), ("function", "object"),
    ("method", "object"), ("builtin_function_or_method", "object"), ("module", "object"),
    ("generator", "object"), ("enumerate", "object"), ("zip", "object"), ("map", "object"),
    ("filter", "object"), ("reversed", "object"), ("property", "object"),
    ("staticmethod", "object"), ("classmethod", "object"), ("super", "object"),
    ("collections.OrderedDict", "dict"), ("collections.defaultdict", "dict"),
    ("collections.Counter", "dict"), ("collections.deque", "object"),
    ("pathlib.PosixPath", "pathlib.Path"), ("pathlib.Path", "pathlib.PurePath"),
    ("pathlib.PurePath", "object"), ("subprocess.CompletedProcess", "object"),
    ("types.SimpleNamespace", "object"), ("argparse.ArgumentParser", "object"),
    ("argparse.Namespace", "object"), ("os.stat_result", "tuple"), ("json.JSONEncoder", "object"),
    ("_io.TextIOWrapper", "object"), ("_io.BufferedReader", "object"),
    ("_io.BufferedWriter", "object"), ("_io.StringIO", "object"), ("_io.BytesIO", "object"),
    ("re.Pattern", "object"), ("re.Match", "object"), ("_hashlib.HASH", "object"), ("struct.Struct", "object"), ("functools.partial", "object"),
    ("operator.itemgetter", "object"), ("operator.attrgetter", "object"),
    ("types.UnionType", "object"), ("itertools.chain", "object"),
    ("enum.Enum", "object"), ("abc.ABC", "object")]

/-- The kind that one is a special case of. -/
def parentKind? (name : String) : Option String :=
  (failureKinds.lookup name).orElse fun _ => plainKinds.lookup name

/-- Whether a name is that of a kind. -/
def isKindName (name : String) : Bool := name == "object" || (parentKind? name).isSome

/-- A kind and all that it is a special case of. -/
def kindsAbove (name : String) : List String :=
  let rec go : Nat → String → List String
    | 0, _ => []
    | fuel + 1, name =>
      match parentKind? name with
      | some parent => name :: go fuel parent
      | none => [name]
  go 12 name

/-- Whether a kind is a special case of another one, or that one itself. -/
def isKindUnder (name above : String) : Bool := (kindsAbove name).contains above

/-- The name of a kind without the module that it is in. -/
def bareKindName (name : String) : String :=
  String.ofList (name.toList.reverse.takeWhile (· != '.')).reverse

/-- The kind of a failure of storage by its number. -/
def systemFailureKind : Int → String
  | 1 => "PermissionError"
  | 2 => "FileNotFoundError"
  | 3 => "ProcessLookupError"
  | 4 => "InterruptedError"
  | 10 => "ChildProcessError"
  | 11 => "BlockingIOError"
  | 13 => "PermissionError"
  | 17 => "FileExistsError"
  | 20 => "NotADirectoryError"
  | 21 => "IsADirectoryError"
  | 32 => "BrokenPipeError"
  | 103 => "ConnectionAbortedError"
  | 104 => "ConnectionResetError"
  | 110 => "TimeoutError"
  | 111 => "ConnectionRefusedError"
  | _ => "OSError"

end FirmwareSurvey.ResultScript

/-!
## Modules of a script

What is there from the start lies in modules; what lies in none of them is known everywhere. A member
of a module is known by the name of the module and its own one with a point between them.
-/

namespace FirmwareSurvey.ResultScript

/-- The modules with their members. -/
def modules : List (String × List String) :=
  [("sys", ["argv", "byteorder", "exc_info", "executable", "exit", "getdefaultencoding",
      "getfilesystemencoding", "getrecursionlimit", "getsizeof", "intern", "maxsize", "maxunicode",
      "modules", "path", "platform", "setrecursionlimit", "stderr", "stdin", "stdout", "version",
      "version_info", "flags", "implementation", "hexversion"]),
    ("os", ["F_OK", "R_OK", "W_OK", "X_OK", "O_RDONLY", "abort", "access", "altsep", "chdir", "chmod",
      "cpu_count", "curdir", "devnull", "environ", "error", "extsep", "fsdecode", "fsencode",
      "fspath", "getcwd", "getenv", "getegid", "geteuid", "getgid", "getpid", "getppid", "getuid",
      "linesep", "listdir", "lstat", "makedirs", "mkdir", "name", "open", "pardir", "path",
      "pathsep", "popen", "putenv", "readlink", "remove", "removedirs", "rename", "replace",
      "rmdir", "scandir", "sep", "stat", "strerror", "symlink", "system", "truncate", "umask",
      "uname", "unlink", "unsetenv", "urandom", "walk", "_exit", "SEEK_SET", "SEEK_CUR",
      "SEEK_END", "PathLike", "stat_result"]),
    ("os.path", ["abspath", "altsep", "basename", "commonpath", "commonprefix", "curdir", "dirname",
      "exists", "expanduser", "expandvars", "extsep", "getmtime", "getsize", "isabs", "isdir",
      "isfile", "islink", "ismount", "join", "lexists", "normcase", "normpath", "pardir", "pathsep",
      "realpath", "relpath", "samefile", "sep", "split", "splitdrive", "splitext"]),
    ("json", ["JSONDecodeError", "JSONDecoder", "JSONEncoder", "decoder", "dump", "dumps", "encoder",
      "load", "loads"]),
    ("json.decoder", ["JSONDecodeError", "JSONDecoder"]),
    ("math", ["acos", "asin", "atan", "atan2", "ceil", "comb", "copysign", "cos", "cosh", "degrees",
      "e", "exp", "fabs", "factorial", "floor", "fmod", "fsum", "gcd", "hypot", "inf", "isclose",
      "isfinite", "isinf", "isnan", "isqrt", "lcm", "ldexp", "log", "log10", "log1p", "log2",
      "modf", "nan", "perm", "pi", "pow", "prod", "radians", "sin", "sinh", "sqrt", "tan", "tanh",
      "tau", "trunc"]),
    ("re", ["A", "ASCII", "DOTALL", "I", "IGNORECASE", "M", "MULTILINE", "Match", "Pattern", "S",
      "U", "UNICODE", "VERBOSE", "X", "compile", "error", "escape", "findall", "finditer",
      "fullmatch", "match", "purge", "search", "split", "sub", "subn"]),
    ("struct", ["Struct", "calcsize", "error", "iter_unpack", "pack", "pack_into", "unpack",
      "unpack_from"]),
    ("hashlib", ["algorithms_available", "md5", "new", "sha1", "sha224", "sha256", "sha384",
      "sha512"]),
    ("collections", ["ChainMap", "Counter", "OrderedDict", "abc", "defaultdict", "deque",
      "namedtuple"]),
    ("collections.abc", ["Callable", "Iterable", "Iterator", "Mapping", "MutableMapping", "Sequence",
      "Sized", "Hashable"]),
    ("pathlib", ["Path", "PosixPath", "PurePath", "PurePosixPath"]),
    ("binascii", ["Error", "a2b_base64", "a2b_hex", "b2a_base64", "b2a_hex", "crc32", "hexlify",
      "unhexlify"]),
    ("base64", ["b16decode", "b16encode", "b64decode", "b64encode", "standard_b64decode",
      "standard_b64encode", "urlsafe_b64decode", "urlsafe_b64encode"]),
    ("zlib", ["adler32", "crc32", "decompress", "error"]),
    ("itertools", ["accumulate", "chain", "combinations", "count", "cycle", "dropwhile",
      "filterfalse", "groupby", "islice", "pairwise", "permutations", "product", "repeat",
      "starmap", "takewhile", "tee", "zip_longest", "batched"]),
    ("functools", ["cache", "cached_property", "cmp_to_key", "lru_cache", "partial", "reduce",
      "total_ordering", "wraps"]),
    ("subprocess", ["CalledProcessError", "CompletedProcess", "DEVNULL", "PIPE", "Popen", "STDOUT",
      "SubprocessError", "TimeoutExpired", "call", "check_call", "check_output", "getoutput",
      "getstatusoutput", "run"]),
    ("string", ["ascii_letters", "ascii_lowercase", "ascii_uppercase", "capwords", "digits",
      "hexdigits", "octdigits", "printable", "punctuation", "whitespace"]),
    ("io", ["BytesIO", "StringIO", "TextIOWrapper", "UnsupportedOperation", "open", "SEEK_SET",
      "SEEK_CUR", "SEEK_END"]),
    ("time", ["gmtime", "localtime", "monotonic", "perf_counter", "sleep", "strftime", "time"]),
    ("shutil", ["Error", "copy", "copy2", "copyfile", "copyfileobj", "copytree", "move", "rmtree",
      "which"]),
    ("glob", ["escape", "glob", "iglob"]),
    ("fnmatch", ["filter", "fnmatch", "fnmatchcase"]),
    ("copy", ["copy", "deepcopy"]),
    ("operator", ["add", "and_", "attrgetter", "concat", "contains", "eq", "floordiv", "ge",
      "getitem", "gt", "index", "inv", "invert", "is_", "is_not", "itemgetter", "le", "lshift",
      "lt", "methodcaller", "mod", "mul", "ne", "neg", "not_", "or_", "pos", "pow", "rshift",
      "setitem", "sub", "truediv", "truth", "xor"]),
    ("textwrap", ["dedent", "indent", "fill", "wrap", "shorten"]),
    ("errno", ["EACCES", "EEXIST", "EINVAL", "EISDIR", "ENOENT", "ENOTDIR", "ENOTEMPTY", "EPERM",
      "errorcode"]),
    ("types", ["SimpleNamespace", "FunctionType", "ModuleType", "MappingProxyType"]),
    ("typing", ["Any", "Callable", "Dict", "Generator", "Iterable", "Iterator", "List", "Literal",
      "Mapping", "NamedTuple", "NoReturn", "Optional", "Sequence", "Set", "Tuple", "Type",
      "TYPE_CHECKING", "Union", "cast", "Final", "ClassVar", "TypeVar", "Generic", "Protocol",
      "TypedDict", "IO", "TextIO", "BinaryIO", "FrozenSet", "Deque", "DefaultDict", "Counter",
      "overload"]),
    ("__future__", ["annotations", "division", "print_function", "unicode_literals",
      "absolute_import", "generators", "with_statement"]),
    ("abc", ["ABC", "ABCMeta", "abstractmethod"]),
    ("contextlib", ["suppress", "contextmanager", "closing", "nullcontext", "redirect_stdout",
      "redirect_stderr"]),
    ("traceback", ["format_exc", "print_exc"]),
    ("warnings", ["filterwarnings", "simplefilter", "warn"]),
    ("platform", ["machine", "node", "platform", "python_version", "release", "system"]),
    ("argparse", ["ArgumentParser", "Namespace", "ArgumentDefaultsHelpFormatter",
      "RawDescriptionHelpFormatter", "ArgumentTypeError", "FileType", "SUPPRESS", "REMAINDER"]),
    ("signal", ["SIGINT", "SIGPIPE", "SIGTERM", "SIG_DFL", "SIG_IGN", "signal"]),
    ("stat", ["S_ISDIR", "S_ISLNK", "S_ISREG", "S_IMODE", "S_IXUSR"]),
    ("gzip", ["decompress", "open", "compress"]),
    ("random", ["choice", "randint", "random", "seed", "shuffle"]),
    ("datetime", ["date", "datetime", "timedelta", "timezone"]),
    ("logging", ["basicConfig", "debug", "error", "getLogger", "info", "warning", "DEBUG", "INFO",
      "WARNING", "ERROR"]),
    ("dataclasses", ["asdict", "dataclass", "field"]),
    ("enum", ["Enum", "IntEnum", "auto"]),
    ("shlex", ["join", "quote", "split"]),
    ("heapq", ["heapify", "heappop", "heappush", "nlargest", "nsmallest"]),
    ("bisect", ["bisect", "bisect_left", "bisect_right", "insort"]),
    ("statistics", ["mean", "median"]),
    ("html", ["escape", "unescape"]), ("codecs", ["decode", "encode", "open"]),
    ("tempfile", ["gettempdir", "mkdtemp", "mkstemp", "NamedTemporaryFile", "TemporaryDirectory"]),
    ("urllib", ["parse", "request"]), ("urllib.parse", ["quote", "unquote", "urlparse"]),
    ("uuid", ["uuid4"]), ("csv", ["reader", "writer", "DictReader", "DictWriter"]),
    ("pprint", ["pformat", "pprint"]), ("inspect", []), ("importlib", ["import_module"]),
    ("configparser", ["ConfigParser"]), ("threading", ["Lock", "Thread"]), ("gc", ["collect"]),
    ("atexit", ["register"]), ("decimal", ["Decimal"]), ("fractions", ["Fraction"]),
    ("unicodedata", ["normalize"]), ("secrets", []), ("socket", []), ("queue", []), ("tarfile", []),
    ("zipfile", []), ("lzma", []), ("bz2", []), ("difflib", []), ("ast", ["literal_eval"]),
    ("calendar", []), ("weakref", []), ("multiprocessing", []), ("unittest", []), ("ctypes", []),
    ("pickle", []), ("xml", []), ("http", []), ("email", []), ("sqlite3", []), ("asyncio", []),
    ("concurrent", []), ("mmap", []), ("select", []), ("fcntl", []), ("pwd", []), ("grp", []),
    ("resource", []), ("tomllib", ["load", "loads", "TOMLDecodeError"]), ("ipaddress", []),
    ("timeit", []), ("getpass", []), ("locale", []), ("posixpath", []), ("builtins", []),
    ("array", []), ("numbers", []), ("keyword", []), ("sysconfig", []), ("site", [])]

/-- Whether a name is that of a module. -/
def isModule (name : String) : Bool := (modules.lookup name).isSome

/-- What is known everywhere, kinds and failures apart. -/
def everywhere : List String :=
  ["abs", "all", "any", "ascii", "bin", "breakpoint", "callable", "chr", "compile", "delattr", "dir",
    "divmod", "eval", "exec", "format", "getattr", "globals", "hasattr", "hash", "hex", "id",
    "input", "isinstance", "issubclass", "iter", "aiter", "len", "locals", "max", "min", "next",
    "anext", "oct", "ord", "pow", "print", "repr", "round", "setattr", "sorted", "sum", "vars",
    "open", "quit", "exit", "help", "__import__"]

/-- The kinds that are known everywhere. -/
def kindsEverywhere : List String :=
  ["bool", "memoryview", "bytearray", "bytes", "classmethod", "complex", "dict", "enumerate",
    "filter", "float", "frozenset", "property", "int", "list", "map", "object", "range",
    "reversed", "set", "slice", "staticmethod", "str", "super", "tuple", "type", "zip"]

/-- Names that stand for other ones. -/
def otherNames : List (String × String) :=
  [("IOError", "OSError"), ("EnvironmentError", "OSError"),
    ("json.JSONDecodeError", "json.decoder.JSONDecodeError"),
    ("json.decoder.JSONDecodeError", "json.decoder.JSONDecodeError"), ("os.error", "OSError"),
    ("os.open", "os.open"), ("io.open", "open"), ("codecs.open", "open"),
    ("pathlib.Path", "pathlib.PosixPath"), ("pathlib.PosixPath", "pathlib.PosixPath"),
    ("pathlib.PurePath", "pathlib.PosixPath"), ("pathlib.PurePosixPath", "pathlib.PosixPath"),
    ("io.UnsupportedOperation", "io.UnsupportedOperation"), ("io.StringIO", "_io.StringIO"),
    ("io.BytesIO", "_io.BytesIO"), ("io.TextIOWrapper", "_io.TextIOWrapper"),
    ("operator.concat", "operator.add"), ("operator.inv", "operator.invert"),
    ("binascii.b2a_hex", "binascii.hexlify"), ("binascii.a2b_hex", "binascii.unhexlify"),
    ("base64.standard_b64encode", "base64.b64encode"),
    ("base64.standard_b64decode", "base64.b64decode"), ("shutil.copy2", "shutil.copy"),
    ("os.replace", "os.rename"), ("os.unlink", "os.remove"), ("re.Pattern", "re.Pattern"),
    ("re.Match", "re.Match"), ("functools.cache", "functools.cache"),
    ("bisect.bisect", "bisect.bisect_right"), ("posixpath", "os.path"), ("re.I", "re.IGNORECASE"),
    ("re.M", "re.MULTILINE"), ("re.S", "re.DOTALL"), ("re.X", "re.VERBOSE"), ("re.A", "re.ASCII"),
    ("re.U", "re.UNICODE")]

/-- What a name stands for. -/
def meantName (name : String) : String := (otherNames.lookup name).getD name

/-- What is known everywhere under a name. -/
def knownEverywhere? (name : String) : Option String :=
  let meant := meantName name
  if everywhere.contains name || kindsEverywhere.contains name then some name
  else if !meant.toList.contains '.' && (failureKinds.lookup meant).isSome then some meant
  else none

/-- All names that are known everywhere. -/
def namesEverywhere : List String :=
  everywhere ++ ["None", "Ellipsis", "NotImplemented", "False", "True"] ++ kindsEverywhere ++
    (failureKinds.map (·.1)).filter fun n => !n.toList.contains '.'

end FirmwareSurvey.ResultScript
