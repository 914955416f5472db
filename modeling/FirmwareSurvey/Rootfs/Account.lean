import FirmwareSurvey.Json.Basic
import FirmwareSurvey.Text.Lines
import FirmwareSurvey.Text.Numeral

/-!
# User accounts

The accounts of a system are the lines of its password file, each with the hash of its password: the
one in the shadow file when the password file says so and the shadow file has one, or else what the
password file holds itself. The hash is told by its shape: locked, held elsewhere, too short, or
made by the method that its first characters name.
-/

namespace FirmwareSurvey.Rootfs

/-! ### Password hashes -/

/-- What a password hash looks like. -/
inductive HashKind where
  /-- No password, or one that fits nothing. -/
  | locked
  /-- The hash is in the shadow file. -/
  | shadow
  /-- The hash is too short. -/
  | weak
  /-- An MD5 hash. -/
  | md5
  /-- A SHA-256 hash. -/
  | sha256
  /-- A SHA-512 hash. -/
  | sha512
  /-- A yescrypt hash. -/
  | yescrypt
  /-- Anything else, with the characters it starts with. -/
  | unknown (start : String)
deriving DecidableEq

/-- The name of a kind. -/
def HashKind.name : HashKind → String
  | .locked => "locked"
  | .shadow => "shadow"
  | .weak => "weak"
  | .md5 => "md5"
  | .sha256 => "sha256"
  | .sha512 => "sha512"
  | .yescrypt => "yescrypt"
  | .unknown _ => "unknown"

/-- What a kind means. -/
def HashKind.status : HashKind → String
  | .locked => "No password / locked"
  | .shadow => "Password in shadow file"
  | .weak => "Weak/short hash (potential issue)"
  | .md5 => "MD5 hash (weak)"
  | .sha256 => "SHA-256 hash"
  | .sha512 => "SHA-512 hash (strong)"
  | .yescrypt => "yescrypt hash (strong)"
  | .unknown start => "Unknown hash type " ++ start

/-- The kind that the first three characters of a hash name. -/
def HashKind.ofStart (start : String) : HashKind :=
  if start = "$1$" then .md5
  else if start = "$5$" then .sha256
  else if start = "$6$" then .sha512
  else if start = "$y$" then .yescrypt
  else .unknown start

/-- The kind of a hash; one of fewer than `weakLength` bytes is weak. -/
def HashKind.of (hash : String) (weakLength : Nat) : HashKind :=
  if hash = "" ∨ hash = "*" ∨ hash = "!" then .locked
  else if hash = "x" then .shadow
  else if hash.utf8ByteSize < weakLength then .weak
  else .ofStart (String.ofList (hash.toList.take 3))

/-! ### Accounts -/

/-- An account. -/
structure Account where
  /-- The name. -/
  name : String
  /-- The number of the user. -/
  user : Nat
  /-- The number of the group. -/
  group : Nat
  /-- The home directory. -/
  home : String
  /-- The shell. -/
  shell : String
  /-- What the password hash looks like. -/
  hash : HashKind
deriving DecidableEq

/-- Whether a shell lets the user in. -/
def isLoginShell (shell : String) : Bool :=
  let ends (word : String) : Bool := word.toList.isSuffixOf shell.toList
  !(ends "nologin" || ends "false")

/-- One more than the greatest number of a user or a group. -/
def numberLimit : Nat := 0x100000000

/-- The user and the hash of a line of the shadow file. -/
def shadowEntry? (line : List Char) : Option (String × String) :=
  match Text.cut ':' line with
  | user :: hash :: _ => some (String.ofList user, String.ofList hash)
  | _ => none

/-- The hashes of the shadow file; the last one of a user counts. -/
def shadowHashes (text : String) : Members String :=
  Members.ofList ((Text.lineChars text.toList).filterMap shadowEntry?)

/-- The hash of an account: its field in the password file, or its entry in the shadow file when the
field says so. -/
def hashOf (shadow : Members String) (user field : String) : String :=
  if field = "x" then (shadow.get? user).getD field else field

/-- The account of a line of the password file. -/
def account? (shadow : Members String) (weakLength : Nat) (line : List Char) : Option Account :=
  if Text.allBlank line || line.head? == some '#' then none
  else
    match Text.cut ':' line with
    | name :: field :: user :: group :: _ :: home :: shell :: _ =>
      match Text.unsigned? 10 numberLimit user, Text.unsigned? 10 numberLimit group with
      | some user, some group =>
        let name := String.ofList name
        some { name, user, group, home := String.ofList home, shell := String.ofList shell
               hash := .of (hashOf shadow name (String.ofList field)) weakLength }
      | _, _ => none
    | _ => none

/-- The accounts of a password file, with or without a shadow file. -/
def accounts (passwd : String) (shadow : Option String) (weakLength : Nat) : List Account :=
  (Text.lineChars passwd.toList).filterMap
    (account? (shadowHashes (shadow.getD "")) weakLength)

/-- The record of an account. -/
def Account.toJson (a : Account) : Json :=
  .obj [("username", .str a.name), ("uid", .ofNat a.user), ("gid", .ofNat a.group),
    ("home", .str a.home), ("shell", .str a.shell), ("login_shell", .bool (isLoginShell a.shell)),
    ("hash_type", .str a.hash.name), ("hash_status", .str a.hash.status)]

end FirmwareSurvey.Rootfs
