import FirmwareSurvey.Json.Basic
import FirmwareSurvey.Json.Printer

/-!
# TOML values

A value is a text, an integer of a signed 64-bit word, a double, a truth value, a moment, an array
or a table with its members in order. JSON goes into TOML without its nulls, which have no
counterpart, and with an integer beyond the signed words as a text of its digits; back again, a
moment becomes an object with one member of a reserved name.
-/

namespace FirmwareSurvey

/-- A TOML value. -/
inductive Toml where
  /-- A text. -/
  | str (s : String)
  /-- An integer. -/
  | int (n : Int)
  /-- A double. -/
  | float (x : Binary64)
  /-- A truth value. -/
  | bool (b : Bool)
  /-- A moment, in its normal spelling. -/
  | moment (text : String)
  /-- An array. -/
  | array (items : List Toml)
  /-- A table, its members in order. -/
  | table (members : List (String × Toml))
deriving Inhabited

namespace Toml

/-- Integers a value may hold. -/
def IsWord (n : Int) : Prop := -0x8000000000000000 ≤ n ∧ n < 0x8000000000000000

instance (n : Int) : Decidable (IsWord n) := inferInstanceAs (Decidable (_ ∧ _))

/-- Whether a value is a table. -/
def isTable : Toml → Bool
  | .table _ => true
  | _ => false

/-- Whether a value is an array that holds tables and nothing else, one at least. -/
def isTableArray : Toml → Bool
  | .array (v :: vs) => (v :: vs).all isTable
  | _ => false

mutual

/-- A JSON value in TOML; null has no counterpart. -/
def ofJson? : Json → Option Toml
  | .null => none
  | .bool b => some (.bool b)
  | .int n => if n < 0x8000000000000000 then some (.int n) else some (.str (Json.intText n))
  | .float x => some (.float x)
  | .str s => some (.str s)
  | .arr items => some (.array (ofJsonItems items))
  | .obj members => some (.table (ofJsonMembers members))

/-- The items of a list in TOML, without the nulls. -/
def ofJsonItems : List Json → List Toml
  | [] => []
  | v :: vs =>
    match ofJson? v with
    | some t => t :: ofJsonItems vs
    | none => ofJsonItems vs

/-- The members of an object in TOML, without the nulls. -/
def ofJsonMembers : List (String × Json) → List (String × Toml)
  | [] => []
  | (k, v) :: ms =>
    match ofJson? v with
    | some t => (k, t) :: ofJsonMembers ms
    | none => ofJsonMembers ms

end

/-- The name under which a moment stands in JSON. -/
def momentName : String := "$__toml_private_datetime"

mutual

/-- A TOML value in JSON. A double that is not finite becomes null. -/
def toJson : Toml → Json
  | .str s => .str s
  | .int n => .int n
  | .float x => if x.isFinite then .float x else .null
  | .bool b => .bool b
  | .moment text => .obj [(momentName, .str text)]
  | .array items => .arr (toJsonItems items)
  | .table members => .obj (toJsonMembers members)

/-- The items of an array in JSON. -/
def toJsonItems : List Toml → List Json
  | [] => []
  | v :: vs => toJson v :: toJsonItems vs

/-- The members of a table in JSON. -/
def toJsonMembers : List (String × Toml) → List (String × Json)
  | [] => []
  | (k, v) :: ms => (k, toJson v) :: toJsonMembers ms

end

end Toml

namespace Json

mutual

/-- What is left of a value after a journey through TOML: nulls go, and integers beyond the signed
words become texts of their digits. -/
def withoutNulls? : Json → Option Json
  | .null => none
  | .bool b => some (.bool b)
  | .int n => if n < 0x8000000000000000 then some (.int n) else some (.str (intText n))
  | .float x => some (.float x)
  | .str s => some (.str s)
  | .arr items => some (.arr (withoutNullItems items))
  | .obj members => some (.obj (withoutNullMembers members))

/-- The items of a list, without the nulls. -/
def withoutNullItems : List Json → List Json
  | [] => []
  | v :: vs =>
    match withoutNulls? v with
    | some w => w :: withoutNullItems vs
    | none => withoutNullItems vs

/-- The members of an object, without the nulls. -/
def withoutNullMembers : List (String × Json) → List (String × Json)
  | [] => []
  | (k, v) :: ms =>
    match withoutNulls? v with
    | some w => (k, w) :: withoutNullMembers ms
    | none => withoutNullMembers ms

end

end Json

end FirmwareSurvey
