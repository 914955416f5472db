import FirmwareSurvey.Decimal.Binary64

/-!
# Expressions and statements of a template

A template is a row of statements: text as it stands, values written, branches, loops and
assignments. Expressions have no effect of their own but for the footnotes that they cite.
-/

namespace FirmwareSurvey.Template

/-- An operator with one operand. -/
inductive UnaryOp where
  /-- The other truth value. -/
  | negation
  /-- The number with the other sign. -/
  | minus
deriving DecidableEq, Repr

/-- A comparison of two operands. -/
inductive Comparison where
  /-- Whether the operands are equal. -/
  | equal
  /-- Whether the operands differ. -/
  | different
  /-- Whether the first comes before the second. -/
  | less
  /-- Whether the first does not come after the second. -/
  | atMost
  /-- Whether the first comes after the second. -/
  | greater
  /-- Whether the first does not come before the second. -/
  | atLeast
  /-- Whether the first is found in the second. -/
  | element
  /-- Whether the first is not found in the second. -/
  | noElement
deriving DecidableEq, Repr

/-- An operator with two operands. -/
inductive BinaryOp where
  /-- The sum of numbers, texts one behind the other, lists one behind the other. -/
  | sum
  /-- The difference of numbers. -/
  | difference
  /-- The texts of the operands, one behind the other. -/
  | concatenation
  /-- The product of numbers; a text or a list repeated. -/
  | product
  /-- The quotient of numbers. -/
  | quotient
  /-- The whole quotient of numbers. -/
  | wholeQuotient
  /-- What is left over by the whole quotient. -/
  | remainder
  /-- The power of numbers. -/
  | power
deriving DecidableEq, Repr

/-- An expression. -/
inductive Expression where
  /-- The value that stands for nothing. -/
  | nothing
  /-- A truth value. -/
  | bool (b : Bool)
  /-- A whole number. -/
  | int (n : Nat)
  /-- Any other number. -/
  | float (x : Binary64)
  /-- A text. -/
  | text (s : String)
  /-- The value of a name. -/
  | name (name : String)
  /-- A list. -/
  | list (items : List Expression)
  /-- A map. -/
  | map (members : List (Expression × Expression))
  /-- A member of a value. -/
  | member (base : Expression) (name : String)
  /-- An item of a value. -/
  | item (base index : Expression)
  /-- Every so many items of a value from a place on and up to another. -/
  | part (base : Expression) (start stop step : Option Expression)
  /-- A call. -/
  | call (base : Expression) (arguments : List Expression) (named : List (String × Expression))
  /-- A value seen through a filter. -/
  | filter (base : Expression) (name : String) (arguments : List Expression)
    (named : List (String × Expression))
  /-- Whether a value passes a test. -/
  | test (base : Expression) (name : String) (arguments : List Expression)
    (named : List (String × Expression))
  /-- An operator with one operand. -/
  | unary (op : UnaryOp) (operand : Expression)
  /-- The first operand if it counts as true, else the second. -/
  | either (left right : Expression)
  /-- The first operand if it counts as false, else the second. -/
  | both (left right : Expression)
  /-- An operator with two operands. -/
  | binary (op : BinaryOp) (left right : Expression)
  /-- A row of comparisons, each of an operand with the one before; they hold all together. -/
  | comparisons (first : Expression) (rest : List (Comparison × Expression))
  /-- One value if a condition holds, another one or none at all if not. -/
  | choice (condition yes : Expression) (no : Option Expression)

/-- What an assignment assigns to. -/
inductive Target where
  /-- A name. -/
  | name (name : String)
  /-- Several targets, one for each item of a value. -/
  | list (targets : List Target)

/-- A filter with its arguments, those without a name and those with one. -/
structure FilterCall where
  /-- The name of the filter. -/
  name : String
  /-- The arguments without a name. -/
  arguments : List Expression
  /-- The arguments with a name. -/
  named : List (String × Expression)

/-- A statement. -/
inductive Statement where
  /-- Text as it stands. -/
  | plain (text : String)
  /-- A value written. -/
  | output (value : Expression)
  /-- One of two rows of statements, as a condition tells. -/
  | branch (condition : Expression) (yes no : List Statement)
  /-- A row of statements for every item that fulfils a condition, another when there is none. -/
  | loop (target : Target) (items : Expression) (condition : Option Expression)
    (body otherwise : List Statement)
  /-- An assignment of a value. -/
  | assign (target : Target) (value : Expression)
  /-- An assignment of the text that statements write, seen through filters. -/
  | capture (name : String) (filters : List FilterCall) (body : List Statement)
  /-- The text that statements write, seen through filters. -/
  | filtered (filters : List FilterCall) (body : List Statement)
  /-- Statements with assignments of their own. -/
  | scope (assignments : List (Target × Expression)) (body : List Statement)

end FirmwareSurvey.Template
