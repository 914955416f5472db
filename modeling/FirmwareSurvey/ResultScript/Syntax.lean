import FirmwareSurvey.Decimal.Binary64

/-!
# Result scripts

A result script is a row of statements, of which some hold further statements. Its expressions work
with numbers, texts, lists, tables and functions. Expressions and statements keep the span of the
script that they were read from, so that a failure can be told together with its place.
-/

namespace FirmwareSurvey.ResultScript

/-- A span of a script; lines count from one and columns from zero. -/
structure Span where
  /-- The line it starts in. -/
  line : Nat := 1
  /-- The column it starts at. -/
  column : Nat := 0
  /-- The line it ends in. -/
  endLine : Nat := 1
  /-- The column behind its end. -/
  endColumn : Nat := 0
deriving DecidableEq, Inhabited

/-- The start of a span, which marks nothing. -/
def Span.point (s : Span) : Span := { s with endLine := s.line, endColumn := s.column }

/-- What is written out in a script. -/
inductive Literal where
  /-- Nothing. -/
  | nothing
  /-- A truth value. -/
  | truth (b : Bool)
  /-- A whole number. -/
  | number (n : Int)
  /-- A number with a fractional part. -/
  | real (x : Binary64)
  /-- A text. -/
  | text (cs : List Char)
  /-- Bytes. -/
  | octets (bytes : List UInt8)
  /-- Three dots. -/
  | dots
deriving DecidableEq

/-- How a parameter takes its argument. -/
inductive Taking where
  /-- By its place or its name. -/
  | plain
  /-- By its name alone. -/
  | byName
  /-- It takes all that are left over. -/
  | others
  /-- It takes all that are left over and have names. -/
  | otherNames
deriving DecidableEq

/-- What values are gathered into. -/
inductive Gathering where
  /-- A list. -/
  | list
  /-- A set. -/
  | set
  /-- A table. -/
  | table
  /-- A row that is gone through once. -/
  | row
deriving DecidableEq

mutual

/-- An expression. -/
inductive Expr where
  /-- What is written out. -/
  | literal (v : Literal)
  /-- A name. -/
  | name (span : Span) (name : String)
  /-- A text with values in it. -/
  | joined (span : Span) (parts : List Part)
  /-- A list. -/
  | list (items : List Expr)
  /-- A tuple. -/
  | tuple (items : List Expr)
  /-- A set. -/
  | set (span : Span) (items : List Expr)
  /-- A table; a member without a key is a table whose members are taken. -/
  | table (span : Span) (members : List (Option Expr × Expr))
  /-- All items of a value in place of one. -/
  | spread (e : Expr)
  /-- A sign before an expression. -/
  | unary (span : Span) (sign : String) (e : Expr)
  /-- A sign between two expressions. -/
  | binary (span signSpan : Span) (sign : String) (l r : Expr)
  /-- Comparisons in a row. -/
  | compare (span : Span) (first : Expr) (rest : List (String × Expr))
  /-- The first of two values that counts as false, or the second one. -/
  | both (l r : Expr)
  /-- The first of two values that counts as true, or the second one. -/
  | either (l r : Expr)
  /-- Whether a value counts as false. -/
  | not (e : Expr)
  /-- One of two values. -/
  | choice (condition yes no : Expr)
  /-- A call. -/
  | call (span : Span) (f : Expr) (arguments : List Argument)
  /-- What a value has at a place. -/
  | item (span placeSpan : Span) (e place : Expr)
  /-- A range of places. -/
  | slice (start stop step : Option Expr)
  /-- What a value has under a name. -/
  | member (span : Span) (e : Expr) (name : String)
  /-- A function without a name. -/
  | function (parameters : List Parameter) (body : Expr)
  /-- Values gathered from others. -/
  | gather (span : Span) (kind : Gathering) (first : Expr) (second : Option Expr)
      (clauses : List Clause)
  /-- A value that is given a name. -/
  | named (name : String) (e : Expr)
  /-- Hands out a value. -/
  | hands (e : Option Expr)

/-- A part of a text with values in it. -/
inductive Part where
  /-- Characters. -/
  | text (cs : List Char)
  /-- A value, how it is turned into a text, and its format. -/
  | value (span : Span) (e : Expr) (turn : Option Char) (format : List Part)

/-- An argument of a call. -/
inductive Argument where
  /-- A value. -/
  | plain (e : Expr)
  /-- A value with a name. -/
  | named (name : String) (e : Expr)
  /-- All items of a value. -/
  | spread (e : Expr)
  /-- All members of a table. -/
  | spreadNamed (e : Expr)

/-- A parameter of a function. -/
inductive Parameter where
  /-- The only form. -/
  | mk (name : String) (taking : Taking) (default : Option Expr)

/-- Where values are gathered from. -/
inductive Clause where
  /-- The items of a value, each under a name. -/
  | each (targetSpan : Span) (target source : Expr)
  /-- Only what meets a condition. -/
  | when (condition : Expr)

end

instance : Inhabited Expr := ⟨.literal .nothing⟩

/-- A statement. -/
inductive Statement where
  /-- An expression on its own. -/
  | eval (e : Expr)
  /-- Gives a value to targets. -/
  | assign (targets : List (Span × Expr)) (value : Expr)
  /-- Changes the value of a target. -/
  | change (signSpan : Span) (target : Expr) (sign : String) (value : Expr)
  /-- One of two rows of statements. -/
  | branch (condition : Expr) (body otherwise : List (Span × Statement))
  /-- Statements that run while a condition holds; others run when it does not any more. -/
  | loop (condition : Expr) (body otherwise : List (Span × Statement))
  /-- Statements that run once for each item of a value; others run behind them. -/
  | each (targetSpan : Span) (target source : Expr) (body otherwise : List (Span × Statement))
  /-- A function; whether it hands out values. -/
  | function (name : String) (parameters : List Parameter) (body : List (Span × Statement))
      (hands : Bool)
  /-- A kind of values. -/
  | kind (name : String) (bases : List Expr) (body : List (Span × Statement))
  /-- Ends a function with a value. -/
  | return (e : Option Expr)
  /-- Makes modules known under names. -/
  | use (names : List (String × String))
  /-- Makes members of a module known under names. -/
  | useFrom (module : String) (names : List (String × String))
  /-- Statements that may fail, what is done about that, and what is done in any case. -/
  | attempt (body : List (Span × Statement))
      (handlers : List (Option Expr × Option String × List (Span × Statement)))
      (otherwise lastly : List (Span × Statement))
  /-- Fails with a value. -/
  | fail (e : Option Expr) (cause : Option Expr)
  /-- Statements that run while values are in use. -/
  | within (uses : List (Expr × Option Expr)) (body : List (Span × Statement))
  /-- Does nothing. -/
  | pass
  /-- Leaves a loop. -/
  | leave
  /-- Goes on with a loop. -/
  | goOn
  /-- Names that belong to what is around. -/
  | outer (isGlobal : Bool) (names : List String)
  /-- Takes targets away. -/
  | delete (targets : List (Span × Expr))
  /-- Fails unless a condition holds. -/
  | claim (span : Span) (condition : Expr) (message : Option Expr)

/-- Statements with the spans that they were read from. -/
abbrev Block := List (Span × Statement)

end FirmwareSurvey.ResultScript
