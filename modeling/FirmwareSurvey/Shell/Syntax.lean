

/-!
# Scripts

A script is a row of commands. A word of a command is a row of pieces: characters as they stand,
values of parameters, what other commands write, and numbers worked out. A piece that is quoted stays
together and is taken literally.

Two manners of scripts are read, a plain one and an extended one; the extended one also knows rows
of values, conditions and calculations between doubled brackets, and a few more ways to use a value.
-/

namespace FirmwareSurvey.Shell

/-- The manners of a shell. -/
inductive Dialect where
  /-- The plain manner. -/
  | plain
  /-- The extended manner. -/
  | extended
deriving DecidableEq

/-- What a side of a text is cut by. -/
inductive Side where
  /-- Its start. -/
  | front
  /-- Its end. -/
  | back
deriving DecidableEq

/-- Which matches of a pattern are replaced. -/
inductive Extent where
  /-- The first one. -/
  | first
  /-- All of them. -/
  | all
  /-- One at the start. -/
  | front
  /-- One at the end. -/
  | back
deriving DecidableEq

/-- How an arm of a selection ends. -/
inductive ArmEnd where
  /-- The selection is over. -/
  | leaves
  /-- The body of the next arm follows. -/
  | falls
  /-- The patterns of the next arms are tried. -/
  | goesOn
deriving DecidableEq

mutual

/-- What a parameter stands for. -/
inductive Parameter where
  /-- The argument of a number; zero is the name of the script. -/
  | positional (n : Nat)
  /-- The arguments, each for itself. -/
  | arguments
  /-- The arguments, joined. -/
  | joined
  /-- How many arguments there are. -/
  | count
  /-- How the last command ended. -/
  | status
  /-- The number of the running script. -/
  | process
  /-- The number of the last command in the background. -/
  | background
  /-- The letters of the options that are set. -/
  | options
  /-- A value that was given a name. -/
  | variable (name : List Char)
  /-- One of a row of values. -/
  | element (name : List Char) (index : List Piece)
  /-- A row of values, each for itself or joined. -/
  | elements (name : List Char) (joined : Bool)
  /-- The indices of a row of values, each for itself or joined. -/
  | indices (name : List Char) (joined : Bool)

/-- What is done with the value of a parameter. Where `orEmpty` is set, an empty value counts as a
missing one. -/
inductive Use where
  /-- It is taken as it is. -/
  | value
  /-- It is measured. -/
  | length
  /-- A word stands in for a missing value. -/
  | default (orEmpty : Bool) (word : List Piece)
  /-- A word stands in for a missing value and becomes the value. -/
  | assign (orEmpty : Bool) (word : List Piece)
  /-- A missing value ends the script, with a word as the reason. -/
  | demand (orEmpty : Bool) (word : List Piece)
  /-- A word stands in for a value that is there. -/
  | instead (orEmpty : Bool) (word : List Piece)
  /-- A match of a pattern is cut off at a side, the longest or the shortest one. -/
  | cut (side : Side) (longest : Bool) (pattern : List Piece)
  /-- Matches of a pattern are replaced. -/
  | replace (extent : Extent) (pattern replacement : List Piece)
  /-- A part is taken, from a place on and of a length. -/
  | part (start : List Piece) (length : Option (List Piece))
  /-- Letters become capital or small ones, all or only the first. -/
  | cased (upper all : Bool)
  /-- The value is the name of a value. -/
  | indirect

/-- A part of a word. -/
inductive Piece where
  /-- Characters as they stand. -/
  | literal (cs : List Char) (quoted : Bool)
  /-- The value of a parameter. -/
  | parameter (p : Parameter) (use : Use) (quoted : Bool)
  /-- What commands write. -/
  | substitution (script : List Command) (quoted : Bool)
  /-- A number worked out. -/
  | calculation (text : List Piece) (quoted : Bool)
  /-- The home directory. -/
  | home

/-- Where a channel of a command leads; channels are numbered. -/
inductive Redirection where
  /-- To a file, which is emptied first or not; even one that should be kept. -/
  | write (channel : Nat) (file : List Piece) (atEnd force : Bool)
  /-- To where another channel leads, or nowhere. -/
  | join (channel : Nat) (onto : List Piece)
  /-- The command reads from a file. -/
  | read (channel : Nat) (file : List Piece)
  /-- The command reads a text. -/
  | document (channel : Nat) (text : List Piece)
  /-- Output and errors both lead to a file. -/
  | writeBoth (file : List Piece) (atEnd : Bool)

/-- What a name is given. -/
inductive Assigned where
  /-- A value. -/
  | text (word : List Piece)
  /-- A row of values, some with the places that they belong to. -/
  | row (items : List (Option (List Piece) × List Piece))

/-- Gives a value to a name, or to a place in a row of values; or adds to what is there. -/
inductive Assignment where
  /-- The only form. -/
  | mk (name : List Char) (index : Option (List Piece)) (adds : Bool) (value : Assigned)

/-- A condition between doubled brackets. -/
inductive Condition where
  /-- A word that is not empty. -/
  | word (w : List Piece)
  /-- A question about a word. -/
  | one (question : List Char) (w : List Piece)
  /-- A question about two words. -/
  | two (question : List Char) (left right : List Piece)
  /-- What holds if another condition does not. -/
  | not (c : Condition)
  /-- What holds if two conditions do. -/
  | and (c d : Condition)
  /-- What holds if one of two conditions does. -/
  | or (c d : Condition)

/-- A command. -/
inductive Command where
  /-- A program and its arguments; the line it stands in. The last assignments are made when it has
  ended. -/
  | simple (line : Nat) (assignments : List Assignment) (words : List (List Piece))
      (redirections : List Redirection) (afterwards : List Assignment)
  /-- Commands each of which reads what the one before it writes. -/
  | piped (commands : List Command)
  /-- The second command runs if the first one succeeds. -/
  | both (first second : Command)
  /-- The second command runs if the first one fails. -/
  | either (first second : Command)
  /-- A command that succeeds if another one fails. -/
  | negated (command : Command)
  /-- A command that is not waited for. -/
  | aside (command : Command)
  /-- The first branch whose condition succeeds. -/
  | choice (branches : List (List Command × List Command)) (otherwise : List Command)
  /-- The first arm that has a pattern for a word. -/
  | selection (line : Nat) (subject : List Piece) (arms : List (List (List Piece) × List Command × ArmEnd))
  /-- Commands that run once for each of some words. -/
  | each (line : Nat) (name : List Char) (words : List (List Piece)) (body : List Command)
  /-- Commands that run while a condition succeeds, or until it does. -/
  | loop (isUntil : Bool) (condition body : List Command)
  /-- Commands that run while a calculation is not zero. -/
  | counted (line : Nat) (start test step : List Piece) (body : List Command)
  /-- Commands in a row. -/
  | group (body : List Command)
  /-- Commands in a row that leave nothing behind in the script. -/
  | subshell (line : Nat) (body : List Command)
  /-- A name for a command. -/
  | function (name : List Char) (body : Command)
  /-- A command with its channels redirected. -/
  | redirected (line : Nat) (command : Command) (redirections : List Redirection)
  /-- A condition. -/
  | condition (line : Nat) (c : Condition)
  /-- A calculation. -/
  | calculation (line : Nat) (text : List Piece)

end

instance : Inhabited Command := ⟨.group []⟩

/-- A word. -/
abbrev Word := List Piece

/-- Whether a piece is quoted. -/
def Piece.isQuoted : Piece → Bool
  | .literal _ q => q
  | .parameter _ _ q => q
  | .substitution _ q => q
  | .calculation _ q => q
  | .home => true

/-- Whether a piece is what commands write. -/
def Piece.isSubstitution : Piece → Bool
  | .substitution _ _ => true
  | _ => false

end FirmwareSurvey.Shell
