import FirmwareSurvey.Decimal.Shortest
import FirmwareSurvey.Text.Numeral
import FirmwareSurvey.Toml.Basic

/-!
# Writing TOML

Within a table the members that are no tables come first, each on a line of its own; then the tables
and the arrays of tables, each under a header and depth first. A table that has neither a line of
its own nor is empty needs no header. One blank line stands before every header but the first thing
in the text.

A text takes the first of five spellings that fits: quotes, apostrophes, three quotes, three
apostrophes, or quotes with escapes. Which one fits depends on four facts about the text.
-/

namespace FirmwareSurvey.Toml

/-! ### Texts -/

/-- A control character other than tab and line feed. -/
def isControl (c : Char) : Bool :=
  (c.toNat < 0x20 && c != '\t' && c != '\n') || c.toNat == 0x7F

/-- The length of the longest run of a character; `run` is the length of the run read last. -/
def longestRun (q : Char) (run : Nat) : List Char → Nat
  | [] => run
  | c :: cs => if c = q then longestRun q (run + 1) cs else max run (longestRun q 0 cs)

/-- The spellings of a text. -/
inductive Spelling where
  /-- Between quotes, on one line. -/
  | quotes
  /-- Between apostrophes, verbatim. -/
  | apostrophes
  /-- Between three quotes. -/
  | tripleQuotes
  /-- Between three apostrophes, verbatim. -/
  | tripleApostrophes
deriving DecidableEq, Repr

/-- The first spelling that fits a text. -/
def spelling (cs : List Char) : Spelling :=
  let control := cs.any isControl
  let feed := cs.contains '\n'
  let backslash := cs.contains '\\'
  let quotes := longestRun '"' 0 cs
  let apostrophes := longestRun '\'' 0 cs
  if !control && !backslash && quotes == 0 && !feed then .quotes
  else if !control && apostrophes == 0 && !feed then .apostrophes
  else if !control && !backslash && quotes ≤ 2 then .tripleQuotes
  else if !control && apostrophes ≤ 2 then .tripleApostrophes
  else if feed then .tripleQuotes
  else .quotes

/-- A character that has to be escaped between quotes, quotes and line feeds apart. -/
def escaped (c : Char) : List Char :=
  if c == '\x08' then ['\\', 'b']
  else if c == '\t' then ['\\', 't']
  else if c == '\x0c' then ['\\', 'f']
  else if c == '\r' then ['\\', 'r']
  else if c == '\\' then ['\\', '\\']
  else if c.toNat < 0x20 || c.toNat == 0x7F then
    ['\\', 'u'] ++ Text.padZeros 4 (Text.upperHexChars c.toNat)
  else [c]

/-- A text between quotes on one line. -/
def quotedChars (cs : List Char) : List Char :=
  cs.flatMap fun c =>
    if c == '"' then ['\\', '"'] else if c == '\n' then ['\\', 'n'] else escaped c

/-- A text between three quotes: the third quote of a run is escaped, and the run then starts anew. -/
def tripleQuotedChars (run : Nat) : List Char → List Char
  | [] => []
  | c :: cs =>
    if c == '"' then
      if run == 2 then '\\' :: '"' :: tripleQuotedChars 0 cs else '"' :: tripleQuotedChars (run + 1) cs
    else if c == '\n' then '\n' :: tripleQuotedChars 0 cs
    else escaped c ++ tripleQuotedChars 0 cs

/-- A text as a value. -/
def textChars (cs : List Char) : List Char :=
  let lead := if cs.contains '\n' then ['\n'] else []
  match spelling cs with
  | .quotes => '"' :: quotedChars cs ++ ['"']
  | .apostrophes => '\'' :: cs ++ ['\'']
  | .tripleQuotes => ['"', '"', '"'] ++ lead ++ tripleQuotedChars 0 cs ++ ['"', '"', '"']
  | .tripleApostrophes => ['\'', '\'', '\''] ++ lead ++ cs ++ ['\'', '\'', '\'']

/-- A character of a bare key. -/
def isBareKeyChar (c : Char) : Bool :=
  ('a' ≤ c && c ≤ 'z') || ('A' ≤ c && c ≤ 'Z') || ('0' ≤ c && c ≤ '9') || c == '_' || c == '-'

/-- A key. A tab needs no escape in one, a line feed does. -/
def keyChars (cs : List Char) : List Char :=
  let control := cs.any fun c => isControl c || c == '\n'
  if !cs.isEmpty && cs.all isBareKeyChar then cs
  else if !control && !cs.contains '\\' && !cs.contains '"' then
    '"' :: quotedChars cs ++ ['"']
  else if !control && !cs.contains '\'' then '\'' :: cs ++ ['\'']
  else '"' :: quotedChars cs ++ ['"']

/-- A key. -/
def keyText (k : String) : String := String.ofList (keyChars k.toList)

/-- The text of a double: a plain decimal, or one of the three words. -/
def floatText (x : Binary64) : String :=
  if x.isFinite then String.ofList x.plainText
  else if x.isUndefined then (if x.isNegative then "-nan" else "nan")
  else if x.isNegative then "-inf"
  else "inf"

/-! ### Values on one line -/

mutual

/-- A value on one line. -/
def inlineText : Toml → String
  | .str s => String.ofList (textChars s.toList)
  | .int n => Json.intText n
  | .float x => floatText x
  | .bool b => if b then "true" else "false"
  | .moment text => text
  | .array items => "[" ++ ", ".intercalate (inlineItems items) ++ "]"
  | .table [] => "\x7b\x7d"
  | .table (m :: ms) => "\x7b " ++ ", ".intercalate (inlineMembers (m :: ms)) ++ " \x7d"

/-- The items of an array, each on one line. -/
def inlineItems : List Toml → List String
  | [] => []
  | v :: vs => inlineText v :: inlineItems vs

/-- The members of a table, each on one line. -/
def inlineMembers : List (String × Toml) → List String
  | [] => []
  | (k, v) :: ms => (keyText k ++ " = " ++ inlineText v) :: inlineMembers ms

end

/-! ### Documents -/

/-- Whether a member stands on a line of its own, not under a header. -/
def isLine (v : Toml) : Bool := !v.isTable && !v.isTableArray

/-- The lines of the members that are no tables. -/
def memberLines : List (String × Toml) → List String
  | [] => []
  | (k, v) :: ms =>
    if isLine v then (keyText k ++ " = " ++ inlineText v ++ "\n") :: memberLines ms
    else memberLines ms

/-- A header and what stands right under it. -/
structure Section where
  /-- The header's line; none for the start of the text. -/
  header : Option String
  /-- The lines under it. -/
  lines : List String

/-- The header of a table. -/
def tableHeader (path : List String) : String := "[" ++ ".".intercalate (path.map keyText) ++ "]\n"

/-- The header of an element of an array of tables. -/
def elementHeader (path : List String) : String :=
  "[[" ++ ".".intercalate (path.map keyText) ++ "]]\n"

mutual

/-- The sections of a member: none for a line, one and those below for a table, as many for each
element of an array of tables. -/
def memberSections (path : List String) : Toml → List Section
  | .table members =>
    let lines := memberLines members
    (if members.isEmpty || !lines.isEmpty then [⟨some (tableHeader path), lines⟩] else []) ++
      tableSections path members
  | .array (v :: vs) =>
    if (v :: vs).all isTable then elementSections path (v :: vs) else []
  | _ => []

/-- The sections of the members of a table. -/
def tableSections (path : List String) : List (String × Toml) → List Section
  | [] => []
  | (k, v) :: ms => memberSections (path ++ [k]) v ++ tableSections path ms

/-- The sections of the elements of an array of tables. -/
def elementSections (path : List String) : List Toml → List Section
  | [] => []
  | .table members :: vs =>
    ⟨some (elementHeader path), memberLines members⟩ ::
      (tableSections path members ++ elementSections path vs)
  | _ :: vs => elementSections path vs

end

/-- The text of sections, with a blank line before a header unless it comes first. -/
def sectionsText (first : Bool) : List Section → String
  | [] => ""
  | s :: ss =>
    let head := match s.header with
      | some h => if first then h else "\n" ++ h
      | none => ""
    head ++ String.join s.lines ++
      sectionsText (first && s.header.isNone && s.lines.isEmpty) ss

/-- The text of a table as a document. -/
def documentText (members : List (String × Toml)) : String :=
  sectionsText true (⟨none, memberLines members⟩ :: tableSections [] members)

end FirmwareSurvey.Toml
