import FirmwareSurvey.Toml.Basic
import FirmwareSurvey.Toml.Number

/-!
# Reading TOML

Values and lines are read one by one, and tables are built from them.
-/

/-!
## Building TOML tables

While a document is read, a table remembers how it came to be: by a header or as a value, or only
because a longer path passes through it; and in the second case whether that path was a header or a
dotted key. A table may be given a header of its own once, and only if no dotted key made it; a
dotted key may pass through a table only if no header or value made it. No name is assigned twice.
-/

namespace FirmwareSurvey.Toml

/-- A member of a table under construction. -/
inductive Entry where
  /-- A value. -/
  | value (v : Toml)
  /-- A table: whether it exists only as a part of longer paths, whether dotted keys made it, and
  its entries. -/
  | table (passing dotted : Bool) (entries : List (String × Entry))
  /-- An array of tables, its elements in order. -/
  | elements (rows : List (List (String × Entry)))

namespace Entry

/-- The last element of a row and those before it. -/
def splitLast? {α : Type} : List α → Option (List α × α)
  | [] => none
  | a :: as =>
    match splitLast? as with
    | none => some ([], a)
    | some (init, last) => some (a :: init, last)

/-- Changes the entries of the table at a path, making the tables on the way that are missing. The
change is told whether dotted keys made the table it works on. A path that passes through an array
of tables means its last element. -/
def within? (dotted : Bool)
    (change : Bool → List (String × Entry) → Option (List (String × Entry))) :
    List String → Bool → List (String × Entry) → Option (List (String × Entry))
  | [], made, entries => change made entries
  | k :: ks, _, entries =>
    match Members.get? entries k with
    | none =>
      (within? dotted change ks dotted []).map fun inner =>
        Members.put entries k (.table true dotted inner)
    | some (.value _) => none
    | some (.table passing made inner) =>
      if dotted && !passing then none
      else (within? dotted change ks made inner).map fun inner =>
        Members.put entries k (.table passing made inner)
    | some (.elements rows) =>
      match splitLast? rows with
      | none => none
      | some (init, last) =>
        (within? dotted change ks false last).map fun inner =>
          Members.put entries k (.elements (init ++ [inner]))

/-- Adds a value under a name that is free. A key without dots may not add to a table that dotted
keys made, and a dotted key may add to no other. -/
def addValue? (plain : Bool) (k : String) (v : Toml) (made : Bool)
    (entries : List (String × Entry)) : Option (List (String × Entry)) :=
  if made == plain then none
  else if Members.has entries k then none
  else some (Members.put entries k (.value v))

/-- Assigns a value to a key inside the table of a header. -/
def assign? (header key : List String) (v : Toml) (entries : List (String × Entry)) :
    Option (List (String × Entry)) :=
  match splitLast? key with
  | none => none
  | some (path, k) =>
    within? false
      (fun made inner => within? true (addValue? path.isEmpty k v) path made inner) header false
      entries

/-- Opens the table of a header. A table that longer paths made is taken over, and moves to the end
of its table. -/
def openTable? (header : List String) (entries : List (String × Entry)) :
    Option (List (String × Entry)) :=
  match splitLast? header with
  | none => none
  | some (path, k) =>
    within? false
      (fun _ inner =>
        match Members.get? inner k with
        | none => some (Members.put inner k (.table false false []))
        | some (.table true false old) =>
          some (Members.put (Members.drop inner k) k (.table false false old))
        | some _ => none) path false entries

/-- Opens a new element of the array of tables of a header. -/
def openElement? (header : List String) (entries : List (String × Entry)) :
    Option (List (String × Entry)) :=
  match splitLast? header with
  | none => none
  | some (path, k) =>
    within? false
      (fun _ inner =>
        match Members.get? inner k with
        | none => some (Members.put inner k (.elements [[]]))
        | some (.elements rows) => some (Members.put inner k (.elements (rows ++ [[]])))
        | some _ => none) path false entries

mutual

/-- The value an entry ends up as. -/
def toToml : Entry → Toml
  | .value v => v
  | .table _ _ entries => .table (toMembers entries)
  | .elements rows => .array (toRows rows)

/-- The members that entries end up as. -/
def toMembers : List (String × Entry) → List (String × Toml)
  | [] => []
  | (k, e) :: es => (k, toToml e) :: toMembers es

/-- The tables that elements end up as. -/
def toRows : List (List (String × Entry)) → List Toml
  | [] => []
  | r :: rs => .table (toMembers r) :: toRows rs

end

end Entry

end FirmwareSurvey.Toml

/-!
## Reading TOML values and lines

A document is read line by line: a line is blank, a header or an assignment, and may end in a
comment. Values are read by recursion on what is left of the text; arrays may run over several
lines, tables within a value may not. Arrays and tables nest less than 80 deep.
-/

namespace FirmwareSurvey.Toml

/-! ### Blanks, comments and line ends -/

/-- A blank within a line. -/
def isLineBlank (c : Char) : Bool := c == ' ' || c == '\t'

/-- The rest of a text after the blanks it starts with. -/
def skipLineBlanks (cs : List Char) : List Char := cs.dropWhile isLineBlank

/-- A character that may stand in a comment. -/
def isCommentChar (c : Char) : Bool := c == '\t' || (0x20 ≤ c.toNat && c.toNat != 0x7F)

/-- The rest of a text after the comment it may start with. -/
def skipComment : List Char → List Char
  | '#' :: cs => cs.dropWhile isCommentChar
  | cs => cs

/-- The rest of a text after the line end it starts with; the end of the text ends a line too. -/
def lineEnd? : List Char → Option (List Char)
  | [] => some []
  | '\n' :: cs => some cs
  | '\r' :: '\n' :: cs => some cs
  | _ => none

/-- The rest of a text after blanks, comments and line ends, as they may stand in an array; whether
the text starts within a comment is told. -/
def skipSpaceFrom (inComment : Bool) : List Char → List Char
  | [] => []
  | '\n' :: cs => skipSpaceFrom false cs
  | '\r' :: '\n' :: cs => skipSpaceFrom false cs
  | c :: cs =>
    if inComment then (if isCommentChar c then skipSpaceFrom true cs else c :: cs)
    else if isLineBlank c then skipSpaceFrom false cs
    else if c == '#' then skipSpaceFrom true cs
    else c :: cs

/-- The rest of a text after blanks, comments and line ends, as they may stand in an array. -/
def skipSpace (cs : List Char) : List Char := skipSpaceFrom false cs

/-! ### Texts -/

/-- A character that may stand unescaped in a text. -/
def isTextChar (c : Char) : Bool := isCommentChar c

/-- The character of a code point given in hexadecimal digits. -/
def codePoint? (digits : List Char) : Option Char :=
  match Text.digitsValue? 16 0 digits with
  | some n => if n.isValidChar then some (Char.ofNat n) else none
  | none => none

/-- The character of a one-letter escape. -/
def shortEscape? (c : Char) : Option Char :=
  if c == '"' || c == '\\' then some c
  else if c == 'b' then some '\x08'
  else if c == 't' then some '\t'
  else if c == 'n' then some '\n'
  else if c == 'f' then some '\x0c'
  else if c == 'r' then some '\r'
  else none

/-- The rest of a text between quotes, up to its closing quote. -/
def quoted? (read : List Char) : List Char → Option (List Char × List Char)
  | [] => none
  | '"' :: rest => some (read.reverse, rest)
  | '\\' :: 'u' :: a :: b :: c :: d :: rest =>
    match codePoint? [a, b, c, d] with
    | some x => quoted? (x :: read) rest
    | none => none
  | '\\' :: 'U' :: a :: b :: c :: d :: e :: f :: g :: h :: rest =>
    match codePoint? [a, b, c, d, e, f, g, h] with
    | some x => quoted? (x :: read) rest
    | none => none
  | '\\' :: c :: rest =>
    match shortEscape? c with
    | some x => quoted? (x :: read) rest
    | none => none
  | c :: rest => if isTextChar c then quoted? (c :: read) rest else none

/-- The rest of a text between apostrophes. -/
def literal? (read : List Char) : List Char → Option (List Char × List Char)
  | [] => none
  | '\'' :: rest => some (read.reverse, rest)
  | c :: rest => if isTextChar c then literal? (c :: read) rest else none

/-- The line end that a text between three quotes or apostrophes may open with is no part of it. -/
def dropFirstFeed : List Char → List Char
  | '\n' :: cs => cs
  | '\r' :: '\n' :: cs => cs
  | cs => cs

/-- Whether nothing but blanks stands before the end of the line. -/
def endsLine (cs : List Char) : Bool :=
  match skipLineBlanks cs with
  | '\n' :: _ => true
  | '\r' :: '\n' :: _ => true
  | _ => false

/-- Closes a text at a run of its mark: three marks close it, and up to two more before them belong
to the text. -/
def closing? (q : Char) (read : List Char) (cs : List Char) : Option (List Char × List Char) :=
  let run := (cs.takeWhile (· == q)).length
  if run < 3 then none
  else
    let extra := min (run - 3) 2
    some ((List.replicate extra q ++ read).reverse, cs.drop (3 + extra))

/-- The rest of a text between three quotes. A backslash at the end of a line joins the text to what
comes next: from there on blanks and line ends are passed over, which `joining` tells. -/
def tripleQuoted? (joining : Bool) (read : List Char) : List Char → Option (List Char × List Char)
  | [] => none
  | '"' :: rest =>
    match closing? '"' read ('"' :: rest) with
    | some r => some r
    | none => tripleQuoted? false ('"' :: read) rest
  | '\n' :: rest => tripleQuoted? joining (if joining then read else '\n' :: read) rest
  | '\r' :: '\n' :: rest => tripleQuoted? joining (if joining then read else '\n' :: read) rest
  | '\\' :: 'u' :: a :: b :: c :: d :: rest =>
    match codePoint? [a, b, c, d] with
    | some x => tripleQuoted? false (x :: read) rest
    | none => none
  | '\\' :: 'U' :: a :: b :: c :: d :: e :: f :: g :: h :: rest =>
    match codePoint? [a, b, c, d, e, f, g, h] with
    | some x => tripleQuoted? false (x :: read) rest
    | none => none
  | '\\' :: c :: rest =>
    if endsLine (c :: rest) then tripleQuoted? true read (c :: rest)
    else
      match shortEscape? c with
      | some x => tripleQuoted? false (x :: read) rest
      | none => none
  | c :: rest =>
    if joining && isLineBlank c then tripleQuoted? true read rest
    else if isTextChar c then tripleQuoted? false (c :: read) rest
    else none

/-- The rest of a text between three apostrophes. -/
def tripleLiteral? (read : List Char) : List Char → Option (List Char × List Char)
  | [] => none
  | '\'' :: rest =>
    match closing? '\'' read ('\'' :: rest) with
    | some r => some r
    | none => tripleLiteral? ('\'' :: read) rest
  | '\n' :: rest => tripleLiteral? ('\n' :: read) rest
  | '\r' :: '\n' :: rest => tripleLiteral? ('\n' :: read) rest
  | c :: rest => if isTextChar c then tripleLiteral? (c :: read) rest else none

/-- A text a value starts with. -/
def text? : List Char → Option (List Char × List Char)
  | '"' :: '"' :: '"' :: cs => tripleQuoted? false [] (dropFirstFeed cs)
  | '"' :: cs => quoted? [] cs
  | '\'' :: '\'' :: '\'' :: cs => tripleLiteral? [] (dropFirstFeed cs)
  | '\'' :: cs => literal? [] cs
  | _ => none

/-! ### Keys -/

/-- A character of a bare key. -/
def isBareChar (c : Char) : Bool :=
  Text.isAsciiDigit c || Text.isAsciiLetter c || c == '_' || c == '-'

/-- One part of a key. -/
def keyPart? : List Char → Option (String × List Char)
  | '"' :: cs => (quoted? [] cs).map fun (k, r) => (String.ofList k, r)
  | '\'' :: cs => (literal? [] cs).map fun (k, r) => (String.ofList k, r)
  | cs =>
    let bare := cs.takeWhile isBareChar
    if bare.isEmpty then none else some (String.ofList bare, cs.dropWhile isBareChar)

/-- The greatest number of arrays and tables around a value, and of parts of a key. -/
def nestingLimit : Nat := 79

/-- A key of one or more parts, but no more than a number, with dots between them; blanks around
every part are dropped. -/
def keyParts? : Nat → List Char → Option (List String × List Char)
  | 0, _ => none
  | parts + 1, cs =>
    match keyPart? (skipLineBlanks cs) with
    | none => none
    | some (k, rest) =>
      match skipLineBlanks rest with
      | '.' :: r => (keyParts? parts r).map fun (ks, r) => (k :: ks, r)
      | r => some ([k], r)

/-- A key, as long as keys may be. -/
def key? (cs : List Char) : Option (List String × List Char) := keyParts? nestingLimit cs

/-! ### Values -/

mutual

/-- A value a text starts with, in at most `room` steps; `depth` counts the arrays and tables around
it. -/
def value? (room depth : Nat) (cs : List Char) : Option (Toml × List Char) :=
  match room, cs with
  | 0, _ => none
  | _, [] => none
  | room + 1, c :: rest =>
    if c == '[' then if depth < nestingLimit then items? room (depth + 1) [] rest else none
    else if c == '\x7b' then
      if depth < nestingLimit then
        match skipLineBlanks rest with
        | '\x7d' :: rest => some (.table [], rest)
        | _ => members? room (depth + 1) [] rest
      else none
    else if c == '"' || c == '\'' then
      (text? (c :: rest)).map fun (t, r) => (.str (String.ofList t), r)
    else if c == 't' then
      match rest with
      | 'r' :: 'u' :: 'e' :: r => some (.bool true, r)
      | _ => none
    else if c == 'f' then
      match rest with
      | 'a' :: 'l' :: 's' :: 'e' :: r => some (.bool false, r)
      | _ => none
    else
      match moment? (c :: rest) with
      | some r => some r
      | none => number? (c :: rest)

/-- The rest of an array, its items so far in reverse. -/
def items? (room depth : Nat) (items : List Toml) (cs : List Char) : Option (Toml × List Char) :=
  match room with
  | 0 => none
  | room + 1 =>
    match skipSpace cs with
    | ']' :: rest => some (.array items.reverse, rest)
    | start =>
      match value? room depth start with
      | none => none
      | some (v, rest) =>
        match skipSpace rest with
        | ']' :: r => some (.array (v :: items).reverse, r)
        | ',' :: r => items? room depth (v :: items) r
        | _ => none

/-- The rest of a table within a value, from a member on. -/
def members? (room depth : Nat) (entries : List (String × Entry)) (cs : List Char) :
    Option (Toml × List Char) :=
  match room with
  | 0 => none
  | room + 1 =>
    match key? cs with
    | some (path, '=' :: r) =>
      match value? room depth (skipLineBlanks r) with
      | none => none
      | some (v, rest) =>
        match Entry.assign? [] path v entries with
        | none => none
        | some entries =>
          match skipLineBlanks rest with
          | '\x7d' :: r => some (.table (Entry.toMembers entries), r)
          | ',' :: r => members? room depth entries r
          | _ => none
    | _ => none

end

/-! ### Documents -/

/-- What a line says. -/
inductive Line where
  /-- Nothing. -/
  | blank
  /-- A header of a table. -/
  | table (path : List String)
  /-- A header of an element of an array of tables. -/
  | element (path : List String)
  /-- A value for a key. -/
  | assign (path : List String) (v : Toml)

/-- The line a text starts with, up to its comment; its value is read in at most `room` steps. -/
def statement? (room : Nat) (cs : List Char) : Option (Line × List Char) :=
  match cs with
  | '[' :: '[' :: rest =>
    match key? rest with
    | some (path, ']' :: ']' :: r) => some (.element path, r)
    | _ => none
  | '[' :: rest =>
    match key? rest with
    | some (path, ']' :: r) => some (.table path, r)
    | _ => none
  | [] => some (.blank, [])
  | c :: rest =>
    if c == '#' || c == '\n' || c == '\r' then some (.blank, c :: rest)
    else
      match key? (c :: rest) with
      | some (path, '=' :: r) =>
        (value? room 0 (skipLineBlanks r)).map fun (v, r) => (.assign path v, r)
      | _ => none

/-- The lines of a text, no more than a number of them; every value is read in at most `room`
steps. -/
def documentLines? (room : Nat) : Nat → List Char → Option (List Line)
  | _, [] => some []
  | 0, _ => none
  | lines + 1, cs =>
    match statement? room (skipLineBlanks cs) with
    | none => none
    | some (line, rest) =>
      match lineEnd? (skipComment (skipLineBlanks rest)) with
      | none => none
      | some rest => (documentLines? room lines rest).map (line :: ·)

/-- A text without the byte order mark it may start with. -/
def dropMark : List Char → List Char
  | '\uFEFF' :: cs => cs
  | cs => cs

/-- A document under construction: the path of the last header, and the entries so far. -/
structure Draft where
  /-- The path of the last header. -/
  path : List String
  /-- The entries of the document. -/
  entries : List (String × Entry)

/-- Carries out one line. -/
def Draft.step? (d : Draft) (line : Line) : Option Draft :=
  match line with
  | .blank => some d
  | .table path => (Entry.openTable? path d.entries).map (⟨path, ·⟩)
  | .element path => (Entry.openElement? path d.entries).map (⟨path, ·⟩)
  | .assign key v => (Entry.assign? d.path key v d.entries).map (⟨d.path, ·⟩)

/-- Reads a document as a table. A text has no more lines than characters, and every second step of
reading a value takes a character at least. -/
def parseChars? (cs : List Char) : Option (List (String × Toml)) :=
  match documentLines? (2 * cs.length + 4) cs.length (dropMark cs) with
  | none => none
  | some ls => (ls.foldlM Draft.step? ⟨[], []⟩).map fun d => Entry.toMembers d.entries

/-- Reads a document as a table. -/
def parse? (s : String) : Option (List (String × Toml)) := parseChars? s.toList

end FirmwareSurvey.Toml
