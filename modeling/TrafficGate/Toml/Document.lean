import TrafficGate.Toml.Scalar

/-!
# Toml — Document

Reads TOML documents: first the statements of the text, one a line, then the tables that they build
up, one statement after the other.

* `Toml.Statement`: a key with a value, a header, or a repeated header.
* `Toml.statements?`: the statements of a text.
* `Toml.parse`: the tables of a text, if it is a document.
-/

namespace TrafficGate.Toml

/-- Keys have fewer parts than this, and arrays and tables in braces are nested less deeply. -/
def depthLimit : Nat := 80

/-! ### Keys and values -/

/-- The character may stand in a key without quotes. -/
def isBare (c : Char) : Bool := c.isAlphanum || c = '_' || c = '-'

/-- One part of a key. -/
def readPart : Reader String
  | '"' :: rest => (readText rest).map fun (cs, rest) => (String.ofList cs, rest)
  | '\'' :: rest => (readLiteral rest).map fun (cs, rest) => (String.ofList cs, rest)
  | cs =>
    match cs.takeWhile isBare with
    | [] => none
    | bare => some (String.ofList bare, cs.dropWhile isBare)

/-- A dotted key of at most so many parts, and the spaces and tabs around it. -/
def readKey : Nat → Reader (List String)
  | 0, _ => none
  | room + 1, cs => do
    let (part, rest) ← readPart (skipGap cs)
    match skipGap rest with
    | '.' :: rest => (readKey room rest).map fun (parts, rest) => (part :: parts, rest)
    | rest => some ([part], rest)

/-- A dotted key. -/
def readPath : Reader (List String) := readKey (depthLimit - 1)

/-- The rest after blanks, line feeds and comments between the items of an array.  Where a comment
holds a control character, that one is left. -/
def skipFiller (commenting : Bool) : List Char → List Char
  | [] => []
  | c :: rest =>
    if c = '\n' then skipFiller false rest
    else if commenting then if isPlain c then skipFiller true rest else c :: rest
    else if isGap c then skipFiller false rest
    else if c = '#' then skipFiller true rest
    else c :: rest

/-- The items of an array up to its closing bracket.  A comma may follow the last one.  The number
bounds how many there are. -/
def readItems (item : Reader Toml) : Nat → Reader (List Toml)
  | 0, _ => none
  | n + 1, cs =>
    match skipFiller false cs with
    | ']' :: rest => some ([], rest)
    | cs => do
      let (value, rest) ← item cs
      match skipFiller false rest with
      | ',' :: rest => (readItems item n rest).map fun (items, rest) => (value :: items, rest)
      | ']' :: rest => some ([value], rest)
      | _ => none

/-- A key and the value behind the equals sign. -/
def readPair (value : Reader Toml) (cs : List Char) : Option ((List String × Toml) × List Char) := do
  let (path, rest) ← readPath cs
  let (v, rest) ← value (skipGap (← after '=' rest))
  return ((path, v), rest)

/-- The entries of a table in braces up to its closing brace, on top of those read so far.  No comma
follows the last one.  The number bounds how many there are. -/
def readEntries (value : Reader Toml) : Nat → Entries → Reader Entries
  | 0, _, _ => none
  | n + 1, entries, cs => do
    let ((path, v), rest) ← readPair value cs
    let entries ← insert path v entries
    match skipGap rest with
    | ',' :: rest => readEntries value n entries rest
    | '\x7d' :: rest => some (entries, rest)
    | _ => none

/-- A table in braces, from behind the opening one. -/
def readBraces (value : Reader Toml) (cs : List Char) : Option (Entries × List Char) :=
  match skipGap cs with
  | '\x7d' :: rest => some ([], rest)
  | rest => readEntries value rest.length [] rest

/-- A value with at most so many arrays and tables in braces inside one another. -/
def readValue : Nat → Reader Toml
  | room + 1, '[' :: rest =>
    (readItems (readValue room) rest.length rest).map fun (items, rest) => (.array items, rest)
  | room + 1, '\x7b' :: rest =>
    (readBraces (readValue room) rest).map fun (entries, rest) => (.table .braces entries, rest)
  | _, cs => readScalar cs

/-! ### Statements -/

/-- What one line of a document says. -/
inductive Statement where
  | pair (path : List String) (value : Toml)
  | header (path : List String)
  | another (path : List String)
  deriving Repr, Inhabited

/-- The rest after the end of a line, where a comment may stand. -/
def endLine (cs : List Char) : Option (List Char) :=
  let rest := match skipGap cs with
    | '#' :: rest => rest.dropWhile isPlain
    | rest => rest
  match rest with
  | [] => some []
  | '\n' :: rest => some rest
  | _ => none

/-- A statement, without the end of its line. -/
def readStatement : Reader Statement
  | '[' :: '[' :: rest => do
    let (path, rest) ← readPath rest
    return (.another path, ← after ']' (← after ']' rest))
  | '[' :: rest => do
    let (path, rest) ← readPath rest
    return (.header path, ← after ']' rest)
  | cs => (readPair (readValue (depthLimit - 1)) cs).map fun ((path, value), rest) =>
    (.pair path value, rest)

/-- The statements of a text.  The number bounds how many lines there are. -/
def readStatements : Nat → List Char → Option (List Statement)
  | 0, _ => none
  | n + 1, cs =>
    match skipGap cs with
    | [] => some []
    | '#' :: rest => do readStatements n (← endLine ('#' :: rest))
    | '\n' :: rest => readStatements n rest
    | cs => do
      let (statement, rest) ← readStatement cs
      return statement :: (← readStatements n (← endLine rest))

/-- The text with a line feed for each carriage return that a line feed follows. -/
def unifyLineEnds : List Char → List Char
  | '\r' :: '\n' :: rest => '\n' :: unifyLineEnds rest
  | c :: rest => c :: unifyLineEnds rest
  | [] => []

/-- The text without the byte order mark in front, if there is one. -/
def skipMark : List Char → List Char
  | '\uFEFF' :: rest => rest
  | cs => cs

/-- The statements of a text. -/
def statements? (s : String) : Option (List Statement) :=
  let cs := unifyLineEnds (skipMark s.toList)
  readStatements (cs.length + 1) cs

/-! ### Tables -/

/-- A document as far as it has been read: the tables, and the header that the last line stands
under. -/
structure Draft where
  header : List String := []
  entries : Entries := []
  deriving Repr, Inhabited

/-- The document with one more statement. -/
def Draft.add (draft : Draft) : Statement → Option Draft
  | .pair path value =>
    (within draft.header (insert path value) draft.entries).map fun entries =>
      { draft with entries }
  | .header path => do
    let entries ← within path.dropLast (openTable (← path.getLast?)) draft.entries
    return ⟨path, entries⟩
  | .another path => do
    let entries ← within path.dropLast (openAnother (← path.getLast?)) draft.entries
    return ⟨path, entries⟩

/-- The tables of a text, if it is a TOML document. -/
def parse (s : String) : Option Entries := do
  let draft ← (← statements? s).foldlM Draft.add {}
  return draft.entries

end TrafficGate.Toml
