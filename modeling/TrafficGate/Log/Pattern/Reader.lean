import TrafficGate.Log.Pattern
import TrafficGate.Text.Alphanumeric
import TrafficGate.Text.Blank
import TrafficGate.Text.Digits

/-!
# Log — Pattern — Reader

Reads patterns.  The pattern of a field's value holds no closing brace, so that nothing that needs
one is ever complete: no repetition with a count, no code point or property in braces.

* `Pattern.parse`: the pattern of a text, if it can be used.
-/

namespace TrafficGate.Pattern

/-- Reads something at the front of a text, and says what is left. -/
abbrev Reader (α : Type) := List Char → Option (α × List Char)

/-! ### Modes -/

/-- What the letters of a change say about a mode: those behind a minus sign switch it off. -/
def Mode.stated (letters : List Char) (letter : Char) : Option Bool :=
  if letters.contains letter then some ((letters.takeWhile (· ≠ '-')).contains letter) else none

/-- The mode after a change. -/
def Mode.changed (mode : Mode) (letters : List Char) : Mode where
  ignoreCase := (stated letters 'i').getD mode.ignoreCase
  unicode := (stated letters 'u').getD mode.unicode
  spaced := (stated letters 'x').getD mode.spaced

/-- The letters make up a change: none of them twice, and the minus sign not last. -/
def Mode.isChange (letters : List Char) : Bool :=
  letters.all "imsUuRx-".toList.contains && letters.Nodup && letters.getLast? ≠ some '-'

/-- The rest after blanks, and after comments up to the ends of their lines. -/
def skipFiller (commenting : Bool) : List Char → List Char
  | [] => []
  | c :: rest =>
    if commenting then skipFiller (c ≠ '\n') rest
    else if Text.isBlank c then skipFiller false rest
    else if c = '#' then skipFiller true rest
    else c :: rest

/-- The rest after what stands between the characters that count. -/
def Mode.skip (mode : Mode) (cs : List Char) : List Char :=
  if mode.spaced then skipFiller false cs else cs

/-- The character ahead.  The text of a comment is not passed over here. -/
def Mode.ahead (mode : Mode) (cs : List Char) : Option Char :=
  if mode.spaced then
    match cs.dropWhile Text.isBlank with
    | '#' :: rest => (rest.dropWhile Text.isBlank).head?
    | rest => rest.head?
  else cs.head?

/-! ### Escapes -/

/-- Digits in base sixteen, so many. -/
def readDigits (mode : Mode) : Nat → Reader (List Char)
  | 0, cs => some ([], cs)
  | n + 1, cs =>
    match mode.skip cs with
    | d :: rest =>
      if Text.isDigitOf 16 d then
        (readDigits mode n rest).map fun (digits, rest) => (d :: digits, rest)
      else none
    | [] => none

/-- A character by its code point, which has so many digits. -/
def readCodePoint (mode : Mode) (digits : Nat) : Reader Char := fun cs => do
  let (digits, rest) ← readDigits mode digits cs
  return (← Text.codePoint? digits, rest)

/-- The control character of an escape. -/
def control? : Char → Option Char
  | 'a' => some '\x07'
  | 'f' => some '\x0c'
  | 't' => some '\t'
  | 'n' => some '\n'
  | 'r' => some '\r'
  | 'v' => some '\x0b'
  | _ => none

/-- An escape, from behind the backslash. -/
def readEscape (mode : Mode) : Reader Atom
  | [] => none
  | 'x' :: rest =>
    (readCodePoint mode 2 rest).map fun (c, rest) => (.literal { char := c, isByte := true }, rest)
  | 'u' :: rest => (readCodePoint mode 4 rest).map fun (c, rest) => (.literal { char := c }, rest)
  | 'U' :: rest => (readCodePoint mode 8 rest).map fun (c, rest) => (.literal { char := c }, rest)
  | c :: rest =>
    if ['d', 's', 'w'].contains c then some (.set (.short false), rest)
    else if ['D', 'S', 'W'].contains c then some (.set (.short true), rest)
    else if ['A', 'z'].contains c then some (.edge, rest)
    else if ['b', 'B', '<', '>'].contains c then some (.wordEdge, rest)
    else match control? c with
      | some c => some (.literal { char := c }, rest)
      | none =>
        if c.toNat < 0x80 && !c.isAlphanum then some (.literal { char := c }, rest) else none

/-! ### Sets -/

/-- The named sets of ASCII. -/
def setNames : List String :=
  ["alnum", "alpha", "ascii", "blank", "cntrl", "digit", "graph", "lower", "print", "punct",
   "space", "upper", "word", "xdigit"]

/-- A named set, from behind its opening bracket, and whether it is negated. -/
def readNamedSet : Reader Bool
  | ':' :: cs =>
    let (negated, cs) := match cs with
      | '^' :: rest => (true, rest)
      | cs => (false, cs)
    match cs.span (· ≠ ':') with
    | (name, ':' :: ']' :: rest) =>
      if setNames.contains (String.ofList name) then some (negated, rest) else none
    | _ => none
  | _ => none

/-- A character of a set, or a short name. -/
def readItem (mode : Mode) : Reader Atom
  | [] => none
  | '\\' :: rest => readEscape mode rest
  | c :: rest => some (.literal { char := c }, rest)

/-- A character, a range or a short name. -/
def readMember (mode : Mode) : Reader CharSet := fun cs => do
  let (first, rest) ← readItem mode cs
  let single := match first with
    | .literal l => some (CharSet.literal l, rest)
    | .set s => some (s, rest)
    | _ => none
  match mode.skip rest with
  | '-' :: behind =>
    if mode.ahead behind = some ']' ∨ mode.ahead behind = some '-' then single
    else
      let (last, rest) ← readItem mode (mode.skip behind)
      match first, last with
      | .literal a, .literal b => if a.char ≤ b.char then some (.range a b, rest) else none
      | _, _ => none
  | _ => single

/-- The set of what stands in front of an operator, if there is one, and of the members behind it,
the last first. -/
def closed (left : Option CharSet) (members : List CharSet) : CharSet :=
  let right := CharSet.ofMembers members.reverse
  left.elim right (.combined · right)

/-- What stands between two brackets, up to the closing one.  At the start minus signs stand for
themselves, and so does a closing bracket without anything before it.  The number bounds the count
of members. -/
def readInside :
    Nat → Mode → (atStart : Bool) → Option CharSet → List CharSet → Reader CharSet
  | 0, _, _, _, _, _ => none
  | n + 1, mode, atStart, left, members, cs =>
    let itself (c : Char) : List CharSet := .literal { char := c } :: members
    match mode.skip cs, atStart && members.isEmpty with
    | [], _ => none
    | ']' :: rest, true => readInside n mode false left (itself ']') rest
    | ']' :: rest, false => some (closed left members, rest)
    | '-' :: '-' :: rest, _ =>
      if atStart then readInside n mode true left (itself '-') ('-' :: rest)
      else readInside n mode false (some (closed left members)) [] rest
    | '&' :: '&' :: rest, _ | '~' :: '~' :: rest, _ =>
      readInside n mode false (some (closed left members)) [] rest
    | '[' :: rest, _ =>
      match readNamedSet rest with
      | some (negated, rest) => readInside n mode false left (.named negated :: members) rest
      | none => do
        let (negated, rest) := match mode.skip rest with
          | '^' :: rest => (true, rest)
          | rest => (false, rest)
        let (inner, rest) ← readInside n mode true none [] rest
        readInside n mode false left (.brackets negated inner :: members) rest
    | '-' :: rest, _ =>
      if atStart then readInside n mode true left (itself '-') rest
      else do
        let (member, rest) ← readMember mode ('-' :: rest)
        readInside n mode false left (member :: members) rest
    | cs, _ => do
      let (member, rest) ← readMember mode cs
      readInside n mode false left (member :: members) rest

/-- A set in brackets, from behind the opening one. -/
def readSet (mode : Mode) : Reader CharSet := fun cs => do
  let (negated, cs) := match mode.skip cs with
    | '^' :: rest => (true, rest)
    | rest => (false, rest)
  let (inner, rest) ← readInside (cs.length + 1) mode true none [] cs
  return (.brackets negated inner, rest)

/-! ### Groups -/

/-- What a parenthesis opens: a change of the mode for what follows, or a group. -/
inductive Opening where
  | change (mode : Mode)
  | group (name : Option String) (mode : Mode)
  deriving DecidableEq, Repr, Inhabited

/-- The characters are the name of a group. -/
def isName : List Char → Bool
  | [] => false
  | c :: rest =>
    (c = '_' || Text.isAlphabetic c) &&
      rest.all fun c => ['_', '.', '[', ']'].contains c || Text.isAlphanumeric c

/-- A group with a name, from the name on. -/
def readNamed (mode : Mode) : Reader Opening := fun cs =>
  match cs.span (· ≠ '>') with
  | (name, '>' :: rest) =>
    if isName name then some (.group (some (String.ofList name)) mode, rest) else none
  | _ => none

/-- A change of the mode, or a group with a mode of its own, from behind the question mark. -/
def readChange (mode : Mode) : Reader Opening := fun cs =>
  match cs.span fun c => c ≠ ':' ∧ c ≠ ')' with
  | (letters, close :: rest) =>
    if !Mode.isChange letters then none
    else if close = ':' then some (.group none (mode.changed letters), rest)
    else if letters.isEmpty then none
    else some (.change (mode.changed letters), rest)
  | _ => none

/-- What a parenthesis opens, from behind it. -/
def readOpening (mode : Mode) : Reader Opening := fun cs =>
  match mode.skip cs with
  | '?' :: 'P' :: '<' :: rest => readNamed mode rest
  | '?' :: '<' :: rest => readNamed mode rest
  | '?' :: rest => readChange mode rest
  | cs => some (.group none mode, cs)

/-! ### Patterns -/

/-- An atom. -/
def readAtom (mode : Mode) : Reader Atom
  | [] => none
  | '\\' :: rest => readEscape mode rest
  | '[' :: rest => (readSet mode rest).map fun (s, rest) => (.set s, rest)
  | '.' :: rest => some (.any, rest)
  | '^' :: rest | '$' :: rest => some (.edge, rest)
  | '\x7b' :: _ => none
  | c :: rest => some (.literal { char := c }, rest)

/-- The members with the last one repeated.  They stand in reverse order. -/
def repeatLast : List Pattern → Option (List Pattern)
  | [] | .change :: _ => none
  | p :: before => some (.repeated p :: before)

/-- The branches with one of the members.  Branches and members stand in reverse order. -/
def ended (branches members : List Pattern) : List Pattern := ofMembers members.reverse :: branches

/-- A pattern, up to the end or to a closing parenthesis.  The branches and the members of the last
branch stand in reverse order; a mode that is changed in one branch stays so in the next ones.  The
number bounds the count of members. -/
def readChoice : Nat → Mode → List Pattern → List Pattern → Reader Pattern
  | 0, _, _, _, _ => none
  | n + 1, mode, branches, members, cs =>
    match mode.skip cs with
    | [] => some (ofBranches (ended branches members).reverse, [])
    | ')' :: rest => some (ofBranches (ended branches members).reverse, ')' :: rest)
    | '|' :: rest => readChoice n mode (ended branches members) [] rest
    | '(' :: rest => do
      match ← readOpening mode rest with
      | (.change mode, rest) => readChoice n mode branches (.change :: members) rest
      | (.group name inside, rest) =>
        match ← readChoice n inside [] [] rest with
        | (p, ')' :: rest) => readChoice n mode branches (.group name p :: members) rest
        | _ => none
    | c :: rest =>
      if ['?', '*', '+'].contains c then do
        let members ← repeatLast members
        let rest := match rest with
          | '?' :: rest => rest
          | rest => rest
        readChoice n mode branches members rest
      else do
        let (a, rest) ← readAtom mode (c :: rest)
        readChoice n mode branches (.atom mode a :: members) rest

/-- The pattern of a text, if it can be used. -/
def parse (s : String) : Except PatternError Pattern := do
  match readChoice (s.length + 1) {} [] [] s.toList with
  | some (p, []) =>
    p.check
    return p
  | _ => throw .unusable

end TrafficGate.Pattern
