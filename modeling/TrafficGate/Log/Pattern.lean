/-!
# Log — Pattern

Patterns that the value of a field may be asked to match.  A pattern is used only if it can be
turned into an automaton over bytes with nothing but the tables of ASCII at hand, and if it is not
nested too deeply.

* `Pattern`: atoms, repeated, grouped, one behind the other or one instead of the other.
* `Pattern.check`: a pattern can be used.
-/

namespace TrafficGate

namespace Pattern

/-- How the characters of a pattern are read: without regard to case, as characters and not as
bytes, with blanks and comments between them. -/
structure Mode where
  ignoreCase : Bool := false
  unicode : Bool := true
  spaced : Bool := false
  deriving DecidableEq, Repr, Inhabited

/-- A character that stands for itself; it may be written as the two digits of a byte. -/
structure Literal where
  char : Char
  isByte : Bool := false
  deriving DecidableEq, Repr, Inhabited

/-- The character is one of ASCII. -/
def Literal.isAscii (l : Literal) : Bool := l.char.toNat < 0x80

/-- A set of characters: a character, a range, a named set of ASCII, one of the short names for
digits, blanks and words, a set in brackets, all of several, or what an operation makes of two. -/
inductive CharSet where
  | literal (l : Literal)
  | range (first last : Literal)
  | named (negated : Bool)
  | short (negated : Bool)
  | brackets (negated : Bool) (inner : CharSet)
  | union (members : List CharSet)
  | combined (left right : CharSet)
  deriving Repr, Inhabited

/-- What matches one character, or a place between two. -/
inductive Atom where
  | literal (l : Literal)
  | any
  | edge
  | wordEdge
  | set (s : CharSet)
  deriving Repr, Inhabited

end Pattern

/-- A pattern.  A change of the mode matches nothing, and counts for the atoms behind it. -/
inductive Pattern where
  | atom (mode : Pattern.Mode) (a : Pattern.Atom)
  | change
  | repeated (p : Pattern)
  | group (name : Option String) (p : Pattern)
  | sequence (members : List Pattern)
  | choice (members : List Pattern)
  deriving Repr, Inhabited

/-- Why a pattern cannot be used. -/
inductive PatternError where
  | unusable | unicodeWordEdge
  deriving DecidableEq, Repr, Inhabited

/-- The wording of the error. -/
def PatternError.message : PatternError → String
  | .unusable => "error building NFA"
  | .unicodeWordEdge =>
    "unsupported regex feature for DFAs: cannot build DFAs for regexes with Unicode word " ++
      "boundaries; switch to ASCII word boundaries, or heuristically enable Unicode word " ++
      "boundaries or use a different regex engine"

namespace Pattern

/-! ### Depth -/

/-- The set of several members. -/
def CharSet.ofMembers : List CharSet → CharSet
  | [member] => member
  | members => .union members

/-- The pattern of several members, one behind the other. -/
def ofMembers : List Pattern → Pattern
  | [member] => member
  | members => .sequence members

/-- The pattern of several branches, one instead of the other. -/
def ofBranches : List Pattern → Pattern
  | [branch] => branch
  | branches => .choice branches

mutual

/-- How deeply brackets, unions and operations are nested. -/
def CharSet.depth : CharSet → Nat
  | .brackets _ inner => inner.depth + 1
  | .union [] => 0
  | .union (m :: ms) => max m.depth (CharSet.depthOfAll ms) + 1
  | .combined left right => max left.depth right.depth + 1
  | _ => 0

/-- The depth of the deepest set. -/
def CharSet.depthOfAll : List CharSet → Nat
  | [] => 0
  | s :: rest => max s.depth (CharSet.depthOfAll rest)

end

/-- How deeply the sets of an atom are nested. -/
def Atom.depth : Atom → Nat
  | .set s => s.depth
  | _ => 0

mutual

/-- How deeply repetitions, groups, sequences, choices and sets are nested. -/
def depth : Pattern → Nat
  | .atom _ a => a.depth
  | .change => 0
  | .repeated p => p.depth + 1
  | .group _ p => p.depth + 1
  | .sequence [] => 0
  | .choice [] => 0
  | .sequence (p :: ps) => max p.depth (depthOfAll ps) + 1
  | .choice (p :: ps) => max p.depth (depthOfAll ps) + 1

/-- The depth of the deepest pattern. -/
def depthOfAll : List Pattern → Nat
  | [] => 0
  | p :: rest => max p.depth (depthOfAll rest)

end

/-- Patterns are nested at most so deeply. -/
def depthLimit : Nat := 250

/-! ### Atoms and names -/

mutual

/-- The atoms, each with the mode in which it is read. -/
def atoms : Pattern → List (Mode × Atom)
  | .atom mode a => [(mode, a)]
  | .change => []
  | .repeated p => p.atoms
  | .group _ p => p.atoms
  | .sequence ps => atomsOfAll ps
  | .choice ps => atomsOfAll ps

/-- The atoms of several patterns. -/
def atomsOfAll : List Pattern → List (Mode × Atom)
  | [] => []
  | p :: rest => p.atoms ++ atomsOfAll rest

end

mutual

/-- The names of groups. -/
def names : Pattern → List String
  | .atom _ _ => []
  | .change => []
  | .repeated p => p.names
  | .group name p => name.toList ++ p.names
  | .sequence ps => namesOfAll ps
  | .choice ps => namesOfAll ps

/-- The names of groups of several patterns. -/
def namesOfAll : List Pattern → List String
  | [] => []
  | p :: rest => p.names ++ namesOfAll rest

end

/-! ### Use -/

mutual

/-- The set can be used.  Among characters there is no table for the short names, nor for case;
among bytes a set holds nothing but ASCII, so that none is negated. -/
def CharSet.isUsable (mode : Mode) : CharSet → Bool
  | .literal l => if mode.unicode then !mode.ignoreCase else l.isAscii
  | .range first last =>
    if mode.unicode then !mode.ignoreCase else first.isAscii && last.isAscii
  | .named negated => if mode.unicode then !mode.ignoreCase else !negated
  | .short negated => !mode.unicode && !negated
  | .brackets negated inner => (mode.unicode || !negated) && inner.isUsable mode
  | .union members => CharSet.areUsable mode members
  | .combined left right => left.isUsable mode && right.isUsable mode

/-- Every one of the sets can be used. -/
def CharSet.areUsable (mode : Mode) : List CharSet → Bool
  | [] => true
  | s :: rest => s.isUsable mode && CharSet.areUsable mode rest

end

/-- The atom can be used: it matches whole characters, and asks for no table. -/
def Atom.isUsable (mode : Mode) : Atom → Bool
  | .literal l => if mode.unicode then !mode.ignoreCase else !l.isByte || l.isAscii
  | .any => mode.unicode
  | .edge | .wordEdge => true
  | .set s => s.isUsable mode

/-- The atom asks for a table of the letters of all scripts at every place. -/
def Atom.isUnicodeWordEdge (mode : Mode) : Atom → Bool
  | .wordEdge => mode.unicode
  | _ => false

/-- A pattern is usable when it is not nested too deeply, no two groups share a name, and every
atom can be used. -/
def isUsable (p : Pattern) : Bool :=
  p.depth ≤ depthLimit && p.names.Nodup && p.atoms.all fun (mode, a) => a.isUsable mode

/-- Whether a pattern can be used, and if not, why. -/
def check (p : Pattern) : Except PatternError Unit :=
  if !p.isUsable then .error .unusable
  else if p.atoms.any fun (mode, a) => a.isUnicodeWordEdge mode then .error .unicodeWordEdge
  else .ok ()

end Pattern

end TrafficGate
