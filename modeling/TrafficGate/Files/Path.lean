import TrafficGate.Text.Pieces

/-!
# Files — Path

Paths as texts.  A path is a row of pieces with slashes between them.  Empty pieces and single dots
say nothing behind the first piece, which stands for the root when it is empty; the paths above a
path keep its spelling, but never end in such a piece.

* `Path.names`: what is walked through.
* `Path.parent?`, `Path.name?`, `Path.child`, `Path.withName`: a path and its last name.
* `Path.ascent`: a path and the paths above it.
* `Path.agrees`: two spellings of one path.
-/

namespace TrafficGate.Path

/-- The names between slashes that are not empty. -/
def names (path : String) : List String := (Text.pieces '/' path).filter (· ≠ "")

/-- The path starts at the root of the file system. -/
def isAbsolute (path : String) : Bool := path.toList.head? = some '/'

/-- The path ends with a slash. -/
def endsWithSlash (path : String) : Bool := path.toList.getLast? = some '/'

/-- A piece behind the first one that says nothing. -/
def isSilent (piece : String) : Bool := piece = "" || piece = "."

/-- The pieces up to the last one that says something. -/
def trimmed (pieces : List String) : List String := (pieces.reverse.dropWhile isSilent).reverse

/-- The first piece, and the ones behind it up to the last that says something. -/
def split (path : String) : String × List String :=
  match Text.pieces '/' path with
  | [] => ("", [])
  | first :: rest => (first, trimmed rest)

/-- The two texts are the same path, spelled with other pieces that say nothing. -/
def agrees (path other : String) : Bool :=
  let parts (path : String) : List String :=
    match Text.pieces '/' path with
    | [] => []
    | first :: rest => first :: rest.filter fun piece => !isSilent piece
  isAbsolute path = isAbsolute other && parts path = parts other

/-- The path of the pieces. -/
def join (first : String) (rest : List String) : String :=
  if first = "" && rest.isEmpty then "/" else "/".intercalate (first :: rest)

/-- The path without its last name.  The empty path and the root have none. -/
def parent? (path : String) : Option String :=
  if path = "" then none
  else match split path with
    | (first, []) => if first = "" then none else some ""
    | (first, rest) => some (join first (trimmed rest.dropLast))

/-- The last name of a path, if it is a proper name. -/
def name? (path : String) : Option String :=
  let (first, rest) := split path
  let name := rest.getLast?.getD first
  if isSilent name || name = ".." then none else some name

/-- The path of a name in a directory. -/
def child (directory name : String) : String :=
  if directory = "" || endsWithSlash directory then directory ++ name else directory ++ "/" ++ name

/-- The path with another last name; a path without a proper one gets it as a further name. -/
def withName (path name : String) : String :=
  child (if (name? path).isSome then (parent? path).getD "" else path) name

/-- The path and the paths above it, upwards: to the root, or to the empty path. -/
def ascent (path : String) : List String :=
  let (first, rest) := split path
  let above := (List.range rest.length).reverse.map rest.take
  let kept := above.filter fun pieces => pieces.getLast?.all fun piece => !isSilent piece
  path :: (kept.map (join first) ++ if first = "" then [] else [""])

end TrafficGate.Path
