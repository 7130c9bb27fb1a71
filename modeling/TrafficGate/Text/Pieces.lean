import TrafficGate.Text.Blank

/-!
# Text — Pieces

Texts cut at a separating character, and put together again.  `pieces` cuts at every occurrence,
`cutFirst` at the first one only, `joined` puts the separator between neighbours.  `tokens` are the
trimmed pieces of a list with commas.
-/

namespace TrafficGate.Text

/-- The pieces between the occurrences of `separator`; one more than there are occurrences. -/
def pieces (separator : Char) (s : String) : List String :=
  (s.toList.splitOn separator).map String.ofList

/-- What stands before and after the first `separator`, if there is one. -/
def cutFirst (separator : Char) (s : String) : Option (String × String) :=
  match s.toList.span (· ≠ separator) with
  | (_, []) => none
  | (before, _ :: after) => some (String.ofList before, String.ofList after)

/-- The pieces between commas that are read: trimmed, and not empty. -/
def tokens (s : String) : List String := ((pieces ',' s).map trim).filter (· ≠ "")

/-- The texts with `separator` between neighbours. -/
def joined (separator : String) (texts : List String) : String := separator.intercalate texts

/-- `s` without `stem` at its front, if it starts with it. -/
def afterStem (stem s : String) : Option String :=
  if stem.toList.isPrefixOf s.toList then some (String.ofList (s.toList.drop stem.length))
  else none

/-- The two texts agree when ASCII capitals are read as small letters. -/
def sameIgnoringCase (s t : String) : Bool :=
  s.toList.map Char.toLower == t.toList.map Char.toLower

/-- ASCII capitals become small letters; no other character changes. -/
def lowered (s : String) : String := String.ofList (s.toList.map Char.toLower)

end TrafficGate.Text
