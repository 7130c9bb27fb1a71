/-!
# Chain

Ordered lists of components.  In an interceptor chain a component stands once: adding it again moves
it.  In an audience it may stand several times.

* `Chain.append`, `Chain.insert?`, `Chain.remove?`: interceptor chains.
* `Audience.add`, `Audience.remove`: audiences.
-/

namespace TrafficGate

/-- A place behind the end of a chain. -/
structure ChainError where
  index : Nat
  length : Nat
  deriving DecidableEq, Repr, Inhabited

/-- The wording of the error. -/
def ChainError.message (e : ChainError) : String :=
  "Index " ++ toString e.index ++ " invalid for a chain of " ++ toString e.length ++
    " interceptor(s)"

namespace Chain

variable {H : Type} [DecidableEq H]

/-- The members with `item` at the end, and nowhere else. -/
def append (members : List H) (item : H) : List H := members.filter (· ≠ item) ++ [item]

/-- The members with `item` at a place from `0` to the length.  If `item` stood before that place it
leaves its old one, and the place moves down by one. -/
def insert? (members : List H) (index : Nat) (item : H) : Except ChainError (List H) :=
  if members.length < index then .error ⟨index, members.length⟩
  else
    match members.findIdx? (· = item) with
    | none => .ok (members.insertIdx index item)
    | some old =>
      let place := if old < index then index - 1 else index
      .ok ((members.eraseIdx old).insertIdx place item)

/-- The members without the first `item`, if there is one. -/
def remove? (members : List H) (item : H) : Option (List H) :=
  (members.findIdx? (· = item)).map members.eraseIdx

end Chain

namespace Audience

variable {H : Type} [DecidableEq H]

/-- The members with `item` at the end once more. -/
def add (members : List H) (item : H) : List H := members ++ [item]

/-- The members without the first `item`, and whether there was one. -/
def remove (members : List H) (item : H) : Bool × List H :=
  match members.findIdx? (· = item) with
  | none => (false, members)
  | some place => (true, members.eraseIdx place)

end Audience

end TrafficGate
