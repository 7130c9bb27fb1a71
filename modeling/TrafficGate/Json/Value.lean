/-!
# Json — Value

JSON values as they are written: numbers keep their digits, objects their order and their repetitions.
-/

namespace TrafficGate

/-- What a string literal spells: a text, or no text because a surrogate escape stands without its
partner. -/
inductive Literal where
  | text (s : String)
  | unpaired
  deriving DecidableEq, Repr, Inhabited

/-- A JSON value. -/
inductive Json where
  | null
  | bool (b : Bool)
  | number (digits : String)
  | string (literal : Literal)
  | array (items : List Json)
  | object (members : List (Literal × Json))
  deriving Repr, Inhabited

namespace Json

/-- The value is a text. -/
def text? : Json → Option String
  | .string (.text s) => some s
  | _ => none

/-- The value is null, or can be read. -/
def optional {α : Type} (read : Json → Option α) : Json → Option (Option α)
  | .null => some none
  | j => (read j).map some

/-- The value of a record, field by field, where a field may be missing.  A record is an object, in
which other members are passed over and none of the fields stands twice, or an array of exactly the
fields in their order. -/
def record? (fields : List String) : Json → Option (List (Option Json))
  | .object members =>
    if members.any (·.1 = .unpaired) then none
    else fields.mapM fun field =>
      match members.filter (·.1 = .text field) with
      | [] => some none
      | [(_, value)] => some (some value)
      | _ => none
  | .array items => if items.length = fields.length then some (items.map some) else none
  | _ => none

/-- A field that has to be there. -/
def required {α : Type} (read : Json → Option α) (field : Option Json) : Option α := field.bind read

/-- A field that may be missing or null. -/
def maybe {α : Type} (read : Json → Option α) : Option Json → Option (Option α)
  | none => some none
  | some j => optional read j

/-- The value is an array whose items can all be read. -/
def list? {α : Type} (read : Json → Option α) : Json → Option (List α)
  | .array items => items.mapM read
  | _ => none

end Json

end TrafficGate
