import TrafficGate.Text.Inspect
import TrafficGate.Text.Pieces

/-!
# Address

Addresses of users, rooms and servers: `node@domain/resource`, where the node and the resource may
be missing.  `Address.parse` reads one, `Address.render` writes one.
-/

namespace TrafficGate

/-- An address.  Nothing is checked: an address that was not read from a text may have empty parts. -/
structure Address where
  node : Option String := none
  domain : String
  resource : Option String := none
  deriving DecidableEq, Repr, Inhabited

/-- Why a text is not an address. -/
inductive AddressError where
  | empty
  | missingDomain (text : String)
  deriving DecidableEq, Repr, Inhabited

/-- The wording of the error. -/
def AddressError.message : AddressError → String
  | .empty => "Address is empty"
  | .missingDomain text => "Address has no domain: '" ++ text ++ "'"

namespace Address

/-- An empty part counts as missing. -/
def nonempty (part : String) : Option String := if part = "" then none else some part

/-- Reads an address.  Blank characters around it are dropped; the resource starts after the first
slash, and the node ends at the first at-sign before that. -/
def parse (s : String) : Except AddressError Address :=
  let text := Text.trim s
  if text = "" then .error .empty
  else
    let (bare, resource) := match Text.cutFirst '/' text with
      | some (bare, resource) => (bare, nonempty resource)
      | none => (text, none)
    let (node, domain) := match Text.cutFirst '@' bare with
      | some (node, domain) => (nonempty node, domain)
      | none => (none, bare)
    if domain = "" then .error (.missingDomain text) else .ok ⟨node, domain, resource⟩

/-- Writes an address. -/
def render (a : Address) : String :=
  (a.node.elim "" (· ++ "@")) ++ a.domain ++ a.resource.elim "" ("/" ++ ·)

/-- The address without its resource. -/
def bare (a : Address) : Address := { a with resource := none }

/-- The address lies in the domain, where ASCII capitals and small letters are the same. -/
def isIn (a : Address) (domain : String) : Bool := Text.sameIgnoringCase a.domain domain

/-- The inspection form of an address. -/
def inspect (a : Address) : String :=
  Text.Inspect.record "Jid"
    [("node", Text.Inspect.option (a.node.map Text.Inspect.text)),
     ("domain", Text.Inspect.text a.domain),
     ("resource", Text.Inspect.option (a.resource.map Text.Inspect.text))]

end Address

end TrafficGate
