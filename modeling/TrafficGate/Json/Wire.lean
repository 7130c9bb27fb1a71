import TrafficGate.Json.Reader
import TrafficGate.Json.Writer
import TrafficGate.Packet
import TrafficGate.Properties

/-!
# Json — Wire

The JSON forms of addresses, packets, categories and properties.  Records are written as objects with
their fields in order, a missing part as null.
-/

namespace TrafficGate

/-- The JSON form of an address. -/
def Address.toJson (a : Address) : Json :=
  Json.ofFields
    [("node", Json.ofOption Json.ofText a.node), ("domain", Json.ofText a.domain),
     ("resource", Json.ofOption Json.ofText a.resource)]

/-- The address with the JSON form. -/
def Address.ofJson? (j : Json) : Option Address := do
  match ← j.record? ["node", "domain", "resource"] with
  | [node, domain, resource] =>
    return ⟨← Json.maybe Json.text? node, ← Json.required Json.text? domain,
      ← Json.maybe Json.text? resource⟩
  | _ => none

/-- The JSON form of a packet kind. -/
def PacketKind.toJson (kind : PacketKind) : Json := Json.ofText kind.wireName

/-- The packet kind with the JSON form, which may also be an object with the kind over null. -/
def PacketKind.ofJson? : Json → Option PacketKind
  | .string (.text s) => PacketKind.ofWireName? s
  | .object [(.text s, .null)] => PacketKind.ofWireName? s
  | _ => none

/-- The JSON form of a child element. -/
def Element.toJson (e : Element) : Json :=
  Json.ofFields [("name", Json.ofText e.name), ("namespace", Json.ofText e.namespaceUri)]

/-- The child element with the JSON form. -/
def Element.ofJson? (j : Json) : Option Element := do
  match ← j.record? ["name", "namespace"] with
  | [name, namespaceUri] =>
    return ⟨← Json.required Json.text? name, ← Json.required Json.text? namespaceUri⟩
  | _ => none

/-- The JSON form of a packet. -/
def Packet.toJson (p : Packet) : Json :=
  Json.ofFields
    [("kind", p.kind.toJson), ("id", Json.ofOption Json.ofText p.id),
     ("from", Json.ofOption Address.toJson p.sender), ("to", Json.ofOption Address.toJson p.recipient),
     ("children", .array (p.children.map Element.toJson))]

/-- The packet with the JSON form. -/
def Packet.ofJson? (j : Json) : Option Packet := do
  match ← j.record? ["kind", "id", "from", "to", "children"] with
  | [kind, id, sender, recipient, children] =>
    return ⟨← Json.required PacketKind.ofJson? kind, ← Json.maybe Json.text? id,
      ← Json.maybe Address.ofJson? sender, ← Json.maybe Address.ofJson? recipient,
      ← Json.required (Json.list? Element.ofJson?) children⟩
  | _ => none

/-- The JSON form of a category. -/
def Category.toJson {C : Type} [DecidableEq C] [Category C] (c : C) : Json :=
  Json.ofText (Category.token c)

/-- The category with the JSON form. -/
def Category.ofJson? {C : Type} [DecidableEq C] [Category C] (j : Json) : Option C :=
  j.text?.bind Category.parse?

/-- The properties written as an object of texts; of two members with one key the later one counts. -/
def Properties.ofJson? : Json → Option Properties
  | .object members => do
    let entries ← members.mapM fun (key, value) =>
      match key, value with
      | .text key, .string (.text value) => some (key, value)
      | _, _ => none
    return Table.ofList entries
  | _ => none

end TrafficGate
