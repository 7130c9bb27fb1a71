import TrafficGate.Json.Wire
import TrafficGate.Proofs.Json.Record
import TrafficGate.Proofs.Json.Text

/-!
# Packet — Texts

A packet is written as a compact JSON text and read back from it, whatever its texts hold and even if
its addresses have empty parts (`survives_its_text`).

* `ofJson?_toJson`: every record is read back from its JSON form, field by field.
* `textual_toJson`: the JSON forms hold no numbers, so their texts are read back as well.
-/

namespace TrafficGate

open Json

/-! ### Records -/

theorem maybe_ofText (s : Option String) : maybe text? (some (ofOption ofText s)) = some s := by
  have hread (s : String) : text? (ofText s) = some s := rfl
  have hnull (s : String) : ofText s ≠ .null := Json.noConfusion
  exact maybe_ofOption hread hnull s

theorem PacketKind.ofJson?_toJson (kind : PacketKind) : ofJson? kind.toJson = some kind := by
  cases kind <;> decide

theorem Address.ofJson?_toJson (a : Address) : ofJson? a.toJson = some a := by
  rw [ofJson?, toJson, record?_ofFields ["node", "domain", "resource"] rfl (by decide)]
  simp only [List.map_cons, List.map_nil, Option.bind_eq_bind, Option.bind_some, maybe_ofText]
  rfl

theorem Element.ofJson?_toJson (e : Element) : ofJson? e.toJson = some e := by
  rw [ofJson?, toJson, record?_ofFields ["name", "namespace"] rfl (by decide)]
  rfl

theorem Packet.ofJson?_toJson (p : Packet) : ofJson? p.toJson = some p := by
  have hnull (a : Address) : a.toJson ≠ .null := Json.noConfusion
  have haddress (a : Option Address) :
      maybe Address.ofJson? (some (ofOption Address.toJson a)) = some a :=
    maybe_ofOption Address.ofJson?_toJson hnull a
  have hchildren : list? Element.ofJson? (.array (p.children.map Element.toJson)) = some p.children :=
    list?_map Element.ofJson?_toJson p.children
  rw [ofJson?, toJson, record?_ofFields ["kind", "id", "from", "to", "children"] rfl (by decide)]
  simp only [List.map_cons, List.map_nil, Option.bind_eq_bind, Option.bind_some, required,
    PacketKind.ofJson?_toJson, maybe_ofText, haddress, hchildren]
  rfl

/-! ### Texts -/

theorem Address.textual_toJson (a : Address) : Textual a.toJson := by
  refine .ofFields fun field hfield => ?_
  simp only [List.mem_cons, List.not_mem_nil, or_false] at hfield
  obtain rfl | rfl | rfl := hfield
  · exact .ofOption .text a.node
  · exact .text a.domain
  · exact .ofOption .text a.resource

theorem Element.textual_toJson (e : Element) : Textual e.toJson := by
  refine .ofFields fun field hfield => ?_
  simp only [List.mem_cons, List.not_mem_nil, or_false] at hfield
  obtain rfl | rfl := hfield
  · exact .text e.name
  · exact .text e.namespaceUri

namespace Packet

theorem textual_toJson (p : Packet) : Textual p.toJson := by
  refine .ofFields fun field hfield => ?_
  simp only [List.mem_cons, List.not_mem_nil, or_false] at hfield
  obtain rfl | rfl | rfl | rfl | rfl := hfield
  · exact .text p.kind.wireName
  · exact .ofOption .text p.id
  · exact .ofOption Address.textual_toJson p.sender
  · exact .ofOption Address.textual_toJson p.recipient
  · exact .map Element.textual_toJson p.children

/-- The compact text of a packet. -/
def text (p : Packet) : String := p.toJson.render

/-- The packet that a text is read as. -/
def ofText? (s : String) : Option Packet := (Json.parse s).bind ofJson?

theorem ofText?_text (p : Packet) : ofText? p.text = some p := by
  rw [ofText?, text, parse_render p.textual_toJson, Option.bind_some, ofJson?_toJson]

/-- **Packets survive their texts.**  Every packet is read back from its text, so distinct packets have
distinct texts; and what any text is read as, in whatever form it gives the packet, is read again from
the text that is written for it. -/
theorem survives_its_text :
    (∀ p : Packet, ofText? p.text = some p) ∧ (∀ p q : Packet, p ≠ q → p.text ≠ q.text) ∧
      ∀ s p, ofText? s = some p → ofText? p.text = some p := by
  refine ⟨ofText?_text, fun p q hne htext => hne ?_, fun s p _ => ofText?_text p⟩
  have hread : some p = some q := by rw [← ofText?_text p, htext, ofText?_text q]
  exact Option.some.inj hread

/-- A packet with a quote, a backslash, control characters and an address whose parts are empty. -/
def awkward : Packet :=
  { kind := .iq, id := some "\"\\\u0001", sender := some ⟨some "", "", none⟩,
    children := [⟨"x\n", "urn:é/😀"⟩] }

/-- Unusual texts of this packet: an object with a further field in front, the others in another order
and some of them missing, and an array. -/
def awkwardTexts : List String :=
  ["\n\x7b \"extra\": [-1.5e3, \x7b\"deep\": \"\\ud800\"\x7d], \"children\": [[\"x\\u000a\", " ++
     "\"urn:\\u00E9\\/\\ud83d\\ude00\"]],\t\"kind\": \x7b\"Iq\": null\x7d, \"id\": \"\\u0022\\\\\\u0001\"," ++
     "\"from\": \x7b\"domain\": \"\", \"node\": \"\"\x7d\x7d\r\n",
   "[\"Iq\", \"\\\"\\u005c\\u0001\", [\"\", \"\", null], null, [[\"x\\n\", \"urn:é/😀\"]]]"]

theorem awkward_survives :
    (∀ s ∈ awkwardTexts, ofText? s = some awkward ∧ ofText? awkward.text = some awkward) ∧
      awkward.text ≠ Packet.text { awkward with id := some "\"\\" } := by
  have hread : ∀ s ∈ awkwardTexts, ofText? s = some awkward := by decide +kernel
  have hne : awkward ≠ { awkward with id := some "\"\\" } := by decide +kernel
  exact ⟨fun s hs => ⟨hread s hs, survives_its_text.2.2 s awkward (hread s hs)⟩,
    survives_its_text.2.1 _ _ hne⟩

end Packet

end TrafficGate
