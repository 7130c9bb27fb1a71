import TrafficGate.Json.Writer
import TrafficGate.Log
import TrafficGate.Text.Inspect

/-!
# Log — Line

Entries as log lines: plain ones for people, and JSON objects for programs.
-/

namespace TrafficGate.Log

/-- A character in the message of a plain line.  One that a terminal would obey shows its number. -/
def tame (c : Char) : String :=
  let digits := Text.Inspect.hexDigits c.toNat
  if ['\x07', '\x08', '\x0c', '\x1b', '\x7f'].contains c then
    "\\x" ++ (if digits.length = 1 then "0" else "") ++ digits
  else if 0x80 ≤ c.toNat ∧ c.toNat ≤ 0x9F then "\\u\x7b" ++ digits ++ "\x7d"
  else String.singleton c

/-- A value in a plain line: texts of their own stand in quotes. -/
def Value.inLine : Value → String
  | .text s => Text.Inspect.text s
  | v => v.toText

/-- A value in a JSON line. -/
def Value.toJson : Value → Json
  | .text s | .shown s => Json.ofText s
  | .count n => .number (toString n)
  | .flag b => .bool b

namespace Entry

/-- The entry as a plain line: level, target, message and fields. -/
def line (e : Entry) : String :=
  let message := String.join (e.message.toList.map tame)
  e.level.name ++ " " ++ e.source.target ++ ": " ++
    " ".intercalate (message :: e.fields.map fun (name, v) => name ++ "=" ++ v.inLine)

/-- The entry as a JSON object, with the message among the fields. -/
def toJson (e : Entry) : Json :=
  Json.ofFields
    [("level", Json.ofText e.level.name),
     ("fields", Json.ofFields
       (("message", Json.ofText e.message) :: e.fields.map fun (name, v) => (name, v.toJson))),
     ("target", Json.ofText e.source.target)]

end Entry

end TrafficGate.Log
