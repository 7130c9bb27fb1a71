/-!
# Text — Digits

Digits up to base sixteen and the numbers that rows of them spell.
-/

namespace TrafficGate.Text

/-- The value of a digit, where letters of either case stand for ten to fifteen. -/
def digitValue? (c : Char) : Option Nat :=
  if '0' ≤ c ∧ c ≤ '9' then some (c.toNat - '0'.toNat)
  else if 'a' ≤ c ∧ c ≤ 'f' then some (c.toNat - 'a'.toNat + 10)
  else if 'A' ≤ c ∧ c ≤ 'F' then some (c.toNat - 'A'.toNat + 10)
  else none

/-- The character is a digit of the base. -/
def isDigitOf (base : Nat) (c : Char) : Bool := (digitValue? c).any (· < base)

/-- The number that digits of the base spell, if all of them are such digits. -/
def number? (base : Nat) (digits : List Char) : Option Nat :=
  digits.foldlM (fun n c => if isDigitOf base c then (digitValue? c).map (base * n + ·) else none) 0

/-- The character whose code point the digits spell in base sixteen. -/
def codePoint? (digits : List Char) : Option Char := do
  let n ← number? 16 digits
  if n.isValidChar then some (Char.ofNat n) else none

end TrafficGate.Text
