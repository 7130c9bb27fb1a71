import TrafficGate.Declarations

/-!
# Roll

Which components are declared and which of them are live.  A declaration outlives its component; a
live component is always declared.

* `Roll.register`: a component comes to life and (re)declares its guard.
* `Roll.unregister`: a component goes, and its declaration too if it is to be forgotten.
-/

namespace TrafficGate

/-- Why a text cannot be the name of a component. -/
inductive NameFault where
  | blank
  | surroundedByBlanks (name : String)
  | containsSeparator (name : String)
  deriving DecidableEq, Repr, Inhabited

/-- The wording of the fault. -/
def NameFault.message : NameFault → String
  | .blank => "'name' must not be empty"
  | .surroundedByBlanks name => "'name' must not have surrounding whitespace: '" ++ name ++ "'"
  | .containsSeparator name => "'name' must not contain ',': '" ++ name ++ "'"

/-- What is wrong with a name, if anything: names are kept in a list with commas, from which each is
read with the blanks around it dropped. -/
def nameFault? (name : String) : Option NameFault :=
  if Text.trim name = "" then some .blank
  else if Text.trim name ≠ name then some (.surroundedByBlanks name)
  else if name.toList.contains ',' then some (.containsSeparator name)
  else none

/-- Why a component cannot be registered. -/
inductive RegisterError where
  | duplicateName (name : String)
  | invalidName (fault : NameFault)
  deriving DecidableEq, Repr, Inhabited

/-- The wording of the error. -/
def RegisterError.message : RegisterError → String
  | .duplicateName name => "Required component already registered with the name '" ++ name ++ "'"
  | .invalidName fault => "Invalid argument: " ++ fault.message

/-- A live component under the name it was registered with. -/
structure Member (H : Type) where
  name : String
  handle : H
  deriving DecidableEq, Repr, Inhabited

/-- The declared components and the live ones, these in the order of registration. -/
structure Roll (G H : Type) where
  declarations : Declarations G
  live : List (Member H) := []

namespace Roll

variable {G H : Type}

/-- A live component has the name. -/
def isLive (roll : Roll G H) (name : String) : Bool := roll.live.any (·.name = name)

/-- Everything guarded by a component that is not live. -/
def blocked [Guard G] (roll : Roll G H) : G := Declarations.blocked roll.declarations roll.isLive

/-- A component comes to life under a name and declares what it guards. -/
def register [Guard G] (roll : Roll G H) (name : String) (handle : H) (guard : G) :
    Except RegisterError (Roll G H) :=
  match nameFault? name with
  | some fault => .error (.invalidName fault)
  | none =>
    if roll.isLive name then .error (.duplicateName name)
    else .ok
      { declarations := roll.declarations.insert name (Guard.collapse guard)
        live := roll.live ++ [⟨name, handle⟩] }

/-- The component with the name goes; its declaration stays unless it is to be forgotten. -/
def unregister (roll : Roll G H) (name : String) (forget : Bool) : Roll G H where
  declarations := if forget then roll.declarations.erase name else roll.declarations
  live := roll.live.eraseP (·.name = name)

/-- The live component with the name. -/
def member? (roll : Roll G H) (name : String) : Option (Member H) :=
  roll.live.find? (·.name = name)

end Roll

end TrafficGate
