import TapHold.Dict
import TapHold.StateVar
import TapHold.Text.Quoted

namespace TapHold.StateVar

def described : StateVar → String
  | held key => s!"Held(Key({Text.Quoted.encode key.name}))"
  | heldReady key => s!"HeldReady(Key({Text.Quoted.encode key.name}))"
  | outputted key => s!"Outputted(Key({Text.Quoted.encode key.name}))"
  | active layer => s!"Active({Text.Quoted.encode layer})"
  | isTypingStreak => "IsTypingStreak"
  | streakExpiry => "StreakExpiry"

-- The engine has one flat space of names, so the two variables would overwrite each other.
structure NameCollision where
  name : String
  first : StateVar
  second : StateVar
  deriving DecidableEq

def NameCollision.message (c : NameCollision) : String :=
  s!"state variable name '{c.name}' is produced by both {c.first.described} " ++
    s!"and {c.second.described}"

def scan (seen : Dict String StateVar) :
    List (String × StateVar) → Except NameCollision (Dict String StateVar)
  | [] => .ok seen
  | (name, var) :: rest =>
    match seen.get? name with
    | none => scan (seen.insert name var) rest
    | some first => if first = var then scan seen rest else .error ⟨name, first, var⟩

def countNames (named : List (String × StateVar)) : Except NameCollision Nat := do
  return (← scan .empty named).size

def countVars (vars : List StateVar) : Except NameCollision Nat :=
  countNames (vars.map fun var => (var.name, var))

end TapHold.StateVar
