import TapHold.Text.Blank

namespace TapHold

-- Names are never interpreted: whatever the keyboard engine understands is a key.
structure Key where
  name : String
  deriving DecidableEq, Repr, Inhabited

inductive KeyError where
  | empty
  | blankInside (name : String)
  deriving DecidableEq, Repr

namespace KeyError

def message : KeyError → String
  | empty => "key name cannot be empty"
  | blankInside name => s!"key name cannot contain whitespace: '{name}'"

end KeyError

namespace Key

def parse (text : String) : Except KeyError Key :=
  let name := Text.trim text.toList
  if name.isEmpty then .error .empty
  else if name.any Text.isBlank then .error (.blankInside (String.ofList name))
  else .ok ⟨String.ofList name⟩

def before (a b : Key) : Bool := a.name.toList.lex b.name.toList (·.toNat < ·.toNat)

def sorted (keys : List Key) : List Key := keys.mergeSort fun a b => !b.before a

theorem name_inj {key other : Key} (same : key.name = other.name) : key = other := by
  cases key
  cases other
  cases same
  rfl

end Key
end TapHold
