import TapHold.Rule
import TapHold.Text.Column

namespace TapHold

structure RuleSet where
  key : Key
  rules : List Rule
  deriving DecidableEq, Inhabited

namespace RuleSet

def size (set : RuleSet) : Nat := set.rules.length

def isEmpty (set : RuleSet) : Bool := set.rules.isEmpty

def count (set : RuleSet) (kind : RuleKind) : Nat := set.rules.countP (·.kind = kind)

def line (rule : Rule) (place : Nat) : String :=
  s!"  {Text.padLeft 3 (toString place)}. {rule.text}\n"

def text (set : RuleSet) : String :=
  String.join (s!"{set.key.name} ({set.size} rules)\n" ::
    (set.rules.zipIdx 1).map fun (rule, place) => line rule place)

end RuleSet
end TapHold
