import TapHold.Rule.Action
import TapHold.Rule.Kind

namespace TapHold

structure Press where
  key : Key
  modifier : Option Modifier
  deriving DecidableEq, Repr, Inhabited

namespace Press

def bare (key : Key) : Press := ⟨key, none⟩

def isBare (press : Press) : Bool := press.modifier.isNone

def text (press : Press) : String :=
  match press.modifier with
  | none => press.key.name
  | some m => m.text ++ press.key.name

end Press

structure Rule where
  kind : RuleKind
  press : Press
  conditions : List Condition
  actions : List Action
  deriving DecidableEq, Inhabited

namespace Rule

def on (kind : RuleKind) (press : Press) : Rule := ⟨kind, press, [], []⟩

def addCondition (rule : Rule) (var : StateVar) (value : Int) : Rule :=
  { rule with conditions := rule.conditions ++ [⟨var, value⟩] }

def addAction (rule : Rule) (action : Action) : Rule :=
  { rule with actions := rule.actions ++ [action] }

def key (rule : Rule) : Key := rule.press.key

def outputs (rule : Rule) : List Stroke := rule.actions.filterMap Action.stroke?

def vars (rule : Rule) : List StateVar :=
  rule.conditions.map (·.var) ++ rule.actions.filterMap Action.var?

section
variable {rule : Rule} {action : Action}

theorem mem_outputs {stroke : Stroke} (member : action ∈ rule.actions)
    (sends : stroke ∈ action.stroke?) : stroke ∈ rule.outputs :=
  List.mem_filterMap.2 ⟨action, member, sends⟩

theorem mem_vars_asked {condition : Condition} (member : condition ∈ rule.conditions) :
    condition.var ∈ rule.vars := List.mem_append_left _ (List.mem_map_of_mem member)

theorem mem_vars_written {var : StateVar} (member : action ∈ rule.actions)
    (writes : var ∈ action.var?) : var ∈ rule.vars :=
  List.mem_append_right _ (List.mem_filterMap.2 ⟨action, member, writes⟩)

end

-- A variable of a hold timer that the release does not reset could stay set.
def leavesHoldSet (rule : Rule) : Bool :=
  rule.actions.any fun
    | .setWhenHeld var _ _ => !rule.actions.any fun
      | .setOnRelease reset _ => reset = var
      | _ => false
    | _ => false

def text (rule : Rule) : String :=
  let condition := if rule.conditions.isEmpty then "" else
    " when " ++ String.intercalate " && " (rule.conditions.map Condition.text)
  s!"[{rule.kind.text}] {rule.press.text}" ++ condition ++ " -> " ++
    String.intercalate ", " (rule.actions.map Action.text)

end Rule
end TapHold
