import TapHold.StateVar
import TapHold.Stroke

namespace TapHold

inductive Expr where
  | int (n : Int)
  | streakActive
  | nowPlus (ms : Nat)
  deriving DecidableEq, Repr, Inhabited

namespace Expr

def text : Expr → String
  | int n => toString n
  | streakActive => s!"if({StateVar.streakExpiry.name} > system.now.milliseconds, 1, 0)"
  | nowPlus ms => s!"system.now.milliseconds + {ms}"

end Expr

structure Condition where
  var : StateVar
  value : Int
  deriving DecidableEq, Repr, Inhabited

namespace Condition

def text (c : Condition) : String := s!"{c.var.name} == {c.value}"

end Condition

inductive Action where
  | setVar (var : StateVar) (value : Expr)
  | emit (stroke : Stroke)
  | swallow
  -- a timer started by the press; it fires only if the key is still down by then
  | setWhenHeld (var : StateVar) (value : Expr) (threshold : Nat)
  -- carried out once, when the key comes up
  | setOnRelease (var : StateVar) (value : Expr)
  -- sent when the key comes up, unless another key was pressed or a timer fired before
  | emitIfAlone (stroke : Stroke)
  deriving DecidableEq, Inhabited

namespace Action

def var? : Action → Option StateVar
  | setVar var _ | setWhenHeld var _ _ | setOnRelease var _ => some var
  | emit _ | swallow | emitIfAlone _ => none

def stroke? : Action → Option Stroke
  | emit stroke | emitIfAlone stroke => some stroke
  | setVar .. | swallow | setWhenHeld .. | setOnRelease .. => none

def isOutput (action : Action) : Bool := action.stroke?.isSome

def text : Action → String
  | setVar var value => s!"set {var.name} = {value.text}"
  | emit stroke => s!"emit {stroke.text}"
  | swallow => "swallow"
  | setWhenHeld var value threshold =>
    s!"after {threshold}ms held: set {var.name} = {value.text}"
  | setOnRelease var value => s!"on release: set {var.name} = {value.text}"
  | emitIfAlone stroke => s!"if alone: emit {stroke.text}"

end Action
end TapHold
