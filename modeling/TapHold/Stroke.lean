import TapHold.Key
import TapHold.ModifierSet

namespace TapHold

structure Stroke where
  key : Key
  modifiers : ModifierSet
  deriving DecidableEq, Inhabited

namespace Stroke

def plain (key : Key) : Stroke := ⟨key, .empty⟩

def text (stroke : Stroke) : String := stroke.modifiers.text ++ stroke.key.name

end Stroke
end TapHold
