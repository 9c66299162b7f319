import TapHold.Key

namespace TapHold

inductive StateVar where
  | held (key : Key)
  -- the home-row key has been down for longer than the hold threshold
  | heldReady (key : Key)
  -- the letter of the home-row key was sent during this hold
  | outputted (key : Key)
  | active (layer : String)
  -- the last key came within the typing window
  | isTypingStreak
  | streakExpiry
  deriving DecidableEq, Repr, Inhabited

namespace StateVar

def name : StateVar → String
  | held key => key.name ++ "Held"
  | heldReady key => key.name ++ "HeldReady"
  | outputted key => key.name ++ "Outputted"
  | active layer => layer ++ "Active"
  | isTypingStreak => "isTypingStreak"
  | streakExpiry => "streakExpiry"

end StateVar
end TapHold
