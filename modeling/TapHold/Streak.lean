import TapHold.Rule.Action

namespace TapHold.Streak

-- In this order the record is whether the window of an earlier press was still open.
def updates (window : Nat) : List Action :=
  [.setVar .isTypingStreak .streakActive, .setVar .streakExpiry (.nowPlus window)]

def isUpdate : Action → Bool
  | .setVar .isTypingStreak _ | .setVar .streakExpiry _ => true
  | _ => false

def leads : List Action → Bool
  | .setVar .isTypingStreak .streakActive :: .setVar .streakExpiry (.nowPlus _) :: rest =>
    !rest.any isUpdate
  | _ => false

end TapHold.Streak
