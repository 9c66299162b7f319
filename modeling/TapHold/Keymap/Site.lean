import TapHold.Config
import TapHold.Rule
import TapHold.Streak

namespace TapHold

-- The configuration need not be sound.
structure Site where
  key : Key
  config : Config
  layout : Layout
  triggers : List Key
  deriving DecidableEq, Inhabited

namespace Site

def isTrigger (site : Site) : Bool := site.triggers.contains site.key

def isHomeRow (site : Site) : Bool := site.config.isHomeRow site.key

def streak (site : Site) : List Action := Streak.updates site.config.timing.streakWindow

def others (site : Site) : List (Key × Modifier) :=
  site.config.homeRow.entries.filter (·.1 ≠ site.key)

def opposed (site : Site) (other : Key) : Bool := site.layout.opposed other site.key

def opposite (site : Site) : List (Key × Modifier) := site.others.filter (site.opposed ·.1)
def sameHand (site : Site) : List Key := (site.others.filter (!site.opposed ·.1)).map (·.1)

end Site
end TapHold
