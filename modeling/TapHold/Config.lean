import TapHold.Dict
import TapHold.Layout
import TapHold.Stroke

namespace TapHold

-- All in milliseconds. The two hold thresholds are independent of each other.
structure Timing where
  -- how long after a press one still counts as typing
  streakWindow : Nat
  -- how long a home-row key has to be down before it acts as its modifier
  homeRowHold : Nat
  -- how long a layer trigger has to be down before its layer becomes active
  layerHold : Nat
  deriving DecidableEq, Repr

namespace Timing

def standard : Timing := ⟨150, 150, 120⟩

def shortest : Nat := 1
def longest : Nat := 5000

instance : Inhabited Timing := ⟨standard⟩

end Timing

structure Layer where
  trigger : Key
  parent : Option String
  -- false: the bindings apply only while the parent is active too
  handoff : Bool
  -- true: keys without a binding here take the binding of the parent
  inherit : Bool
  bindings : Dict Key Stroke
  deriving DecidableEq

namespace Layer

def triggeredBy (trigger : Key) : Layer := ⟨trigger, none, true, false, .empty⟩

def setParent (layer : Layer) (parent : String) : Layer := { layer with parent := some parent }

def setHandoff (layer : Layer) (handoff : Bool) : Layer := { layer with handoff := handoff }

def setInherit (layer : Layer) (inherit : Bool) : Layer := { layer with inherit := inherit }

def bind (layer : Layer) (key : Key) (stroke : Stroke) : Layer :=
  { layer with bindings := layer.bindings.insert key stroke }

instance : Inhabited Layer := ⟨triggeredBy default⟩

end Layer

structure Config where
  layout : List String
  homeRow : Dict Key Modifier
  layers : Dict String Layer
  timing : Timing
  deriving DecidableEq

namespace Config

-- How many home-row keys there may be. Each of them can double the rules for a key.
def maxHomeRow : Nat := 16

def empty : Config := ⟨[], .empty, .empty, .standard⟩

instance : Inhabited Config := ⟨empty⟩

def ofRows (rows : List String) : Config := { empty with layout := rows }

def addRow (config : Config) (row : String) : Config :=
  { config with layout := config.layout ++ [row] }

def setHomeRow (config : Config) (key : Key) (m : Modifier) : Config :=
  { config with homeRow := config.homeRow.insert key m }

def setLayer (config : Config) (name : String) (layer : Layer) : Config :=
  { config with layers := config.layers.insert name layer }

def setTiming (config : Config) (timing : Timing) : Config := { config with timing := timing }

def isHomeRow (config : Config) (key : Key) : Bool := config.homeRow.contains key

def layerTriggeredBy? (config : Config) (key : Key) : Option (String × Layer) :=
  config.layers.entries.find? (·.2.trigger = key)

def triggers (config : Config) : List Key := config.layers.values.map (·.trigger)

end Config
end TapHold
