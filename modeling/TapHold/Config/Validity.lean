import TapHold.Config.Error
import TapHold.Config.Finding

namespace TapHold

namespace Timing

def inRange (ms : Nat) : Bool := shortest ≤ ms && ms ≤ longest

def faults (timing : Timing) : List ConfigError :=
  [("streak_window_ms", timing.streakWindow), ("hrm_hold_threshold_ms", timing.homeRowHold),
    ("layer_hold_threshold_ms", timing.layerHold)].filterMap fun (name, ms) =>
      if inRange ms then none else some (.timeoutOutOfRange name ms)

end Timing

namespace Key

def faults (key : Key) : List ConfigError :=
  match parse key.name with
  | .error reason => [.invalidKey reason]
  | .ok read => if read = key then [] else [.paddedKey key]

end Key

namespace Layer

def isNameStart (c : Char) : Bool := c.isAlpha || c == '_'
def isNameChar (c : Char) : Bool := c.isAlphanum || c == '_'

def isName (name : String) : Bool :=
  match name.toList with
  | [] => false
  | first :: rest => isNameStart first && rest.all isNameChar

def keys (layer : Layer) : List Key :=
  layer.trigger :: layer.bindings.entries.flatMap fun (key, stroke) => [key, stroke.key]

end Layer

namespace Config

def homeRowFaults (config : Config) (layout : Layout) : List ConfigError :=
  (if config.homeRow.size ≤ maxHomeRow then [] else [.tooManyHomeRow config.homeRow.size]) ++
    (config.homeRow.keys.filter (!layout.contains ·)).map .homeRowOffLayout

def layerFaults (config : Config) (name : String) (layer : Layer) : List ConfigError :=
  (if Layer.isName name then [] else [.invalidLayerName name]) ++
    layer.keys.flatMap Key.faults ++
    match layer.parent with
    | none => []
    | some parent =>
      if config.layers.contains parent then [] else [.unknownParent name parent]

def lineage (config : Config) : Nat → String → List String
  | 0, _ => []
  | more + 1, name =>
    name :: match (config.layers.get? name).bind (·.parent) with
      | none => []
      | some parent => config.lineage more parent

-- Going up from the layer comes back to a name. One name more than there are layers is enough
-- to find that out: so long a lineage without repetition would need another layer.
def climbsForever (config : Config) (name : String) : Bool :=
  !decide (config.lineage (config.layers.size + 1) name).Nodup

def cycleFaults (config : Config) : List ConfigError :=
  (config.layers.keys.filter config.climbsForever).map .parentCycle

def triggerFaults (earlier : List (String × Layer)) :
    List (String × Layer) → List ConfigError
  | [] => []
  | (name, layer) :: rest =>
    (match earlier.find? (·.2.trigger = layer.trigger) with
      | none => []
      | some (first, _) => [.duplicateTrigger layer.trigger first name]) ++
      triggerFaults (earlier ++ [(name, layer)]) rest

def faultsOn (config : Config) (layout : Layout) : List ConfigError :=
  config.homeRowFaults layout ++
    config.layers.entries.flatMap (fun (name, layer) => config.layerFaults name layer) ++
    config.cycleFaults ++ triggerFaults [] config.layers.entries

def check (config : Config) : Except ConfigError (Layout × List Finding) :=
  match config.timing.faults.head? with
  | some fault => .error fault
  | none => match Layout.parse config.layout with
    | .error reason => .error (.layout reason)
    | .ok layout => match (config.faultsOn layout).head? with
      | some fault => .error fault
      | none => .ok (layout, config.findings layout)

def validate (config : Config) : Except ConfigError (List Finding) := do
  return (← config.check).2

end Config
end TapHold
