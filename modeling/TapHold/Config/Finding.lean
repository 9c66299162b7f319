import TapHold.Config
import TapHold.Log

namespace TapHold

inductive Finding where
  | triggerIsHomeRow (layer : String) (key : Key)
  | bindingOnTrigger (layer : String) (key : Key) (triggerOf : String)
  | bindingOffLayout (layer : String) (key : Key)
  | flagWithoutParent (layer : String) (flag : String)
  | thresholdsDiffer (homeRow layer : Nat)
  deriving DecidableEq, Repr

namespace Finding

def level : Finding → Log.Level
  | thresholdsDiffer .. => .debug
  | triggerIsHomeRow .. | bindingOnTrigger .. | bindingOffLayout .. | flagWithoutParent .. => .warn

def message : Finding → String
  | triggerIsHomeRow layer key =>
    s!"layer '{layer}' is triggered by '{key.name}', which is also a home-row modifier; " ++
      "the layer rules take priority"
  | bindingOnTrigger layer key triggerOf =>
    s!"layer '{layer}' binds '{key.name}', which triggers layer '{triggerOf}'; " ++
      "the binding is unreachable"
  | bindingOffLayout layer key =>
    s!"layer '{layer}' binds '{key.name}', which is neither in the layout nor a trigger; " ++
      "the binding is ignored"
  | flagWithoutParent layer flag => s!"layer '{layer}' sets '{flag}' but has no parent"
  | thresholdsDiffer homeRow layer =>
    s!"hold thresholds differ: home-row {homeRow}ms, layer {layer}ms"

end Finding

namespace Layer

def idleFlags (layer : Layer) : List String :=
  if layer.parent.isSome then [] else
    (if layer.handoff then [] else ["handoff"]) ++ (if layer.inherit then ["inherit"] else [])

end Layer

namespace Config

def bindingFindings (config : Config) (layout : Layout) (name : String) (key : Key) :
    List Finding :=
  match config.layerTriggeredBy? key with
  | some (triggerOf, _) => [.bindingOnTrigger name key triggerOf]
  | none => if layout.contains key then [] else [.bindingOffLayout name key]

def layerFindings (config : Config) (layout : Layout) (name : String) (layer : Layer) :
    List Finding :=
  (if config.isHomeRow layer.trigger then [.triggerIsHomeRow name layer.trigger] else []) ++
    layer.idleFlags.map (.flagWithoutParent name) ++
    layer.bindings.keys.flatMap (config.bindingFindings layout name)

def findings (config : Config) (layout : Layout) : List Finding :=
  config.layers.entries.flatMap (fun (name, layer) => config.layerFindings layout name layer) ++
    if config.timing.homeRowHold = config.timing.layerHold then []
    else [.thresholdsDiffer config.timing.homeRowHold config.timing.layerHold]

end Config
end TapHold
