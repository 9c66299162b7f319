import TapHold.Config
import TapHold.Config.Binding

namespace TapHold

inductive ConfigError where
  | unreadable (reason : String)
  | document
  | invalidKey (reason : KeyError)
  -- a key made otherwise than by reading it, with blanks around its name
  | paddedKey (key : Key)
  | invalidModifier (key : String) (reason : ModifierError)
  | invalidBinding (layer key : String) (reason : BindingError)
  | timeoutOutOfRange (name : String) (ms : Nat)
  | layout (reason : LayoutError)
  | homeRowOffLayout (key : Key)
  | tooManyHomeRow (count : Nat)
  | invalidLayerName (name : String)
  | unknownParent (layer parent : String)
  | parentCycle (layer : String)
  | duplicateTrigger (key : Key) (first second : String)
  deriving DecidableEq, Repr

namespace ConfigError

def message : ConfigError → String
  | unreadable reason => s!"IO error: {reason}"
  | document => "TOML parse error: the text does not describe a configuration"
  | invalidKey reason => s!"Invalid key: {reason.message}"
  | paddedKey key => s!"Invalid key: key name has surrounding whitespace: '{key.name}'"
  | invalidModifier key reason => s!"Invalid modifier: hrm key '{key}': {reason.message}"
  | invalidBinding layer key reason =>
    s!"Invalid binding: layer '{layer}' key '{key}': {reason.message}"
  | timeoutOutOfRange name ms =>
    s!"Timeout value out of range: {name} = {ms} " ++
      s!"(must be {Timing.shortest}..={Timing.longest})"
  | layout reason => s!"Invalid layout: {reason.message}"
  | homeRowOffLayout key => s!"home-row modifier key '{key.name}' is not in the layout"
  | tooManyHomeRow count =>
    s!"too many home-row modifier keys: {count} (at most {Config.maxHomeRow})"
  | invalidLayerName name =>
    s!"invalid layer name '{name}': must start with a letter or '_' and contain only " ++
      "letters, digits and '_'"
  | unknownParent layer parent => s!"layer '{layer}' names parent '{parent}', which is not defined"
  | parentCycle layer => s!"layer '{layer}' is part of a parent cycle"
  | duplicateTrigger key first second =>
    s!"layers '{first}' and '{second}' share the trigger key '{key.name}'"

def cause? : ConfigError → Option String
  | unreadable reason => some reason
  | layout reason => some reason.message
  | _ => none

end ConfigError
end TapHold
