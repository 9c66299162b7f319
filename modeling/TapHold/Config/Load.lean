import TapHold.Config.Document
import TapHold.Config.Validity

namespace TapHold

namespace Document

def readKey (text : String) : Except ConfigError Key := (Key.parse text).mapError .invalidKey

def readHomeRow : String × String → Except ConfigError (Key × Modifier)
  | (text, spelling) => do
    let key ← readKey text
    let m ← (Modifier.parse spelling).mapError (.invalidModifier text)
    return (key, m)

def readStroke : BindingDraft → Except BindingError Stroke
  | .single text => Binding.parse text
  | .items texts => Binding.ofItems texts

def readBinding (layer : String) : String × BindingDraft → Except ConfigError (Key × Stroke)
  | (text, draft) => do
    let key ← readKey text
    let stroke ← (readStroke draft).mapError (.invalidBinding layer text)
    return (key, stroke)

-- Flags that are left out take the value they have in a layer that is given its trigger only.
def readLayer : String × LayerDraft → Except ConfigError (String × Layer)
  | (name, draft) => do
    let plain := Layer.triggeredBy (← readKey draft.trigger)
    let bindings ← draft.bindings.mapM (readBinding name)
    return (name, { plain with
      parent := draft.parent
      handoff := draft.handoff.getD plain.handoff
      inherit := draft.inherit.getD plain.inherit
      bindings := .ofList bindings })

def readTiming : Option TimingDraft → Timing
  | none => .standard
  | some draft =>
    { streakWindow := draft.streakWindow.getD Timing.standard.streakWindow
      homeRowHold := draft.homeRowHold.getD Timing.standard.homeRowHold
      layerHold := draft.layerHold.getD Timing.standard.layerHold }

def toConfig (document : Document) : Except ConfigError Config := do
  let homeRow ← document.homeRow.mapM readHomeRow
  let layers ← document.layers.mapM readLayer
  return ⟨document.layout, .ofList homeRow, .ofList layers, readTiming document.timing⟩

end Document

namespace Config

def ofDocument (document : Document) : Except ConfigError Config := do
  let config ← document.toConfig
  let _ ← config.validate
  return config

def parse (text : String) : Except ConfigError Config :=
  match Document.parse? text with
  | none => .error .document
  | some document => ofDocument document

end Config
end TapHold
