import TapHold.Config.Load
import TapHold.Log
import TapHold.Text.Quoted

namespace TapHold.Log

def parentText : Option String → String
  | none => "None"
  | some parent => s!"Some({Text.Quoted.encode parent})"

def ofBinding (layer : String) (key : Key) (stroke : Stroke) : Entry :=
  ⟨.trace, .loader, s!"  [{layer}] {key.name} -> {stroke.text}"⟩

def ofLayer (dump : Bool) (name : String) (layer : Layer) : List Entry :=
  ⟨.debug, .loader, s!"Loaded layer '{name}' with {layer.bindings.size} bindings, " ++
    s!"trigger='{layer.trigger.name}', parent={parentText layer.parent}"⟩ ::
    if dump then layer.bindings.entries.map fun (key, stroke) => ofBinding name key stroke else []

def readable : List (String × LayerDraft) → List (String × Layer)
  | [] => []
  | draft :: rest =>
    match Document.readLayer draft with
    | .error _ => []
    | .ok layer => layer :: readable rest

-- Layers come after the home row, so none is read if that cannot be.
def loading (dump : Bool) (document : Document) : List Entry :=
  match document.homeRow.mapM Document.readHomeRow with
  | .error _ => []
  | .ok _ => (readable document.layers).flatMap fun (name, layer) => ofLayer dump name layer

end TapHold.Log
