import TapHold.Keymap.Site

namespace TapHold.LayerRules

def isActive (layer : String) : Condition := ⟨.active layer, 1⟩

-- Parents further up do not count.
def gate (layer : Layer) : List Condition := (layer.parent.map isActive).toList

def switch (site : Site) (name : String) : List Action :=
  [.setVar (.active name) (.int 0),
    .setWhenHeld (.active name) (.int 1) site.config.timing.layerHold,
    .setOnRelease (.active name) (.int 0),
    .emitIfAlone (.plain site.key)]

def rollover (site : Site) (name : String) (layer : Layer) (held : Key) : Rule :=
  { kind := .triggerRollover
    press := .bare site.key
    conditions := gate layer ++ [⟨.held held, 1⟩, ⟨.heldReady held, 0⟩, ⟨.outputted held, 0⟩]
    actions := site.streak ++ [.emit (.plain held), .setVar (.outputted held) (.int 1)] ++
      switch site name }

def trigger (site : Site) (name : String) (layer : Layer) : Rule :=
  { kind := .trigger
    press := .bare site.key
    conditions := gate layer
    actions := site.streak ++ switch site name }

def triggerRules (site : Site) (name : String) (layer : Layer) : List Rule :=
  site.config.homeRow.keys.map (rollover site name layer) ++ [trigger site name layer]

def childrenFirst (config : Config) : List (String × Layer) :=
  config.layers.entries.filter (·.2.parent.isSome) ++
    config.layers.entries.filter (·.2.parent.isNone)

def resolve (config : Config) (layer : Layer) (key : Key) : Option Stroke :=
  match layer.bindings.get? key with
  | some stroke => some stroke
  | none =>
    if layer.inherit then do
      let parent ← layer.parent
      let above ← config.layers.get? parent
      above.bindings.get? key
    else none

def needs (name : String) (layer : Layer) : List Condition :=
  isActive name :: if layer.handoff then [] else gate layer

def bound (site : Site) (name : String) (layer : Layer) (stroke : Stroke) : Rule :=
  { kind := .layerBinding
    press := .bare site.key
    conditions := needs name layer
    actions := site.streak ++ [.emit stroke] }

def swallowed (site : Site) (name : String) : Rule :=
  { kind := .layerSwallow
    press := .bare site.key
    conditions := [isActive name]
    actions := [.swallow] }

def binding? (site : Site) : String × Layer → Option Rule
  | (name, layer) => (resolve site.config layer site.key).map (bound site name layer)

-- A layer swallows what it has nothing to send for, but for its own trigger. The bindings of all
-- layers come before, so a press is swallowed only if no other active layer sends something.
def swallow? (site : Site) : String × Layer → Option Rule
  | (name, layer) =>
    if (resolve site.config layer site.key).isNone && layer.trigger ≠ site.key
    then some (swallowed site name) else none

def bindingRules (site : Site) : List Rule :=
  (childrenFirst site.config).filterMap (binding? site) ++
    (childrenFirst site.config).filterMap (swallow? site)

def rules (site : Site) : List Rule :=
  match site.config.layerTriggeredBy? site.key with
  | some (name, layer) => triggerRules site name layer
  | none => bindingRules site

end TapHold.LayerRules
