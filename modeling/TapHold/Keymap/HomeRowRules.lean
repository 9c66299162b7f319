import TapHold.Keymap.Site
import TapHold.Subsets

namespace TapHold.HomeRowRules

def ready (held : Key) : List Condition := [⟨.held held, 1⟩, ⟨.heldReady held, 1⟩]

def activation (site : Site) (chord : List (Key × Modifier)) : Rule :=
  { kind := .activation
    press := .bare site.key
    conditions := ⟨.isTypingStreak, 0⟩ :: chord.flatMap (fun (held, _) => ready held)
    actions := site.streak ++ [.emit ⟨site.key, .ofList (chord.map (·.2))⟩] }

-- Larger sets come first, so the rule that applies names all keys that are ready.
def activations (site : Site) : List Rule :=
  (Subsets.largestFirst site.opposite).map (activation site)

def typeBoth (site : Site) (kind : RuleKind) (held : Key) (conditions : List Condition) : Rule :=
  { kind
    press := .bare site.key
    conditions
    actions := site.streak ++
      [.emit (.plain held), .emit (.plain site.key), .setVar (.outputted held) (.int 1)] }

def typeOne (site : Site) (kind : RuleKind) (held : Key) : Rule :=
  { kind
    press := .bare site.key
    conditions := [⟨.held held, 1⟩, ⟨.outputted held, 1⟩]
    actions := site.streak ++ [.emit (.plain site.key)] }

def rollover (site : Site) (held : Key) : List Rule :=
  [typeBoth site .rollover held [⟨.held held, 1⟩, ⟨.heldReady held, 0⟩, ⟨.outputted held, 0⟩],
    typeOne site .rollover held]

-- Keys of one hand are never each other's modifiers, so readiness does not matter.
def sameHandRollover (site : Site) (held : Key) : List Rule :=
  [typeBoth site .sameHandRollover held [⟨.held held, 1⟩, ⟨.outputted held, 0⟩],
    typeOne site .sameHandRollover held]

def modifierPassthrough (site : Site) (m : Modifier) : Rule :=
  { kind := .modifierPassthrough
    press := ⟨site.key, some m⟩
    conditions := []
    actions := site.streak ++ [.emit ⟨site.key, .single m⟩] }

def source (site : Site) : Rule :=
  { kind := .source
    press := .bare site.key
    conditions := []
    actions := site.streak ++
      [.setVar (.held site.key) (.int 1),
        .setVar (.heldReady site.key) (.int 0),
        .setVar (.outputted site.key) (.int 0),
        .setWhenHeld (.heldReady site.key) (.int 1) site.config.timing.homeRowHold,
        .setOnRelease (.held site.key) (.int 0),
        .setOnRelease (.heldReady site.key) (.int 0),
        .setOnRelease (.outputted site.key) (.int 0),
        .emitIfAlone (.plain site.key)] }

def rules (site : Site) : List Rule :=
  activations site ++
    site.opposite.flatMap (fun (held, _) => rollover site held) ++
    (if site.isHomeRow then Modifier.all.map (modifierPassthrough site) else []) ++
    site.sameHand.flatMap (sameHandRollover site) ++
    (if site.isHomeRow then [source site] else [])

end TapHold.HomeRowRules
