import TapHold.Keymap
import TapHold.Log.Loading

namespace TapHold.Log

def ofFinding (finding : Finding) : Entry := ⟨finding.level, .compiler, finding.message⟩

def ofTrigger (site : Site) : List Entry :=
  match site.config.layerTriggeredBy? site.key with
  | none => []
  | some (name, layer) =>
    let count := (LayerRules.triggerRules site name layer).length
    [⟨.trace, .layers, s!"layer '{name}' trigger '{site.key.name}': {count} rules"⟩]

def ofPass (site : Site) (pass : Pass) : List Entry :=
  (if pass = .layers then ofTrigger site else []) ++
    [⟨.trace, .pass,
      s!"pass '{pass.name}' produced {(pass.rules site).length} rules for '{site.key.name}'"⟩]

def ofSet (dump : Bool) (set : RuleSet) : List Entry :=
  ⟨.debug, .compiler, s!"Compiled '{set.key.name}': {set.size} rules"⟩ ::
    if dump then set.rules.map fun rule => ⟨.trace, .compiler, "  " ++ rule.text⟩ else []

def ofKey (dump : Bool) (passes : Pipeline) (config : Config) (layout : Layout) (key : Key) :
    List Entry :=
  passes.flatMap (ofPass (Keymap.siteOf config layout key)) ++
    ofSet dump (Keymap.setOf passes config layout key)

def ofTotals (keymap : Keymap) (names : Nat) : Entry :=
  ⟨.debug, .compiler, s!"Compiled {keymap.keyCount} keys into {keymap.ruleCount} rules " ++
    s!"using {names} state variables"⟩

def compilation (dump : Bool) (passes : Pipeline) (config : Config) : List Entry :=
  match config.check with
  | .error _ => []
  | .ok (layout, findings) =>
    findings.map ofFinding ++
      (Keymap.keysOf config layout).flatMap (ofKey dump passes config layout) ++
      match Keymap.compileWith passes config with
      | .error _ => []
      | .ok (keymap, names) => [ofTotals keymap names]

def ofText (dump : Bool) (text : String) : List Entry :=
  match Document.parse? text with
  | none => []
  | some document => loading dump document ++ match Config.ofDocument document with
    | .error _ => []
    | .ok config => compilation dump .standard config

end TapHold.Log
