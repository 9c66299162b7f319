import TapHold.Config.Validity
import TapHold.Keymap.Pass
import TapHold.RuleSet
import TapHold.StateVar.Names

namespace TapHold

structure Keymap where
  sets : List RuleSet
  findings : List Finding
  deriving DecidableEq, Inhabited

inductive CompileError where
  | config (reason : ConfigError)
  | names (collision : StateVar.NameCollision)
  deriving DecidableEq

namespace CompileError

def message : CompileError → String
  | config reason => s!"invalid configuration: {reason.message}"
  | names collision => collision.message

end CompileError

namespace Keymap

def rulesFor? (keymap : Keymap) (key : Key) : Option RuleSet := keymap.sets.find? (·.key = key)

def keyCount (keymap : Keymap) : Nat := keymap.sets.length

def rules (keymap : Keymap) : List Rule := keymap.sets.flatMap RuleSet.rules

def ruleCount (keymap : Keymap) : Nat := keymap.rules.length

def count (keymap : Keymap) (kind : RuleKind) : Nat := keymap.rules.countP (·.kind = kind)

def kindCounts (keymap : Keymap) : List (RuleKind × Nat) :=
  (RuleKind.all.map fun kind => (kind, keymap.count kind)).filter (0 < ·.2)

def vars (keymap : Keymap) : List StateVar := keymap.rules.flatMap Rule.vars

-- The keys that get rules: those of the layout, then the triggers off the layout.
def keysOf (config : Config) (layout : Layout) : List Key :=
  layout.all ++ config.triggers.filter (!layout.contains ·)

def siteOf (config : Config) (layout : Layout) (key : Key) : Site :=
  ⟨key, config, layout, config.triggers⟩

def setOf (passes : Pipeline) (config : Config) (layout : Layout) (key : Key) : RuleSet :=
  ⟨key, passes.rules (siteOf config layout key)⟩

def compileWith (passes : Pipeline) (config : Config) : Except CompileError (Keymap × Nat) := do
  let (layout, findings) ← config.check.mapError .config
  let keymap : Keymap := ⟨(keysOf config layout).map (setOf passes config layout), findings⟩
  let names ← (StateVar.countVars keymap.vars).mapError .names
  return (keymap, names)

def compile (config : Config) : Except CompileError Keymap := do
  return (← compileWith .standard config).1

end Keymap
end TapHold
