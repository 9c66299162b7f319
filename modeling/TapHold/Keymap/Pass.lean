import TapHold.Keymap.HomeRowRules
import TapHold.Keymap.LayerRules

namespace TapHold

inductive Pass where
  | layers
  | homeRow
  | default
  deriving DecidableEq, Repr, Inhabited

namespace Pass

def name : Pass → String
  | layers => "layers"
  | homeRow => "hrm"
  | default => "default"

-- The key types itself. Triggers have no such rule: their tap is part of the trigger rule.
def passthrough (site : Site) : List Rule :=
  if site.isTrigger then [] else
    [{ kind := .passthrough
       press := .bare site.key
       conditions := []
       actions := site.streak ++ [.emit (.plain site.key)] }]

def rules : Pass → Site → List Rule
  | layers, site => LayerRules.rules site
  | homeRow, site => HomeRowRules.rules site
  | default, site => passthrough site

end Pass

abbrev Pipeline := List Pass

namespace Pipeline

def standard : Pipeline := [.layers, .homeRow, .default]

def rules (passes : Pipeline) (site : Site) : List Rule := passes.flatMap (·.rules site)

def text (passes : Pipeline) : String :=
  "Pipeline \x7b passes: [" ++
    String.intercalate ", " (passes.map fun pass => "\"" ++ pass.name ++ "\"") ++ "] \x7d"

end Pipeline
end TapHold
