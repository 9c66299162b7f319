import TapHold.Keymap

namespace TapHold.Keymap

def text (keymap : Keymap) : String :=
  String.intercalate "\n" (keymap.sets.map RuleSet.text)

-- Counts are padded to a column, keys are not.
def setLine (set : RuleSet) : String :=
  s!"  {set.key.name} {Text.padLeft 4 (toString set.size)}\n"

def kindLine (kind : RuleKind) (count : Nat) : String :=
  s!"  {Text.padRight 24 kind.text} {Text.padLeft 5 (toString count)}\n"

def summary (keymap : Keymap) : String :=
  s!"{keymap.keyCount} keys, {keymap.ruleCount} rules\n\n" ++
    String.join (keymap.sets.map setLine) ++ "\n" ++
    String.join (keymap.kindCounts.map fun (kind, count) => kindLine kind count)

end TapHold.Keymap
