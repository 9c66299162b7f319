namespace TapHold

inductive Stage where
  | layer
  | homeRow
  | default
  deriving DecidableEq, Repr, Inhabited

namespace Stage

def text : Stage → String
  | layer => "layer"
  | homeRow => "hrm"
  | default => "default"

end Stage

inductive RuleKind where
  -- a layer trigger pressed while a home-row key is in mid-roll
  | triggerRollover
  | trigger
  | layerBinding
  | layerSwallow
  -- a key pressed while home-row keys of the other hand act as modifiers
  | activation
  | rollover
  | sameHandRollover
  | modifierPassthrough
  | source
  | passthrough
  deriving DecidableEq, Repr, Inhabited

namespace RuleKind

def all : List RuleKind :=
  [triggerRollover, trigger, layerBinding, layerSwallow, activation, rollover,
    sameHandRollover, modifierPassthrough, source, passthrough]

theorem all_complete (kind : RuleKind) : kind ∈ all := by cases kind <;> decide

def stage : RuleKind → Stage
  | triggerRollover | trigger | layerBinding | layerSwallow => .layer
  | activation | rollover | sameHandRollover | modifierPassthrough | source => .homeRow
  | passthrough => .default

def text : RuleKind → String
  | triggerRollover => "trigger-rollover"
  | trigger => "trigger"
  | layerBinding => "layer-binding"
  | layerSwallow => "layer-swallow"
  | activation => "hrm-activation"
  | rollover => "hrm-rollover"
  | sameHandRollover => "same-hand-rollover"
  | modifierPassthrough => "modifier-passthrough"
  | source => "hrm-source"
  | passthrough => "passthrough"

end RuleKind
end TapHold
