import TapHold.Proofs.Engine
import TapHold.Proofs.RuleShapes

namespace TapHold

def Site.window (site : Site) : List (StateVar × Expr) :=
  [(.isTypingStreak, .streakActive), (.streakExpiry, .nowPlus site.config.timing.streakWindow)]

section
variable {site : Site} {name : String} {layer : Layer} {held : Key} {kind : RuleKind}

theorem LayerRules.rollover_writes : (LayerRules.rollover site name layer held).writes =
    site.window ++ [(.outputted held, .int 1), (.active name, .int 0)] := rfl

theorem LayerRules.trigger_writes : (LayerRules.trigger site name layer).writes =
    site.window ++ [(.active name, .int 0)] := rfl

theorem HomeRowRules.typeBoth_writes {conditions : List Condition} :
    (HomeRowRules.typeBoth site kind held conditions).writes =
      site.window ++ [(.outputted held, .int 1)] := rfl

theorem HomeRowRules.source_writes : (HomeRowRules.source site).writes =
    site.window ++ [(.held site.key, .int 1), (.heldReady site.key, .int 0),
      (.outputted site.key, .int 0)] := rfl

theorem HomeRowRules.source_resets : (HomeRowRules.source site).resets =
    [(.held site.key, .int 0), (.heldReady site.key, .int 0), (.outputted site.key, .int 0)] := rfl

end

inductive Site.Writes (site : Site) (rule : Rule) : StateVar → Expr → Prop where
  | typing : Writes site rule .isTypingStreak .streakActive
  | expiry : Writes site rule .streakExpiry (.nowPlus site.config.timing.streakWindow)
  -- the letter of another key is sent, which is down and whose letter was not sent before
  | sent (down : ⟨.held held, 1⟩ ∈ rule.conditions)
      (unsent : ⟨.outputted held, 0⟩ ∈ rule.conditions) :
      Writes site rule (.outputted held) (.int 1)
  | off (triggers : site.config.layerTriggeredBy? site.key = some (name, layer)) :
      Writes site rule (.active name) (.int 0)
  | held (own : rule = HomeRowRules.source site) : Writes site rule (.held site.key) (.int 1)
  | unready (own : rule = HomeRowRules.source site) :
      Writes site rule (.heldReady site.key) (.int 0)
  | unsent (own : rule = HomeRowRules.source site) :
      Writes site rule (.outputted site.key) (.int 0)

-- The timers write only what the release takes back.
inductive Site.Arms (site : Site) (rule : Rule) : StateVar → Expr → Prop where
  | ready (own : rule = HomeRowRules.source site) : Arms site rule (.heldReady site.key) (.int 1)
  | on (triggers : site.config.layerTriggeredBy? site.key = some (name, layer))
      (released : (.active name, .int 0) ∈ rule.resets) : Arms site rule (.active name) (.int 1)

theorem Site.Arms.released {site : Site} {rule : Rule} {var : StateVar} {value : Expr}
    (armed : site.Arms rule var value) : (var, .int 0) ∈ rule.resets := by
  cases armed with
  | ready own =>
    rw [own, HomeRowRules.source_resets]
    simp
  | on _ released => exact released

inductive Site.Resets (site : Site) (rule : Rule) : StateVar → Expr → Prop where
  | held (own : rule = HomeRowRules.source site) : Resets site rule (.held site.key) (.int 0)
  | ready (own : rule = HomeRowRules.source site) :
      Resets site rule (.heldReady site.key) (.int 0)
  | sent (own : rule = HomeRowRules.source site) :
      Resets site rule (.outputted site.key) (.int 0)
  | off (triggers : site.config.layerTriggeredBy? site.key = some (name, layer)) :
      Resets site rule (.active name) (.int 0)

namespace Site.Makes
variable {site : Site} {rule : Rule} {var : StateVar} {value : Expr}

theorem window_writes (member : (var, value) ∈ site.window) : site.Writes rule var value := by
  simp only [Site.window, List.mem_cons, Prod.mk.injEq, List.not_mem_nil, or_false] at member
  rcases member with ⟨rfl, rfl⟩ | ⟨rfl, rfl⟩
  · exact .typing
  · exact .expiry

theorem writes (made : site.Makes rule) (written : (var, value) ∈ rule.writes) :
    site.Writes rule var value := by
  cases made with
  | triggerRollover triggers member =>
    rw [LayerRules.rollover_writes] at written
    rcases List.mem_append.1 written with window | own
    · exact window_writes window
    · simp only [List.mem_cons, Prod.mk.injEq, List.not_mem_nil, or_false] at own
      rcases own with ⟨rfl, rfl⟩ | ⟨rfl, rfl⟩
      · exact .sent (by simp [LayerRules.rollover]) (by simp [LayerRules.rollover])
      · exact .off triggers
  | trigger triggers =>
    rw [LayerRules.trigger_writes] at written
    rcases List.mem_append.1 written with window | own
    · exact window_writes window
    · cases List.mem_singleton.1 own
      exact .off triggers
  | layerBinding _ _ => exact window_writes written
  | layerSwallow _ _ => cases written
  | activation _ => exact window_writes written
  | rolls _ | rollsBeside _ =>
    rw [HomeRowRules.typeBoth_writes] at written
    rcases List.mem_append.1 written with window | own
    · exact window_writes window
    · cases List.mem_singleton.1 own
      exact .sent (by simp [HomeRowRules.typeBoth]) (by simp [HomeRowRules.typeBoth])
  | rolled _ | rolledBeside _ => exact window_writes written
  | modifierPassthrough _ => exact window_writes written
  | source homeRow =>
    rw [HomeRowRules.source_writes] at written
    rcases List.mem_append.1 written with window | own
    · exact window_writes window
    · simp only [List.mem_cons, Prod.mk.injEq, List.not_mem_nil, or_false] at own
      rcases own with ⟨rfl, rfl⟩ | ⟨rfl, rfl⟩ | ⟨rfl, rfl⟩
      · exact .held rfl
      · exact .unready rfl
      · exact .unsent rfl
  | passthrough _ => exact window_writes written

theorem timers (made : site.Makes rule) (armed : (var, value) ∈ rule.timers) :
    site.Arms rule var value := by
  cases made with
  | triggerRollover triggers _ | trigger triggers =>
    cases List.mem_singleton.1 armed
    exact .on triggers (List.mem_singleton_self _)
  | source _ =>
    cases List.mem_singleton.1 armed
    exact .ready rfl
  | _ => cases armed

theorem resets (made : site.Makes rule) (reset : (var, value) ∈ rule.resets) :
    site.Resets rule var value := by
  cases made with
  | triggerRollover triggers _ | trigger triggers =>
    cases List.mem_singleton.1 reset
    exact .off triggers
  | source _ =>
    rw [HomeRowRules.source_resets] at reset
    simp only [List.mem_cons, Prod.mk.injEq, List.not_mem_nil, or_false] at reset
    rcases reset with ⟨rfl, rfl⟩ | ⟨rfl, rfl⟩ | ⟨rfl, rfl⟩
    · exact .held rfl
    · exact .ready rfl
    · exact .sent rfl
  | _ => cases reset

end Site.Makes
end TapHold
