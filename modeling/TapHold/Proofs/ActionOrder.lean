import Mathlib.Data.List.Basic
import TapHold.Proofs.RuleWrites
import TapHold.Proofs.SoundConfig

namespace TapHold
open HomeRowRules LayerRules

namespace HomeRowRules

def ownState (site : Site) : List Action :=
  [.setVar (.held site.key) (.int 1),
    .setVar (.heldReady site.key) (.int 0),
    .setVar (.outputted site.key) (.int 0),
    .setWhenHeld (.heldReady site.key) (.int 1) site.config.timing.homeRowHold,
    .setOnRelease (.held site.key) (.int 0),
    .setOnRelease (.heldReady site.key) (.int 0),
    .setOnRelease (.outputted site.key) (.int 0),
    .emitIfAlone (.plain site.key)]

end HomeRowRules

structure Rule.Rolls (rule : Rule) (held : Key) : Prop where
  kind : rule.kind = .triggerRollover ∨ rule.kind = .rollover ∨ rule.kind = .sameHandRollover
  down : ⟨.held held, 1⟩ ∈ rule.conditions
  unsent : ⟨.outputted held, 0⟩ ∈ rule.conditions

-- What a rule of the site may do once the window is up to date.
inductive Site.Follows (site : Site) (rule : Rule) : List Action → Prop where
  | sends (stroke : Stroke) : Follows site rule [.emit stroke]
  | sendsBoth (rolls : rule.Rolls held) (other : held ≠ site.key) :
      Follows site rule
        [.emit (.plain held), .emit (.plain site.key), .setVar (.outputted held) (.int 1)]
  | switches (kind : rule.kind = .trigger)
      (triggers : site.config.layerTriggeredBy? site.key = some (name, layer)) :
      Follows site rule (switch site name)
  -- the trigger may be the very key that is down, if it is a home-row key
  | sendsAndSwitches (kind : rule.kind = .triggerRollover) (rolls : rule.Rolls held)
      (triggers : site.config.layerTriggeredBy? site.key = some (name, layer)) :
      Follows site rule
        (.emit (.plain held) :: .setVar (.outputted held) (.int 1) :: switch site name)
  | keeps (kind : rule.kind = .source) : Follows site rule (ownState site)

namespace Site
variable {site : Site} {rule : Rule}

theorem opposite_other {entry : Key × Modifier} (member : entry ∈ site.opposite) :
    entry.1 ≠ site.key := by
  have other := (List.mem_filter.1 (List.mem_filter.1 member).1).2
  exact of_decide_eq_true other

theorem sameHand_other {held : Key} (member : held ∈ site.sameHand) : held ≠ site.key := by
  obtain ⟨entry, inside, rfl⟩ := List.mem_map.1 member
  have other := (List.mem_filter.1 (List.mem_filter.1 inside).1).2
  exact of_decide_eq_true other

theorem typeBoth_rolls {kind : RuleKind} {held : Key} {conditions : List Condition}
    (rolls : kind = .rollover ∨ kind = .sameHandRollover) (down : ⟨.held held, 1⟩ ∈ conditions)
    (unsent : ⟨.outputted held, 0⟩ ∈ conditions) :
    (typeBoth site kind held conditions).Rolls held := ⟨.inr rolls, down, unsent⟩

theorem rollover_rolls {name : String} {layer : Layer} {held : Key} :
    (LayerRules.rollover site name layer held).Rolls held :=
  ⟨.inl rfl, by simp [LayerRules.rollover], by simp [LayerRules.rollover]⟩

theorem Makes.actions (made : site.Makes rule) :
    (rule.kind = .layerSwallow ∧ rule.actions = [.swallow]) ∨
      ∃ rest, rule.actions = site.streak ++ rest ∧ site.Follows rule rest := by
  cases made with
  | layerSwallow _ _ => exact .inl ⟨rfl, rfl⟩
  | triggerRollover triggers _ =>
    refine .inr ⟨_, List.append_assoc _ _ _, ?_⟩
    exact .sendsAndSwitches rfl rollover_rolls triggers
  | trigger triggers => exact .inr ⟨_, rfl, .switches rfl triggers⟩
  | layerBinding _ _ | activation _ | rolled _ | rolledBeside _ | modifierPassthrough _
  | passthrough _ => exact .inr ⟨_, rfl, .sends _⟩
  | rolls member =>
    refine .inr ⟨_, rfl, .sendsBoth ?_ (opposite_other member)⟩
    exact typeBoth_rolls (.inl rfl) (by simp) (by simp)
  | rollsBeside member =>
    refine .inr ⟨_, rfl, .sendsBoth ?_ (sameHand_other member)⟩
    exact typeBoth_rolls (.inr rfl) (by simp) (by simp)
  | source _ => exact .inr ⟨_, rfl, .keeps rfl⟩

end Site

def Action.SparesWindow (action : Action) : Prop :=
  action.var? ≠ some .isTypingStreak ∧ action.var? ≠ some .streakExpiry

namespace Site.Follows
variable {site : Site} {rule : Rule} {rest : List Action}

theorem spares (follows : site.Follows rule rest) : ∀ action ∈ rest, action.SparesWindow := by
  cases follows <;> simp [Action.SparesWindow, Action.var?, switch, ownState]

theorem outputs (follows : site.Follows rule rest) : ∃ action ∈ rest, action.isOutput = true := by
  cases follows <;> simp [Action.isOutput, Action.stroke?, switch, ownState]

end Site.Follows

namespace Streak

theorem isUpdate_spares {action : Action} (spares : action.SparesWindow) :
    isUpdate action = false := by
  unfold isUpdate
  split
  · exact absurd rfl spares.1
  · exact absurd rfl spares.2
  · rfl

theorem leads_updates {window : Nat} {rest : List Action}
    (spares : ∀ action ∈ rest, action.SparesWindow) : leads (updates window ++ rest) = true := by
  have none : rest.any isUpdate = false := by
    rw [List.any_eq_false]
    intro action member
    rw [isUpdate_spares (spares action member)]
    decide
  change (!rest.any isUpdate) = true
  rw [none]
  rfl

end Streak

-- For every site, of a sound configuration or not, and for passes in any order, however often.
theorem window_updated_first (passes : Pipeline) (site : Site) :
    ∀ rule ∈ passes.rules site,
      ((rule.kind = .layerSwallow ∧ rule.actions = [.swallow]) ∨
        (∃ action ∈ rule.actions, action.isOutput = true) ∧
          ∃ rest, rule.actions = Streak.updates site.config.timing.streakWindow ++ rest ∧
            ∀ action ∈ rest, action.SparesWindow) ∧
      (Streak.leads rule.actions = true ↔ ∃ action ∈ rule.actions, action.isOutput = true) := by
  intro rule member
  rcases (Pipeline.makes_rules member).actions with ⟨kind, silent⟩ | ⟨rest, same, follows⟩
  · refine ⟨.inl ⟨kind, silent⟩, ?_⟩
    rw [silent]
    decide
  · obtain ⟨action, inside, sends⟩ := follows.outputs
    have output : ∃ action ∈ rule.actions, action.isOutput = true :=
      ⟨action, same ▸ List.mem_append_right _ inside, sends⟩
    have leads : Streak.leads rule.actions = true := by
      rw [same]
      exact Streak.leads_updates follows.spares
    exact ⟨.inr ⟨output, rest, same, follows.spares⟩, iff_of_true leads output⟩

theorem trigger_roll_updates_window :
    let site := Keymap.siteOf Small.config Small.layout ⟨"j"⟩
    let rule := LayerRules.rollover site "sub" Small.sub ⟨"a"⟩
    rule ∈ Pipeline.rules [.layers, .homeRow, .layers] site ∧ rule.actions.length = 8 ∧
      (∃ rest, rule.actions = Streak.updates 150 ++ rest ∧ ∀ action ∈ rest, action.SparesWindow) ∧
      Streak.leads rule.actions = true := by
  intro site rule
  have member : rule ∈ Pipeline.rules [.layers, .homeRow, .layers] site := by decide
  have length : rule.actions.length = 8 := by decide
  obtain ⟨silent | ⟨output, led⟩, leads⟩ := window_updated_first _ site rule member
  · cases silent.1
  · exact ⟨member, length, led, leads.2 output⟩

end TapHold
