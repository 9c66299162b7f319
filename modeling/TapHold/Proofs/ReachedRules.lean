import TapHold.Proofs.KeymapShape
import TapHold.Proofs.SparedRules

namespace TapHold

-- The rule at this place is the first that fits the press.
def RuleSet.Reaches (set : RuleSet) (modifier : Option Modifier) (now : Valuation)
    (place : Nat) : Prop :=
  set.rules.findIdx? (fun rule => rule.Fits modifier now) = some place

namespace RuleSet
variable {set : RuleSet} {place : Nat} {rule : Rule}

theorem reaches_asked {hidden : Rule → Prop}
    (spared : set.rules.Pairwise fun earlier later => ¬ hidden later → earlier.Spares later)
    (here : set.rules[place]? = some rule) (consistent : rule.Consistent) (seen : ¬ hidden rule) :
    set.Reaches rule.press.modifier rule.asked place := by
  obtain ⟨within, rfl⟩ := List.getElem?_eq_some_iff.1 here
  rw [Reaches, List.findIdx?_eq_some_iff_getElem]
  refine ⟨within, decide_eq_true (Rule.fits_asked consistent), fun ahead before => ?_⟩
  have spares := List.pairwise_iff_getElem.1 spared ahead place (Nat.lt_trans before within) within
    before seen
  exact mt of_decide_eq_true spares

-- A bare rule that asks for nothing leaves no bare press to the kinds behind its own.
theorem hidden_behind {first : Rule} {modifier : Option Modifier} {now : Valuation}
    (ordered : set.rules.Pairwise fun earlier later => earlier.kind.MayPrecede later.kind)
    (member : first ∈ set.rules) (bare : first.press.modifier = none)
    (free : first.conditions = []) (here : set.rules[place]? = some rule)
    (bare' : rule.press.modifier = none) (before : first.kind.place < rule.kind.place) :
    ¬ set.Reaches modifier now place := by
  obtain ⟨ahead, inside, rfl⟩ := List.getElem_of_mem member
  obtain ⟨_, rfl⟩ := List.getElem?_eq_some_iff.1 here
  have precede := List.pairwise_iff_getElem.1 (precede_of_place ordered before)
  rw [Reaches, List.findIdx?_eq_some_iff_getElem]
  rintro ⟨within, fits, missed⟩
  have earlier : ahead < place := by
    rcases Nat.lt_trichotomy ahead place with earlier | rfl | later
    · exact earlier
    · exact absurd before (Nat.lt_irrefl _)
    · exact absurd ⟨rfl, rfl⟩ (precede place ahead within inside later)
  have unmodified : modifier = none := (of_decide_eq_true fits).1.symm.trans bare'
  refine missed ahead earlier (decide_eq_true ⟨bare.trans unmodified.symm, ?_⟩)
  rw [free]
  exact nofun

end RuleSet

theorem RuleKind.trigger_before {kind : RuleKind} (stage : kind.stage = .homeRow) :
    trigger.place < kind.place := by
  revert stage
  cases kind <;> decide

section
variable {config : Config} {layout : Layout} {key : Key} {place : Nat} {rule : Rule}

theorem unburied_reached (flat : config.Flat)
    (here : (Keymap.setOf .standard config layout key).rules[place]? = some rule)
    (seen : ¬ rule.Buried config key) :
    (Keymap.setOf .standard config layout key).Reaches rule.press.modifier rule.asked place := by
  have made : (Keymap.siteOf config layout key).Makes rule :=
    Pipeline.makes_rules (List.mem_of_getElem? here)
  exact RuleSet.reaches_asked (standard_spared flat) here made.consistent seen

theorem buried_hidden (sound : config.SoundOn layout)
    (here : (Keymap.setOf .standard config layout key).rules[place]? = some rule)
    (buried : rule.Buried config key) (modifier : Option Modifier) (now : Valuation) :
    ¬ (Keymap.setOf .standard config layout key).Reaches modifier now place := by
  have ordered := (Keymap.siteOf config layout key).standard_ordered
  have made : (Keymap.siteOf config layout key).Makes rule :=
    Pipeline.makes_rules (List.mem_of_getElem? here)
  rcases buried with ⟨last, homeRow⟩ | ⟨bare, stage, ⟨name, layer⟩, member, triggers, root⟩
  · have own : HomeRowRules.source (Keymap.siteOf config layout key) ∈
        Pipeline.standard.rules (Keymap.siteOf config layout key) := by
      have isHomeRow : (Keymap.siteOf config layout key).isHomeRow = true := decide_eq_true homeRow
      simp [LayerRules.standard_rules, HomeRowRules.rules, isHomeRow]
    have bare := made.bare (by simp [last])
    exact RuleSet.hidden_behind ordered own rfl rfl here bare (last ▸ of_decide_eq_true rfl)
  · have found : config.layerTriggeredBy? key = some (name, layer) :=
      triggers ▸ sound.layerTriggeredBy_entry member
    have first : LayerRules.trigger (Keymap.siteOf config layout key) name layer ∈
        Pipeline.standard.rules (Keymap.siteOf config layout key) := by
      simp [LayerRules.standard_rules, LayerRules.rules_triggered found, LayerRules.triggerRules]
    have free : LayerRules.gate layer = [] := by
      rw [LayerRules.gate, show layer.parent = none from root]
      rfl
    exact RuleSet.hidden_behind ordered first rfl free here bare (RuleKind.trigger_before stage)

end

theorem reached_unless_buried {config : Config} {findings : List Finding}
    (valid : config.validate = .ok findings) (flat : config.Flat) :
    ∃ keymap, Keymap.compile config = .ok keymap ∧
      ∀ (key : Key) (set : RuleSet), keymap.rulesFor? key = some set →
        ∀ (place : Nat) (rule : Rule), set.rules[place]? = some rule →
          ((∃ modifier now, set.Reaches modifier now place) ↔ ¬ rule.Buried config key) ∧
          (¬ rule.Buried config key → set.Reaches rule.press.modifier rule.asked place) := by
  obtain ⟨layout, sound, compiled⟩ := Keymap.compile_valid valid
  refine ⟨_, compiled, fun key set ruled place rule here => ?_⟩
  obtain ⟨_, rfl⟩ := Keymap.ruled_iff.1 ruled
  refine ⟨⟨?_, fun seen => ⟨_, _, unburied_reached flat here seen⟩⟩, unburied_reached flat here⟩
  rintro ⟨modifier, now, reached⟩ buried
  exact buried_hidden sound here buried modifier now reached

theorem small_rules_reached :
    ∃ keymap set rolling chord, Keymap.compile Small.config = .ok keymap ∧ Small.config.Flat ∧
      keymap.rulesFor? ⟨"space"⟩ = some set ∧
      set.rules[0]? = some rolling ∧ set.Reaches none rolling.asked 0 ∧
      set.rules[4]? = some chord ∧ chord.kind = .activation ∧
      ∀ modifier now, ¬ set.Reaches modifier now 4 := by
  have flat : Small.config.Flat := by decide
  obtain ⟨keymap, compiled, reached⟩ := reached_unless_buried Small.config_valid flat
  cases compiled.symm.trans Small.config_compiled
  refine ⟨_, _, _, _, compiled, flat, rfl, rfl, ?_, rfl, rfl, ?_⟩
  · exact (reached ⟨"space"⟩ _ rfl 0 _ rfl).2 (by decide)
  · intro modifier now reaches
    exact (reached ⟨"space"⟩ _ rfl 4 _ rfl).1.1 ⟨modifier, now, reaches⟩ (by decide)

end TapHold
