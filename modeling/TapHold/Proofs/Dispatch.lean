import Mathlib.Data.List.Find
import TapHold.Proofs.FirstFit
import TapHold.Proofs.RuleShapes
import TapHold.Proofs.SoundConfig

namespace TapHold
namespace LayerRules

def ParentOn (now : Valuation) (layer : Layer) : Prop :=
  ∀ parent ∈ layer.parent, now (.active parent) = 1

instance (now : Valuation) (layer : Layer) : Decidable (ParentOn now layer) :=
  inferInstanceAs (Decidable (∀ parent ∈ layer.parent, _))

-- The layer has something to send for the key, and is in a state to do so.
def Sends (site : Site) (now : Valuation) (entry : String × Layer) : Prop :=
  (resolve site.config entry.2 site.key).isSome ∧ now (.active entry.1) = 1 ∧
    (entry.2.handoff ∨ ParentOn now entry.2)

instance (site : Site) (now : Valuation) (entry : String × Layer) :
    Decidable (Sends site now entry) :=
  inferInstanceAs (Decidable (_ ∧ _))

def Swallows (site : Site) (now : Valuation) (entry : String × Layer) : Prop :=
  resolve site.config entry.2 site.key = none ∧ now (.active entry.1) = 1

instance (site : Site) (now : Valuation) (entry : String × Layer) :
    Decidable (Swallows site now entry) :=
  inferInstanceAs (Decidable (_ ∧ _))

def MidRoll (now : Valuation) (held : Key) : Prop :=
  now (.held held) = 1 ∧ now (.heldReady held) = 0 ∧ now (.outputted held) = 0

instance (now : Valuation) (held : Key) : Decidable (MidRoll now held) :=
  inferInstanceAs (Decidable (_ ∧ _))

def sends? (site : Site) (now : Valuation) : Option Rule :=
  ((childrenFirst site.config).find? fun entry => Sends site now entry).bind fun (name, layer) =>
    (resolve site.config layer site.key).map (bound site name layer)

def swallows? (site : Site) (now : Valuation) : Option Rule :=
  ((childrenFirst site.config).find? fun entry => Swallows site now entry).map fun (name, _) =>
    swallowed site name

def typed (site : Site) : Rule :=
  ⟨.passthrough, .bare site.key, [], site.streak ++ [.emit (.plain site.key)]⟩

-- The decision for a key that triggers no layer: each only where those before it come to nothing.
def decided (site : Site) (now : Valuation) : Option Rule :=
  (sends? site now).or <| (swallows? site now).or <|
    (firstFit none now (HomeRowRules.rules site)).or <| some (typed site)

def triggered (site : Site) (now : Valuation) (name : String) (layer : Layer) : Option Rule :=
  if ParentOn now layer then
    ((site.config.homeRow.keys.find? fun held => MidRoll now held).map
      (rollover site name layer)).or <| some (trigger site name layer)
  else firstFit none now (HomeRowRules.rules site)

section
variable {site : Site} {now : Valuation}

theorem gate_holds {layer : Layer} :
    (∀ c ∈ gate layer, c.Holds now) ↔ ParentOn now layer := by
  cases parent : layer.parent <;> simp [gate, ParentOn, parent, isActive, Condition.Holds]

theorem needs_hold {name : String} {layer : Layer} :
    (∀ c ∈ needs name layer, c.Holds now) ↔
      now (.active name) = 1 ∧ (layer.handoff ∨ ParentOn now layer) := by
  rw [needs, List.forall_mem_cons]
  refine and_congr Iff.rfl ?_
  cases free : layer.handoff with
  | true => simp
  | false => simpa using gate_holds

theorem binding_any (entry : String × Layer) :
    (binding? site entry).any (fun rule => rule.Fits none now) = decide (Sends site now entry) := by
  obtain ⟨name, layer⟩ := entry
  rw [Bool.eq_iff_iff, decide_eq_true_iff, Sends]
  cases sent : resolve site.config layer site.key with
  | none => simp [binding?, sent]
  | some stroke => simp [binding?, sent, bound, Rule.fits_bare, needs_hold]

theorem bindings_first :
    firstFit none now ((childrenFirst site.config).filterMap (binding? site)) =
      sends? site now := by
  rw [firstFit_filterMap, sends?]
  simp only [binding_any]
  rfl

theorem swallows_first (free : ∀ entry ∈ site.config.layers.entries, entry.2.trigger ≠ site.key) :
    firstFit none now ((childrenFirst site.config).filterMap (swallow? site)) =
      swallows? site now := by
  have asked : ∀ entry ∈ childrenFirst site.config,
      (swallow? site entry).any (fun rule => rule.Fits none now) =
        decide (Swallows site now entry) := by
    intro entry member
    have other := free entry (childrenFirst_member member)
    rw [Bool.eq_iff_iff, decide_eq_true_iff, Swallows]
    cases sent : resolve site.config entry.2 site.key with
    | none =>
      simp [swallow?, sent, other, swallowed, Rule.fits_bare, isActive, Condition.Holds]
    | some stroke => simp [swallow?, sent]
  rw [firstFit_filterMap, swallows?, List.find?_congr asked]
  cases found : (childrenFirst site.config).find? fun entry => Swallows site now entry with
  | none => rfl
  | some entry =>
    have silent : Swallows site now entry := by simpa using List.find?_some found
    have other := free entry (childrenFirst_member (List.mem_of_find?_eq_some found))
    simp [swallow?, silent.1, other]

theorem rollover_fits {name : String} {layer : Layer} {held : Key} :
    (rollover site name layer held).Fits none now ↔ ParentOn now layer ∧ MidRoll now held := by
  rw [rollover, Rule.fits_bare, List.forall_mem_append, gate_holds]
  simp [MidRoll, Condition.Holds]

theorem trigger_fits {name : String} {layer : Layer} :
    (trigger site name layer).Fits none now ↔ ParentOn now layer := by
  rw [trigger, Rule.fits_bare, gate_holds]

theorem triggerRules_first {name : String} {layer : Layer} :
    firstFit none now (triggerRules site name layer) =
      if ParentOn now layer then
        ((site.config.homeRow.keys.find? fun held => MidRoll now held).map
          (rollover site name layer)).or <| some (trigger site name layer)
      else none := by
  rw [triggerRules, firstFit_append, firstFit_map, firstFit_cons, firstFit_nil]
  by_cases reached : ParentOn now layer
  · simp only [rollover_fits, trigger_fits, reached, true_and, if_true]
  · simp [rollover_fits, trigger_fits, reached]

end

section
variable {config : Config} {layout : Layout} {key : Key} {now : Valuation}

theorem standard_rules (site : Site) :
    Pipeline.standard.rules site =
      rules site ++ HomeRowRules.rules site ++ Pass.passthrough site := by
  simp [Pipeline.rules, Pipeline.standard, Pass.rules]

theorem isTrigger_iff :
    (Keymap.siteOf config layout key).isTrigger = true ↔
      ∃ entry ∈ config.layers.entries, entry.2.trigger = key := by
  simp [Site.isTrigger, Keymap.siteOf, Config.triggers, Dict.values]

theorem rules_plain (missed : config.layerTriggeredBy? key = none) :
    rules (Keymap.siteOf config layout key) = bindingRules (Keymap.siteOf config layout key) := by
  rw [rules, Keymap.siteOf, missed]

theorem rules_triggered {entry : String × Layer}
    (found : config.layerTriggeredBy? key = some entry) :
    rules (Keymap.siteOf config layout key) =
      triggerRules (Keymap.siteOf config layout key) entry.1 entry.2 := by
  rw [rules, Keymap.siteOf, found]

theorem untriggered_rules (free : ∀ entry ∈ config.layers.entries, entry.2.trigger ≠ key) :
    rules (Keymap.siteOf config layout key) = bindingRules (Keymap.siteOf config layout key) :=
  rules_plain (List.find?_eq_none.2 fun entry member => by simpa using free entry member)

theorem decided_first (free : ∀ entry ∈ config.layers.entries, entry.2.trigger ≠ key) :
    firstFit none now (Pipeline.standard.rules (Keymap.siteOf config layout key)) =
      decided (Keymap.siteOf config layout key) now := by
  have types : Pass.passthrough (Keymap.siteOf config layout key) =
      [typed (Keymap.siteOf config layout key)] := by
    have plain : ¬ (Keymap.siteOf config layout key).isTrigger = true := by
      rintro triggers
      obtain ⟨entry, member, same⟩ := isTrigger_iff.1 triggers
      exact free entry member same
    rw [Pass.passthrough, if_neg plain]
    rfl
  have last : firstFit none now [typed (Keymap.siteOf config layout key)] =
      some (typed (Keymap.siteOf config layout key)) := by
    rw [firstFit_cons, if_pos]
    simp [typed, Rule.fits_bare]
  rw [standard_rules, untriggered_rules free, types, bindingRules, firstFit_append,
    firstFit_append, firstFit_append, bindings_first, swallows_first free, last, decided]
  simp only [Option.or_assoc]

theorem triggered_first (sound : config.SoundOn layout) {name : String} {layer : Layer}
    (member : (name, layer) ∈ config.layers.entries) (same : layer.trigger = key) :
    firstFit none now (Pipeline.standard.rules (Keymap.siteOf config layout key)) =
      triggered (Keymap.siteOf config layout key) now name layer := by
  have triggers : config.layerTriggeredBy? key = some (name, layer) :=
    same ▸ sound.layerTriggeredBy_entry member
  have silent : Pass.passthrough (Keymap.siteOf config layout key) = [] := by
    rw [Pass.passthrough, if_pos (isTrigger_iff.2 ⟨_, member, same⟩)]
  rw [standard_rules, rules_triggered triggers, silent, List.append_nil, firstFit_append,
    triggerRules_first, triggered]
  -- while the parent is off no rule of the trigger fits, and the home row is left to decide
  by_cases reached : ParentOn now layer
  · simp only [if_pos reached]
    cases (Keymap.siteOf config layout key).config.homeRow.keys.find?
      fun held => MidRoll now held <;> rfl
  · simp only [if_neg reached, Option.none_or]

end

theorem whole_key_dispatch {config : Config} {findings : List Finding}
    (valid : config.validate = .ok findings) :
    ∃ keymap layout, Keymap.compile config = .ok keymap ∧
      Layout.parse config.layout = .ok layout ∧
      ∀ (key : Key) (set : RuleSet) (now : Valuation), keymap.rulesFor? key = some set →
        ((∀ entry ∈ config.layers.entries, entry.2.trigger ≠ key) →
          firstFit none now set.rules = decided (Keymap.siteOf config layout key) now) ∧
        (∀ name layer, (name, layer) ∈ config.layers.entries → layer.trigger = key →
          firstFit none now set.rules =
            triggered (Keymap.siteOf config layout key) now name layer) ∧
        ∀ site : Site,
          (∀ name layer stroke, (bound site name layer stroke).kind = .layerBinding ∧
            (bound site name layer stroke).outputs = [stroke]) ∧
          (∀ name, (swallowed site name).kind = .layerSwallow ∧
            (swallowed site name).outputs = []) ∧
          (∀ name layer held, (rollover site name layer held).kind = .triggerRollover) ∧
          (∀ name layer, (trigger site name layer).kind = .trigger) ∧
          (typed site).kind = .passthrough ∧ (typed site).outputs = [.plain site.key] := by
  obtain ⟨layout, sound, compiled⟩ := Keymap.compile_valid valid
  refine ⟨_, layout, compiled, sound.parsed, ?_⟩
  intro key set now ruled
  rw [Keymap.rulesFor_ofLayout] at ruled
  split at ruled
  · cases ruled
    refine ⟨decided_first, fun name layer => triggered_first sound, ?_⟩
    intro site
    exact ⟨fun _ _ _ => ⟨rfl, rfl⟩, fun _ => ⟨rfl, rfl⟩, fun _ _ _ => rfl, fun _ _ => rfl, rfl, rfl⟩
  · cases ruled

theorem inherited_binding_first :
    ∃ keymap layout set, Keymap.compile Small.config = .ok keymap ∧
      Layout.parse Small.config.layout = .ok layout ∧ keymap.rulesFor? ⟨"k"⟩ = some set ∧
      firstFit none (fun var => if var = .active "nav" ∨ var = .active "sub" then 1 else 0)
        set.rules = some
          (bound (Keymap.siteOf Small.config layout ⟨"k"⟩) "sub" Small.sub (.plain ⟨"left"⟩)) := by
  obtain ⟨keymap, layout, compiled, parsed, dispatch⟩ := whole_key_dispatch Small.config_valid
  cases compiled.symm.trans Small.config_compiled
  cases parsed.symm.trans Small.config_sound.parsed
  refine ⟨_, _, _, Small.config_compiled, Small.config_sound.parsed, rfl, ?_⟩
  rw [(dispatch ⟨"k"⟩ _ _ rfl).1 (by decide)]
  decide

end LayerRules
end TapHold
