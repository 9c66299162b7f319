import TapHold.Proofs.Dispatch

namespace TapHold

def Expr.retime (old new : Timing) : Expr → Expr
  | int n => int n
  | streakActive => streakActive
  | nowPlus ms => if ms = old.streakWindow then nowPlus new.streakWindow else nowPlus ms

def StateVar.holdTime (new : Timing) (threshold : Nat) : StateVar → Nat
  | heldReady _ => new.homeRowHold
  | active _ => new.layerHold
  | held _ | outputted _ | isTypingStreak | streakExpiry => threshold

def Action.retime (old new : Timing) : Action → Action
  | setVar var value => setVar var (value.retime old new)
  | setWhenHeld var value threshold =>
    setWhenHeld var (value.retime old new) (var.holdTime new threshold)
  | setOnRelease var value => setOnRelease var (value.retime old new)
  | emit stroke => emit stroke
  | swallow => swallow
  | emitIfAlone stroke => emitIfAlone stroke

def Rule.retime (old new : Timing) (rule : Rule) : Rule :=
  { rule with actions := rule.actions.map (Action.retime old new) }

def RuleSet.retime (old new : Timing) (set : RuleSet) : RuleSet :=
  { set with rules := set.rules.map (Rule.retime old new) }

def Site.setTiming (site : Site) (timing : Timing) : Site :=
  { site with config := site.config.setTiming timing }

def Timing.findings (timing : Timing) : List Finding :=
  if timing.homeRowHold = timing.layerHold then []
  else [.thresholdsDiffer timing.homeRowHold timing.layerHold]

section
variable (site : Site) (timing : Timing)

theorem Rule.retime_outputs (rule : Rule) (old new : Timing) :
    (rule.retime old new).outputs = rule.outputs := by
  unfold outputs retime
  rw [List.filterMap_map]
  refine List.filterMap_congr fun action _ => ?_
  cases action <;> rfl

theorem Site.retime_streak : (site.setTiming timing).streak =
    site.streak.map (Action.retime site.config.timing timing) := by
  simp [streak, Streak.updates, setTiming, Config.setTiming, Action.retime, Expr.retime]

-- A rule that begins with the updates of the typing window: these follow the new window, and the
-- rest is looked at by itself.
theorem Rule.retime_led (kind : RuleKind) (press : Press) (conditions : List Condition)
    (rest : List Action) :
    Rule.retime site.config.timing timing ⟨kind, press, conditions, site.streak ++ rest⟩ =
      ⟨kind, press, conditions,
        (site.setTiming timing).streak ++ rest.map (Action.retime site.config.timing timing)⟩ := by
  rw [retime, List.map_append, Site.retime_streak]

namespace HomeRowRules

theorem retime_activation (chord : List (Key × Modifier)) :
    activation (site.setTiming timing) chord =
      (activation site chord).retime site.config.timing timing := by
  unfold activation
  rw [Rule.retime_led]
  rfl

theorem retime_typeBoth (kind : RuleKind) (held : Key) (conditions : List Condition) :
    typeBoth (site.setTiming timing) kind held conditions =
      (typeBoth site kind held conditions).retime site.config.timing timing := by
  unfold typeBoth
  rw [Rule.retime_led]
  rfl

theorem retime_typeOne (kind : RuleKind) (held : Key) :
    typeOne (site.setTiming timing) kind held =
      (typeOne site kind held).retime site.config.timing timing := by
  unfold typeOne
  rw [Rule.retime_led]
  rfl

theorem retime_modifierPassthrough (m : Modifier) :
    modifierPassthrough (site.setTiming timing) m =
      (modifierPassthrough site m).retime site.config.timing timing := by
  unfold modifierPassthrough
  rw [Rule.retime_led]
  rfl

theorem retime_source :
    source (site.setTiming timing) = (source site).retime site.config.timing timing := by
  unfold source
  rw [Rule.retime_led]
  rfl

theorem retime_rollover (held : Key) : rollover (site.setTiming timing) held =
    (rollover site held).map (Rule.retime site.config.timing timing) := by
  rw [rollover, retime_typeBoth, retime_typeOne]
  rfl

theorem retime_sameHandRollover (held : Key) : sameHandRollover (site.setTiming timing) held =
    (sameHandRollover site held).map (Rule.retime site.config.timing timing) := by
  rw [sameHandRollover, retime_typeBoth, retime_typeOne]
  rfl

theorem retime_rules : rules (site.setTiming timing) =
    (rules site).map (Rule.retime site.config.timing timing) := by
  have opposite : (site.setTiming timing).opposite = site.opposite := rfl
  have sameHand : (site.setTiming timing).sameHand = site.sameHand := rfl
  have homeRow : (site.setTiming timing).isHomeRow = site.isHomeRow := rfl
  unfold rules activations
  rw [opposite, sameHand, homeRow]
  simp only [List.map_append, List.map_map, List.map_flatMap, apply_ite (List.map _),
    List.map_cons, List.map_nil, Function.comp_def, ← retime_activation, ← retime_rollover,
    ← retime_sameHandRollover, ← retime_modifierPassthrough, ← retime_source]

end HomeRowRules

namespace LayerRules

theorem retime_rollover (name : String) (layer : Layer) (held : Key) :
    rollover (site.setTiming timing) name layer held =
      (rollover site name layer held).retime site.config.timing timing := by
  unfold rollover
  rw [List.append_assoc, List.append_assoc, Rule.retime_led]
  rfl

theorem retime_trigger (name : String) (layer : Layer) :
    trigger (site.setTiming timing) name layer =
      (trigger site name layer).retime site.config.timing timing := by
  unfold trigger
  rw [Rule.retime_led]
  rfl

theorem retime_bound (name : String) (layer : Layer) (stroke : Stroke) :
    bound (site.setTiming timing) name layer stroke =
      (bound site name layer stroke).retime site.config.timing timing := by
  unfold bound
  rw [Rule.retime_led]
  rfl

theorem retime_triggerRules (name : String) (layer : Layer) :
    triggerRules (site.setTiming timing) name layer =
      (triggerRules site name layer).map (Rule.retime site.config.timing timing) := by
  have keys : (site.setTiming timing).config.homeRow.keys = site.config.homeRow.keys := rfl
  unfold triggerRules
  rw [keys]
  simp only [List.map_append, List.map_map, List.map_cons, List.map_nil, Function.comp_def,
    ← retime_rollover, ← retime_trigger]

theorem retime_binding (entry : String × Layer) : binding? (site.setTiming timing) entry =
    (binding? site entry).map (Rule.retime site.config.timing timing) := by
  obtain ⟨name, layer⟩ := entry
  have sent : resolve (site.setTiming timing).config layer (site.setTiming timing).key =
      resolve site.config layer site.key := rfl
  rw [binding?, binding?, sent, Option.map_map]
  exact congrArg (Option.map · _) (funext (retime_bound site timing name layer))

theorem retime_swallow (entry : String × Layer) : swallow? (site.setTiming timing) entry =
    (swallow? site entry).map (Rule.retime site.config.timing timing) := by
  obtain ⟨name, layer⟩ := entry
  rw [swallow?, swallow?, apply_ite (Option.map _)]
  rfl

theorem retime_bindingRules : bindingRules (site.setTiming timing) =
    (bindingRules site).map (Rule.retime site.config.timing timing) := by
  have layers : childrenFirst (site.setTiming timing).config = childrenFirst site.config := rfl
  unfold bindingRules
  rw [layers, List.map_append, List.map_filterMap, List.map_filterMap]
  simp only [← retime_binding, ← retime_swallow]

theorem retime_rules : rules (site.setTiming timing) =
    (rules site).map (Rule.retime site.config.timing timing) := by
  have same : (site.setTiming timing).config.layerTriggeredBy? (site.setTiming timing).key =
      site.config.layerTriggeredBy? site.key := rfl
  unfold rules
  rw [same]
  cases site.config.layerTriggeredBy? site.key with
  | some entry => exact retime_triggerRules site timing entry.1 entry.2
  | none => exact retime_bindingRules site timing

end LayerRules

theorem Pass.retime_passthrough : passthrough (site.setTiming timing) =
    (passthrough site).map (Rule.retime site.config.timing timing) := by
  have triggers : (site.setTiming timing).isTrigger = site.isTrigger := rfl
  unfold passthrough
  rw [triggers, apply_ite (List.map _), List.map_singleton, Rule.retime_led]
  rfl

theorem Pipeline.retime_rules : standard.rules (site.setTiming timing) =
    (standard.rules site).map (Rule.retime site.config.timing timing) := by
  rw [LayerRules.standard_rules, LayerRules.standard_rules, List.map_append, List.map_append,
    LayerRules.retime_rules, HomeRowRules.retime_rules, Pass.retime_passthrough]

end

-- The two configurations are sound, each with its own times, and differ in these alone. What
-- becomes of a rule leaves its kind, its press and its conditions as they are, and what it sends.
theorem timing_change_local {config : Config} {timing : Timing} {findings findings' : List Finding}
    (valid : config.validate = .ok findings)
    (valid' : (config.setTiming timing).validate = .ok findings') :
    ∃ keymap retimed common, Keymap.compile config = .ok keymap ∧
      Keymap.compile (config.setTiming timing) = .ok retimed ∧
      retimed.sets = keymap.sets.map (RuleSet.retime config.timing timing) ∧
      (∀ rule : Rule, (rule.retime config.timing timing).outputs = rule.outputs) ∧
      keymap.findings = common ++ config.timing.findings ∧
      retimed.findings = common ++ timing.findings := by
  obtain ⟨layout, sound, compiled⟩ := Keymap.compile_valid valid
  obtain ⟨layout', sound', compiled'⟩ := Keymap.compile_valid valid'
  cases sound.parsed.symm.trans sound'.parsed
  refine ⟨_, _, _, compiled, compiled', ?_, fun rule => rule.retime_outputs _ _, rfl, rfl⟩
  unfold Keymap.ofLayout
  rw [List.map_map]
  refine List.map_congr_left fun key _ => ?_
  exact congrArg (RuleSet.mk key)
    (Pipeline.retime_rules (Keymap.siteOf config layout key) timing)

namespace Small

def slow : Timing := ⟨200, 300, 90⟩

theorem slow_valid : (config.setTiming slow).validate =
    .ok [.triggerIsHomeRow "sub" ⟨"j"⟩, .thresholdsDiffer 300 90] := by decide

end Small

theorem small_keymap_slowed :
    ∃ keymap slowed, Keymap.compile Small.config = .ok keymap ∧
      Keymap.compile (Small.config.setTiming Small.slow) = .ok slowed ∧
      slowed.sets = keymap.sets.map (RuleSet.retime .standard Small.slow) ∧
      keymap.findings = [.triggerIsHomeRow "sub" ⟨"j"⟩, .thresholdsDiffer 150 120] ∧
      slowed.findings = [.triggerIsHomeRow "sub" ⟨"j"⟩, .thresholdsDiffer 300 90] := by
  obtain ⟨keymap, slowed, common, compiled, compiled', sets, _, findings, findings'⟩ :=
    timing_change_local Small.config_valid Small.slow_valid
  cases compiled.symm.trans Small.config_compiled
  have reported : [.triggerIsHomeRow "sub" ⟨"j"⟩] ++ [.thresholdsDiffer 150 120] =
      common ++ [.thresholdsDiffer 150 120] := findings
  cases List.append_cancel_right reported
  exact ⟨_, slowed, compiled, compiled', sets, rfl, findings'⟩

end TapHold
