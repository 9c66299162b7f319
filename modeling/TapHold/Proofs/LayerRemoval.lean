import TapHold.Proofs.DictChanges
import TapHold.Proofs.KeymapShape

namespace TapHold

def Rule.opensOn (name : String) (rule : Rule) : Bool :=
  rule.conditions.head?.any (·.var = .active name)

def Rule.besides (name : String) (rules : List Rule) : List Rule :=
  rules.filter fun rule => !rule.opensOn name

namespace Rule
variable {name : String} {rules : List Rule}

theorem besides_append (front back : List Rule) :
    besides name (front ++ back) = besides name front ++ besides name back := List.filter_append ..

theorem besides_all (free : ∀ rule ∈ rules, rule.opensOn name = false) :
    besides name rules = rules := by
  unfold besides
  rw [List.filter_eq_self]
  intro rule member
  rw [free rule member]
  rfl

end Rule

namespace Config
variable {config : Config} {layout : Layout} {name : String} {layer : Layer}

def withoutLayer (config : Config) (name : String) : Config :=
  { config with layers := config.layers.erase name }

def Leaf (config : Config) (name : String) : Prop :=
  ∀ entry ∈ config.layers.entries, entry.2.parent ≠ some name

instance (config : Config) (name : String) : Decidable (config.Leaf name) :=
  inferInstanceAs (Decidable (∀ entry ∈ config.layers.entries, _))

theorem withoutLayer_entry {entry : String × Layer} :
    entry ∈ (config.withoutLayer name).layers.entries ↔
      entry ∈ config.layers.entries ∧ entry.1 ≠ name := by
  unfold withoutLayer Dict.erase
  rw [Dict.keep_entries, List.mem_filter, decide_eq_true_iff]

theorem withoutLayer_keys :
    (config.withoutLayer name).layers.keys = config.layers.keys.filter (· ≠ name) := Dict.keep_keys

theorem withoutLayer_get? {other : String} (differs : other ≠ name) :
    (config.withoutLayer name).layers.get? other = config.layers.get? other := by
  unfold withoutLayer Dict.erase
  rw [Dict.keep_get?, if_pos (decide_eq_true differs)]

theorem Leaf.parentOf (leaf : config.Leaf name) {child parent : String}
    (above : config.parentOf? child = some parent) : parent ≠ name := by
  obtain ⟨layer, got, isChild⟩ := Option.bind_eq_some_iff.1 above
  rintro rfl
  exact leaf _ (Dict.entry_of_get? got) isChild

theorem Faultless.withoutLayer (checks : config.Faultless layout) (leaf : config.Leaf name) :
    (config.withoutLayer name).Faultless layout := by
  refine ⟨checks.few, checks.placed, ?_, ?_, ?_, ?_, ?_⟩
  · intro entry member
    exact checks.named entry (withoutLayer_entry.1 member).1
  · intro entry member
    exact checks.spelled entry (withoutLayer_entry.1 member).1
  · intro entry member parent isChild
    have inside := (withoutLayer_entry.1 member).1
    rw [withoutLayer_keys, List.mem_filter, decide_eq_true_iff]
    refine ⟨checks.known entry inside parent isChild, ?_⟩
    rintro rfl
    exact leaf entry inside isChild
  · intro other member
    rw [withoutLayer_keys, List.mem_filter, decide_eq_true_iff] at member
    rw [lineage_congr config (config.withoutLayer name) (· ≠ name) ?_ ?_ _ member.2]
    · have fewer : (config.withoutLayer name).layers.size + 1 ≤ config.layers.size + 1 :=
        Nat.succ_le_succ Dict.keep_size
      exact (checks.climbs other member.1).sublist (lineage_extends fewer other).sublist
    · intro other differs
      rw [parentOf?, withoutLayer_get? differs]
      rfl
    · exact fun _ _ _ above => leaf.parentOf above
  · unfold triggers Dict.values Config.withoutLayer Dict.erase
    rw [Dict.keep_entries]
    exact checks.apart.sublist ((List.filter_sublist.map _).map _)

theorem SoundOn.withoutLayer (sound : config.SoundOn layout) (leaf : config.Leaf name) :
    (config.withoutLayer name).SoundOn layout :=
  ⟨sound.parsed, sound.timed, faultsOn_nil.2 (sound.checks.withoutLayer leaf)⟩

section
variable (member : (name, layer) ∈ config.layers.entries) {key : Key}
  (differs : key ≠ layer.trigger)
include member differs

theorem withoutLayer_triggered {entry : String × Layer} (inside : entry ∈ config.layers.entries)
    (triggers : entry.2.trigger = key) : entry.1 ≠ name := by
  intro same
  cases List.inj_on_of_nodup_map config.layers.distinct inside member same
  exact differs triggers.symm

theorem withoutLayer_layerTriggeredBy :
    (config.withoutLayer name).layerTriggeredBy? key = config.layerTriggeredBy? key := by
  unfold layerTriggeredBy? withoutLayer Dict.erase
  rw [Dict.keep_entries, List.find?_filter]
  refine List.find?_congr fun entry inside => ?_
  by_cases triggers : entry.2.trigger = key
  · simp [triggers, withoutLayer_triggered member differs inside triggers]
  · simp [triggers]

theorem withoutLayer_triggers :
    key ∈ (config.withoutLayer name).triggers ↔ key ∈ config.triggers := by
  rw [← triggered_iff, ← triggered_iff, withoutLayer_layerTriggeredBy member differs]

end
end Config

namespace LayerRules
variable {site : Site} {name other : String} {layer : Layer}

-- The rules of a trigger open on the parent of its layer, if on any.
theorem rollover_opens {held : Key} :
    (rollover site other layer held).opensOn name = decide (layer.parent = some name) := by
  unfold Rule.opensOn rollover gate
  cases layer.parent <;> simp [isActive]

theorem trigger_opens :
    (trigger site other layer).opensOn name = decide (layer.parent = some name) := by
  unfold Rule.opensOn trigger gate
  cases layer.parent <;> simp [isActive]

end LayerRules

-- Only rules of the layer stage open on a layer, and those that do ask that it be on.
theorem Site.Makes.opens {site : Site} {rule : Rule} {name : String} (made : site.Makes rule)
    (opens : rule.opensOn name = true) :
    rule.kind.stage = .layer ∧ ⟨.active name, 1⟩ ∈ rule.conditions := by
  cases made with
  | triggerRollover triggers member =>
    rw [LayerRules.rollover_opens, decide_eq_true_iff] at opens
    exact ⟨rfl, by simp [LayerRules.rollover, LayerRules.gate, LayerRules.isActive, opens]⟩
  | trigger triggers =>
    rw [LayerRules.trigger_opens, decide_eq_true_iff] at opens
    exact ⟨rfl, by simp [LayerRules.trigger, LayerRules.gate, LayerRules.isActive, opens]⟩
  | layerBinding member sent =>
    cases of_decide_eq_true opens
    exact ⟨rfl, List.mem_cons_self⟩
  | layerSwallow member silent =>
    cases of_decide_eq_true opens
    exact ⟨rfl, List.mem_cons_self⟩
  | activation member => cases opens
  | rolls member => cases opens
  | rolled member => cases opens
  | rollsBeside member => cases opens
  | rolledBeside member => cases opens
  | modifierPassthrough homeRow => cases opens
  | source homeRow => cases opens
  | passthrough plain => cases opens

namespace LayerRules
variable {config : Config} {layout : Layout} {name : String} {key : Key}

theorem SpeaksFor.opens {kind : RuleKind} {other : String} {rule : Rule}
    (speaks : SpeaksFor kind other rule) : rule.opensOn name = decide (other = name) := by
  unfold Rule.opensOn
  rw [speaks.2]
  simp [isActive]

theorem childrenFirst_withoutLayer : childrenFirst (config.withoutLayer name) =
    (childrenFirst config).filter (·.1 ≠ name) := by
  unfold childrenFirst Config.withoutLayer Dict.erase
  rw [Dict.keep_entries, List.filter_append, List.filter_filter, List.filter_filter,
    List.filter_filter, List.filter_filter]
  simp only [Bool.and_comm]

-- A layer looks no further up than its parent, which stays.
theorem resolve_withoutLayer {layer : Layer} (stays : layer.parent ≠ some name) :
    resolve (config.withoutLayer name) layer key = resolve config layer key := by
  unfold resolve
  cases layer.bindings.get? key with
  | some stroke => rfl
  | none =>
    cases above : layer.parent with
    | none => rfl
    | some parent =>
      have differs : parent ≠ name := fun same => stays (above.trans (congrArg some same))
      simp [Config.withoutLayer_get? differs]

theorem besides_section {kind : RuleKind} {rule? less? : String × Layer → Option Rule}
    (speaks : ∀ {entry rule}, rule? entry = some rule → SpeaksFor kind entry.1 rule)
    (same : ∀ entry ∈ config.layers.entries, less? entry = rule? entry) :
    Rule.besides name ((childrenFirst config).filterMap rule?) =
      (childrenFirst (config.withoutLayer name)).filterMap less? := by
  unfold Rule.besides
  rw [childrenFirst_withoutLayer, List.filter_filterMap, List.filterMap_filter]
  refine List.filterMap_congr fun entry member => ?_
  rw [same entry (childrenFirst_member member)]
  cases made : rule? entry with
  | none => simp
  | some rule => by_cases gone : entry.1 = name <;> simp [(speaks made).opens, gone]

section
variable (leaf : config.Leaf name)
include leaf

theorem besides_bindingRules : Rule.besides name (bindingRules (Keymap.siteOf config layout key)) =
    bindingRules (Keymap.siteOf (config.withoutLayer name) layout key) := by
  have same : ∀ entry ∈ config.layers.entries,
      resolve (config.withoutLayer name) entry.2 key = resolve config entry.2 key :=
    fun entry member => resolve_withoutLayer (leaf entry member)
  have binding : ∀ entry ∈ config.layers.entries,
      binding? (Keymap.siteOf (config.withoutLayer name) layout key) entry =
        binding? (Keymap.siteOf config layout key) entry :=
    fun entry member => congrArg (Option.map _) (same entry member)
  have swallow : ∀ entry ∈ config.layers.entries,
      swallow? (Keymap.siteOf (config.withoutLayer name) layout key) entry =
        swallow? (Keymap.siteOf config layout key) entry := by
    intro entry member
    have still : resolve (Keymap.siteOf (config.withoutLayer name) layout key).config entry.2
      (Keymap.siteOf (config.withoutLayer name) layout key).key = _ := same entry member
    rw [swallow?, still]
    rfl
  unfold bindingRules
  rw [Rule.besides_append]
  exact congrArg₂ _ (besides_section binding_speaks binding)
    (besides_section swallow_speaks swallow)

theorem besides_triggerRules {site : Site} {other : String} {layer : Layer}
    (member : (other, layer) ∈ config.layers.entries) :
    Rule.besides name (triggerRules site other layer) = triggerRules site other layer := by
  have stays := leaf (other, layer) member
  refine Rule.besides_all fun rule made => ?_
  rcases List.mem_append.1 made with rolls | last
  · obtain ⟨held, _, rfl⟩ := List.mem_map.1 rolls
    rw [rollover_opens]
    exact decide_eq_false stays
  · cases List.mem_singleton.1 last
    rw [trigger_opens]
    exact decide_eq_false stays

variable {layer : Layer} (member : (name, layer) ∈ config.layers.entries)
  (differs : key ≠ layer.trigger)
include member differs

theorem besides_rules : Rule.besides name (rules (Keymap.siteOf config layout key)) =
    rules (Keymap.siteOf (config.withoutLayer name) layout key) := by
  have same := Config.withoutLayer_layerTriggeredBy member differs
  cases triggers : config.layerTriggeredBy? key with
  | none =>
    rw [rules_plain triggers, rules_plain (same.trans triggers)]
    exact besides_bindingRules leaf
  | some entry =>
    rw [rules_triggered triggers, rules_triggered (same.trans triggers)]
    exact besides_triggerRules leaf (List.mem_of_find?_eq_some triggers)

end
end LayerRules

theorem Site.Makes.closed {site : Site} {rule : Rule} {name : String} (made : site.Makes rule)
    (late : rule.kind.stage ≠ .layer) : rule.opensOn name = false :=
  Bool.eq_false_iff.2 fun opens => late (made.opens opens).1

theorem Pipeline.besides_rules {config : Config} {layout : Layout} {name : String} {layer : Layer}
    {key : Key} (leaf : config.Leaf name) (member : (name, layer) ∈ config.layers.entries)
    (differs : key ≠ layer.trigger) :
    Rule.besides name (standard.rules (Keymap.siteOf config layout key)) =
      standard.rules (Keymap.siteOf (config.withoutLayer name) layout key) := by
  have late : ∀ rule ∈ HomeRowRules.rules (Keymap.siteOf config layout key) ++
      Pass.passthrough (Keymap.siteOf config layout key), rule.opensOn name = false := by
    intro rule inside
    obtain ⟨made, stage⟩ := Pass.late_rules inside
    exact made.closed stage
  have typed : Pass.passthrough (Keymap.siteOf config layout key) =
      Pass.passthrough (Keymap.siteOf (config.withoutLayer name) layout key) := by
    have same : (Keymap.siteOf (config.withoutLayer name) layout key).isTrigger =
        (Keymap.siteOf config layout key).isTrigger := by
      rw [Bool.eq_iff_iff, Site.isTrigger_listed, Site.isTrigger_listed]
      exact Config.withoutLayer_triggers member differs
    unfold Pass.passthrough
    rw [same]
    rfl
  rw [LayerRules.standard_rules, LayerRules.standard_rules, List.append_assoc, List.append_assoc,
    Rule.besides_append, LayerRules.besides_rules leaf member differs, Rule.besides_all late, typed]
  rfl

-- While the layer is off, the first rule that fits is the same with and without it.
theorem Pipeline.firstFit_besides {config : Config} {layout : Layout} {name : String} {key : Key}
    {now : Valuation} (modifier : Option Modifier) (inactive : now (.active name) ≠ 1) :
    firstFit modifier now
        (Rule.besides name (standard.rules (Keymap.siteOf config layout key))) =
      firstFit modifier now (Pipeline.standard.rules (Keymap.siteOf config layout key)) := by
  refine firstFit_filter fun rule made gone => ?_
  rintro ⟨_, holds⟩
  have opens : rule.opensOn name = true := by simpa using gone
  exact inactive (holds _ ((Pipeline.makes_rules made).opens opens).2)

theorem leaf_layer_removed {config : Config} {findings : List Finding}
    (valid : config.validate = .ok findings) {name : String} {layer : Layer}
    (member : (name, layer) ∈ config.layers.entries) (leaf : config.Leaf name) :
    ∃ keymap smaller remaining, Keymap.compile config = .ok keymap ∧
      (config.withoutLayer name).validate = .ok remaining ∧
      Keymap.compile (config.withoutLayer name) = .ok smaller ∧
      ∀ (key : Key) (set : RuleSet), key ≠ layer.trigger → keymap.rulesFor? key = some set →
        ∃ rest, smaller.rulesFor? key = some rest ∧
          rest.rules = (set.rules.filter fun rule => !rule.opensOn name) ∧
          ∀ (modifier : Option Modifier) (now : Valuation), now (.active name) ≠ 1 →
            firstFit modifier now rest.rules = firstFit modifier now set.rules := by
  obtain ⟨layout, sound, compiled⟩ := Keymap.compile_valid valid
  have less := sound.withoutLayer leaf
  refine ⟨_, _, _, compiled, less.validate, Keymap.compile_sound less, ?_⟩
  intro key set differs ruled
  obtain ⟨inside, rfl⟩ := Keymap.ruled_iff.1 ruled
  have still : key ∈ Keymap.keysOf (config.withoutLayer name) layout := by
    rw [Keymap.mem_keysOf, Config.withoutLayer_triggers member differs]
    exact Keymap.mem_keysOf.1 inside
  have rules : Rule.besides name (Pipeline.standard.rules (Keymap.siteOf config layout key)) =
    _ := Pipeline.besides_rules leaf member differs
  refine ⟨_, Keymap.ruled_iff.2 ⟨still, rfl⟩, rules.symm, ?_⟩
  intro modifier now inactive
  exact (congrArg _ rules.symm).trans (Pipeline.firstFit_besides modifier inactive)

theorem innermost_layer_removed :
    ∃ keymap smaller set rest, Keymap.compile Nested.config = .ok keymap ∧
      Keymap.compile (Nested.config.withoutLayer "words") = .ok smaller ∧
      keymap.rulesFor? ⟨"j"⟩ = some set ∧ smaller.rulesFor? ⟨"j"⟩ = some rest ∧
      set.size = 4 ∧ rest.size = 3 ∧
      ∀ (modifier : Option Modifier) (now : Valuation), now (.active "words") ≠ 1 →
        firstFit modifier now rest.rules = firstFit modifier now set.rules := by
  have member : ("words", Nested.words) ∈ Nested.config.layers.entries := by decide
  obtain ⟨keymap, smaller, _, compiled, _, compiled', left⟩ :=
    leaf_layer_removed Nested.config_valid member (by decide)
  cases compiled.symm.trans Nested.config_compiled
  obtain ⟨rest, ruled, rules, alike⟩ := left ⟨"j"⟩ _ (by decide) rfl
  refine ⟨_, smaller, _, rest, compiled, compiled', rfl, ruled, by decide, ?_, alike⟩
  rw [RuleSet.size, rules]
  decide

end TapHold
