import TapHold.Proofs.DictChanges
import TapHold.Proofs.KeymapShape
import TapHold.Proofs.SubsetOrder

namespace TapHold

namespace Config

def opposing (config : Config) (layout : Layout) (key : Key) : Nat :=
  config.homeRow.keys.countP fun held => held ≠ key ∧ layout.opposed held key = true

def beside (config : Config) (layout : Layout) (key : Key) : Nat :=
  config.homeRow.keys.countP fun held => held ≠ key ∧ layout.opposed held key = false

-- The layer binds the key, or it inherits and the very next layer above it binds the key.
def Supplies (config : Config) (key : Key) (layer : Layer) : Prop :=
  key ∈ layer.bindings.keys ∨ layer.inherit = true ∧
    ∃ parent ∈ layer.parent, ∃ above ∈ config.layers.entries,
      above.1 = parent ∧ key ∈ above.2.bindings.keys

instance (config : Config) (key : Key) (layer : Layer) : Decidable (config.Supplies key layer) :=
  inferInstanceAs (Decidable (_ ∨ _ ∧ ∃ parent ∈ layer.parent, _))

def census (config : Config) (layout : Layout) (key : Key) : RuleKind → Nat
  | .activation => 2 ^ config.opposing layout key - 1
  | .rollover => 2 * config.opposing layout key
  | .sameHandRollover => 2 * config.beside layout key
  | .modifierPassthrough => if key ∈ config.homeRow.keys then 4 else 0
  | .source => if key ∈ config.homeRow.keys then 1 else 0
  | .triggerRollover => if key ∈ config.triggers then config.homeRow.size else 0
  | .trigger => if key ∈ config.triggers then 1 else 0
  | .layerBinding =>
    if key ∈ config.triggers then 0 else config.layers.values.countP (config.Supplies key ·)
  | .layerSwallow =>
    if key ∈ config.triggers then 0 else config.layers.values.countP (¬ config.Supplies key ·)
  | .passthrough => if key ∈ config.triggers then 0 else 1

def ruleTotal (config : Config) (layout : Layout) (key : Key) : Nat :=
  (RuleKind.all.map (config.census layout key)).sum

variable {config : Config} {layout : Layout} {key : Key}

theorem hands_split : config.opposing layout key + config.beside layout key =
    if key ∈ config.homeRow.keys then config.homeRow.size - 1 else config.homeRow.size := by
  have sides : config.homeRow.keys.countP (· ≠ key) =
      config.opposing layout key + config.beside layout key := by
    rw [List.countP_eq_length_filter, List.length_eq_countP_add_countP (layout.opposed · key),
      List.countP_filter, List.countP_filter]
    simp [opposing, beside, Bool.and_comm]
  have own : config.homeRow.keys.count key = if key ∈ config.homeRow.keys then 1 else 0 :=
    config.homeRow.distinct.count
  have parts : config.homeRow.keys.length = config.homeRow.keys.count key +
      config.homeRow.keys.countP (· ≠ key) := by
    rw [List.length_eq_countP_add_countP (· == key)]
    simp [List.count_eq_countP]
  have size : config.homeRow.keys.length = config.homeRow.size := List.length_map _
  by_cases homeRow : key ∈ config.homeRow.keys
  · rw [if_pos homeRow] at own ⊢
    omega
  · rw [if_neg homeRow] at own ⊢
    omega

theorem layers_split : config.layers.values.countP (config.Supplies key ·) +
    config.layers.values.countP (¬ config.Supplies key ·) = config.layers.size := by
  have parts := List.length_eq_countP_add_countP (config.Supplies key ·) (l := config.layers.values)
  have size : config.layers.values.length = config.layers.size := List.length_map _
  rw [← size, parts]
  simp only [decide_eq_true_eq]

theorem supplied_iff {layer : Layer} :
    (LayerRules.resolve config layer key).isSome = true ↔ config.Supplies key layer := by
  unfold LayerRules.resolve Supplies
  rw [Dict.mem_keys]
  cases own : layer.bindings.get? key with
  | some stroke => simp
  | none =>
    cases inherits : layer.inherit with
    | false => simp
    | true =>
      cases parent : layer.parent with
      | none => simp
      | some name =>
        have inherited : ((config.layers.get? name).bind (·.bindings.get? key)).isSome = true ↔
            ∃ above ∈ config.layers.entries, above.1 = name ∧ key ∈ above.2.bindings.keys := by
          constructor
          · intro sent
            obtain ⟨stroke, sent⟩ := Option.isSome_iff_exists.1 sent
            obtain ⟨above, found, bound⟩ := Option.bind_eq_some_iff.1 sent
            have binds : key ∈ above.bindings.keys := by simp [Dict.mem_keys, bound]
            exact ⟨_, Dict.entry_of_get? found, rfl, binds⟩
          · rintro ⟨above, member, rfl, binds⟩
            rw [Dict.get?_entry member, Option.bind_some, ← Dict.mem_keys]
            exact binds
        simpa using inherited

theorem section_count {rule? : String × Layer → Option Rule} {has : Layer → Prop}
    [DecidablePred has]
    (agree : ∀ entry ∈ config.layers.entries, (rule? entry).isSome = true ↔ has entry.2) :
    ((LayerRules.childrenFirst config).filterMap rule?).length =
      config.layers.values.countP (has ·) := by
  rw [List.length_filterMap_eq_countP, (LayerRules.childrenFirst_perm config).countP_eq,
    Dict.values, List.countP_map]
  refine List.countP_congr fun entry member => ?_
  simpa using agree entry member

end Config

namespace Site
variable {config : Config} {layout : Layout} {key : Key}

theorem others_count (side : Key → Bool) :
    ((Keymap.siteOf config layout key).others.filter (side ·.1)).length =
      config.homeRow.keys.countP fun held => held ≠ key ∧ side held = true := by
  unfold others
  rw [← List.countP_eq_length_filter, List.countP_filter, Dict.keys, List.countP_map]
  refine List.countP_congr fun entry _ => ?_
  rw [Function.comp_apply, Bool.and_eq_true, decide_eq_true_iff, decide_eq_true_iff, and_comm]
  rfl

theorem opposite_count :
    (Keymap.siteOf config layout key).opposite.length = config.opposing layout key :=
  others_count (layout.opposed · key)

theorem sameHand_count :
    (Keymap.siteOf config layout key).sameHand.length = config.beside layout key := by
  refine (List.length_map _).trans ((others_count fun held => !layout.opposed held key).trans ?_)
  simp only [Bool.not_eq_true', Config.beside]

theorem bindings_count : ((LayerRules.childrenFirst config).filterMap
    (LayerRules.binding? (Keymap.siteOf config layout key))).length =
      config.layers.values.countP (config.Supplies key ·) := by
  refine Config.section_count fun entry _ => ?_
  rw [LayerRules.binding?, Option.isSome_map]
  exact Config.supplied_iff

theorem swallows_count (unlisted : key ∉ config.triggers) :
    ((LayerRules.childrenFirst config).filterMap
      (LayerRules.swallow? (Keymap.siteOf config layout key))).length =
        config.layers.values.countP (¬ config.Supplies key ·) := by
  refine Config.section_count fun entry member => ?_
  have other : entry.2.trigger ≠ key := by
    rintro rfl
    exact unlisted (List.mem_map_of_mem (List.mem_map_of_mem member))
  rw [LayerRules.swallow?, ← Config.supplied_iff]
  simp [Keymap.siteOf, other]

theorem homeRow_runs : HomeRowRules.runs (Keymap.siteOf config layout key) =
    [(.activation, 2 ^ config.opposing layout key - 1),
      (.rollover, 2 * config.opposing layout key),
      (.modifierPassthrough, if key ∈ config.homeRow.keys then 4 else 0),
      (.sameHandRollover, 2 * config.beside layout key),
      (.source, if key ∈ config.homeRow.keys then 1 else 0)] := by
  have own : (Keymap.siteOf config layout key).isHomeRow = decide (key ∈ config.homeRow.keys) := rfl
  unfold HomeRowRules.runs
  rw [Subsets.largestFirst_count, opposite_count, sameHand_count, own]
  simp only [decide_eq_true_eq]

end Site

theorem Keymap.census_exact (config : Config) (layout : Layout) (key : Key) (kind : RuleKind) :
    (setOf .standard config layout key).count kind = config.census layout key kind := by
  have counted : (setOf .standard config layout key).count kind = _ := Site.standard_count _ _ _
  rw [counted]
  by_cases listed : key ∈ config.triggers
  · rw [Site.triggered_runs listed, Site.homeRow_runs]
    cases kind <;> simp [RuleKind.spelled, Config.census, listed]
  · rw [Site.plain_runs listed, Site.homeRow_runs, Site.bindings_count, Site.swallows_count listed]
    cases kind <;> simp [RuleKind.spelled, Config.census, listed]

theorem RuleKind.counted_once (kind : RuleKind) :
    (all.map fun other => if kind = other then 1 else 0).sum = 1 := by
  cases kind <;> rfl

-- Each rule is of one kind, so the kinds together count every rule once.
theorem RuleSet.size_kinds (set : RuleSet) : set.size = (RuleKind.all.map set.count).sum := by
  obtain ⟨key, rules⟩ := set
  induction rules with
  | nil => rfl
  | cons rule rest ih =>
    have counted : RuleSet.count ⟨key, rule :: rest⟩ = fun kind =>
        RuleSet.count ⟨key, rest⟩ kind + if rule.kind = kind then 1 else 0 := by
      funext kind
      simp [count, List.countP_cons]
    rw [counted, List.sum_map_add, ← ih, RuleKind.counted_once]
    rfl

theorem Keymap.ruleCount_sets (keymap : Keymap) :
    keymap.ruleCount = (keymap.sets.map RuleSet.size).sum := List.length_flatMap

theorem rule_census {config : Config} {findings : List Finding}
    (valid : config.validate = .ok findings) :
    ∃ keymap layout, Keymap.compile config = .ok keymap ∧
      Layout.parse config.layout = .ok layout ∧
      (∀ set ∈ keymap.sets,
        config.opposing layout set.key + config.beside layout set.key =
          (if set.key ∈ config.homeRow.keys then config.homeRow.size - 1
            else config.homeRow.size) ∧
        (∀ kind, set.count kind = config.census layout set.key kind) ∧
        (set.key ∉ config.triggers →
          set.count .layerBinding + set.count .layerSwallow = config.layers.size) ∧
        set.size = config.ruleTotal layout set.key) ∧
      keymap.ruleCount = (keymap.sets.map fun set => config.ruleTotal layout set.key).sum := by
  obtain ⟨layout, sound, compiled⟩ := Keymap.compile_valid valid
  have total : ∀ set ∈ (Keymap.ofLayout config layout).sets,
      (∀ kind, set.count kind = config.census layout set.key kind) ∧
        set.size = config.ruleTotal layout set.key := by
    intro set member
    obtain ⟨key, _, rfl⟩ := Keymap.set_ofLayout member
    have counts := Keymap.census_exact config layout key
    refine ⟨counts, ?_⟩
    rw [RuleSet.size_kinds, funext counts]
    rfl
  refine ⟨_, layout, compiled, sound.parsed, ?_, ?_⟩
  · intro set member
    obtain ⟨counts, size⟩ := total set member
    refine ⟨Config.hands_split, counts, fun unlisted => ?_, size⟩
    rw [counts, counts, Config.census, Config.census, if_neg unlisted, if_neg unlisted]
    exact Config.layers_split
  · rw [Keymap.ruleCount_sets, List.map_congr_left fun set member => (total set member).2]

theorem small_keymap_counted :
    ∃ keymap set, Keymap.compile Small.config = .ok keymap ∧
      keymap.rulesFor? ⟨"j"⟩ = some set ∧ set.count .activation = 3 ∧
      set.count .triggerRollover = 3 ∧ set.size = 16 ∧ keymap.ruleCount = 67 := by
  obtain ⟨keymap, layout, compiled, parsed, counts, total⟩ := rule_census Small.config_valid
  cases compiled.symm.trans Small.config_compiled
  cases parsed.symm.trans Small.config_sound.parsed
  have ruled : Small.keymap.rulesFor? ⟨"j"⟩ =
      some (Keymap.setOf .standard Small.config Small.layout ⟨"j"⟩) := rfl
  obtain ⟨_, kinds, _, size⟩ := counts _ (List.mem_of_find?_eq_some ruled)
  refine ⟨_, _, compiled, ruled, ?_, ?_, ?_, ?_⟩
  · rw [kinds]; decide
  · rw [kinds]; decide
  · rw [size]; decide
  · rw [total]; decide

end TapHold
