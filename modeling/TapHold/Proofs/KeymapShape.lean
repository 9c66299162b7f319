import TapHold.Proofs.KindOrder
import TapHold.Proofs.LayoutViews

namespace TapHold

namespace Keymap
variable {config : Config} {layout : Layout} {key : Key}

theorem mem_keysOf : key ∈ keysOf config layout ↔ key ∈ layout.all ∨ key ∈ config.triggers := by
  unfold keysOf
  rw [List.mem_append, List.mem_filter, Layout.mem_all]
  cases layout.contains key <;> simp

theorem keysOf_distinct (sound : config.SoundOn layout) : (keysOf config layout).Nodup := by
  unfold keysOf
  rw [List.nodup_append]
  refine ⟨layout.all_distinct, sound.triggers_distinct.filter _, ?_⟩
  intro placed member other member' same
  have off := (List.mem_filter.1 member').2
  rw [← same, Layout.mem_all.1 member] at off
  cases off

theorem rulesFor_isSome : ((ofLayout config layout).rulesFor? key).isSome ↔
    key ∈ layout.all ∨ key ∈ config.triggers := by
  rw [rulesFor_ofLayout, ← mem_keysOf]
  by_cases inside : key ∈ keysOf config layout <;> simp [inside]

theorem ruled_iff {set : RuleSet} : (ofLayout config layout).rulesFor? key = some set ↔
    key ∈ keysOf config layout ∧ set = setOf .standard config layout key := by
  rw [rulesFor_ofLayout, Option.ite_none_right_eq_some, Option.some.injEq]
  exact and_congr_right fun _ => eq_comm

theorem ofLayout_keys (config : Config) (layout : Layout) :
    (ofLayout config layout).sets.map RuleSet.key = keysOf config layout := by
  unfold ofLayout
  rw [List.map_map]
  exact List.map_id _

theorem set_ofLayout {set : RuleSet} (member : set ∈ (ofLayout config layout).sets) :
    ∃ key ∈ keysOf config layout, set = setOf .standard config layout key := by
  obtain ⟨key, inside, same⟩ := List.mem_map.1 member
  exact ⟨key, inside, same.symm⟩

end Keymap

namespace RuleSet

def Precede (set : RuleSet) (first second : RuleKind) : Prop :=
  set.rules.Pairwise fun earlier later => ¬ (earlier.kind = second ∧ later.kind = first)

structure TriggerShaped (set : RuleSet) : Prop where
  one_trigger : set.count .trigger = 1
  rollovers_before : set.Precede .triggerRollover .trigger
  no_others : ∀ kind ∈ [RuleKind.layerBinding, .layerSwallow, .passthrough], set.count kind = 0

structure PlainShaped (set : RuleSet) : Prop where
  one_passthrough : set.count .passthrough = 1
  passthrough_last : set.rules.getLast?.map (·.kind) = some .passthrough
  bindings_before : set.Precede .layerBinding .layerSwallow
  no_others : ∀ kind ∈ [RuleKind.trigger, .triggerRollover], set.count kind = 0

def staged (set : RuleSet) (stage : Stage) : List Rule := set.rules.filter (·.kind.stage = stage)

theorem precede_of_place {set : RuleSet} {first second : RuleKind}
    (ordered : set.rules.Pairwise fun earlier later => earlier.kind.MayPrecede later.kind)
    (before : first.place < second.place) : set.Precede first second := by
  refine ordered.imp fun {earlier later} may => ?_
  rintro ⟨rfl, rfl⟩
  rcases may with back | ⟨same, _⟩
  · exact Nat.lt_asymm before back
  · rw [same] at before
    exact Nat.lt_irrefl _ before

end RuleSet

namespace Site
variable (site : Site)

theorem standard_count (kind : RuleKind) (key : Key) :
    RuleSet.count ⟨key, Pipeline.standard.rules site⟩ kind =
      (RuleKind.spelled (site.runs.filter (·.1 = kind))).length := by
  rw [RuleSet.count_kinds, standard_kinds, RuleKind.spelled_count]

theorem standard_homeRow : (Pipeline.standard.rules site).filter (·.kind.stage = .homeRow) =
    HomeRowRules.rules site := by
  have layers : (LayerRules.rules site).filter (·.kind.stage = .homeRow) = [] := by
    rw [List.filter_eq_nil_iff]
    intro rule member
    simp [(LayerRules.makes_rules member).2]
  have homeRow : (HomeRowRules.rules site).filter (·.kind.stage = .homeRow) =
      HomeRowRules.rules site := by
    rw [List.filter_eq_self]
    intro rule member
    simp [(HomeRowRules.makes_rules member).2]
  have last : (Pass.passthrough site).filter (·.kind.stage = .homeRow) = [] := by
    rw [List.filter_eq_nil_iff]
    intro rule member
    simp [(Pass.makes_passthrough member).2]
  rw [LayerRules.standard_rules, List.filter_append, List.filter_append, layers, homeRow, last,
    List.nil_append, List.append_nil]

theorem source_last (homeRow : site.isHomeRow = true) :
    (HomeRowRules.rules site).getLast? = some (HomeRowRules.source site) := by
  unfold HomeRowRules.rules
  simp only [homeRow, if_true, List.getLast?_append, List.getLast?_singleton, Option.some_or]

theorem passthrough_last (plain : site.isTrigger = false) :
    (Pipeline.standard.rules site).getLast?.map (·.kind) = some .passthrough := by
  rw [LayerRules.standard_rules, List.getLast?_append]
  unfold Pass.passthrough
  rw [plain]
  rfl

end Site

section
variable {config : Config} {layout : Layout} {key : Key}

theorem Config.triggered_iff : (config.layerTriggeredBy? key).isSome ↔ key ∈ config.triggers := by
  unfold layerTriggeredBy? triggers
  rw [List.find?_isSome]
  simp [Dict.values]

theorem Site.isTrigger_listed :
    (Keymap.siteOf config layout key).isTrigger = true ↔ key ∈ config.triggers := by
  simp [isTrigger, Keymap.siteOf]

theorem Config.triggered_none : config.layerTriggeredBy? key = none ↔ key ∉ config.triggers := by
  rw [← triggered_iff, Option.not_isSome_iff_eq_none]

theorem Site.triggered_runs (listed : key ∈ config.triggers) :
    (Keymap.siteOf config layout key).runs =
      [(.triggerRollover, config.homeRow.size), (.trigger, 1)] ++
        HomeRowRules.runs (Keymap.siteOf config layout key) ++ [(.passthrough, 0)] := by
  obtain ⟨entry, found⟩ := Option.isSome_iff_exists.1 (Config.triggered_iff.2 listed)
  unfold runs LayerRules.runs
  rw [if_pos (isTrigger_listed.2 listed)]
  unfold Keymap.siteOf
  rw [found]

theorem Site.plain_runs (unlisted : key ∉ config.triggers) :
    (Keymap.siteOf config layout key).runs =
      [(.layerBinding, ((LayerRules.childrenFirst config).filterMap
          (LayerRules.binding? (Keymap.siteOf config layout key))).length),
        (.layerSwallow, ((LayerRules.childrenFirst config).filterMap
          (LayerRules.swallow? (Keymap.siteOf config layout key))).length)] ++
        HomeRowRules.runs (Keymap.siteOf config layout key) ++ [(.passthrough, 1)] := by
  unfold runs LayerRules.runs
  rw [if_neg (mt isTrigger_listed.1 unlisted)]
  unfold Keymap.siteOf
  rw [Config.triggered_none.2 unlisted]

theorem trigger_shaped (listed : key ∈ config.triggers) :
    (Keymap.setOf .standard config layout key).TriggerShaped := by
  have runs : (Keymap.siteOf config layout key).runs = _ := Site.triggered_runs listed
  unfold Keymap.setOf
  constructor
  · simp [Site.standard_count, runs, RuleKind.spelled, HomeRowRules.runs]
  · exact RuleSet.precede_of_place (Site.standard_ordered _) (by decide)
  · intro kind other
    simp only [List.mem_cons, List.not_mem_nil, or_false] at other
    rcases other with rfl | rfl | rfl <;>
      simp [Site.standard_count, runs, RuleKind.spelled, HomeRowRules.runs]

theorem plain_shaped (unlisted : key ∉ config.triggers) :
    (Keymap.setOf .standard config layout key).PlainShaped := by
  have runs : (Keymap.siteOf config layout key).runs = _ := Site.plain_runs unlisted
  unfold Keymap.setOf
  constructor
  · simp [Site.standard_count, runs, RuleKind.spelled, HomeRowRules.runs]
  · refine Site.passthrough_last _ ?_
    rw [Bool.eq_false_iff]
    exact mt Site.isTrigger_listed.1 unlisted
  · exact RuleSet.precede_of_place (Site.standard_ordered _) (by decide)
  · intro kind other
    simp only [List.mem_cons, List.not_mem_nil, or_false] at other
    rcases other with rfl | rfl <;>
      simp [Site.standard_count, runs, RuleKind.spelled, HomeRowRules.runs]

theorem source_counted :
    (Keymap.setOf .standard config layout key).count .source =
      if key ∈ config.homeRow.keys then 1 else 0 := by
  have own : (Keymap.siteOf config layout key).isHomeRow = decide (key ∈ config.homeRow.keys) := rfl
  unfold Keymap.setOf
  rw [Site.standard_count]
  unfold Site.runs LayerRules.runs HomeRowRules.runs RuleKind.spelled
  cases (Keymap.siteOf config layout key).config.layerTriggeredBy?
    (Keymap.siteOf config layout key).key <;> simp [own]

theorem source_staged (homeRow : key ∈ config.homeRow.keys) :
    ((Keymap.setOf .standard config layout key).staged .homeRow).getLast?.map (·.kind) =
      some .source := by
  have own : (Keymap.siteOf config layout key).isHomeRow = true := decide_eq_true homeRow
  unfold RuleSet.staged Keymap.setOf
  rw [Site.standard_homeRow, Site.source_last _ own]
  rfl

end

-- The layout is that of the configuration; the keys of its left hand come first, then those of the
-- right hand, then the triggers that are off the layout.
theorem keymap_shape {config : Config} {findings : List Finding}
    (valid : config.validate = .ok findings) :
    ∃ keymap layout, Keymap.compile config = .ok keymap ∧
      Layout.parse config.layout = .ok layout ∧
      keymap.sets.map RuleSet.key = layout.left ++ layout.right ++
        config.triggers.filter (!layout.contains ·) ∧
      (keymap.sets.map RuleSet.key).Nodup ∧
      (∀ key, (keymap.rulesFor? key).isSome ↔
        key ∈ layout.left ++ layout.right ∨ key ∈ config.triggers) ∧
      ∀ set ∈ keymap.sets,
        (∀ rule ∈ set.rules, rule.key = set.key) ∧
        (set.rules.Pairwise fun earlier later =>
          earlier.kind.stage.place ≤ later.kind.stage.place) ∧
        (set.key ∈ config.triggers → set.TriggerShaped) ∧
        (set.key ∉ config.triggers → set.PlainShaped) ∧
        set.count .source = (if set.key ∈ config.homeRow.keys then 1 else 0) ∧
        (set.key ∈ config.homeRow.keys →
          (set.staged .homeRow).getLast?.map (·.kind) = some .source) := by
  obtain ⟨layout, sound, compiled⟩ := Keymap.compile_valid valid
  refine ⟨_, layout, compiled, sound.parsed, Keymap.ofLayout_keys config layout, ?_, ?_, ?_⟩
  · rw [Keymap.ofLayout_keys]
    exact Keymap.keysOf_distinct sound
  · exact fun key => Keymap.rulesFor_isSome
  · intro set member
    obtain ⟨key, _, rfl⟩ := Keymap.set_ofLayout member
    refine ⟨?_, ?_, trigger_shaped, plain_shaped, source_counted, source_staged⟩
    · exact fun rule inside => (Pipeline.makes_rules inside).about
    · exact (Site.standard_ordered _).imp RuleKind.stage_ordered

theorem small_keymap_shaped :
    ∃ keymap set, Keymap.compile Small.config = .ok keymap ∧
      keymap.sets.map RuleSet.key = [⟨"a"⟩, ⟨"s"⟩, ⟨"j"⟩, ⟨"k"⟩, ⟨"space"⟩] ∧
      keymap.rulesFor? ⟨"j"⟩ = some set ∧ set.TriggerShaped ∧
      (set.staged .homeRow).getLast?.map (·.kind) = some .source := by
  obtain ⟨keymap, layout, compiled, parsed, keys, _, _, shaped⟩ := keymap_shape Small.config_valid
  cases compiled.symm.trans Small.config_compiled
  cases parsed.symm.trans Small.config_sound.parsed
  have ruled : Small.keymap.rulesFor? ⟨"j"⟩ =
      some (Keymap.setOf .standard Small.config Small.layout ⟨"j"⟩) := rfl
  obtain ⟨_, _, trigger, _, _, source⟩ := shaped _ (List.mem_of_find?_eq_some ruled)
  exact ⟨_, _, compiled, keys, ruled, trigger (by decide), source (by decide)⟩

end TapHold
