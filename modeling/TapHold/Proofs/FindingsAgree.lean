import TapHold.Proofs.FindingsOfLayers
import TapHold.Proofs.TrimmedLayers

namespace TapHold

def Rule.Binds (name : String) (key : Key) (rule : Rule) : Prop :=
  LayerRules.SpeaksFor .layerBinding name rule ∧ rule.key = key

instance (name : String) (key : Key) (rule : Rule) : Decidable (rule.Binds name key) :=
  inferInstanceAs (Decidable (_ ∧ _))

-- What is reported of a binding, and what has become of it.
structure Keymap.AgreesOn (keymap : Keymap) (name : String) (key : Key) (stroke : Stroke) :
    Prop where
  reported_once : (keymap.findings.filter (·.onBinding name key)).length ≤ 1
  reported_iff : (∃ finding ∈ keymap.findings, finding.onBinding name key = true) ↔
    ∀ set ∈ keymap.sets, ∀ rule ∈ set.rules, ¬ rule.Binds name key
  carried_out : (∀ finding ∈ keymap.findings, finding.onBinding name key = false) →
    ∃ set rule, keymap.rulesFor? key = some set ∧ set.rules.filter (·.Binds name key) = [rule] ∧
      rule.actions.filter (·.isOutput) = [.emit stroke]

namespace LayerRules
variable {config : Config} {layout : Layout} {name : String} {layer : Layer} {key : Key}
  {stroke : Stroke}

theorem unbindable_unbound (unbindable : config.Unbindable layout key)
    (inside : key ∈ Keymap.keysOf config layout) :
    ∀ rule ∈ (Keymap.setOf .standard config layout key).rules, rule.kind ≠ .layerBinding := by
  have listed : key ∈ config.triggers := by
    rcases Keymap.mem_keysOf.1 inside with placed | listed
    · refine unbindable.resolve_right fun off => ?_
      rw [Layout.mem_all.1 placed] at off
      cases off
    · exact listed
  have shaped : (Keymap.setOf .standard config layout key).TriggerShaped := trigger_shaped listed
  have counted := shaped.no_others .layerBinding List.mem_cons_self
  unfold RuleSet.count at counted
  rw [List.countP_eq_zero] at counted
  intro rule member
  simpa using counted rule member

theorem bound_binds {site : Site} (stroke : Stroke) (other : String) (layer : Layer) :
    (bound site other layer stroke).Binds name site.key ↔ other = name := by
  simp [Rule.Binds, SpeaksFor, bound, needs, isActive, Rule.key, Press.bare]

theorem filter_binds_nil {rules : List Rule} (others : ∀ rule ∈ rules, rule.kind ≠ .layerBinding) :
    rules.filter (·.Binds name key) = [] := by
  rw [List.filter_eq_nil_iff]
  intro rule member binds
  exact others rule member (of_decide_eq_true binds).1.1

theorem resolve_direct (own : (key, stroke) ∈ layer.bindings.entries) :
    resolve config layer key = some stroke := by
  unfold resolve
  rw [Dict.get?_entry own]

theorem childrenFirst_distinct (config : Config) : (childrenFirst config).Nodup := by
  refine (childrenFirst_asked config).imp fun {first second} asked => ?_
  rintro rfl
  exact asked_asymm asked asked

section
variable (site : Site) (member : (name, layer) ∈ site.config.layers.entries)
  (own : (site.key, stroke) ∈ layer.bindings.entries)
include member own

theorem bindings_bind :
    ((childrenFirst site.config).filterMap (binding? site)).filter (·.Binds name site.key) =
      [bound site name layer stroke] := by
  have made : binding? site (name, layer) = some (bound site name layer stroke) :=
    congrArg (Option.map _) (resolve_direct own)
  rw [List.filterMap_eq_flatMap_toList,
    filter_flatMap_only (childrenFirst_distinct site.config) (member_childrenFirst member), made]
  · rfl
  · intro rule result
    rw [made] at result
    cases List.mem_singleton.1 result
    exact decide_eq_true ((bound_binds stroke name layer).2 rfl)
  · intro entry inside differs rule result
    have speaks := binding_speaks (Option.mem_toList.1 result)
    refine decide_eq_false fun binds => differs ?_
    have same := speaksFor_unique speaks binds.1
    exact List.inj_on_of_nodup_map site.config.layers.distinct (childrenFirst_member inside)
      member same

theorem bindingRules_bind : (bindingRules site).filter (·.Binds name site.key) =
    [bound site name layer stroke] := by
  have swallows : ∀ rule ∈ (childrenFirst site.config).filterMap (swallow? site),
      rule.kind ≠ .layerBinding := by
    intro rule inside
    obtain ⟨_, _, made⟩ := List.mem_filterMap.1 inside
    rw [(swallow_speaks made).1]
    exact nofun
  unfold bindingRules
  rw [List.filter_append, bindings_bind site member own, filter_binds_nil swallows,
    List.append_nil]

end

theorem binding_carried_out (member : (name, layer) ∈ config.layers.entries)
    (own : (key, stroke) ∈ layer.bindings.entries) (free : key ∉ config.triggers) :
    (Keymap.setOf .standard config layout key).rules.filter (·.Binds name key) =
      [bound (Keymap.siteOf config layout key) name layer stroke] := by
  have layers : (bindingRules (Keymap.siteOf config layout key)).filter (·.Binds name key) =
      [bound (Keymap.siteOf config layout key) name layer stroke] :=
    bindingRules_bind (Keymap.siteOf config layout key) member own
  have late : ∀ rule ∈ HomeRowRules.rules (Keymap.siteOf config layout key) ++
      Pass.passthrough (Keymap.siteOf config layout key), rule.kind ≠ .layerBinding := by
    intro rule inside same
    have stage := (Pass.late_rules inside).2
    rw [same] at stage
    exact stage rfl
  unfold Keymap.setOf
  rw [standard_rules, rules_plain (Config.triggered_none.2 free), List.append_assoc,
    List.filter_append, layers, filter_binds_nil late]
  rfl

end LayerRules

namespace Keymap
variable {config : Config} {layout : Layout} {name : String} {layer : Layer} {key : Key}
  {stroke : Stroke}

theorem bindable_carried_out (member : (name, layer) ∈ config.layers.entries)
    (own : (key, stroke) ∈ layer.bindings.entries) (bindable : ¬ config.Unbindable layout key) :
    (ofLayout config layout).rulesFor? key = some (setOf .standard config layout key) ∧
      (setOf .standard config layout key).rules.filter (·.Binds name key) =
        [LayerRules.bound (siteOf config layout key) name layer stroke] := by
  obtain ⟨free, placed⟩ := not_or.1 bindable
  have inside : key ∈ keysOf config layout :=
    mem_keysOf.2 (.inl (Layout.mem_all.2 (Bool.eq_true_of_not_eq_false placed)))
  exact ⟨ruled_iff.2 ⟨inside, rfl⟩, LayerRules.binding_carried_out member own free⟩

theorem unbound_iff (member : (name, layer) ∈ config.layers.entries)
    (own : (key, stroke) ∈ layer.bindings.entries) :
    (∀ set ∈ (ofLayout config layout).sets, ∀ rule ∈ set.rules, ¬ rule.Binds name key) ↔
      config.Unbindable layout key := by
  constructor
  · intro unbound
    by_contra bindable
    obtain ⟨ruled, only⟩ := bindable_carried_out member own bindable
    have kept := only.symm ▸ List.mem_singleton_self
      (LayerRules.bound (siteOf config layout key) name layer stroke)
    obtain ⟨rules, binds⟩ := List.mem_filter.1 kept
    exact unbound _ (List.mem_of_find?_eq_some ruled) _ rules (of_decide_eq_true binds)
  · intro unbindable set inside rule rules binds
    obtain ⟨other, listed, rfl⟩ := set_ofLayout inside
    have same : other = key := (Pipeline.makes_rules rules).about.symm.trans binds.2
    cases same
    exact LayerRules.unbindable_unbound unbindable listed rule rules binds.1.1

theorem agrees_on (member : (name, layer) ∈ config.layers.entries)
    (own : (key, stroke) ∈ layer.bindings.entries) :
    (ofLayout config layout).AgreesOn name key stroke := by
  have bound : key ∈ layer.bindings.keys := Dict.entry_key own
  have reports : (ofLayout config layout).findings.filter (·.onBinding name key) =
      config.bindingFindings layout name key := Config.findings_on_binding member bound
  have reported : (∃ finding ∈ (ofLayout config layout).findings,
      finding.onBinding name key = true) ↔ config.Unbindable layout key :=
    Config.binding_reported member bound
  constructor
  · rw [reports]
    exact Config.bindingFindings_single
  · exact reported.trans (unbound_iff member own).symm
  · intro unreported
    have bindable : ¬ config.Unbindable layout key := by
      rw [← reported]
      rintro ⟨finding, listed, reports⟩
      rw [unreported finding listed] at reports
      cases reports
    obtain ⟨ruled, only⟩ := bindable_carried_out member own bindable
    exact ⟨_, _, ruled, only, rfl⟩

theorem trigger_counted : 0 < (setOf .standard config layout key).count .trigger ↔
    key ∈ config.triggers := by
  by_cases listed : key ∈ config.triggers
  · simp [listed, (trigger_shaped listed).one_trigger]
  · simp [listed, (plain_shaped listed).no_others .trigger List.mem_cons_self]

theorem homeRow_trigger_agrees :
    (∃ name, .triggerIsHomeRow name key ∈ (ofLayout config layout).findings) ↔
      ∃ set, (ofLayout config layout).rulesFor? key = some set ∧
        0 < set.count .trigger ∧ 0 < set.count .source := by
  have homeRow : 0 < (setOf .standard config layout key).count .source ↔
      key ∈ config.homeRow.keys := by
    rw [source_counted]
    split <;> simp_all
  refine Config.homeRow_reported.trans ⟨?_, ?_⟩
  · rintro ⟨listed, own⟩
    have inside : key ∈ keysOf config layout := mem_keysOf.2 (.inr listed)
    exact ⟨_, ruled_iff.2 ⟨inside, rfl⟩, trigger_counted.2 listed, homeRow.2 own⟩
  · rintro ⟨set, ruled, triggers, sources⟩
    obtain ⟨_, rfl⟩ := ruled_iff.1 ruled
    exact ⟨trigger_counted.1 triggers, homeRow.1 sources⟩

end Keymap

-- What is reported is idle: it can be taken out, and nothing changes.
def Finding.idle : Finding → Bool
  | bindingOnTrigger .. | bindingOffLayout .. | flagWithoutParent .. => true
  | triggerIsHomeRow .. | thresholdsDiffer .. => false

theorem Finding.onBinding_idle {name : String} {key : Key} {finding : Finding}
    (reports : finding.onBinding name key = true) : finding.idle = true := by
  cases finding with
  | bindingOnTrigger | bindingOffLayout => rfl
  | triggerIsHomeRow | flagWithoutParent | thresholdsDiffer => cases reports

-- The layer without the bindings that the findings report, and with its default for each flag that
-- they report.
def Layer.tidied (findings : List Finding) (name : String) (layer : Layer) : Layer :=
  { layer with
    handoff := if .flagWithoutParent name "handoff" ∈ findings then
      (triggeredBy layer.trigger).handoff else layer.handoff
    inherit := if .flagWithoutParent name "inherit" ∈ findings then
      (triggeredBy layer.trigger).inherit else layer.inherit
    bindings := layer.bindings.keep fun key => !findings.any (·.onBinding name key) }

def Config.tidied (config : Config) (findings : List Finding) : Config :=
  config.reshape (Layer.tidied findings)

namespace Layer
variable {layer : Layer}

theorem handoff_idle :
    "handoff" ∈ layer.idleFlags ↔ layer.parent.isSome = false ∧ layer.handoff = false := by
  unfold idleFlags
  cases layer.parent.isSome <;> cases layer.handoff <;> cases layer.inherit <;> simp

theorem inherit_idle :
    "inherit" ∈ layer.idleFlags ↔ layer.parent.isSome = false ∧ layer.inherit = true := by
  unfold idleFlags
  cases layer.parent.isSome <;> cases layer.handoff <;> cases layer.inherit <;> simp

end Layer

namespace Config
variable {config : Config} {layout : Layout} {name : String} {layer : Layer} {key : Key}

theorem tidied_trims : config.Trimmed (Layer.tidied (config.findings layout)) := by
  intro entry member
  constructor
  · rfl
  · rfl
  · intro isChild
    refine if_neg fun reported => ?_
    have idle := Layer.handoff_idle.1 ((flag_reported member).1 reported)
    rw [isChild] at idle
    cases idle.1
  · intro isChild
    refine if_neg fun reported => ?_
    have idle := Layer.inherit_idle.1 ((flag_reported member).1 reported)
    rw [isChild] at idle
    cases idle.1
  · exact List.filter_sublist.subset

theorem tidied_keeps (member : (name, layer) ∈ config.layers.entries)
    (bound : key ∈ layer.bindings.keys) :
    (!(config.findings layout).any (·.onBinding name key)) = true ↔
      ¬ config.Unbindable layout key := by
  rw [← binding_reported member bound, ← List.any_eq_true]
  simp

theorem tidied_spares (bindable : ¬ config.Unbindable layout key) :
    config.Spares (Layer.tidied (config.findings layout)) key := by
  intro entry member
  refine Dict.keep_get?.trans ?_
  by_cases bound : key ∈ entry.2.bindings.keys
  · exact if_pos ((tidied_keeps member bound).2 bindable)
  · rw [Dict.mem_keys, Option.not_isSome_iff_eq_none] at bound
    rw [bound, ite_self]

theorem tidied_layerFindings (member : (name, layer) ∈ config.layers.entries) :
    (config.tidied (config.findings layout)).layerFindings layout name
        (Layer.tidied (config.findings layout) name layer) =
      (config.layerFindings layout name layer).filter (!·.idle) := by
  have flags : (Layer.tidied (config.findings layout) name layer).idleFlags = [] := by
    unfold Layer.tidied
    simp only [flag_reported member, Layer.handoff_idle, Layer.inherit_idle]
    unfold Layer.idleFlags Layer.triggeredBy
    cases layer.parent.isSome <;> cases layer.handoff <;> cases layer.inherit <;> simp
  have bindings : (Layer.tidied (config.findings layout) name layer).bindings.keys.flatMap
      ((config.tidied (config.findings layout)).bindingFindings layout name) = [] := by
    rw [List.flatMap_eq_nil_iff]
    intro key kept
    have keys : (Layer.tidied (config.findings layout) name layer).bindings.keys = _ :=
      Dict.keep_keys
    rw [keys, List.mem_filter] at kept
    rw [bindingFindings_nil, Unbindable, tidied, reshape_triggers tidied_trims]
    exact (tidied_keeps member kept.1).1 kept.2
  have homeRow : (if config.isHomeRow layer.trigger then
      [Finding.triggerIsHomeRow name layer.trigger] else []).filter (!·.idle) =
        if config.isHomeRow layer.trigger then
          [Finding.triggerIsHomeRow name layer.trigger] else [] := by
    split <;> rfl
  have flagsGone : (layer.idleFlags.map (Finding.flagWithoutParent name)).filter
      (!·.idle) = [] := by
    rw [List.filter_eq_nil_iff]
    intro finding made
    obtain ⟨flag, _, rfl⟩ := List.mem_map.1 made
    exact Bool.false_ne_true
  have bindingsGone : (layer.bindings.keys.flatMap (config.bindingFindings layout name)).filter
      (!·.idle) = [] := by
    rw [List.filter_eq_nil_iff]
    intro finding made
    obtain ⟨key, _, made⟩ := List.mem_flatMap.1 made
    simp [Finding.onBinding_idle (bindingFindings_own made)]
  unfold layerFindings
  rw [flags, bindings, List.filter_append, List.filter_append, homeRow, flagsGone, bindingsGone]
  rfl

theorem tidied_findings : (config.tidied (config.findings layout)).findings layout =
    (config.findings layout).filter (!·.idle) := by
  have timing : (if config.timing.homeRowHold = config.timing.layerHold then []
      else [Finding.thresholdsDiffer config.timing.homeRowHold config.timing.layerHold]).filter
        (!·.idle) = if config.timing.homeRowHold = config.timing.layerHold then []
      else [Finding.thresholdsDiffer config.timing.homeRowHold config.timing.layerHold] := by
    split <;> rfl
  have layers : (config.tidied (config.findings layout)).layers.entries.flatMap
      (fun entry => (config.tidied (config.findings layout)).layerFindings layout entry.1 entry.2) =
        (config.layers.entries.flatMap fun entry =>
          config.layerFindings layout entry.1 entry.2).filter (!·.idle) := by
    have changed : (config.tidied (config.findings layout)).layers.entries = _ :=
      Dict.change_entries
    rw [changed, List.flatMap_map, List.filter_flatMap]
    exact List.flatMap_congr fun entry member => tidied_layerFindings member
  conv_rhs => rw [findings, List.filter_append, timing]
  exact congrArg (· ++ _) layers

end Config

theorem findings_match_keymap {config : Config} {findings : List Finding}
    (valid : config.validate = .ok findings) :
    ∃ keymap tidy, Keymap.compile config = .ok keymap ∧ keymap.findings = findings ∧
      (∀ (name : String) (layer : Layer) (key : Key) (stroke : Stroke),
        (name, layer) ∈ config.layers.entries → (key, stroke) ∈ layer.bindings.entries →
          keymap.AgreesOn name key stroke) ∧
      (∀ key, (∃ name, .triggerIsHomeRow name key ∈ findings) ↔
        ∃ set, keymap.rulesFor? key = some set ∧
          0 < set.count .trigger ∧ 0 < set.count .source) ∧
      (config.tidied findings).validate = .ok tidy.findings ∧
      Keymap.compile (config.tidied findings) = .ok tidy ∧
      tidy.sets = keymap.sets ∧ tidy.findings = findings.filter (!·.idle) := by
  obtain ⟨layout, sound, compiled⟩ := Keymap.compile_valid valid
  have same : config.findings layout = findings := Except.ok.inj (sound.validate.symm.trans valid)
  cases same
  have tidy : (config.tidied (config.findings layout)).SoundOn layout :=
    sound.reshape Config.tidied_trims
  refine ⟨_, _, compiled, rfl, ?_, ?_, tidy.validate, Keymap.compile_sound tidy, ?_, ?_⟩
  · exact fun name layer key stroke member own => Keymap.agrees_on member own
  · exact fun key => Keymap.homeRow_trigger_agrees
  · refine Keymap.reshape_sets Config.tidied_trims fun key inside free => ?_
    refine Config.tidied_spares (not_or.2 ⟨free, ?_⟩)
    have placed := (Keymap.mem_keysOf.1 inside).resolve_right free
    exact fun off => Bool.false_ne_true (off.symm.trans (Layout.mem_all.1 placed))
  · exact Config.tidied_findings

namespace Untidy

def nav : Layer :=
  { Layer.triggeredBy ⟨"a"⟩ with
    handoff := false
    bindings := .ofList
      [(⟨"k"⟩, .plain ⟨"left"⟩), (⟨"a"⟩, .plain ⟨"up"⟩), (⟨"f"⟩, .plain ⟨"down"⟩)] }

def config : Config :=
  { layout := ["a s | j k"]
    homeRow := .ofList [(⟨"a"⟩, .control)]
    layers := .ofList [("nav", nav)]
    timing := .standard }

def findings : List Finding :=
  [.triggerIsHomeRow "nav" ⟨"a"⟩, .flagWithoutParent "nav" "handoff",
    .bindingOnTrigger "nav" ⟨"a"⟩ "nav", .bindingOffLayout "nav" ⟨"f"⟩, .thresholdsDiffer 150 120]

theorem config_valid : config.validate = .ok findings := by decide

end Untidy

theorem untidy_findings_match :
    ∃ keymap tidy, Keymap.compile Untidy.config = .ok keymap ∧
      keymap.AgreesOn "nav" ⟨"k"⟩ (.plain ⟨"left"⟩) ∧ keymap.AgreesOn "nav" ⟨"a"⟩ (.plain ⟨"up"⟩) ∧
      keymap.AgreesOn "nav" ⟨"f"⟩ (.plain ⟨"down"⟩) ∧
      (∃ set, keymap.rulesFor? ⟨"a"⟩ = some set ∧ 0 < set.count .trigger ∧ 0 < set.count .source) ∧
      Keymap.compile (Untidy.config.tidied Untidy.findings) = .ok tidy ∧
      tidy.sets = keymap.sets ∧
      tidy.findings = [.triggerIsHomeRow "nav" ⟨"a"⟩, .thresholdsDiffer 150 120] := by
  obtain ⟨keymap, tidy, compiled, _, agrees, homeRow, _, compiled', sets, left⟩ :=
    findings_match_keymap Untidy.config_valid
  have member : ("nav", Untidy.nav) ∈ Untidy.config.layers.entries := by decide
  refine ⟨keymap, tidy, compiled, ?_, ?_, ?_, ?_, compiled', sets, left⟩
  · exact agrees _ _ _ _ member (by decide)
  · exact agrees _ _ _ _ member (by decide)
  · exact agrees _ _ _ _ member (by decide)
  · exact (homeRow ⟨"a"⟩).1 ⟨"nav", by decide⟩

end TapHold
