import TapHold.Proofs.DictChanges
import TapHold.Proofs.KeymapShape

namespace TapHold

-- What is left of a layer: some of its bindings, and its flags where there is a parent for them.
structure Layer.Trims (layer less : Layer) : Prop where
  trigger : less.trigger = layer.trigger
  parent : less.parent = layer.parent
  handoff : layer.parent.isSome → less.handoff = layer.handoff
  inherit : layer.parent.isSome → less.inherit = layer.inherit
  bindings : less.bindings.entries ⊆ layer.bindings.entries

namespace Config

def reshape (config : Config) (next : String → Layer → Layer) : Config :=
  { config with layers := config.layers.change next }

def Trimmed (config : Config) (next : String → Layer → Layer) : Prop :=
  ∀ entry ∈ config.layers.entries, entry.2.Trims (next entry.1 entry.2)

def Spares (config : Config) (next : String → Layer → Layer) (key : Key) : Prop :=
  ∀ entry ∈ config.layers.entries,
    (next entry.1 entry.2).bindings.get? key = entry.2.bindings.get? key

variable {config : Config} {layout : Layout} {next : String → Layer → Layer}

theorem reshape_entry {after : String × Layer}
    (member : after ∈ (config.reshape next).layers.entries) :
    ∃ entry ∈ config.layers.entries, after = (entry.1, next entry.1 entry.2) := by
  obtain ⟨entry, inside, same⟩ := List.mem_map.1 member
  exact ⟨entry, inside, same.symm⟩

theorem reshape_keys : (config.reshape next).layers.keys = config.layers.keys := Dict.change_keys

theorem reshape_get? {name : String} :
    (config.reshape next).layers.get? name = (config.layers.get? name).map (next name) :=
  Dict.change_get?

section
variable (trimmed : config.Trimmed next)
include trimmed

theorem reshape_parentOf {name : String} :
    (config.reshape next).parentOf? name = config.parentOf? name := by
  unfold parentOf?
  rw [reshape_get?]
  cases got : config.layers.get? name with
  | none => rfl
  | some layer => exact (trimmed _ (Dict.entry_of_get? got)).parent

theorem reshape_triggers : (config.reshape next).triggers = config.triggers := by
  unfold triggers Dict.values reshape
  rw [Dict.change_entries, List.map_map, List.map_map, List.map_map]
  exact List.map_congr_left fun entry inside => (trimmed entry inside).trigger

theorem reshape_layerTriggeredBy {key : Key} : (config.reshape next).layerTriggeredBy? key =
    (config.layerTriggeredBy? key).map fun entry => (entry.1, next entry.1 entry.2) := by
  unfold layerTriggeredBy? reshape
  rw [Dict.change_entries, List.find?_map]
  refine congrArg _ (List.find?_congr fun entry inside => ?_)
  rw [Function.comp_apply, (trimmed entry inside).trigger]

theorem Faultless.reshape (checks : config.Faultless layout) :
    (config.reshape next).Faultless layout := by
  refine ⟨checks.few, checks.placed, ?_, ?_, ?_, ?_, ?_⟩
  · intro after member
    obtain ⟨entry, inside, rfl⟩ := reshape_entry member
    exact checks.named entry inside
  · intro after member key mentioned
    obtain ⟨entry, inside, rfl⟩ := reshape_entry member
    refine checks.spelled entry inside key ?_
    unfold Layer.keys at mentioned ⊢
    rw [(trimmed entry inside).trigger] at mentioned
    rcases List.mem_cons.1 mentioned with rfl | inBinding
    · exact List.mem_cons_self
    · obtain ⟨binding, bound, spelled⟩ := List.mem_flatMap.1 inBinding
      refine List.mem_cons_of_mem _ (List.mem_flatMap.2 ⟨binding, ?_, spelled⟩)
      exact (trimmed entry inside).bindings bound
  · intro after member parent isChild
    obtain ⟨entry, inside, rfl⟩ := reshape_entry member
    rw [(trimmed entry inside).parent] at isChild
    rw [reshape_keys]
    exact checks.known entry inside parent isChild
  · intro name member
    rw [reshape_keys] at member
    have size : (config.reshape next).layers.size = config.layers.size := Dict.change_size
    rw [size, lineage_congr config (config.reshape next) (fun _ => True)
      (fun _ _ => reshape_parentOf trimmed) (fun _ _ _ _ => trivial) _ trivial]
    exact checks.climbs name member
  · rw [reshape_triggers trimmed]
    exact checks.apart

theorem SoundOn.reshape (sound : config.SoundOn layout) : (config.reshape next).SoundOn layout :=
  ⟨sound.parsed, sound.timed, faultsOn_nil.2 (sound.checks.reshape trimmed)⟩

end
end Config

namespace LayerRules
variable {config : Config} {layout : Layout} {next : String → Layer → Layer} {key : Key}

theorem gate_trims {layer less : Layer} (trims : layer.Trims less) : gate less = gate layer := by
  unfold gate
  rw [trims.parent]

-- Without a parent the flag makes no difference.
theorem needs_trims {layer less : Layer} (trims : layer.Trims less) (name : String) :
    needs name less = needs name layer := by
  unfold needs
  rw [gate_trims trims]
  cases above : layer.parent with
  | none => simp [gate, above]
  | some parent => rw [trims.handoff (by simp [above])]

section
variable (trimmed : config.Trimmed next)
include trimmed

theorem childrenFirst_reshape : childrenFirst (config.reshape next) =
    (childrenFirst config).map fun entry => (entry.1, next entry.1 entry.2) := by
  unfold childrenFirst Config.reshape
  rw [Dict.change_entries, List.filter_map, List.filter_map, List.map_append]
  refine congrArg₂ (fun front back => List.map _ front ++ List.map _ back) ?_ ?_
  · refine List.filter_congr fun entry inside => ?_
    rw [Function.comp_apply, (trimmed entry inside).parent]
  · refine List.filter_congr fun entry inside => ?_
    rw [Function.comp_apply, (trimmed entry inside).parent]

theorem resolve_reshape (spares : config.Spares next key) {entry : String × Layer}
    (member : entry ∈ config.layers.entries) :
    resolve (config.reshape next) (next entry.1 entry.2) key = resolve config entry.2 key := by
  have trims := trimmed entry member
  unfold resolve
  rw [spares entry member, trims.parent]
  cases above : entry.2.parent with
  | none => simp
  | some parent =>
    have inherits := trims.inherit (by simp [above])
    have direct : ((config.reshape next).layers.get? parent).bind (·.bindings.get? key) =
        (config.layers.get? parent).bind (·.bindings.get? key) := by
      rw [Config.reshape_get?]
      cases got : config.layers.get? parent with
      | none => rfl
      | some layer => exact spares _ (Dict.entry_of_get? got)
    rw [inherits]
    simp only [Option.bind_eq_bind, Option.bind_some, direct]

theorem triggerRules_reshape {name : String} {layer : Layer}
    (member : (name, layer) ∈ config.layers.entries) :
    triggerRules (Keymap.siteOf (config.reshape next) layout key) name (next name layer) =
      triggerRules (Keymap.siteOf config layout key) name layer := by
  have gated := gate_trims (trimmed (name, layer) member)
  unfold triggerRules rollover trigger
  rw [gated]
  rfl

theorem bindingRules_reshape (spares : config.Spares next key) :
    bindingRules (Keymap.siteOf (config.reshape next) layout key) =
      bindingRules (Keymap.siteOf config layout key) := by
  have binding : ∀ entry ∈ childrenFirst config,
      binding? (Keymap.siteOf (config.reshape next) layout key) (entry.1, next entry.1 entry.2) =
        binding? (Keymap.siteOf config layout key) entry := by
    intro entry inside
    have member := childrenFirst_member inside
    have sent := resolve_reshape trimmed spares member
    have needed := needs_trims (trimmed entry member) entry.1
    unfold binding? bound Keymap.siteOf
    simp only [sent, needed]
    rfl
  have swallow : ∀ entry ∈ childrenFirst config,
      swallow? (Keymap.siteOf (config.reshape next) layout key) (entry.1, next entry.1 entry.2) =
        swallow? (Keymap.siteOf config layout key) entry := by
    intro entry inside
    have member := childrenFirst_member inside
    have sent := resolve_reshape trimmed spares member
    unfold swallow? Keymap.siteOf
    simp only [sent, (trimmed entry member).trigger]
    rfl
  have layers : childrenFirst (Keymap.siteOf (config.reshape next) layout key).config = _ :=
    childrenFirst_reshape trimmed
  unfold bindingRules
  rw [layers, List.filterMap_map, List.filterMap_map]
  exact congrArg₂ _ (List.filterMap_congr binding) (List.filterMap_congr swallow)

theorem rules_reshape (spares : key ∉ config.triggers → config.Spares next key) :
    rules (Keymap.siteOf (config.reshape next) layout key) =
      rules (Keymap.siteOf config layout key) := by
  have same : (config.reshape next).layerTriggeredBy? key = _ :=
    Config.reshape_layerTriggeredBy trimmed
  cases triggers : config.layerTriggeredBy? key with
  | none =>
    rw [triggers] at same
    rw [rules_plain triggers, rules_plain same]
    exact bindingRules_reshape trimmed (spares (Config.triggered_none.1 triggers))
  | some entry =>
    rw [triggers] at same
    rw [rules_triggered triggers, rules_triggered same]
    exact triggerRules_reshape trimmed (List.mem_of_find?_eq_some triggers)

end
end LayerRules

theorem Keymap.reshape_sets {config : Config} {layout : Layout} {next : String → Layer → Layer}
    (trimmed : config.Trimmed next)
    (spares : ∀ key ∈ keysOf config layout, key ∉ config.triggers → config.Spares next key) :
    (ofLayout (config.reshape next) layout).sets = (ofLayout config layout).sets := by
  have keys : keysOf (config.reshape next) layout = keysOf config layout := by
    unfold keysOf
    rw [Config.reshape_triggers trimmed]
  unfold ofLayout
  rw [keys]
  refine List.map_congr_left fun key inside => ?_
  unfold setOf
  rw [LayerRules.standard_rules, LayerRules.standard_rules,
    LayerRules.rules_reshape trimmed (spares key inside)]
  have typed : Pass.passthrough (siteOf (config.reshape next) layout key) =
      Pass.passthrough (siteOf config layout key) := by
    unfold Pass.passthrough Site.isTrigger siteOf
    rw [Config.reshape_triggers trimmed]
    rfl
  rw [typed]
  rfl

end TapHold
