import Mathlib.Data.List.Nodup
import TapHold.Proofs.KeymapShape

namespace TapHold

theorem filter_flatMap_only {items : List α} {made : α → List β} {pass : β → Bool} {chosen : α}
    (distinct : items.Nodup) (member : chosen ∈ items)
    (own : ∀ result ∈ made chosen, pass result = true)
    (others : ∀ item ∈ items, item ≠ chosen → ∀ result ∈ made item, pass result = false) :
    (items.flatMap made).filter pass = made chosen := by
  induction items with
  | nil => cases member
  | cons item rest ih =>
    obtain ⟨fresh, distinct⟩ := List.nodup_cons.1 distinct
    have later : ∀ other ∈ rest, other ≠ chosen → ∀ result ∈ made other, pass result = false :=
      fun other inside => others other (List.mem_cons_of_mem _ inside)
    rw [List.flatMap_cons, List.filter_append]
    by_cases here : item = chosen
    · cases here
      have nothing : (rest.flatMap made).filter pass = [] := by
        rw [List.filter_eq_nil_iff]
        intro result produced
        obtain ⟨other, inside, produced⟩ := List.mem_flatMap.1 produced
        have differs : other ≠ chosen := fun same => fresh (same ▸ inside)
        simp [later other inside differs result produced]
      rw [List.filter_eq_self.2 own, nothing, List.append_nil]
    · have nothing : (made item).filter pass = [] := by
        rw [List.filter_eq_nil_iff]
        intro result produced
        simp [others item List.mem_cons_self here result produced]
      have further : chosen ∈ rest :=
        (List.mem_cons.1 member).resolve_left fun same => here same.symm
      rw [nothing, ih distinct further later, List.nil_append]

namespace Finding

def layer? : Finding → Option String
  | triggerIsHomeRow layer _ | bindingOnTrigger layer _ _ | bindingOffLayout layer _
  | flagWithoutParent layer _ => some layer
  | thresholdsDiffer .. => none

-- The finding says that the binding of the layer for the key never fires.
def onBinding (name : String) (key : Key) : Finding → Bool
  | bindingOnTrigger layer bound _ | bindingOffLayout layer bound => layer = name && bound = key
  | triggerIsHomeRow .. | flagWithoutParent .. | thresholdsDiffer .. => false

theorem onBinding_layer {name : String} {key : Key} {finding : Finding}
    (reports : finding.onBinding name key = true) : finding.layer? = some name := by
  cases finding <;> simp_all [onBinding, layer?]

end Finding

namespace Config
variable {config : Config} {layout : Layout} {name : String} {layer : Layer} {key : Key}
  {finding : Finding}

-- No layer can give the key another meaning: it has no rules, or only those of a trigger.
def Unbindable (config : Config) (layout : Layout) (key : Key) : Prop :=
  key ∈ config.triggers ∨ layout.contains key = false

theorem bindingFindings_nil :
    config.bindingFindings layout name key = [] ↔ ¬ config.Unbindable layout key := by
  unfold bindingFindings Unbindable
  rw [← triggered_iff]
  cases config.layerTriggeredBy? key with
  | some entry => simp
  | none => cases layout.contains key <;> simp

theorem bindingFindings_single : (config.bindingFindings layout name key).length ≤ 1 := by
  unfold bindingFindings
  cases config.layerTriggeredBy? key with
  | some entry => exact Nat.le_refl 1
  | none => cases layout.contains key <;> simp

theorem bindingFindings_on {other : Key} (made : finding ∈ config.bindingFindings layout name key) :
    finding.onBinding name other = decide (key = other) := by
  unfold bindingFindings at made
  cases triggers : config.layerTriggeredBy? key with
  | some entry =>
    rw [triggers] at made
    cases List.mem_singleton.1 made
    simp [Finding.onBinding]
  | none =>
    rw [triggers] at made
    cases placed : layout.contains key with
    | true => simp [placed] at made
    | false =>
      simp only [placed, Bool.false_eq_true, if_false, List.mem_singleton] at made
      cases made
      simp [Finding.onBinding]

theorem bindingFindings_own (made : finding ∈ config.bindingFindings layout name key) :
    finding.onBinding name key = true := (bindingFindings_on made).trans (decide_eq_true rfl)

theorem mem_layerFindings : finding ∈ config.layerFindings layout name layer ↔
    (config.isHomeRow layer.trigger = true ∧ finding = .triggerIsHomeRow name layer.trigger) ∨
      (∃ flag ∈ layer.idleFlags, finding = .flagWithoutParent name flag) ∨
      ∃ key ∈ layer.bindings.keys, finding ∈ config.bindingFindings layout name key := by
  unfold layerFindings
  rw [List.mem_append, List.mem_append, List.mem_map, List.mem_flatMap, or_assoc]
  refine or_congr ?_ (or_congr ?_ Iff.rfl)
  · cases config.isHomeRow layer.trigger <;> simp
  · simp only [eq_comm]

theorem layerFindings_layer (made : finding ∈ config.layerFindings layout name layer) :
    finding.layer? = some name := by
  rcases mem_layerFindings.1 made with ⟨_, rfl⟩ | ⟨_, _, rfl⟩ | ⟨key, _, onBinding⟩
  · rfl
  · rfl
  · exact Finding.onBinding_layer (bindingFindings_own onBinding)

section
variable (member : (name, layer) ∈ config.layers.entries)
include member

theorem findings_of_layer : (config.findings layout).filter (·.layer? = some name) =
    config.layerFindings layout name layer := by
  have distinct : config.layers.entries.Nodup := List.Nodup.of_map Prod.fst config.layers.distinct
  have timing : (if config.timing.homeRowHold = config.timing.layerHold then []
      else [Finding.thresholdsDiffer config.timing.homeRowHold config.timing.layerHold]).filter
        (·.layer? = some name) = [] := by
    split <;> rfl
  unfold findings
  rw [List.filter_append, timing, List.append_nil]
  refine filter_flatMap_only distinct member ?_ ?_
  · intro finding made
    exact decide_eq_true (layerFindings_layer made)
  · intro entry inside differs finding made
    refine decide_eq_false fun same => differs ?_
    rw [layerFindings_layer made, Option.some.injEq] at same
    exact List.inj_on_of_nodup_map config.layers.distinct inside member same

theorem mem_findings_of_layer (about : finding.layer? = some name) :
    finding ∈ config.findings layout ↔ finding ∈ config.layerFindings layout name layer := by
  rw [← findings_of_layer member, List.mem_filter]
  simp [about]

theorem flag_reported {flag : String} :
    .flagWithoutParent name flag ∈ config.findings layout ↔ flag ∈ layer.idleFlags := by
  rw [mem_findings_of_layer member rfl, mem_layerFindings]
  constructor
  · rintro (⟨_, same⟩ | ⟨_, idle, same⟩ | ⟨_, _, onBinding⟩)
    · cases same
    · cases same
      exact idle
    · cases bindingFindings_own onBinding
  · exact fun idle => .inr (.inl ⟨flag, idle, rfl⟩)

theorem findings_on_binding (bound : key ∈ layer.bindings.keys) :
    (config.findings layout).filter (·.onBinding name key) =
      config.bindingFindings layout name key := by
  have narrowed : (config.findings layout).filter (·.onBinding name key) =
      ((config.findings layout).filter (·.layer? = some name)).filter (·.onBinding name key) := by
    rw [List.filter_filter]
    refine List.filter_congr fun finding _ => ?_
    cases reports : finding.onBinding name key with
    | true => simp [Finding.onBinding_layer reports]
    | false => rfl
  have homeRow : (if config.isHomeRow layer.trigger then
      [Finding.triggerIsHomeRow name layer.trigger] else []).filter
        (·.onBinding name key) = [] := by
    split <;> rfl
  have flags : (layer.idleFlags.map (Finding.flagWithoutParent name)).filter
      (·.onBinding name key) = [] := by
    rw [List.filter_eq_nil_iff]
    intro finding made
    obtain ⟨flag, _, rfl⟩ := List.mem_map.1 made
    exact Bool.false_ne_true
  rw [narrowed, findings_of_layer member, layerFindings, List.filter_append, List.filter_append,
    homeRow, flags]
  refine filter_flatMap_only layer.bindings.distinct bound ?_ ?_
  · exact fun finding made => bindingFindings_own made
  · intro other _ differs finding made
    exact (bindingFindings_on made).trans (decide_eq_false differs)

theorem binding_reported (bound : key ∈ layer.bindings.keys) :
    (∃ finding ∈ config.findings layout, finding.onBinding name key = true) ↔
      config.Unbindable layout key := by
  have reported : (config.findings layout).filter (·.onBinding name key) = _ :=
    findings_on_binding member bound
  rw [← not_iff_not, ← bindingFindings_nil, ← reported, List.filter_eq_nil_iff]
  simp

end

theorem layer_of_finding (reported : finding ∈ config.findings layout)
    (about : finding.layer? = some name) : ∃ layer, (name, layer) ∈ config.layers.entries ∧
      finding ∈ config.layerFindings layout name layer := by
  unfold findings at reported
  rcases List.mem_append.1 reported with ofLayer | timing
  · obtain ⟨⟨named, layer⟩, inside, made⟩ := List.mem_flatMap.1 ofLayer
    have same : named = name := Option.some.inj ((layerFindings_layer made).symm.trans about)
    cases same
    exact ⟨layer, inside, made⟩
  · split at timing
    · cases timing
    · cases List.mem_singleton.1 timing
      cases about

theorem homeRow_reported : (∃ name, .triggerIsHomeRow name key ∈ config.findings layout) ↔
    key ∈ config.triggers ∧ key ∈ config.homeRow.keys := by
  constructor
  · rintro ⟨name, reported⟩
    obtain ⟨layer, inside, made⟩ := layer_of_finding reported rfl
    rcases mem_layerFindings.1 made with ⟨homeRow, same⟩ | ⟨_, _, same⟩ | ⟨_, _, onBinding⟩
    · cases same
      refine ⟨?_, of_decide_eq_true homeRow⟩
      exact List.mem_map_of_mem (List.mem_map_of_mem inside)
    · cases same
    · cases bindingFindings_own onBinding
  · rintro ⟨listed, homeRow⟩
    obtain ⟨layer, inside, rfl⟩ := List.mem_map.1 listed
    obtain ⟨⟨name, _⟩, member, rfl⟩ := List.mem_map.1 inside
    refine ⟨name, (mem_findings_of_layer member rfl).2 (mem_layerFindings.2 (.inl ⟨?_, rfl⟩))⟩
    exact decide_eq_true homeRow

end Config
end TapHold
