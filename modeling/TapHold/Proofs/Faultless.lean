import TapHold.Config.Validity

namespace TapHold.Config

structure Faultless (config : Config) (layout : Layout) : Prop where
  few : config.homeRow.size ≤ maxHomeRow
  placed : ∀ key ∈ config.homeRow.keys, layout.contains key = true
  named : ∀ entry ∈ config.layers.entries, Layer.isName entry.1 = true
  spelled : ∀ entry ∈ config.layers.entries, ∀ key ∈ entry.2.keys, key.faults = []
  known : ∀ entry ∈ config.layers.entries, ∀ parent ∈ entry.2.parent, parent ∈ config.layers.keys
  climbs : ∀ name ∈ config.layers.keys, (config.lineage (config.layers.size + 1) name).Nodup
  apart : config.triggers.Nodup

variable {config : Config} {layout : Layout}

def parentOf? (config : Config) (name : String) : Option String :=
  (config.layers.get? name).bind (·.parent)

theorem homeRowFaults_nil : config.homeRowFaults layout = [] ↔
    config.homeRow.size ≤ maxHomeRow ∧ ∀ key ∈ config.homeRow.keys, layout.contains key = true := by
  simp [homeRowFaults]

theorem layerFaults_nil {name : String} {layer : Layer} : config.layerFaults name layer = [] ↔
    Layer.isName name = true ∧ (∀ key ∈ layer.keys, key.faults = []) ∧
      ∀ parent ∈ layer.parent, parent ∈ config.layers.keys := by
  unfold layerFaults
  cases layer.parent with
  | none => simp
  | some parent => simp [Dict.contains]

theorem cycleFaults_nil : config.cycleFaults = [] ↔
    ∀ name ∈ config.layers.keys, (config.lineage (config.layers.size + 1) name).Nodup := by
  simp [cycleFaults, climbsForever]

theorem find_trigger_none {earlier : List (String × Layer)} {trigger : Key} :
    earlier.find? (·.2.trigger = trigger) = none ↔ trigger ∉ earlier.map (·.2.trigger) := by
  simp

-- What was seen before counts as part of the list, so the induction is over any start of it.
theorem triggerFaults_nil {earlier rest : List (String × Layer)}
    (distinct : (earlier.map (·.2.trigger)).Nodup) :
    triggerFaults earlier rest = [] ↔ ((earlier ++ rest).map (·.2.trigger)).Nodup := by
  induction rest generalizing earlier with
  | nil => simp [triggerFaults, distinct]
  | cons entry rest ih =>
    obtain ⟨name, layer⟩ := entry
    rw [triggerFaults, List.append_eq_nil_iff]
    cases found : earlier.find? (·.2.trigger = layer.trigger) with
    | none =>
      have fresh := find_trigger_none.1 found
      have longer : ((earlier ++ [(name, layer)]).map (·.2.trigger)).Nodup := by
        rw [List.map_append]
        exact append_distinct distinct fresh
      simpa using ih longer
    | some first =>
      have same : first.2.trigger = layer.trigger := by simpa using List.find?_some found
      have seen : layer.trigger ∈ earlier.map (·.2.trigger) :=
        List.mem_map.2 ⟨first, List.mem_of_find?_eq_some found, same⟩
      constructor
      · intro faultless
        simp at faultless
      · intro apart
        rw [List.map_append, List.nodup_append] at apart
        exact absurd rfl (apart.2.2 _ seen _ (by simp))

theorem faultsOn_nil : config.faultsOn layout = [] ↔ config.Faultless layout := by
  have apart : triggerFaults [] config.layers.entries = [] ↔ config.triggers.Nodup := by
    rw [triggerFaults_nil (by simp), triggers, Dict.values, List.map_map]
    rfl
  simp only [faultsOn, List.append_eq_nil_iff, List.flatMap_eq_nil_iff, homeRowFaults_nil,
    layerFaults_nil, cycleFaults_nil, apart]
  constructor
  · rintro ⟨⟨⟨⟨few, placed⟩, layers⟩, climbs⟩, apart⟩
    exact ⟨few, placed, fun entry inside => (layers entry inside).1,
      fun entry inside => (layers entry inside).2.1,
      fun entry inside => (layers entry inside).2.2, climbs, apart⟩
  · intro checks
    exact ⟨⟨⟨⟨checks.few, checks.placed⟩, fun entry inside =>
      ⟨checks.named entry inside, checks.spelled entry inside, checks.known entry inside⟩⟩,
      checks.climbs⟩, checks.apart⟩

theorem lineage_succ (more : Nat) (name : String) : config.lineage (more + 1) name =
    name :: (config.parentOf? name).elim [] (config.lineage more) := by
  rw [lineage, parentOf?]
  cases (config.layers.get? name).bind (·.parent) <;> rfl

theorem lineage_extends {fewer more : Nat} (bounded : fewer ≤ more) (name : String) :
    config.lineage fewer name <+: config.lineage more name := by
  induction fewer generalizing more name with
  | zero => exact List.nil_prefix
  | succ fewer ih =>
    obtain ⟨rest, rfl⟩ := Nat.exists_eq_add_of_lt bounded
    rw [lineage_succ, lineage_succ, List.prefix_cons_inj]
    cases config.parentOf? name with
    | none => exact List.prefix_rfl
    | some parent => exact ih (Nat.le_add_right _ _) parent

-- Going up from a name depends only on what is above it. The names on the way are all of a sort,
-- and for that sort the two configurations name the same parents.
theorem lineage_congr (config other : Config) (among : String → Prop)
    (alike : ∀ name, among name → other.parentOf? name = config.parentOf? name)
    (upward : ∀ name parent, among name → config.parentOf? name = some parent → among parent)
    (more : Nat) {name : String} (start : among name) :
    other.lineage more name = config.lineage more name := by
  induction more generalizing name with
  | zero => rfl
  | succ more ih =>
    rw [lineage_succ, lineage_succ, alike name start]
    cases above : config.parentOf? name with
    | none => rfl
    | some parent =>
      have further := ih (upward name parent start above)
      simp only [Option.elim_some, further]

end TapHold.Config
