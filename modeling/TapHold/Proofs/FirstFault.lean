import TapHold.Proofs.KeyNames
import TapHold.Proofs.KeymapShape
import TapHold.Proofs.ParentWalk
import TapHold.Proofs.Requirement

namespace TapHold
open Requirement

namespace Timing

def requirements (timing : Timing) : List Requirement :=
  [("streak_window_ms", timing.streakWindow), ("hrm_hold_threshold_ms", timing.homeRowHold),
    ("layer_hold_threshold_ms", timing.layerHold)].map fun (name, ms) =>
      ⟨1 ≤ ms ∧ ms ≤ 5000, .timeoutOutOfRange name ms⟩

def Bounded (timing : Timing) : Prop :=
  ∀ ms ∈ [timing.streakWindow, timing.homeRowHold, timing.layerHold], 1 ≤ ms ∧ ms ≤ 5000

theorem requirements_met {timing : Timing} :
    (∀ one ∈ timing.requirements, one.met) ↔ timing.Bounded := by
  simp [requirements, Bounded]

theorem faults_report (timing : Timing) : Reports timing.faults timing.requirements := by
  unfold faults requirements
  rw [List.filterMap_eq_flatMap_toList, List.map_eq_flatMap]
  apply Reports.flatMap
  rintro ⟨name, ms⟩ _
  have agree : inRange ms = true ↔ 1 ≤ ms ∧ ms ≤ 5000 := by
    rw [inRange, Bool.and_eq_true, decide_eq_true_iff, decide_eq_true_iff]
    rfl
  have reports : Reports (if inRange ms then [] else [.timeoutOutOfRange name ms])
      [⟨1 ≤ ms ∧ ms ≤ 5000, .timeoutOutOfRange name ms⟩] := .single agree
  by_cases inside : inRange ms = true <;> simpa [inside] using reports

end Timing

namespace Key

def requirements (key : Key) : List Requirement :=
  [⟨Text.trim key.name.toList ≠ [], .invalidKey .empty⟩,
    ⟨∀ c ∈ Text.trim key.name.toList, Text.isBlank c = false,
      .invalidKey (.blankInside (String.ofList (Text.trim key.name.toList)))⟩,
    ⟨Text.trim key.name.toList = key.name.toList, .paddedKey key⟩]

theorem requirements_met {key : Key} : (∀ one ∈ key.requirements, one.met) ↔ key.Spelled := by
  simp only [requirements, Spelled, List.forall_mem_cons, ne_eq, ← String.toList_eq_nil_iff]
  constructor
  · rintro ⟨present, clear, same, _⟩
    rw [same] at present clear
    exact ⟨present, clear⟩
  · rintro ⟨present, clear⟩
    rw [Text.trim_clear clear]
    exact ⟨present, clear, rfl, nofun⟩

theorem faults_staged (key : Key) : key.faults =
    let name := Text.trim key.name.toList
    if name ≠ [] then
      if ¬ name.any Text.isBlank then
        if name = key.name.toList then [] else [.paddedKey key]
      else [.invalidKey (.blankInside (String.ofList name))]
    else [.invalidKey .empty] := by
  unfold faults parse
  generalize Text.trim key.name.toList = name
  by_cases absent : name = []
  · simp [absent]
  by_cases inside : name.any Text.isBlank = true
  · simp [absent, inside]
  · simp [absent, inside, ofList_eq]

theorem faults_report (key : Key) : Reports key.faults key.requirements := by
  rw [faults_staged]
  exact .guarded Iff.rfl (.guarded (by simp) (.single Iff.rfl))

end Key

namespace Layer

structure Named (name : String) : Prop where
  present : name ≠ ""
  written : ∀ c ∈ name.toList,
    ('a' ≤ c ∧ c ≤ 'z') ∨ ('A' ≤ c ∧ c ≤ 'Z') ∨ ('0' ≤ c ∧ c ≤ '9') ∨ c = '_'
  begun : ∀ first ∈ name.toList.head?, ¬ ('0' ≤ first ∧ first ≤ '9')

theorem isAlpha_iff {c : Char} :
    c.isAlpha = true ↔ ('A' ≤ c ∧ c ≤ 'Z') ∨ ('a' ≤ c ∧ c ≤ 'z') := by
  delta Char.isAlpha Char.isUpper Char.isLower
  simp only [Char.le_def, Bool.or_eq_true, Bool.and_eq_true, decide_eq_true_eq]

theorem isDigit_iff {c : Char} : c.isDigit = true ↔ '0' ≤ c ∧ c ≤ '9' := by
  simp only [Char.isDigit, Char.le_def, Bool.and_eq_true, decide_eq_true_eq]

theorem isNameChar_iff {c : Char} : isNameChar c = true ↔
    ('a' ≤ c ∧ c ≤ 'z') ∨ ('A' ≤ c ∧ c ≤ 'Z') ∨ ('0' ≤ c ∧ c ≤ '9') ∨ c = '_' := by
  simp only [isNameChar, Char.isAlphanum, Bool.or_eq_true, isAlpha_iff, isDigit_iff, beq_iff_eq]
  tauto

theorem isNameStart_iff {c : Char} :
    isNameStart c = true ↔ isNameChar c = true ∧ ¬ ('0' ≤ c ∧ c ≤ '9') := by
  have letter : c.isAlpha = true → ¬ c ≤ '9' := by
    intro alpha digit
    rcases isAlpha_iff.1 alpha with ⟨upper, _⟩ | ⟨lower, _⟩
    · exact absurd (Char.le_trans upper digit) (by decide)
    · exact absurd (Char.le_trans lower digit) (by decide)
  have underscore : ¬ '_' ≤ '9' := by decide
  simp only [isNameStart, isNameChar, Char.isAlphanum, Bool.or_eq_true, beq_iff_eq, isDigit_iff]
  constructor
  · rintro (alpha | rfl)
    · exact ⟨.inl (.inl alpha), fun between => letter alpha between.2⟩
    · exact ⟨.inr rfl, fun between => underscore between.2⟩
  · rintro ⟨(alpha | digits) | same, other⟩
    · exact .inl alpha
    · exact absurd digits other
    · exact .inr same

theorem isName_iff {name : String} : isName name = true ↔ Named name := by
  unfold isName
  cases letters : name.toList with
  | nil =>
    have absent : name = "" := by simpa using letters
    exact iff_of_false nofun fun named => named.present absent
  | cons first rest =>
    simp only [Bool.and_eq_true, List.all_eq_true, isNameStart_iff, isNameChar_iff]
    constructor
    · rintro ⟨⟨written, begun⟩, others⟩
      refine ⟨?_, ?_, ?_⟩
      · rintro rfl
        cases letters
      · rw [letters]
        exact List.forall_mem_cons.2 ⟨written, others⟩
      · rw [letters]
        simpa using begun
    · intro named
      have written := named.written
      have begun := named.begun
      rw [letters] at written begun
      obtain ⟨start, others⟩ := List.forall_mem_cons.1 written
      exact ⟨⟨start, begun first rfl⟩, others⟩

end Layer

namespace Config
variable {config : Config} {layout : Layout}

def homeRowRequirements (config : Config) (layout : Layout) : List Requirement :=
  ⟨config.homeRow.size ≤ 16, .tooManyHomeRow config.homeRow.size⟩ ::
    config.homeRow.keys.map fun key => ⟨key ∈ layout.all, .homeRowOffLayout key⟩

def layerRequirements (config : Config) (name : String) (layer : Layer) : List Requirement :=
  ⟨Layer.Named name, .invalidLayerName name⟩ :: layer.keys.flatMap Key.requirements ++
    layer.parent.toList.map fun parent =>
      ⟨parent ∈ config.layers.keys, .unknownParent name parent⟩

def cycleRequirements (config : Config) : List Requirement :=
  config.layers.keys.map fun name => ⟨¬ config.Circles name, .parentCycle name⟩

-- Each layer is held against those before it, from the first on.
def triggerRequirements (earlier : List (String × Layer)) :
    List (String × Layer) → List Requirement
  | [] => []
  | (name, layer) :: rest =>
    (earlier.map fun (first, other) =>
      ⟨other.trigger ≠ layer.trigger, .duplicateTrigger layer.trigger first name⟩) ++
      triggerRequirements (earlier ++ [(name, layer)]) rest

def requirements (config : Config) : List Requirement :=
  config.timing.requirements ++
    match Layout.parse config.layout with
    | .error reason => [⟨False, .layout reason⟩]
    | .ok layout => config.homeRowRequirements layout ++
        config.layers.entries.flatMap (fun (name, layer) => config.layerRequirements name layer) ++
        config.cycleRequirements ++ triggerRequirements [] config.layers.entries

theorem homeRowFaults_report :
    Reports (config.homeRowFaults layout) (config.homeRowRequirements layout) := by
  refine (Reports.single Iff.rfl).append (Reports.filter ?_)
  intro key _
  rw [Bool.not_eq_false', Layout.mem_all]

theorem layerFaults_report (name : String) (layer : Layer) :
    Reports (config.layerFaults name layer) (config.layerRequirements name layer) := by
  have keys := Reports.flatMap fun key (_ : key ∈ layer.keys) => key.faults_report
  refine ((Reports.single Layer.isName_iff).append keys).append ?_
  cases layer.parent with
  | none => exact .none_asked
  | some parent => exact Reports.single (by simp [Dict.contains])

theorem cycleFaults_report : Reports config.cycleFaults config.cycleRequirements := by
  refine Reports.filter fun name _ => ?_
  rw [← climbsForever_iff, Bool.not_eq_true]

theorem triggerFaults_report (earlier rest : List (String × Layer)) :
    Reports (triggerFaults earlier rest) (triggerRequirements earlier rest) := by
  induction rest generalizing earlier with
  | nil => exact .none_asked
  | cons entry rest ih =>
    obtain ⟨name, layer⟩ := entry
    refine Reports.append ?_ (ih _)
    induction earlier with
    | nil => exact .none_asked
    | cons other earlier found =>
      intro error
      rw [List.map_cons, firstUnmet_cons, ← found]
      by_cases same : other.2.trigger = layer.trigger <;> simp [same]

def faults (config : Config) : List ConfigError :=
  config.timing.faults ++
    match Layout.parse config.layout with
    | .error reason => [.layout reason]
    | .ok layout => config.faultsOn layout

theorem faults_report (config : Config) : Reports config.faults config.requirements := by
  refine config.timing.faults_report.append ?_
  cases Layout.parse config.layout with
  | error reason =>
    intro error
    have none : ¬ FirstUnmet [] error := nofun
    simp [firstUnmet_cons, none]
  | ok layout =>
    refine ((homeRowFaults_report.append ?_).append cycleFaults_report).append
      (triggerFaults_report [] _)
    exact .flatMap fun entry _ => layerFaults_report entry.1 entry.2

theorem validate_error {error : ConfigError} :
    config.validate = .error error ↔ config.faults.head? = some error := by
  have checked : config.validate = .error error ↔ config.check = .error error := by
    unfold validate
    cases config.check <;> simp [bind, Except.bind, pure, Except.pure]
  rw [checked, faults, List.head?_append, check]
  cases config.timing.faults.head? with
  | some fault => simp
  | none =>
    cases Layout.parse config.layout with
    | error reason => simp
    | ok layout =>
      cases first : (config.faultsOn layout).head? <;> simp [first]

structure WellFormed (config : Config) : Prop where
  timed : config.timing.Bounded
  placed : ∃ layout, Layout.parse config.layout = .ok layout ∧
    ∀ key ∈ config.homeRow.keys, key ∈ layout.all
  few : config.homeRow.size ≤ 16
  named : ∀ name ∈ config.layers.keys, Layer.Named name
  spelled : ∀ layer ∈ config.layers.values, ∀ key ∈ layer.keys, key.Spelled
  known : ∀ layer ∈ config.layers.values, ∀ parent ∈ layer.parent, parent ∈ config.layers.keys
  acyclic : ∀ name ∈ config.layers.keys, ¬ Relation.TransGen config.Below name name
  apart : config.triggers.Nodup

theorem layerRequirements_met {name : String} {layer : Layer} :
    (∀ one ∈ config.layerRequirements name layer, one.met) ↔
      Layer.Named name ∧ (∀ key ∈ layer.keys, key.Spelled) ∧
        ∀ parent ∈ layer.parent, parent ∈ config.layers.keys := by
  simp only [layerRequirements, List.forall_mem_append, List.forall_mem_cons,
    List.forall_mem_flatMap, List.forall_mem_map, Key.requirements_met, Option.mem_toList,
    Option.mem_def, and_assoc]

theorem triggerRequirements_met :
    (∀ one ∈ triggerRequirements [] config.layers.entries, one.met) ↔ config.triggers.Nodup := by
  rw [← (triggerFaults_report [] config.layers.entries).nil_iff, triggerFaults_nil (by simp),
    triggers, Dict.values, List.map_map]
  rfl

theorem requirements_met : (∀ one ∈ config.requirements, one.met) ↔ config.WellFormed := by
  unfold requirements
  cases parsed : Layout.parse config.layout with
  | error reason =>
    have unplaced : ¬ config.WellFormed := by
      intro formed
      obtain ⟨layout, read, _⟩ := formed.placed
      cases parsed.symm.trans read
    simp [unplaced]
  | ok layout =>
    simp only [List.forall_mem_append, homeRowRequirements, List.forall_mem_cons,
      List.forall_mem_map, List.forall_mem_flatMap, layerRequirements_met, cycleRequirements,
      circles_none, triggerRequirements_met, Timing.requirements_met]
    constructor
    · rintro ⟨timed, ⟨⟨⟨few, placed⟩, layers⟩, acyclic⟩, apart⟩
      refine ⟨timed, ⟨layout, parsed, placed⟩, few, ?_, ?_, ?_, acyclic, apart⟩
      · exact List.forall_mem_map.2 fun entry inside => (layers entry inside).1
      · exact List.forall_mem_map.2 fun entry inside => (layers entry inside).2.1
      · exact List.forall_mem_map.2 fun entry inside => (layers entry inside).2.2
    · intro formed
      obtain ⟨other, read, placed⟩ := formed.placed
      cases parsed.symm.trans read
      refine ⟨formed.timed, ⟨⟨⟨formed.few, placed⟩, fun entry inside => ?_⟩, formed.acyclic⟩,
        formed.apart⟩
      have inside' : entry.2 ∈ config.layers.values := List.mem_map_of_mem inside
      exact ⟨formed.named _ (List.mem_map_of_mem inside), formed.spelled _ inside',
        formed.known _ inside'⟩

-- The second of two layers has the trigger of the first. Up to there no two layers share one.
def FirstRepeat (entries : List (String × Layer)) (trigger : Key) (first second : String) : Prop :=
  ∃ before between after : List (String × Layer), ∃ one other : Layer,
    entries = before ++ (first, one) :: between ++ (second, other) :: after ∧
      one.trigger = trigger ∧ other.trigger = trigger ∧
      ((before ++ (first, one) :: between).map (·.2.trigger)).Nodup

theorem triggerFaults_first {earlier rest : List (String × Layer)} {trigger : Key}
    {first second : String} (distinct : (earlier.map (·.2.trigger)).Nodup)
    (reported : (triggerFaults earlier rest).head? =
      some (.duplicateTrigger trigger first second)) :
    FirstRepeat (earlier ++ rest) trigger first second := by
  induction rest generalizing earlier with
  | nil => cases reported
  | cons entry rest ih =>
    obtain ⟨name, layer⟩ := entry
    rw [triggerFaults] at reported
    cases found : earlier.find? (·.2.trigger = layer.trigger) with
    | none =>
      have fresh := find_trigger_none.1 found
      have longer : ((earlier ++ [(name, layer)]).map (·.2.trigger)).Nodup := by
        rw [List.map_append]
        exact append_distinct distinct fresh
      rw [found] at reported
      have further := ih longer reported
      rwa [List.append_assoc] at further
    | some other =>
      obtain ⟨old, above⟩ := other
      have same : above.trigger = layer.trigger := by simpa using List.find?_some found
      obtain ⟨before, between, rfl⟩ := List.append_of_mem (List.mem_of_find?_eq_some found)
      rw [found] at reported
      cases reported
      exact ⟨before, between, rest, above, layer, rfl, same, rfl, distinct⟩

theorem head_after {others last : List ConfigError} {error : ConfigError} (absent : error ∉ others)
    (reported : (others ++ last).head? = some error) : last.head? = some error := by
  cases others with
  | nil => exact reported
  | cons fault others =>
    cases reported
    exact absurd List.mem_cons_self absent

end Config

def ConfigError.late : ConfigError → Bool
  | parentCycle _ | duplicateTrigger .. => true
  | _ => false

theorem Timing.faults_early (timing : Timing) : ∀ fault ∈ timing.faults, fault.late = false := by
  intro fault member
  obtain ⟨⟨name, ms⟩, _, fails⟩ := List.mem_filterMap.1 member
  obtain ⟨_, same⟩ := Option.ite_none_left_eq_some.1 fails
  cases same
  rfl

theorem Key.faults_early (key : Key) : ∀ fault ∈ key.faults, fault.late = false := by
  rw [faults_staged]
  dsimp only
  split_ifs <;> simp [ConfigError.late]

namespace Config
variable {config : Config} {layout : Layout}

theorem homeRowFaults_early : ∀ fault ∈ config.homeRowFaults layout, fault.late = false := by
  intro fault member
  rcases List.mem_append.1 member with many | off
  · split at many
    · cases many
    · cases List.mem_singleton.1 many
      rfl
  · obtain ⟨_, _, rfl⟩ := List.mem_map.1 off
    rfl

theorem layerFaults_early (name : String) (layer : Layer) :
    ∀ fault ∈ config.layerFaults name layer, fault.late = false := by
  intro fault member
  rcases List.mem_append.1 member with own | parent
  · rcases List.mem_append.1 own with named | keys
    · split at named
      · cases named
      · cases List.mem_singleton.1 named
        rfl
    · obtain ⟨key, _, inside⟩ := List.mem_flatMap.1 keys
      exact key.faults_early fault inside
  · split at parent
    · cases parent
    · split at parent
      · cases parent
      · cases List.mem_singleton.1 parent
        rfl

theorem late_reported {error : ConfigError} (late : error.late = true)
    (refused : config.validate = .error error) :
    (config.cycleFaults ++ triggerFaults [] config.layers.entries).head? = some error := by
  have absent {faults : List ConfigError} (early : ∀ fault ∈ faults, fault.late = false) :
      error ∉ faults := by
    intro member
    rw [early error member] at late
    cases late
  have onLayout := head_after (absent config.timing.faults_early) (validate_error.1 refused)
  cases parsed : Layout.parse config.layout with
  | error reason =>
    rw [parsed] at onLayout
    cases onLayout
    cases late
  | ok layout =>
    simp only [parsed] at onLayout
    rw [faultsOn, List.append_assoc] at onLayout
    refine head_after (absent fun fault member => ?_) onLayout
    rcases List.mem_append.1 member with homeRow | layers
    · exact homeRowFaults_early fault homeRow
    · obtain ⟨entry, _, inside⟩ := List.mem_flatMap.1 layers
      exact layerFaults_early entry.1 entry.2 fault inside

theorem trigger_shared {trigger : Key} {first second : String}
    (refused : config.validate = .error (.duplicateTrigger trigger first second)) :
    FirstRepeat config.layers.entries trigger first second := by
  have cycles : .duplicateTrigger trigger first second ∉ config.cycleFaults := by
    simp [cycleFaults]
  exact triggerFaults_first (by simp) (head_after cycles (late_reported rfl refused))

end Config

-- A walk up the parents ends after at most one name more than there are layers, whatever the
-- parents are.
theorem validation_exact (config : Config) :
    ((∃ findings, config.validate = .ok findings) ↔ config.WellFormed) ∧
      (∀ error, config.validate = .error error ↔ FirstUnmet config.requirements error) ∧
      (∀ trigger first second,
        config.validate = .error (.duplicateTrigger trigger first second) →
          Config.FirstRepeat config.layers.entries trigger first second) ∧
      ∀ name, (config.climbsForever name = true ↔ config.Circles name) ∧
        ∃ looks ≤ config.layers.size + 1, ∀ many back,
          config.Climb [] name many back ↔ many = looks ∧ back = config.climbsForever name := by
  have accepted : (∃ findings, config.validate = .ok findings) ↔ config.faults = [] := by
    rw [← List.head?_eq_none_iff, Option.eq_none_iff_forall_ne_some]
    simp only [ne_eq, ← Config.validate_error]
    cases config.validate <;> simp
  refine ⟨?_, ?_, ?_, ?_⟩
  · rw [accepted, config.faults_report.nil_iff, Config.requirements_met]
  · intro error
    exact Config.validate_error.trans (config.faults_report error)
  · intro trigger first second refused
    exact Config.trigger_shared refused
  · intro name
    obtain ⟨looks, bounded, climb⟩ := Config.climb_from config name
    refine ⟨Config.climbsForever_iff, looks, bounded, fun many back => ⟨climb.unique, ?_⟩⟩
    rintro ⟨rfl, rfl⟩
    exact climb

namespace Shared

def config : Config :=
  { Config.empty with
    layers := .ofList [("nav", .triggeredBy ⟨"space"⟩), ("num", .triggeredBy ⟨"tab"⟩),
      ("sym", .triggeredBy ⟨"tab"⟩), ("fun", .triggeredBy ⟨"space"⟩)] }

theorem tab_named :
    config.validate = .error (.duplicateTrigger ⟨"tab"⟩ "num" "sym") ∧
      Config.FirstRepeat config.layers.entries ⟨"tab"⟩ "num" "sym" := by
  have refused : config.validate = .error (.duplicateTrigger ⟨"tab"⟩ "num" "sym") := by decide
  exact ⟨refused, (validation_exact config).2.2.1 _ _ _ refused⟩

end Shared
end TapHold
