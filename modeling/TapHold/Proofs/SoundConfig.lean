import Mathlib.Data.List.Nodup
import Mathlib.Data.List.Perm.Subperm
import TapHold.Keymap
import TapHold.Proofs.DictChanges
import TapHold.Proofs.Faultless
import TapHold.Proofs.Outcomes
import TapHold.Proofs.VarNames

namespace TapHold

theorem Config.lineage_child {config : Config} {name parent : String} {layer : Layer}
    (member : (name, layer) ∈ config.layers.entries) (child : layer.parent = some parent)
    (more : Nat) : config.lineage (more + 1) name = name :: config.lineage more parent := by
  rw [lineage, Dict.get?_entry member, Option.bind_some, child]

structure Config.SoundOn (config : Config) (layout : Layout) : Prop where
  parsed : Layout.parse config.layout = .ok layout
  timed : config.timing.faults = []
  faultless : config.faultsOn layout = []

namespace Config
variable {config : Config} {layout : Layout}

theorem check_sound {findings : List Finding} (checked : config.check = .ok (layout, findings)) :
    config.SoundOn layout ∧ findings = config.findings layout := by
  unfold check at checked
  split at checked
  · cases checked
  · rename_i timed
    split at checked
    · cases checked
    · rename_i read parsed
      split at checked
      · cases checked
      · rename_i faultless
        cases checked
        rw [List.head?_eq_none_iff] at timed faultless
        exact ⟨⟨parsed, timed, faultless⟩, rfl⟩

theorem validate_faulty {reason : ConfigError} (faulty : config.check = .error reason) :
    config.validate = .error reason := by
  rw [validate, faulty]
  rfl

theorem validate_sound {findings : List Finding} (valid : config.validate = .ok findings) :
    ∃ layout, config.SoundOn layout := by
  obtain ⟨result, checked, _⟩ := bind_ok.1 valid
  exact ⟨result.1, (check_sound checked).1⟩

namespace SoundOn
variable (sound : config.SoundOn layout)
include sound

theorem check : config.check = .ok (layout, config.findings layout) := by
  simp [Config.check, sound.timed, sound.parsed, sound.faultless]

theorem validate : config.validate = .ok (config.findings layout) := by
  rw [Config.validate, sound.check]
  rfl

theorem checks : config.Faultless layout := faultsOn_nil.1 sound.faultless

theorem triggers_distinct : config.triggers.Nodup := sound.checks.apart

theorem layerTriggeredBy_entry {name : String} {layer : Layer}
    (member : (name, layer) ∈ config.layers.entries) :
    config.layerTriggeredBy? layer.trigger = some (name, layer) := by
  have distinct := sound.triggers_distinct
  rw [triggers, Dict.values, List.map_map] at distinct
  exact find_only member (decide_eq_true rfl) fun entry inside same =>
    List.inj_on_of_nodup_map distinct inside member (of_decide_eq_true same)

theorem parent_known {name parent : String} {layer : Layer}
    (member : (name, layer) ∈ config.layers.entries) (child : layer.parent = some parent) :
    parent ∈ config.layers.keys := sound.checks.known _ member _ child

theorem lineage_distinct {name : String} (member : name ∈ config.layers.keys) :
    (config.lineage (config.layers.size + 1) name).Nodup := sound.checks.climbs name member

theorem parent_apart {child parent : String} {layer : Layer}
    (member : (child, layer) ∈ config.layers.entries) (isChild : layer.parent = some parent) :
    child ≠ parent := by
  have distinct := sound.lineage_distinct (Dict.entry_key member)
  have counted : 1 ≤ config.layers.size := List.length_pos_of_mem member
  obtain ⟨more, size⟩ := Nat.exists_eq_add_of_le' counted
  rw [size, lineage_child member isChild, lineage] at distinct
  intro same
  simp [same] at distinct

-- Two layers are enough for the lineage to come as far as the parent of the parent.
theorem grandparent_apart {child parent top : String} {layer above : Layer}
    (member : (child, layer) ∈ config.layers.entries) (isChild : layer.parent = some parent)
    (member' : (parent, above) ∈ config.layers.entries) (isChild' : above.parent = some top) :
    top ≠ child := by
  have distinct := sound.lineage_distinct (Dict.entry_key member)
  have counted : [child, parent].length ≤ config.layers.keys.length := by
    refine (List.subperm_of_subset ?_ ?_).length_le
    · simpa using sound.parent_apart member isChild
    · simp [Dict.entry_key member, Dict.entry_key member']
  obtain ⟨more, size⟩ : ∃ more, config.layers.size = more + 2 :=
    Nat.exists_eq_add_of_le' (by simpa [Dict.keys, Dict.size] using counted)
  rw [size, lineage_child member isChild, lineage_child member' isChild', lineage] at distinct
  intro same
  simp [same] at distinct

end SoundOn
end Config

namespace Keymap

def ofLayout (config : Config) (layout : Layout) : Keymap :=
  ⟨(keysOf config layout).map (setOf .standard config layout), config.findings layout⟩

variable {config : Config} {layout : Layout}

def ofPasses (passes : Pipeline) (config : Config) (layout : Layout) : Keymap :=
  ⟨(keysOf config layout).map (setOf passes config layout), config.findings layout⟩

theorem compileWith_faulty {reason : ConfigError} (passes : Pipeline)
    (faulty : config.check = .error reason) :
    compileWith passes config = .error (.config reason) := by
  rw [compileWith, faulty]
  rfl

theorem compileWith_sound (passes : Pipeline) (sound : config.SoundOn layout) :
    compileWith passes config = .ok (ofPasses passes config layout,
      (ofPasses passes config layout).vars.toFinset.card) := by
  have counted := StateVar.countVars_exact (ofPasses passes config layout).vars
  rw [ofPasses] at counted
  rw [compileWith, sound.check]
  simp only [bind, Except.bind, Except.mapError, counted]
  rfl

theorem compile_sound (sound : config.SoundOn layout) :
    compile config = .ok (ofLayout config layout) := by
  rw [compile, compileWith_sound .standard sound]
  rfl

theorem compile_valid {findings : List Finding} (valid : config.validate = .ok findings) :
    ∃ layout, config.SoundOn layout ∧ compile config = .ok (ofLayout config layout) := by
  obtain ⟨layout, sound⟩ := Config.validate_sound valid
  exact ⟨layout, sound, compile_sound sound⟩

theorem setOf_find (passes : Pipeline) (keys : List Key) (key : Key) :
    (keys.map (setOf passes config layout)).find? (·.key = key) =
      if key ∈ keys then some (setOf passes config layout key) else none := by
  induction keys with
  | nil => rfl
  | cons first rest ih =>
    rw [List.map_cons, List.find?_cons]
    by_cases here : first = key
    · simp [setOf, here]
    · have other : ¬ key = first := fun same => here same.symm
      simpa [setOf, here, other] using ih

theorem rulesFor_ofLayout (key : Key) :
    (ofLayout config layout).rulesFor? key =
      if key ∈ keysOf config layout then some (setOf .standard config layout key) else none :=
  setOf_find .standard (keysOf config layout) key

end Keymap

-- The sound configurations of the cases below.
namespace Small

def nav : Layer :=
  { Layer.triggeredBy ⟨"space"⟩ with bindings := .ofList [(⟨"k"⟩, .plain ⟨"left"⟩)] }

def sub : Layer := { Layer.triggeredBy ⟨"j"⟩ with parent := some "nav", inherit := true }

def config : Config :=
  { layout := ["a s | j k"]
    homeRow := .ofList [(⟨"a"⟩, .control), (⟨"s"⟩, .shift), (⟨"j"⟩, .alt)]
    layers := .ofList [("nav", nav), ("sub", sub)]
    timing := .standard }

def layout : Layout :=
  ⟨[⟨[⟨"a"⟩, ⟨"s"⟩], [⟨"j"⟩, ⟨"k"⟩]⟩], by decide, by decide⟩

def keymap : Keymap := .ofLayout config layout

theorem config_valid :
    config.validate = .ok [.triggerIsHomeRow "sub" ⟨"j"⟩, .thresholdsDiffer 150 120] := by decide

theorem config_sound : config.SoundOn layout := ⟨rfl, by decide, by decide⟩

theorem config_compiled : Keymap.compile config = .ok keymap := Keymap.compile_sound config_sound

end Small

-- Three layers, each the parent of the next. The innermost waits for its parent.
namespace Nested

def nav : Layer :=
  { Layer.triggeredBy ⟨"space"⟩ with bindings := .ofList [(⟨"k"⟩, .plain ⟨"down"⟩)] }

def select : Layer :=
  { Layer.triggeredBy ⟨"tab"⟩ with
    parent := some "nav"
    bindings := .ofList [(⟨"j"⟩, .plain ⟨"left"⟩), (⟨"k"⟩, .plain ⟨"up"⟩)] }

def words : Layer :=
  { Layer.triggeredBy ⟨"escape"⟩ with
    parent := some "select"
    handoff := false
    bindings := .ofList [(⟨"k"⟩, .plain ⟨"right"⟩)] }

def config : Config :=
  { layout := ["a s | j k"]
    homeRow := .empty
    layers := .ofList [("nav", nav), ("select", select), ("words", words)]
    timing := .standard }

def layout : Layout := Small.layout

def keymap : Keymap := .ofLayout config layout

theorem config_valid : config.validate = .ok [.thresholdsDiffer 150 120] := by decide

theorem config_sound : config.SoundOn layout := ⟨rfl, by decide, by decide⟩

theorem config_compiled : Keymap.compile config = .ok keymap := Keymap.compile_sound config_sound

end Nested
end TapHold
