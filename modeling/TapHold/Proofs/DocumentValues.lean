import TapHold.Proofs.BindingText
import TapHold.Proofs.DocumentReading
import TapHold.Proofs.FirstFault

namespace TapHold

namespace ModifierSet

-- There is something in the text, but nothing that could be a modifier.
def JointsAlone (list : String) : Prop :=
  Text.Only isJoint list.toList ∧ ¬ Text.Only Text.isBlank list.toList

section
variable {list : String} {set : ModifierSet}

theorem ofList_none {modifiers : List Modifier} :
    ofList modifiers = empty ↔ modifiers = [] := by
  constructor
  · intro none
    have members := ofList_firstSeen modifiers
    rw [none] at members
    cases modifiers with
    | nil => rfl
    | cons m rest =>
      rw [List.eraseDups_cons] at members
      cases members
  · rintro rfl
    rfl

theorem parse_blank_iff : parse list = .error .empty ↔ Text.Only Text.isBlank list.toList := by
  rw [← Text.trim_nil]
  refine ⟨fun refused => ?_, parse_blank⟩
  by_contra filled
  by_cases worded : ∀ run : List Modifier, ¬ Text.Padded (run.map Modifier.symbol) list.toList
  · rw [parse_words filled worded, bind_pure_error, listed_refused] at refused
    obtain ⟨word, _, same⟩ := refused
    cases same
  · obtain ⟨run, padded⟩ := not_forall_not.1 worded
    have present : run ≠ [] := by
      rintro rfl
      exact filled (run_trim padded)
    cases (parse_run padded present).symm.trans refused

theorem parse_none (read : parse list = .ok set) : set = empty ↔ JointsAlone list := by
  obtain ⟨modifiers, lists, filled, rfl⟩ := parse_ok.1 read
  rw [ofList_none, lists.none_iff]
  exact Text.wordsAt_nil.trans (iff_self_and.2 fun _ => mt Text.trim_nil.2 filled)

theorem parse_joints : parse list = .ok empty ↔ JointsAlone list := by
  refine ⟨fun read => (parse_none read).1 rfl, fun ⟨joints, unblank⟩ => ?_⟩
  exact parse_ok.2 ⟨[], .words .nil (.bare _ joints), mt Text.trim_nil.1 unblank, rfl⟩

end
end ModifierSet

namespace Binding

theorem ofPair_ok {key list : String} {stroke : Stroke} : ofPair key list = .ok stroke ↔
    Key.parse key = .ok stroke.key ∧ ModifierSet.parse list = .ok stroke.modifiers := by
  simp only [ofPair, readKey, bind_ok, mapError_ok, pure_ok]
  constructor
  · rintro ⟨read, named, set, listed, rfl⟩
    exact ⟨named, listed⟩
  · rintro ⟨named, listed⟩
    exact ⟨_, named, _, listed, rfl⟩

end Binding

-- Of the texts without a word, blank ones are refused for want of a modifier. All others are read
-- as no modifiers, alone or beside a key.
theorem joints_read_as_none (list : String) :
    (ModifierSet.parse list = .error .empty ↔ Text.Only Text.isBlank list.toList) ∧
      (ModifierSet.parse list = .ok .empty ↔ ModifierSet.JointsAlone list) ∧
      (∀ key stroke, Binding.ofPair key list = .ok stroke →
        (stroke.modifiers = .empty ↔ ModifierSet.JointsAlone list)) ∧
      ∀ key stroke, Document.readStroke (.items [key, list]) = .ok stroke →
        (stroke.modifiers = .empty ↔ ModifierSet.JointsAlone list) := by
  have pair (key : String) (stroke : Stroke) (read : Binding.ofPair key list = .ok stroke) :
      stroke.modifiers = .empty ↔ ModifierSet.JointsAlone list :=
    ModifierSet.parse_none (Binding.ofPair_ok.1 read).2
  exact ⟨ModifierSet.parse_blank_iff, ModifierSet.parse_joints, pair, pair⟩

theorem plus_joins_nothing :
    ModifierSet.parse "+" = .ok .empty ∧
      Document.readStroke (.items ["left", "+"]) = .ok (.plain ⟨"left"⟩) ∧
      Document.readStroke (.items ["left", "+ cmd"]) = .ok ⟨⟨"left"⟩, .single .command⟩ ∧
      ¬ ModifierSet.JointsAlone "+ cmd" := by
  obtain ⟨_, none, _, alone⟩ := joints_read_as_none "+"
  obtain ⟨_, _, _, joined⟩ := joints_read_as_none "+ cmd"
  have left : Document.readStroke (.items ["left", "+"]) = .ok (.plain ⟨"left"⟩) := by rfl
  have command : Document.readStroke (.items ["left", "+ cmd"]) =
      .ok ⟨⟨"left"⟩, .single .command⟩ := by rfl
  refine ⟨none.2 ((alone _ _ left).1 rfl), left, command, fun plain => ?_⟩
  cases (joined _ _ command).2 plain

namespace Plus

def text : String :=
  "layout = [\"a s | j k\"]\n\n[layers.nav]\ntrigger = \"space\"\n\n" ++
  "[layers.nav.bindings]\nk = [\"left\", \"+\"]\n"

def config : Config :=
  { Config.ofRows ["a s | j k"] with
    layers := .ofList [("nav", (Layer.triggeredBy ⟨"space"⟩).bind ⟨"k"⟩ (.plain ⟨"left"⟩))] }

theorem list_without_modifier :
    ∃ set nav stroke, ModifierSet.parse "+" = .ok set ∧ set.members = [] ∧
      Binding.ofPair "left" "+" = .ok stroke ∧ stroke.modifiers.members = [] ∧
      Config.parse text = .ok config ∧ config.layers.get? "nav" = some nav ∧
      nav.bindings.get? ⟨"k"⟩ = some stroke :=
  ⟨_, _, _, by rfl, rfl, by rfl, rfl, by decide +kernel, by rfl, by rfl⟩

end Plus

theorem Key.faults_nil {key : Key} : key.faults = [] ↔ key.Spelled :=
  key.faults_report.nil_iff.trans Key.requirements_met

def ConfigError.aboutKey : ConfigError → Bool
  | invalidKey _ | paddedKey _ => true
  | _ => false

theorem ConfigError.not_aboutKey {error : ConfigError} {p : Prop}
    (other : error.aboutKey = false) (about : error.aboutKey = true) : p :=
  absurd about (Bool.eq_false_iff.1 other)

def Config.keys (config : Config) : List Key :=
  config.homeRow.keys ++ config.layers.values.flatMap Layer.keys

theorem Config.key_requirements_met {config : Config}
    (spelled : ∀ layer ∈ config.layers.values, ∀ key ∈ layer.keys, key.Spelled) :
    ∀ one ∈ config.requirements, one.error.aboutKey = true → one.met := by
  have layers : ∀ entry ∈ config.layers.entries,
      ∀ one ∈ config.layerRequirements entry.1 entry.2, one.error.aboutKey = true → one.met := by
    intro entry inside
    have own := spelled entry.2 (List.mem_map_of_mem inside)
    simp only [layerRequirements, List.forall_mem_append, List.forall_mem_cons,
      List.forall_mem_flatMap, List.forall_mem_map]
    refine ⟨⟨ConfigError.not_aboutKey rfl, fun key among one asked _ => ?_⟩,
      fun _ _ => ConfigError.not_aboutKey rfl⟩
    exact Key.requirements_met.2 (own key among) one asked
  have triggers (earlier rest : List (String × Layer)) :
      ∀ one ∈ triggerRequirements earlier rest, one.error.aboutKey = true → one.met := by
    induction rest generalizing earlier with
    | nil => exact List.forall_mem_nil _
    | cons entry rest ih =>
      refine List.forall_mem_append.2 ⟨List.forall_mem_map.2 fun _ _ => ?_, ih _⟩
      exact ConfigError.not_aboutKey rfl
  unfold requirements
  refine List.forall_mem_append.2
    ⟨List.forall_mem_map.2 fun _ _ => ConfigError.not_aboutKey rfl, ?_⟩
  cases Layout.parse config.layout with
  | error reason => exact List.forall_mem_singleton.2 (ConfigError.not_aboutKey rfl)
  | ok layout =>
    simp only [List.forall_mem_append, homeRowRequirements, List.forall_mem_cons,
      List.forall_mem_map, List.forall_mem_flatMap, cycleRequirements]
    refine ⟨⟨⟨⟨?_, fun key _ => ?_⟩, layers⟩, fun name _ => ?_⟩, triggers [] _⟩
    all_goals exact ConfigError.not_aboutKey rfl

namespace Document

theorem readStroke_spelled {draft : BindingDraft} {stroke : Stroke}
    (read : readStroke draft = .ok stroke) : stroke.key.Spelled := by
  cases draft with
  | single text => exact (Binding.parse_ok.1 read).spelled
  | items texts =>
    rcases texts with _ | ⟨text, _ | ⟨list, _ | ⟨further, rest⟩⟩⟩
    · cases read
    · exact (Binding.parse_ok.1 read).spelled
    · exact (Key.parse_ok.1 (Binding.ofPair_ok.1 read).1).1
    · cases read

theorem layer_spelled {entry : String × LayerDraft} {read : String × Layer}
    (reads : LayerReads entry read) : ∀ key ∈ read.2.keys, key.Spelled := by
  obtain ⟨trigger, bindings, spelled, bound, rfl⟩ := reads
  have each : ∀ binding ∈ bindings, binding.1.Spelled ∧ binding.2.key.Spelled :=
    forall_right bound fun _ _ reads =>
      ⟨(Key.parse_ok.1 reads.1).1, readStroke_spelled reads.2⟩
  rw [buildLayer_exact]
  refine List.forall_mem_cons.2 ⟨(Key.parse_ok.1 spelled).1, ?_⟩
  rw [List.forall_mem_flatMap]
  intro binding member
  obtain ⟨source, sent⟩ := each binding (Dict.ofList_entry member)
  exact List.forall_mem_cons.2 ⟨source, List.forall_mem_singleton.2 sent⟩

-- Two texts may be read as one key, and then the later one takes the place of the earlier. What is
-- left was read all the same.
theorem built_spelled {document : Document} {config : Config}
    (built : document.toConfig = .ok config) : ∀ key ∈ config.keys, key.Spelled := by
  obtain ⟨homeRow, layers, keyed, layered, rfl⟩ := (document.toConfig_builds config).1 built
  rw [build_exact]
  refine List.forall_mem_append.2 ⟨List.forall_mem_map.2 fun entry member => ?_, ?_⟩
  · have each : ∀ read ∈ homeRow, read.1.Spelled :=
      forall_right keyed fun _ _ reads => (Key.parse_ok.1 reads.1).1
    exact each entry (Dict.ofList_entry member)
  · rw [List.forall_mem_flatMap]
    refine List.forall_mem_map.2 fun entry member => ?_
    have each : ∀ read ∈ layers, ∀ key ∈ read.2.keys, key.Spelled :=
      forall_right layered fun _ _ reads => layer_spelled reads
    exact each entry (Dict.ofList_entry member)

theorem built_validated {document : Document} {config : Config} {error : ConfigError}
    (built : document.toConfig = .ok config) (refused : config.validate = .error error) :
    error.aboutKey = false := by
  have spelled : ∀ layer ∈ config.layers.values, ∀ key ∈ layer.keys, key.Spelled := by
    intro layer among key inside
    exact built_spelled built key
      (List.mem_append_right _ (List.mem_flatMap.2 ⟨layer, among, inside⟩))
  have first := (config.faults_report error).1 (Config.validate_error.1 refused)
  obtain ⟨one, asked, unmet, rfl⟩ := first.member
  rw [Bool.eq_false_iff]
  exact fun about => unmet (Config.key_requirements_met spelled one asked about)

theorem Item.error_aboutKey {item : Item} {error : ConfigError} (refused : item.error? = some error)
    (about : error.aboutKey = true) : ∃ reason, error = .invalidKey reason := by
  have wrapped {ε α : Type} {wrap : ε → ConfigError} {result : Except ε α}
      (refused : refusal wrap result = some error) : ∃ reason, wrap reason = error := by
    cases result with
    | error reason => exact ⟨reason, Option.some.inj refused⟩
    | ok value => cases refused
  cases item with
  | key text =>
    obtain ⟨reason, same⟩ := wrapped refused
    exact ⟨reason, same.symm⟩
  | modifier owner spelling =>
    obtain ⟨reason, rfl⟩ := wrapped refused
    cases about
  | output layer bound draft =>
    obtain ⟨reason, rfl⟩ := wrapped refused
    cases about

theorem refused_key {document : Document} {error : ConfigError}
    (refused : document.toConfig = .error error) (about : error.aboutKey = true) :
    ∃ reason, error = .invalidKey reason := by
  obtain ⟨item, _, failed⟩ :=
    List.exists_of_findSome?_eq_some ((document.toConfig_fails error).1 refused)
  exact item.error_aboutKey failed about

theorem ofDocument_aboutKey {document : Document} {error : ConfigError}
    (about : error.aboutKey = true) :
    Config.ofDocument document = .error error ↔ document.toConfig = .error error := by
  rw [ofDocument_error, ← toConfig_fails, or_iff_left_iff_imp]
  rintro ⟨config, builds, refused⟩
  have sound := built_validated ((document.toConfig_builds config).2 builds) refused
  rw [about] at sound
  cases sound

theorem parse_aboutKey {text : String} {error : ConfigError} (about : error.aboutKey = true) :
    Config.parse text = .error error ↔
      ∃ document, parse? text = some document ∧ document.toConfig = .error error := by
  unfold Config.parse
  cases read : parse? text with
  | none =>
    refine iff_of_false (fun refused => ?_) (by simp)
    cases refused
    cases about
  | some document => simp [ofDocument_aboutKey about]

end Document

theorem document_keys_sound :
    (∀ (document : Document) (config : Config), document.toConfig = .ok config →
        (∀ key ∈ config.keys,
          key.Spelled ∧ Key.parse key.name = .ok key ∧ key.faults = []) ∧
        ∀ error, config.validate = .error error → error.aboutKey = false) ∧
      (∀ (document : Document) (error : ConfigError), error.aboutKey = true →
        document.toConfig = .error error →
          (∃ reason, error = .invalidKey reason) ∧
          ∀ rows timing, Config.ofDocument { document with layout := rows, timing := timing } =
            .error error) ∧
      ∀ (text : String) (error : ConfigError), error.aboutKey = true →
        (Config.parse text = .error error ↔
          ∃ document, Document.parse? text = some document ∧
            document.toConfig = .error error) := by
  refine ⟨fun document config built => ⟨fun key member => ?_, fun error refused => ?_⟩, ?_, ?_⟩
  · have spelled := Document.built_spelled built key member
    exact ⟨spelled, (Key.parse_name spelled).2 rfl, Key.faults_nil.2 spelled⟩
  · exact Document.built_validated built refused
  · intro document error about refused
    refine ⟨Document.refused_key refused about, fun rows timing => ?_⟩
    rw [Document.ofDocument_aboutKey about, Document.toConfig_fails]
    exact (document.toConfig_fails error).1 refused
  · exact fun text error about => Document.parse_aboutKey about

theorem padded_keys_sound :
    Padded.document.toConfig = .ok Padded.config ∧
      Padded.config.keys = [⟨"a"⟩, ⟨"j"⟩, ⟨"space"⟩, ⟨"k"⟩, ⟨"-"⟩, ⟨"s"⟩, ⟨"right"⟩] ∧
      (∀ key ∈ Padded.config.keys, key.Spelled) ∧
      ∀ rows, Config.ofDocument
        { Padded.document with layout := rows, homeRow := [("a b", "ctrl")] } =
          .error (.invalidKey (.blankInside "a b")) := by
  obtain ⟨sound, refused, _⟩ := document_keys_sound
  have built : Padded.document.toConfig = .ok Padded.config := by decide +kernel
  refine ⟨built, by decide, fun key member => ((sound _ _ built).1 key member).1, fun rows => ?_⟩
  exact (refused { Padded.document with homeRow := [("a b", "ctrl")] } _ rfl (by rfl)).2 rows _

end TapHold
