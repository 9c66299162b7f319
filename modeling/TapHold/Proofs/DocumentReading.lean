import TapHold.Proofs.Acceptance

namespace TapHold

namespace Document

-- The texts of a document that have to be read. A modifier comes with the text of its key, the
-- output of a binding with its layer and the text of the bound key.
inductive Item where
  | key (text : String)
  | modifier (owner spelling : String)
  | output (layer bound : String) (draft : BindingDraft)
  deriving DecidableEq

def refusal (wrap : ε → ConfigError) : Except ε α → Option ConfigError
  | .error reason => some (wrap reason)
  | .ok _ => none

def Item.error? : Item → Option ConfigError
  | key text => refusal .invalidKey (Key.parse text)
  | modifier owner spelling => refusal (.invalidModifier owner) (Modifier.parse spelling)
  | output layer bound draft => refusal (.invalidBinding layer bound) (readStroke draft)

def homeRowItems (entry : String × String) : List Item :=
  [.key entry.1, .modifier entry.1 entry.2]

def bindingItems (layer : String) (entry : String × BindingDraft) : List Item :=
  [.key entry.1, .output layer entry.1 entry.2]

def layerItems (entry : String × LayerDraft) : List Item :=
  [.key entry.2.trigger] ++ entry.2.bindings.flatMap (bindingItems entry.1)

def items (document : Document) : List Item :=
  document.homeRow.flatMap homeRowItems ++ document.layers.flatMap layerItems

def firstError (items : List Item) : Option ConfigError := items.findSome? Item.error?

def HomeRowReads (entry : String × String) (read : Key × Modifier) : Prop :=
  Key.parse entry.1 = .ok read.1 ∧ Modifier.parse entry.2 = .ok read.2

def BindingReads (entry : String × BindingDraft) (read : Key × Stroke) : Prop :=
  Key.parse entry.1 = .ok read.1 ∧ readStroke entry.2 = .ok read.2

def buildLayer (draft : LayerDraft) (trigger : Key) (bindings : List (Key × Stroke)) : Layer :=
  let child := draft.parent.elim (Layer.triggeredBy trigger) (Layer.triggeredBy trigger).setParent
  bindings.foldl (fun layer read => layer.bind read.1 read.2)
    ((child.setHandoff (draft.handoff.getD true)).setInherit (draft.inherit.getD false))

def LayerReads (entry : String × LayerDraft) (read : String × Layer) : Prop :=
  ∃ trigger bindings, Key.parse entry.2.trigger = .ok trigger ∧
    List.Forall₂ BindingReads entry.2.bindings bindings ∧
    read = (entry.1, buildLayer entry.2 trigger bindings)

def filledTiming (draft : Option TimingDraft) : Timing :=
  { streakWindow := (draft.bind (·.streakWindow)).getD 150
    homeRowHold := (draft.bind (·.homeRowHold)).getD 150
    layerHold := (draft.bind (·.layerHold)).getD 120 }

def build (document : Document) (homeRow : List (Key × Modifier))
    (layers : List (String × Layer)) : Config :=
  let keyed := homeRow.foldl (fun config read => config.setHomeRow read.1 read.2)
    (Config.ofRows document.layout)
  let layered := layers.foldl (fun config read => config.setLayer read.1 read.2) keyed
  layered.setTiming (filledTiming document.timing)

def Builds (document : Document) (config : Config) : Prop :=
  ∃ homeRow layers, List.Forall₂ HomeRowReads document.homeRow homeRow ∧
    List.Forall₂ LayerReads document.layers layers ∧ config = document.build homeRow layers

-- A reading fails exactly with the first error among its items.
def Fails (result : Except ConfigError α) (items : List Item) : Prop :=
  ∀ error, result = .error error ↔ firstError items = some error

section
variable {document : Document} {items further : List Item}

theorem firstError_append (error : ConfigError) : firstError (items ++ further) = some error ↔
    firstError items = some error ∨ firstError items = none ∧ firstError further = some error := by
  unfold firstError
  rw [List.findSome?_append]
  cases items.findSome? Item.error? <;> simp

theorem Fails.pure (value : α) : Fails (.ok value) [] := fun _ => iff_of_false nofun nofun

theorem Fails.none_iff {result : Except ConfigError α} (fails : Fails result items) :
    firstError items = none ↔ ∃ value, result = .ok value := by
  cases result with
  | ok value =>
    refine iff_of_true ?_ ⟨value, rfl⟩
    rw [Option.eq_none_iff_forall_ne_some]
    exact fun error found => nomatch (fails error).2 found
  | error error => simp [(fails error).1 rfl]

theorem Fails.bind {result : Except ConfigError α} {next : α → Except ConfigError β}
    (fails : Fails result items) (later : ∀ value, Fails (next value) further) :
    Fails (result >>= next) (items ++ further) := by
  intro error
  rw [firstError_append, fails.none_iff, ← fails]
  cases result with
  | error reason => simp [Bind.bind, Except.bind]
  | ok value => simpa [Bind.bind, Except.bind] using later value error

-- What is made of the value cannot fail any more.
theorem Fails.finish {result : Except ConfigError α} (fails : Fails result items) (next : α → β) :
    Fails (result >>= fun value => .ok (next value)) items := by
  have finished := fails.bind fun value => .pure (next value)
  rwa [List.append_nil] at finished

theorem Fails.mapM {read : α → Except ConfigError β} {itemsOf : α → List Item}
    (each : ∀ entry, Fails (read entry) (itemsOf entry)) (entries : List α) :
    Fails (entries.mapM read) (entries.flatMap itemsOf) := by
  induction entries with
  | nil => exact .pure []
  | cons entry rest ih =>
    rw [List.mapM_cons, List.flatMap_cons]
    exact (each entry).bind fun value => ih.finish fun values => value :: values

theorem Fails.one {result : Except ε α} {wrap : ε → ConfigError} {item : Item}
    (same : item.error? = refusal wrap result) : Fails (result.mapError wrap) [item] := by
  intro error
  unfold firstError
  cases result <;> simp [same, refusal, Except.mapError]

theorem readKey_fails (text : String) : Fails (readKey text) [.key text] := .one rfl

theorem readHomeRow_fails (entry : String × String) :
    Fails (readHomeRow entry) (homeRowItems entry) := by
  have read : Fails ((Modifier.parse entry.2).mapError (.invalidModifier entry.1))
      [.modifier entry.1 entry.2] := .one rfl
  exact (readKey_fails entry.1).bind fun key => read.finish fun m => (key, m)

theorem readBinding_fails (layer : String) (entry : String × BindingDraft) :
    Fails (readBinding layer entry) (bindingItems layer entry) := by
  have read : Fails ((readStroke entry.2).mapError (.invalidBinding layer entry.1))
      [.output layer entry.1 entry.2] := .one rfl
  exact (readKey_fails entry.1).bind fun key => read.finish fun stroke => (key, stroke)

theorem readLayer_fails (entry : String × LayerDraft) :
    Fails (readLayer entry) (layerItems entry) := by
  have bindings := Fails.mapM (readBinding_fails entry.1) entry.2.bindings
  exact (readKey_fails entry.2.trigger).bind fun trigger => bindings.finish _

theorem toConfig_fails (document : Document) : Fails document.toConfig document.items := by
  have homeRow := Fails.mapM readHomeRow_fails document.homeRow
  have layers := Fails.mapM readLayer_fails document.layers
  exact homeRow.bind fun read => layers.finish _

end

theorem readHomeRow_reads (entry : String × String) (read : Key × Modifier) :
    readHomeRow entry = .ok read ↔ HomeRowReads entry read := by
  unfold readHomeRow readKey HomeRowReads
  simp only [bind_ok, mapError_ok, pure_ok]
  constructor
  · rintro ⟨key, spelled, m, named, rfl⟩
    exact ⟨spelled, named⟩
  · rintro ⟨spelled, named⟩
    exact ⟨_, spelled, _, named, rfl⟩

theorem readBinding_reads (layer : String) (entry : String × BindingDraft) (read : Key × Stroke) :
    readBinding layer entry = .ok read ↔ BindingReads entry read := by
  unfold readBinding readKey BindingReads
  simp only [bind_ok, mapError_ok, pure_ok]
  constructor
  · rintro ⟨key, spelled, stroke, written, rfl⟩
    exact ⟨spelled, written⟩
  · rintro ⟨spelled, written⟩
    exact ⟨_, spelled, _, written, rfl⟩

theorem foldl_bind (bindings : List (Key × Stroke)) (layer : Layer) :
    bindings.foldl (fun layer read => layer.bind read.1 read.2) layer =
      { layer with bindings :=
          bindings.foldl (fun d entry => d.insert entry.1 entry.2) layer.bindings } := by
  induction bindings generalizing layer with
  | nil => rfl
  | cons read rest ih => exact ih _

theorem buildLayer_exact (draft : LayerDraft) (trigger : Key) (bindings : List (Key × Stroke)) :
    buildLayer draft trigger bindings =
      ⟨trigger, draft.parent, draft.handoff.getD true, draft.inherit.getD false,
        .ofList bindings⟩ := by
  unfold buildLayer
  rw [foldl_bind]
  cases draft.parent <;> rfl

theorem readLayer_reads (entry : String × LayerDraft) (read : String × Layer) :
    readLayer entry = .ok read ↔ LayerReads entry read := by
  unfold readLayer readKey LayerReads
  simp only [bind_ok, mapError_ok, pure_ok, mapM_reads (readBinding_reads entry.1),
    buildLayer_exact]
  constructor
  · rintro ⟨trigger, spelled, bindings, reads, rfl⟩
    exact ⟨trigger, bindings, spelled, reads, rfl⟩
  · rintro ⟨trigger, bindings, spelled, reads, rfl⟩
    exact ⟨trigger, spelled, bindings, reads, rfl⟩

theorem foldl_setHomeRow (homeRow : List (Key × Modifier)) (config : Config) :
    homeRow.foldl (fun config read => config.setHomeRow read.1 read.2) config =
      { config with homeRow :=
          homeRow.foldl (fun d entry => d.insert entry.1 entry.2) config.homeRow } := by
  induction homeRow generalizing config with
  | nil => rfl
  | cons read rest ih => exact ih _

theorem foldl_setLayer (layers : List (String × Layer)) (config : Config) :
    layers.foldl (fun config read => config.setLayer read.1 read.2) config =
      { config with layers :=
          layers.foldl (fun d entry => d.insert entry.1 entry.2) config.layers } := by
  induction layers generalizing config with
  | nil => rfl
  | cons read rest ih => exact ih _

theorem filledTiming_exact (draft : Option TimingDraft) :
    filledTiming draft = readTiming draft := by
  cases draft <;> rfl

theorem build_exact (document : Document) (homeRow : List (Key × Modifier))
    (layers : List (String × Layer)) : document.build homeRow layers =
      ⟨document.layout, .ofList homeRow, .ofList layers, readTiming document.timing⟩ := by
  simp only [build, foldl_setHomeRow, foldl_setLayer, filledTiming_exact]
  rfl

theorem toConfig_builds (document : Document) (config : Config) :
    document.toConfig = .ok config ↔ document.Builds config := by
  unfold toConfig Builds
  simp only [bind_ok, pure_ok, mapM_reads readHomeRow_reads, mapM_reads readLayer_reads,
    build_exact]
  constructor
  · rintro ⟨homeRow, reads, layers, reads', rfl⟩
    exact ⟨homeRow, layers, reads, reads', rfl⟩
  · rintro ⟨homeRow, layers, reads, reads', rfl⟩
    exact ⟨homeRow, reads, layers, reads', rfl⟩

theorem ofDocument_ok (document : Document) (config : Config) :
    Config.ofDocument document = .ok config ↔
      document.Builds config ∧ ∃ findings, config.validate = .ok findings := by
  unfold Config.ofDocument
  simp only [bind_ok, pure_ok, toConfig_builds]
  constructor
  · rintro ⟨built, builds, findings, valid, rfl⟩
    exact ⟨builds, findings, valid⟩
  · rintro ⟨builds, findings, valid⟩
    exact ⟨config, builds, findings, valid, rfl⟩

theorem ofDocument_error (document : Document) (error : ConfigError) :
    Config.ofDocument document = .error error ↔ firstError document.items = some error ∨
      ∃ config, document.Builds config ∧ config.validate = .error error := by
  unfold Config.ofDocument
  rw [← toConfig_fails]
  simp only [← toConfig_builds]
  cases document.toConfig with
  | error reason => simp [bind, Except.bind]
  | ok config =>
    cases valid : config.validate <;> simp [bind, Except.bind, valid, pure, Except.pure]

theorem parse_document {text : String} {document : Document} (read : parse? text = some document) :
    Config.parse text = Config.ofDocument document := by
  rw [Config.parse, read]

end Document

theorem document_builds_config (document : Document) :
    (∀ error, document.toConfig = .error error ↔
        Document.firstError document.items = some error) ∧
      (∀ config, document.toConfig = .ok config ↔ document.Builds config) ∧
      ∀ text, Document.parse? text = some document →
        (∀ error, Config.parse text = .error error ↔
          Document.firstError document.items = some error ∨
            ∃ built, document.Builds built ∧ built.validate = .error error) ∧
        (∀ config, Config.parse text = .ok config ↔
          document.Builds config ∧ ∃ findings, config.validate = .ok findings) ∧
        ∀ config built, Config.parse text = .ok config → document.Builds built →
          config = built ∧
            ∃ keymap, Keymap.compile config = .ok keymap ∧ Keymap.compile built = .ok keymap := by
  refine ⟨document.toConfig_fails, document.toConfig_builds, ?_⟩
  intro text read
  rw [Document.parse_document read]
  refine ⟨document.ofDocument_error, document.ofDocument_ok, ?_⟩
  intro config built accepted builds
  obtain ⟨builds', findings, valid⟩ := (document.ofDocument_ok config).1 accepted
  have same := (document.toConfig_builds built).2 builds
  rw [(document.toConfig_builds config).2 builds'] at same
  cases same
  obtain ⟨layout, _, compiled⟩ := Keymap.compile_valid valid
  exact ⟨rfl, _, compiled, compiled⟩

namespace Padded

def text : String :=
  "layout = [\"a s | j k\"]\n\n[hrm]\na = \"ctrl\"\nj = \"⌥\"\n\" a \" = \"Shift\"\n\n" ++
  "[layers.nav]\ntrigger = \" space\"\n\n[layers.nav.bindings]\nk = \"Cmd-left\"\n" ++
  "s = [\"right\", \"cmd shift\"]\n\"k \" = [\"-\"]\n\n[timing]\nhrm_hold_threshold_ms = 120\n"

def document : Document :=
  { layout := ["a s | j k"]
    homeRow := [("a", "ctrl"), ("j", "⌥"), (" a ", "Shift")]
    layers := [("nav", ⟨" space", none, none, none,
      [("k", .single "Cmd-left"), ("s", .items ["right", "cmd shift"]), ("k ", .items ["-"])]⟩)]
    timing := some ⟨none, some 120, none⟩ }

def nav : Layer :=
  { Layer.triggeredBy ⟨"space"⟩ with
    bindings := .ofList [(⟨"k"⟩, .plain ⟨"-"⟩), (⟨"s"⟩, ⟨⟨"right"⟩, .ofList [.command, .shift]⟩)] }

def config : Config :=
  { layout := ["a s | j k"]
    homeRow := .ofList [(⟨"a"⟩, .shift), (⟨"j"⟩, .alt)]
    layers := .ofList [("nav", nav)]
    timing := ⟨150, 120, 120⟩ }

end Padded

theorem padded_keys_built :
    Document.parse? Padded.text = some Padded.document ∧ Padded.document.Builds Padded.config ∧
      Config.parse Padded.text = .ok Padded.config := by
  obtain ⟨_, builds, accepted⟩ := document_builds_config Padded.document
  have read : Document.parse? Padded.text = some Padded.document := by decide +kernel
  have built : Padded.document.Builds Padded.config := (builds _).1 (by decide +kernel)
  have valid : Padded.config.validate = .ok [] := by decide
  exact ⟨read, built, ((accepted _ read).2.1 _).2 ⟨built, _, valid⟩⟩

end TapHold
