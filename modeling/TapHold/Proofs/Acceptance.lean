import TapHold.Command
import TapHold.Proofs.SoundConfig

namespace TapHold

namespace Keymap

theorem compileWith_cases (passes : Pipeline) (config : Config) :
    (∃ reason, config.validate = .error reason ∧
        compileWith passes config = .error (.config reason)) ∨
      ∃ keymap count, config.validate = .ok keymap.findings ∧
        compileWith passes config = .ok (keymap, count) := by
  cases checked : config.check with
  | error reason =>
    exact .inl ⟨reason, Config.validate_faulty checked, compileWith_faulty passes checked⟩
  | ok result =>
    have sound := (Config.check_sound checked).1
    exact .inr ⟨_, _, sound.validate, compileWith_sound passes sound⟩

variable (passes : Pipeline) (config : Config)

theorem compiled_iff_valid (findings : List Finding) : config.validate = .ok findings ↔
    ∃ keymap count, compileWith passes config = .ok (keymap, count) ∧
      keymap.findings = findings := by
  rcases compileWith_cases passes config with ⟨_, refused, failed⟩ | ⟨_, _, valid, compiled⟩
  · simp [refused, failed]
  · simp [valid, compiled]

theorem refused_iff_invalid (reason : ConfigError) : config.validate = .error reason ↔
    compileWith passes config = .error (.config reason) := by
  rcases compileWith_cases passes config with ⟨_, refused, failed⟩ | ⟨_, _, valid, compiled⟩
  · simp [refused, failed]
  · simp [valid, compiled]

theorem names_never_collide (collision : StateVar.NameCollision) :
    compileWith passes config ≠ .error (.names collision) := by
  rcases compileWith_cases passes config with ⟨_, _, failed⟩ | ⟨_, _, _, compiled⟩
  · simp [failed]
  · simp [compiled]

end Keymap

theorem Config.parse_valid {text : String} {config : Config} (parsed : parse text = .ok config) :
    ∃ findings, config.validate = .ok findings := by
  unfold parse at parsed
  split at parsed
  · cases parsed
  · obtain ⟨draft, _, checked⟩ := bind_ok.1 parsed
    obtain ⟨findings, valid, same⟩ := bind_ok.1 checked
    cases same
    exact ⟨findings, valid⟩

namespace Command

theorem answerTo_parsed (options : Options) (place : String) {text : String} {config : Config}
    {keymap : Keymap} (parsed : Config.parse text = .ok config)
    (compiled : Keymap.compile config = .ok keymap) :
    answerTo options place text = view options keymap := by
  rw [answerTo, parsed]
  simp only [bind, Except.bind, Except.mapError, compiled]

theorem answerTo_cases (options : Options) (place text : String) :
    (∃ reason, answerTo options place text =
        .error (ofConfigError s!"failed to load config {place}" reason)) ∨
      ∃ keymap, answerTo options place text = view options keymap := by
  cases parsed : Config.parse text with
  | error reason =>
    refine .inl ⟨reason, ?_⟩
    rw [answerTo, parsed]
    rfl
  | ok config =>
    obtain ⟨findings, valid⟩ := Config.parse_valid parsed
    obtain ⟨layout, _, compiled⟩ := Keymap.compile_valid valid
    exact .inr ⟨_, answerTo_parsed options place parsed compiled⟩

theorem view_failed {options : Options} {keymap : Keymap} {failure : Failure}
    (failed : view options keymap = .error failure) :
    ∃ key : String, failure.message = s!"key '{key}' is not in the layout or a layer trigger" := by
  unfold view at failed
  split at failed
  · cases failed
  · split at failed
    · cases failed
    · split at failed
      · cases failed
      · split at failed
        · cases failed
        · cases failed
          exact ⟨_, rfl⟩

theorem answerTo_never_compiling {options : Options} {place text : String} {failure : Failure}
    (failed : answerTo options place text = .error failure) :
    failure.message ≠ s!"failed to compile config {place}" := by
  intro message
  rcases answerTo_cases options place text with ⟨reason, refused⟩ | ⟨keymap, viewed⟩
  · cases refused.symm.trans failed
    have letters := congrArg String.toList message
    simp [ofConfigError, toString] at letters
  · obtain ⟨key, missing⟩ := view_failed (viewed.symm.trans failed)
    have letters := congrArg String.toList (missing.symm.trans message)
    simp [toString] at letters

end Command

-- The names that are checked at the end of a compilation may come from keys and layers of any
-- spelling. The check still has nothing to find, so that an accepted text always has a keymap.
theorem validation_only_gate :
    Function.Injective StateVar.name ∧
      (∀ vars, StateVar.countVars vars = .ok vars.toFinset.card) ∧
      (∀ (passes : Pipeline) (config : Config),
        (∀ findings, config.validate = .ok findings ↔
          ∃ keymap count, Keymap.compileWith passes config = .ok (keymap, count) ∧
            keymap.findings = findings) ∧
        (∀ reason, config.validate = .error reason ↔
          Keymap.compileWith passes config = .error (.config reason)) ∧
        ∀ collision, Keymap.compileWith passes config ≠ .error (.names collision)) ∧
      (∀ text config, Config.parse text = .ok config →
        ∃ keymap, Keymap.compile config = .ok keymap ∧
          ∀ options place, Command.answerTo options place text = Command.view options keymap) ∧
      ∀ options place text failure, Command.answerTo options place text = .error failure →
        failure.message ≠ s!"failed to compile config {place}" := by
  refine ⟨fun _ _ => StateVar.name_unique, StateVar.countVars_exact, ?_, ?_, ?_⟩
  · intro passes config
    exact ⟨Keymap.compiled_iff_valid passes config, Keymap.refused_iff_invalid passes config,
      Keymap.names_never_collide passes config⟩
  · intro text config parsed
    obtain ⟨findings, valid⟩ := Config.parse_valid parsed
    obtain ⟨layout, _, compiled⟩ := Keymap.compile_valid valid
    exact ⟨_, compiled, fun options place => Command.answerTo_parsed options place parsed compiled⟩
  · exact fun options place text failure => Command.answerTo_never_compiling

theorem bare_layout_compiles : ∃ config keymap,
    Config.parse "layout = [\"a | b\"]" = .ok config ∧ Keymap.compile config = .ok keymap := by
  have accepted : (Config.parse "layout = [\"a | b\"]").toOption.isSome := by decide +kernel
  cases parsed : Config.parse "layout = [\"a | b\"]" with
  | error reason => simp [parsed, Except.toOption] at accepted
  | ok config =>
    obtain ⟨keymap, compiled, _⟩ := validation_only_gate.2.2.2.1 _ config parsed
    exact ⟨config, keymap, rfl, compiled⟩

end TapHold
