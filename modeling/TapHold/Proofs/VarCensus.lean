import TapHold.Proofs.VarOwners

namespace TapHold

namespace StateVar

def flags (key : Key) : List StateVar := [.held key, .heldReady key, .outputted key]

def window : List StateVar := [.isTypingStreak, .streakExpiry]

end StateVar

namespace Config
variable {config : Config} {layout : Layout} {var : StateVar}

def flags (config : Config) : List StateVar :=
  config.homeRow.keys.flatMap StateVar.flags ++ config.layers.keys.map .active

theorem mem_flags : var ∈ config.flags ↔
    (∃ key ∈ config.homeRow.keys, var = .held key ∨ var = .heldReady key ∨ var = .outputted key) ∨
      ∃ name ∈ config.layers.keys, var = .active name := by
  simp [flags, StateVar.flags, eq_comm]

theorem homeRow_flag {key : Key} (member : key ∈ config.homeRow.keys)
    (flag : var = .held key ∨ var = .heldReady key ∨ var = .outputted key) : var ∈ config.flags :=
  mem_flags.2 (.inl ⟨key, member, flag⟩)

theorem layer_flag {name : String} (known : name ∈ config.layers.keys) :
    .active name ∈ config.flags := mem_flags.2 (.inr ⟨name, known, rfl⟩)

theorem flags_distinct (config : Config) : config.flags.Nodup := by
  unfold flags
  rw [List.nodup_append]
  refine ⟨?_, ?_, ?_⟩
  · rw [List.nodup_flatMap]
    refine ⟨fun key _ => by simp [StateVar.flags], config.homeRow.distinct.imp ?_⟩
    intro key other apart var member member'
    simp only [StateVar.flags, List.mem_cons, List.not_mem_nil, or_false] at member member'
    rcases member with rfl | rfl | rfl <;> simp [apart] at member'
  · exact config.layers.distinct.map fun _ _ => StateVar.active.inj
  · intro flag member active member' same
    obtain ⟨key, _, state⟩ := List.mem_flatMap.1 member
    obtain ⟨name, _, rfl⟩ := List.mem_map.1 member'
    rw [same] at state
    simp [StateVar.flags] at state

theorem named_distinct (config : Config) : (config.flags ++ StateVar.window).Nodup := by
  rw [List.nodup_append]
  refine ⟨config.flags_distinct, by decide, ?_⟩
  rintro flag member _ window rfl
  simp only [StateVar.window, List.mem_cons, List.not_mem_nil, or_false] at window
  rcases window with rfl | rfl <;> simp [mem_flags] at member

theorem named_count (config : Config) : (config.flags ++ StateVar.window).length =
    3 * config.homeRow.size + config.layers.size + 2 := by
  have keys : config.homeRow.keys.length = config.homeRow.size := List.length_map _
  have names : config.layers.keys.length = config.layers.size := List.length_map _
  have flags : (config.homeRow.keys.flatMap StateVar.flags).length =
      3 * config.homeRow.keys.length := by
    rw [List.length_flatMap]
    simp [StateVar.flags, Nat.mul_comm]
  rw [Config.flags, List.length_append, List.length_append, flags, List.length_map, keys, names]
  rfl

end Config

namespace Site
variable {site : Site} {rule : Rule} {var : StateVar}

theorem Makes.source_homeRow (made : site.Makes rule) (kind : rule.kind = .source) :
    site.key ∈ site.config.homeRow.keys := by
  cases made with
  | source homeRow => exact of_decide_eq_true homeRow
  | _ => cases kind

section
variable (known : ∀ entry ∈ site.config.layers.entries, ∀ parent ∈ entry.2.parent,
  parent ∈ site.config.layers.keys)
include known

theorem Reads.named (reads : site.Reads rule var) :
    var ∈ site.config.flags ∨ var ∈ StateVar.window := by
  cases reads with
  | typing _ => exact .inr (by simp [StateVar.window])
  | homeRow member flag => exact .inl (Config.homeRow_flag member flag)
  | active member => exact .inl (Config.layer_flag (Dict.entry_key member))
  | parent member above => exact .inl (Config.layer_flag (known _ member _ above))

-- The mark of a letter is set by a rule that asks whether it is set, so it is known from what the
-- rule reads.
theorem Makes.written_named (made : site.Makes rule) {action : Action}
    (member : action ∈ rule.actions) (writes : action.var? = some var) :
    var ∈ site.config.flags ∨ var ∈ StateVar.window := by
  obtain ⟨front, back, placed⟩ := List.append_of_mem member
  have owned := made.mayWrite placed writes
  have own {key : Key} (kind : rule.kind = .source) (same : key = site.key) :
      key ∈ site.config.homeRow.keys := same ▸ made.source_homeRow kind
  cases var with
  | held key => exact .inl (Config.homeRow_flag (own owned.1 owned.2) (.inl rfl))
  | heldReady key => exact .inl (Config.homeRow_flag (own owned.1 owned.2) (.inr (.inl rfl)))
  | outputted key =>
    rcases owned with ⟨_, kind, same⟩ | ⟨_, sends⟩
    · exact .inl (Config.homeRow_flag (own kind same) (.inr (.inr rfl)))
    · exact (made.reads sends.rolls.unsent).named known
  | active name =>
    obtain ⟨_, layer, inside, _⟩ := owned
    exact .inl (Config.layer_flag (Dict.entry_key inside))
  | isTypingStreak | streakExpiry => exact .inr (by simp [StateVar.window])

end

end Site

namespace Keymap
variable {config : Config} {layout : Layout} {key : Key} {var : StateVar}

theorem mem_vars {keymap : Keymap} : var ∈ keymap.vars ↔
    (∃ reader ∈ keymap.rules, ∃ condition ∈ reader.conditions, condition.var = var) ∨
      keymap.Written var := by
  simp only [vars, Rule.vars, Written, List.mem_flatMap, List.mem_append, List.mem_map,
    List.mem_filterMap, and_or_left, exists_or]

-- A trigger has its trigger rule and any other key types itself, so each key has a rule that opens
-- the window.
theorem window_written (placed : key ∈ keysOf config layout) (member : var ∈ StateVar.window) :
    (ofLayout config layout).Written var := by
  obtain ⟨rule, inside, loud⟩ : ∃ rule ∈ Pipeline.standard.rules (siteOf config layout key),
      rule.kind ≠ .layerSwallow := by
    by_cases listed : key ∈ config.triggers
    · have counted : (setOf .standard config layout key).count .trigger = 1 :=
        (trigger_shaped listed).one_trigger
      obtain ⟨rule, inside, kind⟩ := List.countP_pos_iff.1 (counted ▸ Nat.one_pos)
      exact ⟨rule, inside, by simp_all⟩
    · have counted : (setOf .standard config layout key).count .passthrough = 1 :=
        (plain_shaped listed).one_passthrough
      obtain ⟨rule, inside, kind⟩ := List.countP_pos_iff.1 (counted ▸ Nat.one_pos)
      exact ⟨rule, inside, by simp_all⟩
  rcases (Pipeline.makes_rules inside).actions with ⟨silent, _⟩ | ⟨rest, same, _⟩
  · exact absurd silent loud
  · refine ⟨rule, mem_rules.2 ⟨key, placed, inside⟩, ?_⟩
    rw [same]
    simp only [StateVar.window, List.mem_cons, List.not_mem_nil, or_false] at member
    rcases member with rfl | rfl
    · exact ⟨.setVar .isTypingStreak .streakActive, by simp [Site.streak, Streak.updates], rfl⟩
    · exact ⟨.setVar .streakExpiry (.nowPlus config.timing.streakWindow),
        by simp [Site.streak, Streak.updates, siteOf], rfl⟩

theorem sets_nil : (ofLayout config layout).sets = [] ↔ keysOf config layout = [] :=
  List.map_eq_nil_iff

-- Without a key there is no rule, and a sound configuration has no home-row key and no layer.
theorem vars_ofLayout (sound : config.SoundOn layout) : var ∈ (ofLayout config layout).vars ↔
    var ∈ config.flags ∨ (ofLayout config layout).sets ≠ [] ∧ var ∈ StateVar.window := by
  constructor
  · intro named
    have made {rule : Rule} (member : rule ∈ (ofLayout config layout).rules) :
        (ofLayout config layout).sets ≠ [] ∧ ∃ key, (siteOf config layout key).Makes rule := by
      obtain ⟨set, inside, _⟩ := List.mem_flatMap.1 member
      obtain ⟨key, _, standard⟩ := mem_rules.1 member
      exact ⟨List.ne_nil_of_mem inside, key, Pipeline.makes_rules standard⟩
    rcases mem_vars.1 named with ⟨rule, member, condition, asked, rfl⟩ |
      ⟨rule, member, action, inside, writes⟩
    · obtain ⟨ruled, key, made⟩ := made member
      exact ((made.reads asked).named sound.checks.known).imp_right (And.intro ruled)
    · obtain ⟨ruled, key, made⟩ := made member
      exact (made.written_named sound.checks.known inside writes).imp_right (And.intro ruled)
  · rintro (flag | ⟨ruled, window⟩)
    · refine mem_vars.2 (.inr ?_)
      rcases Config.mem_flags.1 flag with ⟨key, member, flag⟩ | ⟨name, known, rfl⟩
      · exact homeRow_written sound member flag
      · exact active_written sound known
    · obtain ⟨key, placed⟩ := List.exists_mem_of_ne_nil _ (mt sets_nil.2 ruled)
      exact mem_vars.2 (.inr (window_written placed window))

theorem vars_count (sound : config.SoundOn layout) :
    (ofLayout config layout).vars.toFinset.card =
      if (ofLayout config layout).sets = [] then 0
      else 3 * config.homeRow.size + config.layers.size + 2 := by
  split
  · rename_i bare
    rw [vars, rules, bare]
    rfl
  · rename_i ruled
    have named : (ofLayout config layout).vars.toFinset =
        (config.flags ++ StateVar.window).toFinset := by
      ext var
      rw [List.mem_toFinset, List.mem_toFinset, vars_ofLayout sound, List.mem_append,
        and_iff_right ruled]
    rw [named, List.toFinset_card_of_nodup config.named_distinct, config.named_count]

end Keymap

theorem variable_census {config : Config} {findings : List Finding}
    (valid : config.validate = .ok findings) :
    ∃ keymap, Keymap.compile config = .ok keymap ∧
      (∀ var, var ∈ keymap.vars ↔
        var ∈ config.flags ∨ keymap.sets ≠ [] ∧ var ∈ StateVar.window) ∧
      Keymap.compileWith .standard config = .ok (keymap,
        if keymap.sets = [] then 0
        else 3 * config.homeRow.size + config.layers.size + 2) := by
  obtain ⟨layout, sound, compiled⟩ := Keymap.compile_valid valid
  refine ⟨_, compiled, fun var => Keymap.vars_ofLayout sound, ?_⟩
  rw [Keymap.compileWith_sound .standard sound, ← Keymap.vars_count sound]
  rfl

theorem small_variables_counted :
    ∃ keymap, Keymap.compileWith .standard Small.config = .ok (keymap, 13) ∧
      StateVar.outputted ⟨"s"⟩ ∈ keymap.vars ∧ StateVar.active "sub" ∈ keymap.vars ∧
      StateVar.held ⟨"k"⟩ ∉ keymap.vars := by
  obtain ⟨keymap, compiled, named, counted⟩ := variable_census Small.config_valid
  cases compiled.symm.trans Small.config_compiled
  refine ⟨_, counted, ?_, ?_, ?_⟩
  · rw [named]; decide
  · rw [named]; decide
  · rw [named]; decide

end TapHold
