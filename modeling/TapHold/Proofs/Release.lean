import TapHold.Proofs.RuleWrites
import TapHold.Proofs.SoundConfig

namespace TapHold

def StateVar.isWindow : StateVar → Bool
  | isTypingStreak | streakExpiry => true
  | _ => false

namespace Engine
variable {config : Config} {layout : Layout} {before : State} {var : StateVar}

theorem answer_ofLayout {key : Key} {modifier : Option Modifier} {now : Valuation} {rule : Rule}
    (answered : (Keymap.ofLayout config layout).answer key modifier now = some rule) :
    firstFit modifier now (Pipeline.standard.rules (Keymap.siteOf config layout key)) =
      some rule := by
  rw [Keymap.answer, Keymap.rulesFor_ofLayout] at answered
  split at answered
  · exact answered
  · cases answered

theorem answer_makes {key : Key} {modifier : Option Modifier} {now : Valuation} {rule : Rule}
    (answered : (Keymap.ofLayout config layout).answer key modifier now = some rule) :
    (Keymap.siteOf config layout key).Makes rule :=
  Pipeline.makes_rules (firstFit_member (answer_ofLayout answered))

namespace Hold

def MadeFor (config : Config) (layout : Layout) (hold : Hold) : Prop :=
  ∀ rule, hold.rule = some rule → (Keymap.siteOf config layout hold.key).Makes rule

theorem part_of_rule {hold : Hold} {part : Rule → List (StateVar × Expr)} {w : StateVar × Expr}
    (member : w ∈ hold.rule.elim [] part) : ∃ rule, hold.rule = some rule ∧ w ∈ part rule := by
  cases ran : hold.rule with
  | none => simp [ran] at member
  | some rule => exact ⟨rule, rfl, by simpa [ran] using member⟩

end Hold

theorem State.press_cases (config : Config) (layout : Layout) (before : State) (key : Key)
    (modifier : Option Modifier) (clock : Clock) (var : StateVar) :
    (before.press (.ofLayout config layout) key modifier clock).vars var = before.vars var ∨
      ∃ rule value, (Keymap.ofLayout config layout).answer key modifier before.vars = some rule ∧
        (Keymap.siteOf config layout key).Writes rule var value ∧
        (before.press (.ofLayout config layout) key modifier clock).vars var =
          value.value clock := by
  rcases Valuation.write_cases clock before.vars
    (Hold.writes ⟨key, (Keymap.ofLayout config layout).answer key modifier before.vars, true⟩) var
    with ⟨kept, _⟩ | ⟨value, written, got⟩
  · exact .inl kept
  · obtain ⟨rule, answered, written⟩ := Hold.part_of_rule written
    exact .inr ⟨rule, value, answered, (answer_makes answered).writes written, got⟩

-- The release of a key that is down will set the variable to 0.
def Covered (state : State) (var : StateVar) : Prop :=
  ∃ hold ∈ state.down, (var, .int 0) ∈ hold.resets

theorem State.fresh {key : Key} (up : before.find? key = none) :
    key ∉ before.down.map Hold.key := by
  intro member
  obtain ⟨hold, down, same⟩ := List.mem_map.1 member
  have missed := List.find?_eq_none.1 up hold down
  simp [same] at missed

structure Guarded (config : Config) (layout : Layout) (state : State) : Prop where
  once : (state.down.map Hold.key).Nodup
  made : ∀ hold ∈ state.down, hold.MadeFor config layout
  covered : ∀ var, var.isWindow = false → state.vars var ≠ 0 → Covered state var

theorem start_guarded : Guarded config layout .start where
  once := List.nodup_nil
  made := by simp [State.start]
  covered := by simp [State.start, Valuation.start]

namespace Guarded
variable (guarded : Guarded config layout before)
include guarded

-- The variables of one home-row key belong together: only the key's own rule resets them.
theorem owner {key : Key} (flag : var = .held key ∨ var = .heldReady key ∨ var = .outputted key)
    (covered : Covered before var) :
    ∃ hold ∈ before.down, hold.key = key ∧
      hold.rule = some (HomeRowRules.source (Keymap.siteOf config layout key)) := by
  obtain ⟨hold, down, reset⟩ := covered
  obtain ⟨rule, ran, reset⟩ := Hold.part_of_rule reset
  cases (guarded.made hold down rule ran).resets reset with
  | held own | ready own | sent own =>
    simp only [StateVar.held.injEq, StateVar.heldReady.injEq, StateVar.outputted.injEq,
      reduceCtorEq, or_false, false_or] at flag
    subst flag
    exact ⟨hold, down, rfl, own ▸ ran⟩
  | off triggers => simp at flag

theorem trigger {name : String} (covered : Covered before (.active name)) :
    ∃ hold ∈ before.down, ∃ layer, config.layerTriggeredBy? hold.key = some (name, layer) := by
  obtain ⟨hold, down, reset⟩ := covered
  obtain ⟨rule, ran, reset⟩ := Hold.part_of_rule reset
  cases (guarded.made hold down rule ran).resets reset with
  | off triggers => exact ⟨hold, down, _, triggers⟩

theorem sibling {key : Key} (covered : Covered before (.held key)) :
    Covered before (.outputted key) := by
  obtain ⟨hold, down, rfl, own⟩ := guarded.owner (.inl rfl) covered
  refine ⟨hold, down, ?_⟩
  rw [Hold.resets, own]
  simp [HomeRowRules.source_resets, Keymap.siteOf]

theorem fire_cases {key : Key} {hold : Hold} {place : Nat} {timer : StateVar × Expr}
    (found : before.find? key = some hold) (armed : hold.timers[place]? = some timer)
    (clock : Clock) (var : StateVar) :
    (before.fire key timer clock).vars var = before.vars var ∨
      ∃ rule, hold.rule = some rule ∧
        (Keymap.siteOf config layout hold.key).Arms rule var timer.2 := by
  rcases Valuation.write_cases clock before.vars [timer] var with ⟨kept, _⟩ | ⟨value, written, _⟩
  · exact .inl kept
  · cases List.mem_singleton.1 written
    obtain ⟨rule, ran, armed⟩ := Hold.part_of_rule (List.mem_of_getElem? armed)
    have made := guarded.made hold (List.mem_of_find?_eq_some found) rule ran
    exact .inr ⟨rule, ran, made.timers armed⟩

theorem release_cases {key : Key} {hold : Hold} (found : before.find? key = some hold)
    (clock : Clock) (var : StateVar) :
    ((before.release hold clock).vars var = before.vars var ∧
        ∀ value, (var, value) ∉ hold.resets) ∨
      (before.release hold clock).vars var = 0 := by
  rcases Valuation.write_cases clock before.vars hold.resets var with
    unwritten | ⟨value, written, got⟩
  · exact .inl unwritten
  · obtain ⟨rule, ran, written⟩ := Hold.part_of_rule written
    cases (guarded.made hold (List.mem_of_find?_eq_some found) rule ran).resets written with
    | held _ | ready _ | sent _ | off _ => exact .inr got

theorem press {key : Key} {modifier : Option Modifier} {clock : Clock}
    (up : before.find? key = none) :
    Guarded config layout (before.press (.ofLayout config layout) key modifier clock) := by
  have persists {var : StateVar} (covered : Covered before var) :
      Covered (before.press (.ofLayout config layout) key modifier clock) var := by
    obtain ⟨hold, down, reset⟩ := covered
    exact ⟨hold.disturb, List.mem_append_left _ (List.mem_map_of_mem down), reset⟩
  refine ⟨?_, ?_, ?_⟩
  · have keys : (before.down.map Hold.disturb).map Hold.key = before.down.map Hold.key := by
      simp [Hold.disturb]
    rw [State.press, List.map_append, keys]
    exact append_distinct guarded.once (State.fresh up)
  · intro hold down
    rcases List.mem_append.1 down with old | new
    · obtain ⟨earlier, was, rfl⟩ := List.mem_map.1 old
      exact guarded.made earlier was
    · cases List.mem_singleton.1 new
      exact fun rule => answer_makes
  · intro var lasting nonzero
    rcases State.press_cases config layout before key modifier clock var with
      kept | ⟨rule, value, answered, table, got⟩
    · exact persists (guarded.covered var lasting fun zero => nonzero (kept.trans zero))
    · cases table with
      | typing | expiry => cases lasting
      | sent down _ =>
        -- the key whose letter is sent is down, so its own rule will take the mark back
        have held : before.vars _ = 1 := (firstFit_fits (answer_ofLayout answered)).2 _ down
        have nonzero := held.trans_ne Int.one_ne_zero
        exact persists (guarded.sibling (guarded.covered _ rfl nonzero))
      | off _ | unready _ | unsent _ => exact absurd got nonzero
      | held own =>
        refine ⟨⟨key, _, true⟩, List.mem_append_right _ (List.mem_singleton_self _), ?_⟩
        rw [Hold.resets, answered, own]
        simp [HomeRowRules.source_resets]

theorem fire {key : Key} {hold : Hold} {place : Nat} {timer : StateVar × Expr} {clock : Clock}
    (found : before.find? key = some hold) (armed : hold.timers[place]? = some timer) :
    Guarded config layout (before.fire key timer clock) := by
  have persists {var : StateVar} (covered : Covered before var) :
      Covered (before.fire key timer clock) var := by
    obtain ⟨other, down, reset⟩ := covered
    refine ⟨_, List.mem_map_of_mem down, ?_⟩
    split <;> exact reset
  refine ⟨?_, ?_, ?_⟩
  · have keys : (before.fire key timer clock).down.map Hold.key = before.down.map Hold.key := by
      rw [State.fire, List.map_map]
      refine List.map_congr_left fun other _ => ?_
      rw [Function.comp]
      split <;> rfl
    exact keys ▸ guarded.once
  · intro other member
    obtain ⟨earlier, was, rfl⟩ := List.mem_map.1 member
    split <;> exact guarded.made earlier was
  · intro var lasting nonzero
    rcases guarded.fire_cases found armed clock var with kept | ⟨rule, ran, table⟩
    · exact persists (guarded.covered var lasting fun zero => nonzero (kept.trans zero))
    · refine persists ⟨hold, List.mem_of_find?_eq_some found, ?_⟩
      rw [Hold.resets, ran]
      exact table.released

theorem release {key : Key} {hold : Hold} {clock : Clock}
    (found : before.find? key = some hold) :
    Guarded config layout (before.release hold clock) := by
  refine ⟨?_, ?_, ?_⟩
  · exact guarded.once.sublist (List.filter_sublist.map _)
  · exact fun other member => guarded.made other (List.mem_filter.1 member).1
  · intro var lasting nonzero
    rcases guarded.release_cases found clock var with ⟨kept, unwritten⟩ | reset
    · obtain ⟨other, was, reset⟩ :=
        guarded.covered var lasting fun zero => nonzero (kept.trans zero)
      -- had the key that goes up covered the variable, the release would have written it
      have apart : other.key ≠ hold.key := by
        intro same
        have down := List.mem_of_find?_eq_some found
        rw [List.inj_on_of_nodup_map guarded.once was down same] at reset
        exact unwritten _ reset
      exact ⟨other, List.mem_filter.2 ⟨was, by simpa using apart⟩, reset⟩
    · exact absurd reset nonzero

theorem step {event : Event} {after : State}
    (taken : Step (.ofLayout config layout) before event after) : Guarded config layout after := by
  cases taken with
  | press up => exact guarded.press up
  | fire found armed => exact guarded.fire found armed
  | release found => exact guarded.release found

end Guarded

theorem run_guarded {events : List Event} {state : State}
    (ran : run (.ofLayout config layout) .start events = some state) :
    Guarded config layout state :=
  run_preserves (fun guarded => guarded.step) start_guarded ran

theorem Guarded.rest (guarded : Guarded config layout before) (idle : before.down = [])
    (lasting : var.isWindow = false) : before.vars var = 0 := by
  by_contra nonzero
  obtain ⟨hold, down, _⟩ := guarded.covered var lasting nonzero
  rw [idle] at down
  cases down

theorem Guarded.layer_held (guarded : Guarded config layout before) {name : String} {layer : Layer}
    (member : (name, layer) ∈ config.layers.entries) (on : before.vars (.active name) ≠ 0) :
    ∃ hold ∈ before.down, hold.key = layer.trigger := by
  obtain ⟨hold, down, other, triggered⟩ := guarded.trigger (guarded.covered _ rfl on)
  have inside := List.mem_of_find?_eq_some triggered
  have same : other.trigger = hold.key := by simpa using List.find?_some triggered
  -- the entry found for the key is that of the layer, since names are not given twice
  cases List.inj_on_of_nodup_map config.layers.distinct inside member rfl
  exact ⟨hold, down, same.symm⟩

-- For every run, of presses in any order, with or without physical modifiers, on keys with rules
-- or without. A layer can be on only while its trigger is down, but not the other way round.
theorem no_stuck_key {findings : List Finding} (valid : config.validate = .ok findings) :
    ∃ keymap layout, Keymap.compile config = .ok keymap ∧
      Layout.parse config.layout = .ok layout ∧
      ∀ (events : List Event) (state : State), run keymap .start events = some state →
        (∀ key, state.vars (.held key) ≠ 0 ∨ state.vars (.heldReady key) ≠ 0 ∨
            state.vars (.outputted key) ≠ 0 →
          ∃ hold ∈ state.down, hold.key = key ∧
            hold.rule = some (HomeRowRules.source (Keymap.siteOf config layout key))) ∧
        (∀ name layer, (name, layer) ∈ config.layers.entries →
          state.vars (.active name) ≠ 0 → ∃ hold ∈ state.down, hold.key = layer.trigger) ∧
        (state.down = [] →
          (∀ key, state.vars (.held key) = 0 ∧ state.vars (.heldReady key) = 0 ∧
            state.vars (.outputted key) = 0) ∧
          ∀ name, state.vars (.active name) = 0) := by
  obtain ⟨layout, sound, compiled⟩ := Keymap.compile_valid valid
  refine ⟨_, layout, compiled, sound.parsed, ?_⟩
  intro events state ran
  have guarded := run_guarded ran
  refine ⟨?_, fun name layer => guarded.layer_held, ?_⟩
  · rintro key (held | ready | typed)
    · exact guarded.owner (.inl rfl) (guarded.covered _ rfl held)
    · exact guarded.owner (.inr (.inl rfl)) (guarded.covered _ rfl ready)
    · exact guarded.owner (.inr (.inr rfl)) (guarded.covered _ rfl typed)
  · intro idle
    exact ⟨fun key => ⟨guarded.rest idle rfl, guarded.rest idle rfl, guarded.rest idle rfl⟩,
      fun name => guarded.rest idle rfl⟩

theorem rolled_over_stays_down :
    ∃ keymap layout state, Keymap.compile Small.config = .ok keymap ∧
      Layout.parse Small.config.layout = .ok layout ∧
      run keymap .start
        [.press ⟨"a"⟩ none .busy, .press ⟨"space"⟩ none .busy,
          .fire ⟨"space"⟩ 0 .busy] = some state ∧
      state.vars (.outputted ⟨"a"⟩) = 1 ∧ state.vars (.active "nav") = 1 ∧
      (∃ hold ∈ state.down, hold.key = ⟨"a"⟩ ∧
        hold.rule = some (HomeRowRules.source (Keymap.siteOf Small.config layout ⟨"a"⟩))) ∧
      ∃ hold ∈ state.down, hold.key = ⟨"space"⟩ := by
  obtain ⟨keymap, layout, compiled, parsed, released⟩ := no_stuck_key Small.config_valid
  cases compiled.symm.trans Small.config_compiled
  cases parsed.symm.trans Small.config_sound.parsed
  obtain ⟨state, ran, typed, on⟩ :
      ∃ state, run Small.keymap .start
        [.press ⟨"a"⟩ none .busy, .press ⟨"space"⟩ none .busy,
          .fire ⟨"space"⟩ 0 .busy] = some state ∧
        state.vars (.outputted ⟨"a"⟩) = 1 ∧ state.vars (.active "nav") = 1 :=
    ⟨_, rfl, by decide, by decide⟩
  obtain ⟨owned, held, _⟩ := released _ state ran
  refine ⟨_, _, state, compiled, parsed, ran, typed, on, owned ⟨"a"⟩ (.inr (.inr ?_)),
    held "nav" Small.nav (by decide) ?_⟩
  · rw [typed]
    decide
  · rw [on]
    decide

end Engine
end TapHold
