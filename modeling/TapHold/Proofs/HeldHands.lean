import TapHold.Proofs.Dispatch
import TapHold.Proofs.HomeRowDecision
import TapHold.Proofs.LayoutViews
import TapHold.Proofs.Release

namespace TapHold

namespace Site
variable {site : Site}

theorem opposite_member {entry : Key × Modifier} (member : entry ∈ site.opposite) :
    entry.1 ∈ site.config.homeRow.keys ∧ site.layout.opposed entry.1 site.key = true := by
  obtain ⟨other, opposed⟩ := List.mem_filter.1 member
  exact ⟨List.mem_map_of_mem (List.mem_filter.1 other).1, opposed⟩

theorem member_sameHand {held : Key} (member : held ∈ site.config.homeRow.keys)
    (other : held ≠ site.key) (beside : site.layout.opposed held site.key = false) :
    held ∈ site.sameHand := by
  obtain ⟨entry, inside, rfl⟩ := List.mem_map.1 member
  refine List.mem_map_of_mem (List.mem_filter.2 ⟨List.mem_filter.2 ⟨inside, ?_⟩, ?_⟩)
  · simpa using other
  · simpa [opposed] using beside

end Site

section
variable {site : Site} {now : Valuation} {rule : Rule}

theorem Pipeline.homeRow_first (stage : rule.kind.stage = .homeRow)
    (first : firstFit none now (Pipeline.standard.rules site) = some rule) :
    firstFit none now (HomeRowRules.rules site) = some rule := by
  rw [LayerRules.standard_rules, firstFit_append, firstFit_append] at first
  rcases Option.or_eq_some_iff.1 first with front | ⟨_, last⟩
  · rcases Option.or_eq_some_iff.1 front with layer | ⟨_, homeRow⟩
    · have other := (LayerRules.makes_rules (firstFit_member layer)).2
      rw [stage] at other
      cases other
    · exact homeRow
  · have other := (Pass.makes_passthrough (firstFit_member last)).2
    rw [stage] at other
    cases other

namespace HomeRowRules

-- Only what the later proofs ask of each verdict: which keys make the chord, and that the own
-- rule of a key waits for the keys beside it.
theorem verdict_cases {v : Verdict} (came : verdict site now = some v) :
    v = .chord (readyKeys site now) ∨ (∃ held typed, v = .rolled held typed) ∨
      (∃ held typed, v = .beside held typed) ∨ (v = .own ∧ beside? site now = none) := by
  rcases Option.or_eq_some_iff.1 came with chord | ⟨_, came⟩
  · obtain ⟨_, made⟩ := Option.ite_none_right_eq_some.1 chord
    cases made
    exact .inl rfl
  rcases Option.or_eq_some_iff.1 came with rolled | ⟨_, came⟩
  · obtain ⟨entry, _, rfl⟩ := Option.map_eq_some_iff.1 rolled
    exact .inr (.inl ⟨_, _, rfl⟩)
  rcases Option.or_eq_some_iff.1 came with beside | ⟨skipped, own⟩
  · obtain ⟨held, _, rfl⟩ := Option.map_eq_some_iff.1 beside
    exact .inr (.inr (.inl ⟨_, _, rfl⟩))
  · obtain ⟨_, made⟩ := Option.ite_none_right_eq_some.1 own
    cases made
    exact .inr (.inr (.inr ⟨rfl, skipped⟩))

theorem source_first (first : firstFit none now (rules site) = some (source site)) :
    ∀ held ∈ site.sameHand, ¬ Beside now held := by
  rw [rules_first] at first
  obtain ⟨v, came, made⟩ := Option.map_eq_some_iff.1 first
  have kind := congrArg Rule.kind made
  rcases verdict_cases came with rfl | ⟨_, _, rfl⟩ | ⟨_, _, rfl⟩ | ⟨rfl, skipped⟩
  · cases kind
  · cases kind
  · cases kind
  · rw [beside?, Option.map_eq_none_iff, List.find?_eq_none] at skipped
    simpa using skipped

theorem activation_conditions {chord : List (Key × Modifier)} :
    (activation site chord).conditions.length = 2 * chord.length + 1 := by
  simp [activation, ready, Nat.mul_comm]

theorem activation_first {chord : List (Key × Modifier)}
    (first : firstFit none now (rules site) = some (activation site chord)) :
    chord.length = (readyKeys site now).length := by
  rw [rules_first] at first
  obtain ⟨v, came, made⟩ := Option.map_eq_some_iff.1 first
  have kind := congrArg Rule.kind made
  rcases verdict_cases came with rfl | ⟨_, _, rfl⟩ | ⟨_, _, rfl⟩ | ⟨rfl, _⟩
  · -- the rule no longer has its chord, but two conditions for each of the keys
    have counted := congrArg (fun rule => rule.conditions.length) made
    change (activation site (readyKeys site now)).conditions.length = _ at counted
    rw [activation_conditions, activation_conditions] at counted
    omega
  · cases kind
  · cases kind
  · cases kind

theorem readyKeys_member {entry : Key × Modifier} (member : entry ∈ readyKeys site now) :
    entry ∈ site.opposite ∧ now (.held entry.1) = 1 := by
  obtain ⟨inside, ready⟩ := List.mem_filter.1 member
  exact ⟨inside, (of_decide_eq_true ready).1⟩

theorem readyKeys_distinct (site : Site) (now : Valuation) :
    ((readyKeys site now).map Prod.fst).Nodup :=
  site.config.homeRow.distinct.sublist
    ((List.filter_sublist.trans (List.filter_sublist.trans List.filter_sublist)).map Prod.fst)

end HomeRowRules

end

namespace Engine
variable {config : Config} {layout : Layout} {before : State}

structure Parted (config : Config) (layout : Layout) (state : State) : Prop where
  guarded : Guarded config layout state
  flags : ∀ key, state.vars (.outputted key) = 0 ∨ state.vars (.outputted key) = 1
  single : ∀ a ∈ config.homeRow.keys, ∀ b ∈ config.homeRow.keys, layout.opposed a b = false →
    state.vars (.held a) = 1 → state.vars (.held b) = 1 → a = b

theorem start_parted : Parted config layout .start where
  guarded := start_guarded
  flags := by simp [State.start, Valuation.start]
  single := by simp [State.start, Valuation.start]

theorem answer_homeRow {key : Key} {modifier : Option Modifier} {now : Valuation} {rule : Rule}
    (bare : rule.press.modifier = none) (stage : rule.kind.stage = .homeRow)
    (answered : (Keymap.ofLayout config layout).answer key modifier now = some rule) :
    firstFit none now (HomeRowRules.rules (Keymap.siteOf config layout key)) = some rule := by
  have first := answer_ofLayout answered
  have same : modifier = none := (firstFit_fits first).1.symm.trans bare
  exact Pipeline.homeRow_first stage (same ▸ first)

namespace Parted
variable (parted : Parted config layout before)
include parted

theorem source_alone {key : Key} {modifier : Option Modifier}
    (answered : (Keymap.ofLayout config layout).answer key modifier before.vars =
      some (HomeRowRules.source (Keymap.siteOf config layout key)))
    {held : Key} (member : held ∈ config.homeRow.keys) (beside : layout.opposed held key = false)
    (down : before.vars (.held held) = 1) : held = key := by
  by_contra other
  have first := answer_homeRow rfl rfl answered
  exact HomeRowRules.source_first first held (Site.member_sameHand member other beside)
    ⟨down, parted.flags held⟩

theorem chord_single {key : Key} {modifier : Option Modifier} {chord : List (Key × Modifier)}
    (answered : (Keymap.ofLayout config layout).answer key modifier before.vars =
      some (HomeRowRules.activation (Keymap.siteOf config layout key) chord)) :
    chord.length ≤ 1 := by
  rw [HomeRowRules.activation_first (answer_homeRow rfl rfl answered)]
  cases keys : HomeRowRules.readyKeys (Keymap.siteOf config layout key) before.vars with
  | nil => exact Nat.zero_le 1
  | cons first more =>
    cases more with
    | nil => exact le_rfl
    | cons second rest =>
      have ready {entry : Key × Modifier} (among : entry ∈ first :: second :: rest) :=
        HomeRowRules.readyKeys_member (keys ▸ among)
      obtain ⟨opposite, held⟩ := ready List.mem_cons_self
      obtain ⟨opposite', held'⟩ := ready (List.mem_cons_of_mem _ List.mem_cons_self)
      obtain ⟨member, opposed⟩ := Site.opposite_member opposite
      obtain ⟨member', opposed'⟩ := Site.opposite_member opposite'
      have same := parted.single _ member _ member'
        (Layout.unopposed_of_opposed opposed opposed') held held'
      have distinct := HomeRowRules.readyKeys_distinct (Keymap.siteOf config layout key) before.vars
      rw [keys] at distinct
      simp [same] at distinct

theorem press {key : Key} {modifier : Option Modifier} {clock : Clock}
    (up : before.find? key = none) :
    Parted config layout (before.press (.ofLayout config layout) key modifier clock) := by
  have cases_of := State.press_cases config layout before key modifier clock
  have held {a : Key}
      (down : (before.press (.ofLayout config layout) key modifier clock).vars (.held a) = 1) :
      before.vars (.held a) = 1 ∨
        a = key ∧ (Keymap.ofLayout config layout).answer key modifier before.vars =
          some (HomeRowRules.source (Keymap.siteOf config layout key)) := by
    rcases cases_of (.held a) with kept | ⟨rule, value, answered, table, _⟩
    · exact .inl (kept.symm.trans down)
    · cases table with
      | held own => exact .inr ⟨rfl, own ▸ answered⟩
  refine ⟨parted.guarded.press up, ?_, ?_⟩
  · intro a
    rcases cases_of (.outputted a) with kept | ⟨rule, value, _, table, got⟩
    · rw [kept]
      exact parted.flags a
    · cases table with
      | sent _ _ => exact .inr got
      | unsent _ => exact .inl got
  · -- if both keys were held before, nothing is new; the one pressed last was alone on its hand
    intro a member b member' beside down down'
    rcases held down with was | ⟨rfl, own⟩
    · rcases held down' with was' | ⟨rfl, own⟩
      · exact parted.single a member b member' beside was was'
      · exact parted.source_alone own member beside was
    · rcases held down' with was' | ⟨rfl, _⟩
      · exact (parted.source_alone own member' (Layout.opposed_comm.trans beside) was').symm
      · rfl

theorem fire {key : Key} {hold : Hold} {place : Nat} {timer : StateVar × Expr} {clock : Clock}
    (found : before.find? key = some hold) (armed : hold.timers[place]? = some timer) :
    Parted config layout (before.fire key timer clock) := by
  have held (a : Key) : (before.fire key timer clock).vars (.held a) = before.vars (.held a) := by
    rcases parted.guarded.fire_cases found armed clock (.held a) with kept | ⟨_, _, table⟩
    · exact kept
    · cases table
  have typed (a : Key) :
      (before.fire key timer clock).vars (.outputted a) = before.vars (.outputted a) := by
    rcases parted.guarded.fire_cases found armed clock (.outputted a) with kept | ⟨_, _, table⟩
    · exact kept
    · cases table
  refine ⟨parted.guarded.fire found armed, ?_, ?_⟩
  · intro a
    rw [typed]
    exact parted.flags a
  · intro a member b member' beside down down'
    rw [held] at down down'
    exact parted.single a member b member' beside down down'

theorem release {key : Key} {hold : Hold} {clock : Clock}
    (found : before.find? key = some hold) :
    Parted config layout (before.release hold clock) := by
  have was {a : Key} (down : (before.release hold clock).vars (.held a) = 1) :
      before.vars (.held a) = 1 := by
    rcases parted.guarded.release_cases found clock (.held a) with ⟨kept, _⟩ | reset
    · exact kept.symm.trans down
    · cases reset.symm.trans down
  refine ⟨parted.guarded.release found, ?_, ?_⟩
  · intro a
    rcases parted.guarded.release_cases found clock (.outputted a) with ⟨kept, _⟩ | reset
    · rw [kept]
      exact parted.flags a
    · exact .inl reset
  · intro a member b member' beside down down'
    exact parted.single a member b member' beside (was down) (was down')

theorem step {event : Event} {after : State}
    (taken : Step (.ofLayout config layout) before event after) : Parted config layout after := by
  cases taken with
  | press up => exact parted.press up
  | fire found armed => exact parted.fire found armed
  | release found => exact parted.release found

end Parted

theorem run_parted {events : List Event} {state : State}
    (ran : run (.ofLayout config layout) .start events = some state) :
    Parted config layout state :=
  run_preserves (fun parted => parted.step) start_parted ran

-- The rules for several held keys are there, but no run of the engine comes to one of them. They
-- would need two keys of one hand.
theorem one_held_per_hand {findings : List Finding} (valid : config.validate = .ok findings) :
    ∃ keymap layout, Keymap.compile config = .ok keymap ∧
      Layout.parse config.layout = .ok layout ∧
      ∀ (events : List Event) (state : State), run keymap .start events = some state →
        (∀ hand, ∀ a ∈ config.homeRow.keys, ∀ b ∈ config.homeRow.keys,
          layout.handOf? a = some hand → layout.handOf? b = some hand →
          state.vars (.held a) = 1 → state.vars (.held b) = 1 → a = b) ∧
        ∀ key modifier chord, 2 ≤ chord.length →
          keymap.answer key modifier state.vars ≠
            some (HomeRowRules.activation (Keymap.siteOf config layout key) chord) := by
  obtain ⟨layout, sound, compiled⟩ := Keymap.compile_valid valid
  refine ⟨_, layout, compiled, sound.parsed, ?_⟩
  intro events state ran
  have parted := run_parted ran
  refine ⟨?_, ?_⟩
  · intro hand a member b member' left right
    exact parted.single a member b member' (Layout.sameHand_unopposed left right)
  · intro key modifier chord several answered
    have few := parted.chord_single answered
    omega

theorem second_key_rolls :
    ∃ keymap layout state, Keymap.compile Small.config = .ok keymap ∧
      Layout.parse Small.config.layout = .ok layout ∧
      run keymap .start [.press ⟨"a"⟩ none .busy, .press ⟨"s"⟩ none .busy, .fire ⟨"a"⟩ 0 .busy] =
        some state ∧
      state.vars (.held ⟨"a"⟩) = 1 ∧ state.vars (.held ⟨"s"⟩) ≠ 1 ∧
      keymap.answer ⟨"k"⟩ none state.vars ≠
        some (HomeRowRules.activation (Keymap.siteOf Small.config layout ⟨"k"⟩)
          [(⟨"a"⟩, .control), (⟨"s"⟩, .shift)]) := by
  obtain ⟨keymap, layout, compiled, parsed, parted⟩ := one_held_per_hand Small.config_valid
  cases compiled.symm.trans Small.config_compiled
  cases parsed.symm.trans Small.config_sound.parsed
  obtain ⟨state, ran, down⟩ :
      ∃ state, run Small.keymap .start
        [.press ⟨"a"⟩ none .busy, .press ⟨"s"⟩ none .busy, .fire ⟨"a"⟩ 0 .busy] = some state ∧
        state.vars (.held ⟨"a"⟩) = 1 :=
    ⟨_, rfl, by decide⟩
  obtain ⟨single, chordless⟩ := parted _ state ran
  refine ⟨_, _, state, compiled, parsed, ran, down, ?_, chordless _ _ _ (by decide)⟩
  intro down'
  have same := single .left ⟨"a"⟩ (by decide) ⟨"s"⟩ (by decide) (by decide) (by decide) down down'
  exact absurd same (by decide)

end Engine
end TapHold
