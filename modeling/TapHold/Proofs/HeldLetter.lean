import TapHold.Proofs.Release

namespace TapHold

def RuleKind.isRollover : RuleKind → Bool
  | triggerRollover | rollover | sameHandRollover => true
  | trigger | layerBinding | layerSwallow | activation | modifierPassthrough | source
  | passthrough => false

namespace Engine

def RolledOver (key : Key) (out : Rule × Stroke) : Prop :=
  out.1.kind.isRollover ∧ out.1.key ≠ key ∧ out.2.key = key

instance (key : Key) (out : Rule × Stroke) : Decidable (RolledOver key out) :=
  inferInstanceAs (Decidable (_ ∧ _))

def letters (key : Key) (sent : List (Rule × Stroke)) : Nat :=
  sent.countP fun out => RolledOver key out

theorem letters_append (key : Key) (earlier later : List (Rule × Stroke)) :
    letters key (earlier ++ later) = letters key earlier + letters key later :=
  List.countP_append

theorem letters_rule {key : Key} {rule : Rule} (rolls : rule.kind.isRollover)
    (other : rule.key ≠ key) :
    letters key (rule.emits.map fun stroke => (rule, stroke)) =
      rule.emits.countP fun stroke => stroke.key = key := by
  rw [letters, List.countP_map]
  exact List.countP_congr fun stroke _ => by simp [RolledOver, rolls, other]

-- The rule sends no letter of the key, or sends it once, asks that it was not sent before, and
-- marks it as sent.
def SendsOnce (key : Key) (rule : Rule) : Prop :=
  letters key (rule.emits.map fun stroke => (rule, stroke)) = 0 ∨
    letters key (rule.emits.map fun stroke => (rule, stroke)) = 1 ∧
      ⟨.outputted key, 0⟩ ∈ rule.conditions ∧ (.outputted key, .int 1) ∈ rule.writes

theorem sendsOnce_of_held {key held : Key} {rule : Rule} (rolls : rule.kind.isRollover)
    (other : rule.key ≠ key)
    (sends : (rule.emits.countP fun stroke => stroke.key = key) = if held = key then 1 else 0)
    (unsent : ⟨.outputted held, 0⟩ ∈ rule.conditions)
    (marks : (.outputted held, .int 1) ∈ rule.writes) : SendsOnce key rule := by
  rw [SendsOnce, letters_rule rolls other, sends]
  by_cases same : held = key
  · subst same
    exact .inr ⟨if_pos rfl, unsent, marks⟩
  · exact .inl (if_neg same)

end Engine

theorem HomeRowRules.source_taps {site : Site} :
    (HomeRowRules.source site).taps = [.plain site.key] := rfl

namespace Site.Makes
variable {site : Site} {rule : Rule} {key : Key}

theorem sendsOnce (made : site.Makes rule) (other : site.key ≠ key) :
    Engine.SendsOnce key rule := by
  have silent {rule : Rule} (unrolled : rule.kind.isRollover = false) :
      Engine.SendsOnce key rule := .inl (by simp [Engine.letters, Engine.RolledOver, unrolled])
  have both (held : Key) : ([Stroke.plain held, .plain site.key].countP fun stroke =>
      stroke.key = key) = if held = key then 1 else 0 := by
    simp [List.countP_cons, Stroke.plain, other]
  have one {kind : RuleKind} {held : Key} (rolls : kind.isRollover) :
      Engine.SendsOnce key (HomeRowRules.typeOne site kind held) := by
    have apart : (HomeRowRules.typeOne site kind held).key ≠ key := other
    have none : ([Stroke.plain site.key].countP fun stroke => stroke.key = key) = 0 := by
      simp [Stroke.plain, other]
    exact .inl ((Engine.letters_rule rolls apart).trans none)
  cases made with
  | @triggerRollover _ _ held _ _ =>
    have sent : ([Stroke.plain held].countP fun stroke => stroke.key = key) =
        if held = key then 1 else 0 := by
      simp [List.countP_cons, Stroke.plain]
    exact Engine.sendsOnce_of_held rfl other sent (by simp [LayerRules.rollover])
      (by simp [LayerRules.rollover_writes])
  | rolls _ | rollsBeside _ =>
    exact Engine.sendsOnce_of_held rfl other (both _) (by simp [HomeRowRules.typeBoth])
      (by simp [HomeRowRules.typeBoth_writes])
  | rolled _ | rolledBeside _ => exact one rfl
  | trigger _ | layerBinding _ _ | layerSwallow _ _ | activation _ | modifierPassthrough _
  | source _ | passthrough _ => exact silent rfl

theorem taps (made : site.Makes rule) {stroke : Stroke} (member : stroke ∈ rule.taps) :
    stroke = .plain site.key := by
  cases made with
  | triggerRollover _ _ | trigger _ | source _ => exact List.mem_singleton.1 member
  | _ => cases member

end Site.Makes

namespace Engine
variable {config : Config} {layout : Layout} {before : State} {key other : Key}

theorem mark_press (apart : other ≠ key) (modifier : Option Modifier) (clock : Clock) :
    ((before.press (.ofLayout config layout) other modifier clock).vars (.outputted key) =
        before.vars (.outputted key) ∧
      ∀ rule, (Keymap.ofLayout config layout).answer other modifier before.vars = some rule →
        (.outputted key, .int 1) ∉ rule.writes) ∨
      (before.press (.ofLayout config layout) other modifier clock).vars (.outputted key) = 1 := by
  rcases Valuation.write_cases clock before.vars
    (Hold.writes ⟨other, (Keymap.ofLayout config layout).answer other modifier before.vars, true⟩)
    (.outputted key) with ⟨kept, unwritten⟩ | ⟨value, written, got⟩
  · refine .inl ⟨kept, fun rule answered written => unwritten (.int 1) ?_⟩
    simpa [Hold.writes, answered] using written
  · obtain ⟨rule, answered, written⟩ := Hold.part_of_rule written
    cases (answer_makes answered).writes written with
    | sent _ _ => exact .inr got
    | unsent _ => exact absurd rfl apart

theorem press_letter (apart : other ≠ key) (modifier : Option Modifier) (clock : Clock) :
    ∃ rolled, (before.press (.ofLayout config layout) other modifier clock).sent =
        before.sent ++ rolled ∧
      (letters key rolled = 0 ∧
          (before.vars (.outputted key) = 1 →
            (before.press (.ofLayout config layout) other modifier clock).vars
              (.outputted key) = 1) ∨
        letters key rolled = 1 ∧ before.vars (.outputted key) = 0 ∧
          (before.press (.ofLayout config layout) other modifier clock).vars
            (.outputted key) = 1) := by
  refine ⟨_, rfl, ?_⟩
  have mark := @mark_press config layout before key other apart modifier clock
  have stays (marked : before.vars (.outputted key) = 1) :
      (before.press (.ofLayout config layout) other modifier clock).vars (.outputted key) = 1 := by
    rcases mark with ⟨kept, _⟩ | set
    · exact kept.trans marked
    · exact set
  cases answered : (Keymap.ofLayout config layout).answer other modifier before.vars with
  | none => exact .inl ⟨rfl, stays⟩
  | some rule =>
    rcases (answer_makes answered).sendsOnce apart with none | ⟨once, unsent, marks⟩
    · exact .inl ⟨none, stays⟩
    · refine .inr ⟨once, (firstFit_fits (answer_ofLayout answered)).2 _ unsent, ?_⟩
      rcases mark with ⟨_, unwritten⟩ | set
      · exact absurd marks (unwritten rule answered)
      · exact set

theorem mark_fire (guarded : Guarded config layout before) {hold : Hold} {place : Nat}
    {timer : StateVar × Expr} (found : before.find? other = some hold)
    (armed : hold.timers[place]? = some timer) (clock : Clock) :
    (before.fire other timer clock).vars (.outputted key) = before.vars (.outputted key) := by
  rcases guarded.fire_cases found armed clock (.outputted key) with kept | ⟨_, _, table⟩
  · exact kept
  · cases table

theorem mark_release (guarded : Guarded config layout before) {hold : Hold}
    (found : before.find? other = some hold) (apart : hold.key ≠ key) (clock : Clock) :
    (before.release hold clock).vars (.outputted key) = before.vars (.outputted key) := by
  rcases Valuation.write_cases clock before.vars hold.resets (.outputted key) with
    ⟨kept, _⟩ | ⟨value, written, _⟩
  · exact kept
  · obtain ⟨rule, ran, written⟩ := Hold.part_of_rule written
    cases (guarded.made hold (List.mem_of_find?_eq_some found) rule ran).resets written with
    | sent _ => exact absurd rfl apart

theorem release_letter {hold : Hold} (made : hold.MadeFor config layout)
    (apart : hold.key ≠ key) : letters key hold.taps = 0 := by
  refine List.countP_eq_zero.2 fun out member => ?_
  rw [Hold.taps] at member
  split at member
  · cases ran : hold.rule with
    | none => simp [ran] at member
    | some rule =>
      simp only [ran, Option.elim_some] at member
      obtain ⟨stroke, tapped, rfl⟩ := List.mem_map.1 member
      rw [(made rule ran).taps tapped]
      simp [RolledOver, Stroke.plain, Keymap.siteOf, apart]
  · cases member

-- Where the letter stands since the key went down: it was not sent, or it was sent once. Then the
-- key is marked, and is not alone any more.
def Spent (key : Key) (state : State) (hold : Hold) (since : List (Rule × Stroke)) : Prop :=
  letters key since = 0 ∨
    letters key since = 1 ∧ state.vars (.outputted key) = 1 ∧ hold.alone = false

structure Holding (config : Config) (layout : Layout) (key : Key) (log : List (Rule × Stroke))
    (state : State) : Prop where
  guarded : Guarded config layout state
  held : ∃ hold since, state.find? key = some hold ∧
    hold.rule = some (HomeRowRules.source (Keymap.siteOf config layout key)) ∧
    state.sent = log ++ since ∧ Spent key state hold since

theorem press_holding (guarded : Guarded config layout before) {modifier : Option Modifier}
    {clock : Clock} (up : before.find? key = none)
    (own : (Keymap.ofLayout config layout).answer key modifier before.vars =
      some (HomeRowRules.source (Keymap.siteOf config layout key))) :
    Holding config layout key before.sent
      (before.press (.ofLayout config layout) key modifier clock) := by
  refine ⟨guarded.press up, ⟨key, _, true⟩, [], State.find_pressed up, own, ?_, .inl rfl⟩
  rw [State.press, Hold.emits, own]
  rfl

namespace Holding
variable {log : List (Rule × Stroke)} (holding : Holding config layout key log before)
include holding

theorem press {modifier : Option Modifier} {clock : Clock} (up : before.find? other = none) :
    Holding config layout key log
      (before.press (.ofLayout config layout) other modifier clock) := by
  obtain ⟨hold, since, found, own, logged, spent⟩ := holding.held
  have apart : other ≠ key := by
    rintro rfl
    cases up.symm.trans found
  obtain ⟨rolled, sent, letter⟩ := press_letter apart modifier clock
  refine ⟨holding.guarded.press up, hold.disturb, since ++ rolled, State.find_press found, own,
    ?_, ?_⟩
  · rw [sent, logged, List.append_assoc]
  · rw [Spent, letters_append]
    rcases spent with unspent | ⟨once, marked, _⟩
    · rcases letter with ⟨silent, _⟩ | ⟨first, _, marks⟩
      · exact .inl (by rw [unspent, silent])
      · exact .inr ⟨by rw [unspent, first], marks, rfl⟩
    · rcases letter with ⟨silent, stays⟩ | ⟨_, unmarked, _⟩
      · exact .inr ⟨by rw [once, silent], stays marked, rfl⟩
      · cases unmarked.symm.trans marked

theorem fire {hold : Hold} {place : Nat} {timer : StateVar × Expr} {clock : Clock}
    (down : before.find? other = some hold) (armed : hold.timers[place]? = some timer) :
    Holding config layout key log (before.fire other timer clock) := by
  obtain ⟨mine, since, found, own, logged, spent⟩ := holding.held
  refine ⟨holding.guarded.fire down armed, _, since, State.find_fire found, ?_, logged, ?_⟩
  · split <;> exact own
  · rcases spent with unsent | ⟨once, marked, disturbed⟩
    · exact .inl unsent
    · refine .inr ⟨once, (mark_fire holding.guarded down armed clock).trans marked, ?_⟩
      split
      · rfl
      · exact disturbed

theorem release {hold : Hold} {clock : Clock} (down : before.find? other = some hold)
    (apart : other ≠ key) : Holding config layout key log (before.release hold clock) := by
  obtain ⟨mine, since, found, own, logged, spent⟩ := holding.held
  have named : hold.key = other := by simpa using List.find?_some down
  have apart' : hold.key ≠ key := named ▸ apart
  have silent : letters key hold.taps = 0 :=
    release_letter (holding.guarded.made hold (List.mem_of_find?_eq_some down)) apart'
  refine ⟨holding.guarded.release down, mine, since ++ hold.taps,
    State.find_release apart' found, own, ?_, ?_⟩
  · rw [State.release, logged, List.append_assoc]
  · rw [Spent, letters_append, silent, Nat.add_zero]
    rw [mark_release holding.guarded down apart']
    exact spent

theorem step {event : Event} {after : State} (elsewhere : ∀ clock, event ≠ .release key clock)
    (taken : Step (.ofLayout config layout) before event after) :
    Holding config layout key log after := by
  cases taken with
  | press up => exact holding.press up
  | fire found armed => exact holding.fire found armed
  | @release _ other clock found =>
    exact holding.release found fun same => elsewhere clock (same ▸ rfl)

-- The hold can send its letter by its release only if it was not sent, since the timer and every
-- other press disturb it.
theorem bound : ∃ hold since, before.find? key = some hold ∧ before.sent = log ++ since ∧
    letters key since + hold.taps.length ≤ 1 := by
  obtain ⟨hold, since, found, own, logged, spent⟩ := holding.held
  refine ⟨hold, since, found, logged, ?_⟩
  have taps : hold.taps.length ≤ if hold.alone then 1 else 0 := by
    rw [Hold.taps, own]
    split <;> simp [HomeRowRules.source_taps]
  rcases spent with unsent | ⟨once, _, disturbed⟩
  · rw [unsent]
    split at taps <;> omega
  · rw [if_neg (by simp [disturbed])] at taps
    rw [once]
    omega

end Holding

theorem run_holding {log : List (Rule × Stroke)} {after : State} {events : List Event}
    (elsewhere : ∀ event ∈ events, ∀ clock, event ≠ .release key clock)
    (holding : Holding config layout key log before)
    (ran : run (.ofLayout config layout) before events = some after) :
    Holding config layout key log after :=
  run_preserves_while (fun holding elsewhere taken => holding.step elsewhere taken) elsewhere
    holding ran

-- This is of every moment of the hold, for the release that may come next.
theorem letter_sent_once {findings : List Finding} (valid : config.validate = .ok findings) :
    ∃ keymap layout, Keymap.compile config = .ok keymap ∧
      Layout.parse config.layout = .ok layout ∧
      ∀ (earlier during : List Event) (before after : State) (key : Key)
          (modifier : Option Modifier) (clock : Clock),
        run keymap .start earlier = some before →
        keymap.answer key modifier before.vars =
          some (HomeRowRules.source (Keymap.siteOf config layout key)) →
        run keymap before (.press key modifier clock :: during) = some after →
        (∀ event ∈ during, ∀ clock, event ≠ .release key clock) →
        ∃ hold since, after.find? key = some hold ∧ after.sent = before.sent ++ since ∧
          letters key since + hold.taps.length ≤ 1 ∧
          ∀ clock, ∃ final, step keymap after (.release key clock) = some final ∧
            final.sent = before.sent ++ since ++ hold.taps := by
  obtain ⟨layout, sound, compiled⟩ := Keymap.compile_valid valid
  refine ⟨_, layout, compiled, sound.parsed, ?_⟩
  intro earlier during before after key modifier clock came own ran elsewhere
  obtain ⟨middle, pressed, ran⟩ := Option.bind_eq_some_iff.1 ran
  have holding : Holding config layout key before.sent middle := by
    cases step_exact.1 pressed with
    | press up => exact press_holding (run_guarded came) up own
  obtain ⟨hold, since, found, logged, bound⟩ := (run_holding elsewhere holding ran).bound
  refine ⟨hold, since, found, logged, bound, fun clock => ?_⟩
  refine ⟨after.release hold clock, step_exact.2 (.release found), ?_⟩
  rw [State.release, logged]

theorem letter_sent_by_first :
    ∃ hold since after, run Small.keymap .start
        [.press ⟨"a"⟩ none .busy, .press ⟨"k"⟩ none .busy, .release ⟨"k"⟩ .busy,
          .press ⟨"s"⟩ none .busy] = some after ∧
      after.find? ⟨"a"⟩ = some hold ∧ after.sent = since ∧
      letters ⟨"a"⟩ since + hold.taps.length ≤ 1 ∧ letters ⟨"a"⟩ since = 1 := by
  obtain ⟨keymap, layout, compiled, parsed, once⟩ := letter_sent_once Small.config_valid
  cases compiled.symm.trans Small.config_compiled
  cases parsed.symm.trans Small.config_sound.parsed
  obtain ⟨after, ran, sent⟩ : ∃ after, run Small.keymap .start
        [.press ⟨"a"⟩ none .busy, .press ⟨"k"⟩ none .busy, .release ⟨"k"⟩ .busy,
          .press ⟨"s"⟩ none .busy] = some after ∧ letters ⟨"a"⟩ after.sent = 1 :=
    ⟨_, rfl, by decide⟩
  obtain ⟨hold, since, found, logged, bound, _⟩ :=
    once [] [.press ⟨"k"⟩ none .busy, .release ⟨"k"⟩ .busy, .press ⟨"s"⟩ none .busy] .start after
      ⟨"a"⟩ none .busy rfl rfl ran (by simp)
  have all : after.sent = since := logged
  exact ⟨hold, since, after, ran, found, all, bound, all ▸ sent⟩

end Engine
end TapHold
