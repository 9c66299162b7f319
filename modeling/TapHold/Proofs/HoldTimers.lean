import TapHold.Proofs.ActionOrder

namespace TapHold
open HomeRowRules LayerRules

-- A timer in its rule, with the actions before it and those after it.
structure Site.Timed (site : Site) (rule : Rule) (before : List Action) (var : StateVar)
    (value : Expr) (threshold : Nat) (after : List Action) : Prop where
  sets : value = .int 1
  target : (var = .heldReady rule.key ∧ rule.kind = .source ∧
      threshold = site.config.timing.homeRowHold) ∨
    ∃ name layer, site.config.layerTriggeredBy? rule.key = some (name, layer) ∧
      var = .active name ∧ threshold = site.config.timing.layerHold
  cleared : .setVar var (.int 0) ∈ before
  released : .setOnRelease var (.int 0) ∈ after
  written_once : rule.writes.filter (·.1 = var) = [(var, .int 0)]

section
variable {site : Site} {rule : Rule} {before after : List Action} {var : StateVar} {value : Expr}
  {threshold : Nat}

theorem Rule.timer_member
    (placed : rule.actions = before ++ .setWhenHeld var value threshold :: after) :
    .setWhenHeld var value threshold ∈ rule.actions := by
  rw [placed]
  exact List.mem_append_right _ (List.mem_cons_self ..)

-- Where a rule has a single timer, there is one way to part its actions at a timer.
theorem Rule.timer_placed {left right : List Action} {own : StateVar} {one : Expr} {hold : Nat}
    (actions : rule.actions = left ++ .setWhenHeld own one hold :: right)
    (noneBefore : ∀ action ∈ left, action.timer? = none)
    (noneAfter : ∀ action ∈ right, action.timer? = none)
    (placed : rule.actions = before ++ .setWhenHeld var value threshold :: after) :
    before = left ∧ var = own ∧ value = one ∧ threshold = hold ∧ after = right := by
  have absent {part : List Action} (none : ∀ action ∈ part, action.timer? = none) :
      .setWhenHeld var value threshold ∉ part := fun member => nomatch none _ member
  have parts := (List.append_cons_inj_of_notMem (absent noneBefore) (absent noneAfter)).1
    (actions.symm.trans placed)
  obtain ⟨rfl, same, rfl⟩ := parts
  cases same
  exact ⟨rfl, rfl, rfl, rfl, rfl⟩

theorem LayerRules.switch_timed {name : String} {layer : Layer} {front : List Action}
    (about : rule.key = site.key)
    (triggers : site.config.layerTriggeredBy? site.key = some (name, layer))
    (actions : rule.actions = front ++ switch site name)
    (untimed : ∀ action ∈ front, action.timer? = none)
    (unwritten : ∀ action ∈ front, ∀ write ∈ action.write?, write.1 ≠ .active name)
    (placed : rule.actions = before ++ .setWhenHeld var value threshold :: after) :
    site.Timed rule before var value threshold after := by
  have clears : rule.actions = (front ++ [.setVar (.active name) (.int 0)]) ++
      .setWhenHeld (.active name) (.int 1) site.config.timing.layerHold ::
        [.setOnRelease (.active name) (.int 0), .emitIfAlone (.plain site.key)] := by
    rw [actions, switch, List.append_assoc]
    rfl
  have noneBefore : ∀ action ∈ front ++ [.setVar (.active name) (.int 0)],
      action.timer? = none := by
    intro action member
    rcases List.mem_append.1 member with inside | last
    · exact untimed action inside
    · cases List.mem_singleton.1 last
      rfl
  have unwritten : (front.filterMap Action.write?).filter (·.1 = .active name) = [] := by
    rw [List.filter_eq_nil_iff]
    intro write member
    obtain ⟨action, inside, written⟩ := List.mem_filterMap.1 member
    simpa using unwritten action inside write written
  obtain ⟨rfl, rfl, rfl, rfl, rfl⟩ :=
    Rule.timer_placed clears noneBefore (by simp [Action.timer?]) placed
  refine ⟨rfl, .inr ⟨name, layer, by rw [about, triggers], rfl, rfl⟩, by simp, by simp, ?_⟩
  rw [Rule.writes, actions, List.filterMap_append, List.filter_append, unwritten]
  simp [switch, Action.write?]

theorem HomeRowRules.ownState_timed (about : rule.key = site.key) (kind : rule.kind = .source)
    (actions : rule.actions = site.streak ++ ownState site)
    (placed : rule.actions = before ++ .setWhenHeld var value threshold :: after) :
    site.Timed rule before var value threshold after := by
  have clears : rule.actions = (site.streak ++ [.setVar (.held site.key) (.int 1),
      .setVar (.heldReady site.key) (.int 0), .setVar (.outputted site.key) (.int 0)]) ++
        .setWhenHeld (.heldReady site.key) (.int 1) site.config.timing.homeRowHold ::
          [.setOnRelease (.held site.key) (.int 0), .setOnRelease (.heldReady site.key) (.int 0),
            .setOnRelease (.outputted site.key) (.int 0), .emitIfAlone (.plain site.key)] := by
    rw [actions, ownState, List.append_assoc]
    rfl
  obtain ⟨rfl, rfl, rfl, rfl, rfl⟩ := Rule.timer_placed clears
    (by simp [Site.streak, Streak.updates, Action.timer?]) (by simp [Action.timer?]) placed
  refine ⟨rfl, .inl ⟨by rw [about], kind, rfl⟩, by simp, by simp, ?_⟩
  rw [Rule.writes, actions]
  simp [Site.streak, Streak.updates, ownState, Action.write?]

theorem Site.Makes.timed (made : site.Makes rule)
    (placed : rule.actions = before ++ .setWhenHeld var value threshold :: after) :
    site.Timed rule before var value threshold after := by
  have member := Rule.timer_member placed
  rcases made.actions with ⟨_, silent⟩ | ⟨rest, same, follows⟩
  · simp [silent] at member
  · cases follows with
    | sends _ | sendsBoth _ _ => simp [same, Site.streak, Streak.updates] at member
    | switches _ triggers =>
      refine switch_timed made.about triggers same ?_ ?_ placed
      · simp [Site.streak, Streak.updates, Action.timer?]
      · simp [Site.streak, Streak.updates, Action.write?]
    | sendsAndSwitches _ _ triggers =>
      rw [List.append_cons, List.append_cons] at same
      refine switch_timed made.about triggers same ?_ ?_ placed
      · simp [Site.streak, Streak.updates, Action.timer?]
      · simp [Site.streak, Streak.updates, Action.write?]
    | keeps kind => exact ownState_timed made.about kind same placed

theorem Rule.leavesNothing (released : ∀ before var value threshold after,
      rule.actions = before ++ .setWhenHeld var value threshold :: after →
        .setOnRelease var (.int 0) ∈ after) : rule.leavesHoldSet = false := by
  unfold leavesHoldSet
  rw [List.any_eq_false]
  intro action member
  split
  · rename_i var value threshold
    obtain ⟨before, after, placed⟩ := List.append_of_mem member
    have reset := released before var value threshold after placed
    have inside : .setOnRelease var (.int 0) ∈ rule.actions := by
      rw [placed]
      exact List.mem_append_right _ (List.mem_cons_of_mem _ reset)
    simp only [Bool.not_eq_true, Bool.not_eq_false', List.any_eq_true]
    exact ⟨_, inside, by simp⟩
  · decide

end

theorem Keymap.compiled_rules {passes : Pipeline} {config : Config} {keymap : Keymap} {count : Nat}
    (compiled : compileWith passes config = .ok (keymap, count)) {rule : Rule}
    (member : rule ∈ keymap.rules) :
    ∃ layout key, rule ∈ passes.rules (siteOf config layout key) := by
  obtain ⟨⟨layout, findings⟩, _, built⟩ := bind_ok.1 compiled
  obtain ⟨_, _, same⟩ := bind_ok.1 built
  cases same
  obtain ⟨set, inside, ruled⟩ := List.mem_flatMap.1 member
  obtain ⟨key, _, rfl⟩ := List.mem_map.1 inside
  exact ⟨layout, key, ruled⟩

theorem hold_timers_released :
    (∀ (passes : Pipeline) (site : Site), ∀ rule ∈ passes.rules site,
      (∀ before var value threshold after,
        rule.actions = before ++ .setWhenHeld var value threshold :: after →
          site.Timed rule before var value threshold after) ∧
      rule.leavesHoldSet = false) ∧
    ∀ passes config keymap count, Keymap.compileWith passes config = .ok (keymap, count) →
      ∀ rule ∈ keymap.rules, rule.leavesHoldSet = false := by
  have safe {passes : Pipeline} {site : Site} {rule : Rule} (member : rule ∈ passes.rules site) :
      rule.leavesHoldSet = false :=
    Rule.leavesNothing fun _ _ _ _ _ placed => ((Pipeline.makes_rules member).timed placed).released
  constructor
  · intro passes site rule member
    exact ⟨fun _ _ _ _ _ => (Pipeline.makes_rules member).timed, safe member⟩
  · intro passes config keymap count compiled rule member
    obtain ⟨layout, key, made⟩ := Keymap.compiled_rules compiled member
    exact safe made

theorem index_timer_released :
    let site := Keymap.siteOf Small.config Small.layout ⟨"j"⟩
    let rule := LayerRules.rollover site "sub" Small.sub ⟨"a"⟩
    (∃ before after, rule.actions = before ++ .setWhenHeld (.active "sub") (.int 1) 120 :: after ∧
      site.Timed rule before (.active "sub") (.int 1) 120 after) ∧
    ∀ rule ∈ Small.keymap.rules, rule.leavesHoldSet = false := by
  intro site rule
  have member : rule ∈ Pipeline.standard.rules site := by decide
  have placed : rule.actions = rule.actions.take 5 ++
      .setWhenHeld (.active "sub") (.int 1) 120 :: rule.actions.drop 6 := by decide
  constructor
  · refine ⟨_, _, placed, ?_⟩
    apply (hold_timers_released.1 _ site rule member).1
    exact placed
  · apply hold_timers_released.2 .standard Small.config
    exact Keymap.compileWith_sound .standard Small.config_sound

end TapHold
