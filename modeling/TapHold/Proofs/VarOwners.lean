import TapHold.Proofs.ActionOrder
import TapHold.Proofs.KeymapShape
import TapHold.Proofs.SubsetOrder

namespace TapHold

-- The letter of the key is sent once, and by one of the actions in `front`.
structure Rule.SendsFirst (rule : Rule) (held : Key) (front : List Action) : Prop where
  rolls : rule.Rolls held
  once : rule.actions.count (.emit (.plain held)) = 1
  before : .emit (.plain held) ∈ front

def Action.Unmarks (key : Key) (action : Action) : Prop :=
  action = .setVar (.outputted key) (.int 0) ∨ action = .setOnRelease (.outputted key) (.int 0)

-- What there is to know of an action that writes the variable, in a rule for the key `own` and
-- behind the actions in `front`.
def Config.MayWrite (config : Config) (own : Key) (rule : Rule) (front : List Action)
    (action : Action) : StateVar → Prop
  | .held key | .heldReady key => rule.kind = .source ∧ key = own
  | .outputted key =>
    action.Unmarks key ∧ rule.kind = .source ∧ key = own ∨
      action = .setVar (.outputted key) (.int 1) ∧ rule.SendsFirst key front
  | .active name =>
    (rule.kind = .trigger ∨ rule.kind = .triggerRollover) ∧
      ∃ layer, (name, layer) ∈ config.layers.entries ∧ layer.trigger = own
  | .isTypingStreak => front = [] ∧ action = .setVar .isTypingStreak .streakActive
  | .streakExpiry =>
    front = [.setVar .isTypingStreak .streakActive] ∧
      action = .setVar .streakExpiry (.nowPlus config.timing.streakWindow)

theorem Config.triggered_entry {config : Config} {key : Key} {name : String} {layer : Layer}
    (triggers : config.layerTriggeredBy? key = some (name, layer)) :
    (name, layer) ∈ config.layers.entries ∧ layer.trigger = key :=
  ⟨List.mem_of_find?_eq_some triggers, by simpa using List.find?_some triggers⟩

namespace Site
variable {site : Site} {rule : Rule} {rest front back : List Action} {action : Action}
  {key : Key} {name : String} {var : StateVar}

theorem switch_written {other : String}
    (written : .active other ∈ (LayerRules.switch site name).filterMap Action.var?) :
    other = name := by
  simpa [LayerRules.switch, Action.var?] using written

namespace Follows
variable (follows : site.Follows rule rest)
include follows

theorem keeper (written : var ∈ rest.filterMap Action.var?)
    (flag : var = .held key ∨ var = .heldReady key) : rule.kind = .source ∧ key = site.key := by
  cases follows with
  | keeps kind =>
    refine ⟨kind, ?_⟩
    rcases flag with rfl | rfl <;> simpa [HomeRowRules.ownState, Action.var?] using written
  | sends _ | sendsBoth _ _ | switches _ _ | sendsAndSwitches _ _ _ =>
    rcases flag with rfl | rfl <;> simp [LayerRules.switch, Action.var?] at written

theorem switcher (written : .active name ∈ rest.filterMap Action.var?) :
    (rule.kind = .trigger ∨ rule.kind = .triggerRollover) ∧
      ∃ layer, (name, layer) ∈ site.config.layers.entries ∧ layer.trigger = site.key := by
  cases follows with
  | sends _ | sendsBoth _ _ | keeps _ => simp [HomeRowRules.ownState, Action.var?] at written
  | switches kind triggers =>
    cases switch_written written
    exact ⟨.inl kind, _, Config.triggered_entry triggers⟩
  | sendsAndSwitches kind _ triggers =>
    cases switch_written (List.mem_of_ne_of_mem StateVar.noConfusion written)
    exact ⟨.inr kind, _, Config.triggered_entry triggers⟩

theorem marker (member : action ∈ rest) (writes : action.var? = some (.outputted key)) :
    action.Unmarks key ∧ rule.kind = .source ∧ key = site.key ∨
      ∃ sent later, rest = sent ++ .setVar (.outputted key) (.int 1) :: later ∧
        action = .setVar (.outputted key) (.int 1) ∧ action ∉ sent ∧ action ∉ later ∧
        rule.Rolls key ∧ .emit (.plain key) ∈ sent ∧ rest.count (.emit (.plain key)) = 1 := by
  cases follows with
  | sends _ =>
    cases List.mem_singleton.1 member
    cases writes
  | switches _ _ =>
    simp only [LayerRules.switch, List.mem_cons, List.not_mem_nil, or_false] at member
    rcases member with rfl | rfl | rfl | rfl <;> cases writes
  | sendsBoth rolls other =>
    simp only [List.mem_cons, List.not_mem_nil, or_false] at member
    rcases member with rfl | rfl | rfl
    · cases writes
    · cases writes
    · cases writes
      refine .inr ⟨[_, _], [], rfl, rfl, by simp, by simp, rolls, by simp, ?_⟩
      simp [Stroke.plain, Ne.symm other]
  | sendsAndSwitches _ rolls _ =>
    simp only [LayerRules.switch, List.mem_cons, List.not_mem_nil, or_false] at member
    rcases member with rfl | rfl | rfl | rfl | rfl | rfl
    · cases writes
    · cases writes
      refine .inr ⟨[_], _, rfl, rfl, by simp, by simp [LayerRules.switch], rolls, by simp, ?_⟩
      simp [LayerRules.switch]
    · cases writes
    · cases writes
    · cases writes
    · cases writes
  | keeps kind =>
    simp only [HomeRowRules.ownState, List.mem_cons, List.not_mem_nil, or_false] at member
    rcases member with rfl | rfl | rfl | rfl | rfl | rfl | rfl | rfl <;> cases writes
    · exact .inl ⟨.inl rfl, kind, rfl⟩
    · exact .inl ⟨.inr rfl, kind, rfl⟩

end Follows

theorem head_writes {ms : Nat} (placed : Streak.updates ms ++ rest = front ++ action :: back)
    (spares : ∀ later ∈ rest, later.SparesWindow) :
    (action.var? = some .isTypingStreak →
      front = [] ∧ action = .setVar .isTypingStreak .streakActive) ∧
    (action.var? = some .streakExpiry → front = [.setVar .isTypingStreak .streakActive] ∧
      action = .setVar .streakExpiry (.nowPlus ms)) := by
  let typing : Action := .setVar .isTypingStreak .streakActive
  let expiry : Action := .setVar .streakExpiry (.nowPlus ms)
  constructor
  · intro writes
    have later : action ∉ expiry :: rest := by
      intro member
      rcases List.mem_cons.1 member with rfl | inside
      · cases writes
      · exact (spares action inside).1 writes
    have first : [] ++ typing :: expiry :: rest = front ++ action :: back := placed
    obtain ⟨empty, same, _⟩ := (List.append_cons_inj_of_notMem (by simp) later).1 first
    exact ⟨empty.symm, same.symm⟩
  · intro writes
    have earlier : action ∉ [typing] := by
      intro member
      rw [List.mem_singleton.1 member] at writes
      cases writes
    have later : action ∉ rest := fun inside => (spares action inside).2 writes
    have second : [typing] ++ expiry :: rest = front ++ action :: back := placed
    obtain ⟨alone, same, _⟩ := (List.append_cons_inj_of_notMem earlier later).1 second
    exact ⟨alone.symm, same.symm⟩

theorem Makes.mayWrite (made : site.Makes rule) (placed : rule.actions = front ++ action :: back)
    (writes : action.var? = some var) :
    site.config.MayWrite site.key rule front action var := by
  have member : action ∈ rule.actions := by simp [placed]
  rcases made.actions with ⟨_, silent⟩ | ⟨rest, same, follows⟩
  · rw [silent, List.mem_singleton] at member
    rw [member] at writes
    cases writes
  · have heads := head_writes (same.symm.trans placed) follows.spares
    -- the actions of the head write nothing but the window
    have lasting (other : var ≠ .isTypingStreak ∧ var ≠ .streakExpiry) : action ∈ rest := by
      rw [same] at member
      refine (List.mem_append.1 member).resolve_left fun head => ?_
      rcases List.mem_cons.1 head with rfl | last
      · cases writes
        exact other.1 rfl
      · cases List.mem_singleton.1 last
        cases writes
        exact other.2 rfl
    have written (other : var ≠ .isTypingStreak ∧ var ≠ .streakExpiry) :
        var ∈ rest.filterMap Action.var? := List.mem_filterMap.2 ⟨action, lasting other, writes⟩
    cases var with
    | isTypingStreak => exact heads.1 writes
    | streakExpiry => exact heads.2 writes
    | held key => exact follows.keeper (written (by simp)) (.inl rfl)
    | heldReady key => exact follows.keeper (written (by simp)) (.inr rfl)
    | active name => exact follows.switcher (written (by simp))
    | outputted key =>
      rcases follows.marker (lasting (by simp)) writes with own |
        ⟨sent, later, parts, sets, fresh, gone, rolls, before, once⟩
      · exact .inl own
      · have placed : (site.streak ++ sent) ++ .setVar (.outputted key) (.int 1) :: later =
            front ++ action :: back := by
          rw [List.append_assoc, ← parts, ← same, placed]
        have fresh : action ∉ site.streak ++ sent := by
          simp [sets ▸ fresh, sets, streak, Streak.updates]
        obtain ⟨ahead, _, _⟩ := (List.append_cons_inj_of_notMem fresh gone).1 placed
        refine .inr ⟨sets, rolls, ?_, ahead ▸ List.mem_append_right _ before⟩
        rw [same, List.count_append, once]
        simp [streak, Streak.updates]

end Site

-- What a rule may ask for. That the window is open is asked only by rules that open it anew.
inductive Site.Reads (site : Site) (rule : Rule) : StateVar → Prop where
  | typing (updates : .setVar .isTypingStreak .streakActive ∈ rule.actions) :
      Reads site rule .isTypingStreak
  | homeRow (member : held ∈ site.config.homeRow.keys)
      (flag : var = .held held ∨ var = .heldReady held ∨ var = .outputted held) :
      Reads site rule var
  | active (member : (name, layer) ∈ site.config.layers.entries) : Reads site rule (.active name)
  | parent (member : (child, layer) ∈ site.config.layers.entries)
      (above : layer.parent = some name) : Reads site rule (.active name)

namespace Site
variable {site : Site} {rule : Rule} {condition : Condition}

theorem opposite_homeRow {entry : Key × Modifier} (member : entry ∈ site.opposite) :
    entry.1 ∈ site.config.homeRow.keys :=
  List.mem_map_of_mem (List.mem_filter.1 (List.mem_filter.1 member).1).1

theorem sameHand_homeRow {held : Key} (member : held ∈ site.sameHand) :
    held ∈ site.config.homeRow.keys := by
  obtain ⟨entry, inside, rfl⟩ := List.mem_map.1 member
  exact List.mem_map_of_mem (List.mem_filter.1 (List.mem_filter.1 inside).1).1

theorem gate_reads {name : String} {layer : Layer}
    (member : (name, layer) ∈ site.config.layers.entries)
    (asked : condition ∈ LayerRules.gate layer) : site.Reads rule condition.var := by
  unfold LayerRules.gate at asked
  cases above : layer.parent with
  | none => simp [above] at asked
  | some parent =>
    obtain rfl : condition = LayerRules.isActive parent := by simpa [above] using asked
    exact .parent member above

theorem Makes.reads (made : site.Makes rule) (asked : condition ∈ rule.conditions) :
    site.Reads rule condition.var := by
  cases made with
  | triggerRollover triggers member =>
    rcases List.mem_append.1 asked with gate | own
    · exact gate_reads (Config.triggered_entry triggers).1 gate
    · refine .homeRow member ?_
      simp only [List.mem_cons, List.not_mem_nil, or_false] at own
      rcases own with rfl | rfl | rfl <;> simp
  | trigger triggers => exact gate_reads (Config.triggered_entry triggers).1 asked
  | @layerBinding name layer stroke member sent =>
    rcases List.mem_cons.1 asked with rfl | above
    · exact .active member
    · cases handoff : layer.handoff with
      | true => simp [handoff] at above
      | false => exact gate_reads member (by simpa [handoff] using above)
  | layerSwallow member _ =>
    cases List.mem_singleton.1 asked
    exact .active member
  | activation member =>
    rcases List.mem_cons.1 asked with rfl | chord
    · exact .typing (by simp [HomeRowRules.activation, streak, Streak.updates])
    · obtain ⟨entry, inside, ready⟩ := List.mem_flatMap.1 chord
      refine .homeRow (opposite_homeRow ((Subsets.upTo_sublist member).subset inside)) ?_
      simp only [HomeRowRules.ready, List.mem_cons, List.not_mem_nil, or_false] at ready
      rcases ready with rfl | rfl <;> simp
  | rolls member =>
    refine .homeRow (opposite_homeRow member) ?_
    simp only [HomeRowRules.typeBoth, List.mem_cons, List.not_mem_nil, or_false] at asked
    rcases asked with rfl | rfl | rfl <;> simp
  | rollsBeside member =>
    refine .homeRow (sameHand_homeRow member) ?_
    simp only [HomeRowRules.typeBoth, List.mem_cons, List.not_mem_nil, or_false] at asked
    rcases asked with rfl | rfl <;> simp
  | rolled member =>
    refine .homeRow (opposite_homeRow member) ?_
    simp only [HomeRowRules.typeOne, List.mem_cons, List.not_mem_nil, or_false] at asked
    rcases asked with rfl | rfl <;> simp
  | rolledBeside member =>
    refine .homeRow (sameHand_homeRow member) ?_
    simp only [HomeRowRules.typeOne, List.mem_cons, List.not_mem_nil, or_false] at asked
    rcases asked with rfl | rfl <;> simp
  | modifierPassthrough _ | source _ | passthrough _ => cases asked

end Site

namespace Keymap
variable {config : Config} {layout : Layout} {key : Key} {rule : Rule} {var : StateVar}

def Written (keymap : Keymap) (var : StateVar) : Prop :=
  ∃ writer ∈ keymap.rules, ∃ action ∈ writer.actions, action.var? = some var

theorem mem_rules : rule ∈ (ofLayout config layout).rules ↔
    ∃ key ∈ keysOf config layout, rule ∈ Pipeline.standard.rules (siteOf config layout key) := by
  simp [rules, ofLayout, setOf]

section
variable (sound : config.SoundOn layout)
include sound

theorem homeRow_written (member : key ∈ config.homeRow.keys)
    (flag : var = .held key ∨ var = .heldReady key ∨ var = .outputted key) :
    (ofLayout config layout).Written var := by
  let site := siteOf config layout key
  have placed : key ∈ keysOf config layout :=
    mem_keysOf.2 (.inl (Layout.mem_all.2 (sound.checks.placed key member)))
  have homeRow : site.isHomeRow = true := decide_eq_true member
  have own : HomeRowRules.source site ∈ Pipeline.standard.rules site := by
    rw [LayerRules.standard_rules]
    apply List.mem_append_left
    exact List.mem_append_right _ (List.mem_of_getLast? (site.source_last homeRow))
  refine ⟨HomeRowRules.source site, mem_rules.2 ⟨key, placed, own⟩, ?_⟩
  rcases flag with rfl | rfl | rfl
  · exact ⟨.setVar (.held key) (.int 1), by simp [HomeRowRules.source, site, siteOf], rfl⟩
  · exact ⟨.setVar (.heldReady key) (.int 0), by simp [HomeRowRules.source, site, siteOf], rfl⟩
  · exact ⟨.setVar (.outputted key) (.int 0), by simp [HomeRowRules.source, site, siteOf], rfl⟩

theorem active_written {name : String} (known : name ∈ config.layers.keys) :
    (ofLayout config layout).Written (.active name) := by
  obtain ⟨⟨name, layer⟩, member, rfl⟩ := List.mem_map.1 known
  let site := siteOf config layout layer.trigger
  have placed : layer.trigger ∈ keysOf config layout :=
    mem_keysOf.2 (.inr (List.mem_map_of_mem (List.mem_map_of_mem member)))
  have triggers : site.config.layerTriggeredBy? site.key = some (name, layer) :=
    sound.layerTriggeredBy_entry member
  have own : LayerRules.trigger site name layer ∈ Pipeline.standard.rules site := by
    rw [LayerRules.standard_rules, LayerRules.rules, triggers]
    apply List.mem_append_left
    apply List.mem_append_left
    exact List.mem_append_right _ (List.mem_singleton_self _)
  refine ⟨_, mem_rules.2 ⟨layer.trigger, placed, own⟩, .setVar (.active name) (.int 0), ?_, rfl⟩
  simp [LayerRules.trigger, LayerRules.switch]

theorem reads_written (member : rule ∈ (ofLayout config layout).rules) {condition : Condition}
    (asked : condition ∈ rule.conditions) : (ofLayout config layout).Written condition.var := by
  obtain ⟨key, placed, made⟩ := mem_rules.1 member
  obtain ⟨var, value⟩ := condition
  cases (Pipeline.makes_rules made).reads asked with
  | typing updates => exact ⟨rule, member, _, updates, rfl⟩
  | homeRow known flag => exact homeRow_written sound known flag
  | active known => exact active_written sound (Dict.entry_key known)
  | parent child above => exact active_written sound (sound.parent_known child above)

end

end Keymap

theorem variable_owners {config : Config} {findings : List Finding}
    (valid : config.validate = .ok findings) :
    ∃ keymap, Keymap.compile config = .ok keymap ∧
      (∀ set ∈ keymap.sets, ∀ rule ∈ set.rules, ∀ front action back var,
        rule.actions = front ++ action :: back → action.var? = some var →
          config.MayWrite set.key rule front action var) ∧
      ∀ reader ∈ keymap.rules, ∀ condition ∈ reader.conditions,
        ∃ writer ∈ keymap.rules, ∃ action ∈ writer.actions, action.var? = some condition.var := by
  obtain ⟨layout, sound, compiled⟩ := Keymap.compile_valid valid
  refine ⟨_, compiled, ?_, ?_⟩
  · intro set member rule inside front action back var placed writes
    obtain ⟨key, _, rfl⟩ := Keymap.set_ofLayout member
    exact (Pipeline.makes_rules inside).mayWrite placed writes
  · intro reader member condition asked
    exact Keymap.reads_written sound member asked

theorem thumb_marks_letter :
    let rule := LayerRules.rollover (Keymap.siteOf Small.config Small.layout ⟨"space"⟩) "nav"
      Small.nav ⟨"a"⟩
    ∃ keymap, Keymap.compile Small.config = .ok keymap ∧
      rule.SendsFirst ⟨"a"⟩ (rule.actions.take 3) ∧
      ∃ writer ∈ keymap.rules, ∃ action ∈ writer.actions, action.var? = some (.active "nav") := by
  intro rule
  obtain ⟨keymap, compiled, owned, written⟩ := variable_owners Small.config_valid
  cases compiled.symm.trans Small.config_compiled
  refine ⟨_, compiled, ?_, ?_⟩
  · have ruled : Small.keymap.rulesFor? ⟨"space"⟩ =
        some (Keymap.setOf .standard Small.config Small.layout ⟨"space"⟩) := rfl
    have inside : rule ∈ (Keymap.setOf .standard Small.config Small.layout ⟨"space"⟩).rules := by
      decide
    have placed : rule.actions = rule.actions.take 3 ++
        .setVar (.outputted ⟨"a"⟩) (.int 1) :: rule.actions.drop 4 := by decide
    rcases owned _ (List.mem_of_find?_eq_some ruled) rule inside _ _ _ _ placed rfl with
      ⟨reset | reset, _⟩ | ⟨_, sends⟩
    · cases reset
    · cases reset
    · exact sends
  · have gated :
        LayerRules.trigger (Keymap.siteOf Small.config Small.layout ⟨"j"⟩) "sub" Small.sub ∈
          Small.keymap.rules := by decide
    exact written _ gated ⟨.active "nav", 1⟩ (by decide)

end TapHold
