import TapHold.Proofs.DictChanges
import TapHold.Proofs.KeymapShape
import TapHold.Proofs.LargestSubset

namespace TapHold

namespace Subsets
variable {α : Type u} (pass : α → Bool)

-- The subsets of the items that pass are the subsets in which all items pass, and they come in the
-- same order. The induction is that of `ofSize`: an item that fails spoils each subset it is in.
theorem ofSize_filter (size : Nat) (items : List α) :
    ofSize size (items.filter pass) =
      (ofSize size items).filter fun subset => subset.all pass := by
  induction items generalizing size with
  | nil => cases size <;> rfl
  | cons item rest ih =>
    cases size with
    | zero =>
      rw [ofSize, ofSize]
      rfl
    | succ size =>
      rw [ofSize, List.filter_append, List.filter_map]
      cases passes : pass item with
      | true =>
        rw [List.filter_cons_of_pos passes, ofSize, pass_cons pass passes, ih, ih]
      | false =>
        have spoiled : (ofSize size rest).filter
            ((fun subset => subset.all pass) ∘ fun subset => item :: subset) = [] := by
          rw [List.filter_eq_nil_iff]
          intro subset _
          simp [passes]
        rw [List.filter_cons_of_neg (by simp [passes]), spoiled, ih, List.map_nil, List.nil_append]

theorem upTo_filter (size : Nat) (items : List α) :
    upTo size (items.filter pass) = (upTo size items).filter fun subset => subset.all pass := by
  induction size with
  | zero => rfl
  | succ size ih => rw [upTo, upTo, List.filter_append, ofSize_filter, ih]

theorem ofSize_beyond {size : Nat} {items : List α} (beyond : items.length < size) :
    ofSize size items = [] := by
  induction items generalizing size with
  | nil =>
    cases size with
    | zero => cases beyond
    | succ size => rfl
  | cons item rest ih =>
    cases size with
    | zero => cases beyond
    | succ size =>
      have within : rest.length < size := by simpa using beyond
      rw [ofSize, ih within, ih (by omega)]
      rfl

theorem upTo_beyond {size : Nat} {items : List α} (bounded : items.length ≤ size) :
    upTo size items = largestFirst items := by
  induction size with
  | zero =>
    rw [largestFirst, Nat.le_zero.1 bounded]
  | succ size ih =>
    by_cases full : items.length = size + 1
    · rw [largestFirst, full]
    · have within : items.length ≤ size := by omega
      rw [upTo, ofSize_beyond (by omega), ih within, List.nil_append]

theorem largestFirst_filter (items : List α) : largestFirst (items.filter pass) =
    (largestFirst items).filter fun subset => subset.all pass := by
  rw [← upTo_beyond (List.length_filter_le pass items), upTo_filter]
  rfl

end Subsets

def StateVar.homeRowKey? : StateVar → Option Key
  | held key | heldReady key | outputted key => some key
  | active _ | isTypingStreak | streakExpiry => none

namespace Rule

def Mentions (held : Key) (rule : Rule) : Prop :=
  .held held ∈ rule.vars ∨ .heldReady held ∈ rule.vars ∨ .outputted held ∈ rule.vars

instance (held : Key) (rule : Rule) : Decidable (rule.Mentions held) :=
  inferInstanceAs (Decidable (_ ∨ _))

-- The rule stands among those of the key only because of the home-row key.
def DueTo (held key : Key) (rule : Rule) : Prop :=
  rule.Mentions held ∨ key = held ∧ rule.kind = .modifierPassthrough

instance (held key : Key) (rule : Rule) : Decidable (rule.DueTo held key) :=
  inferInstanceAs (Decidable (_ ∨ _))

def homeRowKeys (rule : Rule) : List Key := rule.vars.filterMap StateVar.homeRowKey?

theorem mentions_iff {held : Key} {rule : Rule} :
    rule.Mentions held ↔ held ∈ rule.homeRowKeys := by
  unfold Mentions homeRowKeys
  rw [List.mem_filterMap]
  constructor
  · rintro (down | ready | sent)
    · exact ⟨_, down, rfl⟩
    · exact ⟨_, ready, rfl⟩
    · exact ⟨_, sent, rfl⟩
  · rintro ⟨var, member, own⟩
    cases var with
    | held key => cases own; exact .inl member
    | heldReady key => cases own; exact .inr (.inl member)
    | outputted key => cases own; exact .inr (.inr member)
    | active layer => cases own
    | isTypingStreak => cases own
    | streakExpiry => cases own

theorem due_iff {held key : Key} {rule : Rule} (other : rule.kind ≠ .modifierPassthrough) :
    rule.DueTo held key ↔ held ∈ rule.homeRowKeys := by
  rw [DueTo, mentions_iff]
  simp [other]

end Rule

namespace Rule

def spare (held key : Key) (rules : List Rule) : List Rule :=
  rules.filter fun rule => ¬ rule.DueTo held key

-- The rule is about no home-row key, or about exactly one.
def Neutral (rule : Rule) : Prop := rule.kind ≠ .modifierPassthrough ∧ rule.homeRowKeys = []

def About (other : Key) (rule : Rule) : Prop :=
  rule.kind ≠ .modifierPassthrough ∧ ∃ more, rule.homeRowKeys = List.replicate (more + 1) other

section
variable {held key other : Key} {rules : List Rule}

theorem spare_append (front back : List Rule) :
    spare held key (front ++ back) = spare held key front ++ spare held key back :=
  List.filter_append ..

theorem spare_neutral (neutral : ∀ rule ∈ rules, rule.Neutral) : spare held key rules = rules := by
  unfold spare
  rw [List.filter_eq_self]
  intro rule member
  simp [due_iff (neutral rule member).1, (neutral rule member).2]

theorem About.due {rule : Rule} (about : rule.About other) :
    rule.DueTo held key ↔ other = held := by
  obtain ⟨kind, more, keys⟩ := about
  rw [due_iff kind, keys, List.mem_replicate]
  simp [eq_comm]

theorem spare_about (about : ∀ rule ∈ rules, rule.About other) :
    spare held key rules = if other ≠ held then rules else [] := by
  unfold spare
  split
  · rename_i differs
    rw [List.filter_eq_self]
    intro rule member
    simpa [(about rule member).due] using differs
  · rename_i same
    rw [List.filter_eq_nil_iff]
    intro rule member
    simpa [(about rule member).due] using same

theorem spare_flatMap {made : α → List Rule} (of : α → Key)
    (about : ∀ item, ∀ rule ∈ made item, rule.About (of item)) (items : List α) :
    spare held key (items.flatMap made) =
      (items.filter fun item => of item ≠ held).flatMap made := by
  induction items with
  | nil => rfl
  | cons item rest ih =>
    rw [List.flatMap_cons, spare_append, spare_about (about item), ih]
    by_cases same : of item = held <;> simp [same]

end
end Rule

def Config.withoutHomeRow (config : Config) (held : Key) : Config :=
  { config with homeRow := config.homeRow.erase held }

def Site.withoutHomeRow (site : Site) (held : Key) : Site :=
  { site with config := site.config.withoutHomeRow held }

namespace Site
variable (site : Site) (held : Key)

theorem without_others : (site.withoutHomeRow held).others =
    site.others.filter fun entry => entry.1 ≠ held := by
  unfold others withoutHomeRow Config.withoutHomeRow Dict.erase
  rw [Dict.keep_entries, List.filter_filter, List.filter_filter]
  refine List.filter_congr fun entry _ => ?_
  exact Bool.and_comm ..

theorem without_opposite : (site.withoutHomeRow held).opposite =
    site.opposite.filter fun entry => entry.1 ≠ held := by
  unfold opposite
  rw [without_others, List.filter_filter, List.filter_filter]
  refine List.filter_congr fun entry _ => ?_
  exact Bool.and_comm ..

theorem without_sameHand : (site.withoutHomeRow held).sameHand =
    site.sameHand.filter fun other => other ≠ held := by
  unfold sameHand
  rw [without_others, List.filter_filter, List.filter_map, List.filter_filter]
  refine congrArg _ (List.filter_congr fun entry _ => ?_)
  exact Bool.and_comm ..

theorem without_isHomeRow : (site.withoutHomeRow held).isHomeRow =
    (site.isHomeRow && site.key ≠ held) := by
  unfold isHomeRow withoutHomeRow Config.withoutHomeRow Config.isHomeRow Dict.contains Dict.erase
  rw [Dict.keep_keys]
  simp [List.mem_filter]

end Site

namespace HomeRowRules
variable {site : Site} {held : Key}

theorem activation_keys (chord : List (Key × Modifier)) :
    (activation site chord).homeRowKeys = chord.flatMap fun entry => [entry.1, entry.1] := by
  induction chord with
  | nil => rfl
  | cons entry rest ih =>
    rw [List.flatMap_cons, ← ih]
    rfl

theorem activation_due (chord : List (Key × Modifier)) :
    (activation site chord).DueTo held site.key ↔ ∃ entry ∈ chord, entry.1 = held := by
  rw [Rule.due_iff (by simp [activation]), activation_keys, List.mem_flatMap]
  refine exists_congr fun entry => and_congr_right fun _ => ?_
  simp [eq_comm]

theorem spare_activations : Rule.spare held site.key (activations site) =
    activations (site.withoutHomeRow held) := by
  unfold activations Rule.spare
  rw [Site.without_opposite, Subsets.largestFirst_filter, List.filter_map]
  refine congrArg _ (List.filter_congr fun chord _ => ?_)
  rw [Bool.eq_iff_iff, Function.comp_apply, decide_eq_true_iff, List.all_eq_true, activation_due]
  simp only [not_exists, not_and, decide_eq_true_iff, ne_eq]

theorem rollover_about (other : Key) : ∀ rule ∈ rollover site other, rule.About other := by
  intro rule member
  simp only [rollover, List.mem_cons, List.not_mem_nil, or_false] at member
  rcases member with rfl | rfl
  · exact ⟨nofun, 3, rfl⟩
  · exact ⟨nofun, 1, rfl⟩

theorem sameHandRollover_about (other : Key) :
    ∀ rule ∈ sameHandRollover site other, rule.About other := by
  intro rule member
  simp only [sameHandRollover, List.mem_cons, List.not_mem_nil, or_false] at member
  rcases member with rfl | rfl
  · exact ⟨nofun, 2, rfl⟩
  · exact ⟨nofun, 1, rfl⟩

theorem source_about : (source site).About site.key := ⟨nofun, 6, rfl⟩

theorem spare_opposite :
    Rule.spare held site.key (site.opposite.flatMap fun entry => rollover site entry.1) =
      (site.withoutHomeRow held).opposite.flatMap fun entry =>
        rollover (site.withoutHomeRow held) entry.1 := by
  rw [Site.without_opposite]
  exact Rule.spare_flatMap Prod.fst (fun entry => rollover_about entry.1) site.opposite

theorem spare_sameHand :
    Rule.spare held site.key (site.sameHand.flatMap (sameHandRollover site)) =
      (site.withoutHomeRow held).sameHand.flatMap
        (sameHandRollover (site.withoutHomeRow held)) := by
  rw [Site.without_sameHand]
  exact Rule.spare_flatMap id sameHandRollover_about site.sameHand

theorem modifierPassthrough_due (m : Modifier) :
    (modifierPassthrough site m).DueTo held site.key ↔ site.key = held := by
  have silent : (modifierPassthrough site m).homeRowKeys = [] := rfl
  rw [Rule.DueTo, Rule.mentions_iff, silent]
  simp [modifierPassthrough]

theorem spare_physical : Rule.spare held site.key
      (if site.isHomeRow then Modifier.all.map (modifierPassthrough site) else []) =
    if (site.withoutHomeRow held).isHomeRow then
      Modifier.all.map (modifierPassthrough (site.withoutHomeRow held)) else [] := by
  rw [Site.without_isHomeRow]
  unfold Rule.spare
  cases site.isHomeRow with
  | false => rfl
  | true =>
    by_cases own : site.key = held
    · rw [if_pos rfl, if_neg (by simp [own]), List.filter_eq_nil_iff]
      intro rule member
      obtain ⟨m, _, rfl⟩ := List.mem_map.1 member
      simpa [modifierPassthrough_due] using own
    · rw [if_pos rfl, if_pos (by simp [own])]
      refine List.filter_eq_self.2 fun rule member => ?_
      obtain ⟨m, _, rfl⟩ := List.mem_map.1 member
      simpa [modifierPassthrough_due] using own

theorem spare_source : Rule.spare held site.key (if site.isHomeRow then [source site] else []) =
    if (site.withoutHomeRow held).isHomeRow then [source (site.withoutHomeRow held)] else [] := by
  rw [Site.without_isHomeRow]
  cases site.isHomeRow with
  | false => rfl
  | true =>
    have about : ∀ rule ∈ [source site], rule.About site.key := by simpa using source_about
    rw [if_pos rfl, Rule.spare_about about, Bool.true_and]
    simp only [decide_eq_true_iff]
    rfl

theorem spare_rules : Rule.spare held site.key (rules site) = rules (site.withoutHomeRow held) := by
  unfold rules
  rw [Rule.spare_append, Rule.spare_append, Rule.spare_append, Rule.spare_append,
    spare_activations, spare_physical, spare_source, spare_sameHand]
  exact congrArg (fun front => _ ++ front ++ _ ++ _ ++ _) spare_opposite

end HomeRowRules

namespace LayerRules
variable {site : Site} {held : Key}

theorem gate_keys (layer : Layer) :
    ((gate layer).map (·.var)).filterMap StateVar.homeRowKey? = [] := by
  unfold gate
  cases layer.parent <;> rfl

theorem needs_keys (name : String) (layer : Layer) :
    ((needs name layer).map (·.var)).filterMap StateVar.homeRowKey? = [] := by
  unfold needs
  cases layer.handoff with
  | true => rfl
  | false => exact gate_keys layer

theorem rollover_about (name : String) (layer : Layer) (other : Key) :
    (rollover site name layer other).About other := by
  refine ⟨nofun, 3, ?_⟩
  unfold Rule.homeRowKeys Rule.vars rollover
  rw [List.map_append, List.append_assoc, List.filterMap_append, gate_keys]
  rfl

theorem trigger_neutral (name : String) (layer : Layer) : (trigger site name layer).Neutral := by
  refine ⟨nofun, ?_⟩
  unfold Rule.homeRowKeys Rule.vars trigger
  rw [List.filterMap_append, gate_keys]
  rfl

theorem bound_neutral (name : String) (layer : Layer) (stroke : Stroke) :
    (bound site name layer stroke).Neutral := by
  refine ⟨nofun, ?_⟩
  unfold Rule.homeRowKeys Rule.vars bound
  rw [List.filterMap_append, needs_keys]
  rfl

theorem swallowed_neutral (name : String) : (swallowed site name).Neutral := ⟨nofun, rfl⟩

theorem spare_triggerRules (name : String) (layer : Layer) :
    Rule.spare held site.key (triggerRules site name layer) =
      triggerRules (site.withoutHomeRow held) name layer := by
  have last : Rule.spare held site.key [trigger site name layer] = [trigger site name layer] :=
    Rule.spare_neutral (by simpa using trigger_neutral name layer)
  have rolls : Rule.spare held site.key
      (site.config.homeRow.keys.map (rollover site name layer)) =
        (site.withoutHomeRow held).config.homeRow.keys.map (rollover site name layer) := by
    unfold Rule.spare Site.withoutHomeRow Config.withoutHomeRow Dict.erase
    rw [Dict.keep_keys, List.filter_map]
    refine congrArg _ (List.filter_congr fun other _ => ?_)
    simp [(rollover_about name layer other).due]
  rw [triggerRules, Rule.spare_append, rolls, last]
  rfl

theorem bindingRules_neutral : ∀ rule ∈ bindingRules site, rule.Neutral := by
  intro rule member
  rcases List.mem_append.1 member with binding | swallow
  · obtain ⟨_, _, made⟩ := List.mem_filterMap.1 binding
    obtain ⟨_, _, rfl⟩ := Option.map_eq_some_iff.1 made
    exact bound_neutral _ _ _
  · obtain ⟨_, _, made⟩ := List.mem_filterMap.1 swallow
    obtain ⟨_, same⟩ := Option.ite_none_right_eq_some.1 made
    cases same
    exact swallowed_neutral _

theorem spare_rules : Rule.spare held site.key (rules site) = rules (site.withoutHomeRow held) := by
  have same : (site.withoutHomeRow held).config.layerTriggeredBy? (site.withoutHomeRow held).key =
      site.config.layerTriggeredBy? site.key := rfl
  unfold rules
  rw [same]
  cases site.config.layerTriggeredBy? site.key with
  | some entry => exact spare_triggerRules entry.1 entry.2
  | none => exact Rule.spare_neutral bindingRules_neutral

end LayerRules

namespace Pipeline

theorem passthrough_neutral (site : Site) : ∀ rule ∈ Pass.passthrough site, rule.Neutral := by
  intro rule member
  unfold Pass.passthrough at member
  split at member
  · cases member
  · cases List.mem_singleton.1 member
    exact ⟨nofun, rfl⟩

theorem spare_rules (site : Site) (held : Key) :
    Rule.spare held site.key (standard.rules site) = standard.rules (site.withoutHomeRow held) := by
  rw [LayerRules.standard_rules, LayerRules.standard_rules, Rule.spare_append, Rule.spare_append,
    LayerRules.spare_rules, HomeRowRules.spare_rules, Rule.spare_neutral (passthrough_neutral site)]
  rfl

end Pipeline

namespace Config
variable {config : Config} {layout : Layout}

theorem Faultless.withoutHomeRow (checks : config.Faultless layout) (held : Key) :
    (config.withoutHomeRow held).Faultless layout := by
  have fewer : (config.homeRow.erase held).keys = config.homeRow.keys.filter (· ≠ held) :=
    Dict.keep_keys
  refine ⟨?_, ?_, checks.named, checks.spelled, checks.known, ?_, checks.apart⟩
  · exact Nat.le_trans Dict.keep_size checks.few
  · intro key member
    unfold Config.withoutHomeRow at member
    rw [fewer] at member
    exact checks.placed key (List.mem_filter.1 member).1
  · intro name member
    rw [lineage_congr config (config.withoutHomeRow held) (fun _ => True) (fun _ _ => rfl)
      (fun _ _ _ _ => trivial) _ trivial]
    exact checks.climbs name member

theorem SoundOn.withoutHomeRow (sound : config.SoundOn layout) (held : Key) :
    (config.withoutHomeRow held).SoundOn layout :=
  ⟨sound.parsed, sound.timed, faultsOn_nil.2 (sound.checks.withoutHomeRow held)⟩

end Config

-- The keys stay the same, in the same order. Nothing is asked of the key that is taken out: where
-- it is no home-row key, no rule is due to it.
theorem home_row_key_removed {config : Config} {findings : List Finding}
    (valid : config.validate = .ok findings) (held : Key) :
    ∃ keymap smaller remaining, Keymap.compile config = .ok keymap ∧
      (config.withoutHomeRow held).validate = .ok remaining ∧
      Keymap.compile (config.withoutHomeRow held) = .ok smaller ∧
      smaller.sets.map RuleSet.key = keymap.sets.map RuleSet.key ∧
      ∀ (key : Key) (set : RuleSet), keymap.rulesFor? key = some set →
        ∃ rest, smaller.rulesFor? key = some rest ∧
          rest.rules = set.rules.filter fun rule => ¬ rule.DueTo held key := by
  obtain ⟨layout, sound, compiled⟩ := Keymap.compile_valid valid
  have less := sound.withoutHomeRow held
  refine ⟨_, _, _, compiled, less.validate, Keymap.compile_sound less, ?_, ?_⟩
  · rw [Keymap.ofLayout_keys, Keymap.ofLayout_keys]
    rfl
  · intro key set ruled
    obtain ⟨inside, rfl⟩ := Keymap.ruled_iff.1 ruled
    refine ⟨_, Keymap.ruled_iff.2 ⟨inside, rfl⟩, ?_⟩
    exact (Pipeline.spare_rules (Keymap.siteOf config layout key) held).symm

theorem index_key_removed :
    ∃ keymap smaller set rest, Keymap.compile Small.config = .ok keymap ∧
      Keymap.compile (Small.config.withoutHomeRow ⟨"j"⟩) = .ok smaller ∧
      keymap.rulesFor? ⟨"j"⟩ = some set ∧ smaller.rulesFor? ⟨"j"⟩ = some rest ∧
      (rest.rules = set.rules.filter fun rule => ¬ rule.DueTo ⟨"j"⟩ ⟨"j"⟩) ∧
      set.size = 16 ∧ rest.size = 10 := by
  obtain ⟨keymap, smaller, _, compiled, _, compiled', _, left⟩ :=
    home_row_key_removed Small.config_valid ⟨"j"⟩
  cases compiled.symm.trans Small.config_compiled
  obtain ⟨rest, ruled, rules⟩ := left ⟨"j"⟩ _ rfl
  refine ⟨_, smaller, _, rest, compiled, compiled', rfl, ruled, rules, by decide, ?_⟩
  rw [RuleSet.size, rules]
  decide

end TapHold
