import TapHold.Proofs.Dispatch

namespace TapHold

def Config.Declares (config : Config) (first second : String) : Prop :=
  config.layers.keys.idxOf first < config.layers.keys.idxOf second

instance (config : Config) (first second : String) : Decidable (config.Declares first second) :=
  inferInstanceAs (Decidable (_ < _))

namespace LayerRules

-- The rule is what a layer has to say about the key, by the layer it asks for first: its binding
-- or its swallowing of the press.
def SpeaksFor (kind : RuleKind) (name : String) (rule : Rule) : Prop :=
  rule.kind = kind ∧ rule.conditions.head? = some (isActive name)

instance (kind : RuleKind) (name : String) (rule : Rule) : Decidable (SpeaksFor kind name rule) :=
  inferInstanceAs (Decidable (_ ∧ _))

def Asked (config : Config) (first second : String × Layer) : Prop :=
  first.2.parent.isSome ∧ second.2.parent.isNone ∨
    first.2.parent.isSome = second.2.parent.isSome ∧ config.Declares first.1 second.1

-- If both rules speak for layers in the same way, the layer of the first is asked before.
def InOrder (config : Config) (first second : Rule) : Prop :=
  ∀ kind : RuleKind, kind.stage = .layer →
    ∀ a ∈ config.layers.entries, ∀ b ∈ config.layers.entries,
      SpeaksFor kind a.1 first → SpeaksFor kind b.1 second → Asked config a b

section
variable {config : Config} {layout : Layout} {key : Key} {site : Site}

theorem speaksFor_unique {kind other : RuleKind} {name named : String} {rule : Rule}
    (first : SpeaksFor kind name rule) (second : SpeaksFor other named rule) : name = named := by
  have same := first.2.symm.trans second.2
  simpa [isActive] using same

theorem asked_asymm {a b : String × Layer} (asked : Asked config a b) : ¬ Asked config b a := by
  rintro (⟨child, root⟩ | ⟨alike, before⟩)
  · rcases asked with ⟨_, root'⟩ | ⟨alike, _⟩ <;> simp_all
  · rcases asked with ⟨_, root⟩ | ⟨_, before'⟩
    · simp_all
    · exact Nat.lt_asymm before before'

theorem asked_child {child parent : String} {layer above : Layer}
    (isChild : layer.parent.isSome) :
    Asked config (child, layer) (parent, above) ↔
      above.parent = none ∨ config.Declares child parent := by
  cases root : above.parent <;> simp [Asked, isChild, root]

theorem entries_declared (config : Config) :
    config.layers.entries.Pairwise fun first second => config.Declares first.1 second.1 := by
  have distinct : config.layers.keys.Nodup := config.layers.distinct
  have names : config.layers.keys.Pairwise config.Declares := by
    rw [List.pairwise_iff_getElem]
    intro i j here there before
    rw [Config.Declares, distinct.idxOf_getElem, distinct.idxOf_getElem]
    exact before
  exact List.pairwise_map.1 names

theorem childrenFirst_asked (config : Config) :
    (childrenFirst config).Pairwise (Asked config) := by
  have declared := entries_declared config
  refine List.pairwise_append.2 ⟨?_, ?_, ?_⟩
  · refine (declared.filter _).imp_of_mem fun first second before => ?_
    have child := (List.mem_filter.1 first).2
    have child' := (List.mem_filter.1 second).2
    exact .inr ⟨child.trans child'.symm, before⟩
  · refine (declared.filter _).imp_of_mem fun first second before => ?_
    have root := (List.mem_filter.1 first).2
    have root' := (List.mem_filter.1 second).2
    exact .inr ⟨by simp_all, before⟩
  · intro first child second root
    exact .inl ⟨(List.mem_filter.1 child).2, (List.mem_filter.1 root).2⟩

theorem section_in_order {kind : RuleKind} {rule? : String × Layer → Option Rule}
    (speaks : ∀ {entry rule}, rule? entry = some rule → SpeaksFor kind entry.1 rule) :
    ((childrenFirst config).filterMap rule?).Pairwise (InOrder config) := by
  rw [List.pairwise_filterMap]
  refine (childrenFirst_asked config).imp_of_mem ?_
  intro first second inside inside' asked rule made rule' made' _ _ a member b member' own own'
  have same := List.inj_on_of_nodup_map config.layers.distinct member
    (childrenFirst_member inside) (speaksFor_unique own (speaks made))
  have same' := List.inj_on_of_nodup_map config.layers.distinct member'
    (childrenFirst_member inside') (speaksFor_unique own' (speaks made'))
  exact same ▸ same' ▸ asked

theorem binding_speaks {entry : String × Layer} {rule : Rule}
    (made : binding? site entry = some rule) : SpeaksFor .layerBinding entry.1 rule := by
  obtain ⟨stroke, _, rfl⟩ := Option.map_eq_some_iff.1 made
  exact ⟨rfl, rfl⟩

theorem swallow_speaks {entry : String × Layer} {rule : Rule}
    (made : swallow? site entry = some rule) : SpeaksFor .layerSwallow entry.1 rule := by
  obtain ⟨_, same⟩ := Option.ite_none_right_eq_some.1 made
  cases same
  exact ⟨rfl, rfl⟩

-- Nothing is asked of two rules of different kinds, or of a kind that no layer has.
theorem in_order_apart {first second : Rule}
    (apart : first.kind = second.kind → second.kind.stage ≠ .layer) :
    InOrder config first second := by
  intro kind stage a _ b _ own own'
  exact absurd (own'.1 ▸ stage) (apart (own.1.trans own'.1.symm))

theorem bindingRules_in_order (site : Site) :
    (bindingRules site).Pairwise (InOrder site.config) := by
  refine List.pairwise_append.2
    ⟨section_in_order binding_speaks, section_in_order swallow_speaks, ?_⟩
  intro first binding second swallow
  obtain ⟨_, _, made⟩ := List.mem_filterMap.1 binding
  obtain ⟨_, _, made'⟩ := List.mem_filterMap.1 swallow
  refine in_order_apart fun same => ?_
  rw [(binding_speaks made).1, (swallow_speaks made').1] at same
  cases same

theorem rules_in_order (free : ∀ entry ∈ config.layers.entries, entry.2.trigger ≠ key) :
    (Pipeline.standard.rules (Keymap.siteOf config layout key)).Pairwise (InOrder config) := by
  rw [standard_rules, untriggered_rules free, List.append_assoc]
  refine List.pairwise_append.2
    ⟨bindingRules_in_order (Keymap.siteOf config layout key), ?_, ?_⟩
  · exact List.pairwise_of_forall_mem_list fun _ _ rule member =>
      in_order_apart fun _ => (Pass.late_rules member).2
  · exact fun _ _ rule member => in_order_apart fun _ => (Pass.late_rules member).2

end

section
variable {config : Config} {rules : List Rule} (ordered : rules.Pairwise (InOrder config))
  {kind : RuleKind} (stage : kind.stage = .layer) {a b : String × Layer}
  (member : a ∈ config.layers.entries) (member' : b ∈ config.layers.entries)
  {i j : Nat} {first second : Rule} (here : rules[i]? = some first)
  (there : rules[j]? = some second) (own : SpeaksFor kind a.1 first)
  (own' : SpeaksFor kind b.1 second)
include ordered stage member member' here there own own'

theorem asked_of_before (before : i < j) : Asked config a b := by
  obtain ⟨_, rfl⟩ := List.getElem?_eq_some_iff.1 here
  obtain ⟨_, rfl⟩ := List.getElem?_eq_some_iff.1 there
  exact List.pairwise_iff_getElem.1 ordered i j _ _ before kind stage a member b member' own own'

theorem before_iff_asked : i < j ↔ Asked config a b := by
  refine ⟨asked_of_before ordered stage member member' here there own own', fun asked => ?_⟩
  rcases Nat.lt_trichotomy i j with before | rfl | after
  · exact before
  · cases here.symm.trans there
    cases List.inj_on_of_nodup_map config.layers.distinct member member'
      (speaksFor_unique own own')
    exact absurd asked (asked_asymm asked)
  · have back := asked_of_before ordered stage member' member there here own' own after
    exact absurd asked (asked_asymm back)

end

theorem child_asked_first_iff {config : Config} {findings : List Finding}
    (valid : config.validate = .ok findings) :
    ∃ keymap, Keymap.compile config = .ok keymap ∧
      ∀ (key : Key) (set : RuleSet), keymap.rulesFor? key = some set →
        (∀ entry ∈ config.layers.entries, entry.2.trigger ≠ key) →
        ∀ child layer parent above, (child, layer) ∈ config.layers.entries →
          layer.parent = some parent → (parent, above) ∈ config.layers.entries →
          ∀ kind ∈ [RuleKind.layerBinding, .layerSwallow], ∀ (i j : Nat) (first second : Rule),
            set.rules[i]? = some first → set.rules[j]? = some second →
            SpeaksFor kind child first → SpeaksFor kind parent second →
            (i < j ↔ above.parent = none ∨ config.Declares child parent) := by
  obtain ⟨layout, sound, compiled⟩ := Keymap.compile_valid valid
  refine ⟨_, compiled, ?_⟩
  intro key set ruled free child layer parent above member isChild member' kind layerKind i j
    first second here there own own'
  have stage : kind.stage = .layer := by
    rcases List.mem_cons.1 layerKind with rfl | last
    · rfl
    · cases List.mem_singleton.1 last
      rfl
  rw [Keymap.rulesFor_ofLayout] at ruled
  split at ruled
  · cases ruled
    rw [before_iff_asked (rules_in_order free) stage member member' here there own own']
    exact asked_child (by simp [isChild])
  · cases ruled

theorem middle_asked_first :
    ∃ keymap set, Keymap.compile Nested.config = .ok keymap ∧
      keymap.rulesFor? ⟨"k"⟩ = some set ∧
      (0 < 2 ↔ Nested.nav.parent = none ∨ Nested.config.Declares "select" "nav") ∧
      (1 < 0 ↔ Nested.select.parent = none ∨ Nested.config.Declares "words" "select") := by
  obtain ⟨keymap, compiled, asked⟩ := child_asked_first_iff Nested.config_valid
  cases compiled.symm.trans Nested.config_compiled
  refine ⟨_, _, compiled, rfl, ?_, ?_⟩
  · exact asked ⟨"k"⟩ _ rfl (by decide) "select" Nested.select "nav" Nested.nav (by decide) rfl
      (by decide) .layerBinding (by decide) 0 2 _ _ rfl rfl (by decide) (by decide)
  · exact asked ⟨"k"⟩ _ rfl (by decide) "words" Nested.words "select" Nested.select (by decide) rfl
      (by decide) .layerBinding (by decide) 1 0 _ _ rfl rfl (by decide) (by decide)

-- The binding of the innermost layer stands after that of its parent, which it waits for. So no
-- press comes to it.
theorem innermost_never_reached :
    ∃ keymap set outer inner, Keymap.compile Nested.config = .ok keymap ∧
      keymap.rulesFor? ⟨"k"⟩ = some set ∧
      (∀ entry ∈ Nested.config.layers.entries, entry.2.trigger ≠ ⟨"k"⟩) ∧
      ("words", Nested.words) ∈ Nested.config.layers.entries ∧
      Nested.words.parent = some "select" ∧
      set.rules[0]? = some outer ∧ SpeaksFor .layerBinding "select" outer ∧
      set.rules[1]? = some inner ∧ SpeaksFor .layerBinding "words" inner ∧
      ∀ now, firstFit none now set.rules ≠ some inner := by
  refine ⟨_, _, _, _, Nested.config_compiled, rfl, by decide, by decide, rfl, rfl, by decide, rfl,
    by decide, ?_⟩
  intro now first
  have on := (firstFit_fits first).2 ⟨.active "select", 1⟩ (by decide)
  have outer : firstFit none now (Pipeline.standard.rules
      (Keymap.siteOf Nested.config Nested.layout ⟨"k"⟩)) =
        some (bound (Keymap.siteOf Nested.config Nested.layout ⟨"k"⟩) "select" Nested.select
          (.plain ⟨"up"⟩)) := by
    refine (firstFit_cons _ _).trans (if_pos ?_)
    rw [bound, Rule.fits_bare]
    simpa [needs, Nested.select, Layer.triggeredBy, isActive] using on
  have same := outer.symm.trans first
  revert same
  decide

end LayerRules
end TapHold
