import TapHold.Proofs.DocumentValues
import TapHold.Proofs.LayoutTables
import TapHold.Proofs.PrintedLines
import TapHold.Proofs.VarCensus

namespace TapHold

-- Digits and letters stand between these two, and no blank does.
theorem Text.between_clear {c : Char} (low : '0' ≤ c) (high : c ≤ 'z') : isBlank c = false := by
  have least : 48 ≤ c.toNat := low
  have most : c.toNat ≤ 122 := high
  simp only [isBlank, Bool.or_eq_false_iff, Bool.and_eq_false_iff, decide_eq_false_iff_not,
    beq_eq_false_iff_ne]
  omega

theorem Layer.Named.whole {name : String} (named : Layer.Named name) :
    Text.Whole Text.isBlank name.toList := by
  refine ⟨mt String.toList_eq_nil_iff.1 named.present, fun c inside => ?_⟩
  rcases named.written c inside with ⟨low, high⟩ | ⟨low, high⟩ | ⟨low, high⟩ | rfl
  · exact Text.between_clear (Char.le_trans (by decide) low) high
  · exact Text.between_clear (Char.le_trans (by decide) low) (Char.le_trans high (by decide))
  · exact Text.between_clear low (Char.le_trans high (by decide))
  · decide

namespace Site
variable {site : Site} {rule : Rule} {stroke : Stroke}

theorem resolved_key {layer : Layer} {name : String}
    (member : (name, layer) ∈ site.config.layers.entries)
    (sent : LayerRules.resolve site.config layer site.key = some stroke) :
    ∃ above ∈ site.config.layers.values, stroke.key ∈ above.keys := by
  have bound {above : Layer} (got : above.bindings.get? site.key = some stroke) :
      stroke.key ∈ above.keys := by
    refine List.mem_cons_of_mem _ (List.mem_flatMap.2 ⟨_, Dict.entry_of_get? got, ?_⟩)
    exact List.mem_cons_of_mem _ (List.mem_singleton_self _)
  unfold LayerRules.resolve at sent
  split at sent
  · rename_i own
    cases sent
    exact ⟨layer, List.mem_map_of_mem member, bound own⟩
  · split at sent
    · obtain ⟨parent, _, sent⟩ := Option.bind_eq_some_iff.1 sent
      obtain ⟨above, found, inherited⟩ := Option.bind_eq_some_iff.1 sent
      exact ⟨above, List.mem_map_of_mem (Dict.entry_of_get? found), bound inherited⟩
    · cases sent

theorem streak_silent (site : Site) : site.streak.filterMap Action.stroke? = [] := rfl

theorem Makes.sent_key (made : site.Makes rule) (sent : stroke ∈ rule.outputs) :
    stroke.key = site.key ∨ stroke.key ∈ site.config.homeRow.keys ∨
      ∃ layer ∈ site.config.layers.values, stroke.key ∈ layer.keys := by
  unfold Rule.outputs at sent
  cases made with
  | layerSwallow _ _ => cases sent
  | layerBinding member resolved =>
    rw [LayerRules.bound, List.filterMap_append, streak_silent] at sent
    cases List.mem_singleton.1 sent
    exact .inr (.inr (resolved_key member resolved))
  | triggerRollover _ member =>
    rw [LayerRules.rollover, List.filterMap_append, List.filterMap_append, streak_silent] at sent
    rcases List.mem_cons.1 sent with rfl | tap
    · exact .inr (.inl member)
    · cases List.mem_singleton.1 tap
      exact .inl rfl
  | rolls member =>
    rw [HomeRowRules.typeBoth, List.filterMap_append, streak_silent] at sent
    rcases List.mem_cons.1 sent with rfl | own
    · exact .inr (.inl (opposite_homeRow member))
    · cases List.mem_singleton.1 own
      exact .inl rfl
  | rollsBeside member =>
    rw [HomeRowRules.typeBoth, List.filterMap_append, streak_silent] at sent
    rcases List.mem_cons.1 sent with rfl | own
    · exact .inr (.inl (sameHand_homeRow member))
    · cases List.mem_singleton.1 own
      exact .inl rfl
  | trigger _ | activation _ | rolled _ | rolledBeside _ | modifierPassthrough _ | source _
  | passthrough _ =>
    cases List.mem_singleton.1 sent
    exact .inl rfl

end Site

namespace Config.SoundOn
variable {config : Config} {layout : Layout} (sound : config.SoundOn layout)
include sound

theorem placed_spelled {key : Key} (placed : key ∈ layout.all) : key.Spelled := by
  have written : key ∈ layout.written := layout.all_perm.mem_iff.1 placed
  obtain ⟨row, member, within⟩ := List.mem_flatMap.1 written
  obtain ⟨present, clear⟩ := Layout.parsed_plain sound.parsed row member key within
  refine ⟨mt String.toList_eq_nil_iff.2 present, fun c inside => ?_⟩
  exact (Bool.or_eq_false_iff.1 (clear c inside)).2

theorem layer_spelled {layer : Layer} (member : layer ∈ config.layers.values) {key : Key}
    (inside : key ∈ layer.keys) : key.Spelled := by
  obtain ⟨entry, among, rfl⟩ := List.mem_map.1 member
  exact Key.faults_nil.1 (sound.checks.spelled entry among key inside)

theorem homeRow_spelled {key : Key} (member : key ∈ config.homeRow.keys) : key.Spelled :=
  sound.placed_spelled (Layout.mem_all.2 (sound.checks.placed key member))

theorem name_spelled {name : String} (known : name ∈ config.layers.keys) :
    Text.Whole Text.isBlank name.toList := by
  obtain ⟨entry, member, rfl⟩ := List.mem_map.1 known
  exact (Layer.isName_iff.1 (sound.checks.named entry member)).whole

theorem ruled_spelled {key : Key} (ruled : key ∈ Keymap.keysOf config layout) : key.Spelled := by
  rcases Keymap.mem_keysOf.1 ruled with placed | triggers
  · exact sound.placed_spelled placed
  · obtain ⟨layer, member, rfl⟩ := List.mem_map.1 triggers
    exact sound.layer_spelled member List.mem_cons_self

theorem var_spelled {var : StateVar} (member : var ∈ (Keymap.ofLayout config layout).vars) :
    var.Spelled := by
  rcases (Keymap.vars_ofLayout sound).1 member with flag | ⟨_, window⟩
  · rcases Config.mem_flags.1 flag with ⟨key, homeRow, rfl | rfl | rfl⟩ | ⟨name, known, rfl⟩
    · exact sound.homeRow_spelled homeRow
    · exact sound.homeRow_spelled homeRow
    · exact sound.homeRow_spelled homeRow
    · exact sound.name_spelled known
  · simp only [StateVar.window, List.mem_cons, List.not_mem_nil, or_false] at window
    rcases window with rfl | rfl <;> trivial

theorem rule_spelled {rule : Rule} (member : rule ∈ (Keymap.ofLayout config layout).rules) :
    rule.Spelled := by
  obtain ⟨key, ruled, standard⟩ := Keymap.mem_rules.1 member
  have made := Pipeline.makes_rules standard
  refine ⟨?_, fun stroke sent => ?_, fun var named => ?_⟩
  · rw [made.about]
    exact sound.ruled_spelled ruled
  · rcases made.sent_key sent with own | homeRow | ⟨layer, among, inside⟩
    · rw [own]
      exact sound.ruled_spelled ruled
    · exact sound.homeRow_spelled homeRow
    · exact sound.layer_spelled among inside
  · exact sound.var_spelled (List.mem_flatMap.2 ⟨rule, member, named⟩)

section
variable {set : RuleSet} (member : set ∈ (Keymap.ofLayout config layout).sets)
include member

theorem set_spelled : set.key.Spelled := by
  obtain ⟨key, ruled, rfl⟩ := Keymap.set_ofLayout member
  exact sound.ruled_spelled ruled

theorem set_lined : Text.Lined set.text set.lines := by
  refine set.text_lined (sound.set_spelled member) fun rule inside => ?_
  exact sound.rule_spelled (List.mem_flatMap.2 ⟨set, member, inside⟩)

end
end Config.SoundOn
end TapHold
