import TapHold.Proofs.KeymapShape
import TapHold.Proofs.LayoutReading

namespace TapHold

def Layout.Row.mirror (row : Layout.Row) : Layout.Row := ⟨row.right, row.left⟩

namespace Layout

theorem mirror_keys (row : Row) : row.mirror.keys.Perm row.keys := List.perm_append_comm

theorem mirror_written (rows : List Row) :
    ((rows.map Row.mirror).flatMap Row.keys).Perm (rows.flatMap Row.keys) := by
  rw [List.flatMap_map]
  exact List.Perm.flatMap_left rows fun row _ => mirror_keys row

def mirror (layout : Layout) : Layout where
  rows := layout.rows.map Row.mirror
  distinct := (mirror_written layout.rows).nodup_iff.2 layout.distinct
  filled := by
    refine List.forall_mem_map.2 fun row member absent => layout.filled row member ?_
    rw [← List.perm_nil, ← absent]
    exact (mirror_keys row).symm

def mirrorLine (line : String) : String :=
  String.ofList (['|'].intercalate (line.toList.splitOn '|').reverse)

def Mirrors (line other : String) : Prop :=
  ∃ left right, '|' ∉ left ∧ '|' ∉ right ∧
    line.toList = left ++ '|' :: right ∧ other.toList = right ++ '|' :: left

section
variable {line other : String}

theorem mirrorLine_mirrors (one : bars line = 1) : Mirrors line (mirrorLine line) := by
  obtain ⟨left, right, parts, before, after⟩ := divided_line one
  have cut : line.toList.splitOn '|' = [left] ++ [right] := by
    refine (Text.splitOn_concat '|').2 ⟨by simp [parts], ?_⟩
    exact List.forall_mem_cons.2 ⟨before, List.forall_mem_singleton.2 after⟩
  refine ⟨left, right, before, after, parts, ?_⟩
  rw [mirrorLine, String.toList_ofList, cut]
  simp [List.intercalate]

theorem Mirrors.bars (mirrors : Mirrors line other) : bars other = 1 := by
  obtain ⟨left, right, before, after, _, parts⟩ := mirrors
  rw [Layout.bars, parts, List.count_append, List.count_cons_self, List.count_eq_zero.2 before,
    List.count_eq_zero.2 after]

theorem Mirrors.row (mirrors : Mirrors line other) :
    Row.ofLine other = (Row.ofLine line).mirror := by
  obtain ⟨left, right, before, after, parts, parts'⟩ := mirrors
  rw [← ofGroups_line parts before after, ← ofGroups_line parts' after before]
  rfl

end

theorem Divides.mirror {line : String} (divides : Divides line) : Divides (mirrorLine line) := by
  have mirrors := mirrorLine_mirrors divides.1
  refine ⟨mirrors.bars, fun absent => divides.2 ?_⟩
  rw [← ofLine_keys mirrors.bars, mirrors.row] at absent
  rw [← ofLine_keys divides.1, ← List.perm_nil, ← absent]
  exact (mirror_keys _).symm

theorem mirror_rows {lines : List String} (divided : ∀ line ∈ lines, Divides line) :
    (lines.map mirrorLine).map Row.ofLine = (lines.map Row.ofLine).map Row.mirror := by
  rw [List.map_map, List.map_map]
  exact List.map_congr_left fun line member => (mirrorLine_mirrors (divided line member).1).row

theorem parse_mirror {lines : List String} {layout : Layout}
    (read : Layout.parse lines = .ok layout) :
    Layout.parse (lines.map mirrorLine) = .ok layout.mirror := by
  obtain ⟨⟨divided, distinct⟩, rows⟩ := parse_ok.1 read
  have divided' : ∀ line ∈ lines.map mirrorLine, Divides line :=
    List.forall_mem_map.2 fun line member => (divided line member).mirror
  refine parse_ok.2 ⟨⟨divided', ?_⟩, ?_⟩
  · rw [← keys_lines divided', mirror_rows divided, (mirror_written _).nodup_iff,
      keys_lines divided]
    exact distinct
  · rw [mirror_rows divided, ← rows]
    rfl

section
variable {layout : Layout} {key : Key} {hand : Hand}

theorem mirror_side (layout : Layout) (hand : Hand) :
    layout.mirror.side hand = layout.side hand.opposite := by
  cases hand <;> exact List.flatMap_map ..

theorem mirror_all : layout.mirror.all = layout.right ++ layout.left :=
  congrArg₂ (· ++ ·) (layout.mirror_side .left) (layout.mirror_side .right)

theorem mem_mirror : key ∈ layout.mirror.all ↔ key ∈ layout.all := by
  rw [mirror_all, List.mem_append, or_comm]
  exact List.mem_append.symm

theorem mirror_contains : layout.mirror.contains key = layout.contains key := by
  rw [Bool.eq_iff_iff, ← mem_all, ← mem_all, mem_mirror]

theorem mirror_hand : layout.mirror.handOf? key = some hand ↔
    layout.handOf? key = some hand.opposite := by
  rw [handOf?_iff, handOf?_iff, mirror_side]

theorem mirror_left (placed : key ∈ layout.all) :
    (layout.mirror.handOf? key == some .left) = !(layout.handOf? key == some .left) := by
  rw [Bool.eq_iff_iff, Bool.not_eq_true', beq_iff_eq, beq_eq_false_iff_ne, mirror_hand]
  obtain ⟨hand, handed⟩ := Option.isSome_iff_exists.1 (mem_all.1 placed)
  rw [handed]
  cases hand <;> decide

theorem mirror_opposed {other : Key} (placed : key ∈ layout.all) (placed' : other ∈ layout.all) :
    layout.mirror.opposed key other = layout.opposed key other := by
  rw [opposed, mirror_left placed, mirror_left placed', opposed, Bool.not_bne_not]

end
end Layout

def Config.mirror (config : Config) : Config :=
  { config with layout := config.layout.map Layout.mirrorLine }

def Site.mirror (site : Site) : Site :=
  { site with config := site.config.mirror, layout := site.layout.mirror }

namespace Config
variable {config : Config} {layout : Layout}

theorem mirror_lineage (more : Nat) (name : String) :
    config.mirror.lineage more name = config.lineage more name :=
  lineage_congr config config.mirror (fun _ => True) (fun _ _ => rfl) (fun _ _ _ _ => trivial) more
    trivial

theorem Faultless.mirror (checks : config.Faultless layout) :
    config.mirror.Faultless layout.mirror where
  few := checks.few
  placed key member := Layout.mirror_contains.trans (checks.placed key member)
  named := checks.named
  spelled := checks.spelled
  known := checks.known
  climbs name member := by
    rw [mirror_lineage]
    exact checks.climbs name member
  apart := checks.apart

theorem SoundOn.mirror (sound : config.SoundOn layout) : config.mirror.SoundOn layout.mirror where
  parsed := Layout.parse_mirror sound.parsed
  timed := sound.timed
  faultless := faultsOn_nil.2 sound.checks.mirror

theorem mirror_findings (config : Config) (layout : Layout) :
    config.mirror.findings layout.mirror = config.findings layout := by
  have bindings (name : String) (key : Key) :
      config.mirror.bindingFindings layout.mirror name key =
        config.bindingFindings layout name key := by
    unfold bindingFindings
    rw [Layout.mirror_contains]
    rfl
  have each (name : String) (layer : Layer) :
      config.mirror.layerFindings layout.mirror name layer =
        config.layerFindings layout name layer := by
    unfold layerFindings
    rw [funext (bindings name)]
    rfl
  have layers : config.mirror.layers = config.layers := rfl
  unfold findings
  rw [layers]
  simp only [each]
  rfl

end Config

namespace Site
variable {site : Site}

-- The sides come in by these two lists only.
theorem mirror_homeRow (opposite : site.mirror.opposite = site.opposite)
    (sameHand : site.mirror.sameHand = site.sameHand) :
    HomeRowRules.rules site.mirror = HomeRowRules.rules site := by
  unfold HomeRowRules.rules HomeRowRules.activations
  rw [opposite, sameHand]
  rfl

theorem mirror_layers (site : Site) : LayerRules.rules site.mirror = LayerRules.rules site := rfl

theorem mirror_passthrough (site : Site) : Pass.passthrough site.mirror = Pass.passthrough site :=
  rfl

theorem mirror_rules (site : Site) (placed : site.key ∈ site.layout.all)
    (homeRow : ∀ key ∈ site.config.homeRow.keys, key ∈ site.layout.all) :
    Pipeline.standard.rules site.mirror = Pipeline.standard.rules site := by
  have opposed : ∀ other ∈ site.others, site.mirror.opposed other.1 = site.opposed other.1 := by
    intro other member
    have own := homeRow other.1 (List.mem_map_of_mem (List.mem_filter.1 member).1)
    exact Layout.mirror_opposed own placed
  have opposite : site.mirror.opposite = site.opposite := List.filter_congr opposed
  have sameHand : site.mirror.sameHand = site.sameHand := by
    refine congrArg (List.map Prod.fst) (List.filter_congr fun other member => ?_)
    rw [opposed other member]
  rw [LayerRules.standard_rules, LayerRules.standard_rules, mirror_homeRow opposite sameHand,
    mirror_layers, mirror_passthrough]

variable {site : Site} {stage : Stage}

theorem homeRow_unstaged (other : stage ≠ .homeRow) :
    (HomeRowRules.rules site).filter (·.kind.stage = stage) = [] := by
  refine List.filter_eq_nil_iff.2 fun rule member => ?_
  rw [(HomeRowRules.makes_rules member).2]
  simpa using other.symm

theorem mirror_staged (site : Site) (other : stage ≠ .homeRow) :
    (Pipeline.standard.rules site.mirror).filter (·.kind.stage = stage) =
      (Pipeline.standard.rules site).filter (·.kind.stage = stage) := by
  simp only [LayerRules.standard_rules, List.filter_append, homeRow_unstaged other, mirror_layers,
    mirror_passthrough]

end Site

namespace Keymap
variable {config : Config} {layout : Layout} {key : Key}

theorem mirror_keysOf (config : Config) (layout : Layout) :
    keysOf config.mirror layout.mirror =
      layout.right ++ layout.left ++ config.triggers.filter (!layout.contains ·) := by
  unfold keysOf
  rw [Layout.mirror_all]
  simp only [Layout.mirror_contains]
  rfl

theorem mem_mirror_keysOf :
    key ∈ keysOf config.mirror layout.mirror ↔ key ∈ keysOf config layout := by
  rw [mem_keysOf, mem_keysOf, Layout.mem_mirror]
  rfl

theorem mirror_set (sound : config.SoundOn layout) (placed : key ∈ layout.all) :
    setOf .standard config.mirror layout.mirror key = setOf .standard config layout key := by
  have homeRow : ∀ key ∈ config.homeRow.keys, key ∈ layout.all :=
    fun key member => Layout.mem_all.2 (sound.checks.placed key member)
  exact congrArg (RuleSet.mk key) ((siteOf config layout key).mirror_rules placed homeRow)

end Keymap

-- The configuration is accepted with the same findings, and the keys of the rows have the same
-- rules. Other keys can only have other rules of the home row.
theorem mirrored_rows_compile {config : Config} {findings : List Finding}
    (valid : config.validate = .ok findings) :
    (∀ row ∈ config.layout, Layout.Mirrors row (Layout.mirrorLine row)) ∧
      config.mirror.validate = .ok findings ∧
      ∃ layout keymap mirrored, Layout.parse config.layout = .ok layout ∧
        Keymap.compile config = .ok keymap ∧ Keymap.compile config.mirror = .ok mirrored ∧
        mirrored.findings = keymap.findings ∧
        (∀ key ∈ layout.all, ∃ set, keymap.rulesFor? key = some set ∧
          mirrored.rulesFor? key = some set) ∧
        keymap.sets.map RuleSet.key = layout.left ++ layout.right ++
          config.triggers.filter (!layout.contains ·) ∧
        mirrored.sets.map RuleSet.key = layout.right ++ layout.left ++
          config.triggers.filter (!layout.contains ·) ∧
        ∀ key set, keymap.rulesFor? key = some set →
          ∃ other, mirrored.rulesFor? key = some other ∧
            ∀ stage, stage ≠ .homeRow → other.staged stage = set.staged stage := by
  obtain ⟨layout, sound, compiled⟩ := Keymap.compile_valid valid
  have mirrored := sound.mirror
  cases valid.symm.trans sound.validate
  refine ⟨fun row member => ?_, ?_, layout, _, _, sound.parsed, compiled,
    Keymap.compile_sound mirrored, config.mirror_findings layout, fun key placed => ?_,
    Keymap.ofLayout_keys config layout, ?_, fun key set ruled => ?_⟩
  · exact Layout.mirrorLine_mirrors ((Layout.parse_ok.1 sound.parsed).1.divided row member).1
  · rw [mirrored.validate, config.mirror_findings]
  · have inside : key ∈ Keymap.keysOf config layout := Keymap.mem_keysOf.2 (.inl placed)
    exact ⟨_, Keymap.ruled_iff.2 ⟨inside, rfl⟩, Keymap.ruled_iff.2
      ⟨Keymap.mem_mirror_keysOf.2 inside, (Keymap.mirror_set sound placed).symm⟩⟩
  · rw [Keymap.ofLayout_keys, Keymap.mirror_keysOf]
  · obtain ⟨inside, rfl⟩ := Keymap.ruled_iff.1 ruled
    exact ⟨_, Keymap.ruled_iff.2 ⟨Keymap.mem_mirror_keysOf.2 inside, rfl⟩,
      fun stage other => (Keymap.siteOf config layout key).mirror_staged other⟩

theorem small_rows_mirrored :
    Small.config.mirror.layout = [" j k|a s "] ∧
      ∃ keymap mirrored set other, Keymap.compile Small.config = .ok keymap ∧
        Keymap.compile Small.config.mirror = .ok mirrored ∧
        mirrored.findings = keymap.findings ∧
        mirrored.rulesFor? ⟨"j"⟩ = keymap.rulesFor? ⟨"j"⟩ ∧
        keymap.rulesFor? ⟨"space"⟩ = some set ∧ mirrored.rulesFor? ⟨"space"⟩ = some other ∧
        other.staged .layer = set.staged .layer ∧ set.size = 13 ∧ other.size = 11 := by
  obtain ⟨_, _, layout, keymap, mirrored, parsed, compiled, compiled', findings, placed, _, _,
    staged⟩ := mirrored_rows_compile Small.config_valid
  cases parsed.symm.trans Small.config_sound.parsed
  cases compiled.symm.trans Small.config_compiled
  obtain ⟨set, ruled, ruled'⟩ := placed ⟨"j"⟩ (by decide)
  have space : Small.keymap.rulesFor? ⟨"space"⟩ =
      some (Keymap.setOf .standard Small.config Small.layout ⟨"space"⟩) := rfl
  obtain ⟨other, mirroredSpace, same⟩ := staged _ _ space
  refine ⟨by rfl, _, mirrored, _, other, compiled, compiled', findings, ruled'.trans ruled.symm,
    space, mirroredSpace, same .layer nofun, by decide, ?_⟩
  cases compiled'.symm.trans (Keymap.compile_sound Small.config_sound.mirror)
  cases mirroredSpace
  decide

end TapHold
