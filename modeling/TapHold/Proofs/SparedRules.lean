import TapHold.Proofs.KindOrder
import TapHold.Proofs.SubsetOrder

namespace TapHold

-- No parent of a layer has a parent of its own.
def Config.Flat (config : Config) : Prop :=
  ∀ child ∈ config.layers.entries, ∀ parent ∈ config.layers.entries,
    child.2.parent = some parent.1 → parent.2.parent = none

instance (config : Config) : Decidable config.Flat :=
  inferInstanceAs (Decidable (∀ child ∈ config.layers.entries, _))

namespace Rule

def Asks (rule : Rule) (var : StateVar) : Prop := ⟨var, 1⟩ ∈ rule.conditions

instance (rule : Rule) (var : StateVar) : Decidable (rule.Asks var) :=
  inferInstanceAs (Decidable (_ ∈ rule.conditions))

def asked (rule : Rule) : Valuation := fun var => if rule.Asks var then 1 else 0

def Consistent (rule : Rule) : Prop :=
  ∀ c ∈ rule.conditions, c.value = 1 ∨ c.value = 0 ∧ ¬ rule.Asks c.var

def Spares (earlier later : Rule) : Prop := ¬ earlier.Fits later.press.modifier later.asked

-- A home-row key types itself by its own rule, so its default comes too late; and so does what the
-- home row makes of a bare press where a trigger waits for no parent.
def Buried (config : Config) (key : Key) (rule : Rule) : Prop :=
  rule.kind = .passthrough ∧ key ∈ config.homeRow.keys ∨
    rule.press.modifier = none ∧ rule.kind.stage = .homeRow ∧
      ∃ entry ∈ config.layers.entries, entry.2.trigger = key ∧ entry.2.parent = none

instance (config : Config) (key : Key) (rule : Rule) : Decidable (rule.Buried config key) :=
  inferInstanceAs (Decidable (_ ∨ _))

section
variable {rule earlier later : Rule} {var : StateVar}

theorem asked_set (asks : rule.Asks var) : rule.asked var = 1 := if_pos asks

theorem asked_unset (free : ¬ rule.Asks var) : rule.asked var = 0 := if_neg free

theorem fits_asked (consistent : rule.Consistent) : rule.Fits rule.press.modifier rule.asked := by
  refine ⟨rfl, ?_⟩
  rintro ⟨var, value⟩ member
  rcases consistent _ member with rfl | ⟨rfl, free⟩
  · exact asked_set member
  · exact asked_unset free

theorem spares_press (apart : earlier.press.modifier ≠ later.press.modifier) :
    earlier.Spares later := fun fits => apart fits.1

theorem spares_set (asks : earlier.Asks var) (free : ¬ later.Asks var) : earlier.Spares later := by
  intro fits
  have set : later.asked var = 1 := fits.2 _ asks
  rw [asked_unset free] at set
  cases set

theorem spares_unset (unset : ⟨var, 0⟩ ∈ earlier.conditions) (asks : later.Asks var) :
    earlier.Spares later := by
  intro fits
  have clear : later.asked var = 0 := fits.2 _ unset
  rw [asked_set asks] at clear
  cases clear

end
end Rule

namespace RuleKind

theorem late_of_late {first second : RuleKind} (late : first.stage ≠ .layer)
    (before : first.place < second.place) : second.stage ≠ .layer := by
  revert late before
  cases first <;> cases second <;> decide

theorem passthrough_greatest (kind : RuleKind) : kind.place ≤ passthrough.place := by
  cases kind <;> decide

theorem passthrough_of_place {kind : RuleKind} (before : source.place < kind.place) :
    kind = .passthrough := by
  revert before
  cases kind <;> decide

end RuleKind

namespace Site
variable {site : Site}

theorem opposite_distinct (site : Site) : (site.opposite.map Prod.fst).Nodup :=
  site.config.homeRow.distinct.sublist ((List.filter_sublist.trans List.filter_sublist).map _)

theorem sameHand_distinct (site : Site) : site.sameHand.Nodup :=
  site.config.homeRow.distinct.sublist ((List.filter_sublist.trans List.filter_sublist).map _)

theorem opposite_apart {held : Key} {m : Modifier} (member : (held, m) ∈ site.opposite) :
    held ∉ site.sameHand := by
  intro beside
  obtain ⟨entry, inside, rfl⟩ := List.mem_map.1 beside
  have opposed := (List.mem_filter.1 member).2
  have unopposed := (List.mem_filter.1 inside).2
  simp_all

end Site

namespace LayerRules
variable {layer : Layer}

theorem gate_set : ∀ c ∈ gate layer, c.value = 1 := by
  cases parent : layer.parent <;> simp [gate, parent, isActive]

theorem needs_set {name : String} : ∀ c ∈ needs name layer, c.value = 1 := by
  rw [needs, List.forall_mem_cons]
  refine ⟨rfl, ?_⟩
  split
  · exact List.forall_mem_nil _
  · exact gate_set

end LayerRules

theorem HomeRowRules.ready_set {held : Key} : ∀ c ∈ ready held, c.value = 1 := by simp [ready]

namespace Site.Makes
variable {site : Site} {rule earlier later : Rule}

theorem consistent (made : site.Makes rule) : rule.Consistent := by
  cases made with
  | triggerRollover _ _ =>
    simp only [Rule.Consistent, LayerRules.rollover, List.forall_mem_append]
    refine ⟨fun c member => .inl (LayerRules.gate_set c member), ?_⟩
    simp [Rule.Asks, LayerRules.gate, LayerRules.isActive]
  | activation _ =>
    simp only [Rule.Consistent, HomeRowRules.activation, List.forall_mem_cons]
    refine ⟨.inr ⟨trivial, ?_⟩, fun c member => .inl ?_⟩
    · simp [Rule.Asks, HomeRowRules.ready]
    · obtain ⟨entry, _, asked⟩ := List.mem_flatMap.1 member
      exact HomeRowRules.ready_set c asked
  | trigger _ => exact fun c member => .inl (LayerRules.gate_set c member)
  | layerBinding _ _ => exact fun c member => .inl (LayerRules.needs_set c member)
  | layerSwallow _ _ | rolls _ | rolled _ | rollsBeside _ | rolledBeside _
  | modifierPassthrough _ | source _ | passthrough _ =>
    simp [Rule.Consistent, Rule.Asks, LayerRules.swallowed, LayerRules.isActive,
      HomeRowRules.typeBoth, HomeRowRules.typeOne, HomeRowRules.modifierPassthrough,
      HomeRowRules.source]

theorem bare (made : site.Makes rule) (other : rule.kind ≠ .modifierPassthrough) :
    rule.press.modifier = none := by
  cases made with
  | modifierPassthrough _ => exact absurd rfl other
  | _ => rfl

theorem asks_active (made : site.Makes rule) (late : rule.kind.stage ≠ .layer) {name : String} :
    ¬ rule.Asks (.active name) := by
  cases made with
  | triggerRollover _ _ | trigger _ | layerBinding _ _ | layerSwallow _ _ => exact absurd rfl late
  | _ => simp [Rule.Asks, HomeRowRules.activation, HomeRowRules.ready, HomeRowRules.typeBoth,
      HomeRowRules.typeOne, HomeRowRules.modifierPassthrough, HomeRowRules.source]

theorem asks_ready (made : site.Makes rule) (late : rule.kind.stage ≠ .layer)
    (other : rule.kind ≠ .activation) {held : Key} : ¬ rule.Asks (.heldReady held) := by
  cases made with
  | triggerRollover _ _ | trigger _ | layerBinding _ _ | layerSwallow _ _ => exact absurd rfl late
  | activation _ => exact absurd rfl other
  | _ => simp [Rule.Asks, HomeRowRules.typeBoth, HomeRowRules.typeOne,
      HomeRowRules.modifierPassthrough, HomeRowRules.source]

theorem trigger_stage (made : site.Makes rule) (late : rule.kind.stage ≠ .layer)
    (triggers : site.isTrigger = true) : rule.kind.stage = .homeRow := by
  cases made with
  | triggerRollover _ _ | trigger _ | layerBinding _ _ | layerSwallow _ _ => exact absurd rfl late
  | passthrough plain =>
    rw [triggers] at plain
    cases plain
  | _ => rfl

theorem asks_held (made : site.Makes rule) (late : RuleKind.rollover.place < rule.kind.place)
    {held : Key} (asks : rule.Asks (.held held)) :
    rule.kind = .sameHandRollover ∧ held ∈ site.sameHand := by
  cases made with
  | rollsBeside member | rolledBeside member =>
    simp_all [Rule.Asks, HomeRowRules.typeBoth, HomeRowRules.typeOne]
  | modifierPassthrough _ | source _ | passthrough _ => cases asks
  | _ => exact absurd late (of_decide_eq_false rfl)

theorem late_spares (made : site.Makes earlier) (made' : site.Makes later)
    (late : earlier.kind.stage ≠ .layer) (before : earlier.kind.place < later.kind.place)
    (seen : later.kind = .passthrough → site.isHomeRow = false) : earlier.Spares later := by
  have later_kind (kind : RuleKind) (least : kind.place ≤ earlier.kind.place) :
      later.kind ≠ kind := by
    rintro rfl
    exact absurd before (Nat.not_lt.2 least)
  have later_stage : later.kind.stage ≠ .layer := RuleKind.late_of_late late before
  cases made with
  | triggerRollover _ _ | trigger _ | layerBinding _ _ | layerSwallow _ _ => exact absurd rfl late
  | activation member =>
    obtain ⟨⟨held, m⟩, rest, rfl⟩ := List.exists_cons_of_ne_nil (Subsets.upTo_nonempty member)
    have asks : (HomeRowRules.activation site ((held, m) :: rest)).Asks (.heldReady held) := by
      simp [Rule.Asks, HomeRowRules.activation, HomeRowRules.ready]
    -- no other kind asks whether a key is ready
    exact Rule.spares_set asks (made'.asks_ready later_stage (later_kind _ (Nat.le_refl _)))
  | rolls member | rolled member =>
    refine Rule.spares_set List.mem_cons_self fun asks => ?_
    exact opposite_apart member (made'.asks_held before asks).2
  | rollsBeside member | rolledBeside member =>
    refine Rule.spares_set List.mem_cons_self fun asks => ?_
    have further : RuleKind.rollover.place < later.kind.place :=
      Nat.lt_trans (of_decide_eq_true rfl) before
    exact later_kind _ (Nat.le_refl _) (made'.asks_held further asks).1
  | modifierPassthrough _ =>
    apply Rule.spares_press
    rw [made'.bare (later_kind _ (Nat.le_refl _))]
    exact Option.some_ne_none _
  | source homeRow =>
    have last : later.kind = .passthrough := RuleKind.passthrough_of_place before
    rw [seen last] at homeRow
    cases homeRow
  | passthrough _ =>
    exact absurd before (Nat.not_lt.2 (RuleKind.passthrough_greatest _))

end Site.Makes
namespace HomeRowRules
variable (site : Site)

theorem activations_spared : (activations site).Pairwise Rule.Spares := by
  rw [activations, List.pairwise_map]
  refine (Subsets.upTo_apart site.opposite_distinct.of_map _).imp_of_mem ?_
  rintro earlier later member member' ⟨⟨held, m⟩, inside, outside⟩
  have asks : (activation site earlier).Asks (.heldReady held) := by
    simp only [Rule.Asks, activation]
    exact List.mem_cons_of_mem _ (List.mem_flatMap.2 ⟨_, inside, by simp [ready]⟩)
  refine Rule.spares_set asks fun again => outside ?_
  obtain ⟨m', inside'⟩ : ∃ m', (held, m') ∈ later := by
    simpa [Rule.Asks, activation, ready] using again
  have within := (Subsets.upTo_sublist member).subset inside
  have within' := (Subsets.upTo_sublist member').subset inside'
  rw [List.inj_on_of_nodup_map site.opposite_distinct within within' rfl]
  exact inside'

theorem pairs_spared {items : List α} {held : α → Key} {rules : α → List Rule}
    (distinct : (items.map held).Nodup) (twins : ∀ item, (rules item).Pairwise Rule.Spares)
    (asked : ∀ item, ∀ rule ∈ rules item, ∀ key, rule.Asks (.held key) ↔ key = held item) :
    (items.flatMap rules).Pairwise Rule.Spares := by
  rw [List.pairwise_flatMap]
  refine ⟨fun item _ => twins item, (List.pairwise_map.1 distinct).imp ?_⟩
  intro item other apart earlier member later member'
  apply Rule.spares_set ((asked item earlier member _).2 rfl)
  exact fun asks => apart ((asked other later member' _).1 asks)

theorem twins_spared {kind kind' : RuleKind} {held : Key} {conditions : List Condition}
    (unsent : ⟨.outputted held, 0⟩ ∈ conditions) :
    [typeBoth site kind held conditions, typeOne site kind' held].Pairwise Rule.Spares := by
  apply List.pairwise_pair.2
  exact Rule.spares_unset unsent (by simp [Rule.Asks, typeOne])

theorem rollovers_spared :
    (site.opposite.flatMap fun (held, _) => rollover site held).Pairwise Rule.Spares := by
  refine pairs_spared site.opposite_distinct (fun (held, m) => twins_spared site (by simp)) ?_
  simp [rollover, Rule.Asks, typeBoth, typeOne, eq_comm]

theorem sameHand_spared : (site.sameHand.flatMap (sameHandRollover site)).Pairwise Rule.Spares := by
  have distinct : (site.sameHand.map id).Nodup := by
    rw [List.map_id]
    exact site.sameHand_distinct
  refine pairs_spared distinct (fun held => twins_spared site (by simp)) ?_
  simp [sameHandRollover, Rule.Asks, typeBoth, typeOne, eq_comm]

theorem physical_spared : (Modifier.all.map (modifierPassthrough site)).Pairwise Rule.Spares := by
  rw [List.pairwise_map]
  have distinct : Modifier.all.Nodup := by decide
  exact distinct.imp fun apart => Rule.spares_press fun same => apart (Option.some.inj same)

end HomeRowRules

namespace Site
variable (site : Site)

def lateSections : List (RuleKind × List Rule) :=
  [(.activation, HomeRowRules.activations site),
    (.rollover, site.opposite.flatMap fun (held, _) => HomeRowRules.rollover site held),
    (.modifierPassthrough,
      if site.isHomeRow then Modifier.all.map (HomeRowRules.modifierPassthrough site) else []),
    (.sameHandRollover, site.sameHand.flatMap (HomeRowRules.sameHandRollover site)),
    (.source, if site.isHomeRow then [HomeRowRules.source site] else []),
    (.passthrough, Pass.passthrough site)]

theorem lateSections_rules : site.lateSections.flatMap Prod.snd =
    HomeRowRules.rules site ++ Pass.passthrough site := by
  simp [lateSections, HomeRowRules.rules]

theorem lateSections_kind : ∀ part ∈ site.lateSections, ∀ rule ∈ part.2, rule.kind = part.1 := by
  simp only [lateSections, List.forall_mem_cons]
  refine ⟨?_, ?_, ?_, ?_, ?_, ?_, nofun⟩
  · simp [HomeRowRules.activations, HomeRowRules.activation]
  · simp only [List.forall_mem_flatMap]
    simp [HomeRowRules.rollover, HomeRowRules.typeBoth, HomeRowRules.typeOne]
  · cases site.isHomeRow <;> simp [HomeRowRules.modifierPassthrough]
  · simp only [List.forall_mem_flatMap]
    simp [HomeRowRules.sameHandRollover, HomeRowRules.typeBoth, HomeRowRules.typeOne]
  · cases site.isHomeRow <;> simp [HomeRowRules.source]
  · cases plain : site.isTrigger <;> simp [Pass.passthrough, plain]

theorem lateSections_spared : ∀ part ∈ site.lateSections, part.2.Pairwise Rule.Spares := by
  simp only [lateSections, List.forall_mem_cons]
  refine ⟨HomeRowRules.activations_spared site, HomeRowRules.rollovers_spared site, ?_,
    HomeRowRules.sameHand_spared site, ?_, ?_, nofun⟩
  · split
    · exact HomeRowRules.physical_spared site
    · exact .nil
  · split
    · exact List.pairwise_singleton _ _
    · exact .nil
  · unfold Pass.passthrough
    split
    · exact .nil
    · exact List.pairwise_singleton _ _

theorem late_spared : (HomeRowRules.rules site ++ Pass.passthrough site).Pairwise
    fun earlier later => ¬ later.Buried site.config site.key → earlier.Spares later := by
  have placed : site.lateSections.Pairwise fun first second => first.1.place < second.1.place := by
    simp [lateSections, RuleKind.place]
  have members {part : RuleKind × List Rule} (inside : part ∈ site.lateSections) {rule : Rule}
      (member : rule ∈ part.2) : site.Makes rule ∧ rule.kind.stage ≠ .layer := by
    apply Pass.late_rules
    rw [← lateSections_rules]
    exact List.mem_flatMap.2 ⟨part, inside, member⟩
  rw [← lateSections_rules, List.pairwise_flatMap]
  constructor
  · intro part inside
    refine (site.lateSections_spared part inside).imp ?_
    exact fun spares _ => spares
  · refine placed.imp_of_mem ?_
    intro first second inside inside' before earlier member later member' seen
    obtain ⟨made, late⟩ := members inside member
    obtain ⟨made', _⟩ := members inside' member'
    rw [← site.lateSections_kind _ inside _ member,
      ← site.lateSections_kind _ inside' _ member'] at before
    apply made.late_spares made' late before
    intro last
    rw [Bool.eq_false_iff]
    exact fun homeRow => seen (.inl ⟨last, of_decide_eq_true homeRow⟩)

end Site

namespace LayerRules

def Voices (entry : String × Layer) (rule : Rule) : Prop :=
  rule.Asks (.active entry.1) ∧
    ∀ name, rule.Asks (.active name) → name = entry.1 ∨ entry.2.parent = some name

variable {site : Site} {config : Config} {entry : String × Layer} {rule : Rule}

theorem binding_voices (made : binding? site entry = some rule) : Voices entry rule := by
  obtain ⟨stroke, _, rfl⟩ := Option.map_eq_some_iff.1 made
  refine ⟨List.mem_cons_self, fun name asks => ?_⟩
  rcases List.mem_cons.1 asks with same | above
  · exact .inl (by simpa [isActive] using same)
  · split at above
    · cases above
    · exact .inr (by simpa [gate, isActive] using above)

theorem swallow_asks (made : swallow? site entry = some rule) {name : String} :
    rule.Asks (.active name) ↔ name = entry.1 := by
  obtain ⟨_, same⟩ := Option.ite_none_right_eq_some.1 made
  cases same
  simp [Rule.Asks, swallowed, isActive]

theorem swallow_voices (made : swallow? site entry = some rule) : Voices entry rule :=
  ⟨(swallow_asks made).2 rfl, fun _ asks => .inl ((swallow_asks made).1 asks)⟩

theorem section_spared (flat : config.Flat) {rule? : String × Layer → Option Rule}
    (voices : ∀ {entry rule}, rule? entry = some rule → Voices entry rule) :
    ((childrenFirst config).filterMap rule?).Pairwise Rule.Spares := by
  rw [List.pairwise_filterMap]
  refine (childrenFirst_asked config).imp_of_mem ?_
  intro first second inside inside' asked rule made rule' made'
  have member := childrenFirst_member inside
  have member' := childrenFirst_member inside'
  refine Rule.spares_set (voices made).1 fun again => ?_
  rcases (voices made').2 _ again with same | isChild
  · cases List.inj_on_of_nodup_map config.layers.distinct member member' same
    exact asked_asymm asked asked
  · rcases asked with ⟨_, root⟩ | ⟨alike, _⟩
    · rw [isChild] at root
      cases root
    · rw [flat second member' first member isChild, isChild] at alike
      cases alike

theorem bindingRules_spared (flat : site.config.Flat) :
    (bindingRules site).Pairwise Rule.Spares := by
  refine List.pairwise_append.2
    ⟨section_spared flat binding_voices, section_spared flat swallow_voices, ?_⟩
  intro earlier binding later swallow
  obtain ⟨entry, inside, made⟩ := List.mem_filterMap.1 binding
  obtain ⟨entry', inside', made'⟩ := List.mem_filterMap.1 swallow
  refine Rule.spares_set (binding_voices made).1 fun asks => ?_
  have same := List.inj_on_of_nodup_map site.config.layers.distinct (childrenFirst_member inside)
    (childrenFirst_member inside') ((swallow_asks made').1 asks)
  obtain ⟨stroke, sent, _⟩ := Option.map_eq_some_iff.1 made
  simp [swallow?, ← same, sent] at made'

theorem bindingRules_voice (member : rule ∈ bindingRules site) :
    ∃ entry, Voices entry rule := by
  rcases List.mem_append.1 member with binding | swallow
  · obtain ⟨entry, _, made⟩ := List.mem_filterMap.1 binding
    exact ⟨entry, binding_voices made⟩
  · obtain ⟨entry, _, made⟩ := List.mem_filterMap.1 swallow
    exact ⟨entry, swallow_voices made⟩

theorem trigger_asks {name : String} {layer : Layer} {held : Key} :
    ¬ (trigger site name layer).Asks (.held held) := by
  simp [Rule.Asks, trigger, gate, isActive]

theorem rollover_asks {name : String} {layer : Layer} {held other : Key} :
    (rollover site name layer held).Asks (.held other) ↔ other = held := by
  simp [Rule.Asks, rollover, gate, isActive]

theorem triggerRules_spared (site : Site) (name : String) (layer : Layer) :
    (triggerRules site name layer).Pairwise Rule.Spares := by
  rw [triggerRules, List.pairwise_append, List.pairwise_map]
  refine ⟨?_, List.pairwise_singleton _ _, ?_⟩
  · have distinct : site.config.homeRow.keys.Nodup := site.config.homeRow.distinct
    refine distinct.imp fun apart => ?_
    exact Rule.spares_set (rollover_asks.2 rfl) fun asks => apart (rollover_asks.1 asks)
  · intro earlier rolls later last
    obtain ⟨held, _, rfl⟩ := List.mem_map.1 rolls
    cases List.mem_singleton.1 last
    exact Rule.spares_set (rollover_asks.2 rfl) trigger_asks

theorem triggerRules_gated {name : String} {layer : Layer}
    (member : rule ∈ triggerRules site name layer) :
    rule.press.modifier = none ∧ gate layer ⊆ rule.conditions := by
  rcases List.mem_append.1 member with rolls | last
  · obtain ⟨held, _, rfl⟩ := List.mem_map.1 rolls
    exact ⟨rfl, List.subset_append_left _ _⟩
  · cases List.mem_singleton.1 last
    exact ⟨rfl, List.Subset.refl _⟩

end LayerRules

section
variable {config : Config} {layout : Layout} {key : Key}

theorem LayerRules.rules_spared (flat : config.Flat) :
    (rules (Keymap.siteOf config layout key)).Pairwise Rule.Spares := by
  cases found : config.layerTriggeredBy? key with
  | none =>
    rw [rules_plain found]
    exact bindingRules_spared flat
  | some entry =>
    rw [rules_triggered found]
    exact triggerRules_spared _ _ _

open LayerRules in
theorem layers_spare {earlier later : Rule}
    (member : earlier ∈ rules (Keymap.siteOf config layout key))
    (made : (Keymap.siteOf config layout key).Makes later) (late : later.kind.stage ≠ .layer)
    (seen : ¬ later.Buried config key) : earlier.Spares later := by
  cases found : config.layerTriggeredBy? key with
  | none =>
    rw [rules_plain found] at member
    obtain ⟨entry, voices⟩ := bindingRules_voice member
    exact Rule.spares_set voices.1 (made.asks_active late)
  | some entry =>
    rw [rules_triggered found] at member
    obtain ⟨bare, gated⟩ := triggerRules_gated member
    cases root : entry.2.parent with
    | some parent =>
      have asks : earlier.Asks (.active parent) := gated (by simp [gate, root, isActive])
      exact Rule.spares_set asks (made.asks_active late)
    | none =>
      have inside := List.mem_of_find?_eq_some found
      have triggers : entry.2.trigger = key := by simpa using List.find?_some found
      have stage := made.trigger_stage late (isTrigger_iff.2 ⟨entry, inside, triggers⟩)
      -- what the trigger leaves over are presses with a modifier
      apply Rule.spares_press
      intro same
      apply seen
      exact .inr ⟨same.symm.trans bare, stage, entry, inside, triggers, root⟩

theorem standard_spared (flat : config.Flat) :
    (Pipeline.standard.rules (Keymap.siteOf config layout key)).Pairwise
      fun earlier later => ¬ later.Buried config key → earlier.Spares later := by
  rw [LayerRules.standard_rules, List.append_assoc, List.pairwise_append]
  refine ⟨?_, (Keymap.siteOf config layout key).late_spared, ?_⟩
  · refine (LayerRules.rules_spared flat).imp ?_
    exact fun spares _ => spares
  · intro earlier member later member' seen
    obtain ⟨made, late⟩ := Pass.late_rules member'
    exact layers_spare member made late seen

end
end TapHold
