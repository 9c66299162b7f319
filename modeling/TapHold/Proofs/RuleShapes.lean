import TapHold.Keymap.Pass

namespace TapHold
open HomeRowRules LayerRules

section
variable {α : Type u} {items : List α}

theorem filter_mergeSort {le : α → α → Bool} (trans : ∀ a b c, le a b → le b c → le a c)
    (total : ∀ a b, le a b || le b a) (keep : α → Bool)
    (alike : ∀ a b, keep a → keep b → le a b) :
    (items.mergeSort le).filter keep = items.filter keep := by
  have sorted : (items.filter keep).Pairwise fun a b => le a b :=
    List.pairwise_of_forall_mem_list fun a member b member' =>
      alike a b (List.mem_filter.1 member).2 (List.mem_filter.1 member').2
  have kept := (List.sublist_mergeSort trans total sorted List.filter_sublist).filter keep
  rw [List.filter_filter] at kept
  simp only [Bool.and_self] at kept
  exact (kept.eq_of_length ((List.mergeSort_perm items le).filter keep).length_eq.symm).symm

theorem filters_of_sorted {flag : α → Bool}
    (sorted : items.Pairwise fun a b => flag a ≤ flag b) :
    items = items.filter (!flag ·) ++ items.filter flag := by
  induction items with
  | nil => rfl
  | cons item rest ih =>
    obtain ⟨below, sorted⟩ := List.pairwise_cons.1 sorted
    cases raised : flag item with
    | false => simpa [raised] using ih sorted
    | true =>
      have all : ∀ other ∈ rest, flag other = true := fun other member => below other member raised
      have none : rest.filter (!flag ·) = [] := by simpa using all
      simp [raised, none, List.filter_eq_self.2 all]

theorem mergeSort_flag (flag : α → Bool) (items : List α) :
    (items.mergeSort fun a b => flag a ≤ flag b) =
      items.filter (!flag ·) ++ items.filter flag := by
  have trans (a b c : α) (low : decide (flag a ≤ flag b)) (high : decide (flag b ≤ flag c)) :
      decide (flag a ≤ flag c) :=
    decide_eq_true (Bool.le_trans (of_decide_eq_true low) (of_decide_eq_true high))
  have total (a b : α) : decide (flag a ≤ flag b) || decide (flag b ≤ flag a) := by
    simpa using Bool.le_total (flag a) (flag b)
  have sorted := (List.pairwise_mergeSort trans total items).imp of_decide_eq_true
  rw [filters_of_sorted sorted, filter_mergeSort trans total (!flag ·) (by simp_all),
    filter_mergeSort trans total flag (by simp_all)]

end

inductive Site.Makes (site : Site) : Rule → Prop where
  | triggerRollover (triggers : site.config.layerTriggeredBy? site.key = some (name, layer))
      (member : held ∈ site.config.homeRow.keys) :
      Makes site (LayerRules.rollover site name layer held)
  | trigger (triggers : site.config.layerTriggeredBy? site.key = some (name, layer)) :
      Makes site (LayerRules.trigger site name layer)
  | layerBinding (member : (name, layer) ∈ site.config.layers.entries)
      (sent : resolve site.config layer site.key = some stroke) :
      Makes site (bound site name layer stroke)
  | layerSwallow (member : (name, layer) ∈ site.config.layers.entries)
      (silent : resolve site.config layer site.key = none) :
      Makes site (swallowed site name)
  | activation (member : chord ∈ Subsets.largestFirst site.opposite) :
      Makes site (HomeRowRules.activation site chord)
  | rolls (member : (held, m) ∈ site.opposite) :
      Makes site (typeBoth site .rollover held
        [⟨.held held, 1⟩, ⟨.heldReady held, 0⟩, ⟨.outputted held, 0⟩])
  | rolled (member : (held, m) ∈ site.opposite) : Makes site (typeOne site .rollover held)
  | rollsBeside (member : held ∈ site.sameHand) :
      Makes site (typeBoth site .sameHandRollover held [⟨.held held, 1⟩, ⟨.outputted held, 0⟩])
  | rolledBeside (member : held ∈ site.sameHand) :
      Makes site (typeOne site .sameHandRollover held)
  | modifierPassthrough (homeRow : site.isHomeRow) :
      Makes site (HomeRowRules.modifierPassthrough site m)
  | source (homeRow : site.isHomeRow) : Makes site (HomeRowRules.source site)
  | passthrough (plain : site.isTrigger = false) :
      Makes site ⟨.passthrough, .bare site.key, [], site.streak ++ [.emit (.plain site.key)]⟩

section
variable {site : Site} {rule : Rule}

theorem Site.Makes.about (made : site.Makes rule) : rule.key = site.key := by
  cases made <;> rfl

-- The sort is stable, and it does not look at how far down a layer is.
theorem LayerRules.childrenFirst_sorted (config : Config) : childrenFirst config =
    config.layers.entries.mergeSort fun a b => a.2.parent.isNone ≤ b.2.parent.isNone := by
  rw [mergeSort_flag fun entry : String × Layer => entry.2.parent.isNone, childrenFirst]
  simp only [Option.not_isNone]

theorem LayerRules.childrenFirst_perm (config : Config) :
    (childrenFirst config).Perm config.layers.entries := by
  rw [childrenFirst_sorted]
  exact List.mergeSort_perm _ _

theorem LayerRules.childrenFirst_member {config : Config} {entry : String × Layer}
    (member : entry ∈ childrenFirst config) : entry ∈ config.layers.entries :=
  (childrenFirst_perm config).mem_iff.1 member

theorem LayerRules.member_childrenFirst {config : Config} {entry : String × Layer}
    (member : entry ∈ config.layers.entries) : entry ∈ childrenFirst config :=
  (childrenFirst_perm config).mem_iff.2 member

theorem LayerRules.makes_rules (member : rule ∈ LayerRules.rules site) :
    site.Makes rule ∧ rule.kind.stage = .layer := by
  unfold LayerRules.rules at member
  split at member
  · rename_i name layer triggers
    rcases List.mem_append.1 member with rolls | last
    · obtain ⟨held, inside, rfl⟩ := List.mem_map.1 rolls
      exact ⟨.triggerRollover triggers inside, rfl⟩
    · cases List.mem_singleton.1 last
      exact ⟨.trigger triggers, rfl⟩
  · rcases List.mem_append.1 member with binding | swallow
    · obtain ⟨⟨name, layer⟩, inside, made⟩ := List.mem_filterMap.1 binding
      obtain ⟨stroke, sent, rfl⟩ := Option.map_eq_some_iff.1 made
      exact ⟨.layerBinding (childrenFirst_member inside) sent, rfl⟩
    · obtain ⟨⟨name, layer⟩, inside, made⟩ := List.mem_filterMap.1 swallow
      simp only [swallow?, Option.ite_none_right_eq_some, Bool.and_eq_true,
        Option.isNone_iff_eq_none, Option.some.injEq] at made
      obtain ⟨⟨silent, _⟩, rfl⟩ := made
      exact ⟨.layerSwallow (childrenFirst_member inside) silent, rfl⟩

theorem HomeRowRules.makes_rules (member : rule ∈ HomeRowRules.rules site) :
    site.Makes rule ∧ rule.kind.stage = .homeRow := by
  simp only [HomeRowRules.rules, List.mem_append] at member
  rcases member with (((chord | opposite) | physical) | sameHand) | own
  · obtain ⟨chord, inside, rfl⟩ := List.mem_map.1 chord
    exact ⟨.activation inside, rfl⟩
  · obtain ⟨⟨held, m⟩, inside, made⟩ := List.mem_flatMap.1 opposite
    rcases List.mem_cons.1 made with rfl | last
    · exact ⟨.rolls inside, rfl⟩
    · cases List.mem_singleton.1 last
      exact ⟨.rolled inside, rfl⟩
  · split at physical
    · rename_i homeRow
      obtain ⟨m, _, rfl⟩ := List.mem_map.1 physical
      exact ⟨.modifierPassthrough homeRow, rfl⟩
    · cases physical
  · obtain ⟨held, inside, made⟩ := List.mem_flatMap.1 sameHand
    rcases List.mem_cons.1 made with rfl | last
    · exact ⟨.rollsBeside inside, rfl⟩
    · cases List.mem_singleton.1 last
      exact ⟨.rolledBeside inside, rfl⟩
  · split at own
    · rename_i homeRow
      cases List.mem_singleton.1 own
      exact ⟨.source homeRow, rfl⟩
    · cases own

theorem Pass.makes_passthrough (member : rule ∈ Pass.passthrough site) :
    site.Makes rule ∧ rule.kind.stage = .default := by
  unfold Pass.passthrough at member
  split at member
  · cases member
  · rename_i plain
    cases List.mem_singleton.1 member
    exact ⟨.passthrough (by simpa using plain), rfl⟩

def Pass.stage : Pass → Stage
  | layers => .layer
  | homeRow => .homeRow
  | default => .default

theorem Pass.makes_rules {pass : Pass} (member : rule ∈ pass.rules site) :
    site.Makes rule ∧ rule.kind.stage = pass.stage := by
  cases pass with
  | layers => exact LayerRules.makes_rules member
  | homeRow => exact HomeRowRules.makes_rules member
  | default => exact Pass.makes_passthrough member

-- Only the first of the standard passes makes rules of the layer stage.
theorem Pass.late_rules (member : rule ∈ HomeRowRules.rules site ++ Pass.passthrough site) :
    site.Makes rule ∧ rule.kind.stage ≠ .layer := by
  rcases List.mem_append.1 member with homeRow | last
  · obtain ⟨made, stage⟩ := HomeRowRules.makes_rules homeRow
    exact ⟨made, by simp [stage]⟩
  · obtain ⟨made, stage⟩ := Pass.makes_passthrough last
    exact ⟨made, by simp [stage]⟩

theorem Pipeline.makes_rules {passes : Pipeline} (member : rule ∈ passes.rules site) :
    site.Makes rule := by
  obtain ⟨pass, _, made⟩ := List.mem_flatMap.1 member
  exact (Pass.makes_rules made).1

end

end TapHold
