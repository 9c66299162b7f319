import Mathlib.Data.List.Nodup
import TapHold.Proofs.LayerOrder

namespace TapHold

namespace Stage

def place : Stage → Nat
  | layer => 0
  | homeRow => 1
  | default => 2

end Stage

namespace RuleKind

-- A trigger has the first two kinds, any other key the next two.
def place : RuleKind → Nat
  | triggerRollover => 0
  | trigger => 1
  | layerBinding => 2
  | layerSwallow => 3
  | activation => 4
  | rollover => 5
  | modifierPassthrough => 6
  | sameHandRollover => 7
  | source => 8
  | passthrough => 9

def single : RuleKind → Bool
  | trigger | source | passthrough => true
  | _ => false

def MayPrecede (first second : RuleKind) : Prop :=
  first.place < second.place ∨ first = second ∧ first.single = false

instance (first second : RuleKind) : Decidable (first.MayPrecede second) :=
  inferInstanceAs (Decidable (_ ∨ _))

theorem stage_ordered {first second : RuleKind} (may : first.MayPrecede second) :
    first.stage.place ≤ second.stage.place := by
  revert may
  cases first <;> cases second <;> decide

def spelled (runs : List (RuleKind × Nat)) : List RuleKind :=
  runs.flatMap fun run => List.replicate run.2 run.1

structure Ascending (runs : List (RuleKind × Nat)) : Prop where
  placed : runs.Pairwise fun first second => first.1.place < second.1.place
  counted : ∀ run ∈ runs, run.1.single = true → run.2 ≤ 1

theorem spelled_ordered {runs : List (RuleKind × Nat)} (ascending : Ascending runs) :
    (spelled runs).Pairwise MayPrecede := by
  unfold spelled
  rw [List.pairwise_flatMap]
  constructor
  · intro run member
    rw [List.pairwise_replicate]
    cases single : run.1.single with
    | true => exact .inl (ascending.counted run member single)
    | false => exact .inr (.inr ⟨rfl, single⟩)
  · refine ascending.placed.imp fun {first second} before a inside b inside' => ?_
    rw [List.eq_of_mem_replicate inside, List.eq_of_mem_replicate inside']
    exact .inl before

theorem spelled_count (runs : List (RuleKind × Nat)) (kind : RuleKind) :
    (spelled runs).count kind = (spelled (runs.filter (·.1 = kind))).length := by
  induction runs with
  | nil => rfl
  | cons run rest ih =>
    unfold spelled at *
    rw [List.flatMap_cons, List.count_append, ih, List.count_replicate]
    by_cases same : run.1 = kind <;> simp [same]

end RuleKind

def Rule.kinds (rules : List Rule) : List RuleKind := rules.map (·.kind)

namespace Rule

theorem kinds_append (front back : List Rule) : kinds (front ++ back) = kinds front ++ kinds back :=
  List.map_append

theorem kinds_uniform {rules : List Rule} {kind : RuleKind}
    (alike : ∀ rule ∈ rules, rule.kind = kind) : kinds rules = List.replicate rules.length kind :=
  List.map_eq_replicate_iff.2 alike

theorem kinds_pairs {kind : RuleKind} {rules : α → List Rule}
    (each : ∀ item, kinds (rules item) = [kind, kind]) (items : List α) :
    kinds (items.flatMap rules) = List.replicate (2 * items.length) kind := by
  induction items with
  | nil => rfl
  | cons item rest ih =>
    rw [List.flatMap_cons, kinds_append, each, ih, List.length_cons, Nat.mul_succ, Nat.add_comm,
      ← List.replicate_append_replicate]
    rfl

end Rule

theorem RuleSet.count_kinds (set : RuleSet) (kind : RuleKind) :
    set.count kind = (Rule.kinds set.rules).count kind := by
  rw [count, Rule.kinds, List.count_eq_countP, List.countP_map]
  refine List.countP_congr fun rule _ => ?_
  simp

namespace HomeRowRules

def runs (site : Site) : List (RuleKind × Nat) :=
  [(.activation, (Subsets.largestFirst site.opposite).length),
    (.rollover, 2 * site.opposite.length),
    (.modifierPassthrough, if site.isHomeRow then 4 else 0),
    (.sameHandRollover, 2 * site.sameHand.length),
    (.source, if site.isHomeRow then 1 else 0)]

theorem rules_kinds (site : Site) : Rule.kinds (rules site) = RuleKind.spelled (runs site) := by
  have chords : Rule.kinds (activations site) =
      List.replicate (Subsets.largestFirst site.opposite).length .activation := by
    rw [activations, Rule.kinds, List.map_map]
    exact List.map_const'
  have opposite : Rule.kinds (site.opposite.flatMap fun entry => rollover site entry.1) =
      List.replicate (2 * site.opposite.length) .rollover :=
    Rule.kinds_pairs (fun _ => rfl) site.opposite
  have sameHand : Rule.kinds (site.sameHand.flatMap (sameHandRollover site)) =
      List.replicate (2 * site.sameHand.length) .sameHandRollover :=
    Rule.kinds_pairs (fun _ => rfl) site.sameHand
  have physical : Rule.kinds
      (if site.isHomeRow then Modifier.all.map (modifierPassthrough site) else []) =
        List.replicate (if site.isHomeRow then 4 else 0) .modifierPassthrough := by
    split <;> rfl
  have own : Rule.kinds (if site.isHomeRow then [source site] else []) =
      List.replicate (if site.isHomeRow then 1 else 0) .source := by
    split <;> rfl
  rw [rules, Rule.kinds_append, Rule.kinds_append, Rule.kinds_append, Rule.kinds_append, chords,
    opposite, physical, sameHand, own]
  simp [RuleKind.spelled, runs]

end HomeRowRules

namespace LayerRules

def runs (site : Site) : List (RuleKind × Nat) :=
  match site.config.layerTriggeredBy? site.key with
  | some _ => [(.triggerRollover, site.config.homeRow.size), (.trigger, 1)]
  | none =>
    [(.layerBinding, ((childrenFirst site.config).filterMap (binding? site)).length),
      (.layerSwallow, ((childrenFirst site.config).filterMap (swallow? site)).length)]

theorem rules_kinds (site : Site) : Rule.kinds (rules site) = RuleKind.spelled (runs site) := by
  unfold rules runs
  cases site.config.layerTriggeredBy? site.key with
  | some entry =>
    obtain ⟨name, layer⟩ := entry
    have rolls : Rule.kinds (site.config.homeRow.keys.map (rollover site name layer)) =
        List.replicate site.config.homeRow.size .triggerRollover := by
      rw [Rule.kinds, List.map_map, Dict.size, ← List.length_map Prod.fst]
      exact List.map_const'
    change Rule.kinds (triggerRules site name layer) = _
    rw [triggerRules, Rule.kinds_append, rolls]
    simp [RuleKind.spelled, Rule.kinds, trigger]
  | none =>
    have bindings : ∀ rule ∈ (childrenFirst site.config).filterMap (binding? site),
        rule.kind = .layerBinding := by
      intro rule member
      obtain ⟨_, _, made⟩ := List.mem_filterMap.1 member
      exact (binding_speaks made).1
    have swallows : ∀ rule ∈ (childrenFirst site.config).filterMap (swallow? site),
        rule.kind = .layerSwallow := by
      intro rule member
      obtain ⟨_, _, made⟩ := List.mem_filterMap.1 member
      exact (swallow_speaks made).1
    rw [bindingRules, Rule.kinds_append, Rule.kinds_uniform bindings, Rule.kinds_uniform swallows]
    simp [RuleKind.spelled]

end LayerRules

namespace Site

def runs (site : Site) : List (RuleKind × Nat) :=
  LayerRules.runs site ++ HomeRowRules.runs site ++
    [(.passthrough, if site.isTrigger then 0 else 1)]

theorem standard_kinds (site : Site) :
    Rule.kinds (Pipeline.standard.rules site) = RuleKind.spelled site.runs := by
  have own : Rule.kinds (Pass.passthrough site) =
      List.replicate (if site.isTrigger then 0 else 1) .passthrough := by
    unfold Pass.passthrough
    split <;> rfl
  rw [LayerRules.standard_rules, Rule.kinds_append, Rule.kinds_append, LayerRules.rules_kinds,
    HomeRowRules.rules_kinds, own]
  simp [RuleKind.spelled, runs]

theorem runs_ascending (site : Site) : RuleKind.Ascending site.runs := by
  have once (absent : Bool) : (if absent then 0 else 1) ≤ 1 := by cases absent <;> decide
  have atMostOnce (present : Bool) : (if present then 1 else 0) ≤ 1 := by
    cases present <;> decide
  unfold runs LayerRules.runs HomeRowRules.runs
  cases site.config.layerTriggeredBy? site.key with
  | none =>
    constructor
    · simp [RuleKind.place]
    · simp [RuleKind.single, once, atMostOnce]
  | some entry =>
    constructor
    · simp [RuleKind.place]
    · simp [RuleKind.single, once, atMostOnce]

-- For every site, sound or not.
theorem standard_ordered (site : Site) : (Pipeline.standard.rules site).Pairwise
    fun first second => first.kind.MayPrecede second.kind := by
  have ordered := RuleKind.spelled_ordered site.runs_ascending
  rw [← standard_kinds, Rule.kinds, List.pairwise_map] at ordered
  exact ordered

end Site
end TapHold
