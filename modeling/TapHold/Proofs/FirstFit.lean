import TapHold.RuleSet

namespace TapHold

-- Values are integers without bound: what holds of all of them holds of those of 64 bits.
abbrev Valuation := StateVar → Int

def Condition.Holds (now : Valuation) (c : Condition) : Prop := now c.var = c.value

instance (now : Valuation) (c : Condition) : Decidable (c.Holds now) :=
  inferInstanceAs (Decidable (now c.var = c.value))

namespace Rule

-- The key of the rule is not looked at: only rules of the pressed key are asked.
def Fits (modifier : Option Modifier) (now : Valuation) (rule : Rule) : Prop :=
  rule.press.modifier = modifier ∧ ∀ c ∈ rule.conditions, c.Holds now

instance (modifier : Option Modifier) (now : Valuation) (rule : Rule) :
    Decidable (rule.Fits modifier now) :=
  inferInstanceAs (Decidable (_ ∧ _))

theorem fits_bare {now : Valuation} {kind : RuleKind} {key : Key} {conditions : List Condition}
    {actions : List Action} :
    Fits none now ⟨kind, .bare key, conditions, actions⟩ ↔ ∀ c ∈ conditions, c.Holds now := by
  simp [Fits, Press.bare]

end Rule

def firstFit (modifier : Option Modifier) (now : Valuation) (rules : List Rule) : Option Rule :=
  rules.find? (fun rule => rule.Fits modifier now)

section
variable {modifier : Option Modifier} {now : Valuation}

theorem firstFit_member {rules : List Rule} {rule : Rule}
    (first : firstFit modifier now rules = some rule) : rule ∈ rules :=
  List.mem_of_find?_eq_some first

theorem firstFit_fits {rules : List Rule} {rule : Rule}
    (first : firstFit modifier now rules = some rule) : rule.Fits modifier now := by
  simpa using List.find?_some first

theorem firstFit_none {rules : List Rule} (unfit : ∀ rule ∈ rules, ¬ rule.Fits modifier now) :
    firstFit modifier now rules = none := by
  simpa [firstFit] using unfit

theorem firstFit_append (front back : List Rule) :
    firstFit modifier now (front ++ back) =
      (firstFit modifier now front).or (firstFit modifier now back) :=
  List.find?_append

theorem firstFit_cons (rule : Rule) (rest : List Rule) :
    firstFit modifier now (rule :: rest) =
      if rule.Fits modifier now then some rule else firstFit modifier now rest := by
  by_cases fits : rule.Fits modifier now <;> simp [firstFit, fits]

theorem firstFit_nil : firstFit modifier now [] = none := rfl

theorem firstFit_map (rule : α → Rule) (items : List α) :
    firstFit modifier now (items.map rule) =
      (items.find? (fun item => (rule item).Fits modifier now)).map rule :=
  List.find?_map

theorem firstFit_filterMap (rule? : α → Option Rule) (items : List α) :
    firstFit modifier now (items.filterMap rule?) =
      (items.find? (fun item => (rule? item).any (fun rule => rule.Fits modifier now))).bind
        rule? :=
  List.find?_filterMap

theorem firstFit_filter {keep : Rule → Bool} {rules : List Rule}
    (unfit : ∀ rule ∈ rules, keep rule = false → ¬ rule.Fits modifier now) :
    firstFit modifier now (rules.filter keep) = firstFit modifier now rules := by
  induction rules with
  | nil => rfl
  | cons rule rest ih =>
    have later := ih fun other member => unfit other (List.mem_cons_of_mem _ member)
    cases kept : keep rule with
    | true => rw [List.filter_cons_of_pos kept, firstFit_cons, firstFit_cons, later]
    | false =>
      have missed := unfit rule List.mem_cons_self kept
      rw [List.filter_cons_of_neg (by simp [kept]), firstFit_cons, if_neg missed, later]

-- Several rules for each item, of which one fits exactly when the item is hit: then the first
-- item that is hit decides, and what its rules come to is carried out.
theorem firstFit_flatMap {rules : α → List Rule} {hit : α → Prop} [DecidablePred hit]
    {answer : α → Rule} (items : List α)
    (each : ∀ item, firstFit modifier now (rules item) =
      if hit item then some (answer item) else none) :
    firstFit modifier now (items.flatMap rules) =
      (items.find? (fun item => hit item)).map answer := by
  induction items with
  | nil => rfl
  | cons item rest ih =>
    rw [List.flatMap_cons, firstFit_append, each, ih]
    by_cases here : hit item <;> simp [here]

end
end TapHold
