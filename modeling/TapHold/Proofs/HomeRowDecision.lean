import TapHold.Keymap.HomeRowRules
import TapHold.Proofs.FirstFit
import TapHold.Proofs.LargestSubset
import TapHold.Proofs.ModifierLists

namespace TapHold

namespace HomeRowRules

def Ready (now : Valuation) (held : Key) : Prop :=
  now (.held held) = 1 ∧ now (.heldReady held) = 1

instance (now : Valuation) (held : Key) : Decidable (Ready now held) :=
  inferInstanceAs (Decidable (_ ∧ _))

def readyKeys (site : Site) (now : Valuation) : List (Key × Modifier) :=
  site.opposite.filter fun entry => Ready now entry.1

def Typed (now : Valuation) (held : Key) : Prop := now (.outputted held) = 1

instance (now : Valuation) (held : Key) : Decidable (Typed now held) :=
  inferInstanceAs (Decidable (_ = _))

-- A held key of the other hand is rolled over: it is neither ready nor was it typed before, or
-- it was typed before, ready or not.
def Rolls (now : Valuation) (held : Key) : Prop :=
  now (.held held) = 1 ∧
    (now (.heldReady held) = 0 ∧ now (.outputted held) = 0 ∨ Typed now held)

instance (now : Valuation) (held : Key) : Decidable (Rolls now held) :=
  inferInstanceAs (Decidable (_ ∧ _))

-- For a held key of the same hand it only matters that its flag is a flag.
def Beside (now : Valuation) (held : Key) : Prop :=
  now (.held held) = 1 ∧ (now (.outputted held) = 0 ∨ Typed now held)

instance (now : Valuation) (held : Key) : Decidable (Beside now held) :=
  inferInstanceAs (Decidable (_ ∧ _))

inductive Verdict where
  | chord (held : List (Key × Modifier))
  | rolled (held : Key) (typed : Bool)
  | beside (held : Key) (typed : Bool)
  | own
  deriving DecidableEq

def chord? (site : Site) (now : Valuation) : Option Verdict :=
  if now .isTypingStreak = 0 ∧ readyKeys site now ≠ [] then some (.chord (readyKeys site now))
  else none

def rolled? (site : Site) (now : Valuation) : Option Verdict :=
  (site.opposite.find? fun entry => Rolls now entry.1).map fun entry =>
    .rolled entry.1 (Typed now entry.1)

def beside? (site : Site) (now : Valuation) : Option Verdict :=
  (site.sameHand.find? fun held => Beside now held).map fun held => .beside held (Typed now held)

def own? (site : Site) : Option Verdict := if site.isHomeRow then some .own else none

def verdict (site : Site) (now : Valuation) : Option Verdict :=
  (chord? site now).or <| (rolled? site now).or <| (beside? site now).or <| own? site

namespace Verdict

def kind : Verdict → RuleKind
  | chord _ => .activation
  | rolled .. => .rollover
  | beside .. => .sameHandRollover
  | own => .source

def actions (site : Site) : Verdict → List Action
  | chord held => [.emit ⟨site.key, .ofList (held.map (·.2))⟩]
  | rolled held false | beside held false =>
    [.emit (.plain held), .emit (.plain site.key), .setVar (.outputted held) (.int 1)]
  | rolled _ true | beside _ true => [.emit (.plain site.key)]
  | own =>
    [.setVar (.held site.key) (.int 1),
      .setVar (.heldReady site.key) (.int 0),
      .setVar (.outputted site.key) (.int 0),
      .setWhenHeld (.heldReady site.key) (.int 1) site.config.timing.homeRowHold,
      .setOnRelease (.held site.key) (.int 0),
      .setOnRelease (.heldReady site.key) (.int 0),
      .setOnRelease (.outputted site.key) (.int 0),
      .emitIfAlone (.plain site.key)]

def conditions : Verdict → List Condition
  | chord held =>
    ⟨.isTypingStreak, 0⟩ :: held.flatMap fun entry => [⟨.held entry.1, 1⟩, ⟨.heldReady entry.1, 1⟩]
  | rolled held false => [⟨.held held, 1⟩, ⟨.heldReady held, 0⟩, ⟨.outputted held, 0⟩]
  | beside held false => [⟨.held held, 1⟩, ⟨.outputted held, 0⟩]
  | rolled held true | beside held true => [⟨.held held, 1⟩, ⟨.outputted held, 1⟩]
  | own => []

def rule (site : Site) (v : Verdict) : Rule :=
  ⟨v.kind, .bare site.key, v.conditions, site.streak ++ v.actions site⟩

end Verdict

section
variable {site : Site} {now : Valuation}

theorem activation_fits {chord : List (Key × Modifier)} :
    (activation site chord).Fits none now ↔
      now .isTypingStreak = 0 ∧ chord.all (fun entry => Ready now entry.1) = true := by
  rw [activation, Rule.fits_bare, List.forall_mem_cons, List.forall_mem_flatMap, List.all_eq_true]
  refine and_congr Iff.rfl (forall₂_congr fun entry _ => ?_)
  rw [decide_eq_true_iff]
  simp [ready, Condition.Holds, Ready]

theorem activations_first :
    firstFit none now (activations site) = (chord? site now).map (Verdict.rule site) := by
  rw [activations, firstFit_map]
  by_cases calm : now .isTypingStreak = 0
  · have tested : (fun chord => decide ((activation site chord).Fits none now)) =
        fun chord => chord.all fun entry => decide (Ready now entry.1) := by
      funext chord
      rw [Bool.eq_iff_iff, decide_eq_true_iff, activation_fits]
      simp [calm]
    rw [tested, Subsets.largestFirst_find, chord?, readyKeys]
    by_cases nothing : site.opposite.filter (fun entry => decide (Ready now entry.1)) = []
    · simp [nothing]
    · simp [nothing, calm]
      rfl
  · have tested : (fun chord => decide ((activation site chord).Fits none now)) =
        fun _ => false := by
      funext chord
      simp [activation_fits, calm]
    simp [tested, chord?, calm]

theorem typeOne_fits {kind : RuleKind} {held : Key} :
    (typeOne site kind held).Fits none now ↔ now (.held held) = 1 ∧ Typed now held := by
  rw [typeOne, Rule.fits_bare]
  simp [Condition.Holds, Typed]

-- The two rules for one held key never fit together, since a flag that is 1 is not 0. So one of
-- them fits exactly when the key is down and one of their demands on the flag is met.
theorem pair_first {kind : RuleKind} {held : Key} {conditions : List Condition} {fresh : Prop}
    [Decidable fresh] (asked : (∀ c ∈ conditions, c.Holds now) ↔ now (.held held) = 1 ∧ fresh)
    (untyped : fresh → now (.outputted held) = 0) :
    firstFit none now [typeBoth site kind held conditions, typeOne site kind held] =
      if now (.held held) = 1 ∧ (fresh ∨ Typed now held) then
        some (if Typed now held then typeOne site kind held else typeBoth site kind held conditions)
      else none := by
  have both : (typeBoth site kind held conditions).Fits none now ↔
      now (.held held) = 1 ∧ fresh := by
    rw [typeBoth, Rule.fits_bare, asked]
  rw [firstFit_cons, firstFit_cons, firstFit_nil]
  simp only [both, typeOne_fits]
  by_cases typed : Typed now held
  · have stale : ¬ fresh := by
      intro unsent
      have clash : (1 : Int) = 0 := typed.symm.trans (untyped unsent)
      cases clash
    simp only [typed, stale, and_false, if_false, false_or, and_true, if_true]
  · simp only [typed, and_false, if_false, or_false]

theorem rollover_first (held : Key) :
    firstFit none now (rollover site held) =
      if Rolls now held then some (Verdict.rule site (.rolled held (Typed now held)))
      else none := by
  have asked : (∀ c ∈ [⟨.held held, 1⟩, ⟨.heldReady held, 0⟩, ⟨.outputted held, 0⟩],
      Condition.Holds now c) ↔
        now (.held held) = 1 ∧ now (.heldReady held) = 0 ∧ now (.outputted held) = 0 := by
    simp [Condition.Holds]
  rw [rollover, pair_first asked And.right]
  by_cases typed : Typed now held
  · simp only [Rolls, typed, if_true, decide_true]
    rfl
  · simp only [Rolls, typed, if_false, decide_false]
    rfl

theorem sameHandRollover_first (held : Key) :
    firstFit none now (sameHandRollover site held) =
      if Beside now held then some (Verdict.rule site (.beside held (Typed now held)))
      else none := by
  have asked : (∀ c ∈ [⟨.held held, 1⟩, ⟨.outputted held, 0⟩], Condition.Holds now c) ↔
      now (.held held) = 1 ∧ now (.outputted held) = 0 := by
    simp [Condition.Holds]
  rw [sameHandRollover, pair_first asked id]
  by_cases typed : Typed now held
  · simp only [Beside, typed, if_true, decide_true]
    rfl
  · simp only [Beside, typed, if_false, decide_false]
    rfl

theorem passthroughs_first :
    firstFit none now (Modifier.all.map (modifierPassthrough site)) = none := by
  apply firstFit_none
  intro rule member
  obtain ⟨m, _, rfl⟩ := List.mem_map.1 member
  simp [Rule.Fits, modifierPassthrough]

theorem source_fits : (source site).Fits none now := by
  rw [source, Rule.fits_bare]
  simp

theorem own_first :
    firstFit none now (if site.isHomeRow then [source site] else []) =
      (own? site).map (Verdict.rule site) := by
  rw [own?]
  split
  · rw [firstFit_cons, if_pos source_fits]
    rfl
  · rfl

theorem unmodified_first :
    firstFit none now
      (if site.isHomeRow then Modifier.all.map (modifierPassthrough site) else []) = none := by
  split
  · exact passthroughs_first
  · rfl

-- The sections of the list follow each other as the parts of the verdict do. The rules for
-- physical modifiers lie in between and fit no bare press.
theorem rules_first :
    firstFit none now (rules site) = (verdict site now).map (Verdict.rule site) := by
  have opposite : firstFit none now
      (site.opposite.flatMap fun entry => rollover site entry.1) =
        (rolled? site now).map (Verdict.rule site) := by
    rw [firstFit_flatMap site.opposite fun entry => rollover_first entry.1, rolled?, Option.map_map]
    rfl
  have sameHand : firstFit none now (site.sameHand.flatMap (sameHandRollover site)) =
      (beside? site now).map (Verdict.rule site) := by
    rw [firstFit_flatMap site.sameHand sameHandRollover_first, beside?, Option.map_map]
    rfl
  rw [rules, firstFit_append, firstFit_append, firstFit_append, firstFit_append,
    activations_first, opposite, unmodified_first, sameHand, own_first, verdict]
  simp only [Option.map_or, Option.or_none, Option.or_assoc]

end

end HomeRowRules
end TapHold
