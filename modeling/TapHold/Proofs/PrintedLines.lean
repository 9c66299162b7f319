import TapHold.Keymap.Listing
import TapHold.Proofs.RuleText

namespace TapHold

namespace Text

-- The text is made of these lines, each with a line break at its end and none before it.
structure Lined (text : String) (lines : List String) : Prop where
  ended : text = String.join (lines.map (· ++ "\n"))
  unbroken : ∀ line ∈ lines, '\n' ∉ line.toList

namespace Lined
variable {text more : String} {lines others : List String}

theorem none : Lined "" [] := ⟨rfl, nofun⟩

theorem one {line : String} (unbroken : '\n' ∉ line.toList) : Lined (line ++ "\n") [line] :=
  ⟨by simp, List.forall_mem_singleton.2 unbroken⟩

theorem blank : Lined "\n" [""] := ⟨rfl, List.forall_mem_singleton.2 List.not_mem_nil⟩

theorem append (lined : Lined text lines) (behind : Lined more others) :
    Lined (text ++ more) (lines ++ others) where
  ended := by rw [lined.ended, behind.ended, List.map_append, String.join_append]
  unbroken := List.forall_mem_append.2 ⟨lined.unbroken, behind.unbroken⟩

section
variable {items : List α} {print : α → String} {block : α → List String}
  (each : ∀ item ∈ items, Lined (print item) (block item))
include each

theorem join : Lined (String.join (items.map print)) (items.flatMap block) := by
  induction items with
  | nil => exact none
  | cons item rest ih =>
    obtain ⟨here, further⟩ := List.forall_mem_cons.1 each
    rw [List.map_cons, String.join_cons, List.flatMap_cons]
    exact here.append (ih further)

-- A line break between two texts is a blank line between their lines.
theorem spaced :
    Lined (String.intercalate "\n" (items.map print)) ([""].intercalate (items.map block)) := by
  induction items with
  | nil => exact none
  | cons item rest ih =>
    obtain ⟨here, further⟩ := List.forall_mem_cons.1 each
    cases rest with
    | nil => simpa using here
    | cons next rest =>
      rw [List.map_cons, List.map_cons, String.intercalate_cons_cons, List.map_cons, List.map_cons,
        List.intercalate_cons_cons]
      exact (here.append blank).append (ih further)

end

theorem column {items : List α} (line : α → String)
    (unbroken : ∀ item ∈ items, '\n' ∉ (line item).toList) :
    Lined (String.join (items.map fun item => line item ++ "\n")) (items.map line) := by
  have lined : Lined _ (items.flatMap fun item => [line item]) :=
    join fun item member => one (unbroken item member)
  rwa [← List.map_eq_flatMap] at lined

end Lined

theorem unbroken_clear {text : List Char} (clear : ∀ c ∈ text, isBlank c = false) : '\n' ∉ text :=
  fun member => absurd (clear '\n' member) (by decide)

theorem nat_unbroken (n : Nat) : '\n' ∉ n.repr.toList :=
  fun member => absurd (nat_numerals n '\n' member) (by decide)

theorem int_unbroken (n : Int) : '\n' ∉ n.repr.toList :=
  fun member => absurd (int_numerals n '\n' member) (by decide)

theorem padLeft_unbroken (width : Nat) {text : String} (unbroken : '\n' ∉ text.toList) :
    '\n' ∉ (padLeft width text).toList := by
  simp [padLeft, unbroken]

theorem padRight_unbroken (width : Nat) {text : String} (unbroken : '\n' ∉ text.toList) :
    '\n' ∉ (padRight width text).toList := by
  simp [padRight, unbroken]

theorem joined_unbroken {separator : List Char} {write : α → List Char} {items : List α}
    (between : '\n' ∉ separator) (each : ∀ item ∈ items, '\n' ∉ write item) :
    '\n' ∉ joined separator write items := by
  cases items with
  | nil => exact List.not_mem_nil
  | cons first items =>
    obtain ⟨here, further⟩ := List.forall_mem_cons.1 each
    simp only [joined, tail, List.mem_append, List.mem_flatMap, not_or, not_exists, not_and]
    exact ⟨here, fun item member => ⟨between, further item member⟩⟩

end Text

open Text

-- No name in the rule is empty or has a blank in it, whether the rule asks for it or sends it.
structure Rule.Spelled (rule : Rule) : Prop where
  press : rule.key.Spelled
  outputs : ∀ stroke ∈ rule.outputs, stroke.key.Spelled
  vars : ∀ var ∈ rule.vars, var.Spelled

theorem Stroke.unbroken {stroke : Stroke} (spelled : stroke.key.Spelled) :
    '\n' ∉ stroke.text.toList := by
  rw [stroke.marked_text]
  exact unbroken_clear (Key.marked_clear spelled)

theorem Press.unbroken {press : Press} (spelled : press.key.Spelled) :
    '\n' ∉ press.text.toList := by
  rw [press.marked_text]
  exact unbroken_clear (Key.marked_clear spelled)

theorem Expr.unbroken (value : Expr) : '\n' ∉ value.text.toList := by
  cases value with
  | int n => exact int_unbroken n
  | streakActive => decide
  | nowPlus ms =>
    rw [nowPlus_text, List.mem_append, not_or]
    exact ⟨by decide, nat_unbroken ms⟩

theorem Condition.unbroken {c : Condition} (spelled : c.var.Spelled) : '\n' ∉ c.text.toList := by
  simp only [c.text_parts, List.mem_append, not_or]
  exact ⟨unbroken_clear (StateVar.name_clear spelled), by decide, int_unbroken _⟩

namespace Action
variable {action : Action}

theorem written_unbroken {var : StateVar} {value : Expr} (spelled : var.Spelled) :
    '\n' ∉ written var value := by
  simp only [written, List.mem_append, not_or]
  exact ⟨unbroken_clear (StateVar.name_clear spelled), by decide, value.unbroken⟩

theorem unbroken (var : ∀ var ∈ action.var?, var.Spelled)
    (stroke : ∀ stroke ∈ action.stroke?, stroke.key.Spelled) : '\n' ∉ action.text.toList := by
  rw [text_parts]
  cases action with
  | swallow => decide
  | emit sent | emitIfAlone sent =>
    rw [List.mem_append, not_or]
    exact ⟨by decide, Stroke.unbroken (stroke sent rfl)⟩
  | setVar target value | setOnRelease target value =>
    rw [List.mem_append, not_or]
    exact ⟨by decide, written_unbroken (var target rfl)⟩
  | setWhenHeld target value threshold =>
    simp only [List.mem_append, not_or]
    exact ⟨by decide, nat_unbroken threshold, by decide, written_unbroken (var target rfl)⟩

end Action

namespace Rule

theorem Spelled.unbroken {rule : Rule} (spelled : rule.Spelled) : '\n' ∉ rule.text.toList := by
  have kind : '\n' ∉ rule.kind.text.toList := by cases rule.kind <;> decide
  have conditions : '\n' ∉ conditionText rule.conditions := by
    unfold conditionText
    split
    · exact List.not_mem_nil
    · rw [List.mem_append, not_or]
      refine ⟨by decide, joined_unbroken (by decide) fun c member => Condition.unbroken ?_⟩
      exact spelled.vars _ (mem_vars_asked member)
  have actions : '\n' ∉ actionText rule.actions := by
    refine joined_unbroken (by decide) fun action member => Action.unbroken ?_ ?_
    · exact fun var writes => spelled.vars _ (mem_vars_written member writes)
    · exact fun stroke sends => spelled.outputs _ (mem_outputs member sends)
  simp only [text_parts, List.mem_append, not_or]
  exact ⟨by decide, kind, by decide, Press.unbroken spelled.press, conditions, by decide, actions⟩

end Rule

namespace RuleSet

def heading (set : RuleSet) : String := s!"{set.key.name} ({set.rules.length} rules)"

def item (entry : Rule × Nat) : String := s!"  {padLeft 3 (toString entry.2)}. {entry.1.text}"

def numbered (set : RuleSet) : List String := (set.rules.zipIdx 1).map item

def lines (set : RuleSet) : List String := set.heading :: set.numbered

variable {set : RuleSet}

theorem heading_unbroken (spelled : set.key.Spelled) : '\n' ∉ set.heading.toList := by
  have name := unbroken_clear spelled.2
  have size := nat_unbroken set.rules.length
  simpa [heading, toString, name] using size

theorem item_unbroken {entry : Rule × Nat} (spelled : entry.1.Spelled) :
    '\n' ∉ (item entry).toList := by
  have place := padLeft_unbroken 3 (nat_unbroken entry.2)
  simpa [item, toString, spelled.unbroken] using place

theorem text_lined (key : set.key.Spelled) (rules : ∀ rule ∈ set.rules, rule.Spelled) :
    Lined set.text set.lines := by
  have parts : set.text = (set.heading ++ "\n") ++
      String.join ((set.rules.zipIdx 1).map fun entry => item entry ++ "\n") := by
    simp [text, heading, size, item, line, toString, String.append_assoc]
  rw [parts]
  refine (Lined.one (heading_unbroken key)).append (.column item fun entry member => ?_)
  exact item_unbroken (rules _ (List.fst_mem_of_mem_zipIdx member))

theorem lines_written (set : RuleSet) : "" ∉ set.lines := by
  have written {text : String} {c : Char} (inside : c ∈ text.toList) : "" ≠ text := by
    rintro rfl
    exact List.not_mem_nil inside
  rw [lines, List.mem_cons, not_or]
  have heading : ')' ∈ set.heading.toList := by simp [RuleSet.heading, toString]
  refine ⟨written heading, fun member => ?_⟩
  obtain ⟨entry, _, blank⟩ := List.mem_map.1 member
  have place : '.' ∈ (item entry).toList := by simp [item, toString]
  exact written place blank.symm

end RuleSet

end TapHold
