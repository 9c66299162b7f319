import TapHold.Proofs.KeyNames
import TapHold.Proofs.ModifierLists
import TapHold.Proofs.UniqueReading
import TapHold.Proofs.VarNames
import TapHold.Rule

namespace TapHold

namespace Text

def isNumeral (c : Char) : Bool := c.isDigit || c == '-'

theorem nat_numerals (n : Nat) : ∀ c ∈ n.repr.toList, isNumeral c = true := by
  intro c member
  rw [Nat.toList_repr] at member
  simp [isNumeral, Nat.isDigit_of_mem_toDigits (by decide) (by decide) member]

theorem int_numerals (n : Int) : ∀ c ∈ n.repr.toList, isNumeral c = true := by
  rw [Int.repr_eq_if]
  split
  · exact nat_numerals _
  · rw [String.toList_append, List.forall_mem_append]
    exact ⟨by simp [isNumeral], nat_numerals _⟩

theorem int_present (n : Int) : n.repr.toList ≠ [] := by
  rw [Int.repr_eq_if]
  split
  · rw [Nat.toList_repr]
    exact Nat.toDigits_ne_nil
  · simp

theorem nat_unique {m n : Nat} (same : m.repr.toList = n.repr.toList) : m = n := by
  rw [Nat.toList_repr, Nat.toList_repr] at same
  have read := congrArg (Nat.ofDigitChars 10 · 0) same
  simpa only [Nat.ofDigitChars_ten_toDigits] using read

theorem nat_unsigned (n : Nat) : '-' ∉ n.repr.toList := by
  intro member
  rw [Nat.toList_repr] at member
  have digit := Nat.isDigit_of_mem_toDigits (by decide) (by decide) member
  exact absurd digit (by decide)

theorem negSucc_signed (n : Nat) : (Int.negSucc n).repr.toList = '-' :: (n + 1).repr.toList := by
  simp [Int.repr]

theorem negSucc_apart (m n : Nat) : m.repr.toList ≠ (Int.negSucc n).repr.toList := by
  intro same
  rw [negSucc_signed] at same
  exact absurd (same ▸ List.mem_cons_self) (nat_unsigned m)

theorem int_unique {m n : Int} (same : m.repr.toList = n.repr.toList) : m = n := by
  cases m with
  | ofNat m =>
    cases n with
    | ofNat n => exact congrArg Int.ofNat (nat_unique same)
    | negSucc n => exact absurd same (negSucc_apart m n)
  | negSucc m =>
    cases n with
    | ofNat n => exact absurd same.symm (negSucc_apart n m)
    | negSucc n =>
      rw [negSucc_signed, negSucc_signed] at same
      exact congrArg Int.negSucc (Nat.succ.inj (nat_unique (List.cons.inj same).2))

theorem nat_legible : Legible (fun n : Nat => n.repr.toList) (fun _ => True) (Stops isNumeral) :=
  run_legible isNumeral (fun n _ => nat_numerals n) (fun _ _ _ _ => nat_unique) fun _ => id

theorem int_legible : Legible (fun n : Int => n.repr.toList) (fun _ => True) (Stops isNumeral) :=
  run_legible isNumeral (fun n _ => int_numerals n) (fun _ _ _ _ => int_unique) fun _ => id

end Text

open Text (Legible Spaced Ended Stops isNumeral)

-- The symbols of its modifiers stand right before the key of a press or of a stroke, so its name
-- begins with none.
structure Key.Printable (key : Key) : Prop where
  spelled : key.Spelled
  unmarked : ∀ m : Modifier, key.name.toList.head? ≠ some m.symbol

namespace Key

def marked (marks : List Modifier) (key : Key) : List Char :=
  marks.map Modifier.symbol ++ key.name.toList

variable {marks marks' : List Modifier} {key key' : Key}

theorem marked_clear (spelled : key.Spelled) :
    ∀ c ∈ marked marks key, Text.isBlank c = false := by
  refine List.forall_mem_append.2 ⟨List.forall_mem_map.2 fun m _ => ?_, spelled.2⟩
  exact unjoined_clear m.symbol_clear

theorem unmarked_stops (printable : key.Printable) :
    Stops (fun c => (Modifier.ofSymbol? c).isSome) key.name.toList := by
  intro c first
  refine Option.isSome_eq_false_iff.2 (Option.isNone_iff_eq_none.2 ?_)
  refine Option.eq_none_iff_forall_ne_some.2 fun m found => printable.unmarked m ?_
  rw [← Modifier.symbol_of_ofSymbol found]
  exact first

theorem marked_unique (printable : key.Printable) (printable' : key'.Printable)
    (same : marked marks key = marked marks' key') : marks = marks' ∧ key = key' := by
  have symbols (marks : List Modifier) :
      ∀ c ∈ marks.map Modifier.symbol, (Modifier.ofSymbol? c).isSome = true :=
    List.forall_mem_map.2 fun m _ => by rw [Modifier.ofSymbol_symbol, Option.isSome_some]
  obtain ⟨marks, names⟩ := Text.run_unique (fun c => (Modifier.ofSymbol? c).isSome) (symbols _)
    (symbols _) (unmarked_stops printable) (unmarked_stops printable') same
  exact ⟨(List.map_inj_right fun _ _ => Modifier.symbol_inj).1 marks,
    name_inj (String.toList_inj.1 names)⟩

end Key

theorem Press.marked_text (press : Press) :
    press.text.toList = press.key.marked press.modifier.toList := by
  cases h : press.modifier <;> simp [text, h, Key.marked, Modifier.text]

theorem Press.legible :
    Legible (fun press : Press => press.text.toList) (·.key.Printable) Spaced := by
  refine Text.run_legible (fun c => !Text.isBlank c) (fun press printable => ?_)
    (fun press other printable printable' same => ?_) fun text spaced => spaced.stops rfl
  · rw [press.marked_text]
    simpa using Key.marked_clear printable.spelled
  · simp only [Press.marked_text] at same
    obtain ⟨marks, keys⟩ := Key.marked_unique printable printable' same
    cases press
    cases other
    have modifiers := congrArg List.head? marks
    rw [Option.head?_toList, Option.head?_toList] at modifiers
    exact Press.mk.injEq .. ▸ ⟨keys, modifiers⟩

theorem Stroke.marked_text (stroke : Stroke) :
    stroke.text.toList = stroke.key.marked stroke.modifiers.members := by
  simp [text, ModifierSet.text, Key.marked]

theorem Stroke.legible :
    Legible (fun stroke : Stroke => stroke.text.toList) (·.key.Printable) Ended := by
  intro stroke other rest rest' printable printable' ended ended' same
  simp only [Stroke.marked_text] at same
  obtain ⟨words, further⟩ := Text.word_ended (Key.marked_clear printable.spelled)
    (Key.marked_clear printable'.spelled) ended ended' same
  obtain ⟨marks, keys⟩ := Key.marked_unique printable printable' words
  obtain ⟨key, members, distinct⟩ := stroke
  obtain ⟨key', members', distinct'⟩ := other
  cases keys
  cases marks
  exact ⟨rfl, further⟩

namespace StateVar

def Spelled : StateVar → Prop
  | held key | heldReady key | outputted key => key.Spelled
  | active layer => Text.Whole Text.isBlank layer.toList
  | isTypingStreak | streakExpiry => True

theorem name_clear {var : StateVar} (spelled : var.Spelled) :
    ∀ c ∈ var.name.toList, Text.isBlank c = false := by
  cases var with
  | held key | heldReady key | outputted key =>
    rw [name, String.toList_append]
    exact List.forall_mem_append.2 ⟨spelled.2, by simp [Text.isBlank]⟩
  | active layer =>
    rw [name, String.toList_append]
    exact List.forall_mem_append.2 ⟨spelled.clear, by simp [Text.isBlank]⟩
  | isTypingStreak | streakExpiry => simp [name, Text.isBlank]

theorem legible : Legible (fun var : StateVar => var.name.toList) Spelled Spaced :=
  Text.run_legible (fun c => !Text.isBlank c)
    (fun _ spelled => by simpa using name_clear spelled)
    (fun _ _ _ _ same => name_unique (String.toList_inj.1 same)) fun _ spaced => spaced.stops rfl

end StateVar

theorem Condition.text_parts (c : Condition) :
    c.text.toList = c.var.name.toList ++ (" == ".toList ++ c.value.repr.toList) := by
  rw [← List.append_assoc, ← String.toList_append, ← String.toList_append]
  rfl

theorem Condition.legible :
    Legible (fun c : Condition => c.text.toList) (·.var.Spelled) Spaced := by
  intro c other rest rest' spelled spelled' spaced spaced' same
  simp only [text_parts, List.append_assoc] at same
  have equals (text : List Char) : Spaced (" == ".toList ++ text) := ⟨_, rfl⟩
  obtain ⟨vars, behind⟩ := StateVar.legible spelled spelled' (equals _) (equals _) same
  obtain ⟨values, further⟩ := Text.int_legible trivial trivial (spaced.stops rfl)
    (spaced'.stops rfl) (List.append_cancel_left behind)
  cases c
  cases other
  exact ⟨Condition.mk.injEq .. ▸ ⟨vars, values⟩, further⟩

namespace Expr

def lead : Expr → Option Char
  | int _ => none
  | streakActive => some 'i'
  | nowPlus _ => some 's'

theorem nowPlus_text (ms : Nat) :
    (nowPlus ms).text.toList = "system.now.milliseconds + ".toList ++ ms.repr.toList := by
  rw [← String.toList_append]
  rfl

theorem text_lead (value : Expr) : ∃ c more, value.text.toList = c :: more ∧
    value.lead = if isNumeral c then none else some c := by
  cases value with
  | int n =>
    obtain ⟨c, more, text⟩ := List.exists_cons_of_ne_nil (Text.int_present n)
    refine ⟨c, more, text, ?_⟩
    rw [Text.int_numerals n c (by simp [text])]
    rfl
  | streakActive => exact ⟨'i', _, rfl, rfl⟩
  | nowPlus ms => exact ⟨'s', _, nowPlus_text ms, rfl⟩

theorem legible : Legible (fun value : Expr => value.text.toList) (fun _ => True) Ended := by
  intro value other rest rest' _ _ ended ended' same
  have alike : value.lead = other.lead := by
    obtain ⟨c, more, text, lead⟩ := value.text_lead
    obtain ⟨c', more', text', lead'⟩ := other.text_lead
    simp only [text, text', List.cons_append, List.cons.injEq] at same
    rw [lead, lead', same.1]
  cases value with
  | int n =>
    cases other with
    | int m =>
      obtain ⟨rfl, further⟩ := Text.int_legible trivial trivial (ended.stops rfl)
        (ended'.stops rfl) same
      exact ⟨rfl, further⟩
    | _ => simp [lead] at alike
  | streakActive =>
    cases other with
    | streakActive => exact ⟨rfl, List.append_cancel_left same⟩
    | _ => simp [lead] at alike
  | nowPlus ms =>
    cases other with
    | nowPlus ms' =>
      simp only [nowPlus_text, List.append_assoc] at same
      obtain ⟨rfl, further⟩ := Text.nat_legible trivial trivial (ended.stops rfl)
        (ended'.stops rfl) (List.append_cancel_left same)
      exact ⟨rfl, further⟩
    | _ => simp [lead] at alike

end Expr

namespace Action

def written (var : StateVar) (value : Expr) : List Char :=
  var.name.toList ++ (" = ".toList ++ value.text.toList)

theorem text_parts (action : Action) : action.text.toList = match action with
    | setVar var value => "set ".toList ++ written var value
    | emit stroke => "emit ".toList ++ stroke.text.toList
    | swallow => "swallow".toList
    | setWhenHeld var value threshold =>
      "after ".toList ++ (threshold.repr.toList ++ ("ms held: set ".toList ++ written var value))
    | setOnRelease var value => "on release: set ".toList ++ written var value
    | emitIfAlone stroke => "if alone: emit ".toList ++ stroke.text.toList := by
  cases action <;> simp only [written, ← String.toList_append, ← String.append_assoc] <;> rfl

def lead : Action → List Char
  | setVar .. => ['s', 'e']
  | emit _ => ['e', 'm']
  | swallow => ['s', 'w']
  | setWhenHeld .. => ['a', 'f']
  | setOnRelease .. => ['o', 'n']
  | emitIfAlone _ => ['i', 'f']

theorem text_lead (action : Action) : ∃ more, action.text.toList = action.lead ++ more := by
  rw [text_parts]
  cases action <;> exact ⟨_, rfl⟩

theorem lead_of_text {a b : Action} {rest rest' : List Char}
    (same : a.text.toList ++ rest = b.text.toList ++ rest') : a.lead = b.lead := by
  obtain ⟨more, text⟩ := a.text_lead
  obtain ⟨more', text'⟩ := b.text_lead
  rw [text, text', List.append_assoc, List.append_assoc] at same
  exact List.append_inj_left same (by cases a <;> cases b <;> rfl)

structure Printable (action : Action) : Prop where
  var : ∀ var ∈ action.var?, var.Spelled
  stroke : ∀ stroke ∈ action.stroke?, stroke.key.Printable

theorem written_legible :
    Legible (fun pair : StateVar × Expr => written pair.1 pair.2) (·.1.Spelled) Ended := by
  rintro ⟨var, value⟩ ⟨var', value'⟩ rest rest' spelled spelled' ended ended' same
  simp only [written, List.append_assoc] at same
  have equals (text : List Char) : Spaced (" = ".toList ++ text) := ⟨_, rfl⟩
  obtain ⟨vars, behind⟩ := StateVar.legible spelled spelled' (equals _) (equals _) same
  obtain ⟨values, further⟩ :=
    Expr.legible trivial trivial ended ended' (List.append_cancel_left behind)
  exact ⟨Prod.ext vars values, further⟩

theorem timed_legible : Legible (fun timer : Nat × StateVar × Expr => timer.1.repr.toList ++
    ("ms held: set ".toList ++ written timer.2.1 timer.2.2)) (·.2.1.Spelled) Ended := by
  rintro ⟨threshold, pair⟩ ⟨threshold', pair'⟩ rest rest' spelled spelled' ended ended' same
  simp only [List.append_assoc] at same
  have unit (text : List Char) : Stops isNumeral ("ms held: set ".toList ++ text) := by
    rintro _ ⟨⟩
    rfl
  obtain ⟨thresholds, behind⟩ := Text.nat_legible trivial trivial (unit _) (unit _) same
  obtain ⟨pairs, further⟩ :=
    written_legible spelled spelled' ended ended' (List.append_cancel_left behind)
  exact ⟨Prod.ext thresholds pairs, further⟩

-- Actions of different sorts differ in the lead, those of one sort in what follows it.
theorem legible : Legible (fun action : Action => action.text.toList) Printable Ended := by
  intro action other rest rest' printable printable' ended ended' same
  have alike := lead_of_text same
  simp only [text_parts] at same
  cases action with
  | setVar var value =>
    cases other with
    | setVar var' value' =>
      obtain ⟨pairs, further⟩ := written_legible.opened _ (a := (var, value)) (b := (var', value'))
        (printable.var _ rfl) (printable'.var _ rfl) ended ended' same
      cases pairs
      exact ⟨rfl, further⟩
    | _ => simp [lead] at alike
  | emit stroke =>
    cases other with
    | emit stroke' =>
      obtain ⟨rfl, further⟩ := Stroke.legible.opened _ (printable.stroke _ rfl)
        (printable'.stroke _ rfl) ended ended' same
      exact ⟨rfl, further⟩
    | _ => simp [lead] at alike
  | swallow =>
    cases other with
    | swallow => exact ⟨rfl, List.append_cancel_left same⟩
    | _ => simp [lead] at alike
  | setWhenHeld var value threshold =>
    cases other with
    | setWhenHeld var' value' threshold' =>
      obtain ⟨timers, further⟩ := timed_legible.opened _ (a := (threshold, var, value))
        (b := (threshold', var', value')) (printable.var _ rfl) (printable'.var _ rfl) ended ended'
        same
      cases timers
      exact ⟨rfl, further⟩
    | _ => simp [lead] at alike
  | setOnRelease var value =>
    cases other with
    | setOnRelease var' value' =>
      obtain ⟨pairs, further⟩ := written_legible.opened _ (a := (var, value)) (b := (var', value'))
        (printable.var _ rfl) (printable'.var _ rfl) ended ended' same
      cases pairs
      exact ⟨rfl, further⟩
    | _ => simp [lead] at alike
  | emitIfAlone stroke =>
    cases other with
    | emitIfAlone stroke' =>
      obtain ⟨rfl, further⟩ := Stroke.legible.opened _ (printable.stroke _ rfl)
        (printable'.stroke _ rfl) ended ended' same
      exact ⟨rfl, further⟩
    | _ => simp [lead] at alike

end Action

namespace RuleKind

theorem text_bracketed (kind : RuleKind) : ∀ c ∈ kind.text.toList, (c != ']') = true := by
  cases kind <;> simp [text]

theorem texts_apart : ∀ kind ∈ all, ∀ other ∈ all, kind.text = other.text → kind = other := by
  decide

theorem legible :
    Legible (fun kind : RuleKind => kind.text.toList) (fun _ => True) (Stops (· != ']')) :=
  Text.run_legible (· != ']') (fun kind _ => text_bracketed kind)
    (fun kind other _ _ same =>
      texts_apart kind (all_complete kind) other (all_complete other) (String.toList_inj.1 same))
    fun _ => id

end RuleKind

namespace Rule

structure Printable (rule : Rule) : Prop where
  press : rule.key.Printable
  outputs : ∀ stroke ∈ rule.outputs, stroke.key.Printable
  vars : ∀ var ∈ rule.vars, var.Spelled

variable {rule : Rule}

theorem Printable.condition (printable : rule.Printable) :
    ∀ c ∈ rule.conditions, c.var.Spelled := fun _ member => printable.vars _ (mem_vars_asked member)

theorem Printable.action (printable : rule.Printable) :
    ∀ action ∈ rule.actions, action.Printable := fun _ member =>
  { var := fun _ writes => printable.vars _ (mem_vars_written member writes)
    stroke := fun _ sends => printable.outputs _ (mem_outputs member sends) }

def conditionText (conditions : List Condition) : List Char :=
  if conditions.isEmpty then []
  else " when ".toList ++ Text.joined " && ".toList (·.text.toList) conditions

def actionText (actions : List Action) : List Char :=
  Text.joined ", ".toList (·.text.toList) actions

def Arrow (rest : List Char) : Prop := ∃ more, rest = " -> ".toList ++ more

theorem text_parts (rule : Rule) : rule.text.toList =
    "[".toList ++ (rule.kind.text.toList ++ ("] ".toList ++ (rule.press.text.toList ++
      (conditionText rule.conditions ++ (" -> ".toList ++ actionText rule.actions))))) := by
  have conditions : (if rule.conditions.isEmpty then "" else
      " when " ++ String.intercalate " && " (rule.conditions.map Condition.text)).toList =
        conditionText rule.conditions := by
    unfold conditionText
    split
    · rfl
    · rw [String.toList_append, Text.joined_text]
  have actions := Text.joined_text ", " Action.text rule.actions
  rw [text, String.toList_append, String.toList_append, String.toList_append, conditions, actions]
  simp only [toString, String.toList_append, List.append_assoc]
  rfl

theorem conditionText_legible :
    Legible conditionText (fun conditions => ∀ c ∈ conditions, c.var.Spelled) Arrow := by
  have unlike (more : List Condition) (text text' : List Char) : Arrow text →
      text ≠ " when ".toList ++ Text.joined " && ".toList (·.text.toList) more ++ text' := by
    rintro ⟨after, rfl⟩
    simp
  rintro (_ | ⟨first, more⟩) (_ | ⟨other, others⟩) rest rest' spelled spelled' arrow arrow' same
  · exact ⟨rfl, same⟩
  · exact absurd same (unlike _ _ _ arrow)
  · exact absurd same.symm (unlike _ _ _ arrow')
  · simp only [conditionText, List.isEmpty_cons, if_neg Bool.false_ne_true,
      List.append_assoc] at same
    refine Text.joined_legible Condition.legible (fun _ => ⟨_, rfl⟩) ?_ ?_ ⟨nofun, spelled⟩
      ⟨nofun, spelled'⟩ arrow arrow' (List.append_cancel_left same)
    · rintro _ ⟨after, rfl⟩
      exact ⟨_, rfl⟩
    · rintro text ⟨after, same⟩
      simp at same

theorem conditionText_spaced (conditions : List Condition) {rest : List Char} (arrow : Arrow rest) :
    Spaced (conditionText conditions ++ rest) := by
  unfold conditionText
  split
  · obtain ⟨after, rfl⟩ := arrow
    exact ⟨_, rfl⟩
  · exact ⟨_, rfl⟩

theorem actionText_started (first : Action) (more : List Action) :
    actionText (first :: more) ≠ [] := by
  obtain ⟨text, lead⟩ := first.text_lead
  cases first <;> simp [actionText, Text.joined, lead, Action.lead]

theorem actionText_unique {actions others : List Action}
    (printable : ∀ action ∈ actions, action.Printable)
    (printable' : ∀ action ∈ others, action.Printable)
    (same : actionText actions = actionText others) : actions = others := by
  cases actions with
  | nil =>
    cases others with
    | nil => rfl
    | cons other others => exact absurd same.symm (actionText_started other others)
  | cons first more =>
    cases others with
    | nil => exact absurd same (actionText_started first more)
    | cons other others =>
      have lists : Legible actionText (fun actions => actions ≠ [] ∧ ∀ action ∈ actions,
          action.Printable) (· = []) :=
        Text.joined_legible Action.legible (fun text => .inr ⟨text, rfl⟩) (fun _ => .inl) (by simp)
      exact (lists ⟨List.cons_ne_nil first more, printable⟩
        ⟨List.cons_ne_nil other others, printable'⟩ rfl rfl (congrArg (· ++ []) same)).1

end Rule

theorem rule_text_unambiguous {rule other : Rule} (printable : rule.Printable)
    (printable' : other.Printable) : rule.text = other.text ↔ rule = other := by
  refine ⟨fun same => ?_, congrArg Rule.text⟩
  have texts := congrArg String.toList same
  simp only [Rule.text_parts, List.append_cancel_left_eq] at texts
  have bracket (text : List Char) : Stops (· != ']') ("] ".toList ++ text) := by
    rintro _ ⟨⟩
    rfl
  have arrow (text : List Char) : Rule.Arrow (" -> ".toList ++ text) := ⟨text, rfl⟩
  have spaced (conditions : List Condition) (text : List Char) :
      Spaced (Rule.conditionText conditions ++ (" -> ".toList ++ text)) :=
    Rule.conditionText_spaced conditions (arrow text)
  -- one part after the other is taken off the front
  obtain ⟨kinds, texts⟩ := RuleKind.legible trivial trivial (bracket _) (bracket _) texts
  obtain ⟨presses, texts⟩ := Press.legible printable.press printable'.press (spaced _ _)
    (spaced _ _) (List.append_cancel_left texts)
  obtain ⟨conditions, texts⟩ := Rule.conditionText_legible printable.condition printable'.condition
    (arrow _) (arrow _) texts
  have actions := Rule.actionText_unique printable.action printable'.action
    (List.append_cancel_left texts)
  cases rule
  cases other
  exact Rule.mk.injEq .. ▸ ⟨kinds, presses, conditions, actions⟩

namespace LookAlike

def sending (key : Key) : Rule :=
  ⟨.passthrough, .bare ⟨"->"⟩, [⟨.held ⟨"=="⟩, -1⟩],
    [.setVar (.heldReady ⟨"="⟩) .streakActive, .emit (.plain key), .swallow]⟩

theorem arrow_printable : (Key.mk "->").Printable :=
  ⟨⟨by decide, by simp [Text.isBlank]⟩, fun m => by cases m <;> simp [Modifier.symbol]⟩

theorem sending_printable {key : Key} (printable : key.Printable) : (sending key).Printable where
  press := arrow_printable
  outputs := by simpa [sending, Rule.outputs, Action.stroke?, Stroke.plain] using printable
  vars :=
    List.forall_mem_cons.2 ⟨⟨by decide, by simp [Text.isBlank]⟩,
      List.forall_mem_singleton.2 ⟨by decide, by simp [Text.isBlank]⟩⟩

end LookAlike

theorem comma_in_name_told :
    (LookAlike.sending ⟨"a,"⟩).Printable ∧ (LookAlike.sending ⟨"a"⟩).Printable ∧
      (LookAlike.sending ⟨"a,"⟩).text ≠ (LookAlike.sending ⟨"a"⟩).text := by
  have comma : (LookAlike.sending ⟨"a,"⟩).Printable :=
    LookAlike.sending_printable
      ⟨⟨by decide, by simp [Text.isBlank]⟩, fun m => by cases m <;> simp [Modifier.symbol]⟩
  have letter : (LookAlike.sending ⟨"a"⟩).Printable :=
    LookAlike.sending_printable
      ⟨⟨by decide, by simp [Text.isBlank]⟩, fun m => by cases m <;> simp [Modifier.symbol]⟩
  exact ⟨comma, letter, mt (rule_text_unambiguous comma letter).1 (by decide)⟩

-- A name that begins with a symbol cannot be told from a key with a modifier.
example : (Stroke.plain ⟨"⌘a"⟩).text = (Stroke.mk ⟨"a"⟩ (.single .command)).text := by decide

end TapHold
