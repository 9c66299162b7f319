import Mathlib.Data.List.Forall2
import Mathlib.Data.List.Induction
import TapHold.ModifierSet
import TapHold.Proofs.Outcomes
import TapHold.Proofs.Tokens

namespace TapHold
open ModifierSet (isJoint listed)

theorem joint_of_blank {c : Char} (blank : Text.isBlank c = true) : isJoint c = true := by
  simp [isJoint, blank]

theorem unjoined_clear {c : Char} (unjoined : isJoint c = false) : Text.isBlank c = false := by
  by_contra blank
  rw [Bool.not_eq_false] at blank
  exact absurd (joint_of_blank blank) (by simp [unjoined])

theorem trim_unjoined {text : List Char} (clear : ∀ c ∈ text, isJoint c = false) :
    Text.trim text = text :=
  Text.trim_clear fun c member => unjoined_clear (clear c member)

theorem trims_unjoined {words : List (List Char)}
    (whole : ∀ word ∈ words, Text.Whole isJoint word) : words.map Text.trim = words :=
  (List.map_congr_left fun word among => trim_unjoined (whole word among).clear).trans
    (List.map_id _)

theorem joint_lower {c : Char} (joint : isJoint c = true) : c.toLower = c := by
  refine dif_neg fun upper => ?_
  have between : 65 ≤ c.toNat ∧ c.toNat ≤ 90 := by
    simpa [UInt32.le_iff_toNat_le] using upper
  simp only [isJoint, Text.isBlank, Bool.or_eq_true, Bool.and_eq_true, beq_iff_eq,
    decide_eq_true_eq] at joint
  rcases joint with (rfl | rfl) | blank
  · exact absurd between (by decide)
  · exact absurd between (by decide)
  · omega

namespace Modifier

theorem spellings_clear : ∀ m ∈ all, ∀ word ∈ m.spellings,
    word.isEmpty = false ∧ word.any isJoint = false := by decide

-- A spelling is the symbol, or there is no symbol in it.
theorem spellings_symbols : ∀ m ∈ all, ∀ word ∈ m.spellings,
    word = [m.symbol] ∨ word.all (fun c => (ofSymbol? c).isNone) = true := by decide

theorem symbol_lower (m : Modifier) : m.symbol.toLower = m.symbol := by cases m <;> decide

theorem symbol_clear (m : Modifier) : isJoint m.symbol = false := by cases m <;> decide

theorem symbol_inj {m n : Modifier} (same : m.symbol = n.symbol) : m = n := by
  have found := ofSymbol_symbol m
  rw [same, ofSymbol_symbol] at found
  exact (Option.some.inj found).symm

variable {word : List Char} {m : Modifier}

theorem spells_whole (spelled : Spells word m) : Text.Whole isJoint word := by
  obtain ⟨present, clear⟩ := spellings_clear m (all_complete m) _ spelled
  refine ⟨by simpa using present, fun c member => ?_⟩
  by_contra joint
  rw [Bool.not_eq_false] at joint
  have lowered := List.any_eq_false.1 clear c.toLower (List.mem_map_of_mem member)
  exact lowered (by rw [joint_lower joint, joint])

theorem spells_symbol (m : Modifier) : Spells [m.symbol] m := by cases m <;> decide

theorem lower_symbols (run : List Modifier) :
    (run.map symbol).map Char.toLower = run.map symbol := by
  rw [List.map_map]
  exact List.map_congr_left fun m _ => symbol_lower m

theorem spells_run {run : List Modifier} (spelled : Spells (run.map symbol) m) : run = [m] := by
  unfold Spells at spelled
  rw [lower_symbols] at spelled
  rcases spellings_symbols m (all_complete m) _ spelled with alone | none
  · cases run with
    | nil => cases alone
    | cons first rest =>
      obtain ⟨same, behind⟩ := List.cons.inj alone
      rw [symbol_inj same, List.map_eq_nil_iff.1 behind]
  · cases run with
    | nil => exact absurd (spellings_clear m (all_complete m) _ spelled).1 nofun
    | cons first rest =>
      have missed := List.all_eq_true.1 none first.symbol List.mem_cons_self
      rw [ofSymbol_symbol] at missed
      cases missed

theorem read_ok : read word = .ok m ↔ Spells (Text.trim word) m := by
  unfold read
  rw [← ofWord_exact]
  cases ofWord? (Text.trim word) <;> simp

theorem read_error {error : ModifierError} : read word = .error error ↔
    (∀ m, ¬ Spells (Text.trim word) m) ∧
      error = .unknown (String.ofList (Text.trim word)) := by
  simp only [← ofWord_exact]
  unfold read
  cases ofWord? (Text.trim word) <;> simp [eq_comm]

-- A word that names no modifier, behind words that all do.
structure FirstUnknown (Names : List Char → Modifier → Prop) (words : List (List Char))
    (word : List Char) : Prop where
  behind : ∃ front back, words = front ++ word :: back ∧ ∀ other ∈ front, ∃ m, Names other m
  unknown : ∀ m, ¬ Names word m

theorem FirstUnknown.member {Names : List Char → Modifier → Prop} {words : List (List Char)}
    (first : FirstUnknown Names words word) : word ∈ words := by
  obtain ⟨front, back, rfl, _⟩ := first.behind
  simp

theorem mapM_refused {read : List Char → Except ε Modifier} {words : List (List Char)}
    {Names : List Char → Modifier → Prop} {error : ε}
    (each : ∀ word ∈ words, ∀ m, read word = .ok m ↔ Names word m) :
    words.mapM read = .error error ↔
      ∃ word, FirstUnknown Names words word ∧ read word = .error error := by
  rw [mapM_error]
  constructor
  · rintro ⟨front, word, back, rfl, readable, refused⟩
    refine ⟨word, ⟨⟨front, back, rfl, fun other member => ?_⟩, fun m named => ?_⟩, refused⟩
    · obtain ⟨m, read⟩ := readable other member
      exact ⟨m, (each other (List.mem_append_left _ member) m).1 read⟩
    · cases refused.symm.trans ((each word (by simp) m).2 named)
  · rintro ⟨word, ⟨⟨front, back, rfl, named⟩, _⟩, refused⟩
    refine ⟨front, word, back, rfl, fun other member => ?_, refused⟩
    obtain ⟨m, names⟩ := named other member
    exact ⟨m, (each other (List.mem_append_left _ member) m).2 names⟩

theorem symbols_read {body : List Char} {run : List Modifier} :
    body.mapM ofSymbol? = some run ↔ body = run.map symbol := by
  constructor
  · intro read
    induction body generalizing run with
    | nil =>
      rw [List.mapM_nil] at read
      cases read
      rfl
    | cons c rest ih =>
      rw [List.mapM_cons] at read
      obtain ⟨m, here, others⟩ := Option.bind_eq_some_iff.1 read
      obtain ⟨further, behind, same⟩ := Option.bind_eq_some_iff.1 others
      cases same
      rw [List.map_cons, ← symbol_of_ofSymbol here, ← ih behind]
  · rintro rfl
    induction run with
    | nil => rfl
    | cons m rest ih =>
      rw [List.map_cons, List.mapM_cons, ofSymbol_symbol, ih]
      rfl

end Modifier

namespace ModifierSet
open Modifier (Spells symbol)

theorem ofList_firstSeen (members : List Modifier) :
    (ofList members).members = members.eraseDups := by
  induction members using List.reverseRecOn with
  | nil => rfl
  | append_singleton front m ih =>
    have last : ofList (front ++ [m]) = (ofList front).insert m := by simp [ofList]
    rw [last, insert_members, ih, List.eraseDups_append]
    by_cases present : m ∈ front
    · simp [List.removeAll, present]
    · simp [List.removeAll, present, List.eraseDups_cons]

theorem eraseDups_distinct {items : List Modifier} (distinct : items.Nodup) :
    items.eraseDups = items := by
  induction items with
  | nil => rfl
  | cons first rest ih =>
    obtain ⟨fresh, apart⟩ := List.nodup_cons.1 distinct
    have others : rest.filter (fun other => !other == first) = rest :=
      List.filter_eq_self.2 fun other member => by
        simpa using ne_of_mem_of_not_mem member fresh
    rw [List.eraseDups_cons, others, ih apart]

theorem members_inj {set other : ModifierSet} (same : set.members = other.members) :
    set = other := by
  cases set
  cases other
  cases same
  rfl

theorem ofList_members (set : ModifierSet) : ofList set.members = set :=
  members_inj (by rw [ofList_firstSeen, eraseDups_distinct set.distinct])

inductive Lists : List Char → List Modifier → Prop where
  | words {written : List Char} {words : List (List Char)} {modifiers : List Modifier}
      (spelled : List.Forall₂ Spells words modifiers)
      (spread : Text.Spread isJoint words written) : Lists written modifiers
  | run {written : List Char} {modifiers : List Modifier}
      (padded : Text.Padded (modifiers.map symbol) written) : Lists written modifiers

section
variable {written : List Char} {words : List (List Char)} {modifiers run : List Modifier}

theorem listed_trim (written : List Char) : listed (Text.trim written) = listed written := by
  obtain ⟨front, back, before, behind, parts⟩ := Text.padded_trim written
  have joints {gap : List Char} (blank : Text.Only Text.isBlank gap) : Text.Only isJoint gap :=
    fun c member => joint_of_blank (blank c member)
  have same : Text.wordsAt isJoint written = Text.wordsAt isJoint (Text.trim written) := by
    conv_lhs => rw [parts]
    rw [Text.wordsAt_behind (joints behind), Text.wordsAt_gap (joints before)]
  exact same.symm

theorem listed_words (spelled : List.Forall₂ Spells words modifiers)
    (spread : Text.Spread isJoint words written) : listed written = words :=
  spread.words (forall_left spelled fun _ _ => Modifier.spells_whole)

theorem run_clear (run : List Modifier) : ∀ c ∈ run.map symbol, isJoint c = false := by
  intro c member
  obtain ⟨m, _, rfl⟩ := List.mem_map.1 member
  exact m.symbol_clear

theorem run_trim (padded : Text.Padded (run.map symbol) written) :
    Text.trim written = run.map symbol := by
  rw [padded.trim, trim_unjoined (run_clear run)]

theorem run_listed (padded : Text.Padded (run.map symbol) written) (present : run ≠ []) :
    listed written = [run.map symbol] := by
  rw [← listed_trim, run_trim padded]
  exact Text.wordsAt_alone ⟨by simpa using present, run_clear run⟩

-- Where a run can be read as words, it is one symbol.
theorem Lists.run_only (lists : Lists written modifiers)
    (padded : Text.Padded (run.map symbol) written) (present : run ≠ []) : modifiers = run := by
  cases lists with
  | words spelled spread =>
    have alone := (listed_words spelled spread).symm.trans (run_listed padded present)
    rw [alone] at spelled
    obtain ⟨m, others, spells, none, rfl⟩ := List.forall₂_cons_left_iff.1 spelled
    rw [List.forall₂_nil_left_iff.1 none, Modifier.spells_run spells]
  | run padded' =>
    have same := (run_trim padded').symm.trans (run_trim padded)
    exact List.map_injective_iff.2 (fun _ _ => Modifier.symbol_inj) same

theorem Lists.none_iff (lists : Lists written modifiers) :
    modifiers = [] ↔ listed written = [] := by
  cases lists with
  | words spelled spread =>
    rw [listed_words spelled spread]
    constructor
    · rintro rfl
      exact List.forall₂_nil_right_iff.1 spelled
    · rintro rfl
      exact List.forall₂_nil_left_iff.1 spelled
  | run padded =>
    by_cases absent : modifiers = []
    · refine iff_of_true absent ?_
      rw [← listed_trim, run_trim padded, absent]
      rfl
    · rw [run_listed padded absent]
      simp [absent]

-- The words of a list are read as they stand, for there is no blank in them.
theorem listed_bare : ∀ word ∈ listed written, Text.trim word = word :=
  fun word member => trim_unjoined (Text.wordsAt_whole word member).clear

theorem listed_read : (listed written).mapM Modifier.read = .ok modifiers ↔
    List.Forall₂ Spells (listed written) modifiers := by
  have bare : (listed written).map Text.trim = listed written := trims_unjoined Text.wordsAt_whole
  rw [mapM_reads (fun _ _ => Modifier.read_ok), ← List.forall₂_map_left_iff, bare]

theorem Lists.listed_spelled (lists : Lists written modifiers)
    (single : ∀ run : List Modifier, Text.Padded (run.map symbol) written → run.length = 1) :
    List.Forall₂ Spells (listed written) modifiers := by
  cases lists with
  | words spelled spread =>
    rwa [listed_words spelled spread]
  | run padded =>
    obtain ⟨m, rfl⟩ := List.length_eq_one_iff.1 (single _ padded)
    rw [run_listed padded (List.cons_ne_nil m [])]
    exact .cons (Modifier.spells_symbol m) .nil

theorem listed_refused {error : ModifierError} :
    (listed written).mapM Modifier.read = .error error ↔
      ∃ word, Modifier.FirstUnknown Spells (listed written) word ∧
        error = .unknown (String.ofList word) := by
  have each : ∀ word ∈ listed written, ∀ m, Modifier.read word = .ok m ↔ Spells word m := by
    intro word member m
    rw [Modifier.read_ok, listed_bare word member]
  rw [Modifier.mapM_refused each]
  refine exists_congr fun word => and_congr_right fun first => ?_
  rw [Modifier.read_error, listed_bare word first.member]
  exact and_iff_right first.unknown

end

section
variable {text : String} {set : ModifierSet}

theorem parse_blank (blank : Text.trim text.toList = []) : parse text = .error .empty := by
  unfold parse
  rw [blank]
  rfl

theorem parse_run {run : List Modifier} (padded : Text.Padded (run.map symbol) text.toList)
    (present : run ≠ []) : parse text = .ok (ofList run) := by
  unfold parse
  dsimp only
  rw [run_trim padded, if_neg (by simpa using present), Modifier.symbols_read.2 rfl]

theorem parse_words (filled : Text.trim text.toList ≠ [])
    (worded : ∀ run : List Modifier, ¬ Text.Padded (run.map symbol) text.toList) :
    parse text = (do return ofList (← (listed text.toList).mapM Modifier.read)) := by
  have unread : (Text.trim text.toList).mapM Modifier.ofSymbol? = none := by
    rw [Option.eq_none_iff_forall_ne_some]
    intro run read
    refine worded run ?_
    rw [← Modifier.symbols_read.1 read]
    exact Text.padded_trim _
  unfold parse
  dsimp only
  rw [if_neg (by simpa using filled), unread, listed_trim]

theorem parse_ok : parse text = .ok set ↔ ∃ modifiers, Lists text.toList modifiers ∧
    Text.trim text.toList ≠ [] ∧ set = ofList modifiers := by
  by_cases blank : Text.trim text.toList = []
  · rw [parse_blank blank]
    refine iff_of_false nofun ?_
    rintro ⟨_, _, filled, _⟩
    exact filled blank
  by_cases worded : ∀ run : List Modifier, ¬ Text.Padded (run.map symbol) text.toList
  · rw [parse_words blank worded, bind_ok]
    simp only [listed_read, pure_ok]
    constructor
    · rintro ⟨modifiers, spelled, rfl⟩
      exact ⟨modifiers, .words spelled (Text.wordsAt_spread _), blank, rfl⟩
    · rintro ⟨modifiers, lists, _, rfl⟩
      exact ⟨modifiers, lists.listed_spelled fun run padded => absurd padded (worded run), rfl⟩
  · obtain ⟨run, padded⟩ := not_forall_not.1 worded
    have present : run ≠ [] := by
      rintro rfl
      exact blank (run_trim padded)
    rw [parse_run padded present]
    constructor
    · intro same
      cases same
      exact ⟨run, .run padded, blank, rfl⟩
    · rintro ⟨modifiers, lists, _, rfl⟩
      rw [lists.run_only padded present]

theorem parse_unknown {word : List Char} (unlisted : ∀ modifiers, ¬ Lists text.toList modifiers)
    (first : Modifier.FirstUnknown Spells (listed text.toList) word) :
    parse text = .error (.unknown (String.ofList word)) := by
  have worded (run : List Modifier) : ¬ Text.Padded (run.map symbol) text.toList :=
    fun padded => unlisted run (.run padded)
  have filled : Text.trim text.toList ≠ [] := by
    intro blank
    have member := first.member
    rw [← listed_trim, blank] at member
    cases member
  rw [parse_words filled worded, listed_refused.2 ⟨word, first, rfl⟩]
  rfl

end

theorem modifier_list_read (text : String) :
    (∀ modifiers, modifiers ≠ [] → Lists text.toList modifiers →
        ∃ set, parse text = .ok set ∧ set.members = modifiers.eraseDups) ∧
      (listed text.toList ≠ [] →
        (∀ modifiers, modifiers ≠ [] → ¬ Lists text.toList modifiers) →
          ∃ word, Modifier.FirstUnknown Spells (listed text.toList) word ∧
            parse text = .error (.unknown (String.ofList word))) ∧
      ∀ set, parse text = .ok set →
        (∃ modifiers, Lists text.toList modifiers ∧ set.members = modifiers.eraseDups) ∧
          set.members.Nodup ∧ (set.members ≠ [] → parse set.text = .ok set) := by
  refine ⟨fun modifiers present lists => ?_, fun worded unlisted => ?_, fun set read => ?_⟩
  · have filled : Text.trim text.toList ≠ [] := by
      intro blank
      refine present (lists.none_iff.2 ?_)
      rw [← listed_trim, blank]
      rfl
    exact ⟨_, parse_ok.2 ⟨modifiers, lists, filled, rfl⟩, ofList_firstSeen modifiers⟩
  · have never (modifiers : List Modifier) : ¬ Lists text.toList modifiers :=
      fun lists => unlisted modifiers (fun none => worded (lists.none_iff.1 none)) lists
    cases reading : (listed text.toList).mapM Modifier.read with
    | ok modifiers =>
      have lists := Lists.words (listed_read.1 reading) (Text.wordsAt_spread _)
      exact absurd lists (never modifiers)
    | error error =>
      obtain ⟨word, first, _⟩ := listed_refused.1 reading
      exact ⟨word, first, parse_unknown never first⟩
  · obtain ⟨modifiers, lists, _, same⟩ := parse_ok.1 read
    have inOrder : set.members = modifiers.eraseDups := by rw [same, ofList_firstSeen]
    refine ⟨⟨modifiers, lists, inOrder⟩, set.distinct, fun present => ?_⟩
    have shown : Text.Padded (set.members.map symbol) set.text.toList := by
      rw [ModifierSet.text, String.toList_ofList]
      exact .refl _
    rw [parse_run shown present, ofList_members]

theorem command_shift_listed :
    (∃ set, parse " ⌘+Shift-\tCMD " = .ok set ∧ set.members = [.command, .shift]) ∧
      ∃ word, Modifier.FirstUnknown Spells (listed "cmd+foo".toList) word ∧
        parse "cmd+foo" = .error (.unknown (String.ofList word)) := by
  constructor
  · have words : Text.wordsAt isJoint " ⌘+Shift-\tCMD ".toList =
        [['⌘'], "Shift".toList, "CMD".toList] := by rfl
    have spelled : List.Forall₂ Spells [['⌘'], "Shift".toList, "CMD".toList]
        [.command, .shift, .command] :=
      .cons (by decide) (.cons (by decide) (.cons (by decide) .nil))
    exact (modifier_list_read _).1 _ (List.cons_ne_nil _ _)
      (.words spelled (Text.spread_iff.2 words).1)
  · obtain ⟨listed, unlisted, _⟩ := modifier_list_read "cmd+foo"
    have refused : parse "cmd+foo" = .error (.unknown "foo") := by rfl
    refine unlisted (by decide) fun modifiers present lists => ?_
    obtain ⟨_, read, _⟩ := listed modifiers present lists
    cases refused.symm.trans read

end ModifierSet
end TapHold
