import TapHold.Config.Binding
import TapHold.Proofs.KeyNames
import TapHold.Proofs.ModifierLists

namespace TapHold

namespace Binding
open Modifier (FirstUnknown)

def Marks (part : List Char) (m : Modifier) : Prop :=
  ∃ word, Modifier.Spells word m ∧ Text.Padded word part

-- How a stroke is written: as modifiers and, last, the key, or as a hyphen alone.
inductive Writes (written : List Char) : Stroke → Prop where
  | hyphen (padded : Text.Padded ['-'] written) : Writes written (.plain ⟨"-"⟩)
  | combination {parts : List (List Char)} {last : List Char} {modifiers : List Modifier}
      {stroke : Stroke} (marked : List.Forall₂ Marks parts modifiers)
      (spelled : stroke.key.Spelled) (unhyphened : '-' ∉ stroke.key.name.toList)
      (padded : Text.Padded stroke.key.name.toList last)
      (joined : written = ['-'].intercalate (parts ++ [last]))
      (inOrder : stroke.modifiers.members = modifiers.eraseDups) : Writes written stroke

structure Divided (body : List Char) (parts : List (List Char)) (last : List Char) : Prop where
  filled : body ≠ []
  unended : body.getLast? ≠ some '-'
  cut : body.splitOn '-' = parts ++ [last]

inductive Fault (body : List Char) : BindingError → Prop where
  | empty (nothing : body = []) : Fault body .empty
  | trailing (ended : body.getLast? = some '-') (more : body ≠ ['-']) : Fault body .trailingHyphen
  | key (divided : Divided body parts last)
      (broken : ∃ c ∈ Text.trim last, Text.isBlank c = true) :
      Fault body (.invalidKey (.blankInside (String.ofList (Text.trim last))))
  | modifier (divided : Divided body parts last)
      (unbroken : ∀ c ∈ Text.trim last, Text.isBlank c = false)
      (first : FirstUnknown Marks parts part) : Fault body (.unknownModifier (String.ofList part))

section
variable {part : List Char} {m : Modifier}

theorem marks_iff : Marks part m ↔ Modifier.Spells (Text.trim part) m := by
  constructor
  · rintro ⟨word, spells, padded⟩
    rwa [padded.trim, trim_unjoined (Modifier.spells_whole spells).clear]
  · intro spells
    exact ⟨Text.trim part, spells, Text.padded_trim part⟩

theorem readModifier_ok : readModifier part = .ok m ↔ Marks part m := by
  rw [readModifier, mapError_ok, Modifier.read_ok, marks_iff]

theorem readModifier_error {error : BindingError} : readModifier part = .error error ↔
    (∀ m, ¬ Marks part m) ∧ error = .unknownModifier (String.ofList part) := by
  simp only [readModifier, mapError_error, Modifier.read_error, ← marks_iff]
  constructor
  · rintro ⟨_, ⟨unknown, _⟩, rfl⟩
    exact ⟨unknown, rfl⟩
  · rintro ⟨unknown, rfl⟩
    exact ⟨_, ⟨unknown, rfl⟩, rfl⟩

theorem modifiers_error {parts : List (List Char)} {error : BindingError} :
    parts.mapM readModifier = .error error ↔
      ∃ part, FirstUnknown Marks parts part ∧ error = .unknownModifier (String.ofList part) := by
  rw [Modifier.mapM_refused fun _ _ _ => readModifier_ok]
  refine exists_congr fun part => and_congr_right fun first => ?_
  rw [readModifier_error]
  exact and_iff_right first.unknown

theorem readKey_ok {last : List Char} {key : Key} : readKey (String.ofList last) = .ok key ↔
    key.Spelled ∧ Text.trim last = key.name.toList := by
  rw [readKey, mapError_ok, Key.parse_ok, String.toList_ofList]

theorem readKey_reads {last : List Char} (filled : Text.trim last ≠ []) :
    (∃ key, readKey (String.ofList last) = .ok key) ↔
      ∀ c ∈ Text.trim last, Text.isBlank c = false := by
  simp only [readKey_ok]
  constructor
  · rintro ⟨key, spelled, named⟩
    rw [named]
    exact spelled.2
  · intro unbroken
    refine ⟨⟨String.ofList (Text.trim last)⟩, ⟨?_, ?_⟩, ?_⟩
    · exact fun absent => filled (String.ofList_eq_empty_iff.1 absent)
    · rwa [String.toList_ofList]
    · rw [String.toList_ofList]

theorem readKey_error {last : List Char} {error : BindingError} (filled : Text.trim last ≠ []) :
    readKey (String.ofList last) = .error error ↔
      (∃ c ∈ Text.trim last, Text.isBlank c = true) ∧
        error = .invalidKey (.blankInside (String.ofList (Text.trim last))) := by
  simp only [readKey, mapError_error, Key.parse_error, String.toList_ofList]
  constructor
  · rintro ⟨reason, ⟨blank, _⟩ | ⟨broken, rfl⟩, rfl⟩
    · exact absurd blank filled
    · exact ⟨broken, rfl⟩
  · rintro ⟨broken, rfl⟩
    exact ⟨_, .inr ⟨broken, rfl⟩, rfl⟩

theorem marks_clear (marks : Marks part m) : '-' ∉ part := by
  obtain ⟨word, spells, padded⟩ := marks
  intro member
  have joint := (Modifier.spells_whole spells).clear '-' (padded.mem rfl member)
  cases joint

theorem marked_iff {parts : List (List Char)} {modifiers : List Modifier} :
    List.Forall₂ Marks parts modifiers ↔
      List.Forall₂ Modifier.Spells (parts.map Text.trim) modifiers := by
  simp only [List.forall₂_map_left_iff, ← marks_iff]

theorem marked_alike {parts others : List (List Char)} {modifiers : List Modifier}
    (alike : parts.map Text.trim = others.map Text.trim) :
    List.Forall₂ Marks parts modifiers ↔ List.Forall₂ Marks others modifiers := by
  rw [marked_iff, alike, ← marked_iff]

end

section
variable {body last : List Char} {parts : List (List Char)}

-- The last part is empty exactly if there is nothing behind the last hyphen, or nothing at all.
theorem divided_iff : Divided body parts last ↔ body.splitOn '-' = parts ++ [last] ∧ last ≠ [] := by
  constructor
  · rintro ⟨filled, unended, cut⟩
    refine ⟨cut, fun absent => ?_⟩
    obtain ⟨whole, _⟩ := (Text.splitOn_concat '-').1 cut
    rw [absent, List.append_nil] at whole
    obtain none | ⟨front, part, same⟩ := List.eq_nil_or_concat parts
    · rw [none] at whole
      exact filled whole
    · rw [same, List.concat_eq_append, List.flatMap_append, List.flatMap_singleton,
        ← List.append_assoc] at whole
      exact unended (by rw [whole, List.getLast?_concat])
  · rintro ⟨cut, present⟩
    obtain ⟨whole, clear⟩ := (Text.splitOn_concat '-').1 cut
    refine ⟨?_, ?_, cut⟩
    · rw [whole]
      simp [present]
    · rw [whole, List.getLast?_append_of_ne_nil _ present]
      exact fun ended => clear last (by simp) (List.mem_of_getLast? ended)

theorem body_cases (body : List Char) : body = [] ∨ body = ['-'] ∨
    (body.getLast? = some '-' ∧ body ≠ ['-']) ∨ ∃ parts last, Divided body parts last := by
  by_cases nothing : body = []
  · exact .inl nothing
  by_cases alone : body = ['-']
  · exact .inr (.inl alone)
  by_cases ended : body.getLast? = some '-'
  · exact .inr (.inr (.inl ⟨ended, alone⟩))
  · obtain absent | ⟨parts, last, cut⟩ := List.eq_nil_or_concat (body.splitOn '-')
    · exact absurd absent (List.splitOn_ne_nil '-' body)
    · rw [List.concat_eq_append] at cut
      exact .inr (.inr (.inr ⟨parts, last, nothing, ended, cut⟩))

end

section
variable {text : String} {last : List Char} {parts : List (List Char)} {stroke : Stroke}

theorem hyphen_clear : ∀ c ∈ ['-'], Text.isBlank c = false := List.forall_mem_singleton.2 rfl

theorem parse_alone (alone : Text.trim text.toList = ['-']) :
    parse text = .ok (.plain ⟨"-"⟩) := by
  unfold parse
  rw [alone]
  rfl

theorem parse_divided (divided : Divided (Text.trim text.toList) parts last) :
    parse text = (do
      let key ← readKey (String.ofList last)
      let modifiers ← parts.mapM readModifier
      return ⟨key, .ofList modifiers⟩) := by
  have alone : Text.trim text.toList ≠ ['-'] := fun same => divided.unended (by rw [same]; rfl)
  unfold parse
  dsimp only
  rw [if_neg (by simpa using divided.filled), if_neg alone, if_neg divided.unended,
    Text.pieces_splitOn, divided.cut, List.getLastD_concat, List.dropLast_concat]

theorem divided_ok (divided : Divided (Text.trim text.toList) parts last) :
    parse text = .ok stroke ↔ stroke.key.Spelled ∧ Text.trim last = stroke.key.name.toList ∧
      ∃ modifiers, List.Forall₂ Marks parts modifiers ∧
        stroke.modifiers = .ofList modifiers := by
  rw [parse_divided divided]
  simp only [bind_ok, readKey_ok, pure_ok, mapM_reads fun _ _ => readModifier_ok]
  constructor
  · rintro ⟨key, ⟨spelled, named⟩, modifiers, marked, rfl⟩
    exact ⟨spelled, named, modifiers, marked, rfl⟩
  · rintro ⟨spelled, named, modifiers, marked, same⟩
    exact ⟨stroke.key, ⟨spelled, named⟩, modifiers, marked, by rw [← same]⟩

theorem alike_last {parts others front : List (List Char)}
    (alike : parts.map Text.trim = others.map Text.trim) (cut : parts = front ++ [last]) :
    ∃ outer final, others = outer ++ [final] ∧
      front.map Text.trim = outer.map Text.trim ∧ Text.trim last = Text.trim final := by
  rw [cut, List.map_append, List.map_singleton, eq_comm, List.map_eq_append_iff] at alike
  obtain ⟨outer, tail, rfl, same, ends⟩ := alike
  obtain ⟨final, rfl, named⟩ := List.map_eq_singleton_iff.1 ends
  exact ⟨outer, final, rfl, same.symm, named.symm⟩

theorem parse_empty (nothing : Text.trim text.toList = []) : parse text = .error .empty := by
  unfold parse
  rw [nothing]
  rfl

theorem parse_trailing (ended : (Text.trim text.toList).getLast? = some '-')
    (more : Text.trim text.toList ≠ ['-']) : parse text = .error .trailingHyphen := by
  have filled : Text.trim text.toList ≠ [] := fun nothing => by
    rw [nothing] at ended
    cases ended
  unfold parse
  dsimp only
  rw [if_neg (by simpa using filled), if_neg more, if_pos ended]

theorem combination_written (divided : Divided (Text.trim text.toList) parts last)
    (read : parse text = .ok stroke) : Writes text.toList stroke := by
  obtain ⟨spelled, named, modifiers, marked, same⟩ := (divided_ok divided).1 read
  have alike := Text.parts_trim (c := '-') rfl text.toList
  obtain ⟨outer, final, cut, around, behind⟩ := alike_last alike divided.cut
  have padded : Text.Padded stroke.key.name.toList final := by
    rw [Text.padded_iff spelled.2, ← behind, named]
  have unhyphened : '-' ∉ stroke.key.name.toList := by
    obtain ⟨front, back, _, _, whole⟩ := padded
    have clear : '-' ∉ final := Text.splitOn_clear '-' (by rw [cut]; simp)
    exact fun member => clear (by rw [whole]; simp [member])
  refine .combination ((marked_alike around).1 marked) spelled unhyphened padded ?_ ?_
  · rw [← cut, List.intercalate_splitOn]
  · rw [same, ModifierSet.ofList_firstSeen]

theorem written_read (writes : Writes text.toList stroke) : parse text = .ok stroke := by
  cases writes with
  | hyphen padded => exact parse_alone ((Text.padded_iff hyphen_clear).1 padded)
  | @combination parts last modifiers _ marked spelled unhyphened padded joined inOrder =>
    have cut : text.toList.splitOn '-' = parts ++ [last] := by
      refine (Text.splitOn_concat '-').2 ⟨?_, fun part member => ?_⟩
      · rw [joined, Text.intercalate_concat]
      · rcases List.mem_append.1 member with before | final
        · exact forall_left marked (fun _ _ => marks_clear) part before
        · rw [List.mem_singleton.1 final]
          exact fun within => unhyphened (padded.mem rfl within)
    have alike := (Text.parts_trim (c := '-') rfl text.toList).symm
    obtain ⟨inner, final, within, around, behind⟩ := alike_last alike cut
    have named : Text.trim final = stroke.key.name.toList := by
      rw [← behind, (Text.padded_iff spelled.2).1 padded]
    have present : final ≠ [] := by
      rintro rfl
      exact spelled.1 (String.toList_eq_nil_iff.1 named.symm)
    refine (divided_ok (divided_iff.2 ⟨within, present⟩)).2
      ⟨spelled, named, modifiers, (marked_alike around).1 marked, ?_⟩
    exact ModifierSet.members_inj (by rw [inOrder, ModifierSet.ofList_firstSeen])

theorem parse_ok : parse text = .ok stroke ↔ Writes text.toList stroke := by
  refine ⟨fun read => ?_, written_read⟩
  rcases body_cases (Text.trim text.toList) with nothing | alone | ⟨ended, more⟩ | ⟨_, _, divided⟩
  · cases (parse_empty nothing).symm.trans read
  · cases (parse_alone alone).symm.trans read
    exact .hyphen ((Text.padded_iff hyphen_clear).2 alone)
  · cases (parse_trailing ended more).symm.trans read
  · exact combination_written divided read

-- The key is not missing, for the text does not end in a blank.
theorem last_filled {text : List Char} (divided : Divided (Text.trim text) parts last) :
    Text.trim last ≠ [] := by
  obtain ⟨cut, present⟩ := divided_iff.1 divided
  obtain ⟨whole, _⟩ := (Text.splitOn_concat '-').1 cut
  have final : last.getLast present ∈ (Text.trim text).getLast? := by
    rw [whole, List.getLast?_append_of_ne_nil _ present]
    exact List.getLast_mem_getLast? present
  intro blank
  have printed := Text.trim_last text _ final
  rw [Text.trim_nil.1 blank _ (List.getLast_mem present)] at printed
  cases printed

theorem divided_error {error : BindingError}
    (divided : Divided (Text.trim text.toList) parts last) : parse text = .error error ↔
      ((∃ c ∈ Text.trim last, Text.isBlank c = true) ∧
        error = .invalidKey (.blankInside (String.ofList (Text.trim last)))) ∨
      ((∀ c ∈ Text.trim last, Text.isBlank c = false) ∧
        ∃ part, FirstUnknown Marks parts part ∧ error = .unknownModifier (String.ofList part)) := by
  have filled := last_filled divided
  rw [parse_divided divided, bind_error, readKey_error filled]
  refine or_congr .rfl ?_
  simp only [bind_pure_error, modifiers_error, exists_and_right, readKey_reads filled]

theorem parse_error {error : BindingError} :
    parse text = .error error ↔ Fault (Text.trim text.toList) error := by
  constructor
  · intro refused
    rcases body_cases (Text.trim text.toList) with nothing | alone | ⟨ended, more⟩ | ⟨_, _, divided⟩
    · cases (parse_empty nothing).symm.trans refused
      exact .empty nothing
    · cases (parse_alone alone).symm.trans refused
    · cases (parse_trailing ended more).symm.trans refused
      exact .trailing ended more
    · rcases (divided_error divided).1 refused with ⟨broken, rfl⟩ | ⟨unbroken, part, first, rfl⟩
      · exact .key divided broken
      · exact .modifier divided unbroken first
  · intro fault
    cases fault with
    | empty nothing => exact parse_empty nothing
    | trailing ended more => exact parse_trailing ended more
    | key divided broken => exact (divided_error divided).2 (.inl ⟨broken, rfl⟩)
    | modifier divided unbroken first =>
      exact (divided_error divided).2 (.inr ⟨unbroken, _, first, rfl⟩)

theorem Writes.spelled {written : List Char} (writes : Writes written stroke) :
    stroke.key.Spelled := by
  cases writes with
  | hyphen padded => exact ⟨by decide, hyphen_clear⟩
  | combination marked spelled => exact spelled

theorem binding_text_exact (text : String) :
    (∀ stroke, parse text = .ok stroke ↔ Writes text.toList stroke) ∧
      (∀ stroke, parse text = .ok stroke → stroke.key.Spelled) ∧
        ∀ error, parse text = .error error ↔ Fault (Text.trim text.toList) error :=
  ⟨fun _ => parse_ok, fun _ read => (parse_ok.1 read).spelled, fun _ => parse_error⟩

example : parse "foo-a b" = .error (.invalidKey (.blankInside "a b")) := by rfl

end

section
variable {key : Key} {tokens : List (List Char)} {stroke : Stroke}

structure Names (tokens : List (List Char)) (key : Key) (stroke : Stroke) : Prop where
  same : stroke.key = key
  spelled : ∃ modifiers, List.Forall₂ Modifier.Spells tokens modifiers ∧
    stroke.modifiers = .ofList modifiers

def combined (tokens : List (List Char)) (key : Key) : List Char :=
  ['-'].intercalate (tokens ++ [key.name.toList])

variable (spelled : key.Spelled) (whole : ∀ token ∈ tokens, Text.Whole ModifierSet.isJoint token)
include spelled whole

theorem combined_clear : ∀ c ∈ combined tokens key, Text.isBlank c = false := by
  intro c member
  rw [combined, Text.intercalate_concat, List.mem_append, List.mem_flatMap] at member
  rcases member with ⟨token, among, member⟩ | within
  · rcases List.mem_append.1 member with inside | hyphen
    · exact unjoined_clear ((whole token among).clear c inside)
    · exact hyphen_clear c hyphen
  · exact spelled.2 c within

theorem combined_ok (unhyphened : '-' ∉ key.name.toList) :
    parse (String.ofList (combined tokens key)) = .ok stroke ↔ Names tokens key stroke := by
  have divided : Divided (combined tokens key) tokens key.name.toList := by
    refine divided_iff.2 ⟨(Text.splitOn_concat '-').2 ⟨Text.intercalate_concat .., ?_⟩, ?_⟩
    · intro part member within
      rcases List.mem_append.1 member with token | final
      · cases (whole part token).clear '-' within
      · exact unhyphened (List.mem_singleton.1 final ▸ within)
    · exact fun absent => spelled.1 (String.toList_eq_nil_iff.1 absent)
  have bare : Text.trim (String.ofList (combined tokens key)).toList = combined tokens key := by
    rw [String.toList_ofList, Text.trim_clear (combined_clear spelled whole)]
  rw [divided_ok (by rwa [bare])]
  simp only [marked_iff, trims_unjoined whole, Text.trim_clear spelled.2, String.toList_inj]
  constructor
  · rintro ⟨_, named, modifiers, read, same⟩
    exact ⟨Key.name_inj named.symm, modifiers, read, same⟩
  · rintro ⟨rfl, modifiers, read, same⟩
    exact ⟨spelled, rfl, modifiers, read, same⟩

theorem pair_ok {list : String} (present : tokens ≠ [])
    (single : ∀ run : List Modifier, run.map Modifier.symbol ∈ tokens → run.length ≤ 1)
    (spread : Text.Spread ModifierSet.isJoint tokens list.toList) :
    ofPair key.name list = .ok stroke ↔ Names tokens key stroke := by
  have words : ModifierSet.listed list.toList = tokens := spread.words whole
  have filled : Text.trim list.toList ≠ [] := by
    intro blank
    rw [← ModifierSet.listed_trim, blank] at words
    exact present words.symm
  have alone (run : List Modifier) (padded : Text.Padded (run.map Modifier.symbol) list.toList) :
      run.length = 1 := by
    have nonempty : run ≠ [] := by
      rintro rfl
      exact filled (ModifierSet.run_trim padded)
    rw [ModifierSet.run_listed padded nonempty] at words
    exact Nat.le_antisymm (single run (words ▸ List.mem_cons_self))
      (List.length_pos_of_ne_nil nonempty)
  simp only [ofPair, bind_ok, readKey, mapError_ok, Key.parse_name spelled, exists_eq_left,
    ModifierSet.parse_ok, pure_ok]
  constructor
  · rintro ⟨_, ⟨modifiers, lists, _, rfl⟩, rfl⟩
    exact ⟨rfl, modifiers, words ▸ lists.listed_spelled alone, rfl⟩
  · rintro ⟨rfl, modifiers, read, same⟩
    exact ⟨_, ⟨modifiers, .words read spread, filled, rfl⟩, by rw [← same]⟩

end

-- A combination reads as the key and the list of its modifiers do, whichever joints the list has.
-- A word of several symbols would be a list of several modifiers, but no part of a combination.
theorem binding_forms_agree {key : Key} (spelled : key.Spelled)
    (unhyphened : '-' ∉ key.name.toList) {tokens : List (List Char)}
    (present : tokens ≠ []) (whole : ∀ token ∈ tokens, Text.Whole ModifierSet.isJoint token)
    (single : ∀ run : List Modifier, run.map Modifier.symbol ∈ tokens → run.length ≤ 1)
    (stroke : Stroke) :
    (parse (String.ofList (combined tokens key)) = .ok stroke ↔
        ofPair key.name (String.ofList (['-'].intercalate tokens)) = .ok stroke) ∧
      ∀ list : String, Text.Spread ModifierSet.isJoint tokens list.toList →
        (parse (String.ofList (combined tokens key)) = .ok stroke ↔
          ofPair key.name list = .ok stroke) := by
  have agree (list : String) (spread : Text.Spread ModifierSet.isJoint tokens list.toList) :
      parse (String.ofList (combined tokens key)) = .ok stroke ↔
        ofPair key.name list = .ok stroke :=
    (combined_ok spelled whole unhyphened).trans (pair_ok spelled whole present single spread).symm
  refine ⟨agree _ ?_, agree⟩
  rw [String.toList_ofList]
  exact Text.spread_joined rfl tokens

theorem command_shift_left_agree :
    parse "Cmd-⇧-left" = .ok ⟨⟨"left"⟩, .ofList [.command, .shift]⟩ ∧
      ofPair "left" "Cmd-⇧" = .ok ⟨⟨"left"⟩, .ofList [.command, .shift]⟩ ∧
        ofPair "left" " Cmd +⇧\t" = .ok ⟨⟨"left"⟩, .ofList [.command, .shift]⟩ := by
  have printed : "left".toList.any Text.isBlank = false := by decide
  have spelled : (⟨"left"⟩ : Key).Spelled :=
    ⟨by decide, fun c member => Bool.eq_false_iff.2 (List.any_eq_false.1 printed c member)⟩
  have words : Text.wordsAt ModifierSet.isJoint " Cmd +⇧\t".toList = ["Cmd".toList, ['⇧']] := by rfl
  obtain ⟨spread, whole⟩ := Text.spread_iff.2 words
  have single (run : List Modifier) (member : run.map Modifier.symbol ∈ ["Cmd".toList, ['⇧']]) :
      run.length ≤ 1 := by
    rcases List.mem_pair.1 member with word | symbol
    · cases Modifier.symbols_read.2 word.symm
    · exact le_of_eq (by simpa using congrArg List.length symbol)
  obtain ⟨hyphens, joints⟩ := binding_forms_agree spelled (by decide) (List.cons_ne_nil _ _) whole
    single ⟨⟨"left"⟩, .ofList [.command, .shift]⟩
  have read : parse "Cmd-⇧-left" = .ok ⟨⟨"left"⟩, .ofList [.command, .shift]⟩ := by rfl
  exact ⟨read, hyphens.1 read, (joints _ spread).1 read⟩

end Binding
end TapHold
