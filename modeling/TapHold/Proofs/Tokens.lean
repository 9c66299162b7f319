import Mathlib.Data.List.DropRight
import TapHold.Text.Pieces

namespace TapHold.Text

theorem pieces_split (cut : Char → Bool) (text : List Char) :
    pieces cut text = text.splitOnP cut := by
  induction text with
  | nil => rfl
  | cons c rest ih =>
    rw [pieces, ih, List.splitOnP_cons_eq_if_modifyHead]
    split
    · rfl
    · cases split : rest.splitOnP cut with
      | nil => exact absurd split (List.splitOnP_ne_nil cut rest)
      | cons piece others => rfl

theorem split_congr {cut other : Char → Bool} {text : List Char}
    (alike : ∀ c ∈ text, cut c = other c) : text.splitOnP cut = text.splitOnP other := by
  induction text with
  | nil => rfl
  | cons c rest ih =>
    obtain ⟨here, further⟩ := List.forall_mem_cons.1 alike
    rw [List.splitOnP_cons_eq_if_modifyHead, List.splitOnP_cons_eq_if_modifyHead, here, ih further]

def Only (cut : Char → Bool) (text : List Char) : Prop := ∀ c ∈ text, cut c = true

structure Whole (cut : Char → Bool) (word : List Char) : Prop where
  present : word ≠ []
  clear : ∀ c ∈ word, cut c = false

-- There may be gaps before the first word and behind the last as well.
inductive Spread (cut : Char → Bool) : List (List Char) → List Char → Prop where
  | bare (gap : List Char) (cuts : Only cut gap) : Spread cut [] gap
  | last (gap word : List Char) (cuts : Only cut gap) : Spread cut [word] (gap ++ word)
  | next (gap word : List Char) (cuts : Only cut gap) (joint : cut c = true)
      (rest : Spread cut others text) : Spread cut (word :: others) (gap ++ word ++ c :: text)

def wordsAt (cut : Char → Bool) (text : List Char) : List (List Char) :=
  (pieces cut text).filter (!·.isEmpty)

section
variable {cut : Char → Bool}

theorem pieces_clear {text piece : List Char} (member : piece ∈ text.splitOnP cut) :
    ∀ c ∈ piece, cut c = false := by
  induction text generalizing piece with
  | nil =>
    rw [List.splitOnP_nil, List.mem_singleton] at member
    subst member
    nofun
  | cons first rest ih =>
    rw [List.splitOnP_cons_eq_if_modifyHead] at member
    obtain ⟨here, others, split⟩ := List.exists_cons_of_ne_nil (List.splitOnP_ne_nil cut rest)
    rw [split] at ih member
    by_cases joint : cut first = true
    · rw [if_pos joint] at member
      rcases List.mem_cons.1 member with rfl | behind
      · nofun
      · exact ih behind
    · rw [if_neg joint, List.modifyHead_cons] at member
      rcases List.mem_cons.1 member with rfl | behind
      · exact List.forall_mem_cons.2 ⟨by simpa using joint, ih List.mem_cons_self⟩
      · exact ih (List.mem_cons_of_mem _ behind)

theorem wordsAt_whole {text : List Char} : ∀ word ∈ wordsAt cut text, Whole cut word := by
  intro word member
  unfold wordsAt at member
  rw [pieces_split, List.mem_filter] at member
  exact ⟨by simpa using member.2, pieces_clear member.1⟩

-- Every law of words comes of this equation.
theorem wordsAt_joint {c : Char} (joint : cut c = true) (front back : List Char) :
    wordsAt cut (front ++ c :: back) = wordsAt cut front ++ wordsAt cut back := by
  unfold wordsAt
  simp only [pieces_split]
  rw [List.splitOnP_append_cons front back joint, List.filter_append]

theorem wordsAt_alone {word : List Char} (whole : Whole cut word) : wordsAt cut word = [word] := by
  unfold wordsAt
  rw [pieces_split, List.splitOnP_eq_singleton whole.clear]
  simp [whole.present]

theorem wordsAt_gap {gap : List Char} (cuts : Only cut gap) (text : List Char) :
    wordsAt cut (gap ++ text) = wordsAt cut text := by
  induction gap with
  | nil => rfl
  | cons c rest ih =>
    obtain ⟨joint, further⟩ := List.forall_mem_cons.1 cuts
    exact (wordsAt_joint joint [] (rest ++ text)).trans (ih further)

theorem wordsAt_only {gap : List Char} (cuts : Only cut gap) : wordsAt cut gap = [] := by
  have bare := wordsAt_gap cuts []
  rwa [List.append_nil] at bare

theorem wordsAt_behind {gap : List Char} (cuts : Only cut gap) (text : List Char) :
    wordsAt cut (text ++ gap) = wordsAt cut text := by
  cases gap with
  | nil => rw [List.append_nil]
  | cons c rest =>
    obtain ⟨joint, further⟩ := List.forall_mem_cons.1 cuts
    rw [wordsAt_joint joint, wordsAt_only further, List.append_nil]

theorem Spread.widen {words : List (List Char)} {text : List Char} {c : Char}
    (spread : Spread cut words text) (joint : cut c = true) : Spread cut words (c :: text) := by
  cases spread with
  | bare _ cuts => exact .bare (c :: text) (List.forall_mem_cons.2 ⟨joint, cuts⟩)
  | last gap word cuts => exact .last (c :: gap) word (List.forall_mem_cons.2 ⟨joint, cuts⟩)
  | next gap word cuts between rest =>
    exact .next (c :: gap) word (List.forall_mem_cons.2 ⟨joint, cuts⟩) between rest

theorem Spread.behind {words : List (List Char)} {text : List Char} {c : Char}
    (spread : Spread cut words text) (joint : cut c = true) : Spread cut words (text ++ [c]) := by
  induction spread with
  | bare gap cuts =>
    exact .bare (gap ++ [c]) (List.forall_mem_append.2 ⟨cuts, List.forall_mem_singleton.2 joint⟩)
  | last gap word cuts => exact .next gap word cuts joint (.bare [] nofun)
  | next gap word cuts between rest ih =>
    rw [List.append_assoc]
    exact .next gap word cuts between ih

theorem Spread.words {words : List (List Char)} {text : List Char}
    (spread : Spread cut words text) (whole : ∀ word ∈ words, Whole cut word) :
    wordsAt cut text = words := by
  induction spread with
  | bare gap cuts => exact wordsAt_only cuts
  | last gap word cuts =>
    rw [wordsAt_gap cuts, wordsAt_alone (whole word List.mem_cons_self)]
  | next gap word cuts joint rest ih =>
    obtain ⟨here, further⟩ := List.forall_mem_cons.1 whole
    rw [wordsAt_joint joint, wordsAt_gap cuts, wordsAt_alone here, ih further]
    rfl

-- The induction carries the word that is being read in front of what is left of the text.
theorem wordsAt_spread (text : List Char) : Spread cut (wordsAt cut text) text := by
  have reading : ∀ text word : List Char, (∀ c ∈ word, cut c = false) →
      Spread cut (wordsAt cut (word ++ text)) (word ++ text) := by
    intro text
    induction text with
    | nil =>
      intro word clear
      rw [List.append_nil]
      by_cases absent : word = []
      · rw [absent]
        exact .bare [] nofun
      · rw [wordsAt_alone ⟨absent, clear⟩]
        exact .last [] word nofun
    | cons c rest ih =>
      intro word clear
      by_cases joint : cut c = true
      · have behind := ih [] nofun
        rw [List.nil_append] at behind
        rw [wordsAt_joint joint]
        by_cases absent : word = []
        · rw [absent]
          exact behind.widen joint
        · rw [wordsAt_alone ⟨absent, clear⟩]
          exact .next [] word nofun joint behind
      · have longer := ih (word ++ [c]) fun other member => by
          rcases List.mem_append.1 member with before | last
          · exact clear other before
          · rw [List.mem_singleton.1 last]
            simpa using joint
        rwa [List.append_assoc] at longer
  exact reading text [] nofun

theorem spread_iff {words : List (List Char)} {text : List Char} :
    (Spread cut words text ∧ ∀ word ∈ words, Whole cut word) ↔ wordsAt cut text = words := by
  constructor
  · rintro ⟨spread, whole⟩
    exact spread.words whole
  · rintro rfl
    exact ⟨wordsAt_spread text, wordsAt_whole⟩

theorem wordsAt_nil {text : List Char} : wordsAt cut text = [] ↔ Only cut text := by
  refine ⟨fun none => ?_, wordsAt_only⟩
  have spread : Spread cut (wordsAt cut text) text := wordsAt_spread text
  rw [none] at spread
  cases spread with
  | bare _ cuts => exact cuts

theorem Spread.mem {words : List (List Char)} {text : List Char} {c : Char}
    (spread : Spread cut words text) (member : c ∈ text) :
    cut c = true ∨ ∃ word ∈ words, c ∈ word := by
  induction spread with
  | bare gap cuts => exact .inl (cuts c member)
  | last gap word cuts =>
    rcases List.mem_append.1 member with before | within
    · exact .inl (cuts c before)
    · exact .inr ⟨word, List.mem_cons_self, within⟩
  | next gap word cuts joint rest ih =>
    rcases List.mem_append.1 member with front | back
    · rcases List.mem_append.1 front with before | within
      · exact .inl (cuts c before)
      · exact .inr ⟨word, List.mem_cons_self, within⟩
    · rcases List.mem_cons.1 back with rfl | behind
      · exact .inl joint
      · rcases ih behind with between | ⟨other, among, within⟩
        · exact .inl between
        · exact .inr ⟨other, List.mem_cons_of_mem _ among, within⟩

theorem spread_joined {c : Char} (joint : cut c = true) (words : List (List Char)) :
    Spread cut words ([c].intercalate words) := by
  induction words with
  | nil => exact .bare [] nofun
  | cons word rest ih =>
    cases rest with
    | nil =>
      rw [List.intercalate_singleton]
      exact .last [] word nofun
    | cons other others =>
      rw [List.intercalate_cons_cons, List.append_assoc]
      exact .next [] word nofun joint ih

end

-- A text with blanks around it, or as it stands.
def Padded (inner text : List Char) : Prop :=
  ∃ front back, Only isBlank front ∧ Only isBlank back ∧ text = front ++ inner ++ back

theorem Padded.refl (text : List Char) : Padded text text :=
  ⟨[], [], nofun, nofun, by rw [List.nil_append, List.append_nil]⟩

theorem Padded.mem {inner text : List Char} {c : Char} (padded : Padded inner text)
    (printed : isBlank c = false) (member : c ∈ text) : c ∈ inner := by
  obtain ⟨front, back, before, behind, rfl⟩ := padded
  have never {gap : List Char} (blank : Only isBlank gap) : c ∉ gap :=
    fun within => by simp [blank c within] at printed
  rcases List.mem_append.1 member with first | last
  · exact (List.mem_append.1 first).resolve_left (never before)
  · exact absurd last (never behind)

theorem Padded.trim {inner text : List Char} (padded : Padded inner text) :
    Text.trim text = Text.trim inner := by
  obtain ⟨front, back, before, behind, rfl⟩ := padded
  have left (text : List Char) : trimLeft (front ++ text) = trimLeft text :=
    List.dropWhile_append_of_pos before
  have right (text : List Char) : trimRight (text ++ back) = trimRight text := by
    unfold trimRight
    rw [List.reverse_append, List.dropWhile_append_of_pos fun c member =>
      behind c (List.mem_reverse.1 member)]
  rw [Text.trim, Text.trim, List.append_assoc, left]
  by_cases blank : Only isBlank inner
  · have inside : trimLeft inner = [] := List.dropWhile_eq_nil_iff.2 blank
    have outside : trimLeft (inner ++ back) = [] :=
      (List.dropWhile_append_of_pos blank).trans (List.dropWhile_eq_nil_iff.2 behind)
    rw [inside, outside]
  · have present : (inner.dropWhile isBlank).isEmpty = false :=
      List.isEmpty_eq_false_iff.2 fun none => blank (List.dropWhile_eq_nil_iff.1 none)
    have kept : trimLeft (inner ++ back) = trimLeft inner ++ back := by
      unfold trimLeft
      rw [List.dropWhile_append, present]
      rfl
    rw [kept, right]

theorem padded_trim (text : List Char) : Padded (trim text) text := by
  refine ⟨text.takeWhile isBlank, (trimLeft text).rtakeWhile isBlank, ?_, ?_, ?_⟩
  · exact fun c member => List.mem_takeWhile_imp member
  · exact fun c member => List.mem_rtakeWhile_imp member
  · have right : trim text ++ (trimLeft text).rtakeWhile isBlank = trimLeft text :=
      List.rdropWhile_append_rtakeWhile
    rw [List.append_assoc, right]
    exact List.takeWhile_append_dropWhile.symm

theorem trim_clear {text : List Char} (clear : ∀ c ∈ text, isBlank c = false) :
    trim text = text := by
  have left : trimLeft text = text := by
    cases text with
    | nil => rfl
    | cons c rest => exact List.dropWhile_cons_of_neg (by simp [clear c List.mem_cons_self])
  rw [trim, left]
  refine List.rdropWhile_eq_self_iff.2 fun present => ?_
  simp [clear _ (List.getLast_mem present)]

theorem trim_nil {text : List Char} : trim text = [] ↔ Only isBlank text := by
  constructor
  · intro absent
    obtain ⟨front, back, before, behind, parts⟩ := padded_trim text
    rw [absent, List.append_nil] at parts
    rw [parts]
    exact fun c member => (List.mem_append.1 member).elim (before c) (behind c)
  · intro blank
    exact (Padded.trim ⟨text, [], blank, nofun, by simp⟩ : trim text = trim [])

theorem padded_iff {inner text : List Char} (clear : ∀ c ∈ inner, isBlank c = false) :
    Padded inner text ↔ trim text = inner := by
  constructor
  · intro padded
    rw [padded.trim, trim_clear clear]
  · rintro rfl
    exact padded_trim text

theorem trim_last (text : List Char) : ∀ c ∈ (trim text).getLast?, isBlank c = false := by
  intro c last
  obtain ⟨present, rfl⟩ := List.mem_getLast?_eq_getLast last
  exact Bool.eq_false_iff.2 (List.rdropWhile_last_not isBlank (trimLeft text) present)

section
variable (c : Char)

theorem pieces_splitOn (text : List Char) : pieces (· == c) text = text.splitOn c :=
  (pieces_split _ _).trans List.splitOn_eq_splitOnP.symm

theorem splitOn_clear {text part : List Char} (member : part ∈ text.splitOn c) : c ∉ part := by
  intro within
  rw [List.splitOn_eq_splitOnP] at member
  simpa using pieces_clear member c within

theorem intercalate_concat (front : List (List Char)) (last : List Char) :
    [c].intercalate (front ++ [last]) = front.flatMap (· ++ [c]) ++ last := by
  induction front with
  | nil => exact List.intercalate_singleton
  | cons first rest ih =>
    rw [List.cons_append, List.intercalate_cons_of_ne_nil (by simp), ih, List.flatMap_cons]
    simp only [List.append_assoc]

theorem splitOn_concat {text last : List Char} {front : List (List Char)} :
    text.splitOn c = front ++ [last] ↔
      text = front.flatMap (· ++ [c]) ++ last ∧ ∀ part ∈ front ++ [last], c ∉ part := by
  rw [← intercalate_concat]
  constructor
  · intro parts
    rw [← parts]
    exact ⟨(List.intercalate_splitOn c).symm, fun _ => splitOn_clear c⟩
  · rintro ⟨rfl, clear⟩
    exact List.splitOn_intercalate c clear (by simp)

variable {c} (printed : isBlank c = false) {gap : List Char} (blank : Only isBlank gap)
include printed blank

theorem gap_clear : c ∉ gap := fun member => by simp [blank c member] at printed

theorem parts_behind (text : List Char) :
    ((text ++ gap).splitOn c).map trim = (text.splitOn c).map trim := by
  obtain absent | ⟨front, last, parts⟩ := List.eq_nil_or_concat (text.splitOn c)
  · exact absurd absent (List.splitOn_ne_nil c text)
  · rw [List.concat_eq_append] at parts
    obtain ⟨whole, clear⟩ := (splitOn_concat c).1 parts
    have further : (text ++ gap).splitOn c = front ++ [last ++ gap] := by
      refine (splitOn_concat c).2 ⟨by rw [← List.append_assoc, ← whole], fun part member => ?_⟩
      rcases List.mem_append.1 member with before | behind
      · exact clear part (List.mem_append_left _ before)
      · rw [List.mem_singleton.1 behind, List.mem_append, not_or]
        exact ⟨clear last (by simp), gap_clear printed blank⟩
    have same : trim (last ++ gap) = trim last := Padded.trim ⟨[], gap, nofun, blank, rfl⟩
    rw [further, parts, List.map_append, List.map_append, List.map_singleton, List.map_singleton,
      same]

theorem parts_before (text : List Char) :
    ((gap ++ text).splitOn c).map trim = (text.splitOn c).map trim := by
  obtain ⟨first, rest, parts⟩ := List.exists_cons_of_ne_nil (List.splitOn_ne_nil c text)
  have further : (gap ++ text).splitOn c = (gap ++ first) :: rest := by
    have clear := gap_clear printed blank
    clear blank
    induction gap with
    | nil => exact parts
    | cons b others ih =>
      rw [List.mem_cons, not_or] at clear
      rw [List.cons_append, List.splitOn_cons_eq_if_modifyHead, ih clear.2,
        if_neg (by simpa using Ne.symm clear.1)]
      rfl
  have same : trim (gap ++ first) = trim first :=
    Padded.trim ⟨gap, [], blank, nofun, by rw [List.append_nil]⟩
  rw [further, parts, List.map_cons, List.map_cons, same]

omit blank in
theorem parts_trim (text : List Char) :
    ((trim text).splitOn c).map trim = (text.splitOn c).map trim := by
  obtain ⟨front, back, before, behind, parts⟩ := padded_trim text
  conv_rhs => rw [parts]
  rw [parts_behind printed behind, parts_before printed before]

end

end TapHold.Text
