import Mathlib.Data.List.Basic
import TapHold.Text.Blank

namespace TapHold.Text

def Stops (inside : Char → Bool) (rest : List Char) : Prop := ∀ c ∈ rest.head?, inside c = false

def Spaced (rest : List Char) : Prop := ∃ more, rest = ' ' :: more

def Ended (rest : List Char) : Prop := rest = [] ∨ ∃ more, rest = ',' :: ' ' :: more

-- What is written is known from any text that begins with it, and so is where it ends.
def Legible (write : α → List Char) (fits : α → Prop) (behind : List Char → Prop) : Prop :=
  ∀ ⦃a b rest rest'⦄, fits a → fits b → behind rest → behind rest' →
    write a ++ rest = write b ++ rest' → a = b ∧ rest = rest'

def tail (separator : List Char) (write : α → List Char) (items : List α) : List Char :=
  items.flatMap fun item => separator ++ write item

def joined (separator : List Char) (write : α → List Char) : List α → List Char
  | [] => []
  | first :: items => write first ++ tail separator write items

section
variable {inside : Char → Bool} {run run' rest rest' : List Char}

theorem run_ends (within : ∀ c ∈ run, inside c = true) (stops : Stops inside rest) :
    (run ++ rest).takeWhile inside = run := by
  rw [List.takeWhile_append_of_pos within]
  cases rest with
  | nil => exact List.append_nil run
  | cons c more => rw [List.takeWhile_cons_of_neg (by simp [stops c rfl]), List.append_nil]

theorem run_unique (inside : Char → Bool) (within : ∀ c ∈ run, inside c = true)
    (within' : ∀ c ∈ run', inside c = true) (stops : Stops inside rest)
    (stops' : Stops inside rest') (same : run ++ rest = run' ++ rest') :
    run = run' ∧ rest = rest' := by
  have runs : run = run' := by rw [← run_ends within stops, same, run_ends within' stops']
  subst runs
  exact ⟨rfl, List.append_cancel_left same⟩

theorem Spaced.stops (spaced : Spaced rest) (outside : inside ' ' = false) :
    Stops inside rest := by
  obtain ⟨more, rfl⟩ := spaced
  rintro _ ⟨⟩
  exact outside

theorem Ended.stops (ended : Ended rest) (outside : inside ',' = false) : Stops inside rest := by
  obtain rfl | ⟨more, rfl⟩ := ended
  · nofun
  · rintro _ ⟨⟩
    exact outside

theorem word_spaced (clear : ∀ c ∈ run, isBlank c = false) (clear' : ∀ c ∈ run', isBlank c = false)
    (spaced : Spaced rest) (spaced' : Spaced rest') (same : run ++ rest = run' ++ rest') :
    run = run' ∧ rest = rest' :=
  run_unique (fun c => !isBlank c) (by simpa using clear) (by simpa using clear')
    (spaced.stops rfl) (spaced'.stops rfl) same

-- A word with a comma at its end is one with a comma behind it, so the blank decides.
theorem word_ended (clear : ∀ c ∈ run, isBlank c = false) (clear' : ∀ c ∈ run', isBlank c = false)
    (ended : Ended rest) (ended' : Ended rest') (same : run ++ rest = run' ++ rest') :
    run = run' ∧ rest = rest' := by
  have unbroken {word front more : List Char} (clear : ∀ c ∈ word, isBlank c = false) :
      word ≠ front ++ ',' :: ' ' :: more := by
    rintro rfl
    exact absurd (clear ' ' (by simp)) (by decide)
  obtain rfl | ⟨more, rfl⟩ := ended <;> obtain rfl | ⟨more', rfl⟩ := ended'
  · exact ⟨by simpa using same, rfl⟩
  · rw [List.append_nil] at same
    exact absurd same (unbroken clear)
  · rw [List.append_nil] at same
    exact absurd same.symm (unbroken clear')
  · have comma {word : List Char} (clear : ∀ c ∈ word, isBlank c = false) :
        ∀ c ∈ word ++ [','], isBlank c = false :=
      List.forall_mem_append.2 ⟨clear, List.forall_mem_singleton.2 (by decide)⟩
    obtain ⟨words, behind⟩ := word_spaced (comma clear) (comma clear') ⟨more, rfl⟩ ⟨more', rfl⟩
      (by simpa using same)
    exact ⟨List.append_cancel_right words, congrArg _ behind⟩

end

section
variable {write : α → List Char} {fits : α → Prop} {behind closing : List Char → Prop}
  {separator rest : List Char}

theorem run_legible (inside : Char → Bool) (within : ∀ a, fits a → ∀ c ∈ write a, inside c = true)
    (apart : ∀ a b, fits a → fits b → write a = write b → a = b)
    (stops : ∀ text, behind text → Stops inside text) : Legible write fits behind := by
  intro a b rest rest' fit fit' after after' same
  obtain ⟨runs, further⟩ :=
    run_unique inside (within a fit) (within b fit') (stops rest after) (stops rest' after') same
  exact ⟨apart a b fit fit' runs, further⟩

theorem Legible.opened (legible : Legible write fits behind) (opening : List Char) :
    Legible (fun a => opening ++ write a) fits behind := by
  intro a b rest rest' fit fit' after after' same
  simp only [List.append_assoc, List.append_cancel_left_eq] at same
  exact legible fit fit' after after' same

theorem tail_cons (item : α) (items : List α) : tail separator write (item :: items) ++ rest =
    separator ++ (write item ++ (tail separator write items ++ rest)) := by
  simp [tail]

theorem tail_behind (between : ∀ text, behind (separator ++ text))
    (closes : ∀ text, closing text → behind text) (items : List α) (closed : closing rest) :
    behind (tail separator write items ++ rest) := by
  cases items with
  | nil => exact closes rest closed
  | cons item items =>
    rw [tail_cons]
    exact between _

-- An item ends where its reading says, and then there is a separator or the closing.
theorem tail_legible (legible : Legible write fits behind)
    (between : ∀ text, behind (separator ++ text)) (closes : ∀ text, closing text → behind text)
    (apart : ∀ text, ¬ closing (separator ++ text)) :
    Legible (tail separator write) (fun items => ∀ item ∈ items, fits item) closing := by
  intro items others rest rest' fit fit' closed closed' same
  induction items generalizing others with
  | nil =>
    cases others with
    | nil => exact ⟨rfl, same⟩
    | cons other others =>
      refine absurd closed ?_
      rw [show rest = _ from same, tail_cons]
      exact apart _
  | cons item items ih =>
    cases others with
    | nil =>
      refine absurd closed' ?_
      rw [show rest' = _ from same.symm, tail_cons]
      exact apart _
    | cons other others =>
      rw [List.forall_mem_cons] at fit fit'
      rw [tail_cons, tail_cons, List.append_cancel_left_eq] at same
      obtain ⟨rfl, further⟩ := legible fit.1 fit'.1 (tail_behind between closes items closed)
        (tail_behind between closes others closed') same
      obtain ⟨rfl, behind⟩ := ih fit.2 fit'.2 further
      exact ⟨rfl, behind⟩

theorem joined_legible (legible : Legible write fits behind)
    (between : ∀ text, behind (separator ++ text)) (closes : ∀ text, closing text → behind text)
    (apart : ∀ text, ¬ closing (separator ++ text)) :
    Legible (joined separator write) (fun items => items ≠ [] ∧ ∀ item ∈ items, fits item)
      closing := by
  rintro (_ | ⟨first, items⟩) (_ | ⟨other, others⟩) rest rest' ⟨present, fit⟩ ⟨present', fit'⟩
    closed closed' same
  · exact absurd rfl present
  · exact absurd rfl present
  · exact absurd rfl present'
  · rw [List.forall_mem_cons] at fit fit'
    simp only [joined, List.append_assoc] at same
    obtain ⟨rfl, behind⟩ := legible fit.1 fit'.1 (tail_behind between closes items closed)
      (tail_behind between closes others closed') same
    obtain ⟨rfl, further⟩ :=
      tail_legible legible between closes apart fit.2 fit'.2 closed closed' behind
    exact ⟨rfl, further⟩

theorem joined_text (between : String) (print : α → String) (items : List α) :
    (String.intercalate between (items.map print)).toList =
      joined between.toList (fun item => (print item).toList) items := by
  rw [String.toList_intercalate, List.map_map]
  cases items with
  | nil => rfl
  | cons first items =>
    induction items generalizing first with
    | nil => simp [joined, tail]
    | cons next items ih =>
      rw [List.map_cons, List.map_cons, List.intercalate_cons_cons, ← List.map_cons, ih]
      simp [joined, tail]

end

end TapHold.Text
