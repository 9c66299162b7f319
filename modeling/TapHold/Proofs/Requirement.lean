import Mathlib.Logic.Basic
import Mathlib.Tactic.Tauto
import TapHold.Config.Error

namespace TapHold

structure Requirement where
  met : Prop
  error : ConfigError

namespace Requirement

inductive FirstUnmet : List Requirement → ConfigError → Prop where
  | here {one : Requirement} (unmet : ¬ one.met) : FirstUnmet (one :: further) one.error
  | later {one : Requirement} {error : ConfigError} (met : one.met)
      (first : FirstUnmet further error) : FirstUnmet (one :: further) error

variable {asked further : List Requirement} {faults more : List ConfigError} {error : ConfigError}

theorem firstUnmet_cons {one : Requirement} : FirstUnmet (one :: further) error ↔
    (¬ one.met ∧ one.error = error) ∨ (one.met ∧ FirstUnmet further error) := by
  constructor
  · rintro (unmet | ⟨met, first⟩)
    · exact .inl ⟨unmet, rfl⟩
    · exact .inr ⟨met, first⟩
  · rintro (⟨unmet, rfl⟩ | ⟨met, first⟩)
    · exact .here unmet
    · exact .later met first

theorem FirstUnmet.member (first : FirstUnmet asked error) :
    ∃ one ∈ asked, ¬ one.met ∧ one.error = error := by
  induction first with
  | here unmet => exact ⟨_, List.mem_cons_self, unmet, rfl⟩
  | later _ _ ih =>
    obtain ⟨one, inside, unmet⟩ := ih
    exact ⟨one, List.mem_cons_of_mem _ inside, unmet⟩

theorem firstUnmet_append : FirstUnmet (asked ++ further) error ↔
    FirstUnmet asked error ∨ ((∀ one ∈ asked, one.met) ∧ FirstUnmet further error) := by
  induction asked with
  | nil =>
    have none : ¬ FirstUnmet [] error := nofun
    simp [none]
  | cons one asked ih =>
    rw [List.cons_append, firstUnmet_cons, firstUnmet_cons, ih, List.forall_mem_cons]
    tauto

theorem firstUnmet_exists : (∃ error, FirstUnmet asked error) ↔ ¬ ∀ one ∈ asked, one.met := by
  induction asked with
  | nil => exact iff_of_false nofun fun unmet => unmet nofun
  | cons one asked ih =>
    simp only [firstUnmet_cons, exists_or, exists_and_left, exists_eq', and_true, ih,
      List.forall_mem_cons]
    tauto

def Reports (faults : List ConfigError) (asked : List Requirement) : Prop :=
  ∀ error, faults.head? = some error ↔ FirstUnmet asked error

namespace Reports

theorem nil_iff (reports : Reports faults asked) : faults = [] ↔ ∀ one ∈ asked, one.met := by
  have some : faults ≠ [] ↔ ∃ error, faults.head? = some error := by
    cases faults <;> simp
  rw [← not_iff_not, ← firstUnmet_exists]
  exact some.trans (exists_congr reports)

theorem none_asked : Reports [] [] := fun _ => iff_of_false nofun nofun

theorem append (first : Reports faults asked) (second : Reports more further) :
    Reports (faults ++ more) (asked ++ further) := by
  intro error
  rw [firstUnmet_append, ← first, ← second, ← first.nil_iff]
  cases faults <;> simp

theorem flatMap {items : List α} {faultsOf : α → List ConfigError} {askedOf : α → List Requirement}
    (each : ∀ item ∈ items, Reports (faultsOf item) (askedOf item)) :
    Reports (items.flatMap faultsOf) (items.flatMap askedOf) := by
  induction items with
  | nil => exact none_asked
  | cons item items ih =>
    obtain ⟨here, rest⟩ := List.forall_mem_cons.1 each
    exact here.append (ih rest)

-- The rest is looked at only where the first requirement is met.
theorem guarded {holds met : Prop} [Decidable holds] (agree : holds ↔ met)
    (rest : Reports faults asked) :
    Reports (if holds then faults else [error]) (⟨met, error⟩ :: asked) := by
  intro other
  rw [firstUnmet_cons, ← rest]
  by_cases given : holds
  · simp [agree.1 given, given]
  · simp [mt agree.2 given, given]

theorem single {holds met : Prop} [Decidable holds] (agree : holds ↔ met) :
    Reports (if holds then [] else [error]) [⟨met, error⟩] := guarded agree none_asked

theorem filter {items : List α} {fails : α → Bool} {met : α → Prop} {errorOf : α → ConfigError}
    (agree : ∀ item ∈ items, fails item = false ↔ met item) :
    Reports ((items.filter fails).map errorOf)
      (items.map fun item => ⟨met item, errorOf item⟩) := by
  induction items with
  | nil => exact none_asked
  | cons item items ih =>
    obtain ⟨here, rest⟩ := List.forall_mem_cons.1 agree
    have first : Reports (if fails item = false then [] else [errorOf item])
        [⟨met item, errorOf item⟩] := single here
    have reports := first.append (ih rest)
    cases failed : fails item <;> simpa [failed] using reports

end Reports
end Requirement
end TapHold
