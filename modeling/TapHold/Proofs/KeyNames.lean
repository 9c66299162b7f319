import TapHold.Key
import TapHold.Proofs.Tokens

namespace TapHold.Key

def Spelled (key : Key) : Prop :=
  key.name ≠ "" ∧ ∀ c ∈ key.name.toList, Text.isBlank c = false

theorem ofList_eq {name : List Char} {key : Key} :
    (⟨String.ofList name⟩ : Key) = key ↔ name = key.name.toList := by
  rw [← String.ofList_inj, String.ofList_toList]
  exact Key.mk.injEq .. ▸ Iff.rfl

theorem parse_ok {text : String} {key : Key} :
    parse text = .ok key ↔ key.Spelled ∧ Text.trim text.toList = key.name.toList := by
  unfold parse Spelled
  rw [ne_eq, ← String.toList_eq_nil_iff]
  generalize Text.trim text.toList = name
  dsimp only
  constructor
  · intro read
    split at read
    · cases read
    · rename_i present
      split at read
      · cases read
      · rename_i clear
        have same := ofList_eq.1 (Except.ok.inj read)
        rw [← same]
        simp only [List.any_eq_true, not_exists, not_and, Bool.not_eq_true] at clear
        exact ⟨⟨by simpa using present, clear⟩, rfl⟩
  · rintro ⟨⟨present, clear⟩, same⟩
    rw [← same] at present clear
    have filled : name.isEmpty = false := by simpa using present
    have unbroken : name.any Text.isBlank = false := by simpa using clear
    rw [filled, unbroken, ofList_eq.2 same]
    rfl

theorem parse_name {key other : Key} (spelled : key.Spelled) :
    parse key.name = .ok other ↔ other = key := by
  rw [parse_ok, Text.trim_clear spelled.2, String.toList_inj]
  constructor
  · rintro ⟨_, same⟩
    exact name_inj same.symm
  · rintro rfl
    exact ⟨spelled, rfl⟩

theorem parse_error {text : String} {error : KeyError} : parse text = .error error ↔
    (Text.trim text.toList = [] ∧ error = .empty) ∨
      ((∃ c ∈ Text.trim text.toList, Text.isBlank c = true) ∧
        error = .blankInside (String.ofList (Text.trim text.toList))) := by
  unfold parse
  generalize Text.trim text.toList = name
  dsimp only
  split
  · rename_i absent
    rw [List.isEmpty_iff] at absent
    subst absent
    constructor
    · intro same
      cases same
      exact .inl ⟨rfl, rfl⟩
    · rintro (⟨_, rfl⟩ | ⟨⟨_, member, _⟩, _⟩)
      · rfl
      · cases member
  · rename_i present
    rw [List.isEmpty_iff] at present
    split
    · rename_i inside
      constructor
      · intro same
        cases same
        exact .inr ⟨List.any_eq_true.1 inside, rfl⟩
      · rintro (⟨absent, _⟩ | ⟨_, rfl⟩)
        · exact absurd absent present
        · rfl
    · rename_i clear
      refine iff_of_false nofun ?_
      rintro (⟨absent, _⟩ | ⟨inside, _⟩)
      · exact present absent
      · exact clear (List.any_eq_true.2 inside)

end TapHold.Key
