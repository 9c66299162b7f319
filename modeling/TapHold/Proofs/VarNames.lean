import Mathlib.Data.Finset.Card
import TapHold.Proofs.FirstClash

namespace TapHold

namespace StateVar

def ending : StateVar → List Char
  | held _ => ['H', 'e', 'l', 'd']
  | heldReady _ => ['e', 'a', 'd', 'y']
  | outputted _ => ['t', 't', 'e', 'd']
  | active _ => ['t', 'i', 'v', 'e']
  | isTypingStreak => ['r', 'e', 'a', 'k']
  | streakExpiry => ['p', 'i', 'r', 'y']

theorem name_ending (var : StateVar) : ∃ front, var.name.toList = front ++ var.ending := by
  cases var with
  | held key => exact ⟨key.name.toList, by simp [name, ending]⟩
  | heldReady key => exact ⟨key.name.toList ++ "HeldR".toList, by simp [name, ending]⟩
  | outputted key => exact ⟨key.name.toList ++ "Outpu".toList, by simp [name, ending]⟩
  | active layer => exact ⟨layer.toList ++ "Ac".toList, by simp [name, ending]⟩
  | isTypingStreak => exact ⟨"isTypingSt".toList, by simp [name, ending]⟩
  | streakExpiry => exact ⟨"streakEx".toList, by simp [name, ending]⟩

theorem ending_length (var : StateVar) : var.ending.length = 4 := by cases var <;> rfl

theorem ending_of_name {a b : StateVar} (same : a.name = b.name) : a.ending = b.ending := by
  obtain ⟨front, left⟩ := name_ending a
  obtain ⟨other, right⟩ := name_ending b
  rw [same, right] at left
  exact (List.append_inj_right' left (by rw [ending_length, ending_length])).symm

-- Variables of different sorts differ in the ending, those of one sort in what precedes it.
theorem name_unique {a b : StateVar} (same : a.name = b.name) : a = b := by
  have alike := ending_of_name same
  cases a with
  | held key =>
    cases b with
    | held other => exact congrArg held (Key.name_inj (by simpa [name] using same))
    | _ => simp [ending] at alike
  | heldReady key =>
    cases b with
    | heldReady other => exact congrArg heldReady (Key.name_inj (by simpa [name] using same))
    | _ => simp [ending] at alike
  | outputted key =>
    cases b with
    | outputted other => exact congrArg outputted (Key.name_inj (by simpa [name] using same))
    | _ => simp [ending] at alike
  | active layer =>
    cases b with
    | active other => simpa [name] using same
    | _ => simp [ending] at alike
  | isTypingStreak =>
    cases b with
    | isTypingStreak => rfl
    | _ => simp [ending] at alike
  | streakExpiry =>
    cases b with
    | streakExpiry => rfl
    | _ => simp [ending] at alike

theorem countVars_exact (vars : List StateVar) : countVars vars = .ok vars.toFinset.card := by
  refine countNames_ok.2 ⟨?_, ?_⟩
  · intro name var other member member'
    simp only [List.mem_map, Prod.mk.injEq, exists_eq_right_right] at member member'
    exact name_unique (member.2.trans member'.2.symm)
  · calc vars.toFinset.card = (vars.toFinset.image name).card :=
          (Finset.card_image_of_injective _ fun _ _ => name_unique).symm
      _ = ((vars.map fun var => (var.name, var)).map Prod.fst).toFinset.card := by
          refine congrArg Finset.card (Finset.ext fun name => ?_)
          simp

end StateVar
end TapHold
