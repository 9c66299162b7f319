import TapHold.Subsets

namespace TapHold.Subsets
variable {α : Type u} (pass : α → Bool)

theorem pass_cons {item : α} (passes : pass item = true) :
    ((fun subset : List α => subset.all pass) ∘ fun subset => item :: subset) =
      fun subset => subset.all pass := by
  funext subset
  simp [passes]

theorem fail_cons {item : α} (fails : pass item = false) (subsets : List (List α)) :
    subsets.find? ((fun subset => subset.all pass) ∘ fun subset => item :: subset) = none :=
  List.find?_eq_none.2 fun subset _ => by simp [fails]

-- Of the subsets of a size that is not too small, only the one with all items that pass can
-- qualify, and it does so if the size is its own. The induction is on the items, as in
-- `ofSize`: an item that passes is taken, one that fails spoils each subset it is in.
theorem ofSize_find {size : Nat} {items : List α} (bounded : (items.filter pass).length ≤ size) :
    (ofSize size items).find? (fun subset => subset.all pass) =
      if (items.filter pass).length = size then some (items.filter pass) else none := by
  induction items generalizing size with
  | nil => cases size <;> simp [ofSize]
  | cons item rest ih =>
    cases size with
    | zero =>
      have nothing : (item :: rest).filter pass = [] := List.length_eq_zero_iff.1 (by omega)
      simp [ofSize, nothing]
    | succ size =>
      rw [ofSize, List.find?_append, List.find?_map]
      cases passes : pass item with
      | true =>
        simp only [List.filter_cons, passes, if_true, List.length_cons] at bounded ⊢
        have within : (rest.filter pass).length ≤ size := by omega
        have above : (rest.filter pass).length ≤ size + 1 := by omega
        rw [pass_cons pass passes, ih within, ih above]
        by_cases full : (rest.filter pass).length = size
        · simp [full]
        · have smaller : ¬ (rest.filter pass).length = size + 1 := by omega
          simp [full, smaller]
      | false =>
        simp only [List.filter_cons, passes, Bool.false_eq_true, if_false] at bounded ⊢
        rw [fail_cons pass passes, ih bounded]
        rfl

theorem upTo_find {size : Nat} {items : List α} (bounded : (items.filter pass).length ≤ size) :
    (upTo size items).find? (fun subset => subset.all pass) =
      if items.filter pass = [] then none else some (items.filter pass) := by
  induction size with
  | zero =>
    have nothing : items.filter pass = [] := List.length_eq_zero_iff.1 (by omega)
    simp [upTo, nothing]
  | succ size ih =>
    rw [upTo, List.find?_append, ofSize_find pass bounded]
    by_cases full : (items.filter pass).length = size + 1
    · have something : items.filter pass ≠ [] := by
        intro nothing
        simp [nothing] at full
      simp [full, something]
    · rw [if_neg full, ih (by omega)]
      rfl

theorem largestFirst_find (items : List α) :
    (largestFirst items).find? (fun subset => subset.all pass) =
      if items.filter pass = [] then none else some (items.filter pass) :=
  upTo_find pass (List.length_filter_le pass items)

end TapHold.Subsets
