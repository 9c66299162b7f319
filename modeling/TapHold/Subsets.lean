namespace TapHold.Subsets

-- Items are taken by position, so equal items are kept apart.
def ofSize : Nat → List α → List (List α)
  | 0, _ => [[]]
  | _ + 1, [] => []
  | size + 1, item :: rest => (ofSize size rest).map (item :: ·) ++ ofSize (size + 1) rest

def upTo : Nat → List α → List (List α)
  | 0, _ => []
  | size + 1, items => ofSize (size + 1) items ++ upTo size items

def largestFirst (items : List α) : List (List α) := upTo items.length items

theorem ofSize_length {size : Nat} {items subset : List α} (member : subset ∈ ofSize size items) :
    subset.length = size := by
  induction items generalizing size subset with
  | nil => cases size <;> simp_all [ofSize]
  | cons item rest ih =>
    cases size with
    | zero => simp_all [ofSize]
    | succ size =>
      simp only [ofSize, List.mem_append, List.mem_map] at member
      rcases member with ⟨smaller, inside, rfl⟩ | inside
      · simp [ih inside]
      · exact ih inside

theorem upTo_nonempty {size : Nat} {items subset : List α} (member : subset ∈ upTo size items) :
    subset ≠ [] := by
  induction size with
  | zero => simp [upTo] at member
  | succ size ih =>
    rcases List.mem_append.1 member with here | below
    · intro none
      have counted := ofSize_length here
      simp [none] at counted
    · exact ih below

end TapHold.Subsets
