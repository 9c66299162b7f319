import Mathlib.Data.List.Perm.Subperm
import Mathlib.Data.List.Sort
import Mathlib.Data.Nat.Choose.Sum
import TapHold.Subsets

namespace TapHold.Subsets

section
variable {α : Type u} {size : Nat} {items subset : List α}

theorem ofSize_sublist (member : subset ∈ ofSize size items) : subset.Sublist items := by
  induction items generalizing size subset with
  | nil => cases size <;> simp_all [ofSize]
  | cons item rest ih =>
    cases size with
    | zero => simp_all [ofSize]
    | succ size =>
      rcases List.mem_append.1 member with taken | skipped
      · obtain ⟨smaller, inside, rfl⟩ := List.mem_map.1 taken
        exact (ih inside).cons_cons item
      · exact (ih skipped).cons item

theorem upTo_sublist (member : subset ∈ upTo size items) : subset.Sublist items := by
  induction size with
  | zero => cases member
  | succ size ih =>
    rcases List.mem_append.1 member with here | below
    · exact ofSize_sublist here
    · exact ih below

theorem sublist_ofSize (within : subset.Sublist items) : subset ∈ ofSize subset.length items := by
  induction within with
  | slnil => exact List.mem_singleton.2 rfl
  | @cons subset rest item within ih =>
    cases subset with
    | nil => exact List.mem_singleton.2 rfl
    | cons first more => exact List.mem_append_right _ ih
  | cons_cons item within ih => exact List.mem_append_left _ (List.mem_map_of_mem ih)

theorem mem_ofSize : subset ∈ ofSize size items ↔ subset.Sublist items ∧ subset.length = size := by
  constructor
  · exact fun member => ⟨ofSize_sublist member, ofSize_length member⟩
  · rintro ⟨within, rfl⟩
    exact sublist_ofSize within

theorem ofSize_map (f : α → β) (size : Nat) (items : List α) :
    ofSize size (items.map f) = (ofSize size items).map (List.map f) := by
  induction items generalizing size with
  | nil => cases size <;> rfl
  | cons item rest ih =>
    cases size with
    | zero => rfl
    | succ size =>
      rw [List.map_cons, ofSize, ofSize, ih, ih, List.map_append, List.map_map, List.map_map]
      rfl

-- Pascal's rule: a subset takes the first item or leaves it.
theorem ofSize_count (size : Nat) (items : List α) :
    (ofSize size items).length = items.length.choose size := by
  induction items generalizing size with
  | nil => cases size <;> rfl
  | cons item rest ih =>
    cases size with
    | zero => exact (Nat.choose_zero_right _).symm
    | succ size =>
      rw [ofSize, List.length_append, List.length_map, ih, ih, List.length_cons,
        Nat.choose_succ_succ]

theorem ofSize_lex {before : α → α → Prop} (ordered : items.Pairwise before) (size : Nat) :
    (ofSize size items).Pairwise (List.Lex before) := by
  induction ordered generalizing size with
  | nil => cases size <;> simp [ofSize]
  | @cons item rest first ordered ih =>
    cases size with
    | zero => exact List.pairwise_singleton _ _
    | succ size =>
      rw [ofSize, List.pairwise_append, List.pairwise_map]
      refine ⟨(ih size).imp .cons, ih (size + 1), ?_⟩
      intro taken member skipped member'
      obtain ⟨smaller, _, rfl⟩ := List.mem_map.1 member
      obtain ⟨within, counted⟩ := mem_ofSize.1 member'
      obtain ⟨next, more, rfl⟩ := List.exists_cons_of_length_eq_add_one counted
      exact .rel (first next (within.subset List.mem_cons_self))

def sizes (count : Nat) : List Nat := (List.range' 1 count).reverse

theorem sizes_succ (count : Nat) : sizes (count + 1) = (count + 1) :: sizes count := by
  rw [sizes, List.range'_1_concat, List.reverse_append, Nat.add_comm 1 count]
  rfl

theorem upTo_sizes (size : Nat) (items : List α) :
    upTo size items = (sizes size).flatMap fun taken => ofSize taken items := by
  induction size with
  | zero => rfl
  | succ size ih => rw [upTo, ih, sizes_succ, List.flatMap_cons]

theorem upTo_count (size : Nat) (items : List α) : (upTo size items).length + 1 =
    ∑ taken ∈ Finset.range (size + 1), items.length.choose taken := by
  induction size with
  | zero => simp [upTo]
  | succ size ih =>
    rw [upTo, List.length_append, ofSize_count, Finset.sum_range_succ, ← ih]
    omega

theorem largestFirst_count (items : List α) :
    (largestFirst items).length = 2 ^ items.length - 1 := by
  have counted := upTo_count items.length items
  rw [Nat.sum_range_choose] at counted
  rw [largestFirst]
  omega

theorem upTo_length (member : subset ∈ upTo size items) : subset.length ≤ size := by
  induction size with
  | zero => cases member
  | succ size ih =>
    rcases List.mem_append.1 member with here | below
    · exact Nat.le_of_eq (ofSize_length here)
    · exact Nat.le_succ_of_le (ih below)

theorem upTo_shrinks (size : Nat) (items : List α) :
    (upTo size items).Pairwise fun earlier later => later.length ≤ earlier.length := by
  induction size with
  | zero => exact .nil
  | succ size ih =>
    rw [upTo, List.pairwise_append]
    refine ⟨?_, ih, ?_⟩
    · apply List.pairwise_of_forall_mem_list
      intro earlier member later member'
      rw [ofSize_length member, ofSize_length member']
    · intro earlier member later below
      rw [ofSize_length member]
      exact Nat.le_succ_of_le (upTo_length below)

-- Of distinct items, no subset lies within a later one: it is larger, or of the same size and
-- different.
theorem ofSize_apart (distinct : items.Nodup) (size : Nat) :
    (ofSize size items).Pairwise fun earlier later => ∃ item ∈ earlier, item ∉ later := by
  induction distinct generalizing size with
  | nil => cases size <;> simp [ofSize]
  | @cons item rest fresh distinct ih =>
    have absent : item ∉ rest := fun member => fresh item member rfl
    cases size with
    | zero => exact List.pairwise_singleton _ _
    | succ size =>
      rw [ofSize, List.pairwise_append, List.pairwise_map]
      refine ⟨?_, ih (size + 1), ?_⟩
      · refine (ih size).imp_of_mem ?_
        rintro earlier later member - ⟨own, inside, outside⟩
        have other : own ≠ item := by
          rintro rfl
          exact absent ((ofSize_sublist member).subset inside)
        exact ⟨own, List.mem_cons_of_mem _ inside, by simp [other, outside]⟩
      · intro taken member skipped member'
        obtain ⟨smaller, _, rfl⟩ := List.mem_map.1 member
        exact ⟨item, List.mem_cons_self, fun inside =>
          absent ((ofSize_sublist member').subset inside)⟩

theorem upTo_apart (distinct : items.Nodup) (size : Nat) :
    (upTo size items).Pairwise fun earlier later => ∃ item ∈ earlier, item ∉ later := by
  induction size with
  | zero => exact .nil
  | succ size ih =>
    rw [upTo, List.pairwise_append]
    refine ⟨ofSize_apart distinct (size + 1), ih, ?_⟩
    intro earlier member later below
    by_contra within
    have subset : earlier ⊆ later := by
      intro item inside
      by_contra outside
      exact within ⟨item, inside, outside⟩
    have distinct' := distinct.sublist (ofSize_sublist member)
    have fits := (List.subperm_of_subset distinct' subset).length_le
    have bounded := upTo_length below
    rw [ofSize_length member] at fits
    omega

end

structure Ascending (count : Nat) (tuple : List Nat) : Prop where
  rises : tuple.Pairwise (· < ·)
  within : ∀ position ∈ tuple, position < count

def positions (count size : Nat) : List (List Nat) := ofSize size (List.range count)

theorem mem_positions {count size : Nat} {tuple : List Nat} :
    tuple ∈ positions count size ↔ Ascending count tuple ∧ tuple.length = size := by
  rw [positions, mem_ofSize]
  refine and_congr_left fun _ => ⟨fun within => ?_, fun ascends => ?_⟩
  · refine ⟨List.pairwise_lt_range.sublist within, fun position member => ?_⟩
    exact List.mem_range.1 (within.subset member)
  · have distinct : tuple.Nodup := ascends.rises.imp Nat.ne_of_lt
    have inside : tuple ⊆ List.range count :=
      fun position member => List.mem_range.2 (ascends.within position member)
    exact List.sublist_of_subperm_of_pairwise (List.subperm_of_subset distinct inside)
      ascends.rises List.pairwise_lt_range

theorem positions_lex (count size : Nat) : (positions count size).Pairwise (List.Lex (· < ·)) :=
  ofSize_lex List.pairwise_lt_range size

theorem taken_positions {α : Type u} (items : List α) :
    items.map some = (List.range items.length).map (items[·]?) := by
  refine List.ext_getElem (by simp) fun position here there => ?_
  simp_all

-- The items of a subset stand at the positions of its tuple, and all of these are in the list.
theorem ofSize_positions {α : Type u} (size : Nat) (items : List α) :
    (ofSize size items).map (List.map some) =
      (positions items.length size).map (List.map (items[·]?)) := by
  rw [← ofSize_map, taken_positions, ofSize_map, positions]

end TapHold.Subsets
