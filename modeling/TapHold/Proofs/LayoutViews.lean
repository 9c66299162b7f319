import Mathlib.Data.List.Perm.Basic
import TapHold.Layout
import TapHold.Proofs.DictChanges

namespace TapHold.Layout

def Row.side (row : Row) : Hand → List Key
  | .left => row.left
  | .right => row.right

def side (layout : Layout) : Hand → List Key
  | .left => layout.left
  | .right => layout.right

def group (layout : Layout) (hand : Hand) (row : Row) : List Key :=
  row.keys.filter (layout.handOf? · = some hand)

def Row.placed (row : Row) : List (Key × Hand) :=
  row.left.map (·, .left) ++ row.right.map (·, .right)

section
variable {layout : Layout} {row : Row} {key : Key} {hand : Hand}

theorem mem_side : key ∈ layout.side hand ↔ ∃ row ∈ layout.rows, key ∈ row.side hand := by
  cases hand <;> exact List.mem_flatMap

theorem all_perm (layout : Layout) : layout.all.Perm layout.written :=
  List.flatMap_append_perm layout.rows Row.left Row.right

theorem all_distinct (layout : Layout) : layout.all.Nodup :=
  layout.all_perm.nodup_iff.2 layout.distinct

theorem mem_all : key ∈ layout.all ↔ layout.contains key = true := by
  unfold all contains handOf?
  by_cases left : key ∈ layout.left
  · simp [left]
  · by_cases right : key ∈ layout.right <;> simp [left, right]

theorem handOf?_iff : layout.handOf? key = some hand ↔ key ∈ layout.side hand := by
  have apart : key ∈ layout.left → key ∉ layout.right := fun left right =>
    (List.nodup_append.1 layout.all_distinct).2.2 key left key right rfl
  unfold handOf?
  by_cases left : key ∈ layout.left
  · rw [if_pos left]
    cases hand <;> simp [side, left, apart left]
  · rw [if_neg left]
    by_cases right : key ∈ layout.right <;> cases hand <;> simp [side, left, right]

theorem group_side (member : row ∈ layout.rows) : layout.group hand row = row.side hand := by
  have kept (other : Hand) : (row.side other).filter (layout.handOf? · = some hand) =
      if other = hand then row.side other else [] := by
    have known : ∀ key ∈ row.side other, layout.handOf? key = some other :=
      fun key within => handOf?_iff.2 (mem_side.2 ⟨row, member, within⟩)
    split
    · rename_i same
      exact List.filter_eq_self.2 fun key within => by simp [known key within, same]
    · rename_i differs
      exact List.filter_eq_nil_iff.2 fun key within => by simp [known key within, differs]
  have split : row.keys = row.side .left ++ row.side .right := rfl
  rw [group, split, List.filter_append, kept, kept]
  cases hand
  · exact List.append_nil _
  · rfl

theorem placed_keys (row : Row) : row.placed.map Prod.fst = row.keys := by
  unfold Row.placed Row.keys
  simp [Function.comp_def]

theorem mem_placed : (key, hand) ∈ row.placed ↔ key ∈ row.side hand := by
  cases hand <;> simp [Row.placed, Row.side]

theorem placed_written (layout : Layout) :
    (layout.rows.flatMap Row.placed).map Prod.fst = layout.written := by
  rw [List.map_flatMap]
  exact List.flatMap_congr fun row _ => placed_keys row

def hands (layout : Layout) : Dict Key Hand :=
  ⟨layout.rows.flatMap Row.placed, layout.placed_written ▸ layout.distinct⟩

theorem hands_keys : layout.hands.keys = layout.written := layout.placed_written

theorem hands_entry : (key, hand) ∈ layout.hands.entries ↔ layout.handOf? key = some hand := by
  rw [handOf?_iff, mem_side]
  exact List.mem_flatMap.trans (exists_congr fun row => and_congr_right fun _ => mem_placed)

theorem hands_find (layout : Layout) (key : Key) : layout.hands.entries.find? (·.1 = key) =
    (layout.handOf? key).map fun hand => (key, hand) := by
  cases found : layout.handOf? key with
  | some hand => exact Dict.find_entry (hands_entry.2 found)
  | none =>
    refine List.find?_eq_none.2 fun entry member same => ?_
    have handed := hands_entry.1 (Prod.eta entry ▸ member : (entry.1, entry.2) ∈ _)
    rw [of_decide_eq_true same, found] at handed
    cases handed

end

section
variable {layout : Layout} {a b key : Key}

theorem opposed_comm : layout.opposed a b = layout.opposed b a := by
  unfold opposed
  exact bne_comm

theorem opposed_self : layout.opposed a a = false := by simp [opposed]

theorem sameHand_unopposed {hand : Hand} (left : layout.handOf? a = some hand)
    (right : layout.handOf? b = some hand) : layout.opposed a b = false := by
  simp [opposed, left, right]

-- There are only two sides for a key to be on.
theorem unopposed_of_opposed (left : layout.opposed a key = true)
    (right : layout.opposed b key = true) : layout.opposed a b = false := by
  simp only [opposed, bne_iff_ne, ne_eq, bne_eq_false_iff_eq] at *
  exact (Bool.eq_not_of_ne left).trans (Bool.eq_not_of_ne right).symm

-- To be on one side, off the layout or not, divides all keys there can be.
theorem unopposed_equivalence (layout : Layout) :
    Equivalence fun a b => layout.opposed a b = false where
  refl _ := opposed_self
  symm beside := opposed_comm.trans beside
  trans beside further := by
    simp only [opposed, bne_eq_false_iff_eq] at *
    exact beside.trans further

end

end TapHold.Layout
