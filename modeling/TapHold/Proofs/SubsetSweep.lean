import TapHold.Proofs.SubsetOrder

namespace TapHold.Subsets

inductive Slip where
  | belowZero
  | outside
  deriving DecidableEq

def minus (a b : Nat) : Except Slip Nat := if b ≤ a then .ok (a - b) else .error .belowZero

def read (items : List α) (place : Nat) : Except Slip α :=
  match items[place]? with
  | some item => .ok item
  | none => .error .outside

def write (tuple : List Nat) (place position : Nat) : Except Slip (List Nat) :=
  if place < tuple.length then .ok (tuple.set place position) else .error .outside

def movable (count size : Nat) (tuple : List Nat) : Nat → Except Slip (Option Nat)
  | 0 => .ok none
  | place + 1 => do
    let position ← read tuple place
    let limit ← minus (place + count) size
    if position < limit then return some place else movable count size tuple place

def follow (tuple : List Nat) (place : Nat) : Nat → Except Slip (List Nat)
  | 0 => .ok tuple
  | more + 1 => do
    let before ← read tuple (← minus place 1)
    follow (← write tuple place (before + 1)) (place + 1) more

def advance (count size : Nat) (tuple : List Nat) : Except Slip (Option (List Nat)) := do
  match ← movable count size tuple size with
  | none => return none
  | some place =>
    let moved ← write tuple place ((← read tuple place) + 1)
    return some (← follow moved (place + 1) (size - (place + 1)))

def gather (items : List α) (tuple : List Nat) : Except Slip (List α) := tuple.mapM (read items)

-- The derivation is finite, and no difference or access in it fails.
inductive Sweeps (items : List α) (size : Nat) : List Nat → List (List α) → Prop where
  | last (took : gather items tuple = .ok subset)
      (stuck : advance items.length size tuple = .ok none) : Sweeps items size tuple [subset]
  | next (took : gather items tuple = .ok subset)
      (moved : advance items.length size tuple = .ok (some later))
      (rest : Sweeps items size later more) : Sweeps items size tuple (subset :: more)

inductive Rounds (items : List α) : List Nat → List (List α) → Prop where
  | done : Rounds items [] []
  | round (sweeps : Sweeps items size (List.range size) found) (rest : Rounds items smaller more) :
      Rounds items (size :: smaller) (found ++ more)

def Full (count : Nat) : List Nat → Prop
  | [] => True
  | position :: rest => count ≤ position + rest.length + 1 ∧ Full count rest

inductive Moves (count : Nat) : List Nat → List Nat → Prop where
  | move (front : List Nat) (free : position + back.length + 1 < count) (full : Full count back) :
      Moves count (front ++ position :: back)
        (front ++ List.range' (position + 1) (back.length + 1))

theorem Moves.cons {count : Nat} {now later : List Nat} (first : Nat)
    (moves : Moves count now later) : Moves count (first :: now) (first :: later) := by
  obtain ⟨front, free, full⟩ := moves
  exact .move (first :: front) free full

section
variable {count size position : Nat} {front back tuple now later : List Nat}

theorem read_at : read (front ++ position :: back) front.length = .ok position := by
  simp [read]

theorem minus_fits {a b : Nat} (fits : b ≤ a) : minus a b = .ok (a - b) := if_pos fits

theorem movable_at (fits : size ≤ count)
    (sized : (front ++ position :: back).length = size) :
    movable count size (front ++ position :: back) (front.length + 1) =
      if position + back.length + 1 < count then .ok (some front.length)
      else movable count size (front ++ position :: back) front.length := by
  rw [List.length_append, List.length_cons] at sized
  have limit : position < front.length + count - size ↔ position + back.length + 1 < count := by
    omega
  rw [movable, read_at, minus_fits (by omega)]
  simp only [bind, Except.bind, limit]
  rfl

theorem movable_full (fits : size ≤ count) (sized : (front ++ back).length = size)
    (full : Full count back) :
    movable count size (front ++ back) (front.length + back.length) =
      movable count size (front ++ back) front.length := by
  induction back generalizing front with
  | nil => rfl
  | cons position rest ih =>
    have later : movable count size ((front ++ [position]) ++ rest)
        ((front ++ [position]).length + rest.length) = _ := ih (by simpa using sized) full.2
    rw [List.append_assoc, List.length_append, List.singleton_append, List.length_singleton,
      Nat.add_assoc, Nat.add_comm 1] at later
    rw [List.length_cons, later, movable_at fits sized, if_neg (Nat.not_lt.2 full.1)]

theorem follow_exact : follow (front ++ position :: back) (front.length + 1) back.length =
    .ok (front ++ List.range' position (back.length + 1)) := by
  induction back generalizing front position with
  | nil => rfl
  | cons next rest ih =>
    have placed : write (front ++ position :: next :: rest) (front.length + 1) (position + 1) =
        .ok ((front ++ [position]) ++ (position + 1) :: rest) := by
      simp [write]
    have onward :
        follow ((front ++ [position]) ++ (position + 1) :: rest) (front.length + 1 + 1)
            rest.length =
          .ok ((front ++ [position]) ++ List.range' (position + 1) (rest.length + 1)) := by
      rw [← ih, List.length_append, List.length_singleton]
    rw [List.length_cons, follow, minus_fits (Nat.le_add_left 1 _), Nat.add_sub_cancel]
    simp only [bind, Except.bind, read_at, placed, onward]
    rw [List.append_assoc, List.singleton_append, ← List.range'_succ]

theorem advance_moves (fits : size ≤ count) (sized : now.length = size)
    (moves : Moves count now later) : advance count size now = .ok (some later) := by
  obtain ⟨front, free, full⟩ := moves
  rename_i position back
  have found : movable count size (front ++ position :: back) size = .ok (some front.length) := by
    have passed : movable count size ((front ++ [position]) ++ back)
        ((front ++ [position]).length + back.length) = _ :=
      movable_full fits (by simpa using sized) full
    rw [← List.length_append, List.append_assoc, List.singleton_append, sized,
      List.length_append, List.length_singleton, movable_at fits sized, if_pos free] at passed
    exact passed
  have moved : write (front ++ position :: back) front.length (position + 1) =
      .ok (front ++ (position + 1) :: back) := by
    simp [write]
  have behind : size - (front.length + 1) = back.length := by
    rw [← sized, List.length_append, List.length_cons]
    omega
  rw [advance, found]
  simp only [bind, Except.bind, read_at, moved, behind, follow_exact]
  rfl

theorem advance_full (fits : size ≤ count) (sized : now.length = size) (full : Full count now) :
    advance count size now = .ok none := by
  have passed : movable count size ([] ++ now) ([].length + now.length) = .ok none :=
    movable_full fits sized full
  rw [List.nil_append, List.length_nil, Nat.zero_add, sized] at passed
  rw [advance, passed]
  rfl

end

inductive Path (count : Nat) : List Nat → List (List Nat) → Prop where
  | last (full : Full count tuple) : Path count tuple [tuple]
  | next (moves : Moves count tuple later) (rest : Path count later more) :
      Path count tuple (tuple :: more)

section
variable {count size first : Nat} {now later : List Nat} {tuples more : List (List Nat)}

-- With a position before them, the tuples are stepped through as they are without it. What comes
-- after the last of them is left open.
theorem Path.cons (path : Path count now tuples) (sized : ∀ tuple ∈ tuples, tuple.length = size)
    (final : ∀ tuple : List Nat, tuple.length = size → Full count tuple →
      Path count (first :: tuple) ((first :: tuple) :: more)) :
    Path count (first :: now) (tuples.map (first :: ·) ++ more) := by
  induction path with
  | last full => exact final _ (sized _ List.mem_cons_self) full
  | next moves rest ih =>
    have later := ih fun tuple member => sized tuple (List.mem_cons_of_mem _ member)
    exact .next (moves.cons first) later

theorem ofSize_path {start left : Nat} (fits : size ≤ left) : Path (start + left)
    (List.range' start size) (ofSize size (List.range' start left)) := by
  induction left generalizing start size with
  | zero =>
    cases Nat.le_zero.1 fits
    exact .last trivial
  | succ left ih =>
    cases size with
    | zero => exact .last trivial
    | succ size =>
      have bound : start + (left + 1) = start + 1 + left := by omega
      have taken : Path (start + 1 + left) (List.range' (start + 1) size)
          (ofSize size (List.range' (start + 1) left)) := ih (by omega)
      rw [List.range'_succ, List.range'_succ, ofSize, bound]
      refine taken.cons (fun tuple member => ofSize_length member) ?_
      -- the last tuple that takes the first position goes on to the lowest that leaves it
      intro tuple sized full
      by_cases room : size + 1 ≤ left
      · have step : Moves (start + 1 + left) (start :: tuple)
            (List.range' (start + 1) (size + 1)) := sized ▸ .move [] (by omega) full
        exact .next step (ih room)
      · have none : ofSize (size + 1) (List.range' (start + 1) left) = [] := by
          rw [← List.length_eq_zero_iff, ofSize_count, List.length_range']
          exact Nat.choose_eq_zero_of_lt (by omega)
        rw [none]
        exact .last ⟨by omega, full⟩

theorem positions_path (fits : size ≤ count) :
    Path count (List.range size) (positions count size) := by
  have path : Path (0 + count) (List.range' 0 size) (ofSize size (List.range' 0 count)) :=
    ofSize_path fits
  rw [Nat.zero_add, ← List.range_eq_range', ← List.range_eq_range'] at path
  exact path

end

section
variable {α : Type u} {items subset : List α} {size : Nat}

theorem gather_taken {tuple : List Nat} (taken : subset.map some = tuple.map (items[·]?)) :
    gather items tuple = .ok subset := by
  induction tuple generalizing subset with
  | nil =>
    cases List.map_eq_nil_iff.1 taken
    rfl
  | cons position rest ih =>
    obtain ⟨item, others, rfl, here, behind⟩ := List.map_eq_cons_iff.1 taken
    have gathered : rest.mapM (read items) = .ok others := ih behind
    have held : items[position]? = some item := here.symm
    rw [gather, List.mapM_cons, gathered, read, held]
    rfl

theorem sweeps_path {now : List Nat} {tuples : List (List Nat)} {subsets : List (List α)}
    (fits : size ≤ items.length) (path : Path items.length now tuples)
    (sized : ∀ tuple ∈ tuples, tuple.length = size)
    (taken : subsets.map (List.map some) = tuples.map (List.map (items[·]?))) :
    Sweeps items size now subsets := by
  induction path generalizing subsets with
  | last full =>
    obtain ⟨subset, none, rfl, here, nothing⟩ := List.map_eq_cons_iff.1 taken
    cases List.map_eq_nil_iff.1 nothing
    exact .last (gather_taken here) (advance_full fits (sized _ List.mem_cons_self) full)
  | next moves rest ih =>
    obtain ⟨subset, others, rfl, here, behind⟩ := List.map_eq_cons_iff.1 taken
    have onward := ih (fun tuple member => sized tuple (List.mem_cons_of_mem _ member)) behind
    exact .next (gather_taken here) (advance_moves fits (sized _ List.mem_cons_self) moves) onward

theorem sweeps_ofSize (fits : size ≤ items.length) :
    Sweeps items size (List.range size) (ofSize size items) :=
  sweeps_path fits (positions_path fits) (fun _ member => ofSize_length member)
    (ofSize_positions size items)

theorem rounds_upTo (fits : size ≤ items.length) : Rounds items (sizes size) (upTo size items) := by
  induction size with
  | zero => exact .done
  | succ size ih =>
    rw [sizes_succ, upTo]
    exact .round (sweeps_ofSize fits) (ih (by omega))

theorem Sweeps.unique {tuple : List Nat} {found other : List (List α)}
    (sweeps : Sweeps items size tuple found) (sweeps' : Sweeps items size tuple other) :
    found = other := by
  induction sweeps generalizing other with
  | last took stuck =>
    cases sweeps' with
    | last took' _ =>
      cases took.symm.trans took'
      rfl
    | next _ moved _ => cases stuck.symm.trans moved
  | next took moved _ ih =>
    cases sweeps' with
    | last _ stuck => cases stuck.symm.trans moved
    | next took' moved' rest =>
      cases took.symm.trans took'
      cases moved.symm.trans moved'
      rw [ih rest]

theorem Rounds.unique {asked : List Nat} {found other : List (List α)}
    (rounds : Rounds items asked found) (rounds' : Rounds items asked other) : found = other := by
  induction rounds generalizing other with
  | done =>
    cases rounds'
    rfl
  | round sweeps _ ih =>
    cases rounds' with
    | round sweeps' rest => rw [sweeps.unique sweeps', ih rest]

end

theorem largest_first_exact {α : Type u} (items : List α) :
    (largestFirst items).map (List.map some) =
        (sizes items.length).flatMap (fun size =>
          (positions items.length size).map (List.map (items[·]?))) ∧
      (∀ size, (positions items.length size).Pairwise (List.Lex (· < ·)) ∧
        ∀ tuple, tuple ∈ positions items.length size ↔
          Ascending items.length tuple ∧ tuple.length = size) ∧
      (largestFirst items).length = 2 ^ items.length - 1 ∧
      (∀ subset ∈ largestFirst items, subset ≠ [] ∧ subset.Sublist items) ∧
      ((largestFirst items).Pairwise fun earlier later => later.length ≤ earlier.length) ∧
      ∀ found, Rounds items (sizes items.length) found ↔ found = largestFirst items := by
  have rounds : Rounds items (sizes items.length) (largestFirst items) := rounds_upTo le_rfl
  refine ⟨?_, ?_, largestFirst_count items, ?_, upTo_shrinks _ items, ?_⟩
  · rw [largestFirst, upTo_sizes, List.map_flatMap]
    simp only [ofSize_positions]
  · exact fun size => ⟨positions_lex items.length size, fun tuple => mem_positions⟩
  · exact fun subset member => ⟨upTo_nonempty member, upTo_sublist member⟩
  · exact fun found => ⟨fun other => other.unique rounds, fun same => same ▸ rounds⟩

theorem equal_items_apart :
    [3, 3] ∈ largestFirst [3, 1, 3] ∧ [3, 3].Sublist [3, 1, 3] ∧
      (largestFirst [3, 1, 3]).length = 7 ∧
      Rounds [3, 1, 3] [3, 2, 1] (largestFirst [3, 1, 3]) := by
  obtain ⟨_, _, counted, within, _, rounds⟩ := largest_first_exact [3, 1, 3]
  have member : [3, 3] ∈ largestFirst [3, 1, 3] := by decide
  exact ⟨member, (within _ member).2, counted, (rounds _).2 rfl⟩

end TapHold.Subsets
