import TapHold.Distinct
import TapHold.Key
import TapHold.Text.Pieces

namespace TapHold

inductive Hand where
  | left
  | right
  deriving DecidableEq, Repr, Inhabited

namespace Hand

def opposite : Hand → Hand
  | left => right
  | right => left

def text : Hand → String
  | left => "left"
  | right => "right"

end Hand

structure Layout.Row where
  left : List Key
  right : List Key
  deriving DecidableEq, Inhabited

def Layout.Row.keys (row : Layout.Row) : List Key := row.left ++ row.right

structure Layout where
  rows : List Layout.Row
  distinct : (rows.flatMap Layout.Row.keys).Nodup
  filled : ∀ row ∈ rows, row.keys ≠ []
  deriving DecidableEq

inductive LayoutError where
  | missingDelimiter (row : Nat) (line : String)
  | extraDelimiter (row : Nat) (line : String)
  | emptyRow (row : Nat)
  | duplicateKey (key : Key)
  deriving DecidableEq, Repr

namespace LayoutError

def message : LayoutError → String
  | missingDelimiter row line => s!"layout row {row} has no '|' between the hands: '{line}'"
  | extraDelimiter row line => s!"layout row {row} has more than one '|': '{line}'"
  | emptyRow row => s!"layout row {row} has no keys"
  | duplicateKey key => s!"key '{key.name}' appears more than once in the layout"

end LayoutError

namespace Layout

def empty : Layout := ⟨[], by simp, by simp⟩

instance : Inhabited Layout := ⟨empty⟩

def written (layout : Layout) : List Key := layout.rows.flatMap Row.keys

def left (layout : Layout) : List Key := layout.rows.flatMap Row.left
def right (layout : Layout) : List Key := layout.rows.flatMap Row.right

def all (layout : Layout) : List Key := layout.left ++ layout.right

def homeRow? (layout : Layout) : Option Row := layout.rows[1]?

def handOf? (layout : Layout) (key : Key) : Option Hand :=
  if key ∈ layout.left then some .left
  else if key ∈ layout.right then some .right
  else none

def contains (layout : Layout) (key : Key) : Bool := (layout.handOf? key).isSome

def placed? (layout : Layout) (key : Key) : Option String :=
  (layout.handOf? key).map fun hand => s!"{key.name} ({hand.text})"

-- True when exactly one of the keys is on the left hand. Keys off the layout, such as thumb
-- keys, are not on the left, so they count as opposite to left-hand keys.
def opposed (layout : Layout) (a b : Key) : Bool :=
  (layout.handOf? a == some .left) != (layout.handOf? b == some .left)

def Row.ofGroups (left right : List Char) : Row :=
  ⟨(Text.words left).map (⟨String.ofList ·⟩), (Text.words right).map (⟨String.ofList ·⟩)⟩

def repeated? (seen : List Key) : List Key → Option Key
  | [] => none
  | key :: rest => if key ∈ seen then some key else repeated? (seen ++ [key]) rest

theorem repeated_none {seen keys : List Key} (fresh : repeated? seen keys = none)
    (distinct : seen.Nodup) : (seen ++ keys).Nodup := by
  induction keys generalizing seen with
  | nil => simpa using distinct
  | cons key rest ih =>
    rw [repeated?] at fresh
    split at fresh
    · cases fresh
    · rename_i absent
      simpa using ih fresh (append_distinct distinct absent)

-- Adds a row below the others. A key that is already there is reported before an empty row,
-- and a wrong number of delimiters before both.
def addRow (layout : Layout) (line : String) : Except LayoutError Layout :=
  match Text.pieces (· == '|') line.toList with
  | [left, right] =>
    let row := Row.ofGroups left right
    match fresh : repeated? layout.written row.keys with
    | some key => .error (.duplicateKey key)
    | none =>
      if filled : row.keys = [] then .error (.emptyRow layout.rows.length)
      else .ok
        { rows := layout.rows ++ [row]
          distinct := by simpa [written] using repeated_none fresh layout.distinct
          filled := by
            intro other member
            rcases List.mem_append.1 member with above | last
            · exact layout.filled other above
            · simp only [List.mem_singleton] at last
              exact last ▸ filled }
  | [] | [_] => .error (.missingDelimiter layout.rows.length line)
  | _ => .error (.extraDelimiter layout.rows.length line)

def parse (lines : List String) : Except LayoutError Layout := lines.foldlM addRow empty

end Layout
end TapHold
