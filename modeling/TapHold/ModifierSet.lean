import TapHold.Distinct
import TapHold.Modifier
import TapHold.Text.Pieces

namespace TapHold

-- The keys of combined modifiers are sent in the order in which they were listed.
structure ModifierSet where
  members : List Modifier
  distinct : members.Nodup
  deriving DecidableEq

namespace ModifierSet

def empty : ModifierSet := ⟨[], by simp⟩

instance : EmptyCollection ModifierSet := ⟨empty⟩
instance : Inhabited ModifierSet := ⟨empty⟩

def contains (set : ModifierSet) (m : Modifier) : Bool := set.members.contains m

def insert (set : ModifierSet) (m : Modifier) : ModifierSet :=
  if fresh : m ∈ set.members then set
  else ⟨set.members ++ [m], append_distinct set.distinct fresh⟩

def single (m : Modifier) : ModifierSet := empty.insert m

def ofList (members : List Modifier) : ModifierSet := members.foldl insert empty

def size (set : ModifierSet) : Nat := set.members.length

def isEmpty (set : ModifierSet) : Bool := set.members.isEmpty

def text (set : ModifierSet) : String := String.ofList (set.members.map Modifier.symbol)

def isJoint (c : Char) : Bool := c == '-' || c == '+' || Text.isBlank c

-- The words of a modifier list. There may be none, as in "+".
def listed (text : List Char) : List (List Char) :=
  (Text.pieces isJoint text).filter (!·.isEmpty)

def parse (text : String) : Except ModifierError ModifierSet :=
  let body := Text.trim text.toList
  if body.isEmpty then .error .empty
  else match body.mapM Modifier.ofSymbol? with
    | some symbols => .ok (ofList symbols)
    | none => do return ofList (← (listed body).mapM Modifier.read)

theorem insert_members (set : ModifierSet) (m : Modifier) :
    (set.insert m).members = if m ∈ set.members then set.members else set.members ++ [m] := by
  unfold insert
  split <;> rfl

end ModifierSet
end TapHold
