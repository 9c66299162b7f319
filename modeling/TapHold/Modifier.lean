import TapHold.Text.Blank

namespace TapHold

inductive Modifier where
  | control
  | command
  | shift
  | alt
  deriving DecidableEq, Repr, Inhabited

inductive ModifierError where
  | unknown (word : String)
  | empty
  deriving DecidableEq, Repr

namespace ModifierError

def message : ModifierError → String
  | unknown word => s!"unknown modifier: '{word}'"
  | empty => "modifier list cannot be empty"

end ModifierError

namespace Modifier

def all : List Modifier := [control, command, shift, alt]

def symbol : Modifier → Char
  | control => '⌃'
  | command => '⌘'
  | shift => '⇧'
  | alt => '⌥'

def text (m : Modifier) : String := String.singleton m.symbol

def aliases : Modifier → List String
  | control => ["ctrl", "control", "c"]
  | command => ["cmd", "command", "meta", "super", "win"]
  | shift => ["shift"]
  | alt => ["opt", "option", "alt", "a"]

def ofSymbol? (c : Char) : Option Modifier := all.find? (·.symbol == c)

def spellings (m : Modifier) : List (List Char) := [m.symbol] :: m.aliases.map String.toList

def Spells (word : List Char) (m : Modifier) : Prop := word.map Char.toLower ∈ m.spellings

instance (word : List Char) (m : Modifier) : Decidable (Spells word m) :=
  inferInstanceAs (Decidable (_ ∈ _))

def ofWord? (word : List Char) : Option Modifier := all.find? (fun m => decide (Spells word m))

def read (word : List Char) : Except ModifierError Modifier :=
  match ofWord? (Text.trim word) with
  | some m => .ok m
  | none => .error (.unknown (String.ofList (Text.trim word)))

def parse (text : String) : Except ModifierError Modifier := read text.toList

theorem ofSymbol_symbol (m : Modifier) : ofSymbol? m.symbol = some m := by
  cases m <;> decide

theorem symbol_of_ofSymbol {c : Char} {m : Modifier} (found : ofSymbol? c = some m) :
    c = m.symbol := by
  have hit := List.find?_some found
  exact (beq_iff_eq.1 hit).symm

theorem all_complete (m : Modifier) : m ∈ all := by cases m <;> decide

theorem spellings_apart :
    ∀ m ∈ all, ∀ n ∈ all, ∀ word ∈ m.spellings, word ∈ n.spellings → m = n := by decide

theorem spells_unique {word : List Char} {m n : Modifier} (first : Spells word m)
    (second : Spells word n) : m = n :=
  spellings_apart m (all_complete m) n (all_complete n) _ first second

theorem ofWord_exact {word : List Char} {m : Modifier} : ofWord? word = some m ↔ Spells word m := by
  constructor
  · intro found
    simpa using List.find?_some found
  · intro spelled
    cases found : ofWord? word with
    | none =>
      have missed := List.find?_eq_none.1 found m (all_complete m)
      simp [spelled] at missed
    | some other =>
      have also : Spells word other := by simpa using List.find?_some found
      rw [spells_unique also spelled]

end Modifier
end TapHold
