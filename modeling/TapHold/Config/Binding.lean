import TapHold.Stroke

namespace TapHold

inductive BindingError where
  | empty
  | unknownModifier (word : String)
  | trailingHyphen
  | invalidKey (reason : KeyError)
  | itemCount (count : Nat)
  deriving DecidableEq, Repr

namespace BindingError

def message : BindingError → String
  | empty => "binding string cannot be empty"
  | unknownModifier word => s!"unknown modifier: '{word}'"
  | trailingHyphen => "binding string cannot end with hyphen"
  | invalidKey reason => s!"invalid key: {reason.message}"
  | itemCount count => s!"expected [key] or [key, modifiers], got {count} items"

end BindingError

namespace Binding

def readKey (text : String) : Except BindingError Key :=
  (Key.parse text).mapError .invalidKey

def readModifier (part : List Char) : Except BindingError Modifier :=
  (Modifier.read part).mapError fun _ => .unknownModifier (String.ofList part)

-- A hyphen alone is the hyphen key. The key is looked at before the modifiers.
def parse (text : String) : Except BindingError Stroke :=
  let body := Text.trim text.toList
  if body.isEmpty then .error .empty
  else if body = ['-'] then .ok (.plain ⟨"-"⟩)
  else if body.getLast? = some '-' then .error .trailingHyphen
  else do
    let parts := Text.pieces (· == '-') body
    let key ← readKey (String.ofList (parts.getLastD []))
    let modifiers ← parts.dropLast.mapM readModifier
    return ⟨key, .ofList modifiers⟩

def ofPair (key modifiers : String) : Except BindingError Stroke := do
  let key ← readKey key
  let set ← (ModifierSet.parse modifiers).mapError fun _ =>
    .unknownModifier (String.ofList (Text.trim modifiers.toList))
  return ⟨key, set⟩

def ofItems : List String → Except BindingError Stroke
  | [combination] => parse combination
  | [key, modifiers] => ofPair key modifiers
  | items => .error (.itemCount items.length)

end Binding
end TapHold
