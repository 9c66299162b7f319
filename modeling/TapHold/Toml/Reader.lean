import TapHold.Toml.Scalar

namespace TapHold.Toml.Reader

-- How many parts a key may have, and how many brackets may be open around a value.
def nestingLimit : Nat := 79

def isBareKeyChar (c : Char) : Bool := c.isAlphanum || c == '_' || c == '-'

def keyPart? (text : List Char) : Option (String × List Char) :=
  match text with
  | '"' :: _ | '\'' :: _ => Quote.line? text
  | _ =>
    let name := text.takeWhile isBareKeyChar
    if name.isEmpty then none else some (.ofList name, text.dropWhile isBareKeyChar)

def keyPath? : Nat → List Char → Option (List String × List Char)
  | 0, _ => none
  | more + 1, text => do
    let (name, rest) ← keyPart? text
    match skipBlanks rest with
    | '.' :: rest =>
      let (names, rest) ← keyPath? more (skipBlanks rest)
      return (name :: names, rest)
    | rest => return ([name], rest)

def keyEquals? (text : List Char) : Option (List String × List Char) := do
  match ← keyPath? nestingLimit text with
  | (path, '=' :: rest) => return (path, skipBlanks rest)
  | _ => none

def deeper? : Nat → Option Nat
  | 0 => none
  | room + 1 => some room

-- Each reader passes on less fuel than it has. Of two readers that call each other one takes
-- a character, so twice the length of the text is enough for all. `room` is the number of
-- brackets that may still be opened.
mutual

def value? : Nat → Nat → List Char → Option (Value × List Char)
  | 0, _, _ => none
  | fuel + 1, room, text =>
    match text with
    | '[' :: rest => do
      let (items, rest) ← items? fuel (← deeper? room) (← skipTrivia false rest)
      return (.array items, rest)
    | '{' :: rest => do
      let room ← deeper? room
      match skipBlanks rest with
      | '}' :: rest => return (.table .inline [], rest)
      | rest =>
        let (pairs, rest) ← pairs? fuel room rest
        return (.table .inline (← Entries.addPairs pairs []), rest)
    | '"' :: _ | '\'' :: _ => (Quote.string? text).map fun (text, rest) => (.string text, rest)
    | _ => Scalar.read? text

def items? : Nat → Nat → List Char → Option (List Value × List Char)
  | 0, _, _ => none
  | _ + 1, _, ']' :: rest => some ([], rest)
  | fuel + 1, room, text => do
    let (item, rest) ← value? fuel room text
    match ← skipTrivia false rest with
    | ']' :: rest => return ([item], rest)
    | ',' :: rest =>
      let (items, rest) ← items? fuel room (← skipTrivia false rest)
      return (item :: items, rest)
    | _ => none

def pairs? : Nat → Nat → List Char → Option (List Pair × List Char)
  | 0, _, _ => none
  | fuel + 1, room, text => do
    let (path, rest) ← keyEquals? text
    let (value, rest) ← value? fuel room rest
    match skipBlanks rest with
    | '}' :: rest => return ([(path, value)], rest)
    | ',' :: rest =>
      let (pairs, rest) ← pairs? fuel room (skipBlanks rest)
      return ((path, value) :: pairs, rest)
    | _ => none

end

-- Arrays of tables are refused, as nothing that a configuration asks for can be one.
inductive Line where
  | header (path : List String)
  | pair (path : List String) (value : Value)

def line? (text : List Char) : Option (Line × List Char) :=
  match text with
  | '[' :: rest => do
    match ← keyPath? nestingLimit (skipBlanks rest) with
    | (path, ']' :: rest) => return (.header path, rest)
    | _ => none
  | _ => do
    let (path, rest) ← keyEquals? text
    let (value, rest) ← value? (2 * rest.length + 2) nestingLimit rest
    return (.pair path value, rest)

def lines? : Nat → List Char → Option (List Line)
  | 0, _ => none
  | fuel + 1, text =>
    match skipBlanks text with
    | [] => some []
    | c :: rest =>
      if c == '#' || c == '\n' || c == '\r' then do lines? fuel (← lineEnd (c :: rest))
      else do
        let (line, rest) ← line? (c :: rest)
        let lines ← lines? fuel (← lineEnd rest)
        return line :: lines

def sections : List Line → List Pair × List (List String × List Pair)
  | [] => ([], [])
  | .pair path value :: rest =>
    let (pairs, others) := sections rest
    ((path, value) :: pairs, others)
  | .header path :: rest =>
    let (pairs, others) := sections rest
    ([], (path, pairs) :: others)

def assemble? (lines : List Line) : Option Entries := do
  let (pairs, headers) := sections lines
  headers.foldlM (fun root (path, pairs) => root.addTable pairs path)
    (← Entries.addPairs pairs [])

def dropMark : List Char → List Char
  | '\uFEFF' :: rest => rest
  | text => text

def document? (text : String) : Option Entries := do
  let body := dropMark text.toList
  assemble? (← lines? (body.length + 1) body)

end TapHold.Toml.Reader
