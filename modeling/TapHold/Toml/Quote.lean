import TapHold.Toml.Blank

namespace TapHold.Toml.Quote

def hexDigit? (c : Char) : Option Nat :=
  if c.isDigit then some (c.toNat - '0'.toNat)
  else if 'a' ≤ c && c ≤ 'f' then some (c.toNat - 'a'.toNat + 10)
  else if 'A' ≤ c && c ≤ 'F' then some (c.toNat - 'A'.toNat + 10)
  else none

def ofHex? (digits : List Char) : Option Char := do
  let n ← digits.foldlM (fun n c => do return 16 * n + (← hexDigit? c)) 0
  if n.isValidChar then some (Char.ofNat n) else none

def shortEscape? : Char → Option Char
  | 'b' => some '\x08'
  | 't' => some '\t'
  | 'n' => some '\n'
  | 'f' => some '\x0c'
  | 'r' => some '\r'
  | '"' => some '"'
  | '\\' => some '\\'
  | _ => none

def unescape? : List Char → Option (Char × List Char)
  | 'u' :: a :: b :: c :: d :: rest => (ofHex? [a, b, c, d]).map (·, rest)
  | 'U' :: a :: b :: c :: d :: e :: f :: g :: h :: rest =>
    (ofHex? [a, b, c, d, e, f, g, h]).map (·, rest)
  | c :: rest => (shortEscape? c).map (·, rest)
  | [] => none

-- At the end of a tripled string up to two more quotes may come first; they are content.
def closing? (quote : Char) (text : List Char) : Option (List Char × List Char) :=
  let run := (text.takeWhile (· == quote)).take 5
  if run.length < 3 then none else some (run.drop 3, text.drop run.length)

def basic : Nat → List Char → Option (List Char × List Char)
  | 0, _ | _ + 1, [] => none
  | _ + 1, '"' :: rest => some ([], rest)
  | fuel + 1, '\\' :: rest => do
    let (c, rest) ← unescape? rest
    let (content, rest) ← basic fuel rest
    return (c :: content, rest)
  | fuel + 1, c :: rest =>
    if isPlain c then do
      let (content, rest) ← basic fuel rest
      return (c :: content, rest)
    else none

def literal : List Char → Option (List Char × List Char)
  | [] => none
  | c :: rest =>
    if c == '\'' then some ([], rest)
    else if isPlain c then do
      let (content, rest) ← literal rest
      return (c :: content, rest)
    else none

def tripledLiteral : Nat → List Char → Option (List Char × List Char)
  | 0, _ => none
  | fuel + 1, text =>
    match closing? '\'' text, newline? text, text with
    | some closed, _, _ => some closed
    | none, some rest, _ => do
      let (content, rest) ← tripledLiteral fuel rest
      return ('\n' :: content, rest)
    | none, none, c :: rest =>
      if isPlain c then do
        let (content, rest) ← tripledLiteral fuel rest
        return (c :: content, rest)
      else none
    | none, none, [] => none

-- A backslash at the end of a line joins it to the next text, however many lines below.
def tripledBasic : Nat → List Char → Option (List Char × List Char)
  | 0, _ => none
  | fuel + 1, text =>
    match closing? '"' text, newline? text, text with
    | some closed, _, _ => some closed
    | none, some rest, _ => do
      let (content, rest) ← tripledBasic fuel rest
      return ('\n' :: content, rest)
    | none, none, '\\' :: rest =>
      match newline? (skipBlanks rest) with
      | some below => tripledBasic fuel (skipLines below)
      | none => do
        let (c, rest) ← unescape? rest
        let (content, rest) ← tripledBasic fuel rest
        return (c :: content, rest)
    | none, none, c :: rest =>
      if isPlain c then do
        let (content, rest) ← tripledBasic fuel rest
        return (c :: content, rest)
      else none
    | none, none, [] => none

def dropFirstLine (text : List Char) : List Char := (newline? text).getD text

def line? (text : List Char) : Option (String × List Char) :=
  match text with
  | '"' :: rest => (basic text.length rest).map fun (content, rest) => (.ofList content, rest)
  | '\'' :: rest => (literal rest).map fun (content, rest) => (.ofList content, rest)
  | _ => none

def string? (text : List Char) : Option (String × List Char) :=
  match text with
  | '"' :: '"' :: '"' :: rest =>
    (tripledBasic text.length (dropFirstLine rest)).map fun (content, rest) =>
      (.ofList content, rest)
  | '\'' :: '\'' :: '\'' :: rest =>
    (tripledLiteral text.length (dropFirstLine rest)).map fun (content, rest) =>
      (.ofList content, rest)
  | _ => line? text

end TapHold.Toml.Quote
