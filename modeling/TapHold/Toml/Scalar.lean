import TapHold.Toml.Quote
import TapHold.Toml.Value

namespace TapHold.Toml.Scalar

def isWordChar (c : Char) : Bool :=
  c.isAlphanum || c == '_' || c == '+' || c == '-' || c == '.' || c == ':'

def digits? (valid : Char → Bool) : List Char → Option (List Char)
  | [] => none
  | [c] => if valid c then some [c] else none
  | c :: '_' :: rest => if valid c then (digits? valid rest).map (c :: ·) else none
  | c :: rest => if valid c then (digits? valid rest).map (c :: ·) else none

def natural? (base : Nat) (word : List Char) : Option Nat := do
  let valid := fun c => ((Quote.hexDigit? c).getD base) < base
  let digits ← digits? valid word
  return digits.foldl (fun n c => base * n + (Quote.hexDigit? c).getD 0) 0

def decimal? (word : List Char) : Option Nat :=
  match word with
  | '0' :: _ :: _ => none
  | _ => natural? 10 word

def integer? : List Char → Option Int
  | '0' :: 'x' :: word => (natural? 16 word).map Int.ofNat
  | '0' :: 'o' :: word => (natural? 8 word).map Int.ofNat
  | '0' :: 'b' :: word => (natural? 2 word).map Int.ofNat
  | '-' :: word => (decimal? word).map (-Int.ofNat ·)
  | '+' :: word => (decimal? word).map Int.ofNat
  | word => (decimal? word).map Int.ofNat

def inRange (n : Int) : Bool := -9223372036854775808 ≤ n && n ≤ 9223372036854775807

def isDigitChar (c : Char) : Bool := c.isDigit || c == '_'

structure Scaled where
  digits : Nat
  exponent : Int
  deriving DecidableEq, Repr, Inhabited

-- The least number that is nearer to 2^1024 than to the greatest float.
def floatLimit : Nat := Nat.pow 2 1024 - Nat.pow 2 970

def Scaled.isTooLarge (number : Scaled) : Bool :=
  let places : Int := (Nat.toDigits 10 number.digits).length + number.exponent
  if number.digits == 0 || places < 309 then false
  else if 309 < places then true
  else match number.exponent with
    | .ofNat up => floatLimit ≤ number.digits * Nat.pow 10 up
    | .negSucc down => floatLimit * Nat.pow 10 (down + 1) ≤ number.digits

def exponent? : List Char → Option Int
  | letter :: rest =>
    if letter == 'e' || letter == 'E' then
      match rest with
      | '-' :: digits => (natural? 10 digits).map (-Int.ofNat ·)
      | '+' :: digits => (natural? 10 digits).map Int.ofNat
      | digits => (natural? 10 digits).map Int.ofNat
    else none
  | [] => none

def scaled? (word : List Char) : Option Scaled := do
  let whole ← decimal? (word.takeWhile isDigitChar)
  match word.dropWhile isDigitChar with
  | '.' :: rest =>
    let fraction ← digits? Char.isDigit (rest.takeWhile isDigitChar)
    let exponent ← match rest.dropWhile isDigitChar with
      | [] => some 0
      | tail => exponent? tail
    return ⟨fraction.foldl (fun n c => 10 * n + (c.toNat - '0'.toNat)) whole,
      exponent - fraction.length⟩
  | tail => return ⟨whole, ← exponent? tail⟩

-- A number too large for a float is none, unless it is negative.
def isMagnitude (negative : Bool) (word : List Char) : Bool :=
  word == ['i', 'n', 'f'] || word == ['n', 'a', 'n'] ||
    match scaled? word with
    | some number => negative || !number.isTooLarge
    | none => false

def isFloat : List Char → Bool
  | '-' :: word => isMagnitude true word
  | '+' :: word => isMagnitude false word
  | word => isMagnitude false word

def value? (word : List Char) : Option Value :=
  if word == ['t', 'r', 'u', 'e'] then some (.boolean true)
  else if word == ['f', 'a', 'l', 's', 'e'] then some (.boolean false)
  else match integer? word with
    | some n => if inRange n then some (.integer n) else none
    | none => if isFloat word then some .float else (DateTime.word? word).map .dateTime

def read? (text : List Char) : Option (Value × List Char) :=
  let word := text.takeWhile isWordChar
  let rest := text.dropWhile isWordChar
  let alone := (value? word).map (·, rest)
  match rest with
  | ' ' :: more =>
    match DateTime.words? word (more.takeWhile isWordChar) with
    | some moment => some (.dateTime moment, more.dropWhile isWordChar)
    | none => alone
  | _ => alone

end TapHold.Toml.Scalar
