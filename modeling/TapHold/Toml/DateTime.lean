namespace TapHold.Toml

structure Date where
  year : Nat
  month : Nat
  day : Nat
  deriving DecidableEq, Repr, Inhabited

-- A time of day. Second 60 is there for the days that have it.
structure Time where
  hour : Nat
  minute : Nat
  second : Nat
  nanosecond : Nat
  deriving DecidableEq, Repr, Inhabited

inductive Offset where
  | universal
  | minutes (east : Int)
  deriving DecidableEq, Repr, Inhabited

inductive DateTime where
  | onlyDate (date : Date)
  | onlyTime (time : Time)
  | both (date : Date) (time : Time) (offset : Option Offset)
  deriving DecidableEq, Repr, Inhabited

def zeroPadded (count n : Nat) : List Char :=
  let digits := Nat.toDigits 10 n
  List.replicate (count - digits.length) '0' ++ digits

def fractionText (nanosecond : Nat) : List Char :=
  ((zeroPadded 9 nanosecond).reverse.dropWhile (· == '0')).reverse

def Date.text (date : Date) : List Char :=
  zeroPadded 4 date.year ++ ['-'] ++ zeroPadded 2 date.month ++ ['-'] ++ zeroPadded 2 date.day

def Time.text (time : Time) : List Char :=
  zeroPadded 2 time.hour ++ [':'] ++ zeroPadded 2 time.minute ++ [':'] ++
    zeroPadded 2 time.second ++
    if time.nanosecond == 0 then [] else '.' :: fractionText time.nanosecond

def Offset.text : Offset → List Char
  | universal => ['Z']
  | minutes east =>
    (if east < 0 then '-' else '+') ::
      (zeroPadded 2 (east.natAbs / 60) ++ [':'] ++ zeroPadded 2 (east.natAbs % 60))

def DateTime.text : DateTime → String
  | onlyDate date => .ofList date.text
  | onlyTime time => .ofList time.text
  | both date time offset =>
    .ofList (date.text ++ ['T'] ++ time.text ++ (offset.map Offset.text).getD [])

namespace DateTime

def number (digits : List Char) : Nat :=
  digits.foldl (fun n c => 10 * n + (c.toNat - '0'.toNat)) 0

def field? (count low high : Nat) (text : List Char) : Option (Nat × List Char) :=
  let digits := text.take count
  let n := number digits
  if digits.length == count && digits.all Char.isDigit && low ≤ n && n ≤ high then
    some (n, text.drop count)
  else none

def after? (c : Char) : List Char → Option (List Char)
  | first :: rest => if first == c then some rest else none
  | [] => none

def daysIn (year month : Nat) : Nat :=
  if month == 2 then
    if year % 4 == 0 && (year % 100 != 0 || year % 400 == 0) then 29 else 28
  else if month == 4 || month == 6 || month == 9 || month == 11 then 30
  else 31

def date? (text : List Char) : Option (Date × List Char) := do
  let (year, rest) ← field? 4 0 9999 text
  let (month, rest) ← field? 2 1 12 (← after? '-' rest)
  let (day, rest) ← field? 2 1 (daysIn year month) (← after? '-' rest)
  return (⟨year, month, day⟩, rest)

def clock? (text : List Char) : Option ((Nat × Nat) × List Char) := do
  let (hour, rest) ← field? 2 0 23 text
  let (minute, rest) ← field? 2 0 59 (← after? ':' rest)
  return ((hour, minute), rest)

-- Digits of a second past the ninth are not kept, and do not round it up.
def nanoseconds (digits : List Char) : Nat :=
  number ((digits ++ List.replicate 9 '0').take 9)

def time? (text : List Char) : Option (Time × List Char) := do
  let ((hour, minute), rest) ← clock? text
  let (second, rest) ← field? 2 0 60 (← after? ':' rest)
  match rest with
  | '.' :: fraction =>
    let digits := fraction.takeWhile Char.isDigit
    if digits.isEmpty then none
    else return (⟨hour, minute, second, nanoseconds digits⟩, fraction.dropWhile Char.isDigit)
  | _ => return (⟨hour, minute, second, 0⟩, rest)

def offset? : List Char → Option (Option Offset)
  | [] => some none
  | ['Z'] | ['z'] => some (some .universal)
  | sign :: rest =>
    match clock? rest with
    | some ((hour, minute), []) =>
      if sign == '+' then some (some (.minutes (Int.ofNat (60 * hour + minute))))
      else if sign == '-' then some (some (.minutes (-Int.ofNat (60 * hour + minute))))
      else none
    | _ => none

def timeOn? (date : Date) (text : List Char) : Option DateTime := do
  let (time, rest) ← time? text
  return .both date time (← offset? rest)

def word? (word : List Char) : Option DateTime :=
  match time? word, date? word with
  | some (time, []), _ => some (.onlyTime time)
  | _, some (date, []) => some (.onlyDate date)
  | _, some (date, 'T' :: rest) | _, some (date, 't' :: rest) => timeOn? date rest
  | _, _ => none

def words? (first second : List Char) : Option DateTime :=
  match date? first with
  | some (date, []) => timeOn? date second
  | _ => none

end DateTime
end TapHold.Toml
