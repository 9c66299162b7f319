namespace TapHold.Text.ControlSequence

inductive Place where
  | outside
  | escape
  | escapeMore
  | parameters
  | systemCommand
  -- before the string of a device: at its beginning, among its parameters, and after them
  | device
  | deviceParameters
  | deviceMore
  | string
  -- in text that shows in the middle of a sequence
  | pause (sequence : Place)
  deriving DecidableEq, Repr, Inhabited

def between (low high : Nat) (c : Char) : Bool := low ≤ c.toNat && c.toNat ≤ high

def isLayout (c : Char) : Bool := c == '\t' || c == '\n' || c == '\x0C' || c == '\r'

def isVisible (c : Char) : Bool := isLayout c || (0x20 ≤ c.toNat && c != '\x7F')

-- A string ends with the byte 0x9C, also where this is a part of a character.
def endsString (c : Char) : Bool := (String.utf8EncodeChar c).contains 0x9C

def Place.afterEscape (c : Char) : Place :=
  match c with
  | '[' => parameters
  | ']' => systemCommand
  | 'P' => device
  | 'X' | '^' | '_' => string
  | c =>
    if between 0x30 0x7E c then outside
    else if between 0x20 0x2F c then escapeMore
    else escape

def Place.pauseOr (sequence : Place) (c : Char) (next : Place) : Place :=
  if isLayout c then pause sequence else next

-- The place after a character. Two control characters end whatever there is, and an escape
-- character ends it by beginning anew. Any other control character ends a pause, and the
-- sequence goes on; a character beyond ASCII ends both.
def Place.next (place : Place) (c : Char) : Place :=
  if c == '\x18' || c == '\x1A' then outside
  else if c == '\x1B' then escape
  else match place with
    | outside => outside
    | escape => pauseOr escape c (afterEscape c)
    | escapeMore => pauseOr escapeMore c (if between 0x30 0x7E c then outside else escapeMore)
    | parameters => pauseOr parameters c (if between 0x40 0x7E c then outside else parameters)
    | systemCommand => if c == '\x07' then outside else systemCommand
    | device =>
      if between 0x20 0x2F c then deviceMore
      else if between 0x30 0x3F c then deviceParameters
      else if between 0x40 0x7E c then string
      else device
    | deviceParameters =>
      if between 0x20 0x2F c then deviceMore
      else if between 0x3C 0x7E c then string
      else deviceParameters
    | deviceMore => if between 0x30 0x7E c then string else deviceMore
    | string => if endsString c then outside else string
    | pause sequence =>
      if !isVisible c then sequence
      else if c.toNat < 0x80 then pause sequence
      else outside

def Place.shows (place : Place) (c : Char) : Bool :=
  match place with
  | outside | pause _ => isVisible c
  | escape | escapeMore | parameters => isLayout c
  | systemCommand | device | deviceParameters | deviceMore | string => false

def stripFrom : Place → List Char → List Char
  | _, [] => []
  | place, c :: rest =>
    let rest := stripFrom (place.next c) rest
    if place.shows c then c :: rest else rest

def strip (text : String) : String := .ofList (stripFrom .outside text.toList)

end TapHold.Text.ControlSequence
