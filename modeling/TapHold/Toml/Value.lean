import TapHold.Dict
import TapHold.Toml.DateTime

namespace TapHold.Toml

inductive TableOrigin where
  | inline
  | header
  -- stepped through by the header of a table inside it
  | implied
  -- stepped through by a dotted key
  | dotted
  deriving DecidableEq, Repr, Inhabited

inductive Value where
  | string (text : String)
  | integer (n : Int)
  | boolean (b : Bool)
  | float
  | dateTime (moment : DateTime)
  | array (items : List Value)
  | table (origin : TableOrigin) (entries : List (String × Value))
  deriving Inhabited

abbrev Entries := List (String × Value)

abbrev Pair := List String × Value

namespace Entries

-- Whether a dotted key may go on inside a table. Where its last part goes, the table must have
-- come from dotted keys alone.
def openTo (origin : TableOrigin) (last : Bool) : Bool :=
  match origin with
  | .dotted => true
  | .implied => !last
  | .inline | .header => false

def addPair : List String → Value → Entries → Option Entries
  | [], _, _ => none
  | [key], value, entries =>
    if (entries.lookup key).isSome then none else some (entries ++ [(key, value)])
  | step :: rest, value, entries =>
    match entries.lookup step with
    | none => do return entries ++ [(step, .table .dotted (← addPair rest value []))]
    | some (.table origin inner) =>
      if openTo origin (rest.length == 1) then do
        return Dict.put step (.table origin (← addPair rest value inner)) entries
      else none
    | some _ => none

def addPairs (pairs : List Pair) (entries : Entries) : Option Entries :=
  pairs.foldlM (fun entries (path, value) => addPair path value entries) entries

-- Adds a table under its header. If earlier headers only implied the table, it keeps what it
-- has and takes its place from this header; otherwise it must be new.
def addTable (pairs : List Pair) : List String → Entries → Option Entries
  | [], _ => none
  | [key], entries =>
    match entries.lookup key with
    | none => do return entries ++ [(key, .table .header (← addPairs pairs []))]
    | some (.table .implied inner) => do
      return entries.filter (·.1 != key) ++ [(key, .table .header (← addPairs pairs inner))]
    | some _ => none
  | step :: rest, entries =>
    match entries.lookup step with
    | none => do return entries ++ [(step, .table .implied (← addTable pairs rest []))]
    | some (.table .inline _) => none
    | some (.table origin inner) => do
      return Dict.put step (.table origin (← addTable pairs rest inner)) entries
    | some _ => none

end Entries
end TapHold.Toml
