import TapHold.Toml.Reader

namespace TapHold

inductive BindingDraft where
  | single (text : String)
  | items (texts : List String)
  deriving DecidableEq, Repr, Inhabited

structure LayerDraft where
  trigger : String
  parent : Option String
  handoff : Option Bool
  inherit : Option Bool
  bindings : List (String × BindingDraft)
  deriving DecidableEq, Repr, Inhabited

structure TimingDraft where
  streakWindow : Option Nat
  homeRowHold : Option Nat
  layerHold : Option Nat
  deriving DecidableEq, Repr, Inhabited

structure Document where
  layout : List String
  homeRow : List (String × String)
  layers : List (String × LayerDraft)
  timing : Option TimingDraft
  deriving DecidableEq, Repr, Inhabited

namespace Document
open Toml (Value Entries)

def string? : Value → Option String
  | .string text => some text
  | _ => none

def strings? : Value → Option (List String)
  | .array items => items.mapM string?
  | _ => none

def boolean? : Value → Option Bool
  | .boolean b => some b
  | _ => none

def time? : Value → Option Nat
  | .integer (.ofNat ms) => some ms
  | _ => none

-- A date or a time is a table with one entry, its text under this name.
def momentName : String := "$__toml_private_datetime"

def table? : Value → Option Entries
  | .table _ entries => some entries
  | .dateTime moment => some [(momentName, .string moment.text)]
  | _ => none

def field? (read : Value → Option α) (name : String) (entries : Entries) : Option (Option α) :=
  match entries.lookup name with
  | none => some none
  | some value => (read value).map some

def knows (names : List String) (entries : Entries) : Bool :=
  entries.all fun (name, _) => names.contains name

def each? (read : Value → Option α) (value : Value) : Option (List (String × α)) := do
  (← table? value).mapM fun (name, value) => do return (name, ← read value)

def binding? (value : Value) : Option BindingDraft :=
  match string? value with
  | some text => some (.single text)
  | none => (strings? value).map .items

def bindings? (value : Value) : Option (List (String × BindingDraft)) := each? binding? value

-- In a list of fields only the bindings may be left out.
def layer? : Value → Option LayerDraft
  | .table _ entries => do
    if !knows ["trigger", "parent", "handoff", "inherit", "bindings"] entries then none
    else
      return ⟨← string? (← entries.lookup "trigger"), ← field? string? "parent" entries,
        ← field? boolean? "handoff" entries, ← field? boolean? "inherit" entries,
        (← field? bindings? "bindings" entries).getD []⟩
  | .array (trigger :: parent :: handoff :: inherit :: rest) => do
    let bindings ← match rest with
      | [] => some []
      | bindings :: _ => bindings? bindings
    return ⟨← string? trigger, some (← string? parent), some (← boolean? handoff),
      some (← boolean? inherit), bindings⟩
  | _ => none

def timing? : Value → Option TimingDraft
  | .table _ entries => do
    if !knows ["streak_window_ms", "hrm_hold_threshold_ms", "layer_hold_threshold_ms"] entries
    then none
    else
      return ⟨← field? time? "streak_window_ms" entries,
        ← field? time? "hrm_hold_threshold_ms" entries,
        ← field? time? "layer_hold_threshold_ms" entries⟩
  | .array (streakWindow :: homeRowHold :: layerHold :: _) => do
    return ⟨some (← time? streakWindow), some (← time? homeRowHold), some (← time? layerHold)⟩
  | _ => none

def ofEntries? (entries : Entries) : Option Document := do
  if !knows ["layout", "hrm", "layers", "timing"] entries then none
  else
    return ⟨← strings? (← entries.lookup "layout"),
      (← field? (each? string?) "hrm" entries).getD [],
      (← field? (each? layer?) "layers" entries).getD [],
      ← field? timing? "timing" entries⟩

def parse? (text : String) : Option Document := do
  ofEntries? (← Toml.Reader.document? text)

end Document
end TapHold
