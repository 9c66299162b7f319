import TapHold.Text.Column
import TapHold.Text.ControlSequence

namespace TapHold.Log

inductive Level where
  | error
  | warn
  | info
  | debug
  | trace
  deriving DecidableEq, Repr, Inhabited

namespace Level

def rank : Level → Nat
  | error => 1
  | warn => 2
  | info => 3
  | debug => 4
  | trace => 5

def text : Level → String
  | error => "ERROR"
  | warn => "WARN"
  | info => "INFO"
  | debug => "DEBUG"
  | trace => "TRACE"

end Level

inductive Origin where
  | command
  | loader
  | compiler
  | pass
  | layers
  deriving DecidableEq, Repr, Inhabited

namespace Origin

def text : Origin → String
  | command => "homerow"
  | loader => "homerow_core::config::parser"
  | compiler => "homerow_core::compile::engine"
  | pass => "homerow_core::compile"
  | layers => "homerow_core::compile::layers"

end Origin

structure Entry where
  level : Level
  origin : Origin
  message : String
  deriving DecidableEq, Repr, Inhabited

namespace Entry

-- Further lines of a message have a margin, so that they are not taken for entries. What a
-- terminal would act on is left out; the margin is there before.
def line (entry : Entry) : String :=
  Text.ControlSequence.strip
    s!"[{Text.padRight 5 entry.level.text} {entry.origin.text}] {Text.hanging 4 entry.message}\n"

end Entry

def upTo (level : Option Level) (entries : List Entry) : List Entry :=
  match level with
  | none => []
  | some level => entries.filter (·.level.rank ≤ level.rank)

end TapHold.Log
