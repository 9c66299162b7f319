import TapHold.Command.Options
import TapHold.Keymap.Listing
import TapHold.Log.Compilation

namespace TapHold.Command

structure Outcome where
  exit : Nat
  out : String
  err : String
  deriving DecidableEq, Repr, Inhabited

structure Failure where
  message : String
  causes : List String
  deriving DecidableEq, Repr, Inhabited

namespace Failure

def causeLines : List String → List String
  | [] => []
  | [cause] => ["    " ++ Text.hanging 4 cause]
  | causes => causes.zipIdx.map fun (cause, place) =>
    s!"{Text.padLeft 5 (toString place)}: {Text.hanging 7 cause}"

def text (failure : Failure) : String :=
  "Error: " ++ failure.message ++
    (match causeLines failure.causes with
      | [] => ""
      | lines => "\n\nCaused by:\n" ++ String.intercalate "\n" lines) ++ "\n"

end Failure

def ofConfigError (context : String) (reason : ConfigError) : Failure :=
  ⟨context, reason.message :: reason.cause?.toList⟩

def ofCompileError (context : String) : CompileError → Failure
  | .config reason =>
    ⟨context, CompileError.message (.config reason) :: reason.message :: reason.cause?.toList⟩
  | .names collision => ⟨context, [collision.message]⟩

-- A check comes before a summary, and a summary before a key.
def view (options : Options) (keymap : Keymap) : Except Failure String :=
  if options.checkConfig then
    .ok (s!"Configuration is valid: {keymap.keyCount} keys, {keymap.ruleCount} rules, " ++
      s!"{keymap.findings.length} warnings\n")
  else if options.summary then .ok keymap.summary
  else match options.key with
    | none => .ok keymap.text
    | some key => match keymap.rulesFor? ⟨key⟩ with
      | some set => .ok set.text
      | none => .error ⟨s!"key '{key}' is not in the layout or a layer trigger", []⟩

def answerTo (options : Options) (place text : String) : Except Failure String := do
  let config ← (Config.parse text).mapError (ofConfigError s!"failed to load config {place}")
  let keymap ← (Keymap.compile config).mapError
    (ofCompileError s!"failed to compile config {place}")
  view options keymap

def opening (place : String) : Log.Entry := ⟨.debug, .command, s!"Loading config from {place}"⟩

def logLevel (options : Options) : Log.Level := if options.verbose then .debug else .warn

def logged (options : Options) (entries : List Log.Entry) : String :=
  String.join ((Log.upTo (logLevel options) entries).map Log.Entry.line)

def run (options : Options) (place : String) (content : Except String String) : Outcome :=
  match content with
  | .error reason =>
    let failure := ofConfigError s!"failed to load config {place}" (.unreadable reason)
    ⟨1, "", logged options [opening place] ++ failure.text⟩
  | .ok text =>
    let log := logged options (opening place :: Log.ofText false text)
    match answerTo options place text with
    | .ok out => ⟨0, out, log⟩
    | .error failure => ⟨1, "", log ++ failure.text⟩

def nowhere : Outcome :=
  ⟨1, "", Failure.text ⟨"no --config given and no user config directory is available", []⟩⟩

def version : Outcome := ⟨0, "homerow 0.1.0\n", ""⟩

def misused (reason : UsageError) : Outcome := ⟨2, "", s!"error: {reason.message}\n"⟩

end TapHold.Command
