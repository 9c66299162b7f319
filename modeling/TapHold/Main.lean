import TapHold.Command

namespace TapHold

def usualPlace : IO (Option String) := do
  let absolute := fun (place : String) => place.startsWith "/"
  let folder := match (← IO.getEnv "XDG_CONFIG_HOME").filter absolute, ← IO.getEnv "HOME" with
    | some folder, _ => some folder
    | none, some home => if home.isEmpty then none else some (home ++ "/.config")
    | none, none => none
  return folder.map (· ++ "/homerow/config.toml")

def systemReason : Nat → Option String
  | 2 => some "No such file or directory"
  | 13 => some "Permission denied"
  | 20 => some "Not a directory"
  | 21 => some "Is a directory"
  | 36 => some "File name too long"
  | 40 => some "Too many levels of symbolic links"
  | _ => none

-- The number of an error. Some calls give it with a negative sign, wrapped to 32 bits.
def numberOf : IO.Error → Option Nat
  | .noFileOrDirectory _ number _ | .permissionDenied _ number _
  | .inappropriateType _ number _ | .invalidArgument _ number _ =>
    some (min number.toNat (0 - number).toNat)
  | _ => none

def reasonOf (error : IO.Error) : String :=
  match numberOf error with
  | some number => match systemReason number with
    | some reason => s!"{reason} (os error {number})"
    | none => toString error
  | none => toString error

def readText (place : String) : IO (Except String String) := do
  try
    let bytes ← IO.FS.readBinFile place
    match String.fromUTF8? bytes with
    | some text => return .ok text
    | none => return .error "stream did not contain valid UTF-8"
  catch error => return .error (reasonOf error)

def outcome (arguments : List String) : IO Command.Outcome := do
  match Command.read arguments with
  | .error reason => return Command.misused reason
  | .ok .version => return Command.version
  | .ok (.run options) =>
    match options.config <|> (← usualPlace) with
    | none => return Command.nowhere
    | some place => return Command.run options place (← readText place)

end TapHold

def main (arguments : List String) : IO UInt32 := do
  let outcome ← TapHold.outcome arguments
  IO.print outcome.out
  IO.eprint outcome.err
  return outcome.exit.toUInt32
