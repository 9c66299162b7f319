namespace TapHold.Command

structure Options where
  config : Option String
  checkConfig : Bool
  key : Option String
  summary : Bool
  verbose : Bool
  deriving DecidableEq, Repr, Inhabited

inductive Switch where
  | checkConfig
  | summary
  | verbose
  deriving DecidableEq, Repr

inductive Field where
  | config
  | key
  deriving DecidableEq, Repr

inductive UsageError where
  | unexpected (argument : String)
  | repeated (name : String)
  | missingValue (name : String)
  | emptyValue (name : String)
  deriving DecidableEq, Repr

inductive Request where
  | version
  | run (options : Options)
  deriving DecidableEq, Repr

def Switch.name : Switch → String
  | checkConfig => "--check-config"
  | summary => "--summary"
  | verbose => "--verbose"

def Field.name : Field → String
  | config => "--config"
  | key => "--key"

namespace UsageError

def message : UsageError → String
  | unexpected argument => s!"unexpected argument '{argument}'"
  | repeated name => s!"{name} is given more than once"
  | missingValue name => s!"{name} needs a value"
  | emptyValue name => s!"{name} needs a value that is not empty"

end UsageError

namespace Options

def none : Options := ⟨.none, false, .none, false, false⟩

def isOn (options : Options) : Switch → Bool
  | .checkConfig => options.checkConfig
  | .summary => options.summary
  | .verbose => options.verbose

def turnOn (options : Options) (switch : Switch) : Except UsageError Options :=
  if options.isOn switch then .error (.repeated switch.name)
  else .ok <| match switch with
    | .checkConfig => { options with checkConfig := true }
    | .summary => { options with summary := true }
    | .verbose => { options with verbose := true }

def get? (options : Options) : Field → Option String
  | .config => options.config
  | .key => options.key

def set (options : Options) (field : Field) (value : String) : Except UsageError Options :=
  if (options.get? field).isSome then .error (.repeated field.name)
  else match field with
    | .config =>
      if value.isEmpty then .error (.emptyValue field.name)
      else .ok { options with config := some value }
    | .key => .ok { options with key := some value }

end Options

inductive Step where
  | version
  | next (options : Options)
  -- the next argument has to be the value of this option
  | awaiting (options : Options) (field : Field)

def attached (options : Options) (field : Field) : List Char → Except UsageError Step
  | [] => .ok (.awaiting options field)
  | '=' :: value => return .next (← options.set field (.ofList value))
  | value => return .next (← options.set field (.ofList value))

def shorts (options : Options) : List Char → Except UsageError Step
  | [] => .ok (.next options)
  | 'V' :: _ => .ok .version
  | 's' :: rest => do shorts (← options.turnOn .summary) rest
  | 'v' :: rest => do shorts (← options.turnOn .verbose) rest
  | 'c' :: rest => attached options .config rest
  | 'k' :: rest => attached options .key rest
  | c :: _ => .error (.unexpected ("-" ++ String.singleton c))

def long (options : Options) (name : List Char) (value : Option (List Char)) :
    Except UsageError Step :=
  match String.ofList name, value with
  | "version", none => .ok .version
  | "check-config", none => return .next (← options.turnOn .checkConfig)
  | "summary", none => return .next (← options.turnOn .summary)
  | "verbose", none => return .next (← options.turnOn .verbose)
  | "config", none => .ok (.awaiting options .config)
  | "config", some value => return .next (← options.set .config (.ofList value))
  | "key", none => .ok (.awaiting options .key)
  | "key", some value => return .next (← options.set .key (.ofList value))
  | name, _ => .error (.unexpected ("--" ++ name))

def step (options : Options) (argument : List Char) : Except UsageError Step :=
  match argument with
  | '-' :: '-' :: body =>
    let name := body.takeWhile (· != '=')
    match body.dropWhile (· != '=') with
    | _ :: value => long options name (some value)
    | [] => long options name none
  | '-' :: c :: rest => shorts options (c :: rest)
  | _ => .error (.unexpected (.ofList argument))

-- An argument that begins with a hyphen is no value, unless it is the hyphen alone.
def isValue : List Char → Bool
  | '-' :: _ :: _ => false
  | _ => true

def readFrom (options : Options) : List String → Except UsageError Request
  | [] => .ok (.run options)
  | "--" :: [] => .ok (.run options)
  | "--" :: extra :: _ => .error (.unexpected extra)
  | argument :: rest => do
    match ← step options argument.toList with
    | .version => return .version
    | .next options => readFrom options rest
    | .awaiting options field =>
      match rest with
      | [] => .error (.missingValue field.name)
      | value :: rest =>
        if isValue value.toList then readFrom (← options.set field value) rest
        else .error (.missingValue field.name)

def read (arguments : List String) : Except UsageError Request := readFrom .none arguments

end TapHold.Command
