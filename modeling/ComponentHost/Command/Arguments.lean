/-! The command line: where the configuration file is, and whether to log as JSON. What the
arguments leave out may be set in the environment. -/

namespace ComponentHost.Command

structure Options where
  config : Option String := none
  logJson : Bool := false
deriving DecidableEq

inductive UsageError
  | unexpected (argument : String)
  | repeated (option : String)
  | missingValue (option : String)
  | unneededValue (option value : String)
  | invalidValue (option value : String)
deriving DecidableEq

inductive Refusal
  | help
  | version
  | usage (e : UsageError)
deriving DecidableEq

namespace Refusal

def exitCode : Refusal → Nat
  | help | version => 0
  | usage _ => 2

end Refusal

def configOption : String := "--config <CONFIG>"

def logOption : String := "--log-json"

def configVariable : String := "WASM_HOST_CONFIG"

def logVariable : String := "WASM_HOST_LOG_JSON"

def filterVariable : String := "RUST_LOG"

namespace UsageError

def message : UsageError → String
  | unexpected argument => "unexpected argument '" ++ argument ++ "' found"
  | repeated option => "the argument '" ++ option ++ "' cannot be used multiple times"
  | missingValue option => "a value is required for '" ++ option ++ "' but none was supplied"
  | unneededValue option value =>
    "unexpected value '" ++ value ++ "' for '" ++ option ++ "' found; no more were expected"
  | invalidValue option value => "invalid value '" ++ value ++ "' for '" ++ option ++ "'"

end UsageError

namespace Options

def setConfig (o : Options) (path : String) : Except Refusal Options :=
  if o.config.isSome then .error (.usage (.repeated configOption))
  else if path.isEmpty then .error (.usage (.missingValue configOption))
  else .ok { o with config := some path }

def setLog (o : Options) : Except Refusal Options :=
  if o.logJson then .error (.usage (.repeated logOption)) else .ok { o with logJson := true }

end Options

inductive Request
  | refuse (r : Refusal)
  | log
  | config (path : String)
  | configNext
  /-- Nothing but other arguments may follow, of which there are none. -/
  | last

def ofLetters (argument : String) : List Char → Request
  | 'h' :: _ => .refuse .help
  | 'V' :: _ => .refuse .version
  | ['c'] => .configNext
  | 'c' :: '=' :: path => .config (String.ofList path)
  | 'c' :: path => .config (String.ofList path)
  | _ => .refuse (.usage (.unexpected argument))

def ofName (argument name : String) (value : Option String) : Request :=
  match name, value with
  | "help", none => .refuse .help
  | "version", none => .refuse .version
  | "log-json", none => .log
  | "config", none => .configNext
  | "config", some path => .config path
  | "help", some v | "version", some v | "log-json", some v =>
    .refuse (.usage (.unneededValue ("--" ++ name) v))
  | _, _ => .refuse (.usage (.unexpected argument))

def Request.ofArgument (argument : String) : Request :=
  match argument.toList with
  | ['-', '-'] => .last
  | '-' :: '-' :: cs =>
    ofName argument (String.ofList (cs.takeWhile (· ≠ '=')))
      (match cs.dropWhile (· ≠ '=') with
      | [] => none
      | _ :: value => some (String.ofList value))
  | '-' :: c :: cs => ofLetters argument (c :: cs)
  | _ => .refuse (.usage (.unexpected argument))

def isValue (argument : String) : Bool :=
  match argument.toList with
  | '-' :: _ :: _ => false
  | _ => true

def readArguments : List String → Options → Except Refusal Options
  | [], o => .ok o
  | a :: rest, o =>
    match Request.ofArgument a with
    | .refuse r => .error r
    | .log => do readArguments rest (← o.setLog)
    | .config path => do readArguments rest (← o.setConfig path)
    | .configNext =>
      match rest with
      | path :: rest =>
        if isValue path then do readArguments rest (← o.setConfig path)
        else .error (.usage (.missingValue configOption))
      | [] => .error (.usage (.missingValue configOption))
    | .last =>
      match rest with
      | [] => .ok o
      | extra :: _ => .error (.usage (.unexpected extra))

def configFromEnvironment (env : String → Option String) (o : Options) : Except Refusal Options :=
  match o.config, env configVariable with
  | none, some path => o.setConfig path
  | _, _ => .ok o

def logFromEnvironment (env : String → Option String) (o : Options) : Except Refusal Options :=
  match o.logJson, env logVariable with
  | false, some "true" => .ok { o with logJson := true }
  | false, some "false" => .ok o
  | false, some value => .error (.usage (.invalidValue logOption value))
  | _, _ => .ok o

/-- The options that arguments give, and the environment where they say nothing. -/
def Options.read (arguments : List String) (env : String → Option String) :
    Except Refusal Options := do
  let o ← readArguments arguments {}
  let o ← configFromEnvironment env o
  logFromEnvironment env o

end ComponentHost.Command
