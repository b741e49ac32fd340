import ComponentHost.Command.Startup

/-! The command. It runs until its standard input ends. -/

namespace ComponentHost.Command

def usage : String :=
  "Usage: wasm-host [OPTIONS]\n\nOptions:\n" ++
    "  -c, --config <CONFIG>  Path to the TOML configuration file [env: WASM_HOST_CONFIG=]\n" ++
    "      --log-json         Emit logs as JSON lines [env: WASM_HOST_LOG_JSON=]\n" ++
    "  -h, --help             Print help\n  -V, --version          Print version"

def versionText : String := "wasm-host 0.1.0"

def logLine (json : Bool) (e : Event) : String :=
  if json then
    (Json.Value.record [("level", .text e.level.name), ("fields", .record e.fields),
      ("target", .text Event.target)]).toText
  else e.level.name ++ " " ++ Event.target ++ ": " ++ e.message

def readFile (path : String) : IO (Except String Bytes) :=
  try
    return .ok (← IO.FS.readBinFile path).toList
  catch e => return .error (toString e)

def gather (o : Options) : IO (List (String × Except String Bytes)) := do
  match o.config with
  | none => return []
  | some path =>
    let content ← readFile path
    let rest ← (componentPaths path content).mapM fun p => return (p, ← readFile p)
    return (path, content) :: rest

partial def waitForEnd (input : IO.FS.Stream) : IO Unit := do
  if !(← input.getLine).isEmpty then waitForEnd input

def refuse : Refusal → IO Unit
  | .help => IO.println usage
  | .version => IO.println versionText
  | .usage e => IO.eprintln ("error: " ++ e.message ++ "\n\n" ++ usage)

/-- Logs the events of a run, the last of them when the input has ended. -/
def report (json : Bool) (filter : LogFilter) (r : Run) : IO Unit := do
  for e in r.events do
    if e = .stopping then waitForEnd (← IO.getStdin)
    if e.isLogged filter then IO.println (logLine json e)
  if let some failure := r.failure then IO.eprintln ("Error: " ++ failure)

end ComponentHost.Command

open ComponentHost.Command in
def main (arguments : List String) : IO UInt32 := do
  let config ← IO.getEnv configVariable
  let log ← IO.getEnv logVariable
  let filter := LogFilter.ofSetting (← IO.getEnv filterVariable)
  let env (name : String) : Option String := if name = configVariable then config else log
  match Options.read arguments env with
  | .error r =>
    refuse r
    return .ofNat r.exitCode
  | .ok o =>
    let files ← gather o
    let r := run o fun path => (files.lookup path).getD (.error Files.notFound)
    report o.logJson filter r
    return .ofNat r.exitCode
