import ComponentHost.Command.Arguments
import ComponentHost.Command.Files
import ComponentHost.Command.LogFilter
import ComponentHost.Config.File
import ComponentHost.Host.Schedule
import ComponentHost.Json.Value
import ComponentHost.Wasm.Engine

/-! From a configuration to a running host, and to its end. The components are started one after
the other; one that does not start is skipped. -/

namespace ComponentHost

namespace Startup

inductive Result
  | started (actor : Nat)
  | skipped (e : HostError)
  | crashed (text : String)
  | stuck
deriving DecidableEq

def order (source : ComponentEntry → Source) (e : ComponentEntry) : Order :=
  ⟨e.id, source e, e.metadata, e.capabilities⟩

def resultOf (s : State) (n : Nat) : Result :=
  match s.calls[n]? with
  | some (.returned _ (.spawned (.ok a))) => .started a
  | some (.returned _ (.spawned (.error e))) => .skipped e
  | some (.returned _ (.panicked text)) => .crashed text
  | _ => .stuck

def startEntry (source : ComponentEntry → Source) (s : State) (e : ComponentEntry) :
    State × Result :=
  let (n, s) := s.spawnComponent (order source e) none
  let s := s.await n
  (s, resultOf s n)

/-- Starts the components of all entries in their order, unless a start brings all down. -/
def startAll (source : ComponentEntry → Source) :
    State → List ComponentEntry → State × List (ComponentEntry × Result)
  | s, [] => (s, [])
  | s, e :: rest =>
    match startEntry source s e with
    | (s, .crashed text) => (s, [(e, .crashed text)])
    | (s, .stuck) => (s, [(e, .stuck)])
    | (s, r) =>
      let (s, results) := startAll source s rest
      (s, (e, r) :: results)

end Startup

namespace Command

inductive Event
  | starting
  | skipping (id : ComponentId) (e : HostError)
  | running (count : Nat)
  | stopping
deriving DecidableEq

namespace Event

def level : Event → Level
  | skipping .. => .warn
  | _ => .info

def target : String := "wasm_host"

def message : Event → String
  | starting => "Starting wasm-host"
  | skipping .. => "Skipping component"
  | running _ => "Components running. Press Ctrl+C to stop"
  | stopping => "Shutting down"

def fields (e : Event) : List (String × Json.Value) :=
  ("message", .text e.message) ::
    match e with
    | skipping id error => [("component_id", .text id.name), ("error", .text error.message)]
    | running count => [("count", .natural count)]
    | starting | stopping => []

def isLogged (e : Event) (f : LogFilter) : Bool :=
  f.admits target e.level (e.fields.map Prod.fst)

end Event

structure Run where
  events : List Event := []
  exitCode : Nat := 0
  failure : Option String := none

def crashCode : Nat := 101

def loadFailure (path : String) : String := "Failed to load configuration from " ++ path

def configuration (o : Options) (read : String → Except String Bytes) :
    Except String ConfigFile :=
  match o.config with
  | none => .ok {}
  | some path => (ConfigFile.ofFile path (read path)).mapError fun _ => loadFailure path

def eventOf : ComponentEntry × Startup.Result → Option Event
  | (e, .skipped error) => some (.skipping e.id error)
  | _ => none

/-- Runs a host from its start to its end, with what reading files yields. -/
def run (o : Options) (read : String → Except String Bytes) : Run :=
  match configuration o read with
  | .error failure => ⟨[.starting], 1, some failure⟩
  | .ok config =>
    match Wasm.EngineSetup.create config.host.engine with
    | .error fault => ⟨[.starting], 1, some (HostError.initialization fault.message).message⟩
    | .ok setup =>
      let source (e : ComponentEntry) : Source := .file (read (resolve (o.config.getD "") e.path))
      let (s, results) :=
        Startup.startAll source { engine := setup.engine, config := config.host } config.components
      let events := .starting :: results.filterMap eventOf
      match results.getLast? with
      | some (_, .crashed _) => ⟨events, crashCode, none⟩
      | _ => ⟨events ++ [.running s.roster.size, .stopping], 0, none⟩

def componentPaths (path : String) (content : Except String Bytes) : List String :=
  match ConfigFile.ofFile path content with
  | .ok config => config.components.map fun e => resolve path e.path
  | .error _ => []

end Command

end ComponentHost
