import ComponentHost.Report.Basic

/-! Reports of failures: the kind, the wording, the causes behind it, and what else is known. -/

namespace ComponentHost

structure Failure where
  kind : String
  message : String
  causes : List String := []
  details : List (String × Json.Value) := []

namespace Failure

def json (f : Failure) : Json.Value :=
  .record (("error", .text f.kind) :: ("message", .text f.message) :: f.details)

def panic (text : String) : Failure := ⟨"Panic", text, [], []⟩

end Failure

def EngineFault.kind : EngineFault → String
  | initialization _ => "EngineInitialization"
  | compilation _ => "CompilationFailed"
  | functionNotFound _ => "FunctionNotFound"
  | invalidConfig _ => "InvalidConfig"
  | io _ => "Io"

def EngineFault.failure (f : EngineFault) : Failure := ⟨f.kind, f.message, f.causes, []⟩

def GuestFault.failure (f : GuestFault) : Failure :=
  ⟨match f with
    | .trap .. => "Trap"
    | .setup _ => "Setup", f.message, f.causes, []⟩

def RequestFailure.failure (f : RequestFailure) : Failure :=
  ⟨match f with
    | .timeout => "Timeout"
    | .cancelled => "Cancelled"
    | .targetNotFound _ => "TargetNotFound"
    | .processingFailed _ => "ProcessingFailed", f.message, [], []⟩

def ExchangeError.kind : ExchangeError → String
  | duplicate _ => "DuplicateCorrelationId"
  | unknown _ => "NotFound"

def ExchangeError.failure (e : ExchangeError) : Failure := ⟨e.kind, e.message, [], []⟩

def PostError.failure (e : PostError) : Failure :=
  match e with
  | .targetNotFound _ => ⟨"TargetNotFound", e.message, [], []⟩
  | .deliveryFailed _ => ⟨"DeliveryFailed", e.message, [], []⟩
  | .exchange cause => ⟨"Tracker", e.message, [], [("kind", .text cause.kind)]⟩

def RosterError.failure (e : RosterError) : Failure :=
  ⟨match e with
    | .notFound _ => "ComponentNotFound"
    | .taken _ => "AlreadyRegistered", e.message, [], []⟩

def ActorError.failure (e : ActorError) : Failure :=
  ⟨match e with
    | .mailboxClosed _ => "MailboxClosed"
    | .startFailed .. => "StartFailed"
    | .stopFailed .. => "StopFailed", e.message, [], []⟩

def CallFailure.kind : CallFailure → String
  | outOfFuel .. => "OutOfFuel"
  | overtime .. => "ExecutionTimeout"
  | trapped _ => "Trapped"
  | setup _ => "Runtime"

def CallFailure.details : CallFailure → List (String × Json.Value)
  | outOfFuel maxFuel consumed percent =>
    [("max_fuel", .natural maxFuel), ("consumed", .natural consumed),
      ("usage_bits", Report.bits64 percent.bits)]
  | overtime timeoutMs consumed =>
    [("timeout_ms", .natural timeoutMs),
      ("fuel_consumed", Report.optional .natural consumed)]
  | trapped reason => [("reason", .text reason)]
  | setup fault => [("kind", .text fault.kind)]

def CallFailure.failure (f : CallFailure) : Failure := ⟨f.kind, f.message, f.causes, f.details⟩

def SpawnCause.kind : SpawnCause → String
  | alreadyExists => "AlreadyExists"
  | loadFailed _ => "LoadFailed"
  | actorFailed _ => "ActorFailed"

def SpawnError.failure (e : SpawnError) : Failure := ⟨e.cause.kind, e.message, e.causes, []⟩

def HostError.kind : HostError → String
  | initialization _ => "InitializationFailed"
  | componentNotFound _ => "ComponentNotFound"
  | spawn _ => "ComponentSpawnFailed"
  | outOfFuel .. => "OutOfFuel"
  | overtime .. => "ExecutionTimeout"
  | trapped .. => "Trapped"
  | timeout .. => "Timeout"
  | messaging .. => "Messaging"
  | internal _ => "Internal"

def HostError.component? : HostError → Option String
  | initialization _ | internal _ => none
  | componentNotFound c | outOfFuel c .. | overtime c .. | trapped c _ | timeout _ c _
  | messaging c _ => some c
  | spawn e => some e.component

def HostError.details (e : HostError) : List (String × Json.Value) :=
  e.component?.toList.map (fun c => ("component_id", .text c)) ++
    match e with
    | spawn e => [("kind", .text e.cause.kind)]
    | outOfFuel _ maxFuel consumed percent =>
      CallFailure.details (.outOfFuel maxFuel consumed percent)
    | overtime _ timeoutMs consumed => CallFailure.details (.overtime timeoutMs consumed)
    | trapped _ reason => [("reason", .text reason)]
    | timeout operation _ timeoutMs =>
      [("operation", .text operation), ("timeout_ms", .natural timeoutMs)]
    | _ => []

def HostError.failure (e : HostError) : Failure := ⟨e.kind, e.message, e.causes, e.details⟩

namespace Report

def reply : Reply → Json.Value
  | .ok payload => .record [("ok", bytes payload)]
  | .error f => f.failure.json

def outcome : Outcome → Json.Value
  | .ok (o, f) => result o f
  | .error f => f.failure.json

end Report

end ComponentHost
