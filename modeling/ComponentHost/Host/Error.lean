import ComponentHost.Actor.Basic

/-! What the host answers when an operation on a component fails. -/

namespace ComponentHost

inductive SpawnCause
  | alreadyExists
  | loadFailed (fault : EngineFault)
  | actorFailed (text : String)
deriving DecidableEq, Inhabited

namespace SpawnCause

def message : SpawnCause → String
  | alreadyExists => "component already exists"
  | loadFailed fault => "load failed: " ++ fault.message
  | actorFailed text => "actor failed: " ++ text

def causes : SpawnCause → List String
  | loadFailed fault => fault.message :: fault.causes
  | _ => []

end SpawnCause

structure SpawnError where
  component : String
  cause : SpawnCause
deriving DecidableEq, Inhabited

namespace SpawnError

def message (e : SpawnError) : String :=
  "Failed to spawn component " ++ e.component ++ ": " ++ e.cause.message

def causes (e : SpawnError) : List String := e.cause.message :: e.cause.causes

def isAlreadyExists (e : SpawnError) : Bool := e.cause = .alreadyExists

end SpawnError

inductive RosterError
  | notFound (id : String)
  | taken (id : String)
deriving DecidableEq, Inhabited

namespace RosterError

def message : RosterError → String
  | notFound id => "Component not found: " ++ id
  | taken id => "Component already registered: " ++ id

end RosterError

inductive HostError
  | initialization (text : String)
  | componentNotFound (component : String)
  | spawn (e : SpawnError)
  | outOfFuel (component : String) (maxFuel consumed : Nat) (percent : Binary64)
  | overtime (component : String) (timeoutMs : Nat) (consumed : Option Nat)
  | trapped (component reason : String)
  | timeout (operation component : String) (timeoutMs : Nat)
  | messaging (component : String) (cause : PostError)
  | internal (text : String)
deriving DecidableEq, Inhabited

namespace HostError

def notStarted : HostError := .initialization "HostSystemManager not started"

def ofCallFailure (component : String) : CallFailure → HostError
  | .outOfFuel maxFuel consumed percent => .outOfFuel component maxFuel consumed percent
  | .overtime timeoutMs consumed => .overtime component timeoutMs consumed
  | .trapped reason => .trapped component reason
  | .setup fault =>
    .internal ("invocation setup failed for " ++ component ++ ": " ++ fault.message)

def message : HostError → String
  | initialization text => "Initialization failed: " ++ text
  | componentNotFound component => "Component not found: " ++ component
  | spawn e => e.message
  | outOfFuel component maxFuel consumed percent =>
    "Component " ++ component ++ " ran out of fuel: " ++
      CallFailure.outOfFuelText maxFuel consumed percent
  | overtime component timeoutMs _ =>
    "Component " ++ component ++ " execution timeout after " ++ toString timeoutMs ++ "ms"
  | trapped component reason => "Component " ++ component ++ " trapped: " ++ reason
  | timeout operation component timeoutMs =>
    operation ++ " of component " ++ component ++ " timed out after " ++ toString timeoutMs ++ "ms"
  | messaging component cause =>
    "Messaging error for component " ++ component ++ ": " ++ cause.message
  | internal text => "Internal error: " ++ text

def causes : HostError → List String
  | spawn e => e.causes
  | messaging _ cause => [cause.message]
  | _ => []

def isResourceLimit : HostError → Bool
  | outOfFuel .. | overtime .. | timeout .. => true
  | _ => false

def isNotFound : HostError → Bool
  | componentNotFound _ => true
  | _ => false

def isNotStarted : HostError → Bool
  | initialization _ => true
  | _ => false

end HostError

end ComponentHost
