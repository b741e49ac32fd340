import ComponentHost.Limits
import ComponentHost.Post.Mail

/-! Actors: each has a mailbox and hooks that run one at a time. The start hook comes first;
then mail is handled until the actor is told to stop; the stop hook comes last. -/

namespace ComponentHost

inductive ActorError
  | mailboxClosed (actor : String)
  | startFailed (actor reason : String)
  | stopFailed (actor reason : String)
deriving DecidableEq, Inhabited

namespace ActorError

def message : ActorError → String
  | mailboxClosed actor => "Mailbox closed for actor " ++ actor
  | startFailed actor reason => "Actor " ++ actor ++ " failed to start: " ++ reason
  | stopFailed actor reason => "Actor " ++ actor ++ " failed to stop: " ++ reason

end ActorError

inductive Hook
  | preStart
  | handle (mail : Mail)
  | postStop
deriving DecidableEq

inductive Effect
  | nothing
  | respond (id : CorrelationId) (requester : ComponentId) (reply : Reply)
  | answer (caller : Nat) (outcome : Outcome)
deriving DecidableEq

structure Work where
  course : Course := {}
  effect : Effect := .nothing
deriving DecidableEq, Inhabited

structure Component where
  id : ComponentId
  program : Program
  load : Nat
  metadata : Metadata
  capabilities : CapabilitySet

inductive Role
  | plain (preStart postStop : Course)
  | component (c : Component)

inductive Phase
  | busy (hook : Hook) (work : Work) (due? : Option Duration)
  | idle
  | ended (ending : Ending)

structure Actor where
  name : String
  box : Nat
  role : Role
  phase : Phase
  /-- What the start hook reported; nothing if it has not ended or died. -/
  startup : Option (Except String Unit) := none
  told : Bool := false
  /-- Whether some caller has taken it on itself to await the end. -/
  awaited : Bool := false

namespace Actor

def hasEnded (a : Actor) : Bool :=
  match a.phase with
  | .ended _ => true
  | _ => false

def deathText (panic : String) : String :=
  "actor task failed: task # panicked with message " ++ panic

end Actor

end ComponentHost
