import ComponentHost.Exchange.Basic

/-! What is put into mailboxes, and the failures of posting. -/

namespace ComponentHost

inductive Ending
  | finished
  | failed (reason : String)
  | panicked (text : String)
deriving DecidableEq, Inhabited

/-- How an actor's hook runs: how long it takes, if it ever ends, and how it ends. -/
structure Course where
  span : Option Duration := some 0
  ending : Ending := .finished
deriving DecidableEq, Inhabited

inductive Mail
  | chore (tag : String) (course : Course)
  | message (sender : ComponentId) (payload : Bytes)
  | request (sender : ComponentId) (id : CorrelationId) (payload : Bytes)
  | invoke (function : String) (args : List Value) (caller : Nat)
deriving DecidableEq

inductive PostError
  | targetNotFound (target : String)
  | deliveryFailed (text : String)
  | exchange (e : ExchangeError)
deriving DecidableEq, Inhabited

namespace PostError

def message : PostError → String
  | targetNotFound target => "Target component not found: " ++ target
  | deliveryFailed text => "Message delivery failed: " ++ text
  | exchange e => e.message

def mailboxClosed (target : ComponentId) : PostError :=
  .deliveryFailed ("mailbox for " ++ target.name ++ " is closed")

def toRequestFailure : PostError → RequestFailure
  | targetNotFound target => .targetNotFound target
  | e => .processingFailed e.message

end PostError

end ComponentHost
