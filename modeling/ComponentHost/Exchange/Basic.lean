import ComponentHost.Component
import ComponentHost.Fault
import ComponentHost.Value

/-! An exchange is a request and the one outcome its requester is owed. -/

namespace ComponentHost

/-- Names an exchange: issued by the host in turn, or presented by a caller. -/
inductive CorrelationId
  | issued (serial : Nat)
  | named (text : String)
deriving DecidableEq, Inhabited

namespace CorrelationId

def text : CorrelationId → String
  | issued serial => "exchange " ++ toString serial
  | named text => text

end CorrelationId

inductive RequestFailure
  | timeout
  | cancelled
  | targetNotFound (target : String)
  | processingFailed (text : String)
deriving DecidableEq, Inhabited

namespace RequestFailure

def message : RequestFailure → String
  | timeout => "request timed out"
  | cancelled => "request cancelled"
  | targetNotFound target => "target component not found: " ++ target
  | processingFailed text => "processing failed: " ++ text

end RequestFailure

abbrev Reply := Except RequestFailure Bytes

structure Response where
  id : CorrelationId
  sender : ComponentId
  recipient : ComponentId
  reply : Reply
  time : Duration
deriving DecidableEq

inductive ExchangeError
  | duplicate (id : CorrelationId)
  | unknown (id : CorrelationId)
deriving DecidableEq, Inhabited

namespace ExchangeError

def message : ExchangeError → String
  | duplicate id => "Duplicate correlation ID: " ++ id.text
  | unknown id => "Correlation ID not found: " ++ id.text

end ExchangeError

end ComponentHost
