import ComponentHost.Config.Shape

/-! What the host's messaging has done so far, in numbers. -/

namespace ComponentHost

structure MessagingStats where
  messagesSent : UInt64 := 0
  requestsSent : UInt64 := 0
  responsesDelivered : UInt64 := 0
  routingFailures : UInt64 := 0
  pendingRequests : UInt64 := 0
deriving DecidableEq, Inhabited

namespace MessagingStats

def schema : Schema :=
  .record "MessagingStats" <|
    .cons "messages_sent" .u64 .required <|
    .cons "requests_sent" .u64 .required <|
    .cons "responses_delivered" .u64 .required <|
    .cons "routing_failures" .u64 .required <|
    .cons "pending_requests" .count .required .nil

def shape : Shape MessagingStats where
  schema := schema
  toFields s := (s.messagesSent.toBitVec, s.requestsSent.toBitVec, s.responsesDelivered.toBitVec,
    s.routingFailures.toBitVec, s.pendingRequests.toBitVec, ())
  ofFields := fun (messages, requests, responses, failures, pending, ()) =>
    ⟨⟨messages⟩, ⟨requests⟩, ⟨responses⟩, ⟨failures⟩, ⟨pending⟩⟩

end MessagingStats

end ComponentHost
