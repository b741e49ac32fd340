import ComponentHost.Host.State

/-! Messages and requests between components. A request is entered in the ledger and guarded
by its alarm before it is posted, so that its outcome does not depend on the posting. -/

namespace ComponentHost.State

/-- Notes how a posting ended and gives its answer; a request that could not be posted leaves
the ledger, and one whose outcome is awaited goes on to await it. -/
def endDelivery (s : State) (purpose : Purpose) (target : ComponentId) :
    Except PostError Unit → State × (Call ⊕ Answer)
  | .ok () =>
    match purpose with
    | .bare => (s, .inr (.posted (.ok ())))
    | .message =>
      ({ s with stats.messagesSent := s.stats.messagesSent + 1 }, .inr (.posted (.ok ())))
    | .request id waiter awaited =>
      ({ s with stats.requestsSent := s.stats.requestsSent + 1 },
        if awaited then .inl (.await waiter) else .inr (.requested (.ok (id, waiter))))
  | .error e =>
    match purpose with
    | .bare => (s, .inr (.posted (.error e)))
    | .message =>
      ({ s with stats.routingFailures := s.stats.routingFailures + 1 }, .inr (.posted (.error e)))
    | .request id _ awaited =>
      ({ s with
          stats.routingFailures := s.stats.routingFailures + 1
          ledger := s.ledger.attempt (·.cancel s.clock (.targetNotFound target.name) id) },
        .inr (if awaited then .replied (.error e.toRequestFailure) else .requested (.error e)))

def enterOrAnswer (s : State) : Call ⊕ Answer → Nat × State
  | .inl c => s.enter c
  | .inr a => s.answerNow a

def deliver (s : State) (purpose : Purpose) (target : ComponentId) (mail : Mail) : Nat × State :=
  match s.post.routes.get? target with
  | none =>
    let (s, next) := s.endDelivery purpose target (.error (.targetNotFound target.name))
    s.enterOrAnswer next
  | some box =>
    let (offer, post) := s.post.offer box s.calls.length mail
    let s := { s with post }
    match offer with
    | .waiting => s.enter (.deliver purpose target box mail)
    | .accepted =>
      let (s, next) := s.endDelivery purpose target (.ok ())
      s.enterOrAnswer next
    | .refused =>
      let (s, next) := s.endDelivery purpose target (.error (.mailboxClosed target))
      s.enterOrAnswer next

def sendMessage (s : State) (sender target : ComponentId) (payload : Bytes) : Nat × State :=
  s.deliver .message target (.message sender payload)

def openExchange (s : State) (sender target : ComponentId) (timeout : Duration) :
    CorrelationId × Nat × State :=
  let id := CorrelationId.issued s.issued
  let s := { s with issued := s.issued + 1 }
  match s.ledger.register id sender target s.clock timeout with
  | .error _ => (id, 0, s)
  | .ok (waiter, ledger) =>
    let (alarm, ledger) := ledger.arm id (s.clock + timeout)
    (id, waiter, { s with ledger := (ledger.attach? id alarm).getD (ledger.cancelAlarm alarm) })

def sendRequest (s : State) (sender target : ComponentId) (payload : Bytes)
    (timeout? : Option Duration) (awaited : Bool) : Nat × State :=
  let timeout := timeout?.getD s.config.messaging.requestTimeout
  let (id, waiter, s) := s.openExchange sender target timeout
  s.deliver (.request id waiter awaited) target (.request sender id payload)

def respond (s : State) (id : CorrelationId) (responder requester : ComponentId) (reply : Reply) :
    Except PostError State :=
  match s.ledger.resolve id ⟨id, responder, requester, reply, s.clock⟩ with
  | .error e => .error (.exchange e)
  | .ok ledger =>
    .ok { s with ledger, stats.responsesDelivered := s.stats.responsesDelivered + 1 }

def stepDeliver (s : State) (n : Nat) (purpose : Purpose) (target : ComponentId) (box : Nat)
    (mail : Mail) : Option State :=
  let (offer, post) := s.post.offer box n mail
  let s := { s with post }
  let settle (r : Except PostError Unit) : State :=
    let (s, next) := s.endDelivery purpose target r
    match next with
    | .inl c => s.proceed n c
    | .inr a => s.finish n a
  match offer with
  | .waiting => none
  | .accepted => some (settle (.ok ()))
  | .refused => some (settle (.error (.mailboxClosed target)))

def stepAwait (s : State) (n waiter : Nat) : Option State := do
  let w ← s.ledger.waiters[waiter]?
  let r ← w.received.head?
  some (s.finish n (.replied r.reply))

def messagingStats (s : State) : MessagingStats where
  messagesSent := .ofNat s.stats.messagesSent
  requestsSent := .ofNat s.stats.requestsSent
  responsesDelivered := .ofNat s.stats.responsesDelivered
  routingFailures := .ofNat s.stats.routingFailures
  pendingRequests := .ofNat s.ledger.pending.size

end ComponentHost.State
