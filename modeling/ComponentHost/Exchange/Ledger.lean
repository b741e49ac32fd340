import ComponentHost.Exchange.Alarms

/-! The ledger of exchanges: requests that await their outcome, how many ended in which way,
and what each waiter was handed. An entry leaves the ledger with its outcome in one step, so
a later response, alarm or cancellation for it finds nothing. -/

namespace ComponentHost

structure Entry where
  sender : ComponentId
  recipient : ComponentId
  waiter : Nat
  requestedAt : Duration
  timeout : Duration
  alarm : Option Alarm := none
deriving DecidableEq

namespace Entry

def involves (e : Entry) (c : ComponentId) : Bool := e.sender = c || e.recipient = c

def overdue (e : Entry) (now : Duration) : Bool := e.timeout < now - e.requestedAt

/-- The outcome of a request that got no response: it comes from its target. -/
def refusal (e : Entry) (id : CorrelationId) (failure : RequestFailure) (now : Duration) :
    Response :=
  ⟨id, e.recipient, e.sender, .error failure, now⟩

end Entry

structure Waiter where
  listening : Bool := true
  received : List Response := []
deriving DecidableEq

namespace Waiter

def hand (w : Waiter) (r : Response) : Waiter :=
  if w.listening then { w with received := w.received ++ [r] } else w

end Waiter

structure Ledger where
  pending : Table CorrelationId Entry := .empty
  members : List ComponentId := []
  completed : Nat := 0
  timedOut : Nat := 0
  cancelled : Nat := 0
  alarms : Alarms := {}
  waiters : List Waiter := []

namespace Ledger

instance : Inhabited Ledger := ⟨{}⟩

def register (l : Ledger) (id : CorrelationId) (sender recipient : ComponentId)
    (now timeout : Duration) : Except ExchangeError (Nat × Ledger) :=
  if l.pending.contains id then .error (.duplicate id)
  else
    let waiter := l.waiters.length
    .ok (waiter, { l with
      pending := l.pending.insert id ⟨sender, recipient, waiter, now, timeout, none⟩
      waiters := l.waiters ++ [{}] })

def arm (l : Ledger) (id : CorrelationId) (due : Duration) : Alarm × Ledger :=
  let (alarm, alarms) := l.alarms.arm id due
  (alarm, { l with alarms })

def cancelAlarm (l : Ledger) (alarm : Alarm) : Ledger :=
  { l with alarms := l.alarms.retire alarm }

/-- Puts an alarm in charge of an entry; one that was in charge before stays armed. -/
def attach? (l : Ledger) (id : CorrelationId) (alarm : Alarm) : Option Ledger :=
  (l.pending.get? id).map fun e =>
    { l with pending := l.pending.insert id { e with alarm := some alarm } }

/-- Closes an entry: its alarm is retired and its waiter handed the outcome. -/
def close (l : Ledger) (id : CorrelationId) (e : Entry) (r : Response) : Ledger :=
  { l with
    pending := l.pending.erase id
    alarms := match e.alarm with
      | some alarm => l.alarms.retire alarm
      | none => l.alarms
    waiters := l.waiters.modify e.waiter (·.hand r) }

def resolve (l : Ledger) (id : CorrelationId) (r : Response) : Except ExchangeError Ledger :=
  match l.pending.get? id with
  | none => .error (.unknown id)
  | some e => .ok { l.close id e r with completed := l.completed + 1 }

def expire (l : Ledger) (now : Duration) (id : CorrelationId) : Except ExchangeError Ledger :=
  match l.pending.get? id with
  | none => .error (.unknown id)
  | some e => .ok { l.close id e (e.refusal id .timeout now) with timedOut := l.timedOut + 1 }

def cancel (l : Ledger) (now : Duration) (failure : RequestFailure) (id : CorrelationId) :
    Except ExchangeError Ledger :=
  match l.pending.get? id with
  | none => .error (.unknown id)
  | some e => .ok { l.close id e (e.refusal id failure now) with cancelled := l.cancelled + 1 }

def attempt (l : Ledger) (step : Ledger → Except ExchangeError Ledger) : Ledger :=
  match step l with
  | .ok l => l
  | .error _ => l

def ring (l : Ledger) (now : Duration) (alarm : Alarm) : Ledger :=
  (l.cancelAlarm alarm).attempt (·.expire now alarm.id)

def each (step : Ledger → CorrelationId → Except ExchangeError Ledger) :
    List CorrelationId → Ledger → Nat × Ledger
  | [], l => (0, l)
  | id :: rest, l =>
    match step l id with
    | .ok l => let (n, l) := each step rest l; (n + 1, l)
    | .error _ => each step rest l

def involving (l : Ledger) (c : ComponentId) : List CorrelationId :=
  (l.pending.entries.filter (·.2.involves c)).map Prod.fst

def overdue (l : Ledger) (now : Duration) : List CorrelationId :=
  (l.pending.entries.filter (·.2.overdue now)).map Prod.fst

def cleanup (l : Ledger) (now : Duration) (c : ComponentId) : Nat × Ledger :=
  each (·.cancel now .cancelled) (l.involving c) l

def sweep (l : Ledger) (now : Duration) : Nat × Ledger :=
  each (·.expire now) (l.overdue now) l

def join (l : Ledger) (c : ComponentId) : Ledger :=
  { l with members := l.members.insert c }

def leave (l : Ledger) (c : ComponentId) : Ledger :=
  { l with members := l.members.filter (· ≠ c) }

def knows (l : Ledger) (c : ComponentId) : Bool := l.members.contains c

def abandon (l : Ledger) (waiter : Nat) : Bool × Ledger :=
  match l.waiters[waiter]? with
  | some w =>
    (w.listening && w.received.isEmpty,
      { l with waiters := l.waiters.set waiter { w with listening := false } })
  | none => (false, l)

theorem mem_involving {l : Ledger} {c : ComponentId} {id : CorrelationId} :
    id ∈ l.involving c ↔ ∃ e, l.pending.get? id = some e ∧ e.involves c = true := by
  simp [involving, Table.get?_eq_some_iff]

theorem mem_overdue {l : Ledger} {now : Duration} {id : CorrelationId} :
    id ∈ l.overdue now ↔ ∃ e, l.pending.get? id = some e ∧ e.overdue now = true := by
  simp [overdue, Table.get?_eq_some_iff]

@[simp] theorem knows_join (l : Ledger) (c d : ComponentId) :
    (l.join c).knows d = (d = c || l.knows d) := by
  simp [join, knows, List.contains_eq_mem, Bool.decide_or]

@[simp] theorem knows_leave (l : Ledger) (c d : ComponentId) :
    (l.leave c).knows d = (l.knows d && d ≠ c) := by
  simp [leave, knows, List.contains_eq_mem, List.mem_filter, Bool.decide_and]

end Ledger

end ComponentHost
