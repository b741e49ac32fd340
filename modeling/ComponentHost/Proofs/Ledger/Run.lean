import ComponentHost.Exchange.Ledger

/-! Runs of a ledger: what is done to it from outside, one act after the other, each at an
instant of its own. An act that is refused leaves the ledger as it was. Beside the runs stands
what they owe: an exchange comes to the outcome of the first act after its registration that
closes it, whatever else is done in between. -/

namespace ComponentHost

inductive Closing
  | response
  | timeout
  | cancellation
deriving DecidableEq

namespace Ledger

inductive Act
  | register (id : CorrelationId) (sender recipient : ComponentId) (timeout : Duration)
  | arm (id : CorrelationId) (span : Duration)
  | attach (id : CorrelationId) (alarm : Alarm)
  | cancelAlarm (alarm : Alarm)
  | resolve (id : CorrelationId) (r : Response)
  | expire (id : CorrelationId)
  | cancel (id : CorrelationId) (failure : RequestFailure)
  | cleanup (c : ComponentId)
  | sweep
  /-- An alarm goes off, whether or not it is armed or in charge of an entry. -/
  | ring (alarm : Alarm)
deriving DecidableEq

structure Event where
  time : Duration
  act : Act
deriving DecidableEq

def act (l : Ledger) (now : Duration) : Act → Except ExchangeError Ledger
  | .register id sender recipient timeout =>
    (l.register id sender recipient now timeout).map Prod.snd
  | .arm id span => .ok (l.arm id (now + span)).2
  | .attach id alarm => .ok ((l.attach? id alarm).getD l)
  | .cancelAlarm alarm => .ok (l.cancelAlarm alarm)
  | .resolve id r => l.resolve id r
  | .expire id => l.expire now id
  | .cancel id failure => l.cancel now failure id
  | .cleanup c => .ok (l.cleanup now c).2
  | .sweep => .ok (l.sweep now).2
  | .ring alarm => .ok (l.ring now alarm)

def after (l : Ledger) (v : Event) : Ledger := l.attempt (·.act v.time v.act)

def run (l : Ledger) (vs : List Event) : Ledger := vs.foldl after l

@[simp] theorem run_nil (l : Ledger) : l.run [] = l := rfl

@[simp] theorem run_cons (l : Ledger) (v : Event) (vs : List Event) :
    l.run (v :: vs) = (l.after v).run vs := rfl

theorem run_append (l : Ledger) (vs ws : List Event) : l.run (vs ++ ws) = (l.run vs).run ws :=
  List.foldl_append

def count (l : Ledger) : Closing → Nat
  | .response => l.completed
  | .timeout => l.timedOut
  | .cancellation => l.cancelled

/-- All that callers can tell of a ledger but its alarms. -/
def books (l : Ledger) : Table CorrelationId Entry × Nat × Nat × Nat × List Waiter :=
  (l.pending, l.completed, l.timedOut, l.cancelled, l.waiters)

def Act.wants : Act → Option CorrelationId
  | .resolve id _ | .expire id | .cancel id _ => some id
  | _ => none

end Ledger

namespace Entry

def closing? (e : Entry) (id : CorrelationId) (v : Ledger.Event) : Option (Closing × Response) :=
  match v.act with
  | .resolve i r => if i = id then some (.response, r) else none
  | .expire i => if i = id then some (.timeout, e.refusal id .timeout v.time) else none
  | .ring alarm => if alarm.id = id then some (.timeout, e.refusal id .timeout v.time) else none
  | .sweep => if e.overdue v.time then some (.timeout, e.refusal id .timeout v.time) else none
  | .cancel i failure =>
    if i = id then some (.cancellation, e.refusal id failure v.time) else none
  | .cleanup c =>
    if e.involves c then some (.cancellation, e.refusal id .cancelled v.time) else none
  | .register .. | .arm .. | .attach .. | .cancelAlarm _ => none

/-- The end that an exchange comes to in the events that follow its registration, if any. -/
def fate (e : Entry) (id : CorrelationId) (vs : List Ledger.Event) : Option (Closing × Response) :=
  vs.findSome? (e.closing? id)

@[simp] theorem fate_nil (e : Entry) (id : CorrelationId) : e.fate id [] = none := rfl

theorem fate_cons (e : Entry) (id : CorrelationId) (v : Ledger.Event) (vs : List Ledger.Event) :
    e.fate id (v :: vs) = (e.closing? id v).or (e.fate id vs) := by
  unfold fate
  rw [List.findSome?_cons]
  cases e.closing? id v <;> rfl

theorem closing?_alarm (e : Entry) (alarm : Option Alarm) (id : CorrelationId)
    (v : Ledger.Event) : { e with alarm }.closing? id v = e.closing? id v := by
  cases v with
  | mk time act => cases act <;> rfl

theorem fate_alarm (e : Entry) (alarm : Option Alarm) (id : CorrelationId)
    (vs : List Ledger.Event) : { e with alarm }.fate id vs = e.fate id vs := by
  have same : { e with alarm }.closing? id = e.closing? id :=
    funext fun v => e.closing?_alarm alarm id v
  rw [fate, fate, same]

end Entry

namespace Ledger

def fates (l : Ledger) : List Event → List (Option (Closing × Response))
  | [] => []
  | v :: vs =>
    match v.act with
    | .register id sender recipient timeout =>
      if l.pending.contains id then (l.after v).fates vs
      else
        Entry.fate ⟨sender, recipient, l.waiters.length, v.time, timeout, none⟩ id vs ::
          (l.after v).fates vs
    | _ => (l.after v).fates vs

end Ledger

end ComponentHost
