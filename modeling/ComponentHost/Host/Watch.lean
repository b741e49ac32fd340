import ComponentHost.Host.State

/-! What callers have yet to see of the calls they made: the end of a call and, after a request
that was posted without awaiting its outcome, that outcome. An outcome that came before its call
returned is seen when the call returns. -/

namespace ComponentHost

inductive Watch
  | call (step n : Nat)
  | outcome (step waiter : Nat) (since : Duration)
deriving DecidableEq

inductive Sight
  | answer (a : Answer)
  | outcome (r : Response)
deriving DecidableEq

structure Sighting where
  step : Nat
  time : Duration
  sight : Sight
deriving DecidableEq

namespace Watch

def after (step : Nat) (time : Duration) : Answer → Option Watch
  | .requested (.ok (_, waiter)) => some (.outcome step waiter time)
  | _ => none

def lookOutcome (s : State) (step waiter : Nat) (since : Duration) : Option Sighting := do
  let w ← s.ledger.waiters[waiter]?
  let r ← w.received.head?
  some ⟨step, if r.time < since then since else r.time, .outcome r⟩

def look (s : State) (w : Watch) : List Sighting × List Watch :=
  match w with
  | .outcome step waiter since =>
    match lookOutcome s step waiter since with
    | some seen => ([seen], [])
    | none => ([], [w])
  | .call step n =>
    match s.calls[n]? with
    | some (.returned time answer) =>
      let (seen, left) :=
        match after step time answer with
        | some (.outcome step waiter since) =>
          match lookOutcome s step waiter since with
          | some seen => ([seen], [])
          | none => ([], [.outcome step waiter since])
        | _ => ([], [])
      (⟨step, time, .answer answer⟩ :: seen, left)
    | _ => ([], [w])

def earlier (a b : Sighting) : Bool := a.step < b.step || (a.step = b.step && a.time ≤ b.time)

/-- Looks after everything watched; what is seen is given by call, then by time. -/
def lookAll (s : State) (ws : List Watch) : List Sighting × List Watch :=
  ((ws.flatMap fun w => (w.look s).1).mergeSort earlier, ws.flatMap fun w => (w.look s).2)

end Watch

end ComponentHost
