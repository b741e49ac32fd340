import ComponentHost.Host.Lifecycle

/-! What can happen in a host without moving its clock, one step at a time, and a schedule that
lets it happen until nothing more can. Every step uses up some of a finite amount of work, so
the schedule ends. -/

namespace ComponentHost

inductive Move
  | alarm (number : Nat)
  | actor (a : Nat)
  | enroll (i : Nat)
  | call (n : Nat)
deriving DecidableEq

namespace State

def stepAlarm (s : State) (number : Nat) : Option State := do
  let alarm ← s.ledger.alarms.find? number
  if alarm.due ≤ s.clock then some { s with ledger := s.ledger.ring s.clock alarm } else none

def stepCall (s : State) (n : Nat) : Option State :=
  match s.calls[n]? with
  | some (.running call) =>
    match call with
    | .deliver purpose target box mail => s.stepDeliver n purpose target box mail
    | .await waiter => s.stepAwait n waiter
    | .tell a mail => s.stepTell n a mail
    | .posting a mail target => s.stepPosting n a mail target
    | .invoked a slot target => s.stepInvoked n a slot target
    | .start a keep => s.stepStart n a keep
    | .halt a => s.stepHalt n a
    | .spawn sp => s.stepSpawnCall n sp
    | .stop st => s.stepStopCall n st
    | .restartStop st o => s.stepRestartStop n st o
    | .restartSpawn sp => s.stepRestartSpawn n sp
    | .shutdown st rest => s.stepShutdown n st rest
  | _ => none

def step (s : State) : Move → Option State
  | .alarm number => s.stepAlarm number
  | .actor a => s.stepActor a
  | .enroll i => s.enroll i
  | .call n => s.stepCall n

/-- Every move that could be open, in the order in which the schedule prefers them. -/
def moves (s : State) : List Move :=
  s.ledger.alarms.armed.map (Move.alarm ·.number) ++
    (List.range s.actors.length).map Move.actor ++
    (List.range s.enrolling.length).map Move.enroll ++
    (List.range s.calls.length).map Move.call

def next? (s : State) : Option State := s.moves.findSome? s.step

def quiet (s : State) : Prop := ∀ m, s.step m = none

def phaseWork : Phase → Nat
  | .busy .preStart .. => 6
  | .busy (.handle _) .. => 5
  | .busy .postStop .. => 2
  | .idle => 4
  | .ended _ => 0

def spawnWork (sp : Spawn) : Nat :=
  match sp.stage with
  | .loading => 10
  | .starting _ => 3
  | .discarding _ => 1

def callWork : Call → Nat
  | .deliver .. => 5
  | .await _ => 1
  | .tell .. => 4
  | .posting .. => 5
  | .invoked .. => 1
  | .start .. => 1
  | .halt _ => 1
  | .spawn sp => spawnWork sp
  | .stop _ => 1
  | .restartStop .. => 11
  | .restartSpawn sp => spawnWork sp
  | .shutdown _ rest => rest.length + 1

def callStateWork : CallState → Nat
  | .running c => callWork c
  | .returned .. => 0

-- An empty sum is Lean's own zero, whatever else is imported.
attribute [local instance (2000)] Zero.ofOfNat0 in
/-- An upper bound on the number of steps that can be taken without moving the clock. -/
def work (s : State) : Nat :=
  s.ledger.alarms.armed.length + (s.actors.map (phaseWork ·.phase)).sum +
    (s.post.boxes.map (3 * ·.queue.length)).sum + s.enrolling.length +
    (s.calls.map callStateWork).sum

def settleFor : Nat → State → State
  | 0, s => s
  | fuel + 1, s =>
    match s.next? with
    | some s => settleFor fuel s
    | none => s

def settle (s : State) : State := settleFor s.work s

def wakes (s : State) : List Duration :=
  s.ledger.alarms.armed.map Alarm.due ++
    s.actors.filterMap (fun a =>
      match a.phase with
      | .busy _ _ due => due
      | _ => none) ++
    s.calls.filterMap fun
      | .running (.stop st) | .running (.restartStop st _) | .running (.shutdown st _) =>
        some st.deadline
      | _ => none

def earliest : List Duration → Option Duration
  | [] => none
  | d :: rest =>
    match earliest rest with
    | some e => if d ≤ e then some d else some e
    | none => some d

def wake? (s : State) : Option Duration := earliest (s.wakes.filter (s.clock < ·))

def advanceFor : Nat → State → Duration → State
  | 0, s, target => { s with clock := target }.settle
  | fuel + 1, s, target =>
    match s.wake? with
    | some instant =>
      if instant ≤ target then advanceFor fuel { s with clock := instant }.settle target
      else { s with clock := target }.settle
    | none => { s with clock := target }.settle

def advance (s : State) (span : Duration) : State := advanceFor (s.work + 1) s (s.clock + span)

def hasReturned (s : State) (n : Nat) : Bool :=
  match s.calls[n]? with
  | some (.running _) => false
  | _ => true

def awaitFor : Nat → State → Nat → State
  | 0, s, _ => s
  | fuel + 1, s, n =>
    if s.hasReturned n then s
    else
      match s.wake? with
      | some instant => awaitFor fuel { s with clock := instant }.settle n
      | none => s

def await (s : State) (n : Nat) : State := awaitFor (s.work + 1) s.settle n

end State

end ComponentHost
