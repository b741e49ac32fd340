import ComponentHost.Config.Basic
import ComponentHost.Exchange.Ledger
import ComponentHost.Host.Roster
import ComponentHost.Post.Office
import ComponentHost.Post.Stats

/-! The host as one value: its clock, its exchanges, its mailboxes and routes, its actors, and
the calls on it that have begun and not yet returned. A call that waits is kept as the place
where it stands, so that the calls in flight can be advanced in any order. -/

namespace ComponentHost

/-- Where a component's bytes come from. A file is given with what reading it yields. -/
inductive Source
  | bytes (content : Bytes)
  | text (content : String)
  | file (content : Except String Bytes)
deriving DecidableEq

namespace Source

def load : Source → Except EngineFault Bytes
  | bytes content => .ok content
  | text content => .ok content.toUTF8.toList
  | file (.ok content) => .ok content
  | file (.error reason) => .error (.io reason)

end Source

structure Order where
  id : ComponentId
  source : Source
  metadata : Metadata
  capabilities : CapabilitySet := {}
deriving DecidableEq

inductive SpawnStage
  | loading
  | starting (actor : Nat)
  /-- The id was taken meanwhile; the actor started for nothing is awaited. -/
  | discarding (actor : Nat)
deriving DecidableEq

structure Spawn where
  order : Order
  stage : SpawnStage := .loading
  keep : Option String := none
deriving DecidableEq

structure Stop where
  id : ComponentId
  actor : Nat
  deadline : Duration
deriving DecidableEq

inductive Purpose
  | bare
  | message
  /-- A request; `awaited` tells whether the call stays for the outcome. -/
  | request (id : CorrelationId) (waiter : Nat) (awaited : Bool)
deriving DecidableEq

inductive Slot
  | empty
  | lost
  | filled (outcome : Outcome)
deriving DecidableEq

inductive Call
  | deliver (purpose : Purpose) (target : ComponentId) (box : Nat) (mail : Mail)
  | await (waiter : Nat)
  | tell (actor : Nat) (mail : Mail)
  | posting (actor : Nat) (mail : Mail) (target : Option (ComponentId × String))
  | invoked (actor : Nat) (slot : Slot) (target : Option (ComponentId × String))
  | start (actor : Nat) (keep : String)
  | halt (actor : Nat)
  | spawn (s : Spawn)
  | stop (s : Stop)
  | restartStop (s : Stop) (order : Order)
  | restartSpawn (s : Spawn)
  | shutdown (s : Stop) (rest : List ComponentId)
deriving DecidableEq

namespace Call

def holds (actor : Nat) : Call → Bool
  | tell a _ | posting a _ _ | invoked a _ _ | start a _ | halt a => a = actor
  | stop s | restartStop s _ | shutdown s _ => s.actor = actor
  | spawn s | restartSpawn s =>
    match s.stage with
    | .loading => false
    | .starting a | .discarding a => a = actor
  | deliver .. | await _ => false

end Call

inductive Answer
  | posted (r : Except PostError Unit)
  | requested (r : Except PostError (CorrelationId × Nat))
  | replied (r : Reply)
  | started (r : Except ActorError Nat)
  | told (r : Except ActorError Unit)
  | invoked (r : Except ActorError Outcome)
  | executed (r : Except HostError (Output × FuelUse))
  | spawned (r : Except HostError Nat)
  | done (r : Except HostError Unit)
  | panicked (text : String)
deriving DecidableEq

inductive CallState
  | running (call : Call)
  | returned (time : Duration) (answer : Answer)
deriving DecidableEq

structure Stats where
  messagesSent : Nat := 0
  requestsSent : Nat := 0
  responsesDelivered : Nat := 0
  routingFailures : Nat := 0
deriving DecidableEq, Inhabited

structure CallRecord where
  time : Duration
  load : Nat
  invocation : Invocation
deriving DecidableEq

inductive Moment
  | began (hook : Hook)
  | ended (hook : Hook) (ending : Ending)
deriving DecidableEq

structure LogEntry where
  time : Duration
  actor : Nat
  moment : Moment
deriving DecidableEq

structure State where
  config : HostConfig := {}
  engine : Engine
  clock : Duration := 0
  started : Bool := true
  ledger : Ledger := {}
  issued : Nat := 0
  post : PostOffice := {}
  stats : Stats := {}
  actors : List Actor := []
  roster : Roster Nat := .empty
  kept : Table String Nat := .empty
  /-- Started components that have yet to be made members of the ledger. -/
  enrolling : List ComponentId := []
  calls : List CallState := []
  loads : Nat := 0
  history : List CallRecord := []
  log : List LogEntry := []

namespace State

def nameOf (s : State) (a : Nat) : String :=
  match s.actors[a]? with
  | some actor => actor.name
  | none => ""

def updateActor (s : State) (a : Nat) (f : Actor → Actor) : State :=
  { s with actors := s.actors.modify a f }

def note (s : State) (a : Nat) (m : Moment) : State :=
  { s with log := s.log ++ [⟨s.clock, a, m⟩] }

def isHeld (s : State) (a : Nat) : Bool :=
  s.roster.entries.any (·.2 = a) || s.kept.entries.any (·.2 = a) ||
    s.calls.any fun
      | .running c => c.holds a
      | .returned .. => false

def keep (s : State) (name : String) (a : Nat) : State := { s with kept := s.kept.insert name a }

def release (s : State) (name : String) : State := { s with kept := s.kept.erase name }

def enter (s : State) (c : Call) : Nat × State :=
  (s.calls.length, { s with calls := s.calls ++ [.running c] })

def answerNow (s : State) (a : Answer) : Nat × State :=
  (s.calls.length, { s with calls := s.calls ++ [.returned s.clock a] })

def proceed (s : State) (n : Nat) (c : Call) : State :=
  { s with calls := s.calls.set n (.running c) }

def finish (s : State) (n : Nat) (a : Answer) : State :=
  { s with calls := s.calls.set n (.returned s.clock a) }

def fillSlot (slot : Slot) : CallState → CallState
  | .running (.invoked actor .empty target) => .running (.invoked actor slot target)
  | c => c

/-- Settles the outcome owed to a call, unless it was settled before. -/
def settleSlot (s : State) (n : Nat) (slot : Slot) : State :=
  { s with calls := s.calls.modify n (fillSlot slot) }

def loseMail (s : State) : Mail → State
  | .invoke _ _ caller => s.settleSlot caller .lost
  | _ => s

end State

end ComponentHost
