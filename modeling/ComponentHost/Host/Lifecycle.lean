import ComponentHost.Host.Actors

/-! Components come and go: starting, stopping, restarting, shutting the host down. A component
that is stopped loses its route and its pending requests first, then its actor is awaited up to
a deadline, and whatever came of that, it leaves the roster and the ledger. -/

namespace ComponentHost.State

def ensureStarted (s : State) : Except HostError Unit :=
  if s.started then .ok () else .error .notStarted

def spawnError (o : Order) (cause : SpawnCause) : HostError := .spawn ⟨o.id.name, cause⟩

def beginSpawn (s : State) (o : Order) (keep : Option String) : Spawn ⊕ Except HostError Nat :=
  match s.ensureStarted with
  | .error e => .inr (.error e)
  | .ok () =>
    if s.roster.contains o.id then .inr (.error (spawnError o .alreadyExists))
    else .inl { order := o, keep }

def loadProgram (s : State) (o : Order) : Except EngineFault Program := do
  let bytes ← o.source.load
  s.engine.load o.id bytes

/-- Enters a started actor under its id, unless the id was taken meanwhile. -/
def seat (s : State) (sp : Spawn) (a : Nat) : State × (Spawn ⊕ Except HostError Nat) :=
  match s.roster.register sp.order.id a with
  | .error _ => ((s.beginHalt a).1, .inl { sp with stage := .discarding a })
  | .ok roster =>
    let s := { s with
      roster
      post := s.post.route sp.order.id (s.boxOf a)
      enrolling := s.enrolling ++ [sp.order.id] }
    (match sp.keep with
      | some name => s.keep name a
      | none => s,
      .inr (.ok a))

inductive SpawnStep
  | blocked
  | next (s : State) (r : Spawn ⊕ Except HostError Nat)
  | panicked (text : String)

def stepSpawn (s : State) (sp : Spawn) : SpawnStep :=
  match sp.stage with
  | .loading =>
    match s.loadProgram sp.order with
    | .error fault => .next s (.inr (.error (spawnError sp.order (.loadFailed fault))))
    | .ok program =>
      if maxCapacity < s.mailboxCapacity then .panicked capacityPanic
      else
        let c : Component :=
          ⟨sp.order.id, program, s.loads, sp.order.metadata, sp.order.capabilities⟩
        let (a, s) := { s with loads := s.loads + 1 }.createActor sp.order.id.name (.component c)
        .next s (.inl { sp with stage := .starting a })
  | .starting a =>
    match s.startOutcome a with
    | none => .blocked
    | some (.error e) => .next s (.inr (.error (spawnError sp.order (.actorFailed e.message))))
    | some (.ok ()) =>
      let (s, r) := s.seat sp a
      .next s r
  | .discarding a =>
    match s.stopOutcome a with
    | none => .blocked
    | some _ => .next s (.inr (.error (spawnError sp.order .alreadyExists)))

def stopFailure (id : ComponentId) (e : ActorError) : HostError :=
  .internal ("stop of component " ++ id.name ++ " failed: " ++ e.message)

def stopTimeout (s : State) (id : ComponentId) : HostError :=
  .timeout "stop" id.name s.config.lifecycle.stopTimeoutMs.toNat

def dropPending (s : State) (id : ComponentId) : State :=
  { s with ledger := (s.ledger.cleanup s.clock id).2 }

def endStop (s : State) (id : ComponentId) : State :=
  let s := s.dropPending id
  { s with roster := s.roster.erase id, ledger := s.ledger.leave id }

def beginStop (s : State) (id : ComponentId) : State × (Stop ⊕ Except HostError Unit) :=
  match s.roster.get? id with
  | none => (s, .inr (.error (.componentNotFound id.name)))
  | some a =>
    let s := { s with post := s.post.unroute id }.dropPending id
    let (s, outcome) := s.beginHalt a
    match outcome with
    | some r => (s.endStop id, .inr (r.mapError (stopFailure id)))
    | none =>
      let bound := s.config.lifecycle.stopTimeout
      if bound = 0 then (s.endStop id, .inr (.error (s.stopTimeout id)))
      else (s, .inl ⟨id, a, s.clock + bound⟩)

def stepStop (s : State) (st : Stop) : Option (State × Except HostError Unit) :=
  match s.stopOutcome st.actor with
  | some r => some (s.endStop st.id, r.mapError (stopFailure st.id))
  | none =>
    if st.deadline ≤ s.clock then some (s.endStop st.id, .error (s.stopTimeout st.id)) else none

def drain (s : State) : List ComponentId → State × Option (Stop × List ComponentId)
  | [] => (s, none)
  | id :: rest =>
    match s.beginStop id with
    | (s, .inl st) => (s, some (st, rest))
    | (s, .inr _) => s.drain rest

def spawnComponent (s : State) (o : Order) (keep : Option String) : Nat × State :=
  match s.beginSpawn o keep with
  | .inl sp => s.enter (.spawn sp)
  | .inr r => s.answerNow (.spawned r)

def stepSpawnCall (s : State) (n : Nat) (sp : Spawn) : Option State :=
  match s.stepSpawn sp with
  | .blocked => none
  | .panicked text => some (s.finish n (.panicked text))
  | .next s (.inl sp) => some (s.proceed n (.spawn sp))
  | .next s (.inr r) => some (s.finish n (.spawned r))

def stopComponent (s : State) (id : ComponentId) : Nat × State :=
  match s.ensureStarted with
  | .error e => s.answerNow (.done (.error e))
  | .ok () =>
    match s.beginStop id with
    | (s, .inl st) => s.enter (.stop st)
    | (s, .inr r) => s.answerNow (.done r)

def stepStopCall (s : State) (n : Nat) (st : Stop) : Option State := do
  let (s, r) ← s.stepStop st
  some (s.finish n (.done r))

def respawn (s : State) (o : Order) : Except HostError Unit → Call ⊕ Answer
  | .error e => .inr (.done (.error e))
  | .ok () =>
    match s.beginSpawn o none with
    | .inl sp => .inl (.restartSpawn sp)
    | .inr r => .inr (.done (r.map fun _ => ()))

def restartComponent (s : State) (o : Order) : Nat × State :=
  match s.ensureStarted with
  | .error e => s.answerNow (.done (.error e))
  | .ok () =>
    if s.roster.contains o.id then
      match s.beginStop o.id with
      | (s, .inl st) => s.enter (.restartStop st o)
      | (s, .inr r) => s.enterOrAnswer (s.respawn o r)
    else s.enterOrAnswer (s.respawn o (.ok ()))

def stepRestartStop (s : State) (n : Nat) (st : Stop) (o : Order) : Option State := do
  let (s, r) ← s.stepStop st
  match s.respawn o r with
  | .inl c => some (s.proceed n c)
  | .inr a => some (s.finish n a)

def stepRestartSpawn (s : State) (n : Nat) (sp : Spawn) : Option State :=
  match s.stepSpawn sp with
  | .blocked => none
  | .panicked text => some (s.finish n (.panicked text))
  | .next s (.inl sp) => some (s.proceed n (.restartSpawn sp))
  | .next s (.inr r) => some (s.finish n (.done (r.map fun _ => ())))

def shutdown (s : State) : Nat × State :=
  if s.started then
    match { s with started := false }.drain s.roster.ids with
    | (s, some (st, rest)) => s.enter (.shutdown st rest)
    | (s, none) => s.answerNow (.done (.ok ()))
  else s.answerNow (.done (.ok ()))

def stepShutdown (s : State) (n : Nat) (st : Stop) (rest : List ComponentId) : Option State := do
  let (s, _) ← s.stepStop st
  match s.drain rest with
  | (s, some (st, rest)) => some (s.proceed n (.shutdown st rest))
  | (s, none) => some (s.finish n (.done (.ok ())))

def execute (s : State) (id : ComponentId) (function : String) (args : List Value) : Nat × State :=
  match s.ensureStarted with
  | .error e => s.answerNow (.executed (.error e))
  | .ok () =>
    match s.roster.get? id with
    | none => s.answerNow (.executed (.error (.componentNotFound id.name)))
    | some a => s.invoke a function args (some (id, function))

def status (s : State) (id : ComponentId) : Except HostError Status :=
  match s.ensureStarted with
  | .error e => .error e
  | .ok () =>
    if s.roster.contains id then .ok .running else .error (.componentNotFound id.name)

def list (s : State) : Except HostError (List ComponentId) :=
  match s.ensureStarted with
  | .error e => .error e
  | .ok () => .ok s.roster.ids

def describe (s : State) : String :=
  "HostSystemManager \x7b started: " ++ toString s.started ++ ", components: " ++
    toString s.roster.size ++ ", pending_requests: " ++ toString s.ledger.pending.size ++
    ", .. \x7d"

/-- Makes a started component a member of the ledger, unless it was stopped meanwhile. -/
def enroll (s : State) (i : Nat) : Option State := do
  let id ← s.enrolling[i]?
  some { s with
    enrolling := s.enrolling.eraseIdx i
    ledger := if s.roster.contains id then s.ledger.join id else s.ledger.leave id }

end ComponentHost.State
