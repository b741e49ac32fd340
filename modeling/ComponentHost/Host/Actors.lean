import ComponentHost.Actor.Hooks
import ComponentHost.Host.Messaging
import ComponentHost.Text.Quoted

/-! Actors at work. An idle actor heeds a stop before its mailbox, so mail still queued when it
is told to stop is never handled. Mail is lost, and those who wait for its outcome are told so,
when its actor has ended or dies with the mail in hand. -/

namespace ComponentHost.State

def maxCapacity : Nat := 2 ^ 61 - 1

def capacityPanic : String :=
  "a semaphore may not have more than MAX_PERMITS permits (2305843009213693951)"

def mailboxCapacity (s : State) : Nat := max 1 s.config.messaging.mailboxCapacity.toNat

def earlierCalls (s : State) (load : Nat) (function : String) : Nat :=
  s.history.countP fun r => r.load = load && r.invocation.function = function

def runGuest (s : State) (c : Component) (function : String) (args : List Value) :
    LimitedRun × State :=
  let invocation := c.invocation function args
  let run := c.program.run (s.earlierCalls c.load function) invocation
  (Limits.execute run invocation.maxFuel invocation.timeout,
    { s with history := s.history ++ [⟨s.clock, c.load, invocation⟩] })

def workFor (s : State) (role : Role) (hook : Hook) : Work × State :=
  match role with
  | .plain preStart postStop =>
    match hook with
    | .preStart => (⟨preStart, .nothing⟩, s)
    | .postStop => (⟨postStop, .nothing⟩, s)
    | .handle (.chore _ course) => (⟨course, .nothing⟩, s)
    | .handle _ => ({}, s)
  | .component c =>
    match c.guestCall hook with
    | none => (c.workOf hook 0 none, s)
    | some (function, args) =>
      let (run, s) := s.runGuest c function args
      (c.workAfter hook run, s)

def begin (s : State) (a : Nat) (hook : Hook) : State :=
  match s.actors[a]? with
  | none => s
  | some actor =>
    let (work, s) := s.workFor actor.role hook
    let s := s.note a (.began hook)
    s.updateActor a fun actor =>
      { actor with phase := .busy hook work (work.course.span.map (s.clock + ·)) }

def createActor (s : State) (name : String) (role : Role) : Nat × State :=
  let (box, post) := s.post.install s.mailboxCapacity
  let a := s.actors.length
  let actor : Actor := { name, box, role, phase := .idle }
  (a, { s with post, actors := s.actors ++ [actor] }.begin a .preStart)

def bury (s : State) (a : Nat) (ending : Ending) : State :=
  match s.actors[a]? with
  | none => s
  | some actor =>
    let queued := s.post.queued actor.box
    let s := { s with post := s.post.discard actor.box }
    let s := queued.foldl loseMail s
    s.updateActor a fun actor => { actor with phase := .ended ending }

def perform (s : State) (responder : ComponentId) : Effect → State
  | .nothing => s
  | .respond id requester reply =>
    match s.respond id responder requester reply with
    | .ok s => s
    | .error _ => s
  | .answer caller outcome => s.settleSlot caller (.filled outcome)

def endHook (s : State) (a : Nat) (actor : Actor) (hook : Hook) (work : Work) : State :=
  let s := s.note a (.ended hook work.course.ending)
  match work.course.ending with
  | .panicked text =>
    let s := match hook with
      | .handle mail => s.loseMail mail
      | _ => s
    s.bury a (.panicked text)
  | ending =>
    let s := s.perform ⟨actor.name⟩ work.effect
    match hook, ending with
    | .preStart, .failed reason =>
      (s.updateActor a fun actor => { actor with startup := some (.error reason) }).bury a .finished
    | .preStart, _ =>
      s.updateActor a fun actor => { actor with startup := some (.ok ()), phase := .idle }
    | .handle _, _ => s.updateActor a fun actor => { actor with phase := .idle }
    | .postStop, ending => s.bury a ending

def stepActor (s : State) (a : Nat) : Option State :=
  match s.actors[a]? with
  | none => none
  | some actor =>
    match actor.phase with
    | .ended _ => none
    | .busy hook work (some due) =>
      if due ≤ s.clock then some (s.endHook a actor hook work) else none
    | .busy _ _ none => none
    | .idle =>
      if actor.told || !s.isHeld a then
        some ({ s with post := s.post.close actor.box }.begin a .postStop)
      else
        match s.post.take? actor.box with
        | none => none
        | some (mail, post) => some ({ s with post }.begin a (.handle mail))

def startActor (s : State) (name : String) (preStart postStop : Course) (keep : String) :
    Nat × State :=
  if maxCapacity < s.mailboxCapacity then s.answerNow (.panicked capacityPanic)
  else
    let (a, s) := s.createActor name (.plain preStart postStop)
    s.enter (.start a keep)

def startOutcome (s : State) (a : Nat) : Option (Except ActorError Unit) := do
  let actor ← s.actors[a]?
  match actor.startup, actor.phase with
  | some (.ok ()), _ => some (.ok ())
  | some (.error reason), _ => some (.error (.startFailed actor.name reason))
  | none, .ended (.panicked text) =>
    some (.error (.startFailed actor.name
      (ActorError.stopFailed actor.name (Actor.deathText (Text.quoted text))).message))
  | none, .ended _ => some (.error (.startFailed actor.name "actor exited before starting"))
  | none, _ => none

def stepStart (s : State) (n a : Nat) (keep : String) : Option State := do
  match ← s.startOutcome a with
  | .ok () => some ((s.keep keep a).finish n (.started (.ok a)))
  | .error e => some (s.finish n (.started (.error e)))

def endingOf (name : String) : Ending → Except ActorError Unit
  | .finished => .ok ()
  | .failed reason => .error (.stopFailed name reason)
  | .panicked text => .error (.stopFailed name (Actor.deathText (Text.quoted text)))

def stopOutcome (s : State) (a : Nat) : Option (Except ActorError Unit) := do
  let actor ← s.actors[a]?
  match actor.phase with
  | .ended ending => some (endingOf actor.name ending)
  | _ => none

/-- Tells an actor to stop. The first to do so awaits the actor's end; to all others the stop
is over at once. -/
def beginHalt (s : State) (a : Nat) : State × Option (Except ActorError Unit) :=
  match s.actors[a]? with
  | none => (s, some (.ok ()))
  | some actor =>
    let s := s.updateActor a fun actor => { actor with told := true, awaited := true }
    if actor.awaited then (s, some (.ok ())) else (s, s.stopOutcome a)

def stopActor (s : State) (a : Nat) : Nat × State :=
  let (s, outcome) := s.beginHalt a
  match outcome with
  | some r => s.answerNow (.told r)
  | none => s.enter (.halt a)

def stepHalt (s : State) (n a : Nat) : Option State := do
  let r ← s.stopOutcome a
  some (s.finish n (.told r))

def isStopped (s : State) (a : Nat) : Bool :=
  match s.actors[a]? with
  | none => true
  | some actor => actor.told || !s.post.isOpen actor.box || actor.awaited || actor.hasEnded

def boxOf (s : State) (a : Nat) : Nat := (s.actors[a]?.map Actor.box).getD s.post.boxes.length

def tell (s : State) (a : Nat) (mail : Mail) : Nat × State :=
  let (offer, post) := s.post.offer (s.boxOf a) s.calls.length mail
  let s := { s with post }
  match offer with
  | .waiting => s.enter (.tell a mail)
  | .accepted => s.answerNow (.told (.ok ()))
  | .refused => s.answerNow (.told (.error (.mailboxClosed (s.nameOf a))))

def stepTell (s : State) (n a : Nat) (mail : Mail) : Option State :=
  let (offer, post) := s.post.offer (s.boxOf a) n mail
  let s := { s with post }
  match offer with
  | .waiting => none
  | .accepted => some (s.finish n (.told (.ok ())))
  | .refused => some (s.finish n (.told (.error (.mailboxClosed (s.nameOf a)))))

def invocationAnswer (target : Option (ComponentId × String)) :
    Except ActorError Outcome → Answer
  | r =>
    match target with
    | none => .invoked r
    | some (id, function) =>
      .executed <|
        match r with
        | .error e =>
          .error (.internal ("invoke of " ++ function ++ " on component " ++ id.name ++
            " failed: " ++ e.message))
        | .ok (.error failure) => .error (.ofCallFailure id.name failure)
        | .ok (.ok result) => .ok result

def invoke (s : State) (a : Nat) (function : String) (args : List Value)
    (target : Option (ComponentId × String)) : Nat × State :=
  let n := s.calls.length
  let mail := Mail.invoke function args n
  let (offer, post) := s.post.offer (s.boxOf a) n mail
  let s := { s with post }
  match offer with
  | .waiting => s.enter (.posting a mail target)
  | .accepted => s.enter (.invoked a .empty target)
  | .refused =>
    s.answerNow (invocationAnswer target (.error (.mailboxClosed (s.nameOf a))))

def stepPosting (s : State) (n a : Nat) (mail : Mail) (target : Option (ComponentId × String)) :
    Option State :=
  let (offer, post) := s.post.offer (s.boxOf a) n mail
  let s := { s with post }
  match offer with
  | .waiting => none
  | .accepted => some (s.proceed n (.invoked a .empty target))
  | .refused =>
    some (s.finish n (invocationAnswer target (.error (.mailboxClosed (s.nameOf a)))))

def stepInvoked (s : State) (n a : Nat) (slot : Slot) (target : Option (ComponentId × String)) :
    Option State :=
  match slot with
  | .empty => none
  | .lost => some (s.finish n (invocationAnswer target (.error (.mailboxClosed (s.nameOf a)))))
  | .filled outcome => some (s.finish n (invocationAnswer target (.ok outcome)))

end ComponentHost.State
