import ComponentHost.Actor.Basic

/-! What a component's actor does in each hook. Every guest export is optional: without `init`
or `cleanup` the hook does nothing, without `handle-message` a message is only counted, and
without `handle-request` a request is answered with a failure. A reply is the four bytes of
the first result, if that is an i32. -/

namespace ComponentHost.Component

def initExport : String := "init"

def messageExport : String := "handle-message"

def requestExport : String := "handle-request"

def cleanupExport : String := "cleanup"

def guestCall (c : Component) : Hook → Option (String × List Value)
  | .preStart => optional initExport []
  | .postStop => optional cleanupExport []
  | .handle (.message _ payload) => optional messageExport [.ofLength payload.length]
  | .handle (.request _ _ payload) => optional requestExport [.ofLength payload.length]
  | .handle (.invoke function args _) => some (function, args)
  | .handle (.chore ..) => none
where
  optional (name : String) (args : List Value) : Option (String × List Value) :=
    if c.program.exports.contains name then some (name, args) else none

def invocation (c : Component) (function : String) (args : List Value) : Invocation where
  component := c.id
  function := function
  args := args
  maxMemoryBytes := c.metadata.maxMemoryBytes.toNat
  stdio := c.capabilities.has .stdio
  maxFuel := c.metadata.maxFuel.toNat
  timeout := c.metadata.timeout

def reply (c : Component) : Option Outcome → Reply
  | none => .error (.processingFailed (c.id.name ++ " has no " ++ requestExport ++ " export"))
  | some (.error e) => .error (.processingFailed e.message)
  | some (.ok (output, _)) =>
    match output.asI32 with
    | some bits => .ok (littleEndian bits)
    | none => .error (.processingFailed (requestExport ++ " did not return an i32"))

def ending : Option Outcome → Ending
  | some (.error e) => .failed e.message
  | _ => .finished

def workOf (c : Component) (hook : Hook) (span : Duration) (outcome : Option Outcome) : Work :=
  match hook with
  | .preStart | .postStop => ⟨⟨some span, ending outcome⟩, .nothing⟩
  | .handle (.request requester id _) =>
    ⟨⟨some span, .finished⟩, .respond id requester (c.reply outcome)⟩
  | .handle (.invoke _ _ caller) =>
    ⟨⟨some span, .finished⟩,
      match outcome with
      | some outcome => .answer caller outcome
      | none => .nothing⟩
  | .handle _ => ⟨⟨some span, .finished⟩, .nothing⟩

def workAfter (c : Component) (hook : Hook) (run : LimitedRun) : Work :=
  match run.verdict with
  | .panicked text => ⟨⟨some run.elapsed, .panicked text⟩, .nothing⟩
  | .settled outcome => c.workOf hook run.elapsed (some outcome)

end ComponentHost.Component
