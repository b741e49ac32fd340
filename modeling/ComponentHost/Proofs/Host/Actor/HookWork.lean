import ComponentHost.Host.Actors

/-! The work that a hook turns out to be. A component's actor calls its guest under the component's
limits, so that its hooks end in bounded time; a reply is for the request that was handled, and its
bytes are what the guest made of that request. -/

namespace ComponentHost

def Component.limitedRun (c : Component) (earlier : Nat) (function : String) (args : List Value) :
    LimitedRun :=
  let invocation := c.invocation function args
  Limits.execute (c.program.run earlier invocation) invocation.maxFuel invocation.timeout

def Component.Computes (c : Component) (payload bytes : Bytes) : Prop :=
  ∃ earlier outcome,
    (c.limitedRun earlier Component.requestExport [.ofLength payload.length]).verdict =
      .settled outcome ∧ c.reply (some outcome) = .ok bytes

inductive Role.Does : Role → Hook → Work → Prop
  | plain (preStart postStop course : Course) (hook : Hook) :
    (Role.plain preStart postStop).Does hook ⟨course, .nothing⟩
  | bare (c : Component) (hook : Hook) (silent : c.guestCall hook = none) :
    (Role.component c).Does hook (c.workOf hook 0 none)
  | guest (c : Component) (hook : Hook) (earlier : Nat) {function : String} {args : List Value}
    (calls : c.guestCall hook = some (function, args)) :
    (Role.component c).Does hook (c.workAfter hook (c.limitedRun earlier function args))

/-- What an actor has to do in a hook that begins at an instant, and when it will be done. -/
structure Role.Finds (role : Role) (now : Duration) (hook : Hook) (work : Work)
    (due : Option Duration) : Prop where
  does : role.Does hook work
  due : due = work.course.span.map (now + ·)

theorem State.workFor_does (s : State) (role : Role) (hook : Hook) :
    role.Does hook (s.workFor role hook).1 := by
  cases role with
  | plain preStart postStop =>
    cases hook with
    | preStart | postStop => exact .plain ..
    | handle mail => cases mail <;> exact .plain ..
  | component c =>
    rw [workFor]
    cases calls : c.guestCall hook with
    | none => exact .bare c hook calls
    | some call => exact .guest c hook _ calls

namespace Component

variable {c : Component} {hook : Hook} {work : Work}

theorem span_workOf (c : Component) (hook : Hook) (span : Duration) (outcome : Option Outcome) :
    (c.workOf hook span outcome).course.span = some span := by
  cases hook with
  | preStart | postStop => rfl
  | handle mail => cases mail <;> rfl

theorem span_workAfter (c : Component) (hook : Hook) (run : LimitedRun) :
    (c.workAfter hook run).course.span = some run.elapsed := by
  unfold workAfter
  split
  · rfl
  · exact c.span_workOf hook run.elapsed _

/-- The limits of a component bound the time that its hooks take. -/
theorem span_of_does (does : (Role.component c).Does hook work) :
    ∃ span, work.course.span = some span := by
  cases does with
  | bare => exact ⟨_, c.span_workOf hook 0 none⟩
  | guest _ _ earlier => exact ⟨_, c.span_workAfter hook (c.limitedRun earlier _ _)⟩

theorem guestCall_request {requester : ComponentId} {id : CorrelationId} {payload : Bytes}
    {function : String} {args : List Value}
    (calls : c.guestCall (.handle (.request requester id payload)) = some (function, args)) :
    function = requestExport ∧ args = [.ofLength payload.length] := by
  rw [guestCall, guestCall.optional] at calls
  obtain ⟨_, same⟩ := Option.ite_none_right_eq_some.mp calls
  cases same
  exact ⟨rfl, rfl⟩

theorem respond_of_workOf {span : Duration} {outcome : Option Outcome} {id : CorrelationId}
    {requester : ComponentId} {reply : Reply}
    (responds : (c.workOf hook span outcome).effect = .respond id requester reply) :
    reply = c.reply outcome ∧ ∃ payload, hook = .handle (.request requester id payload) := by
  cases hook with
  | preStart | postStop => cases responds
  | handle mail =>
    cases mail with
    | request sender k payload =>
      cases responds
      exact ⟨rfl, payload, rfl⟩
    | invoke => cases outcome <;> cases responds
    | chore | message => cases responds

end Component

theorem Role.Does.responds {role : Role} {hook : Hook} {work : Work} {id : CorrelationId}
    {requester : ComponentId} {reply : Reply} (does : role.Does hook work)
    (responds : work.effect = .respond id requester reply) :
    ∃ c payload, role = .component c ∧ hook = .handle (.request requester id payload) ∧
      ∀ bytes, reply = .ok bytes → c.Computes payload bytes := by
  cases does with
  | plain => cases responds
  | bare c =>
    obtain ⟨rfl, payload, rfl⟩ := Component.respond_of_workOf responds
    exact ⟨c, payload, rfl, rfl, nofun⟩
  | guest c _ earlier calls =>
    unfold Component.workAfter at responds
    split at responds
    · cases responds
    · case _ outcome settled =>
      obtain ⟨rfl, payload, rfl⟩ := Component.respond_of_workOf responds
      obtain ⟨rfl, rfl⟩ := Component.guestCall_request calls
      exact ⟨c, payload, rfl, rfl, fun bytes replied => ⟨earlier, outcome, settled, replied⟩⟩

end ComponentHost
