import ComponentHost.Proofs.Host.Actor.Conduct
import ComponentHost.Proofs.Host.Component.FailedSpawn
import ComponentHost.Proofs.Host.Actor.OwedOutcomes

/-! Guest calls asked of a component's actor. The mail of such a call stands in line, lies in the
actor's mailbox or is in its hand for as long as the caller waits; once it has been handled the
caller is told the outcome, and once it cannot be any more, that the mailbox is closed. -/

namespace ComponentHost

structure GuestCall where
  actor : Nat
  component : Component
  function : String
  args : List Value
  target : Option (ComponentId × String)
  caller : Nat

namespace GuestCall

def mail (q : GuestCall) : Mail := .invoke q.function q.args q.caller

def run (q : GuestCall) (u : State) : LimitedRun :=
  q.component.limitedRun (u.earlierCalls q.component.load q.function) q.function q.args

def offered (q : GuestCall) (time : Duration) (name : String) : Offer → CallState
  | .waiting => .running (.posting q.actor q.mail q.target)
  | .accepted => .running (.invoked q.actor .empty q.target)
  | .refused => .returned time (State.invocationAnswer q.target (.error (.mailboxClosed name)))

theorem answer_of_alive {q : GuestCall} {r : LimitedRun}
    (alive : ∀ text, (q.component.workAfter (.handle q.mail) r).course.ending ≠ .panicked text) :
    ∃ outcome, r.verdict = .settled outcome ∧
      q.component.workAfter (.handle q.mail) r =
        ⟨⟨some r.elapsed, .finished⟩, .answer q.caller outcome⟩ := by
  unfold Component.workAfter at alive ⊢
  cases verdict : r.verdict with
  | panicked text =>
    rw [verdict] at alive
    exact absurd rfl (alive text)
  | settled outcome => exact ⟨outcome, rfl, rfl⟩

end GuestCall

namespace State

variable {s t : State} {v : Act} {n a : Nat} {x y : Actor} {hook : Hook} {work : Work}
  {due : Option Duration} {q : GuestCall} {acts : List Act} {outcome : Outcome}

inductive Invokes (s : State) (q : GuestCall) : Act → Prop
  | invoke (unnamed : q.target = none) (caller : q.caller = s.calls.length) :
    Invokes s q (.invoke q.actor q.function q.args)
  | execute {id : ComponentId} (started : s.started = true)
    (on : s.roster.get? id = some q.actor) (named : q.target = some (id, q.function))
    (caller : q.caller = s.calls.length) : Invokes s q (.execute id q.function q.args)

def Takes (s : State) (acts : List Act) (q : GuestCall) (u : State) : Prop :=
  ∃ before later, acts = before ++ .move (.actor q.actor) :: later ∧ u = s.run before ∧
    (u.after (.move (.actor q.actor))).trace q.actor =
      u.trace q.actor ++ [.began (.handle q.mail)]

/-- In the course of a run the actor has handled a guest call to completion, with this outcome of
its function and arguments. -/
def Completes (s : State) (acts : List Act) (q : GuestCall) (outcome : Outcome) : Prop :=
  ∃ u, s.Takes acts q u ∧
    u.trace q.actor ++ [.began (.handle q.mail), .ended (.handle q.mail) .finished] <+:
      (s.run acts).trace q.actor ∧
    (q.run u).verdict = .settled outcome

def Undone (s : State) (q : GuestCall) : Prop :=
  .ended (.handle q.mail) .finished ∉ s.trace q.actor

/-- A guest call will never be handled to completion, however a run goes on. -/
def Forgone (s : State) (q : GuestCall) : Prop :=
  ∀ acts : List Act, (∀ v ∈ acts, ¬ v.poses q.caller) → (s.run acts).Undone q

section Step

theorem work_of_begin (here : s.actors[a]? = some x) (hook : Hook)
    (there : (s.begin a hook).actors[a]? = some y) {hook' : Hook}
    (busy : y.phase = .busy hook' work due) :
    hook' = hook ∧ work = (s.workFor x.role hook).1 := by
  have actors : (s.workFor x.role hook).2.actors = s.actors :=
    congrArg Scene.actors (s.scene_workFor x.role hook)
  unfold begin at there
  rw [here] at there
  rw [show (updateActor _ a _).actors[a]? = _ from
    actor_updateActor (s := (s.workFor x.role hook).2.note a _) (actors ▸ here) _] at there
  cases there
  cases busy
  exact ⟨rfl, rfl⟩

theorem work_of_take (here : s.actors[q.actor]? = some x) (role : x.role = .component q.component)
    (idle : x.phase = .idle) (stepped : s.stepActor q.actor = some t)
    (there : t.actors[q.actor]? = some y) (busy : y.phase = .busy (.handle q.mail) work due) :
    work = q.component.workAfter (.handle q.mail) (q.run s) := by
  unfold stepActor at stepped
  rw [here] at stepped
  dsimp only at stepped
  rw [idle] at stepped
  dsimp only at stepped
  split at stepped
  · cases stepped
    cases (work_of_begin (s := { s with post := s.post.close x.box }) here _ there busy).1
  · split at stepped
    · cases stepped
    · case _ mail post _ =>
      cases stepped
      obtain ⟨same, found⟩ := work_of_begin (s := { s with post }) here _ there busy
      cases same
      rw [found, role]
      rfl

theorem stepActor_cases (here : s.actors[a]? = some x) (stepped : s.stepActor a = some t) :
    (x.phase = .idle ∧ t.calls = s.calls) ∨
      ∃ hook work due, x.phase = .busy hook work (some due) ∧ t = s.endHook a x hook work := by
  unfold stepActor at stepped
  rw [here] at stepped
  dsimp only at stepped
  cases phase : x.phase with
  | ended ending =>
    rw [phase] at stepped
    cases stepped
  | busy hook work due =>
    rw [phase] at stepped
    cases due with
    | none => cases stepped
    | some due =>
      obtain ⟨_, same⟩ := Option.ite_none_right_eq_some.mp stepped
      cases same
      exact .inr ⟨hook, work, due, rfl, rfl⟩
  | idle =>
    rw [phase] at stepped
    dsimp only at stepped
    refine .inl ⟨rfl, ?_⟩
    split at stepped
    · cases stepped
      exact calls_begin _ a .postStop
    · split at stepped
      · cases stepped
      · cases stepped
        exact calls_begin _ a _

theorem calls_of_unowed (working : s.Working) (here : s.actors[a]? = some x)
    (stepped : s.stepActor a = some t)
    (inHand : ∀ m work due, x.phase = .busy (.handle m) work due → m.caller? ≠ some n)
    (queued : ∀ m ∈ s.post.queued x.box, m.caller? ≠ some n) : t.calls[n]? = s.calls[n]? := by
  obtain ⟨_, same⟩ | ⟨hook, work, due, busy, rfl⟩ := stepActor_cases here stepped
  · rw [same]
  · obtain ⟨_, finds, _⟩ := working.engaged a x here hook work _ busy
    have others : ∀ m ∈ hook.mails, m.caller? ≠ some n := fun m mem =>
      inHand m work _ (Hook.mem_mails.mp mem ▸ busy)
    cases ended : (x.leave hook work.course.ending).hasEnded with
    | true =>
      rw [calls_endHook_of_ended here finds.does ended, lostSlot_of_forall, map_fillSlot_empty]
      intro m mem
      exact (List.mem_append.mp mem).elim (others m) (queued m)
    | false =>
      rw [calls_endHook_of_alive ended, Effect.slot_of_forall finds.does others,
        map_fillSlot_empty]

end Step

section Offer

theorem Owes.offer {i : Nat} (owes : s.Owes q.caller q.mail fun _ => False)
    (post : t.post = (s.post.offer i q.caller q.mail).2) (actors : t.actors = s.actors)
    (errands : ∀ k e, t.errand? k = some e → k = q.caller ∨ s.errand? k = some e) :
    t.Owes q.caller q.mail fun j => (s.post.offer i q.caller q.mail).1 = .accepted ∧ j = i where
  errand k box? m there own := (errands k _ there).elim id fun here =>
    owes.errand k box? m here own
  queued j b' m there queued own := by
    have nowhere : ∀ b, s.post.boxes[j]? = some b → m ∉ b.queue := fun b here queued =>
      (owes.queued j b m here queued own).2
    rw [post, boxes_offer] at there
    by_cases same : i = j
    · subst same
      rw [List.getElem?_modify_eq, Option.map_eq_map, Option.map_eq_some_iff] at there
      obtain ⟨b, here, rfl⟩ := there
      rw [offer_of_box here]
      cases offer : b.offer q.caller q.mail with
      | mk o b' =>
        rw [offer] at queued
        by_cases accepted : o = .accepted
        · subst accepted
          rw [(Mailbox.offer_accepted offer).2, List.mem_append, List.mem_singleton] at queued
          exact ⟨queued.resolve_left (nowhere b here), rfl, rfl⟩
        · rw [Mailbox.offer_not_accepted offer accepted] at queued
          exact absurd queued (nowhere b here)
    · rw [List.getElem?_modify_ne _ _ same] at there
      exact absurd queued (nowhere b' there)
  inHand b y m work due there busy own :=
    (owes.inHand b y m work due (actors ▸ there) busy own).2.elim

theorem Undone.after (undone : s.Undone q) (tidy : s.Tidy)
    (owes : s.Owes q.caller q.mail fun _ => False) (v : Act) :
    (s.after v).Undone q := fun done => by
  obtain old | ⟨x, work, due, here, busy⟩ := ended_after tidy done
  · exact undone old
  · exact (owes.inHand _ x _ work due here busy rfl).2

theorem forgone_of_refused {time : Duration} {answer : Answer} (tidy : s.Tidy)
    (owes : s.Owes q.caller q.mail fun _ => False)
    (returned : s.calls[q.caller]? = some (.returned time answer)) (undone : s.Undone q) :
    s.Forgone q := by
  intro acts unposed
  refine (run_induction (P := fun t => t.Tidy ∧ (t.Owes q.caller q.mail fun _ => False) ∧
    t.calls[q.caller]? = some (.returned time answer) ∧ t.Undone q)
    ⟨tidy, owes, returned, undone⟩ ?_).2.2.2
  rintro t v mem ⟨tidy, owes, returned, undone⟩
  have silent : t.errand? q.caller = none := by
    rw [errand?, returned]
    rfl
  have known := (List.getElem?_eq_some_iff.mp returned).1
  refine ⟨tidy.after v, owes.after fun _ _ => owes.unowed (unposed v mem) (fun _ => silent)
    (.inr known), returned_after returned v, undone.after tidy owes v⟩

end Offer

section Stand

def Pending (s : State) (q : GuestCall) : Prop :=
  ∃ x, s.actors[q.actor]? = some x ∧ x.hasEnded = false ∧
    (q.mail ∈ s.post.queued x.box ∨ ∃ work due, x.phase = .busy (.handle q.mail) work due)

inductive Came (s : State) (q : GuestCall) (name : String) (done : Outcome → Prop) :
    Except ActorError Outcome → Prop
  | completed {outcome : Outcome} (completed : done outcome) : Came s q name done (.ok outcome)
  | forgone (forgone : s.Forgone q) : Came s q name done (.error (.mailboxClosed name))

/-- Where the call that asks for a guest call stands. -/
inductive Invoking (s : State) (q : GuestCall) (x : Actor) (done : Outcome → Prop) : Prop
  | posts (call : s.calls[q.caller]? = some (.running (.posting q.actor q.mail q.target)))
    (owes : s.Owes q.caller q.mail fun _ => False) (undone : s.Undone q)
  | waits (call : s.calls[q.caller]? = some (.running (.invoked q.actor .empty q.target)))
    (owes : s.Owes q.caller q.mail (· = x.box)) (undone : s.Undone q) (pending : s.Pending q)
  | filled {outcome : Outcome}
    (call : s.calls[q.caller]? = some (.running (.invoked q.actor (.filled outcome) q.target)))
    (completed : done outcome)
  | lost (call : s.calls[q.caller]? = some (.running (.invoked q.actor .lost q.target)))
    (forgone : s.Forgone q)
  | returned {time : Duration} {r : Except ActorError Outcome}
    (call : s.calls[q.caller]? = some (.returned time (invocationAnswer q.target r)))
    (came : s.Came q x.name done r)

variable {done done' : Outcome → Prop}

theorem nameOf_eq (here : s.actors[a]? = some x) : s.nameOf a = x.name := by
  rw [nameOf, here]

theorem Forgone.after (forgone : s.Forgone q) (unposed : ¬ v.poses q.caller) :
    (s.after v).Forgone q := fun acts rest =>
  forgone (v :: acts) (List.forall_mem_cons.mpr ⟨unposed, rest⟩)

theorem forgone_of_over (gone : s.Over q.actor) (undone : s.Undone q) : s.Forgone q := by
  obtain ⟨x, here, ended⟩ := gone
  intro acts _
  rw [Undone, trace_run_of_ended here ended]
  exact undone

theorem Came.after {name : String} {r : Except ActorError Outcome} (came : s.Came q name done r)
    (unposed : ¬ v.poses q.caller) (more : ∀ outcome, done outcome → done' outcome) :
    (s.after v).Came q name done' r := by
  cases came with
  | completed completed => exact .completed (more _ completed)
  | forgone forgone => exact .forgone (forgone.after unposed)

theorem invoking_of_offered (tidy : s.Tidy) (tidy' : t.Tidy) (shut : s.Shut)
    (owes : s.Owes q.caller q.mail fun _ => False) (undone : s.Undone q)
    (here : s.actors[q.actor]? = some y) (becomes : x.Becomes y)
    (post : t.post = (s.post.offer (s.boxOf q.actor) q.caller q.mail).2)
    (actors : t.actors = s.actors) (log : t.log = s.log)
    (errands : ∀ k e, t.errand? k = some e → k = q.caller ∨ s.errand? k = some e)
    (call : t.calls[q.caller]? = some (q.offered s.clock (s.nameOf q.actor)
      (s.post.offer (s.boxOf q.actor) q.caller q.mail).1)) : t.Invoking q x done := by
  have later := owes.offer post actors errands
  have undone' : t.Undone q := by
    rw [Undone, trace, log]
    exact undone
  obtain ⟨b, box⟩ := tidy.box here
  rw [nameOf_eq here, becomes.name] at call
  rw [boxOf_eq here, offer_of_box box] at post call later
  cases offer : b.offer q.caller q.mail with
  | mk o b' =>
    rw [offer] at post call later
    cases o with
    | waiting => exact .posts call (later.mono fun _ lies => by cases lies.1) undone'
    | refused =>
      exact .returned call (.forgone (forgone_of_refused tidy'
        (later.mono fun _ lies => by cases lies.1) call undone'))
    | accepted =>
      obtain ⟨isOpen, queue⟩ := Mailbox.offer_accepted offer
      refine .waits call (later.mono fun _ lies => lies.2.trans becomes.box) undone'
        ⟨y, actors ▸ here, ?_, .inl ?_⟩
      · refine Bool.eq_false_iff.mpr fun ended => ?_
        rw [shut _ y b here ended box] at isOpen
        cases isOpen
      · rw [PostOffice.queued, post]
        dsimp only
        rw [List.getElem?_set_self (List.getElem?_eq_some_iff.mp box).1]
        show q.mail ∈ b'.queue
        rw [queue]
        exact List.mem_append_right _ List.mem_cons_self

theorem Invokes.after (invokes : s.Invokes q v) :
    let o := s.post.offer (s.boxOf q.actor) q.caller q.mail
    q.caller = s.calls.length ∧ s.after v = { s with
      post := o.2
      calls := s.calls ++ [q.offered s.clock (s.nameOf q.actor) o.1] } := by
  have offers : q.caller = s.calls.length →
      (s.invoke q.actor q.function q.args q.target).2 = { s with
        post := (s.post.offer (s.boxOf q.actor) q.caller q.mail).2
        calls := s.calls ++ [q.offered s.clock (s.nameOf q.actor)
          (s.post.offer (s.boxOf q.actor) q.caller q.mail).1] } := by
    intro caller
    unfold State.invoke GuestCall.offered
    dsimp only
    rw [← caller, show Mail.invoke q.function q.args q.caller = q.mail from rfl]
    generalize s.post.offer (s.boxOf q.actor) q.caller q.mail = result
    obtain ⟨o, post⟩ := result
    cases o <;> rfl
  cases invokes with
  | invoke unnamed caller =>
    refine ⟨caller, ?_⟩
    rw [State.after, ← offers caller, unnamed]
  | execute started on named caller =>
    refine ⟨caller, ?_⟩
    rw [State.after, State.execute, ensureStarted, if_pos started]
    dsimp only
    rw [on, ← offers caller, named]

theorem after_of_posting
    (call : s.calls[q.caller]? = some (.running (.posting q.actor q.mail q.target))) :
    let o := s.post.offer (s.boxOf q.actor) q.caller q.mail
    s.after (.move (.call q.caller)) = s ∨ s.after (.move (.call q.caller)) = { s with
      post := o.2
      calls := s.calls.set q.caller (q.offered s.clock (s.nameOf q.actor) o.1) } := by
  rw [State.after, State.step, stepCall, call]
  dsimp only
  unfold stepPosting GuestCall.offered
  generalize s.post.offer (s.boxOf q.actor) q.caller q.mail = result
  obtain ⟨o, post⟩ := result
  cases o with
  | waiting => exact .inl rfl
  | accepted | refused => exact .inr rfl

end Stand

section Attend

theorem Takes.append {u : State} (takes : s.Takes acts q u) (later : List Act) :
    s.Takes (acts ++ later) q u := by
  obtain ⟨before, rest, rfl, same, taken⟩ := takes
  exact ⟨before, rest ++ later, by rw [List.append_assoc]; rfl, same, taken⟩

theorem Completes.concat (completes : s.Completes acts q outcome)
    (here : (s.run acts).actors[q.actor]? = some x) (v : Act) :
    s.Completes (acts ++ [v]) q outcome := by
  obtain ⟨u, takes, trace, settled⟩ := completes
  refine ⟨u, takes.append [v], trace.trans ?_, settled⟩
  rw [run_concat]
  exact trace_after here v

def Recorded (s : State) (acts : List Act) (q : GuestCall) : Prop :=
  ∀ (y : Actor) (work : Work) (due : Option Duration), (s.run acts).actors[q.actor]? = some y →
    y.phase = .busy (.handle q.mail) work due → ∃ u, s.Takes acts q u ∧
      (s.run acts).trace q.actor = u.trace q.actor ++ [.began (.handle q.mail)] ∧
      work = q.component.workAfter (.handle q.mail) (q.run u)

theorem Recorded.concat (recorded : s.Recorded acts q)
    (here : (s.run acts).actors[q.actor]? = some x) (role : x.role = .component q.component)
    (v : Act) : s.Recorded (acts ++ [v]) q := by
  intro z work due there busy
  rw [run_concat] at there ⊢
  obtain ⟨move, works⟩ | ⟨traced, phase, _⟩ :=
    ((s.run acts).after_plays v).works_or_rests here there
  · cases works with
    | leaves _ _ scene =>
      cases there.symm.trans (actor_of_set here (congrArg Scene.actors scene))
      cases busy
    | ends _ _ scene =>
      cases there.symm.trans (actor_of_set here (congrArg Scene.actors scene))
      exact absurd busy (x.phase_leave_ne_busy _ _ _ _ _)
    | takes idle _ _ _ _ scene =>
      have same := there.symm.trans (actor_of_set here (congrArg Scene.actors scene))
      have log := congrArg Scene.log scene
      cases same
      cases busy
      have taken : ((s.run acts).after v).trace q.actor =
          (s.run acts).trace q.actor ++ [.began (.handle q.mail)] := by
        rw [trace_snoc log, if_pos rfl]
      subst move
      refine ⟨s.run acts, ⟨acts, [], rfl, rfl, taken⟩, taken, ?_⟩
      rw [after, step] at there
      cases stepped : (s.run acts).stepActor q.actor with
      | none =>
        rw [stepped, Option.getD_none, here] at there
        cases idle.symm.trans (congrArg Actor.phase (Option.some.inj there))
      | some t =>
        rw [stepped, Option.getD_some] at there
        exact work_of_take here role idle stepped there rfl
  · obtain ⟨u, takes, trace, found⟩ := recorded x work due here (phase ▸ busy)
    exact ⟨u, takes.append [v], traced.trans trace, found⟩

theorem Pending.after (pending : s.Pending q) (tidy : s.Tidy)
    (here : s.actors[q.actor]? = some x) (unstirred : ¬ v.stirs x.box)
    (other : v ≠ .move (.actor q.actor)) : (s.after v).Pending q := by
  obtain ⟨x', here', alive, lies⟩ := pending
  cases here.symm.trans here'
  obtain ⟨_, actor⟩ := ((s.after_plays v).actor here).resolve_left fun works => other works.1
  have stays : q.mail ∈ s.post.queued x.box → q.mail ∈ (s.after v).post.queued x.box := by
    rw [tidy.queued_after here unstirred other]
    exact List.mem_append_left _
  obtain still | ⟨_, told⟩ := actor
  · exact ⟨x, still, alive, lies.imp_left stays⟩
  · exact ⟨_, told, alive, lies.imp_left stays⟩

/-- All there is to know of a guest call that was asked for in state `s`, in the course of a run. -/
structure Attended (s : State) (acts : List Act) (q : GuestCall) (x : Actor) : Prop where
  tidy : (s.run acts).Tidy
  working : (s.run acts).Working
  shut : (s.run acts).Shut
  becomes : ∃ y, (s.run acts).actors[q.actor]? = some y ∧ x.Becomes y
  recorded : s.Recorded acts q
  invoking : (s.run acts).Invoking q x (s.Completes acts q)

theorem invoking_of_own (invoking : s.Invoking q x done) (tidy : s.Tidy) (shut : s.Shut)
    (here : s.actors[q.actor]? = some y) (becomes : x.Becomes y)
    (more : ∀ outcome, done outcome → done' outcome) :
    (s.after (.move (.call q.caller))).Invoking q x done' := by
  have rests : s.stepCall q.caller = none → s.after (.move (.call q.caller)) = s := fun still => by
    rw [after, step, still]
    rfl
  cases invoking with
  | posts call owes undone =>
    obtain same | same := after_of_posting call
    · rw [same]
      exact .posts call owes undone
    · have known := (List.getElem?_eq_some_iff.mp call).1
      have tidy' := tidy.after (.move (.call q.caller))
      rw [same] at tidy' ⊢
      refine invoking_of_offered tidy tidy' shut owes undone here becomes rfl rfl rfl ?_
        (List.getElem?_set_self known)
      intro k e there
      by_cases own : k = q.caller
      · exact .inl own
      · rw [errand?, List.getElem?_set_ne (Ne.symm own)] at there
        exact .inr there
  | waits call owes undone pending =>
    rw [rests (by rw [stepCall, call]; rfl)]
    exact .waits call owes undone pending
  | filled call completed =>
    have known := (List.getElem?_eq_some_iff.mp call).1
    rw [after, step, stepCall, call]
    exact .returned (List.getElem?_set_self known) (.completed (more _ completed))
  | lost call forgone =>
    have known := (List.getElem?_eq_some_iff.mp call).1
    have returned : (s.after (.move (.call q.caller))).calls[q.caller]? = some (.returned s.clock
        (invocationAnswer q.target (.error (.mailboxClosed x.name)))) := by
      rw [after, step, stepCall, call, ← becomes.name, ← nameOf_eq here]
      exact List.getElem?_set_self known
    exact .returned returned (.forgone (forgone.after id))
  | returned call came =>
    exact .returned (returned_after call _) (came.after id more)

theorem Invoking.after (invoking : s.Invoking q x done) (tidy : s.Tidy) (working : s.Working)
    (here : s.actors[q.actor]? = some y) (becomes : x.Becomes y) (unstirred : ¬ v.stirs x.box)
    (unposed : ¬ v.poses q.caller) (other : v ≠ .move (.call q.caller))
    (aside : v = .move (.actor q.actor) →
      s.calls[q.caller]? ≠ some (.running (.invoked q.actor .empty q.target)))
    (more : ∀ outcome, done outcome → done' outcome) : (s.after v).Invoking q x done' := by
  have stays : ∀ {lies : Nat → Prop} {c}, s.Owes q.caller q.mail lies →
      s.calls[q.caller]? = some c → (s.after v).Owes q.caller q.mail lies := fun owes call =>
    owes.after fun _ _ => owes.unowed unposed (absurd · other)
      (.inr (List.getElem?_eq_some_iff.mp call).1)
  cases invoking with
  | posts call owes undone =>
    exact .posts (calls_after (fun _ => rfl) call other) (stays owes call)
      (undone.after tidy owes v)
  | waits call owes undone pending =>
    have apart : v ≠ .move (.actor q.actor) := fun own => aside own call
    have traced := (((s.after_plays v).actor here).resolve_left fun works => apart works.1).1
    refine .waits (calls_after_of_actors call other ?_) (stays owes call)
      (by rwa [Undone, traced]) (pending.after tidy here (becomes.box ▸ unstirred) apart)
    intro b t move stepped
    cases there : s.actors[b]? with
    | none =>
      rw [stepActor, there] at stepped
      cases stepped
    | some z =>
      -- Nobody else has this mailbox, and so nobody else has the mail.
      have elsewhere : z.box ≠ x.box := fun box =>
        apart (by rw [move, tidy.apart _ _ _ _ there here (box.trans becomes.box.symm)])
      rw [calls_of_unowed working there stepped, call]
      · exact fun m work due busy own => elsewhere (owes.inHand b z m work due there busy own).2
      · intro m queued own
        rw [PostOffice.queued] at queued
        split at queued
        · exact elsewhere (owes.queued _ _ m ‹_› queued own).2
        · cases queued
  | filled call completed =>
    exact .filled (calls_after (fun _ => rfl) call other) (more _ completed)
  | lost call forgone =>
    exact .lost (calls_after (fun _ => rfl) call other) (forgone.after unposed)
  | returned call came => exact .returned (returned_after call v) (came.after unposed more)

theorem Pending.begins (pending : s.Pending q) (here : s.actors[q.actor]? = some y)
    (idle : y.phase = .idle) (works : s.Works q.actor y t) : t.Pending q := by
  obtain ⟨_, here', _, lies⟩ := pending
  cases here.symm.trans here'
  have queued : q.mail ∈ s.post.queued y.box := lies.resolve_right fun ⟨_, _, busy⟩ => by
    cases idle.symm.trans busy
  cases works with
  | leaves _ _ scene =>
    refine ⟨_, actor_of_set here (congrArg Scene.actors scene), rfl, .inl ?_⟩
    rw [PostOffice.queued, show t.post.boxes = _ from congrArg Scene.boxes scene,
      List.getElem?_modify_eq]
    rw [PostOffice.queued] at queued
    cases box : s.post.boxes[y.box]? <;> rw [box] at queued <;> exact queued
  | @takes b b' mail _ _ _ _ _ box taken scene =>
    refine ⟨_, actor_of_set here (congrArg Scene.actors scene), rfl, ?_⟩
    rw [PostOffice.queued, box] at queued
    have queued : q.mail ∈ b.queue := queued
    rw [Mailbox.take?_eq_some taken, List.mem_cons] at queued
    obtain rfl | behind := queued
    · exact .inr ⟨_, _, rfl⟩
    · refine .inl ?_
      rw [PostOffice.queued, show t.post.boxes = _ from congrArg Scene.boxes scene]
      dsimp only
      rw [List.getElem?_set_self (List.getElem?_eq_some_iff.mp box).1]
      exact behind
  | ends busy => cases idle.symm.trans busy

theorem invoking_of_endHook (does : y.role.Does hook work)
    (here : s.actors[q.actor]? = some y) (busy : y.phase = .busy hook work due)
    (call : s.calls[q.caller]? = some (.running (.invoked q.actor .empty q.target)))
    (owes : s.Owes q.caller q.mail (· = x.box)) (undone : s.Undone q) (pending : s.Pending q)
    (later : (s.endHook q.actor y hook work).Owes q.caller q.mail (· = x.box))
    (answers : hook = .handle q.mail → (y.leave hook work.course.ending).hasEnded = false →
      ∃ outcome, work.effect = .answer q.caller outcome ∧ done outcome) :
    (s.endHook q.actor y hook work).Invoking q x done := by
  have scene := scene_endHook here hook work
  have there := actor_of_set here (congrArg Scene.actors scene)
  have undone' : ¬ (hook = .handle q.mail ∧ work.course.ending = .finished) →
      (s.endHook q.actor y hook work).Undone q := by
    intro apart
    rw [Undone, trace_snoc (congrArg Scene.log scene), if_pos rfl, List.mem_append,
      List.mem_singleton, Moment.ended.injEq]
    rintro (old | ⟨own, finished⟩)
    · exact undone old
    · exact apart ⟨own.symm, finished.symm⟩
  obtain ⟨_, here', _, lies⟩ := pending
  cases here.symm.trans here'
  have inHand : ∀ work' due', y.phase = .busy (.handle q.mail) work' due' →
      hook = .handle q.mail := fun _ _ busy' => by
    cases busy.symm.trans busy'
    rfl
  cases ended : (y.leave hook work.course.ending).hasEnded with
  | true =>
    have mem : q.mail ∈ hook.mails ++ s.post.queued y.box := by
      obtain queued | ⟨_, _, busy'⟩ := lies
      · exact List.mem_append_right _ queued
      · rw [inHand _ _ busy']
        exact List.mem_cons_self
    refine .lost ?_ (forgone_of_over ⟨_, there, ended⟩ (undone' ?_))
    · rw [calls_endHook_of_ended here does ended, call, lostSlot_of_mem mem rfl]
      rfl
    · rintro ⟨rfl, finished⟩
      rw [finished] at ended
      cases ended
  | false =>
    by_cases own : hook = .handle q.mail
    · obtain ⟨outcome, effect, completed⟩ := answers own ended
      refine .filled ?_ completed
      rw [calls_endHook_of_alive ended, call, effect, Effect.slot, if_pos rfl]
      rfl
    · have others : ∀ m ∈ hook.mails, m.caller? ≠ some q.caller := by
        intro m mem owed
        have same := Hook.mem_mails.mp mem
        rw [same] at busy
        exact own (same.trans (congrArg Hook.handle (owes.inHand _ y m work _ here busy owed).1))
      refine .waits ?_ later (undone' (own ·.1)) ⟨_, there, ended, .inl ?_⟩
      · rw [calls_endHook_of_alive ended, Effect.slot_of_forall does others, map_fillSlot_empty,
          call]
      · have boxes := congrArg Scene.boxes scene
        dsimp only at boxes
        rw [ended, if_neg Bool.false_ne_true] at boxes
        rw [PostOffice.queued, Actor.box_leave,
          show (s.endHook q.actor y hook work).post.boxes = _ from boxes]
        refine lies.resolve_right ?_
        rintro ⟨_, _, busy'⟩
        exact own (inHand _ _ busy')

theorem completes_of_recorded (recorded : s.Recorded acts q)
    (here : (s.run acts).actors[q.actor]? = some y)
    (busy : y.phase = .busy (.handle q.mail) work due)
    (stepped : (s.run acts).after v = (s.run acts).endHook q.actor y (.handle q.mail) work)
    (alive : (y.leave (.handle q.mail) work.course.ending).hasEnded = false) :
    ∃ outcome, work.effect = .answer q.caller outcome ∧ s.Completes (acts ++ [v]) q outcome := by
  obtain ⟨u, takes, taken, rfl⟩ := recorded y work due here busy
  obtain ⟨outcome, settled, found⟩ := GuestCall.answer_of_alive (q := q) (r := q.run u)
    fun text died => by
      rw [died] at alive
      cases alive
  have log := congrArg Scene.log (scene_endHook here (.handle q.mail)
    (q.component.workAfter (.handle q.mail) (q.run u)))
  refine ⟨outcome, by rw [found], u, takes.append [v], ?_, settled⟩
  rw [run_concat, stepped, trace_snoc log, if_pos rfl, taken, found, List.append_assoc]
  exact List.prefix_rfl

theorem invoking_of_actor (recorded : s.Recorded acts q) (tidy : (s.run acts).Tidy)
    (working : (s.run acts).Working) (here : (s.run acts).actors[q.actor]? = some y)
    (call : (s.run acts).calls[q.caller]? = some (.running (.invoked q.actor .empty q.target)))
    (owes : (s.run acts).Owes q.caller q.mail (· = x.box)) (undone : (s.run acts).Undone q)
    (pending : (s.run acts).Pending q) :
    ((s.run acts).after (.move (.actor q.actor))).Invoking q x
      (s.Completes (acts ++ [.move (.actor q.actor)]) q) := by
  have known := (List.getElem?_eq_some_iff.mp call).1
  have later := owes.after fun _ _ =>
    owes.unowed (v := .move (.actor q.actor)) id nofun (.inr known)
  cases stepped : (s.run acts).stepActor q.actor with
  | none =>
    rw [after, step, stepped]
    exact .waits call owes undone pending
  | some t =>
    have next : (s.run acts).after (.move (.actor q.actor)) = t := by
      rw [after, step, stepped]
      rfl
    obtain ⟨idle, same⟩ | ⟨hook, work, due, busy, ended⟩ := stepActor_cases here stepped
    · refine .waits (by rw [next, same, call]) later (fun done => ?_) ?_
      · obtain old | ⟨z, _, _, there, busy⟩ := ended_after tidy done
        · exact undone old
        · cases here.symm.trans there
          cases idle.symm.trans busy
      · rw [next]
        exact pending.begins here idle (stepActor_works here stepped)
    · obtain ⟨_, finds, _⟩ := working.engaged _ y here hook work _ busy
      rw [next, ended] at later ⊢
      refine invoking_of_endHook finds.does here busy call owes undone pending later ?_
      rintro rfl alive
      exact completes_of_recorded recorded here busy (next.trans ended) alive

theorem Attended.concat (attended : s.Attended acts q x) (role : x.role = .component q.component)
    (unstirred : ¬ v.stirs x.box) (unposed : ¬ v.poses q.caller) :
    s.Attended (acts ++ [v]) q x := by
  obtain ⟨tidy, working, shut, ⟨y, here, becomes⟩, recorded, invoking⟩ := attended
  have more : ∀ outcome, s.Completes acts q outcome → s.Completes (acts ++ [v]) q outcome :=
    fun _ completes => completes.concat here v
  obtain ⟨z, there, next⟩ := actor_after here v
  have stands : ((s.run acts).after v).Invoking q x (s.Completes (acts ++ [v]) q) := by
    by_cases own : v = .move (.call q.caller)
    · subst own
      exact invoking_of_own invoking tidy shut here becomes more
    · by_cases waiting : v = .move (.actor q.actor) ∧
        (s.run acts).calls[q.caller]? = some (.running (.invoked q.actor .empty q.target))
      · obtain ⟨rfl, waits⟩ := waiting
        cases invoking with
        | waits call owes undone pending =>
          exact invoking_of_actor recorded tidy working here call owes undone pending
        | posts call | filled call | lost call | returned call => cases waits.symm.trans call
      · exact invoking.after tidy working here becomes unstirred unposed own
          (fun moves waits => waiting ⟨moves, waits⟩) more
  constructor
  case recorded => exact recorded.concat here (becomes.role.trans role) v
  all_goals rw [run_concat]
  · exact tidy.after v
  · exact working.after v
  · exact shut.after tidy v
  · exact ⟨z, there, becomes.trans next⟩
  · exact stands

theorem Attended.run (attended : s.Attended [] q x) (role : x.role = .component q.component)
    (undrawn : ∀ v ∈ acts, ¬ v.stirs x.box) (unposed : ∀ v ∈ acts, ¬ v.poses q.caller) :
    s.Attended acts q x :=
  history_induction (P := (s.Attended · q x)) attended fun _ v mem attended =>
    attended.concat role (undrawn v mem) (unposed v mem)

end Attend

theorem unasked_run (config : HostConfig) (engine : Engine) {before : List Act}
    (unposed : ∀ v ∈ before, ¬ v.poses q.caller) :
    let s := (fresh config engine).run before
    s.calls.length ≤ q.caller → (s.Owes q.caller q.mail fun _ => False) ∧ s.Undone q := by
  refine (run_induction (P := fun t => t.Tidy ∧ (t.calls.length ≤ q.caller →
    (t.Owes q.caller q.mail fun _ => False) ∧ t.Undone q))
    ⟨.fresh config engine, fun _ => ⟨.fresh config engine, nofun⟩⟩ ?_).2
  rintro t v mem ⟨tidy, unasked⟩
  refine ⟨tidy.after v, fun ahead => ?_⟩
  have before := Nat.le_trans (t.calls_length_after v) ahead
  obtain ⟨owes, undone⟩ := unasked before
  have silent : t.errand? q.caller = none := by
    rw [errand?, List.getElem?_eq_none before]
    rfl
  exact ⟨owes.after fun _ _ => owes.unowed (unposed v mem) (fun _ => silent) (.inl ahead),
    undone.after tidy owes v⟩

theorem attended_of_invokes (config : HostConfig) (engine : Engine) {before : List Act}
    (invokes : ((fresh config engine).run before).Invokes q v)
    (here : ((fresh config engine).run before).actors[q.actor]? = some x)
    (unposed : ∀ v ∈ before, ¬ v.poses q.caller) :
    (((fresh config engine).run before).after v).Attended [] q x := by
  obtain ⟨caller, next⟩ := invokes.after
  obtain ⟨owes, undone⟩ := unasked_run config engine unposed (Nat.le_of_eq caller.symm)
  have tidy := (Tidy.fresh config engine).run before
  have working := (Working.fresh config engine).run before
  have shut := (Shut.fresh config engine).run (.fresh config engine) before
  generalize (fresh config engine).run before = s at *
  have there : (s.after v).actors[q.actor]? = some x := by
    rw [next]
    exact here
  refine ⟨tidy.after v, working.after v, shut.after tidy v, ⟨x, there, .refl x⟩,
    fun y work due there' busy => ?_, ?_⟩
  · cases there.symm.trans there'
    exact (owes.inHand _ x _ work due here busy rfl).2.elim
  · have tidy' := tidy.after v
    rw [run_nil]
    rw [next] at tidy' ⊢
    refine invoking_of_offered tidy tidy' shut owes undone here (.refl x) rfl rfl rfl ?_ ?_
    · intro k e there
      rw [errand?] at there
      by_cases old : k < s.calls.length
      · rw [List.getElem?_append_left old] at there
        exact .inr there
      · obtain ⟨_, last, _⟩ := Option.bind_eq_some_iff.mp there
        have known := (List.getElem?_eq_some_iff.mp last).1
        rw [List.length_append, List.length_singleton] at known
        exact .inl (by omega)
    · rw [caller]
      exact List.getElem?_concat_length

theorem Completes.not_undone (completes : s.Completes acts q outcome) :
    ¬ (s.run acts).Undone q := by
  obtain ⟨u, _, trace, _⟩ := completes
  exact not_not_intro (trace.subset (List.mem_append_right _ (List.mem_cons_of_mem _
    List.mem_cons_self)))

/-- Where nothing can happen without time going by, no guest call waits for an actor that has ended,
nor for one that has handled it. -/
theorem Attended.returned (attended : s.Attended acts q x) (quiet : (s.run acts).quiet)
    (due : (s.run acts).Over q.actor ∨ ∃ outcome, s.Completes acts q outcome) :
    (s.run acts).hasReturned q.caller = true := by
  have still : (s.run acts).stepCall q.caller = none := quiet (.call q.caller)
  obtain ⟨y, here, becomes⟩ := attended.becomes
  have gone : (s.run acts).Undone q → y.hasEnded = true := by
    intro undone
    obtain ⟨z, there, ended⟩ | ⟨_, completes⟩ := due
    · cases here.symm.trans there
      exact ended
    · exact absurd undone completes.not_undone
  cases attended.invoking with
  | posts call owes undone =>
    obtain ⟨b, box⟩ := attended.tidy.box here
    have closed := attended.shut q.actor y b here (gone undone) box
    rw [stepCall, call] at still
    obtain ⟨waiting, _⟩ | ⟨_, _, goes⟩ :=
      (s.run acts).stepPosting_cases q.caller q.actor q.mail q.target
    · rw [boxOf_eq here, offer_of_box box, Mailbox.offer_refused_iff.mpr closed] at waiting
      cases waiting
    · cases still.symm.trans goes
  | waits call owes undone pending =>
    obtain ⟨z, there, alive, _⟩ := pending
    cases here.symm.trans there
    cases alive.symm.trans (gone undone)
  | filled call | lost call =>
    rw [stepCall, call] at still
    cases still
  | returned call => rw [hasReturned, call]

/-- Every guest call that is asked of a component's actor is answered once, and as it went: with the
outcome of its own function and arguments under the component's limits if the actor has handled it
to completion, and with a closed mailbox if it never will; and none is left waiting where the actor
has ended, whether it was handled, queued or in line then. -/
theorem guest_call_answered (config : HostConfig) (engine : Engine) (before later : List Act)
    {v : Act} {q : GuestCall} {x : Actor} :
    let s := (fresh config engine).run before
    let t := (s.after v).run later
    s.Invokes q v → s.actors[q.actor]? = some x → x.role = .component q.component →
      (∀ u ∈ later, ¬ u.stirs x.box) → (∀ u ∈ before ++ later, ¬ u.poses q.caller) →
        (∀ time answer, t.calls[q.caller]? = some (.returned time answer) →
          ((∃ outcome, (s.after v).Completes later q outcome ∧
              answer = invocationAnswer q.target (.ok outcome)) ∨
            t.Forgone q ∧
              answer = invocationAnswer q.target (.error (.mailboxClosed x.name))) ∧
          ∀ acts, (t.run acts).calls[q.caller]? = some (.returned time answer)) ∧
        (t.quiet → (t.Over q.actor ∨ ∃ outcome, (s.after v).Completes later q outcome) →
          t.hasReturned q.caller = true) := by
  intro s t invokes here role undrawn unposed
  obtain ⟨unposed, unposed'⟩ := List.forall_mem_append.mp unposed
  have asked := attended_of_invokes config engine invokes here unposed
  have attended := asked.run role undrawn unposed'
  refine ⟨fun time answer returned => ⟨?_, returned_run returned⟩, attended.returned⟩
  cases attended.invoking with
  | posts call | waits call | filled call | lost call => cases returned.symm.trans call
  | returned call came =>
    cases returned.symm.trans call
    cases came with
    | completed completed => exact .inl ⟨_, completed, rfl⟩
    | forgone forgone => exact .inr ⟨forgone, rfl⟩

section Sample

def sampleGuestCall (function : String) (n : Nat) : GuestCall where
  actor := 0
  component :=
    { id := ⟨"a"⟩, load := 0, metadata := sampleOrder.metadata, capabilities := {}
      program :=
        { exports := .ofList ["cleanup", "handle-request"]
          run := fun _ _ => ⟨[.wait (.ofMillis 100)], .output ⟨[]⟩⟩ } }
  function := function
  args := []
  target := none
  caller := n

/-- What happens after two guest calls were asked for, of which one is in hand: the actor is told to
stop, goes on to answer that one, and ends with the other still in its mailbox. -/
def dismissal : List Act :=
  [.stopActor 0, .wait (.ofMillis 100), .move (.actor 0), .move (.call 1), .move (.actor 0),
    .wait (.ofMillis 100), .move (.actor 0), .move (.enroll 0), .move (.call 2), .move (.call 3)]

def dismissed : State :=
  (sampleHost.run [.invoke 0 "f" [], .move (.actor 0), .invoke 0 "g" []]).run dismissal

theorem dismissed_quiet : dismissed.quiet := by
  intro m
  cases m with
  | alarm number => rfl
  | actor a =>
    match a with
    | 0 | _ + 1 => rfl
  | enroll i => rfl
  | call n =>
    match n with
    | 0 | 1 | 2 | 3 | _ + 4 => rfl

theorem dismissed_guest_calls :
    (∃ outcome, (sampleHost.after (.invoke 0 "f" [])).Completes
        (.move (.actor 0) :: .invoke 0 "g" [] :: dismissal) (sampleGuestCall "f" 1) outcome ∧
      dismissed.calls[1]? = some (.returned (.ofMillis 100) (.invoked (.ok outcome)))) ∧
    dismissed.Forgone (sampleGuestCall "g" 2) ∧
    dismissed.calls[2]? =
      some (.returned (.ofMillis 200) (.invoked (.error (.mailboxClosed "a")))) ∧
    dismissed.quiet ∧ dismissed.Over 0 ∧ dismissed.hasReturned 2 = true := by
  have first := guest_call_answered {} (.paced ["cleanup", "handle-request"] (.ofMillis 100))
    [.spawn sampleOrder none, .move (.call 0), .move (.actor 0), .move (.call 0)]
    (.move (.actor 0) :: .invoke 0 "g" [] :: dismissal) (v := .invoke 0 "f" [])
    (q := sampleGuestCall "f" 1) (.invoke rfl rfl) rfl rfl
    (by simp [dismissal, Act.stirs]) (by simp [dismissal, Act.poses])
  have second := guest_call_answered {} (.paced ["cleanup", "handle-request"] (.ofMillis 100))
    [.spawn sampleOrder none, .move (.call 0), .move (.actor 0), .move (.call 0),
      .invoke 0 "f" [], .move (.actor 0)]
    dismissal (v := .invoke 0 "g" []) (q := sampleGuestCall "g" 2) (.invoke rfl rfl) rfl rfl
    (by simp [dismissal, Act.stirs]) (by simp [dismissal, Act.poses])
  have gone : dismissed.Over 0 := ⟨_, rfl, rfl⟩
  obtain ⟨⟨outcome, completes, answer⟩ | ⟨_, answer⟩, _⟩ := first.1 _ _ rfl
  · obtain ⟨⟨_, _, answer'⟩ | ⟨forgone, _⟩, _⟩ := second.1 _ _ rfl
    · cases answer'
    · refine ⟨⟨outcome, completes, ?_⟩, forgone, rfl, dismissed_quiet, gone,
        second.2 dismissed_quiet (.inl gone)⟩
      cases answer
      rfl
  · cases answer

end Sample

end State

end ComponentHost
