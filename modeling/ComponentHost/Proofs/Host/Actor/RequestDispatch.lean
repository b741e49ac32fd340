import ComponentHost.Proofs.Guest.Reply
import ComponentHost.Proofs.Host.Exchange.OutcomeAddress
import ComponentHost.Proofs.Host.Component.ShutdownDrain
import ComponentHost.Proofs.Host.Actor.GuestCalls
import ComponentHost.Proofs.Host.Exchange.ResponseCounter

/-! Requests at the actor of a component. Each that the actor takes out of its mailbox and is done
with it answers once, with what the guest made of it, and it answers nothing else. However the guest
fared with one piece of mail, the actor goes on to the next. -/

namespace ComponentHost

namespace Component

variable {c : Component} {u : State} {mail : Mail}

def workIn (c : Component) (u : State) (mail : Mail) : Work :=
  (u.workFor (.component c) (.handle mail)).1

theorem workIn_bare (silent : c.guestCall (.handle mail) = none) :
    c.workIn u mail = c.workOf (.handle mail) 0 none := by
  rw [workIn, State.workFor, silent]

theorem workIn_guest {function : String} {args : List Value}
    (calls : c.guestCall (.handle mail) = some (function, args)) : c.workIn u mail =
      c.workAfter (.handle mail) (c.limitedRun (u.earlierCalls c.load function) function args) := by
  rw [workIn, State.workFor, calls]
  rfl

theorem workIn_congr {u' : State} (history : u'.history = u.history) :
    c.workIn u' mail = c.workIn u mail := by
  cases calls : c.guestCall (.handle mail) with
  | none => rw [workIn_bare calls, workIn_bare calls]
  | some call =>
    rw [workIn_guest calls, workIn_guest calls, State.earlierCalls, history, State.earlierCalls]

theorem ending_workOf (c : Component) (mail : Mail) (span : Duration) (outcome : Option Outcome) :
    (c.workOf (.handle mail) span outcome).course.ending = .finished := by
  cases mail <;> rfl

theorem ending_workIn (c : Component) (u : State) (mail : Mail) :
    (c.workIn u mail).course.ending = .finished ∨
      ∃ text, (c.workIn u mail).course.ending = .panicked text ∧
        ∃ earlier function args, (c.limitedRun earlier function args).verdict = .panicked text := by
  cases calls : c.guestCall (.handle mail) with
  | none =>
    rw [workIn_bare calls]
    exact .inl (c.ending_workOf mail 0 none)
  | some call =>
    rw [workIn_guest calls, workAfter]
    split
    · exact .inr ⟨_, rfl, _, _, _, ‹_›⟩
    · exact .inl (c.ending_workOf mail _ _)

theorem effect_of_request {requester : ComponentId} {id : CorrelationId} {payload : Bytes}
    (done : (c.workIn u (.request requester id payload)).course.ending = .finished) :
    ∃ reply, (c.workIn u (.request requester id payload)).effect = .respond id requester reply ∧
      c.Replies (u.earlierCalls c.load "handle-request") payload reply := by
  by_cases handled : c.program.exports.contains "handle-request" = true
  · have calls : c.guestCall (.handle (.request requester id payload)) =
        some ("handle-request", [.ofLength payload.length]) := if_pos handled
    rw [workIn_guest calls, workAfter] at done ⊢
    split at done
    · cases done
    · case _ outcome settled =>
      exact ⟨_, rfl, replies_of_handles ⟨handled, _, toNat_ofLength payload.length, settled⟩⟩
  · have silent : c.guestCall (.handle (.request requester id payload)) = none := if_neg handled
    rw [workIn_bare silent]
    exact ⟨_, rfl, replies_of_missing (by simpa using handled)⟩

theorem effect_of_other (other : mail.isRequest = false) (id : CorrelationId)
    (requester : ComponentId) (reply : Reply) :
    (c.workIn u mail).effect ≠ .respond id requester reply := by
  intro responds
  obtain ⟨_, _, _, same, _⟩ :=
    Role.Does.responds (u.workFor_does (.component c) (.handle mail)) responds
  cases same
  cases other

def Answers (c : Component) (name : String) (taken : State × Mail) (r : Response) : Prop :=
  ∃ payload, taken.2 = .request r.recipient r.id payload ∧ r.sender = ⟨name⟩ ∧
    c.Replies (taken.1.earlierCalls c.load "handle-request") payload r.reply

/-- The mail that an actor has in hand, or died of, in a phase. What it is busy with is due at some
instant. -/
inductive InHand (c : Component) : Phase → List (State × Mail) → Prop
  | idle : InHand c .idle []
  | starting (work : Work) (due : Duration) : InHand c (.busy .preStart work (some due)) []
  | handling (u : State) (mail : Mail) (due : Duration) :
    InHand c (.busy (.handle mail) (c.workIn u mail) (some due)) [(u, mail)]
  | stopping (work : Work) (due : Duration) : InHand c (.busy .postStop work (some due)) []
  | ended (ending : Ending) : InHand c (.ended ending) []
  | died {u : State} {mail : Mail} {text : String}
    (panicked : (c.workIn u mail).course.ending = .panicked text) :
    InHand c (.ended (.panicked text)) [(u, mail)]

/-- However the guest of a component fares, its engine does not panic. -/
def Enduring (c : Component) : Prop :=
  ∀ earlier function args text, (c.limitedRun earlier function args).verdict ≠ .panicked text

theorem Enduring.ending_workIn (enduring : c.Enduring) (u : State) (mail : Mail) :
    (c.workIn u mail).course.ending = .finished :=
  (c.ending_workIn u mail).resolve_right fun ⟨text, _, earlier, function, args, panicked⟩ =>
    enduring earlier function args text panicked

end Component

namespace State

variable {s t h : State} {acts : List Act} {v : Act} {a : Nat} {x y : Actor} {c : Component}

section Streams

variable {α : Type} {f : State → Actor → Option α}

def ofActor (a : Nat) (f : State → Actor → Option α) (s : State) : Act → Option α
  | .move (.actor b) => if b = a then s.actors[a]?.bind (f s) else none
  | _ => none

def draws? (a : Nat) (s : State) (x : Actor) : Option (State × Mail) :=
  match x.phase with
  | .idle =>
    if x.told || !s.isHeld a then none
    else (s.post.take? x.box).map fun taken => (s, taken.1)
  | .busy .. | .ended _ => none

def takings (s : State) (a : Nat) (acts : List Act) : List (State × Mail) :=
  s.along (ofActor a (draws? a)) acts

def answers (s : State) (a : Nat) (acts : List Act) : List Response :=
  s.along (ofActor a fun u x => x.responds? u.clock) acts

theorem ofActor_own (here : s.actors[a]? = some x) :
    s.ofActor a f (.move (.actor a)) = f s x := by
  rw [ofActor, if_pos rfl, here, Option.bind_some]

theorem ofActor_other (other : v ≠ .move (.actor a)) : s.ofActor a f v = none := by
  unfold ofActor
  split
  · refine if_neg ?_
    rintro rfl
    exact other rfl
  · rfl

theorem takings_concat : s.takings a (acts ++ [v]) =
    s.takings a acts ++ ((s.run acts).ofActor a (draws? a) v).toList :=
  along_concat s acts v

theorem answers_concat : s.answers a (acts ++ [v]) =
    s.answers a acts ++ ((s.run acts).ofActor a (fun u x => x.responds? u.clock) v).toList :=
  along_concat s acts v

theorem draws?_of_busy {hook : Hook} {work : Work} {due : Option Duration}
    (busy : x.phase = .busy hook work due) : s.draws? a x = none := by
  rw [draws?, busy]

theorem responds?_of_idle (idle : x.phase = .idle) (now : Duration) : x.responds? now = none := by
  rw [Actor.responds?, idle]

theorem draws?_of_closed (here : s.actors[a]? = some x) (closed : s.stepActor a = none) :
    s.draws? a x = none := by
  rw [stepActor, here] at closed
  cases phase : x.phase with
  | busy | ended => rw [draws?, phase]
  | idle =>
    simp only [phase] at closed
    rw [draws?, phase]
    dsimp only
    split at closed
    · cases closed
    · rename_i stays
      rw [if_neg stays]
      cases taken : s.post.take? x.box with
      | none => rfl
      | some => simp [taken] at closed

theorem takes_of_taken (here : s.actors[a]? = some x) (role : x.role = .component c)
    (idle : x.phase = .idle) (untold : x.told = false) (held : s.isHeld a = true) {mail : Mail}
    {post : PostOffice} (taken : s.post.take? x.box = some (mail, post)) :
    s.after (.move (.actor a)) = { s with post }.begin a (.handle mail) ∧
      s.draws? a x = some (s, mail) ∧ ∃ due, (s.after (.move (.actor a))).actors[a]? =
        some { x with phase := .busy (.handle mail) (c.workIn s mail) (some due) } := by
  have stepped : s.stepActor a = some ({ s with post }.begin a (.handle mail)) := by
    simp [stepActor, here, idle, untold, held, taken]
  obtain ⟨work, due, finds, begun⟩ := scene_begin (s := { s with post }) here (.handle mail)
  have there := actor_of_set (t := { s with post }.begin a (.handle mail)) here
    (congrArg Scene.actors begun)
  have found := (work_of_begin (s := { s with post }) here (.handle mail) there rfl).2
  have same : work = c.workIn s mail := by
    rw [found, role]
    exact c.workIn_congr (show State.history { s with post } = s.history from rfl)
  rw [role, same] at finds
  obtain ⟨span, bound⟩ := Component.span_of_does finds.does
  have next : s.after (.move (.actor a)) = { s with post }.begin a (.handle mail) := by
    rw [after, step, stepped, Option.getD_some]
  refine ⟨next, by simp [draws?, idle, untold, held, taken], s.clock + span, ?_⟩
  rw [next, there, same, finds.due, bound]
  rfl

end Streams

section Step

/-- What an actor of a component has done so far: it is done with what it took, but for what it has
in hand or died of, and each request among that it has answered, in order, and nothing else. -/
structure Dispatches (h : State) (acts : List Act) (a : Nat) (c : Component) (x : Actor)
    (done inHand : List (State × Mail)) : Prop where
  taken : h.takings a acts = done ++ inHand
  handled : (h.takings a acts).map Prod.snd = (h.run acts).handled a
  answered : List.Forall₂ (c.Answers x.name) (done.filter (·.2.isRequest)) (h.answers a acts)
  inHand : c.InHand x.phase inHand

theorem responds?_of_busy {hook : Hook} {work : Work} {due now : Duration}
    (busy : x.phase = .busy hook work (some due)) (past : due ≤ now)
    (finished : work.course.ending = .finished) : x.responds? now =
      match work.effect with
      | .respond id requester reply => some ⟨id, ⟨x.name⟩, requester, reply, now⟩
      | .nothing | .answer .. => none := by
  obtain ⟨⟨span, ending⟩, effect⟩ := work
  cases finished
  rw [Actor.responds?, busy]
  cases effect with
  | respond => exact if_pos past
  | nothing | answer => rfl

theorem responds?_of_panicked {hook : Hook} {work : Work} {due : Option Duration} {text : String}
    (busy : x.phase = .busy hook work due) (panicked : work.course.ending = .panicked text)
    (now : Duration) : x.responds? now = none := by
  obtain ⟨⟨span, ending⟩, effect⟩ := work
  cases panicked
  rw [Actor.responds?, busy]
  cases effect <;> cases due <;> rfl

theorem answers_of_done {u : State} {mail : Mail} {due now : Duration}
    (busy : x.phase = .busy (.handle mail) (c.workIn u mail) (some due)) (past : due ≤ now)
    (finished : (c.workIn u mail).course.ending = .finished) :
    List.Forall₂ (c.Answers x.name) ([(u, mail)].filter (·.2.isRequest))
      (x.responds? now).toList := by
  rw [responds?_of_busy busy past finished]
  cases request : mail.isRequest with
  | true =>
    rw [List.filter_singleton, request]
    cases mail with
    | request requester id payload =>
      obtain ⟨reply, effect, replies⟩ := Component.effect_of_request finished
      rw [effect]
      exact .cons ⟨payload, rfl, rfl, replies⟩ .nil
    | _ => cases request
  | false =>
    rw [List.filter_singleton, request]
    cases effect : (c.workIn u mail).effect with
    | respond id requester reply =>
      exact absurd effect (Component.effect_of_other request id requester reply)
    | nothing | answer => exact .nil

theorem responds?_of_hook {hook : Hook} {work : Work} {due : Option Duration}
    (busy : x.phase = .busy hook work due) (does : x.role.Does hook work)
    (idle : hook = .preStart ∨ hook = .postStop) (now : Duration) : x.responds? now = none := by
  unfold Actor.responds?
  split
  · rename_i found
    rw [busy] at found
    cases found
    obtain ⟨_, _, _, same, _⟩ := does.responds rfl
    obtain rfl | rfl := idle <;> cases same
  · rfl

variable {done inHand : List (State × Mail)}

theorem Dispatches.passes (dispatches : h.Dispatches acts a c x done inHand)
    (same : y.name = x.name) (draws : (h.run acts).ofActor a (draws? a) v = none)
    (silent : (h.run acts).ofActor a (fun u x => x.responds? u.clock) v = none)
    (handled : ((h.run acts).after v).handled a = (h.run acts).handled a)
    (now : c.InHand y.phase inHand) : h.Dispatches (acts ++ [v]) a c y done inHand where
  taken := by rw [takings_concat, draws, Option.toList_none, List.append_nil, dispatches.taken]
  handled := by
    rw [takings_concat, draws, Option.toList_none, List.append_nil, run_concat, handled,
      dispatches.handled]
  answered := by
    rw [answers_concat, silent, Option.toList_none, List.append_nil, same]
    exact dispatches.answered
  inHand := now

theorem handled_snoc {time : Duration} {m : Moment} (log : t.log = s.log ++ [⟨time, a, m⟩]) :
    t.handled a = s.handled a ++ m.taken := by
  rw [handled, trace_snoc log, if_pos rfl, List.flatMap_append, List.flatMap_singleton]
  rfl

theorem Dispatches.leaves (dispatches : h.Dispatches acts a c x done inHand)
    (here : (h.run acts).actors[a]? = some x) (idle : x.phase = .idle)
    (reason : x.told = true ∨ (h.run acts).isHeld a = false) {work : Work}
    {due : Option Duration} {time : Duration} (log : ((h.run acts).after (.move (.actor a))).log =
      (h.run acts).log ++ [⟨time, a, .began .postStop⟩])
    (bound : ∃ instant, due = some instant) :
    h.Dispatches (acts ++ [.move (.actor a)]) a c { x with phase := .busy .postStop work due }
      done [] := by
  have pending := dispatches.inHand
  rw [idle] at pending
  cases pending
  refine dispatches.passes rfl ?_ ?_ ?_ ?_
  · rw [ofActor_own here, draws?, idle]
    exact if_pos (by simpa using reason)
  · rw [ofActor_own here, responds?_of_idle idle]
  · rw [handled_snoc log]
    exact List.append_nil _
  · obtain ⟨instant, rfl⟩ := bound
    exact .stopping _ _

theorem Dispatches.takes (dispatches : h.Dispatches acts a c x done inHand)
    (here : (h.run acts).actors[a]? = some x) (idle : x.phase = .idle) {mail : Mail}
    {time due : Duration} (draws : (h.run acts).draws? a x = some (h.run acts, mail))
    (log : ((h.run acts).after (.move (.actor a))).log =
      (h.run acts).log ++ [⟨time, a, .began (.handle mail)⟩]) :
    h.Dispatches (acts ++ [.move (.actor a)]) a c
      { x with phase := .busy (.handle mail) (c.workIn (h.run acts) mail) (some due) }
      done [(h.run acts, mail)] := by
  have pending := dispatches.inHand
  rw [idle] at pending
  cases pending
  refine ⟨?_, ?_, ?_, .handling _ _ _⟩
  · rw [takings_concat, ofActor_own here, draws, dispatches.taken, List.append_nil]
    rfl
  · rw [takings_concat, ofActor_own here, draws, List.map_append, dispatches.handled, run_concat,
      handled_snoc log]
    rfl
  · rw [answers_concat, ofActor_own here, responds?_of_idle idle, Option.toList_none,
      List.append_nil]
    exact dispatches.answered

theorem Dispatches.ends (dispatches : h.Dispatches acts a c x done inHand)
    (here : (h.run acts).actors[a]? = some x) {hook : Hook} {work : Work} {time due : Duration}
    (does : x.role.Does hook work) (busy : x.phase = .busy hook work (some due))
    (past : due ≤ (h.run acts).clock) (log : ((h.run acts).after (.move (.actor a))).log =
      (h.run acts).log ++ [⟨time, a, .ended hook work.course.ending⟩]) :
    ∃ done' inHand', h.Dispatches (acts ++ [.move (.actor a)]) a c
      (x.leave hook work.course.ending) done' inHand' := by
  have pending := dispatches.inHand
  have name := x.name_leave hook work.course.ending
  have draws : (h.run acts).ofActor a (draws? a) (.move (.actor a)) = none := by
    rw [ofActor_own here, draws?_of_busy busy]
  have handled : ((h.run acts).after (.move (.actor a))).handled a = (h.run acts).handled a := by
    rw [handled_snoc log]
    exact List.append_nil _
  rw [busy] at pending
  cases pending with
  | starting =>
    refine ⟨done, [], dispatches.passes name draws ?_ handled ?_⟩
    · rw [ofActor_own here, responds?_of_hook busy does (.inl rfl)]
    · cases work.course.ending with
      | finished => exact .idle
      | failed | panicked => exact .ended _
  | stopping =>
    refine ⟨done, [], dispatches.passes name draws ?_ handled ?_⟩
    · rw [ofActor_own here, responds?_of_hook busy does (.inr rfl)]
    · cases work.course.ending <;> exact .ended _
  | handling u mail =>
    obtain finished | ⟨text, panicked, _⟩ := c.ending_workIn u mail
    · refine ⟨done ++ [(u, mail)], [], ?_, ?_, ?_, ?_⟩
      · rw [takings_concat, draws, Option.toList_none, List.append_nil, dispatches.taken,
          List.append_nil]
      · rw [takings_concat, draws, Option.toList_none, List.append_nil, dispatches.handled,
          run_concat, handled]
      · rw [answers_concat, ofActor_own here, List.filter_append, name]
        exact List.rel_append dispatches.answered (answers_of_done busy past finished)
      · rw [finished]
        exact .idle
    · refine ⟨done, [(u, mail)], dispatches.passes name draws ?_ handled ?_⟩
      · rw [ofActor_own here, responds?_of_panicked busy panicked]
      · rw [panicked]
        exact .died panicked

theorem Dispatches.works (dispatches : h.Dispatches acts a c x done inHand)
    (here : (h.run acts).actors[a]? = some x) (role : x.role = .component c)
    (working : (h.run acts).Working)
    (works : (h.run acts).Works a x ((h.run acts).after (.move (.actor a))))
    (there : ((h.run acts).after (.move (.actor a))).actors[a]? = some y) :
    ∃ done' inHand', h.Dispatches (acts ++ [.move (.actor a)]) a c y done' inHand' := by
  cases works with
  | leaves idle reason scene finds =>
    cases there.symm.trans (actor_of_set here (congrArg Scene.actors scene))
    obtain ⟨span, bound⟩ := Component.span_of_does (role ▸ finds.does)
    exact ⟨done, [], dispatches.leaves here idle reason (congrArg Scene.log scene)
      ⟨_, by rw [finds.due, bound]; rfl⟩⟩
  | @takes b b' mail work due idle untold held box taken scene finds =>
    obtain ⟨post, drawn⟩ : ∃ post, (h.run acts).post.take? x.box = some (mail, post) := by
      simp [PostOffice.take?, box, taken]
    obtain ⟨_, draws, instant, next⟩ := takes_of_taken here role idle untold held drawn
    cases there.symm.trans next
    exact ⟨done, _, dispatches.takes here idle draws (congrArg Scene.log scene)⟩
  | @ends hook work due busy past scene =>
    cases there.symm.trans (actor_of_set here (congrArg Scene.actors scene))
    obtain ⟨_, finds, _⟩ := working.engaged a x here hook work _ busy
    exact dispatches.ends here finds.does busy past (congrArg Scene.log scene)

theorem Dispatches.concat (dispatches : h.Dispatches acts a c x done inHand)
    (here : (h.run acts).actors[a]? = some x) (role : x.role = .component c)
    (working : (h.run acts).Working) (there : ((h.run acts).after v).actors[a]? = some y) :
    ∃ done' inHand', h.Dispatches (acts ++ [v]) a c y done' inHand' := by
  have plays := (h.run acts).after_plays v
  obtain ⟨rfl, works⟩ | ⟨traced, phase, _⟩ := plays.works_or_rests here there
  · exact dispatches.works here role working works there
  · by_cases own : v = .move (.actor a)
    · subst own
      -- Nothing was logged of the actor, so it could take no step.
      have closed : (h.run acts).stepActor a = none := by
        cases stepped : (h.run acts).stepActor a with
        | none => rfl
        | some t =>
          obtain ⟨_, m, _, log, _⟩ := (stepActor_works here stepped).moves
          rw [after, step, stepped, Option.getD_some, trace_snoc log, if_pos rfl] at traced
          simp at traced
      refine ⟨done, inHand, dispatches.passes (plays.kept here there).name ?_ ?_ ?_ ?_⟩
      · rw [ofActor_own here, draws?_of_closed here closed]
      · have silent := responds?_of_closed (m := .actor a) closed
        rw [responds?, here, Option.bind_some] at silent
        rw [ofActor_own here, silent]
      · rw [State.handled, traced, State.handled]
      · rw [phase]
        exact dispatches.inHand
    · refine ⟨done, inHand, dispatches.passes (plays.kept here there).name (ofActor_other own)
        (ofActor_other own) ?_ ?_⟩
      · rw [State.handled, traced, State.handled]
      · rw [phase]
        exact dispatches.inHand

end Step

structure Tracks (h : State) (acts : List Act) (a : Nat) (c : Component) : Prop where
  absent : (h.run acts).actors[a]? = none → h.takings a acts = [] ∧ h.answers a acts = []
  present (x : Actor) : (h.run acts).actors[a]? = some x → x.role = .component c →
    ∃ done inHand, h.Dispatches acts a c x done inHand

/-- An actor of a component has dispatched what it took, at every moment of every run. -/
theorem tracks_run (config : HostConfig) (engine : Engine) (a : Nat) (c : Component)
    (acts : List Act) : (fresh config engine).Tracks acts a c := by
  refine history_induction (P := fun acts => (fresh config engine).Tracks acts a c)
    ⟨fun _ => ⟨rfl, rfl⟩, fun _ none => nomatch none⟩ ?_
  rintro acts v _ ⟨absent, present⟩
  -- Nothing is seen of an actor before or as it comes.
  have unborn : ((fresh config engine).run acts).actors[a]? = none →
      (fresh config engine).takings a (acts ++ [v]) = [] ∧
        (fresh config engine).answers a (acts ++ [v]) = [] := by
    intro none
    have silent : ∀ {α : Type} (f : State → Actor → Option α),
        ((fresh config engine).run acts).ofActor a f v = .none := by
      intro α f
      unfold ofActor
      split
      · rw [none, Option.bind_none, ite_self]
      · rfl
    rw [takings_concat, answers_concat, silent, silent, (absent none).1, (absent none).2]
    exact ⟨rfl, rfl⟩
  have plays := ((fresh config engine).run acts).after_plays v
  refine ⟨fun none => unborn ?_, fun y there role => ?_⟩ <;> rw [run_concat] at *
  · exact List.getElem?_eq_none
      (Nat.le_trans plays.actors_length (List.getElem?_eq_none_iff.mp none))
  · obtain ⟨x, here⟩ | new := plays.actor_cases there
    · have role' := (plays.kept here there).role.symm.trans role
      obtain ⟨done, inHand, dispatches⟩ := present x here role'
      exact dispatches.concat here role' ((Working.fresh config engine).run acts) there
    · have none := List.getElem?_eq_none (Nat.le_of_eq new.last.symm)
      obtain ⟨work, due, busy, finds⟩ := new.starting
      obtain ⟨span, bound⟩ := Component.span_of_does (role ▸ finds.does)
      have tidy := (Tidy.fresh config engine).run acts
      obtain ⟨takings, answers⟩ := unborn none
      refine ⟨[], [], takings, ?_, ?_, ?_⟩
      · rw [takings, run_concat, handled_snoc (new.log), handled,
          tidy.trace_of_length_le (Nat.le_of_eq new.last.symm)]
        rfl
      · rw [answers]
        exact .nil
      · rw [busy, finds.due, bound]
        exact .starting _ _

section Progress

theorem isHeld_congr (roster : t.roster = s.roster) (kept : t.kept = s.kept)
    (calls : t.calls = s.calls) (a : Nat) : t.isHeld a = s.isHeld a := by
  rw [isHeld, isHeld, roster, kept, calls]

theorem kept_workFor (s : State) (role : Role) (hook : Hook) :
    (s.workFor role hook).2.kept = s.kept := by
  rw [workFor_snd]

theorem kept_begin (s : State) (a : Nat) (hook : Hook) : (s.begin a hook).kept = s.kept := by
  unfold begin
  cases s.actors[a]? with
  | none => rfl
  | some x => exact s.kept_workFor x.role hook

theorem isHeld_begin (s : State) (b : Nat) (hook : Hook) (a : Nat) :
    (s.begin b hook).isHeld a = s.isHeld a :=
  isHeld_congr (congrArg Outline.roster (s.outline_begin b hook)) (s.kept_begin b hook)
    (calls_begin s b hook) a

theorem any_modify {α : Type} {p : α → Bool} {f : α → α} (same : ∀ x, p (f x) = p x) (l : List α)
    (n : Nat) : (l.modify n f).any p = l.any p := by
  induction l generalizing n with
  | nil => rw [List.modify_nil]
  | cons x l ih =>
    cases n with
    | zero => rw [List.modify_zero_cons, List.any_cons, List.any_cons, same]
    | succ n => rw [List.modify_succ_cons, List.any_cons, List.any_cons, ih]

theorem isHeld_settleSlot (s : State) (n : Nat) (slot : Slot) (a : Nat) :
    (s.settleSlot n slot).isHeld a = s.isHeld a := by
  rw [isHeld, isHeld, settleSlot, any_modify]
  intro state
  cases state with
  | returned => rfl
  | running call =>
    cases call with
    | invoked b known target => cases known <;> rfl
    | _ => rfl

theorem isHeld_perform (s : State) (responder : ComponentId) (effect : Effect) (a : Nat) :
    (s.perform responder effect).isHeld a = s.isHeld a := by
  cases effect with
  | nothing => rfl
  | respond id requester reply =>
    rw [perform_respond]
    rfl
  | answer caller outcome => exact s.isHeld_settleSlot caller (.filled outcome) a

theorem queued_congr (boxes : t.post.boxes = s.post.boxes) (i : Nat) :
    t.post.queued i = s.post.queued i := by
  rw [PostOffice.queued, boxes, PostOffice.queued]

/-- From `s` to `t` an actor has handled some of its mail, and is ready for more. -/
structure WorksOff (s t : State) (a : Nat) (x : Actor) (mails : List Mail) : Prop where
  idle : t.actors[a]? = some { x with phase := .idle }
  handled : t.handled a = s.handled a ++ mails
  queued : s.post.queued x.box = mails ++ t.post.queued x.box
  held : t.isHeld a = s.isHeld a

theorem worksOff_of_due (here : s.actors[a]? = some x) {mail : Mail} {work : Work} {due : Duration}
    (busy : x.phase = .busy (.handle mail) work (some due)) (past : due ≤ s.clock)
    (finished : work.course.ending = .finished) :
    s.WorksOff (s.after (.move (.actor a))) a x [] := by
  have stepped : s.after (.move (.actor a)) = s.endHook a x (.handle mail) work := by
    rw [after, step, stepActor, here]
    simp only [busy, if_pos past, Option.getD_some]
  have scene := scene_endHook here (.handle mail) work
  have ended : s.endHook a x (.handle mail) work = updateActor
      ((s.note a (.ended (.handle mail) .finished)).perform ⟨x.name⟩ work.effect) a
      fun actor => { actor with phase := .idle } := by
    rw [endHook, finished]
  rw [finished, ended] at scene
  rw [stepped, ended]
  refine ⟨actor_of_set here (congrArg Scene.actors scene), ?_, ?_,
    (isHeld_perform (s.note a _) ⟨x.name⟩ work.effect a)⟩
  · exact handled_snoc (congrArg Scene.log scene)
  · exact (queued_congr (congrArg Scene.boxes scene) x.box).symm

theorem worksOff_of_busy (here : s.actors[a]? = some x) {mail : Mail} {work : Work} {due : Duration}
    (busy : x.phase = .busy (.handle mail) work (some due))
    (finished : work.course.ending = .finished) :
    s.WorksOff (s.run [.wait (due - s.clock), .move (.actor a)]) a x [] := by
  have past : due ≤ s.clock + (due - s.clock) := by
    show due.nanos ≤ s.clock.nanos + (due.nanos - s.clock.nanos)
    omega
  have worksOff := worksOff_of_due (s := s.after (.wait (due - s.clock))) here busy past finished
  exact ⟨worksOff.idle, worksOff.handled, worksOff.queued, worksOff.held⟩

theorem WorksOff.trans {mails mails' : List Mail} {u : State} (first : s.WorksOff t a x mails)
    (second : t.WorksOff u a x mails') : s.WorksOff u a x (mails ++ mails') where
  idle := second.idle
  handled := by rw [second.handled, first.handled, List.append_assoc]
  queued := by rw [first.queued, second.queued, List.append_assoc]
  held := second.held.trans first.held

def alone (a : Nat) (acts : List Act) : Prop :=
  ∀ v ∈ acts, v = .move (.actor a) ∨ ∃ span, v = .wait span

theorem alone.append {acts' : List Act} (first : alone a acts) (second : alone a acts') :
    alone a (acts ++ acts') :=
  List.forall_mem_append.mpr ⟨first, second⟩

theorem take?_of_queued {p : PostOffice} {i : Nat} {mail : Mail} {rest : List Mail}
    (queued : p.queued i = mail :: rest) :
    ∃ p', p.take? i = some (mail, p') ∧ p'.queued i = rest := by
  rw [PostOffice.queued] at queued
  cases box : p.boxes[i]? with
  | none =>
    rw [box] at queued
    cases queued
  | some b =>
    rw [box] at queued
    dsimp only at queued
    refine ⟨{ p with boxes := p.boxes.set i { b with queue := rest }.free }, ?_, ?_⟩
    · simp only [PostOffice.take?, box, Option.bind_eq_bind, Option.bind_some, Mailbox.take?,
        queued]
    · rw [PostOffice.queued, List.getElem?_set_self (List.getElem?_eq_some_iff.mp box).1]
      exact Mailbox.queue_free _

theorem queued_begin (s : State) (a : Nat) (hook : Hook) (i : Nat) :
    (s.begin a hook).post.queued i = s.post.queued i := by
  cases here : s.actors[a]? with
  | none => rw [begin, here]
  | some x =>
    obtain ⟨_, _, _, begun⟩ := scene_begin here hook
    have boxes : (s.begin a hook).post.boxes = s.post.boxes := congrArg Scene.boxes begun
    exact queued_congr boxes i

theorem worksOff_of_idle (here : s.actors[a]? = some x) (role : x.role = .component c)
    (enduring : c.Enduring) (idle : x.phase = .idle) (untold : x.told = false)
    (held : s.isHeld a = true) {mail : Mail} {rest : List Mail}
    (queued : s.post.queued x.box = mail :: rest) :
    ∃ later, alone a later ∧ s.WorksOff (s.run later) a x [mail] := by
  obtain ⟨post, taken, left⟩ := take?_of_queued queued
  obtain ⟨next, _, due, there⟩ := takes_of_taken here role idle untold held taken
  have worksOff := worksOff_of_busy there rfl (enduring.ending_workIn s mail)
  refine ⟨[.move (.actor a), .wait _, .move (.actor a)], ?_, worksOff.idle, ?_, ?_, ?_⟩
  · simp [alone]
  · rw [run_cons, worksOff.handled, handled, trace_takes here idle untold held queued,
      List.flatMap_append, List.append_nil]
    rfl
  · rw [run_cons, queued, ← left, List.cons_append, List.nil_append]
    refine congrArg (mail :: ·) (Eq.trans ?_ worksOff.queued)
    rw [next, queued_begin]
  · rw [run_cons, worksOff.held, next, isHeld_begin]
    rfl

/-- By induction on what is queued: no piece of mail keeps the actor from the next one. -/
theorem worksOff_of_ready (here : s.actors[a]? = some x) (role : x.role = .component c)
    (enduring : c.Enduring) (idle : x.phase = .idle) (untold : x.told = false)
    (held : s.isHeld a = true) :
    ∃ later, alone a later ∧ s.WorksOff (s.run later) a x (s.post.queued x.box) := by
  generalize queue : s.post.queued x.box = mails
  induction mails generalizing s with
  | nil =>
    refine ⟨[], nofun, ?_, (List.append_nil _).symm, rfl, rfl⟩
    rw [run_nil, here, ← idle]
  | cons mail rest ih =>
    obtain ⟨first, lone, worksOff⟩ := worksOff_of_idle here role enduring idle untold held queue
    have same : { x with phase := .idle } = x := by rw [← idle]
    have left : (s.run first).post.queued x.box = rest := by
      have queued := worksOff.queued
      rw [queue] at queued
      exact (List.cons.inj queued).2.symm
    obtain ⟨later, lone', worksOff'⟩ := ih (worksOff.idle.trans (congrArg some same))
      (worksOff.held.trans held) left
    refine ⟨first ++ later, lone.append lone', ?_⟩
    rw [run_append]
    exact worksOff.trans worksOff'

theorem worksOff_of_loops {inHand : List (State × Mail)} (here : s.actors[a]? = some x)
    (role : x.role = .component c) (enduring : c.Enduring) (hand : c.InHand x.phase inHand)
    (loops : x.phase.inLoop = true) (untold : x.told = false) (held : s.isHeld a = true) :
    ∃ later, alone a later ∧ s.WorksOff (s.run later) a x (s.post.queued x.box) := by
  generalize phase : x.phase = now at hand loops
  cases hand with
  | idle => exact worksOff_of_ready here role enduring phase untold held
  | starting | stopping | ended | died => cases loops
  | handling u mail due =>
    have first := worksOff_of_busy here phase (enduring.ending_workIn u mail)
    obtain ⟨later, lone, rest⟩ := worksOff_of_ready first.idle role enduring rfl untold
      (first.held.trans held)
    have lone' : alone a [.wait (due - s.clock), .move (.actor a)] := by simp [alone]
    have queued := first.queued
    rw [List.nil_append] at queued
    refine ⟨_, lone'.append lone, ?_⟩
    rw [run_append, queued]
    exact first.trans ⟨rest.idle, rest.handled, rest.queued, rest.held⟩

theorem inLoop_after (here : s.actors[a]? = some x) (loops : x.phase.inLoop = true)
    (untold : x.told = false) (held : s.isHeld a = true)
    (survives : ∀ mail work due text, x.phase = .busy (.handle mail) work due →
      work.course.ending ≠ .panicked text) (v : Act)
    (there : (s.after v).actors[a]? = some y) : y.phase.inLoop = true := by
  obtain ⟨_, works⟩ | ⟨_, phase, _⟩ := (s.after_plays v).works_or_rests here there
  · cases works with
    | leaves _ reason =>
      rw [untold, held] at reason
      simp at reason
    | takes _ _ _ _ _ scene =>
      cases there.symm.trans (actor_of_set here (congrArg Scene.actors scene))
      rfl
    | @ends hook work due busy _ scene =>
      cases there.symm.trans (actor_of_set here (congrArg Scene.actors scene))
      rw [busy] at loops
      cases hook with
      | preStart | postStop => cases loops
      | handle mail =>
        cases ending : work.course.ending with
        | panicked text => exact absurd ending (survives mail work _ text busy)
        | finished | failed => rfl
  · rw [phase, loops]

/-- Where nothing can happen without time going by, an actor in its loop has nothing to do, or what
it does takes its time. -/
theorem waits_of_quiet {inHand : List (State × Mail)} (here : s.actors[a]? = some x)
    (hand : c.InHand x.phase inHand) (loops : x.phase.inLoop = true) (quiet : s.quiet) :
    (x.phase = .idle ∧ s.post.queued x.box = []) ∨
      ∃ hook work due, x.phase = .busy hook work (some due) ∧ s.clock < due := by
  have still : s.stepActor a = none := quiet (.actor a)
  cases phase : x.phase with
  | ended =>
    rw [phase] at loops
    cases loops
  | idle => exact .inl ⟨rfl, (rests_of_quiet here phase quiet).2.2⟩
  | busy hook work due =>
    obtain ⟨instant, rfl⟩ : ∃ instant, due = some instant := by
      rw [phase] at hand
      cases hand <;> exact ⟨_, rfl⟩
    refine .inr ⟨hook, work, instant, rfl, Nat.lt_of_not_le fun past => ?_⟩
    rw [stepActor, here] at still
    simp only [phase] at still
    exact Option.some_ne_none _ ((if_pos (show instant ≤ s.clock from past)).symm.trans still)

end Progress

theorem ledger_of_actor (s : State) (a : Nat) :
    (s.after (.move (.actor a))).ledger =
      match s.responds? (.move (.actor a)) with
      | some r => s.ledger.attempt (·.resolve r.id r)
      | none => s.ledger := by
  cases gives : s.responds? (.move (.actor a)) with
  | some r => exact (after_gives gives).2
  | none =>
    rw [after]
    cases stepped : s.step (.actor a) with
    | none => rfl
    | some t => exact ((stepActor_gives stepped).2 gives).2

/-- Every request that a component's actor takes from its mailbox it answers once, in turn, under
the request's own id and to its own sender: with the first result of the guest's handler as four
bytes if that is an i32, and else with the reason why it could not be processed; other mail it does
not answer, and its answers are all that it does to the ledger. Unless the engine panics, only a
stop takes it from its loop, whatever comes of one piece of mail, and left alone it works off all
that is queued. -/
theorem requests_dispatched (config : HostConfig) (engine : Engine) (acts : List Act)
    (here : ((fresh config engine).run acts).actors[a]? = some x)
    (role : x.role = .component c) :
    let h := fresh config engine
    let s := h.run acts
    (∃ done inHand, h.Dispatches acts a c x done inHand) ∧
      (∀ before, ((h.run before).after (.move (.actor a))).ledger =
        match (h.run before).responds? (.move (.actor a)) with
        | some r => (h.run before).ledger.attempt (·.resolve r.id r)
        | none => (h.run before).ledger) ∧
      (s.quiet → x.phase.inLoop = true → (x.phase = .idle ∧ s.post.queued x.box = []) ∨
        ∃ hook work due, x.phase = .busy hook work (some due) ∧ s.clock < due) ∧
      (c.Enduring → x.phase.inLoop = true → x.told = false → s.isHeld a = true →
        (∀ v y, (s.after v).actors[a]? = some y → y.phase.inLoop = true) ∧
          ∃ later, alone a later ∧
            (s.run later).handled a = s.handled a ++ s.post.queued x.box ∧
            h.Dispatches (acts ++ later) a c { x with phase := .idle }
              (h.takings a (acts ++ later)) []) := by
  intro h s
  obtain ⟨done, inHand, dispatches⟩ := (tracks_run config engine a c acts).present x here role
  refine ⟨⟨done, inHand, dispatches⟩, fun before => ledger_of_actor _ a,
    fun quiet loops => waits_of_quiet here dispatches.inHand loops quiet,
    fun enduring loops untold held => ⟨fun v y there => ?_, ?_⟩⟩
  · refine inLoop_after here loops untold held (fun mail work due text busy panicked => ?_) v there
    have hand := dispatches.inHand
    rw [busy] at hand
    cases hand with
    | handling u => cases (enduring.ending_workIn u mail).symm.trans panicked
  · obtain ⟨later, lone, worksOff⟩ :=
      worksOff_of_loops here role enduring dispatches.inHand loops untold held
    have ran : h.run (acts ++ later) = s.run later := run_append _ _ _
    have there : (h.run (acts ++ later)).actors[a]? = some { x with phase := .idle } := by
      rw [ran]
      exact worksOff.idle
    obtain ⟨done, inHand, dispatches⟩ :=
      (tracks_run config engine a c (acts ++ later)).present _ there role
    refine ⟨later, lone, worksOff.handled, ?_⟩
    cases dispatches.inHand
    rw [show h.takings a (acts ++ later) = done from
      dispatches.taken.trans (List.append_nil done)]
    exact dispatches

section Sample

/-- Two requests and a message come to a component that answers 7. It is done with the first request
and has the second one in hand. -/
def dispatching : List Act :=
  [.spawn sampleOrder none, .move (.call 0), .move (.actor 0), .move (.call 0), .move (.enroll 0),
    .sendRequest ⟨"b"⟩ ⟨"a"⟩ [1] none false, .sendRequest ⟨"b"⟩ ⟨"a"⟩ [2] none false,
    .sendMessage ⟨"b"⟩ ⟨"a"⟩ [3], .move (.actor 0), .wait (.ofMillis 100), .move (.actor 0),
    .move (.actor 0)]

theorem dispatching_goes_on :
    let h := fresh {} answering
    let s := h.run dispatching
    s.quiet ∧
      h.answers 0 dispatching =
        [⟨.issued 0, ⟨"a"⟩, ⟨"b"⟩, .ok [7, 0, 0, 0], .ofMillis 100⟩] ∧
      ∃ x c, s.actors[0]? = some x ∧ x.role = .component c ∧ c.Enduring ∧
        (∃ done inHand, h.Dispatches dispatching 0 c x done inHand) ∧
        (∃ hook work due, x.phase = .busy hook work (some due) ∧ s.clock < due) ∧
        ∃ later, alone 0 later ∧ (s.run later).handled 0 =
          [.request ⟨"b"⟩ (.issued 0) [1], .request ⟨"b"⟩ (.issued 1) [2], .message ⟨"b"⟩ [3]] := by
  have quiet : ((fresh {} answering).run dispatching).quiet := by decide +kernel
  have answers : (fresh {} answering).answers 0 dispatching =
      [⟨.issued 0, ⟨"a"⟩, ⟨"b"⟩, .ok [7, 0, 0, 0], .ofMillis 100⟩] := by decide +kernel
  obtain ⟨x, c, here, role, enduring, untold, held, hook, work, due, busy, loops, box⟩ :
      ∃ x c, ((fresh {} answering).run dispatching).actors[0]? = some x ∧
        x.role = .component c ∧ c.Enduring ∧ x.told = false ∧
        ((fresh {} answering).run dispatching).isHeld 0 = true ∧ ∃ hook work due,
          x.phase = .busy hook work due ∧ x.phase.inLoop = true ∧ x.box = 0 := by
    refine ⟨_, _, rfl, rfl, ?_, rfl, rfl, _, _, _, rfl, rfl, rfl⟩
    intro _ _ _ _ panicked
    cases panicked
  obtain ⟨dispatches, _, waits, goes⟩ := requests_dispatched {} answering dispatching here role
  obtain ⟨_, later, lone, handled, _⟩ := goes enduring loops untold held
  refine ⟨quiet, answers, x, c, here, role, enduring, dispatches, ?_, later, lone, ?_⟩
  · obtain ⟨idle, _⟩ | waits := waits quiet loops
    · cases idle.symm.trans busy
    · exact waits
  · rw [handled, box]
    decide +kernel

end Sample

end State

end ComponentHost
