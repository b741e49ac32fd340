import ComponentHost.Proofs.Host.Exchange.AlarmGuard
import ComponentHost.Proofs.Host.Actor.Stop
import ComponentHost.Proofs.Host.Component.RosterSeats

/-! What a stop leaves behind. Whatever its actor does, when the stop returns nothing is left of the
component, the others are as they were, and the answer tells how the actor ended, if it has. -/

namespace ComponentHost

/-- How the end of an actor is answered for: `r` tells whether it has ended well, has ended badly,
or has not ended, which is a timeout. -/
structure Actor.AnsweredBy (y : Actor) (r : Except HostError Unit) (timeout : HostError) :
    Prop where
  ok : r = .ok () ↔ y.phase = .ended .finished
  internal : (∃ text, r = .error (.internal text)) ↔
    ∃ ending, ending ≠ .finished ∧ y.phase = .ended ending
  timeout : r = .error timeout ↔ y.hasEnded = false

namespace State

variable {s t u : State} {v : Act} {n a : Nat} {id : ComponentId} {x : Actor}

structure Gone (s : State) (id : ComponentId) : Prop where
  unlisted : s.roster.get? id = none
  unrouted : s.post.routes.get? id = none
  unknown : s.ledger.knows id = false
  unasked (k : CorrelationId) (e : Entry) :
    s.ledger.pending.get? k = some e → e.involves id = false

structure LeavesOthers (s t : State) (id : ComponentId) (a : Nat) : Prop where
  roster (j : ComponentId) : j ≠ id → t.roster.get? j = s.roster.get? j
  routes (j : ComponentId) : j ≠ id → t.post.routes.get? j = s.post.routes.get? j
  members (j : ComponentId) : j ≠ id → t.ledger.knows j = s.ledger.knows j
  requests (k : CorrelationId) (e : Entry) : e.involves id = false →
    s.ledger.pending.get? k = some e → t.ledger.pending.get? k = some e
  actors (b : Nat) : b ≠ a → t.actors[b]? = s.actors[b]?

namespace LeavesOthers

theorem trans (first : s.LeavesOthers t id a) (second : t.LeavesOthers u id a) :
    s.LeavesOthers u id a where
  roster j other := (second.roster j other).trans (first.roster j other)
  routes j other := (second.routes j other).trans (first.routes j other)
  members j other := (second.members j other).trans (first.members j other)
  requests k e aside here := second.requests k e aside (first.requests k e aside here)
  actors b other := (second.actors b other).trans (first.actors b other)

theorem of_calls (leaves : s.LeavesOthers t id a) (calls : List CallState) :
    s.LeavesOthers { t with calls } id a := { leaves with }

end LeavesOthers

section Begin

theorem outline_told (s : State) (id : ComponentId) (a : Nat) : (s.told id a).outline =
    { s.outline with
      ledger := (s.ledger.cleanup s.clock id).2
      routes := s.post.routes.erase id } :=
  outline_beginHalt (dropPending { s with post := s.post.unroute id } id) a

theorem actors_told (s : State) (id : ComponentId) (a : Nat) : (s.told id a).actors =
    s.actors.modify a fun actor => { actor with told := true, awaited := true } := by
  rw [told, beginHalt_fst]
  rfl

theorem ledger_told (s : State) (id : ComponentId) (a : Nat) :
    (s.told id a).ledger = (s.ledger.cleanup s.clock id).2 :=
  congrArg Outline.ledger (s.outline_told id a)

def stopAnswer (s : State) (id : ComponentId) (a : Nat) : Except HostError Unit :=
  match s.stopOutcome a with
  | some r => r.mapError (stopFailure id)
  | none => .error (s.stopTimeout id)

section Answer

variable {α β γ : Type}

theorem mapError_ok (f : α → β) (c : γ) : (Except.ok c).mapError f = .ok c := rfl

theorem mapError_error (f : α → β) (e : α) :
    (Except.error e : Except α γ).mapError f = .error (f e) := rfl

end Answer

theorem stopAnswer_answers (here : s.actors[a]? = some x) :
    x.AnsweredBy (s.stopAnswer id a) (s.stopTimeout id) := by
  rw [stopAnswer, stopOutcome, here, Option.bind_eq_bind, Option.bind_some]
  cases phase : x.phase with
  | busy | idle =>
    refine ⟨?_, ?_, ?_⟩ <;> simp [stopTimeout, Actor.hasEnded, phase]
  | ended ending =>
    cases ending <;> refine ⟨?_, ?_, ?_⟩ <;>
      simp [endingOf, mapError_error, mapError_ok, stopFailure, stopTimeout, Actor.hasEnded, phase]

theorem beginStop_eq (on : s.roster.get? id = some a) (here : s.actors[a]? = some x)
    (free : x.awaited = false) :
    s.beginStop id =
      if (s.told id a).stopOutcome a = none ∧ s.config.lifecycle.stopTimeout ≠ 0 then
        (s.told id a, .inl ⟨id, a, s.clock + s.config.lifecycle.stopTimeout⟩)
      else ((s.told id a).endStop id, .inr ((s.told id a).stopAnswer id a)) := by
  have halted : (dropPending { s with post := s.post.unroute id } id).beginHalt a =
      (s.told id a, (s.told id a).stopOutcome a) := by
    have still : (dropPending { s with post := s.post.unroute id } id).actors[a]? = some x := here
    rw [told, beginHalt, still]
    simp [free]
  have config : (s.told id a).config = s.config := congrArg Outline.config (s.outline_told id a)
  have clock : (s.told id a).clock = s.clock := congrArg Outline.clock (s.outline_told id a)
  rw [beginStop, on]
  dsimp only
  rw [halted]
  dsimp only
  rw [config, clock, stopAnswer]
  cases outcome : (s.told id a).stopOutcome a with
  | some r => simp
  | none => by_cases hurried : s.config.lifecycle.stopTimeout = 0 <;> simp [hurried]

end Begin

section Cancel

variable (apart : s.ledger.Apart)

def cancelling (now : Duration) (id : ComponentId) : Ledger.Verdicts := fun k e =>
  if e.involves id then some (.cancellation, e.refusal k .cancelled now) else none

include apart

theorem told_cancels (id : ComponentId) (a : Nat) :
    Ledger.Closes (cancelling s.clock id) s.ledger (s.told id a).ledger := by
  rw [ledger_told]
  exact (Ledger.cleanup_closes apart s.clock id).2

theorem endStop_cancels (id : ComponentId) :
    Ledger.Closes (cancelling s.clock id) s.ledger (s.endStop id).ledger :=
  { (Ledger.cleanup_closes apart s.clock id).2 with }

theorem told_leaves (id : ComponentId) (a : Nat) : s.LeavesOthers (s.told id a) id a where
  roster j _ := congrArg (·.roster.get? j) (s.outline_told id a)
  routes j other := by
    have routes : (s.told id a).post.routes = s.post.routes.erase id :=
      congrArg Outline.routes (s.outline_told id a)
    rw [routes, Table.get?_erase_of_ne _ other]
  members j _ := by
    rw [ledger_told, Ledger.knows, Ledger.knows, Ledger.members_cleanup]
  requests k e aside here :=
    (told_cancels apart id a).get?_iff.mpr ⟨here, by simp [cancelling, aside]⟩
  actors b other := by
    rw [actors_told, List.getElem?_modify_ne _ _ (Ne.symm other)]

theorem endStop_leaves (id : ComponentId) (a : Nat) : s.LeavesOthers (s.endStop id) id a where
  roster j other := Table.get?_erase_of_ne _ other
  routes _ _ := rfl
  members j other := by
    refine (Ledger.knows_leave _ id j).trans ?_
    rw [decide_eq_true other, Bool.and_true, Ledger.knows, dropPending, Ledger.members_cleanup,
      Ledger.knows]
  requests k e aside here :=
    (endStop_cancels apart id).get?_iff.mpr ⟨here, by simp [cancelling, aside]⟩
  actors _ _ := rfl

theorem endStop_gone (unrouted : s.post.routes.get? id = none) : (s.endStop id).Gone id where
  unlisted := Table.get?_erase_self _ _
  unrouted := unrouted
  unknown := (Ledger.knows_leave _ id id).trans (by simp)
  unasked k e pending := by
    have left := ((endStop_cancels apart id).get?_iff.mp pending).2
    simpa [cancelling] using left

end Cancel

structure CleanedUp (s : State) (id : ComponentId) (a : Nat) (deadline : Duration)
    (r : Except HostError Unit) : Prop where
  gone : s.Gone id
  answered : ∃ x, s.actors[a]? = some x ∧ x.AnsweredBy r (s.stopTimeout id) ∧
    (x.hasEnded = false → deadline ≤ s.clock)

section Wait

variable {deadline : Duration}

theorem CleanedUp.of_calls {r : Except HostError Unit} (cleaned : s.CleanedUp id a deadline r)
    (calls : List CallState) : { s with calls := calls }.CleanedUp id a deadline r where
  gone := { cleaned.gone with }
  answered := cleaned.answered

theorem endStop_cleansUp (apart : s.ledger.Apart) (unrouted : s.post.routes.get? id = none)
    (known : a < s.actors.length) (late : s.stopOutcome a = none → deadline ≤ s.clock) :
    (s.endStop id).CleanedUp id a deadline (s.stopAnswer id a) where
  gone := endStop_gone apart unrouted
  answered := by
    have here := List.getElem?_eq_getElem known
    exact ⟨_, here, stopAnswer_answers here, fun alive => late (stopOutcome_eq_none here alive)⟩

/-- Call `n` is a stop that awaits its actor's end, and no other call concerns the component. -/
structure Stopping (s : State) (n : Nat) (id : ComponentId) (a : Nat) (deadline : Duration) :
    Prop where
  opened : s.started = true
  known : a < s.actors.length
  call : s.calls[n]? = some (.running (.stop ⟨id, a, deadline⟩))
  unrouted : s.post.routes.get? id = none
  alone (m : Nat) (c : Call) : s.underWay m = some c → c.concerns id → m = n

/-- Whether an act leaves a component to its stop: it asks for no lifecycle call that concerns it
and does not route it. -/
def Act.heeds (id : ComponentId) (v : Act) : Prop := ¬ v.concerns id ∧ ¬ v.reroutes id

theorem stepStopCall_eq (s : State) (n : Nat) (st : Stop) : s.stepStopCall n st =
    if s.stopOutcome st.actor = none ∧ ¬ st.deadline ≤ s.clock then none
    else some ((s.endStop st.id).finish n (.done (s.stopAnswer st.id st.actor))) := by
  unfold stepStopCall stepStop stopAnswer
  cases s.stopOutcome st.actor with
  | some r => simp
  | none => by_cases late : st.deadline ≤ s.clock <;> simp [late]

theorem stepRestartStop_eq (s : State) (n : Nat) (st : Stop) (o : Order) :
    s.stepRestartStop n st o =
      if s.stopOutcome st.actor = none ∧ ¬ st.deadline ≤ s.clock then none
      else some ((s.endStop st.id).carryOn n
        ((s.endStop st.id).respawn o (s.stopAnswer st.id st.actor))) := by
  unfold stepRestartStop stepStop stopAnswer
  cases s.stopOutcome st.actor with
  | some r =>
    cases next : (s.endStop st.id).respawn o (r.mapError (stopFailure st.id)) <;>
      simp [next, carryOn]
  | none =>
    by_cases late : st.deadline ≤ s.clock
    · cases next : (s.endStop st.id).respawn o (.error (s.stopTimeout st.id)) <;>
        simp [late, next, carryOn]
    · simp [late]

namespace Stopping

variable (stopping : s.Stopping n id a deadline)

include stopping

theorem underWay : s.underWay n = some (.stop ⟨id, a, deadline⟩) := by
  rw [underWay_of_running stopping.call]
  rfl

theorem running : s.hasReturned n = false := by
  rw [hasReturned, stopping.call]

theorem stepCall_eq : s.stepCall n =
    if s.stopOutcome a = none ∧ ¬ deadline ≤ s.clock then none
    else some ((s.endStop id).finish n (.done (s.stopAnswer id a))) := by
  rw [stepCall, stopping.call]
  exact s.stepStopCall_eq n ⟨id, a, deadline⟩

theorem unseated (m : Nat) : ¬ s.Spawning m id := by
  rintro ⟨sp, spawning, own⟩
  obtain ⟨c, here, spawning⟩ := Option.bind_eq_some_iff.mp spawning
  have concerns : c.concerns id := by
    cases c with
    | spawn | restartSpawn =>
      cases spawning
      exact own.symm
    | _ => cases spawning
  obtain rfl := stopping.alone m c here concerns
  rw [stopping.underWay] at here
  cases here
  cases spawning

theorem after (aside : v.heeds id) : (s.after v).Stopping n id a deadline ∨
    (v = .move (.call n) ∧ (s.stopOutcome a = none → deadline ≤ s.clock) ∧
      s.after v = (s.endStop id).finish n (.done (s.stopAnswer id a))) := by
  have next : (s.after v).calls[n]? = some (.running (.stop ⟨id, a, deadline⟩)) →
      (s.after v).Stopping n id a deadline := fun call => {
    opened := open_after stopping.opened fun shuts => aside.1 (by rw [shuts]; trivial)
    known := Nat.lt_of_lt_of_le stopping.known (s.after_plays v).actors_length
    call
    unrouted := unrouted_after stopping.opened stopping.unrouted aside.2 stopping.unseated
    alone := fun m c there concerns => by
      obtain asked | ⟨c₀, here, concerns⟩ := concerns_after stopping.opened there concerns
      · exact absurd asked aside.1
      · exact stopping.alone m c₀ here concerns }
  by_cases own : v = .move (.call n)
  · subst own
    rw [State.after, step, stopping.stepCall_eq] at next ⊢
    by_cases waits : s.stopOutcome a = none ∧ ¬ deadline ≤ s.clock
    · rw [if_pos waits] at next ⊢
      exact .inl (next stopping.call)
    · rw [if_neg waits]
      exact .inr ⟨rfl, fun none => Decidable.not_not.mp fun early => waits ⟨none, early⟩, rfl⟩
  · exact .inl (next (calls_after (fun _ => rfl) stopping.call own))

theorem calls_finish (answer : Answer) :
    ((s.endStop id).finish n answer).calls[n]? = some (.returned s.clock answer) :=
  List.getElem?_set_self (List.getElem?_eq_some_iff.mp stopping.call).1

theorem not_quiet (late : deadline ≤ s.clock) : ¬ s.quiet := by
  intro quiet
  have still := quiet (.call n)
  rw [step, stopping.stepCall_eq, if_neg fun waits => waits.2 late] at still
  cases still

end Stopping

/-- With the last of some acts stop `n` returns `r`, when it has cleaned up. -/
structure Finishes (s : State) (acts : List Act) (n : Nat) (id : ComponentId) (a : Nat)
    (deadline : Duration) (r : Except HostError Unit) : Prop where
  returned : (s.run acts).calls[n]? = some (.returned (s.run acts).clock (.done r))
  cleaned : (s.run acts).CleanedUp id a deadline r
  waited (fewer : List Act) (v : Act) : acts = fewer ++ [v] →
    (s.run fewer).hasReturned n = false ∧ (s.run fewer).LeavesOthers (s.run acts) id a

/-- As long as nobody else manages the component, a stop waits or has cleaned up and returned. -/
theorem Stopping.run {acts : List Act} (guarded : s.Guarded) (served : s.ledger.Served)
    (stopping : s.Stopping n id a deadline) (aside : ∀ v ∈ acts, v.heeds id) :
    (s.run acts).Stopping n id a deadline ∨
      ∃ soon r, soon <+: acts ∧ s.Finishes soon n id a deadline r := by
  induction acts generalizing s with
  | nil => exact .inl stopping
  | cons v acts ih =>
    obtain still | ⟨_, late, same⟩ := stopping.after (aside v List.mem_cons_self)
    · have aside' : ∀ u ∈ acts, u.heeds id := fun u mem => aside u (List.mem_cons_of_mem v mem)
      refine (ih (guarded.after v) (served_after guarded served v) still aside').imp_right ?_
      rintro ⟨soon, r, early, finishes⟩
      refine ⟨v :: soon, r, List.cons_prefix_cons.mpr ⟨rfl, early⟩, finishes.returned,
        finishes.cleaned, fun fewer w split => ?_⟩
      cases fewer with
      | nil =>
        -- The stop still waits after the first act, which is thus not the last.
        cases split
        have returned := finishes.returned
        rw [run_nil, still.call] at returned
        cases returned
      | cons u fewer =>
        cases split
        exact finishes.waited fewer w rfl
    · have last : s.run [v] = (s.endStop id).finish n (.done (s.stopAnswer id a)) := same
      refine .inr ⟨[v], s.stopAnswer id a, ⟨acts, rfl⟩, ?_, ?_, fun fewer w split => ?_⟩
      · rw [last, stopping.calls_finish]
        rfl
      · rw [last]
        exact (endStop_cleansUp served.apart stopping.unrouted stopping.known late).of_calls _
      · have first : fewer = [] ∧ w = v := by simpa using List.append_eq_singleton_iff.mp split.symm
        rw [first.1, last]
        exact ⟨stopping.running, (endStop_leaves served.apart id a).of_calls _⟩

end Wait

section Stop

variable (started : s.started = true) (on : s.roster.get? id = some a)
  (here : s.actors[a]? = some x) (free : x.awaited = false) (apart : s.ledger.Apart)

include started on here free

theorem stop_eq : s.after (.stop id) =
    if (s.told id a).stopOutcome a = none ∧ s.config.lifecycle.stopTimeout ≠ 0 then
      ((s.told id a).enter (.stop ⟨id, a, s.clock + s.config.lifecycle.stopTimeout⟩)).2
    else (((s.told id a).endStop id).answerNow (.done ((s.told id a).stopAnswer id a))).2 := by
  rw [after, stopComponent_of_started started, beginStop_eq on here free]
  split <;> rfl

include apart

theorem stop_leaves : s.LeavesOthers (s.after (.stop id)) id a := by
  have told := told_leaves apart id a
  rw [stop_eq started on here free]
  split
  · exact told.of_calls _
  · exact (told.trans (endStop_leaves ((told_cancels apart id a).apart apart) id a)).of_calls _

theorem stop_cancels :
    Ledger.Closes (cancelling s.clock id) s.ledger (s.after (.stop id)).ledger := by
  have told := told_cancels apart id a
  have clock : (s.told id a).clock = s.clock := congrArg Outline.clock (s.outline_told id a)
  rw [stop_eq started on here free]
  split
  · exact told
  · refine (told.trans apart (endStop_cancels (told.apart apart) id)).congr fun k e _ => ?_
    rw [clock, Option.or_self]

theorem stop_begins (alone : ∀ m c, s.underWay m = some c → ¬ c.concerns id) :
    (s.after (.stop id)).Stopping s.calls.length id a
        (s.clock + s.config.lifecycle.stopTimeout) ∨
      ∃ r, (s.after (.stop id)).Finishes [] s.calls.length id a
        (s.clock + s.config.lifecycle.stopTimeout) r := by
  have outline := s.outline_told id a
  have calls : (s.told id a).calls = s.calls :=
    calls_beginHalt (dropPending { s with post := s.post.unroute id } id) a
  have clock : (s.told id a).clock = s.clock := congrArg Outline.clock outline
  have unrouted : (s.told id a).post.routes.get? id = none :=
    (congrArg (·.routes.get? id) outline).trans (Table.get?_erase_self _ _)
  have known : a < (s.told id a).actors.length := by
    rw [actors_told, List.length_modify]
    exact (List.getElem?_eq_some_iff.mp here).1
  rw [stop_eq started on here free]
  by_cases waits : (s.told id a).stopOutcome a = none ∧ s.config.lifecycle.stopTimeout ≠ 0
  · rw [if_pos waits]
    refine .inl ⟨(congrArg Outline.started outline).trans started, known, ?_, unrouted, ?_⟩
    · rw [← calls]
      exact List.getElem?_concat_length
    · intro m c there concerns
      rw [underWay_enter, calls] at there
      by_cases own : m = s.calls.length
      · exact own
      · rw [if_neg own, show (s.told id a).underWay = s.underWay from
          congrArg Outline.underWay outline] at there
        exact absurd concerns (alone m c there)
  · rw [if_neg waits]
    have late : (s.told id a).stopOutcome a = none →
        s.clock + s.config.lifecycle.stopTimeout ≤ (s.told id a).clock := by
      intro none
      have hurried : s.config.lifecycle.stopTimeout = 0 :=
        Decidable.not_not.mp fun ready => waits ⟨none, ready⟩
      rw [hurried, clock]
      exact Nat.le_refl _
    have cleaned := endStop_cleansUp ((told_cancels apart id a).apart apart) unrouted known late
    refine .inr ⟨(s.told id a).stopAnswer id a, ?_, cleaned.of_calls _, fun fewer v split => ?_⟩
    · rw [run_nil, ← calls]
      exact List.getElem?_concat_length
    · cases fewer <;> cases split

end Stop

/-- A stop of a component that nobody else manages meanwhile, and whose actor was told to stop by
nobody past the host: it cancels the requests that it finds, it returns by its deadline, and by then
nothing is left of the component; the others are not touched. -/
theorem stop_cleans_up (config : HostConfig) (engine : Engine) {before later : List Act}
    (reached : s = (fresh config engine).run before) (managed : ∀ v ∈ before, v ≠ .stopActor a)
    (started : s.started = true) (on : s.roster.get? id = some a)
    (alone : ∀ m c, s.underWay m = some c → ¬ c.concerns id) (aside : ∀ v ∈ later, v.heeds id) :
    let n := s.calls.length
    let deadline := s.clock + s.config.lifecycle.stopTimeout
    let begun := s.after (.stop id)
    let t := begun.run later
    s.LeavesOthers begun id a ∧
    (∀ k e, s.ledger.pending.get? k = some e → e.involves id = true →
      begun.ledger.pending.get? k = none ∧ ∃ w, s.ledger.waiters[e.waiter]? = some w ∧
        w.received = [] ∧
        begun.ledger.waiters[e.waiter]? = some (w.hand (e.refusal k .cancelled s.clock))) ∧
    (t.quiet → deadline ≤ t.clock → t.hasReturned n = true) ∧
    (t.hasReturned n = true →
      ∃ soon r, soon <+: later ∧ begun.Finishes soon n id a deadline r) := by
  intro n deadline begun t
  have initial : (fresh config engine).Guarded := Ledger.Guarded.empty
  have guarded : s.Guarded := reached ▸ initial.run before
  have served : s.ledger.Served :=
    reached ▸ served_run initial (served_fresh config engine) before
  have manned : s.Manned a := by
    rw [reached] at started ⊢
    exact (Manned.fresh config engine a).run started managed
  have here := List.getElem?_eq_getElem (manned.seated id on)
  have free := manned.unawaited on here fun m c waits stops =>
    alone m c waits (Call.concerns_of_stops stops)
  have cancels := stop_cancels started on here free served.apart
  have waits : t.Stopping n id a deadline ∨
      ∃ soon r, soon <+: later ∧ begun.Finishes soon n id a deadline r := by
    obtain stopping | ⟨r, finishes⟩ := stop_begins started on here free served.apart alone
    · exact stopping.run (guarded.after _) (served_after guarded served _) aside
    · exact .inr ⟨[], r, List.nil_prefix, finishes⟩
  refine ⟨stop_leaves started on here free served.apart, fun k e pending involved => ?_,
    fun quiet late => ?_, fun returned => ?_⟩
  · have verdict : cancelling s.clock id k e =
        some (.cancellation, e.refusal k .cancelled s.clock) := if_pos involved
    obtain ⟨w, waiting, unheard⟩ := served.waits pending
    refine ⟨cancels.get?_eq_none pending verdict, w, waiting, unheard, ?_⟩
    rw [cancels.handed pending verdict, waiting]
    rfl
  · obtain stopping | ⟨soon, r, ⟨rest, rfl⟩, finishes⟩ := waits
    · exact absurd quiet (stopping.not_quiet late)
    · have same : t = (begun.run soon).run rest := run_append ..
      rw [hasReturned, same, returned_run finishes.returned rest]
  · refine waits.resolve_left fun stopping => ?_
    rw [stopping.running] at returned
    cases returned

theorem requested_stop_cleans_up :
    let s := sampleHost.after (.sendRequest ⟨"b"⟩ ⟨"a"⟩ [] none false)
    let later : List Act :=
      [.move (.actor 0), .wait (.ofMillis 100), .move (.actor 0), .move (.call 2)]
    let begun := s.after (.stop ⟨"a"⟩)
    s.ledger.pending.contains (.issued 0) = true ∧
      begun.ledger.pending.get? (.issued 0) = none ∧ begun.hasReturned 2 = false ∧
      ∃ soon r, soon <+: later ∧
        begun.Finishes soon 2 ⟨"a"⟩ 0 (s.clock + s.config.lifecycle.stopTimeout) r := by
  intro s later begun
  have idle : ∀ m, s.underWay m = none := by
    intro m
    match m with
    | 0 | 1 => rfl
    | m + 2 => rfl
  have alone : ∀ m c, s.underWay m = some c → ¬ c.concerns ⟨"a"⟩ := by
    intro m c waits
    rw [idle m] at waits
    cases waits
  have reached : s = (fresh {} (.paced ["cleanup", "handle-request"] (.ofMillis 100))).run
      [.spawn sampleOrder none, .move (.call 0), .move (.actor 0), .move (.call 0),
        .sendRequest ⟨"b"⟩ ⟨"a"⟩ [] none false] := rfl
  have aside : ∀ v ∈ later, v.heeds ⟨"a"⟩ := by
    simp [later, Act.heeds, Act.concerns, Act.reroutes]
  obtain ⟨_, cancels, _, finishes⟩ :=
    stop_cleans_up (a := 0) {} _ reached (by simp) rfl rfl alone aside
  have returned : (begun.run later).hasReturned 2 = true := by decide +kernel
  have gone := (cancels (.issued 0) _ rfl rfl).1
  exact ⟨rfl, gone, rfl, finishes returned⟩

end State

end ComponentHost
