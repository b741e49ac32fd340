import ComponentHost.Proofs.Host.Component.StopCleanup

/-! A host that was shut down. What is asked of it from then on is refused and changes nothing. Of
what was under way before, a restart has yet to ask once more, when its stop has ended, and is then
refused like the others. -/

namespace ComponentHost.State

variable {s : State} {n : Nat} {st : Stop} {o : Order}

/-- Every call is answered at once, and beside that answer nothing changes. -/
structure Refuses (s : State) : Prop where
  spawn (o : Order) (keep : Option String) :
    s.after (.spawn o keep) = (s.answerNow (.spawned (.error .notStarted))).2
  stop (id : ComponentId) : s.after (.stop id) = (s.answerNow (.done (.error .notStarted))).2
  restart (o : Order) : s.after (.restart o) = (s.answerNow (.done (.error .notStarted))).2
  execute (id : ComponentId) (function : String) (args : List Value) :
    s.after (.execute id function args) = (s.answerNow (.executed (.error .notStarted))).2
  status (id : ComponentId) : s.status id = .error .notStarted
  list : s.list = .error .notStarted
  shutdown : s.after .shutdown = (s.answerNow (.done (.ok ()))).2

theorem refuses_of_closed (closed : s.started = false) : s.Refuses := by
  have refused := ensureStarted_of_not_started closed
  constructor
  · intro o keep
    rw [after, spawnComponent, beginSpawn, refused]
  · intro id
    rw [after, stopComponent_of_not_started closed]
  · intro o
    rw [after, restartComponent_of_not_started closed]
  · intro id function args
    rw [after, execute, refused]
  · intro id
    rw [status, refused]
  · rw [list, refused]
  · rw [after, State.shutdown, closed]
    rfl

theorem closed_run (closed : s.started = false) (acts : List Act) : (s.run acts).started = false :=
  run_induction (P := (·.started = false)) closed fun _ _ _ closed => started_after closed

theorem closed_of_shutdown (s : State) : (s.after .shutdown).started = false := by
  cases started : s.started with
  | true => exact started_shutdown started
  | false => exact started_after started

def barredAnswer (s : State) (st : Stop) : Except HostError Unit :=
  match s.stopAnswer st.id st.actor with
  | .error e => .error e
  | .ok () => .error .notStarted

theorem respawn_of_closed (closed : s.started = false) (o : Order) (r : Except HostError Unit) :
    s.respawn o r = .inr (.done (r.bind fun _ => .error .notStarted)) := by
  cases r with
  | error e => rfl
  | ok stopped =>
    rw [respawn, beginSpawn, ensureStarted_of_not_started closed]
    rfl

section Restart

variable (closed : s.started = false)

include closed

theorem stepRestartStop_of_closed (n : Nat) (st : Stop) (o : Order) : s.stepRestartStop n st o =
    if s.stopOutcome st.actor = none ∧ ¬ st.deadline ≤ s.clock then none
    else some ((s.endStop st.id).finish n (.done (s.barredAnswer st))) := by
  have closed' : (s.endStop st.id).started = false := closed
  rw [stepRestartStop_eq, respawn_of_closed closed', barredAnswer]
  cases s.stopAnswer st.id st.actor <;> rfl

variable (here : s.calls[n]? = some (.running (.restartStop st o)))

include here

/-- A restart in a closed host goes on waiting for its stop, or ends with it. -/
theorem barred_after (v : Act) :
    (s.after v).calls[n]? = some (.running (.restartStop st o)) ∨
      v = .move (.call n) ∧
        s.after v = (s.endStop st.id).finish n (.done (s.barredAnswer st)) := by
  by_cases own : v = .move (.call n)
  · subst own
    rw [after, step, stepCall, here]
    dsimp only
    rw [stepRestartStop_of_closed closed]
    split
    · exact .inl here
    · exact .inr ⟨rfl, rfl⟩
  · exact .inl (calls_after (fun _ => rfl) here own)

theorem barred_run (acts : List Act) :
    (s.run acts).calls[n]? = some (.running (.restartStop st o)) ∨
      ∃ before later, acts = before ++ .move (.call n) :: later ∧
        (s.run before).calls[n]? = some (.running (.restartStop st o)) ∧
        (s.run acts).calls[n]? =
          some (.returned (s.run before).clock (.done ((s.run before).barredAnswer st))) := by
  induction acts generalizing s with
  | nil => exact .inl here
  | cons v acts ih =>
    obtain waits | ⟨rfl, same⟩ := barred_after closed here v
    · refine (ih (started_after closed) waits).imp_right ?_
      rintro ⟨before, later, rfl, waits, returned⟩
      exact ⟨v :: before, later, rfl, waits, returned⟩
    · refine .inr ⟨[], acts, rfl, here, returned_run ?_ acts⟩
      rw [same]
      exact List.getElem?_set_self (List.getElem?_eq_some_iff.mp here).1

theorem actors_barred : (s.after (.move (.call n))).actors = s.actors := by
  rw [after, step, stepCall, here]
  dsimp only
  rw [stepRestartStop_of_closed closed]
  split <;> rfl

end Restart

theorem after_of_returned {time : Duration} {answer : Answer}
    (returned : s.calls[n]? = some (.returned time answer)) : s.after (.move (.call n)) = s := by
  rw [after, step, stepCall, returned]
  rfl

/-- From the call of a shutdown on a host is closed, whatever else happens: it refuses all that it
is asked for, and a restart whose stop was under way starts no actor but returns the stop's failure
or, where the stop succeeds, the refusal. -/
theorem closed_by_shutdown (s : State) (acts : List Act) :
    let begun := s.after .shutdown
    let t := begun.run acts
    t.started = false ∧ t.Refuses ∧
      ∀ n st o, s.calls[n]? = some (.running (.restartStop st o)) →
        (t.after (.move (.call n))).actors = t.actors ∧
        (t.calls[n]? = some (.running (.restartStop st o)) ∨
          ∃ before later, acts = before ++ .move (.call n) :: later ∧
            t.calls[n]? = some (.returned (begun.run before).clock
              (.done ((begun.run before).barredAnswer st)))) := by
  intro begun t
  have first : begun.started = false := closed_of_shutdown s
  have closed : t.started = false := closed_run first acts
  refine ⟨closed, refuses_of_closed closed, fun n st o under => ?_⟩
  have here : begun.calls[n]? = some (.running (.restartStop st o)) :=
    calls_after (fun _ => rfl) under nofun
  obtain waits | ⟨before, later, split, _, returned⟩ := barred_run first here acts
  · exact ⟨actors_barred closed waits, .inl waits⟩
  · exact ⟨congrArg actors (after_of_returned returned), .inr ⟨before, later, split, returned⟩⟩

theorem restart_barred_by_shutdown :
    let s := sampleHost.after (.restart sampleOrder)
    let acts : List Act :=
      [.move (.actor 0), .wait (.ofMillis 100), .move (.actor 0), .move (.call 1)]
    let t := (s.after .shutdown).run acts
    s.calls[1]? = some (.running (.restartStop ⟨⟨"a"⟩, 0, .ofMillis 5000⟩ sampleOrder)) ∧
      t.Refuses ∧ (t.after (.move (.call 1))).actors = t.actors ∧ t.actors.length = 1 ∧
      t.calls[1]? = some (.returned (.ofMillis 100) (.done (.error .notStarted))) := by
  intro s acts t
  obtain ⟨_, refuses, barred⟩ := closed_by_shutdown s acts
  exact ⟨rfl, refuses, (barred 1 _ _ rfl).1, by decide +kernel, by decide +kernel⟩

end ComponentHost.State
