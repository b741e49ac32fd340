import ComponentHost.Proofs.Host.Act.Actors
import ComponentHost.Proofs.Host.Act.Calls

/-! A stop asked of an actor itself. The first to ask awaits the actor's end; to all who come after
the stop is over at once, whether or not the actor has ended by then. -/

namespace ComponentHost.State

variable {s : State} {a : Nat} {x : Actor}

def Over (s : State) (a : Nat) : Prop := ∃ x, s.actors[a]? = some x ∧ x.hasEnded = true

theorem over_after (gone : s.Over a) (v : Act) : (s.after v).Over a := by
  obtain ⟨x, here, ended⟩ := gone
  obtain ⟨y, later, becomes⟩ := actor_after here v
  exact ⟨y, later, becomes.hasEnded ended⟩

theorem over_of_stopOutcome {r : Except ActorError Unit} (outcome : s.stopOutcome a = some r) :
    s.Over a := by
  simp only [stopOutcome, Option.bind_eq_bind, Option.bind_eq_some_iff] at outcome
  obtain ⟨x, here, outcome⟩ := outcome
  refine ⟨x, here, Actor.hasEnded_iff.mpr ?_⟩
  cases phase : x.phase with
  | ended ending => exact ⟨ending, rfl⟩
  | busy | idle =>
    rw [phase] at outcome
    cases outcome

theorem stopOutcome_eq_none (here : s.actors[a]? = some x) (alive : x.hasEnded = false) :
    s.stopOutcome a = none := by
  cases outcome : s.stopOutcome a with
  | none => rfl
  | some r =>
    obtain ⟨y, there, ended⟩ := over_of_stopOutcome outcome
    rw [here] at there
    cases there
    rw [alive] at ended
    cases ended

theorem stopOutcome_after {r : Except ActorError Unit} (outcome : s.stopOutcome a = some r)
    (v : Act) : (s.after v).stopOutcome a = some r := by
  simp only [stopOutcome, Option.bind_eq_bind, Option.bind_eq_some_iff] at outcome ⊢
  obtain ⟨x, here, outcome⟩ := outcome
  obtain ⟨y, there, becomes⟩ := actor_after here v
  refine ⟨y, there, ?_⟩
  cases phase : x.phase with
  | busy | idle =>
    rw [phase] at outcome
    cases outcome
  | ended ending =>
    rw [becomes.ended ending phase, becomes.name]
    rwa [phase] at outcome

theorem over_or_halting {n : Nat}
    (halting : s.Over a ∨ s.calls[n]? = some (.running (.halt a))) (acts : List Act) :
    (s.run acts).Over a ∨ (s.run acts).calls[n]? = some (.running (.halt a)) := by
  refine run_induction (P := fun t => t.Over a ∨ t.calls[n]? = some (.running (.halt a)))
    halting fun t v _ halting => ?_
  obtain gone | waiting := halting
  · exact .inl (over_after gone v)
  · by_cases own : v = .move (.call n)
    · subst own
      rw [after, step, stepCall, waiting]
      dsimp only
      cases outcome : t.stopOutcome a with
      | none =>
        rw [stepHalt, outcome]
        exact .inr waiting
      | some r =>
        rw [stepHalt, outcome]
        exact .inl (over_of_stopOutcome outcome)
    · exact .inr (calls_after (fun _ => rfl) waiting own)

theorem actors_stopActor (here : s.actors[a]? = some x) :
    (s.after (.stopActor a)).actors[a]? = some { x with told := true, awaited := true } := by
  have told : (s.beginHalt a).1.actors[a]? = some { x with told := true, awaited := true } := by
    rw [beginHalt_fst, updateActor, List.getElem?_modify_eq, here]
    rfl
  rw [after, stopActor]
  dsimp only
  split <;> exact told

theorem stopActor_of_awaited (here : s.actors[a]? = some x) (awaited : x.awaited = true) :
    (s.after (.stopActor a)).calls[s.calls.length]? =
      some (.returned s.clock (.told (.ok ()))) := by
  rw [after, stopActor, beginHalt, here]
  simp only [awaited, if_true]
  exact List.getElem?_concat_length

theorem stopActor_of_alive (here : s.actors[a]? = some x) (free : x.awaited = false)
    (alive : x.hasEnded = false) :
    (s.after (.stopActor a)).calls[s.calls.length]? = some (.running (.halt a)) := by
  have outcome : (s.updateActor a fun actor =>
      { actor with told := true, awaited := true }).stopOutcome a = none := by
    refine stopOutcome_eq_none (x := { x with told := true, awaited := true }) ?_ alive
    rw [updateActor, List.getElem?_modify_eq, here]
    rfl
  rw [after, stopActor, beginHalt, here]
  simp only [free, Bool.false_eq_true, if_false, outcome]
  exact List.getElem?_concat_length

/-- A stop of an actor returns only when the actor has ended, whatever else happens, exactly if
nobody awaits that end already or it has come about. -/
theorem stop_awaits_end_iff (here : s.actors[a]? = some x) :
    (∀ acts, ((s.after (.stopActor a)).run acts).hasReturned s.calls.length = true →
      ((s.after (.stopActor a)).run acts).Over a) ↔ x.awaited = false ∨ x.hasEnded = true := by
  constructor
  · intro waits
    cases awaited : x.awaited with
    | false => exact .inl rfl
    | true =>
      have returned : (s.after (.stopActor a)).hasReturned s.calls.length = true := by
        rw [hasReturned, stopActor_of_awaited here awaited]
      obtain ⟨y, there, ended⟩ := waits [] returned
      rw [run_nil, actors_stopActor here] at there
      cases there
      exact .inr ended
  · intro first acts returned
    have halting : (s.after (.stopActor a)).Over a ∨
        (s.after (.stopActor a)).calls[s.calls.length]? = some (.running (.halt a)) := by
      cases ended : x.hasEnded with
      | true => exact .inl ⟨_, actors_stopActor here, ended⟩
      | false =>
        have free : x.awaited = false := first.resolve_right (by simp [ended])
        exact .inr (stopActor_of_alive here free ended)
    obtain gone | waiting := over_or_halting halting acts
    · exact gone
    · rw [hasReturned, waiting] at returned
      cases returned

section Overlap

def lingeringActor : State :=
  (fresh {} (.paced [] 0)).run
    [.startActor "x" {} { span := some (.ofMillis 100) } "x", .move (.actor 0), .move (.call 0)]

theorem lingering_stop_waits :
    lingeringActor.calls.length = 1 ∧
      ∀ acts, ((lingeringActor.after (.stopActor 0)).run acts).hasReturned 1 = true →
        ((lingeringActor.after (.stopActor 0)).run acts).Over 0 :=
  ⟨rfl, (stop_awaits_end_iff (s := lingeringActor) rfl).mpr (.inl rfl)⟩

/-- A second stop returns while the stop hook that the first waits for is under way. -/
theorem second_stop_returns_early :
    let s := (lingeringActor.run [.stopActor 0, .move (.actor 0)]).after (.stopActor 0)
    s.calls[2]? = some (.returned 0 (.told (.ok ()))) ∧ s.hasReturned 1 = false ∧ ¬ s.Over 0 := by
  refine ⟨rfl, rfl, ?_⟩
  rintro ⟨x, here, ended⟩
  cases here
  cases ended

end Overlap

end ComponentHost.State
