import ComponentHost.Proofs.Host.Actor.Conduct
import ComponentHost.Proofs.Host.Actor.RequestDispatch

/-! What a component does first. Whether an order brings its component up is settled by the engine
and the order alone: the bytes are loaded, and the start hook of the new actor runs its course. -/

namespace ComponentHost

def Component.debut (c : Component) : Work :=
  match c.guestCall .preStart with
  | none => c.workOf .preStart 0 none
  | some (function, args) => c.workAfter .preStart (c.limitedRun 0 function args)

theorem Component.debut_span (c : Component) : ∃ span, c.debut.course.span = some span := by
  rw [Component.debut]
  split
  · exact ⟨_, rfl⟩
  · rw [Component.workAfter]
    split <;> exact ⟨_, rfl⟩

theorem Component.debut_effect (c : Component) : c.debut.effect = .nothing := by
  rw [Component.debut]
  split
  · rfl
  · rw [Component.workAfter]
    split <;> rfl

namespace Order

variable {engine : Engine} {o : Order} {program : Program}

def load (engine : Engine) (o : Order) : Except EngineFault Program := do
  let bytes ← o.source.load
  engine.load o.id bytes

def component (o : Order) (program : Program) (load : Nat) : Component :=
  ⟨o.id, program, load, o.metadata, o.capabilities⟩

def opening (o : Order) (program : Program) : Ending := (o.component program 0).debut.course.ending

def trial (engine : Engine) (o : Order) : Except SpawnCause Program :=
  match o.load engine with
  | .error fault => .error (.loadFailed fault)
  | .ok program =>
    match startResult o.id.name (o.opening program) with
    | .error e => .error (.actorFailed e.message)
    | .ok () => .ok program

/-- The bytes are made into a program, and its `init`, if it has one, succeeds within the limits. -/
structure Starts (engine : Engine) (o : Order) (program : Program) : Prop where
  loads : o.load engine = .ok program
  inits : program.exports.contains Component.initExport = true → ∃ outcome,
    ((o.component program 0).limitedRun 0 Component.initExport []).verdict = .settled (.ok outcome)

theorem opening_eq_finished : o.opening program = .finished ↔
    (program.exports.contains Component.initExport = true → ∃ outcome,
      ((o.component program 0).limitedRun 0 Component.initExport []).verdict =
        .settled (.ok outcome)) := by
  rw [opening, Component.debut, Component.guestCall, Component.guestCall.optional, component]
  by_cases exported : program.exports.contains Component.initExport = true
  · rw [if_pos exported]
    simp only [exported, forall_const, Component.workAfter]
    cases verdict : (Component.limitedRun ⟨o.id, program, 0, o.metadata, o.capabilities⟩ 0
        Component.initExport []).verdict with
    | panicked text => simp
    | settled outcome => cases outcome <;> simp [Component.workOf, Component.ending]
  · rw [if_neg exported]
    simp [exported, Component.workOf, Component.ending]

theorem startResult_eq_ok {name : String} {ending : Ending} :
    startResult name ending = .ok () ↔ ending = .finished := by
  cases ending <;> simp [startResult]

theorem trial_eq_ok : o.trial engine = .ok program ↔ o.Starts engine program := by
  have starts : o.Starts engine program ↔
      o.load engine = .ok program ∧ o.opening program = .finished :=
    ⟨fun starts => ⟨starts.loads, opening_eq_finished.mpr starts.inits⟩,
      fun ⟨loads, finished⟩ => ⟨loads, opening_eq_finished.mp finished⟩⟩
  rw [starts, trial]
  cases o.load engine with
  | error fault => simp
  | ok p =>
    dsimp only
    rw [Except.ok.injEq]
    cases opens : startResult o.id.name (o.opening p) with
    | error e =>
      refine ⟨nofun, ?_⟩
      rintro ⟨rfl, finished⟩
      rw [startResult_eq_ok.mpr finished] at opens
      cases opens
    | ok =>
      simp only [Except.ok.injEq]
      refine ⟨?_, And.left⟩
      rintro rfl
      exact ⟨rfl, startResult_eq_ok.mp opens⟩

end Order

namespace State

variable {s : State} {a : Nat} {x : Actor}

theorem workFor_debut {c : Component} (unused : ∀ r ∈ s.history, r.load ≠ c.load) :
    (s.workFor (.component c) .preStart).1 = c.debut := by
  have uncalled : ∀ function, s.earlierCalls c.load function = 0 := fun function =>
    List.countP_eq_zero.mpr fun r mem => by simp [unused r mem]
  rw [workFor, Component.debut]
  cases c.guestCall .preStart with
  | none => rfl
  | some call =>
    obtain ⟨function, args⟩ := call
    dsimp only [runGuest]
    rw [uncalled]
    rfl

theorem history_workFor (s : State) (c : Component) (hook : Hook) :
    ∀ r ∈ (s.workFor (.component c) hook).2.history, r ∈ s.history ∨ r.load = c.load := by
  intro r mem
  rw [workFor] at mem
  cases calls : c.guestCall hook with
  | none =>
    rw [calls] at mem
    exact .inl mem
  | some call =>
    rw [calls] at mem
    obtain mem | mem := List.mem_append.mp mem
    · exact .inl mem
    · exact .inr (by rw [List.mem_singleton.mp mem])

theorem createActor_debut (s : State) (name : String) {c : Component}
    (unused : ∀ r ∈ s.history, r.load ≠ c.load) :
    ∃ history, (∀ r ∈ history, r ∈ s.history ∨ r.load = c.load) ∧
      s.createActor name (.component c) = (s.actors.length, { s with
        post := (s.post.install s.mailboxCapacity).2
        actors := s.actors ++ [{
          name
          box := s.post.boxes.length
          role := .component c
          phase := .busy .preStart c.debut (c.debut.course.span.map (s.clock + ·)) }]
        history
        log := s.log ++ [⟨s.clock, s.actors.length, .began .preStart⟩] }) := by
  let idle : Actor := { name, box := s.post.boxes.length, role := .component c, phase := .idle }
  let u : State := { s with
    post := (s.post.install s.mailboxCapacity).2
    actors := s.actors ++ [idle] }
  have here : u.actors[s.actors.length]? = some idle := List.getElem?_concat_length
  have begun : s.createActor name (.component c) =
    (s.actors.length, u.begin s.actors.length .preStart) := rfl
  have work := workFor_debut (s := u) unused
  refine ⟨_, u.history_workFor c .preStart, ?_⟩
  rw [begun, begin, here]
  dsimp only [idle]
  rw [work, workFor_snd]
  simp [u, idle, updateActor, note, modify_of_getElem? List.getElem?_concat_length]

theorem bury_of_empty (here : s.actors[a]? = some x) {b : Mailbox Mail}
    (box : s.post.boxes[x.box]? = some b) (empty : b.queue = []) (ending : Ending) :
    s.bury a ending = { s with
      post.boxes := s.post.boxes.set x.box b.discard
      actors := s.actors.set a { x with phase := .ended ending } } := by
  have queued : s.post.queued x.box = [] := by
    rw [PostOffice.queued, box]
    exact empty
  rw [bury, here]
  dsimp only
  rw [queued, List.foldl_nil, updateActor, modify_of_getElem? here, PostOffice.discard,
    modify_of_getElem? box]

theorem endHook_debut (here : s.actors[a]? = some x) {b : Mailbox Mail}
    (box : s.post.boxes[x.box]? = some b) (empty : b.queue = []) {work : Work}
    (silent : work.effect = .nothing) :
    let y := x.leave .preStart work.course.ending
    s.endHook a x .preStart work = { s with
      log := s.log ++ [⟨s.clock, a, .ended .preStart work.course.ending⟩]
      actors := s.actors.set a y
      post.boxes := s.post.boxes.set x.box (if y.hasEnded then b.discard else b) } := by
  have known := (List.getElem?_eq_some_iff.mp here).1
  obtain ⟨⟨span, ending⟩, effect⟩ := work
  cases silent
  cases ending with
  | finished =>
    have same : s.post.boxes.set x.box b = s.post.boxes := by
      obtain ⟨inside, rfl⟩ := List.getElem?_eq_some_iff.mp box
      exact List.set_getElem_self inside
    simp [endHook, perform, note, updateActor, Actor.leave, Actor.hasEnded, same,
      modify_of_getElem? here]
  | panicked text =>
    exact bury_of_empty (s := s.note a (.ended .preStart (.panicked text))) here box empty _
  | failed reason =>
    let failing : Actor := { x with startup := some (.error reason) }
    let u : State := (s.note a (.ended .preStart (.failed reason))).updateActor a fun actor =>
      { actor with startup := some (.error reason) }
    have actors : u.actors = s.actors.set a failing := modify_of_getElem? here _
    have there : u.actors[a]? = some failing := by rw [actors, List.getElem?_set_self known]
    refine (bury_of_empty there box empty .finished).trans ?_
    rw [actors, List.set_set]
    rfl

end State

end ComponentHost
