import ComponentHost.Proofs.Host.Act.Actors

/-! The actors there are. Each has a mailbox of its own, a newcomer comes last and with its start
hook under way, and the log is about nobody else. -/

namespace ComponentHost.State

variable {s t : State} {v : Act} {a i : Nat} {x y : Actor}

structure Newcomer (s t : State) (a : Nat) (y : Actor) : Prop where
  last : a = s.actors.length
  box : y.box = s.post.boxes.length
  starting : ∃ work due, y.phase = .busy .preStart work due ∧
    y.role.Finds s.clock .preStart work due
  startup : y.startup = none
  fresh : y.told = false ∧ y.awaited = false
  log : t.log = s.log ++ [⟨s.clock, a, .began .preStart⟩]
  boxes : t.post.boxes = s.post.boxes ++ [{ capacity := s.mailboxCapacity }]

theorem Plays.actor_cases (plays : s.Plays v t) (there : t.actors[a]? = some y) :
    (∃ x, s.actors[a]? = some x) ∨ s.Newcomer t a y := by
  have known := (List.getElem?_eq_some_iff.mp there).1
  have before : t.actors.length = s.actors.length → ∃ x, s.actors[a]? = some x := fun same =>
    ⟨_, List.getElem?_eq_getElem (same ▸ known)⟩
  cases plays with
  | tells _ tells => exact .inl (before tells.length)
  | posts _ scene | installs _ scene | stirs _ _ _ scene =>
    have actors : t.actors = s.actors := congrArg Scene.actors scene
    exact .inl (before (by rw [actors]))
  | works _ _ works =>
    obtain ⟨_, _, actors, _⟩ := works.moves
    exact .inl (before (by rw [actors, List.length_set]))
  | comes _ scene finds =>
    have actors : t.actors = s.actors ++ [_] := congrArg Scene.actors scene
    rw [actors] at there known
    rw [List.length_append, List.length_singleton] at known
    by_cases old : a < s.actors.length
    · exact .inl ⟨_, List.getElem?_eq_getElem old⟩
    · have last : a = s.actors.length := by omega
      rw [last, List.getElem?_concat_length] at there
      cases there
      refine .inr ⟨last, rfl, ⟨_, _, rfl, finds⟩, rfl, ⟨rfl, rfl⟩, ?_,
        congrArg Scene.boxes scene⟩
      rw [last]
      exact congrArg Scene.log scene

theorem Plays.actors_length (plays : s.Plays v t) : s.actors.length ≤ t.actors.length := by
  refine Nat.le_of_not_lt fun less => ?_
  obtain ⟨y, there, _⟩ := plays.becomes (List.getElem?_eq_getElem less)
  exact absurd (List.getElem?_eq_some_iff.mp there).1 (Nat.lt_irrefl _)

theorem boxOf_eq {x : Actor} (here : s.actors[a]? = some x) : s.boxOf a = x.box := by
  rw [boxOf, here]
  rfl

theorem boxOf_after (known : a < s.actors.length) (v : Act) : (s.after v).boxOf a = s.boxOf a := by
  have here := List.getElem?_eq_getElem known
  obtain ⟨y, there, becomes⟩ := actor_after here v
  rw [boxOf_eq there, boxOf_eq here, becomes.box]

theorem Plays.log_cases (plays : s.Plays v t) :
    t.log = s.log ∨ ∃ e, t.log = s.log ++ [e] ∧ e.actor < t.actors.length := by
  cases plays with
  | tells _ tells => exact .inl tells.log
  | posts _ scene | installs _ scene | stirs _ _ _ scene =>
    exact .inl (congrArg Scene.log scene)
  | works _ here works =>
    have known := (List.getElem?_eq_some_iff.mp here).1
    obtain ⟨_, _, actors, log, _⟩ := works.moves
    exact .inr ⟨_, log, by rwa [actors, List.length_set]⟩
  | comes _ scene =>
    have actors : t.actors = s.actors ++ [_] := congrArg Scene.actors scene
    exact .inr ⟨_, congrArg Scene.log scene, by rw [actors, List.length_append]; simp⟩

/-- Actors have mailboxes of their own, and the log is about actors there are. -/
structure Tidy (s : State) : Prop where
  housed (a : Nat) (x : Actor) : s.actors[a]? = some x → x.box < s.post.boxes.length
  apart (a b : Nat) (x y : Actor) :
    s.actors[a]? = some x → s.actors[b]? = some y → x.box = y.box → a = b
  logged : ∀ e ∈ s.log, e.actor < s.actors.length

theorem Tidy.box (tidy : s.Tidy) (here : s.actors[a]? = some x) :
    ∃ b, s.post.boxes[x.box]? = some b :=
  ⟨_, List.getElem?_eq_getElem (tidy.housed a x here)⟩

theorem Plays.kept (plays : s.Plays v t) (here : s.actors[a]? = some x)
    (there : t.actors[a]? = some y) : x.Becomes y := by
  obtain ⟨z, last, becomes⟩ := plays.becomes here
  rw [there] at last
  exact Option.some.inj last ▸ becomes

theorem Tidy.plays (tidy : s.Tidy) (plays : s.Plays v t) : t.Tidy := by
  refine ⟨fun a y there => ?_, fun a b y z there there' box => ?_, fun e mem => ?_⟩
  · obtain ⟨x, here⟩ | new := plays.actor_cases there
    · rw [(plays.kept here there).box]
      exact Nat.lt_of_lt_of_le (tidy.housed a x here) plays.boxes_le
    · rw [new.box, new.boxes, List.length_append]
      exact Nat.lt_succ_self _
  · -- A newcomer's mailbox is none of those that the others have.
    obtain ⟨x, here⟩ | new := plays.actor_cases there <;>
      obtain ⟨x', here'⟩ | new' := plays.actor_cases there'
    · rw [(plays.kept here there).box, (plays.kept here' there').box] at box
      exact tidy.apart a b x x' here here' box
    · have old := tidy.housed a x here
      rw [(plays.kept here there).box, new'.box] at box
      omega
    · have old := tidy.housed b x' here'
      rw [(plays.kept here' there').box, new.box] at box
      omega
    · rw [new.last, new'.last]
  · obtain same | ⟨e', more, known⟩ := plays.log_cases
    · rw [same] at mem
      exact Nat.lt_of_lt_of_le (tidy.logged e mem) plays.actors_length
    · rw [more, List.mem_append, List.mem_singleton] at mem
      obtain old | rfl := mem
      · exact Nat.lt_of_lt_of_le (tidy.logged e old) plays.actors_length
      · exact known

theorem Tidy.after (tidy : s.Tidy) (v : Act) : (s.after v).Tidy := tidy.plays (s.after_plays v)

theorem Tidy.run (tidy : s.Tidy) (acts : List Act) : (s.run acts).Tidy :=
  run_induction (P := State.Tidy) tidy fun _ v _ tidy => tidy.after v

theorem Tidy.fresh (config : HostConfig) (engine : Engine) : (fresh config engine).Tidy where
  housed _ _ here := nomatch here
  apart _ _ _ _ here := nomatch here
  logged _ mem := nomatch mem

theorem Tidy.trace_of_length_le (tidy : s.Tidy) (unborn : s.actors.length ≤ a) :
    s.trace a = [] := by
  rw [trace, List.map_eq_nil_iff, List.filter_eq_nil_iff]
  intro e mem
  have known := tidy.logged e mem
  simp only [decide_eq_true_eq]
  omega

end ComponentHost.State
