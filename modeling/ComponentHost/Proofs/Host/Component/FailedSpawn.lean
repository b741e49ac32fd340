import ComponentHost.Proofs.Host.Component.OverlappingSpawns

/-! Spawns that fail. Whatever stage they come to and whatever else goes on meanwhile, no step of
theirs touches what the host knows of its components, and an actor that they have brought up has
ended when they return. -/

namespace ComponentHost

theorem Actor.startup_leave {x : Actor} {hook : Hook} {ending : Ending} {reason : String}
    (failed : (x.leave hook ending).startup = some (.error reason)) :
    (x.leave hook ending).hasEnded = true ∨ x.startup = some (.error reason) := by
  cases hook with
  | preStart =>
    cases ending with
    | finished => cases failed
    | failed => exact .inl rfl
    | panicked => exact .inl rfl
  | handle mail => cases ending <;> exact .inr failed
  | postStop => cases ending <;> exact .inl rfl

def SpawnStage.actor? : SpawnStage → Option Nat
  | .loading => none
  | .starting a | .discarding a => some a

namespace State

variable {s t u : State} {v : Act} {n a : Nat} {o : Order} {stage : SpawnStage} {acts : List Act}

section Start

/-- An actor whose start hook reported a failure has ended. -/
def Candid (s : State) : Prop :=
  ∀ (a : Nat) (x : Actor) (reason : String), s.actors[a]? = some x →
    x.startup = some (.error reason) → x.hasEnded = true

theorem Candid.after (candid : s.Candid) (v : Act) : (s.after v).Candid := by
  intro a y reason there failed
  obtain ⟨x, here⟩ | new := (s.after_plays v).actor_cases there
  · have before : x.startup = some (.error reason) → y.hasEnded = true := fun failed =>
      ((s.after_plays v).kept here there).hasEnded (candid a x reason here failed)
    obtain ⟨_, works⟩ | ⟨_, _, startup⟩ := (s.after_plays v).works_or_rests here there
    · cases works with
      | leaves _ _ scene | takes _ _ _ _ _ scene =>
        cases there.symm.trans (actor_of_set here (congrArg Scene.actors scene))
        exact before failed
      | ends _ _ scene =>
        cases there.symm.trans (actor_of_set here (congrArg Scene.actors scene))
        exact (Actor.startup_leave failed).elim id before
    · exact before (startup ▸ failed)
  · rw [new.startup] at failed
    cases failed

theorem Candid.run (candid : s.Candid) (acts : List Act) : (s.run acts).Candid :=
  run_induction (P := Candid) candid fun _ v _ candid => candid.after v

theorem Candid.fresh (config : HostConfig) (engine : Engine) : (fresh config engine).Candid :=
  fun _ _ _ here => nomatch here

theorem Candid.over_of_failed (candid : s.Candid) {e : ActorError}
    (failed : s.startOutcome a = some (.error e)) : s.Over a := by
  simp only [startOutcome, Option.bind_eq_bind, Option.bind_eq_some_iff] at failed
  obtain ⟨x, here, failed⟩ := failed
  refine ⟨x, here, ?_⟩
  split at failed
  · cases failed
  · exact candid a x _ here ‹_›
  · exact Actor.hasEnded_iff.mpr ⟨_, ‹_›⟩
  · exact Actor.hasEnded_iff.mpr ⟨_, ‹_›⟩
  · cases failed

theorem over_run (gone : s.Over a) (acts : List Act) : (s.run acts).Over a :=
  run_induction (P := (·.Over a)) gone fun _ v _ gone => over_after gone v

end Start

section Step

/-- From `s` to `t` nothing has changed in what the host knows of its components: who is on the
roster, who is reached how, which requests are pending and who is or will be a member of that. -/
structure Untouched (s t : State) : Prop where
  roster : t.roster = s.roster
  routes : t.post.routes = s.post.routes
  ledger : t.ledger = s.ledger
  enrolling : t.enrolling = s.enrolling

theorem Untouched.refl (s : State) : s.Untouched s := ⟨rfl, rfl, rfl, rfl⟩

theorem Untouched.of_outline (outline : t.outline = s.outline) : s.Untouched t where
  roster := congrArg Outline.roster outline
  routes := congrArg Outline.routes outline
  ledger := congrArg Outline.ledger outline
  enrolling := congrArg Outline.enrolling outline

variable {sp : Spawn} {r : Spawn ⊕ Except HostError Nat}

theorem SpawnTurns.untouched (turns : s.SpawnTurns sp u r) (failed : ∀ a, r ≠ .inr (.ok a)) :
    s.Untouched u := by
  cases turns with
  | unloaded | unstarted | discarded => exact .refl s
  | created => exact .of_outline (outline_createActor _ _ _)
  | late => exact .of_outline (outline_beginHalt s _)
  | @seated a => exact absurd rfl (failed a)

theorem SpawnTurns.newcomer (turns : s.SpawnTurns sp u r) (failed : ∀ a, r ≠ .inr (.ok a)) :
    u.actors.length = s.actors.length ∨ u.actors.length = s.actors.length + 1 ∧
      ∃ sp', r = .inl sp' ∧ sp'.stage = .starting s.actors.length := by
  cases turns with
  | unloaded | unstarted | discarded => exact .inl rfl
  | @seated a => exact absurd rfl (failed a)
  | late =>
    rw [beginHalt_fst]
    exact .inl (List.length_modify _ _ _)
  | @created program =>
    obtain ⟨_, _, _, created⟩ := scene_createActor { s with loads := s.loads + 1 }
      sp.order.id.name (.component (s.componentOf sp.order program))
    have actors := congrArg (·.actors.length) created
    refine .inr ⟨?_, _, rfl, rfl⟩
    simpa [scene] using actors

end Step

section Run

def Treads (s : State) (n : Nat) (acts : List Act) (t u : State) : Prop :=
  ∃ before later, acts = before ++ .move (.call n) :: later ∧ t = s.run before ∧
    u = t.after (.move (.call n))

theorem forall_treads_cons {P : State → State → Prop} :
    (∀ t u, s.Treads n (v :: acts) t u → P t u) ↔
      (v = .move (.call n) → P s (s.after v)) ∧ ∀ t u, (s.after v).Treads n acts t u → P t u := by
  constructor
  · intro all
    refine ⟨fun own => all _ _ ⟨[], acts, by rw [own]; rfl, rfl, by rw [own]⟩, ?_⟩
    rintro t u ⟨before, later, rfl, rfl, rfl⟩
    exact all _ _ ⟨v :: before, later, rfl, rfl, rfl⟩
  · rintro ⟨first, rest⟩ t u ⟨before, later, split, rfl, rfl⟩
    cases before with
    | nil =>
      cases split
      exact first rfl
    | cons w before =>
      cases split
      exact rest _ _ ⟨before, later, rfl, rfl, rfl⟩

theorem Treads.rests {time : Duration} {answer : Answer} (treads : s.Treads n acts t u)
    (returned : s.calls[n]? = some (.returned time answer)) : u = t := by
  obtain ⟨before, later, _, rfl, rfl⟩ := treads
  rw [after, step, stepCall, returned_run returned before]
  rfl

/-- Of a step from `t` to `u` nothing is left in a later state: it has touched nothing, and whoever
came up with it has ended. -/
structure Effaced (s t u : State) : Prop where
  untouched : t.Untouched u
  ended (a : Nat) : t.actors.length ≤ a → a < u.actors.length → s.Over a

theorem Effaced.refl (s t : State) : s.Effaced t t where
  untouched := .refl t
  ended a unborn known := by omega

theorem SpawnTurns.actor? {sp sp' : Spawn} (turns : s.SpawnTurns sp u (.inl sp'))
    (brought : sp.stage.actor? = some a) : sp'.stage.actor? = some a := by
  cases turns with
  | created stage =>
    rw [stage] at brought
    cases brought
  | late stage =>
    rw [stage] at brought
    exact brought

theorem SpawnTurns.over_of_error {sp : Spawn} {e : HostError}
    (turns : s.SpawnTurns sp u (.inr (.error e))) (candid : s.Candid)
    (brought : sp.stage.actor? = some a) : u.Over a := by
  cases turns with
  | unloaded stage =>
    rw [stage] at brought
    cases brought
  | unstarted stage failed =>
    rw [stage] at brought
    cases brought
    exact candid.over_of_failed failed
  | discarded stage stopped =>
    rw [stage] at brought
    cases brought
    exact over_of_stopOutcome stopped

theorem SpawnsAt.tread (spawns : s.SpawnsAt n o stage) (candid : s.Candid) :
    let t := s.after (.move (.call n))
    (∃ stage', t.SpawnsAt n o stage' ∧ (∀ a, stage.actor? = some a → stage'.actor? = some a) ∧
        s.Untouched t ∧
          ∀ a, s.actors.length ≤ a → a < t.actors.length → stage'.actor? = some a) ∨
      ∃ time answer, t.calls[n]? = some (.returned time answer) ∧
        ((∀ a, answer ≠ .spawned (.ok a)) → (∀ a, stage.actor? = some a → t.Over a) ∧
          s.Untouched t ∧ t.actors.length = s.actors.length) := by
  intro t
  obtain ⟨_, same⟩ | ⟨loading, text, same, here⟩ | ⟨keep, w, sp', turns, same, goesOn⟩ |
    ⟨keep, w, r, turns, same, time, here⟩ := spawns.move
  · rw [show t = s from same]
    exact .inl ⟨stage, spawns, fun _ => id, .refl s, fun a unborn known => by omega⟩
  · refine .inr ⟨_, _, here, fun _ => ⟨fun a brought => ?_, ?_⟩⟩
    · rw [loading] at brought
      cases brought
    · rw [show t = _ from same]
      exact ⟨⟨rfl, rfl, rfl, rfl⟩, rfl⟩
  · have untouched := turns.untouched nofun
    have moved : s.Untouched t ∧ t.actors = w.actors := by
      rw [show t = _ from same]
      exact ⟨⟨untouched.roster, untouched.routes, untouched.ledger, untouched.enrolling⟩, rfl⟩
    refine .inl ⟨_, goesOn, fun a => turns.actor?, moved.1, fun a unborn known => ?_⟩
    rw [moved.2] at known
    obtain alike | ⟨more, _, next, stage'⟩ := turns.newcomer nofun
    · omega
    · cases next
      rw [stage', show s.actors.length = a by omega]
      rfl
  · refine .inr ⟨_, _, here, fun failed => ?_⟩
    cases r with
    | ok a => exact absurd rfl (failed a)
    | error e =>
      have untouched := turns.untouched nofun
      have ended : w.actors.length = s.actors.length :=
        (turns.newcomer nofun).resolve_right fun ⟨_, _, next, _⟩ => by cases next
      rw [show t = _ from same]
      exact ⟨fun a => turns.over_of_error candid,
        ⟨untouched.roster, untouched.routes, untouched.ledger, untouched.enrolling⟩, ended⟩

/-- When a spawn has failed, its actor has ended, and of none of its steps anything is left. -/
theorem SpawnsAt.leaves_nothing {time : Duration} {answer : Answer} (spawns : s.SpawnsAt n o stage)
    (candid : s.Candid) (returned : (s.run acts).calls[n]? = some (.returned time answer))
    (failed : ∀ a, answer ≠ .spawned (.ok a)) :
    (∀ a, stage.actor? = some a → (s.run acts).Over a) ∧
      ∀ t u, s.Treads n acts t u → (s.run acts).Effaced t u := by
  induction acts generalizing s stage with
  | nil =>
    obtain ⟨_, here⟩ := spawns
    cases here.symm.trans returned
  | cons v acts ih =>
    rw [run_cons] at returned ⊢
    rw [forall_treads_cons]
    by_cases own : v = .move (.call n)
    · subst own
      obtain ⟨stage', goesOn, kept, untouched, brought⟩ | ⟨_, _, here, finished⟩ :=
        spawns.tread candid
      · obtain ⟨gone, rest⟩ := ih goesOn (candid.after _) returned
        exact ⟨fun a had => gone a (kept a had),
          fun _ => ⟨untouched, fun a unborn known => gone a (brought a unborn known)⟩, rest⟩
      · cases returned.symm.trans (returned_run here acts)
        obtain ⟨gone, untouched, same⟩ := finished failed
        refine ⟨fun a had => over_run (gone a had) acts,
          fun _ => ⟨untouched, fun a unborn known => by omega⟩, fun t u treads => ?_⟩
        rw [treads.rests here]
        exact .refl _ t
    · obtain ⟨gone, rest⟩ := ih (spawns.after own) (candid.after v) returned
      exact ⟨gone, fun own' => absurd own' own, rest⟩

end Run

/-- Whatever makes a spawn fail, at once or at any stage it may come to, and whatever else goes on
meanwhile: when it has returned, nothing is left of what it did, and it has touched neither the
roster nor the routes nor the exchanges nor their members with any of its steps. -/
theorem failed_spawn_leaves_nothing (config : HostConfig) (engine : Engine)
    (before later : List Act) (o : Order) (keep : Option String) {time : Duration}
    {answer : Answer} (failed : ∀ a, answer ≠ .spawned (.ok a)) :
    let s := (fresh config engine).run before
    let t := (fresh config engine).run (before ++ .spawn o keep :: later)
    t.calls[s.calls.length]? = some (.returned time answer) →
      t.Effaced s (s.after (.spawn o keep)) ∧
        ∀ u w, (s.after (.spawn o keep)).Treads s.calls.length later u w → t.Effaced u w := by
  intro s t returned
  have ran : t = (s.after (.spawn o keep)).run later := run_append _ _ _
  rw [ran] at returned ⊢
  refine ⟨?_, ?_⟩
  · have entered : s.Untouched (s.after (.spawn o keep)) ∧
        (s.after (.spawn o keep)).actors = s.actors := by
      rw [after, spawnComponent]
      split <;> exact ⟨⟨rfl, rfl, rfl, rfl⟩, rfl⟩
    refine ⟨entered.1, fun a unborn known => ?_⟩
    rw [entered.2] at known
    omega
  · obtain ⟨r, _, _, here⟩ | ⟨_, spawns⟩ := s.spawn_entered o keep
    · intro u w treads
      rw [treads.rests here]
      exact .refl _ u
    · have candid := ((Candid.fresh config engine).run before).after (.spawn o keep)
      exact (spawns.leaves_nothing candid returned failed).2

section Sample

/-- What happens after a second spawn of a component was asked for: both bring an actor up, the
first is in time, and the second tells its own to stop. -/
def lostRace : List Act :=
  [.move (.call 0), .move (.call 1), .move (.actor 0), .move (.actor 1), .move (.call 0),
    .move (.call 1), .move (.actor 1), .move (.actor 1), .move (.call 1)]

theorem lost_spawn_effaced :
    let t := (fresh {} (.paced ["cleanup"] 0)).run
      ([.spawn sampleOrder none] ++ .spawn sampleOrder none :: lostRace)
    t.calls[1]? = some (.returned 0 (.spawned (.error (spawnError sampleOrder .alreadyExists)))) ∧
      t.actors.length = 2 ∧ t.Over 1 := by
  have failed : ∀ a, Answer.spawned (.error (spawnError sampleOrder .alreadyExists)) ≠
      .spawned (.ok a) := nofun
  have left := failed_spawn_leaves_nothing {} (.paced ["cleanup"] 0) [.spawn sampleOrder none]
    lostRace sampleOrder none failed rfl
  have second := left.2 _ _ ⟨[.move (.call 0)], _, rfl, rfl, rfl⟩
  exact ⟨rfl, rfl, second.ended 1 (by decide) (by decide)⟩

end Sample

end State

end ComponentHost
