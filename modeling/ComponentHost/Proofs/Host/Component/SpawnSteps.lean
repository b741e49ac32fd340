import ComponentHost.Proofs.Host.Actor.Mailboxes
import ComponentHost.Proofs.Host.Act.Listing
import ComponentHost.Proofs.Host.Act.Calls

/-! What the next step of a spawn does, and whom it brings up. The actor that a spawn waits for, or
that stands on the roster, is one of the component whose id was ordered. -/

namespace ComponentHost.State

variable {s t u : State} {v : Act} {n a : Nat} {id : ComponentId} {sp sp' : Spawn}

def componentOf (s : State) (o : Order) (program : Program) : Component :=
  ⟨o.id, program, s.loads, o.metadata, o.capabilities⟩

/-- The next step of a spawn: it gives up on the bytes or brings an actor up; it gives up on the
actor, puts it on the roster, or finds its id taken and tells the actor to stop; it has seen the
end of that actor. -/
inductive SpawnTurns (s : State) (sp : Spawn) : State → Spawn ⊕ Except HostError Nat → Prop
  | unloaded {fault : EngineFault} (stage : sp.stage = .loading)
    (failed : s.loadProgram sp.order = .error fault) :
    SpawnTurns s sp s (.inr (.error (spawnError sp.order (.loadFailed fault))))
  | created {program : Program} (stage : sp.stage = .loading)
    (loaded : s.loadProgram sp.order = .ok program) :
    SpawnTurns s sp ({ s with loads := s.loads + 1 }.createActor sp.order.id.name
        (.component (s.componentOf sp.order program))).2
      (.inl { sp with stage := .starting s.actors.length })
  | unstarted {a : Nat} {e : ActorError} (stage : sp.stage = .starting a)
    (failed : s.startOutcome a = some (.error e)) :
    SpawnTurns s sp s (.inr (.error (spawnError sp.order (.actorFailed e.message))))
  | seated {a : Nat} {t : State} (stage : sp.stage = .starting a)
    (ready : s.startOutcome a = some (.ok ())) (free : s.roster.get? sp.order.id = none)
    (outline : t.outline = { s.outline with
      roster := s.roster.insert sp.order.id a
      routes := s.post.routes.insert sp.order.id (s.boxOf a)
      enrolling := s.enrolling ++ [sp.order.id] })
    (calls : t.calls = s.calls) : SpawnTurns s sp t (.inr (.ok a))
  | late {a : Nat} (stage : sp.stage = .starting a) (ready : s.startOutcome a = some (.ok ()))
    (taken : s.roster.contains sp.order.id = true) :
    SpawnTurns s sp (s.beginHalt a).1 (.inl { sp with stage := .discarding a })
  | discarded {a : Nat} {r : Except ActorError Unit} (stage : sp.stage = .discarding a)
    (stopped : s.stopOutcome a = some r) :
    SpawnTurns s sp s (.inr (.error (spawnError sp.order .alreadyExists)))

section Step

theorem seat_of_free (free : s.roster.get? sp.order.id = none) (a : Nat) :
    ∃ t, s.seat sp a = (t, .inr (.ok a)) ∧ t.outline = { s.outline with
      roster := s.roster.insert sp.order.id a
      routes := s.post.routes.insert sp.order.id (s.boxOf a)
      enrolling := s.enrolling ++ [sp.order.id] } ∧ t.calls = s.calls := by
  have vacant : s.roster.contains sp.order.id = false := by simp [Table.contains, free]
  unfold seat Roster.register
  rw [vacant]
  refine ⟨_, rfl, ?_, ?_⟩ <;> cases sp.keep <;> rfl

theorem seat_of_taken (taken : s.roster.contains sp.order.id = true) (a : Nat) :
    s.seat sp a = ((s.beginHalt a).1, .inl { sp with stage := .discarding a }) := by
  rw [seat, Roster.register, if_pos taken]

theorem stepSpawn_turns {r : Spawn ⊕ Except HostError Nat} (stepped : s.stepSpawn sp = .next t r) :
    s.SpawnTurns sp t r := by
  unfold stepSpawn at stepped
  cases stage : sp.stage with
  | loading =>
    rw [stage] at stepped
    dsimp only at stepped
    split at stepped
    · case _ failed =>
      cases stepped
      exact .unloaded stage failed
    · case _ loaded =>
      split at stepped
      · cases stepped
      · cases stepped
        exact .created stage loaded
  | starting a =>
    rw [stage] at stepped
    dsimp only at stepped
    split at stepped
    · cases stepped
    · case _ failed =>
      cases stepped
      exact .unstarted stage failed
    · case _ ready =>
      by_cases taken : s.roster.contains sp.order.id = true
      · rw [seat_of_taken taken] at stepped
        cases stepped
        exact .late stage ready taken
      · have free : s.roster.get? sp.order.id = none := by simpa [Table.contains] using taken
        obtain ⟨u, same, outline, calls⟩ := seat_of_free free a
        rw [same] at stepped
        cases stepped
        exact .seated stage ready free outline calls
  | discarding a =>
    rw [stage] at stepped
    dsimp only at stepped
    split at stepped
    · cases stepped
    · case _ stopped =>
      cases stepped
      exact .discarded stage stopped

theorem SpawnTurns.underWay {r : Spawn ⊕ Except HostError Nat} (turns : s.SpawnTurns sp u r) :
    u.underWay = s.underWay := by
  cases turns with
  | unloaded | unstarted | discarded => rfl
  | created => exact congrArg Outline.underWay (outline_createActor _ _ _)
  | seated _ _ _ outline => exact congrArg Outline.underWay outline
  | @late a => exact congrArg Outline.underWay (outline_beginHalt s a)

theorem SpawnTurns.calls {r : Spawn ⊕ Except HostError Nat} (turns : s.SpawnTurns sp u r) :
    u.calls = s.calls := by
  cases turns with
  | unloaded | unstarted | discarded => rfl
  | created => exact calls_createActor _ _ _
  | seated _ _ _ _ calls => exact calls
  | @late a => exact s.calls_beginHalt a

theorem stepSpawning_turns {wrap : Spawn → Call} {answer : Except HostError Nat → Answer}
    (stepped : s.stepSpawning n wrap answer sp = some t) :
    (∃ text, sp.stage = .loading ∧ t = s.finish n (.panicked text)) ∨
      (∃ u sp', s.SpawnTurns sp u (.inl sp') ∧ t = u.proceed n (wrap sp')) ∨
      ∃ u r, s.SpawnTurns sp u (.inr r) ∧ t = u.finish n (answer r) := by
  unfold stepSpawning at stepped
  split at stepped
  case h_1 => cases stepped
  case h_2 text step =>
    cases stepped
    refine .inl ⟨text, ?_, rfl⟩
    unfold stepSpawn at step
    cases stage : sp.stage with
    | loading => rfl
    | starting a =>
      rw [stage] at step
      dsimp only at step
      split at step <;> cases step
    | discarding a =>
      rw [stage] at step
      dsimp only at step
      split at step <;> cases step
  case h_3 u sp' step =>
    cases stepped
    exact .inr (.inl ⟨u, sp', stepSpawn_turns step, rfl⟩)
  case h_4 u r step =>
    cases stepped
    exact .inr (.inr ⟨u, r, stepSpawn_turns step, rfl⟩)

theorem stepSpawning_goesOn {wrap : Spawn → Call} {answer : Except HostError Nat → Answer}
    {c c' : Call} (here : s.underWay n = some c)
    (stepped : s.stepSpawning n wrap answer sp = some t) (there : t.underWay n = some c') :
    ∃ u sp', s.SpawnTurns sp u (.inl sp') ∧ t = u.proceed n (wrap sp') ∧ c' = wrap sp' := by
  obtain ⟨_, _, rfl⟩ | ⟨u, sp', turns, rfl⟩ | ⟨u, r, turns, rfl⟩ := stepSpawning_turns stepped
  · rw [underWay_finish_self here] at there
    cases there
  · have here' : u.underWay n = some c := by rw [turns.underWay, here]
    exact ⟨u, sp', turns, rfl, underWay_proceed_self here' there⟩
  · have here' : u.underWay n = some c := by rw [turns.underWay, here]
    rw [underWay_finish_self here'] at there
    cases there

end Step

def Embodies (s : State) (a : Nat) (id : ComponentId) : Prop :=
  ∃ x c, s.actors[a]? = some x ∧ x.role = .component c ∧ c.id = id ∧ x.name = id.name

theorem Embodies.after (embodies : s.Embodies a id) (v : Act) : (s.after v).Embodies a id := by
  obtain ⟨x, c, here, role, own, name⟩ := embodies
  obtain ⟨y, there, becomes⟩ := actor_after here v
  exact ⟨y, c, there, becomes.role.trans role, own, becomes.name.trans name⟩

theorem createActor_embodies (s : State) (c : Component) :
    (s.createActor c.id.name (.component c)).2.Embodies s.actors.length c.id := by
  obtain ⟨_, _, _, created⟩ := s.scene_createActor c.id.name (.component c)
  have actors : (s.createActor c.id.name (.component c)).2.actors = s.actors ++ [_] :=
    congrArg Scene.actors created
  rw [Embodies, actors, List.getElem?_concat_length]
  exact ⟨_, c, rfl, rfl, rfl, rfl⟩

structure SpawnBrings (s t : State) (sp sp' : Spawn) : Prop where
  order : sp'.order = sp.order
  stage : (sp'.stage = .starting s.actors.length ∧ t.Embodies s.actors.length sp.order.id) ∨
    ∃ a, sp.stage = .starting a ∧ sp'.stage = .discarding a

theorem SpawnTurns.brings (turns : s.SpawnTurns sp u (.inl sp')) (same : t.actors = u.actors) :
    s.SpawnBrings t sp sp' := by
  cases turns with
  | @created program =>
    refine ⟨rfl, .inl ⟨rfl, ?_⟩⟩
    have brought := createActor_embodies { s with loads := s.loads + 1 }
      (s.componentOf sp.order program)
    rwa [Embodies, same]
  | @late a stage => exact ⟨rfl, .inr ⟨a, stage, rfl⟩⟩

theorem spawning_step {c c' : Call} (here : s.underWay n = some c)
    (stepped : s.stepCall n = some t) (there : t.underWay n = some c')
    (spawning : c'.spawning? = some sp') :
    sp'.stage = .loading ∨ ∃ sp, c.spawning? = some sp ∧ s.SpawnBrings t sp sp' := by
  obtain ⟨running, _⟩ := underWay_eq_some.mp here
  have goes := goes_of_step here stepped there
  rw [stepCall, running] at stepped
  cases goes with
  | @spawn sp _ _ =>
    cases spawning
    obtain ⟨u, _, turns, rfl, same⟩ :=
      stepSpawning_goesOn here ((s.stepSpawnCall_eq n sp).symm.trans stepped) there
    cases same
    exact .inr ⟨sp, rfl, turns.brings rfl⟩
  | @restartSpawn sp _ _ =>
    cases spawning
    obtain ⟨u, _, turns, rfl, same⟩ :=
      stepSpawning_goesOn here ((s.stepRestartSpawn_eq n sp).symm.trans stepped) there
    cases same
    exact .inr ⟨sp, rfl, turns.brings rfl⟩
  | restart =>
    cases spawning
    exact .inl rfl
  | shutdown => cases spawning

theorem spawns_after (there : ((s.after v).underWay n).bind Call.spawning? = some sp') :
    (s.underWay n).bind Call.spawning? = some sp' ∨ sp'.stage = .loading ∨
      ∃ sp, (s.underWay n).bind Call.spawning? = some sp ∧ s.SpawnBrings (s.after v) sp sp' := by
  obtain ⟨c', there, spawning⟩ := Option.bind_eq_some_iff.mp there
  have old : s.underWay n = some c' → (s.underWay n).bind Call.spawning? = some sp' := by
    intro here
    rw [here]
    exact spawning
  cases s.after_turn v with
  | idle _ underWay => exact .inl (old (underWay ▸ there))
  | begins begins =>
    obtain here | asks | ⟨_, c, here, _⟩ := underWay_after begins.opened there
    · exact .inl (old here)
    · cases asks <;> cases spawning <;> exact .inr (.inl rfl)
    · obtain same | none := begins.underWay n
      · exact .inl (old (same.symm.trans there))
      · rw [here] at none
        cases none
  | advances m c _ here stepped advances =>
    by_cases own : n = m
    · subst own
      refine .inr ((spawning_step here stepped there spawning).imp_right ?_)
      rintro ⟨sp, spawns, brings⟩
      exact ⟨sp, by rw [here]; exact spawns, brings⟩
    · exact .inl (old ((advances.others n own).symm.trans there))

/-- The actors that are brought up and that stand on the roster are those that were ordered. -/
structure Identified (s : State) : Prop where
  coming (n : Nat) (sp : Spawn) (a : Nat) : (s.underWay n).bind Call.spawning? = some sp →
    sp.stage = .starting a ∨ sp.stage = .discarding a → s.Embodies a sp.order.id
  seated (id : ComponentId) (a : Nat) : s.roster.get? id = some a → s.Embodies a id

namespace Identified

theorem after (identified : s.Identified) (v : Act) : (s.after v).Identified where
  coming n sp' a there stage := by
    obtain here | loading | ⟨sp, here, brings⟩ := spawns_after there
    · exact (identified.coming n sp' a here stage).after v
    · rw [loading] at stage
      obtain stage | stage := stage <;> cases stage
    · rw [brings.order]
      obtain ⟨starting, embodies⟩ | ⟨b, before, discarding⟩ := brings.stage
      · rw [starting] at stage
        obtain stage | stage := stage <;> cases stage
        exact embodies
      · rw [discarding] at stage
        obtain stage | stage := stage <;> cases stage
        exact (identified.coming n sp a here (.inl before)).after v
  seated id a on := by
    obtain same | ⟨_, gone⟩ | ⟨n, b, _, ⟨sp, spawning, rfl, stage, _⟩, seated⟩ :=
      s.roster_after v id
    · exact (identified.seated id a (same ▸ on)).after v
    · rw [gone] at on
      cases on
    · rw [seated] at on
      cases on
      exact (identified.coming n sp a spawning (.inl stage)).after v

theorem fresh (config : HostConfig) (engine : Engine) : (fresh config engine).Identified where
  coming n sp a here := by
    have none : (State.fresh config engine).underWay n = none := rfl
    rw [none] at here
    cases here
  seated _ _ on := nomatch on

theorem run (identified : s.Identified) (acts : List Act) : (s.run acts).Identified :=
  run_induction (P := State.Identified) identified fun _ v _ identified => identified.after v

end Identified

def Reaches (s : State) (id : ComponentId) : Prop :=
  ∀ box, s.post.routes.get? id = some box → ∃ a, s.Embodies a id ∧ s.boxOf a = box

theorem Embodies.known (embodies : s.Embodies a id) : a < s.actors.length := by
  obtain ⟨x, _, here, _⟩ := embodies
  exact (List.getElem?_eq_some_iff.mp here).1

theorem Reaches.after (reaches : s.Reaches id) (identified : s.Identified)
    (aside : ∀ box, v ≠ .route id box) : (s.after v).Reaches id := by
  have old : ∀ box, s.post.routes.get? id = some box →
      ∃ a, (s.after v).Embodies a id ∧ (s.after v).boxOf a = box := by
    intro box route
    obtain ⟨a, embodies, leads⟩ := reaches box route
    exact ⟨a, embodies.after v, (boxOf_after embodies.known v).trans leads⟩
  intro box route
  cases s.after_relists v id with
  | rests same | enrolls _ _ same =>
    exact old box ((congrArg Listing.box same).symm.trans route)
  | reroutes _ box' led same =>
    rw [show (s.after v).post.routes.get? id = box' from congrArg Listing.box same] at route
    obtain none | still | ⟨b, asked⟩ := led
    · rw [none] at route
      cases route
    · exact old box (still.symm.trans route)
    · exact absurd asked (aside b)
  | unroutes _ _ same =>
    cases (show (s.after v).post.routes.get? id = none from congrArg Listing.box same).symm.trans
      route
  | leaves _ box' kept same =>
    rw [show (s.after v).post.routes.get? id = box' from congrArg Listing.box same] at route
    obtain none | ⟨still, _⟩ := kept
    · rw [none] at route
      cases route
    · exact old box (still.symm.trans route)
  | @seats n a _ seats same =>
    obtain ⟨sp, spawning, rfl, stage, _⟩ := seats
    have embodies := identified.coming n sp a spawning (.inl stage)
    refine ⟨a, embodies.after v, (boxOf_after embodies.known v).trans ?_⟩
    have leads : (s.after v).post.routes.get? sp.order.id = some (s.boxOf a) :=
      congrArg Listing.box same
    exact Option.some.inj (leads.symm.trans route)

theorem reaches_run (config : HostConfig) (engine : Engine) {acts : List Act}
    (aside : ∀ v ∈ acts, ∀ box, v ≠ .route id box) : ((fresh config engine).run acts).Reaches id :=
  (run_induction (P := fun t => t.Identified ∧ t.Reaches id)
    ⟨.fresh config engine, fun _ route => nomatch route⟩
    fun _ v mem ⟨identified, reaches⟩ =>
      ⟨identified.after v, reaches.after identified (aside v mem)⟩).2

end ComponentHost.State
