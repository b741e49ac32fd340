import ComponentHost.Proofs.Host.Act.Actors
import ComponentHost.Proofs.Host.Component.ShutdownRoster

/-! What an act means for lifecycle calls and for routes. A call that is entered is the one that was
asked for, it goes on as the kind of call it is, and the host gives no route away but with the end
of a spawn. -/

namespace ComponentHost

def Call.concerns (id : ComponentId) : Call → Prop
  | .spawn sp | .restartSpawn sp => id = sp.order.id
  | .stop st => id = st.id
  | .restartStop st o => id = st.id ∨ id = o.id
  | .shutdown st rest => id = st.id ∨ id ∈ rest
  | _ => False

theorem Call.concerns_of_stops {id : ComponentId} {c : Call} (stops : c.stops id) :
    c.concerns id := by
  cases c with
  | stop | shutdown => exact stops
  | restartStop => exact .inl stops
  | _ => exact stops.elim

theorem Call.isLifecycle_of_stops {id : ComponentId} {c : Call} (stops : c.stops id) :
    c.isLifecycle = true := by
  cases c with
  | stop | restartStop | shutdown => rfl
  | _ => exact stops.elim

namespace State

variable {s t u : State} {v : Act} {n : Nat} {id : ComponentId}

def Act.concerns (id : ComponentId) : Act → Prop
  | .spawn o _ | .restart o => id = o.id
  | .stop c => id = c
  | .shutdown => True
  | _ => False

theorem Act.not_concerns_of_move {m : Move} (move : v = .move m) (id : ComponentId) :
    ¬ v.concerns id := by
  rw [move]
  exact not_false

theorem Act.concerns_of_stops (stops : v.stops id) : v.concerns id := by
  cases v with
  | stop | restart => exact stops
  | shutdown => trivial
  | _ => exact stops.elim

/-- Whether an act changes the route of an id, past the host. -/
def Act.reroutes (id : ComponentId) : Act → Prop
  | .route c _ | .unroute c | .unrouteFrom c _ => id = c
  | _ => False

inductive Asks (s : State) : Act → Call → Prop
  | spawn (o : Order) (keep : Option String) : Asks s (.spawn o keep) (.spawn { order := o, keep })
  | stop (st : Stop) : Asks s (.stop st.id) (.stop st)
  | restartStop (st : Stop) (o : Order) (own : st.id = o.id) :
    Asks s (.restart o) (.restartStop st o)
  | restartSpawn (o : Order) : Asks s (.restart o) (.restartSpawn { order := o })
  | shutdown (st : Stop) (rest : List ComponentId) : Asks s .shutdown (.shutdown st rest)

theorem Asks.concerns {c : Call} (asks : s.Asks v c) : ∃ id, v.concerns id := by
  cases asks with
  | spawn o | restartSpawn o | restartStop _ o => exact ⟨o.id, rfl⟩
  | stop st => exact ⟨st.id, rfl⟩
  | shutdown st => exact ⟨st.id, trivial⟩

structure SpawnGoes (s t : State) (sp sp' : Spawn) : Prop where
  order : sp'.order = sp.order
  stage : (sp.stage = .loading ∧ sp'.stage = .starting s.actors.length ∧
      s.actors.length < t.actors.length) ∨
    ∃ a, sp.stage = .starting a ∧ sp'.stage = .discarding a

inductive Goes (s t : State) : Call → Call → Prop
  | spawn {sp sp' : Spawn} (goes : s.SpawnGoes t sp sp') : Goes s t (.spawn sp) (.spawn sp')
  | restartSpawn {sp sp' : Spawn} (goes : s.SpawnGoes t sp sp') :
    Goes s t (.restartSpawn sp) (.restartSpawn sp')
  | restart (st : Stop) (o : Order) : Goes s t (.restartStop st o) (.restartSpawn { order := o })
  | shutdown {st st' : Stop} {rest rest' : List ComponentId}
    (left : ∀ id, id = st'.id ∨ id ∈ rest' → id ∈ rest) :
    Goes s t (.shutdown st rest) (.shutdown st' rest')

theorem beginSpawn_eq {o : Order} {keep : Option String} {sp : Spawn}
    (begun : s.beginSpawn o keep = .inl sp) : sp = { order := o, keep } := by
  unfold beginSpawn at begun
  split at begun
  · cases begun
  · split at begun <;> cases begun
    rfl

theorem respawn_eq {o : Order} {r : Except HostError Unit} {c : Call}
    (next : s.respawn o r = .inl c) : c = .restartSpawn { order := o } := by
  unfold respawn at next
  split at next
  · cases next
  · split at next
    · case _ begun =>
      cases next
      rw [beginSpawn_eq begun]
    · cases next

section Goes

theorem underWay_finish_self {c : Call} (here : s.underWay n = some c) (a : Answer) :
    (s.finish n a).underWay n = none := by
  rw [finish, underWay_set (lt_of_underWay here), if_pos rfl]
  rfl

theorem underWay_proceed_self {c c' d : Call} (here : s.underWay n = some c)
    (there : (s.proceed n d).underWay n = some c') : c' = d := by
  have goes : (s.carryOn n (.inl d)).underWay n = some c' := there
  exact (Sum.inl.inj ((underWay_carryOn_self here).mp goes).1).symm

theorem underWay_enterOrAnswer_of_some {c : Call} (here : s.underWay n = some c)
    (next : Call ⊕ Answer) : (s.enterOrAnswer next).2.underWay n = some c := by
  cases next with
  | inl d =>
    have old : n ≠ s.calls.length := Nat.ne_of_lt (lt_of_underWay here)
    rw [enterOrAnswer, underWay_enter, if_neg old, here]
  | inr a => rw [enterOrAnswer, underWay_answerNow, here]

theorem length_createActor (s : State) (name : String) (role : Role) :
    (s.createActor name role).2.actors.length = s.actors.length + 1 := by
  obtain ⟨_, _, _, created⟩ := s.scene_createActor name role
  rw [show (s.createActor name role).2.actors = s.actors ++ [_] from congrArg Scene.actors created,
    List.length_append, List.length_singleton]

theorem stepSpawn_goes {sp sp' : Spawn} (stepped : s.stepSpawn sp = .next u (.inl sp')) :
    s.SpawnGoes u sp sp' := by
  unfold stepSpawn at stepped
  cases stage : sp.stage with
  | loading =>
    rw [stage] at stepped
    dsimp only at stepped
    split at stepped
    · cases stepped
    · split at stepped <;> cases stepped
      refine ⟨rfl, .inl ⟨stage, rfl, ?_⟩⟩
      rw [length_createActor]
      exact Nat.lt_succ_self _
  | starting a =>
    rw [stage] at stepped
    dsimp only at stepped
    split at stepped
    · cases stepped
    · cases stepped
    · unfold seat at stepped
      split at stepped <;> cases stepped
      exact ⟨rfl, .inr ⟨a, stage, rfl⟩⟩
  | discarding a =>
    rw [stage] at stepped
    dsimp only at stepped
    split at stepped <;> cases stepped

theorem stepSpawning_goes {c c' : Call} {wrap : Spawn → Call}
    {answer : Except HostError Nat → Answer} {sp : Spawn} (here : s.underWay n = some c)
    (stepped : s.stepSpawning n wrap answer sp = some t) (there : t.underWay n = some c') :
    ∃ sp', c' = wrap sp' ∧ s.SpawnGoes t sp sp' := by
  unfold stepSpawning at stepped
  split at stepped
  case h_1 => cases stepped
  case h_2 text _ =>
    cases stepped
    rw [underWay_finish_self here] at there
    cases there
  case h_3 u sp' step =>
    cases stepped
    have here' : u.underWay n = some c := by rw [(stepSpawn_cases step).2.underWay, here]
    obtain ⟨order, stage⟩ := stepSpawn_goes step
    exact ⟨sp', underWay_proceed_self here' there, order, stage⟩
  case h_4 u r step =>
    cases stepped
    have here' : u.underWay n = some c := by rw [(stepSpawn_cases step).2.underWay, here]
    rw [underWay_finish_self here'] at there
    cases there

theorem drain_left {ids : List ComponentId} {st : Stop} {rest : List ComponentId}
    (waits : (s.drain ids).2 = some (st, rest)) {id : ComponentId}
    (among : id = st.id ∨ id ∈ rest) :
    id ∈ ids := by
  induction ids generalizing s with
  | nil => cases waits
  | cons j ids ih =>
    unfold drain at waits
    cases begun : s.beginStop j with
    | mk u outcome =>
      rw [begun] at waits
      cases outcome with
      | inl st' =>
        cases waits
        rw [(beginStop_waits begun).1] at among
        exact List.mem_cons.mpr among
      | inr r => exact List.mem_cons_of_mem j (ih waits)

theorem goes_of_step {c c' : Call} (here : s.underWay n = some c) (stepped : s.stepCall n = some t)
    (there : t.underWay n = some c') : s.Goes t c c' := by
  obtain ⟨running, lifecycle⟩ := underWay_eq_some.mp here
  cases c with
  | spawn sp =>
    rw [stepCall, running] at stepped
    dsimp only at stepped
    rw [stepSpawnCall_eq] at stepped
    obtain ⟨sp', rfl, goes⟩ := stepSpawning_goes here stepped there
    exact .spawn goes
  | restartSpawn sp =>
    rw [stepCall, running] at stepped
    dsimp only at stepped
    rw [stepRestartSpawn_eq] at stepped
    obtain ⟨sp', rfl, goes⟩ := stepSpawning_goes here stepped there
    exact .restartSpawn goes
  | stop st =>
    have waits : (s.underWay n).bind Call.stopping? = some st := by rw [here]; rfl
    rw [stepCall, running] at stepped
    simp only [stepStopCall, Option.bind_eq_bind, Option.bind_eq_some_iff] at stepped
    obtain ⟨⟨u, r⟩, finished, same⟩ := stepped
    cases same
    obtain rfl := stepStop_eq finished
    have here' : (s.endStop st.id).underWay n = some (.stop st) := here
    rw [underWay_finish_self here'] at there
    cases there
  | restartStop st o =>
    rw [stepCall, running] at stepped
    simp only [stepRestartStop, Option.bind_eq_bind, Option.bind_eq_some_iff] at stepped
    obtain ⟨⟨u, r⟩, finished, stepped⟩ := stepped
    obtain rfl := stepStop_eq finished
    have here' : (s.endStop st.id).underWay n = some (.restartStop st o) := here
    dsimp only at stepped
    split at stepped
    case h_1 c next =>
      cases stepped
      rw [underWay_proceed_self here' there, respawn_eq next]
      exact .restart st o
    case h_2 a next =>
      cases stepped
      rw [underWay_finish_self here'] at there
      cases there
  | shutdown st rest =>
    rw [stepCall, running] at stepped
    obtain rfl := stepShutdown_eq stepped
    have here' : ((s.endStop st.id).drain rest).1.underWay n = some (.shutdown st rest) := by
      rw [(drain_sheds rest _).1.underWay]
      exact here
    obtain ⟨next, _⟩ := (underWay_carryOn_self here').mp there
    obtain ⟨st', rest', waits, rfl⟩ := drained_eq_inl.mp next
    exact .shutdown fun id => drain_left waits
  | _ => cases lifecycle

theorem Goes.concerns {c c' : Call} (goes : s.Goes t c c') (concerns : c'.concerns id) :
    c.concerns id := by
  cases goes with
  | spawn goes | restartSpawn goes => exact concerns.trans (congrArg Order.id goes.order)
  | restart => exact .inr concerns
  | shutdown left => exact .inr (left id concerns)

end Goes

def Unroutes (s t : State) : Prop :=
  ∀ id, t.post.routes.get? id = s.post.routes.get? id ∨ t.post.routes.get? id = none

namespace Unroutes

theorem refl (s : State) : s.Unroutes s := fun _ => .inl rfl

theorem of_routes (same : t.post.routes = s.post.routes) : s.Unroutes t := fun _ =>
  .inl (by rw [same])

theorem of_settles (settles : s.Settles t) : s.Unroutes t := by
  obtain ⟨vs, _, outline⟩ := settles
  exact of_routes (congrArg Outline.routes outline)

theorem trans (first : s.Unroutes t) (second : t.Unroutes u) : s.Unroutes u := fun id => by
  obtain same | gone := second id
  · rw [same]
    exact first id
  · exact .inr gone

theorem told (s : State) (id : ComponentId) (a : Nat) : s.Unroutes (s.told id a) := by
  have unrouted : s.Unroutes { s with post := s.post.unroute id } := by
    intro j
    by_cases own : j = id
    · subst own
      exact .inr (Table.get?_erase_self _ _)
    · exact .inl (Table.get?_erase_of_ne _ own)
  exact unrouted.trans (of_settles ((dropPending_settles _ id).of_outline_right
    (outline_beginHalt _ a)))

theorem beginStop (s : State) (id : ComponentId) : s.Unroutes (s.beginStop id).1 := by
  obtain ⟨_, _, same⟩ | ⟨a, _, ⟨_, same⟩ | ⟨_, same⟩⟩ := s.beginStop_cases id <;> rw [same]
  · exact .refl s
  · exact (told s id a).trans (of_routes rfl)
  · exact told s id a

theorem drain (ids : List ComponentId) (s : State) : s.Unroutes (s.drain ids).1 :=
  drain_induction (P := (s.Unroutes ·)) (.refl s) fun t id _ before =>
    before.trans (beginStop t id)

end Unroutes

@[simp] theorem post_carryOn (s : State) (n : Nat) (next : Call ⊕ Answer) :
    (s.carryOn n next).post = s.post := by
  cases next <;> rfl

@[simp] theorem post_enterOrAnswer (s : State) (next : Call ⊕ Answer) :
    (s.enterOrAnswer next).2.post = s.post := by
  cases next <;> rfl

theorem routes_step {c : Call} (here : s.underWay n = some c) (stepped : s.stepCall n = some t)
    (id : ComponentId) : t.post.routes.get? id = s.post.routes.get? id ∨
      t.post.routes.get? id = none ∨ s.Spawning n id := by
  obtain ⟨running, lifecycle⟩ := underWay_eq_some.mp here
  cases c with
  | spawn sp | restartSpawn sp =>
    have spawning : (s.underWay n).bind Call.spawning? = some sp := by rw [here]; rfl
    obtain ⟨u, next, rfl, seat, _⟩ := step_of_spawning spawning stepped
    rw [post_carryOn]
    obtain outline | ⟨a, _, _, _, outline⟩ := seat
    · exact .inl (congrArg (·.routes.get? id) outline)
    · have routes : u.post.routes = s.post.routes.insert sp.order.id (s.boxOf a) :=
        congrArg Outline.routes outline
      by_cases own : id = sp.order.id
      · exact .inr (.inr ⟨sp, spawning, own.symm⟩)
      · exact .inl (by rw [routes, Table.get?_insert_of_ne _ _ own])
  | stop st | restartStop st =>
    have stopping : (s.underWay n).bind Call.stopping? = some st := by rw [here]; rfl
    obtain ⟨next, rfl, _⟩ := step_of_stopping stopping stepped
    rw [post_carryOn]
    exact .inl rfl
  | shutdown st rest =>
    rw [stepCall, running] at stepped
    rw [stepShutdown_eq stepped, post_carryOn]
    exact (Unroutes.drain rest (s.endStop st.id) id).imp_right .inl
  | _ => cases lifecycle

/-- What an act means in a host that is not shut down: it leaves the components alone, enters a
lifecycle call that was asked for, or takes a step of one. -/
inductive Manages (s : State) (v : Act) (t : State) : Prop
  | rests (same : t = s)
  | idles (plain : ∀ a, s.halts v a → v = .stopActor a) (underWay : t.underWay = s.underWay)
    (roster : t.roster = s.roster)
    (routes : ∀ id, t.post.routes.get? id = s.post.routes.get? id ∨ v.reroutes id)
  | asks (u : State) (next : Call ⊕ Answer) (same : t = (u.enterOrAnswer next).2)
    (halts : ∀ a, s.halts v a → ∃ id, v.stops id ∧ s.roster.get? id = some a)
    (asked : ∀ c, next = .inl c → s.Asks v c) (underWay : u.underWay = s.underWay)
    (roster : ∀ id, u.roster.get? id = s.roster.get? id ∨ u.roster.get? id = none)
    (heeds : ∀ id, v.stops id → u.roster.get? id = none ∨ ∃ c, next = .inl c ∧ c.stops id)
    (routes : s.Unroutes u)
  | steps {n : Nat} {c : Call} (move : v = .move (.call n)) (here : s.underWay n = some c)
    (stepped : s.stepCall n = some t)

namespace Manages

theorem of_outline (plain : ∀ a, s.halts v a → v = .stopActor a)
    (underWay : u.underWay = s.underWay) (roster : u.roster = s.roster)
    (routes : u.post.routes = s.post.routes) (settles : u.Settles t) : s.Manages v t := by
  obtain ⟨vs, _, outline⟩ := settles
  refine .idles plain ((congrArg Outline.underWay outline).trans underWay)
    ((congrArg Outline.roster outline).trans roster) fun id => .inl ?_
  exact congrArg (·.get? id) ((congrArg Outline.routes outline).trans routes)

theorem of_settles (plain : ∀ a, s.halts v a → v = .stopActor a) (settles : s.Settles t) :
    s.Manages v t := of_outline plain rfl rfl rfl settles

end Manages

theorem spawnComponent_manages (s : State) (o : Order) (keep : Option String) :
    s.Manages (.spawn o keep) (s.spawnComponent o keep).2 := by
  unfold spawnComponent
  split
  · case _ sp begun =>
    refine .asks s (.inl (.spawn sp)) rfl (fun _ halts => halts.elim) ?_ rfl (fun _ => .inl rfl)
      (fun _ stops => stops.elim) (.refl s)
    rintro _ ⟨⟩
    rw [beginSpawn_eq begun]
    exact .spawn o keep
  · exact .of_settles (fun _ halts => halts.elim) (.of_outline (outline_answerNow s _))

theorem move_manages (s : State) (m : Move) : s.Manages (.move m) (s.after (.move m)) := by
  rw [after]
  cases stepped : s.step m with
  | none => exact .rests rfl
  | some t =>
    rw [Option.getD_some]
    cases m with
    | alarm number =>
      obtain ⟨_, _, _, rfl⟩ := stepAlarm_eq stepped
      exact .idles (fun _ halts => halts.elim) rfl rfl fun _ => .inl rfl
    | actor a => exact .of_settles (fun _ halts => halts.elim) (stepActor_settles stepped).settles
    | enroll i =>
      obtain ⟨_, _, rfl⟩ := enroll_eq stepped
      exact .idles (fun _ halts => halts.elim) rfl rfl fun _ => .inl rfl
    | call n =>
      cases here : s.underWay n with
      | some c => exact .steps rfl here stepped
      | none =>
        have free : ∀ a, ¬ s.halts (.move (.call n)) a := by
          rintro a (⟨sp, spawning, _⟩ | ⟨st, rest, _, waits, _⟩)
          · rw [here] at spawning
            cases spawning
          · rw [here] at waits
            cases waits
        exact .of_settles (fun a halts => absurd halts (free a)) (settles_of_idle here stepped)

section Ask

variable (started : s.started = true)

include started

theorem stopComponent_manages (id : ComponentId) :
    s.Manages (.stop id) (s.stopComponent id).2 := by
  have sheds := s.beginStop_sheds id
  have routes := Unroutes.beginStop s id
  rw [stopComponent_of_started started]
  cases begun : s.beginStop id with
  | mk u outcome =>
    rw [begun] at sheds routes
    refine .asks u _ rfl (fun a halts => ⟨id, rfl, halts⟩) (fun c next => ?_) sheds.underWay
      (fun j => (sheds.roster j).imp_right And.right) ?_ routes
    · cases outcome with
      | inl st =>
        cases next
        obtain ⟨rfl, _⟩ := beginStop_waits begun
        exact .stop st
      | inr r => cases next
    · rintro j rfl
      cases outcome with
      | inl st => exact .inr ⟨_, rfl, (beginStop_waits begun).1.symm⟩
      | inr r => exact .inl (beginStop_over begun)

theorem restartComponent_manages (o : Order) :
    s.Manages (.restart o) (s.restartComponent o).2 := by
  have sheds := s.beginStop_sheds o.id
  have routes := Unroutes.beginStop s o.id
  rw [restartComponent_of_started started]
  by_cases on : s.roster.contains o.id = true
  · rw [if_pos on]
    cases begun : s.beginStop o.id with
    | mk u outcome =>
      rw [begun] at sheds routes
      refine .asks u _ rfl (fun a halts => ⟨o.id, rfl, halts⟩) (fun c next => ?_) sheds.underWay
        (fun j => (sheds.roster j).imp_right And.right) ?_ routes
      · cases outcome with
        | inl st =>
          cases next
          exact .restartStop st o (beginStop_waits begun).1
        | inr r =>
          rw [respawn_eq next]
          exact .restartSpawn o
      · rintro j rfl
        cases outcome with
        | inl st => exact .inr ⟨_, rfl, (beginStop_waits begun).1.symm⟩
        | inr r => exact .inl (beginStop_over begun)
  · rw [if_neg on]
    refine .asks s _ rfl (fun a halts => ⟨o.id, rfl, halts⟩) (fun c next => ?_) rfl
      (fun _ => .inl rfl) ?_ (.refl s)
    · rw [respawn_eq next]
      exact .restartSpawn o
    · rintro j rfl
      exact .inl (by simpa [Table.contains] using on)

theorem shutdown_manages : s.Manages .shutdown s.shutdown.2 := by
  obtain ⟨sheds, left⟩ := drain_sheds s.roster.ids { s with started := false }
  have routes := Unroutes.drain s.roster.ids { s with started := false }
  rw [shutdown_eq started]
  refine .asks _ _ rfl (fun a ⟨id, here⟩ => ⟨id, trivial, here⟩) (fun c next => ?_) sheds.underWay
    (fun j => (sheds.roster j).imp_right And.right) (fun id _ => ?_) routes
  · obtain ⟨st, rest, _, rfl⟩ := drained_eq_inl.mp next
    exact .shutdown st rest
  · by_cases on : id ∈ s.roster.ids
    · refine (left id on).imp_right fun ⟨st, rest, waits, among⟩ => ?_
      exact ⟨.shutdown st rest, drained_eq_inl.mpr ⟨st, rest, waits, rfl⟩, among⟩
    · have absent : s.roster.get? id = none := by
        rw [Roster.mem_ids] at on
        simpa [Table.contains] using on
      exact .inl (sheds.absent absent)

omit started in
theorem halts_of_settling (settling : v.settling) (a : Nat) (halts : s.halts v a) :
    v = .stopActor a := by
  cases v with
  | stopActor b => rw [show a = b from halts]
  | move | stop | restart | shutdown => exact settling.elim
  | _ => exact halts.elim

theorem after_manages (v : Act) : s.Manages v (s.after v) := by
  by_cases settling : v.settling
  · exact .of_settles (halts_of_settling settling) (settles_after settling).settles
  · cases v with
    | move m => exact s.move_manages m
    | sendRequest sender target payload timeout? awaited =>
      obtain ⟨ledger, outline⟩ := s.openExchange_outline sender target
        (timeout?.getD s.config.messaging.requestTimeout)
      exact .of_outline (fun _ => False.elim) (congrArg Outline.underWay outline)
        (congrArg Outline.roster outline) (congrArg Outline.routes outline)
        (s.sendRequest_settles sender target payload timeout? awaited)
    | spawn o keep => exact s.spawnComponent_manages o keep
    | stop id => exact stopComponent_manages started id
    | restart o => exact restartComponent_manages started o
    | shutdown => exact shutdown_manages started
    | route c box =>
      refine .idles (fun _ => False.elim) rfl rfl fun id => ?_
      by_cases own : id = c
      · exact .inr own
      · exact .inl (Table.get?_insert_of_ne _ _ own)
    | unroute c =>
      refine .idles (fun _ => False.elim) rfl rfl fun id => ?_
      by_cases own : id = c
      · exact .inr own
      · exact .inl (Table.get?_erase_of_ne _ own)
    | unrouteFrom c box =>
      refine .idles (fun _ => False.elim) rfl rfl fun id => ?_
      by_cases own : id = c
      · exact .inr own
      · refine .inl ?_
        rw [after, PostOffice.unrouteFrom]
        split
        · exact Table.get?_erase_of_ne _ own
        · rfl
    | wait | abandon => exact .idles (fun _ => False.elim) rfl rfl fun _ => .inl rfl
    | _ => exact absurd trivial settling

theorem underWay_after {c : Call} (there : (s.after v).underWay n = some c) :
    s.underWay n = some c ∨ s.Asks v c ∨
      (v = .move (.call n) ∧ ∃ c₀, s.underWay n = some c₀ ∧ s.Goes (s.after v) c₀ c) := by
  cases after_manages started v with
  | rests same => exact .inl (same ▸ there)
  | idles _ underWay => exact .inl (underWay ▸ there)
  | asks u next same _ asked underWay =>
    rw [same] at there
    obtain next | old := underWay_enterOrAnswer there
    · exact .inr (.inl (asked c next))
    · exact .inl (underWay ▸ old)
  | @steps m c₀ move here stepped =>
    by_cases own : n = m
    · subst own
      exact .inr (.inr ⟨move, c₀, here, goes_of_step here stepped there⟩)
    · exact .inl ((stepCall_advances here stepped).others n own ▸ there)

theorem concerns_after {c : Call} (there : (s.after v).underWay n = some c)
    (concerns : c.concerns id) :
    v.concerns id ∨ ∃ c₀, s.underWay n = some c₀ ∧ c₀.concerns id := by
  obtain same | asks | ⟨_, c₀, here, goes⟩ := underWay_after started there
  · exact .inr ⟨c, same, concerns⟩
  · refine .inl ?_
    cases asks with
    | spawn | stop | restartSpawn => exact concerns
    | restartStop st o own => exact concerns.elim (·.trans own) (fun same => same)
    | shutdown => trivial
  · exact .inr ⟨c₀, here, goes.concerns concerns⟩

theorem unrouted_after (unrouted : s.post.routes.get? id = none) (aside : ¬ v.reroutes id)
    (alone : ∀ n, ¬ s.Spawning n id) : (s.after v).post.routes.get? id = none := by
  cases after_manages started v with
  | rests same => rw [same, unrouted]
  | idles _ _ _ routes => rw [(routes id).resolve_right aside, unrouted]
  | asks _ _ same _ _ _ _ _ routes =>
    rw [same, post_enterOrAnswer]
    obtain same | gone := routes id
    · rw [same, unrouted]
    · exact gone
  | @steps n _ _ here stepped =>
    obtain same | gone | spawning := routes_step here stepped id
    · rw [same, unrouted]
    · exact gone
    · exact absurd spawning (alone n)

theorem open_after (aside : v ≠ .shutdown) : (s.after v).started = true := by
  cases s.after_turn v with
  | idle same => rw [same, started]
  | begins begins => exact begins.started.resolve_right aside
  | advances _ _ _ _ _ advances => rw [advances.started, started]

end Ask

end State

end ComponentHost
