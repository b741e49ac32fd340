import ComponentHost.Proofs.Host.Actor.Conduct
import ComponentHost.Proofs.Host.Component.Routes
import ComponentHost.Proofs.Host.Component.SpawnSteps
import ComponentHost.Proofs.Host.Actor.WorkInHand

/-! Spawns of one component that overlap. Each looks whether the id is free, takes its time to load
and start an actor, and only then enters it on the roster. The first to do so stays; those who come
later leave its entry and its route alone, stop their own actor and say that it exists. -/

namespace ComponentHost.State

variable {s : State} {v : Act} {n a : Nat} {id : ComponentId} {o : Order} {stage : SpawnStage}

section Calls

def Orders (s : State) (acts : List Act) (n : Nat) (o : Order) : Prop :=
  ∃ before keep later, acts = before ++ .spawn o keep :: later ∧ n = (s.run before).calls.length

def SpawnsAt (s : State) (n : Nat) (o : Order) (stage : SpawnStage) : Prop :=
  ∃ keep, s.calls[n]? = some (.running (.spawn { order := o, stage, keep }))

def Spawned (s : State) (n : Nat) (r : Except HostError Nat) : Prop :=
  ∃ time, s.calls[n]? = some (.returned time (.spawned r))

/-- The component has been loaded, and its actor has started. -/
def Ready (s : State) (n : Nat) (o : Order) (a : Nat) : Prop :=
  s.SpawnsAt n o (.starting a) ∧ s.startOutcome a = some (.ok ())

theorem not_orders_nil : ¬ s.Orders [] n o := by
  rintro ⟨before, keep, later, split, _⟩
  cases before <;> cases split

theorem orders_concat {acts : List Act} : s.Orders (acts ++ [v]) n o ↔
    s.Orders acts n o ∨ ∃ keep, v = .spawn o keep ∧ n = (s.run acts).calls.length := by
  have asked : ∀ acts, s.Orders acts n o ↔ ∃ before u later, acts = before ++ u :: later ∧
      ∃ keep, u = .spawn o keep ∧ n = (s.run before).calls.length := fun acts =>
    ⟨fun ⟨before, keep, later, split, own⟩ => ⟨before, _, later, split, keep, rfl, own⟩,
      fun ⟨before, _, later, split, keep, same, own⟩ =>
        ⟨before, keep, later, same ▸ split, own⟩⟩
  rw [asked, asked]
  exact exists_split_concat (P := fun before u => ∃ keep, u = .spawn o keep ∧
    n = (s.run before).calls.length)

theorem Orders.append {acts : List Act} (orders : s.Orders acts n o) (later : List Act) :
    s.Orders (acts ++ later) n o := by
  obtain ⟨before, keep, rest, rfl, rfl⟩ := orders
  exact ⟨before, keep, rest ++ later, by rw [List.append_assoc]; rfl, rfl⟩

theorem Spawned.after {r : Except HostError Nat} (spawned : s.Spawned n r) (v : Act) :
    (s.after v).Spawned n r := by
  obtain ⟨time, here⟩ := spawned
  exact ⟨time, returned_after here v⟩

theorem Spawned.run {r : Except HostError Nat} (spawned : s.Spawned n r) (acts : List Act) :
    (s.run acts).Spawned n r := by
  obtain ⟨time, here⟩ := spawned
  exact ⟨time, returned_run here acts⟩

theorem Spawned.unique {r r' : Except HostError Nat} (spawned : s.Spawned n r)
    (spawned' : s.Spawned n r') : r = r' := by
  obtain ⟨time, here⟩ := spawned
  obtain ⟨time', there⟩ := spawned'
  rw [here] at there
  cases there
  rfl

theorem SpawnsAt.after (spawns : s.SpawnsAt n o stage) (other : v ≠ .move (.call n)) :
    (s.after v).SpawnsAt n o stage := by
  obtain ⟨keep, here⟩ := spawns
  exact ⟨keep, calls_after (fun _ => rfl) here other⟩

theorem spawn_entered (s : State) (o : Order) (keep : Option String) :
    (∃ r, s.beginSpawn o keep = .inr r ∧ (s.after (.spawn o keep)).Spawned s.calls.length r) ∨
      s.beginSpawn o keep = .inl { order := o, keep } ∧
        (s.after (.spawn o keep)).SpawnsAt s.calls.length o .loading := by
  rw [after, spawnComponent]
  cases begun : s.beginSpawn o keep with
  | inr r => exact .inl ⟨r, rfl, s.clock, List.getElem?_concat_length⟩
  | inl sp =>
    obtain rfl := beginSpawn_eq begun
    exact .inr ⟨rfl, keep, List.getElem?_concat_length⟩

theorem spawn_of_taken (started : s.started = true) (taken : s.roster.contains o.id = true)
    (keep : Option String) : s.after (.spawn o keep) =
      (s.answerNow (.spawned (.error (spawnError o .alreadyExists)))).2 := by
  rw [after, spawnComponent, beginSpawn, ensureStarted_of_started started]
  dsimp only
  rw [if_pos taken]

theorem spawn_of_free (started : s.started = true) (free : s.roster.contains o.id = false)
    (keep : Option String) :
    s.after (.spawn o keep) = (s.enter (.spawn { order := o, keep })).2 := by
  rw [after, spawnComponent, beginSpawn, ensureStarted_of_started started]
  dsimp only
  rw [if_neg (by rw [free]; exact Bool.false_ne_true)]

theorem SpawnsAt.move (spawns : s.SpawnsAt n o stage) :
    let t := s.after (.move (.call n))
    (s.stepCall n = none ∧ t = s) ∨
      (stage = .loading ∧ ∃ text, t = s.finish n (.panicked text) ∧
        t.calls[n]? = some (.returned s.clock (.panicked text))) ∨
      (∃ keep u sp', s.SpawnTurns { order := o, stage, keep } u (.inl sp') ∧
        t = u.proceed n (.spawn sp') ∧ t.SpawnsAt n o sp'.stage) ∨
      ∃ keep u r, s.SpawnTurns { order := o, stage, keep } u (.inr r) ∧
        t = u.finish n (.spawned r) ∧ t.Spawned n r := by
  obtain ⟨keep, here⟩ := spawns
  have known := (List.getElem?_eq_some_iff.mp here).1
  intro t
  have same : t = (s.stepCall n).getD s := rfl
  cases stepped : s.stepCall n with
  | none => exact .inl ⟨rfl, by rw [same, stepped]; rfl⟩
  | some u =>
    refine .inr ?_
    rw [stepped, Option.getD_some] at same
    rw [same]
    rw [stepCall, here] at stepped
    obtain ⟨text, loading, rfl⟩ | ⟨w, sp', turns, rfl⟩ | ⟨w, r, turns, rfl⟩ :=
      stepSpawning_turns ((s.stepSpawnCall_eq n _).symm.trans stepped)
    · exact .inl ⟨loading, text, rfl, List.getElem?_set_self known⟩
    · have goesOn : (w.proceed n (.spawn sp')).calls[n]? = some (.running (.spawn sp')) := by
        rw [proceed, turns.calls]
        exact List.getElem?_set_self known
      have order : sp'.order = o := (turns.brings rfl).order
      subst order
      exact .inr (.inl ⟨keep, w, sp', turns, rfl, sp'.keep, goesOn⟩)
    · have returns : (w.finish n (.spawned r)).calls[n]? =
          some (.returned w.clock (.spawned r)) := by
        rw [finish, turns.calls]
        exact List.getElem?_set_self known
      exact .inr (.inr ⟨keep, w, r, turns, rfl, w.clock, returns⟩)

end Calls

def Dismissed (s : State) (a : Nat) : Prop := ∃ x, s.actors[a]? = some x ∧ x.told = true

theorem Dismissed.after (dismissed : s.Dismissed a) (v : Act) : (s.after v).Dismissed a := by
  obtain ⟨x, here, told⟩ := dismissed
  obtain ⟨y, there, becomes⟩ := actor_after here v
  exact ⟨y, there, becomes.told told⟩

theorem beginHalt_dismissed (known : a < s.actors.length) : (s.beginHalt a).1.Dismissed a := by
  rw [beginHalt_fst, Dismissed, updateActor, List.getElem?_modify_eq,
    List.getElem?_eq_getElem known]
  exact ⟨_, rfl, rfl⟩

/-- Why a spawn may fail by itself: its bytes, its start hook, or mailboxes too large to be made. -/
def Fails (o : Order) (answer : Answer) : Prop :=
  (∃ fault, answer = .spawned (.error (spawnError o (.loadFailed fault)))) ∨
    (∃ text, answer = .spawned (.error (spawnError o (.actorFailed text)))) ∨
      ∃ text, answer = .panicked text

/-- Where call `n`, a spawn, may stand. It is too late only where another was in time. -/
inductive Stands (s : State) (n : Nat) (o : Order) : Prop
  | loading (spawns : s.SpawnsAt n o .loading)
  | starting {a : Nat} (spawns : s.SpawnsAt n o (.starting a))
  | discarding {a : Nat} (spawns : s.SpawnsAt n o (.discarding a)) (dismissed : s.Dismissed a)
    (taken : s.roster.contains o.id = true)
  | refused (spawned : s.Spawned n (.error (spawnError o .alreadyExists)))
    (taken : s.roster.contains o.id = true)
  | won {a : Nat} (spawned : s.Spawned n (.ok a)) (on : s.roster.get? o.id = some a)
    (route : s.post.routes.get? o.id = some (s.boxOf a))
  | failed {time : Duration} {answer : Answer}
    (returned : s.calls[n]? = some (.returned time answer)) (fails : Fails o answer)

section Step

theorem entry_after (aside : ¬ v.stops id ∧ ¬ v.reroutes id)
    (unstopped : ∀ n c, s.underWay n = some c → ¬ c.stops id) (on : s.roster.get? id = some a) :
    (s.after v).roster.get? id = some a ∧
      (s.after v).post.routes.get? id = s.post.routes.get? id := by
  have still : ¬ s.EndsStop v id := by
    rintro (stops | ⟨n, c, _, here, stops⟩)
    · exact aside.1 stops
    · exact unstopped n c here stops
  obtain ⟨roster, routes⟩ := entry_kept still fun m b _ ⟨_, _, _, _, _, free⟩ => by
    rw [on] at free
    cases free
  exact ⟨roster.trans on, routes aside.2⟩

theorem contains_of_get? {r : Roster Nat} (on : r.get? id = some a) : r.contains id = true := by
  rw [Table.contains, on]
  rfl

theorem Stands.call (stands : s.Stands n o) : (∃ stage, s.SpawnsAt n o stage) ∨
    ∃ time answer, s.calls[n]? = some (.returned time answer) := by
  cases stands with
  | loading spawns | starting spawns | discarding spawns => exact .inl ⟨_, spawns⟩
  | refused spawned | won spawned =>
    obtain ⟨time, here⟩ := spawned
    exact .inr ⟨time, _, here⟩
  | failed returned => exact .inr ⟨_, _, returned⟩

theorem SpawnsAt.stage_unique {stage' : SpawnStage} (spawns : s.SpawnsAt n o stage)
    (spawns' : s.SpawnsAt n o stage') : stage = stage' := by
  obtain ⟨keep, here⟩ := spawns
  obtain ⟨keep', there⟩ := spawns'
  rw [here] at there
  cases there
  rfl

theorem SpawnsAt.not_spawned (spawns : s.SpawnsAt n o stage) {r : Except HostError Nat} :
    ¬ s.Spawned n r := by
  rintro ⟨time, returned⟩
  obtain ⟨keep, here⟩ := spawns
  rw [here] at returned
  cases returned

theorem Stands.late (stands : s.Stands n o) (spawns : s.SpawnsAt n o stage)
    (discarding : stage = .discarding a) : s.Dismissed a ∧ s.roster.contains o.id = true := by
  subst discarding
  cases stands with
  | discarding other dismissed taken =>
    cases spawns.stage_unique other
    exact ⟨dismissed, taken⟩
  | refused spawned | won spawned => exact absurd spawned spawns.not_spawned
  | loading other | starting other => cases spawns.stage_unique other
  | failed here =>
    obtain ⟨keep, spawning⟩ := spawns
    rw [here] at spawning
    cases spawning

theorem Stands.taken (stands : s.Stands n o)
    (refused : s.Spawned n (.error (spawnError o .alreadyExists))) :
    s.roster.contains o.id = true := by
  cases stands with
  | discarding _ _ taken | refused _ taken => exact taken
  | won _ on => exact contains_of_get? on
  | loading spawns | starting spawns => exact absurd refused spawns.not_spawned
  | failed returned fails =>
    obtain ⟨_, here⟩ := refused
    rw [here] at returned
    cases returned
    obtain ⟨_, same⟩ | ⟨_, same⟩ | ⟨_, same⟩ := fails <;> cases same

section After

variable (identified : s.Identified) (aside : ¬ v.stops o.id ∧ ¬ v.reroutes o.id)
  (unstopped : ∀ n c, s.underWay n = some c → ¬ c.stops o.id)

include aside unstopped

theorem taken_after (taken : s.roster.contains o.id = true) :
    (s.after v).roster.contains o.id = true := by
  obtain ⟨b, on⟩ := Option.isSome_iff_exists.mp taken
  exact contains_of_get? (entry_after aside unstopped on).1

include identified

theorem won_after (on : s.roster.get? o.id = some a)
    (route : s.post.routes.get? o.id = some (s.boxOf a)) :
    (s.after v).roster.get? o.id = some a ∧
      (s.after v).post.routes.get? o.id = some ((s.after v).boxOf a) := by
  obtain ⟨on', route'⟩ := entry_after aside unstopped on
  exact ⟨on', by rw [route', route, boxOf_after (identified.seated o.id a on).known]⟩

theorem Stands.rests (stands : s.Stands n o) (kept : (s.after v).calls[n]? = s.calls[n]?) :
    (s.after v).Stands n o := by
  have still : ∀ {stage : SpawnStage}, s.SpawnsAt n o stage → (s.after v).SpawnsAt n o stage :=
    fun ⟨keep, here⟩ => ⟨keep, kept.trans here⟩
  cases stands with
  | loading spawns => exact .loading (still spawns)
  | starting spawns => exact .starting (still spawns)
  | discarding spawns dismissed taken =>
    exact .discarding (still spawns) (dismissed.after v) (taken_after aside unstopped taken)
  | refused spawned taken => exact .refused (spawned.after v) (taken_after aside unstopped taken)
  | won spawned on route =>
    obtain ⟨on, route⟩ := won_after identified aside unstopped on route
    exact .won (spawned.after v) on route
  | failed returned fails => exact .failed (returned_after returned v) fails

end After

section Turn

variable {t u : State} {keep : Option String} {sp' : Spawn} {r : Except HostError Nat}

theorem SpawnTurns.stands_of_goesOn (turns : s.SpawnTurns { order := o, stage, keep } u (.inl sp'))
    (roster : t.roster = u.roster) (actors : t.actors = u.actors)
    (goesOn : t.SpawnsAt n o sp'.stage) : t.Stands n o := by
  cases turns with
  | created => exact .starting goesOn
  | @late a _ ready taken =>
    obtain ⟨x, here, _⟩ := startOutcome_ok_iff.mp ready
    have dismissed := beginHalt_dismissed (List.getElem?_eq_some_iff.mp here).1
    have kept : t.roster = s.roster :=
      roster.trans (congrArg Outline.roster (outline_beginHalt s a))
    refine .discarding goesOn ?_ (kept ▸ taken)
    rwa [Dismissed, actors]

theorem SpawnTurns.stands_of_returned
    (turns : s.SpawnTurns { order := o, stage, keep } u (.inr r)) (roster : t.roster = u.roster)
    (routes : t.post.routes = u.post.routes)
    (boxes : ∀ a, a < s.actors.length → t.boxOf a = s.boxOf a)
    (late : ∀ a, stage = .discarding a → s.roster.contains o.id = true)
    (spawned : t.Spawned n r) : t.Stands n o := by
  have ⟨_, returned⟩ := spawned
  cases turns with
  | unloaded => exact .failed returned (.inl ⟨_, rfl⟩)
  | unstarted => exact .failed returned (.inr (.inl ⟨_, rfl⟩))
  | discarded stage => exact .refused spawned (roster ▸ late _ stage)
  | @seated a _ _ ready _ outline =>
    obtain ⟨x, here, _⟩ := startOutcome_ok_iff.mp ready
    have entered : t.roster = s.roster.insert o.id a :=
      roster.trans (congrArg Outline.roster outline)
    have routed : t.post.routes = s.post.routes.insert o.id (s.boxOf a) :=
      routes.trans (congrArg Outline.routes outline)
    refine .won spawned ?_ ?_
    · rw [entered, Table.get?_insert_self]
    · rw [routed, Table.get?_insert_self, boxes a (List.getElem?_eq_some_iff.mp here).1]

theorem SpawnTurns.free_of_ok {sp : Spawn} (turns : s.SpawnTurns sp u (.inr (.ok a))) :
    s.roster.get? sp.order.id = none := by
  cases turns with
  | seated _ _ free => exact free

end Turn

theorem SpawnsAt.stands (spawns : s.SpawnsAt n o stage)
    (late : ∀ a, stage = .discarding a → s.Dismissed a ∧ s.roster.contains o.id = true) :
    let t := s.after (.move (.call n))
    (s.Stands n o ∧ t = s) ∨
      (t.Stands n o ∧ ∀ a, t.Spawned n (.ok a) → s.roster.get? o.id = none) := by
  intro t
  obtain ⟨_, same⟩ | ⟨_, text, _, here⟩ | ⟨keep, u, sp', turns, same, goesOn⟩ |
    ⟨keep, u, r, turns, same, spawned⟩ := spawns.move
  · refine .inl ⟨?_, same⟩
    cases stage with
    | loading => exact .loading spawns
    | starting => exact .starting spawns
    | discarding a => exact .discarding spawns (late a rfl).1 (late a rfl).2
  · refine .inr ⟨.failed here (.inr (.inr ⟨text, rfl⟩)), fun a ⟨_, won⟩ => ?_⟩
    rw [here] at won
    cases won
  · have roster : t.roster = u.roster := (congrArg State.roster same).trans rfl
    have actors : t.actors = u.actors := (congrArg State.actors same).trans rfl
    exact .inr ⟨turns.stands_of_goesOn roster actors goesOn,
      fun a won => absurd won goesOn.not_spawned⟩
  · have roster : t.roster = u.roster := (congrArg State.roster same).trans rfl
    have routes : t.post.routes = u.post.routes := (congrArg (·.post.routes) same).trans rfl
    refine .inr ⟨turns.stands_of_returned roster routes (fun a known => boxOf_after known _)
      (fun a discarding => (late a discarding).2) spawned, fun a won => ?_⟩
    cases spawned.unique won
    exact turns.free_of_ok

theorem Stands.after (stands : s.Stands n o) (identified : s.Identified)
    (aside : ¬ v.stops o.id ∧ ¬ v.reroutes o.id)
    (unstopped : ∀ n c, s.underWay n = some c → ¬ c.stops o.id) :
    (s.after v).Stands n o ∧ ∀ a, (s.after v).Spawned n (.ok a) →
      s.Spawned n (.ok a) ∨ v = .move (.call n) ∧ s.roster.get? o.id = none := by
  have rests : (s.after v).calls[n]? = s.calls[n]? → (s.after v).Stands n o ∧
      ∀ a, (s.after v).Spawned n (.ok a) →
        s.Spawned n (.ok a) ∨ v = .move (.call n) ∧ s.roster.get? o.id = none := fun kept =>
    ⟨stands.rests identified aside unstopped kept,
      fun a ⟨time, wins⟩ => .inl ⟨time, kept.symm.trans wins⟩⟩
  obtain ⟨stage, spawns⟩ | ⟨time, answer, here⟩ := stands.call
  · by_cases own : v = .move (.call n)
    · subst own
      obtain ⟨stands, same⟩ | ⟨stands, vacant⟩ := spawns.stands fun a => stands.late (a := a) spawns
      · rw [same]
        exact ⟨stands, fun a wins => .inl wins⟩
      · exact ⟨stands, fun a wins => .inr ⟨rfl, vacant a wins⟩⟩
    · obtain ⟨keep, here⟩ := spawns
      exact rests ((calls_after (fun _ => rfl) here own).trans here.symm)
  · exact rests ((returned_after here v).trans here.symm)

theorem Ready.stepCall_ne_none (ready : s.Ready n o a) : s.stepCall n ≠ none := by
  obtain ⟨⟨keep, here⟩, outcome⟩ := ready
  rw [stepCall, here]
  dsimp only [stepSpawnCall]
  rw [stepSpawn]
  dsimp only
  rw [outcome]
  obtain ⟨u, sp | r⟩ := s.seat { order := o, stage := .starting a, keep } a <;>
    exact Option.some_ne_none _

theorem SpawnsAt.stopOutcome_eq_none (spawns : s.SpawnsAt n o (.discarding a))
    (still : s.stepCall n = none) : s.stopOutcome a = none := by
  obtain ⟨keep, here⟩ := spawns
  rw [stepCall, here] at still
  dsimp only [stepSpawnCall] at still
  rw [stepSpawn] at still
  dsimp only at still
  cases outcome : s.stopOutcome a with
  | none => rfl
  | some r =>
    rw [outcome] at still
    cases still

theorem Ready.move (ready : s.Ready n o a) :
    let t := s.after (.move (.call n))
    (s.roster.get? o.id = none ∧ t.Spawned n (.ok a)) ∨
      (s.roster.contains o.id = true ∧ t.SpawnsAt n o (.discarding a)) := by
  have opens := ready.stepCall_ne_none
  obtain ⟨spawns, ready⟩ := ready
  obtain ⟨waits, _⟩ | ⟨loading, _⟩ | ⟨_, u, sp', turns, _, goesOn⟩ | ⟨_, u, r, turns, _, spawned⟩ :=
    spawns.move
  · exact absurd waits opens
  · cases loading
  · cases turns with
    | created stage => cases stage
    | late stage _ taken =>
      cases stage
      exact .inr ⟨taken, goesOn⟩
  · cases turns with
    | unloaded stage | discarded stage => cases stage
    | unstarted stage failed =>
      cases stage
      rw [ready] at failed
      cases failed
    | seated stage _ free =>
      cases stage
      exact .inl ⟨free, spawned⟩

theorem spawned_of_seats (seats : s.Seats n id a) (spawns : s.SpawnsAt n o stage) :
    (s.after (.move (.call n))).Spawned n (.ok a) := by
  obtain ⟨sp, spawning, rfl, starting, ready, free⟩ := seats
  obtain ⟨keep, here⟩ := spawns
  rw [underWay_eq_some.mpr ⟨here, rfl⟩] at spawning
  cases spawning
  obtain rfl := show stage = .starting a from starting
  obtain ⟨_, spawned⟩ | ⟨taken, _⟩ := Ready.move ⟨⟨keep, here⟩, ready⟩
  · exact spawned
  · rw [Table.contains, free] at taken
    cases taken

end Step

end ComponentHost.State
