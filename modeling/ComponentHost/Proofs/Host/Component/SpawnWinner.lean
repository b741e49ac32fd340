import ComponentHost.Proofs.Host.Component.OverlappingSpawns

/-! The outcome of spawns that overlap. Where the id was free when they began, one of those whose
actor has started wins, and all others find the id taken; where it was not, all are refused. -/

namespace ComponentHost.State

variable {s t : State} {v : Act} {n a : Nat} {id : ComponentId} {o : Order} {acts : List Act}

section Passed

/-- A spawn whose component was loaded and whose actor `a` has started: it is yet to look again
whether the id is free, it has won, or it has lost. -/
inductive Passed (s : State) (n : Nat) (o : Order) (a : Nat) : Prop
  | ready (ready : s.Ready n o a)
  | won (spawned : s.Spawned n (.ok a))
  | discarding (spawns : s.SpawnsAt n o (.discarding a))
  | refused (spawned : s.Spawned n (.error (spawnError o .alreadyExists)))

theorem Passed.after (passed : s.Passed n o a) (working : s.Working) (v : Act) :
    (s.after v).Passed n o a := by
  cases passed with
  | won spawned => exact .won (spawned.after v)
  | refused spawned => exact .refused (spawned.after v)
  | ready ready =>
    by_cases own : v = .move (.call n)
    · subst own
      obtain ⟨_, spawned⟩ | ⟨_, spawns⟩ := ready.move
      · exact .won spawned
      · exact .discarding spawns
    · exact .ready ⟨ready.1.after own, working.started_after ready.2 v⟩
  | discarding spawns =>
    by_cases own : v = .move (.call n)
    · subst own
      obtain ⟨_, same⟩ | ⟨loading, _⟩ | ⟨_, u, sp', turns, _⟩ | ⟨_, u, r, turns, _, spawned⟩ :=
        spawns.move
      · rw [same]
        exact .discarding spawns
      · cases loading
      · cases turns with
        | created stage | late stage => cases stage
      · cases turns with
        | unloaded stage | unstarted stage | seated stage => cases stage
        | discarded => exact .refused spawned
    · exact .discarding (spawns.after own)

theorem Passed.run (passed : s.Passed n o a) (working : s.Working) (acts : List Act) :
    (s.run acts).Passed n o a :=
  (run_induction (P := fun t => t.Working ∧ t.Passed n o a) ⟨working, passed⟩
    fun _ v _ ⟨working, passed⟩ => ⟨working.after v, passed.after working v⟩).2

def Lingers (s : State) (a : Nat) : Prop :=
  ∃ x hook work instant, s.actors[a]? = some x ∧ x.phase = .busy hook work (some instant) ∧
    s.clock < instant

theorem Embodies.lingers (embodies : s.Embodies a id) (working : s.Working) (quiet : s.quiet)
    (dismissed : s.Dismissed a) (alive : s.stopOutcome a = none) : s.Lingers a := by
  obtain ⟨x, c, here, role, _⟩ := embodies
  obtain ⟨_, same, told⟩ := dismissed
  rw [here] at same
  cases same
  cases phase : x.phase with
  | idle =>
    rw [(rests_of_quiet here phase quiet).1] at told
    cases told
  | ended ending =>
    rw [stopOutcome, here] at alive
    simp [phase] at alive
  | busy hook work due =>
    obtain ⟨instant, rfl⟩ := working.bounded here phase role
    refine ⟨x, hook, work, instant, here, phase, Nat.lt_of_not_le fun late => ?_⟩
    have still : s.stepActor a = none := quiet (.actor a)
    rw [stepActor, here] at still
    simp only [phase, if_pos (show instant ≤ s.clock from late)] at still
    cases still

end Passed

/-- Spawns of one id, from where nobody manages its component, and nobody else does meanwhile. -/
structure Race (s : State) (id : ComponentId) (acts : List Act) : Prop where
  started : (s.run acts).started = true
  identified : (s.run acts).Identified
  working : (s.run acts).Working
  only (n : Nat) (c : Call) : (s.run acts).underWay n = some c → c.concerns id →
    ∃ o stage keep, o.id = id ∧ s.Orders acts n o ∧ c = .spawn { order := o, stage, keep }
  stands (n : Nat) (o : Order) : s.Orders acts n o → o.id = id → (s.run acts).Stands n o
  one (m n : Nat) (o p : Order) (a b : Nat) : s.Orders acts m o → s.Orders acts n p → o.id = id →
    p.id = id → (s.run acts).Spawned m (.ok a) → (s.run acts).Spawned n (.ok b) → m = n
  origin (a : Nat) : (s.run acts).roster.get? id = some a → s.roster.get? id = some a ∨
    ∃ n o, s.Orders acts n o ∧ o.id = id ∧ (s.run acts).Spawned n (.ok a)

namespace Race

theorem start (started : s.started = true) (identified : s.Identified) (working : s.Working)
    (calm : s.Calm id) : s.Race id [] where
  started := started
  identified := identified
  working := working
  only n c here concerns := absurd concerns (calm n c here)
  stands _ _ orders := absurd orders not_orders_nil
  one _ _ _ _ _ _ orders := absurd orders not_orders_nil
  origin _ on := .inl on

variable (race : s.Race id acts)

include race

theorem unstopped (n : Nat) (c : Call) (here : (s.run acts).underWay n = some c) :
    ¬ c.stops id := by
  intro stops
  obtain ⟨o, stage, keep, _, _, rfl⟩ := race.only n c here (Call.concerns_of_stops stops)
  exact stops

section Entry

variable (own : o.id = id) (keep : Option String)

include own

theorem refused_at_once (taken : (s.run acts).roster.contains id = true) :
    ((s.run acts).after (.spawn o keep)).Spawned (s.run acts).calls.length
      (.error (spawnError o .alreadyExists)) := by
  subst own
  rw [spawn_of_taken race.started taken keep]
  exact ⟨(s.run acts).clock, List.getElem?_concat_length⟩

theorem entered :
    let t := (s.run acts).after (.spawn o keep)
    let n := (s.run acts).calls.length
    t.Stands n o ∧ ∀ a, ¬ t.Spawned n (.ok a) := by
  intro t n
  cases taken : (s.run acts).roster.contains id with
  | true =>
    have refused : t.Spawned n _ := race.refused_at_once own keep taken
    refine ⟨.refused refused ?_, fun a ⟨_, wins⟩ => ?_⟩
    · subst own
      rw [show t = _ from spawn_of_taken race.started taken keep]
      exact taken
    · cases refused.unique ⟨_, wins⟩
  | false =>
    have loading : t.SpawnsAt n o .loading := by
      subst own
      refine ⟨keep, ?_⟩
      rw [show t = _ from spawn_of_free race.started taken keep]
      exact List.getElem?_concat_length
    exact ⟨.loading loading, fun a => loading.not_spawned⟩

end Entry

section Concat

variable (aside : ¬ v.stops id ∧ ¬ v.reroutes id)

include aside

theorem only_concat (n : Nat) (c : Call) (there : (s.run (acts ++ [v])).underWay n = some c)
    (concerns : c.concerns id) : ∃ o stage keep, o.id = id ∧ s.Orders (acts ++ [v]) n o ∧
      c = .spawn { order := o, stage, keep } := by
  have old : ∀ {c : Call}, (s.run acts).underWay n = some c → c.concerns id →
      ∃ o stage keep, o.id = id ∧ s.Orders (acts ++ [v]) n o ∧
        c = .spawn { order := o, stage, keep } := by
    intro c here concerns
    obtain ⟨o, stage, keep, own, orders, same⟩ := race.only n c here concerns
    exact ⟨o, stage, keep, own, orders.append [v], same⟩
  rw [run_concat] at there
  obtain same | asks | ⟨_, c₀, here, goes⟩ := underWay_after race.started there
  · exact old same concerns
  · cases asks with
    | spawn o keep =>
      have enters : (s.run acts).Enters none _ := (s.run acts).spawnComponent_enters o keep
      obtain last | here := enters.underWay there
      · exact ⟨o, .loading, keep, concerns.symm, orders_concat.mpr (.inr ⟨keep, rfl, last⟩), rfl⟩
      · exact old here concerns
    | stop st => exact absurd concerns aside.1
    | restartStop st o own =>
      exact absurd (concerns.elim (·.trans own) fun same => same) aside.1
    | restartSpawn o => exact absurd concerns aside.1
    | shutdown => exact absurd trivial aside.1
  · obtain ⟨o, stage, keep, own, orders, rfl⟩ := old here (goes.concerns concerns)
    cases goes with
    | @spawn _ sp' goes =>
      obtain ⟨_, stage', keep'⟩ := sp'
      obtain rfl := goes.order
      exact ⟨_, stage', keep', own, orders, rfl⟩

theorem stands_concat (n : Nat) (o : Order) (orders : s.Orders (acts ++ [v]) n o)
    (own : o.id = id) : (s.run (acts ++ [v])).Stands n o := by
  rw [run_concat]
  obtain orders | ⟨keep, rfl, rfl⟩ := orders_concat.mp orders
  · subst own
    exact ((race.stands n o orders rfl).after race.identified aside race.unstopped).1
  · exact (race.entered own keep).1

theorem wins_concat (orders : s.Orders (acts ++ [v]) n o) (own : o.id = id)
    (wins : ((s.run acts).after v).Spawned n (.ok a)) :
    s.Orders acts n o ∧ ((s.run acts).Spawned n (.ok a) ∨
      v = .move (.call n) ∧ (s.run acts).roster.get? id = none) := by
  obtain orders | ⟨keep, rfl, rfl⟩ := orders_concat.mp orders
  · subst own
    exact ⟨orders, ((race.stands n o orders rfl).after race.identified aside race.unstopped).2 a
      wins⟩
  · exact absurd wins ((race.entered own keep).2 a)

omit aside in
theorem on_of_won (orders : s.Orders acts n o) (own : o.id = id)
    (wins : (s.run acts).Spawned n (.ok a)) : (s.run acts).roster.get? id = some a ∧
      (s.run acts).post.routes.get? id = some ((s.run acts).boxOf a) := by
  subst own
  cases race.stands n o orders rfl with
  | won spawned on route =>
    cases spawned.unique wins
    exact ⟨on, route⟩
  | loading spawns | starting spawns | discarding spawns => exact absurd wins spawns.not_spawned
  | refused spawned => cases spawned.unique wins
  | failed returned fails =>
    obtain ⟨_, here⟩ := wins
    rw [here] at returned
    cases returned
    obtain ⟨_, same⟩ | ⟨_, same⟩ | ⟨_, same⟩ := fails <;> cases same

theorem one_concat (m n : Nat) (o p : Order) (a b : Nat) (first : s.Orders (acts ++ [v]) m o)
    (second : s.Orders (acts ++ [v]) n p) (own : o.id = id) (own' : p.id = id)
    (wins : (s.run (acts ++ [v])).Spawned m (.ok a))
    (wins' : (s.run (acts ++ [v])).Spawned n (.ok b)) : m = n := by
  rw [run_concat] at wins wins'
  obtain ⟨first, old | ⟨move, free⟩⟩ := race.wins_concat aside first own wins <;>
    obtain ⟨second, old' | ⟨move', free'⟩⟩ := race.wins_concat aside second own' wins'
  · exact race.one m n o p a b first second own own' old old'
  · rw [(race.on_of_won first own old).1] at free'
    cases free'
  · rw [(race.on_of_won second own' old').1] at free
    cases free
  · rw [move] at move'
    cases move'
    rfl

theorem origin_concat (a : Nat) (on : (s.run (acts ++ [v])).roster.get? id = some a) :
    s.roster.get? id = some a ∨ ∃ n o, s.Orders (acts ++ [v]) n o ∧ o.id = id ∧
      (s.run (acts ++ [v])).Spawned n (.ok a) := by
  rw [run_concat] at on ⊢
  obtain same | ⟨ends, _⟩ | ⟨n, b, rfl, seats, seated⟩ := (s.run acts).roster_after v id
  · refine (race.origin a (same ▸ on)).imp_right ?_
    rintro ⟨n, o, orders, own, spawned⟩
    exact ⟨n, o, orders.append [v], own, spawned.after v⟩
  · obtain stops | ⟨n, c, _, here, stops⟩ := ends
    · exact absurd stops aside.1
    · exact absurd stops (race.unstopped n c here)
  · rw [seated] at on
    cases on
    have ⟨sp, spawning, own, _⟩ := seats
    obtain ⟨c, here, spawning⟩ := Option.bind_eq_some_iff.mp spawning
    obtain ⟨o, stage, keep, ordered, orders, rfl⟩ :=
      race.only n c here (own ▸ Call.concerns_of_spawning spawning)
    obtain ⟨running, _⟩ := underWay_eq_some.mp here
    exact .inr ⟨n, o, orders.append _, ordered, spawned_of_seats seats ⟨keep, running⟩⟩

theorem concat : s.Race id (acts ++ [v]) where
  started := by
    rw [run_concat]
    refine open_after race.started ?_
    rintro rfl
    exact aside.1 trivial
  identified := by
    rw [run_concat]
    exact race.identified.after v
  working := by
    rw [run_concat]
    exact race.working.after v
  only := race.only_concat aside
  stands := race.stands_concat aside
  one := race.one_concat aside
  origin := race.origin_concat aside

end Concat

omit race in
theorem run (started : s.started = true) (identified : s.Identified) (working : s.Working)
    (calm : s.Calm id) (aside : ∀ v ∈ acts, ¬ v.stops id ∧ ¬ v.reroutes id) : s.Race id acts :=
  history_induction (.start started identified working calm)
    fun _ v mem race => race.concat (aside v mem)

end Race

/-- What has become of spawns of one id that began when nobody stood there. -/
structure Contested (s : State) (id : ComponentId) (acts : List Act) : Prop where
  one (m n : Nat) (o p : Order) (a b : Nat) : s.Orders acts m o → s.Orders acts n p → o.id = id →
    p.id = id → (s.run acts).Spawned m (.ok a) → (s.run acts).Spawned n (.ok b) → m = n
  stays (early later : List Act) (n : Nat) (o : Order) (a : Nat) : acts = early ++ later →
    s.Orders acts n o → o.id = id → (s.run early).Spawned n (.ok a) →
      (s.run acts).roster.get? id = some a ∧ ∃ x, (s.run acts).actors[a]? = some x ∧
        (s.run acts).post.routes.get? id = some x.box
  origin (a : Nat) : (s.run acts).roster.get? id = some a →
    ∃ n o, s.Orders acts n o ∧ o.id = id ∧ (s.run acts).Spawned n (.ok a)
  /-- A spawn whose component was loaded and started is yet to look again, has won, or finds the
  component there, as another has won. -/
  passed (early later : List Act) (n : Nat) (o : Order) (a : Nat) : acts = early ++ later →
    s.Orders acts n o → o.id = id → (s.run early).Ready n o a →
      (s.run acts).Ready n o a ∨ (s.run acts).Spawned n (.ok a) ∨
        ((s.run acts).SpawnsAt n o (.discarding a) ∨
          (s.run acts).Spawned n (.error (spawnError o .alreadyExists))) ∧
        ∃ m p b, s.Orders acts m p ∧ p.id = id ∧ (s.run acts).Spawned m (.ok b)
  settles (n : Nat) (o : Order) (a : Nat) : (s.run acts).quiet → s.Orders acts n o → o.id = id →
    ¬ (s.run acts).Ready n o a ∧
      ((s.run acts).SpawnsAt n o (.discarding a) → (s.run acts).Lingers a)

namespace Race

variable (race : s.Race id acts)

include race

theorem origin_of_free (free : s.roster.get? id = none)
    (on : (s.run acts).roster.get? id = some a) :
    ∃ n o, s.Orders acts n o ∧ o.id = id ∧ (s.run acts).Spawned n (.ok a) := by
  refine (race.origin a on).resolve_left fun stood => ?_
  rw [free] at stood
  cases stood

theorem stays_of_won (orders : s.Orders acts n o) (own : o.id = id)
    (wins : (s.run acts).Spawned n (.ok a)) :
    (s.run acts).roster.get? id = some a ∧ ∃ x, (s.run acts).actors[a]? = some x ∧
      (s.run acts).post.routes.get? id = some x.box := by
  obtain ⟨on, route⟩ := race.on_of_won orders own wins
  obtain ⟨x, _, here, _⟩ := race.identified.seated id a on
  exact ⟨on, x, here, by rw [route, boxOf_eq here]⟩

/-- Who has lost has found another on the roster. -/
theorem won_of_taken (free : s.roster.get? id = none)
    (taken : (s.run acts).roster.contains id = true) :
    ∃ m p b, s.Orders acts m p ∧ p.id = id ∧ (s.run acts).Spawned m (.ok b) := by
  obtain ⟨b, on⟩ := Option.isSome_iff_exists.mp taken
  obtain ⟨m, p, winner⟩ := race.origin_of_free free on
  exact ⟨m, p, b, winner⟩

theorem passed_cases (free : s.roster.get? id = none) (orders : s.Orders acts n o)
    (own : o.id = id) (passed : (s.run acts).Passed n o a) :
    (s.run acts).Ready n o a ∨ (s.run acts).Spawned n (.ok a) ∨
      ((s.run acts).SpawnsAt n o (.discarding a) ∨
        (s.run acts).Spawned n (.error (spawnError o .alreadyExists))) ∧
      ∃ m p b, s.Orders acts m p ∧ p.id = id ∧ (s.run acts).Spawned m (.ok b) := by
  have stands := race.stands n o orders own
  subst own
  cases passed with
  | ready ready => exact .inl ready
  | won spawned => exact .inr (.inl spawned)
  | discarding spawns =>
    exact .inr (.inr ⟨.inl spawns, race.won_of_taken free (stands.late spawns rfl).2⟩)
  | refused spawned =>
    exact .inr (.inr ⟨.inr spawned, race.won_of_taken free (stands.taken spawned)⟩)

theorem settles (n : Nat) (o : Order) (a : Nat) (quiet : (s.run acts).quiet)
    (orders : s.Orders acts n o) (own : o.id = id) : ¬ (s.run acts).Ready n o a ∧
      ((s.run acts).SpawnsAt n o (.discarding a) → (s.run acts).Lingers a) := by
  refine ⟨fun ready => ready.stepCall_ne_none (quiet (.call n)), fun spawns => ?_⟩
  have ⟨keep, here⟩ := spawns
  have spawning : ((s.run acts).underWay n).bind Call.spawning? =
      some { order := o, stage := .discarding a, keep } := by
    rw [underWay_eq_some.mpr ⟨here, rfl⟩]
    rfl
  have embodies := race.identified.coming n _ a spawning (.inr rfl)
  exact embodies.lingers race.working quiet ((race.stands n o orders own).late spawns rfl).1
    (spawns.stopOutcome_eq_none (quiet (.call n)))

end Race

section Outcome

variable (started : s.started = true) (identified : s.Identified) (working : s.Working)
  (calm : s.Calm id) (aside : ∀ v ∈ acts, ¬ v.stops id ∧ ¬ v.reroutes id)

include started identified working calm aside

theorem refused_of_taken (on : s.roster.get? id = some a) :
    (s.run acts).roster.get? id = some a ∧
      (s.run acts).post.routes.get? id = s.post.routes.get? id ∧
      ∀ n o, s.Orders acts n o → o.id = id →
        (s.run acts).Spawned n (.error (spawnError o .alreadyExists)) := by
  refine (history_induction (P := fun acts => s.Race id acts ∧
    (s.run acts).roster.get? id = some a ∧
      (s.run acts).post.routes.get? id = s.post.routes.get? id ∧
      ∀ n o, s.Orders acts n o → o.id = id →
        (s.run acts).Spawned n (.error (spawnError o .alreadyExists)))
    ⟨.start started identified working calm, on, rfl,
      fun _ _ orders => absurd orders not_orders_nil⟩ ?_).2
  rintro before v mem ⟨race, on, route, refused⟩
  obtain ⟨on', route'⟩ := entry_after (aside v mem) race.unstopped on
  refine ⟨race.concat (aside v mem), ?_⟩
  rw [run_concat]
  refine ⟨on', route'.trans route, fun n o orders own => ?_⟩
  obtain old | ⟨keep, rfl, rfl⟩ := orders_concat.mp orders
  · exact (refused n o old own).after v
  · exact race.refused_at_once own keep (contains_of_get? on)

theorem contested_of_free (free : s.roster.get? id = none) : s.Contested id acts := by
  have race : s.Race id acts := .run started identified working calm aside
  refine ⟨race.one, ?_, fun _ => race.origin_of_free free, ?_, race.settles⟩
  · rintro early later n o a rfl orders own spawned
    refine race.stays_of_won orders own ?_
    rw [run_append]
    exact spawned.run later
  · rintro early later n o a rfl orders own ready
    refine race.passed_cases free orders own ?_
    rw [run_append]
    exact (Passed.ready ready).run (working.run early) later

end Outcome

/-- Any number of spawns of one id overlap, from where nobody manages its component, and meanwhile
nobody stops it: if somebody stood on the roster, all are refused at once and roster and route stay;
if nobody did, one of those whose actor starts wins for good, and all others are refused. -/
theorem spawns_never_overwrite (config : HostConfig) (engine : Engine) {before acts : List Act}
    {id : ComponentId} (started : ((fresh config engine).run before).started = true)
    (calm : ((fresh config engine).run before).Calm id)
    (aside : ∀ v ∈ acts, ¬ v.stops id ∧ ¬ v.reroutes id) :
    let s := (fresh config engine).run before
    let t := s.run acts
    (∀ a, s.roster.get? id = some a → t.roster.get? id = some a ∧
      t.post.routes.get? id = s.post.routes.get? id ∧
      ∀ n o, s.Orders acts n o → o.id = id →
        t.Spawned n (.error (spawnError o .alreadyExists))) ∧
      (s.roster.get? id = none → s.Contested id acts) := by
  intro s t
  have identified := (Identified.fresh config engine).run before
  have working := (Working.fresh config engine).run before
  exact ⟨fun a => refused_of_taken started identified working calm aside,
    contested_of_free started identified working calm aside⟩

section Overlap

def tidyHost : State := fresh {} (.paced ["cleanup"] (.ofMillis 100))

/-- Two spawns that overlap, of which the second to be asked for is the first to see its actor
start. -/
def contest : List Act :=
  [.spawn sampleOrder none, .spawn sampleOrder none, .move (.call 0), .move (.call 1),
    .move (.actor 0), .move (.actor 1), .move (.call 1)]

def contestEnd : List Act :=
  [.move (.call 0), .move (.actor 0), .wait (.ofMillis 100), .move (.actor 0), .move (.call 0)]

theorem contest_won : (tidyHost.run contest).Spawned 1 (.ok 1) := ⟨0, rfl⟩

theorem contest_lost : (tidyHost.run (contest ++ contestEnd)).Spawned 0
    (.error (spawnError sampleOrder .alreadyExists)) :=
  ⟨.ofMillis 100, by decide +kernel⟩

theorem overlapped_spawn_refused :
    let t := tidyHost.run (contest ++ contestEnd)
    t.roster.get? ⟨"a"⟩ = some 1 ∧ t.post.routes.get? ⟨"a"⟩ = some (t.boxOf 1) ∧
      t.Spawned 0 (.error (spawnError sampleOrder .alreadyExists)) := by
  have calm : tidyHost.Calm ⟨"a"⟩ := calm_of_returned (by decide +kernel)
  have aside : ∀ v ∈ contest ++ contestEnd, ¬ v.stops ⟨"a"⟩ ∧ ¬ v.reroutes ⟨"a"⟩ := by
    simp [contest, contestEnd, Act.stops, Act.reroutes]
  have contested : tidyHost.Contested ⟨"a"⟩ (contest ++ contestEnd) :=
    (@spawns_never_overwrite {} _ [] _ _ rfl calm aside).2 rfl
  have orders : tidyHost.Orders (contest ++ contestEnd) 1 sampleOrder :=
    ⟨[.spawn sampleOrder none], none, _, rfl, rfl⟩
  obtain ⟨on, x, here, route⟩ := contested.stays contest contestEnd 1 _ 1 rfl orders rfl contest_won
  exact ⟨on, by rw [route, boxOf_eq here], contest_lost⟩

end Overlap

end ComponentHost.State
