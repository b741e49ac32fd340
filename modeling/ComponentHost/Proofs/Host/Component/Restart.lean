import ComponentHost.Proofs.Host.Component.ShutdownDrain
import ComponentHost.Proofs.Host.Component.FailedSpawn
import ComponentHost.Proofs.Host.Exchange.RequestFailure

/-! Restarts. A restart stops the component that there is, if there is one, and spawns another under
its id when the stop has succeeded. Either half may fail in its own ways; where no other lifecycle
call gets in between, it is told here what a restart returns and how it leaves the host. -/

namespace ComponentHost.State

variable {s t u : State} {v : Act} {acts : List Act} {n a b : Nat} {id : ComponentId} {o : Order}
  {stage : SpawnStage} {answer : Answer}

/-- The host is open, and no lifecycle call is under way but call `n`, which is about one id. -/
structure Sole (s : State) (n : Nat) (id : ComponentId) : Prop where
  opened : s.started = true
  only (m : Nat) (c : Call) : s.underWay m = some c → m = n ∧ ∀ j, c.concerns j → j = id

namespace Sole

variable (sole : s.Sole n id) (aside : ∀ j, ¬ v.concerns j)

include sole aside

theorem after : (s.after v).Sole n id where
  opened := open_after sole.opened fun shuts => aside id (by rw [shuts]; trivial)
  only m c there := by
    obtain same | asks | ⟨_, c₀, here, goes⟩ := underWay_after sole.opened there
    · exact sole.only m c same
    · obtain ⟨j, asked⟩ := asks.concerns
      exact absurd asked (aside j)
    · obtain ⟨own, concerns⟩ := sole.only m c₀ here
      exact ⟨own, fun j among => concerns j (goes.concerns among)⟩

theorem entry_kept {j : ComponentId} (apart : j ≠ id ∨ v ≠ .move (.call n)) :
    (s.after v).roster.get? j = s.roster.get? j ∧
      (¬ v.reroutes j → (s.after v).post.routes.get? j = s.post.routes.get? j) := by
  -- Whoever else takes a step has nothing to do with `j`.
  have foreign : ∀ m c, v = .move (.call m) → s.underWay m = some c → ¬ c.concerns j := by
    intro m c move here concerns
    obtain ⟨rfl, own⟩ := sole.only m c here
    exact apart.elim (fun other => other (own j concerns)) fun other => other move
  refine State.entry_kept ?_ fun m a move seats => ?_
  · rintro (stops | ⟨m, c, move, here, stops⟩)
    · exact aside j (Act.concerns_of_stops stops)
    · exact foreign m c move here (Call.concerns_of_stops stops)
  · obtain ⟨sp, spawning, rfl⟩ := seats.spawning
    obtain ⟨c, here, spawning⟩ := Option.bind_eq_some_iff.mp spawning
    exact foreign m c move here (Call.concerns_of_spawning spawning)

end Sole

section Ask

def restarted (s : State) (o : Order) (acts : List Act) : State := (s.after (.restart o)).run acts

theorem restarted_concat (s : State) (o : Order) (acts : List Act) (v : Act) :
    s.restarted o (acts ++ [v]) = (s.restarted o acts).after v :=
  run_concat ..

variable (started : s.started = true)

include started

theorem respawn_of_vacant (vacant : s.roster.get? o.id = none) :
    s.respawn o (.ok ()) = .inl (.restartSpawn { order := o }) := by
  rw [respawn, beginSpawn, ensureStarted_of_started started]
  simp [Table.contains, vacant]

theorem respawn_cases (o : Order) (a : Nat) :
    let next := (s.endStop o.id).respawn o (s.stopAnswer o.id a)
    (s.stopOutcome a = some (.ok ()) ∧ next = .inl (.restartSpawn { order := o })) ∨
      s.stopOutcome a ≠ some (.ok ()) ∧ ∃ e, next = .inr (.done (.error e)) := by
  intro next
  have started' : (s.endStop o.id).started = true := started
  have vacant : (s.endStop o.id).roster.get? o.id = none := Table.get?_erase_self _ _
  simp only [next, stopAnswer]
  cases s.stopOutcome a with
  | none => exact .inr ⟨(fun well => by cases well), _, rfl⟩
  | some r =>
    cases r with
    | error e => exact .inr ⟨(fun well => by cases well), _, rfl⟩
    | ok => exact .inl ⟨rfl, respawn_of_vacant started' vacant⟩

end Ask

section Phase

def KeepsOthers (s t : State) (acts : List Act) (id : ComponentId) : Prop :=
  ∀ j, j ≠ id → t.roster.get? j = s.roster.get? j ∧
    ((∀ v ∈ acts, ¬ v.reroutes j) → t.post.routes.get? j = s.post.routes.get? j)

theorem KeepsOthers.concat (keeps : s.KeepsOthers t acts id) (sole : t.Sole n id)
    (aside : ∀ j, ¬ v.concerns j) : s.KeepsOthers (t.after v) (acts ++ [v]) id := by
  intro j other
  obtain ⟨roster, routes⟩ := keeps j other
  obtain ⟨roster', routes'⟩ := sole.entry_kept aside (.inl other)
  refine ⟨roster'.trans roster, fun past => ?_⟩
  rw [routes' (past v List.mem_concat_self)]
  exact routes fun u mem => past u (List.mem_append_left [v] mem)

section Concat

variable (sole : (s.restarted o acts).Sole n id) (aside : ∀ j, ¬ v.concerns j)

include sole aside

theorem sole_concat : (s.restarted o (acts ++ [v])).Sole n id :=
  s.restarted_concat o acts v ▸ sole.after aside

theorem others_concat (others : s.KeepsOthers (s.restarted o acts) acts id) :
    s.KeepsOthers (s.restarted o (acts ++ [v])) (acts ++ [v]) id :=
  s.restarted_concat o acts v ▸ others.concat sole aside

end Concat

def RespawnsAt (s : State) (n : Nat) (o : Order) (stage : SpawnStage) : Prop :=
  s.calls[n]? = some (.running (.restartSpawn { order := o, stage }))

theorem RespawnsAt.move (respawns : s.RespawnsAt n o stage) :
    let t := s.after (.move (.call n))
    (s.stepCall n = none ∧ t = s) ∨
      (stage = .loading ∧ ∃ text, t = s.finish n (.panicked text)) ∨
      (∃ u sp', s.SpawnTurns { order := o, stage } u (.inl sp') ∧
        t = u.proceed n (.restartSpawn sp')) ∨
      ∃ u r, s.SpawnTurns { order := o, stage } u (.inr r) ∧
        t = u.finish n (.done (r.map fun _ => ())) := by
  intro t
  have same : t = (s.stepCall n).getD s := rfl
  cases stepped : s.stepCall n with
  | none => exact .inl ⟨rfl, by rw [same, stepped]; rfl⟩
  | some w =>
    refine .inr ?_
    rw [stepped, Option.getD_some] at same
    rw [same]
    rw [stepCall, respawns] at stepped
    obtain ⟨text, loading, rfl⟩ | ⟨u, sp', turns, rfl⟩ | ⟨u, r, turns, rfl⟩ :=
      stepSpawning_turns ((s.stepRestartSpawn_eq n _).symm.trans stepped)
    · exact .inl ⟨loading, text, rfl⟩
    · exact .inr (.inl ⟨u, sp', turns, rfl⟩)
    · exact .inr (.inr ⟨u, r, turns, rfl⟩)

def BringsUp (s : State) (o : Order) (acts : List Act) (b : Nat) : Prop :=
  ∃ early, early <+: acts ∧ (s.restarted o early).RespawnsAt s.calls.length o (.starting b)

theorem bringsUp_concat : s.BringsUp o (acts ++ [v]) b ↔ s.BringsUp o acts b ∨
    (s.restarted o (acts ++ [v])).RespawnsAt s.calls.length o (.starting b) := by
  constructor
  · rintro ⟨early, first, respawns⟩
    obtain rfl | first := List.prefix_concat_iff.mp first
    · exact .inr respawns
    · exact .inl ⟨early, first, respawns⟩
  · rintro (⟨early, first, respawns⟩ | respawns)
    · exact ⟨early, first.trans (List.prefix_append acts [v]), respawns⟩
    · exact ⟨_, List.prefix_rfl, respawns⟩

/-- Both halves of a restart have succeeded: the actor that there was has ended well, and the one
that was brought up has started. -/
def Renews (s : State) (o : Order) (acts : List Act) : Prop :=
  (∀ a, s.roster.get? o.id = some a →
      (s.restarted o acts).stopOutcome a = some (.ok ())) ∧
    ∃ b, s.BringsUp o acts b ∧ (s.restarted o acts).startOutcome b = some (.ok ())

structure RestartEnds (s : State) (o : Order) (acts : List Act) (answer : Answer) : Prop where
  returned : (s.restarted o acts).calls[s.calls.length]? =
    some (.returned (s.restarted o acts).clock answer)
  waited (fewer : List Act) (v : Act) : acts = fewer ++ [v] →
    (s.restarted o fewer).hasReturned s.calls.length = false
  ok_iff : answer = .done (.ok ()) ↔ s.Renews o acts
  seated : answer = .done (.ok ()) → ∃ b x, s.actors.length ≤ b ∧
    (s.restarted o acts).actors[b]? = some x ∧
    (s.restarted o acts).roster.get? o.id = some b ∧
    (s.restarted o acts).post.routes.get? o.id = some x.box
  vacant : answer ≠ .done (.ok ()) → (s.restarted o acts).roster.get? o.id = none
  others : s.KeepsOthers (s.restarted o acts) acts o.id
  sole : (s.restarted o acts).Sole s.calls.length o.id

structure RestartStops (s : State) (o : Order) (acts : List Act) (a : Nat) : Prop where
  sole : (s.restarted o acts).Sole s.calls.length o.id
  others : s.KeepsOthers (s.restarted o acts) acts o.id
  on : s.roster.get? o.id = some a
  call : (s.restarted o acts).calls[s.calls.length]? =
    some (.running (.restartStop ⟨o.id, a, s.clock + s.config.lifecycle.stopTimeout⟩ o))
  unbrought (b : Nat) : ¬ s.BringsUp o acts b

/-- A restart of `o` that was asked for in `s` spawns, as nobody stands on the roster any more. -/
structure RestartSpawns (s : State) (o : Order) (acts : List Act) (stage : SpawnStage) :
    Prop where
  sole : (s.restarted o acts).Sole s.calls.length o.id
  others : s.KeepsOthers (s.restarted o acts) acts o.id
  call : (s.restarted o acts).RespawnsAt s.calls.length o stage
  vacant : (s.restarted o acts).roster.get? o.id = none
  stopped (a : Nat) : s.roster.get? o.id = some a →
    (s.restarted o acts).stopOutcome a = some (.ok ())
  early (b : Nat) : stage ≠ .discarding b
  new (b : Nat) : stage = .starting b → s.actors.length ≤ b
  brought (b : Nat) : s.BringsUp o acts b → stage = .starting b

/-- How far a restart has come. -/
inductive Restarting (s : State) (o : Order) (acts : List Act) : Prop
  | stopping {a : Nat} (stops : s.RestartStops o acts a)
  | spawning {stage : SpawnStage} (spawns : s.RestartSpawns o acts stage)
  | returned {soon : List Act} {answer : Answer} (early : soon <+: acts)
    (ends : s.RestartEnds o soon answer)

theorem stopOutcome_congr (actors : t.actors = s.actors) (a : Nat) :
    t.stopOutcome a = s.stopOutcome a := by
  rw [stopOutcome, actors, stopOutcome]

section Turn

variable (sole : (s.restarted o acts).Sole s.calls.length o.id)
  (others : s.KeepsOthers (s.restarted o acts) acts o.id)
  (waited : ∀ fewer v, acts = fewer ++ [v] →
    (s.restarted o fewer).hasReturned s.calls.length = false)

include sole others waited

theorem restarting_of_failed
    (returned : (s.restarted o acts).calls[s.calls.length]? =
      some (.returned (s.restarted o acts).clock answer))
    (failed : answer ≠ .done (.ok ())) (missed : ¬ s.Renews o acts)
    (off : (s.restarted o acts).roster.get? o.id = none) : s.Restarting o acts :=
  .returned List.prefix_rfl ⟨returned, waited, iff_of_false failed missed,
    fun well => absurd well failed, fun _ => off, others, sole⟩

theorem restarting_of_stopped {calls : List CallState} (on : s.roster.get? o.id = some a)
    (started : u.started = true) (halted : s.restarted o acts = { u.endStop o.id with calls })
    (call : calls[s.calls.length]? =
      some (.ofNext u.clock ((u.endStop o.id).respawn o (u.stopAnswer o.id a))))
    (brought : ∀ b, s.BringsUp o acts b →
      (s.restarted o acts).RespawnsAt s.calls.length o (.starting b)) : s.Restarting o acts := by
  have actors : (s.restarted o acts).actors = u.actors := by rw [halted]; rfl
  have off : (s.restarted o acts).roster.get? o.id = none := by
    rw [halted]
    exact Table.get?_erase_self _ _
  obtain ⟨well, next⟩ | ⟨badly, e, next⟩ := respawn_cases started o a
  · have call : (s.restarted o acts).RespawnsAt s.calls.length o .loading := by
      rw [RespawnsAt, halted, call, next]
      rfl
    refine .spawning ⟨sole, others, call, off, fun a' on' => ?_, nofun, nofun, fun b up => ?_⟩
    · cases on.symm.trans on'
      rw [stopOutcome_congr actors, well]
    · cases call.symm.trans (brought b up)
  · have returned : (s.restarted o acts).calls[s.calls.length]? =
        some (.returned (s.restarted o acts).clock (.done (.error e))) := by
      rw [halted, call, next]
      rfl
    refine restarting_of_failed sole others waited returned nofun (fun ⟨stopped, _⟩ => ?_) off
    exact absurd (stopOutcome_congr actors a ▸ stopped a on) badly

end Turn

end Phase

section Begin

variable (started : s.started = true)

include started

end Begin

namespace RestartStops

variable (stops : s.RestartStops o acts a)

include stops

theorem underWay : (s.restarted o acts).underWay s.calls.length =
    some (.restartStop ⟨o.id, a, s.clock + s.config.lifecycle.stopTimeout⟩ o) :=
  underWay_eq_some.mpr ⟨stops.call, rfl⟩

theorem stepCall_eq : (s.restarted o acts).stepCall s.calls.length =
    if (s.restarted o acts).stopOutcome a = none ∧
        ¬ s.clock + s.config.lifecycle.stopTimeout ≤ (s.restarted o acts).clock then none
    else some (((s.restarted o acts).endStop o.id).carryOn s.calls.length
      (((s.restarted o acts).endStop o.id).respawn o
        ((s.restarted o acts).stopAnswer o.id a))) := by
  rw [stepCall, stops.call]
  exact stepRestartStop_eq _ _ ⟨o.id, a, _⟩ o

theorem waits (aside : ∀ j, ¬ v.concerns j)
    (call : (s.restarted o (acts ++ [v])).calls[s.calls.length]? =
      some (.running (.restartStop ⟨o.id, a, s.clock + s.config.lifecycle.stopTimeout⟩ o))) :
    s.RestartStops o (acts ++ [v]) a where
  sole := sole_concat stops.sole aside
  others := others_concat stops.sole aside stops.others
  on := stops.on
  call := call
  unbrought b up := by
    obtain up | respawns := bringsUp_concat.mp up
    · exact stops.unbrought b up
    · cases call.symm.trans respawns

theorem own (move : v = .move (.call s.calls.length)) : s.Restarting o (acts ++ [v]) := by
  have aside := Act.not_concerns_of_move move
  have moved : s.restarted o (acts ++ [v]) =
      ((s.restarted o acts).stepCall s.calls.length).getD (s.restarted o acts) := by
    rw [restarted_concat, move]
    rfl
  rw [stops.stepCall_eq] at moved
  by_cases waits : (s.restarted o acts).stopOutcome a = none ∧
      ¬ s.clock + s.config.lifecycle.stopTimeout ≤ (s.restarted o acts).clock
  · rw [if_pos waits, Option.getD_none] at moved
    exact .stopping (stops.waits aside (by rw [moved]; exact stops.call))
  · rw [if_neg waits, Option.getD_some, carryOn_eq] at moved
    refine restarting_of_stopped (sole_concat stops.sole aside)
      (others_concat stops.sole aside stops.others)
      (fun fewer w split => ?_) stops.on stops.sole.opened moved ?_ fun b up => ?_
    · obtain ⟨rfl, _⟩ := List.append_singleton_inj.mp split
      rw [hasReturned, stops.call]
    · exact List.getElem?_set_self (List.getElem?_eq_some_iff.mp stops.call).1
    · exact (bringsUp_concat.mp up).resolve_left (stops.unbrought b)

end RestartStops

namespace RestartSpawns

variable (spawns : s.RestartSpawns o acts stage)

include spawns

theorem underWay : (s.restarted o acts).underWay s.calls.length =
    some (.restartSpawn { order := o, stage }) :=
  underWay_eq_some.mpr ⟨spawns.call, rfl⟩

theorem waited {fewer : List Act} {w : Act} (split : acts ++ [v] = fewer ++ [w]) :
    (s.restarted o fewer).hasReturned s.calls.length = false := by
  obtain ⟨rfl, _⟩ := List.append_singleton_inj.mp split
  rw [hasReturned, spawns.call]

theorem stopped_concat (v : Act) (on : s.roster.get? o.id = some a) :
    (s.restarted o (acts ++ [v])).stopOutcome a = some (.ok ()) := by
  rw [restarted_concat]
  exact stopOutcome_after (spawns.stopped a on) v

theorem goes {stage' : SpawnStage} (aside : ∀ j, ¬ v.concerns j)
    (call : (s.restarted o (acts ++ [v])).RespawnsAt s.calls.length o stage')
    (roster : (s.restarted o (acts ++ [v])).roster.get? o.id =
      (s.restarted o acts).roster.get? o.id)
    (on : stage' = stage ∨ stage = .loading ∧ ∃ b, stage' = .starting b ∧ s.actors.length ≤ b) :
    s.RestartSpawns o (acts ++ [v]) stage' where
  sole := sole_concat spawns.sole aside
  others := others_concat spawns.sole aside spawns.others
  call := call
  vacant := roster.trans spawns.vacant
  stopped _ := spawns.stopped_concat v
  early b := by
    obtain rfl | ⟨_, _, rfl, _⟩ := on
    · exact spawns.early b
    · exact nofun
  new b same := by
    obtain rfl | ⟨_, _, rfl, known⟩ := on
    · exact spawns.new b same
    · cases same
      exact known
  brought b up := by
    obtain up | respawns := bringsUp_concat.mp up
    · obtain rfl | ⟨loading, _⟩ := on
      · exact spawns.brought b up
      · cases loading.symm.trans (spawns.brought b up)
    · cases call.symm.trans respawns
      rfl

theorem fails (move : v = .move (.call s.calls.length))
    (leaves : s.restarted o (acts ++ [v]) = (s.restarted o acts).finish s.calls.length answer)
    (failed : answer ≠ .done (.ok ())) (unready : ∀ b, stage = .starting b →
      (s.restarted o acts).startOutcome b ≠ some (.ok ())) : s.Restarting o (acts ++ [v]) := by
  have aside := Act.not_concerns_of_move move
  have returned : (s.restarted o (acts ++ [v])).calls[s.calls.length]? =
      some (.returned (s.restarted o (acts ++ [v])).clock answer) := by
    rw [leaves]
    exact List.getElem?_set_self (List.getElem?_eq_some_iff.mp spawns.call).1
  refine restarting_of_failed (sole_concat spawns.sole aside)
    (others_concat spawns.sole aside spawns.others)
    (fun _ _ => spawns.waited) returned failed (fun ⟨_, b, up, ready⟩ => ?_) ?_
  · obtain up | respawns := bringsUp_concat.mp up
    · rw [leaves] at ready
      exact unready b (spawns.brought b up) ready
    · cases returned.symm.trans respawns
  · rw [leaves]
    exact spawns.vacant

theorem seats (working : (s.restarted o acts).Working) (move : v = .move (.call s.calls.length))
    (starting : stage = .starting b) (ready : (s.restarted o acts).startOutcome b = some (.ok ()))
    (outline : u.outline = { (s.restarted o acts).outline with
      roster := (s.restarted o acts).roster.insert o.id b
      routes := (s.restarted o acts).post.routes.insert o.id ((s.restarted o acts).boxOf b)
      enrolling := (s.restarted o acts).enrolling ++ [o.id] })
    (calls : u.calls = (s.restarted o acts).calls)
    (leaves : s.restarted o (acts ++ [v]) = u.finish s.calls.length (.done (.ok ()))) :
    s.Restarting o (acts ++ [v]) := by
  have aside := Act.not_concerns_of_move move
  have returned : (s.restarted o (acts ++ [v])).calls[s.calls.length]? =
      some (.returned (s.restarted o (acts ++ [v])).clock (.done (.ok ()))) := by
    rw [leaves, finish, calls]
    exact List.getElem?_set_self (List.getElem?_eq_some_iff.mp spawns.call).1
  have ready' : (s.restarted o (acts ++ [v])).startOutcome b = some (.ok ()) := by
    rw [restarted_concat]
    exact working.started_after ready v
  have up : s.BringsUp o (acts ++ [v]) b := ⟨acts, List.prefix_append _ _, starting ▸ spawns.call⟩
  obtain ⟨x, here, _⟩ := startOutcome_ok_iff.mp ready
  obtain ⟨y, there, _⟩ := startOutcome_ok_iff.mp ready'
  -- The route was given the mailbox that the actor came up with, and still has.
  have leads : (s.restarted o acts).boxOf b = y.box := by
    rw [← boxOf_eq there, restarted_concat, boxOf_after (List.getElem?_eq_some_iff.mp here).1]
  refine .returned List.prefix_rfl ⟨returned, fun _ _ => spawns.waited,
    iff_of_true rfl ⟨fun _ => spawns.stopped_concat v, b, up, ready'⟩,
    fun _ => ⟨b, y, spawns.new b starting, there, ?_, ?_⟩, fun failed => absurd rfl failed,
    others_concat spawns.sole aside spawns.others,
    sole_concat spawns.sole aside⟩
  · have roster : u.roster = (s.restarted o acts).roster.insert o.id b :=
      congrArg Outline.roster outline
    rw [leaves]
    exact (congrArg (·.get? o.id) roster).trans (Table.get?_insert_self _ _ _)
  · have routes : u.post.routes =
        (s.restarted o acts).post.routes.insert o.id ((s.restarted o acts).boxOf b) :=
      congrArg Outline.routes outline
    rw [leaves, ← leads]
    exact (congrArg (·.get? o.id) routes).trans (Table.get?_insert_self _ _ _)

theorem own (working : (s.restarted o acts).Working)
    (grown : s.actors.length ≤ (s.restarted o acts).actors.length)
    (move : v = .move (.call s.calls.length)) : s.Restarting o (acts ++ [v]) := by
  have aside := Act.not_concerns_of_move move
  have moved : s.restarted o (acts ++ [v]) =
      (s.restarted o acts).after (.move (.call s.calls.length)) := by
    rw [restarted_concat, move]
  obtain ⟨_, same⟩ | ⟨loading, text, same⟩ | ⟨u, sp', turns, same⟩ | ⟨u, r, turns, same⟩ :=
    spawns.call.move <;> rw [← moved] at same
  · exact .spawning (spawns.goes aside (same ▸ spawns.call) (by rw [same]) (.inl rfl))
  · refine spawns.fails move same (fun well => by cases well) fun b starting => ?_
    cases loading.symm.trans starting
  · have calls := turns.calls
    have roster := (turns.untouched fun b seats => by cases seats).roster
    cases turns with
    | late _ _ taken =>
      -- Nobody else can have come to stand there.
      rw [Table.contains, spawns.vacant] at taken
      cases taken
    | created loading =>
      refine .spawning (spawns.goes aside ?_ ?_ (.inr ⟨loading, _, rfl, grown⟩))
      · rw [same, RespawnsAt, proceed, calls]
        exact List.getElem?_set_self (List.getElem?_eq_some_iff.mp spawns.call).1
      · rw [same]
        exact congrArg (·.get? o.id) roster
  · cases turns with
    | unloaded loading =>
      refine spawns.fails move same (fun well => by cases well) fun b starting => ?_
      cases loading.symm.trans starting
    | unstarted starting failed =>
      refine spawns.fails move same (fun well => by cases well) fun b starting' ready => ?_
      cases starting.symm.trans starting'
      cases failed.symm.trans ready
    | seated starting ready free outline calls =>
      exact spawns.seats working move starting ready outline calls same
    | discarded stage => exact absurd stage (spawns.early _)

end RestartSpawns

namespace Restarting

variable (restarting : s.Restarting o acts)

include restarting

theorem concat (working : (s.restarted o acts).Working)
    (grown : s.actors.length ≤ (s.restarted o acts).actors.length)
    (turn : ∀ id, v.concerns id → ∀ m, (s.restarted o acts).underWay m = none) :
    s.Restarting o (acts ++ [v]) := by
  -- As long as the restart is under way, no other lifecycle call is asked for.
  have alone : ∀ c, (s.restarted o acts).underWay s.calls.length = some c →
      ∀ id, ¬ v.concerns id := by
    intro c here id asked
    rw [turn id asked] at here
    cases here
  by_cases own : v = .move (.call s.calls.length)
  · cases restarting with
    | stopping stops => exact stops.own own
    | spawning spawns => exact spawns.own working grown own
    | returned early ends => exact .returned (early.trans (List.prefix_append acts [v])) ends
  · cases restarting with
    | stopping stops =>
      refine .stopping (stops.waits (alone _ stops.underWay) ?_)
      rw [restarted_concat]
      exact calls_after (fun _ => rfl) stops.call own
    | spawning spawns =>
      have aside := alone _ spawns.underWay
      refine .spawning (spawns.goes aside ?_ ?_ (.inl rfl))
      · rw [restarted_concat]
        exact calls_after (fun _ => rfl) spawns.call own
      · rw [restarted_concat]
        exact (spawns.sole.entry_kept aside (.inr own)).1
    | returned early ends => exact .returned (early.trans (List.prefix_append acts [v])) ends

omit restarting in
theorem run (start : s.Restarting o []) (working : s.Working)
    (turn : (s.after (.restart o)).InTurn acts) : s.Restarting o acts := by
  refine split_induction start fun before v later split restarting => ?_
  have grown : s.actors.length ≤ (s.restarted o before).actors.length :=
    run_induction (P := fun t => s.actors.length ≤ t.actors.length)
      (s.after_plays _).actors_length fun t w _ grown =>
        Nat.le_trans grown (t.after_plays w).actors_length
  exact restarting.concat ((working.after _).run before) grown (turn before v later split)

end Restarting

theorem RestartEnds.idle (ends : s.RestartEnds o acts answer) (m : Nat) :
    (s.restarted o acts).underWay m = none := by
  cases here : (s.restarted o acts).underWay m with
  | none => rfl
  | some c =>
    obtain ⟨rfl, _⟩ := ends.sole.only m c here
    cases ends.returned.symm.trans (underWay_eq_some.mp here).1

theorem RestartEnds.unrouted (ends : s.RestartEnds o acts answer) (failed : answer ≠ .done (.ok ()))
    (routed : (s.restarted o acts).Routed o.id) :
    (s.restarted o acts).post.routes.get? o.id = none := by
  have still : ¬ (s.restarted o acts).Winding o.id := by
    rintro ⟨m, c, here, _⟩
    rw [ends.idle m] at here
    cases here
  rw [routed.routed still, ends.vacant failed]
  rfl

section Sample

end Sample

end ComponentHost.State
