import ComponentHost.Proofs.Host.Act.OwnSteps
import ComponentHost.Proofs.Host.ClosedHost
import ComponentHost.Proofs.Host.Act.Listing

/-! What becomes of a component while a shutdown is under way that no other lifecycle call overlaps.
It stands in its place until the shutdown comes to it, is told to stop and loses its route, and is
off the roster when it has ended or has had the time for it; none of it is undone. -/

namespace ComponentHost.State

variable {s t u : State} {v : Act} {n a : Nat} {id : ComponentId} {x y : Actor}

structure InPlace (s : State) (id : ComponentId) (a : Nat) : Prop where
  on : s.roster.get? id = some a
  one (j : ComponentId) : s.roster.get? j = some a → j = id
  free : ∃ x, s.actors[a]? = some x ∧ x.awaited = false

def Told (s : State) (a : Nat) : Prop := ∃ x, s.actors[a]? = some x ∧ x.told = true

structure Leaving (s : State) (id : ComponentId) (a : Nat) : Prop where
  unrouted : s.post.routes.get? id = none
  told : s.Told a

theorem told_after (told : s.Told a) (v : Act) : (s.after v).Told a := by
  obtain ⟨x, here, told⟩ := told
  obtain ⟨y, there, becomes⟩ := actor_after here v
  exact ⟨y, there, becomes.told told⟩

theorem unlisted_after (unseated : ∀ m, ¬ s.Spawning m id) (off : s.roster.get? id = none) :
    (s.after v).roster.get? id = none := by
  obtain same | ⟨_, gone⟩ | ⟨_, _, _, seats, _⟩ := s.roster_after v id
  · exact same.trans off
  · exact gone
  · exact absurd seats.spawning (unseated _)

/-- Unlike `unrouted_after`, also in a host that is shut down. -/
theorem unrouted_stays (unseated : ∀ m, ¬ s.Spawning m id) (aside : ¬ v.reroutes id)
    (unrouted : s.post.routes.get? id = none) : (s.after v).post.routes.get? id = none := by
  cases s.after_relists v id with
  | reroutes past => exact absurd past aside
  | rests same | enrolls _ _ same => exact (congrArg Listing.box same).trans unrouted
  | unroutes _ _ same => exact congrArg Listing.box same
  | leaves _ box route same =>
    refine (congrArg Listing.box same).trans ?_
    obtain gone | ⟨left, _⟩ := route
    · exact gone
    · exact left.trans unrouted
  | seats _ seats => exact absurd seats.spawning (unseated _)

theorem Leaving.after (leaving : s.Leaving id a) (unseated : ∀ m, ¬ s.Spawning m id)
    (aside : ¬ v.reroutes id) : (s.after v).Leaving id a where
  unrouted := unrouted_stays unseated aside leaving.unrouted
  told := told_after leaving.told v

section Drain

theorem InPlace.told (place : s.InPlace id a) : (s.told id a).Leaving id a where
  unrouted :=
    (congrArg (·.routes.get? id) (s.outline_told id a)).trans (Table.get?_erase_self _ _)
  told := by
    obtain ⟨x, here, _⟩ := place.free
    refine ⟨{ x with told := true, awaited := true }, ?_, rfl⟩
    rw [actors_told, List.getElem?_modify_eq, here]
    rfl

theorem InPlace.told_other (place : s.InPlace id a) {j : ComponentId} {b : Nat} (other : j ≠ id)
    (there : s.roster.get? j = some b) : (s.told j b).InPlace id a := by
  have roster : (s.told j b).roster = s.roster := congrArg Outline.roster (s.outline_told j b)
  have apart : b ≠ a := by
    rintro rfl
    exact other (place.one j there)
  obtain ⟨x, here, free⟩ := place.free
  refine ⟨roster ▸ place.on, fun k on => place.one k (roster ▸ on), x, ?_, free⟩
  rw [actors_told, List.getElem?_modify_ne _ _ apart, here]

theorem InPlace.endStop (place : s.InPlace id a) {j : ComponentId} (other : j ≠ id) :
    (s.endStop j).InPlace id a := by
  refine ⟨(Table.get?_erase_of_ne _ (Ne.symm other)).trans place.on, fun k on => ?_, place.free⟩
  rw [roster_endStop, Table.get?_erase] at on
  split at on
  · cases on
  · exact place.one k on

theorem Leaving.drain (leaving : s.Leaving id a) (ids : List ComponentId) :
    (s.drain ids).1.Leaving id a where
  unrouted := by
    obtain same | gone := Unroutes.drain ids s id
    · exact same.trans leaving.unrouted
    · exact gone
  told := by
    obtain ⟨x, here, told⟩ := leaving.told
    obtain same | ⟨_, same⟩ := (drain_tells ids s).actors here
    · exact ⟨x, same, told⟩
    · exact ⟨_, same, rfl⟩

theorem over_drain (gone : s.Over a) (ids : List ComponentId) : (s.drain ids).1.Over a := by
  obtain ⟨x, here, ended⟩ := gone
  obtain same | ⟨_, same⟩ := (drain_tells ids s).actors here
  · exact ⟨x, same, ended⟩
  · exact ⟨_, same, ended⟩

/-- Where a drain of `s` leaves a component that it is given: it has yet to come to it, waits for
it, or is done with it. -/
inductive Drains (s t : State) (waits : Option (Stop × List ComponentId)) (id : ComponentId)
    (a : Nat) : Prop
  | ahead {st : Stop} {rest : List ComponentId} (waits : waits = some (st, rest))
    (other : st.id ≠ id) (among : id ∈ rest) (place : t.InPlace id a)
  | current {rest : List ComponentId}
    (waits : waits = some (⟨id, a, s.clock + s.config.lifecycle.stopTimeout⟩, rest))
    (leaving : t.Leaving id a)
  | behind (unlisted : t.roster.get? id = none) (leaving : t.Leaving id a)
    (ended : t.Over a ∨ s.config.lifecycle.stopTimeout = 0)

namespace Drains

variable {waits : Option (Stop × List ComponentId)}

theorem of_setting (drains : u.Drains t waits id a)
    (setting : u.config = s.config ∧ u.clock = s.clock) : s.Drains t waits id a := by
  obtain ⟨config, clock⟩ := setting
  cases drains with
  | ahead waits other among place => exact .ahead waits other among place
  | current waits leaving =>
    rw [config, clock] at waits
    exact .current waits leaving
  | behind unlisted leaving ended =>
    rw [config] at ended
    exact .behind unlisted leaving ended

theorem of_calls (drains : s.Drains t waits id a) (calls : List CallState) :
    s.Drains { t with calls := calls } waits id a := by
  cases drains with
  | ahead waits other among place =>
    exact .ahead waits other among ⟨place.on, place.one, place.free⟩
  | current waits leaving => exact .current waits ⟨leaving.unrouted, leaving.told⟩
  | behind unlisted leaving ended => exact .behind unlisted ⟨leaving.unrouted, leaving.told⟩ ended

end Drains

/-- A drain does not stop at what comes of a stop, unless it has to wait. -/
theorem drain_drains (place : s.InPlace id a) {ids : List ComponentId} (among : id ∈ ids) :
    s.Drains (s.drain ids).1 (s.drain ids).2 id a := by
  induction ids generalizing s with
  | nil => cases among
  | cons j ids ih =>
    unfold State.drain
    by_cases own : j = id
    · subst own
      obtain ⟨x, here, free⟩ := place.free
      rw [beginStop_eq place.on here free]
      by_cases waits : (s.told j a).stopOutcome a = none ∧ s.config.lifecycle.stopTimeout ≠ 0
      · rw [if_pos waits]
        exact .current rfl place.told
      · rw [if_neg waits]
        have leaving : ((s.told j a).endStop j).Leaving j a :=
          ⟨place.told.unrouted, place.told.told⟩
        refine .behind ((drain_sheds ids _).1.absent (Table.get?_erase_self _ _))
          (leaving.drain ids) ?_
        cases outcome : (s.told j a).stopOutcome a with
        | none => exact .inr (Decidable.not_not.mp fun ready => waits ⟨outcome, ready⟩)
        | some r =>
          have gone : ((s.told j a).endStop j).Over a := over_of_stopOutcome outcome
          exact .inl (over_drain gone ids)
    · have later : id ∈ ids := (List.mem_cons.mp among).resolve_left (Ne.symm own)
      obtain ⟨_, _, same⟩ | ⟨b, there, ⟨_, same⟩ | ⟨_, same⟩⟩ := s.beginStop_cases j <;> rw [same]
      · exact ih place later
      · have setting : ((s.told j b).endStop j).config = s.config ∧
            ((s.told j b).endStop j).clock = s.clock := s.setting_told j b
        exact (ih ((place.told_other own there).endStop own) later).of_setting setting
      · exact .ahead rfl own later (place.told_other own there)

end Drain

structure Alone (s : State) (n : Nat) : Prop where
  closed : s.started = false
  only (m : Nat) (c : Call) : s.underWay m = some c → m = n ∧ ∃ st rest, c = .shutdown st rest

namespace Alone

variable (alone : s.Alone n)

include alone

theorem unseated (m : Nat) (id : ComponentId) : ¬ s.Spawning m id := by
  rintro ⟨sp, spawning, _⟩
  obtain ⟨c, here, spawning⟩ := Option.bind_eq_some_iff.mp spawning
  obtain ⟨_, st, rest, rfl⟩ := alone.only m c here
  cases spawning

theorem not_begins : ¬ s.Begins v t := fun begins => by
  have opened := begins.opened
  rw [alone.closed] at opened
  cases opened

theorem after (v : Act) : (s.after v).Alone n where
  closed := started_after alone.closed
  only m c there := by
    cases s.after_turn v with
    | idle _ underWay => exact alone.only m c (underWay ▸ there)
    | begins begins => exact absurd begins alone.not_begins
    | advances k d _ here stepped advances =>
      by_cases own : m = k
      · subst own
        obtain ⟨same, st, rest, rfl⟩ := alone.only m d here
        cases goes_of_step here stepped there with
        | shutdown => exact ⟨same, _, _, rfl⟩
      · exact alone.only m c (advances.others m own ▸ there)

theorem run (acts : List Act) : (s.run acts).Alone n :=
  run_induction (P := (·.Alone n)) alone fun _ v _ alone => alone.after v

theorem aside (other : v ≠ .move (.call n)) :
    (s.after v).underWay = s.underWay ∧ (s.after v).roster = s.roster := by
  cases s.after_turn v with
  | idle _ underWay roster => exact ⟨underWay, roster⟩
  | begins begins => exact absurd begins alone.not_begins
  | advances m c move here => exact absurd ((alone.only m c here).1 ▸ move) other

theorem awaited (other : v ≠ .move (.call n)) (past : v ≠ .stopActor a)
    (here : s.actors[a]? = some x) (there : (s.after v).actors[a]? = some y) :
    y.awaited = x.awaited := by
  have refuses := refuses_of_closed alone.closed
  have still : (s.after v).actors = s.actors → y.awaited = x.awaited := by
    intro same
    rw [same, here] at there
    cases there
    rfl
  refine ((s.after_plays v).awaited here there).elim (fun same => same) fun halts => ?_
  cases v with
  | stopActor b => exact absurd (congrArg Act.stopActor (Eq.symm halts)) past
  | stop id => exact still (by rw [refuses.stop]; rfl)
  | restart o => exact still (by rw [refuses.restart]; rfl)
  | shutdown => exact still (by rw [refuses.shutdown]; rfl)
  | move m =>
    cases m with
    | call m =>
      obtain ⟨sp, spawning, _⟩ | ⟨st, rest, _, waits, _⟩ := halts
      · exact absurd ⟨sp, spawning, rfl⟩ (alone.unseated m sp.order.id)
      · exact absurd (by rw [(alone.only m _ waits).1]) other
    | _ => exact halts.elim
  | _ => exact halts.elim

theorem inPlace (other : v ≠ .move (.call n)) (past : v ≠ .stopActor a)
    (place : s.InPlace id a) : (s.after v).InPlace id a := by
  obtain ⟨_, roster⟩ := alone.aside other
  obtain ⟨x, here, free⟩ := place.free
  obtain ⟨y, there, _⟩ := actor_after here v
  exact ⟨roster ▸ place.on, fun j on => place.one j (roster ▸ on), y, there,
    (alone.awaited other past here there).trans free⟩

end Alone

/-- Actor `a` was told to stop in the course of some acts, and by their end it has ended or has had
a time for it. -/
def GivenNotice (s : State) (acts : List Act) (a : Nat) (bound : Duration) : Prop :=
  ∃ soon, soon <+: acts ∧ (s.run soon).Told a ∧
    ((s.run acts).Over a ∨ (s.run soon).clock + bound ≤ (s.run acts).clock)

theorem GivenNotice.concat {acts : List Act} {bound : Duration}
    (given : s.GivenNotice acts a bound) (v : Act) : s.GivenNotice (acts ++ [v]) a bound := by
  obtain ⟨soon, early, told, ended⟩ := given
  refine ⟨soon, early.trans (List.prefix_append acts [v]), told, ?_⟩
  rw [run_concat]
  exact ended.imp (over_after · v) fun late => Nat.le_trans late (clock_le_after _ v)

theorem step_shutdown {st : Stop} {rest : List ComponentId}
    (here : s.underWay n = some (.shutdown st rest)) : s.step (.call n) =
      if s.stopOutcome st.actor = none ∧ ¬ st.deadline ≤ s.clock then none
      else some (((s.endStop st.id).drain rest).1.carryOn n
        (drained ((s.endStop st.id).drain rest).2)) := by
  obtain ⟨running, _⟩ := underWay_eq_some.mp here
  have goes : ∀ r, s.stepStop st = some (s.endStop st.id, r) → s.stepShutdown n st rest =
      some (((s.endStop st.id).drain rest).1.carryOn n
        (drained ((s.endStop st.id).drain rest).2)) := by
    intro r finished
    rw [stepShutdown, finished]
    dsimp only [Option.bind_eq_bind, Option.bind_some]
    generalize (s.endStop st.id).drain rest = outcome
    obtain ⟨u, waits⟩ := outcome
    cases waits <;> rfl
  rw [step, stepCall, running]
  dsimp only
  cases outcome : s.stopOutcome st.actor with
  | some r =>
    rw [if_neg fun waits => Option.some_ne_none r waits.1]
    exact goes _ (by rw [stepStop, outcome])
  | none =>
    by_cases late : st.deadline ≤ s.clock
    · rw [if_neg (fun waits => waits.2 late)]
      exact goes _ (by rw [stepStop, outcome]; exact if_pos late)
    · rw [if_pos ⟨rfl, late⟩, stepShutdown, stepStop, outcome]
      dsimp only
      rw [if_neg late]
      rfl

theorem shutdown_goes_on {st : Stop} {rest : List ComponentId}
    (here : s.underWay n = some (.shutdown st rest)) :
    s.after (.move (.call n)) = s ∨ (s.stopOutcome st.actor = none → st.deadline ≤ s.clock) ∧
      s.after (.move (.call n)) = ((s.endStop st.id).drain rest).1.carryOn n
        (drained ((s.endStop st.id).drain rest).2) := by
  have stepped := step_shutdown here
  rw [State.after]
  split at stepped
  · rw [stepped]
    exact .inl rfl
  case isFalse ready =>
    rw [stepped]
    exact .inr ⟨fun none => Decidable.not_not.mp fun early => ready ⟨none, early⟩, rfl⟩

inductive Passes (s : State) (acts : List Act) (n : Nat) (id : ComponentId) (a : Nat) : Prop
  | ahead {st : Stop} {rest : List ComponentId}
    (waits : (s.run acts).underWay n = some (.shutdown st rest)) (other : st.id ≠ id)
    (among : id ∈ rest) (place : (s.run acts).InPlace id a)
  | current {deadline : Duration} {rest : List ComponentId}
    (waits : (s.run acts).underWay n = some (.shutdown ⟨id, a, deadline⟩ rest))
    (leaving : (s.run acts).Leaving id a) {soon : List Act} (early : soon <+: acts)
    (told : (s.run soon).Told a)
    (since : (s.run soon).clock + s.config.lifecycle.stopTimeout ≤ deadline)
  | behind (unlisted : (s.run acts).roster.get? id = none) (leaving : (s.run acts).Leaving id a)
    (given : s.GivenNotice acts a s.config.lifecycle.stopTimeout)

theorem Drains.passes {acts : List Act} {waits : Option (Stop × List ComponentId)}
    (drains : u.Drains (s.run acts) waits id a)
    (setting : u.config = s.config ∧ u.clock = (s.run acts).clock)
    (underWay : ∀ st rest, waits = some (st, rest) →
      (s.run acts).underWay n = some (.shutdown st rest)) : s.Passes acts n id a := by
  obtain ⟨config, clock⟩ := setting
  cases drains with
  | ahead waits other among place => exact .ahead (underWay _ _ waits) other among place
  | current waits leaving =>
    refine .current (underWay _ _ waits) leaving (List.prefix_refl acts) leaving.told ?_
    rw [config, clock]
    exact Nat.le_refl _
  | behind unlisted leaving ended =>
    refine .behind unlisted leaving ⟨acts, List.prefix_refl acts, leaving.told, ?_⟩
    refine ended.imp_right fun hurried => ?_
    rw [← config, hurried]
    exact Nat.le_refl _

namespace Passes

variable {acts : List Act} (passes : s.Passes acts n id a) (alone : (s.run acts).Alone n)

include passes alone

theorem aside (other : v ≠ .move (.call n)) (past : v ≠ .stopActor a) (off : ¬ v.reroutes id) :
    s.Passes (acts ++ [v]) n id a := by
  have unseated : ∀ m, ¬ (s.run acts).Spawning m id := fun m => alone.unseated m id
  obtain ⟨underWay, _⟩ := alone.aside other
  cases passes with
  | ahead waits apart among place =>
    refine .ahead ?_ apart among ?_ <;> rw [run_concat]
    · rw [underWay, waits]
    · exact alone.inPlace other past place
  | current waits leaving early told since =>
    have waits' := waits
    rw [← underWay, ← run_concat] at waits'
    refine .current waits' ?_ (early.trans (List.prefix_append acts [v])) told since
    rw [run_concat]
    exact leaving.after unseated off
  | behind unlisted leaving given =>
    refine .behind ?_ ?_ (given.concat v) <;> rw [run_concat]
    · exact unlisted_after unseated unlisted
    · exact leaving.after unseated off

theorem own : s.Passes (acts ++ [.move (.call n)]) n id a := by
  have unseated : ∀ m, ¬ (s.run acts).Spawning m id := fun m => alone.unseated m id
  have off : ¬ (Act.move (.call n)).reroutes id := not_false
  have later : acts <+: acts ++ [.move (.call n)] := List.prefix_append _ _
  have clock : (s.run (acts ++ [.move (.call n)])).clock = (s.run acts).clock := by
    rw [run_concat]
    exact ((s.run acts).setting_after _).2 nofun
  cases passes with
  | @ahead st rest waits apart among place =>
    obtain same | ⟨_, same⟩ := shutdown_goes_on waits <;> rw [← run_concat] at same
    · exact .ahead (same ▸ waits) apart among (same ▸ place)
    · have drains := drain_drains (place.endStop apart) among
      have running := (drain_sheds rest ((s.run acts).endStop st.id)).1.underWay
      generalize ((s.run acts).endStop st.id).drain rest = outcome at same drains running
      obtain ⟨t, next⟩ := outcome
      have here : t.underWay n = some (.shutdown st rest) := (congrFun running n).trans waits
      have ended : ((s.run acts).endStop st.id).Drains (s.run (acts ++ [.move (.call n)]))
          next id a := by
        rw [same]
        cases drained next <;> exact drains.of_calls _
      refine ended.passes ⟨s.config_run acts, clock.symm⟩ fun st' rest' waits' => ?_
      rw [same, underWay_carryOn_self here]
      exact ⟨drained_eq_inl.mpr ⟨st', rest', waits', rfl⟩, rfl⟩
  | @current deadline rest waits leaving soon early told since =>
    obtain same | ⟨late, same⟩ := shutdown_goes_on waits <;> rw [← run_concat] at same
    · exact .current (same ▸ waits) (same ▸ leaving) (early.trans later) told since
    · refine .behind ?_ ?_ ⟨soon, early.trans later, told, ?_⟩
      · rw [same, roster_carryOn]
        exact (drain_sheds rest _).1.absent (Table.get?_erase_self _ _)
      · rw [run_concat]
        exact leaving.after unseated off
      · cases outcome : (s.run acts).stopOutcome a with
        | none =>
          rw [clock]
          exact .inr (Nat.le_trans since (late outcome))
        | some r =>
          rw [run_concat]
          exact .inl (over_after (over_of_stopOutcome outcome) _)
  | behind unlisted leaving given =>
    refine .behind ?_ ?_ (given.concat _) <;> rw [run_concat]
    · exact unlisted_after unseated unlisted
    · exact leaving.after unseated off

end Passes

theorem Passes.run (alone : s.Alone n) (start : s.Passes [] n id a) {acts : List Act}
    (past : ∀ v ∈ acts, v ≠ .stopActor a ∧ ¬ v.reroutes id) : s.Passes acts n id a := by
  refine history_induction (P := (s.Passes · n id a)) start fun before v mem passes => ?_
  by_cases own : v = .move (.call n)
  · subst own
    exact passes.own (alone.run before)
  · exact passes.aside (alone.run before) own (past v mem).1 (past v mem).2

end ComponentHost.State
