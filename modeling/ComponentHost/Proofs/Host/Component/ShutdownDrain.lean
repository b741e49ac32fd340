import ComponentHost.Proofs.Host.Exchange.Targets
import ComponentHost.Proofs.Host.Component.RosterSeats
import ComponentHost.Proofs.Host.Component.Membership
import ComponentHost.Proofs.Host.Component.Routes
import ComponentHost.Proofs.Host.Component.ShutdownSteps

/-! What a shutdown leaves behind that no other lifecycle call overlaps. It comes to every component
that is registered when it is called, spends the time of one stop on each of them at most, and when
it returns nothing is left of any. -/

namespace ComponentHost

section Size

theorem NameSet.length_insertInto_le (name : String) (l : List String) :
    (insertInto name l).length ≤ l.length + 1 := by
  induction l with
  | nil => exact Nat.le_refl 1
  | cons x rest ih =>
    unfold insertInto
    split
    · exact Nat.le_refl _
    · split
      · exact Nat.succ_le_succ ih
      · exact Nat.le_succ _

theorem NameSet.size_ofList_le (names : List String) : (ofList names).size ≤ names.length := by
  suffices ∀ s : NameSet, (names.foldl insert s).size ≤ s.size + names.length from
    Nat.le_trans (this empty) (Nat.le_of_eq (Nat.zero_add _))
  induction names with
  | nil => exact fun s => Nat.le_refl _
  | cons name names ih =>
    intro s
    have one : (s.insert name).size ≤ s.size + 1 := length_insertInto_le name s.names
    have others := ih (s.insert name)
    rw [List.foldl_cons, List.length_cons]
    omega

theorem Roster.length_ids_le {α : Type} (r : Roster α) : r.ids.length ≤ r.size := by
  have few := NameSet.size_ofList_le (r.keys.map ComponentId.name)
  rw [List.length_map, Table.keys, List.length_map] at few
  rw [ids, List.length_map]
  exact few

theorem Duration.nanos_left_le {left many : Nat} (fewer : left < many) (now bound : Duration) :
    (now + bound).nanos + left * bound.nanos ≤ now.nanos + many * bound.nanos := by
  have spent := Nat.mul_le_mul_right bound.nanos fewer
  rw [Nat.succ_mul] at spent
  rw [nanos_add]
  omega

end Size

namespace State

variable {s t : State} {v : Act} {acts : List Act} {n a : Nat} {id : ComponentId} {limit : Duration}

section Time

theorem quiet_iff : s.quiet ↔ s.next? = none := by
  refine ⟨fun quiet => List.findSome?_eq_none_iff.mpr fun m _ => quiet m, fun rests m => ?_⟩
  have listed : ∀ m ∈ s.moves, s.step m = none := List.findSome?_eq_none_iff.mp rests
  by_cases mem : m ∈ s.moves
  · exact listed m mem
  · simp only [moves, List.mem_append, List.mem_map, List.mem_range, not_or, not_exists,
      not_and] at mem
    obtain ⟨⟨⟨alarms, actors⟩, enrolling⟩, calls⟩ := mem
    cases m with
    | alarm number =>
      have unknown : s.ledger.alarms.find? number = none :=
        List.find?_eq_none.mpr fun alarm armed own =>
          alarms alarm armed (congrArg Move.alarm (of_decide_eq_true own))
      rw [step, stepAlarm, unknown, Option.bind_eq_bind, Option.bind_none]
    | actor a =>
      have unknown : s.actors[a]? = none :=
        List.getElem?_eq_none (Nat.le_of_not_lt fun known => actors a known rfl)
      rw [step, stepActor, unknown]
    | enroll i =>
      have unknown : s.enrolling[i]? = none :=
        List.getElem?_eq_none (Nat.le_of_not_lt fun known => enrolling i known rfl)
      rw [step, enroll, unknown]
      rfl
    | call n =>
      have unknown : s.calls[n]? = none :=
        List.getElem?_eq_none (Nat.le_of_not_lt fun known => calls n known rfl)
      rw [step, stepCall, unknown]

instance decidableQuiet (s : State) : Decidable s.quiet := decidable_of_iff _ quiet_iff.symm

def Passable (s : State) (span : Duration) : Prop :=
  s.quiet ∧ ∀ due ∈ s.wakes, s.clock < due → s.clock + span ≤ due

instance decidablePassable (s : State) (span : Duration) : Decidable (s.Passable span) :=
  inferInstanceAs (Decidable (_ ∧ _))

/-- Along a run, everything happens at its own instant. -/
def Prompt (s : State) (acts : List Act) : Prop :=
  ∀ before span later, acts = before ++ .wait span :: later → (s.run before).Passable span

def Act.span? : Act → Option Duration
  | .wait span => some span
  | _ => none

theorem Act.span?_eq_some {span : Duration} : v.span? = some span ↔ v = .wait span := by
  cases v <;> simp [span?]

theorem prompt_nil (s : State) : s.Prompt [] := by
  intro before span later split
  cases before <;> cases split

theorem prompt_cons : s.Prompt (v :: acts) ↔
    (∀ span ∈ v.span?, s.Passable span) ∧ (s.after v).Prompt acts := by
  constructor
  · intro prompt
    refine ⟨fun span passing => prompt [] span acts ?_, fun before span later split => ?_⟩
    · rw [Act.span?_eq_some.mp passing]
      rfl
    · exact prompt (v :: before) span later (by rw [split]; rfl)
  · rintro ⟨first, prompt⟩ before span later split
    cases before with
    | nil => exact first span (Act.span?_eq_some.mpr (List.cons.inj split).1)
    | cons w before =>
      obtain ⟨rfl, tail⟩ := List.cons.inj split
      exact prompt before span later tail

instance decidablePrompt : (s : State) → (acts : List Act) → Decidable (s.Prompt acts)
  | s, [] => isTrue s.prompt_nil
  | s, v :: acts =>
    have := decidablePrompt (s.after v) acts
    decidable_of_iff _ prompt_cons.symm

theorem Prompt.left {acts' : List Act} (prompt : s.Prompt (acts ++ acts')) : s.Prompt acts :=
  fun before span later split =>
    prompt before span (later ++ acts') (by rw [split, List.append_assoc]; rfl)

end Time

section Deadline

theorem beginStop_deadline {st : Stop} (waits : s.beginStop id = (t, .inl st)) :
    st.deadline = s.clock + s.config.lifecycle.stopTimeout := by
  unfold beginStop at waits
  cases on : s.roster.get? id with
  | none =>
    rw [on] at waits
    cases waits
  | some a =>
    obtain ⟨config, clock⟩ := setting_told s id a
    rw [told] at config clock
    rw [on] at waits
    dsimp only at waits
    generalize ({ s with post := s.post.unroute id }.dropPending id).beginHalt a = halted at *
    obtain ⟨u, outcome⟩ := halted
    cases outcome with
    | some r => cases waits
    | none =>
      dsimp only at waits config clock
      split at waits
      · cases waits
      · cases waits
        rw [config, clock]

theorem drain_deadline {ids : List ComponentId} {st : Stop} {rest : List ComponentId}
    (waits : (s.drain ids).2 = some (st, rest)) :
    st.deadline = s.clock + s.config.lifecycle.stopTimeout ∧ rest.length < ids.length := by
  induction ids generalizing s with
  | nil => cases waits
  | cons id ids ih =>
    have setting := s.setting_beginStop id
    unfold drain at waits
    cases begun : s.beginStop id with
    | mk u outcome =>
      rw [begun] at waits setting
      cases outcome with
      | inl st' =>
        cases waits
        exact ⟨beginStop_deadline begun, Nat.lt_succ_self _⟩
      | inr r =>
        obtain ⟨config, clock⟩ := setting
        obtain ⟨deadline, fewer⟩ := ih waits
        exact ⟨by rw [deadline, config, clock], Nat.lt_succ_of_lt fewer⟩

end Deadline

/-- When a shutdown is over at the latest that is called now. -/
def drainLimit (s : State) : Duration :=
  s.clock + .ofMillis (s.roster.size * s.config.lifecycle.stopTimeoutMs.toNat)

/-- After some acts shutdown `n` waits for a stop. If time goes by promptly it is over by a limit,
however much time each stop takes that is left. -/
structure Waits (s : State) (acts : List Act) (n : Nat) (limit : Duration) (st : Stop)
    (rest : List ComponentId) : Prop where
  underWay : (s.run acts).underWay n = some (.shutdown st rest)
  inTime : s.Prompt acts → (s.run acts).clock ≤ st.deadline ∧
    st.deadline.nanos + rest.length * s.config.lifecycle.stopTimeout.nanos ≤ limit.nanos

structure Returns (s : State) (acts : List Act) (n : Nat) (limit : Duration) : Prop where
  returned : (s.run acts).calls[n]? = some (.returned (s.run acts).clock (.done (.ok ())))
  waited (fewer : List Act) (v : Act) : acts = fewer ++ [v] → (s.run fewer).hasReturned n = false
  inTime : s.Prompt acts → (s.run acts).clock ≤ limit

namespace Waits

variable {st : Stop} {rest : List ComponentId} (waits : s.Waits acts n limit st rest)

include waits

theorem running : (s.run acts).calls[n]? = some (.running (.shutdown st rest)) :=
  (underWay_eq_some.mp waits.underWay).1

theorem not_returned : (s.run acts).hasReturned n = false := by
  rw [hasReturned, waits.running]

theorem lt_deadline (quiet : (s.run acts).quiet) : (s.run acts).clock < st.deadline := by
  have still := quiet (.call n)
  rw [step_shutdown waits.underWay] at still
  split at still
  case isTrue waiting => exact Nat.lt_of_not_le waiting.2
  case isFalse => cases still

theorem deadline_mem_wakes : st.deadline ∈ (s.run acts).wakes := by
  have called := List.mem_of_getElem? waits.running
  exact List.mem_append_right _ (List.mem_filterMap.mpr ⟨_, called, rfl⟩)

theorem aside (other : v ≠ .move (.call n)) : s.Waits (acts ++ [v]) n limit st rest where
  underWay := by
    rw [run_concat]
    exact underWay_eq_some.mpr ⟨calls_after (fun _ => rfl) waits.running other, rfl⟩
  inTime prompt := by
    obtain ⟨now, left⟩ := waits.inTime prompt.left
    refine ⟨?_, left⟩
    rw [run_concat]
    by_cases passing : ∃ span, v = .wait span
    · obtain ⟨span, rfl⟩ := passing
      obtain ⟨quiet, due⟩ := prompt acts span [] rfl
      exact due _ waits.deadline_mem_wakes (waits.lt_deadline quiet)
    · rw [((s.run acts).setting_after v).2 fun span own => passing ⟨span, own⟩]
      exact now

theorem own : (∃ st' rest', s.Waits (acts ++ [.move (.call n)]) n limit st' rest') ∨
    s.Returns (acts ++ [.move (.call n)]) n limit := by
  have clock : (s.run (acts ++ [.move (.call n)])).clock = (s.run acts).clock := by
    rw [run_concat]
    exact ((s.run acts).setting_after _).2 nofun
  have known := lt_of_underWay waits.underWay
  obtain same | ⟨_, same⟩ := shutdown_goes_on waits.underWay <;> rw [← run_concat] at same
  · refine .inl ⟨st, rest, same ▸ waits.underWay, fun prompt => ?_⟩
    rw [clock]
    exact waits.inTime prompt.left
  · have here : (((s.run acts).endStop st.id).drain rest).1.underWay n =
        some (.shutdown st rest) :=
      (congrFun (drain_sheds rest _).1.underWay n).trans waits.underWay
    have setting : ((s.run acts).endStop st.id).config = s.config ∧
        ((s.run acts).endStop st.id).clock = (s.run acts).clock := ⟨s.config_run acts, rfl⟩
    cases next : (((s.run acts).endStop st.id).drain rest).2 with
    | some left =>
      obtain ⟨st', rest'⟩ := left
      refine .inl ⟨st', rest', ?_, fun prompt => ?_⟩
      · rw [same, underWay_carryOn_self here]
        exact ⟨drained_eq_inl.mpr ⟨st', rest', next, rfl⟩, rfl⟩
      · obtain ⟨now, left⟩ := waits.inTime prompt.left
        obtain ⟨due, fewer⟩ := drain_deadline next
        rw [setting.1, setting.2] at due
        rw [clock, due]
        refine ⟨Nat.le_add_right _ _, Nat.le_trans (Duration.nanos_left_le fewer _ _) ?_⟩
        exact Nat.le_trans (Nat.add_le_add_right now _) left
    | none =>
      rw [next] at same
      refine .inr ⟨?_, fun fewer v split => ?_, fun prompt => ?_⟩
      · have still := (((s.run acts).endStop st.id).setting_drain rest).2
        rw [clock, same, drained, carryOn, finish, still]
        exact List.getElem?_set_self (lt_of_underWay here)
      · obtain ⟨rfl, _⟩ := List.append_inj' split rfl
        exact waits.not_returned
      · obtain ⟨now, left⟩ := waits.inTime prompt.left
        rw [clock]
        exact Nat.le_trans now (Nat.le_trans (Nat.le_add_right _ _) left)

end Waits

theorem waits_or_returns
    (start : (∃ st rest, s.Waits [] n limit st rest) ∨ s.Returns [] n limit) (acts : List Act) :
    (∃ st rest, s.Waits acts n limit st rest) ∨
      ∃ soon, soon <+: acts ∧ s.Returns soon n limit := by
  refine history_induction (P := fun acts => (∃ st rest, s.Waits acts n limit st rest) ∨
    ∃ soon, soon <+: acts ∧ s.Returns soon n limit)
    (start.imp_right fun returns => ⟨[], List.nil_prefix, returns⟩) fun before v _ so_far => ?_
  obtain ⟨st, rest, waits⟩ | ⟨soon, early, returns⟩ := so_far
  · by_cases own : v = .move (.call n)
    · subst own
      exact waits.own.imp_right fun returns => ⟨_, List.prefix_refl _, returns⟩
    · exact .inl ⟨st, rest, waits.aside own⟩
  · exact .inr ⟨soon, early.trans (List.prefix_append before [v]), returns⟩

section Begin

variable (started : s.started = true)

include started

theorem after_shutdown : s.after .shutdown =
    (({ s with started := false }.drain s.roster.ids).1.enterOrAnswer
      (drained ({ s with started := false }.drain s.roster.ids).2)).2 :=
  congrArg Prod.snd (shutdown_eq started)

theorem shutdown_begins : (∃ st rest,
      (s.after .shutdown).Waits [] s.calls.length s.drainLimit st rest) ∨
    (s.after .shutdown).Returns [] s.calls.length s.drainLimit := by
  have begun := after_shutdown started
  have calls := calls_drain s.roster.ids { s with started := false }
  have setting := s.setting_after .shutdown
  have clock : (s.after .shutdown).clock = s.clock := setting.2 nofun
  cases next : ({ s with started := false }.drain s.roster.ids).2 with
  | some left =>
    obtain ⟨st, rest⟩ := left
    obtain ⟨due, fewer⟩ := drain_deadline next
    rw [next] at begun
    refine .inl ⟨st, rest, ?_, fun _ => ?_⟩ <;> rw [run_nil]
    · rw [begun, drained, enterOrAnswer, underWay_enter, if_pos (congrArg List.length calls).symm]
      rfl
    · have all : rest.length < s.roster.size := Nat.lt_of_lt_of_le fewer s.roster.length_ids_le
      have bound : s.drainLimit.nanos =
          s.clock.nanos + s.roster.size * s.config.lifecycle.stopTimeout.nanos :=
        congrArg (s.clock.nanos + ·) (Nat.mul_assoc ..)
      rw [clock, setting.1, due, bound]
      exact ⟨Nat.le_add_right _ _, Duration.nanos_left_le all _ _⟩
  | none =>
    rw [next] at begun
    refine .inr ⟨?_, fun fewer v split => ?_, fun _ => ?_⟩
    · have still := (setting_drain { s with started := false } s.roster.ids).2
      rw [run_nil, clock, begun, drained, enterOrAnswer, answerNow, calls, still]
      exact List.getElem?_concat_length
    · cases fewer <;> cases split
    · rw [run_nil, clock]
      exact Nat.le_add_right _ _

variable (idle : ∀ m, s.underWay m = none)

include idle

theorem shutdown_alone : (s.after .shutdown).Alone s.calls.length where
  closed := started_shutdown started
  only m c there := by
    have last : m = s.calls.length := (s.shutdown_enters.underWay there).resolve_right fun old => by
      rw [idle m] at old
      cases old
    obtain old | asks | ⟨move, _⟩ := underWay_after started there
    · rw [idle m] at old
      cases old
    · cases asks with
      | shutdown st rest => exact ⟨last, st, rest, rfl⟩
    · cases move

omit idle in
/-- A shutdown comes to every component that stands in its place. -/
theorem shutdown_passes (place : s.InPlace id a) :
    (s.after .shutdown).Passes [] s.calls.length id a := by
  have begun := after_shutdown started
  have calls := calls_drain s.roster.ids { s with started := false }
  have setting := s.setting_after .shutdown
  have among : id ∈ s.roster.ids :=
    Roster.mem_ids.mpr (Option.isSome_iff_exists.mpr ⟨a, place.on⟩)
  have drains := drain_drains (s := { s with started := false })
    ⟨place.on, place.one, place.free⟩ among
  have ended : State.Drains { s with started := false } ((s.after .shutdown).run [])
      ({ s with started := false }.drain s.roster.ids).2 id a := by
    rw [run_nil, begun]
    cases drained ({ s with started := false }.drain s.roster.ids).2 <;> exact drains.of_calls _
  refine ended.passes ⟨setting.1.symm, (setting.2 nofun).symm⟩ fun st rest next => ?_
  rw [run_nil, begun, next, drained, enterOrAnswer, underWay_enter,
    if_pos (congrArg List.length calls).symm]
  rfl

end Begin

/-- What a shutdown that was called in `s` has brought about by the end of some acts. -/
structure ShutDown (s : State) (acts : List Act) : Prop where
  closed : ((s.after .shutdown).run acts).started = false
  unlisted (id : ComponentId) : ((s.after .shutdown).run acts).roster.get? id = none
  unrouted (id : ComponentId) : s.roster.contains id = true →
    ((s.after .shutdown).run acts).post.hasRoute id = false
  unknown (id : ComponentId) : ((s.after .shutdown).run acts).ledger.knows id = false
  stopped (id : ComponentId) (a : Nat) : s.roster.get? id = some a →
    (s.after .shutdown).GivenNotice acts a s.config.lifecycle.stopTimeout
  /-- A request is pending only for an id that had a route to no component of the roster. -/
  strays (k : CorrelationId) (e : Entry) :
    ((s.after .shutdown).run acts).ledger.pending.get? k = some e →
      s.post.hasRoute e.recipient = true ∧ s.roster.contains e.recipient = false

section Drain

variable {config : HostConfig} {engine : Engine} {before : List Act}
  (reached : s = (fresh config engine).run before)
  (past : ∀ v ∈ before ++ acts, (∀ a, v ≠ .stopActor a) ∧ ∀ id, ¬ v.reroutes id)
  (started : s.started = true) (idle : ∀ m, s.underWay m = none)

theorem unseated_of_idle (idle : ∀ m, s.underWay m = none) (m : Nat) (id : ComponentId) :
    ¬ s.Spawning m id := by
  rintro ⟨sp, spawning, _⟩
  rw [idle m] at spawning
  cases spawning

theorem idle_of_returned (returned : ∀ state ∈ s.calls, state.lifecycle? = none) (m : Nat) :
    s.underWay m = none := by
  rw [underWay]
  cases here : s.calls[m]? with
  | none => rfl
  | some state => exact returned state (List.mem_of_getElem? here)

include past started idle

omit past in
theorem shutdown_induction {P : State → Prop} (start : P (s.after .shutdown))
    (keeps : ∀ (t : State), ∀ v ∈ acts, t.Alone s.calls.length → P t → P (t.after v)) :
    P ((s.after .shutdown).run acts) := by
  refine (run_induction (P := fun t => t.Alone s.calls.length ∧ P t)
    ⟨shutdown_alone started idle, start⟩ ?_).2
  rintro t v mem ⟨alone, held⟩
  exact ⟨alone.after v, keeps t v mem alone held⟩

omit past in
theorem unlisted_run (off : s.roster.get? id = none) :
    ((s.after .shutdown).run acts).roster.get? id = none := by
  refine shutdown_induction (P := (·.roster.get? id = none)) started idle ?_ ?_
  · exact unlisted_after (fun m => unseated_of_idle idle m id) off
  · exact fun t v _ alone off => unlisted_after (fun m => alone.unseated m id) off

theorem unrouted_run (unrouted : s.post.routes.get? id = none) :
    ((s.after .shutdown).run acts).post.routes.get? id = none := by
  refine shutdown_induction (P := (·.post.routes.get? id = none)) started idle ?_ ?_
  · exact unrouted_stays (fun m => unseated_of_idle idle m id) not_false unrouted
  · intro t v mem alone unrouted
    have aside := (past v (List.mem_append_right before mem)).2 id
    exact unrouted_stays (fun m => alone.unseated m id) aside unrouted

include reached

theorem inPlace_of_idle (on : s.roster.get? id = some a) : s.InPlace id a := by
  have manned : s.Manned a := by
    rw [reached] at started ⊢
    exact (Manned.fresh config engine a).run started fun v mem =>
      (past v (List.mem_append_left acts mem)).1 a
  exact ⟨on, fun j on' => manned.one j id on' on, manned.free_of_idle on idle⟩

theorem passed_of_returns (returns : (s.after .shutdown).Returns acts s.calls.length limit)
    (on : s.roster.get? id = some a) :
    ((s.after .shutdown).run acts).roster.get? id = none ∧
      ((s.after .shutdown).run acts).Leaving id a ∧
      (s.after .shutdown).GivenNotice acts a s.config.lifecycle.stopTimeout := by
  have place := inPlace_of_idle reached past started idle on
  have passes := Passes.run (shutdown_alone started idle) (shutdown_passes started place)
    fun v mem => (past v (List.mem_append_right before mem)).imp (· a) (· id)
  have finished : ((s.after .shutdown).run acts).underWay s.calls.length = none := by
    rw [State.underWay, returns.returned]
    rfl
  cases passes with
  | ahead waits | current waits =>
    rw [finished] at waits
    cases waits
  | behind unlisted leaving given =>
    rw [(s.setting_after .shutdown).1] at given
    exact ⟨unlisted, leaving, given⟩

theorem shutDown_of_returns (returns : (s.after .shutdown).Returns acts s.calls.length limit) :
    s.ShutDown acts := by
  have passed := fun id a (on : s.roster.get? id = some a) =>
    passed_of_returns reached past started idle returns on
  have whole : (s.after .shutdown).run acts =
      (fresh config engine).run (before ++ .shutdown :: acts) := by
    rw [run_append, run_cons, reached]
  have unlisted : ∀ id, ((s.after .shutdown).run acts).roster.get? id = none := by
    intro id
    cases on : s.roster.get? id with
    | none => exact unlisted_run started idle on
    | some a => exact (passed id a on).1
  have unrouted : ∀ id, s.roster.contains id = true →
      ((s.after .shutdown).run acts).post.routes.get? id = none := by
    intro id on
    obtain ⟨a, on⟩ := Option.isSome_iff_exists.mp on
    exact (passed id a on).2.1.unrouted
  refine ⟨closed_run (started_shutdown started) acts, unlisted, fun id on => ?_, fun id => ?_,
    fun id a on => (passed id a on).2.2, fun k e pending => ?_⟩
  · rw [PostOffice.hasRoute, Table.contains, unrouted id on]
    rfl
  · have fair := fair_run config engine (before ++ .shutdown :: acts) id
    rw [← whole] at fair
    refine Bool.eq_false_iff.mpr fun known => ?_
    have on : (((s.after .shutdown).run acts).roster.get? id).isSome = true := fair.listed known
    rw [unlisted id] at on
    cases on
  · have aside : ∀ v ∈ before ++ .shutdown :: acts, ∀ id, ¬ v.reroutes id := by
      intro v mem
      obtain mem | own | mem := (List.mem_append.mp mem).imp_right List.mem_cons.mp
      · exact (past v (List.mem_append_left acts mem)).2
      · rw [own]
        exact fun id => not_false
      · exact (past v (List.mem_append_right before mem)).2
    have directed := (Directed.fresh config engine).run Ledger.Guarded.empty aside
    rw [← whole] at directed
    have routed := directed.routed k e pending
    constructor
    · exact Option.isSome_iff_ne_none.mpr fun off => routed (unrouted_run past started idle off)
    · exact Bool.eq_false_iff.mpr fun on => routed (unrouted e.recipient on)

end Drain

/-- A shutdown that no other lifecycle call overlaps, whatever comes of each stop and whatever else
happens meanwhile, if nobody stops actors or changes routes past the host. It returns success, when
each component has had the time of one stop at the latest. By then the host is closed and nothing is
left of any component: each is off the roster, without a route and unknown to the ledger, and its
actor was told to stop and has ended or has had its time. A request is pending only for an id whose
route had outlived its component already when the shutdown was called; so none is, if lifecycle
calls on each id have followed one another until then. -/
theorem shutdown_drains (config : HostConfig) (engine : Engine) {before later : List Act}
    (reached : s = (fresh config engine).run before)
    (past : ∀ v ∈ before ++ later, (∀ a, v ≠ .stopActor a) ∧ ∀ id, ¬ v.reroutes id)
    (started : s.started = true) (idle : ∀ m, s.underWay m = none) :
    let n := s.calls.length
    let begun := s.after .shutdown
    let t := begun.run later
    (begun.Prompt later → t.quiet → s.drainLimit ≤ t.clock → t.hasReturned n = true) ∧
    (t.hasReturned n = true → ∃ soon, soon <+: later ∧ begun.Returns soon n s.drainLimit ∧
      s.ShutDown soon ∧
      ((∀ id, (fresh config engine).Serial before id) →
        ∀ k, (begun.run soon).ledger.pending.get? k = none)) := by
  intro n begun t
  have outcome := waits_or_returns (shutdown_begins started) later
  refine ⟨fun prompt quiet late => ?_, fun returned => ?_⟩
  · obtain ⟨st, rest, waits⟩ | ⟨soon, ⟨rest, rfl⟩, returns⟩ := outcome
    · have early : t.clock < st.deadline := waits.lt_deadline quiet
      have left := (waits.inTime prompt).2
      rw [Duration.lt_iff] at early
      rw [Duration.le_iff] at late
      omega
    · have same : t = (begun.run soon).run rest := run_append ..
      rw [hasReturned, same, returned_run returns.returned rest]
  · obtain ⟨st, rest, waits⟩ | ⟨soon, early, returns⟩ := outcome
    · rw [waits.not_returned] at returned
      cases returned
    · have past' : ∀ v ∈ before ++ soon, (∀ a, v ≠ .stopActor a) ∧ ∀ id, ¬ v.reroutes id := by
        intro v mem
        refine past v (List.mem_append.mpr ?_)
        exact (List.mem_append.mp mem).imp_right (early.subset ·)
      have shutDown := shutDown_of_returns reached past' started idle returns
      refine ⟨soon, early, returns, shutDown, fun serial k => ?_⟩
      cases pending : (begun.run soon).ledger.pending.get? k with
      | none => rfl
      | some e =>
        obtain ⟨routed, off⟩ := shutDown.strays k e pending
        have follows := (Routed.fresh config engine e.recipient).run
          (fun v mem => (past v (List.mem_append_left later mem)).2 e.recipient)
          (serial e.recipient)
        rw [← reached] at follows
        have still : ¬ s.Winding e.recipient := by
          rintro ⟨m, c, here, _⟩
          rw [idle m] at here
          cases here
        have route := follows.routed still
        rw [PostOffice.hasRoute, Table.contains, route, Option.isSome_map] at routed
        rw [Table.contains, routed] at off
        cases off

section Hurry

def hurriedHost : State :=
  fresh { lifecycle := { stopTimeoutMs := 50 } }
    (.paced ["cleanup", "handle-request"] (.ofMillis 100))

def twoSpawns : List Act :=
  [.spawn sampleOrder none, .move (.call 0), .move (.actor 0), .move (.call 0),
    .spawn { sampleOrder with id := ⟨"b"⟩ } none, .move (.call 1), .move (.actor 1),
    .move (.call 1), .move (.enroll 0), .move (.enroll 0)]

def departures : List Act :=
  [.move (.actor 0), .sendRequest ⟨"a"⟩ ⟨"b"⟩ [] none false, .move (.actor 1),
    .wait (.ofMillis 50), .move (.call 2), .wait (.ofMillis 50), .move (.actor 0),
    .move (.actor 1), .move (.call 2), .move (.actor 1)]

theorem serial_twoSpawns (id : ComponentId) : hurriedHost.Serial twoSpawns id := by
  simp only [twoSpawns, serial_cons]
  exact ⟨fun _ => calm_of_returned (by decide +kernel), nofun, nofun, nofun,
    fun _ => calm_of_returned (by decide +kernel), nofun, nofun, nofun, nofun, nofun,
    serial_nil _ _⟩

theorem hurried_shutdown_drains :
    let s := hurriedHost.run twoSpawns
    let begun := s.after .shutdown
    s.drainLimit = .ofMillis 100 ∧ (begun.run departures).hasReturned 2 = true ∧
      ∃ soon, soon <+: departures ∧ begun.Returns soon 2 s.drainLimit ∧ s.ShutDown soon ∧
        ∀ k, (begun.run soon).ledger.pending.get? k = none := by
  intro s begun
  have past : ∀ v ∈ twoSpawns ++ departures, (∀ a, v ≠ .stopActor a) ∧ ∀ id, ¬ v.reroutes id := by
    simp [twoSpawns, departures, Act.reroutes]
  obtain ⟨returns, leaves⟩ := shutdown_drains _ _ (s := s) rfl past (by decide +kernel)
    (idle_of_returned (by decide +kernel))
  have returned := returns (by decide +kernel) (by decide +kernel) (by decide +kernel)
  obtain ⟨soon, early, returns, shutDown, spared⟩ := leaves returned
  exact ⟨by decide +kernel, returned, soon, early, returns, shutDown, spared serial_twoSpawns⟩

end Hurry

section Stray

/-- While a stop of `a` waits for its cleanup, a second one is over at once and `a` comes up anew.
The first then takes the new one off the roster, whose route stays. Two others come up. -/
def overtaken : List Act :=
  [.stop ⟨"a"⟩, .move (.actor 0), .stop ⟨"a"⟩,
    .spawn sampleOrder (some "newer"), .move (.call 3), .move (.actor 1), .move (.call 3),
    .wait (.ofMillis 100), .move (.actor 0), .move (.call 1),
    .spawn { sampleOrder with id := ⟨"b"⟩ } none, .move (.call 4), .move (.actor 2),
    .move (.call 4),
    .spawn { sampleOrder with id := ⟨"c"⟩ } none, .move (.call 5), .move (.actor 3),
    .move (.call 5),
    .move (.enroll 0), .move (.enroll 0), .move (.enroll 0), .move (.enroll 0)]

/-- The shutdown is done with `b` and waits for `c` when a request from `b` to `a` is sent. -/
def straying : List Act :=
  [.move (.actor 2), .wait (.ofMillis 100), .move (.actor 2), .move (.call 6), .move (.actor 3),
    .wait (.ofMillis 50), .sendRequest ⟨"b"⟩ ⟨"a"⟩ [] none false, .move (.actor 1),
    .wait (.ofMillis 50), .move (.actor 3), .move (.call 6)]

/-- When the shutdown returns, the request is pending. -/
theorem shutdown_leaves_request :
    let s := sampleHost.run overtaken
    let begun := s.after .shutdown
    let t := begun.run straying
    (∀ v ∈ overtaken ++ straying, (∀ a, v ≠ .stopActor a) ∧ ∀ id, ¬ v.reroutes id) ∧
      s.started = true ∧ (∀ m, s.underWay m = none) ∧ s.roster.contains ⟨"b"⟩ = true ∧
      begun.Prompt straying ∧ t.calls[6]? = some (.returned t.clock (.done (.ok ()))) ∧
      ∃ e, t.ledger.pending.get? (.issued 0) = some e ∧ e.involves ⟨"b"⟩ = true := by
  intro s begun t
  have past : ∀ v ∈ overtaken ++ straying, (∀ a, v ≠ .stopActor a) ∧ ∀ id, ¬ v.reroutes id := by
    simp [overtaken, straying, Act.reroutes]
  have pending : (t.ledger.pending.get? (.issued 0)).any (·.involves ⟨"b"⟩) = true := by
    decide +kernel
  refine ⟨past, by decide +kernel, idle_of_returned (by decide +kernel), by decide +kernel,
    by decide +kernel, by decide +kernel, ?_⟩
  exact (Option.any_eq_true _ _).mp pending

end Stray

end State

end ComponentHost
