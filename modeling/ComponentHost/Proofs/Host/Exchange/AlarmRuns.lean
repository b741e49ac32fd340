import ComponentHost.Proofs.Host.Schedule

/-! Vigils: a host without components, of which things are asked while time passes, and the log of
its alarms. Whatever is asked, each alarm goes off when it is due unless it was cancelled before.
The board counts the live alarms as long as no two of them get into each other's way under one
id. -/

namespace ComponentHost

open Signal

structure Vigil where
  state : State
  signals : List Signal := []

namespace Vigil

inductive Act
  /-- Anything that may be asked of the ledger; handles are only had of alarms that were set, and
  no alarm goes off before it is due. -/
  | ask (act : Ledger.Act)
  | abandon (waiter : Nat)
  | join (c : ComponentId)
  | leave (c : ComponentId)
  | wait (span : Duration)
  | advance (span : Duration)
deriving DecidableEq

def does (w : Vigil) : Act → Vigil
  | .ask act =>
    if act.Fair w.signals w.state.ledger.alarms w.state.clock then
      ⟨w.state.settled act, w.signals ++ w.state.ledger.signalled ⟨w.state.clock, act⟩⟩
    else w
  | .abandon waiter => { w with state := w.state.after (.abandon waiter) }
  | .join c => { w with state := { w.state with ledger := w.state.ledger.join c } }
  | .leave c => { w with state := { w.state with ledger := w.state.ledger.leave c } }
  | .wait span =>
    if ∀ alarm ∈ w.state.ledger.alarms.armed, w.state.clock + span ≤ alarm.due then
      { w with state := w.state.after (.wait span) }
    else w
  | .advance span =>
    ⟨w.state.settle.advance span, w.signals ++ w.state.chimes (w.state.lapse span)⟩

def run (w : Vigil) (acts : List Act) : Vigil := acts.foldl does w

def fresh (config : HostConfig) (engine : Engine) : Vigil := ⟨.fresh config engine, []⟩

abbrev Logged (w : Vigil) : Prop := w.state.Logged w.signals

variable {w w' : Vigil} {act : Act} {acts : List Act} {alarm other : Alarm}

@[simp] theorem run_nil (w : Vigil) : w.run [] = w := rfl

@[simp] theorem run_cons (w : Vigil) (act : Act) (acts : List Act) :
    w.run (act :: acts) = (w.does act).run acts := rfl

theorem run_append (w : Vigil) (acts acts' : List Act) :
    w.run (acts ++ acts') = (w.run acts).run acts' :=
  List.foldl_append

theorem does_ask {a : Ledger.Act} (fair : a.Fair w.signals w.state.ledger.alarms w.state.clock) :
    w.does (.ask a) =
      ⟨w.state.settled a, w.signals ++ w.state.ledger.signalled ⟨w.state.clock, a⟩⟩ :=
  if_pos fair

theorem does_ask_of_not_fair {a : Ledger.Act}
    (unfair : ¬ a.Fair w.signals w.state.ledger.alarms w.state.clock) : w.does (.ask a) = w :=
  if_neg unfair

section Logged

theorem Logged.aside (logged : w.Logged) {l : Ledger} (alarms : l.alarms = w.state.ledger.alarms)
    (pending : l.pending = w.state.ledger.pending) (served : l.Served) :
    Logged { w with state := { w.state with ledger := l } } where
  bare := logged.bare.congr rfl rfl rfl
  kept := by
    have kept := logged.kept
    rw [← alarms] at kept
    exact kept
  attached := by
    unfold Ledger.Attached
    rw [pending]
    exact logged.attached
  served := served

theorem Logged.does (logged : w.Logged) (act : Act) : (w.does act).Logged := by
  cases act with
  | ask a =>
    by_cases fair : a.Fair w.signals w.state.ledger.alarms w.state.clock
    · rw [does_ask fair]
      exact logged.settled fair
    · rwa [does_ask_of_not_fair fair]
  | abandon waiter =>
    exact logged.aside (Ledger.alarms_abandon ..) (Ledger.pending_abandon ..)
      (logged.served.abandon waiter)
  | join c | leave c => exact logged.aside rfl rfl (logged.served.congr rfl rfl)
  | wait span =>
    rw [Vigil.does]
    split
    · rename_i early
      exact logged.at_instant (Nat.le_add_right _ _) early
    · exact logged
  | advance span => exact (State.Lapses.lapse logged span).1.logged

theorem Logged.run (logged : w.Logged) (acts : List Act) : (w.run acts).Logged := by
  induction acts generalizing w with
  | nil => exact logged
  | cons act acts ih => exact ih (logged.does act)

theorem logged_fresh (config : HostConfig) (engine : Engine) : (fresh config engine).Logged where
  bare := ⟨rfl, rfl, rfl⟩
  kept := .empty
  attached := fun _ _ _ found => nomatch found
  served := Ledger.served_empty

theorem unguarded_fresh {config : HostConfig} {engine : Engine} :
    (fresh config engine).state.ledger.Unguarded :=
  fun _ _ found => nomatch found

theorem signals_does (w : Vigil) (act : Act) : w.signals <+: (w.does act).signals := by
  cases act with
  | ask | wait =>
    rw [does]
    split
    · first | exact List.prefix_append _ _ | exact List.prefix_rfl
    · exact List.prefix_rfl
  | abandon | join | leave => exact List.prefix_rfl
  | advance => exact List.prefix_append _ _

theorem signals_run (w : Vigil) (acts : List Act) : w.signals <+: (w.run acts).signals := by
  induction acts generalizing w with
  | nil => exact List.prefix_rfl
  | cons act acts ih => exact (signals_does w act).trans (ih _)

end Logged

section Plain

/-- What may be asked while no alarm is put in charge of an exchange, and time only goes by with
everything that is due. -/
def Act.plain : Act → Bool
  | .ask (.attach ..) | .ask (.ring _) | .wait _ => false
  | _ => true

theorem unguarded_does (logged : w.Logged) (unguarded : w.state.ledger.Unguarded)
    (plain : act.plain = true) : (w.does act).state.ledger.Unguarded := by
  cases act with
  | ask a =>
    by_cases fair : a.Fair w.signals w.state.ledger.alarms w.state.clock
    · rw [does_ask fair]
      refine unguarded.after logged.served.apart fun id alarm => ?_
      rintro rfl
      cases plain
    · rwa [does_ask_of_not_fair fair]
  | abandon waiter =>
    intro id e
    rw [does, State.after, Ledger.pending_abandon]
    exact unguarded id e
  | join | leave => exact unguarded
  | wait => cases plain
  | advance span => exact ((State.Lapses.lapse logged span).1.unguarded unguarded).2

/-- Two vigils that are alike but for what happened to one alarm. -/
structure Alike (other : Alarm) (w w' : Vigil) : Prop where
  logged : w.Logged
  logged' : w'.Logged
  unguarded : w.state.ledger.Unguarded
  unguarded' : w'.state.ledger.Unguarded
  clock : w.state.clock = w'.state.clock
  handed : handed w.signals = handed w'.signals
  own : ∀ alarm ≠ other, own alarm w.signals = own alarm w'.signals

namespace Alike

theorem next (alike : Alike other w w') :
    w.state.ledger.alarms.next = w'.state.ledger.alarms.next := by
  have numbers := alike.logged.kept.numbered
  rw [alike.handed, alike.logged'.kept.numbered] at numbers
  simpa using (congrArg List.length numbers).symm

theorem armed (alike : Alike other w w') (differ : alarm ≠ other) :
    alarm ∈ w.state.ledger.alarms.armed ↔ alarm ∈ w'.state.ledger.alarms.armed := by
  rw [alike.logged.kept.armed, alike.logged'.kept.armed, live, live, List.mem_filter,
    List.mem_filter, alike.handed, alike.own alarm differ]

theorem cancel (alike : Alike other w w') :
    Alike other (w.does (.ask (.cancelAlarm other))) w' := by
  by_cases fair : other ∈ Signal.handed w.signals
  · have logged := alike.logged.does (.ask (.cancelAlarm other))
    have plain : (Act.ask (.cancelAlarm other)).plain = true := rfl
    have unguarded := unguarded_does alike.logged alike.unguarded plain
    have done : (w.does (.ask (.cancelAlarm other))).signals =
        w.signals ++ [⟨w.state.clock, .cancelled, other⟩] := by
      rw [does_ask (a := .cancelAlarm other) fair, alike.unguarded.signalled]
      rfl
    refine ⟨logged, alike.logged', unguarded, alike.unguarded', ?_, ?_, fun alarm differ => ?_⟩
    · rw [does_ask (a := .cancelAlarm other) fair]
      exact alike.clock
    · rw [done, handed_concat, if_neg nofun, alike.handed]
    · rw [done, own_concat, if_neg (Ne.symm differ), alike.own alarm differ]
  · rwa [does_ask_of_not_fair (a := .cancelAlarm other) fair]

theorem ask (alike : Alike other w w') {a : Ledger.Act} (plain : (Act.ask a).plain = true) :
    Alike other (w.does (.ask a)) (w'.does (.ask a)) := by
  have same : a.Fair w.signals w.state.ledger.alarms w.state.clock ↔
      a.Fair w'.signals w'.state.ledger.alarms w'.state.clock := by
    cases a with
    | cancelAlarm alarm =>
      rw [Ledger.Act.Fair, Ledger.Act.Fair, alike.handed]
    | attach | ring => cases plain
    | _ => exact Iff.rfl
  by_cases fair : a.Fair w.signals w.state.ledger.alarms w.state.clock
  · have sign : w.state.ledger.sign? ⟨w.state.clock, a⟩ =
        w'.state.ledger.sign? ⟨w'.state.clock, a⟩ := by
      cases a <;> simp [Ledger.sign?, alike.clock, alike.next]
    have logged := alike.logged.does (.ask a)
    have logged' := alike.logged'.does (.ask a)
    have unguarded := unguarded_does alike.logged alike.unguarded plain
    have unguarded' := unguarded_does alike.logged' alike.unguarded' plain
    rw [does_ask fair, alike.unguarded.signalled] at *
    rw [does_ask (same.mp fair), alike.unguarded'.signalled, ← sign] at *
    refine ⟨logged, logged', unguarded, unguarded', alike.clock, ?_, fun alarm differ => ?_⟩
    · rw [handed_append, handed_append, alike.handed]
    · rw [own_append, own_append, alike.own alarm differ]
  · rwa [does_ask_of_not_fair fair, does_ask_of_not_fair fun fair' => fair (same.mpr fair')]

theorem advance (alike : Alike other w w') (span : Duration) :
    Alike other (w.does (.advance span)) (w'.does (.advance span)) := by
  obtain ⟨lapses, quiet, now⟩ := State.Lapses.lapse alike.logged span
  obtain ⟨lapses', quiet', now'⟩ := State.Lapses.lapse alike.logged' span
  have own := lapses.own_eq alike.logged alike.unguarded quiet
  have own' := lapses'.own_eq alike.logged' alike.unguarded' quiet'
  rw [← alike.clock] at now'
  refine ⟨lapses.logged, lapses'.logged, (lapses.unguarded alike.unguarded).2,
    (lapses'.unguarded alike.unguarded').2, now.trans now'.symm, ?_, fun alarm differ => ?_⟩
  · exact (lapses.handed_eq.trans alike.handed).trans lapses'.handed_eq.symm
  · rw [does, does, own_append, own_append, alike.own alarm differ, own, own', now, now']
    simp only [alike.armed differ]

theorem aside (alike : Alike other w w') (plain : act.plain = true)
    (signals : ∀ w, (Vigil.does w act).signals = w.signals)
    (clock : ∀ w, (Vigil.does w act).state.clock = w.state.clock) :
    Alike other (w.does act) (w'.does act) where
  logged := alike.logged.does act
  logged' := alike.logged'.does act
  unguarded := unguarded_does alike.logged alike.unguarded plain
  unguarded' := unguarded_does alike.logged' alike.unguarded' plain
  clock := by rw [clock, clock, alike.clock]
  handed := by rw [signals, signals, alike.handed]
  own alarm differ := by rw [signals, signals, alike.own alarm differ]

theorem does (alike : Alike other w w') (plain : act.plain = true) :
    Alike other (w.does act) (w'.does act) := by
  cases act with
  | ask a => exact alike.ask plain
  | abandon | join | leave => exact alike.aside plain (fun _ => rfl) fun _ => rfl
  | wait => cases plain
  | advance span => exact alike.advance span

theorem refl (logged : w.Logged) (unguarded : w.state.ledger.Unguarded) : Alike other w w :=
  ⟨logged, logged, unguarded, unguarded, rfl, rfl, fun _ _ => rfl⟩

theorem run (alike : Alike other w w') (plain : ∀ act ∈ acts, act.plain = true) :
    Alike other (w.run acts) (w'.run (acts.filter (· ≠ .ask (.cancelAlarm other)))) := by
  induction acts generalizing w w' with
  | nil => exact alike
  | cons act acts ih =>
    obtain ⟨first, plain⟩ := List.forall_mem_cons.mp plain
    rw [List.filter_cons]
    by_cases cancel : act = .ask (.cancelAlarm other)
    · rw [if_neg (by simpa using cancel), cancel]
      exact ih alike.cancel plain
    · rw [if_pos (by simpa using cancel)]
      exact ih (alike.does first) plain

end Alike

theorem cancelled_sign (l : Ledger) (now : Duration) (a : Ledger.Act) :
    (own alarm (l.sign? ⟨now, a⟩).toList).countP (·.sign = .cancelled) =
      if a = .cancelAlarm alarm then 1 else 0 := by
  cases a with
  | cancelAlarm other => by_cases same : other = alarm <;> simp [Ledger.sign?, own, same]
  | arm | ring => simp [Ledger.sign?, own, List.countP_eq_zero]
  | _ => simp [Ledger.sign?, own]

theorem cancelled_does (logged : w.Logged) (unguarded : w.state.ledger.Unguarded)
    (plain : act.plain = true) (mem : alarm ∈ handed w.signals) :
    (own alarm (w.does act).signals).countP (·.sign = .cancelled) =
      (own alarm w.signals).countP (·.sign = .cancelled) +
        if act = .ask (.cancelAlarm alarm) then 1 else 0 := by
  cases act with
  | ask a =>
    simp only [Act.ask.injEq]
    by_cases fair : a.Fair w.signals w.state.ledger.alarms w.state.clock
    · rw [does_ask fair, unguarded.signalled, own_append, List.countP_append, cancelled_sign]
    · have other : a ≠ .cancelAlarm alarm := by
        rintro rfl
        exact fair mem
      rw [does_ask_of_not_fair fair, if_neg other, Nat.add_zero]
  | abandon | join | leave => simp [does]
  | wait => cases plain
  | advance span =>
    obtain ⟨lapses, quiet, now⟩ := State.Lapses.lapse logged span
    rw [does, own_append, List.countP_append, lapses.own_eq logged unguarded quiet]
    split <;> simp

theorem cancelled_run (logged : w.Logged) (unguarded : w.state.ledger.Unguarded)
    (plain : ∀ act ∈ acts, act.plain = true) (mem : alarm ∈ handed w.signals) :
    (own alarm (w.run acts).signals).countP (·.sign = .cancelled) =
      (own alarm w.signals).countP (·.sign = .cancelled) +
        acts.count (.ask (.cancelAlarm alarm)) := by
  induction acts generalizing w with
  | nil => rfl
  | cons act acts ih =>
    obtain ⟨first, plain⟩ := List.forall_mem_cons.mp plain
    obtain ⟨more, same⟩ := w.signals_does act
    have mem' : alarm ∈ handed (w.does act).signals := by
      rw [← same, handed_append]
      exact List.mem_append_left _ mem
    rw [run_cons, ih (logged.does act) (unguarded_does logged unguarded first) plain mem',
      cancelled_does logged unguarded first mem, List.count_cons, Nat.add_assoc,
      Nat.add_comm (List.count ..)]
    simp only [beq_iff_eq]

theorem unguarded_run (logged : w.Logged) (unguarded : w.state.ledger.Unguarded)
    (plain : ∀ act ∈ acts, act.plain = true) : (w.run acts).state.ledger.Unguarded := by
  induction acts generalizing w with
  | nil => exact unguarded
  | cons act acts ih =>
    obtain ⟨first, plain⟩ := List.forall_mem_cons.mp plain
    exact ih (logged.does act) (unguarded_does logged unguarded first) plain

theorem own_eq_of_agree (logged : w.Logged) (unguarded : w.state.ledger.Unguarded)
    {acts' : List Act} (plain : ∀ act ∈ acts, act.plain = true)
    (agree : acts'.filter (· ≠ .ask (.cancelAlarm other)) =
      acts.filter (· ≠ .ask (.cancelAlarm other))) (differ : alarm ≠ other) :
    own alarm (w.run acts').signals = own alarm (w.run acts).signals := by
  have plain' : ∀ act ∈ acts', act.plain = true := fun act mem => by
    by_cases cancel : act = .ask (.cancelAlarm other)
    · exact cancel ▸ rfl
    · have kept : act ∈ acts'.filter (· ≠ .ask (.cancelAlarm other)) :=
        List.mem_filter.mpr ⟨mem, by simpa using cancel⟩
      rw [agree] at kept
      exact plain act (List.mem_filter.mp kept).1
  have alike : Alike other w w := .refl logged unguarded
  rw [(alike.run plain').own alarm differ, agree, (alike.run plain).own alarm differ]

end Plain

section Set

variable (id : CorrelationId) (span : Duration)

theorem own_does_arm (logged : w.Logged) :
    let since := w.state.clock
    let alarm := (w.state.ledger.arm id (since + span)).1
    let u := w.does (.ask (.arm id span))
    own alarm u.signals = [⟨since, .set, alarm⟩] ∧ alarm ∈ handed u.signals := by
  intro since alarm u
  have set : u.signals = w.signals ++ [⟨since, .set, alarm⟩] := by
    rw [← w.state.ledger.signalled_arm]
    rfl
  rw [set, own_concat, if_pos rfl, handed_concat, if_pos rfl]
  exact ⟨congrArg (· ++ _) (logged.kept.own_next id (since + span)),
    List.mem_append_right _ (List.mem_singleton_self _)⟩

theorem fate_run (logged : w.Logged) {since : Duration}
    (set : own alarm w.signals = [⟨since, .set, alarm⟩]) (mem : alarm ∈ handed w.signals)
    (acts : List Act) :
    alarm ∈ handed (w.run acts).signals ∧ Fate since alarm (own alarm (w.run acts).signals) := by
  obtain ⟨more, grown⟩ := w.signals_run acts
  have mem' : alarm ∈ handed (w.run acts).signals := by
    rw [← grown, handed_append]
    exact List.mem_append_left _ mem
  obtain ⟨since', fate⟩ := (logged.run acts).kept.fate alarm mem'
  obtain ⟨rest, split, _⟩ := fate.head
  have same : since' = since := by
    rw [← grown, own_append, set] at split
    cases split
    rfl
  exact ⟨mem', same ▸ fate⟩

end Set

/-- Whatever is asked and however time passes, an alarm goes off once, at the instant at which it is
due, unless it was cancelled by then; while it has neither gone off nor been cancelled, it is not
yet due, or due just now, and time always goes on. As long as no alarm is put in charge of an
exchange, an alarm is cancelled as often as its own handle is used, and cancels through another
handle, as many as there are and at whatever time, make no difference to it. -/
theorem alarms_go_off_in_time (config : HostConfig) (engine : Engine) (before later : List Act)
    (id : CorrelationId) (span : Duration) :
    let acts := before ++ .ask (.arm id span) :: later
    let v := (fresh config engine).run before
    let w := (fresh config engine).run acts
    let since := v.state.clock
    let alarm := (v.state.ledger.arm id (since + span)).1
    Fate since alarm (own alarm w.signals) ∧
    (own alarm w.signals = [⟨since, .set, alarm⟩] →
      w.state.clock ≤ since + span ∧ (w.state.quiet → w.state.clock < since + span)) ∧
    (∀ more, let u := w.does (.advance more)
      u.state.quiet ∧ u.state.clock = w.state.clock + more) ∧
    ((∀ act ∈ acts, act.plain = true) →
      (own alarm w.signals).countP (·.sign = .cancelled) =
        later.count (.ask (.cancelAlarm alarm)) ∧
      ∀ other ≠ alarm, ∀ acts', acts'.filter (· ≠ .ask (.cancelAlarm other)) =
          acts.filter (· ≠ .ask (.cancelAlarm other)) →
        own alarm ((fresh config engine).run acts').signals = own alarm w.signals) := by
  intro acts v w since alarm
  have start := logged_fresh config engine
  have before' : v.Logged := start.run before
  obtain ⟨set, handed'⟩ := own_does_arm id span before'
  have ran : w = (v.does (.ask (.arm id span))).run later := by rw [← run_cons, ← run_append]
  have logged : w.Logged := start.run acts
  obtain ⟨mem, fate⟩ := fate_run (before'.does _) set handed' later
  rw [← ran] at mem fate
  refine ⟨fate, fun waiting => ?_, fun more => (State.Lapses.lapse logged more).2,
    fun plain => ?_⟩
  · have armed := (logged.kept.armed_iff mem fate).mpr waiting
    exact ⟨logged.kept.early alarm armed, fun quiet => logged.quiet_iff.mp quiet alarm armed⟩
  · obtain ⟨plain₁, plain₂⟩ := List.forall_mem_append.mp plain
    obtain ⟨setting, plain₂⟩ := List.forall_mem_cons.mp plain₂
    have unguarded := unguarded_run start unguarded_fresh plain₁
    have unguarded' := unguarded_does before' unguarded setting
    refine ⟨?_, fun other differ acts' agree =>
      own_eq_of_agree start unguarded_fresh plain agree differ.symm⟩
    rw [ran, cancelled_run (before'.does _) unguarded' plain₂ handed', set]
    exact Nat.zero_add _

section Sample

def sample : Vigil := fresh {} (.paced [] ⟨0⟩)

def earlier : Alarm := ⟨0, .issued 0, ⟨10⟩⟩

def newer : Alarm := ⟨1, .issued 0, ⟨50⟩⟩

theorem newer_alarm_unharmed :
    let acts : List Act := [.ask (.arm (.issued 0) ⟨10⟩),
      .ask (.arm (.issued 0) ⟨50⟩), .ask (.cancelAlarm earlier),
      .advance ⟨20⟩, .ask (.cancelAlarm earlier), .advance ⟨40⟩]
    (∀ act ∈ acts, act.plain = true) ∧
      own newer (sample.run acts).signals =
        [⟨⟨0⟩, .set, newer⟩, ⟨⟨50⟩, .rung, newer⟩] ∧
      own newer (sample.run (acts.filter (· ≠ .ask (.cancelAlarm earlier)))).signals =
        own newer (sample.run acts).signals := by
  intro acts
  have plain : ∀ act ∈ acts, act.plain = true := by decide
  refine ⟨plain, by decide, ?_⟩
  obtain ⟨_, _, _, alone⟩ := alarms_go_off_in_time {} (.paced [] ⟨0⟩) (acts.take 1) (acts.drop 2)
    (.issued 0) ⟨50⟩
  exact (alone plain).2 earlier (by decide) (acts.filter (· ≠ .ask (.cancelAlarm earlier)))
    (by decide)

end Sample

/-- The armed alarms are those that have neither gone off nor been cancelled. The board counts no
more than these, and all of them exactly if, since each was set, nothing has happened to another
alarm under its id. -/
theorem count_live_iff (config : HostConfig) (engine : Engine) (acts : List Act) :
    let w := (fresh config engine).run acts
    let l := w.state.ledger
    l.alarms.armed = live w.signals ∧ l.alarms.count ≤ (live w.signals).length ∧
      (l.alarms.count = (live w.signals).length ↔
        ∀ alarm ∈ live w.signals, Undisturbed w.signals alarm) := by
  intro w l
  have kept : l.alarms.Kept w.signals w.state.clock := ((logged_fresh config engine).run acts).kept
  classical
  rw [kept.count_eq, List.length_filter_eq_length_iff]
  simpa using ⟨kept.armed, List.length_filter_le _ _⟩

/-- An alarm that is set under the id of a live one takes its place on the board, and a handle of an
alarm that is past takes the place of the alarm that was set under its id since. -/
theorem live_alarm_not_counted :
    let set : List Act := [.ask (.arm (.issued 0) ⟨10⟩),
      .ask (.arm (.issued 0) ⟨50⟩)]
    let reset : List Act := [.ask (.arm (.issued 0) ⟨10⟩), .advance ⟨20⟩,
      .ask (.arm (.issued 0) ⟨30⟩), .ask (.cancelAlarm earlier)]
    ((sample.run set).state.quiet ∧ live (sample.run set).signals = [earlier, newer] ∧
      (sample.run set).state.ledger.alarms.count = 1) ∧
    (sample.run reset).state.quiet ∧ live (sample.run reset).signals = [newer] ∧
      (sample.run reset).state.ledger.alarms.count = 0 := by
  decide

end Vigil

end ComponentHost
