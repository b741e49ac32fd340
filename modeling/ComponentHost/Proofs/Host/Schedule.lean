import ComponentHost.Proofs.Host.Component.ShutdownDrain
import ComponentHost.Proofs.Ledger.AlarmLog

/-! The schedule as a run. To settle a host is to take moves that are open, and to let time pass is
to wait from one instant to the next and settle there. In a host without components nothing moves
but the alarms: each of them goes off at its own instant, and the host is quiet when the time is
over. -/

namespace ComponentHost.State

open Signal

variable {s t : State}

section Schedule

def nextMove? (s : State) : Option Move := s.moves.find? fun m => (s.step m).isSome

theorem next?_eq (s : State) : s.next? = s.nextMove?.map fun m => s.after (.move m) := by
  rw [next?, nextMove?]
  induction s.moves with
  | nil => rfl
  | cons m moves ih =>
    rw [List.findSome?_cons, List.find?_cons]
    cases stepped : s.step m with
    | none => exact ih
    | some t => simp [after, stepped]

theorem quiet_of_still (still : s.nextMove? = none) : s.quiet := by
  rw [quiet_iff, next?_eq, still, Option.map_none]

def settling : Nat → State → List Act
  | 0, _ => []
  | fuel + 1, s =>
    match s.nextMove? with
    | some m => .move m :: settling fuel (s.after (.move m))
    | none => []

theorem run_settling (fuel : Nat) (s : State) : s.run (settling fuel s) = settleFor fuel s := by
  induction fuel generalizing s with
  | zero => rfl
  | succ fuel ih =>
    rw [settling, settleFor, next?_eq]
    cases s.nextMove? with
    | none => rfl
    | some m => exact ih _

theorem clock_settling (fuel : Nat) (s : State) : (s.run (settling fuel s)).clock = s.clock := by
  induction fuel generalizing s with
  | zero => rfl
  | succ fuel ih =>
    rw [settling]
    cases s.nextMove? with
    | none => rfl
    | some m => exact (ih _).trans ((s.setting_after (.move m)).2 nofun)

def reaching (s : State) (instant : Duration) : List Act :=
  let t := { s with clock := instant }
  .wait (instant - s.clock) :: settling t.work t

theorem after_wait {instant : Duration} (ahead : s.clock ≤ instant) :
    s.after (.wait (instant - s.clock)) = { s with clock := instant } := by
  have there : s.clock + (instant - s.clock) = instant :=
    Duration.ext_iff.mpr (Nat.add_sub_cancel' ahead)
  rw [after, there]

theorem run_reaching {instant : Duration} (ahead : s.clock ≤ instant) :
    s.run (s.reaching instant) = { s with clock := instant }.settle := by
  rw [reaching, run_cons, after_wait ahead, run_settling, settle]

theorem clock_reaching {instant : Duration} (ahead : s.clock ≤ instant) :
    (s.run (s.reaching instant)).clock = instant := by
  rw [reaching, run_cons, after_wait ahead, clock_settling]

def passing : Nat → State → Duration → List Act
  | 0, s, target => s.reaching target
  | fuel + 1, s, target =>
    match s.wake? with
    | some instant =>
      if instant ≤ target then
        s.reaching instant ++ passing fuel (s.run (s.reaching instant)) target
      else s.reaching target
    | none => s.reaching target

theorem earliest_eq_none {due : List Duration} (empty : earliest due = none) : due = [] := by
  cases due with
  | nil => rfl
  | cons d rest =>
    rw [earliest] at empty
    split at empty
    · split at empty <;> cases empty
    · cases empty

theorem earliest_eq_some {due : List Duration} {instant : Duration}
    (first : earliest due = some instant) : instant ∈ due ∧ ∀ d ∈ due, instant ≤ d := by
  induction due generalizing instant with
  | nil => cases first
  | cons d rest ih =>
    rw [earliest] at first
    cases others : earliest rest with
    | none =>
      rw [others] at first
      cases first
      rw [earliest_eq_none others]
      refine ⟨List.mem_singleton_self _, fun e mem => ?_⟩
      rw [List.mem_singleton.mp mem]
      exact Nat.le_refl _
    | some e =>
      obtain ⟨mem, least⟩ := ih others
      rw [others] at first
      dsimp only at first
      split at first
      case isTrue sooner =>
        cases first
        exact ⟨List.mem_cons_self, List.forall_mem_cons.mpr
          ⟨Nat.le_refl _, fun x mem' => Nat.le_trans sooner (least x mem')⟩⟩
      case isFalse later =>
        cases first
        exact ⟨List.mem_cons_of_mem _ mem, List.forall_mem_cons.mpr
          ⟨Nat.le_of_lt (Nat.lt_of_not_le later), least⟩⟩

theorem wake?_eq_some {instant : Duration} (wakes : s.wake? = some instant) :
    instant ∈ s.wakes ∧ s.clock < instant ∧ ∀ due ∈ s.wakes, s.clock < due → instant ≤ due := by
  obtain ⟨mem, least⟩ := earliest_eq_some wakes
  obtain ⟨mem, ahead⟩ := List.mem_filter.mp mem
  exact ⟨mem, of_decide_eq_true ahead, fun due mem' later =>
    least due (List.mem_filter.mpr ⟨mem', decide_eq_true later⟩)⟩

theorem not_lt_of_wake?_eq_none (idle : s.wake? = none) : ∀ due ∈ s.wakes, ¬ s.clock < due := by
  have noneLater := List.filter_eq_nil_iff.mp (earliest_eq_none idle)
  exact fun due mem later => noneLater due mem (decide_eq_true later)

theorem run_passing (fuel : Nat) {target : Duration} (ahead : s.clock ≤ target) :
    s.run (passing fuel s target) = advanceFor fuel s target := by
  induction fuel generalizing s with
  | zero => exact run_reaching ahead
  | succ fuel ih =>
    rw [passing, advanceFor]
    cases wakes : s.wake? with
    | none => exact run_reaching ahead
    | some instant =>
      have later : s.clock ≤ instant := Nat.le_of_lt (wake?_eq_some wakes).2.1
      dsimp only
      by_cases within : instant ≤ target
      · rw [if_pos within, if_pos within, run_append,
          ih (by rw [clock_reaching later]; exact within), run_reaching later]
      · rw [if_neg within, if_neg within]
        exact run_reaching ahead

/-- All that a host does by itself in a span of time. -/
def lapse (s : State) (span : Duration) : List Act :=
  let t := s.run (settling s.work s)
  settling s.work s ++ passing (t.work + 1) t (t.clock + span)

theorem run_lapse (s : State) (span : Duration) :
    s.run (s.lapse span) = s.settle.advance span := by
  have ahead : ∀ t : State, t.clock ≤ t.clock + span := fun t => Nat.le_add_right _ _
  rw [lapse, run_append, run_passing _ (ahead _), run_settling]
  rfl

end Schedule

section Chimes

def chime (s : State) : Act → List Signal
  | .move (.alarm number) =>
    match s.ledger.alarms.find? number with
    | some alarm => if alarm.due ≤ s.clock then s.ledger.signalled ⟨s.clock, .ring alarm⟩ else []
    | none => []
  | _ => []

def chimes : State → List Act → List Signal
  | _, [] => []
  | s, v :: acts => s.chime v ++ (s.after v).chimes acts

theorem chimes_append (s : State) (acts acts' : List Act) :
    s.chimes (acts ++ acts') = s.chimes acts ++ (s.run acts).chimes acts' := by
  induction acts generalizing s with
  | nil => rfl
  | cons v acts ih => rw [List.cons_append, chimes, ih, chimes, run_cons, List.append_assoc]

structure Bare (s : State) : Prop where
  actors : s.actors = []
  enrolling : s.enrolling = []
  calls : s.calls = []

theorem Bare.wakes (bare : s.Bare) : s.wakes = s.ledger.alarms.armed.map Alarm.due := by
  rw [State.wakes, bare.actors, bare.calls, List.filterMap_nil, List.filterMap_nil,
    List.append_nil, List.append_nil]

theorem Bare.alarm (bare : s.Bare) {m : Move} (stepped : s.step m = some t) :
    ∃ number, m = .alarm number := by
  cases m with
  | alarm number => exact ⟨number, rfl⟩
  | actor a => simp [step, stepActor, bare.actors] at stepped
  | enroll i => simp [step, enroll, bare.enrolling] at stepped
  | call n => simp [step, stepCall, bare.calls] at stepped

structure Logged (s : State) (signals : List Signal) : Prop where
  bare : s.Bare
  kept : s.ledger.alarms.Kept signals s.clock
  attached : s.ledger.Attached (handed signals)
  served : s.ledger.Served

/-- What may have happened since the log `before`, when nothing was asked of the host: alarms went
off, and others were cancelled with the exchanges they were in charge of. -/
structure Lapses (s t : State) (before signals : List Signal) : Prop where
  logged : t.Logged (before ++ signals)
  fewer : t.ledger.alarms.armed.Sublist s.ledger.alarms.armed
  past : ∀ r ∈ signals, r.sign ≠ .set
  unguarded : s.ledger.Unguarded → (∀ r ∈ signals, r.sign = .rung) ∧ t.ledger.Unguarded

variable {before signals signals' : List Signal}

theorem Bare.congr (bare : s.Bare) (actors : t.actors = s.actors)
    (enrolling : t.enrolling = s.enrolling) (calls : t.calls = s.calls) : t.Bare :=
  ⟨actors ▸ bare.actors, enrolling ▸ bare.enrolling, calls ▸ bare.calls⟩

namespace Logged

theorem quiet_iff (logged : s.Logged signals) :
    s.quiet ↔ ∀ alarm ∈ s.ledger.alarms.armed, s.clock < alarm.due := by
  constructor
  · intro quiet alarm armed
    have still := quiet (.alarm alarm.number)
    rw [step, stepAlarm, logged.kept.find?_armed armed] at still
    refine Nat.lt_of_not_le fun due => ?_
    simp [show alarm.due ≤ s.clock from due] at still
  · intro ahead m
    cases stepped : s.step m with
    | none => rfl
    | some t =>
      obtain ⟨number, rfl⟩ := logged.bare.alarm stepped
      obtain ⟨alarm, armed, due, _⟩ := stepAlarm_eq stepped
      exact absurd due (Nat.not_le.mpr (ahead alarm armed))

theorem settled (logged : s.Logged signals) {act : Ledger.Act}
    (fair : act.Fair signals s.ledger.alarms s.clock) :
    (s.settled act).Logged (signals ++ s.ledger.signalled ⟨s.clock, act⟩) where
  bare := logged.bare.congr rfl rfl rfl
  kept := Ledger.kept_after logged.kept logged.attached fair
  attached := by
    have given : ∀ id alarm, act = .attach id alarm → alarm ∈ handed signals := by
      rintro id alarm rfl
      exact fair
    have attached := logged.attached.after (v := ⟨s.clock, act⟩) logged.served.apart given
    refine attached.mono fun alarm mem => ?_
    rw [handed_append]
    exact List.mem_append_left _ mem
  served := logged.served.after ⟨s.clock, act⟩

theorem at_instant (logged : s.Logged signals) {instant : Duration} (ahead : s.clock ≤ instant)
    (early : ∀ alarm ∈ s.ledger.alarms.armed, instant ≤ alarm.due) :
    { s with clock := instant }.Logged signals :=
  ⟨logged.bare.congr rfl rfl rfl, logged.kept.pass ahead early, logged.attached, logged.served⟩

end Logged

namespace Lapses

theorem refl (logged : s.Logged before) : s.Lapses s before [] :=
  ⟨(List.append_nil before).symm ▸ logged, .refl _, nofun, fun unguarded => ⟨nofun, unguarded⟩⟩

theorem trans {u : State} (first : s.Lapses t before signals)
    (second : t.Lapses u (before ++ signals) signals') :
    s.Lapses u before (signals ++ signals') where
  logged := by
    rw [← List.append_assoc]
    exact second.logged
  fewer := second.fewer.trans first.fewer
  past r mem := (List.mem_append.mp mem).elim (first.past r) (second.past r)
  unguarded start := by
    obtain ⟨rung, middle⟩ := first.unguarded start
    obtain ⟨rung', last⟩ := second.unguarded middle
    exact ⟨fun r mem => (List.mem_append.mp mem).elim (rung r) (rung' r), last⟩

theorem waiting (logged : s.Logged before) {instant : Duration} (ahead : s.clock ≤ instant)
    (early : ∀ alarm ∈ s.ledger.alarms.armed, instant ≤ alarm.due) :
    s.Lapses { s with clock := instant } before [] where
  logged := (List.append_nil before).symm ▸ logged.at_instant ahead early
  fewer := .refl _
  past := nofun
  unguarded start := ⟨nofun, start⟩

theorem ringing (logged : s.Logged before) {alarm : Alarm}
    (armed : alarm ∈ s.ledger.alarms.armed) (due : alarm.due ≤ s.clock) :
    s.Lapses (s.settled (.ring alarm)) before (s.ledger.signalled ⟨s.clock, .ring alarm⟩) where
  logged := by
    have fair : (Ledger.Act.ring alarm).Fair before s.ledger.alarms s.clock := ⟨armed, due⟩
    exact logged.settled fair
  fewer := by
    rw [State.settled, Ledger.alarms_after]
    exact (Alarms.armed_foldl_retire _ _).trans List.filter_sublist
  past r mem := by
    obtain mem | mem := List.mem_append.mp mem
    · simp [List.mem_singleton.mp mem]
    · obtain ⟨other, _, rfl⟩ := List.mem_map.mp mem
      simp
  unguarded start := by
    refine ⟨fun r mem => ?_, start.after logged.served.apart fun _ _ other => by cases other⟩
    rw [start.signalled] at mem
    rw [List.mem_singleton.mp mem]

theorem moving (logged : s.Logged before) {m : Move} (next : s.nextMove? = some m) :
    s.Lapses (s.after (.move m)) before (s.chime (.move m)) ∧
      (s.after (.move m)).ledger.alarms.armed.length < s.ledger.alarms.armed.length := by
  have enabled : (s.step m).isSome := List.find?_some (p := fun m => (s.step m).isSome) next
  obtain ⟨t, stepped⟩ := Option.isSome_iff_exists.mp enabled
  obtain ⟨number, rfl⟩ := logged.bare.alarm stepped
  obtain ⟨alarm, found, due, same⟩ : ∃ alarm, s.ledger.alarms.find? number = some alarm ∧
      alarm.due ≤ s.clock ∧ s.settled (.ring alarm) = t := by
    have rings : ∀ alarm, s.settled (.ring alarm) =
        { s with ledger := s.ledger.ring s.clock alarm } := fun _ => rfl
    simpa [step, stepAlarm, Option.bind_eq_some_iff, rings] using stepped
  have armed : alarm ∈ s.ledger.alarms.armed := List.mem_of_find?_eq_some found
  have ringing := ringing logged armed due
  rw [after, stepped, Option.getD_some, ← same, chime, found]
  dsimp only
  rw [if_pos due]
  refine ⟨ringing, Nat.lt_of_le_of_ne ringing.fewer.length_le fun all => ?_⟩
  -- It is armed no more.
  have gone := (Alarms.armed_foldl_retire (s.ledger.alarms.retire alarm)
    (s.ledger.struck ⟨s.clock, .ring alarm⟩)).mem (a := alarm)
  rw [← ringing.fewer.eq_of_length all, State.settled, Ledger.alarms_after] at armed
  exact (Alarms.mem_armed_retire.mp (gone armed)).2 rfl

theorem settling {fuel : Nat} (logged : s.Logged before)
    (enough : s.ledger.alarms.armed.length ≤ fuel) :
    s.Lapses (s.run (settling fuel s)) before (s.chimes (settling fuel s)) ∧
      (s.run (settling fuel s)).quiet := by
  induction fuel generalizing s before with
  | zero =>
    have unarmed : s.ledger.alarms.armed = [] :=
      List.eq_nil_of_length_eq_zero (Nat.le_zero.mp enough)
    refine ⟨refl logged, logged.quiet_iff.mpr ?_⟩
    rw [unarmed]
    exact nofun
  | succ fuel ih =>
    rw [State.settling]
    cases next : s.nextMove? with
    | none => exact ⟨refl logged, quiet_of_still next⟩
    | some m =>
      obtain ⟨first, fewer⟩ := moving logged next
      obtain ⟨rest, quiet⟩ := ih first.logged (by omega)
      exact ⟨first.trans rest, quiet⟩

theorem armed_le_work (s : State) : s.ledger.alarms.armed.length ≤ s.work := by
  unfold work
  omega

theorem reaching {instant : Duration} (logged : s.Logged before) (ahead : s.clock ≤ instant)
    (early : ∀ alarm ∈ s.ledger.alarms.armed, instant ≤ alarm.due) :
    s.Lapses (s.run (s.reaching instant)) before (s.chimes (s.reaching instant)) ∧
      (s.run (s.reaching instant)).quiet ∧ (s.run (s.reaching instant)).clock = instant := by
  have first := waiting logged ahead early
  obtain ⟨rest, quiet⟩ := settling first.logged (armed_le_work _)
  refine ⟨?_, ?_, clock_reaching ahead⟩ <;> rw [State.reaching, run_cons, after_wait ahead]
  · rw [chimes, after_wait ahead]
    exact first.trans rest
  · exact quiet

theorem passing {fuel : Nat} {target : Duration} (logged : s.Logged before) (quiet : s.quiet)
    (ahead : s.clock ≤ target) (enough : s.ledger.alarms.armed.length ≤ fuel) :
    s.Lapses (s.run (passing fuel s target)) before (s.chimes (passing fuel s target)) ∧
      (s.run (passing fuel s target)).quiet ∧ (s.run (passing fuel s target)).clock = target := by
  -- Each stop on the way uses up an alarm, so the fuel lasts.
  induction fuel generalizing s before with
  | zero =>
    refine reaching logged ahead fun alarm armed => ?_
    rw [List.eq_nil_of_length_eq_zero (Nat.le_zero.mp enough)] at armed
    cases armed
  | succ fuel ih =>
    have waits := logged.quiet_iff.mp quiet
    have wakes_of : ∀ alarm ∈ s.ledger.alarms.armed, alarm.due ∈ s.wakes := fun alarm armed =>
      logged.bare.wakes ▸ List.mem_map_of_mem armed
    rw [State.passing]
    cases wakes : s.wake? with
    | none =>
      refine reaching logged ahead fun alarm armed => ?_
      exact absurd (waits alarm armed)
        (not_lt_of_wake?_eq_none wakes alarm.due (wakes_of alarm armed))
    | some instant =>
      obtain ⟨mem, later, first⟩ := wake?_eq_some wakes
      have early : ∀ alarm ∈ s.ledger.alarms.armed, instant ≤ alarm.due := fun alarm armed =>
        first alarm.due (wakes_of alarm armed) (waits alarm armed)
      dsimp only
      by_cases within : instant ≤ target
      · obtain ⟨there, quiet', now⟩ := reaching logged (Nat.le_of_lt later) early
        -- The alarm that was due at that instant is armed no more.
        have fewer : (s.run (s.reaching instant)).ledger.alarms.armed.length <
            s.ledger.alarms.armed.length := by
          refine Nat.lt_of_le_of_ne there.fewer.length_le fun all => ?_
          rw [logged.bare.wakes] at mem
          obtain ⟨alarm, armed, rfl⟩ := List.mem_map.mp mem
          rw [← there.fewer.eq_of_length all] at armed
          have waiting := there.logged.quiet_iff.mp quiet' alarm armed
          rw [now] at waiting
          exact absurd waiting (Nat.lt_irrefl _)
        obtain ⟨rest, last⟩ := ih there.logged quiet' (by rw [now]; exact within) (by omega)
        rw [if_pos within, run_append, chimes_append]
        exact ⟨there.trans rest, last⟩
      · rw [if_neg within]
        exact reaching logged ahead fun alarm armed =>
          Nat.le_trans (Nat.le_of_lt (Nat.lt_of_not_le within)) (early alarm armed)

theorem lapse (logged : s.Logged before) (span : Duration) :
    s.Lapses (s.settle.advance span) before (s.chimes (s.lapse span)) ∧
      (s.settle.advance span).quiet ∧ (s.settle.advance span).clock = s.clock + span := by
  obtain ⟨first, quiet⟩ := settling logged (armed_le_work s)
  have ahead : (s.run (State.settling s.work s)).clock ≤ s.clock + span := by
    rw [clock_settling]
    exact Nat.le_add_right _ _
  have enough : (s.run (State.settling s.work s)).ledger.alarms.armed.length ≤
      s.settle.work + 1 := by
    rw [run_settling]
    exact Nat.le_succ_of_le (armed_le_work _)
  obtain ⟨rest, last, now⟩ := passing first.logged quiet ahead enough
  rw [← run_lapse, State.lapse, run_append, chimes_append, clock_settling]
  rw [settle, ← run_settling] at rest last now
  exact ⟨first.trans rest, last, now⟩

theorem handed_eq (lapses : s.Lapses t before signals) :
    handed (before ++ signals) = handed before := by
  rw [handed_append, handed_eq_nil lapses.past, List.append_nil]

/-- If no exchange has an alarm in charge of it, what happens to an alarm while time passes depends
on no other. -/
theorem own_eq (lapses : s.Lapses t before signals) (logged : s.Logged before)
    (unguarded : s.ledger.Unguarded) (quiet : t.quiet) (alarm : Alarm) :
    own alarm signals = if alarm ∈ s.ledger.alarms.armed ∧ alarm.due ≤ t.clock then
      [⟨alarm.due, .rung, alarm⟩] else [] := by
  by_cases mem : alarm ∈ handed before
  · obtain ⟨since, fate⟩ := logged.kept.fate alarm mem
    have mem' : alarm ∈ handed (before ++ signals) := lapses.handed_eq.symm ▸ mem
    obtain ⟨since', fate'⟩ := lapses.logged.kept.fate alarm mem'
    have armed := logged.kept.armed_iff mem fate
    have armed' := lapses.logged.kept.armed_iff mem' fate'
    rw [own_append] at fate' armed'
    obtain silent | ⟨waiting, rung⟩ := fate.goes_on fate' fun r own =>
      (lapses.unguarded unguarded).1 r (mem_own.mp own).1
    · rw [silent, List.append_nil] at fate' armed'
      rw [silent, if_neg]
      rintro ⟨before, due⟩
      obtain ⟨later, split, _⟩ := fate'.head
      have still := armed'.mpr (by
        rw [armed.mp before] at split ⊢
        cases split
        rfl)
      exact Nat.not_le.mpr (lapses.logged.quiet_iff.mp quiet alarm still) due
    · have timely := lapses.logged.kept.timely _
        (List.mem_append_right _ (mem_own.mp (rung ▸ List.mem_singleton_self _)).1)
      rw [rung, if_pos ⟨armed.mpr waiting, timely⟩]
  · rw [if_neg fun armed => mem (logged.kept.mem_handed_of_armed armed.1)]
    refine own_eq_nil fun r mem' same => mem ?_
    rw [← lapses.handed_eq, ← same]
    exact lapses.logged.kept.known r (List.mem_append_right _ mem')

end Lapses

end Chimes

end ComponentHost.State
