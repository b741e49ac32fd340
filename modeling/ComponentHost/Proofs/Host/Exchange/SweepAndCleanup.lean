import ComponentHost.Proofs.Host.Exchange.AlarmRuns
import ComponentHost.Proofs.Ledger.Clearing

/-! The sweep and the cleanup for a component, at any point of a vigil and in whatever order they go
through what is pending. Both are exact about exchanges, waiters and counters, and the alarms of
what they clear never go off. But each of these alarms, even if it is long past, takes the place of
its id off the board, and another alarm that was set under that id since is not counted any more. -/

namespace ComponentHost.Vigil

open Ledger

section Clears

variable {w : Vigil} {m : Ledger} {picks : Entry → Bool} {how : Closing} {failure : RequestFailure}
  {now : Duration} {id : CorrelationId} {e : Entry}

theorem Logged.finished (logged : w.Logged) (served : m.Served)
    (clears : Clears picks how failure now w.state.ledger m)
    (pending : w.state.ledger.pending.get? id = some e) (picked : picks e = true)
    (vs : List Event) :
    (m.run vs).waiters[e.waiter]? = m.waiters[e.waiter]? ∧
      ∀ alarm, e.alarm = some alarm → (m.run vs).alarms.find? alarm.number = none := by
  refine ⟨served.run_of_done vs (clears.done logged.served pending picked), fun alarm charged => ?_⟩
  have known := logged.kept.number_lt (logged.attached id e alarm pending charged)
  exact (past_run (clears.past pending picked charged known) vs).find?_eq_none

theorem Logged.places_kept_iff (logged : w.Logged)
    (clears : Clears picks how failure now w.state.ledger m) (orderly : w.state.ledger.Orderly) :
    (∀ alarm ∈ m.alarms.armed,
        m.alarms.board.get? alarm.id = w.state.ledger.alarms.board.get? alarm.id) ↔
      ∀ id e alarm, w.state.ledger.pending.get? id = some e → picks e = true →
        e.alarm = some alarm → alarm ∉ w.state.ledger.alarms.armed →
        ∀ other ∈ w.state.ledger.alarms.armed, other.id = id →
          w.state.ledger.alarms.board.get? id = none := by
  constructor
  · rintro kept id e alarm pending picked charged past other armed rfl
    have guard := mem_guards.mpr ⟨_, e, pending, picked, charged⟩
    have left : other ∈ m.alarms.armed := by
      refine clears.armed.mpr ⟨armed, fun guard mem same => ?_⟩
      obtain ⟨j, f, pending', _, charged'⟩ := mem_guards.mp mem
      have itself : other = guard := logged.kept.eq_of_number
        (logged.kept.mem_handed_of_armed armed) (logged.attached j f guard pending' charged') same
      subst itself
      rw [← orderly.own pending' charged', pending] at pending'
      cases pending'
      cases charged.symm.trans charged'
      exact past armed
    rw [← kept other left, clears.board, if_pos]
    exact orderly.own pending charged ▸ List.mem_map_of_mem guard
  · intro free other left
    obtain ⟨armed, stays⟩ := clears.armed.mp left
    rw [clears.board]
    split
    case isFalse => rfl
    case isTrue taken =>
      obtain ⟨guard, mem, same⟩ := List.mem_map.mp taken
      obtain ⟨id, e, pending, picked, charged⟩ := mem_guards.mp mem
      have past : guard ∉ w.state.ledger.alarms.armed := fun live =>
        stays guard mem (congrArg Alarm.number (orderly.single armed live same.symm))
      have own : other.id = id := same.symm.trans (orderly.own pending charged)
      rw [own, free id e guard pending picked charged past other armed own]

end Clears

/-- A sweep refuses exactly the exchanges whose time is over; one that is just at its deadline
stays. Their waiters receive a timeout each and nothing ever after, their alarms never go off, and
whatever comes for them later, until the id is used anew, finds nothing and changes nothing. -/
theorem sweep_exact (config : HostConfig) (engine : Engine) (acts : List Act) (now : Duration)
    (ids : List CorrelationId) :
    let l := ((fresh config engine).run acts).state.ledger
    let n := (l.sweep now).1
    let m := (l.sweep now).2
    ids.Perm (l.overdue now) →
    each (·.expire now) ids l = (n, m) ∧ n = (l.overdue now).length ∧
    n + m.pending.size = l.pending.size ∧
    Clears (·.overdue now) .timeout .timeout now l m ∧
    m.sweep now = (0, m) ∧
    ∀ id e, l.pending.get? id = some e → e.timeout < now - e.requestedAt → ∀ vs : List Event,
      (m.run vs).waiters[e.waiter]? = m.waiters[e.waiter]? ∧
      (∀ alarm, e.alarm = some alarm → (m.run vs).alarms.find? alarm.number = none) ∧
      ((∀ v ∈ vs, ∀ sender recipient timeout, v.act ≠ .register id sender recipient timeout) →
        ∀ later, (∀ r, (m.run vs).resolve id r = .error (.unknown id)) ∧
          (m.run vs).expire later id = .error (.unknown id) ∧
          (∀ failure, (m.run vs).cancel later failure id = .error (.unknown id)) ∧
          ∀ alarm : Alarm, alarm.id = id →
            (m.run vs).ring later alarm = (m.run vs).cancelAlarm alarm) := by
  intro l n m order
  have logged := (logged_fresh config engine).run acts
  have served : m.Served := logged.served.after ⟨now, .sweep⟩
  obtain ⟨same, number, clears⟩ := sweep_clears logged.served order
  refine ⟨same, number, (congrArg (· + _) number).trans clears.size, clears, ?_,
    fun id e pending late vs => ?_⟩
  · have noneOverdue : m.overdue now = [] := clears.picked_eq_nil
    rw [sweep, noneOverdue]
    rfl
  · have picked : e.overdue now = true := decide_eq_true late
    obtain ⟨waits, past⟩ := logged.finished served clears pending picked vs
    refine ⟨waits, past, fun other later => turned_away ?_ later⟩
    exact unknown_run served (clears.get?_eq_none pending picked) other

theorem late_request_swept :
    let acts : List Act := [.ask (.register (.issued 0) ⟨"a"⟩ ⟨"b"⟩ ⟨10⟩),
      .ask (.register (.issued 1) ⟨"b"⟩ ⟨"a"⟩ ⟨20⟩), .advance ⟨20⟩]
    let l := (sample.run acts).state.ledger
    let m := (l.sweep ⟨20⟩).2
    let last := m.run [⟨⟨25⟩, .cleanup ⟨"a"⟩⟩]
    [CorrelationId.issued 0].Perm (l.overdue ⟨20⟩) ∧ (l.sweep ⟨20⟩).1 = 1 ∧
      m.waiters = [⟨true, [⟨.issued 0, ⟨"b"⟩, ⟨"a"⟩, .error .timeout, ⟨20⟩⟩]⟩, ⟨true, []⟩] ∧
      m.sweep ⟨20⟩ = (0, m) ∧ last.waiters[0]? = m.waiters[0]? ∧
      last.expire ⟨30⟩ (.issued 0) = .error (.unknown (.issued 0)) := by
  intro acts l m last
  have order : [CorrelationId.issued 0].Perm (l.overdue ⟨20⟩) := by decide
  obtain ⟨_, number, _, _, again, later⟩ :=
    sweep_exact {} (.paced [] ⟨0⟩) acts ⟨20⟩ [.issued 0] order
  obtain ⟨waits, _, found⟩ := later (.issued 0) ⟨⟨"a"⟩, ⟨"b"⟩, 0, ⟨0⟩, ⟨10⟩, none⟩ (by decide)
    (by decide) [⟨⟨25⟩, .cleanup ⟨"a"⟩⟩]
  exact ⟨order, number, by decide, again, waits, (found (by simp) ⟨30⟩).2.1⟩

/-- A cleanup refuses exactly the exchanges that the component takes part in, each once. Their
waiters receive one cancellation each and nothing ever after; their alarms are stopped and off the
board. In an orderly ledger the other alarms keep their places on it exactly if no exchange is
cleared whose alarm is past while another alarm, set under its id since, is on the board. -/
theorem cleanup_exact (config : HostConfig) (engine : Engine) (acts : List Act) (now : Duration)
    (c : ComponentId) (ids : List CorrelationId) :
    let l := ((fresh config engine).run acts).state.ledger
    let n := (l.cleanup now c).1
    let m := (l.cleanup now c).2
    ids.Perm (l.involving c) →
    each (·.cancel now .cancelled) ids l = (n, m) ∧ n = (l.involving c).length ∧
    n + m.pending.size = l.pending.size ∧
    Clears (·.involves c) .cancellation .cancelled now l m ∧
    m.involving c = [] ∧ (∀ later, m.cleanup later c = (0, m)) ∧
    (∀ id e, l.pending.get? id = some e → e.involves c = true → ∀ vs : List Event,
      (m.run vs).waiters[e.waiter]? = m.waiters[e.waiter]? ∧
      ∀ alarm, e.alarm = some alarm → m.alarms.board.get? alarm.id = none ∧
        (m.run vs).alarms.find? alarm.number = none) ∧
    (l.Orderly →
      ((∀ alarm ∈ m.alarms.armed,
          m.alarms.board.get? alarm.id = l.alarms.board.get? alarm.id) ↔
        ∀ id e alarm, l.pending.get? id = some e → e.involves c = true → e.alarm = some alarm →
          alarm ∉ l.alarms.armed →
          ∀ other ∈ l.alarms.armed, other.id = id → l.alarms.board.get? id = none)) := by
  intro l n m order
  have logged := (logged_fresh config engine).run acts
  have served : m.Served := logged.served.after ⟨now, .cleanup c⟩
  obtain ⟨same, number, clears⟩ := cleanup_clears now logged.served order
  have noneInvolved : m.involving c = [] := clears.picked_eq_nil
  refine ⟨same, number, (congrArg (· + _) number).trans clears.size, clears, noneInvolved,
    fun later => ?_, fun id e pending involved vs => ?_,
    fun orderly => logged.places_kept_iff clears orderly⟩
  · rw [cleanup, noneInvolved]
    rfl
  · obtain ⟨waits, past⟩ := logged.finished served clears pending involved vs
    refine ⟨waits, fun alarm charged => ⟨?_, past alarm charged⟩⟩
    have guard : alarm ∈ l.guards (·.involves c) :=
      mem_guards.mpr ⟨id, e, pending, involved, charged⟩
    rw [clears.board, if_pos (List.mem_map_of_mem guard)]

theorem requests_cleaned_up :
    let acts : List Act := [.ask (.register (.issued 0) ⟨"a"⟩ ⟨"a"⟩ ⟨100⟩),
      .ask (.arm (.issued 0) ⟨100⟩), .ask (.attach (.issued 0) ⟨0, .issued 0, ⟨100⟩⟩),
      .ask (.register (.issued 1) ⟨"b"⟩ ⟨"a"⟩ ⟨100⟩), .ask (.arm (.issued 1) ⟨100⟩),
      .ask (.attach (.issued 1) ⟨1, .issued 1, ⟨100⟩⟩),
      .ask (.register (.issued 2) ⟨"b"⟩ ⟨"c"⟩ ⟨100⟩), .ask (.arm (.issued 2) ⟨100⟩),
      .ask (.attach (.issued 2) ⟨2, .issued 2, ⟨100⟩⟩)]
    let l := (sample.run acts).state.ledger
    let m := (l.cleanup ⟨0⟩ ⟨"a"⟩).2
    l.Orderly ∧ each (·.cancel ⟨0⟩ .cancelled) [.issued 1, .issued 0] l = (2, m) ∧
      ∀ alarm ∈ m.alarms.armed, m.alarms.board.get? alarm.id = l.alarms.board.get? alarm.id := by
  intro acts l m
  have order : [CorrelationId.issued 1, .issued 0].Perm (l.involving ⟨"a"⟩) := by decide
  have orderly : l.Orderly := by decide
  have armed : ∀ p ∈ l.pending.entries, ∀ alarm ∈ p.2.alarm, alarm ∈ l.alarms.armed := by decide
  obtain ⟨same, number, _, _, _, _, _, places⟩ :=
    cleanup_exact {} (.paced [] ⟨0⟩) acts ⟨0⟩ ⟨"a"⟩ _ order
  refine ⟨orderly, same.trans (Prod.ext number rfl), (places orderly).mpr ?_⟩
  intro id e alarm pending _ charged past
  exact absurd (armed _ (Table.get?_eq_some_iff.mp pending) alarm charged) past

/-- A request is cleaned up whose alarm went off before it was attached: it takes the place of the
alarm that was set under its id since, which is armed but is not counted any more. -/
theorem cleanup_uncounts_live_alarm :
    let l := (sample.run [.ask (.arm (.issued 0) ⟨10⟩), .advance ⟨20⟩,
      .ask (.register (.issued 0) ⟨"a"⟩ ⟨"b"⟩ ⟨1000⟩), .ask (.attach (.issued 0) earlier),
      .ask (.arm (.issued 0) ⟨30⟩)]).state.ledger
    let m := (l.cleanup ⟨20⟩ ⟨"a"⟩).2
    l.Orderly ∧ l.alarms.armed = [newer] ∧ l.guards (·.involves ⟨"a"⟩) = [earlier] ∧
      l.alarms.count = 1 ∧ m.alarms.armed = [newer] ∧ m.alarms.count = 0 := by
  decide

end ComponentHost.Vigil
