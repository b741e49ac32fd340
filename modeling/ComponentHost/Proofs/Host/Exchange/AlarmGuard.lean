import ComponentHost.Proofs.Host.Act.Exchanges
import ComponentHost.Proofs.Ledger.AlarmGuard

/-! Every request that is pending in a host is guarded by its own alarm. The ledger and its
alarms are touched by sends, responses, stops and alarms that go off, and each of them keeps the
two in step. -/

namespace ComponentHost.State

variable {s : State}

/-- Each pending exchange has a guard of its own, and nothing else is armed. -/
def Guarded (s : State) : Prop := s.ledger.Guarded s.issued

namespace Guarded

theorem dwindles {t : State} {heard : CorrelationId → Response → Prop} (guarded : s.Guarded)
    (dwindles : s.Dwindles heard t) : t.Guarded := by
  rw [Guarded, dwindles.2]
  exact Ledger.Guarded.dwindles guarded dwindles.1

theorem openExchange (guarded : s.Guarded) (sender target : ComponentId) (timeout : Duration) :
    (s.openExchange sender target timeout).2.2.Guarded := by
  obtain ⟨ledger, opened, entered, armed, _⟩ :=
    s.openExchange_eq (Ledger.Guarded.free guarded) sender target timeout
  rw [opened]
  exact Ledger.Guarded.opened guarded rfl entered armed

theorem abandon (guarded : s.Guarded) (waiter : Nat) :
    (s.ledger.abandon waiter).2.Guarded s.issued := by
  refine Ledger.Guarded.congr guarded ?_ ?_ <;> rw [Ledger.abandon] <;> split <;> rfl

theorem after (guarded : s.Guarded) (v : Act) : (s.after v).Guarded := by
  cases s.after_deals v with
  | dwindles dwindles => exact guarded.dwindles dwindles
  | opens _ dwindles => exact (guarded.openExchange _ _ _).dwindles dwindles
  | rings armed _ ledger issued =>
    rw [Guarded, ledger, issued]
    exact Ledger.Guarded.ring guarded armed s.clock
  | abandons _ ledger issued =>
    rw [Guarded, ledger, issued]
    exact guarded.abandon _

theorem run (guarded : s.Guarded) (acts : List Act) : (s.run acts).Guarded :=
  run_induction (P := State.Guarded) guarded fun _ v _ guarded => guarded.after v

end Guarded

section Served

theorem served_after (guarded : s.Guarded) (served : s.ledger.Served) (v : Act) :
    (s.after v).ledger.Served := by
  cases s.after_deals v with
  | dwindles dwindles => exact served.dwindles dwindles.1
  | opens _ dwindles =>
    refine Ledger.Served.dwindles ?_ dwindles.1
    obtain ⟨ledger, opened, entered, _, waiters⟩ :=
      s.openExchange_eq (Ledger.Guarded.free guarded) _ _ _
    rw [opened]
    exact served.opened rfl entered waiters
  | @rings alarm _ _ ledger _ =>
    rw [ledger]
    have cancelled : (s.ledger.cancelAlarm alarm).Served := served.congr rfl rfl
    have rung : Ledger.Dwindles (fun _ _ => False) _ _ := .rung s.ledger s.clock alarm
    exact cancelled.dwindles rung
  | abandons _ ledger _ =>
    rw [ledger]
    exact served.abandon _

theorem served_run (guarded : s.Guarded) (served : s.ledger.Served) (acts : List Act) :
    (s.run acts).ledger.Served := by
  refine (run_induction (P := fun t => t.Guarded ∧ t.ledger.Served) ⟨guarded, served⟩ ?_).2
  rintro t v _ ⟨guarded, served⟩
  exact ⟨guarded.after v, served_after guarded served v⟩

theorem served_fresh (config : HostConfig) (engine : Engine) :
    (fresh config engine).ledger.Served where
  waits found := nomatch found
  apart found := nomatch found

end Served

/-- Where nothing can happen without time going by, no alarm is due. -/
theorem lt_due_of_quiet (guarded : s.Guarded) (quiet : s.quiet) {alarm : Alarm}
    (armed : alarm ∈ s.ledger.alarms.armed) : s.clock < alarm.due := by
  have found : s.ledger.alarms.find? alarm.number = some alarm := by
    cases found : s.ledger.alarms.find? alarm.number with
    | none =>
      have missed := List.find?_eq_none.mp found alarm armed
      simp at missed
    | some other =>
      have same : other.number = alarm.number := by simpa using List.find?_some found
      rw [guarded.number (List.mem_of_find?_eq_some found) armed same]
  have still := quiet (.alarm alarm.number)
  rw [step, stepAlarm, found] at still
  have early : ¬ alarm.due ≤ s.clock := fun due => by simp [due] at still
  exact Nat.lt_of_not_le early

/-- In every run, whenever nothing can happen without time going by, the exchanges on the alarm
board are those that are pending, each guarded by an armed alarm of its own that is due when the
request's time is up, and that instant is yet to come. -/
theorem requests_guarded (config : HostConfig) (engine : Engine) (acts : List Act)
    (quiet : ((fresh config engine).run acts).quiet) :
    let s := (fresh config engine).run acts
    (∀ id, s.ledger.alarms.board.contains id = s.ledger.pending.contains id) ∧
    (∀ id e, s.ledger.pending.get? id = some e →
      (∃ alarm ∈ s.ledger.alarms.armed, e.alarm = some alarm ∧ alarm.id = id ∧
        alarm.due = e.requestedAt + e.timeout ∧
        s.ledger.alarms.board.get? id = some alarm.number) ∧
      s.clock < e.requestedAt + e.timeout) ∧
    ∀ alarm ∈ s.ledger.alarms.armed, s.ledger.pending.contains alarm.id = true := by
  intro s
  have initial : (fresh config engine).Guarded := Ledger.Guarded.empty
  have guarded : s.Guarded := initial.run acts
  refine ⟨fun id => ?_, fun id e pending => ⟨guarded.guard pending, ?_⟩, fun alarm armed => ?_⟩
  · rw [Table.contains, Table.contains]
    cases pending : s.ledger.pending.get? id with
    | none =>
      rw [guarded.board pending]
      rfl
    | some e =>
      obtain ⟨alarm, _, _, _, _, shown⟩ := guarded.guard pending
      rw [shown]
      rfl
  · obtain ⟨alarm, armed, _, _, due, _⟩ := guarded.guard pending
    rw [← due]
    exact lt_due_of_quiet guarded quiet armed
  · obtain ⟨e, pending, _⟩ := guarded.charge armed
    rw [Table.contains, pending, Option.isSome_some]

theorem unread_request_guarded :
    let acts : List Act :=
      [.install 1, .route ⟨"b"⟩ 0, .sendRequest ⟨"a"⟩ ⟨"b"⟩ [] (some (.ofMillis 5)) false]
    let s := (fresh {} (.paced [] 0)).run acts
    s.quiet ∧ s.ledger.pending.contains (.issued 0) = true ∧
      s.ledger.alarms.board.contains (.issued 0) = s.ledger.pending.contains (.issued 0) := by
  intro acts s
  have quiet : s.quiet := by
    intro m
    cases m with
    | alarm number => cases number <;> rfl
    | actor a => rfl
    | enroll i => rfl
    | call n => cases n <;> rfl
  exact ⟨quiet, rfl, (requests_guarded {} (.paced [] 0) acts quiet).1 _⟩

end ComponentHost.State
