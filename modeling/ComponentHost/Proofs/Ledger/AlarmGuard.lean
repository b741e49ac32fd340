import ComponentHost.Proofs.Ledger.ClosingSequence

/-! Alarms that guard exchanges, each its own. Where every exchange is opened together with an
alarm in charge of it, what is pending and what is armed stay in step: whatever closes an
exchange retires its alarm, and an alarm that goes off closes its exchange. -/

namespace ComponentHost

namespace Ledger

/-- Each pending exchange has an issued id and is guarded by an armed alarm of its own, due when
its time is up, and there are no other alarms. -/
structure Guarded (l : Ledger) (issued : Nat) : Prop where
  issued : ∀ {id e}, l.pending.get? id = some e → ∃ k, id = .issued k ∧ k < issued
  guard : ∀ {id e}, l.pending.get? id = some e → ∃ alarm ∈ l.alarms.armed,
    e.alarm = some alarm ∧ alarm.id = id ∧ alarm.due = e.requestedAt + e.timeout ∧
      l.alarms.board.get? id = some alarm.number
  charge : ∀ {alarm}, alarm ∈ l.alarms.armed →
    ∃ e, l.pending.get? alarm.id = some e ∧ e.alarm = some alarm
  board : ∀ {id}, l.pending.get? id = none → l.alarms.board.get? id = none
  number : ∀ {a b}, a ∈ l.alarms.armed → b ∈ l.alarms.armed → a.number = b.number → a = b
  next : ∀ {a}, a ∈ l.alarms.armed → a.number < l.alarms.next

namespace Guarded

variable {l : Ledger} {issued : Nat}

theorem empty : Guarded {} 0 where
  issued found := nomatch found
  guard found := nomatch found
  charge mem := nomatch mem
  board _ := rfl
  number mem := nomatch mem
  next mem := nomatch mem

theorem congr {m : Ledger} (guarded : l.Guarded issued) (pending : m.pending = l.pending)
    (alarms : m.alarms = l.alarms) : m.Guarded issued where
  issued found := guarded.issued (pending ▸ found)
  guard found := alarms ▸ guarded.guard (pending ▸ found)
  charge mem := pending ▸ guarded.charge (alarms ▸ mem)
  board absent := alarms ▸ guarded.board (pending ▸ absent)
  number mem mem' := guarded.number (alarms ▸ mem) (alarms ▸ mem')
  next mem := alarms ▸ guarded.next (alarms ▸ mem)

theorem leave {m : Ledger} (guarded : l.Guarded issued) {id : CorrelationId} {e : Entry}
    {alarm : Alarm} (pending : l.pending.get? id = some e) (charged : e.alarm = some alarm)
    (left : m.pending = l.pending.erase id) (retired : m.alarms = l.alarms.retire alarm) :
    m.Guarded issued := by
  obtain ⟨guard, armed, charged', own, _, _⟩ := guarded.guard pending
  rw [charged] at charged'
  cases charged'
  have before : ∀ {j f}, m.pending.get? j = some f → j ≠ id ∧ l.pending.get? j = some f := by
    intro j f found
    rw [left, Table.get?_erase] at found
    by_cases same : j = id
    · rw [if_pos same] at found
      cases found
    · rw [if_neg same] at found
      exact ⟨same, found⟩
  have still : ∀ {a}, a ∈ m.alarms.armed ↔ a ∈ l.alarms.armed ∧ a.number ≠ alarm.number := by
    intro a
    rw [retired, Alarms.mem_armed_retire]
  refine ⟨fun found => guarded.issued (before found).2, ?_, ?_, ?_, ?_, ?_⟩
  · intro j f found
    obtain ⟨other, found⟩ := before found
    obtain ⟨a, mem, charge, ida, due, shown⟩ := guarded.guard found
    refine ⟨a, still.mpr ⟨mem, fun same => ?_⟩, charge, ida, due, ?_⟩
    · exact other (by rw [← ida, guarded.number mem armed same, own])
    · rw [retired, Alarms.board_retire, own, Table.get?_erase_of_ne _ other, shown]
  · intro a mem
    obtain ⟨mem, other⟩ := still.mp mem
    obtain ⟨f, found, charge⟩ := guarded.charge mem
    have apart : a.id ≠ id := by
      intro same
      rw [same, pending] at found
      cases found
      rw [charged] at charge
      cases charge
      exact other rfl
    exact ⟨f, by rw [left, Table.get?_erase_of_ne _ apart, found], charge⟩
  · intro j absent
    rw [retired, Alarms.board_retire, own, Table.get?_erase]
    by_cases same : j = id
    · rw [if_pos same]
    · rw [left, Table.get?_erase_of_ne _ same] at absent
      rw [if_neg same, guarded.board absent]
  · intro a b mem mem'
    exact guarded.number (still.mp mem).1 (still.mp mem').1
  · intro a mem
    rw [retired, Alarms.next_retire]
    exact guarded.next (still.mp mem).1

theorem conclude {m : Ledger} (guarded : l.Guarded issued) {how : Closing}
    {outcome : CorrelationId → Entry → Response} {id : CorrelationId}
    (closed : l.conclude how outcome id = .ok m) : m.Guarded issued := by
  obtain ⟨e, here, rfl⟩ := exists_of_concluded closed
  obtain ⟨alarm, _, charged, _⟩ := guarded.guard here
  refine guarded.leave here charged pending_conclude ?_
  cases how <;> simp [tally, close, charged]

theorem dwindles {m : Ledger} {heard : CorrelationId → Response → Prop}
    (guarded : l.Guarded issued) (dwindles : Dwindles heard l m) :
    m.Guarded issued := by
  induction dwindles with
  | same books alarms => exact guarded.congr (congrArg Prod.fst books) alarms
  | conclude closed => exact guarded.conclude closed
  | trans _ _ ih ih' => exact ih' (ih guarded)

theorem ring (guarded : l.Guarded issued) {alarm : Alarm} (armed : alarm ∈ l.alarms.armed)
    (now : Duration) : (l.ring now alarm).Guarded issued := by
  obtain ⟨e, pending, charged⟩ := guarded.charge armed
  have here : (l.cancelAlarm alarm).pending.get? alarm.id = some e := pending
  have rung : l.ring now alarm = ((l.cancelAlarm alarm).close alarm.id e
      (e.refusal alarm.id .timeout now)).tally .timeout := by
    rw [Ledger.ring, Ledger.attempt, expire_eq_conclude, conclude_of_pending here]
  refine guarded.leave pending charged (by rw [rung]; rfl) ?_
  rw [rung]
  -- The alarm is retired twice, when it goes off and with its entry.
  simp only [tally, close, charged, cancelAlarm, Alarms.retire, List.filter_filter, Bool.and_self]
  congr 1
  refine Table.ext ?_
  simp [Table.erase]

theorem free (guarded : l.Guarded issued) : l.pending.get? (.issued issued) = none := by
  cases taken : l.pending.get? (.issued issued) with
  | none => rfl
  | some f =>
    obtain ⟨k, same, below⟩ := guarded.issued taken
    cases same
    exact absurd below (Nat.lt_irrefl _)

theorem opened {m : Ledger} (guarded : l.Guarded issued) {e : Entry}
    (charged : e.alarm = some ⟨l.alarms.next, .issued issued, e.requestedAt + e.timeout⟩)
    (entered : ∀ j, m.pending.get? j = if j = .issued issued then some e else l.pending.get? j)
    (armed : m.alarms = (l.alarms.arm (.issued issued) (e.requestedAt + e.timeout)).2) :
    m.Guarded (issued + 1) := by
  have other : ∀ {j f}, l.pending.get? j = some f → j ≠ .issued issued := by
    rintro j f found rfl
    rw [guarded.free] at found
    cases found
  have entry : ∀ {j f}, m.pending.get? j = some f →
      (j = .issued issued ∧ f = e) ∨ l.pending.get? j = some f := by
    intro j f found
    rw [entered] at found
    by_cases own : j = .issued issued
    · rw [if_pos own] at found
      cases found
      exact .inl ⟨own, rfl⟩
    · rw [if_neg own] at found
      exact .inr found
  have mem_armed : ∀ {a}, a ∈ m.alarms.armed ↔ a ∈ l.alarms.armed ∨
      a = ⟨l.alarms.next, .issued issued, e.requestedAt + e.timeout⟩ := by
    intro a
    rw [armed, Alarms.armed_arm, List.mem_append, List.mem_singleton]
  refine ⟨?_, ?_, ?_, ?_, ?_, ?_⟩
  · intro j f found
    obtain ⟨rfl, rfl⟩ | found := entry found
    · exact ⟨issued, rfl, Nat.lt_succ_self _⟩
    · obtain ⟨k, same, below⟩ := guarded.issued found
      exact ⟨k, same, Nat.lt_succ_of_lt below⟩
  · intro j f found
    obtain ⟨rfl, rfl⟩ | found := entry found
    · refine ⟨_, mem_armed.mpr (.inr rfl), charged, rfl, rfl, ?_⟩
      rw [armed, Alarms.board_arm, Table.get?_insert_self]
    · obtain ⟨a, mem, charge, own, due, shown⟩ := guarded.guard found
      refine ⟨a, mem_armed.mpr (.inl mem), charge, own, due, ?_⟩
      rw [armed, Alarms.board_arm, Table.get?_insert_of_ne _ _ (other found), shown]
  · intro a mem
    obtain mem | rfl := mem_armed.mp mem
    · obtain ⟨f, found, charge⟩ := guarded.charge mem
      exact ⟨f, by rw [entered, if_neg (other found), found], charge⟩
    · exact ⟨e, by rw [entered, if_pos rfl], charged⟩
  · intro j absent
    rw [entered] at absent
    by_cases own : j = .issued issued
    · rw [if_pos own] at absent
      cases absent
    · rw [if_neg own] at absent
      rw [armed, Alarms.board_arm, Table.get?_insert_of_ne _ _ own, guarded.board absent]
  · intro a b mem mem' same
    obtain mem | rfl := mem_armed.mp mem <;> obtain mem' | rfl := mem_armed.mp mem'
    · exact guarded.number mem mem' same
    · exact absurd same (Nat.ne_of_lt (guarded.next mem))
    · exact absurd same.symm (Nat.ne_of_lt (guarded.next mem'))
    · rfl
  · intro a mem
    rw [armed, Alarms.next_arm]
    obtain mem | rfl := mem_armed.mp mem
    · exact Nat.lt_succ_of_lt (guarded.next mem)
    · exact Nat.lt_succ_self _

end Guarded

end Ledger

end ComponentHost
