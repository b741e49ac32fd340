import ComponentHost.Proofs.Host.Act.Roster

/-! A shutdown refuses what follows and stops all that stood on the roster when it began. What
stands there afterwards is what the shutdown has yet to come to, or was put there by a spawn that
had passed its check before: no later call adds to the roster. -/

namespace ComponentHost.State

variable {s : State}

def Spawning (s : State) (n : Nat) (id : ComponentId) : Prop :=
  ∃ sp, (s.underWay n).bind Call.spawning? = some sp ∧ sp.order.id = id

def Awaits (s : State) (n : Nat) (id : ComponentId) : Prop :=
  ∃ st rest, s.underWay n = some (.shutdown st rest) ∧ (id = st.id ∨ id ∈ rest)

theorem Seats.spawning {n : Nat} {id : ComponentId} {a : Nat} (seats : s.Seats n id a) :
    s.Spawning n id := by
  obtain ⟨sp, here, own, _⟩ := seats
  exact ⟨sp, here, own⟩

section Step

variable {v : Act} (stopped : s.started = false)

include stopped

theorem started_after : (s.after v).started = false := by
  cases s.after_turn v with
  | idle started _ _ => rw [started, stopped]
  | begins begins =>
    rw [begins.opened] at stopped
    cases stopped
  | advances _ _ _ _ _ advances => rw [advances.started, stopped]

theorem spawning_after {n : Nat} {id : ComponentId} (later : (s.after v).Spawning n id) :
    s.Spawning n id := by
  obtain ⟨sp, here, own⟩ := later
  cases s.after_turn v with
  | idle _ underWay _ => exact ⟨sp, by rw [← underWay, here], own⟩
  | begins begins =>
    rw [begins.opened] at stopped
    cases stopped
  | advances m c _ here' _ advances =>
    by_cases same : n = m
    · subst same
      obtain ⟨sp', spawning, order⟩ | started := advances.spawns sp here
      · exact ⟨sp', by rw [here']; exact spawning, by rw [order, own]⟩
      · rw [started] at stopped
        cases stopped
    · exact ⟨sp, by rw [← advances.others n same, here], own⟩

/-- A shutdown under way leaves nothing out: a component it has yet to stop is gone with the
next act or remains for it to stop. -/
theorem awaits_after {n : Nat} {id : ComponentId} {a : Nat} (awaits : s.Awaits n id)
    (here : (s.after v).roster.get? id = some a) : (s.after v).Awaits n id := by
  obtain ⟨st, rest, waiting, among⟩ := awaits
  cases s.after_turn v with
  | idle _ underWay _ => exact ⟨st, rest, by rw [underWay, waiting], among⟩
  | begins begins =>
    rw [begins.opened] at stopped
    cases stopped
  | advances m c _ here' _ advances =>
    by_cases same : n = m
    · subst same
      rw [waiting] at here'
      cases here'
      obtain gone | left := advances.stops st rest rfl id among
      · rw [gone] at here
        cases here
      · exact left
    · exact ⟨st, rest, by rw [advances.others n same, waiting], among⟩

end Step

section Run

variable (stopped : s.started = false)

include stopped

theorem spawning_run {n : Nat} {id : ComponentId} (acts : List Act)
    (later : (s.run acts).Spawning n id) : s.Spawning n id := by
  induction acts generalizing s with
  | nil => exact later
  | cons v acts ih => exact spawning_after stopped (ih (started_after stopped) later)

theorem awaits_run {n : Nat} {id : ComponentId} {a : Nat} {acts : List Act}
    (awaits : s.Awaits n id) (stays : s.Stays acts id a) : (s.run acts).Awaits n id := by
  induction acts generalizing s with
  | nil => exact awaits
  | cons v acts ih =>
    obtain ⟨_, stays⟩ := stays_cons.mp stays
    exact ih (started_after stopped) (awaits_after stopped awaits stays.head) stays

end Run

section Begin

variable (started : s.started = true)

include started

theorem started_shutdown : s.shutdown.2.started = false := by
  obtain ⟨t, waits, same, stopped, _⟩ := shutdown_cases started
  rw [same, started_enterOrAnswer, stopped]

theorem awaits_shutdown {id : ComponentId} {a : Nat}
    (here : s.shutdown.2.roster.get? id = some a) : s.shutdown.2.Awaits s.shutdown.1 id := by
  obtain ⟨t, waits, same, _, _, _, left⟩ := shutdown_cases started
  rw [same, roster_enterOrAnswer] at here
  obtain gone | ⟨st, rest, rfl, among⟩ := left id
  · rw [gone] at here
    cases here
  · rw [same]
    exact ⟨st, rest, (underWay_enter t _ _).trans (if_pos rfl), among⟩

theorem spawning_shutdown {n : Nat} {id : ComponentId} (later : s.shutdown.2.Spawning n id) :
    s.Spawning n id := by
  obtain ⟨sp, here, own⟩ := later
  obtain ⟨c, entered, spawning⟩ := Option.bind_eq_some_iff.mp here
  obtain ⟨t, waits, same, _, underWay, _⟩ := shutdown_cases started
  rw [same] at entered
  obtain new | old := underWay_enterOrAnswer entered
  · obtain ⟨_, _, _, rfl⟩ := drained_eq_inl.mp new
    cases spawning
  · exact ⟨sp, by rw [← underWay, old]; exact spawning, own⟩

end Begin

/-- After a shutdown began, a component is on the roster exactly if it stood there then and is
for the shutdown to stop, or a spawn that was under way before put it there since. So the roster
is empty once the shutdown is over, if no spawn was under way when it began. -/
theorem roster_after_shutdown (started : s.started = true) (acts : List Act) :
    (∀ id a, (s.shutdown.2.run acts).roster.get? id = some a ↔
      ((s.shutdown.2.run acts).Awaits s.shutdown.1 id ∧ s.shutdown.2.Stays acts id a) ∨
      ∃ before n rest, acts = before ++ .move (.call n) :: rest ∧ s.Spawning n id ∧
        (s.shutdown.2.run before).Seats n id a ∧
        (s.shutdown.2.run (before ++ [.move (.call n)])).Stays rest id a) ∧
    ((s.shutdown.2.run acts).underWay s.shutdown.1 = none → (∀ n id, ¬ s.Spawning n id) →
      ∀ id, (s.shutdown.2.run acts).roster.get? id = none) := by
  have stopped := started_shutdown started
  have origin : ∀ id a, (s.shutdown.2.run acts).roster.get? id = some a ↔
      ((s.shutdown.2.run acts).Awaits s.shutdown.1 id ∧ s.shutdown.2.Stays acts id a) ∨
      ∃ before n rest, acts = before ++ .move (.call n) :: rest ∧ s.Spawning n id ∧
        (s.shutdown.2.run before).Seats n id a ∧
        (s.shutdown.2.run (before ++ [.move (.call n)])).Stays rest id a := by
    intro id a
    rw [roster_run_iff]
    constructor
    · rintro (stays | ⟨before, n, rest, split, seats, stays⟩)
      · exact .inl ⟨awaits_run stopped (awaits_shutdown started stays.head) stays, stays⟩
      · refine .inr ⟨before, n, rest, split, ?_, seats, ?_⟩
        · exact spawning_shutdown started (spawning_run stopped before seats.spawning)
        · rw [run_concat]
          exact stays
    · rintro (⟨_, stays⟩ | ⟨before, n, rest, split, _, seats, stays⟩)
      · exact .inl stays
      · rw [run_concat] at stays
        exact .inr ⟨before, n, rest, split, seats, stays⟩
  refine ⟨origin, fun finished alone id => ?_⟩
  cases here : (s.shutdown.2.run acts).roster.get? id with
  | none => rfl
  | some a =>
    obtain ⟨⟨st, rest, waiting, _⟩, _⟩ | ⟨_, n, _, _, spawning, _⟩ := (origin id a).mp here
    · rw [finished] at waiting
      cases waiting
    · exact absurd spawning (alone n id)

theorem sampleHost_after_shutdown :
    let acts : List Act := [.move (.actor 0), .wait (.ofMillis 100), .move (.actor 0),
      .move (.call 1)]
    sampleHost.started = true ∧ sampleHost.roster.get? ⟨"a"⟩ = some 0 ∧
      ∀ id, (sampleHost.shutdown.2.run acts).roster.get? id = none := by
  intro acts
  refine ⟨rfl, rfl, (roster_after_shutdown rfl acts).2 rfl fun n id spawning => ?_⟩
  obtain ⟨sp, here, _⟩ := spawning
  cases n <;> cases here

/-- A shutdown asked for while another is at work returns at once, and a spawn that was under way
when the shutdown began puts its component on the roster when that is over. -/
theorem shutdown_leaves_components :
    let during := (sampleHost.after .shutdown).after .shutdown
    let afterwards := (fresh {} (.paced ["init"] (.ofMillis 100))).run
      [.spawn sampleOrder none, .move (.call 0), .shutdown, .wait (.ofMillis 100),
        .move (.actor 0), .move (.call 0)]
    during.calls[2]? = some (.returned 0 (.done (.ok ()))) ∧
      during.roster.get? ⟨"a"⟩ = some 0 ∧
      afterwards.calls[1]? = some (.returned 0 (.done (.ok ()))) ∧
      afterwards.roster.get? ⟨"a"⟩ = some 0 :=
  ⟨rfl, rfl, rfl, rfl⟩

end ComponentHost.State
