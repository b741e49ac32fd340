import ComponentHost.Proofs.Host.Act.Roster

/-! A stop that waits looked its actor up when it began and takes the id off the roster when it
ends, whichever actor stands there by then. It spares a newer instance only if there is none:
which is so unless another stop of the component ended first and a spawn took the id since. -/

namespace ComponentHost.State

def Act.stopping? : Act → Option ComponentId
  | .stop id => some id
  | .restart o => some o.id
  | _ => none

/-- What the end of a stop of actor `a` owes to others: the id stays as it is unless it leads to
`a`, and the requests to another actor under the id stay pending. -/
structure Spares (s t : State) (id : ComponentId) (a : Nat) : Prop where
  roster : s.roster.get? id ≠ some a → t.roster.get? id = s.roster.get? id
  requests : ∀ b, b ≠ a → s.roster.get? id = some b → ∀ c e, s.ledger.pending.get? c = some e →
    e.recipient = id → t.ledger.pending.get? c = some e

variable {s : State}

theorem stop_looks {v : Act} {id : ComponentId} {n : Nat} {st : Stop}
    (asked : v.stopping? = some id) (idle : s.underWay n = none)
    (waits : ((s.after v).underWay n).bind Call.stopping? = some st) :
    st.id = id ∧ s.roster.get? id = some st.actor ∧
      (s.after v).roster.get? id = some st.actor := by
  obtain ⟨c, here, stopping⟩ := Option.bind_eq_some_iff.mp waits
  -- Call `n` is what was entered, and nothing was that is no stop.
  have entered : ∀ {t : State} (next : Call ⊕ Answer), t.underWay = s.underWay →
      (t.enterOrAnswer next).2.underWay n = some c → next = .inl c := by
    intro t next same entered
    obtain next | old := underWay_enterOrAnswer entered
    · exact next
    · rw [same, idle] at old
      cases old
  have respawned : ∀ {t : State} {o : Order} {r : Except HostError Unit},
      t.respawn o r ≠ .inl c := by
    intro t o r next
    obtain ⟨_, sp, rfl, _⟩ := started_of_respawn next
    cases stopping
  cases v with
  | stop j =>
    cases asked
    rw [after] at here ⊢
    cases started : s.started with
    | false =>
      rw [stopComponent_of_not_started started] at here
      cases entered (.inr (.done (.error .notStarted))) rfl here
    | true =>
      rw [stopComponent_of_started started] at here ⊢
      rw [roster_enterOrAnswer]
      have next := entered _ (s.beginStop_sheds id).underWay here
      cases begun : s.beginStop id with
      | mk t outcome =>
        rw [begun] at next
        cases outcome with
        | inl st' =>
          cases next
          cases stopping
          exact beginStop_waits begun
        | inr r => cases next
  | restart o =>
    cases asked
    rw [after] at here ⊢
    cases started : s.started with
    | false =>
      rw [restartComponent_of_not_started started] at here
      cases entered (.inr (.done (.error .notStarted))) rfl here
    | true =>
      rw [restartComponent_of_started started] at here ⊢
      by_cases on : s.roster.contains o.id = true
      · rw [if_pos on] at here ⊢
        rw [roster_enterOrAnswer]
        have next := entered _ (s.beginStop_sheds o.id).underWay here
        cases begun : s.beginStop o.id with
        | mk t outcome =>
          rw [begun] at next
          cases outcome with
          | inl st' =>
            cases next
            cases stopping
            exact beginStop_waits begun
          | inr r => exact absurd next respawned
      · rw [if_neg on] at here
        exact absurd (entered _ rfl here) respawned
  | _ => cases asked

/-- The end of a stop spares others exactly if no other actor stands under the id by then. -/
theorem spares_iff {t : State} {n : Nat} {st : Stop}
    (waits : (s.underWay n).bind Call.stopping? = some st) (ends : s.stepCall n = some t) :
    s.Spares t st.id st.actor ↔ ∀ b, s.roster.get? st.id = some b → b = st.actor := by
  have gone : t.roster.get? st.id = none := by
    obtain ⟨next, rfl, _⟩ := step_of_stopping waits ends
    rw [roster_carryOn, roster_endStop, Table.get?_erase_self]
  constructor
  · intro spares b here
    cases same : decide (b = st.actor) with
    | true => exact of_decide_eq_true same
    | false =>
      have other : s.roster.get? st.id ≠ some st.actor := by
        rw [here]
        exact fun eq => of_decide_eq_false same (Option.some.inj eq)
      have kept := spares.roster other
      rw [gone, here] at kept
      cases kept
  · intro own
    refine ⟨fun other => ?_, fun b apart here => absurd (own b here) apart⟩
    cases here : s.roster.get? st.id with
    | none => exact gone
    | some b =>
      rw [own b here] at here
      exact absurd here other

/-- In the course of some acts another stop took actor `a` off the roster, then a spawn put actor
`b` there, which has stood there since. -/
def Replaced (s : State) (acts : List Act) (id : ComponentId) (a b : Nat) : Prop :=
  ∃ before w between m rest, acts = before ++ w :: (between ++ .move (.call m) :: rest) ∧
    s.Stays before id a ∧ (s.run before).EndsStop w id ∧
    (s.run (before ++ [w])).roster.get? id = none ∧
    (s.run (before ++ w :: between)).Seats m id b ∧
    (s.run (before ++ w :: (between ++ [.move (.call m)]))).Stays rest id b

theorem replaced_iff {acts : List Act} {id : ComponentId} {a b : Nat}
    (here : s.roster.get? id = some a) (apart : b ≠ a) :
    (s.run acts).roster.get? id = some b ↔ s.Replaced acts id a b := by
  constructor
  · intro later
    obtain stays | ⟨first, m, rest, split, seats, stays⟩ := (s.roster_run_iff acts id b).mp later
    · rw [stays.head] at here
      exact absurd (Option.some.inj here) apart
    · have free : (s.run first).roster.get? id = none := by
        obtain ⟨_, _, _, _, _, free⟩ := seats
        exact free
      obtain ⟨before, w, between, rfl, stays', ends, gone⟩ := endsStop_of_run first here free
      refine ⟨before, w, between, m, rest, ?_, stays', ends, ?_, seats, ?_⟩
      · rw [split, List.append_assoc, List.cons_append]
      · rw [run_concat]
        exact gone
      · rw [← List.cons_append, ← List.append_assoc, run_concat]
        exact stays
  · rintro ⟨before, w, between, m, rest, split, _, _, _, _, stays⟩
    have last := stays.last
    rw [← run_append] at last
    simpa [split] using last

/-- A stop that waits, alone or before a restart, spares the other instances of its component
when it ends, exactly unless one of them replaced its own while it waited. -/
theorem stop_spares_iff {v : Act} {id : ComponentId} {n : Nat} {st : Stop} {acts : List Act}
    {t : State} (asked : v.stopping? = some id) (idle : s.underWay n = none)
    (begun : ((s.after v).underWay n).bind Call.stopping? = some st)
    (waits : (((s.after v).run acts).underWay n).bind Call.stopping? = some st)
    (ends : ((s.after v).run acts).step (.call n) = some t) :
    s.roster.get? id = some st.actor ∧
      (((s.after v).run acts).Spares t id st.actor ↔
        ∀ b, b ≠ st.actor → ¬ (s.after v).Replaced acts id st.actor b) := by
  obtain ⟨rfl, looked, still⟩ := stop_looks asked idle begun
  refine ⟨looked, (spares_iff waits ends).trans
    ⟨fun own b apart replaced => ?_, fun unreplaced b here => ?_⟩⟩
  · exact apart (own b ((replaced_iff still apart).mpr replaced))
  · cases same : decide (b = st.actor) with
    | true => exact of_decide_eq_true same
    | false =>
      have apart : b ≠ st.actor := of_decide_eq_false same
      exact absurd ((replaced_iff still apart).mp here) (unreplaced b apart)

section Overlap

/-- While a stop of actor 0 waits for its cleanup, a second stop is over at once, the component
comes up anew as actor 1 and begins to handle a request, and the cleanup ends. -/
def overlap : List Act :=
  [.move (.actor 0), .stop ⟨"a"⟩,
    .spawn sampleOrder none, .move (.call 3), .move (.actor 1), .move (.call 3),
    .wait (.ofMillis 50), .sendRequest ⟨"x"⟩ ⟨"a"⟩ [] none false, .move (.actor 1),
    .wait (.ofMillis 50), .move (.actor 0)]

theorem overlapped_stop_takes_newer :
    let s := (sampleHost.after (.stop ⟨"a"⟩)).run overlap
    sampleHost.roster.get? ⟨"a"⟩ = some 0 ∧
      (s.underWay 1).bind Call.stopping? = some ⟨⟨"a"⟩, 0, .ofMillis 5000⟩ ∧
      s.roster.get? ⟨"a"⟩ = some 1 ∧ s.ledger.pending.contains (.issued 0) = true ∧
      ∃ t, s.step (.call 1) = some t ∧ t.roster.get? ⟨"a"⟩ = none ∧
        t.ledger.pending.contains (.issued 0) = false ∧ ¬ s.Spares t ⟨"a"⟩ 0 := by
  refine ⟨rfl, rfl, rfl, rfl, _, rfl, rfl, rfl, fun spares => ?_⟩
  have kept := spares.roster (by decide)
  cases kept

theorem overlapped_stop_was_replaced :
    sampleHost.roster.get? ⟨"a"⟩ = some 0 ∧
      ∃ b, b ≠ 0 ∧ (sampleHost.after (.stop ⟨"a"⟩)).Replaced overlap ⟨"a"⟩ 0 b := by
  have waits : (((sampleHost.after (.stop ⟨"a"⟩)).run overlap).underWay 1).bind
      Call.stopping? = some ⟨⟨"a"⟩, 0, .ofMillis 5000⟩ := rfl
  obtain ⟨looked, spared⟩ :=
    stop_spares_iff (s := sampleHost) (v := .stop ⟨"a"⟩) rfl rfl rfl waits rfl
  refine ⟨looked, Classical.byContradiction fun unreplaced => ?_⟩
  have spares := spared.mpr fun b apart replaced => unreplaced ⟨b, apart, replaced⟩
  have kept := spares.roster (by decide)
  cases kept

end Overlap

end ComponentHost.State
