import ComponentHost.Proofs.Host.Component.LifecycleSteps

/-! One act of a run, and what it can do to the components there are: nothing, begin a lifecycle
call, or advance one. From that follows, over a whole run, how a component came to be on the
roster. -/

namespace ComponentHost.State

def Act.stops (id : ComponentId) : Act → Prop
  | .stop c => id = c
  | .restart o => id = o.id
  | .shutdown => True
  | _ => False

structure Begins (s : State) (v : Act) (t : State) : Prop where
  opened : s.started = true
  started : t.started = true ∨ v = .shutdown
  underWay : ∀ n, t.underWay n = s.underWay n ∨ s.underWay n = none
  roster : ∀ id, t.roster.get? id = s.roster.get? id ∨ v.stops id ∧ t.roster.get? id = none

inductive Turn (s : State) (v : Act) (t : State) : Prop
  | idle (started : t.started = s.started) (underWay : t.underWay = s.underWay)
    (roster : t.roster = s.roster)
  | begins (begins : s.Begins v t)
  | advances (n : Nat) (c : Call) (move : v = .move (.call n)) (here : s.underWay n = some c)
    (stepped : s.stepCall n = some t) (advances : s.Advances t n c)

variable {s : State}

namespace Turn

theorem of_settles {t : State} {v : Act} (settles : s.Settles t) : Turn s v t := by
  obtain ⟨vs, _, outline⟩ := settles
  exact .idle (congrArg Outline.started outline) (congrArg Outline.underWay outline)
    (congrArg Outline.roster outline)

theorem of_outline {t u : State} {v : Act} (started : t.started = s.started)
    (underWay : t.underWay = s.underWay) (roster : t.roster = s.roster)
    (settles : t.Settles u) : Turn s v u := by
  obtain ⟨vs, _, outline⟩ := settles
  exact .idle ((congrArg Outline.started outline).trans started)
    ((congrArg Outline.underWay outline).trans underWay)
    ((congrArg Outline.roster outline).trans roster)

end Turn

@[simp] theorem started_enterOrAnswer (s : State) (next : Call ⊕ Answer) :
    (s.enterOrAnswer next).2.started = s.started := by
  cases next <;> rfl

@[simp] theorem roster_enterOrAnswer (s : State) (next : Call ⊕ Answer) :
    (s.enterOrAnswer next).2.roster = s.roster := by
  cases next <;> rfl

theorem underWay_enterOrAnswer {t : State} {next : Call ⊕ Answer} {n : Nat} {c : Call}
    (here : (t.enterOrAnswer next).2.underWay n = some c) :
    next = .inl c ∨ t.underWay n = some c := by
  cases next with
  | inl c' =>
    rw [enterOrAnswer, underWay_enter] at here
    by_cases last : n = t.calls.length
    · rw [if_pos last] at here
      exact .inl (congrArg Sum.inl (Option.some.inj (Option.ite_none_right_eq_some.mp here).2))
    · rw [if_neg last] at here
      exact .inr here
  | inr a =>
    rw [enterOrAnswer, underWay_answerNow] at here
    exact .inr here

theorem begins_of_roster {t : State} {v : Act} (opened : s.started = true)
    (started : t.started = true ∨ v = .shutdown) (underWay : t.underWay = s.underWay)
    (roster : ∀ id, t.roster.get? id = s.roster.get? id ∨ v.stops id ∧ t.roster.get? id = none)
    (next : Call ⊕ Answer) : s.Begins v (t.enterOrAnswer next).2 := by
  cases next with
  | inl c =>
    refine ⟨opened, started, fun n => ?_, roster⟩
    rw [enterOrAnswer, underWay_enter]
    by_cases last : n = t.calls.length
    · rw [← underWay]
      exact .inr (underWay_of_length_le (Nat.le_of_eq last.symm))
    · rw [if_neg last, underWay]
      exact .inl rfl
  | inr a =>
    refine ⟨opened, started, fun n => .inl ?_, roster⟩
    rw [enterOrAnswer, underWay_answerNow, underWay]

theorem begins_of_sheds {t : State} {v : Act} (opened : s.started = true)
    (sheds : Sheds (fun id => v.stops id) s t) (next : Call ⊕ Answer) :
    s.Begins v (t.enterOrAnswer next).2 :=
  begins_of_roster opened (.inl (sheds.started.trans opened)) sheds.underWay sheds.roster next

theorem spawnComponent_turn (s : State) (o : Order) (keep : Option String) :
    Turn s (.spawn o keep) (s.spawnComponent o keep).2 := by
  unfold spawnComponent
  cases begun : s.beginSpawn o keep with
  | inl sp =>
    exact .begins (begins_of_sheds (started_of_beginSpawn begun).1 (.refl s) (.inl (.spawn sp)))
  | inr r => exact .of_settles (.of_outline (outline_answerNow s (.spawned r)))

theorem stopComponent_turn (s : State) (id : ComponentId) :
    Turn s (.stop id) (s.stopComponent id).2 := by
  cases started : s.started with
  | false =>
    rw [stopComponent_of_not_started started]
    exact .of_settles (.of_outline (outline_answerNow s _))
  | true =>
    have sheds : Sheds (fun j => (Act.stop id).stops j) s _ := s.beginStop_sheds id
    rw [stopComponent_of_started started]
    exact .begins (begins_of_sheds started sheds _)

theorem restartComponent_turn (s : State) (o : Order) :
    Turn s (.restart o) (s.restartComponent o).2 := by
  cases started : s.started with
  | false =>
    rw [restartComponent_of_not_started started]
    exact .of_settles (.of_outline (outline_answerNow s _))
  | true =>
    have sheds : Sheds (fun j => (Act.restart o).stops j) s _ := s.beginStop_sheds o.id
    rw [restartComponent_of_started started]
    split
    · exact .begins (begins_of_sheds started sheds _)
    · exact .begins (begins_of_sheds started (.refl s) _)

theorem shutdown_cases (started : s.started = true) :
    ∃ (t : State) (waits : Option (Stop × List ComponentId)),
      s.shutdown = t.enterOrAnswer (drained waits) ∧ t.started = false ∧
      t.underWay = s.underWay ∧
      (∀ id, t.roster.get? id = s.roster.get? id ∨ t.roster.get? id = none) ∧
      ∀ id, t.roster.get? id = none ∨
        ∃ st rest, waits = some (st, rest) ∧ (id = st.id ∨ id ∈ rest) := by
  obtain ⟨sheds, left⟩ := drain_sheds s.roster.ids { s with started := false }
  refine ⟨_, _, shutdown_eq started, sheds.started, sheds.underWay, fun id => ?_, fun id => ?_⟩
  · exact (sheds.roster id).imp_right And.right
  · by_cases on : id ∈ s.roster.ids
    · exact left id on
    · have absent : s.roster.get? id = none := by
        rw [Roster.mem_ids] at on
        simpa [Table.contains] using on
      exact .inl (sheds.absent absent)

theorem shutdown_turn (s : State) : Turn s .shutdown s.shutdown.2 := by
  cases started : s.started with
  | false =>
    rw [shutdown, started]
    exact .of_settles (.of_outline (outline_answerNow s _))
  | true =>
    obtain ⟨t, waits, same, _, underWay, roster, _⟩ := shutdown_cases started
    rw [same]
    exact .begins (begins_of_roster started (.inr rfl) underWay
      (fun id => (roster id).imp_right fun gone => ⟨trivial, gone⟩) (drained waits))

theorem openExchange_outline (s : State) (sender target : ComponentId) (timeout : Duration) :
    ∃ ledger, (s.openExchange sender target timeout).2.2.outline =
      { s.outline with ledger, issued := s.issued + 1 } := by
  obtain ⟨ledger, same⟩ := s.openExchange_state sender target timeout
  exact ⟨ledger, by rw [same]; rfl⟩

theorem sendRequest_turn (s : State) (sender target : ComponentId) (payload : Bytes)
    (timeout? : Option Duration) (awaited : Bool) :
    Turn s (.sendRequest sender target payload timeout? awaited)
      (s.sendRequest sender target payload timeout? awaited).2 := by
  obtain ⟨ledger, outline⟩ :=
    s.openExchange_outline sender target (timeout?.getD s.config.messaging.requestTimeout)
  exact .of_outline (congrArg Outline.started outline) (congrArg Outline.underWay outline)
    (congrArg Outline.roster outline) (s.sendRequest_settles sender target payload timeout? awaited)

theorem stepCall_turn {t : State} {n : Nat} (stepped : s.stepCall n = some t) :
    Turn s (.move (.call n)) t := by
  cases here : s.underWay n with
  | some c => exact .advances n c rfl here stepped (stepCall_advances here stepped)
  | none => exact .of_settles (settles_of_idle here stepped)

theorem move_turn (s : State) (m : Move) : Turn s (.move m) ((s.step m).getD s) := by
  cases stepped : s.step m with
  | none => exact .idle rfl rfl rfl
  | some t =>
    rw [Option.getD_some]
    cases m with
    | alarm number =>
      obtain ⟨_, _, _, rfl⟩ := stepAlarm_eq stepped
      exact .idle rfl rfl rfl
    | actor a => exact .of_settles (stepActor_settles stepped).settles
    | enroll i =>
      obtain ⟨_, _, rfl⟩ := enroll_eq stepped
      exact .idle rfl rfl rfl
    | call n => exact stepCall_turn stepped

theorem after_turn (s : State) (v : Act) : Turn s v (s.after v) := by
  by_cases settling : v.settling
  · exact .of_settles (settles_after settling).settles
  · cases v with
    | move m => exact s.move_turn m
    | sendRequest sender target payload timeout? awaited =>
      exact s.sendRequest_turn sender target payload timeout? awaited
    | spawn o keep => exact s.spawnComponent_turn o keep
    | stop id => exact s.stopComponent_turn id
    | restart o => exact s.restartComponent_turn o
    | shutdown => exact s.shutdown_turn
    | wait | abandon | route | unroute | unrouteFrom => exact .idle rfl rfl rfl
    | _ => exact absurd trivial settling

/-- Whether an act may end a stop of the component of an id: a stop that is asked for may be over
at once, and one that waits is over with a step of its call. -/
def EndsStop (s : State) (v : Act) (id : ComponentId) : Prop :=
  v.stops id ∨ ∃ n c, v = .move (.call n) ∧ s.underWay n = some c ∧ c.stops id

theorem roster_after (s : State) (v : Act) (id : ComponentId) :
    (s.after v).roster.get? id = s.roster.get? id ∨
      (s.EndsStop v id ∧ (s.after v).roster.get? id = none) ∨
      ∃ n a, v = .move (.call n) ∧ s.Seats n id a ∧ (s.after v).roster.get? id = some a := by
  cases s.after_turn v with
  | idle _ _ roster => exact .inl (by rw [roster])
  | begins begins =>
    exact (begins.roster id).imp_right fun ⟨stops, gone⟩ => .inl ⟨.inl stops, gone⟩
  | advances n c move here _ advances =>
    obtain same | ⟨stops, gone⟩ | ⟨a, seats, seated⟩ := advances.roster id
    · exact .inl same
    · exact .inr (.inl ⟨.inr ⟨n, c, move, here, stops⟩, gone⟩)
    · exact .inr (.inr ⟨n, a, move, seats, seated⟩)

def Stays (s : State) (acts : List Act) (id : ComponentId) (a : Nat) : Prop :=
  ∀ before rest, acts = before ++ rest → (s.run before).roster.get? id = some a

theorem Stays.head {acts : List Act} {id : ComponentId} {a : Nat} (stays : s.Stays acts id a) :
    s.roster.get? id = some a :=
  stays [] acts rfl

theorem Stays.last {acts : List Act} {id : ComponentId} {a : Nat} (stays : s.Stays acts id a) :
    (s.run acts).roster.get? id = some a :=
  stays acts [] (List.append_nil acts).symm

theorem stays_nil {id : ComponentId} {a : Nat} (here : s.roster.get? id = some a) :
    s.Stays [] id a := by
  intro before rest split
  obtain ⟨rfl, _⟩ := List.append_eq_nil_iff.mp split.symm
  exact here

theorem stays_cons {v : Act} {acts : List Act} {id : ComponentId} {a : Nat} :
    s.Stays (v :: acts) id a ↔ s.roster.get? id = some a ∧ (s.after v).Stays acts id a := by
  constructor
  · intro stays
    exact ⟨stays.head, fun before rest split => stays (v :: before) rest (by rw [split]; rfl)⟩
  · rintro ⟨here, stays⟩ before rest split
    cases before with
    | nil => exact here
    | cons w before =>
      obtain ⟨rfl, later⟩ := List.cons.inj split
      exact stays before rest later

/-- A component on the roster has stood there all along, or a spawn put it there and it has
stood there since. -/
theorem roster_run_iff (s : State) (acts : List Act) (id : ComponentId) (a : Nat) :
    (s.run acts).roster.get? id = some a ↔ s.Stays acts id a ∨
      ∃ before n rest, acts = before ++ .move (.call n) :: rest ∧ (s.run before).Seats n id a ∧
        ((s.run before).after (.move (.call n))).Stays rest id a := by
  constructor
  · intro here
    induction acts generalizing s with
    | nil => exact .inl (stays_nil here)
    | cons v acts ih =>
      obtain stays | ⟨before, n, rest, split, seats, stays⟩ := ih (s.after v) here
      · obtain same | ⟨_, gone⟩ | ⟨n, b, rfl, seats, seated⟩ := s.roster_after v id
        · exact .inl (stays_cons.mpr ⟨same ▸ stays.head, stays⟩)
        · rw [stays.head] at gone
          cases gone
        · rw [stays.head] at seated
          cases seated
          exact .inr ⟨[], n, acts, rfl, seats, stays⟩
      · exact .inr ⟨v :: before, n, rest, by rw [split]; rfl, seats, stays⟩
  · rintro (stays | ⟨before, n, rest, rfl, _, stays⟩)
    · exact stays.last
    · rw [run_append, run_cons]
      exact stays.last

theorem endsStop_of_run {id : ComponentId} {a : Nat} (acts : List Act)
    (here : s.roster.get? id = some a) (gone : (s.run acts).roster.get? id = none) :
    ∃ before v rest, acts = before ++ v :: rest ∧ s.Stays before id a ∧
      (s.run before).EndsStop v id ∧ ((s.run before).after v).roster.get? id = none := by
  induction acts generalizing s with
  | nil =>
    rw [run_nil, here] at gone
    cases gone
  | cons v acts ih =>
    obtain same | ⟨ends, off⟩ | ⟨n, b, rfl, ⟨_, _, _, _, _, free⟩, _⟩ := s.roster_after v id
    · obtain ⟨before, w, rest, split, stays, ends, off⟩ := ih (same.trans here) gone
      exact ⟨v :: before, w, rest, by rw [split]; rfl, stays_cons.mpr ⟨here, stays⟩, ends, off⟩
    · exact ⟨[], v, acts, rfl, stays_nil here, ends, off⟩
    · rw [here] at free
      cases free

end ComponentHost.State
