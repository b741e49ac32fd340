import ComponentHost.Proofs.Host.Act.Messaging

/-! What lifecycle calls do to the components there are. A stop, when it is over, takes its id off
the roster, whichever actor stands there; only a spawn puts an id on it, and only where none
is. -/

namespace ComponentHost

def Call.stops (id : ComponentId) : Call → Prop
  | .stop st | .restartStop st _ => id = st.id
  | .shutdown st rest => id = st.id ∨ id ∈ rest
  | _ => False

def Call.spawning? : Call → Option Spawn
  | .spawn sp | .restartSpawn sp => some sp
  | _ => none

def Call.stopping? : Call → Option Stop
  | .stop st | .restartStop st _ => some st
  | _ => none

namespace State

variable {s : State}

/-- From `s` to `t` some components may have gone, and only such as `gone` tells. -/
structure Sheds (gone : ComponentId → Prop) (s t : State) : Prop where
  started : t.started = s.started
  underWay : t.underWay = s.underWay
  roster : ∀ id, t.roster.get? id = s.roster.get? id ∨ gone id ∧ t.roster.get? id = none

namespace Sheds

variable {gone gone' : ComponentId → Prop} {t u : State}

theorem of_settles (settles : s.Settles t) : Sheds gone s t := by
  obtain ⟨vs, _, outline⟩ := settles
  exact ⟨congrArg Outline.started outline, congrArg Outline.underWay outline,
    fun id => .inl (congrArg (·.roster.get? id) outline)⟩

theorem refl (s : State) : Sheds gone s s := of_settles (.refl s)

theorem trans (first : Sheds gone s t) (second : Sheds gone t u) : Sheds gone s u where
  started := second.started.trans first.started
  underWay := second.underWay.trans first.underWay
  roster id := by
    obtain same | shed := second.roster id
    · rw [same]
      exact first.roster id
    · exact .inr shed

theorem mono (sheds : Sheds gone s t) (wider : ∀ id, gone id → gone' id) : Sheds gone' s t where
  started := sheds.started
  underWay := sheds.underWay
  roster id := (sheds.roster id).imp_right fun ⟨left, absent⟩ => ⟨wider id left, absent⟩

theorem absent (sheds : Sheds gone s t) {id : ComponentId} (off : s.roster.get? id = none) :
    t.roster.get? id = none := by
  obtain same | ⟨_, gone⟩ := sheds.roster id
  · rw [same, off]
  · exact gone

end Sheds

section Stop

theorem dropPending_settles {heard : CorrelationId → Response → Prop} (s : State)
    (id : ComponentId) : s.SettlesBy heard (s.dropPending id) :=
  s.settles_settled (.cleanup id) trivial

@[simp] theorem roster_endStop (s : State) (id : ComponentId) :
    (s.endStop id).roster = s.roster.erase id := rfl

theorem endStop_sheds (s : State) (id : ComponentId) : Sheds (· = id) s (s.endStop id) where
  started := rfl
  underWay := rfl
  roster j := by
    rw [roster_endStop, Table.get?_erase]
    by_cases own : j = id
    · rw [if_pos own]
      exact .inr ⟨own, rfl⟩
    · rw [if_neg own]
      exact .inl rfl

theorem unroute_sheds (s : State) (id : ComponentId) {gone : ComponentId → Prop} :
    Sheds gone s { s with post := s.post.unroute id } :=
  ⟨rfl, rfl, fun _ => .inl rfl⟩

/-- What a stop of a component does at once: its route and its pending exchanges go, and its
actor is told. -/
def told (s : State) (id : ComponentId) (a : Nat) : State :=
  (({ s with post := s.post.unroute id }.dropPending id).beginHalt a).1

theorem told_sheds (s : State) (id : ComponentId) (a : Nat) {gone : ComponentId → Prop} :
    Sheds gone s (s.told id a) :=
  (s.unroute_sheds id).trans (.of_settles
    ((dropPending_settles _ id).trans (.of_outline (outline_beginHalt _ a))))

theorem beginStop_cases (s : State) (id : ComponentId) :
    (s.roster.get? id = none ∧ ∃ r, s.beginStop id = (s, .inr r)) ∨
    ∃ a, s.roster.get? id = some a ∧
      ((∃ r, s.beginStop id = ((s.told id a).endStop id, .inr r)) ∨
        ∃ deadline, s.beginStop id = (s.told id a, .inl ⟨id, a, deadline⟩)) := by
  cases here : s.roster.get? id with
  | none => exact .inl ⟨rfl, _, by rw [beginStop, here]⟩
  | some a =>
    refine .inr ⟨a, rfl, ?_⟩
    rw [told, beginStop, here]
    dsimp only
    generalize ({ s with post := s.post.unroute id }.dropPending id).beginHalt a = halted
    obtain ⟨t, outcome⟩ := halted
    cases outcome with
    | some r => exact .inl ⟨_, rfl⟩
    | none =>
      by_cases hurried : t.config.lifecycle.stopTimeout = 0
      · exact .inl ⟨_, if_pos hurried⟩
      · exact .inr ⟨_, if_neg hurried⟩

theorem beginStop_sheds (s : State) (id : ComponentId) :
    Sheds (· = id) s (s.beginStop id).1 := by
  obtain ⟨_, _, same⟩ | ⟨a, _, ⟨_, same⟩ | ⟨_, same⟩⟩ := s.beginStop_cases id <;> rw [same]
  · exact .refl s
  · exact (s.told_sheds id a).trans (endStop_sheds _ id)
  · exact s.told_sheds id a

theorem beginStop_over {t : State} {id : ComponentId} {r : Except HostError Unit}
    (finished : s.beginStop id = (t, .inr r)) : t.roster.get? id = none := by
  obtain ⟨absent, _, same⟩ | ⟨a, _, ⟨_, same⟩ | ⟨_, same⟩⟩ := s.beginStop_cases id
  · rw [finished] at same
    cases same
    exact absent
  · rw [finished] at same
    cases same
    exact Table.get?_erase_self _ _
  · rw [finished] at same
    cases same

theorem beginStop_waits {t : State} {id : ComponentId} {st : Stop}
    (waits : s.beginStop id = (t, .inl st)) :
    st.id = id ∧ s.roster.get? id = some st.actor ∧ t.roster.get? id = some st.actor := by
  obtain ⟨_, _, same⟩ | ⟨a, here, ⟨_, same⟩ | ⟨_, same⟩⟩ := s.beginStop_cases id
  · rw [waits] at same
    cases same
  · rw [waits] at same
    cases same
  · rw [waits] at same
    cases same
    have sheds : Sheds (fun _ => False) s (s.told id a) := s.told_sheds id a
    obtain kept | ⟨excluded, _⟩ := sheds.roster id
    · exact ⟨rfl, here, kept.trans here⟩
    · exact excluded.elim

theorem stepStop_eq {t : State} {st : Stop} {r : Except HostError Unit}
    (stepped : s.stepStop st = some (t, r)) : t = s.endStop st.id := by
  unfold stepStop at stepped
  split at stepped
  · cases stepped
    rfl
  · obtain ⟨_, same⟩ := Option.ite_none_right_eq_some.mp stepped
    cases same
    rfl

/-- What each stop of a drain keeps, the drain keeps, whether or not it has to wait. -/
theorem drain_induction {P : State → Prop} {ids : List ComponentId} (start : P s)
    (keeps : ∀ (t : State), ∀ id ∈ ids, P t → P (t.beginStop id).1) : P (s.drain ids).1 := by
  induction ids generalizing s with
  | nil => exact start
  | cons id ids ih =>
    have first := keeps s id List.mem_cons_self start
    unfold drain
    cases begun : s.beginStop id with
    | mk t outcome =>
      rw [begun] at first
      cases outcome with
      | inl st => exact first
      | inr r => exact ih first fun t j mem => keeps t j (List.mem_cons_of_mem id mem)

theorem drain_sheds (ids : List ComponentId) (s : State) :
    Sheds (· ∈ ids) s (s.drain ids).1 ∧
      ∀ id ∈ ids, (s.drain ids).1.roster.get? id = none ∨
        ∃ st rest, (s.drain ids).2 = some (st, rest) ∧ (id = st.id ∨ id ∈ rest) := by
  induction ids generalizing s with
  | nil => exact ⟨.refl s, fun id mem => absurd mem List.not_mem_nil⟩
  | cons id ids ih =>
    have first := s.beginStop_sheds id
    have head : Sheds (· ∈ id :: ids) s (s.beginStop id).1 :=
      first.mono fun _ same => same ▸ List.mem_cons_self
    unfold drain
    cases begun : s.beginStop id with
    | mk t outcome =>
      rw [begun] at head
      cases outcome with
      | inl st =>
        refine ⟨head, fun j mem => .inr ⟨st, ids, rfl, ?_⟩⟩
        rw [(beginStop_waits begun).1]
        exact List.mem_cons.mp mem
      | inr r =>
        obtain ⟨others, left⟩ := ih t
        refine ⟨head.trans (others.mono fun _ mem => List.mem_cons_of_mem _ mem), ?_⟩
        intro j mem
        obtain rfl | mem := List.mem_cons.mp mem
        · exact .inl (others.absent (beginStop_over begun))
        · exact left j mem

end Stop

section Request

theorem ensureStarted_of_started (started : s.started = true) : s.ensureStarted = .ok () :=
  if_pos started

theorem ensureStarted_of_not_started (stopped : s.started = false) :
    s.ensureStarted = .error .notStarted := by
  rw [ensureStarted, stopped]
  rfl

def stopped : Stop ⊕ Except HostError Unit → Call ⊕ Answer
  | .inl st => .inl (.stop st)
  | .inr r => .inr (.done r)

def restopped (s : State) (o : Order) : Stop ⊕ Except HostError Unit → Call ⊕ Answer
  | .inl st => .inl (.restartStop st o)
  | .inr r => s.respawn o r

theorem stopComponent_of_not_started (idle : s.started = false) (id : ComponentId) :
    s.stopComponent id = s.answerNow (.done (.error .notStarted)) := by
  rw [stopComponent, ensureStarted_of_not_started idle]

theorem stopComponent_of_started (started : s.started = true) (id : ComponentId) :
    s.stopComponent id =
      (s.beginStop id).1.enterOrAnswer (stopped (s.beginStop id).2) := by
  rw [stopComponent, ensureStarted_of_started started]
  generalize s.beginStop id = outcome
  obtain ⟨t, next⟩ := outcome
  cases next <;> rfl

theorem restartComponent_of_not_started (idle : s.started = false) (o : Order) :
    s.restartComponent o = s.answerNow (.done (.error .notStarted)) := by
  rw [restartComponent, ensureStarted_of_not_started idle]

theorem restartComponent_of_started (started : s.started = true) (o : Order) :
    s.restartComponent o =
      if s.roster.contains o.id then
        (s.beginStop o.id).1.enterOrAnswer
          ((s.beginStop o.id).1.restopped o (s.beginStop o.id).2)
      else s.enterOrAnswer (s.respawn o (.ok ())) := by
  rw [restartComponent, ensureStarted_of_started started]
  generalize s.beginStop o.id = outcome
  obtain ⟨t, next⟩ := outcome
  cases next <;> rfl

def drained : Option (Stop × List ComponentId) → Call ⊕ Answer
  | some (st, rest) => .inl (.shutdown st rest)
  | none => .inr (.done (.ok ()))

theorem drained_eq_inl {waits : Option (Stop × List ComponentId)} {c : Call} :
    drained waits = .inl c ↔ ∃ st rest, waits = some (st, rest) ∧ c = .shutdown st rest := by
  constructor
  · intro next
    cases waits with
    | none => cases next
    | some waits =>
      cases next
      exact ⟨waits.1, waits.2, rfl, rfl⟩
  · rintro ⟨st, rest, rfl, rfl⟩
    rfl

theorem shutdown_eq (started : s.started = true) :
    s.shutdown = ({ s with started := false }.drain s.roster.ids).1.enterOrAnswer
      (drained ({ s with started := false }.drain s.roster.ids).2) := by
  rw [shutdown, if_pos started]
  generalize { s with started := false }.drain s.roster.ids = outcome
  obtain ⟨t, waits⟩ := outcome
  cases waits <;> rfl

theorem started_of_beginSpawn {o : Order} {keep : Option String} {sp : Spawn}
    (begun : s.beginSpawn o keep = .inl sp) : s.started = true ∧ sp.order = o := by
  unfold beginSpawn ensureStarted at begun
  by_cases started : s.started = true
  · simp only [started, if_true] at begun
    split at begun
    · cases begun
    · cases begun
      exact ⟨started, rfl⟩
  · simp only [started, if_false, Bool.false_eq_true] at begun
    cases begun

theorem started_of_respawn {o : Order} {r : Except HostError Unit} {c : Call}
    (next : s.respawn o r = .inl c) :
    s.started = true ∧ ∃ sp, c = .restartSpawn sp ∧ sp.order = o := by
  cases r with
  | error e => cases next
  | ok stopped =>
    unfold respawn at next
    cases begun : s.beginSpawn o none with
    | inl sp =>
      simp only [begun] at next
      cases next
      obtain ⟨started, order⟩ := started_of_beginSpawn begun
      exact ⟨started, sp, rfl, order⟩
    | inr r =>
      simp only [begun] at next
      cases next

end Request

section Step

def Seats (s : State) (n : Nat) (id : ComponentId) (a : Nat) : Prop :=
  ∃ sp, (s.underWay n).bind Call.spawning? = some sp ∧ sp.order.id = id ∧
    sp.stage = .starting a ∧ s.startOutcome a = some (.ok ()) ∧ s.roster.get? id = none

def MaySeat (s t : State) (sp : Spawn) : Prop :=
  t.outline = s.outline ∨
    ∃ a, sp.stage = .starting a ∧ s.startOutcome a = some (.ok ()) ∧
      s.roster.get? sp.order.id = none ∧
      t.outline = { s.outline with
        roster := s.roster.insert sp.order.id a
        routes := s.post.routes.insert sp.order.id (s.boxOf a)
        enrolling := s.enrolling ++ [sp.order.id] }

theorem stepSpawn_cases {t : State} {sp : Spawn} {r : Spawn ⊕ Except HostError Nat}
    (stepped : s.stepSpawn sp = .next t r) :
    (∀ sp', r = .inl sp' → sp'.order = sp.order) ∧ s.MaySeat t sp := by
  unfold stepSpawn at stepped
  cases stage : sp.stage with
  | loading =>
    rw [stage] at stepped
    dsimp only at stepped
    split at stepped
    · cases stepped
      exact ⟨by simp, .inl rfl⟩
    · split at stepped
      · cases stepped
      · cases stepped
        exact ⟨by rintro _ ⟨⟩; rfl, .inl (outline_createActor _ _ _)⟩
  | starting a =>
    rw [stage] at stepped
    dsimp only at stepped
    split at stepped
    · cases stepped
    · cases stepped
      exact ⟨by simp, .inl rfl⟩
    · case _ started =>
      unfold seat Roster.register at stepped
      by_cases taken : s.roster.contains sp.order.id = true
      · simp only [taken, if_true] at stepped
        cases stepped
        exact ⟨by rintro _ ⟨⟩; rfl, .inl (outline_beginHalt s a)⟩
      · simp only [taken, if_false, Bool.false_eq_true] at stepped
        cases stepped
        refine ⟨by simp, .inr ⟨a, stage, started, ?_, ?_⟩⟩
        · simpa [Table.contains] using taken
        · cases sp.keep <;> rfl
  | discarding a =>
    rw [stage] at stepped
    dsimp only at stepped
    split at stepped
    · cases stepped
    · cases stepped
      exact ⟨by simp, .inl rfl⟩

/-- What one step of call `n` does to the components and to the lifecycle calls. -/
structure Advances (s t : State) (n : Nat) (c : Call) : Prop where
  started : t.started = s.started
  others : ∀ m, m ≠ n → t.underWay m = s.underWay m
  roster : ∀ id, t.roster.get? id = s.roster.get? id ∨
    (c.stops id ∧ t.roster.get? id = none) ∨ ∃ a, s.Seats n id a ∧ t.roster.get? id = some a
  /-- Only a call that spawns already, or a restart in a started host, comes to spawn. -/
  spawns : ∀ sp, (t.underWay n).bind Call.spawning? = some sp →
    (∃ sp', c.spawning? = some sp' ∧ sp'.order = sp.order) ∨ s.started = true
  stops : ∀ st rest, c = .shutdown st rest → ∀ id, c.stops id → t.roster.get? id = none ∨
    ∃ st rest, t.underWay n = some (.shutdown st rest) ∧ (id = st.id ∨ id ∈ rest)

def stepSpawning (s : State) (n : Nat) (wrap : Spawn → Call)
    (answer : Except HostError Nat → Answer) (sp : Spawn) : Option State :=
  match s.stepSpawn sp with
  | .blocked => none
  | .panicked text => some (s.finish n (.panicked text))
  | .next s (.inl sp) => some (s.proceed n (wrap sp))
  | .next s (.inr r) => some (s.finish n (answer r))

theorem stepSpawnCall_eq (s : State) (n : Nat) (sp : Spawn) :
    s.stepSpawnCall n sp = s.stepSpawning n .spawn .spawned sp := rfl

theorem stepRestartSpawn_eq (s : State) (n : Nat) (sp : Spawn) :
    s.stepRestartSpawn n sp =
      s.stepSpawning n .restartSpawn (fun r => .done (r.map fun _ => ())) sp := rfl

theorem stepSpawning_cases {t : State} {n : Nat} {wrap : Spawn → Call}
    {answer : Except HostError Nat → Answer} {sp : Spawn}
    (own : ∀ sp, (wrap sp).spawning? = some sp)
    (stepped : s.stepSpawning n wrap answer sp = some t) :
    ∃ u next, t = u.carryOn n next ∧ s.MaySeat u sp ∧
      ∀ c, next = .inl c → ∃ sp', c.spawning? = some sp' ∧ sp'.order = sp.order := by
  unfold stepSpawning at stepped
  split at stepped
  case h_1 => cases stepped
  case h_2 text _ =>
    cases stepped
    exact ⟨s, .inr (.panicked text), rfl, .inl rfl, by simp⟩
  case h_3 u sp' step =>
    cases stepped
    obtain ⟨order, seat⟩ := stepSpawn_cases step
    refine ⟨u, .inl (wrap sp'), rfl, seat, ?_⟩
    rintro _ ⟨⟩
    exact ⟨sp', own sp', order sp' rfl⟩
  case h_4 u r step =>
    cases stepped
    exact ⟨u, .inr (answer r), rfl, (stepSpawn_cases step).2, by simp⟩

theorem step_of_spawning {t : State} {n : Nat} {sp : Spawn}
    (spawning : (s.underWay n).bind Call.spawning? = some sp) (stepped : s.stepCall n = some t) :
    ∃ u next, t = u.carryOn n next ∧ s.MaySeat u sp ∧
      ∀ c, next = .inl c → ∃ sp', c.spawning? = some sp' ∧ sp'.order = sp.order := by
  obtain ⟨c, here, spawning⟩ := Option.bind_eq_some_iff.mp spawning
  obtain ⟨running, _⟩ := underWay_eq_some.mp here
  rw [stepCall, running] at stepped
  cases c with
  | spawn sp' =>
    cases spawning
    dsimp only at stepped
    rw [stepSpawnCall_eq] at stepped
    exact stepSpawning_cases (fun _ => rfl) stepped
  | restartSpawn sp' =>
    cases spawning
    dsimp only at stepped
    rw [stepRestartSpawn_eq] at stepped
    exact stepSpawning_cases (fun _ => rfl) stepped
  | _ => cases spawning

theorem MaySeat.roster {t : State} {n : Nat} {sp : Spawn} (seat : s.MaySeat t sp)
    (spawning : (s.underWay n).bind Call.spawning? = some sp) (id : ComponentId) :
    t.roster.get? id = s.roster.get? id ∨ ∃ a, s.Seats n id a ∧ t.roster.get? id = some a := by
  obtain outline | ⟨a, stage, ready, free, outline⟩ := seat
  · exact .inl (congrArg (·.roster.get? id) outline)
  · rw [show t.roster.get? id = (s.roster.insert sp.order.id a).get? id from
      congrArg (·.roster.get? id) outline, Table.get?_insert]
    by_cases mine : id = sp.order.id
    · rw [if_pos mine]
      exact .inr ⟨a, ⟨sp, spawning, mine.symm, stage, ready, mine ▸ free⟩, rfl⟩
    · rw [if_neg mine]
      exact .inl rfl

theorem MaySeat.started {t : State} {sp : Spawn} (seat : s.MaySeat t sp) :
    t.started = s.started := by
  obtain outline | ⟨_, _, _, _, outline⟩ := seat <;> exact congrArg Outline.started outline

theorem MaySeat.underWay {t : State} {sp : Spawn} (seat : s.MaySeat t sp) :
    t.underWay = s.underWay := by
  obtain outline | ⟨_, _, _, _, outline⟩ := seat <;> exact congrArg Outline.underWay outline

theorem spawning_advances {t : State} {n : Nat} {c : Call} {sp : Spawn}
    (here : s.underWay n = some c) (spawning : c.spawning? = some sp)
    (stepped : s.stepCall n = some t) : s.Advances t n c := by
  have spawning' : (s.underWay n).bind Call.spawning? = some sp := by rw [here]; exact spawning
  obtain ⟨u, next, rfl, seat, orders⟩ := step_of_spawning spawning' stepped
  have here' : u.underWay n = some c := by rw [seat.underWay, here]
  have still : ∀ id, ¬ c.stops id := by
    intro id stops
    cases c with
    | spawn | restartSpawn => exact stops
    | _ => cases spawning
  refine ⟨by rw [started_carryOn, seat.started], fun m other => ?_, fun id => ?_,
    fun sp' later => ?_, fun st rest _ id stops => absurd stops (still id)⟩
  · rw [underWay_carryOn_of_ne u other, seat.underWay]
  · rw [roster_carryOn]
    exact (seat.roster spawning' id).imp_right .inr
  · obtain ⟨c', shown, own⟩ := Option.bind_eq_some_iff.mp later
    obtain ⟨sp'', own', order⟩ := orders c' ((underWay_carryOn_self here').mp shown).1
    rw [own] at own'
    cases own'
    exact .inl ⟨sp, spawning, order.symm⟩

theorem step_of_stopping {t : State} {n : Nat} {st : Stop}
    (waits : (s.underWay n).bind Call.stopping? = some st) (stepped : s.stepCall n = some t) :
    ∃ next, t = (s.endStop st.id).carryOn n next ∧
      ∀ c, next = .inl c → s.started = true ∧ ∃ sp, c = .restartSpawn sp := by
  obtain ⟨c, here, stopping⟩ := Option.bind_eq_some_iff.mp waits
  obtain ⟨running, _⟩ := underWay_eq_some.mp here
  rw [stepCall, running] at stepped
  cases c with
  | stop st' =>
    cases stopping
    simp only [stepStopCall, Option.bind_eq_bind, Option.bind_eq_some_iff] at stepped
    obtain ⟨⟨u, r⟩, finished, same⟩ := stepped
    cases same
    obtain rfl := stepStop_eq finished
    exact ⟨.inr (.done r), rfl, by simp⟩
  | restartStop st' o =>
    cases stopping
    simp only [stepRestartStop, Option.bind_eq_bind, Option.bind_eq_some_iff] at stepped
    obtain ⟨⟨u, r⟩, finished, stepped⟩ := stepped
    obtain rfl := stepStop_eq finished
    refine ⟨(s.endStop st.id).respawn o r, ?_, fun c next => ?_⟩
    · dsimp only at stepped
      split at stepped
      case h_1 c next | h_2 a next =>
        cases stepped
        rw [next]
        rfl
    · obtain ⟨started, sp, same, _⟩ := started_of_respawn next
      exact ⟨started, sp, same⟩
  | _ => cases stopping

theorem stopping_advances {t : State} {n : Nat} {c : Call} {st : Stop}
    (here : s.underWay n = some c) (stopping : c.stopping? = some st)
    (stepped : s.stepCall n = some t) : s.Advances t n c := by
  have waits : (s.underWay n).bind Call.stopping? = some st := by rw [here]; exact stopping
  have here' : (s.endStop st.id).underWay n = some c := here
  obtain ⟨next, rfl, respawns⟩ := step_of_stopping waits stepped
  have stops : ∀ id, c.stops id ↔ id = st.id := by
    intro id
    cases c with
    | stop | restartStop => cases stopping; rfl
    | _ => cases stopping
  refine ⟨started_carryOn _ n next, fun m other => underWay_carryOn_of_ne _ other next,
    fun id => ?_, fun sp later => ?_, fun st' rest same => ?_⟩
  · rw [roster_carryOn]
    obtain kept | ⟨own, gone⟩ := (s.endStop_sheds st.id).roster id
    · exact .inl kept
    · exact .inr (.inl ⟨(stops id).mpr own, gone⟩)
  · obtain ⟨c', shown, _⟩ := Option.bind_eq_some_iff.mp later
    exact .inr (respawns c' ((underWay_carryOn_self here').mp shown).1).1
  · rw [same] at stopping
    cases stopping

theorem stepShutdown_eq {t : State} {n : Nat} {st : Stop} {rest : List ComponentId}
    (stepped : s.stepShutdown n st rest = some t) :
    t = ((s.endStop st.id).drain rest).1.carryOn n (drained ((s.endStop st.id).drain rest).2) := by
  simp only [stepShutdown, Option.bind_eq_bind, Option.bind_eq_some_iff] at stepped
  obtain ⟨⟨u, r⟩, finished, stepped⟩ := stepped
  obtain rfl := stepStop_eq finished
  dsimp only at stepped
  generalize (s.endStop st.id).drain rest = outcome at stepped ⊢
  obtain ⟨v, waits⟩ := outcome
  cases waits <;>
  · cases stepped
    rfl

theorem stepShutdown_advances {t : State} {n : Nat} {st : Stop} {rest : List ComponentId}
    (here : s.underWay n = some (.shutdown st rest))
    (stepped : s.stepShutdown n st rest = some t) : s.Advances t n (.shutdown st rest) := by
  obtain ⟨others, left⟩ := drain_sheds rest (s.endStop st.id)
  have sheds : Sheds (fun id => id = st.id ∨ id ∈ rest) s ((s.endStop st.id).drain rest).1 :=
    ((s.endStop_sheds st.id).mono fun _ => .inl).trans (others.mono fun _ => .inr)
  have first : ((s.endStop st.id).drain rest).1.roster.get? st.id = none :=
    others.absent (Table.get?_erase_self _ _)
  rw [stepShutdown_eq stepped]
  generalize (s.endStop st.id).drain rest = outcome at others left sheds first
  obtain ⟨v, waits⟩ := outcome
  have here' : v.underWay n = some (.shutdown st rest) := by rw [sheds.underWay, here]
  refine ⟨by rw [started_carryOn, sheds.started], fun m other => ?_, fun id => ?_,
    fun sp later => ?_, fun _ _ same id among => ?_⟩
  · rw [underWay_carryOn_of_ne v other, sheds.underWay]
  · rw [roster_carryOn]
    exact (sheds.roster id).imp_right .inl
  · obtain ⟨c, shown, spawns⟩ := Option.bind_eq_some_iff.mp later
    obtain ⟨_, _, _, rfl⟩ := drained_eq_inl.mp ((underWay_carryOn_self here').mp shown).1
    cases spawns
  · rw [roster_carryOn]
    obtain rfl | mem := among
    · exact .inl first
    · refine (left id mem).imp_right fun ⟨st', rest', waits', among'⟩ => ?_
      refine ⟨st', rest', (underWay_carryOn_self here').mpr ⟨?_, rfl⟩, among'⟩
      exact drained_eq_inl.mpr ⟨st', rest', waits', rfl⟩

theorem stepCall_advances {t : State} {n : Nat} {c : Call} (here : s.underWay n = some c)
    (stepped : s.stepCall n = some t) : s.Advances t n c := by
  obtain ⟨running, lifecycle⟩ := underWay_eq_some.mp here
  cases c with
  | spawn sp | restartSpawn sp => exact spawning_advances here rfl stepped
  | stop st | restartStop st => exact stopping_advances here rfl stepped
  | shutdown st rest =>
    rw [stepCall, running] at stepped
    exact stepShutdown_advances here stepped
  | _ => cases lifecycle

end Step

end State

end ComponentHost
