import ComponentHost.Proofs.Host.Run

/-! The outline of a host: which components there are, how they are reached, which exchanges are
pending, and which calls are bringing components up or down. Messages, actors and guests at work
leave it as it is, but for exchanges that they bring to an end. -/

namespace ComponentHost

def Call.isLifecycle : Call → Bool
  | .spawn _ | .stop _ | .restartStop .. | .restartSpawn _ | .shutdown .. => true
  | .deliver .. | .await _ | .tell .. | .posting .. | .invoked .. | .start .. | .halt _ => false

def CallState.lifecycle? : CallState → Option Call
  | .running c => if c.isLifecycle then some c else none
  | .returned .. => none

structure Outline where
  config : HostConfig
  engine : Engine
  clock : Duration
  started : Bool
  ledger : Ledger
  issued : Nat
  routes : Table ComponentId Nat
  roster : Roster Nat
  enrolling : List ComponentId
  underWay : Nat → Option Call

namespace State

variable {s : State}

def underWay (s : State) (n : Nat) : Option Call := s.calls[n]?.bind CallState.lifecycle?

def outline (s : State) : Outline :=
  ⟨s.config, s.engine, s.clock, s.started, s.ledger, s.issued, s.post.routes, s.roster,
    s.enrolling, s.underWay⟩

theorem outline_congr {t : State} (config : t.config = s.config) (engine : t.engine = s.engine)
    (clock : t.clock = s.clock) (started : t.started = s.started) (ledger : t.ledger = s.ledger)
    (issued : t.issued = s.issued) (routes : t.post.routes = s.post.routes)
    (roster : t.roster = s.roster) (enrolling : t.enrolling = s.enrolling)
    (underWay : t.underWay = s.underWay) : t.outline = s.outline := by
  rw [outline, outline, config, engine, clock, started, ledger, issued, routes, roster, enrolling,
    underWay]

section Calls

theorem underWay_of_running {n : Nat} {c : Call} (here : s.calls[n]? = some (.running c)) :
    s.underWay n = if c.isLifecycle then some c else none := by
  rw [underWay, here]
  rfl

theorem underWay_eq_some {n : Nat} {c : Call} :
    s.underWay n = some c ↔ s.calls[n]? = some (.running c) ∧ c.isLifecycle = true := by
  rw [underWay, Option.bind_eq_some_iff]
  constructor
  · rintro ⟨state, here, shown⟩
    cases state with
    | returned time answer => cases shown
    | running c' =>
      rw [CallState.lifecycle?] at shown
      by_cases lifecycle : c'.isLifecycle = true
      · rw [if_pos lifecycle] at shown
        cases shown
        exact ⟨here, lifecycle⟩
      · rw [if_neg lifecycle] at shown
        cases shown
  · rintro ⟨here, lifecycle⟩
    exact ⟨_, here, if_pos lifecycle⟩

theorem underWay_of_length_le {n : Nat} (new : s.calls.length ≤ n) : s.underWay n = none := by
  rw [underWay, List.getElem?_eq_none new]
  rfl

theorem underWay_append (state : CallState) (m : Nat) :
    { s with calls := s.calls ++ [state] }.underWay m =
      if m = s.calls.length then state.lifecycle? else s.underWay m := by
  simp only [underWay]
  by_cases last : m = s.calls.length
  · subst last
    rw [if_pos rfl, List.getElem?_concat_length]
    rfl
  · rw [if_neg last]
    by_cases old : m < s.calls.length
    · rw [List.getElem?_append_left old]
    · have beyond : s.calls.length + 1 ≤ m := by omega
      rw [List.getElem?_eq_none (by simpa using beyond), List.getElem?_eq_none (by omega)]

theorem underWay_set_of_ne {n m : Nat} (other : m ≠ n) (state : CallState) :
    { s with calls := s.calls.set n state }.underWay m = s.underWay m := by
  rw [underWay, underWay, List.getElem?_set_ne (Ne.symm other)]

theorem underWay_set {n : Nat} (known : n < s.calls.length) (state : CallState) (m : Nat) :
    { s with calls := s.calls.set n state }.underWay m =
      if m = n then state.lifecycle? else s.underWay m := by
  by_cases own : m = n
  · subst own
    rw [if_pos rfl, underWay, List.getElem?_set_self known]
    rfl
  · rw [if_neg own, underWay_set_of_ne own]

@[simp] theorem underWay_enter (s : State) (c : Call) (m : Nat) :
    (s.enter c).2.underWay m =
      if m = s.calls.length then (CallState.running c).lifecycle? else s.underWay m :=
  underWay_append _ m

@[simp] theorem underWay_answerNow (s : State) (a : Answer) (m : Nat) :
    (s.answerNow a).2.underWay m = s.underWay m := by
  rw [answerNow, underWay_append]
  by_cases last : m = s.calls.length
  · rw [if_pos last, underWay_of_length_le (Nat.le_of_eq last.symm)]
    rfl
  · rw [if_neg last]

theorem lt_of_underWay {n : Nat} {c : Call} (here : s.underWay n = some c) :
    n < s.calls.length :=
  (List.getElem?_eq_some_iff.mp (underWay_eq_some.mp here).1).1

def carryOn (s : State) (n : Nat) : Call ⊕ Answer → State
  | .inl c => s.proceed n c
  | .inr a => s.finish n a

@[simp] theorem started_carryOn (s : State) (n : Nat) (next : Call ⊕ Answer) :
    (s.carryOn n next).started = s.started := by
  cases next <;> rfl

@[simp] theorem roster_carryOn (s : State) (n : Nat) (next : Call ⊕ Answer) :
    (s.carryOn n next).roster = s.roster := by
  cases next <;> rfl

@[simp] theorem ledger_carryOn (s : State) (n : Nat) (next : Call ⊕ Answer) :
    (s.carryOn n next).ledger = s.ledger := by
  cases next <;> rfl

@[simp] theorem issued_carryOn (s : State) (n : Nat) (next : Call ⊕ Answer) :
    (s.carryOn n next).issued = s.issued := by
  cases next <;> rfl

theorem underWay_carryOn_of_ne (s : State) {n m : Nat} (other : m ≠ n) (next : Call ⊕ Answer) :
    (s.carryOn n next).underWay m = s.underWay m := by
  cases next <;> exact underWay_set_of_ne other _

theorem underWay_carryOn_self {n : Nat} {c c' : Call} (here : s.underWay n = some c)
    {next : Call ⊕ Answer} : (s.carryOn n next).underWay n = some c' ↔
      next = .inl c' ∧ c'.isLifecycle = true := by
  have known := lt_of_underWay here
  cases next with
  | inl d =>
    rw [carryOn, proceed, underWay_set known, if_pos rfl, CallState.lifecycle?,
      Option.ite_none_right_eq_some, Option.some_inj, Sum.inl.injEq]
    constructor
    · rintro ⟨lifecycle, rfl⟩
      exact ⟨rfl, lifecycle⟩
    · rintro ⟨rfl, lifecycle⟩
      exact ⟨lifecycle, rfl⟩
  | inr a =>
    rw [carryOn, finish, underWay_set known, if_pos rfl]
    constructor
    · intro shown
      cases shown
    · rintro ⟨⟨⟩, _⟩

theorem underWay_settleSlot (s : State) (n : Nat) (slot : Slot) :
    (s.settleSlot n slot).underWay = s.underWay := by
  funext m
  have same : ∀ state, (fillSlot slot state).lifecycle? = state.lifecycle? := by
    intro state
    unfold fillSlot
    split <;> rfl
  simp only [underWay, settleSlot, List.getElem?_modify]
  cases s.calls[m]? with
  | none => rfl
  | some state => by_cases own : n = m <;> simp [own, same]

end Calls

section Frame

@[simp] theorem outline_updateActor (s : State) (a : Nat) (f : Actor → Actor) :
    (s.updateActor a f).outline = s.outline := rfl

@[simp] theorem outline_note (s : State) (a : Nat) (m : Moment) :
    (s.note a m).outline = s.outline := rfl

@[simp] theorem outline_keep (s : State) (name : String) (a : Nat) :
    (s.keep name a).outline = s.outline := rfl

theorem outline_post {post : PostOffice} (routes : post.routes = s.post.routes) :
    { s with post }.outline = s.outline :=
  outline_congr rfl rfl rfl rfl rfl rfl routes rfl rfl rfl

theorem outline_enter {c : Call} (plain : c.isLifecycle = false) :
    (s.enter c).2.outline = s.outline := by
  refine outline_congr rfl rfl rfl rfl rfl rfl rfl rfl rfl (funext fun m => ?_)
  rw [underWay_enter]
  by_cases last : m = s.calls.length
  · rw [if_pos last, underWay_of_length_le (Nat.le_of_eq last.symm), CallState.lifecycle?, plain]
    rfl
  · rw [if_neg last]

@[simp] theorem outline_answerNow (s : State) (a : Answer) :
    (s.answerNow a).2.outline = s.outline :=
  outline_congr rfl rfl rfl rfl rfl rfl rfl rfl rfl (funext fun m => underWay_answerNow s a m)

@[simp] theorem outline_settleSlot (s : State) (n : Nat) (slot : Slot) :
    (s.settleSlot n slot).outline = s.outline :=
  outline_congr rfl rfl rfl rfl rfl rfl rfl rfl rfl (underWay_settleSlot s n slot)

@[simp] theorem outline_loseMail (s : State) (mail : Mail) :
    (s.loseMail mail).outline = s.outline := by
  cases mail with
  | invoke function args caller => exact outline_settleSlot s caller .lost
  | chore | message | request => rfl

@[simp] theorem outline_loseMails (s : State) (mails : List Mail) :
    (mails.foldl loseMail s).outline = s.outline := by
  induction mails generalizing s with
  | nil => rfl
  | cons mail mails ih => rw [List.foldl_cons, ih, outline_loseMail]

@[simp] theorem outline_bury (s : State) (a : Nat) (ending : Ending) :
    (s.bury a ending).outline = s.outline := by
  unfold bury
  cases s.actors[a]? with
  | none => rfl
  | some actor =>
    rw [outline_updateActor, outline_loseMails]
    exact outline_post rfl

theorem workFor_snd (s : State) (role : Role) (hook : Hook) : (s.workFor role hook).2 =
    { s with history := (s.workFor role hook).2.history } := by
  cases role with
  | plain preStart postStop =>
    cases hook with
    | preStart | postStop => rfl
    | handle mail => cases mail <;> rfl
  | component c =>
    rw [workFor]
    cases c.guestCall hook <;> rfl

@[simp] theorem outline_workFor (s : State) (role : Role) (hook : Hook) :
    (s.workFor role hook).2.outline = s.outline := by
  rw [workFor_snd]
  rfl

@[simp] theorem outline_begin (s : State) (a : Nat) (hook : Hook) :
    (s.begin a hook).outline = s.outline := by
  unfold begin
  cases s.actors[a]? with
  | none => rfl
  | some actor => exact outline_workFor s actor.role hook

@[simp] theorem outline_createActor (s : State) (name : String) (role : Role) :
    (s.createActor name role).2.outline = s.outline := by
  rw [createActor, outline_begin]
  exact outline_congr rfl rfl rfl rfl rfl rfl rfl rfl rfl rfl

theorem beginHalt_fst (s : State) (a : Nat) : (s.beginHalt a).1 =
    s.updateActor a fun actor => { actor with told := true, awaited := true } := by
  unfold beginHalt
  cases here : s.actors[a]? with
  | none => rw [updateActor, List.modify_eq_self (List.getElem?_eq_none_iff.mp here)]
  | some x =>
    dsimp only
    split <;> rfl

@[simp] theorem outline_beginHalt (s : State) (a : Nat) :
    (s.beginHalt a).1.outline = s.outline := by
  rw [beginHalt_fst, outline_updateActor]

end Frame

end State

end ComponentHost
