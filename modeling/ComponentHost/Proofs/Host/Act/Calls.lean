import ComponentHost.Proofs.Host.Component.LifecycleSteps

/-! Calls in flight. A call stays where it stands until it takes a step of its own; only one that
waits for the outcome of a guest call is touched by others, who fill its slot. A call that stands
in line at a mailbox has its mail still with it. -/

namespace ComponentHost

def CallState.Steady (c : CallState) : Prop := ∀ slot, State.fillSlot slot c = c

def CallState.ofNext (time : Duration) : Call ⊕ Answer → CallState
  | .inl c => .running c
  | .inr a => .returned time a

/-- The mail that a call has yet to put into a mailbox, and which that is if it was routed there. -/
def Call.errand? : Call → Option (Option Nat × Mail)
  | .deliver _ _ box mail => some (some box, mail)
  | .tell _ mail | .posting _ mail _ => some (none, mail)
  | .await _ | .invoked .. | .start .. | .halt _ | .spawn _ | .stop _ | .restartStop ..
    | .restartSpawn _ | .shutdown .. => none

def CallState.errand? : CallState → Option (Option Nat × Mail)
  | .running c => c.errand?
  | .returned .. => none

theorem CallState.errand?_ofNext {next : Call ⊕ Answer}
    (free : ∀ c, next = .inl c → c.errand? = none) (time : Duration) :
    (CallState.ofNext time next).errand? = none := by
  cases next with
  | inl c => exact free c rfl
  | inr => rfl

namespace State

variable {s : State} {k : Nat} {c : CallState}

def errand? (s : State) (n : Nat) : Option (Option Nat × Mail) :=
  s.calls[n]?.bind CallState.errand?

section Next

theorem errand?_of_endDelivery {purpose : Purpose} {target : ComponentId}
    {r : Except PostError Unit} {c : Call} (next : (s.endDelivery purpose target r).2 = .inl c) :
    c.errand? = none := by
  cases r with
  | ok posted =>
    cases purpose with
    | bare | message => cases next
    | request id waiter awaited =>
      cases awaited <;> cases next
      rfl
  | error e => cases purpose <;> cases next

theorem errand?_of_stopped {outcome : Stop ⊕ Except HostError Unit} {c : Call}
    (next : stopped outcome = .inl c) : c.errand? = none := by
  cases outcome <;> cases next
  rfl

theorem errand?_of_respawn {o : Order} {r : Except HostError Unit} {c : Call}
    (next : s.respawn o r = .inl c) : c.errand? = none := by
  obtain ⟨_, _, rfl, _⟩ := started_of_respawn next
  rfl

theorem errand?_of_restopped {o : Order} {outcome : Stop ⊕ Except HostError Unit} {c : Call}
    (next : s.restopped o outcome = .inl c) : c.errand? = none := by
  cases outcome with
  | inl =>
    cases next
    rfl
  | inr => exact errand?_of_respawn next

theorem errand?_of_drained {waits : Option (Stop × List ComponentId)} {c : Call}
    (next : drained waits = .inl c) : c.errand? = none := by
  obtain ⟨_, _, _, rfl⟩ := drained_eq_inl.mp next
  rfl

theorem carryOn_eq (s : State) (n : Nat) (next : Call ⊕ Answer) :
    s.carryOn n next = { s with calls := s.calls.set n (.ofNext s.clock next) } := by
  cases next <;> rfl

theorem calls_carryOn (s : State) (n : Nat) (next : Call ⊕ Answer) :
    (s.carryOn n next).calls = s.calls.set n (.ofNext s.clock next) := by
  rw [carryOn_eq]

theorem calls_carryOn_self {n : Nat} (known : n < s.calls.length) (next : Call ⊕ Answer) :
    (s.carryOn n next).calls[n]? = some (.ofNext s.clock next) := by
  rw [calls_carryOn, List.getElem?_set_self known]

theorem enterOrAnswer_eq (s : State) (next : Call ⊕ Answer) :
    (s.enterOrAnswer next).2 = { s with calls := s.calls ++ [.ofNext s.clock next] } := by
  cases next <;> rfl

theorem calls_enterOrAnswer (s : State) (next : Call ⊕ Answer) :
    (s.enterOrAnswer next).2.calls = s.calls ++ [.ofNext s.clock next] := by
  rw [enterOrAnswer_eq]

theorem calls_enterOrAnswer_last {n : Nat} (last : s.calls.length = n) (next : Call ⊕ Answer) :
    (s.enterOrAnswer next).2.calls[n]? = some (.ofNext s.clock next) := by
  rw [calls_enterOrAnswer, ← last, List.getElem?_concat_length]

end Next

section Frame

@[simp] theorem calls_endDelivery (s : State) (purpose : Purpose) (target : ComponentId)
    (r : Except PostError Unit) : (s.endDelivery purpose target r).1.calls = s.calls := by
  cases r <;> cases purpose <;> rfl

@[simp] theorem calls_beginHalt (s : State) (a : Nat) : (s.beginHalt a).1.calls = s.calls := by
  rw [beginHalt_fst]
  rfl

@[simp] theorem calls_beginStop (s : State) (id : ComponentId) :
    (s.beginStop id).1.calls = s.calls := by
  obtain ⟨_, _, same⟩ | ⟨a, _, ⟨_, same⟩ | ⟨_, same⟩⟩ := s.beginStop_cases id <;> rw [same]
  · exact calls_beginHalt ({ s with post := s.post.unroute id }.dropPending id) a
  · exact calls_beginHalt ({ s with post := s.post.unroute id }.dropPending id) a

@[simp] theorem calls_drain (ids : List ComponentId) (s : State) :
    (s.drain ids).1.calls = s.calls :=
  drain_induction (P := (·.calls = s.calls)) rfl fun t id _ same =>
    (t.calls_beginStop id).trans same

@[simp] theorem calls_workFor (s : State) (role : Role) (hook : Hook) :
    (s.workFor role hook).2.calls = s.calls := by
  rw [workFor_snd]

@[simp] theorem calls_begin (s : State) (a : Nat) (hook : Hook) :
    (s.begin a hook).calls = s.calls := by
  unfold begin
  split
  · rfl
  · exact s.calls_workFor _ hook

@[simp] theorem calls_createActor (s : State) (name : String) (role : Role) :
    (s.createActor name role).2.calls = s.calls :=
  calls_begin _ _ _

theorem calls_stepSpawn {t : State} {sp : Spawn} {r : Spawn ⊕ Except HostError Nat}
    (stepped : s.stepSpawn sp = .next t r) : t.calls = s.calls := by
  unfold stepSpawn at stepped
  cases stage : sp.stage with
  | loading =>
    rw [stage] at stepped
    dsimp only at stepped
    split at stepped
    · cases stepped
      rfl
    · split at stepped
      · cases stepped
      · cases stepped
        exact calls_createActor { s with loads := s.loads + 1 } _ _
  | starting a =>
    rw [stage] at stepped
    dsimp only at stepped
    split at stepped
    · cases stepped
    · cases stepped
      rfl
    · unfold seat at stepped
      split at stepped
      · cases stepped
        exact s.calls_beginHalt a
      · cases stepped
        cases sp.keep <;> rfl
  | discarding a =>
    rw [stage] at stepped
    dsimp only at stepped
    split at stepped
    · cases stepped
    · cases stepped
      rfl

theorem calls_respond {t : State} {id : CorrelationId} {responder requester : ComponentId}
    {reply : Reply} (posted : s.respond id responder requester reply = .ok t) :
    t.calls = s.calls := by
  unfold respond at posted
  split at posted
  · cases posted
  · cases posted
    rfl

end Frame

section Enter

def Enters (s : State) (errand : Option (Option Nat × Mail)) (t : State) : Prop :=
  ∃ c : CallState, t.calls = s.calls ++ [c] ∧ (c.errand? = none ∨ c.errand? = errand)

theorem enterOrAnswer_enters {t : State} {errand : Option (Option Nat × Mail)}
    {next : Call ⊕ Answer} (same : t.calls = s.calls)
    (free : ∀ c, next = .inl c → c.errand? = none) : s.Enters errand (t.enterOrAnswer next).2 :=
  ⟨_, by rw [calls_enterOrAnswer, same], .inl (CallState.errand?_ofNext free t.clock)⟩

theorem answerNow_enters {t : State} {errand : Option (Option Nat × Mail)}
    (same : t.calls = s.calls) (a : Answer) : s.Enters errand (t.answerNow a).2 :=
  ⟨_, congrArg (· ++ [_]) same, .inl rfl⟩

theorem enter_enters {t : State} (same : t.calls = s.calls) (c : Call) :
    s.Enters c.errand? (t.enter c).2 :=
  ⟨_, congrArg (· ++ [_]) same, .inr rfl⟩

theorem deliver_enters {t : State} (same : t.calls = s.calls) (purpose : Purpose)
    (target : ComponentId) (mail : Mail) :
    s.Enters ((t.post.routes.get? target).map fun box => (some box, mail))
      (t.deliver purpose target mail).2 := by
  have ended : ∀ (u : State) r errand, u.calls = s.calls →
      s.Enters errand ((u.endDelivery purpose target r).1.enterOrAnswer
        (u.endDelivery purpose target r).2).2 := fun u r _ same =>
    enterOrAnswer_enters ((u.calls_endDelivery purpose target r).trans same) fun _ =>
      errand?_of_endDelivery
  unfold deliver
  cases t.post.routes.get? target with
  | none => exact ended t (.error (.targetNotFound target.name)) _ same
  | some box =>
    dsimp only
    split
    · exact ⟨_, congrArg (· ++ [_]) same, .inr rfl⟩
    · exact ended _ (.ok ()) _ same
    · exact ended _ (.error (.mailboxClosed target)) _ same

theorem tell_enters (s : State) (a : Nat) (mail : Mail) :
    s.Enters (some (none, mail)) (s.tell a mail).2 := by
  unfold tell
  dsimp only
  split
  · exact ⟨_, rfl, .inr rfl⟩
  · exact ⟨_, rfl, .inl rfl⟩
  · exact ⟨_, rfl, .inl rfl⟩

theorem invoke_enters (s : State) (a : Nat) (function : String) (args : List Value)
    (target : Option (ComponentId × String)) :
    s.Enters (some (none, .invoke function args s.calls.length))
      (s.invoke a function args target).2 := by
  unfold invoke
  dsimp only
  split
  · exact ⟨_, rfl, .inr rfl⟩
  · exact ⟨_, rfl, .inl rfl⟩
  · exact ⟨_, rfl, .inl rfl⟩

theorem execute_enters (s : State) (id : ComponentId) (function : String) (args : List Value) :
    s.Enters (some (none, .invoke function args s.calls.length))
      (s.execute id function args).2 := by
  unfold execute
  split
  · exact answerNow_enters rfl _
  · split
    · exact answerNow_enters rfl _
    · exact s.invoke_enters _ function args _

theorem startActor_enters (s : State) (name : String) (preStart postStop : Course)
    (keep : String) : s.Enters none (s.startActor name preStart postStop keep).2 := by
  unfold startActor
  split
  · exact answerNow_enters rfl _
  · exact enter_enters (s.calls_createActor name (.plain preStart postStop)) (.start _ keep)

theorem stopActor_enters (s : State) (a : Nat) : s.Enters none (s.stopActor a).2 := by
  have same := s.calls_beginHalt a
  unfold stopActor
  generalize s.beginHalt a = halted at same ⊢
  obtain ⟨t, outcome⟩ := halted
  cases outcome
  · exact enter_enters same (.halt a)
  · exact answerNow_enters same _

theorem spawnComponent_enters (s : State) (o : Order) (keep : Option String) :
    s.Enters none (s.spawnComponent o keep).2 := by
  unfold spawnComponent
  split <;> exact ⟨_, rfl, .inl rfl⟩

theorem stopComponent_enters (s : State) (id : ComponentId) :
    s.Enters none (s.stopComponent id).2 := by
  cases started : s.started with
  | false =>
    rw [stopComponent_of_not_started started]
    exact answerNow_enters rfl _
  | true =>
    rw [stopComponent_of_started started]
    exact enterOrAnswer_enters (s.calls_beginStop id) fun _ => errand?_of_stopped

theorem restartComponent_enters (s : State) (o : Order) :
    s.Enters none (s.restartComponent o).2 := by
  cases started : s.started with
  | false =>
    rw [restartComponent_of_not_started started]
    exact answerNow_enters rfl _
  | true =>
    rw [restartComponent_of_started started]
    split
    · exact enterOrAnswer_enters (s.calls_beginStop o.id) fun _ => errand?_of_restopped
    · exact enterOrAnswer_enters rfl fun _ => errand?_of_respawn

theorem shutdown_enters (s : State) : s.Enters none s.shutdown.2 := by
  cases started : s.started with
  | false =>
    rw [shutdown, started]
    exact answerNow_enters rfl _
  | true =>
    rw [shutdown_eq started]
    exact enterOrAnswer_enters (calls_drain s.roster.ids { s with started := false }) fun _ =>
      errand?_of_drained

end Enter

section Fill

theorem fillSlot_empty (c : CallState) : fillSlot .empty c = c := by
  unfold fillSlot
  split <;> rfl

theorem fillSlot_fillSlot (slot slot' : Slot) (c : CallState) :
    fillSlot slot' (fillSlot slot c) = fillSlot slot c ∨
      fillSlot slot' (fillSlot slot c) = fillSlot slot' c := by
  cases c with
  | returned => exact .inl rfl
  | running call =>
    cases call with
    | invoked a held target =>
      cases held with
      | empty =>
        cases slot with
        | empty => exact .inr rfl
        | lost | filled => exact .inl rfl
      | lost | filled => exact .inl rfl
    | _ => exact .inl rfl

def Fills (s t : State) : Prop :=
  ∀ k : Nat, ∃ slot, t.calls[k]? = s.calls[k]?.map (fillSlot slot)

namespace Fills

variable {t u : State}

theorem of_calls (same : t.calls = s.calls) : s.Fills t := by
  refine fun k => ⟨.empty, ?_⟩
  rw [same]
  cases s.calls[k]? with
  | none => rfl
  | some c => rw [Option.map_some, fillSlot_empty]

theorem refl (s : State) : s.Fills s := of_calls rfl

theorem trans (first : s.Fills t) (second : t.Fills u) : s.Fills u := by
  intro k
  obtain ⟨slot, before⟩ := first k
  obtain ⟨slot', after⟩ := second k
  cases here : s.calls[k]? with
  | none => exact ⟨slot, by rw [after, before, here]; rfl⟩
  | some c =>
    rw [after, before, here, Option.map_some, Option.map_some]
    obtain once | once := fillSlot_fillSlot slot slot' c
    · exact ⟨slot, by rw [once]; rfl⟩
    · exact ⟨slot', by rw [once]; rfl⟩

theorem of_calls_left (same : t.calls = s.calls) (fills : t.Fills u) : s.Fills u :=
  (of_calls same).trans fills

theorem stands (fills : s.Fills t) (steady : c.Steady) (here : s.calls[k]? = some c) :
    t.calls[k]? = some c := by
  obtain ⟨slot, same⟩ := fills k
  rw [same, here, Option.map_some, steady slot]

end Fills

theorem settleSlot_fills (s : State) (n : Nat) (slot : Slot) : s.Fills (s.settleSlot n slot) := by
  intro k
  by_cases own : n = k
  · subst own
    exact ⟨slot, List.getElem?_modify_eq ..⟩
  · obtain ⟨slot', same⟩ := Fills.refl s k
    exact ⟨slot', (List.getElem?_modify_ne _ _ own).trans same⟩

theorem loseMail_fills (s : State) (mail : Mail) : s.Fills (s.loseMail mail) := by
  cases mail with
  | invoke function args caller => exact s.settleSlot_fills caller .lost
  | chore | message | request => exact .refl s

theorem bury_fills (s : State) (a : Nat) (ending : Ending) : s.Fills (s.bury a ending) := by
  have lost : ∀ (mails : List Mail) (t : State), t.Fills (mails.foldl loseMail t) := by
    intro mails
    induction mails with
    | nil => exact .refl
    | cons mail mails ih => exact fun t => (t.loseMail_fills mail).trans (ih _)
  unfold bury
  split
  · exact .refl s
  · exact (lost _ { s with post := s.post.discard _ }).trans (.of_calls rfl)

theorem perform_fills (s : State) (responder : ComponentId) (effect : Effect) :
    s.Fills (s.perform responder effect) := by
  cases effect with
  | nothing => exact .refl s
  | respond id requester reply =>
    rw [perform]
    split
    · exact .of_calls (calls_respond ‹_›)
    · exact .refl s
  | answer caller outcome => exact s.settleSlot_fills caller _

theorem endHook_fills (s : State) (a : Nat) (actor : Actor) (hook : Hook) (work : Work) :
    s.Fills (s.endHook a actor hook work) := by
  have noted : s.Fills (s.note a (.ended hook work.course.ending)) := .of_calls rfl
  have performed := noted.trans (perform_fills _ ⟨actor.name⟩ work.effect)
  unfold endHook
  dsimp only
  split
  · refine Fills.trans (noted.trans ?_) (bury_fills _ a _)
    split
    · exact loseMail_fills _ _
    · exact .refl _
  · split
    · exact performed.trans (.of_calls_left rfl (bury_fills _ a .finished))
    · exact performed.trans (.of_calls rfl)
    · exact performed.trans (.of_calls rfl)
    · exact performed.trans (bury_fills _ a _)

theorem stepActor_fills {t : State} {a : Nat} (stepped : s.stepActor a = some t) : s.Fills t := by
  unfold stepActor at stepped
  split at stepped
  · cases stepped
  · split at stepped
    · cases stepped
    · obtain ⟨_, same⟩ := Option.ite_none_right_eq_some.mp stepped
      cases same
      exact s.endHook_fills a _ _ _
    · cases stepped
    · split at stepped
      · cases stepped
        exact .of_calls (calls_begin _ a .postStop)
      · split at stepped
        · cases stepped
        · cases stepped
          exact .of_calls (calls_begin _ a _)

end Fill

section Move

def Moves (s t : State) (n : Nat) : Prop :=
  ∃ c : CallState, t.calls = s.calls.set n c ∧ c.errand? = none

theorem carryOn_moves {t : State} {n : Nat} {next : Call ⊕ Answer} (same : t.calls = s.calls)
    (free : ∀ c, next = .inl c → c.errand? = none) : s.Moves (t.carryOn n next) n :=
  ⟨_, by rw [calls_carryOn, same], CallState.errand?_ofNext free t.clock⟩

theorem finish_moves {t : State} (same : t.calls = s.calls) (n : Nat) (a : Answer) :
    s.Moves (t.finish n a) n :=
  ⟨_, congrArg (List.set · n _) same, rfl⟩

theorem stepSpawning_moves {t : State} {n : Nat} {wrap : Spawn → Call}
    {answer : Except HostError Nat → Answer} {sp : Spawn} (free : ∀ sp, (wrap sp).errand? = none)
    (stepped : s.stepSpawning n wrap answer sp = some t) : s.Moves t n := by
  unfold stepSpawning at stepped
  split at stepped
  case h_1 => cases stepped
  case h_2 text _ =>
    cases stepped
    exact finish_moves rfl n (.panicked text)
  case h_3 u sp' step =>
    cases stepped
    exact ⟨_, congrArg (List.set · n _) (calls_stepSpawn step), free sp'⟩
  case h_4 u r step =>
    cases stepped
    exact finish_moves (calls_stepSpawn step) n (answer r)

theorem stepCall_moves {t : State} {n : Nat} (stepped : s.stepCall n = some t) : s.Moves t n := by
  cases here : s.calls[n]? with
  | none =>
    rw [stepCall, here] at stepped
    cases stepped
  | some state =>
    cases state with
    | returned time answer =>
      rw [stepCall, here] at stepped
      cases stepped
    | running c =>
      rw [stepCall, here] at stepped
      dsimp only at stepped
      cases c with
      | deliver purpose target box mail =>
        obtain ⟨r, rfl⟩ := stepDeliver_eq stepped
        exact carryOn_moves (calls_endDelivery _ purpose target r) fun _ => errand?_of_endDelivery
      | await waiter =>
        simp only [stepAwait, Option.bind_eq_bind, Option.bind_eq_some_iff] at stepped
        obtain ⟨w, _, r, _, same⟩ := stepped
        cases same
        exact finish_moves rfl n _
      | tell a mail =>
        obtain ⟨answer, rfl⟩ := stepTell_eq stepped
        exact finish_moves rfl n answer
      | posting a mail target =>
        obtain ⟨next, goesOn, rfl⟩ := stepPosting_eq stepped
        exact carryOn_moves rfl fun c same => by rw [goesOn c same]; rfl
      | invoked a slot target => cases slot <;> cases stepped <;> exact finish_moves rfl n _
      | start a keep =>
        simp only [stepStart, Option.bind_eq_bind, Option.bind_eq_some_iff] at stepped
        obtain ⟨outcome, _, stepped⟩ := stepped
        cases outcome <;> cases stepped <;> exact finish_moves rfl n _
      | halt a =>
        simp only [stepHalt, Option.bind_eq_bind, Option.bind_eq_some_iff] at stepped
        obtain ⟨r, _, same⟩ := stepped
        cases same
        exact finish_moves rfl n _
      | spawn sp =>
        exact stepSpawning_moves (fun _ => rfl) ((s.stepSpawnCall_eq n sp).symm.trans stepped)
      | restartSpawn sp =>
        exact stepSpawning_moves (fun _ => rfl) ((s.stepRestartSpawn_eq n sp).symm.trans stepped)
      | stop st =>
        simp only [stepStopCall, Option.bind_eq_bind, Option.bind_eq_some_iff] at stepped
        obtain ⟨⟨u, r⟩, finished, same⟩ := stepped
        cases same
        obtain rfl := stepStop_eq finished
        exact finish_moves rfl n _
      | restartStop st o =>
        simp only [stepRestartStop, Option.bind_eq_bind, Option.bind_eq_some_iff] at stepped
        obtain ⟨⟨u, r⟩, finished, stepped⟩ := stepped
        obtain rfl := stepStop_eq finished
        dsimp only at stepped
        split at stepped
        case h_1 c respawned =>
          cases stepped
          exact ⟨_, rfl, errand?_of_respawn respawned⟩
        case h_2 =>
          cases stepped
          exact finish_moves rfl n _
      | shutdown st rest =>
        rw [stepShutdown_eq stepped]
        exact carryOn_moves (calls_drain rest (s.endStop st.id)) fun _ => errand?_of_drained

end Move

/-- What an act does to the calls in flight: it enters one, leaves them all where they stand, takes
one further, or lets an actor fill slots of theirs. -/
theorem calls_cases (s : State) (v : Act) :
    (∃ errand, s.Enters errand (s.after v)) ∨ (s.after v).calls = s.calls ∨
      (∃ n, v = .move (.call n) ∧ s.Moves (s.after v) n) ∨
        ∃ a, v = .move (.actor a) ∧ s.stepActor a = some (s.after v) := by
  cases v with
  | move m =>
    rw [after]
    cases stepped : s.step m with
    | none => exact .inr (.inl rfl)
    | some t =>
      rw [Option.getD_some]
      cases m with
      | alarm number =>
        obtain ⟨_, _, _, rfl⟩ := stepAlarm_eq stepped
        exact .inr (.inl rfl)
      | actor a => exact .inr (.inr (.inr ⟨a, rfl, stepped⟩))
      | enroll i =>
        obtain ⟨_, _, rfl⟩ := enroll_eq stepped
        exact .inr (.inl rfl)
      | call n => exact .inr (.inr (.inl ⟨n, rfl, stepCall_moves stepped⟩))
  | post target mail => exact .inl ⟨_, deliver_enters rfl .bare target mail⟩
  | sendMessage sender target payload =>
    exact .inl ⟨_, deliver_enters rfl .message target (.message sender payload)⟩
  | sendRequest sender target payload timeout? awaited =>
    obtain ⟨ledger, waiter, same⟩ := s.sendRequest_eq sender target payload timeout? awaited
    rw [same]
    exact .inl ⟨_, deliver_enters rfl _ target _⟩
  | respond id responder requester reply =>
    rw [after]
    split
    case h_1 t posted => exact .inr (.inl (calls_respond posted))
    case h_2 => exact .inr (.inl rfl)
  | startActor name preStart postStop keep =>
    exact .inl ⟨_, s.startActor_enters name preStart postStop keep⟩
  | stopActor a => exact .inl ⟨_, s.stopActor_enters a⟩
  | tell a mail => exact .inl ⟨_, s.tell_enters a mail⟩
  | invoke a function args => exact .inl ⟨_, s.invoke_enters a function args none⟩
  | spawn o keep => exact .inl ⟨_, s.spawnComponent_enters o keep⟩
  | stop id => exact .inl ⟨_, s.stopComponent_enters id⟩
  | restart o => exact .inl ⟨_, s.restartComponent_enters o⟩
  | shutdown => exact .inl ⟨_, s.shutdown_enters⟩
  | execute id function args => exact .inl ⟨_, s.execute_enters id function args⟩
  | wait | expire | cancel | cleanup | sweep | abandon | install | route | unroute | unrouteFrom
    | take | close | discard | release => exact .inr (.inl rfl)

theorem calls_after_of_actors {v : Act} (here : s.calls[k]? = some c)
    (other : v ≠ .move (.call k))
    (actors : ∀ a t, v = .move (.actor a) → s.stepActor a = some t → t.calls[k]? = some c) :
    (s.after v).calls[k]? = some c := by
  obtain ⟨_, _, same, _⟩ | same | ⟨n, move, _, same, _⟩ | ⟨a, move, stepped⟩ := s.calls_cases v
  · rw [same, List.getElem?_append_left (List.getElem?_eq_some_iff.mp here).1, here]
  · rw [same, here]
  · have apart : n ≠ k := fun own => other (by rw [move, own])
    rw [same, List.getElem?_set_ne apart, here]
  · exact actors a _ move stepped

/-- A call stays where it stands until it takes a step of its own. -/
theorem calls_after (steady : c.Steady) (here : s.calls[k]? = some c) {v : Act}
    (other : v ≠ .move (.call k)) : (s.after v).calls[k]? = some c :=
  calls_after_of_actors here other fun _ _ _ stepped => (stepActor_fills stepped).stands steady here

theorem calls_length_after (s : State) (v : Act) :
    s.calls.length ≤ (s.after v).calls.length := by
  obtain ⟨_, _, same, _⟩ | same | ⟨_, _, _, same, _⟩ | ⟨_, _, stepped⟩ := s.calls_cases v
  · rw [same, List.length_append]
    exact Nat.le_add_right _ _
  · exact Nat.le_of_eq (congrArg List.length same).symm
  · exact Nat.le_of_eq (by rw [same, List.length_set])
  · refine Nat.le_of_not_lt fun less => ?_
    obtain ⟨slot, same⟩ := stepActor_fills stepped (s.after v).calls.length
    rw [List.getElem?_eq_none (Nat.le_refl _), List.getElem?_eq_getElem less] at same
    cases same

theorem returned_after {time : Duration} {answer : Answer}
    (here : s.calls[k]? = some (.returned time answer)) (v : Act) :
    (s.after v).calls[k]? = some (.returned time answer) := by
  by_cases own : v = .move (.call k)
  · subst own
    rw [after, step, stepCall, here]
    exact here
  · exact calls_after (fun _ => rfl) here own

theorem returned_run {time : Duration} {answer : Answer}
    (here : s.calls[k]? = some (.returned time answer)) (acts : List Act) :
    (s.run acts).calls[k]? = some (.returned time answer) :=
  run_induction (P := (·.calls[k]? = some (.returned time answer))) here
    fun _ v _ here => returned_after here v

end State

end ComponentHost
