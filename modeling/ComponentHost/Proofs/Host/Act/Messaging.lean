import ComponentHost.Proofs.Host.Outline
import ComponentHost.Proofs.Ledger.ClosingSequence

/-! Messages and actors at work settle exchanges and do nothing else to the outline of a host. -/

namespace ComponentHost.State

/-- From `s` to `t` some exchanges came to their ends, with no response but those that were heard;
the outline is otherwise the same. -/
def SettlesBy (heard : CorrelationId → Response → Prop) (s t : State) : Prop :=
  ∃ vs : List Ledger.Event, (∀ v ∈ vs, v.act.Closes heard) ∧
    t.outline = { s.outline with ledger := s.ledger.run vs }

abbrev Settles (s t : State) : Prop := s.SettlesBy (fun _ _ => True) t

namespace SettlesBy

variable {heard heard' : CorrelationId → Response → Prop} {s t u : State}

theorem of_outline (same : t.outline = s.outline) : s.SettlesBy heard t :=
  ⟨[], fun _ mem => absurd mem List.not_mem_nil, same⟩

theorem refl (s : State) : s.SettlesBy heard s := of_outline rfl

theorem mono (settles : s.SettlesBy heard t) (more : ∀ id r, heard id r → heard' id r) :
    s.SettlesBy heard' t := by
  obtain ⟨vs, closes, outline⟩ := settles
  refine ⟨vs, fun v mem => ?_, outline⟩
  have before := closes v mem
  cases act : v.act with
  | resolve id r =>
    rw [act] at before
    exact more id r before
  | expire | cancel | cleanup | sweep => exact trivial
  | register | arm | attach | cancelAlarm | ring =>
    rw [act] at before
    exact before.elim

theorem settles (settles : s.SettlesBy heard t) : s.Settles t := settles.mono fun _ _ _ => trivial

theorem underWay (settles : s.SettlesBy heard t) : t.underWay = s.underWay := by
  obtain ⟨vs, _, outline⟩ := settles
  exact congrArg Outline.underWay outline

theorem trans (first : s.SettlesBy heard t) (second : t.SettlesBy heard u) :
    s.SettlesBy heard u := by
  obtain ⟨vs, closes, outline⟩ := first
  obtain ⟨ws, closes', outline'⟩ := second
  refine ⟨vs ++ ws, fun v mem => ?_, ?_⟩
  · obtain mem | mem := List.mem_append.mp mem
    · exact closes v mem
    · exact closes' v mem
  · have ledger : t.ledger = s.ledger.run vs := congrArg Outline.ledger outline
    rw [outline', outline, ledger, Ledger.run_append]

theorem of_outline_left (same : t.outline = s.outline) (settles : t.SettlesBy heard u) :
    s.SettlesBy heard u :=
  (of_outline same).trans settles

theorem of_outline_right (settles : s.SettlesBy heard t) (same : u.outline = t.outline) :
    s.SettlesBy heard u :=
  settles.trans (of_outline same)

end SettlesBy

variable {heard : CorrelationId → Response → Prop} {s : State}

theorem underWay_set_plain {n : Nat} (idle : s.underWay n = none) {state : CallState}
    (plain : state.lifecycle? = none) :
    { s with calls := s.calls.set n state }.underWay = s.underWay := by
  funext m
  by_cases known : n < s.calls.length
  · rw [underWay_set known]
    by_cases own : m = n
    · rw [if_pos own, plain, own, idle]
    · rw [if_neg own]
  · rw [List.set_eq_of_length_le (Nat.le_of_not_lt known)]

theorem outline_proceed {n : Nat} (idle : s.underWay n = none) {c : Call}
    (plain : c.isLifecycle = false) : (s.proceed n c).outline = s.outline := by
  have hidden : (CallState.running c).lifecycle? = none := by rw [CallState.lifecycle?, plain]; rfl
  exact outline_congr rfl rfl rfl rfl rfl rfl rfl rfl rfl (underWay_set_plain idle hidden)

theorem outline_finish {n : Nat} (idle : s.underWay n = none) (a : Answer) :
    (s.finish n a).outline = s.outline :=
  outline_congr rfl rfl rfl rfl rfl rfl rfl rfl rfl (underWay_set_plain idle rfl)

theorem outline_carryOn {n : Nat} (idle : s.underWay n = none) {next : Call ⊕ Answer}
    (plain : ∀ c, next = .inl c → c.isLifecycle = false) :
    (s.carryOn n next).outline = s.outline := by
  cases next with
  | inl c => exact outline_proceed idle (plain c rfl)
  | inr a => exact outline_finish idle a

theorem settles_settled (s : State) (act : Ledger.Act) (closes : act.Closes heard) :
    s.SettlesBy heard (s.settled act) := by
  refine ⟨[⟨s.clock, act⟩], fun v mem => ?_, rfl⟩
  rw [List.mem_singleton.mp mem]
  exact closes

section Messages

theorem respond_settles {t : State} {id : CorrelationId} {responder requester : ComponentId}
    {reply : Reply} (posted : s.respond id responder requester reply = .ok t) :
    s.SettlesBy (fun k r => k = id ∧ r = ⟨id, responder, requester, reply, s.clock⟩) t := by
  refine SettlesBy.trans (s.settles_settled (.resolve id
    ⟨id, responder, requester, reply, s.clock⟩) ⟨rfl, rfl⟩) (.of_outline ?_)
  unfold respond at posted
  cases resolved : s.ledger.resolve id ⟨id, responder, requester, reply, s.clock⟩ with
  | error e =>
    rw [resolved] at posted
    cases posted
  | ok ledger =>
    rw [resolved] at posted
    cases posted
    simp only [settled, Ledger.after, Ledger.attempt, Ledger.act, resolved]
    rfl

theorem openExchange_id (s : State) (sender target : ComponentId) (timeout : Duration) :
    (s.openExchange sender target timeout).1 = .issued s.issued := by
  unfold openExchange
  dsimp only
  split <;> rfl

theorem openExchange_state (s : State) (sender target : ComponentId) (timeout : Duration) :
    ∃ ledger, (s.openExchange sender target timeout).2.2 =
      { s with ledger, issued := s.issued + 1 } := by
  unfold openExchange
  dsimp only
  split
  · exact ⟨s.ledger, rfl⟩
  · exact ⟨_, rfl⟩

theorem sendRequest_eq (s : State) (sender target : ComponentId) (payload : Bytes)
    (timeout? : Option Duration) (awaited : Bool) :
    ∃ ledger waiter, s.after (.sendRequest sender target payload timeout? awaited) =
      ({ s with ledger, issued := s.issued + 1 }.deliver
        (.request (.issued s.issued) waiter awaited) target
        (.request sender (.issued s.issued) payload)).2 := by
  obtain ⟨ledger, opened⟩ :=
    s.openExchange_state sender target (timeout?.getD s.config.messaging.requestTimeout)
  have issued :=
    s.openExchange_id sender target (timeout?.getD s.config.messaging.requestTimeout)
  refine ⟨ledger, (s.openExchange sender target
    (timeout?.getD s.config.messaging.requestTimeout)).2.1, ?_⟩
  rw [← opened, ← issued]
  rfl

theorem endDelivery_settles (s : State) (purpose : Purpose) (target : ComponentId)
    (r : Except PostError Unit) : s.SettlesBy heard (s.endDelivery purpose target r).1 := by
  cases r with
  | ok posted => cases purpose <;> exact .refl s
  | error e =>
    cases purpose with
    | bare => exact .refl s
    | message => exact .of_outline rfl
    | request id waiter awaited =>
      exact (s.settles_settled (.cancel id (.targetNotFound target.name)) trivial).trans
        (.of_outline rfl)

theorem endDelivery_plain {purpose : Purpose} {target : ComponentId} {r : Except PostError Unit}
    {c : Call} (next : (s.endDelivery purpose target r).2 = .inl c) : c.isLifecycle = false := by
  cases r with
  | ok posted =>
    cases purpose with
    | bare | message => cases next
    | request id waiter awaited =>
      cases awaited
      · cases next
      · cases next
        rfl
  | error e => cases purpose <;> cases next

theorem enterOrAnswer_settles {next : Call ⊕ Answer}
    (plain : ∀ c, next = .inl c → c.isLifecycle = false) :
    s.SettlesBy heard (s.enterOrAnswer next).2 := by
  cases next with
  | inl c => exact .of_outline (outline_enter (plain c rfl))
  | inr a => exact .of_outline (outline_answerNow s a)

theorem endedDelivery_settles (s : State) (purpose : Purpose) (target : ComponentId)
    (r : Except PostError Unit) :
    s.SettlesBy heard ((s.endDelivery purpose target r).1.enterOrAnswer
      (s.endDelivery purpose target r).2).2 :=
  (s.endDelivery_settles purpose target r).trans
    (enterOrAnswer_settles fun _ next => endDelivery_plain next)

theorem routes_offer (p : PostOffice) (box sender : Nat) (mail : Mail) :
    (p.offer box sender mail).2.routes = p.routes := by
  unfold PostOffice.offer
  cases p.boxes[box]? <;> rfl

theorem routes_take {p p' : PostOffice} {box : Nat} {mail : Mail}
    (taken : p.take? box = some (mail, p')) : p'.routes = p.routes := by
  unfold PostOffice.take? at taken
  simp only [Option.bind_eq_bind, Option.bind_eq_some_iff] at taken
  obtain ⟨b, _, ⟨mail', b'⟩, _, same⟩ := taken
  cases same
  rfl

section Line

variable {t : State} {n a box : Nat} {mail : Mail} {purpose : Purpose} {target : ComponentId}
  {asked : Option (ComponentId × String)}

def posted (s : State) (box n : Nat) (mail : Mail) : State :=
  { s with post := (s.post.offer box n mail).2 }

theorem stepDeliver_cases (s : State) (n : Nat) (purpose : Purpose) (target : ComponentId)
    (box : Nat) (mail : Mail) : ((s.post.offer box n mail).1 = .waiting ∧
        s.stepDeliver n purpose target box mail = none) ∨
      ∃ r, let ended := (s.posted box n mail).endDelivery purpose target r
        s.stepDeliver n purpose target box mail = some (ended.1.carryOn n ended.2) := by
  unfold stepDeliver posted
  generalize s.post.offer box n mail = result
  obtain ⟨offer, post⟩ := result
  cases offer with
  | waiting => exact .inl ⟨rfl, rfl⟩
  | accepted => exact .inr ⟨.ok (), rfl⟩
  | refused => exact .inr ⟨.error (.mailboxClosed target), rfl⟩

theorem stepTell_cases (s : State) (n a : Nat) (mail : Mail) :
    ((s.post.offer (s.boxOf a) n mail).1 = .waiting ∧ s.stepTell n a mail = none) ∨
      ∃ answer, s.stepTell n a mail = some ((s.posted (s.boxOf a) n mail).finish n answer) := by
  unfold stepTell posted
  generalize s.post.offer (s.boxOf a) n mail = result
  obtain ⟨offer, post⟩ := result
  cases offer with
  | waiting => exact .inl ⟨rfl, rfl⟩
  | accepted | refused => exact .inr ⟨_, rfl⟩

theorem stepPosting_cases (s : State) (n a : Nat) (mail : Mail)
    (asked : Option (ComponentId × String)) :
    ((s.post.offer (s.boxOf a) n mail).1 = .waiting ∧ s.stepPosting n a mail asked = none) ∨
      ∃ next, (∀ c, next = .inl c → c = .invoked a .empty asked) ∧
        s.stepPosting n a mail asked = some ((s.posted (s.boxOf a) n mail).carryOn n next) := by
  unfold stepPosting posted
  generalize s.post.offer (s.boxOf a) n mail = result
  obtain ⟨offer, post⟩ := result
  cases offer with
  | waiting => exact .inl ⟨rfl, rfl⟩
  | accepted =>
    refine .inr ⟨.inl (.invoked a .empty asked), ?_, rfl⟩
    rintro _ ⟨⟩
    rfl
  | refused =>
    refine .inr ⟨.inr (invocationAnswer asked (.error (.mailboxClosed (s.nameOf a)))), ?_, rfl⟩
    rintro _ ⟨⟩

theorem stepDeliver_eq (stepped : s.stepDeliver n purpose target box mail = some t) :
    ∃ r, let ended := (s.posted box n mail).endDelivery purpose target r
      t = ended.1.carryOn n ended.2 := by
  obtain ⟨_, closed⟩ | ⟨r, goes⟩ := s.stepDeliver_cases n purpose target box mail
  · rw [closed] at stepped
    cases stepped
  · exact ⟨r, Option.some.inj (stepped.symm.trans goes)⟩

theorem stepTell_eq (stepped : s.stepTell n a mail = some t) :
    ∃ answer, t = (s.posted (s.boxOf a) n mail).finish n answer := by
  obtain ⟨_, closed⟩ | ⟨answer, goes⟩ := s.stepTell_cases n a mail
  · rw [closed] at stepped
    cases stepped
  · exact ⟨answer, Option.some.inj (stepped.symm.trans goes)⟩

theorem stepPosting_eq (stepped : s.stepPosting n a mail asked = some t) :
    ∃ next, (∀ c, next = .inl c → c = .invoked a .empty asked) ∧
      t = (s.posted (s.boxOf a) n mail).carryOn n next := by
  obtain ⟨_, closed⟩ | ⟨next, goesOn, goes⟩ := s.stepPosting_cases n a mail asked
  · rw [closed] at stepped
    cases stepped
  · exact ⟨next, goesOn, Option.some.inj (stepped.symm.trans goes)⟩

end Line

theorem deliver_settles (s : State) (purpose : Purpose) (target : ComponentId) (mail : Mail) :
    s.SettlesBy heard (s.deliver purpose target mail).2 := by
  unfold deliver
  split
  case h_1 =>
    exact s.endedDelivery_settles purpose target (.error (.targetNotFound target.name))
  case h_2 box _ =>
    have routes := routes_offer s.post box s.calls.length mail
    revert routes
    generalize s.post.offer box s.calls.length mail = offered
    obtain ⟨offer, post⟩ := offered
    intro routes
    refine .of_outline_left (outline_post routes) ?_
    cases offer with
    | waiting => exact .of_outline (outline_enter rfl)
    | accepted => exact endedDelivery_settles _ purpose target (.ok ())
    | refused => exact endedDelivery_settles _ purpose target (.error (.mailboxClosed target))

theorem carryOn_endDelivery_settles {n : Nat} (idle : s.underWay n = none) (purpose : Purpose)
    (target : ComponentId) (r : Except PostError Unit) :
    s.SettlesBy heard
      ((s.endDelivery purpose target r).1.carryOn n (s.endDelivery purpose target r).2) := by
  have ended : s.SettlesBy heard _ := s.endDelivery_settles purpose target r
  have idle' : (s.endDelivery purpose target r).1.underWay n = none := by
    rw [ended.underWay, idle]
  exact ended.of_outline_right (outline_carryOn idle' fun _ next => endDelivery_plain next)

theorem stepDeliver_settles {t : State} {n : Nat} {purpose : Purpose} {target : ComponentId}
    {box : Nat} {mail : Mail} (idle : s.underWay n = none)
    (stepped : s.stepDeliver n purpose target box mail = some t) : s.SettlesBy heard t := by
  obtain ⟨r, rfl⟩ := stepDeliver_eq stepped
  have idle' : (s.posted box n mail).underWay n = none := idle
  exact .of_outline_left (outline_post (routes_offer s.post box n mail))
    (carryOn_endDelivery_settles idle' purpose target r)

end Messages

section Actors

inductive Replies (s : State) (a : Nat) : CorrelationId → Response → Prop
  | mk {x : Actor} {hook : Hook} {work : Work} {due : Duration} {id : CorrelationId}
    {requester : ComponentId} {reply : Reply} (here : s.actors[a]? = some x)
    (busy : x.phase = .busy hook work (some due)) (past : due ≤ s.clock)
    (effect : work.effect = .respond id requester reply) :
    Replies s a id ⟨id, ⟨x.name⟩, requester, reply, s.clock⟩

theorem perform_settles (s : State) (responder : ComponentId) (effect : Effect) :
    s.SettlesBy (fun id r => ∃ requester reply, effect = .respond id requester reply ∧
      r = ⟨id, responder, requester, reply, s.clock⟩) (s.perform responder effect) := by
  cases effect with
  | nothing => exact .refl s
  | respond id requester reply =>
    rw [perform]
    cases posted : s.respond id responder requester reply with
    | ok t =>
      refine (respond_settles posted).mono ?_
      rintro _ _ ⟨rfl, rfl⟩
      exact ⟨requester, reply, rfl, rfl⟩
    | error e => exact .refl s
  | answer caller outcome => exact .of_outline (outline_settleSlot s caller (.filled outcome))

theorem endHook_settles (s : State) (a : Nat) (actor : Actor) (hook : Hook) (work : Work) :
    s.SettlesBy (fun id r => ∃ requester reply, work.effect = .respond id requester reply ∧
      r = ⟨id, ⟨actor.name⟩, requester, reply, s.clock⟩) (s.endHook a actor hook work) := by
  unfold endHook
  generalize work.course.ending = ending
  have noted := outline_note s a (.ended hook ending)
  cases ending with
  | panicked text =>
    refine .of_outline ?_
    cases hook <;> simp
  | finished | failed =>
    refine .of_outline_left noted (.of_outline_right
      (perform_settles (s.note a (.ended hook _)) ⟨actor.name⟩ work.effect) ?_)
    cases hook <;> simp

theorem stepActor_settles {t : State} {a : Nat} (stepped : s.stepActor a = some t) :
    s.SettlesBy (s.Replies a) t := by
  unfold stepActor at stepped
  cases here : s.actors[a]? with
  | none =>
    rw [here] at stepped
    cases stepped
  | some actor =>
    rw [here] at stepped
    dsimp only at stepped
    cases phase : actor.phase with
    | ended ending =>
      rw [phase] at stepped
      cases stepped
    | busy hook work due =>
      rw [phase] at stepped
      cases due with
      | none => cases stepped
      | some due =>
        obtain ⟨past, same⟩ := Option.ite_none_right_eq_some.mp stepped
        cases same
        refine (s.endHook_settles a actor hook work).mono ?_
        rintro id _ ⟨requester, reply, effect, rfl⟩
        exact .mk here phase past effect
    | idle =>
      rw [phase] at stepped
      dsimp only at stepped
      by_cases stops : (actor.told || !s.isHeld a) = true
      · rw [if_pos stops] at stepped
        cases stepped
        exact .of_outline ((outline_begin _ a .postStop).trans (outline_post rfl))
      · rw [if_neg stops] at stepped
        cases taken : s.post.take? actor.box with
        | none =>
          rw [taken] at stepped
          cases stepped
        | some pair =>
          obtain ⟨mail, post⟩ := pair
          rw [taken] at stepped
          cases stepped
          exact .of_outline ((outline_begin _ a (.handle mail)).trans
            (outline_post (routes_take taken)))

theorem startActor_settles (s : State) (name : String) (preStart postStop : Course)
    (keep : String) : s.SettlesBy heard (s.startActor name preStart postStop keep).2 := by
  unfold startActor
  split
  · exact .of_outline (outline_answerNow s _)
  · exact .of_outline ((outline_enter rfl).trans
      (outline_createActor s name (.plain preStart postStop)))

theorem stopActor_settles (s : State) (a : Nat) : s.SettlesBy heard (s.stopActor a).2 := by
  refine .of_outline_left (outline_beginHalt s a) (.of_outline ?_)
  unfold stopActor
  generalize s.beginHalt a = halted
  obtain ⟨t, outcome⟩ := halted
  cases outcome with
  | none => exact outline_enter rfl
  | some r => exact outline_answerNow _ _

theorem tell_settles (s : State) (a : Nat) (mail : Mail) : s.SettlesBy heard (s.tell a mail).2 := by
  refine .of_outline_left (outline_post (routes_offer s.post (s.boxOf a) s.calls.length mail)) ?_
  unfold tell
  generalize s.post.offer (s.boxOf a) s.calls.length mail = offered
  obtain ⟨offer, post⟩ := offered
  cases offer with
  | waiting => exact .of_outline (outline_enter rfl)
  | accepted | refused => exact .of_outline (outline_answerNow _ _)

theorem invoke_settles (s : State) (a : Nat) (function : String) (args : List Value)
    (target : Option (ComponentId × String)) :
    s.SettlesBy heard (s.invoke a function args target).2 := by
  refine .of_outline_left (outline_post (routes_offer s.post (s.boxOf a) s.calls.length
    (.invoke function args s.calls.length))) ?_
  unfold invoke
  dsimp only
  generalize s.post.offer (s.boxOf a) s.calls.length (.invoke function args s.calls.length) =
    offered
  obtain ⟨offer, post⟩ := offered
  cases offer with
  | waiting | accepted => exact .of_outline (outline_enter rfl)
  | refused => exact .of_outline (outline_answerNow _ _)

theorem execute_settles (s : State) (id : ComponentId) (function : String) (args : List Value) :
    s.SettlesBy heard (s.execute id function args).2 := by
  unfold execute
  split
  · exact .of_outline (outline_answerNow s _)
  · split
    · exact .of_outline (outline_answerNow s _)
    · exact s.invoke_settles _ function args _

theorem stepCall_settles {t : State} {n : Nat} {c : Call}
    (here : s.calls[n]? = some (.running c)) (plain : c.isLifecycle = false)
    (stepped : s.stepCall n = some t) : s.SettlesBy heard t := by
  have idle : s.underWay n = none := by rw [underWay_of_running here, plain]; rfl
  have finished : ∀ (s' : State) (a : Answer), s'.outline = s.outline →
      s.SettlesBy heard (s'.finish n a) := by
    intro s' a same
    have idle' : s'.underWay n = none := (congrFun (congrArg Outline.underWay same) n).trans idle
    exact .of_outline ((outline_finish idle' a).trans same)
  rw [stepCall, here] at stepped
  dsimp only at stepped
  cases c with
  | deliver purpose target box mail => exact stepDeliver_settles idle stepped
  | await waiter =>
    simp only [stepAwait, Option.bind_eq_bind, Option.bind_eq_some_iff] at stepped
    obtain ⟨w, _, r, _, same⟩ := stepped
    cases same
    exact finished s _ rfl
  | tell a mail =>
    obtain ⟨answer, rfl⟩ := stepTell_eq stepped
    exact finished _ answer (outline_post (routes_offer s.post (s.boxOf a) n mail))
  | posting a mail target =>
    obtain ⟨next, goesOn, rfl⟩ := stepPosting_eq stepped
    have idle' : (s.posted (s.boxOf a) n mail).underWay n = none := idle
    have plain : ∀ c, next = .inl c → c.isLifecycle = false := fun c same => by
      rw [goesOn c same]
      rfl
    exact .of_outline ((outline_carryOn idle' plain).trans
      (outline_post (routes_offer s.post (s.boxOf a) n mail)))
  | invoked a slot target =>
    cases slot with
    | empty => cases stepped
    | lost | filled =>
      cases stepped
      exact finished s _ rfl
  | start a keep =>
    simp only [stepStart, Option.bind_eq_bind, Option.bind_eq_some_iff] at stepped
    obtain ⟨outcome, _, stepped⟩ := stepped
    cases outcome with
    | ok started =>
      cases stepped
      exact finished _ _ (outline_keep s keep a)
    | error e =>
      cases stepped
      exact finished s _ rfl
  | halt a =>
    simp only [stepHalt, Option.bind_eq_bind, Option.bind_eq_some_iff] at stepped
    obtain ⟨r, _, same⟩ := stepped
    cases same
    exact finished s _ rfl
  | spawn | stop | restartStop | restartSpawn | shutdown => cases plain

theorem settles_of_idle {t : State} {n : Nat} (idle : s.underWay n = none)
    (stepped : s.stepCall n = some t) : s.SettlesBy heard t := by
  cases running : s.calls[n]? with
  | none =>
    rw [stepCall, running] at stepped
    cases stepped
  | some state =>
    cases state with
    | returned time answer =>
      rw [stepCall, running] at stepped
      cases stepped
    | running c =>
      refine stepCall_settles running ?_ stepped
      rw [underWay_of_running running] at idle
      cases lifecycle : c.isLifecycle with
      | false => rfl
      | true =>
        rw [lifecycle] at idle
        cases idle

end Actors

section After

/-- The responses that may come with an act: the one that is given past the host, or the one of an
actor that is done with a request. -/
def Hears (s : State) : Act → CorrelationId → Response → Prop
  | .respond id responder requester reply, k, r =>
    k = id ∧ r = ⟨id, responder, requester, reply, s.clock⟩
  | .move (.actor a), k, r => s.Replies a k r
  | _, _, _ => False

def Act.settling : Act → Prop
  | .post .. | .sendMessage .. | .respond .. | .expire _ | .cancel .. | .cleanup _ | .sweep
  | .startActor .. | .stopActor _ | .tell .. | .invoke .. | .execute .. | .release _
  | .install _ | .take _ | .close _ | .discard _ => True
  | .move _ | .wait _ | .sendRequest .. | .abandon _ | .route .. | .unroute _ | .unrouteFrom ..
  | .spawn .. | .stop _ | .restart _ | .shutdown => False

theorem settles_after {v : Act} (settling : v.settling) : s.SettlesBy (s.Hears v) (s.after v) := by
  cases v with
  | post target mail => exact s.deliver_settles .bare target mail
  | sendMessage sender target payload =>
    exact s.deliver_settles .message target (.message sender payload)
  | respond id responder requester reply =>
    rw [after]
    split
    case h_1 t posted => exact respond_settles posted
    case h_2 => exact .refl s
  | expire id => exact s.settles_settled (.expire id) trivial
  | cancel id failure => exact s.settles_settled (.cancel id failure) trivial
  | cleanup c => exact s.settles_settled (.cleanup c) trivial
  | sweep => exact s.settles_settled .sweep trivial
  | startActor name preStart postStop keep => exact s.startActor_settles name preStart postStop keep
  | stopActor a => exact s.stopActor_settles a
  | tell a mail => exact s.tell_settles a mail
  | invoke a function args => exact s.invoke_settles a function args none
  | execute id function args => exact s.execute_settles id function args
  | take box =>
    refine .of_outline (outline_post ?_)
    cases taken : s.post.take? box with
    | none => rfl
    | some pair => exact routes_take taken
  | install | close | discard | release => exact .of_outline rfl
  | _ => exact settling.elim

theorem sendRequest_settles (s : State) (sender target : ComponentId) (payload : Bytes)
    (timeout? : Option Duration) (awaited : Bool) :
    SettlesBy heard
      (s.openExchange sender target (timeout?.getD s.config.messaging.requestTimeout)).2.2
      (s.after (.sendRequest sender target payload timeout? awaited)) :=
  deliver_settles _ _ target _

end After

end ComponentHost.State
