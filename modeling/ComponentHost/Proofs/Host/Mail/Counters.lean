import ComponentHost.Proofs.Host.Mail.PostingRuns

/-! The counters of a host's messaging. An act that ends a posting, or gives a response that finds
its exchange pending, moves one of them by one; nothing else touches them. -/

namespace ComponentHost

namespace Mail

def isMessage : Mail → Bool
  | message .. => true
  | chore .. | request .. | invoke .. => false

def isRequest : Mail → Bool
  | request .. => true
  | chore .. | message .. | invoke .. => false

end Mail

def Actor.responds? (x : Actor) (now : Duration) : Option Response :=
  match x.phase with
  | .busy _ ⟨⟨_, ending⟩, .respond id requester reply⟩ (some due) =>
    match ending with
    | .panicked _ => none
    | .finished | .failed _ =>
      if due ≤ now then some ⟨id, ⟨x.name⟩, requester, reply, now⟩ else none
  | _ => none

namespace State

variable {s t : State} {v : Act} {a : Nat}

def responds? (s : State) : Act → Option Response
  | .respond id responder requester reply => some ⟨id, responder, requester, reply, s.clock⟩
  | .move (.actor a) => s.actors[a]?.bind (·.responds? s.clock)
  | _ => none

section Frame

@[simp] theorem stats_carryOn (s : State) (n : Nat) (next : Call ⊕ Answer) :
    (s.carryOn n next).stats = s.stats := by
  rw [carryOn_eq]

@[simp] theorem stats_enterOrAnswer (s : State) (next : Call ⊕ Answer) :
    (s.enterOrAnswer next).2.stats = s.stats := by
  rw [enterOrAnswer_eq]

@[simp] theorem stats_workFor (s : State) (role : Role) (hook : Hook) :
    (s.workFor role hook).2.stats = s.stats := by
  rw [workFor_snd]

@[simp] theorem stats_begin (s : State) (a : Nat) (hook : Hook) :
    (s.begin a hook).stats = s.stats := by
  unfold begin
  split
  · rfl
  · exact s.stats_workFor _ hook

@[simp] theorem stats_createActor (s : State) (name : String) (role : Role) :
    (s.createActor name role).2.stats = s.stats :=
  stats_begin _ _ _

@[simp] theorem stats_loseMail (s : State) (mail : Mail) : (s.loseMail mail).stats = s.stats := by
  cases mail <;> rfl

@[simp] theorem stats_loseMails (s : State) (mails : List Mail) :
    (mails.foldl loseMail s).stats = s.stats := by
  induction mails generalizing s with
  | nil => rfl
  | cons mail mails ih => rw [List.foldl_cons, ih, stats_loseMail]

@[simp] theorem stats_bury (s : State) (a : Nat) (ending : Ending) :
    (s.bury a ending).stats = s.stats := by
  unfold bury
  split
  · rfl
  · exact stats_loseMails _ _

@[simp] theorem stats_beginHalt (s : State) (a : Nat) : (s.beginHalt a).1.stats = s.stats := by
  rw [beginHalt_fst]
  rfl

@[simp] theorem stats_beginStop (s : State) (id : ComponentId) :
    (s.beginStop id).1.stats = s.stats := by
  obtain ⟨_, _, same⟩ | ⟨a, _, ⟨_, same⟩ | ⟨_, same⟩⟩ := s.beginStop_cases id <;> rw [same]
  · exact stats_beginHalt ({ s with post := s.post.unroute id }.dropPending id) a
  · exact stats_beginHalt ({ s with post := s.post.unroute id }.dropPending id) a

@[simp] theorem stats_drain (ids : List ComponentId) (s : State) :
    (s.drain ids).1.stats = s.stats :=
  drain_induction (P := (·.stats = s.stats)) rfl fun t id _ same =>
    (t.stats_beginStop id).trans same

theorem stats_stepSpawn {sp : Spawn} {r : Spawn ⊕ Except HostError Nat}
    (stepped : s.stepSpawn sp = .next t r) : t.stats = s.stats := by
  unfold stepSpawn at stepped
  cases stage : sp.stage with
  | loading =>
    rw [stage] at stepped
    dsimp only at stepped
    split at stepped
    · cases stepped
      rfl
    · split at stepped
      · cases stepped
      · cases stepped
        exact stats_createActor { s with loads := s.loads + 1 } _ _
  | starting a =>
    rw [stage] at stepped
    dsimp only at stepped
    split at stepped
    · cases stepped
    · cases stepped
      rfl
    · unfold seat at stepped
      split at stepped
      · cases stepped
        exact s.stats_beginHalt a
      · cases stepped
        cases sp.keep <;> rfl
  | discarding a =>
    rw [stage] at stepped
    dsimp only at stepped
    split at stepped
    · cases stepped
    · cases stepped
      rfl

theorem stats_stepSpawning {n : Nat} {wrap : Spawn → Call} {answer : Except HostError Nat → Answer}
    {sp : Spawn} (stepped : s.stepSpawning n wrap answer sp = some t) : t.stats = s.stats := by
  unfold stepSpawning at stepped
  split at stepped
  case h_1 => cases stepped
  case h_2 =>
    cases stepped
    rfl
  case h_3 u sp' step =>
    cases stepped
    exact stats_stepSpawn (t := u) step
  case h_4 u r step =>
    cases stepped
    exact stats_stepSpawn (t := u) step

theorem stats_stepCall {n : Nat} (other : s.delivering? n = none)
    (stepped : s.stepCall n = some t) : t.stats = s.stats := by
  cases here : s.calls[n]? with
  | none =>
    rw [stepCall, here] at stepped
    cases stepped
  | some state =>
    cases state with
    | returned time answer =>
      rw [stepCall, here] at stepped
      cases stepped
    | running c =>
      rw [stepCall, here] at stepped
      dsimp only at stepped
      cases c with
      | deliver purpose target box mail =>
        rw [delivering?, here] at other
        cases other
      | await waiter =>
        simp only [stepAwait, Option.bind_eq_bind, Option.bind_eq_some_iff] at stepped
        obtain ⟨w, _, r, _, same⟩ := stepped
        cases same
        rfl
      | tell a mail =>
        obtain ⟨answer, rfl⟩ := stepTell_eq stepped
        rfl
      | posting a mail target =>
        obtain ⟨next, _, rfl⟩ := stepPosting_eq stepped
        exact stats_carryOn _ n next
      | invoked a slot target => cases slot <;> cases stepped <;> rfl
      | start a keep =>
        simp only [stepStart, Option.bind_eq_bind, Option.bind_eq_some_iff] at stepped
        obtain ⟨outcome, _, stepped⟩ := stepped
        cases outcome <;> cases stepped <;> rfl
      | halt a =>
        simp only [stepHalt, Option.bind_eq_bind, Option.bind_eq_some_iff] at stepped
        obtain ⟨r, _, same⟩ := stepped
        cases same
        rfl
      | spawn sp => exact stats_stepSpawning ((s.stepSpawnCall_eq n sp).symm.trans stepped)
      | restartSpawn sp =>
        exact stats_stepSpawning ((s.stepRestartSpawn_eq n sp).symm.trans stepped)
      | stop st =>
        simp only [stepStopCall, Option.bind_eq_bind, Option.bind_eq_some_iff] at stepped
        obtain ⟨⟨u, r⟩, finished, same⟩ := stepped
        cases same
        obtain rfl := stepStop_eq finished
        rfl
      | restartStop st o =>
        simp only [stepRestartStop, Option.bind_eq_bind, Option.bind_eq_some_iff] at stepped
        obtain ⟨⟨u, r⟩, finished, stepped⟩ := stepped
        obtain rfl := stepStop_eq finished
        dsimp only at stepped
        split at stepped <;> cases stepped <;> rfl
      | shutdown st rest =>
        rw [stepShutdown_eq stepped, stats_carryOn]
        exact stats_drain rest (s.endStop st.id)

theorem stats_startActor (s : State) (name : String) (preStart postStop : Course) (keep : String) :
    (s.startActor name preStart postStop keep).2.stats = s.stats := by
  unfold startActor
  split
  · rfl
  · exact s.stats_createActor name (.plain preStart postStop)

theorem stats_stopActor (s : State) (a : Nat) : (s.stopActor a).2.stats = s.stats := by
  have same := s.stats_beginHalt a
  unfold stopActor
  generalize s.beginHalt a = halted at same ⊢
  obtain ⟨t, outcome⟩ := halted
  cases outcome <;> exact same

theorem stats_tell (s : State) (a : Nat) (mail : Mail) : (s.tell a mail).2.stats = s.stats := by
  unfold tell
  dsimp only
  split <;> rfl

theorem stats_invoke (s : State) (a : Nat) (function : String) (args : List Value)
    (target : Option (ComponentId × String)) :
    (s.invoke a function args target).2.stats = s.stats := by
  unfold invoke
  dsimp only
  split <;> rfl

theorem stats_execute (s : State) (id : ComponentId) (function : String) (args : List Value) :
    (s.execute id function args).2.stats = s.stats := by
  unfold execute
  split
  · rfl
  · split
    · rfl
    · exact s.stats_invoke _ function args _

theorem stats_spawnComponent (s : State) (o : Order) (keep : Option String) :
    (s.spawnComponent o keep).2.stats = s.stats := by
  unfold spawnComponent
  split <;> rfl

theorem stats_stopComponent (s : State) (id : ComponentId) :
    (s.stopComponent id).2.stats = s.stats := by
  cases started : s.started with
  | false =>
    rw [stopComponent_of_not_started started]
    rfl
  | true =>
    rw [stopComponent_of_started started, stats_enterOrAnswer]
    exact s.stats_beginStop id

theorem stats_restartComponent (s : State) (o : Order) :
    (s.restartComponent o).2.stats = s.stats := by
  cases started : s.started with
  | false =>
    rw [restartComponent_of_not_started started]
    rfl
  | true =>
    rw [restartComponent_of_started started]
    split <;> simp

theorem stats_shutdown (s : State) : s.shutdown.2.stats = s.stats := by
  cases started : s.started with
  | false =>
    rw [shutdown, started]
    rfl
  | true =>
    rw [shutdown_eq started, stats_enterOrAnswer]
    exact stats_drain s.roster.ids { s with started := false }

end Frame

section Response

variable {r : Response}

def gave (s : State) (r : Response) : State :=
  { s with
    ledger := s.ledger.attempt (·.resolve r.id r)
    stats.responsesDelivered :=
      s.stats.responsesDelivered + (s.ledger.pending.get? r.id).toList.length }

theorem perform_respond (s : State) (id : CorrelationId) (responder requester : ComponentId)
    (reply : Reply) : s.perform responder (.respond id requester reply) =
      s.gave ⟨id, responder, requester, reply, s.clock⟩ := by
  cases pending : s.ledger.pending.get? id <;>
    simp [perform, respond, gave, Ledger.attempt, Ledger.resolve, pending]

@[simp] theorem ledger_bury (s : State) (a : Nat) (ending : Ending) :
    (s.bury a ending).ledger = s.ledger :=
  congrArg Outline.ledger (outline_bury s a ending)

theorem endHook_performs (s : State) (a : Nat) (x : Actor) (hook : Hook) (work : Work) :
    let u := match work.course.ending with
      | .panicked _ => s
      | .finished | .failed _ => s.perform ⟨x.name⟩ work.effect
    (s.endHook a x hook work).stats = u.stats ∧ (s.endHook a x hook work).ledger = u.ledger := by
  have noted : ∀ m : Moment, ((s.note a m).perform ⟨x.name⟩ work.effect).stats =
      (s.perform ⟨x.name⟩ work.effect).stats ∧ ((s.note a m).perform ⟨x.name⟩ work.effect).ledger =
        (s.perform ⟨x.name⟩ work.effect).ledger := by
    intro m
    cases work.effect with
    | nothing | answer => exact ⟨rfl, rfl⟩
    | respond id requester reply =>
      rw [perform_respond, perform_respond]
      exact ⟨rfl, rfl⟩
  have buried : ∀ {t : State} (ending : Ending) (u : State), t.stats = u.stats ∧
      t.ledger = u.ledger →
        (t.bury a ending).stats = u.stats ∧ (t.bury a ending).ledger = u.ledger :=
    fun ending _ same =>
      ⟨(stats_bury _ a ending).trans same.1, (ledger_bury _ a ending).trans same.2⟩
  unfold endHook
  generalize work.course.ending = ending
  cases ending with
  | panicked text =>
    refine buried _ s ?_
    cases hook with
    | handle mail =>
      exact ⟨stats_loseMail _ mail, congrArg Outline.ledger (outline_loseMail (s.note a _) mail)⟩
    | preStart | postStop => exact ⟨rfl, rfl⟩
  | finished =>
    cases hook with
    | preStart | handle => exact noted _
    | postStop => exact buried .finished _ (noted _)
  | failed reason =>
    cases hook with
    | preStart => exact buried .finished _ (noted _)
    | handle => exact noted _
    | postStop => exact buried (.failed reason) _ (noted _)

theorem endHook_gives {x : Actor} {hook : Hook} {work : Work} {due : Duration}
    (busy : x.phase = .busy hook work (some due)) (past : due ≤ s.clock) :
    (∀ r, x.responds? s.clock = some r → (s.endHook a x hook work).stats = (s.gave r).stats ∧
        (s.endHook a x hook work).ledger = (s.gave r).ledger) ∧
      (x.responds? s.clock = none → (s.endHook a x hook work).stats = s.stats ∧
        (s.endHook a x hook work).ledger = s.ledger) := by
  have performs := s.endHook_performs a x hook work
  obtain ⟨⟨span, ending⟩, effect⟩ := work
  rw [Actor.responds?, busy]
  cases effect with
  | nothing | answer =>
    refine ⟨fun r given => (nomatch given), fun _ => ⟨performs.1.trans ?_, performs.2.trans ?_⟩⟩ <;>
      cases ending <;> rfl
  | respond id requester reply =>
    cases ending with
    | panicked text => exact ⟨fun r given => (nomatch given), fun _ => performs⟩
    | finished | failed =>
      simp only [if_pos past, perform_respond] at performs ⊢
      refine ⟨fun r given => ?_, fun silent => (nomatch silent)⟩
      cases given
      exact performs

theorem stepActor_gives (stepped : s.stepActor a = some t) :
    (∀ r, s.responds? (.move (.actor a)) = some r →
        t.stats = (s.gave r).stats ∧ t.ledger = (s.gave r).ledger) ∧
      (s.responds? (.move (.actor a)) = none → t.stats = s.stats ∧ t.ledger = s.ledger) := by
  unfold stepActor at stepped
  cases here : s.actors[a]? with
  | none =>
    rw [here] at stepped
    cases stepped
  | some x =>
    rw [here] at stepped
    rw [responds?, here, Option.bind_some]
    dsimp only at stepped
    cases phase : x.phase with
    | ended ending =>
      rw [phase] at stepped
      cases stepped
    | busy hook work due =>
      rw [phase] at stepped
      cases due with
      | none => cases stepped
      | some due =>
        obtain ⟨past, same⟩ := Option.ite_none_right_eq_some.mp stepped
        cases same
        exact endHook_gives phase past
    | idle =>
      rw [phase] at stepped
      rw [Actor.responds?, phase]
      refine ⟨fun r given => (nomatch given), fun _ => ?_⟩
      dsimp only at stepped
      split at stepped
      · cases stepped
        exact ⟨stats_begin _ a .postStop, congrArg Outline.ledger (outline_begin _ a .postStop)⟩
      · split at stepped
        · cases stepped
        · cases stepped
          exact ⟨stats_begin _ a _, congrArg Outline.ledger (outline_begin _ a _)⟩

end Response

section Count

/-- What an act does to the counters: it notes the end of a posting or a response whose exchange is
pending, or leaves them as they are. -/
inductive Counts (s : State) (v : Act) (t : State) : Prop
  | ends {d : Delivery} {r : Except PostError Unit} (ends : s.ending? v = some (d, r))
    (silent : s.responds? v = none) (stats : t.stats = s.stats.noting d.purpose r)
  | responds {r : Response} (rests : s.ending? v = none) (gives : s.responds? v = some r)
    (stats : t.stats = (s.gave r).stats)
  | rests (rests : s.ending? v = none) (silent : s.responds? v = none) (stats : t.stats = s.stats)

theorem responds?_of_closed {m : Move} (closed : s.step m = none) :
    s.responds? (.move m) = none := by
  cases m with
  | actor a =>
    cases here : s.actors[a]? with
    | none => rw [responds?, here, Option.bind_none]
    | some x =>
      rw [responds?, here, Option.bind_some, Actor.responds?]
      split
      · rename_i hook span ending id requester reply due busy
        cases ending with
        | panicked => rfl
        | finished | failed =>
          refine if_neg fun past => ?_
          rw [step, stepActor, here] at closed
          simp only [busy, if_pos past] at closed
          cases closed
      · rfl
  | alarm | enroll | call => rfl

theorem move_counts {m : Move} (other : s.delivery? (.move m) = none) :
    s.Counts (.move m) (s.after (.move m)) := by
  have rests : s.ending? (.move m) = none := by rw [ending?, other]; rfl
  rw [after]
  cases stepped : s.step m with
  | none => exact .rests rests (responds?_of_closed stepped) rfl
  | some t =>
    rw [Option.getD_some]
    cases m with
    | alarm number =>
      obtain ⟨_, _, _, rfl⟩ := stepAlarm_eq stepped
      exact .rests rests rfl rfl
    | enroll i =>
      obtain ⟨_, _, rfl⟩ := enroll_eq stepped
      exact .rests rests rfl rfl
    | call n => exact .rests rests rfl (stats_stepCall other stepped)
    | actor a =>
      obtain ⟨responds, silent⟩ := stepActor_gives stepped
      cases gives : s.responds? (.move (.actor a)) with
      | none => exact .rests rests gives (silent gives).1
      | some r => exact .responds rests gives (responds r gives).1

theorem after_counts (s : State) (v : Act) : s.Counts v (s.after v) := by
  cases attempts : s.delivery? v with
  | some d =>
    have silent : s.responds? v = none := by
      cases v with
      | move m => cases m <;> first | rfl | cases attempts
      | post | sendMessage | sendRequest => rfl
      | _ => cases attempts
    cases after_attempts attempts with
    | waits result _ stats =>
      exact .rests (by rw [ending?, attempts, Option.bind_some, result]; rfl) silent stats
    | ends result _ stats => exact .ends (ending?_eq_some.mpr ⟨attempts, result⟩) silent stats
  | none =>
    have rests : s.ending? v = none := by rw [ending?, attempts]; rfl
    cases v with
    | move m => exact move_counts attempts
    | respond id responder requester reply =>
      exact .responds rests rfl
        (congrArg State.stats (perform_respond s id responder requester reply))
    | startActor name preStart postStop keep =>
      exact .rests rests rfl (s.stats_startActor name preStart postStop keep)
    | stopActor a => exact .rests rests rfl (s.stats_stopActor a)
    | tell a mail => exact .rests rests rfl (s.stats_tell a mail)
    | invoke a function args => exact .rests rests rfl (s.stats_invoke a function args none)
    | spawn o keep => exact .rests rests rfl (s.stats_spawnComponent o keep)
    | stop id => exact .rests rests rfl (s.stats_stopComponent id)
    | restart o => exact .rests rests rfl (s.stats_restartComponent o)
    | shutdown => exact .rests rests rfl s.stats_shutdown
    | execute id function args => exact .rests rests rfl (s.stats_execute id function args)
    | post | sendMessage | sendRequest => cases attempts
    | wait | expire | cancel | cleanup | sweep | abandon | install | route | unroute | unrouteFrom
      | take | close | discard | release => exact .rests rests rfl rfl

end Count

section Sum

variable {acts : List Act} {d : Delivery}

@[simp] theorem messagesSent_noting (x : Stats) (purpose : Purpose) (r : Except PostError Unit) :
    (x.noting purpose r).messagesSent =
      x.messagesSent + if purpose.isMessage && r.isOk then 1 else 0 := by
  cases purpose <;> cases r <;> rfl

@[simp] theorem requestsSent_noting (x : Stats) (purpose : Purpose) (r : Except PostError Unit) :
    (x.noting purpose r).requestsSent =
      x.requestsSent + if purpose.isRequest && r.isOk then 1 else 0 := by
  cases purpose <;> cases r <;> rfl

@[simp] theorem routingFailures_noting (x : Stats) (purpose : Purpose)
    (r : Except PostError Unit) : (x.noting purpose r).routingFailures = x.routingFailures +
      if (purpose.isMessage || purpose.isRequest) && !r.isOk then 1 else 0 := by
  cases purpose <;> cases r <;> rfl

theorem stats_run (config : HostConfig) (engine : Engine) (acts : List Act) :
    let s := fresh config engine
    let stats := (s.run acts).stats
    stats.messagesSent =
        (s.endings acts).countP (fun p => p.1.purpose.isMessage && p.2.isOk) ∧
      stats.requestsSent =
        (s.endings acts).countP (fun p => p.1.purpose.isRequest && p.2.isOk) ∧
      stats.routingFailures = (s.endings acts).countP fun p =>
        (p.1.purpose.isMessage || p.1.purpose.isRequest) && !p.2.isOk := by
  intro s
  refine history_induction (P := fun acts =>
    (s.run acts).stats.messagesSent =
        (s.endings acts).countP (fun p => p.1.purpose.isMessage && p.2.isOk) ∧
      (s.run acts).stats.requestsSent =
        (s.endings acts).countP (fun p => p.1.purpose.isRequest && p.2.isOk) ∧
      (s.run acts).stats.routingFailures = (s.endings acts).countP fun p =>
        (p.1.purpose.isMessage || p.1.purpose.isRequest) && !p.2.isOk) ⟨rfl, rfl, rfl⟩ ?_
  rintro acts v _ ⟨messages, requests, failures⟩
  rw [run_concat, show s.endings (acts ++ [v]) = s.endings acts ++ _ from along_concat s acts v]
  cases (s.run acts).after_counts v with
  | @ends d r ends _ stats =>
    simp [stats, ends, List.countP_append, ← messages, ← requests, ← failures]
  | responds rests _ stats | rests rests _ stats =>
    rw [stats, rests, Option.toList_none, List.append_nil]
    exact ⟨messages, requests, failures⟩

/-- What can be said of a posting exactly if it has ended in a certain way is counted by its end. -/
theorem Forwards.count (forwards : s.Forwards acts) (kind : Purpose → Bool)
    {shown : Delivery → Bool} (how : Except PostError Unit → Bool)
    (shows : ∀ d ∈ s.begun acts, kind d.purpose = true →
      (shown d = true ↔ ∃ r, (d, r) ∈ s.endings acts ∧ how r = true)) :
    ((s.begun acts).filter fun d => kind d.purpose).countP shown =
      (s.endings acts).countP fun p => kind p.1.purpose && how p.2 := by
  have ends : ((s.endings acts).map Prod.fst).Nodup :=
    .of_map (·.number) (by rw [List.map_map]; exact forwards.once)
  have picked :
      (((s.endings acts).filter fun p => kind p.1.purpose && how p.2).map Prod.fst).Nodup :=
    (List.filter_sublist.map Prod.fst).nodup ends
  have begun : (((s.begun acts).filter fun d => kind d.purpose).filter shown).Nodup :=
    (forwards.distinct.of_map.filter _).filter _
  have same := ((List.perm_ext_iff_of_nodup begun picked).mpr fun d => ?_).length_eq
  · rw [List.countP_eq_length_filter, List.countP_eq_length_filter, same, List.length_map]
  · simp only [List.mem_filter, List.mem_map, Bool.and_eq_true, Prod.exists, exists_and_right,
      exists_eq_right]
    constructor
    · rintro ⟨⟨mem, kind⟩, shown⟩
      obtain ⟨r, ended, how⟩ := (shows d mem kind).mp shown
      exact ⟨r, ended, kind, how⟩
    · rintro ⟨r, ended, kind, how⟩
      have mem := (forwards.ended _ ended).1
      exact ⟨⟨mem, kind⟩, (shows d mem kind).mpr ⟨r, ended, how⟩⟩

theorem mail_of_begun (mem : d ∈ s.begun acts) :
    (d.purpose.isMessage = true → d.mail.isMessage = true) ∧
      (d.purpose.isRequest = true → d.mail.isRequest = true) := by
  obtain ⟨before, v, _, _, begins⟩ := mem_along.mp mem
  cases v with
  | post | sendMessage | sendRequest =>
    obtain rfl := Option.some.inj begins
    simp [begins?.posting, Purpose.isMessage, Purpose.isRequest, Mail.isMessage, Mail.isRequest]
  | _ => cases begins

theorem count_intake (config : HostConfig) (engine : Engine) (acts : List Act)
    (kind : Purpose → Bool) (mailKind : Mail → Bool)
    (fits : ∀ d ∈ (fresh config engine).begun acts,
      kind d.purpose = true → mailKind d.mail = true) :
    let s := fresh config engine
    (s.intake acts).countP (fun e =>
        e.sender ∈ ((s.begun acts).filter fun d => kind d.purpose).map (·.number) &&
          mailKind e.mail) =
      (s.endings acts).countP fun p => kind p.1.purpose && p.2.isOk := by
  intro s
  have forwards : s.Forwards acts := forwards_run config engine acts
  generalize named : ((s.begun acts).filter fun d => kind d.purpose).map (·.number) = numbers
  have own : ∀ d ∈ s.begun acts, d.number ∈ numbers ↔ kind d.purpose = true := by
    intro d mem
    rw [← named, List.mem_map]
    constructor
    · rintro ⟨d', mem', same⟩
      obtain ⟨mem', kind'⟩ := List.mem_filter.mp mem'
      exact forwards.eq_of_number mem' mem same ▸ kind'
    · exact fun kind => ⟨d, List.mem_filter.mpr ⟨mem, kind⟩, rfl⟩
  have served : ∀ n ∈ numbers, n ∈ (s.begun acts).map (·.number) := by
    rw [← named]
    exact List.map_subset _ List.filter_sublist.subset
  calc
    (s.intake acts).countP (fun e => e.sender ∈ numbers && mailKind e.mail)
      = ((s.intake acts).filter fun e => e.sender ∈ (s.begun acts).map (·.number)).countP
          (fun e => e.sender ∈ numbers && mailKind e.mail) := by
      rw [List.countP_filter]
      refine List.countP_congr fun e _ => ?_
      have served := served e.sender
      simp only [Bool.and_eq_true, decide_eq_true_eq]
      tauto
    _ = (s.endings acts).countP fun p => kind p.1.purpose && p.2.isOk := by
      rw [intake_of_begun config engine acts, List.countP_filterMap]
      refine List.countP_congr ?_
      rintro ⟨d, r⟩ ended
      have mem := (forwards.ended _ ended).1
      cases r with
      | error e => simp [Delivery.entrant?, Except.isOk, Except.toBool]
      | ok =>
        obtain ⟨box, route⟩ := routed_of_ended ended
        have fits := fits d mem
        have own := own d mem
        simp only [Delivery.entrant?, route, Option.map_some, Option.getD_some, Bool.and_eq_true,
          decide_eq_true_eq, Except.isOk, Except.toBool, and_true]
        tauto

theorem isOk_iff {r : Except PostError Unit} : r.isOk = true ↔ r = .ok () := by
  cases r <;> simp [Except.isOk, Except.toBool]

theorem sum_of_kinds (ends : List (Delivery × Except PostError Unit)) :
    ends.countP (fun p => p.1.purpose.isMessage && p.2.isOk) +
          ends.countP (fun p => p.1.purpose.isRequest && p.2.isOk) +
        ends.countP (fun p => (p.1.purpose.isMessage || p.1.purpose.isRequest) && !p.2.isOk) =
      ends.countP (fun p => p.1.purpose.isMessage && true) +
        ends.countP fun p => p.1.purpose.isRequest && true := by
  induction ends with
  | nil => rfl
  | cons p ends ih =>
    have apart : p.1.purpose.isMessage = false ∨ p.1.purpose.isRequest = false := by
      cases p.1.purpose <;> simp [Purpose.isMessage, Purpose.isRequest]
    simp only [List.countP_cons]
    generalize p.1.purpose.isMessage = message, p.1.purpose.isRequest = request, p.2.isOk = ok
      at apart ⊢
    cases message <;> cases request <;> cases ok <;> simp at apart ih ⊢ <;> omega

/-- The counters of what was sent add up in every state, however routes change and mailboxes fill,
empty and close meanwhile: they count the messages whose calls returned well, the messages and the
requests that mailboxes let in from them, and the postings of both kinds that have ended. -/
theorem sends_add_up (config : HostConfig) (engine : Engine) (acts : List Act) :
    let s := fresh config engine
    let t := s.run acts
    let messages := (s.begun acts).filter (·.purpose.isMessage)
    let requests := (s.begun acts).filter (·.purpose.isRequest)
    t.stats.messagesSent =
        messages.countP (fun d => t.answer? d.number = some (.posted (.ok ()))) ∧
      t.stats.messagesSent = (s.intake acts).countP (fun e =>
        e.sender ∈ messages.map (·.number) && e.mail.isMessage) ∧
      t.stats.requestsSent = (s.intake acts).countP (fun e =>
        e.sender ∈ requests.map (·.number) && e.mail.isRequest) ∧
      t.stats.messagesSent + t.stats.requestsSent + t.stats.routingFailures =
        (messages ++ requests).countP fun d => t.delivering? d.number = none := by
  intro s t messages requests
  have forwards : s.Forwards acts := forwards_run config engine acts
  obtain ⟨sent, requested, failed⟩ := stats_run config engine acts
  have ended : ∀ kind : Purpose → Bool, ((s.begun acts).filter fun d => kind d.purpose).countP
      (fun d => t.delivering? d.number = none) =
        (s.endings acts).countP fun p => kind p.1.purpose && true := fun kind =>
    forwards.count kind (fun _ => true) fun d mem _ => by
      rw [decide_eq_true_eq, forwards.ended_iff mem]
      simp
  refine ⟨sent.trans (Eq.symm ?_), sent.trans (Eq.symm ?_), requested.trans (Eq.symm ?_), ?_⟩
  · refine forwards.count (·.isMessage) _ fun d mem kind => ?_
    have plain : ∀ r, d.purpose.next r = .inr (.posted r) := by
      cases purpose : d.purpose <;> rw [purpose] at kind <;> first | exact fun _ => rfl | cases kind
    rw [decide_eq_true_eq, forwards.answered_iff mem plain]
    simp [isOk_iff]
  · exact count_intake config engine acts (·.isMessage) (·.isMessage) fun d mem =>
      (mail_of_begun mem).1
  · exact count_intake config engine acts (·.isRequest) (·.isRequest) fun d mem =>
      (mail_of_begun mem).2
  · rw [List.countP_append, ended (·.isMessage), ended (·.isRequest), sent, requested, failed]
    exact sum_of_kinds _

end Sum

end State

end ComponentHost
