import ComponentHost.Proofs.Host.Exchange.AlarmGuard
import ComponentHost.Proofs.Host.Act.Actors
import ComponentHost.Proofs.Host.Act.Calls

/-! A request whose outcome is awaited. When its time is up the outcome is there, but the call comes
to it only once its mail has been taken in or refused: a call that stands in line at a full mailbox
stays there, past its deadline too. -/

namespace ComponentHost.State

variable {s : State} {v : Act}

section Line

/-- Nobody stands in line at any mailbox while there is room. -/
def Tight (s : State) : Prop := ∀ (i : Nat) (b : Mailbox Mail),
  s.post.boxes[i]? = some b → b.Tight

theorem Tight.after (tight : s.Tight) (v : Act) : (s.after v).Tight := by
  intro i b' there
  obtain ⟨b, here, handles⟩ | ⟨capacity, rfl⟩ := (s.after_plays v).box_cases there
  · have before := tight i b here
    cases handles with
    | rests _ => exact before
    | offered _ => exact before.offer _ _
    | drawn _ _ drawn => exact before.drawn drawn
  · exact Mailbox.tight_of_empty rfl

theorem Tight.run (tight : s.Tight) (acts : List Act) : (s.run acts).Tight :=
  run_induction (P := State.Tight) tight fun _ v _ tight => tight.after v

theorem sender_of_offers {i sender : Nat} {mail : Mail}
    (offered : s.offers? v = some (i, sender, mail)) :
    v = .move (.call sender) ∨ sender = s.calls.length := by
  have toward : ∀ {target : ComponentId} {m : Mail},
      offers?.toward s target m = some (i, sender, mail) → sender = s.calls.length := by
    intro target m found
    obtain ⟨_, _, same⟩ := Option.map_eq_some_iff.mp found
    cases same
    rfl
  cases v with
  | move m =>
    cases m with
    | call n =>
      rw [offers?] at offered
      split at offered
      case h_4 => cases offered
      all_goals
        cases offered
        exact .inl rfl
    | _ => cases offered
  | post | sendMessage | sendRequest => exact .inr (toward offered)
  | tell | invoke =>
    cases offered
    exact .inr rfl
  | execute id function args =>
    rw [offers?] at offered
    split at offered
    · obtain ⟨_, _, same⟩ := Option.map_eq_some_iff.mp offered
      cases same
      exact .inr rfl
    · cases offered
  | _ => cases offered

end Line

section Wait

variable {n w : Nat} {id : CorrelationId}

/-- How far call `n` has come, which asks for the outcome of an exchange: it waits to put its mail
in, or for what waiter `w` is handed, or has returned. -/
inductive Asking (s : State) (n : Nat) (id : CorrelationId) (w : Nat) : Prop
  | posts {target : ComponentId} {box : Nat} {mail : Mail} {b : Mailbox Mail}
    (call : s.calls[n]? = some (.running (.deliver (.request id w true) target box mail)))
    (here : s.post.boxes[box]? = some b) (waits : b.Waits n)
  | awaits (call : s.calls[n]? = some (.running (.await w)))
  | returned {time : Duration} {answer : Answer}
    (call : s.calls[n]? = some (.returned time answer))

theorem asking_of_endDelivery {t u : State} {time : Duration} {target : ComponentId}
    {r : Except PostError Unit}
    (call : t.calls[n]? =
      some (CallState.ofNext time (u.endDelivery (.request id w true) target r).2)) :
    t.Asking n id w := by
  cases r with
  | ok posted => exact .awaits call
  | error e => exact .returned call

theorem Asking.step (asking : s.Asking n id w) {t : State} (stepped : s.stepCall n = some t) :
    t.Asking n id w := by
  cases asking with
  | posts call here waits =>
    have known := (List.getElem?_eq_some_iff.mp call).1
    rw [stepCall, call] at stepped
    obtain ⟨r, rfl⟩ := stepDeliver_eq stepped
    refine asking_of_endDelivery (calls_carryOn_self ?_ _)
    rw [calls_endDelivery]
    exact known
  | awaits call =>
    have known := (List.getElem?_eq_some_iff.mp call).1
    rw [stepCall, call] at stepped
    simp only [stepAwait, Option.bind_eq_bind, Option.bind_eq_some_iff] at stepped
    obtain ⟨x, _, r, _, same⟩ := stepped
    cases same
    exact .returned (List.getElem?_set_self known)
  | returned call =>
    rw [stepCall, call] at stepped
    cases stepped

theorem Asking.after (asking : s.Asking n id w) (v : Act) : (s.after v).Asking n id w := by
  by_cases own : v = .move (.call n)
  · subst own
    rw [State.after, State.step]
    cases stepped : s.stepCall n with
    | none => exact asking
    | some t => exact asking.step stepped
  · cases asking with
    | posts call here waits =>
      have known := (List.getElem?_eq_some_iff.mp call).1
      obtain ⟨b', there, handles⟩ := (s.after_plays v).box here
      refine .posts (calls_after (fun _ => rfl) call own) there ?_
      cases handles with
      | rests _ => exact waits
      | drawn _ _ drawn => exact waits.drawn drawn
      | offered offered =>
        refine waits.offer ?_ _
        rintro rfl
        obtain move | last := sender_of_offers offered
        · exact own move
        · omega
    | awaits call => exact .awaits (calls_after (fun _ => rfl) call own)
    | returned call => exact .returned (calls_after (fun _ => rfl) call own)

theorem Asking.run (asking : s.Asking n id w) (acts : List Act) : (s.run acts).Asking n id w :=
  run_induction (P := (·.Asking n id w)) asking fun _ v _ asking => asking.after v

theorem deliver_asking (s : State) (target : ComponentId) (mail : Mail) :
    (s.deliver (.request id w true) target mail).2.Asking s.calls.length id w := by
  have ended : ∀ {u : State} (r : Except PostError Unit), u.calls = s.calls →
      ((u.endDelivery (.request id w true) target r).1.enterOrAnswer
        (u.endDelivery (.request id w true) target r).2).2.Asking s.calls.length id w := by
    intro u r same
    refine asking_of_endDelivery (calls_enterOrAnswer_last ?_ _)
    rw [calls_endDelivery, same]
  unfold deliver
  cases s.post.routes.get? target with
  | none => exact ended (.error (.targetNotFound target.name)) rfl
  | some box =>
    dsimp only
    cases here : s.post.boxes[box]? with
    | none =>
      rw [PostOffice.offer, here]
      exact ended (.error (.mailboxClosed target)) rfl
    | some b =>
      rw [offer_of_box here]
      dsimp only
      cases offer : (b.offer s.calls.length mail).1 with
      | accepted => exact ended (.ok ()) rfl
      | refused => exact ended (.error (.mailboxClosed target)) rfl
      | waiting =>
        refine .posts (List.getElem?_concat_length) (List.getElem?_set_self ?_)
          (Mailbox.waits_of_waiting offer)
        exact (List.getElem?_eq_some_iff.mp here).1

end Wait

section Outcome

variable {id : CorrelationId} {w : Nat} {since timeout : Duration}

theorem owes_after (guarded : s.Guarded) (owes : s.ledger.Owes id w since timeout)
    (stays : v ≠ .abandon w) : (s.after v).ledger.Owes id w since timeout := by
  cases s.after_deals v with
  | dwindles dwindles => exact owes.dwindles dwindles.1
  | opens asked dwindles =>
    have free : s.ledger.pending.get? (.issued s.issued) = none := Ledger.Guarded.free guarded
    refine Ledger.Owes.dwindles ?_ dwindles.1
    obtain ⟨ledger, opened, entered, _, waiters⟩ := s.openExchange_eq free _ _ _
    rw [opened]
    exact owes.opened free entered waiters
  | rings _ _ ledger _ =>
    rw [ledger]
    exact owes.ring s.clock _
  | abandons asked ledger _ =>
    rw [ledger]
    exact owes.abandon fun same => stays (by rw [asked, same])

theorem owes_run (guarded : s.Guarded) (owes : s.ledger.Owes id w since timeout)
    {acts : List Act} (stays : ∀ v ∈ acts, v ≠ .abandon w) :
    (s.run acts).ledger.Owes id w since timeout := by
  refine (run_induction (P := fun t => t.Guarded ∧ t.ledger.Owes id w since timeout)
    ⟨guarded, owes⟩ ?_).2
  rintro t v mem ⟨guarded, owes⟩
  exact ⟨guarded.after v, owes_after guarded owes (stays v mem)⟩

theorem sendRequest_begins (guarded : s.Guarded) (sender target : ComponentId) (payload : Bytes)
    (timeout? : Option Duration) :
    let t := s.after (.sendRequest sender target payload timeout? true)
    t.ledger.Owes (.issued s.issued) s.ledger.waiters.length s.clock
        (timeout?.getD s.config.messaging.requestTimeout) ∧
      t.Asking s.calls.length (.issued s.issued) s.ledger.waiters.length := by
  obtain ⟨ledger, opened, entered, _, waiters⟩ :=
    s.openExchange_eq (Ledger.Guarded.free guarded) sender target
      (timeout?.getD s.config.messaging.requestTimeout)
  have posted : s.after (.sendRequest sender target payload timeout? true) =
      ({ s with ledger, issued := s.issued + 1 }.deliver
        (.request (.issued s.issued) s.ledger.waiters.length true) target
        (.request sender (.issued s.issued) payload)).2 := by
    rw [after, sendRequest, opened]
  have owed : ledger.Owes (.issued s.issued) s.ledger.waiters.length s.clock
      (timeout?.getD s.config.messaging.requestTimeout) :=
    ⟨_, by rw [waiters, List.getElem?_concat_length], rfl,
      .inr ⟨_, by rw [entered, if_pos rfl], rfl, rfl, rfl⟩⟩
  have settles : State.Settles _ _ := deliver_settles { s with ledger, issued := s.issued + 1 }
    (.request (.issued s.issued) s.ledger.waiters.length true) target
    (.request sender (.issued s.issued) payload)
  intro t
  rw [show t = _ from posted]
  exact ⟨owed.dwindles (Dwindles.of_settles settles).1, deliver_asking _ target _⟩

end Outcome

/-- Call `n` stands in line for a slot of an open mailbox all of whose slots are taken or granted,
with a request whose outcome goes to waiter `w`. -/
def InLine (s : State) (n w : Nat) : Prop :=
  ∃ id target box mail b,
    s.calls[n]? = some (.running (.deliver (.request id w true) target box mail)) ∧
      s.post.boxes[box]? = some b ∧ b.isOpen = true ∧ n ∈ b.line ∧
      b.capacity ≤ b.queue.length + b.granted.length

/-- Where nothing can happen without time going by, a call whose outcome is there has returned, or
stands in line. -/
theorem Asking.inLine_iff {n w : Nat} {id : CorrelationId} (asking : s.Asking n id w)
    (tight : s.Tight) (quiet : s.quiet) {x : Waiter} (known : s.ledger.waiters[w]? = some x)
    (handed : x.received ≠ []) : s.hasReturned n = false ↔ s.InLine n w := by
  have still : s.stepCall n = none := quiet (.call n)
  constructor
  · intro unreturned
    cases asking with
    | @posts target box mail b call here waits =>
      rw [stepCall, call] at still
      have kept : (b.offer n mail).1 = .waiting := by
        obtain ⟨waiting, _⟩ | ⟨r, goes⟩ := s.stepDeliver_cases n _ target box mail
        · rwa [offer_of_box here] at waiting
        · cases still.symm.trans goes
      obtain ⟨isOpen, inLine⟩ := waits.inLine kept
      exact ⟨id, target, box, mail, b, call, here, isOpen, inLine,
        tight box b here isOpen (List.ne_nil_of_mem inLine)⟩
    | awaits call =>
      obtain ⟨r, rest, received⟩ := List.exists_cons_of_ne_nil handed
      rw [stepCall, call] at still
      simp [stepAwait, known, received] at still
    | returned call =>
      rw [hasReturned, call] at unreturned
      cases unreturned
  · rintro ⟨_, _, _, _, _, call, _⟩
    rw [hasReturned, call]

/-- A call of request, once its time is up and nothing more can happen at that instant: its outcome
is there, and it has returned unless it still stands in line at a full mailbox. -/
theorem request_late_iff (config : HostConfig) (engine : Engine) (before acts : List Act)
    (sender target : ComponentId) (payload : Bytes) (timeout? : Option Duration) :
    let s := (fresh config engine).run before
    let t := (s.after (.sendRequest sender target payload timeout? true)).run acts
    let n := s.calls.length
    let w := s.ledger.waiters.length
    (∀ v ∈ acts, v ≠ .abandon w) → t.quiet →
      s.clock + timeout?.getD s.config.messaging.requestTimeout ≤ t.clock →
      (∃ x, t.ledger.waiters[w]? = some x ∧ x.received ≠ []) ∧
        (t.hasReturned n = false ↔ t.InLine n w) := by
  intro s t n w stays quiet late
  have unguarded : (fresh config engine).Guarded := Ledger.Guarded.empty
  have boxless : (fresh config engine).Tight := fun _ _ here => nomatch here
  have guarded : s.Guarded := unguarded.run before
  obtain ⟨owes, asking⟩ := s.sendRequest_begins guarded sender target payload timeout?
  have guarded' : t.Guarded := (guarded.after _).run acts
  have handed : ∃ x, t.ledger.waiters[w]? = some x ∧ x.received ≠ [] := by
    obtain ⟨x, known, _, handed | ⟨e, pending, _, since, timeout⟩⟩ :=
      owes_run (guarded.after _) owes stays
    · exact ⟨x, known, handed⟩
    · -- A pending exchange has an armed alarm, which would be due.
      obtain ⟨alarm, armed, _, _, due, _⟩ := guarded'.guard pending
      have early := lt_due_of_quiet guarded' quiet armed
      rw [due, since, timeout] at early
      exact absurd late (Nat.not_le_of_lt early)
  obtain ⟨x, known, received⟩ := handed
  have tight : t.Tight := ((boxless.run before).after _).run acts
  exact ⟨⟨x, known, received⟩, (asking.run acts).inLine_iff tight quiet known received⟩

section Crowd

def crowding : List Act := [.install 1, .route ⟨"b"⟩ 0, .sendMessage ⟨"x"⟩ ⟨"b"⟩ []]

/-- A request to a mailbox that nobody empties, when its time has passed and its alarm gone off. -/
def crowdedRequest : State :=
  ((fresh {} (.paced [] 0)).run crowding).run
    [.sendRequest ⟨"a"⟩ ⟨"b"⟩ [] (some (.ofMillis 5)) true, .wait (.ofMillis 5), .move (.alarm 0)]

theorem crowdedRequest_quiet : crowdedRequest.quiet := by
  intro m
  cases m with
  | alarm number => rfl
  | actor a => rfl
  | enroll i => rfl
  | call n =>
    match n with
    | 0 | 1 | _ + 2 => rfl

/-- Such a request has timed out, but its call does not return. -/
theorem crowded_request_outlives_timeout :
    crowdedRequest.quiet ∧ crowdedRequest.clock = .ofMillis 5 ∧
      crowdedRequest.ledger.timedOut = 1 ∧ crowdedRequest.hasReturned 1 = false :=
  ⟨crowdedRequest_quiet, rfl, rfl, rfl⟩

theorem crowded_request_in_line : crowdedRequest.quiet ∧ crowdedRequest.InLine 1 0 := by
  have late := request_late_iff {} (.paced [] 0) crowding
    [.wait (.ofMillis 5), .move (.alarm 0)] ⟨"a"⟩ ⟨"b"⟩ [] (some (.ofMillis 5))
    (by simp) crowdedRequest_quiet (Nat.le_refl _)
  exact ⟨crowdedRequest_quiet, late.2.mp rfl⟩

end Crowd

end ComponentHost.State
