import ComponentHost.Proofs.Host.Exchange.RequestDeadline
import ComponentHost.Proofs.Ledger.Delivery

/-! What a request whose outcome is awaited reports. The ledger delivers one outcome to its waiter,
and that is what the call returns; but a call that is turned away by a closed mailbox returns that
instead, while the ledger has the exchange end otherwise. -/

namespace ComponentHost.State

variable {s : State} {v : Act} {n w : Nat} {id : CorrelationId} {target : ComponentId}
  {o : Option Response} {acts : List Act}

theorem delivers_after (guarded : s.Guarded) (served : s.ledger.Served)
    (delivers : s.ledger.Delivers id w o) (stays : v ≠ .abandon w) :
    (s.after v).ledger.StillDelivers id w o := by
  cases s.after_deals v with
  | dwindles dwindles => exact delivers.dwindles served dwindles.1
  | opens asked dwindles =>
    have free : s.ledger.pending.get? (.issued s.issued) = none := Ledger.Guarded.free guarded
    obtain ⟨ledger, opened, entered, _, waiters⟩ := s.openExchange_eq free _ _ _
    rw [opened] at dwindles
    exact (delivers.opened free rfl entered waiters).dwindles
      (served.opened rfl entered waiters) dwindles.1
  | rings _ _ ledger _ =>
    rw [ledger]
    exact delivers.ring served s.clock _
  | abandons asked ledger _ =>
    rw [ledger]
    exact (delivers.abandon fun same => stays (by rw [asked, same])).still

section Repel

def Repels (s : State) (v : Act) (n : Nat) : Prop :=
  ∃ box mail, s.offers? v = some (box, n, mail) ∧ (s.post.offer box n mail).1 = .refused

def Repelled (s : State) (acts : List Act) (n : Nat) : Prop :=
  ∃ before v later, acts = before ++ v :: later ∧ (s.run before).Repels v n

/-- Where call `n` is turned away, the outcome of its exchange is that its target is not found, or
one that was delivered before. -/
def TurnedAway (s : State) (acts : List Act) (n w : Nat) (target : ComponentId) (q : Response) :
    Prop :=
  ∃ before v later, acts = before ++ v :: later ∧ (s.run before).Repels v n ∧
    (q.reply = .error (.targetNotFound target.name) ∨
      ∃ x, (s.run before).ledger.waiters[w]? = some x ∧ x.received = [q])

theorem repelled_concat :
    s.Repelled (acts ++ [v]) n ↔ s.Repelled acts n ∨ (s.run acts).Repels v n :=
  exists_split_concat (P := fun before u => (s.run before).Repels u n)

theorem not_repelled_nil : ¬ s.Repelled [] n := by
  rintro ⟨before, _, _, split, _⟩
  cases before <;> cases split

theorem turnedAway_concat {q : Response} : s.TurnedAway (acts ++ [v]) n w target q ↔
    s.TurnedAway acts n w target q ∨ (s.run acts).Repels v n ∧
      (q.reply = .error (.targetNotFound target.name) ∨
        ∃ x, (s.run acts).ledger.waiters[w]? = some x ∧ x.received = [q]) :=
  exists_split_concat (P := fun before u => (s.run before).Repels u n ∧
    (q.reply = .error (.targetNotFound target.name) ∨
      ∃ x, (s.run before).ledger.waiters[w]? = some x ∧ x.received = [q]))

theorem repels_iff {box : Nat} {mail : Mail} (offered : s.offers? v = some (box, n, mail)) :
    s.Repels v n ↔ (s.post.offer box n mail).1 = .refused := by
  rw [Repels, offered]
  constructor
  · rintro ⟨_, _, same, refused⟩
    cases same
    exact refused
  · exact fun refused => ⟨box, mail, rfl, refused⟩

theorem not_repels (known : n < s.calls.length) (own : v = .move (.call n) →
    s.offers? v = none) : ¬ s.Repels v n := by
  rintro ⟨box, mail, offered, _⟩
  obtain move | last := sender_of_offers offered
  · rw [own move] at offered
    cases offered
  · omega

end Repel

/-- How far call `n` has come, which asks for the outcome of an exchange, in the state `t` after the
acts of a run from `s`, and what that has to do with the outcome delivered to its waiter. -/
inductive Reports (s : State) (acts : List Act) (n : Nat) (id : CorrelationId) (w : Nat)
    (target : ComponentId) (t : State) (o : Option Response) : Prop
  | posts {box : Nat} {mail : Mail}
    (call : t.calls[n]? = some (.running (.deliver (.request id w true) target box mail)))
    (let_in : ¬ s.Repelled acts n)
  | awaits (call : t.calls[n]? = some (.running (.await w))) (let_in : ¬ s.Repelled acts n)
  | reports {time : Duration} {q : Response} (given : o = some q)
    (call : t.calls[n]? = some (.returned time (.replied q.reply)))
    (let_in : ¬ s.Repelled acts n)
  | repelled {time : Duration} {q : Response} (given : o = some q)
    (call : t.calls[n]? = some (.returned time
      (.replied (.error (PostError.mailboxClosed target).toRequestFailure))))
    (past : s.TurnedAway acts n w target q)

namespace Reports

variable (reports : s.Reports acts n id w target (s.run acts) o)

include reports

theorem known : n < (s.run acts).calls.length := by
  cases reports with
  | posts call | awaits call | reports _ call | repelled _ call =>
    exact (List.getElem?_eq_some_iff.mp call).1

theorem rests (other : v ≠ .move (.call n)) {o' : Option Response}
    (kept : ∀ q, o = some q → o' = some q) :
    s.Reports (acts ++ [v]) n id w target ((s.run acts).after v) o' := by
  have let_in : ¬ s.Repelled acts n → ¬ s.Repelled (acts ++ [v]) n := fun before now =>
    (repelled_concat.mp now).elim before (not_repels reports.known fun own => absurd own other)
  have stays : ∀ {c : CallState}, c.Steady → (s.run acts).calls[n]? = some c →
      ((s.run acts).after v).calls[n]? = some c := fun steady here =>
    calls_after steady here other
  cases reports with
  | posts call before => exact .posts (stays (fun _ => rfl) call) (let_in before)
  | awaits call before => exact .awaits (stays (fun _ => rfl) call) (let_in before)
  | reports given call before =>
    exact .reports (kept _ given) (stays (fun _ => rfl) call) (let_in before)
  | repelled given call past =>
    exact .repelled (kept _ given) (stays (fun _ => rfl) call) (turnedAway_concat.mpr (.inl past))

theorem moves (served : (s.run acts).ledger.Served)
    (delivers : (s.run acts).ledger.Delivers id w o) :
    let t := (s.run acts).after (.move (.call n))
    ∃ o', t.ledger.Delivers id w o' ∧
      s.Reports (acts ++ [.move (.call n)]) n id w target t o' := by
  intro t
  have known := reports.known
  have ran : t = ((s.run acts).stepCall n).getD (s.run acts) := rfl
  have let_in : ¬ (s.run acts).Repels (.move (.call n)) n → ¬ s.Repelled acts n →
      ¬ s.Repelled (acts ++ [.move (.call n)]) n := fun taken before now =>
    (repelled_concat.mp now).elim before taken
  cases reports with
  | @posts box mail call before =>
    have offered : (s.run acts).offers? (.move (.call n)) = some (box, n, mail) := by
      rw [offers?, call]
    have repels := repels_iff offered
    have stepped : (s.run acts).stepCall n =
        (s.run acts).stepDeliver n (.request id w true) target box mail := by rw [stepCall, call]
    rw [ran, stepped, stepDeliver]
    cases offer : (s.run acts).post.offer box n mail with
    | mk outcome post =>
      rw [offer] at repels
      cases outcome with
      | waiting =>
        have taken := let_in (fun r => by cases repels.mp r) before
        exact ⟨o, delivers, .posts call taken⟩
      | accepted =>
        have taken := let_in (fun r => by cases repels.mp r) before
        exact ⟨o, delivers, .awaits (List.getElem?_set_self known) taken⟩
      | refused =>
        obtain ⟨q, delivers', came⟩ :=
          delivers.cancel served (s.run acts).clock (.targetNotFound target.name)
        refine ⟨some q, delivers', .repelled rfl (List.getElem?_set_self known)
          (turnedAway_concat.mpr (.inr ⟨repels.mpr rfl, ?_⟩))⟩
        obtain rfl | ⟨_, absent⟩ := came
        · exact .inr delivers.received
        · exact .inl absent
  | awaits call before =>
    have nothing : (s.run acts).offers? (.move (.call n)) = none := by rw [offers?, call]
    have taken := let_in (not_repels known fun _ => nothing) before
    obtain ⟨x, here, received⟩ := delivers.received
    have stepped : (s.run acts).stepCall n = x.received.head?.map fun r =>
        (s.run acts).finish n (.replied r.reply) := by
      rw [stepCall, call]
      simp only [stepAwait, here, Option.bind_eq_bind, Option.bind_some]
      cases x.received <;> rfl
    rw [ran, stepped, received]
    cases o with
    | none => exact ⟨none, delivers, .awaits call taken⟩
    | some q => exact ⟨some q, delivers, .reports rfl (List.getElem?_set_self known) taken⟩
  | reports given call before =>
    have nothing : (s.run acts).offers? (.move (.call n)) = none := by rw [offers?, call]
    have still : t = s.run acts := by
      rw [ran, stepCall, call]
      rfl
    rw [still]
    exact ⟨o, delivers, .reports given call (let_in (not_repels known fun _ => nothing) before)⟩
  | repelled given call past =>
    have still : t = s.run acts := by
      rw [ran, stepCall, call]
      rfl
    rw [still]
    exact ⟨o, delivers, .repelled given call (turnedAway_concat.mpr (.inl past))⟩

end Reports

theorem sendRequest_reports (guarded : s.Guarded) (served : s.ledger.Served)
    (sender target : ComponentId) (payload : Bytes) (timeout? : Option Duration) :
    let ask := Act.sendRequest sender target payload timeout? true
    let t := s.after ask
    ∃ o, t.ledger.Delivers (.issued s.issued) s.ledger.waiters.length o ∧
      s.Reports [ask] s.calls.length (.issued s.issued) s.ledger.waiters.length target t o := by
  intro ask t
  obtain ⟨ledger, opened, entered, _, waiters⟩ :=
    s.openExchange_eq (Ledger.Guarded.free guarded) sender target
      (timeout?.getD s.config.messaging.requestTimeout)
  have posted : s.after (.sendRequest sender target payload timeout? true) =
      ({ s with ledger, issued := s.issued + 1 }.deliver
        (.request (.issued s.issued) s.ledger.waiters.length true) target
        (.request sender (.issued s.issued) payload)).2 := by
    rw [after, sendRequest, opened]
  have served' : ledger.Served := served.opened rfl entered waiters
  have delivers : ledger.Delivers (.issued s.issued) s.ledger.waiters.length none :=
    .awaited (by rw [entered, if_pos rfl]) rfl (by rw [waiters, List.getElem?_concat_length])
  obtain ⟨q, cancelled, came⟩ := delivers.cancel served' s.clock (.targetNotFound target.name)
  have lost : q.reply = .error (.targetNotFound target.name) :=
    came.elim (fun same => by cases same) And.right
  have single : s.Repelled [ask] s.calls.length → s.Repels ask s.calls.length := fun now =>
    (repelled_concat.mp (show s.Repelled ([] ++ [ask]) _ from now)).resolve_left not_repelled_nil
  have offered : s.offers? ask =
      offers?.toward s target (.request sender (.issued s.issued) payload) := rfl
  rw [show t = _ from posted, deliver]
  rw [offers?.toward] at offered
  cases route : s.post.routes.get? target with
  | none =>
    rw [route] at offered
    have taken : ¬ s.Repelled [ask] s.calls.length := fun now => by
      obtain ⟨_, _, offers, _⟩ := single now
      cases offered.symm.trans offers
    exact ⟨some q, cancelled, .reports rfl (by rw [lost]; exact List.getElem?_concat_length) taken⟩
  | some box =>
    rw [route] at offered
    have repels := repels_iff offered
    dsimp only
    cases offer : s.post.offer box s.calls.length (.request sender (.issued s.issued) payload) with
    | mk outcome post =>
      rw [offer] at repels
      cases outcome with
      | waiting =>
        exact ⟨none, delivers, .posts List.getElem?_concat_length fun now => by
          cases repels.mp (single now)⟩
      | accepted =>
        exact ⟨none, delivers, .awaits List.getElem?_concat_length fun now => by
          cases repels.mp (single now)⟩
      | refused =>
        exact ⟨some q, cancelled, .repelled rfl List.getElem?_concat_length
          ⟨[], ask, [], rfl, repels.mpr rfl, .inl lost⟩⟩

/-- Whatever else is done to the messaging of a host, a request whose outcome is awaited returns
the one outcome that was delivered for its exchange, unless it is turned away by a closed mailbox.
Then it returns that, and the outcome is another: that its target was not found, or what the
exchange had come to before. -/
theorem request_reports_outcome (config : HostConfig) (engine : Engine) (before acts : List Act)
    (sender target : ComponentId) (payload : Bytes) (timeout? : Option Duration)
    {time : Duration} {answer : Answer} :
    let s := (fresh config engine).run before
    let ask := Act.sendRequest sender target payload timeout? true
    let t := s.run (ask :: acts)
    let n := s.calls.length
    let w := s.ledger.waiters.length
    (∀ v ∈ acts, v ≠ .abandon w) → t.calls[n]? = some (.returned time answer) →
      ∃ x q, t.ledger.waiters[w]? = some x ∧ x.received = [q] ∧
        (¬ s.Repelled (ask :: acts) n ∧ answer = .replied q.reply ∨
          s.TurnedAway (ask :: acts) n w target q ∧
            answer = .replied (.error (PostError.mailboxClosed target).toRequestFailure)) := by
  intro s ask t n w stays returned
  have unguarded : (fresh config engine).Guarded := Ledger.Guarded.empty
  have guarded : s.Guarded := unguarded.run before
  have served : s.ledger.Served := served_run unguarded (served_fresh config engine) before
  have reached : ∃ o, t.ledger.Delivers (.issued s.issued) w o ∧
      s.Reports (ask :: acts) n (.issued s.issued) w target t o := by
    refine history_induction (P := fun acts => ∃ o,
      (s.run (ask :: acts)).ledger.Delivers (.issued s.issued) w o ∧
        s.Reports (ask :: acts) n (.issued s.issued) w target (s.run (ask :: acts)) o)
      (s.sendRequest_reports guarded served sender target payload timeout?) ?_
    rintro past v mem ⟨o, delivers, reports⟩
    have guarded' : (s.run (ask :: past)).Guarded := guarded.run _
    have served' : (s.run (ask :: past)).ledger.Served := served_run guarded served _
    rw [← List.cons_append, run_concat]
    by_cases own : v = .move (.call n)
    · subst own
      exact reports.moves served' delivers
    · obtain ⟨o', delivers', kept⟩ := delivers_after guarded' served' delivers (stays v mem)
      exact ⟨o', delivers', reports.rests own kept⟩
  obtain ⟨o, delivers, reports⟩ := reached
  obtain ⟨x, known, received⟩ := delivers.received
  cases reports with
  | posts call | awaits call => cases call.symm.trans returned
  | @reports _ q given call let_in =>
    subst given
    cases call.symm.trans returned
    exact ⟨x, q, known, received, .inl ⟨let_in, rfl⟩⟩
  | @repelled _ q given call past =>
    subst given
    cases call.symm.trans returned
    exact ⟨x, q, known, received, .inr ⟨past, rfl⟩⟩

section Sample

theorem answered_request_reports :
    let t := ((fresh {} (.paced [] 0)).run [.install 1, .route ⟨"b"⟩ 0]).run
      [.sendRequest ⟨"a"⟩ ⟨"b"⟩ [] none true, .respond (.issued 0) ⟨"b"⟩ ⟨"a"⟩ (.ok [7]),
        .move (.call 0)]
    t.calls[0]? = some (.returned 0 (.replied (.ok [7]))) ∧
      ∃ x q, t.ledger.waiters[0]? = some x ∧ x.received = [q] ∧ q.reply = .ok [7] := by
  refine ⟨rfl, ?_⟩
  obtain ⟨x, q, known, received, ⟨_, same⟩ | ⟨_, other⟩⟩ :=
    request_reports_outcome {} (.paced [] 0) [.install 1, .route ⟨"b"⟩ 0]
      [.respond (.issued 0) ⟨"b"⟩ ⟨"a"⟩ (.ok [7]), .move (.call 0)] ⟨"a"⟩ ⟨"b"⟩ [] none
      (by simp) rfl
  · exact ⟨x, q, known, received, (Answer.replied.inj same).symm⟩
  · cases other

/-- A request to a closed mailbox returns another outcome than its waiter was delivered. -/
theorem closed_mailbox_misreported :
    let t := (fresh {} (.paced [] 0)).run
      [.install 1, .route ⟨"b"⟩ 0, .close 0, .sendRequest ⟨"a"⟩ ⟨"b"⟩ [] none true]
    t.calls[0]? = some (.returned 0 (.replied
        (.error (.processingFailed "Message delivery failed: mailbox for b is closed")))) ∧
      t.ledger.waiters[0]? =
        some { received := [⟨.issued 0, ⟨"b"⟩, ⟨"a"⟩, .error (.targetNotFound "b"), 0⟩] } :=
  ⟨rfl, rfl⟩

end Sample

end ComponentHost.State
