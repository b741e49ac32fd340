import ComponentHost.Proofs.Host.Exchange.Conclusions
import ComponentHost.Proofs.Host.Exchange.RequestOutcome

/-! Requests that cannot be posted. A request is entered in the ledger before it is posted, and its
posting may have to wait, so its alarm or a stop may be there first. However that goes, when the
call fails nothing of the request is left, nothing of any other was touched, and it has come to one
end. -/

namespace ComponentHost

def PostError.refusal (awaited : Bool) (e : PostError) : Answer :=
  if awaited then .replied (.error e.toRequestFailure) else .requested (.error e)

def CallState.Posted (w : Nat) : CallState → Prop
  | .running c => c = .await w
  | .returned _ answer => ∀ e, answer ≠ .requested (.error e)

theorem CallState.posted_requested (w : Nat) (time : Duration) (request : CorrelationId × Nat) :
    Posted w (.returned time (.requested (.ok request))) := nofun

theorem CallState.posted_replied (w : Nat) (time : Duration) (r : Reply) :
    Posted w (.returned time (.replied r)) := nofun

namespace State

variable {s t : State} {v : Act} {acts : List Act} {n w k : Nat} {id : CorrelationId}
  {target : ComponentId} {awaited : Bool}

section Entry

theorem pending_after (guarded : s.Guarded) (old : k < s.issued) {e : Entry}
    (left : (s.after v).ledger.pending.get? (.issued k) = some e) :
    s.ledger.pending.get? (.issued k) = some e := by
  cases s.after_deals v with
  | dwindles dwindles => exact dwindles.1.pending left
  | opens _ dwindles =>
    obtain ⟨ledger, opened, entered, _⟩ := s.openExchange_eq (Ledger.Guarded.free guarded) _ _ _
    have before := dwindles.1.pending left
    have other : CorrelationId.issued k ≠ .issued s.issued := by simpa using Nat.ne_of_lt old
    rw [opened] at before
    rwa [entered, if_neg other] at before
  | @rings alarm _ _ ledger _ =>
    rw [ledger] at left
    have rung : Ledger.Dwindles (fun _ _ => False) _ _ := .rung s.ledger s.clock alarm
    exact rung.pending left
  | abandons _ ledger _ =>
    rw [ledger, Ledger.abandon] at left
    split at left <;> exact left

theorem absent_after (guarded : s.Guarded) (old : k < s.issued)
    (gone : s.ledger.pending.get? (.issued k) = none) (v : Act) :
    (s.after v).ledger.pending.get? (.issued k) = none := by
  cases left : (s.after v).ledger.pending.get? (.issued k) with
  | none => rfl
  | some e => cases gone.symm.trans (pending_after guarded old left)

theorem untracked_run (guarded : s.Guarded) (old : k < s.issued)
    (gone : s.ledger.pending.get? (.issued k) = none) (acts : List Act) :
    let t := s.run acts
    t.ledger.pending.get? (.issued k) = none ∧ t.ledger.alarms.board.get? (.issued k) = none ∧
      ∀ alarm ∈ t.ledger.alarms.armed, alarm.id ≠ .issued k := by
  intro t
  obtain ⟨guarded', _, gone'⟩ : t.Guarded ∧ k < t.issued ∧
      t.ledger.pending.get? (.issued k) = none := by
    refine run_induction (P := fun t => t.Guarded ∧ k < t.issued ∧
      t.ledger.pending.get? (.issued k) = none) ⟨guarded, old, gone⟩ ?_
    rintro u v _ ⟨guarded, old, gone⟩
    exact ⟨guarded.after v, Nat.lt_of_lt_of_le old (u.issued_le_after v),
      absent_after guarded old gone v⟩
  refine ⟨gone', guarded'.board gone', fun alarm armed same => ?_⟩
  obtain ⟨e, pending, _⟩ := guarded'.charge armed
  rw [same, gone'] at pending
  cases pending

end Entry

section Own

def Own (s : State) (n : Nat) (v : Act) : Prop := v = .move (.call n) ∨ n = s.calls.length

theorem own_iff (known : n < s.calls.length) : s.Own n v ↔ v = .move (.call n) :=
  ⟨fun own => own.resolve_right (Nat.ne_of_lt known), .inl⟩

def Throughout (s : State) (acts : List Act) (n : Nat) (P : State → Act → Prop) : Prop :=
  ∀ before v later, acts = before ++ v :: later → (s.run before).Own n v → P (s.run before) v

theorem throughout_nil {P : State → Act → Prop} : s.Throughout [] n P := by
  rintro before _ _ split
  cases before <;> cases split

theorem throughout_concat {P : State → Act → Prop} : s.Throughout (acts ++ [v]) n P ↔
    s.Throughout acts n P ∧ ((s.run acts).Own n v → P (s.run acts) v) := by
  constructor
  · intro all
    refine ⟨fun before u later split => all before u (later ++ [v]) ?_, all acts v [] rfl⟩
    rw [split, List.append_assoc]
    rfl
  · rintro ⟨all, last⟩ before u later split
    obtain ⟨_, _, later, earlier, rfl, rfl⟩ | ⟨rfl, rfl⟩ :=
      (exists_split_concat (P := fun b x => b = before ∧ x = u)).mp ⟨_, _, _, split, rfl, rfl⟩
    · exact all _ _ later earlier
    · exact last

/-- The acts of call `n` leave alone what belongs to other exchanges. -/
def Considerate (s : State) (acts : List Act) (n : Nat) (id : CorrelationId) (w : Nat) : Prop :=
  s.Throughout acts n fun u v => u.ledger.SameBut (u.after v).ledger id w

def Uncounted (s : State) (acts : List Act) (n : Nat) : Prop :=
  s.Throughout acts n fun u v => (u.after v).stats = u.stats

def FailsOnce (s : State) (acts : List Act) (n : Nat) : Prop :=
  ∃ before v later, acts = before ++ v :: later ∧ s.Uncounted before n ∧
    (s.run before).Own n v ∧ ((s.run before).after v).stats = { (s.run before).stats with
      routingFailures := (s.run before).stats.routingFailures + 1 } ∧
    ((s.run before).after v).Uncounted later n

theorem FailsOnce.concat (once : s.FailsOnce acts n)
    (idle : (s.run acts).Own n v → ((s.run acts).after v).stats = (s.run acts).stats) :
    s.FailsOnce (acts ++ [v]) n := by
  obtain ⟨before, u, later, rfl, past, own, counted, since⟩ := once
  refine ⟨before, u, later ++ [v], by simp, past, own, counted, throughout_concat.mpr ⟨since, ?_⟩⟩
  rwa [run_append, run_cons] at idle

end Own

section Phase

/-- How far call `n` has come, which is to post a request: it stands in line, or has posted it, or
has failed, and with that counted one failure. -/
inductive Posting (s : State) (acts : List Act) (n : Nat) (id : CorrelationId) (w : Nat)
    (target : ComponentId) (awaited : Bool) (t : State) : Prop
  | stands {box : Nat} {mail : Mail}
    (call : t.calls[n]? = some (.running (.deliver (.request id w awaited) target box mail)))
    (routed : s.post.routes.get? target ≠ none) (let_in : ¬ s.Repelled acts n)
    (uncounted : s.Uncounted acts n)
  | posted {c : CallState} (call : t.calls[n]? = some c) (past : c.Posted w)
    (routed : s.post.routes.get? target ≠ none) (let_in : ¬ s.Repelled acts n)
  | failed {time : Duration} {e : PostError}
    (call : t.calls[n]? = some (.returned time (e.refusal awaited))) (once : s.FailsOnce acts n)
    (gone : t.ledger.pending.get? id = none)

theorem unrepelled_concat (before : ¬ s.Repelled acts n) (taken : ¬ (s.run acts).Repels v n) :
    ¬ s.Repelled (acts ++ [v]) n := fun now => (repelled_concat.mp now).elim before taken

namespace Posting

section Step

variable (known : n < (s.run acts).calls.length) (routed : s.post.routes.get? target ≠ none)
  (before : ¬ s.Repelled acts n)

include known routed before

theorem of_stands (guarded : (s.run acts).Guarded)
    (own : ∀ e, (s.run acts).ledger.pending.get? id = some e → e.waiter = w) {box : Nat}
    {mail : Mail} (uncounted : s.Uncounted acts n)
    (call : (s.run acts).calls[n]? =
      some (.running (.deliver (.request id w awaited) target box mail))) :
    let t := (s.run acts).after (.move (.call n))
    s.Posting (acts ++ [.move (.call n)]) n id w target awaited t ∧
      (s.run acts).ledger.SameBut t.ledger id w := by
  intro t
  have offered : (s.run acts).offers? (.move (.call n)) = some (box, n, mail) := by
    rw [offers?, call]
  have repels := repels_iff offered
  have ran : t = ((s.run acts).stepCall n).getD (s.run acts) := rfl
  rw [stepCall, call] at ran
  dsimp only at ran
  rw [stepDeliver] at ran
  cases offer : (s.run acts).post.offer box n mail with
  | mk outcome post =>
    rw [offer] at repels ran
    cases outcome with
    | waiting =>
      have taken := unrepelled_concat before fun r => by cases repels.mp r
      have still : t = s.run acts := ran
      have idle : t.stats = (s.run acts).stats := by rw [still]
      rw [still]
      exact ⟨.stands call routed taken (throughout_concat.mpr ⟨uncounted, fun _ => idle⟩), .refl _⟩
    | accepted =>
      have taken := unrepelled_concat before fun r => by cases repels.mp r
      rw [ran]
      cases awaited with
      | true => exact ⟨.posted (List.getElem?_set_self known) rfl routed taken, .refl _⟩
      | false =>
        exact ⟨.posted (List.getElem?_set_self known) (CallState.posted_requested _ _ _) routed
          taken, .refl _⟩
    | refused =>
      have counted : t.stats = { (s.run acts).stats with
          routingFailures := (s.run acts).stats.routingFailures + 1 } := by
        rw [ran]
        rfl
      have once : s.FailsOnce (acts ++ [.move (.call n)]) n :=
        ⟨acts, _, [], rfl, uncounted, .inl rfl, counted, throughout_nil⟩
      have gone : ((s.run acts).ledger.attempt (·.cancel (s.run acts).clock
          (.targetNotFound target.name) id)).pending.get? id = none := Ledger.pending_cancel ..
      rw [ran]
      exact ⟨.failed (List.getElem?_set_self known) once gone,
        (Ledger.SameBut.refl _).cancelled guarded own _ _⟩

theorem of_posted {c : CallState} (call : (s.run acts).calls[n]? = some c) (past : c.Posted w) :
    let t := (s.run acts).after (.move (.call n))
    s.Posting (acts ++ [.move (.call n)]) n id w target awaited t ∧
      (s.run acts).ledger.SameBut t.ledger id w := by
  intro t
  have ran : t = ((s.run acts).stepCall n).getD (s.run acts) := rfl
  have nothing : (s.run acts).offers? (.move (.call n)) = none := by
    cases c with
    | running c =>
      cases past
      rw [offers?, call]
    | returned => rw [offers?, call]
  have taken := unrepelled_concat before (not_repels known fun _ => nothing)
  have still : t = s.run acts ∨ ∃ r, t = (s.run acts).finish n (.replied r) := by
    rw [ran, stepCall, call]
    cases c with
    | returned => exact .inl rfl
    | running c =>
      cases past
      dsimp only
      cases stepped : (s.run acts).stepAwait n w with
      | none => exact .inl rfl
      | some u =>
        simp only [stepAwait, Option.bind_eq_bind, Option.bind_eq_some_iff] at stepped
        obtain ⟨_, _, q, _, same⟩ := stepped
        exact .inr ⟨q.reply, (Option.some.inj same).symm⟩
  obtain still | ⟨r, replied⟩ := still
  · rw [still]
    exact ⟨.posted call past routed taken, .refl _⟩
  · rw [replied]
    exact ⟨.posted (List.getElem?_set_self known) (CallState.posted_replied w _ r) routed taken,
      .refl _⟩

end Step

variable (posting : s.Posting acts n id w target awaited (s.run acts))

include posting

theorem known : n < (s.run acts).calls.length := by
  cases posting with
  | stands call | posted call | failed call => exact (List.getElem?_eq_some_iff.mp call).1

theorem rests (other : v ≠ .move (.call n))
    (absent : (s.run acts).ledger.pending.get? id = none →
      ((s.run acts).after v).ledger.pending.get? id = none) :
    s.Posting (acts ++ [v]) n id w target awaited ((s.run acts).after v) := by
  have foreign : ¬ (s.run acts).Own n v := fun own => other ((own_iff posting.known).mp own)
  have let_in : ¬ s.Repelled acts n → ¬ s.Repelled (acts ++ [v]) n := fun before =>
    unrepelled_concat before (not_repels posting.known fun own => absurd own other)
  cases posting with
  | stands call routed before uncounted =>
    exact .stands (calls_after (fun _ => rfl) call other) routed (let_in before)
      (throughout_concat.mpr ⟨uncounted, fun own => absurd own foreign⟩)
  | @posted c call past routed before =>
    have steady : c.Steady := by
      cases c with
      | running c =>
        cases past
        exact fun _ => rfl
      | returned => exact fun _ => rfl
    exact .posted (calls_after steady call other) past routed (let_in before)
  | failed call once gone =>
    exact .failed (calls_after (fun _ => rfl) call other)
      (once.concat fun own => absurd own foreign) (absent gone)

theorem moves (guarded : (s.run acts).Guarded)
    (own : ∀ e, (s.run acts).ledger.pending.get? id = some e → e.waiter = w) :
    let t := (s.run acts).after (.move (.call n))
    s.Posting (acts ++ [.move (.call n)]) n id w target awaited t ∧
      (s.run acts).ledger.SameBut t.ledger id w := by
  have known := posting.known
  cases posting with
  | stands call routed before uncounted =>
    exact of_stands known routed before guarded own uncounted call
  | posted call past routed before => exact of_posted known routed before call past
  | failed call once gone =>
    intro t
    have still : t = s.run acts := by
      have ran : t = ((s.run acts).stepCall n).getD (s.run acts) := rfl
      rw [ran, stepCall, call]
      rfl
    have idle : t.stats = (s.run acts).stats := by rw [still]
    rw [still]
    exact ⟨.failed call (once.concat fun _ => idle) gone, .refl _⟩

end Posting

theorem sendRequest_opens (guarded : s.Guarded) (sender target : ComponentId) (payload : Bytes)
    (timeout? : Option Duration) (awaited : Bool) :
    let id := CorrelationId.issued s.issued
    let w := s.ledger.waiters.length
    ∃ ledger : Ledger, s.after (.sendRequest sender target payload timeout? awaited) =
        ({ s with ledger, issued := s.issued + 1 }.deliver (.request id w awaited) target
          (.request sender id payload)).2 ∧
      ledger.Guarded (s.issued + 1) ∧ s.ledger.SameBut ledger id w ∧
      ∀ e, ledger.pending.get? id = some e → e.waiter = w := by
  obtain ⟨ledger, opened, entered, armed, waiters⟩ :=
    s.openExchange_eq (Ledger.Guarded.free guarded) sender target
      (timeout?.getD s.config.messaging.requestTimeout)
  refine ⟨ledger, by rw [after, sendRequest, opened], .opened guarded rfl entered armed,
    .opened entered armed waiters, fun e pending => ?_⟩
  rw [entered, if_pos rfl] at pending
  cases pending
  rfl

theorem sendRequest_posting (guarded : s.Guarded) (sender target : ComponentId) (payload : Bytes)
    (timeout? : Option Duration) (awaited : Bool) :
    let ask := Act.sendRequest sender target payload timeout? awaited
    let t := s.after ask
    s.Posting [ask] s.calls.length (.issued s.issued) s.ledger.waiters.length target awaited t ∧
      s.ledger.SameBut t.ledger (.issued s.issued) s.ledger.waiters.length ∧
      ∀ e, t.ledger.pending.get? (.issued s.issued) = some e →
        e.waiter = s.ledger.waiters.length := by
  intro ask t
  obtain ⟨ledger, posted, guarded', same, own⟩ :=
    sendRequest_opens guarded sender target payload timeout? awaited
  have cancelled := same.cancelled guarded' own s.clock (.targetNotFound target.name)
  have fails : t.stats = { s.stats with routingFailures := s.stats.routingFailures + 1 } →
      s.FailsOnce [ask] s.calls.length := fun counted =>
    ⟨[], ask, [], rfl, throughout_nil, .inr rfl, counted, throughout_nil⟩
  have single : s.Repelled [ask] s.calls.length → s.Repels ask s.calls.length := fun now =>
    (repelled_concat.mp (show s.Repelled ([] ++ [ask]) _ from now)).resolve_left not_repelled_nil
  have offered : s.offers? ask =
      offers?.toward s target (.request sender (.issued s.issued) payload) := rfl
  have gone : (ledger.attempt (·.cancel s.clock (.targetNotFound target.name)
      (.issued s.issued))).pending.get? (.issued s.issued) = none := Ledger.pending_cancel ..
  have own' : ∀ e, (ledger.attempt (·.cancel s.clock (.targetNotFound target.name)
      (.issued s.issued))).pending.get? (.issued s.issued) = some e →
      e.waiter = s.ledger.waiters.length := fun e left => by cases gone.symm.trans left
  change t = _ at posted
  rw [deliver] at posted
  rw [offers?.toward] at offered
  cases route : s.post.routes.get? target with
  | none =>
    rw [route] at posted
    have once := fails (by rw [posted]; rfl)
    rw [posted]
    exact ⟨.failed List.getElem?_concat_length once gone, cancelled, own'⟩
  | some box =>
    rw [route] at posted offered
    have routed : s.post.routes.get? target ≠ none := by
      rw [route]
      exact Option.some_ne_none box
    have repels := repels_iff offered
    dsimp only at posted
    cases offer : s.post.offer box s.calls.length (.request sender (.issued s.issued) payload) with
    | mk outcome post =>
      rw [offer] at repels posted
      cases outcome with
      | waiting =>
        have let_in : ¬ s.Repelled [ask] s.calls.length := fun now => by
          cases repels.mp (single now)
        have idle : t.stats = s.stats := by rw [posted]; rfl
        have uncounted : s.Uncounted ([] ++ [ask]) s.calls.length :=
          throughout_concat.mpr ⟨throughout_nil, fun _ => idle⟩
        rw [posted]
        exact ⟨.stands List.getElem?_concat_length routed let_in uncounted, same, own⟩
      | accepted =>
        have let_in : ¬ s.Repelled [ask] s.calls.length := fun now => by
          cases repels.mp (single now)
        rw [posted]
        cases awaited with
        | true => exact ⟨.posted List.getElem?_concat_length rfl routed let_in, same, own⟩
        | false =>
          exact ⟨.posted List.getElem?_concat_length (CallState.posted_requested _ _ _) routed
            let_in, same, own⟩
      | refused =>
        have once := fails (by rw [posted]; rfl)
        rw [posted]
        exact ⟨.failed List.getElem?_concat_length once gone, cancelled, own'⟩

theorem sendRequest_posts (guarded : s.Guarded) (sender target : ComponentId) (payload : Bytes)
    (timeout? : Option Duration) (awaited : Bool) (acts : List Act) :
    let ask := Act.sendRequest sender target payload timeout? awaited
    s.Posting (ask :: acts) s.calls.length (.issued s.issued) s.ledger.waiters.length target awaited
        (s.run (ask :: acts)) ∧
      s.Considerate (ask :: acts) s.calls.length (.issued s.issued) s.ledger.waiters.length := by
  intro ask
  obtain ⟨begins, same, own⟩ := s.sendRequest_posting guarded sender target payload timeout? awaited
  have issued : s.issued < (s.after ask).issued :=
    Nat.lt_of_lt_of_eq (Nat.lt_succ_self _) (issued_sendRequest ..).symm
  have considerate : s.Considerate ([] ++ [ask]) s.calls.length (.issued s.issued)
      s.ledger.waiters.length :=
    throughout_concat.mpr ⟨throughout_nil, fun _ => same⟩
  refine (history_induction (P := fun acts =>
    (s.Posting (ask :: acts) s.calls.length (.issued s.issued) s.ledger.waiters.length target
        awaited (s.run (ask :: acts)) ∧
      s.Considerate (ask :: acts) s.calls.length (.issued s.issued) s.ledger.waiters.length) ∧
    s.issued < (s.run (ask :: acts)).issued ∧
    ∀ e, (s.run (ask :: acts)).ledger.pending.get? (.issued s.issued) = some e →
      e.waiter = s.ledger.waiters.length) ⟨⟨begins, considerate⟩, issued, own⟩ ?_).1
  rintro past v _ ⟨⟨posting, considerate⟩, issued, own⟩
  have guarded' : (s.run (ask :: past)).Guarded := guarded.run _
  rw [← List.cons_append, run_concat]
  refine ⟨?_, Nat.lt_of_lt_of_le issued (issued_le_after _ v), fun e left =>
    own e (pending_after guarded' issued left)⟩
  by_cases move : v = .move (.call s.calls.length)
  · subst move
    obtain ⟨moved, same⟩ := posting.moves guarded' own
    exact ⟨moved, throughout_concat.mpr ⟨considerate, fun _ => same⟩⟩
  · refine ⟨posting.rests move fun gone => absent_after guarded' issued gone v,
      throughout_concat.mpr ⟨considerate, fun own => ?_⟩⟩
    exact absurd ((own_iff posting.known).mp own) move

end Phase

/-- A request whose posting fails, at once or after it has stood in line, leaves nothing behind: its
call has returned the failure, and from then on the request is not pending, stands on no board and
no alarm is armed for it. The acts of the call leave alone what belongs to other requests, and count
one routing failure and no request sent. The request has come to exactly one end, which was a
timeout or a cancellation unless somebody answered it meanwhile, and the counters account for
that. -/
theorem failed_request_untracked (config : HostConfig) (engine : Engine) (before acts : List Act)
    (sender target : ComponentId) (payload : Bytes) (timeout? : Option Duration) (awaited : Bool) :
    let s := (fresh config engine).run before
    let ask := Act.sendRequest sender target payload timeout? awaited
    let t := s.run (ask :: acts)
    let n := s.calls.length
    let id := CorrelationId.issued s.issued
    (∃ time e, t.calls[n]? = some (.returned time (.requested (.error e)))) ∨
        s.post.routes.get? target = none ∨ s.Repelled (ask :: acts) n →
      (∃ time e, t.calls[n]? = some (.returned time (PostError.refusal awaited e))) ∧
      (∀ later, let u := t.run later
        u.ledger.pending.get? id = none ∧ u.ledger.alarms.board.get? id = none ∧
          ∀ alarm ∈ u.ledger.alarms.armed, alarm.id ≠ id) ∧
      s.Considerate (ask :: acts) n id s.ledger.waiters.length ∧
      s.FailsOnce (ask :: acts) n ∧
      (∃ cs, s.Chronicle (ask :: acts) cs) ∧ ∀ cs, s.Chronicle (ask :: acts) cs →
        (∀ how, t.ledger.count how = s.ledger.count how + cs.countP fun c => c.2 = how) ∧
        ∃ how, cs.filter (·.1 = id) = [(id, how)] ∧
          (how = .timeout ∨ how = .cancellation ∨ s.Answered (ask :: acts) id) := by
  intro s ask t n id failed
  have unguarded : (fresh config engine).Guarded := Ledger.Guarded.empty
  have guarded : s.Guarded := unguarded.run before
  obtain ⟨posting, considerate⟩ :=
    sendRequest_posts guarded sender target payload timeout? awaited acts
  have old : s.issued < t.issued := by
    have opened : s.issued < (s.after ask).issued :=
      Nat.lt_of_lt_of_eq (Nat.lt_succ_self _) (issued_sendRequest ..).symm
    exact run_induction (P := (s.issued < ·.issued)) (s := s.after ask) opened fun u v _ old =>
      Nat.lt_of_lt_of_le old (u.issued_le_after v)
  obtain ⟨call, once, gone⟩ :
      (∃ time e, t.calls[n]? = some (.returned time (PostError.refusal awaited e))) ∧
      s.FailsOnce (ask :: acts) n ∧ t.ledger.pending.get? id = none := by
    cases posting with
    | stands call routed let_in =>
      obtain ⟨_, _, returned⟩ | unrouted | repelled := failed
      · cases call.symm.trans returned
      · exact absurd unrouted routed
      · exact absurd repelled let_in
    | posted call past routed let_in =>
      obtain ⟨_, e, returned⟩ | unrouted | repelled := failed
      · cases call.symm.trans returned
        exact absurd rfl (past e)
      · exact absurd unrouted routed
      · exact absurd repelled let_in
    | failed call once gone => exact ⟨⟨_, _, call⟩, once, gone⟩
  refine ⟨call, fun later => untracked_run (guarded.run _) old gone later, considerate, once,
    s.exists_chronicle _, fun cs chronicle => ⟨chronicle.count, ?_⟩⟩
  obtain ⟨how, listed, answered⟩ := chronicle.closed_once guarded rfl gone
  refine ⟨how, listed, ?_⟩
  cases how with
  | timeout => exact .inl rfl
  | cancellation => exact .inr (.inl rfl)
  | response => exact .inr (.inr (answered rfl))

section Sample

/-- A request to a full mailbox, whose time is up before the mailbox closes. -/
def shutOut : List Act :=
  [.sendRequest ⟨"a"⟩ ⟨"b"⟩ [] (some (.ofMillis 5)) false, .wait (.ofMillis 5), .move (.alarm 0),
    .close 0, .move (.call 1)]

def crowdedHost : State := (fresh {} (.paced [] 0)).run crowding

theorem shut_out_request_untracked :
    (crowdedHost.run shutOut).calls[1]? =
        some (.returned (.ofMillis 5) (.requested (.error (.mailboxClosed ⟨"b"⟩)))) ∧
      (crowdedHost.run shutOut).ledger.timedOut = 1 ∧
      (crowdedHost.run shutOut).ledger.cancelled = 0 ∧
      (crowdedHost.run shutOut).ledger.pending.get? (.issued 0) = none ∧
      crowdedHost.FailsOnce shutOut 1 := by
  have returned : (crowdedHost.run shutOut).calls[1]? =
      some (.returned (.ofMillis 5) (.requested (.error (.mailboxClosed ⟨"b"⟩)))) := by
    decide +kernel
  obtain ⟨_, gone, _, once, _⟩ := failed_request_untracked {} (.paced [] 0) crowding
    shutOut.tail ⟨"a"⟩ ⟨"b"⟩ [] (some (.ofMillis 5)) false (.inl ⟨_, _, returned⟩)
  exact ⟨returned, by decide +kernel, by decide +kernel, (gone []).1, once⟩

end Sample
end State
end ComponentHost
