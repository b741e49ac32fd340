import ComponentHost.Proofs.Host.Act.OwnSteps
import ComponentHost.Proofs.Host.Component.StopCleanup

/-! To whom requests are pending. A stop takes a component's route away together with the requests
to it, and a request that finds no route is cancelled at once: so as long as nobody changes routes
past the host, whoever a pending request is for has a route. -/

namespace ComponentHost

theorem Ledger.Dwindles.pending {heard : CorrelationId → Response → Prop} {l m : Ledger}
    (dwindles : Dwindles heard l m) {k : CorrelationId} {e : Entry}
    (left : m.pending.get? k = some e) : l.pending.get? k = some e := by
  induction dwindles with
  | same books _ =>
    simp only [Ledger.books, Prod.mk.injEq] at books
    exact books.1 ▸ left
  | @conclude l m how outcome id closed _ =>
    obtain ⟨f, here, rfl⟩ := exists_of_concluded closed
    exact ((closes_conclude how outcome here).get?_iff.mp left).1
  | trans _ _ ih ih' => exact ih (ih' left)

namespace State

variable {s t : State} {heard : CorrelationId → Response → Prop}

/-- Each pending request is for a component that has a route. -/
structure Directed (s : State) : Prop where
  served : s.ledger.Served
  routed (k : CorrelationId) (e : Entry) :
    s.ledger.pending.get? k = some e → s.post.routes.get? e.recipient ≠ none

namespace Directed

theorem fresh (config : HostConfig) (engine : Engine) : (fresh config engine).Directed where
  served := served_fresh config engine
  routed _ _ pending := nomatch pending

variable (directed : s.Directed)

include directed

theorem of_dwindles (dwindles : s.Dwindles heard t)
    (kept : ∀ id, s.post.routes.get? id ≠ none → t.post.routes.get? id ≠ none) : t.Directed where
  served := directed.served.dwindles dwindles.1
  routed k e pending := kept _ (directed.routed k e (dwindles.1.pending pending))

theorem of_settles (settles : s.SettlesBy heard t) : t.Directed := by
  refine directed.of_dwindles (.of_settles settles) fun id => ?_
  obtain ⟨_, _, outline⟩ := settles
  rw [show t.post.routes = s.post.routes from congrArg Outline.routes outline]
  exact fun routed => routed

theorem of_same (ledger : t.ledger = s.ledger) (post : t.post = s.post) : t.Directed where
  served := ledger ▸ directed.served
  routed := ledger ▸ post ▸ directed.routed

/-- A component that loses its route loses the requests to it. -/
theorem told (id : ComponentId) (a : Nat) : (s.told id a).Directed where
  served := by
    have dwindles : s.Dwindles (fun _ _ => False) (s.told id a) := .told s id a
    exact directed.served.dwindles dwindles.1
  routed k e pending := by
    obtain ⟨before, spared⟩ := (told_cancels directed.served.apart id a).get?_iff.mp pending
    have other : e.recipient ≠ id := by
      rintro rfl
      simp [cancelling, Entry.involves] at spared
    rw [(told_leaves directed.served.apart id a).routes _ other]
    exact directed.routed k e before

theorem maySeat {sp : Spawn} (seat : s.MaySeat t sp) : t.Directed := by
  have dwindles : s.Dwindles (fun _ _ => False) t := .maySeat seat
  refine directed.of_dwindles dwindles fun id routed => ?_
  obtain outline | ⟨a, _, _, _, outline⟩ := seat
  · rw [show t.post.routes = s.post.routes from congrArg Outline.routes outline]
    exact routed
  · have routes : t.post.routes = s.post.routes.insert sp.order.id (s.boxOf a) :=
      congrArg Outline.routes outline
    rw [routes, Table.get?_insert]
    split
    · exact Option.some_ne_none _
    · exact routed

theorem arranges (arranges : s.Arranges heard t) : t.Directed := by
  induction arranges with
  | refl => exact directed
  | settles _ settles ih => exact ih.of_settles settles
  | tells _ id a ih => exact ih.told id a
  | @ends t _ id ih =>
    have dwindles : t.Dwindles (fun _ _ => False) (t.endStop id) := .endStop t id
    exact ih.of_dwindles dwindles fun _ routed => routed
  | seats _ seat ih => exact ih.maySeat seat
  | closes _ ih | calls _ _ ih => exact ih.of_same rfl rfl

theorem deliver (purpose : Purpose) (target : ComponentId) (mail : Mail) :
    (s.deliver purpose target mail).2.Directed := by
  have settles : s.Settles (s.deliver purpose target mail).2 :=
    s.deliver_settles purpose target mail
  exact directed.of_settles settles

omit directed in
theorem deliver_unrouted {target : ComponentId} (unrouted : s.post.routes.get? target = none)
    (id : CorrelationId) (waiter : Nat) (awaited : Bool) (mail : Mail) :
    let t := (s.deliver (.request id waiter awaited) target mail).2
    t.post = s.post ∧
      t.ledger = s.ledger.attempt (·.cancel s.clock (.targetNotFound target.name) id) := by
  unfold State.deliver
  rw [unrouted]
  exact ⟨rfl, rfl⟩

theorem sendRequest (guarded : s.Guarded) (sender target : ComponentId) (payload : Bytes)
    (timeout? : Option Duration) (awaited : Bool) :
    (s.after (.sendRequest sender target payload timeout? awaited)).Directed := by
  obtain ⟨ledger, opened, entered, _, waiters⟩ := s.openExchange_eq (Ledger.Guarded.free guarded)
    sender target (timeout?.getD s.config.messaging.requestTimeout)
  have served : ledger.Served := directed.served.opened rfl entered waiters
  rw [State.after, State.sendRequest]
  dsimp only
  rw [opened]
  dsimp only
  cases route : s.post.routes.get? target with
  | some box =>
    have posting : { s with ledger, issued := s.issued + 1 }.Directed := by
      refine ⟨served, fun k e pending => ?_⟩
      rw [entered] at pending
      by_cases own : k = .issued s.issued
      · rw [if_pos own] at pending
        cases pending
        exact route ▸ Option.some_ne_none box
      · rw [if_neg own] at pending
        exact directed.routed k e pending
    exact posting.deliver _ target _
  | none =>
    have closes := Ledger.closes_attempt (l := ledger) .cancellation
      (fun id e => e.refusal id (.targetNotFound target.name) s.clock) (.issued s.issued)
    have dwindles : Ledger.Dwindles (fun _ _ => False) ledger _ :=
      .refuse ledger .cancellation (.targetNotFound target.name) s.clock (.issued s.issued)
    obtain ⟨post, same⟩ := deliver_unrouted (s := { s with ledger, issued := s.issued + 1 }) route
      (.issued s.issued) s.ledger.waiters.length awaited
      (.request sender (.issued s.issued) payload)
    refine ⟨same ▸ served.dwindles dwindles, fun k e pending => ?_⟩
    rw [same] at pending
    rw [post]
    obtain ⟨before, other⟩ := closes.get?_iff.mp pending
    by_cases own : k = .issued s.issued
    · rw [if_pos own] at other
      cases other
    · rw [entered, if_neg own] at before
      exact directed.routed k e before

theorem ring (alarm : Alarm) : { s with ledger := s.ledger.ring s.clock alarm }.Directed := by
  have cancelled : { s with ledger := s.ledger.cancelAlarm alarm }.Directed :=
    ⟨directed.served.congr rfl rfl, directed.routed⟩
  have rung : Ledger.Dwindles (fun _ _ => False) _ _ := .rung s.ledger s.clock alarm
  exact cancelled.of_dwindles ⟨rung, rfl⟩ fun _ routed => routed

theorem after (guarded : s.Guarded) {v : Act} (aside : ∀ id, ¬ v.reroutes id) :
    (s.after v).Directed := by
  by_cases arranging : v.arranging
  · exact directed.arranges (arranges_after arranging)
  · cases v with
    | sendRequest sender target payload timeout? awaited =>
      exact directed.sendRequest guarded sender target payload timeout? awaited
    | abandon waiter =>
      refine ⟨directed.served.abandon waiter, fun k e pending => directed.routed k e ?_⟩
      rw [← pending, State.after, Ledger.abandon]
      split <;> rfl
    | wait => exact directed.of_same rfl rfl
    | route c | unroute c | unrouteFrom c => exact absurd rfl (aside c)
    | move m =>
      rw [State.after]
      cases stepped : s.step m with
      | none => exact directed
      | some t =>
        rw [Option.getD_some]
        cases m with
        | alarm number =>
          obtain ⟨alarm, _, _, rfl⟩ := stepAlarm_eq stepped
          exact directed.ring alarm
        | enroll i =>
          obtain ⟨id, _, rfl⟩ := enroll_eq stepped
          have joined : { s with ledger := s.ledger.join id }.Directed :=
            ⟨directed.served.congr rfl rfl, directed.routed⟩
          have left : { s with ledger := s.ledger.leave id }.Directed :=
            ⟨directed.served.congr rfl rfl, directed.routed⟩
          by_cases on : s.roster.contains id = true
          · exact joined.of_same (if_pos on) rfl
          · exact left.of_same (if_neg on) rfl
        | actor | call => exact absurd trivial arranging
    | _ => exact absurd trivial arranging

theorem run (guarded : s.Guarded) {acts : List Act} (aside : ∀ v ∈ acts, ∀ id, ¬ v.reroutes id) :
    (s.run acts).Directed := by
  refine (run_induction (P := fun t => t.Guarded ∧ t.Directed) ⟨guarded, directed⟩ ?_).2
  rintro t v mem ⟨guarded, directed⟩
  exact ⟨guarded.after v, directed.after guarded (aside v mem)⟩

end Directed

end State

end ComponentHost
