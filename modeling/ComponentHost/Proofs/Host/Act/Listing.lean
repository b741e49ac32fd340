import ComponentHost.Proofs.Host.Act.Lifecycle

/-! What a host has on record of one id: who stands on the roster, where mail is routed, whether the
ledger knows it and whether it is yet to be enrolled. Stops take from a record, spawns write one
where there is none, and nothing else of the host touches it. -/

namespace ComponentHost

structure Listing where
  actor : Option Nat
  box : Option Nat
  member : Bool
  enrolling : Bool

def Call.waitsFor (id : ComponentId) : Call → Prop
  | .stop st | .restartStop st _ | .shutdown st _ => st.id = id
  | _ => False

namespace State

variable {s t u : State} {v : Act} {n : Nat} {id j : ComponentId}

def listing (s : State) (id : ComponentId) : Listing :=
  ⟨s.roster.get? id, s.post.routes.get? id, s.ledger.knows id, s.enrolling.contains id⟩

def Winding (s : State) (id : ComponentId) : Prop := ∃ n c, s.underWay n = some c ∧ c.waitsFor id

section Waiting

theorem winding_congr (same : t.underWay = s.underWay) : t.Winding id ↔ s.Winding id := by
  rw [Winding, Winding, same]

theorem winding_enterOrAnswer_of_not {next : Call ⊕ Answer}
    (apart : ∀ c, next = .inl c → ¬ c.waitsFor id) :
    (u.enterOrAnswer next).2.Winding id ↔ u.Winding id := by
  constructor
  · rintro ⟨n, c, there, waits⟩
    obtain entered | old := underWay_enterOrAnswer there
    · exact absurd waits (apart c entered)
    · exact ⟨n, c, old, waits⟩
  · rintro ⟨n, c, here, waits⟩
    exact ⟨n, c, underWay_enterOrAnswer_of_some here next, waits⟩

theorem Call.isLifecycle_of_waitsFor {c : Call} (waits : c.waitsFor id) : c.isLifecycle = true := by
  cases c with
  | stop | restartStop | shutdown => rfl
  | _ => exact waits.elim

theorem winding_enterOrAnswer {c : Call} (waits : c.waitsFor id) :
    (u.enterOrAnswer (.inl c)).2.Winding id := by
  refine ⟨u.calls.length, c, ?_, waits⟩
  rw [enterOrAnswer, underWay_enter, if_pos rfl]
  exact if_pos (Call.isLifecycle_of_waitsFor waits)

theorem winding_carryOn_of_not {c : Call} {next : Call ⊕ Answer} (here : u.underWay n = some c)
    (before : ¬ c.waitsFor id) (after : ∀ d, next = .inl d → ¬ d.waitsFor id) :
    (u.carryOn n next).Winding id ↔ u.Winding id := by
  constructor
  · rintro ⟨m, d, there, waits⟩
    by_cases own : m = n
    · subst own
      exact absurd waits (after d ((underWay_carryOn_self here).mp there).1)
    · exact ⟨m, d, (underWay_carryOn_of_ne u own next).symm.trans there, waits⟩
  · rintro ⟨m, d, there, waits⟩
    have other : m ≠ n := by
      rintro rfl
      rw [here] at there
      cases there
      exact before waits
    exact ⟨m, d, (underWay_carryOn_of_ne u other next).trans there, waits⟩

theorem winding_carryOn {c d : Call} (here : u.underWay n = some c) (waits : d.waitsFor id) :
    (u.carryOn n (.inl d)).Winding id :=
  ⟨n, d, (underWay_carryOn_self here).mpr ⟨rfl, Call.isLifecycle_of_waitsFor waits⟩, waits⟩

theorem waitsFor_of_drained {waits : Option (Stop × List ComponentId)} {c : Call}
    (next : drained waits = .inl c) (own : c.waitsFor id) :
    ∃ st, waits.map Prod.fst = some st ∧ st.id = id := by
  obtain ⟨st, rest, rfl, rfl⟩ := drained_eq_inl.mp next
  exact ⟨st, rfl, own⟩

end Waiting

section Record

theorem listing_of_outline (same : t.outline = s.outline) (id : ComponentId) :
    t.listing id = s.listing id :=
  congrArg (fun o : Outline => Listing.mk (o.roster.get? id) (o.routes.get? id)
    (o.ledger.knows id) (o.enrolling.contains id)) same

theorem SettlesBy.listing (settles : s.Settles t) (id : ComponentId) :
    t.listing id = s.listing id := by
  obtain ⟨vs, _, outline⟩ := settles
  have known : (s.ledger.run vs).knows id = s.ledger.knows id := by
    rw [Ledger.knows, Ledger.members_run, Ledger.knows]
  refine (congrArg (fun o : Outline => Listing.mk (o.roster.get? id) (o.routes.get? id)
    (o.ledger.knows id) (o.enrolling.contains id)) outline).trans ?_
  exact congrArg (Listing.mk (s.roster.get? id) (s.post.routes.get? id) ·
    (s.enrolling.contains id)) known

@[simp] theorem listing_carryOn (s : State) (n : Nat) (next : Call ⊕ Answer) (id : ComponentId) :
    (s.carryOn n next).listing id = s.listing id := by
  cases next <;> rfl

@[simp] theorem listing_enterOrAnswer (s : State) (next : Call ⊕ Answer) (id : ComponentId) :
    (s.enterOrAnswer next).2.listing id = s.listing id := by
  cases next <;> rfl

theorem listing_openExchange (s : State) (sender target : ComponentId) (timeout : Duration)
    (id : ComponentId) :
    (s.openExchange sender target timeout).2.2.listing id = s.listing id := by
  have known : (s.openExchange sender target timeout).2.2.ledger.members = s.ledger.members := by
    unfold openExchange Ledger.register
    by_cases taken : s.ledger.pending.contains (.issued s.issued) = true <;>
      simp [taken, Ledger.arm, Ledger.attach?]
  obtain ⟨ledger, same⟩ := s.openExchange_state sender target timeout
  rw [same] at known ⊢
  exact congrArg (fun m : List ComponentId =>
    Listing.mk (s.roster.get? id) (s.post.routes.get? id) (m.contains id)
      (s.enrolling.contains id)) known

theorem listing_unroute (s : State) (id j : ComponentId) :
    { s with post := s.post.unroute id }.listing j =
      { s.listing j with box := if j = id then none else s.post.routes.get? j } :=
  congrArg (Listing.mk (s.roster.get? j) · (s.ledger.knows j) (s.enrolling.contains j))
    (Table.get?_erase _ id j)

theorem listing_told (s : State) (id : ComponentId) (a : Nat) (j : ComponentId) :
    (s.told id a).listing j =
      { s.listing j with box := if j = id then none else s.post.routes.get? j } := by
  rw [told, listing_of_outline (outline_beginHalt _ a), (dropPending_settles _ id).listing,
    listing_unroute]

/-- The end of a stop takes its id off the roster and out of the ledger, and leaves the route. -/
theorem listing_endStop (s : State) (id j : ComponentId) :
    (s.endStop id).listing j =
      if j = id then { s.listing j with actor := none, member := false } else s.listing j := by
  have known : (s.dropPending id).listing j = s.listing j := (s.dropPending_settles id).listing j
  have left : (s.endStop id).listing j =
      { (s.dropPending id).listing j with
        actor := (s.roster.erase id).get? j
        member := ((s.dropPending id).ledger.leave id).knows j } := rfl
  rw [left, known, Table.get?_erase, Ledger.knows_leave]
  by_cases own : j = id
  · simp [own]
  · rw [if_neg own, if_neg own, decide_eq_true own, Bool.and_true,
      show (s.dropPending id).ledger.knows j = s.ledger.knows j from congrArg Listing.member known]
    rfl

end Record

theorem Seats.known (seats : s.Seats n id a) : a < s.actors.length := by
  obtain ⟨_, _, _, _, ready, _⟩ := seats
  simp only [startOutcome, Option.bind_eq_bind, Option.bind_eq_some_iff] at ready
  obtain ⟨x, here, _⟩ := ready
  exact (List.getElem?_eq_some_iff.mp here).1

section Stops

/-- What stops of `ids` do to the listing of an id, where `waits` is the one that has yet to end. -/
inductive Clears (s t : State) (ids : List ComponentId) (waits : Option Stop)
    (id : ComponentId) : Prop
  | spares (same : t.listing id = s.listing id) (others : ∀ st, waits = some st → st.id ≠ id)
  | unroutes (among : id ∈ ids) {st : Stop} (waits : waits = some st) (own : st.id = id)
    (same : t.listing id = { s.listing id with box := none })
  | clears (among : id ∈ ids)
    (same : t.listing id = { s.listing id with actor := none, box := none, member := false })

theorem beginStop_clears (s : State) (id j : ComponentId) :
    s.Clears (s.beginStop id).1 [id] (s.beginStop id).2.getLeft? j := by
  obtain ⟨_, _, same⟩ | ⟨a, _, ⟨_, same⟩ | ⟨_, same⟩⟩ := s.beginStop_cases id <;> rw [same]
  · exact .spares rfl nofun
  · by_cases own : j = id
    · refine .clears (List.mem_singleton.mpr own) ?_
      rw [listing_endStop, if_pos own, listing_told, if_pos own]
    · refine .spares ?_ nofun
      rw [listing_endStop, if_neg own, listing_told, if_neg own]
      rfl
  · by_cases own : j = id
    · refine .unroutes (List.mem_singleton.mpr own) rfl own.symm ?_
      rw [listing_told, if_pos own]
    · refine .spares ?_ fun st waits => ?_
      · rw [listing_told, if_neg own]
        rfl
      · cases waits
        exact Ne.symm own

theorem drain_clears (ids : List ComponentId) (s : State) (j : ComponentId) :
    s.Clears (s.drain ids).1 ids ((s.drain ids).2.map Prod.fst) j := by
  induction ids generalizing s with
  | nil => exact .spares rfl nofun
  | cons id ids ih =>
    have first := s.beginStop_clears id j
    have head : ∀ {i}, i ∈ [id] → i ∈ id :: ids := fun mem =>
      List.mem_singleton.mp mem ▸ List.mem_cons_self
    unfold drain
    cases begun : s.beginStop id with
    | mk t outcome =>
      rw [begun] at first
      cases outcome with
      | inl st =>
        cases first with
        | spares same others => exact .spares same others
        | unroutes among waits own same => exact .unroutes (head among) waits own same
        | clears among same => exact .clears (head among) same
      | inr r =>
        cases first with
        | unroutes _ waits => cases waits
        | spares same =>
          cases ih t with
          | spares same' others => exact .spares (same'.trans same) others
          | unroutes among waits own same' =>
            exact .unroutes (List.mem_cons_of_mem id among) waits own (same ▸ same')
          | clears among same' => exact .clears (List.mem_cons_of_mem id among) (same ▸ same')
        | clears among same =>
          refine .clears (head among) ?_
          cases ih t with
          | spares same' => exact same'.trans same
          | unroutes _ _ _ same' | clears _ same' => rw [same', same]

end Stops

inductive Relists (s : State) (v : Act) (t : State) (id : ComponentId) : Prop
  | rests (same : t.listing id = s.listing id) (winding : t.Winding id ↔ s.Winding id)
  | reroutes (past : v.reroutes id) (box : Option Nat)
    (led : box = none ∨ box = s.post.routes.get? id ∨ ∃ b, v = .route id b)
    (same : t.listing id = { s.listing id with box }) (winding : t.Winding id ↔ s.Winding id)
  | unroutes (ends : s.EndsStop v id) (winding : t.Winding id)
    (same : t.listing id = { s.listing id with box := none })
  | leaves (ends : s.EndsStop v id) (box : Option Nat)
    (route : box = none ∨ box = s.post.routes.get? id ∧ s.Winding id)
    (same : t.listing id = { s.listing id with actor := none, box, member := false })
  | seats {n a : Nat} (move : v = .move (.call n)) (seats : s.Seats n id a)
    (same : t.listing id = ⟨some a, some (s.boxOf a), s.ledger.knows id, true⟩)
    (winding : t.Winding id ↔ s.Winding id)
  | enrolls {i : Nat} (move : v = .move (.enroll i)) (enrolling : Bool)
    (same : t.listing id = { s.listing id with member := s.roster.contains id, enrolling })
    (winding : t.Winding id ↔ s.Winding id)

namespace Relists

theorem of_settles (settles : s.Settles t) : s.Relists v t id :=
  .rests (settles.listing id) (winding_congr settles.underWay)

theorem of_same (listing : t.listing id = s.listing id) (underWay : t.underWay = s.underWay) :
    s.Relists v t id :=
  .rests listing (winding_congr underWay)

theorem of_asked {ids : List ComponentId} {waits : Option Stop} {next : Call ⊕ Answer}
    (asks : ∀ j ∈ ids, v.stops j) (underWay : u.underWay = s.underWay)
    (clears : s.Clears u ids waits id)
    (next_iff : (∃ st, waits = some st ∧ st.id = id) ↔ ∃ c, next = .inl c ∧ c.waitsFor id) :
    s.Relists v (u.enterOrAnswer next).2 id := by
  cases clears with
  | spares same others =>
    refine .rests ((listing_enterOrAnswer u next id).trans same) ?_
    rw [winding_enterOrAnswer_of_not, winding_congr underWay]
    intro c entered waits'
    obtain ⟨st, waits, own⟩ := next_iff.mpr ⟨c, entered, waits'⟩
    exact others st waits own
  | unroutes among waits own same =>
    obtain ⟨c, rfl, waits'⟩ := next_iff.mp ⟨_, waits, own⟩
    exact .unroutes (.inl (asks id among)) (winding_enterOrAnswer waits')
      ((listing_enterOrAnswer u _ id).trans same)
  | clears among same =>
    exact .leaves (.inl (asks id among)) none (.inl rfl)
      ((listing_enterOrAnswer u next id).trans same)

end Relists

section Ask

theorem waitsFor_stopped {outcome : Stop ⊕ Except HostError Unit} :
    (∃ st, outcome.getLeft? = some st ∧ st.id = id) ↔
      ∃ c, stopped outcome = .inl c ∧ c.waitsFor id := by
  cases outcome with
  | inl st => simp [stopped, Call.waitsFor]
  | inr r => simp [stopped]

theorem waitsFor_restopped {o : Order} {outcome : Stop ⊕ Except HostError Unit} :
    (∃ st, outcome.getLeft? = some st ∧ st.id = id) ↔
      ∃ c, s.restopped o outcome = .inl c ∧ c.waitsFor id := by
  cases outcome with
  | inl st => simp [restopped, Call.waitsFor]
  | inr r =>
    constructor
    · rintro ⟨st, waits, _⟩
      cases waits
    · rintro ⟨c, next, waits⟩
      rw [respawn_eq next] at waits
      exact waits.elim

theorem waitsFor_drained {waits : Option (Stop × List ComponentId)} :
    (∃ st, waits.map Prod.fst = some st ∧ st.id = id) ↔
      ∃ c, drained waits = .inl c ∧ c.waitsFor id := by
  constructor
  · rintro ⟨st, next, own⟩
    obtain ⟨⟨_, rest⟩, rfl, rfl⟩ := Option.map_eq_some_iff.mp next
    exact ⟨_, rfl, own⟩
  · rintro ⟨c, next, waits⟩
    exact waitsFor_of_drained next waits

theorem spawnComponent_relists (s : State) (o : Order) (keep : Option String)
    (id : ComponentId) : s.Relists (.spawn o keep) (s.spawnComponent o keep).2 id := by
  unfold spawnComponent
  split
  · case _ sp _ =>
    have apart : ∀ c, (.inl (.spawn sp) : Call ⊕ Answer) = .inl c → ¬ c.waitsFor id := by
      rintro _ ⟨⟩
      exact not_false
    exact .rests rfl (winding_enterOrAnswer_of_not apart)
  · exact .of_settles (.of_outline (outline_answerNow s _))

theorem stopComponent_relists (s : State) (c id : ComponentId) :
    s.Relists (.stop c) (s.stopComponent c).2 id := by
  cases started : s.started with
  | false =>
    rw [stopComponent_of_not_started started]
    exact .of_settles (.of_outline (outline_answerNow s _))
  | true =>
    rw [stopComponent_of_started started]
    exact .of_asked (fun _ mem => List.mem_singleton.mp mem) (s.beginStop_sheds c).underWay
      (s.beginStop_clears c id) waitsFor_stopped

theorem restartComponent_relists (s : State) (o : Order) (id : ComponentId) :
    s.Relists (.restart o) (s.restartComponent o).2 id := by
  cases started : s.started with
  | false =>
    rw [restartComponent_of_not_started started]
    exact .of_settles (.of_outline (outline_answerNow s _))
  | true =>
    rw [restartComponent_of_started started]
    split
    · exact .of_asked (fun _ mem => List.mem_singleton.mp mem) (s.beginStop_sheds o.id).underWay
        (s.beginStop_clears o.id id) waitsFor_restopped
    · refine .rests (listing_enterOrAnswer s _ id) (winding_enterOrAnswer_of_not fun c next => ?_)
      rw [respawn_eq next]
      exact not_false

theorem shutdown_relists (s : State) (id : ComponentId) :
    s.Relists .shutdown s.shutdown.2 id := by
  cases started : s.started with
  | false =>
    rw [shutdown, started]
    exact .of_settles (.of_outline (outline_answerNow s _))
  | true =>
    have clears := drain_clears s.roster.ids { s with started := false } id
    have kept : { s with started := false }.listing id = s.listing id := rfl
    rw [shutdown_eq started]
    have asks : ∀ j ∈ s.roster.ids, Act.shutdown.stops j := fun _ _ => trivial
    refine .of_asked asks
      (drain_sheds s.roster.ids { s with started := false }).1.underWay ?_ waitsFor_drained
    cases clears with
    | spares same others => exact .spares same others
    | unroutes among waits own same => exact .unroutes among waits own same
    | clears among same => exact .clears among same

end Ask

section Step

theorem spawning_relists {sp : Spawn} (spawning : (s.underWay n).bind Call.spawning? = some sp)
    (stepped : s.stepCall n = some t) (id : ComponentId) : s.Relists (.move (.call n)) t id := by
  obtain ⟨c, here, own⟩ := Option.bind_eq_some_iff.mp spawning
  obtain ⟨u, next, rfl, seat, orders⟩ := step_of_spawning spawning stepped
  have here' : u.underWay n = some c := by rw [seat.underWay, here]
  have idle : ∀ {d : Call} {sp : Spawn}, d.spawning? = some sp → ¬ d.waitsFor id := by
    intro d sp spawns waits
    cases d with
    | stop | restartStop | shutdown => cases spawns
    | _ => exact waits
  have winding : (u.carryOn n next).Winding id ↔ s.Winding id := by
    rw [winding_carryOn_of_not here' (idle own), winding_congr seat.underWay]
    intro d entered
    obtain ⟨_, spawns, _⟩ := orders d entered
    exact idle spawns
  obtain outline | ⟨a, stage, ready, free, outline⟩ := seat
  · exact .rests ((listing_carryOn u n next id).trans (listing_of_outline outline id)) winding
  · have seated : u.listing id = ⟨(s.roster.insert sp.order.id a).get? id,
        (s.post.routes.insert sp.order.id (s.boxOf a)).get? id, s.ledger.knows id,
        (s.enrolling ++ [sp.order.id]).contains id⟩ :=
      congrArg (fun o : Outline => Listing.mk (o.roster.get? id) (o.routes.get? id)
        (o.ledger.knows id) (o.enrolling.contains id)) outline
    rw [Table.get?_insert, Table.get?_insert] at seated
    by_cases mine : id = sp.order.id
    · subst mine
      refine .seats rfl ⟨sp, spawning, rfl, stage, ready, free⟩ ?_ winding
      rw [listing_carryOn, seated]
      simp
    · refine .rests ?_ winding
      rw [listing_carryOn, seated, if_neg mine, if_neg mine]
      simp [listing, mine]

theorem stopping_relists {st : Stop} (waits : (s.underWay n).bind Call.stopping? = some st)
    (stepped : s.stepCall n = some t) (id : ComponentId) : s.Relists (.move (.call n)) t id := by
  obtain ⟨c, here, stopping⟩ := Option.bind_eq_some_iff.mp waits
  obtain ⟨next, rfl, respawns⟩ := step_of_stopping waits stepped
  have listed := listing_endStop s st.id id
  by_cases own : st.id = id
  · rw [if_pos own.symm] at listed
    have among : c.waitsFor id ∧ c.stops id := by
      cases c with
      | stop | restartStop =>
        cases stopping
        exact ⟨own, own.symm⟩
      | _ => cases stopping
    exact .leaves (.inr ⟨n, c, rfl, here, among.2⟩) _ (.inr ⟨rfl, n, c, here, among.1⟩)
      ((listing_carryOn _ n next id).trans listed)
  · rw [if_neg (Ne.symm own)] at listed
    refine .rests ((listing_carryOn _ n next id).trans listed) ?_
    have here' : (s.endStop st.id).underWay n = some c := here
    rw [winding_carryOn_of_not here', winding_congr (s.endStop_sheds st.id).underWay]
    · intro waits
      cases c with
      | stop | restartStop =>
        cases stopping
        exact own waits
      | _ => cases stopping
    · intro d entered waits
      obtain ⟨_, sp, rfl⟩ := respawns d entered
      exact waits

theorem stepShutdown_relists {st : Stop} {rest : List ComponentId}
    (here : s.underWay n = some (.shutdown st rest)) (stepped : s.stepShutdown n st rest = some t)
    (id : ComponentId) : s.Relists (.move (.call n)) t id := by
  have listed := listing_endStop s st.id id
  have clears := drain_clears rest (s.endStop st.id) id
  have underWay : ((s.endStop st.id).drain rest).1.underWay = s.underWay :=
    (drain_sheds rest (s.endStop st.id)).1.underWay
  rw [stepShutdown_eq stepped]
  generalize (s.endStop st.id).drain rest = outcome at clears underWay
  obtain ⟨u, waits⟩ := outcome
  have here' : u.underWay n = some (.shutdown st rest) := by rw [underWay, here]
  by_cases own : st.id = id
  · -- The stop that ends is the one of this id: whatever the drain does to it leaves nothing.
    have ends : s.EndsStop (.move (.call n)) id := .inr ⟨n, _, rfl, here, .inl own.symm⟩
    rw [if_pos own.symm] at listed
    cases clears with
    | spares same =>
      exact .leaves ends _ (.inr ⟨rfl, n, _, here, own⟩)
        ((listing_carryOn u n _ id).trans (same.trans listed))
    | unroutes _ _ _ same | clears _ same =>
      exact .leaves ends none (.inl rfl) ((listing_carryOn u n _ id).trans (by rw [same, listed]))
  · have ends : id ∈ rest → s.EndsStop (.move (.call n)) id := fun among =>
      .inr ⟨n, _, rfl, here, .inr among⟩
    rw [if_neg (Ne.symm own)] at listed
    have other : ¬ (Call.shutdown st rest).waitsFor id := own
    cases clears with
    | spares same others =>
      refine .rests ((listing_carryOn u n _ id).trans (same.trans listed)) ?_
      rw [winding_carryOn_of_not here' other, winding_congr underWay]
      intro d next waits'
      obtain ⟨st', waits, own'⟩ := waitsFor_of_drained next waits'
      exact others st' waits own'
    | unroutes among waits own' same =>
      obtain ⟨⟨st', rest'⟩, rfl, rfl⟩ := Option.map_eq_some_iff.mp waits
      exact .unroutes (ends among) (winding_carryOn here' own')
        ((listing_carryOn u n _ id).trans (by rw [same, listed]))
    | clears among same =>
      exact .leaves (ends among) none (.inl rfl)
        ((listing_carryOn u n _ id).trans (by rw [same, listed]))

theorem stepCall_relists (stepped : s.stepCall n = some t) (id : ComponentId) :
    s.Relists (.move (.call n)) t id := by
  cases here : s.underWay n with
  | none => exact .of_settles (settles_of_idle here stepped)
  | some c =>
    obtain ⟨running, lifecycle⟩ := underWay_eq_some.mp here
    cases c with
    | spawn | restartSpawn => exact spawning_relists (by rw [here]; rfl) stepped id
    | stop | restartStop => exact stopping_relists (by rw [here]; rfl) stepped id
    | shutdown st rest =>
      rw [stepCall, running] at stepped
      exact stepShutdown_relists here stepped id
    | _ => cases lifecycle

theorem enroll_relists {i : Nat} (stepped : s.enroll i = some t) (id : ComponentId) :
    s.Relists (.move (.enroll i)) t id := by
  obtain ⟨c, here, rfl⟩ := enroll_eq stepped
  by_cases own : id = c
  · subst own
    refine .enrolls rfl ((s.enrolling.eraseIdx i).contains id) ?_ Iff.rfl
    by_cases on : s.roster.contains id = true <;> simp [listing, on]
  · have left : id ∈ s.enrolling.eraseIdx i ↔ id ∈ s.enrolling := by
      rw [List.mem_eraseIdx_iff_getElem?, List.mem_iff_getElem?]
      constructor
      · rintro ⟨k, _, there⟩
        exact ⟨k, there⟩
      · rintro ⟨k, there⟩
        refine ⟨k, ?_, there⟩
        rintro rfl
        rw [here] at there
        exact own (Option.some.inj there).symm
    refine .of_same ?_ rfl
    by_cases on : s.roster.contains c = true <;> simp [listing, on, own, left]

theorem move_relists (s : State) (m : Move) (id : ComponentId) :
    s.Relists (.move m) ((s.step m).getD s) id := by
  cases stepped : s.step m with
  | none => exact .of_same rfl rfl
  | some t =>
    rw [Option.getD_some]
    cases m with
    | alarm number =>
      obtain ⟨_, _, _, rfl⟩ := stepAlarm_eq stepped
      refine .of_same ?_ rfl
      simp only [listing, Ledger.knows, Ledger.members_ring]
    | actor a => exact .of_settles (stepActor_settles stepped).settles
    | enroll i => exact enroll_relists stepped id
    | call n => exact stepCall_relists stepped id

end Step

theorem sendRequest_relists (s : State) (sender target : ComponentId) (payload : Bytes)
    (timeout? : Option Duration) (awaited : Bool) (id : ComponentId) :
    s.Relists (.sendRequest sender target payload timeout? awaited)
      (s.after (.sendRequest sender target payload timeout? awaited)) id := by
  have opened := s.listing_openExchange sender target
    (timeout?.getD s.config.messaging.requestTimeout) id
  obtain ⟨_, outline⟩ := s.openExchange_outline sender target
    (timeout?.getD s.config.messaging.requestTimeout)
  have settles : State.Settles _ _ :=
    s.sendRequest_settles sender target payload timeout? awaited
  exact .of_same ((settles.listing id).trans opened)
    (settles.underWay.trans (congrArg Outline.underWay outline))

section Reroute

theorem relists_of_rerouted {v : Act} {c : ComponentId} {post : PostOffice}
    (reroutes : v.reroutes id ↔ id = c)
    (kept : id ≠ c → post.routes.get? id = s.post.routes.get? id)
    (led : post.routes.get? id = none ∨ post.routes.get? id = s.post.routes.get? id ∨
      ∃ b, v = .route id b) : s.Relists v { s with post } id := by
  by_cases own : id = c
  · exact .reroutes (reroutes.mpr own) (post.routes.get? id) led rfl Iff.rfl
  · exact .of_same (congrArg (Listing.mk _ · _ _) (kept own)) rfl

theorem route_relists (s : State) (c : ComponentId) (box : Nat) (id : ComponentId) :
    s.Relists (.route c box) (s.after (.route c box)) id := by
  have kept : id ≠ c → (s.post.route c box).routes.get? id = s.post.routes.get? id :=
    fun other => Table.get?_insert_of_ne _ _ other
  refine relists_of_rerouted Iff.rfl kept ?_
  by_cases own : id = c
  · exact .inr (.inr ⟨box, by rw [own]⟩)
  · exact .inr (.inl (kept own))

theorem unroute_relists (s : State) (c id : ComponentId) :
    s.Relists (.unroute c) (s.after (.unroute c)) id := by
  have left : (s.post.unroute c).routes.get? id = if id = c then none else s.post.routes.get? id :=
    Table.get?_erase _ c id
  refine relists_of_rerouted Iff.rfl (fun other => by rw [left, if_neg other]) ?_
  rw [left]
  split
  · exact .inl rfl
  · exact .inr (.inl rfl)

theorem unrouteFrom_relists (s : State) (c : ComponentId) (box : Nat) (id : ComponentId) :
    s.Relists (.unrouteFrom c box) (s.after (.unrouteFrom c box)) id := by
  have left : (s.post.unrouteFrom c box).2.routes.get? id = s.post.routes.get? id ∨
      id = c ∧ (s.post.unrouteFrom c box).2.routes.get? id = none := by
    rw [PostOffice.unrouteFrom]
    split
    · by_cases own : id = c
      · exact .inr ⟨own, own ▸ Table.get?_erase_self _ _⟩
      · exact .inl (Table.get?_erase_of_ne _ own)
    · exact .inl rfl
  have reroutes : (Act.unrouteFrom c box).reroutes id ↔ id = c := Iff.rfl
  refine relists_of_rerouted reroutes (fun other => left.resolve_right fun gone => other gone.1) ?_
  exact left.symm.imp And.right .inl

end Reroute

/-- What any act does to the listing of an id. -/
theorem after_relists (s : State) (v : Act) (id : ComponentId) : s.Relists v (s.after v) id := by
  by_cases settling : v.settling
  · exact .of_settles (settles_after settling).settles
  · cases v with
    | move m => exact s.move_relists m id
    | sendRequest sender target payload timeout? awaited =>
      exact s.sendRequest_relists sender target payload timeout? awaited id
    | abandon waiter =>
      have members : (s.ledger.abandon waiter).2.members = s.ledger.members := by
        rw [Ledger.abandon]
        split <;> rfl
      refine .of_same ?_ rfl
      simp only [after, listing, Ledger.knows, members]
    | route c box => exact s.route_relists c box id
    | unroute c => exact s.unroute_relists c id
    | unrouteFrom c box => exact s.unrouteFrom_relists c box id
    | spawn o keep => exact s.spawnComponent_relists o keep id
    | stop c => exact s.stopComponent_relists c id
    | restart o => exact s.restartComponent_relists o id
    | shutdown => exact s.shutdown_relists id
    | wait => exact .of_same rfl rfl
    | _ => exact absurd trivial settling

theorem entry_kept (still : ¬ s.EndsStop v id)
    (unseated : ∀ m a, v = .move (.call m) → ¬ s.Seats m id a) :
    (s.after v).roster.get? id = s.roster.get? id ∧
      (¬ v.reroutes id → (s.after v).post.routes.get? id = s.post.routes.get? id) := by
  cases s.after_relists v id with
  | rests same | enrolls _ _ same =>
    exact ⟨congrArg Listing.actor same, fun _ => congrArg Listing.box same⟩
  | reroutes past _ _ same =>
    exact ⟨congrArg Listing.actor same, fun aside => absurd past aside⟩
  | unroutes ends | leaves ends => exact absurd ends still
  | seats move seats => exact absurd seats (unseated _ _ move)

end State

end ComponentHost
