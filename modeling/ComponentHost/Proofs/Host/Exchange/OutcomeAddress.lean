import ComponentHost.Proofs.Host.Actor.Conduct
import ComponentHost.Proofs.Host.Mail.InTransit
import ComponentHost.Proofs.Host.Exchange.AlarmGuard
import ComponentHost.Proofs.Host.Component.SpawnSteps
import ComponentHost.Proofs.Ledger.WaiterAddress

/-! Outcomes come to whom they are owed. A response is checked against nothing but its id; that it
comes from the target of the request, and answers that request, is due to where the request has
been: it lay in the one mailbox it was routed to, which only an actor of the target draws on. -/

namespace ComponentHost.State

variable {s : State} {v : Act}

section Compute

variable {id : ComponentId} {a box : Nat} {mail : Mail} {payload bytes : Bytes}

def Computed (s : State) (id : ComponentId) (box : Nat) (mail : Mail) (payload bytes : Bytes) :
    Prop :=
  ∃ a x c, s.actors[a]? = some x ∧ x.role = .component c ∧ c.id = id ∧ x.box = box ∧
    mail ∈ s.handled a ∧ c.Computes payload bytes

theorem Computed.after (computed : s.Computed id box mail payload bytes) (v : Act) :
    (s.after v).Computed id box mail payload bytes := by
  obtain ⟨a, x, c, here, role, own, housed, taken, computes⟩ := computed
  obtain ⟨y, there, becomes⟩ := actor_after here v
  obtain ⟨moment, mem, took⟩ := List.mem_flatMap.mp taken
  exact ⟨a, y, c, there, becomes.role.trans role, own, becomes.box.trans housed,
    List.mem_flatMap.mpr ⟨moment, (trace_after here v).subset mem, took⟩, computes⟩

theorem mem_handled_of_began {now : Duration} (began : ⟨now, a, .began (.handle mail)⟩ ∈ s.log) :
    mail ∈ s.handled a := by
  have own : ⟨now, a, .began (.handle mail)⟩ ∈ s.log.filter (·.actor = a) :=
    List.mem_filter.mpr ⟨began, by simp⟩
  exact List.mem_flatMap.mpr ⟨_, List.mem_map_of_mem own, List.mem_singleton_self mail⟩

end Compute

section Pursuit

structure Asked where
  id : CorrelationId
  sender : ComponentId
  target : ComponentId
  payload : Bytes
  route : Option Nat

def Asked.mail (q : Asked) : Mail := .request q.sender q.id q.payload

variable {q : Asked} {w : Nat} {r : Response}

/-- An outcome that a request may come to: it bears the id and the parties of the request, and if it
is a payload, an actor of the target computed it, who took the request from where it was routed. -/
structure Rightful (s : State) (q : Asked) (r : Response) : Prop where
  id : r.id = q.id
  sender : r.sender = q.target
  recipient : r.recipient = q.sender
  computed (bytes : Bytes) : r.reply = .ok bytes →
    ∃ box, q.route = some box ∧ s.Computed q.target box q.mail q.payload bytes

theorem Rightful.after (rightful : s.Rightful q r) (v : Act) : (s.after v).Rightful q r where
  id := rightful.id
  sender := rightful.sender
  recipient := rightful.recipient
  computed bytes replied := by
    obtain ⟨box, route, computed⟩ := rightful.computed bytes replied
    exact ⟨box, route, computed.after v⟩

theorem rightful_of_refused (refused : Ledger.Refused q.id q.sender q.target r) :
    s.Rightful q r := by
  obtain ⟨failure, now, rfl⟩ := refused
  exact ⟨rfl, rfl, rfl, nofun⟩

/-- A request that was made, whose outcomes go to waiter `w`: wherever it is, it is on its way to an
actor of its target, and what has come of it is rightful. -/
structure Pursued (s : State) (q : Asked) (w : Nat) : Prop where
  guarded : s.Guarded
  working : s.Working
  tidy : s.Tidy
  issued : ∃ k, q.id = .issued k ∧ k < s.issued
  reaches (box : Nat) : q.route = some box → ∃ a, s.Embodies a q.target ∧ s.boxOf a = box
  conveyed : s.Conveys q.id q.mail (q.route = some ·)
  addressed : s.ledger.Addressed w q.id q.sender q.target (s.Rightful q)

namespace Pursued

variable (pursued : s.Pursued q w)

include pursued

theorem rightful_of_replies {a : Nat} (replies : s.Replies a q.id r) : s.Rightful q r := by
  generalize own : q.id = id at replies
  obtain @⟨x, hook, work, due, _, requester, reply, here, busy, _, effect⟩ := replies
  obtain ⟨now, finds, began⟩ := pursued.working.engaged a x here hook work _ busy
  obtain ⟨c, payload, role, rfl, computes⟩ := finds.does.responds effect
  obtain ⟨same, route⟩ := pursued.conveyed.inHand a x _ work _ here busy (own ▸ rfl)
  obtain ⟨rfl, rfl, rfl⟩ : requester = q.sender ∧ id = q.id ∧ payload = q.payload := by
    cases same
    exact ⟨rfl, rfl, rfl⟩
  obtain ⟨b, ⟨y, c', there, role', own', name⟩, leads⟩ := pursued.reaches x.box route
  rw [boxOf_eq there] at leads
  obtain rfl := pursued.tidy.apart b a y x there here leads
  rw [here] at there
  cases there
  rw [role] at role'
  cases role'
  refine ⟨rfl, congrArg ComponentId.mk name, rfl, fun bytes replied => ⟨x.box, route, b, x, c, here,
    role, own', rfl, mem_handled_of_began began, computes bytes replied⟩⟩

theorem addressed_after (unforged : ¬ v.forges q.id) :
    (s.after v).ledger.Addressed w q.id q.sender q.target ((s.after v).Rightful q) := by
  have kept := pursued.addressed.mono fun r rightful => rightful.after v
  have heard : ∀ r, s.Hears v q.id r → (s.after v).Rightful q r := by
    intro r hears
    cases v with
    | respond => exact absurd hears.1.symm unforged
    | move move =>
      cases move with
      | actor a => exact (pursued.rightful_of_replies hears).after _
      | _ => exact hears.elim
    | _ => exact hears.elim
  have refusals : ∀ r, Ledger.Refused q.id q.sender q.target r → (s.after v).Rightful q r :=
    fun _ => rightful_of_refused
  cases s.after_deals v with
  | dwindles dwindles => exact kept.dwindles heard refusals dwindles.1
  | opens _ dwindles =>
    obtain ⟨ledger, opened, entered, _, waiters⟩ :=
      s.openExchange_eq (Ledger.Guarded.free pursued.guarded) _ _ _
    rw [opened] at dwindles
    exact (kept.opened rfl entered waiters).dwindles heard refusals dwindles.1
  | rings _ _ ledger _ =>
    rw [ledger]
    exact kept.ring refusals s.clock _
  | abandons _ ledger _ =>
    rw [ledger]
    exact kept.abandon _

theorem after (unforged : ¬ v.forges q.id) : (s.after v).Pursued q w where
  guarded := pursued.guarded.after v
  working := pursued.working.after v
  tidy := pursued.tidy.after v
  issued := by
    obtain ⟨k, own, past⟩ := pursued.issued
    exact ⟨k, own, Nat.lt_of_lt_of_le past (s.issued_le_after v)⟩
  reaches box route := by
    obtain ⟨a, embodies, leads⟩ := pursued.reaches box route
    exact ⟨a, embodies.after v, (boxOf_after embodies.known v).trans leads⟩
  conveyed := by
    refine pursued.conveyed.stays unforged fun new => ?_
    obtain ⟨k, own, past⟩ := pursued.issued
    rw [own] at new
    cases new
    exact absurd past (Nat.lt_irrefl _)
  addressed := pursued.addressed_after unforged

theorem run {acts : List Act} (unforged : ∀ v ∈ acts, ¬ v.forges q.id) :
    (s.run acts).Pursued q w :=
  run_induction (P := (·.Pursued q w)) pursued fun _ v mem pursued => pursued.after (unforged v mem)

end Pursued

theorem unsent_run (config : HostConfig) (engine : Engine) {acts : List Act} {k : Nat}
    (unforged : ∀ v ∈ acts, ¬ v.forges (.issued k)) (mail : Mail) :
    ((fresh config engine).run acts).issued ≤ k →
      ((fresh config engine).run acts).Conveys (.issued k) mail fun _ => False := by
  refine run_induction (P := fun t => t.issued ≤ k → t.Conveys (.issued k) mail fun _ => False)
    (fun _ => .fresh config engine) fun t v mem unsent below => ?_
  have before := t.issued_le_after v
  refine (unsent (Nat.le_trans before below)).stays (unforged v mem) fun next => ?_
  cases next
  exact Nat.le_antisymm below before

theorem pursued_of_asked (config : HostConfig) (engine : Engine) {before : List Act}
    (sender : ComponentId) {target : ComponentId} (payload : Bytes) (timeout? : Option Duration)
    (awaited : Bool) (aside : ∀ v ∈ before, ∀ box, v ≠ .route target box)
    (unforged : ∀ v ∈ before, ¬ v.forges (.issued ((fresh config engine).run before).issued)) :
    let s := (fresh config engine).run before
    let q : Asked := ⟨.issued s.issued, sender, target, payload, s.post.routes.get? target⟩
    (s.after (.sendRequest sender target payload timeout? awaited)).Pursued q
      s.ledger.waiters.length := by
  intro s q
  have unguarded : (fresh config engine).Guarded := Ledger.Guarded.empty
  have guarded : s.Guarded := unguarded.run before
  have served : s.ledger.Served := served_run unguarded (served_fresh config engine) before
  have posted : Dwindles (fun _ _ => False) _ _ :=
    .of_settles (s.sendRequest_settles sender target payload timeout? awaited)
  obtain ⟨ledger, opened, entered, _, waiters⟩ := s.openExchange_eq
    (Ledger.Guarded.free guarded) sender target (timeout?.getD s.config.messaging.requestTimeout)
  rw [opened] at posted
  refine ⟨guarded.after _, ((Working.fresh config engine).run before).after _,
    ((Tidy.fresh config engine).run before).after _, ⟨s.issued, rfl, ?_⟩, fun box route => ?_,
    (unsent_run config engine unforged _ (Nat.le_refl _)).sent, ?_⟩
  · rw [issued_sendRequest]
    exact Nat.lt_succ_self _
  · obtain ⟨a, embodies, leads⟩ := reaches_run config engine aside box route
    exact ⟨a, embodies.after _, (boxOf_after embodies.known _).trans leads⟩
  · exact (served.addressed entered waiters _).dwindles (fun _ none => none.elim)
      (fun _ => rightful_of_refused (q := q)) posted.1

end Pursuit

/-- Where routes to a component are not set past the host, and mail and responses of an exchange do
not come from outside it, every outcome that the waiter of a request is handed bears the id and the
parties of that request, whether it is a response, a timeout or a cancellation; and a payload was
computed by an actor of the target that took the request from the mailbox it had been routed to. -/
theorem outcomes_addressed (config : HostConfig) (engine : Engine) (before later : List Act)
    (sender target : ComponentId) (payload : Bytes) (timeout? : Option Duration)
    (awaited : Bool) :
    let s := (fresh config engine).run before
    let t := (s.after (.sendRequest sender target payload timeout? awaited)).run later
    let id := CorrelationId.issued s.issued
    let waiter := s.ledger.waiters.length
    (∀ v ∈ before, ∀ box, v ≠ .route target box) → (∀ v ∈ before ++ later, ¬ v.forges id) →
      (∃ u, s.openExchange sender target (timeout?.getD s.config.messaging.requestTimeout) =
        (id, waiter, u)) ∧
      ∃ x, t.ledger.waiters[waiter]? = some x ∧ ∀ r ∈ x.received,
        t.Rightful ⟨id, sender, target, payload, s.post.routes.get? target⟩ r := by
  intro s t id waiter aside unforged
  have unguarded : (fresh config engine).Guarded := Ledger.Guarded.empty
  obtain ⟨_, opened, _⟩ := s.openExchange_eq (Ledger.Guarded.free (unguarded.run before))
    sender target (timeout?.getD s.config.messaging.requestTimeout)
  have asked := pursued_of_asked config engine sender payload timeout? awaited aside
    fun v mem => unforged v (List.mem_append_left later mem)
  have pursued : t.Pursued _ waiter := asked.run fun v mem =>
    unforged v (List.mem_append_right before mem)
  have known := List.getElem?_eq_getElem pursued.addressed.known
  exact ⟨⟨_, opened⟩, _, known, fun r mem => pursued.addressed.handed _ r known mem⟩

section Reply

def answering : Engine where
  load _ _ := .ok {
    exports := .ofList ["handle-request"]
    run := fun _ _ => ⟨[.wait (.ofMillis 100)], .output ⟨[.i32 7]⟩⟩ }

/-- A component is stopped with a request in hand, which takes too long, and spawned again. -/
def replacing : List Act :=
  [.spawn sampleOrder none, .move (.call 0), .move (.actor 0), .move (.call 0),
    .sendRequest ⟨"b"⟩ ⟨"a"⟩ [] none false, .move (.actor 0), .stop ⟨"a"⟩, .wait (.ofMillis 50),
    .move (.call 2), .spawn sampleOrder none, .move (.call 3), .move (.actor 1), .move (.call 3)]

def replaced : State := (fresh { lifecycle := { stopTimeoutMs := 50 } } answering).run replacing

def replying : List Act :=
  [.move (.actor 1), .wait (.ofMillis 50), .move (.actor 0), .wait (.ofMillis 50),
    .move (.actor 1)]

def replied : State := (replaced.after (.sendRequest ⟨"b"⟩ ⟨"a"⟩ [1] none false)).run replying

theorem replied_rightfully : ∃ x r, replied.ledger.waiters[1]? = some x ∧ x.received = [r] ∧
    r.reply = .ok [7, 0, 0, 0] ∧ replied.Rightful ⟨.issued 1, ⟨"b"⟩, ⟨"a"⟩, [1], some 1⟩ r := by
  have aside : ∀ v ∈ replacing, ∀ box, v ≠ .route ⟨"a"⟩ box := by simp [replacing]
  have unforged : ∀ id, ∀ v ∈ replacing ++ replying, ¬ v.forges id := by
    simp [replacing, replying, Act.forges]
  have issued : replaced.issued = 1 := by decide +kernel
  have waiters : replaced.ledger.waiters.length = 1 := by decide +kernel
  have route : replaced.post.routes.get? ⟨"a"⟩ = some 1 := by decide +kernel
  have handed : replied.ledger.waiters[1]? = some ⟨true,
      [⟨.issued 1, ⟨"a"⟩, ⟨"b"⟩, .ok [7, 0, 0, 0], .ofMillis 150⟩]⟩ := by decide +kernel
  obtain ⟨_, x, here, rightful⟩ := outcomes_addressed { lifecycle := { stopTimeoutMs := 50 } }
    answering replacing replying ⟨"b"⟩ ⟨"a"⟩ [1] none false aside (unforged _)
  change replied.ledger.waiters[replaced.ledger.waiters.length]? = some x at here
  rw [waiters, handed] at here
  cases here
  have addressed := rightful _ List.mem_cons_self
  change replied.Rightful ⟨.issued replaced.issued, _, _, _, replaced.post.routes.get? _⟩ _
    at addressed
  rw [issued, route] at addressed
  exact ⟨_, _, handed, rfl, rfl, addressed⟩

end Reply

end ComponentHost.State
