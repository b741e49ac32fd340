import ComponentHost.Proofs.Host.Mail.InTransit
import ComponentHost.Proofs.Host.Exchange.RequestDeadline

/-! Postings. Mail goes to the mailbox that its target is routed to as the call begins. It is
offered there at once, and again with every step of a call that stands in line. A posting ends once,
when its mail is let in or turned away, or at once where there is no route; what the call returns
says how. -/

namespace ComponentHost

/-- A posting by the call of a number: what it is for, and the mailbox of its target, if there was
one, when the call began. -/
structure Delivery where
  number : Nat
  purpose : Purpose
  target : ComponentId
  box? : Option Nat
  mail : Mail
deriving DecidableEq

structure Entrant where
  box : Nat
  sender : Nat
  mail : Mail
deriving DecidableEq

namespace Purpose

def isMessage : Purpose → Bool
  | message => true
  | bare | request .. => false

def isRequest : Purpose → Bool
  | request .. => true
  | bare | message => false

def next : Purpose → Except PostError Unit → Call ⊕ Answer
  | bare, r | message, r => .inr (.posted r)
  | request id waiter awaited, .ok () =>
    if awaited then .inl (.await waiter) else .inr (.requested (.ok (id, waiter)))
  | request _ _ awaited, .error e =>
    .inr (if awaited then .replied (.error e.toRequestFailure) else .requested (.error e))

theorem errand?_of_next {purpose : Purpose} {r : Except PostError Unit} {c : Call}
    (next : purpose.next r = .inl c) : c.errand? = none := by
  cases purpose with
  | bare | message => cases next
  | request id waiter awaited =>
    cases r with
    | ok posted =>
      cases awaited <;> cases next
      rfl
    | error e => cases next

end Purpose

def Stats.noting (x : Stats) : Purpose → Except PostError Unit → Stats
  | .bare, _ => x
  | .message, .ok () => { x with messagesSent := x.messagesSent + 1 }
  | .request .., .ok () => { x with requestsSent := x.requestsSent + 1 }
  | .message, .error _ | .request .., .error _ =>
    { x with routingFailures := x.routingFailures + 1 }

namespace Delivery

def settled? (d : Delivery) : Offer → Option (Except PostError Unit)
  | .accepted => some (.ok ())
  | .refused => some (.error (.mailboxClosed d.target))
  | .waiting => none

def result? (d : Delivery) (p : PostOffice) : Option (Except PostError Unit) :=
  match d.box? with
  | none => some (.error (.targetNotFound d.target.name))
  | some box => d.settled? (p.offer box d.number d.mail).1

theorem result?_of_box {d : Delivery} {box : Nat} (route : d.box? = some box) (p : PostOffice) :
    d.result? p = d.settled? (p.offer box d.number d.mail).1 := by
  rw [result?, route]

theorem result?_unrouted {d : Delivery} (unrouted : d.box? = none) (p : PostOffice) :
    d.result? p = some (.error (.targetNotFound d.target.name)) := by
  rw [result?, unrouted]

def offered (d : Delivery) (p : PostOffice) : PostOffice :=
  match d.box? with
  | none => p
  | some box => (p.offer box d.number d.mail).2

theorem offered_of_box {d : Delivery} {box : Nat} (route : d.box? = some box) (p : PostOffice) :
    d.offered p = (p.offer box d.number d.mail).2 := by
  rw [offered, route]

theorem offered_unrouted {d : Delivery} (unrouted : d.box? = none) (p : PostOffice) :
    d.offered p = p := by
  rw [offered, unrouted]

def entrant? (d : Delivery) : Except PostError Unit → Option Entrant
  | .ok () => d.box?.map fun box => ⟨box, d.number, d.mail⟩
  | .error _ => none

end Delivery

def CallState.delivery? (n : Nat) : CallState → Option Delivery
  | .running (.deliver purpose target box mail) => some ⟨n, purpose, target, some box, mail⟩
  | _ => none

namespace State

variable {s t u : State} {v : Act} {n : Nat} {d : Delivery} {r : Except PostError Unit}

section Attempt

def delivering? (s : State) (n : Nat) : Option Delivery := s.calls[n]?.bind (·.delivery? n)

def begins? (s : State) : Act → Option Delivery
  | .post target mail => some (posting .bare target mail)
  | .sendMessage sender target payload => some (posting .message target (.message sender payload))
  | .sendRequest sender target payload timeout? awaited =>
    let waiter :=
      (s.openExchange sender target (timeout?.getD s.config.messaging.requestTimeout)).2.1
    some (posting (.request (.issued s.issued) waiter awaited) target
      (.request sender (.issued s.issued) payload))
  | _ => none
where
  posting (purpose : Purpose) (target : ComponentId) (mail : Mail) : Delivery :=
    ⟨s.calls.length, purpose, target, s.post.routes.get? target, mail⟩

/-- The posting that an act attempts: a new one, or one that stands in line. -/
def delivery? (s : State) : Act → Option Delivery
  | .move (.call n) => s.delivering? n
  | v => s.begins? v

def ending? (s : State) (v : Act) : Option (Delivery × Except PostError Unit) :=
  (s.delivery? v).bind fun d => (d.result? s.post).map fun r => (d, r)

def admits? (s : State) (v : Act) : Option Entrant :=
  (s.offers? v).bind fun (box, sender, mail) =>
    if (s.post.offer box sender mail).1 = .accepted then some ⟨box, sender, mail⟩ else none

theorem delivering?_eq_some : s.delivering? n = some d ↔ ∃ box, d.box? = some box ∧ d.number = n ∧
    s.calls[n]? = some (.running (.deliver d.purpose d.target box d.mail)) := by
  rw [delivering?, Option.bind_eq_some_iff]
  constructor
  · rintro ⟨c, here, standing⟩
    unfold CallState.delivery? at standing
    split at standing
    · cases standing
      exact ⟨_, rfl, rfl, here⟩
    · cases standing
  · rintro ⟨box, route, rfl, here⟩
    exact ⟨_, here, congrArg some (by rw [← route])⟩

theorem ending?_eq_some :
    s.ending? v = some (d, r) ↔ s.delivery? v = some d ∧ d.result? s.post = some r := by
  simp only [ending?, Option.bind_eq_some_iff, Option.map_eq_some_iff, Prod.mk.injEq]
  constructor
  · rintro ⟨_, attempts, _, result, rfl, rfl⟩
    exact ⟨attempts, result⟩
  · rintro ⟨attempts, result⟩
    exact ⟨d, attempts, r, result, rfl, rfl⟩

theorem number_of_begins (begins : s.begins? v = some d) : d.number = s.calls.length := by
  cases v with
  | post | sendMessage | sendRequest =>
    obtain rfl := Option.some.inj begins
    rfl
  | _ => cases begins

theorem delivery?_of_begins (begins : s.begins? v = some d) : s.delivery? v = some d := by
  cases v with
  | move m => cases begins
  | _ => exact begins

theorem offers?_of_delivery (attempts : s.delivery? v = some d) :
    s.offers? v = d.box?.map fun box => (box, d.number, d.mail) := by
  cases v with
  | move m =>
    cases m with
    | call n =>
      obtain ⟨box, route, rfl, here⟩ := delivering?_eq_some.mp attempts
      rw [offers?, here, route]
      rfl
    | _ => cases attempts
  | post | sendMessage | sendRequest =>
    obtain rfl := Option.some.inj attempts
    rfl
  | _ => cases attempts

theorem admits?_of_delivery (attempts : s.delivery? v = some d) :
    s.admits? v = (d.result? s.post).bind d.entrant? := by
  rw [admits?, offers?_of_delivery attempts]
  cases route : d.box? with
  | none =>
    rw [Delivery.result?_unrouted route]
    rfl
  | some box =>
    simp only [Delivery.result?_of_box route, Option.map_some, Option.bind_some]
    cases (s.post.offer box d.number d.mail).1 <;>
      simp [Delivery.settled?, Delivery.entrant?, route]

end Attempt

section Step

theorem endDelivery_next (s : State) (purpose : Purpose) (target : ComponentId)
    (r : Except PostError Unit) : (s.endDelivery purpose target r).2 = purpose.next r := by
  cases r <;> cases purpose <;> rfl

theorem stats_endDelivery (s : State) (purpose : Purpose) (target : ComponentId)
    (r : Except PostError Unit) :
    (s.endDelivery purpose target r).1.stats = s.stats.noting purpose r := by
  cases r <;> cases purpose <;> rfl

theorem post_endDelivery (s : State) (purpose : Purpose) (target : ComponentId)
    (r : Except PostError Unit) : (s.endDelivery purpose target r).1.post = s.post := by
  cases r <;> cases purpose <;> rfl

theorem clock_endDelivery (s : State) (purpose : Purpose) (target : ComponentId)
    (r : Except PostError Unit) : (s.endDelivery purpose target r).1.clock = s.clock := by
  cases r <;> cases purpose <;> rfl

/-- What an attempt at a posting does: the call is left in line, or the posting ends and is noted. A
call that stood in line before changes nothing by trying again in vain. -/
inductive Attempts (s : State) (d : Delivery) (t : State) : Prop
  | waits (result : d.result? s.post = none) (call : t.delivering? d.number = some d)
    (stats : t.stats = s.stats)
    (post : t.post = d.offered s.post ∨ t.post = s.post ∧ s.delivering? d.number = some d)
  | ends {r : Except PostError Unit} (result : d.result? s.post = some r)
    (call : t.calls[d.number]? = some (.ofNext s.clock (d.purpose.next r)))
    (stats : t.stats = s.stats.noting d.purpose r) (post : t.post = d.offered s.post)

theorem Attempts.congr (attempts : u.Attempts d t) (post : u.post = s.post)
    (calls : u.calls = s.calls) (clock : u.clock = s.clock) (stats : u.stats = s.stats) :
    s.Attempts d t := by
  have standing : u.delivering? d.number = s.delivering? d.number := by
    rw [delivering?, calls, delivering?]
  cases attempts with
  | waits result call same offers =>
    exact .waits (post ▸ result) call (same.trans stats) (by rwa [post, standing] at offers)
  | ends result call same offers =>
    exact .ends (post ▸ result) (clock ▸ call) (stats ▸ same) (post ▸ offers)

theorem deliver_attempts (s : State) (purpose : Purpose) (target : ComponentId) (mail : Mail) :
    s.Attempts (begins?.posting s purpose target mail) (s.deliver purpose target mail).2 := by
  let d := begins?.posting s purpose target mail
  have ends : ∀ {u : State} {r}, d.result? s.post = some r → u.post = d.offered s.post →
      u.calls = s.calls → u.clock = s.clock → u.stats = s.stats → s.Attempts d
        ((u.endDelivery purpose target r).1.enterOrAnswer
          (u.endDelivery purpose target r).2).2 := by
    intro u r result post calls clock stats
    refine .ends result ?_ ?_ ?_
    · rw [calls_enterOrAnswer, calls_endDelivery, clock_endDelivery, endDelivery_next, calls, clock]
      exact List.getElem?_concat_length
    · rw [enterOrAnswer_eq]
      exact (stats_endDelivery u purpose target r).trans (by rw [stats]; rfl)
    · rw [enterOrAnswer_eq]
      exact (post_endDelivery u purpose target r).trans post
  unfold deliver
  cases route : s.post.routes.get? target with
  | none =>
    exact ends (Delivery.result?_unrouted route s.post)
      (Delivery.offered_unrouted route s.post).symm
      rfl rfl rfl
  | some box =>
    have result := Delivery.result?_of_box (d := d) route s.post
    have post := (Delivery.offered_of_box (d := d) route s.post).symm
    dsimp only
    cases offer : (s.post.offer box s.calls.length mail).1 with
    | waiting =>
      refine .waits (result.trans (congrArg _ offer)) ?_ rfl (.inl post)
      refine delivering?_eq_some.mpr ⟨box, route, rfl, ?_⟩
      exact List.getElem?_concat_length
    | accepted => exact ends (result.trans (congrArg _ offer)) post rfl rfl rfl
    | refused => exact ends (result.trans (congrArg _ offer)) post rfl rfl rfl

theorem stepDeliver_attempts {n : Nat} (standing : s.delivering? n = some d) :
    s.Attempts d (s.after (.move (.call n))) := by
  obtain ⟨box, route, rfl, here⟩ := delivering?_eq_some.mp standing
  have known := (List.getElem?_eq_some_iff.mp here).1
  have ends : ∀ {r}, d.result? s.post = some r →
      s.Attempts d (((s.posted box d.number d.mail).endDelivery d.purpose d.target r).1.carryOn
        d.number ((s.posted box d.number d.mail).endDelivery d.purpose d.target r).2) := by
    intro r result
    refine .ends result ?_ ?_ ?_
    · rw [calls_carryOn_self (by rwa [calls_endDelivery]), clock_endDelivery, endDelivery_next]
      rfl
    · rw [carryOn_eq]
      exact stats_endDelivery _ d.purpose d.target r
    · rw [carryOn_eq, Delivery.offered_of_box route]
      exact post_endDelivery _ d.purpose d.target r
  have stepped : s.after (.move (.call d.number)) =
      (s.stepDeliver d.number d.purpose d.target box d.mail).getD s := by
    rw [after, step, stepCall, here]
  rw [stepped, stepDeliver]
  dsimp only
  have result := Delivery.result?_of_box route s.post
  cases offer : (s.post.offer box d.number d.mail).1 with
  | waiting => exact .waits (result.trans (congrArg _ offer)) standing rfl (.inr ⟨rfl, standing⟩)
  | accepted => exact ends (result.trans (congrArg _ offer))
  | refused => exact ends (result.trans (congrArg _ offer))

theorem sendRequest_opened (s : State) (sender target : ComponentId) (payload : Bytes)
    (timeout? : Option Duration) (awaited : Bool) :
    let waiter :=
      (s.openExchange sender target (timeout?.getD s.config.messaging.requestTimeout)).2.1
    ∃ ledger, s.after (.sendRequest sender target payload timeout? awaited) =
      ({ s with ledger, issued := s.issued + 1 }.deliver
        (.request (.issued s.issued) waiter awaited) target
        (.request sender (.issued s.issued) payload)).2 := by
  intro waiter
  obtain ⟨ledger, opened⟩ :=
    s.openExchange_state sender target (timeout?.getD s.config.messaging.requestTimeout)
  refine ⟨ledger, ?_⟩
  rw [← opened, ← s.openExchange_id sender target
    (timeout?.getD s.config.messaging.requestTimeout)]
  rfl

theorem after_attempts (attempts : s.delivery? v = some d) : s.Attempts d (s.after v) := by
  cases v with
  | move m =>
    cases m with
    | call n => exact stepDeliver_attempts attempts
    | _ => cases attempts
  | post target mail =>
    obtain rfl := Option.some.inj attempts
    exact s.deliver_attempts .bare target mail
  | sendMessage sender target payload =>
    obtain rfl := Option.some.inj attempts
    exact s.deliver_attempts .message target (.message sender payload)
  | sendRequest sender target payload timeout? awaited =>
    obtain rfl := Option.some.inj attempts
    obtain ⟨ledger, opened⟩ := s.sendRequest_opened sender target payload timeout? awaited
    rw [opened]
    have posted := deliver_attempts { s with ledger, issued := s.issued + 1 }
      (.request (.issued s.issued) (s.openExchange sender target
        (timeout?.getD s.config.messaging.requestTimeout)).2.1 awaited) target
      (.request sender (.issued s.issued) payload)
    exact posted.congr rfl rfl rfl rfl
  | _ => cases attempts

end Step

section Rest

@[simp] theorem errand?_fillSlot (slot : Slot) (c : CallState) :
    (fillSlot slot c).errand? = c.errand? := by
  unfold fillSlot
  split <;> rfl

@[simp] theorem delivery?_fillSlot (slot : Slot) (c : CallState) (n : Nat) :
    (fillSlot slot c).delivery? n = c.delivery? n := by
  unfold fillSlot
  split <;> rfl

theorem calls_of_other (known : n < s.calls.length) (other : v ≠ .move (.call n)) :
    ∃ slot, (s.after v).calls[n]? = s.calls[n]?.map (fillSlot slot) := by
  obtain ⟨_, _, same, _⟩ | same | ⟨k, move, _, same, _⟩ | ⟨_, _, stepped⟩ := s.calls_cases v
  · obtain ⟨slot, fills⟩ := Fills.refl s n
    exact ⟨slot, by rw [same, List.getElem?_append_left known, ← fills]⟩
  · exact Fills.of_calls same n
  · obtain ⟨slot, fills⟩ := Fills.refl s n
    have apart : k ≠ n := fun own => other (by rw [move, own])
    exact ⟨slot, by rw [same, List.getElem?_set_ne apart, ← fills]⟩
  · exact stepActor_fills stepped n

theorem calls_length_after_le (s : State) (v : Act) :
    (s.after v).calls.length ≤ s.calls.length + 1 := by
  obtain ⟨_, _, same, _⟩ | same | ⟨_, _, _, same, _⟩ | ⟨_, _, stepped⟩ := s.calls_cases v
  · exact Nat.le_of_eq (by rw [same, List.length_append, List.length_singleton])
  · exact Nat.le_succ_of_le (Nat.le_of_eq (congrArg List.length same))
  · exact Nat.le_succ_of_le (Nat.le_of_eq (by rw [same, List.length_set]))
  · obtain ⟨slot, same⟩ := stepActor_fills stepped s.calls.length
    rw [List.getElem?_eq_none (Nat.le_refl _)] at same
    exact Nat.le_succ_of_le (List.getElem?_eq_none_iff.mp same)

theorem errand?_of_other (known : n < s.calls.length) (other : v ≠ .move (.call n)) :
    (s.after v).errand? n = s.errand? n := by
  obtain ⟨slot, same⟩ := calls_of_other known other
  rw [errand?, same, errand?]
  cases s.calls[n]? <;> simp

theorem delivering?_of_other (known : n < s.calls.length) (other : v ≠ .move (.call n)) :
    (s.after v).delivering? n = s.delivering? n := by
  obtain ⟨slot, same⟩ := calls_of_other known other
  rw [delivering?, same, delivering?]
  cases s.calls[n]? <;> simp

theorem errand?_of_delivering (standing : s.delivering? n = some d) :
    s.errand? n = some (d.box?, d.mail) := by
  obtain ⟨box, route, rfl, here⟩ := delivering?_eq_some.mp standing
  rw [errand?, here, route]
  rfl

theorem lt_of_errand {e : Option Nat × Mail} (carries : s.errand? n = some e) :
    n < s.calls.length := by
  obtain ⟨_, here, _⟩ := Option.bind_eq_some_iff.mp carries
  exact (List.getElem?_eq_some_iff.mp here).1

theorem exists_delivering {box : Nat} {m : Mail} (carries : s.errand? n = some (some box, m)) :
    ∃ d, s.delivering? n = some d := by
  obtain ⟨c, here, carries⟩ := Option.bind_eq_some_iff.mp carries
  rw [delivering?, here, Option.bind_some]
  cases c with
  | returned => cases carries
  | running call =>
    cases call with
    | deliver purpose target box mail => exact ⟨_, rfl⟩
    | _ => cases carries

theorem errand?_of_own {e : Option Nat × Mail} (move : Move)
    (there : (s.after (.move move)).errand? n = some e) : s.errand? n = some e := by
  rw [after] at there
  cases stepped : s.step move with
  | none => rwa [stepped] at there
  | some t =>
    rw [stepped] at there
    exact step_errand? stepped there

theorem unburdened_after (known : n < s.calls.length) (off : s.errand? n = none) (v : Act) :
    (s.after v).errand? n = none := by
  by_cases own : v = .move (.call n)
  · subst own
    refine Option.eq_none_iff_forall_ne_some.mpr fun e there => ?_
    rw [errand?_of_own (.call n) there] at off
    cases off
  · rw [errand?_of_other known own, off]

theorem unburdened_of_next {time : Duration}
    (call : t.calls[n]? = some (.ofNext time (d.purpose.next r))) : t.errand? n = none := by
  rw [errand?, call]
  exact CallState.errand?_ofNext (fun _ => Purpose.errand?_of_next) time

theorem Attempts.delivering (attempts : s.Attempts d t) {d' : Delivery}
    (there : t.delivering? d.number = some d') : d' = d := by
  cases attempts with
  | waits _ call => exact Option.some.inj (there.symm.trans call)
  | ends _ call =>
    have carries := errand?_of_delivering there
    rw [unburdened_of_next call] at carries
    cases carries

theorem begins?_of_errandOf {box : Nat} {m : Mail} (still : ∀ move, v ≠ .move move)
    (brings : s.errandOf? v = some (some box, m)) : ∃ d, s.begins? v = some d := by
  cases v with
  | move move => exact absurd rfl (still move)
  | post | sendMessage | sendRequest => exact ⟨_, rfl⟩
  | _ => cases brings

theorem Attempts.known (attempts : s.Attempts d t) : d.number < t.calls.length := by
  cases attempts with
  | waits _ call => exact lt_of_errand (errand?_of_delivering call)
  | ends _ call => exact (List.getElem?_eq_some_iff.mp call).1

theorem delivering?_after (there : (s.after v).delivering? n = some d) :
    s.delivering? n = some d ∨ s.begins? v = some d := by
  obtain ⟨box, route, rfl, _⟩ := delivering?_eq_some.mp there
  have carries := errand?_of_delivering there
  rw [route] at carries
  have resumed : ∀ {d'}, s.delivery? v = some d' → d'.number = d.number → d' = d := by
    intro d' attempts same
    exact ((after_attempts attempts).delivering (same ▸ there)).symm
  by_cases moved : ∃ move, v = .move move
  · obtain ⟨move, rfl⟩ := moved
    have carried := errand?_of_own move carries
    by_cases own : move = .call d.number
    · subst own
      obtain ⟨d', standing⟩ := exists_delivering carried
      obtain ⟨_, _, same, _⟩ := delivering?_eq_some.mp standing
      exact .inl (resumed standing same ▸ standing)
    · have other : Act.move move ≠ .move (.call d.number) := fun same => own (Act.move.inj same)
      rw [delivering?_of_other (lt_of_errand carried) other] at there
      exact .inl there
  · have still : ∀ move, v ≠ .move move := fun move same => moved ⟨move, same⟩
    by_cases known : d.number < s.calls.length
    · rw [delivering?_of_other known (still _)] at there
      exact .inl there
    · have brings : s.errandOf? v = some (some box, d.mail) :=
        (errand?_after carries).resolve_left fun carried => known (lt_of_errand carried)
      obtain ⟨d', begins⟩ := begins?_of_errandOf still brings
      have same : d'.number = d.number := by
        have short := s.calls_length_after_le v
        have entered := lt_of_errand carries
        have first := number_of_begins begins
        omega
      exact .inr (resumed (delivery?_of_begins begins) same ▸ begins)

end Rest

end State

end ComponentHost
