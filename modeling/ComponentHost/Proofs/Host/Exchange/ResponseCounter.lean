import ComponentHost.Proofs.Host.Mail.Counters

/-! Responses and their counter. A response that finds its exchange pending is counted, and handed
to the waiter of the exchange; whether that waiter is still there makes no difference to the
counter. -/

namespace ComponentHost.State

variable {s t : State} {v : Act} {r : Response} {acts : List Act}

section Hearing

def awaits (s : State) (r : Response) : Bool :=
  (s.ledger.pending.get? r.id).any fun e => s.ledger.waiters[e.waiter]?.any (·.listening)

def heard? (s : State) (v : Act) : Option Response := (s.responds? v).filter s.awaits

/-- The response that finds its exchange pending, but the waiter gone. -/
def missed? (s : State) (v : Act) : Option Response :=
  (s.responds? v).filter fun r => s.ledger.pending.contains r.id && !s.awaits r

theorem after_gives (gives : s.responds? v = some r) :
    (s.after v).stats = (s.gave r).stats ∧ (s.after v).ledger = (s.gave r).ledger := by
  cases v with
  | respond id responder requester reply =>
    cases gives
    rw [show s.after (.respond id responder requester reply) = _ from
      perform_respond s id responder requester reply]
    exact ⟨rfl, rfl⟩
  | move m =>
    cases m with
    | actor a =>
      rw [after]
      cases stepped : s.step (.actor a) with
      | none => cases (responds?_of_closed stepped).symm.trans gives
      | some t => exact (stepActor_gives stepped).1 r gives
    | _ => cases gives
  | _ => cases gives

section Waiter

variable {w : Waiter}

theorem hand_of_gone (gone : w.listening = false) (r : Response) : w.hand r = w := by
  rw [Waiter.hand, gone]
  rfl

theorem hand_of_listening (there : w.listening = true) (r : Response) :
    w.hand r = { w with received := w.received ++ [r] } := by
  rw [Waiter.hand, if_pos there]

end Waiter

theorem waiters_of_heard (heard : s.heard? v = some r) : ∃ (w : Nat) (x : Waiter),
    s.ledger.waiters[w]? = some x ∧ x.listening = true ∧
      (s.after v).ledger.waiters =
        s.ledger.waiters.set w { x with received := x.received ++ [r] } := by
  obtain ⟨gives, awaited⟩ := Option.filter_eq_some_iff.mp heard
  rw [awaits, Option.any_eq_true] at awaited
  obtain ⟨e, pending, awaited⟩ := awaited
  rw [Option.any_eq_true] at awaited
  obtain ⟨x, here, listening⟩ := awaited
  refine ⟨e.waiter, x, here, listening, ?_⟩
  rw [(after_gives gives).2, gave]
  simp only [Ledger.attempt, Ledger.resolve, pending, Ledger.close]
  rw [modify_of_getElem? here, hand_of_listening listening]

theorem waiters_of_unheard (gives : s.responds? v = some r) (unheard : s.awaits r = false) :
    (s.after v).ledger.waiters = s.ledger.waiters := by
  rw [(after_gives gives).2, gave]
  simp only [Ledger.attempt, Ledger.resolve]
  cases pending : s.ledger.pending.get? r.id with
  | none => rfl
  | some e =>
    simp only [Ledger.close]
    cases here : s.ledger.waiters[e.waiter]? with
    | none => exact List.modify_eq_self (List.getElem?_eq_none_iff.mp here)
    | some x =>
      have gone : x.listening = false := by simpa [awaits, pending, here] using unheard
      obtain ⟨_, rfl⟩ := List.getElem?_eq_some_iff.mp here
      rw [modify_of_getElem? here, hand_of_gone gone, List.set_getElem_self]

end Hearing

section Count

@[simp] theorem responsesDelivered_noting (x : Stats) (purpose : Purpose)
    (r : Except PostError Unit) :
    (x.noting purpose r).responsesDelivered = x.responsesDelivered := by
  cases purpose <;> cases r <;> rfl

theorem responsesDelivered_after (s : State) (v : Act) : (s.after v).stats.responsesDelivered =
    s.stats.responsesDelivered + ((s.heard? v).toList.length + (s.missed? v).toList.length) := by
  rw [heard?, missed?]
  cases gives : s.responds? v with
  | none =>
    cases s.after_counts v with
    | ends _ _ stats | rests _ _ stats => simp [stats]
    | responds _ gives' => cases gives.symm.trans gives'
  | some r =>
    rw [(after_gives gives).1, gave]
    cases pending : s.ledger.pending.get? r.id with
    | none =>
      have unawaited : s.awaits r = false := by rw [awaits, pending]; rfl
      simp [Option.filter, unawaited, Table.contains, pending]
    | some e =>
      cases awaited : s.awaits r <;> simp [Option.filter, awaited, Table.contains, pending]

/-- The counter of responses counts those that reach a waiter and those that find it gone alike, so
it is the number of those that reach one only as long as there are no others. The ones are put into
the hands of a waiter that is there; the others, like those whose exchange is past, into
nobody's. -/
theorem responses_counted (config : HostConfig) (engine : Engine) (acts : List Act) :
    let s := fresh config engine
    let t := s.run acts
    t.stats.responsesDelivered = (s.along heard? acts).length + (s.along missed? acts).length ∧
      (t.stats.responsesDelivered = (s.along heard? acts).length ↔ s.along missed? acts = []) ∧
      ∀ before v later r, acts = before ++ v :: later →
        let u := s.run before
        let waiters := (u.after v).ledger.waiters
        (u.heard? v = some r → ∃ (w : Nat) (x : Waiter), u.ledger.waiters[w]? = some x ∧
            x.listening = true ∧
            waiters = u.ledger.waiters.set w { x with received := x.received ++ [r] }) ∧
          (u.responds? v = some r → u.heard? v = none → waiters = u.ledger.waiters) := by
  intro s t
  have counted : t.stats.responsesDelivered =
      (s.along heard? acts).length + (s.along missed? acts).length := by
    refine history_induction (P := fun acts => (s.run acts).stats.responsesDelivered =
      (s.along heard? acts).length + (s.along missed? acts).length) rfl fun acts v _ ih => ?_
    rw [run_concat, along_concat, along_concat, List.length_append, List.length_append,
      responsesDelivered_after, ih]
    omega
  refine ⟨counted, ?_, fun before v later r _ => ⟨waiters_of_heard, fun gives unheard => ?_⟩⟩
  · rw [counted, ← List.length_eq_zero_iff]
    omega
  · refine waiters_of_unheard gives ?_
    simpa [heard?, gives, Option.filter] using unheard

/-- A response to a requester that has gone is counted, although nobody receives it. -/
theorem lost_response_counted :
    let s := fresh {} (.paced [] 0)
    let acts : List Act := [.install 1, .route ⟨"b"⟩ 0, .sendRequest ⟨"a"⟩ ⟨"b"⟩ [] none false,
      .abandon 0, .respond (.issued 0) ⟨"b"⟩ ⟨"a"⟩ (.ok [7])]
    let t := s.run acts
    t.stats.responsesDelivered = 1 ∧ s.along heard? acts = [] ∧
      t.ledger.waiters[0]? = some { listening := false } :=
  ⟨rfl, rfl, rfl⟩

end Count

end ComponentHost.State
