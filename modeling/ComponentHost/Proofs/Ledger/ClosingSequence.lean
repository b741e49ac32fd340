import ComponentHost.Proofs.Ledger.Closing

/-! A ledger dwindles when exchanges are closed one after the other. Responses, timeouts,
cancellations, cleanups and sweeps do nothing else, so a property that one closing keeps is kept
by all of them. An exchange comes to a response that was heard or to a refusal. -/

namespace ComponentHost

def Ledger.Act.Closes (heard : CorrelationId → Response → Prop) : Ledger.Act → Prop
  | .resolve id r => heard id r
  | .expire _ | .cancel .. | .cleanup _ | .sweep => True
  | .register .. | .arm .. | .attach .. | .cancelAlarm _ | .ring _ => False

def Entry.EndsBy (heard : CorrelationId → Response → Prop) (e : Entry) (id : CorrelationId)
    (r : Response) : Prop :=
  heard id r ∨ ∃ failure now, r = e.refusal id failure now

namespace Ledger

variable {heard : CorrelationId → Response → Prop}

inductive Dwindles (heard : CorrelationId → Response → Prop) : Ledger → Ledger → Prop
  | same {l m : Ledger} (books : m.books = l.books) (alarms : m.alarms = l.alarms) :
    Dwindles heard l m
  | conclude {l m : Ledger} {how : Closing} {outcome : CorrelationId → Entry → Response}
    {id : CorrelationId} (closed : l.conclude how outcome id = .ok m)
    (ends : ∀ e : Entry, e.EndsBy heard id (outcome id e)) : Dwindles heard l m
  | trans {l m n : Ledger} (first : Dwindles heard l m) (second : Dwindles heard m n) :
    Dwindles heard l n

namespace Dwindles

variable {l m : Ledger}

theorem refl (l : Ledger) : Dwindles heard l l := .same rfl rfl

theorem attempt (l : Ledger) (how : Closing) (outcome : CorrelationId → Entry → Response)
    (id : CorrelationId) (ends : ∀ e : Entry, e.EndsBy heard id (outcome id e)) :
    Dwindles heard l (l.attempt (·.conclude how outcome id)) := by
  unfold Ledger.attempt
  split
  case h_1 closed => exact .conclude closed ends
  case h_2 => exact .refl l

theorem each (l : Ledger) (how : Closing) (failure : RequestFailure) (now : Duration)
    (ids : List CorrelationId) : Dwindles heard l
      (each (Ledger.conclude how fun id e => e.refusal id failure now) ids l).2 := by
  induction ids generalizing l with
  | nil => exact .refl l
  | cons id rest ih =>
    unfold Ledger.each
    split
    case h_1 m closed =>
      exact .trans (.conclude closed fun e => .inr ⟨failure, now, rfl⟩) (ih m)
    case h_2 => exact ih l

theorem refuse (l : Ledger) (how : Closing) (failure : RequestFailure) (now : Duration)
    (id : CorrelationId) : Dwindles heard l
      (l.attempt (·.conclude how (fun id e => e.refusal id failure now) id)) :=
  attempt l how _ id fun _ => .inr ⟨failure, now, rfl⟩

theorem rung (l : Ledger) (now : Duration) (alarm : Alarm) :
    Dwindles heard (l.cancelAlarm alarm) (l.ring now alarm) :=
  refuse _ .timeout .timeout now alarm.id

theorem after (l : Ledger) {v : Event} (closes : v.act.Closes heard) :
    Dwindles heard l (l.after v) := by
  obtain ⟨now, act⟩ := v
  cases act with
  | resolve id r => exact attempt l .response (fun _ _ => r) id fun _ => .inl closes
  | expire id => exact refuse l .timeout .timeout now id
  | cancel id failure => exact refuse l .cancellation failure now id
  | cleanup c => exact each l .cancellation .cancelled now (l.involving c)
  | sweep => exact each l .timeout .timeout now (l.overdue now)
  | _ => exact closes.elim

theorem run (l : Ledger) {vs : List Event} (closes : ∀ v ∈ vs, v.act.Closes heard) :
    Dwindles heard l (l.run vs) := by
  induction vs generalizing l with
  | nil => exact .refl l
  | cons v vs ih =>
    have first := after l (closes v List.mem_cons_self)
    exact first.trans (ih _ fun w mem => closes w (List.mem_cons_of_mem v mem))

end Dwindles

/-- Each pending exchange has a waiter of its own, which has been handed nothing. Unlike in a
sound ledger, the waiter may be gone. -/
structure Served (l : Ledger) : Prop where
  waits : ∀ {id e}, l.pending.get? id = some e → ∃ w, l.waiters[e.waiter]? = some w ∧
    w.received = []
  apart : l.Apart

namespace Served

variable {l m : Ledger}

theorem congr (served : l.Served) (pending : m.pending = l.pending)
    (waiters : m.waiters = l.waiters) : m.Served where
  waits found := waiters ▸ served.waits (pending ▸ found)
  apart found found' := served.apart (pending ▸ found) (pending ▸ found')

theorem closes (served : l.Served) {out : Verdicts} (h : Closes out l m) : m.Served where
  waits left := by
    rw [h.waiter_eq served.apart left]
    exact served.waits (h.get?_iff.mp left).1
  apart := h.apart served.apart

theorem conclude (served : l.Served) {how : Closing}
    {outcome : CorrelationId → Entry → Response} {id : CorrelationId}
    (closed : l.conclude how outcome id = .ok m) : m.Served := by
  obtain ⟨e, here, rfl⟩ := exists_of_concluded closed
  exact served.closes (closes_conclude how outcome here)

theorem dwindles (served : l.Served) (dwindles : Dwindles heard l m) : m.Served := by
  induction dwindles with
  | same books _ =>
    simp only [Ledger.books, Prod.mk.injEq] at books
    exact served.congr books.1 books.2.2.2.2
  | conclude closed _ => exact served.conclude closed
  | trans _ _ ih ih' => exact ih' (ih served)

theorem opened (served : l.Served) {id : CorrelationId} {e : Entry}
    (last : e.waiter = l.waiters.length)
    (entered : ∀ j, m.pending.get? j = if j = id then some e else l.pending.get? j)
    (waiters : m.waiters = l.waiters ++ [({} : Waiter)]) : m.Served := by
  have cases' : ∀ {j f}, m.pending.get? j = some f → (j = id ∧ f = e) ∨
      (l.pending.get? j = some f ∧ f.waiter < e.waiter) := by
    intro j f found
    rw [entered] at found
    by_cases own : j = id
    · rw [if_pos own] at found
      exact .inl ⟨own, (Option.some.inj found).symm⟩
    · rw [if_neg own] at found
      obtain ⟨w, known, _⟩ := served.waits found
      have old := (List.getElem?_eq_some_iff.mp known).1
      exact .inr ⟨found, by omega⟩
  refine ⟨fun {j f} found => ?_, fun {j k f g} found found' same => ?_⟩
  · rw [waiters]
    obtain ⟨_, rfl⟩ | ⟨before, old⟩ := cases' found
    · exact ⟨_, by rw [last, List.getElem?_concat_length], rfl⟩
    · rw [List.getElem?_append_left (by omega)]
      exact served.waits before
  · obtain ⟨rfl, rfl⟩ | ⟨before, old⟩ := cases' found <;>
      obtain ⟨rfl, rfl⟩ | ⟨before', old'⟩ := cases' found'
    · rfl
    · omega
    · omega
    · exact served.apart before before' same

theorem abandon (served : l.Served) (waiter : Nat) : (l.abandon waiter).2.Served := by
  unfold Ledger.abandon
  cases known : l.waiters[waiter]? with
  | none => exact served
  | some w =>
    refine ⟨fun {id e} found => ?_, served.apart⟩
    obtain ⟨w', here, fresh⟩ := served.waits found
    dsimp only
    by_cases own : e.waiter = waiter
    · rw [own, List.getElem?_set_self (List.getElem?_eq_some_iff.mp known).1]
      rw [own, known] at here
      cases here
      exact ⟨_, rfl, fresh⟩
    · rw [List.getElem?_set_ne (Ne.symm own)]
      exact ⟨w', here, fresh⟩

end Served

/-- Waiter `w`, who is still there, has been handed the outcome of an exchange, or the exchange is
pending as it was opened. -/
def Owes (l : Ledger) (id : CorrelationId) (w : Nat) (since timeout : Duration) : Prop :=
  ∃ x, l.waiters[w]? = some x ∧ x.listening = true ∧ (x.received ≠ [] ∨
    ∃ e, l.pending.get? id = some e ∧ e.waiter = w ∧ e.requestedAt = since ∧ e.timeout = timeout)

namespace Owes

variable {l m : Ledger} {id : CorrelationId} {w : Nat} {since timeout : Duration}

theorem congr (owes : l.Owes id w since timeout) (pending : m.pending = l.pending)
    (waiters : m.waiters = l.waiters) : m.Owes id w since timeout := by
  rw [Owes, pending, waiters]
  exact owes

theorem conclude (owes : l.Owes id w since timeout) {how : Closing}
    {outcome : CorrelationId → Entry → Response} {j : CorrelationId}
    (closed : l.conclude how outcome j = .ok m) : m.Owes id w since timeout := by
  obtain ⟨x, known, listening, owed⟩ := owes
  obtain ⟨f, here, rfl⟩ := exists_of_concluded closed
  rw [Owes, waiters_conclude, pending_conclude]
  by_cases own : f.waiter = w
  · refine ⟨x.hand (outcome j f), ?_, ?_, .inl ?_⟩
    · rw [own, List.getElem?_modify_eq, known]
      rfl
    · simp [Waiter.hand, listening]
    · simp [Waiter.hand, listening]
  · rw [List.getElem?_modify_ne _ _ own]
    refine ⟨x, known, listening, owed.imp_right fun ⟨e, pending, waiter, rest⟩ => ?_⟩
    have other : id ≠ j := by
      rintro rfl
      rw [pending] at here
      cases here
      exact own waiter
    exact ⟨e, by rw [Table.get?_erase_of_ne _ other, pending], waiter, rest⟩

theorem attempt (owes : l.Owes id w since timeout) (how : Closing)
    (outcome : CorrelationId → Entry → Response) (j : CorrelationId) :
    (l.attempt (·.conclude how outcome j)).Owes id w since timeout := by
  unfold Ledger.attempt
  split
  · exact owes.conclude ‹_›
  · exact owes

theorem dwindles (owes : l.Owes id w since timeout) (dwindles : Dwindles heard l m) :
    m.Owes id w since timeout := by
  induction dwindles with
  | same books _ =>
    simp only [Ledger.books, Prod.mk.injEq] at books
    exact owes.congr books.1 books.2.2.2.2
  | conclude closed _ => exact owes.conclude closed
  | trans _ _ ih ih' => exact ih' (ih owes)

theorem ring (owes : l.Owes id w since timeout) (now : Duration) (alarm : Alarm) :
    (l.ring now alarm).Owes id w since timeout := by
  have cancelled : (l.cancelAlarm alarm).Owes id w since timeout := owes.congr rfl rfl
  exact cancelled.attempt .timeout (fun id e => e.refusal id .timeout now) alarm.id

theorem abandon (owes : l.Owes id w since timeout) {v : Nat} (other : v ≠ w) :
    (l.abandon v).2.Owes id w since timeout := by
  unfold Ledger.abandon
  split
  · obtain ⟨x, known, rest⟩ := owes
    exact ⟨x, by rw [List.getElem?_set_ne other, known], rest⟩
  · exact owes

theorem opened (owes : l.Owes id w since timeout) {j : CorrelationId} {f : Entry}
    (free : l.pending.get? j = none)
    (entered : ∀ k, m.pending.get? k = if k = j then some f else l.pending.get? k)
    (waiters : m.waiters = l.waiters ++ [({} : Waiter)]) : m.Owes id w since timeout := by
  obtain ⟨x, known, listening, owed⟩ := owes
  refine ⟨x, ?_, listening, owed.imp_right fun ⟨e, pending, rest⟩ => ?_⟩
  · rw [waiters, List.getElem?_append_left (List.getElem?_eq_some_iff.mp known).1, known]
  · have other : id ≠ j := by
      rintro rfl
      rw [free] at pending
      cases pending
    exact ⟨e, by rw [entered, if_neg other, pending], rest⟩

end Owes

end Ledger

end ComponentHost
