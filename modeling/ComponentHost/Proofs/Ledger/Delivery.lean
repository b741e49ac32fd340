import ComponentHost.Proofs.Ledger.ClosingSequence

/-! What the waiter of an exchange is delivered: nothing as long as the exchange is pending, and the
one response that closes it from then on, whatever else is done to the ledger. -/

namespace ComponentHost.Ledger

/-- What waiter `w` of an exchange has been delivered so far. -/
inductive Delivers (l : Ledger) (id : CorrelationId) (w : Nat) : Option Response → Prop
  | awaited {e : Entry} (pending : l.pending.get? id = some e) (own : e.waiter = w)
    (known : l.waiters[w]? = some {}) : Delivers l id w none
  | handed {x : Waiter} {q : Response} (known : l.waiters[w]? = some x) (once : x.received = [q])
    (past : ∀ j e, l.pending.get? j = some e → e.waiter ≠ w) : Delivers l id w (some q)

def StillDelivers (m : Ledger) (id : CorrelationId) (w : Nat) (o : Option Response) : Prop :=
  ∃ o', m.Delivers id w o' ∧ ∀ q, o = some q → o' = some q

namespace Delivers

variable {l m n : Ledger} {id : CorrelationId} {w : Nat} {o : Option Response}
  {heard : CorrelationId → Response → Prop}

theorem still (delivers : m.Delivers id w o) : m.StillDelivers id w o :=
  ⟨o, delivers, fun _ given => given⟩

theorem congr (delivers : l.Delivers id w o) (pending : m.pending = l.pending)
    (waiters : m.waiters = l.waiters) : m.Delivers id w o := by
  cases delivers with
  | awaited found own known => exact .awaited (pending ▸ found) own (waiters ▸ known)
  | handed known once past =>
    exact .handed (waiters ▸ known) once fun j e found => past j e (pending ▸ found)

theorem close (served : l.Served) (awaits : l.Delivers id w none) (how : Closing)
    (outcome : CorrelationId → Entry → Response) :
    ∃ e, l.pending.get? id = some e ∧
      l.conclude how outcome id = .ok ((l.close id e (outcome id e)).tally how) ∧
      ((l.close id e (outcome id e)).tally how).Delivers id w (some (outcome id e)) := by
  cases awaits with
  | @awaited e pending own known =>
    have told : ((l.close id e (outcome id e)).tally how).waiters[w]? =
        some { received := [outcome id e] } := by
      rw [waiters_conclude, own, List.getElem?_modify_eq, known]
      rfl
    refine ⟨e, pending, conclude_of_pending pending, .handed told rfl fun j f left same => ?_⟩
    · rw [pending_conclude, Table.get?_erase] at left
      obtain ⟨other, found⟩ := Option.ite_none_left_eq_some.mp left
      exact other (served.apart found pending (same.trans own.symm))

theorem conclude (delivers : l.Delivers id w o) (served : l.Served) {how : Closing}
    {outcome : CorrelationId → Entry → Response} {j : CorrelationId}
    (closed : l.conclude how outcome j = .ok m) : m.StillDelivers id w o := by
  obtain ⟨f, here, concluded⟩ := exists_of_concluded closed
  have apart : f.waiter ≠ w → m.waiters[w]? = l.waiters[w]? := fun other => by
    rw [concluded, waiters_conclude, List.getElem?_modify_ne _ _ other]
  have left : m.pending = l.pending.erase j := by rw [concluded, pending_conclude]
  cases delivers with
  | @awaited e pending own known =>
    by_cases same : j = id
    · subst same
      obtain ⟨e, _, closed', delivers⟩ :=
        close served (.awaited pending own known) how outcome
      rw [closed'] at closed
      cases closed
      exact ⟨_, delivers, nofun⟩
    · have other : f.waiter ≠ w := fun shared =>
        same (served.apart here pending (shared.trans own.symm))
      refine (awaited ?_ own ((apart other).trans known)).still
      rw [left, Table.get?_erase_of_ne _ (Ne.symm same), pending]
  | handed known once past =>
    refine (handed ((apart (past j f here)).trans known) once fun k e found => ?_).still
    rw [left, Table.get?_erase] at found
    exact past k e (Option.ite_none_left_eq_some.mp found).2

theorem attempt (delivers : l.Delivers id w o) (served : l.Served) (how : Closing)
    (outcome : CorrelationId → Entry → Response) (j : CorrelationId) :
    (l.attempt (·.conclude how outcome j)).StillDelivers id w o := by
  unfold Ledger.attempt
  split
  · exact delivers.conclude served ‹_›
  · exact delivers.still

theorem cancel (delivers : l.Delivers id w o) (served : l.Served) (now : Duration)
    (failure : RequestFailure) : ∃ q, (l.attempt (·.cancel now failure id)).Delivers id w (some q) ∧
      (o = some q ∨ o = none ∧ q.reply = .error failure) := by
  cases o with
  | none =>
    obtain ⟨e, _, closed, handed⟩ := close served delivers .cancellation
      fun id e => e.refusal id failure now
    refine ⟨e.refusal id failure now, ?_, .inr ⟨rfl, rfl⟩⟩
    simp only [Ledger.attempt, cancel_eq_conclude, closed]
    exact handed
  | some q =>
    obtain ⟨o', delivers', kept⟩ := delivers.attempt served .cancellation
      (fun id e => e.refusal id failure now) id
    cases kept q rfl
    exact ⟨q, delivers', .inl rfl⟩

theorem received (delivers : l.Delivers id w o) :
    ∃ x, l.waiters[w]? = some x ∧ x.received = o.toList := by
  cases delivers with
  | awaited _ _ known => exact ⟨_, known, rfl⟩
  | handed known once _ => exact ⟨_, known, once⟩

theorem dwindles (delivers : l.Delivers id w o) (served : l.Served)
    (dwindles : Dwindles heard l m) : m.StillDelivers id w o := by
  induction dwindles generalizing o with
  | same books _ =>
    simp only [Ledger.books, Prod.mk.injEq] at books
    exact (delivers.congr books.1 books.2.2.2.2).still
  | conclude closed _ => exact delivers.conclude served closed
  | trans first _ ih ih' =>
    obtain ⟨o', delivers', kept⟩ := ih delivers served
    obtain ⟨o'', delivers'', kept'⟩ := ih' delivers' (served.dwindles first)
    exact ⟨o'', delivers'', fun q given => kept' q (kept q given)⟩

theorem ring (delivers : l.Delivers id w o) (served : l.Served) (now : Duration) (alarm : Alarm) :
    (l.ring now alarm).StillDelivers id w o := by
  have cancelled : (l.cancelAlarm alarm).Delivers id w o := delivers.congr rfl rfl
  have served' : (l.cancelAlarm alarm).Served := served.congr rfl rfl
  exact cancelled.attempt served' .timeout (fun id e => e.refusal id .timeout now) alarm.id

theorem abandon (delivers : l.Delivers id w o) {v : Nat} (other : v ≠ w) :
    (l.abandon v).2.Delivers id w o := by
  unfold Ledger.abandon
  split
  · cases delivers with
    | awaited pending own known =>
      exact .awaited pending own (by rw [List.getElem?_set_ne other, known])
    | handed known once past => exact .handed (by rw [List.getElem?_set_ne other, known]) once past
  · exact delivers

theorem opened (delivers : l.Delivers id w o) {j : CorrelationId} {f : Entry}
    (free : l.pending.get? j = none) (last : f.waiter = l.waiters.length)
    (entered : ∀ k, m.pending.get? k = if k = j then some f else l.pending.get? k)
    (waiters : m.waiters = l.waiters ++ [({} : Waiter)]) : m.Delivers id w o := by
  have old : ∀ {x}, l.waiters[w]? = some x → m.waiters[w]? = some x ∧ w < l.waiters.length := by
    intro x known
    have inside := (List.getElem?_eq_some_iff.mp known).1
    rw [waiters, List.getElem?_append_left inside, known]
    exact ⟨rfl, inside⟩
  cases delivers with
  | awaited pending own known =>
    refine .awaited ?_ own (old known).1
    have other : id ≠ j := by
      rintro rfl
      rw [free] at pending
      cases pending
    rw [entered, if_neg other, pending]
  | handed known once past =>
    refine .handed (old known).1 once fun k e found same => ?_
    rw [entered] at found
    split at found
    · cases found
      exact absurd (old known).2 (by omega)
    · exact past k e found same

end Delivers

end ComponentHost.Ledger
