import ComponentHost.Proofs.Ledger.ClosingSequence

/-! What comes to a waiter. A waiter has to do with one exchange, so that what it is handed is a
response that was given under the id of that exchange, or a refusal made out from its entry. -/

namespace ComponentHost

theorem Waiter.mem_received_hand {x : Waiter} {r given : Response}
    (mem : r ∈ (x.hand given).received) : r ∈ x.received ∨ r = given := by
  unfold hand at mem
  split at mem
  · exact (List.mem_append.mp mem).imp_right List.mem_singleton.mp
  · exact .inl mem

namespace Ledger

def Refused (id : CorrelationId) (sender recipient : ComponentId) (r : Response) : Prop :=
  ∃ failure now, r = ⟨id, recipient, sender, .error failure, now⟩

/-- Waiter `w` has to do with the exchange `id` of two parties and with no other, and all that it
was handed is good. -/
structure Addressed (l : Ledger) (w : Nat) (id : CorrelationId) (sender recipient : ComponentId)
    (good : Response → Prop) : Prop where
  known : w < l.waiters.length
  owner (j : CorrelationId) (e : Entry) : l.pending.get? j = some e → e.waiter = w →
    j = id ∧ e.sender = sender ∧ e.recipient = recipient
  handed (x : Waiter) (r : Response) : l.waiters[w]? = some x → r ∈ x.received → good r

namespace Addressed

variable {l m : Ledger} {w : Nat} {id : CorrelationId} {sender recipient : ComponentId}
  {good good' : Response → Prop} {heard : CorrelationId → Response → Prop}

theorem mono (addressed : l.Addressed w id sender recipient good)
    (better : ∀ r, good r → good' r) : l.Addressed w id sender recipient good' where
  known := addressed.known
  owner := addressed.owner
  handed x r here mem := better r (addressed.handed x r here mem)

theorem congr (addressed : l.Addressed w id sender recipient good)
    (pending : m.pending = l.pending) (waiters : m.waiters = l.waiters) :
    m.Addressed w id sender recipient good where
  known := waiters ▸ addressed.known
  owner j e found := addressed.owner j e (pending ▸ found)
  handed x r here := addressed.handed x r (waiters ▸ here)

theorem conclude (addressed : l.Addressed w id sender recipient good)
    (responses : ∀ r, heard id r → good r)
    (refusals : ∀ r, Refused id sender recipient r → good r) {how : Closing}
    {outcome : CorrelationId → Entry → Response} {j : CorrelationId}
    (ends : ∀ e : Entry, e.EndsBy heard j (outcome j e))
    (closed : l.conclude how outcome j = .ok m) : m.Addressed w id sender recipient good := by
  obtain ⟨f, here, rfl⟩ := exists_of_concluded closed
  refine ⟨?_, fun k e found => ?_, fun x r there mem => ?_⟩
  · rw [waiters_conclude, List.length_modify]
    exact addressed.known
  · rw [pending_conclude, Table.get?_erase] at found
    exact addressed.owner k e (Option.ite_none_left_eq_some.mp found).2
  · rw [waiters_conclude] at there
    by_cases own : f.waiter = w
    · -- The exchange that is closed is the waiter's own.
      obtain ⟨rfl, requester, target⟩ := addressed.owner j f here own
      rw [own, List.getElem?_modify_eq, List.getElem?_eq_getElem addressed.known] at there
      cases there
      obtain before | rfl := Waiter.mem_received_hand mem
      · exact addressed.handed _ r (List.getElem?_eq_getElem addressed.known) before
      · obtain given | ⟨failure, now, refused⟩ := ends f
        · exact responses _ given
        · exact refusals _ ⟨failure, now, by rw [refused, Entry.refusal, requester, target]⟩
    · rw [List.getElem?_modify_ne _ _ own] at there
      exact addressed.handed x r there mem

theorem dwindles (addressed : l.Addressed w id sender recipient good)
    (responses : ∀ r, heard id r → good r)
    (refusals : ∀ r, Refused id sender recipient r → good r) (dwindles : Dwindles heard l m) :
    m.Addressed w id sender recipient good := by
  induction dwindles with
  | same books _ =>
    simp only [Ledger.books, Prod.mk.injEq] at books
    exact addressed.congr books.1 books.2.2.2.2
  | conclude closed ends => exact addressed.conclude responses refusals ends closed
  | trans _ _ ih ih' => exact ih' (ih addressed)

theorem ring (addressed : l.Addressed w id sender recipient good)
    (refusals : ∀ r, Refused id sender recipient r → good r) (now : Duration) (alarm : Alarm) :
    (l.ring now alarm).Addressed w id sender recipient good := by
  have cancelled : (l.cancelAlarm alarm).Addressed w id sender recipient good :=
    addressed.congr rfl rfl
  have rung : Dwindles (fun _ _ => False) _ _ := .rung l now alarm
  exact cancelled.dwindles (fun _ none => none.elim) refusals rung

theorem abandon (addressed : l.Addressed w id sender recipient good) (waiter : Nat) :
    (l.abandon waiter).2.Addressed w id sender recipient good := by
  unfold Ledger.abandon
  cases there : l.waiters[waiter]? with
  | none => exact addressed
  | some y =>
    refine ⟨?_, addressed.owner, fun x r here mem => ?_⟩
    · rw [List.length_set]
      exact addressed.known
    · dsimp only at here
      by_cases own : waiter = w
      · subst own
        rw [List.getElem?_set_self addressed.known] at here
        cases here
        exact addressed.handed y r there mem
      · rw [List.getElem?_set_ne own] at here
        exact addressed.handed x r here mem

theorem opened (addressed : l.Addressed w id sender recipient good) {j : CorrelationId} {e : Entry}
    (last : e.waiter = l.waiters.length)
    (entered : ∀ k, m.pending.get? k = if k = j then some e else l.pending.get? k)
    (waiters : m.waiters = l.waiters ++ [({} : Waiter)]) :
    m.Addressed w id sender recipient good := by
  have known := addressed.known
  refine ⟨?_, fun k f found own => ?_, fun x r here => ?_⟩
  · rw [waiters, List.length_append]
    exact Nat.lt_add_right _ known
  · rw [entered] at found
    split at found
    · cases found
      omega
    · exact addressed.owner k f found own
  · rw [waiters, List.getElem?_append_left known] at here
    exact addressed.handed x r here

end Addressed

theorem Served.addressed {l m : Ledger} (served : l.Served) {id : CorrelationId} {e : Entry}
    (entered : ∀ k, m.pending.get? k = if k = id then some e else l.pending.get? k)
    (waiters : m.waiters = l.waiters ++ [({} : Waiter)]) (good : Response → Prop) :
    m.Addressed l.waiters.length id e.sender e.recipient good := by
  refine ⟨?_, fun k f found own => ?_, fun x r here mem => ?_⟩
  · rw [waiters, List.length_append]
    exact Nat.lt_succ_self _
  · rw [entered] at found
    split at found
    · cases found
      exact ⟨‹_›, rfl, rfl⟩
    · obtain ⟨_, known, _⟩ := served.waits found
      have old := (List.getElem?_eq_some_iff.mp known).1
      omega
  · rw [waiters, List.getElem?_concat_length] at here
    cases here
    cases mem

end Ledger

end ComponentHost
