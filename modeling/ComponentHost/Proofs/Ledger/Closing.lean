import ComponentHost.Proofs.Ledger.Run

/-! What an act does to the exchanges that are pending: it closes those for which it has an
outcome and leaves the others alone. Every act but an accepted registration and the attaching of
an alarm is described by that alone, sweeps and cleanups included, in whatever order they go
through the ledger. -/

namespace ComponentHost.Ledger

structure Sound (l : Ledger) : Prop where
  waits : ∀ {id e}, l.pending.get? id = some e → l.waiters[e.waiter]? = some {}
  own : ∀ {id j e f}, l.pending.get? id = some e → l.pending.get? j = some f →
    e.waiter = f.waiter → id = j

def Apart (l : Ledger) : Prop :=
  ∀ {id j e f}, l.pending.get? id = some e → l.pending.get? j = some f →
    e.waiter = f.waiter → id = j

theorem Sound.apart {l : Ledger} (sound : l.Sound) : l.Apart := sound.own

abbrev Verdicts := CorrelationId → Entry → Option (Closing × Response)

/-- `m` is what is left of `l` when the exchanges with a verdict have been closed. -/
structure Closes (out : Verdicts) (l m : Ledger) : Prop where
  entries : m.pending.entries = l.pending.entries.filter fun p => (out p.1 p.2).isNone
  handed : ∀ {id e how r}, l.pending.get? id = some e → out id e = some (how, r) →
    m.waiters[e.waiter]? = l.waiters[e.waiter]?.map (·.hand r)
  kept : ∀ w, (∀ id e, l.pending.get? id = some e → (out id e).isSome → e.waiter ≠ w) →
    m.waiters[w]? = l.waiters[w]?
  count : ∀ how, m.count how = l.count how +
    l.pending.entries.countP fun p => (out p.1 p.2).map Prod.fst == some how

namespace Closes

variable {l m n : Ledger} {out out' : Verdicts}

theorem get?_iff (h : Closes out l m) {id : CorrelationId} {e : Entry} :
    m.pending.get? id = some e ↔ l.pending.get? id = some e ∧ out id e = none := by
  simp [Table.get?_eq_some_iff, h.entries]

theorem get?_eq_none (h : Closes out l m) {id : CorrelationId} {e : Entry}
    {v : Closing × Response} (pending : l.pending.get? id = some e) (closed : out id e = some v) :
    m.pending.get? id = none := by
  cases left : m.pending.get? id with
  | none => rfl
  | some f =>
    obtain ⟨before, unclosed⟩ := h.get?_iff.mp left
    rw [pending] at before
    cases before
    rw [closed] at unclosed
    cases unclosed

theorem congr (h : Closes out l m)
    (same : ∀ id e, l.pending.get? id = some e → out id e = out' id e) : Closes out' l m where
  entries := by
    rw [h.entries]
    refine List.filter_congr fun p mem => ?_
    rw [same p.1 p.2 (Table.get?_eq_some_iff.mpr mem)]
  handed pending verdict := h.handed pending (by rw [same _ _ pending, verdict])
  kept w clear := h.kept w fun id e pending some =>
    clear id e pending (by rw [← same _ _ pending]; exact some)
  count how := by
    rw [h.count]
    congr 1
    refine List.countP_congr fun p mem => ?_
    rw [same p.1 p.2 (Table.get?_eq_some_iff.mpr mem)]

theorem of_books (same : m.books = l.books) : Closes (fun _ _ => none) l m := by
  simp only [books, Prod.mk.injEq] at same
  obtain ⟨pending, completed, timedOut, cancelled, waiters⟩ := same
  refine ⟨?_, fun _ verdict => (nomatch verdict), fun w _ => by rw [waiters], fun how => ?_⟩
  · rw [pending]
    exact (List.filter_eq_self.mpr fun _ _ => rfl).symm
  · cases how <;> simp [Ledger.count, completed, timedOut, cancelled]

theorem countP_or {α β : Type} (f g : α → Option β) (q : Option β → Bool) (ps : List α) :
    ps.countP (fun p => q ((f p).or (g p))) =
      ps.countP (fun p => (f p).isSome && q (f p)) +
        (ps.filter fun p => (f p).isNone).countP fun p => q (g p) := by
  induction ps with
  | nil => rfl
  | cons p ps ih =>
    rw [List.countP_cons, List.countP_cons, List.filter_cons, ih]
    cases f p with
    | none =>
      rw [Option.none_or]
      simp [List.countP_cons, Nat.add_assoc]
    | some v =>
      rw [Option.some_or, Option.isSome_some, Bool.true_and]
      simp [Nat.add_right_comm]

/-- Closing some exchanges and then others closes both; a waiter is not handed twice, since no
two exchanges share one. -/
theorem trans (apart : l.Apart) (first : Closes out l m) (second : Closes out' m n) :
    Closes (fun id e => (out id e).or (out' id e)) l n where
  entries := by
    rw [second.entries, first.entries, List.filter_filter]
    refine List.filter_congr fun p _ => ?_
    cases out p.1 p.2 <;> simp
  handed {id e how r} pending verdict := by
    cases closed : out id e with
    | some v =>
      rw [closed, Option.some_or] at verdict
      cases verdict
      rw [← first.handed pending closed]
      refine second.kept _ fun j f waiting _ same => ?_
      obtain rfl := apart (first.get?_iff.mp waiting).1 pending same
      rw [first.get?_eq_none pending closed] at waiting
      cases waiting
    | none =>
      rw [closed, Option.none_or] at verdict
      rw [second.handed (first.get?_iff.mpr ⟨pending, closed⟩) verdict]
      congr 1
      refine first.kept _ fun j f waiting verdict' same => ?_
      obtain rfl := apart waiting pending same
      rw [pending] at waiting
      cases waiting
      rw [closed] at verdict'
      cases verdict'
  kept w clear := by
    rw [second.kept w fun id e waiting verdict => ?_, first.kept w fun id e waiting verdict => ?_]
    · exact clear id e waiting (by simp [Option.isSome_or, verdict])
    · exact clear id e (first.get?_iff.mp waiting).1 (by simp [Option.isSome_or, verdict])
  count how := by
    have split := countP_or (fun p : CorrelationId × Entry => out p.1 p.2)
      (fun p => out' p.1 p.2) (·.map Prod.fst == some how) l.pending.entries
    rw [second.count, first.count, first.entries, Nat.add_assoc, split]
    congr 2
    refine List.countP_congr fun p _ => ?_
    cases out p.1 p.2 <;> simp

theorem apart (apart : l.Apart) (h : Closes out l m) : m.Apart :=
  fun waiting waiting' same => apart (h.get?_iff.mp waiting).1 (h.get?_iff.mp waiting').1 same

theorem waiter_eq (apart : l.Apart) (h : Closes out l m) {id : CorrelationId} {e : Entry}
    (waiting : m.pending.get? id = some e) : m.waiters[e.waiter]? = l.waiters[e.waiter]? := by
  obtain ⟨pending, left⟩ := h.get?_iff.mp waiting
  refine h.kept _ fun j f other verdict same => ?_
  obtain rfl := apart other pending same
  rw [pending] at other
  cases other
  rw [left] at verdict
  cases verdict

theorem sound (sound : l.Sound) (h : Closes out l m) : m.Sound where
  waits waiting := by
    rw [h.waiter_eq sound.apart waiting]
    exact sound.waits (h.get?_iff.mp waiting).1
  own := h.apart sound.apart

end Closes

def tally (l : Ledger) : Closing → Ledger
  | .response => { l with completed := l.completed + 1 }
  | .timeout => { l with timedOut := l.timedOut + 1 }
  | .cancellation => { l with cancelled := l.cancelled + 1 }

/-- Closes one exchange in a given way; responses, timeouts and cancellations are of this form. -/
def conclude (how : Closing) (outcome : CorrelationId → Entry → Response) (l : Ledger)
    (id : CorrelationId) : Except ExchangeError Ledger :=
  match l.pending.get? id with
  | none => .error (.unknown id)
  | some e => .ok ((l.close id e (outcome id e)).tally how)

theorem resolve_eq_conclude (l : Ledger) (id : CorrelationId) (r : Response) :
    l.resolve id r = l.conclude .response (fun _ _ => r) id := rfl

theorem expire_eq_conclude (l : Ledger) (now : Duration) (id : CorrelationId) :
    l.expire now id = l.conclude .timeout (fun id e => e.refusal id .timeout now) id := rfl

theorem cancel_eq_conclude (l : Ledger) (now : Duration) (failure : RequestFailure)
    (id : CorrelationId) :
    l.cancel now failure id =
      l.conclude .cancellation (fun id e => e.refusal id failure now) id := rfl

section Conclude

variable {l : Ledger} {id : CorrelationId} {how : Closing}
  {outcome : CorrelationId → Entry → Response}

theorem conclude_of_unknown (unknown : l.pending.get? id = none) :
    l.conclude how outcome id = .error (.unknown id) := by
  rw [conclude, unknown]

theorem conclude_of_pending {e : Entry} (pending : l.pending.get? id = some e) :
    l.conclude how outcome id = .ok ((l.close id e (outcome id e)).tally how) := by
  rw [conclude, pending]

theorem exists_of_concluded {m : Ledger} (closed : l.conclude how outcome id = .ok m) :
    ∃ e, l.pending.get? id = some e ∧ m = (l.close id e (outcome id e)).tally how := by
  cases here : l.pending.get? id with
  | none =>
    rw [conclude_of_unknown here] at closed
    cases closed
  | some e =>
    rw [conclude_of_pending here] at closed
    cases closed
    exact ⟨e, rfl, rfl⟩

theorem pending_conclude {e : Entry} :
    ((l.close id e (outcome id e)).tally how).pending = l.pending.erase id := by
  cases how <;> rfl

theorem waiters_conclude {e : Entry} :
    ((l.close id e (outcome id e)).tally how).waiters =
      l.waiters.modify e.waiter (·.hand (outcome id e)) := by
  cases how <;> rfl

theorem count_conclude {e : Entry} (k : Closing) :
    ((l.close id e (outcome id e)).tally how).count k =
      l.count k + if how = k then 1 else 0 := by
  cases how <;> cases k <;> rfl

theorem countP_key {e : Entry} (pending : l.pending.get? id = some e) :
    (l.pending.entries.countP fun p => p.1 == id) = 1 := by
  have here : id ∈ l.pending.entries.map Prod.fst :=
    List.mem_map.mpr ⟨_, Table.get?_eq_some_iff.mp pending, rfl⟩
  have once := l.pending.keys_nodup.count (a := id)
  rw [if_pos here, List.count, List.countP_map] at once
  exact once

variable (how outcome) in
theorem closes_conclude {e : Entry} (pending : l.pending.get? id = some e) :
    Closes (fun j f => if j = id then some (how, outcome j f) else none) l
      ((l.close id e (outcome id e)).tally how) where
  entries := by
    rw [pending_conclude]
    refine List.filter_congr fun p _ => ?_
    by_cases same : p.1 = id <;> simp [same]
  handed {j f k r} found verdict := by
    by_cases here : j = id
    · subst here
      rw [pending] at found
      cases found
      rw [if_pos rfl] at verdict
      cases verdict
      rw [waiters_conclude, List.getElem?_modify_eq]
      rfl
    · rw [if_neg here] at verdict
      cases verdict
  kept w clear := by
    have other : e.waiter ≠ w := clear id e pending (by simp)
    rw [waiters_conclude, List.getElem?_modify_ne _ _ other]
  count k := by
    rw [count_conclude]
    congr 1
    by_cases same : how = k
    · rw [if_pos same, ← countP_key pending]
      refine List.countP_congr fun p _ => ?_
      by_cases here : p.1 = id <;> simp [here, same]
    · rw [if_neg same]
      refine (List.countP_eq_zero.mpr fun p _ => ?_).symm
      by_cases here : p.1 = id <;> simp [here, same]

variable (how outcome) in
theorem each_conclude (ids : List CorrelationId) (nodup : ids.Nodup) (apart : l.Apart)
    (pending : ∀ id ∈ ids, l.pending.contains id = true) :
    (each (conclude how outcome) ids l).1 = ids.length ∧
      Closes (fun j f => if j ∈ ids then some (how, outcome j f) else none) l
        (each (conclude how outcome) ids l).2 := by
  induction ids generalizing l with
  | nil => exact ⟨rfl, Closes.of_books rfl⟩
  | cons id rest ih =>
    obtain ⟨fresh, nodup⟩ := List.nodup_cons.mp nodup
    obtain ⟨e, here⟩ := Option.isSome_iff_exists.mp (pending id List.mem_cons_self)
    have first := closes_conclude how outcome here
    have still : ∀ j ∈ rest,
        ((l.close id e (outcome id e)).tally how).pending.contains j = true := by
      intro j mem
      have other : j ≠ id := fun same => fresh (same ▸ mem)
      rw [pending_conclude, Table.contains, Table.get?_erase_of_ne _ other]
      exact pending j (List.mem_cons_of_mem _ mem)
    obtain ⟨number, others⟩ := ih nodup (first.apart apart) still
    simp only [each, conclude_of_pending here]
    refine ⟨by rw [number, List.length_cons], (first.trans apart others).congr ?_⟩
    intro j f _
    by_cases same : j = id <;> simp [same]

variable (how outcome) in
theorem members_each (ids : List CorrelationId) :
    (each (conclude how outcome) ids l).2.members = l.members := by
  induction ids generalizing l with
  | nil => rfl
  | cons id rest ih =>
    unfold each
    cases pending : l.pending.get? id with
    | none =>
      rw [conclude_of_unknown pending]
      exact ih
    | some e =>
      rw [conclude_of_pending pending]
      exact ih.trans (by cases how <;> rfl)

end Conclude

section After

variable {l : Ledger}

theorem closes_attempt (how : Closing) (outcome : CorrelationId → Entry → Response)
    (id : CorrelationId) :
    Closes (fun j f => if j = id then some (how, outcome j f) else none) l
      (l.attempt (·.conclude how outcome id)) := by
  cases here : l.pending.get? id with
  | none =>
    rw [attempt, conclude_of_unknown here]
    refine (Closes.of_books rfl).congr fun j f pending => ?_
    have other : j ≠ id := by
      rintro rfl
      rw [here] at pending
      cases pending
    rw [if_neg other]
  | some e =>
    rw [attempt, conclude_of_pending here]
    exact closes_conclude how outcome here

theorem nodup_keys_filter (l : Ledger) (p : CorrelationId × Entry → Bool) :
    ((l.pending.entries.filter p).map Prod.fst).Nodup :=
  l.pending.keys_nodup.sublist (List.filter_sublist.map _)

theorem cleanup_closes (apart : l.Apart) (now : Duration) (c : ComponentId) :
    (l.cleanup now c).1 = (l.involving c).length ∧
      Closes (fun id e =>
        if e.involves c then some (.cancellation, e.refusal id .cancelled now) else none) l
        (l.cleanup now c).2 := by
  obtain ⟨number, closed⟩ := each_conclude .cancellation
    (fun id e => e.refusal id .cancelled now) (l.involving c)
    (l.nodup_keys_filter _) apart fun id mem => by
      obtain ⟨e, pending, _⟩ := mem_involving.mp mem
      rw [Table.contains, pending, Option.isSome_some]
  refine ⟨number, closed.congr fun id e pending => ?_⟩
  have listed : id ∈ l.involving c ↔ e.involves c = true := by
    rw [mem_involving, pending]
    simp
  simp only [listed]

theorem members_cleanup (l : Ledger) (now : Duration) (c : ComponentId) :
    (l.cleanup now c).2.members = l.members :=
  members_each .cancellation (fun id e => e.refusal id .cancelled now) (l.involving c)

theorem members_attempt (l : Ledger) (how : Closing)
    (outcome : CorrelationId → Entry → Response) (id : CorrelationId) :
    (l.attempt (·.conclude how outcome id)).members = l.members := by
  cases here : l.pending.get? id with
  | none => rw [attempt, conclude_of_unknown here]
  | some e =>
    rw [attempt, conclude_of_pending here]
    cases how <;> rfl

theorem members_ring (l : Ledger) (now : Duration) (alarm : Alarm) :
    (l.ring now alarm).members = l.members :=
  members_attempt (l.cancelAlarm alarm) .timeout (fun id e => e.refusal id .timeout now) alarm.id

theorem members_after (l : Ledger) (v : Event) : (l.after v).members = l.members := by
  obtain ⟨now, act⟩ := v
  cases act with
  | register id sender recipient timeout =>
    by_cases taken : l.pending.contains id = true <;>
      simp [after, attempt, Ledger.act, register, taken, Except.map]
  | arm | cancelAlarm => rfl
  | attach id alarm =>
    cases here : l.pending.get? id <;> simp [after, attempt, Ledger.act, attach?, here]
  | resolve id r => exact l.members_attempt .response (fun _ _ => r) id
  | expire id => exact l.members_attempt .timeout (fun id e => e.refusal id .timeout now) id
  | cancel id failure =>
    exact l.members_attempt .cancellation (fun id e => e.refusal id failure now) id
  | cleanup c => exact l.members_cleanup now c
  | sweep => exact members_each .timeout (fun id e => e.refusal id .timeout now) (l.overdue now)
  | ring alarm => exact l.members_ring now alarm

theorem members_run (l : Ledger) (vs : List Event) : (l.run vs).members = l.members := by
  induction vs generalizing l with
  | nil => rfl
  | cons v vs ih => rw [run_cons, ih, members_after]

theorem sweep_closes (apart : l.Apart) (now : Duration) :
    (l.sweep now).1 = (l.overdue now).length ∧
      Closes (fun id e =>
        if e.overdue now then some (.timeout, e.refusal id .timeout now) else none) l
        (l.sweep now).2 := by
  obtain ⟨number, closed⟩ := each_conclude .timeout
    (fun id e => e.refusal id .timeout now) (l.overdue now)
    (l.nodup_keys_filter _) apart fun id mem => by
      obtain ⟨e, pending, _⟩ := mem_overdue.mp mem
      rw [Table.contains, pending, Option.isSome_some]
  refine ⟨number, closed.congr fun id e pending => ?_⟩
  have listed : id ∈ l.overdue now ↔ e.overdue now = true := by
    rw [mem_overdue, pending]
    simp
  simp only [listed]

theorem ring_closes (now : Duration) (alarm : Alarm) :
    Closes (fun id e =>
      if alarm.id = id then some (.timeout, e.refusal id .timeout now) else none) l
      (l.ring now alarm) := by
  have closed := closes_attempt (l := l.cancelAlarm alarm) .timeout
    (fun id e => e.refusal id .timeout now) alarm.id
  simp only [eq_comm (a := alarm.id)]
  exact ⟨closed.entries, closed.handed, closed.kept, closed.count⟩

end After

end ComponentHost.Ledger
