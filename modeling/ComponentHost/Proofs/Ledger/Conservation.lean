import ComponentHost.Proofs.Ledger.Closing

/-! Every exchange comes to one end. The first section says what one event does to a ledger, the
second what a run does to one exchange, the third what it does to the counters. The main
statement puts them together for all runs from the empty ledger: each registration's waiter has
nothing while its entry is pending and then the one outcome that closed it, refused acts change
nothing, and registrations are the pending entries and the three counters together. -/

namespace ComponentHost.Ledger

section Event

variable {l : Ledger}

/-- What one event does: it closes what it has a verdict on, puts an alarm in charge of an entry,
or opens an exchange. -/
theorem after_cases (apart : l.Apart) (v : Event) :
    (Closes (fun id e => e.closing? id v) l (l.after v) ∧
      ∀ vs, l.fates (v :: vs) = (l.after v).fates vs) ∨
    (∃ id e alarm, v.act = .attach id alarm ∧ l.pending.get? id = some e ∧
      l.after v =
        { l with pending := l.pending.insert id { e with alarm := some alarm } }) ∨
    (∃ id sender recipient timeout, v.act = .register id sender recipient timeout ∧
      l.pending.contains id = false ∧
      l.after v = { l with
        pending := l.pending.insert id
          ⟨sender, recipient, l.waiters.length, v.time, timeout, none⟩
        waiters := l.waiters ++ [{}] }) := by
  obtain ⟨now, act⟩ := v
  cases act with
  | register id sender recipient timeout =>
    by_cases taken : l.pending.contains id = true
    · have same : l.after ⟨now, .register id sender recipient timeout⟩ = l := by
        simp [after, attempt, Ledger.act, register, taken, Except.map]
      refine .inl ⟨Closes.of_books (by rw [same]), fun vs => ?_⟩
      simp [fates, taken]
    · refine .inr (.inr ⟨id, sender, recipient, timeout, rfl, by simpa using taken, ?_⟩)
      simp [after, attempt, Ledger.act, register, taken, Except.map]
  | arm id span => exact .inl ⟨Closes.of_books rfl, fun _ => rfl⟩
  | attach id alarm =>
    cases here : l.pending.get? id with
    | none =>
      refine .inl ⟨Closes.of_books ?_, fun _ => rfl⟩
      simp [after, attempt, Ledger.act, attach?, here]
    | some e =>
      refine .inr (.inl ⟨id, e, alarm, rfl, here, ?_⟩)
      simp [after, attempt, Ledger.act, attach?, here]
  | cancelAlarm alarm => exact .inl ⟨Closes.of_books rfl, fun _ => rfl⟩
  | resolve id r =>
    have closed := closes_attempt (l := l) .response (fun _ _ => r) id
    exact .inl ⟨closed.congr fun j f _ => by simp only [Entry.closing?, eq_comm], fun _ => rfl⟩
  | expire id =>
    have closed := closes_attempt (l := l) .timeout (fun id e => e.refusal id .timeout now) id
    exact .inl ⟨closed.congr fun j f _ => by simp only [Entry.closing?, eq_comm], fun _ => rfl⟩
  | cancel id failure =>
    have closed :=
      closes_attempt (l := l) .cancellation (fun id e => e.refusal id failure now) id
    exact .inl ⟨closed.congr fun j f _ => by simp only [Entry.closing?, eq_comm], fun _ => rfl⟩
  | cleanup c => exact .inl ⟨(cleanup_closes apart now c).2, fun _ => rfl⟩
  | sweep => exact .inl ⟨(sweep_closes apart now).2, fun _ => rfl⟩
  | ring alarm => exact .inl ⟨ring_closes now alarm, fun _ => rfl⟩

theorem lt_of_waits (sound : l.Sound) {id : CorrelationId} {e : Entry}
    (pending : l.pending.get? id = some e) : e.waiter < l.waiters.length :=
  (List.getElem?_eq_some_iff.mp (sound.waits pending)).1

theorem waiter_of_attached {id j : CorrelationId} {e f : Entry} {alarm : Option Alarm}
    (here : l.pending.get? id = some e)
    (found : (l.pending.insert id { e with alarm }).get? j = some f) :
    ∃ g, l.pending.get? j = some g ∧ g.waiter = f.waiter := by
  rw [Table.get?_insert] at found
  by_cases own : j = id
  · rw [if_pos own] at found
    cases found
    exact ⟨e, own ▸ here, rfl⟩
  · rw [if_neg own] at found
    exact ⟨f, found, rfl⟩

theorem sound_attach (sound : l.Sound) {id : CorrelationId} {e : Entry} (alarm : Option Alarm)
    (here : l.pending.get? id = some e) :
    Sound { l with pending := l.pending.insert id { e with alarm } } := by
  refine ⟨fun found => ?_, fun found found' waiter => ?_⟩
  · obtain ⟨g, pending, own⟩ := waiter_of_attached here found
    exact own ▸ sound.waits pending
  · obtain ⟨g, pending, own⟩ := waiter_of_attached here found
    obtain ⟨g', pending', own'⟩ := waiter_of_attached here found'
    exact sound.own pending pending' (by rw [own, own', waiter])

theorem sound_open (sound : l.Sound) (id : CorrelationId) {e : Entry}
    (last : e.waiter = l.waiters.length) :
    Sound { l with pending := l.pending.insert id e, waiters := l.waiters ++ [{}] } := by
  have old : ∀ {j f}, j ≠ id → (l.pending.insert id e).get? j = some f →
      l.pending.get? j = some f ∧ f.waiter < e.waiter := by
    intro j f other found
    rw [Table.get?_insert_of_ne _ _ other] at found
    exact ⟨found, last ▸ lt_of_waits sound found⟩
  have new : ∀ {f}, (l.pending.insert id e).get? id = some f → f.waiter = e.waiter := by
    intro f found
    rw [Table.get?_insert_self] at found
    cases found
    rfl
  refine ⟨fun {j f} found => ?_, fun {j k f g} found found' waiter => ?_⟩
  · by_cases own : j = id
    · rw [new (own ▸ found), last]
      simp
    · obtain ⟨pending, _⟩ := old own found
      rw [List.getElem?_append_left (lt_of_waits sound pending)]
      exact sound.waits pending
  · by_cases own : j = id <;> by_cases own' : k = id
    · rw [own, own']
    · have := (old own' found').2
      have := new (own ▸ found)
      omega
    · have := (old own found).2
      have := new (own' ▸ found')
      omega
    · exact sound.own (old own found).1 (old own' found').1 waiter

theorem sound_after (sound : l.Sound) (v : Event) : (l.after v).Sound := by
  obtain ⟨closed, _⟩ | ⟨id, e, alarm, _, here, same⟩ | ⟨id, s, r, t, _, fresh, same⟩ :=
    after_cases sound.apart v
  · exact closed.sound sound
  · exact same ▸ sound_attach sound (some alarm) here
  · exact same ▸ sound_open sound id rfl

theorem after_of_open (sound : l.Sound) {v : Event} {id : CorrelationId} {e : Entry}
    (pending : l.pending.get? id = some e) (still : e.closing? id v = none) :
    ∃ f, (l.after v).pending.get? id = some f ∧ f.waiter = e.waiter ∧ f.fate id = e.fate id := by
  obtain ⟨closed, _⟩ | ⟨j, f, alarm, _, here, same⟩ | ⟨j, s, r, t, _, fresh, same⟩ :=
    after_cases sound.apart v
  · exact ⟨e, closed.get?_iff.mpr ⟨pending, still⟩, rfl, rfl⟩
  · rw [same, Table.get?_insert]
    by_cases own : id = j
    · subst own
      rw [pending] at here
      cases here
      exact ⟨_, if_pos rfl, rfl, funext fun vs => e.fate_alarm _ id vs⟩
    · exact ⟨e, by rw [if_neg own, pending], rfl, rfl⟩
  · have other : id ≠ j := by
      rintro rfl
      rw [Table.contains, pending] at fresh
      cases fresh
    exact ⟨e, by rw [same, Table.get?_insert_of_ne _ _ other, pending], rfl, rfl⟩

def Done (l : Ledger) (w : Nat) : Prop :=
  w < l.waiters.length ∧ ∀ id e, l.pending.get? id = some e → e.waiter ≠ w

theorem after_of_closed (sound : l.Sound) {v : Event} {id : CorrelationId} {e : Entry}
    {how : Closing} {r : Response} (pending : l.pending.get? id = some e)
    (verdict : e.closing? id v = some (how, r)) :
    (l.after v).waiters[e.waiter]? = some { received := [r] } ∧ (l.after v).Done e.waiter := by
  obtain ⟨closed, _⟩ | ⟨j, f, alarm, act, _, _⟩ | ⟨j, s, q, t, act, _, _⟩ :=
    after_cases sound.apart v
  · have handed := closed.handed pending verdict
    rw [sound.waits pending] at handed
    refine ⟨handed, (List.getElem?_eq_some_iff.mp handed).1, fun j f waiting same => ?_⟩
    obtain ⟨before, left⟩ := closed.get?_iff.mp waiting
    obtain rfl := sound.own before pending same
    rw [pending] at before
    cases before
    rw [left] at verdict
    cases verdict
  · simp [Entry.closing?, act] at verdict
  · simp [Entry.closing?, act] at verdict

theorem after_of_done (apart : l.Apart) (v : Event) {w : Nat} (done : l.Done w) :
    (l.after v).waiters[w]? = l.waiters[w]? ∧ (l.after v).Done w := by
  obtain ⟨known, settled⟩ := done
  obtain ⟨closed, _⟩ | ⟨j, f, alarm, _, here, same⟩ | ⟨j, s, r, t, _, fresh, same⟩ :=
    after_cases apart v
  · have kept := closed.kept w fun id e pending _ => settled id e pending
    refine ⟨kept, ?_, fun id e waiting => settled id e (closed.get?_iff.mp waiting).1⟩
    rw [List.getElem?_eq_getElem known] at kept
    exact (List.getElem?_eq_some_iff.mp kept).1
  · rw [same]
    refine ⟨rfl, known, fun id e waiting => ?_⟩
    rw [Table.get?_insert] at waiting
    by_cases own : id = j
    · rw [if_pos own] at waiting
      cases waiting
      exact settled j f here
    · rw [if_neg own] at waiting
      exact settled id e waiting
  · rw [same]
    refine ⟨List.getElem?_append_left known, ?_, fun id e waiting => ?_⟩
    · rw [List.length_append]
      omega
    · rw [Table.get?_insert] at waiting
      by_cases own : id = j
      · rw [if_pos own] at waiting
        cases waiting
        exact Nat.ne_of_gt known
      · rw [if_neg own] at waiting
        exact settled id e waiting

end Event

section Run

variable {l : Ledger}

theorem sound_empty : Sound {} where
  waits found := nomatch found
  own found := nomatch found

theorem sound_run (sound : l.Sound) (vs : List Event) : (l.run vs).Sound := by
  induction vs generalizing l with
  | nil => exact sound
  | cons v vs ih => exact ih (sound_after sound v)

theorem run_of_done (sound : l.Sound) (vs : List Event) {w : Nat} (done : l.Done w) :
    (l.run vs).waiters[w]? = l.waiters[w]? ∧ (l.run vs).Done w := by
  induction vs generalizing l with
  | nil => exact ⟨rfl, done⟩
  | cons v vs ih =>
    obtain ⟨kept, still⟩ := after_of_done sound.apart v done
    obtain ⟨kept', still'⟩ := ih (sound_after sound v) still
    exact ⟨kept'.trans kept, still'⟩

/-- A pending exchange after a run: its waiter has the outcome the exchange came to, if it came
to one, and it is pending exactly if it did not. -/
theorem run_of_pending (sound : l.Sound) (vs : List Event) {id : CorrelationId} {e : Entry}
    (pending : l.pending.get? id = some e) :
    (l.run vs).waiters[e.waiter]? =
        some { received := ((e.fate id vs).map Prod.snd).toList } ∧
      (e.fate id vs = none ↔
        ∃ f, (l.run vs).pending.get? id = some f ∧ f.waiter = e.waiter) := by
  induction vs generalizing l e with
  | nil => exact ⟨sound.waits pending, fun _ => ⟨e, pending, rfl⟩, fun _ => rfl⟩
  | cons v vs ih =>
    rw [Entry.fate_cons]
    cases verdict : e.closing? id v with
    | none =>
      obtain ⟨f, pending', waiter, fate⟩ := after_of_open sound pending verdict
      rw [Option.none_or, ← fate, ← waiter]
      exact ih (sound_after sound v) pending'
    | some verdict' =>
      obtain ⟨how, r⟩ := verdict'
      obtain ⟨handed, done⟩ := after_of_closed sound pending verdict
      obtain ⟨kept, done⟩ := run_of_done (sound_after sound v) vs done
      refine ⟨kept.trans handed, fun unclosed => (nomatch unclosed), ?_⟩
      rintro ⟨f, waiting, waiter⟩
      exact absurd waiter (done.2 id f waiting)

end Run

section Count

variable {l : Ledger}

def ends (l : Ledger) (vs : List Event) : List (Option (Closing × Response)) :=
  (l.pending.entries.map fun p => p.2.fate p.1 vs) ++ l.fates vs

theorem fates_cons_of_opened {v : Event} {id : CorrelationId} {sender recipient : ComponentId}
    {timeout : Duration} (act : v.act = .register id sender recipient timeout)
    (fresh : l.pending.contains id = false) (vs : List Event) :
    l.fates (v :: vs) =
      Entry.fate ⟨sender, recipient, l.waiters.length, v.time, timeout, none⟩ id vs ::
        (l.after v).fates vs := by
  simp [fates, act, fresh]

theorem entries_insert_of_fresh {id : CorrelationId} (e : Entry)
    (fresh : l.pending.contains id = false) :
    (l.pending.insert id e).entries = l.pending.entries ++ [(id, e)] := by
  simp [Table.insert, fresh, Table.push]

theorem ends_attach {id : CorrelationId} {e : Entry} (alarm : Option Alarm)
    (here : l.pending.get? id = some e) (vs : List Event) :
    ((l.pending.insert id { e with alarm }).entries.map fun p => p.2.fate p.1 vs) =
      l.pending.entries.map fun p => p.2.fate p.1 vs := by
  have present : l.pending.contains id = true := by rw [Table.contains, here, Option.isSome_some]
  simp only [Table.insert, present, dite_true, Table.replace, List.map_map]
  refine List.map_congr_left fun p mem => ?_
  rw [Function.comp_apply]
  by_cases own : p.1 = id
  · have found := Table.get?_eq_some_iff.mpr mem
    rw [own, here] at found
    cases found
    rw [if_pos own, Entry.fate_alarm, own]
  · rw [if_neg own]

theorem countP_ends_cons (sound : l.Sound) (v : Event) (vs : List Event)
    (q : Option (Closing × Response) → Bool) :
    (l.ends (v :: vs)).countP q =
      (l.pending.entries.countP fun p => (p.2.closing? p.1 v).isSome && q (p.2.closing? p.1 v)) +
        ((l.after v).ends vs).countP q := by
  have split := Closes.countP_or (fun p : CorrelationId × Entry => p.2.closing? p.1 v)
    (fun p => p.2.fate p.1 vs) q l.pending.entries
  have untouched (act : ∀ p : CorrelationId × Entry, p.2.closing? p.1 v = none) :
      (l.pending.entries.countP fun p =>
        (p.2.closing? p.1 v).isSome && q (p.2.closing? p.1 v)) = 0 ∧
      (l.pending.entries.map fun p => p.2.fate p.1 (v :: vs)) =
        l.pending.entries.map fun p => p.2.fate p.1 vs := by
    refine ⟨List.countP_eq_zero.mpr fun p _ => by simp [act], ?_⟩
    refine List.map_congr_left fun p _ => ?_
    rw [Entry.fate_cons, act, Option.none_or]
  simp only [ends, List.countP_append]
  obtain ⟨closed, fates⟩ | ⟨j, f, alarm, act, here, same⟩ | ⟨j, s, r, t, act, fresh, same⟩ :=
    after_cases sound.apart v
  · rw [fates, closed.entries, ← Nat.add_assoc, List.countP_map, List.countP_map]
    congr 1
    simpa only [Function.comp_def, Entry.fate_cons] using split
  · obtain ⟨noneCloses, later⟩ := untouched fun p => by simp [Entry.closing?, act]
    rw [noneCloses, later, Nat.zero_add, same, ends_attach _ here, fates, act, ← same]
  · obtain ⟨noneCloses, later⟩ := untouched fun p => by simp [Entry.closing?, act]
    rw [noneCloses, later, Nat.zero_add, fates_cons_of_opened act fresh, same,
      entries_insert_of_fresh _ fresh, ← same]
    simp only [List.map_append, List.map_cons, List.map_nil, List.countP_append]
    rw [List.countP_cons, List.countP_singleton]
    omega

theorem count_after (sound : l.Sound) (v : Event) (how : Closing) :
    (l.after v).count how = l.count how + l.pending.entries.countP fun p =>
      (p.2.closing? p.1 v).isSome && (p.2.closing? p.1 v).map Prod.fst == some how := by
  have untouched (act : ∀ p : CorrelationId × Entry, p.2.closing? p.1 v = none) :
      (l.pending.entries.countP fun p =>
        (p.2.closing? p.1 v).isSome && (p.2.closing? p.1 v).map Prod.fst == some how) = 0 :=
    List.countP_eq_zero.mpr fun p _ => by simp [act]
  obtain ⟨closed, _⟩ | ⟨j, f, alarm, act, _, same⟩ | ⟨j, s, r, t, act, _, same⟩ :=
    after_cases sound.apart v
  · rw [closed.count]
    congr 1
    refine List.countP_congr fun p _ => ?_
    cases p.2.closing? p.1 v <;> simp
  · rw [untouched fun p => by simp [Entry.closing?, act], same]
    cases how <;> rfl
  · rw [untouched fun p => by simp [Entry.closing?, act], same]
    cases how <;> rfl

theorem count_run (sound : l.Sound) (vs : List Event) (how : Closing) :
    (l.run vs).count how =
      l.count how + (l.ends vs).countP fun f => f.map Prod.fst == some how := by
  induction vs generalizing l with
  | nil => simp [ends, fates, List.countP_eq_zero]
  | cons v vs ih =>
    rw [run_cons, ih (sound_after sound v), count_after sound v, Nat.add_assoc,
      countP_ends_cons sound v vs]

theorem size_run (sound : l.Sound) (vs : List Event) :
    (l.run vs).pending.size = (l.ends vs).countP Option.isNone := by
  induction vs generalizing l with
  | nil =>
    simp only [run_nil, ends, fates, List.append_nil, List.countP_map, Table.size]
    exact (List.countP_eq_length.mpr fun _ _ => rfl).symm
  | cons v vs ih =>
    rw [run_cons, ih (sound_after sound v), countP_ends_cons sound v vs]
    have never : (l.pending.entries.countP fun p =>
        (p.2.closing? p.1 v).isSome && (p.2.closing? p.1 v).isNone) = 0 :=
      List.countP_eq_zero.mpr fun p _ => by cases p.2.closing? p.1 v <;> simp
    rw [never, Nat.zero_add]

theorem length_eq_countP (fs : List (Option (Closing × Response))) :
    fs.length = fs.countP Option.isNone +
      (fs.countP fun f => f.map Prod.fst == some .response) +
      (fs.countP fun f => f.map Prod.fst == some .timeout) +
      (fs.countP fun f => f.map Prod.fst == some .cancellation) := by
  induction fs with
  | nil => rfl
  | cons f fs ih =>
    simp only [List.length_cons, List.countP_cons, ih]
    cases f with
    | none => simp; omega
    | some end' =>
      obtain ⟨how, r⟩ := end'
      cases how <;> simp <;> omega

end Count

theorem act_of_unknown {l : Ledger} {v : Event} {id : CorrelationId}
    (wants : v.act.wants = some id) (unknown : l.pending.get? id = none) :
    l.act v.time v.act = .error (.unknown id) := by
  obtain ⟨now, act⟩ := v
  cases act <;> cases wants <;>
    simp [Ledger.act, resolve_eq_conclude, expire_eq_conclude, cancel_eq_conclude,
      conclude_of_unknown unknown]

theorem after_of_error {l : Ledger} {v : Event} {e : ExchangeError}
    (refused : l.act v.time v.act = .error e) : l.after v = l := by
  rw [after, attempt, refused]

theorem register_of_contains {l : Ledger} {id : CorrelationId}
    (taken : l.pending.contains id = true) (now : Duration) (sender recipient : ComponentId)
    (timeout : Duration) :
    l.act now (.register id sender recipient timeout) = .error (.duplicate id) := by
  simp [Ledger.act, register, taken, Except.map]

theorem books_ring_of_unknown {l : Ledger} {alarm : Alarm}
    (unknown : l.pending.get? alarm.id = none) (now : Duration) :
    (l.ring now alarm).books = l.books := by
  have gone : (l.cancelAlarm alarm).expire now alarm.id = .error (.unknown alarm.id) := by
    rw [expire_eq_conclude]
    exact conclude_of_unknown (l := l.cancelAlarm alarm) unknown
  rw [ring, attempt, gone]
  rfl

/-- In every run from the empty ledger, a registration's waiter has been handed nothing while
its entry is pending, and the outcome of the event that closed it, and that alone, from then on.
What finds no entry, or finds the id taken, is refused and changes none of the books. The
registrations are as many as the pending entries and the three counters together, and each
counter counts the exchanges that ended its way. -/
theorem exchanges_end_once (vs : List Event) :
    let l := run {} vs
    (∀ before now id sender recipient timeout rest waiter opened,
      vs = before ++ ⟨now, .register id sender recipient timeout⟩ :: rest →
      (run {} before).register id sender recipient now timeout = .ok (waiter, opened) →
      let fate := Entry.fate ⟨sender, recipient, waiter, now, timeout, none⟩ id rest
      l.waiters[waiter]? = some { received := (fate.map Prod.snd).toList } ∧
        (fate = none ↔ ∃ e, l.pending.get? id = some e ∧ e.waiter = waiter)) ∧
    (∀ v id, v.act.wants = some id → l.pending.contains id = false →
      l.act v.time v.act = .error (.unknown id) ∧ (l.after v).books = l.books) ∧
    (∀ now (alarm : Alarm), l.pending.contains alarm.id = false →
      (l.after ⟨now, .ring alarm⟩).books = l.books) ∧
    (∀ now id alarm, l.pending.contains id = false →
      l.attach? id alarm = none ∧ (l.after ⟨now, .attach id alarm⟩).books = l.books) ∧
    (∀ now id sender recipient timeout, l.pending.contains id = true →
      l.act now (.register id sender recipient timeout) = .error (.duplicate id) ∧
        (l.after ⟨now, .register id sender recipient timeout⟩).books = l.books) ∧
    (fates {} vs).length = l.pending.size + l.completed + l.timedOut + l.cancelled ∧
    l.pending.size = (fates {} vs).countP Option.isNone ∧
    ∀ how, l.count how = (fates {} vs).countP fun f => f.map Prod.fst == some how := by
  intro l
  have absent : ∀ {id}, l.pending.contains id = false → l.pending.get? id = none := by
    intro id unknown
    simpa [Table.contains] using unknown
  have size : l.pending.size = (fates {} vs).countP Option.isNone := size_run sound_empty vs
  have counts : ∀ how, l.count how =
      (fates {} vs).countP fun f => f.map Prod.fst == some how := fun how => by
    rw [count_run sound_empty vs how]
    cases how <;> exact Nat.zero_add _
  refine ⟨?_, ?_, ?_, ?_, ?_, ?_, size, counts⟩
  · intro before now id sender recipient timeout rest waiter opened split accepted fate
    have fresh : (run {} before).pending.contains id = false := by
      cases taken : (run {} before).pending.contains id with
      | false => rfl
      | true => simp [register, taken] at accepted
    simp only [register, fresh, Bool.false_eq_true, if_false, Except.ok.injEq,
      Prod.mk.injEq] at accepted
    obtain ⟨rfl, rfl⟩ := accepted
    have sound := sound_run sound_empty before
    have opened : (run {} before).after ⟨now, .register id sender recipient timeout⟩ =
        { run {} before with
          pending := (run {} before).pending.insert id
            ⟨sender, recipient, (run {} before).waiters.length, now, timeout, none⟩
          waiters := (run {} before).waiters ++ [{}] } := by
      simp [after, attempt, Ledger.act, register, fresh, Except.map]
    have later : l = ((run {} before).after ⟨now, .register id sender recipient timeout⟩).run
        rest := by
      simp only [l, split, run_append, run_cons]
    rw [later, opened]
    exact run_of_pending (sound_open sound id rfl) rest (Table.get?_insert_self _ _ _)
  · intro v id wants unknown
    have refused := act_of_unknown wants (absent unknown)
    exact ⟨refused, by rw [after_of_error refused]⟩
  · intro now alarm unknown
    exact books_ring_of_unknown (absent unknown) now
  · intro now id alarm unknown
    have returned : l.attach? id alarm = none := by rw [attach?, absent unknown]; rfl
    exact ⟨returned, by rw [after, attempt, Ledger.act, returned]; rfl⟩
  · intro now id sender recipient timeout taken
    have refused := register_of_contains taken now sender recipient timeout
    exact ⟨refused, by rw [after_of_error (v := ⟨now, _⟩) refused]⟩
  · rw [length_eq_countP, ← size, ← counts, ← counts, ← counts]
    rfl

/-- An id used twice: the first exchange ends with its response, the second by its deadline. -/
theorem reused_id_ends_twice :
    let id := CorrelationId.issued 0
    let response : Response := ⟨id, ⟨"b"⟩, ⟨"a"⟩, .ok [1], ⟨1⟩⟩
    let vs : List Event :=
      [⟨⟨0⟩, .register id ⟨"a"⟩ ⟨"b"⟩ ⟨5⟩⟩, ⟨⟨1⟩, .resolve id response⟩,
        ⟨⟨2⟩, .register id ⟨"a"⟩ ⟨"b"⟩ ⟨5⟩⟩, ⟨⟨8⟩, .sweep⟩]
    (run {} vs).waiters[0]? = some { received := [response] } ∧
      (run {} vs).waiters[1]? =
        some { received := [⟨id, ⟨"b"⟩, ⟨"a"⟩, .error .timeout, ⟨8⟩⟩] } ∧
      (fates {} vs).length = 2 := by
  intro id response vs
  have ends := (exchanges_end_once vs).1
  have first := ends [] ⟨0⟩ id ⟨"a"⟩ ⟨"b"⟩ ⟨5⟩ (vs.drop 1) 0 _ rfl rfl
  have second := ends (vs.take 2) ⟨2⟩ id ⟨"a"⟩ ⟨"b"⟩ ⟨5⟩ (vs.drop 3) 1 _ rfl rfl
  exact ⟨first.1, second.1, rfl⟩

end ComponentHost.Ledger
