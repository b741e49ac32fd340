import ComponentHost.Proofs.Ledger.AlarmLog

/-! Clearings: the cleanup for a component and the sweep refuse all exchanges of a kind, one after
the other. In whatever order they go through the ledger, what is left is the same: these exchanges
are gone, each of their waiters has one refusal and their alarms are retired. What comes for one
of them after that finds nothing. -/

namespace ComponentHost.Ledger

variable {l m n : Ledger} {picks : Entry → Bool} {how : Closing} {failure : RequestFailure}
  {now : Duration} {id : CorrelationId} {e : Entry} {alarm : Alarm}

def picked (l : Ledger) (picks : Entry → Bool) : List CorrelationId :=
  (l.pending.entries.filter fun p => picks p.2).map Prod.fst

def guards (l : Ledger) (picks : Entry → Bool) : List Alarm := (l.picked picks).filterMap l.charge

theorem mem_picked : id ∈ l.picked picks ↔ ∃ e, l.pending.get? id = some e ∧ picks e = true := by
  simp [picked, Table.get?_eq_some_iff]

theorem mem_guards : alarm ∈ l.guards picks ↔
    ∃ id e, l.pending.get? id = some e ∧ picks e = true ∧ e.alarm = some alarm := by
  simp only [guards, List.mem_filterMap, mem_picked, charge_eq_some]
  constructor
  · rintro ⟨id, ⟨e, pending, picked⟩, f, pending', charged⟩
    cases pending.symm.trans pending'
    exact ⟨id, e, pending, picked, charged⟩
  · rintro ⟨id, e, pending, picked, charged⟩
    exact ⟨id, ⟨e, pending, picked⟩, e, pending, charged⟩

theorem nodup_picked (l : Ledger) (picks : Entry → Bool) : (l.picked picks).Nodup :=
  l.nodup_keys_filter _

/-- Alarms are only in charge of the exchanges they were set for, and no two of them are armed
under one id. -/
structure Orderly (l : Ledger) : Prop where
  own : ∀ {id e alarm}, l.pending.get? id = some e → e.alarm = some alarm → alarm.id = id
  single : ∀ {alarm other}, alarm ∈ l.alarms.armed → other ∈ l.alarms.armed →
    alarm.id = other.id → alarm = other

theorem orderly_iff : l.Orderly ↔
    (∀ p ∈ l.pending.entries, ∀ alarm ∈ p.2.alarm, alarm.id = p.1) ∧
      ∀ alarm ∈ l.alarms.armed, ∀ other ∈ l.alarms.armed, alarm.id = other.id → alarm = other := by
  constructor
  · rintro ⟨own, single⟩
    exact ⟨fun p mem alarm charged => own (Table.get?_eq_some_iff.mpr mem) charged,
      fun alarm armed other armed' => single armed armed'⟩
  · rintro ⟨own, single⟩
    exact ⟨fun pending charged => own _ (Table.get?_eq_some_iff.mp pending) _ charged,
      fun armed armed' => single _ armed _ armed'⟩

instance : Decidable l.Orderly := decidable_of_iff _ orderly_iff.symm

/-- What was picked in `l` has been refused in `m` and its alarms are retired. Nothing else has
changed, except that whatever the board showed under the ids of these alarms is off it. -/
structure Clears (picks : Entry → Bool) (how : Closing) (failure : RequestFailure)
    (now : Duration) (l m : Ledger) : Prop where
  entries : m.pending.entries = l.pending.entries.filter fun p => !picks p.2
  /-- Each waiter of a cleared exchange, if it is still there, receives its refusal alone. -/
  handed : ∀ {id e}, l.pending.get? id = some e → picks e = true → ∃ listening,
    l.waiters[e.waiter]? = some ⟨listening, []⟩ ∧ m.waiters[e.waiter]? =
      some ⟨listening, if listening then [e.refusal id failure now] else []⟩
  kept : ∀ w, (∀ id e, l.pending.get? id = some e → picks e = true → e.waiter ≠ w) →
    m.waiters[w]? = l.waiters[w]?
  count : ∀ k, m.count k = l.count k + if k = how then (l.picked picks).length else 0
  members : m.members = l.members
  armed : ∀ {alarm}, alarm ∈ m.alarms.armed ↔
    alarm ∈ l.alarms.armed ∧ ∀ guard ∈ l.guards picks, alarm.number ≠ guard.number
  board : ∀ id, m.alarms.board.get? id =
    if id ∈ (l.guards picks).map Alarm.id then none else l.alarms.board.get? id
  next : m.alarms.next = l.alarms.next

theorem Closes.books_eq {out : Verdicts} (h : Closes out l m) (h' : Closes out l n) :
    m.books = n.books := by
  have waiters : m.waiters = n.waiters := List.ext_getElem? fun w => by
    by_cases clear : ∀ id e, l.pending.get? id = some e → (out id e).isSome → e.waiter ≠ w
    · rw [h.kept w clear, h'.kept w clear]
    · simp only [Classical.not_forall, Classical.not_not] at clear
      obtain ⟨id, e, pending, verdict, rfl⟩ := clear
      obtain ⟨_, verdict⟩ := Option.isSome_iff_exists.mp verdict
      rw [h.handed pending verdict, h'.handed pending verdict]
  have count : ∀ k, m.count k = n.count k := fun k => by rw [h.count, h'.count]
  simp only [books, Prod.mk.injEq]
  exact ⟨Table.ext (h.entries.trans h'.entries.symm), count .response, count .timeout,
    count .cancellation, waiters⟩

theorem eq_of_parts (books : m.books = n.books) (alarms : m.alarms = n.alarms)
    (members : m.members = n.members) : m = n := by
  cases m
  cases n
  simp only [Ledger.books, Prod.mk.injEq] at *
  simp [*]

variable (how) in
theorem each_perm (apart : l.Apart) (outcome : CorrelationId → Entry → Response)
    {ids ids' : List CorrelationId} (order : ids.Perm ids') (nodup : ids'.Nodup)
    (pending : ∀ id ∈ ids', l.pending.contains id = true) :
    each (conclude how outcome) ids l = each (conclude how outcome) ids' l := by
  have nodup' : ids.Nodup := order.nodup_iff.mpr nodup
  obtain ⟨number, closed⟩ := each_conclude how outcome ids nodup' apart fun id mem =>
    pending id (order.mem_iff.mp mem)
  obtain ⟨number', closed'⟩ := each_conclude how outcome ids' nodup apart pending
  have same : Closes (fun j f => if j ∈ ids' then some (how, outcome j f) else none) l
      (each (conclude how outcome) ids l).2 :=
    closed.congr fun id e _ => by simp only [order.mem_iff]
  have alarms : (each (conclude how outcome) ids l).2.alarms =
      (each (conclude how outcome) ids' l).2.alarms := by
    rw [alarms_each how outcome ids nodup' fun _ _ => rfl,
      alarms_each how outcome ids' nodup fun _ _ => rfl]
    exact (order.filterMap l.charge).foldl_eq' (fun a _ b _ z => Alarms.retire_comm z a b) _
  refine Prod.ext ?_ (eq_of_parts (same.books_eq closed') alarms ?_)
  · rw [number, number', order.length_eq]
  · rw [members_each, members_each]

theorem clears_of_closes (served : l.Served)
    (closed : Closes
      (fun id e => if picks e then some (how, e.refusal id failure now) else none) l m)
    (members : m.members = l.members)
    (alarms : m.alarms = (l.guards picks).foldl Alarms.retire l.alarms) :
    Clears picks how failure now l m := by
  refine ⟨?_, fun {id e} here picked => ?_, fun w clear => ?_, fun k => ?_, members, ?_,
    fun id => ?_, ?_⟩
  · rw [closed.entries]
    refine List.filter_congr fun p _ => ?_
    cases picks p.2 <;> rfl
  · obtain ⟨⟨listening, received⟩, waits, fresh⟩ := served.waits here
    cases fresh
    refine ⟨listening, waits, ?_⟩
    rw [closed.handed here (by rw [if_pos picked]), waits, Option.map_some, Waiter.hand]
    cases listening <;> rfl
  · refine closed.kept w fun id e here verdict => clear id e here ?_
    cases picked : picks e with
    | true => rfl
    | false => simp [picked] at verdict
  · rw [closed.count]
    congr 1
    by_cases own : k = how
    · subst own
      rw [if_pos rfl, picked, List.length_map, ← List.countP_eq_length_filter]
      refine List.countP_congr fun p _ => ?_
      cases picks p.2 <;> simp
    · rw [if_neg own]
      refine List.countP_eq_zero.mpr fun p _ => ?_
      cases picks p.2 <;> simp [Ne.symm own]
  · intro alarm
    rw [alarms, Alarms.mem_armed_foldl_retire]
  · rw [alarms, Alarms.board_foldl_retire]
  · rw [alarms, Alarms.next_foldl_retire]

theorem pending_of_picked (l : Ledger) (picks : Entry → Bool) :
    ∀ id ∈ l.picked picks, l.pending.contains id = true := by
  intro id mem
  obtain ⟨e, pending, _⟩ := mem_picked.mp mem
  rw [Table.contains, pending, Option.isSome_some]

theorem sweep_clears (served : l.Served) {ids : List CorrelationId}
    (order : ids.Perm (l.overdue now)) :
    each (·.expire now) ids l = l.sweep now ∧ (l.sweep now).1 = (l.overdue now).length ∧
      Clears (·.overdue now) .timeout .timeout now l (l.sweep now).2 := by
  obtain ⟨number, closed⟩ := sweep_closes served.apart now
  have nodup := l.nodup_picked (·.overdue now)
  refine ⟨each_perm .timeout served.apart (fun id e => e.refusal id .timeout now) order nodup
    (l.pending_of_picked (·.overdue now)), number, clears_of_closes served closed ?_ ?_⟩
  · exact members_each .timeout (fun id e => e.refusal id .timeout now) _
  · exact alarms_each .timeout (fun id e => e.refusal id .timeout now) _ nodup fun _ _ => rfl

variable (now) in
theorem cleanup_clears (served : l.Served) {c : ComponentId} {ids : List CorrelationId}
    (order : ids.Perm (l.involving c)) :
    each (·.cancel now .cancelled) ids l = l.cleanup now c ∧
      (l.cleanup now c).1 = (l.involving c).length ∧
      Clears (·.involves c) .cancellation .cancelled now l (l.cleanup now c).2 := by
  obtain ⟨number, closed⟩ := cleanup_closes served.apart now c
  have nodup := l.nodup_picked (·.involves c)
  refine ⟨each_perm .cancellation served.apart (fun id e => e.refusal id .cancelled now) order nodup
    (l.pending_of_picked (·.involves c)), number,
    clears_of_closes served closed (l.members_cleanup now c) ?_⟩
  exact alarms_each .cancellation (fun id e => e.refusal id .cancelled now) _ nodup fun _ _ => rfl

namespace Clears

variable (clears : Clears picks how failure now l m)

include clears

theorem get?_iff : m.pending.get? id = some e ↔ l.pending.get? id = some e ∧ picks e = false := by
  simp [Table.get?_eq_some_iff, clears.entries]

theorem get?_eq_none (pending : l.pending.get? id = some e) (picked : picks e = true) :
    m.pending.get? id = none := by
  cases left : m.pending.get? id with
  | none => rfl
  | some f =>
    obtain ⟨before, unpicked⟩ := clears.get?_iff.mp left
    cases pending.symm.trans before
    rw [picked] at unpicked
    cases unpicked

theorem picked_eq_nil : m.picked picks = [] := by
  rw [picked, clears.entries, List.filter_filter]
  refine List.map_eq_nil_iff.mpr (List.filter_eq_nil_iff.mpr fun p _ => ?_)
  cases picks p.2 <;> simp

theorem size : (l.picked picks).length + m.pending.size = l.pending.size := by
  rw [Table.size, Table.size, clears.entries, picked, List.length_map]
  have split := List.length_eq_countP_add_countP (fun p => picks p.2) (l := l.pending.entries)
  rw [List.countP_eq_length_filter, List.countP_eq_length_filter] at split
  simpa using split.symm

theorem done (served : l.Served) (pending : l.pending.get? id = some e) (picked : picks e = true) :
    m.Done e.waiter := by
  obtain ⟨listening, _, handed⟩ := clears.handed pending picked
  refine ⟨(List.getElem?_eq_some_iff.mp handed).1, fun j f left same => ?_⟩
  obtain ⟨before, unpicked⟩ := clears.get?_iff.mp left
  obtain rfl := served.apart before pending same
  cases before.symm.trans pending
  rw [picked] at unpicked
  cases unpicked

theorem past (pending : l.pending.get? id = some e) (picked : picks e = true)
    (charged : e.alarm = some alarm) (known : alarm.number < l.alarms.next) :
    m.alarms.Past alarm.number := by
  refine ⟨clears.next ▸ known, fun other armed same => ?_⟩
  exact (clears.armed.mp armed).2 alarm (mem_guards.mpr ⟨id, e, pending, picked, charged⟩) same

end Clears

section Since

variable {v : Event} {vs : List Event}

theorem Served.run (served : l.Served) (vs : List Event) : (l.run vs).Served := by
  induction vs generalizing l with
  | nil => exact served
  | cons v vs ih => exact ih (served.after v)

theorem Served.run_of_done (served : l.Served) (vs : List Event) {w : Nat} (done : l.Done w) :
    (l.run vs).waiters[w]? = l.waiters[w]? := by
  induction vs generalizing l with
  | nil => rfl
  | cons v vs ih =>
    obtain ⟨kept, still⟩ := after_of_done served.apart v done
    exact (ih (served.after v) still).trans kept

theorem past_after {number : Nat} (past : l.alarms.Past number) (v : Event) :
    (l.after v).alarms.Past number := by
  obtain ⟨known, gone⟩ := past
  have touched : (l.touched v).Past number := by
    obtain ⟨now, act⟩ := v
    cases act with
    | arm id span =>
      refine ⟨Nat.lt_succ_of_lt known, fun other armed => ?_⟩
      obtain armed | armed := List.mem_append.mp armed
      · exact gone other armed
      · rw [List.mem_singleton.mp armed]
        exact (Nat.ne_of_lt known).symm
    | cancelAlarm | ring =>
      exact ⟨known, fun other armed => gone other (Alarms.mem_armed_retire.mp armed).1⟩
    | _ => exact ⟨known, gone⟩
  rw [alarms_after]
  refine ⟨?_, fun other armed => touched.2 other (Alarms.mem_armed_foldl_retire.mp armed).1⟩
  rw [Alarms.next_foldl_retire]
  exact touched.1

theorem past_run {number : Nat} (past : l.alarms.Past number) (vs : List Event) :
    (l.run vs).alarms.Past number := by
  induction vs generalizing l with
  | nil => exact past
  | cons v vs ih => exact ih (past_after past v)

theorem unknown_after (apart : l.Apart) (unknown : l.pending.get? id = none)
    (other : ∀ sender recipient timeout, v.act ≠ .register id sender recipient timeout) :
    (l.after v).pending.get? id = none := by
  obtain ⟨closed, _⟩ | ⟨j, f, alarm, _, here, same⟩ | ⟨j, s, r, t, act, _, same⟩ :=
    after_cases apart v
  · cases left : (l.after v).pending.get? id with
    | none => rfl
    | some e => cases unknown.symm.trans (closed.get?_iff.mp left).1
  · have differ : id ≠ j := by
      rintro rfl
      cases unknown.symm.trans here
    rw [same, Table.get?_insert_of_ne _ _ differ, unknown]
  · have differ : id ≠ j := by
      rintro rfl
      exact other s r t act
    rw [same, Table.get?_insert_of_ne _ _ differ, unknown]

theorem unknown_run (served : l.Served) (unknown : l.pending.get? id = none)
    (other : ∀ v ∈ vs, ∀ sender recipient timeout,
      v.act ≠ .register id sender recipient timeout) :
    (l.run vs).pending.get? id = none := by
  induction vs generalizing l with
  | nil => exact unknown
  | cons v vs ih =>
    obtain ⟨first, rest⟩ := List.forall_mem_cons.mp other
    exact ih (served.after v) (unknown_after served.apart unknown first) rest

theorem turned_away (unknown : l.pending.get? id = none) (now : Duration) :
    (∀ r, l.resolve id r = .error (.unknown id)) ∧ l.expire now id = .error (.unknown id) ∧
      (∀ failure, l.cancel now failure id = .error (.unknown id)) ∧
      ∀ alarm : Alarm, alarm.id = id → l.ring now alarm = l.cancelAlarm alarm := by
  have refused : ∀ {m : Ledger} (act : Act), m.pending.get? id = none → act.wants = some id →
      m.act now act = .error (.unknown id) :=
    fun {m} act unknown wants => act_of_unknown (l := m) (v := ⟨now, act⟩) wants unknown
  refine ⟨fun r => refused (.resolve id r) unknown rfl, refused (.expire id) unknown rfl,
    fun failure => refused (.cancel id failure) unknown rfl, ?_⟩
  rintro alarm rfl
  have tooLate : (l.cancelAlarm alarm).expire now alarm.id = .error (.unknown alarm.id) :=
    refused (m := l.cancelAlarm alarm) (.expire alarm.id) unknown rfl
  rw [ring, attempt, tooLate]

end Since

end ComponentHost.Ledger
