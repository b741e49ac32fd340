import ComponentHost.Proofs.Ledger.AlarmGuard

/-! Which exchanges come to their ends from one ledger to another, and how. The list of them
accounts for the counters as a whole, and for every exchange by itself: it is on the list at most
once, and it is if and only if it was pending and no longer is. Closing one exchange leaves
everything that belongs to the others as it is. -/

namespace ComponentHost.Ledger

section Concludes

/-- From `l` to `m` exchanges were closed, one after the other, each as it is listed, and none by a
response unless one was heard. Alarms, members and waiters may have changed otherwise. -/
inductive Concludes (heard : CorrelationId → Prop) :
    List (CorrelationId × Closing) → Ledger → Ledger → Prop
  | same {l m : Ledger} (pending : m.pending = l.pending) (count : m.count = l.count) :
    Concludes heard [] l m
  | conclude {l m : Ledger} {how : Closing} {outcome : CorrelationId → Entry → Response}
    {id : CorrelationId} (closed : l.conclude how outcome id = .ok m)
    (answered : how = .response → heard id) : Concludes heard [(id, how)] l m
  | trans {cs cs' : List (CorrelationId × Closing)} {l m n : Ledger}
    (first : Concludes heard cs l m) (second : Concludes heard cs' m n) :
    Concludes heard (cs ++ cs') l n

variable {heard : CorrelationId → Prop} {l m : Ledger} {cs : List (CorrelationId × Closing)}

namespace Concludes

theorem attempt (l : Ledger) (how : Closing) (outcome : CorrelationId → Entry → Response)
    (id : CorrelationId) (answered : how = .response → heard id) :
    ∃ cs, Concludes heard cs l (l.attempt (·.conclude how outcome id)) := by
  unfold Ledger.attempt
  split
  case h_1 closed => exact ⟨_, .conclude closed answered⟩
  case h_2 => exact ⟨[], .same rfl rfl⟩

theorem each (l : Ledger) (how : Closing) (unanswered : how ≠ .response)
    (outcome : CorrelationId → Entry → Response) (ids : List CorrelationId) :
    ∃ cs, Concludes heard cs l (each (Ledger.conclude how outcome) ids l).2 := by
  induction ids generalizing l with
  | nil => exact ⟨[], .same rfl rfl⟩
  | cons id rest ih =>
    unfold Ledger.each
    split
    case h_1 m closed =>
      obtain ⟨cs, others⟩ := ih m
      exact ⟨_, .trans (.conclude closed fun same => absurd same unanswered) others⟩
    case h_2 => exact ih l

variable {responses : CorrelationId → Response → Prop}

theorem after (l : Ledger) {v : Event} (closes : v.act.Closes responses) :
    ∃ cs, Concludes (fun id => ∃ r, responses id r) cs l (l.after v) := by
  obtain ⟨now, act⟩ := v
  cases act with
  | resolve id r => exact attempt l .response (fun _ _ => r) id fun _ => ⟨r, closes⟩
  | expire id => exact attempt l .timeout (fun id e => e.refusal id .timeout now) id nofun
  | cancel id failure =>
    exact attempt l .cancellation (fun id e => e.refusal id failure now) id nofun
  | cleanup c => exact each l .cancellation nofun _ (l.involving c)
  | sweep => exact each l .timeout nofun _ (l.overdue now)
  | _ => exact closes.elim

theorem run (l : Ledger) {vs : List Event} (closes : ∀ v ∈ vs, v.act.Closes responses) :
    ∃ cs, Concludes (fun id => ∃ r, responses id r) cs l (l.run vs) := by
  induction vs generalizing l with
  | nil => exact ⟨[], .same rfl rfl⟩
  | cons v vs ih =>
    obtain ⟨_, first⟩ := after l (closes v List.mem_cons_self)
    obtain ⟨_, others⟩ := ih (l.after v) fun w mem => closes w (List.mem_cons_of_mem v mem)
    exact ⟨_, first.trans others⟩

theorem ring (l : Ledger) (now : Duration) (alarm : Alarm) :
    ∃ cs, Concludes heard cs l (l.ring now alarm) := by
  have cancelled : Concludes heard [] l (l.cancelAlarm alarm) := .same rfl rfl
  obtain ⟨_, rung⟩ := attempt (l.cancelAlarm alarm) .timeout
    (fun id e => e.refusal id .timeout now) alarm.id nofun
  exact ⟨_, cancelled.trans rung⟩

theorem count (concludes : Concludes heard cs l m) (how : Closing) :
    m.count how = l.count how + cs.countP fun c => c.2 = how := by
  induction concludes with
  | same _ count => rw [count, List.countP_nil, Nat.add_zero]
  | @conclude l m how' outcome id closed _ =>
    obtain ⟨e, here, rfl⟩ := exists_of_concluded closed
    rw [count_conclude]
    by_cases same : how' = how <;> simp [same]
  | trans _ _ ih ih' => rw [ih', ih, List.countP_append, Nat.add_assoc]

inductive Of (heard : CorrelationId → Prop) (cs : List (CorrelationId × Closing)) (l m : Ledger)
    (id : CorrelationId) : Prop
  | spared (left : m.pending.get? id = l.pending.get? id)
    (unlisted : cs.filter (·.1 = id) = [])
  | concluded {how : Closing} (pending : l.pending.get? id ≠ none) (left : m.pending.get? id = none)
    (listed : cs.filter (·.1 = id) = [(id, how)]) (answered : how = .response → heard id)

namespace Of

variable {n : Ledger} {cs' : List (CorrelationId × Closing)} {id : CorrelationId}

theorem mono {heard' : CorrelationId → Prop} (of : Of heard cs l m id)
    (more : heard id → heard' id) : Of heard' cs l m id := by
  cases of with
  | spared left unlisted => exact .spared left unlisted
  | concluded pending left listed answered =>
    exact .concluded pending left listed fun same => more (answered same)

theorem trans (first : Of heard cs l m id) (second : Of heard cs' m n id) :
    Of heard (cs ++ cs') l n id := by
  cases first with
  | spared left unlisted =>
    cases second with
    | spared left' unlisted' =>
      exact .spared (left'.trans left) (by rw [List.filter_append, unlisted, unlisted']; rfl)
    | concluded pending gone listed answered =>
      exact .concluded (left ▸ pending) gone
        (by rw [List.filter_append, unlisted, listed]; rfl) answered
  | concluded pending gone listed answered =>
    cases second with
    | spared left' unlisted' =>
      exact .concluded pending (left'.trans gone)
        (by rw [List.filter_append, unlisted', listed]; rfl) answered
    | concluded pending' => exact absurd gone pending'

end Of

theorem of_id (concludes : Concludes heard cs l m) (id : CorrelationId) : Of heard cs l m id := by
  induction concludes with
  | same pending _ => exact .spared (by rw [pending]) rfl
  | @conclude l m how outcome j closed answered =>
    obtain ⟨e, here, rfl⟩ := exists_of_concluded closed
    by_cases same : j = id
    · subst same
      refine .concluded (by simp [here]) ?_ (by simp) answered
      rw [pending_conclude, Table.get?_erase_self]
    · refine .spared ?_ (by simp [same])
      rw [pending_conclude, Table.get?_erase_of_ne _ (Ne.symm same)]
  | trans _ _ first second => exact first.trans second

end Concludes

end Concludes

theorem pending_cancel (l : Ledger) (now : Duration) (failure : RequestFailure)
    (id : CorrelationId) : (l.attempt (·.cancel now failure id)).pending.get? id = none := by
  cases here : l.pending.get? id with
  | none => simp only [attempt, cancel, here]
  | some e => simp only [attempt, cancel, here, close, Table.get?_erase_self]

section SameBut

/-- The ledgers differ at most in what belongs to one exchange and its waiter. -/
structure SameBut (l m : Ledger) (id : CorrelationId) (w : Nat) : Prop where
  pending : ∀ j, j ≠ id → m.pending.get? j = l.pending.get? j
  board : ∀ j, j ≠ id → m.alarms.board.get? j = l.alarms.board.get? j
  armed : ∀ alarm : Alarm, alarm.id ≠ id → (alarm ∈ m.alarms.armed ↔ alarm ∈ l.alarms.armed)
  waiters : ∀ x, x ≠ w → m.waiters[x]? = l.waiters[x]?

namespace SameBut

variable {l m n : Ledger} {id : CorrelationId} {w issued : Nat}

theorem refl (l : Ledger) : l.SameBut l id w :=
  ⟨fun _ _ => rfl, fun _ _ => rfl, fun _ _ => .rfl, fun _ _ => rfl⟩

theorem trans (first : l.SameBut m id w) (second : m.SameBut n id w) : l.SameBut n id w where
  pending j other := (second.pending j other).trans (first.pending j other)
  board j other := (second.board j other).trans (first.board j other)
  armed alarm other := (second.armed alarm other).trans (first.armed alarm other)
  waiters x other := (second.waiters x other).trans (first.waiters x other)

theorem opened {e : Entry} {due : Duration}
    (entered : ∀ j, m.pending.get? j = if j = id then some e else l.pending.get? j)
    (armed : m.alarms = (l.alarms.arm id due).2)
    (waiters : m.waiters = l.waiters ++ [({} : Waiter)]) :
    l.SameBut m id l.waiters.length where
  pending j other := by rw [entered, if_neg other]
  board j other := by rw [armed, Alarms.board_arm, Table.get?_insert_of_ne _ _ other]
  armed alarm other := by
    rw [armed, Alarms.armed_arm, List.mem_append, List.mem_singleton]
    exact ⟨fun mem => mem.resolve_right fun same => other (by rw [same]), .inl⟩
  waiters x other := by
    rw [waiters]
    by_cases old : x < l.waiters.length
    · rw [List.getElem?_append_left old]
    · rw [List.getElem?_eq_none (by simp; omega), List.getElem?_eq_none (by omega)]

theorem conclude (guarded : l.Guarded issued)
    (own : ∀ e, l.pending.get? id = some e → e.waiter = w) {how : Closing}
    {outcome : CorrelationId → Entry → Response} (closed : l.conclude how outcome id = .ok m) :
    l.SameBut m id w := by
  obtain ⟨e, here, rfl⟩ := exists_of_concluded closed
  obtain ⟨alarm, armed, charged, named, _⟩ := guarded.guard here
  have retired : ((l.close id e (outcome id e)).tally how).alarms = l.alarms.retire alarm := by
    cases how <;> simp [tally, close, charged]
  refine ⟨fun j other => ?_, fun j other => ?_, fun a other => ?_, fun x other => ?_⟩
  · rw [pending_conclude, Table.get?_erase_of_ne _ other]
  · rw [retired, Alarms.board_retire, named, Table.get?_erase_of_ne _ other]
  · rw [retired, Alarms.mem_armed_retire]
    refine and_iff_left_of_imp fun mem same => other ?_
    rw [guarded.number mem armed same, named]
  · rw [waiters_conclude, own e here, List.getElem?_modify_ne _ _ (Ne.symm other)]

theorem attempt (guarded : l.Guarded issued)
    (own : ∀ e, l.pending.get? id = some e → e.waiter = w) (how : Closing)
    (outcome : CorrelationId → Entry → Response) :
    l.SameBut (l.attempt (·.conclude how outcome id)) id w := by
  unfold Ledger.attempt
  split
  case h_1 closed => exact conclude guarded own closed
  case h_2 => exact refl l

theorem cancelled (same : l.SameBut m id w) (guarded : m.Guarded issued)
    (own : ∀ e, m.pending.get? id = some e → e.waiter = w) (now : Duration)
    (failure : RequestFailure) : l.SameBut (m.attempt (·.cancel now failure id)) id w :=
  same.trans (.attempt guarded own .cancellation fun id e => e.refusal id failure now)

end SameBut

end SameBut

end ComponentHost.Ledger
