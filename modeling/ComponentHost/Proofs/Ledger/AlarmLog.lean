import ComponentHost.Proofs.Ledger.Conservation
import ComponentHost.Proofs.Ledger.ClosingSequence

/-! What happens to alarms. Each is set once, goes off at most once, and may be cancelled through
its handle any number of times, by whoever has the handle or by the ledger, which has those of the
alarms in charge of its entries. A log of all this determines which alarms are armed and what the
board shows. -/

namespace ComponentHost

inductive Sign
  | set
  | cancelled
  | rung
deriving DecidableEq

structure Signal where
  time : Duration
  sign : Sign
  alarm : Alarm
deriving DecidableEq

namespace Signal

def handed (signals : List Signal) : List Alarm :=
  signals.filterMap fun s => if s.sign = .set then some s.alarm else none

def own (alarm : Alarm) (signals : List Signal) : List Signal := signals.filter (·.alarm = alarm)

def live (signals : List Signal) : List Alarm :=
  (handed signals).filter fun alarm => (own alarm signals).all (·.sign = .set)

def shown (id : CorrelationId) (signals : List Signal) : Option Nat :=
  (signals.reverse.find? (·.alarm.id = id)).bind fun s =>
    if s.sign = .set then some s.alarm.number else none

def Undisturbed (signals : List Signal) (alarm : Alarm) : Prop :=
  ∃ before time later, signals = before ++ ⟨time, .set, alarm⟩ :: later ∧
    ∀ s ∈ later, s.alarm.id ≠ alarm.id

/-- What happens to an alarm from the instant at which it is set: nothing so far, or it goes off
when it is due and is cancelled, if at all, from then on and to no effect, or it is cancelled no
later than it is due and never goes off. -/
inductive Fate (since : Duration) (alarm : Alarm) : List Signal → Prop
  | awaited : Fate since alarm [⟨since, .set, alarm⟩]
  | rung {later : List Signal} (spent : ∀ s ∈ later, s.sign = .cancelled ∧ alarm.due ≤ s.time) :
    Fate since alarm (⟨since, .set, alarm⟩ :: ⟨alarm.due, .rung, alarm⟩ :: later)
  | cancelled {time : Duration} {later : List Signal} (early : time ≤ alarm.due)
    (spent : ∀ s ∈ later, s.sign = .cancelled ∧ time ≤ s.time) :
    Fate since alarm (⟨since, .set, alarm⟩ :: ⟨time, .cancelled, alarm⟩ :: later)

section Concat

variable {signals signals' : List Signal} {s : Signal} {alarm : Alarm} {id : CorrelationId}

theorem handed_concat : handed (signals ++ [s]) =
    if s.sign = .set then handed signals ++ [s.alarm] else handed signals := by
  rw [handed, List.filterMap_append, List.filterMap_cons]
  by_cases set : s.sign = .set <;> simp [set, handed]

theorem handed_append : handed (signals ++ signals') = handed signals ++ handed signals' :=
  List.filterMap_append

theorem handed_eq_nil (past : ∀ s ∈ signals, s.sign ≠ .set) : handed signals = [] :=
  List.filterMap_eq_nil_iff.mpr fun s mem => if_neg (past s mem)

theorem own_concat : own alarm (signals ++ [s]) =
    if s.alarm = alarm then own alarm signals ++ [s] else own alarm signals := by
  rw [own, List.filter_append, List.filter_cons]
  by_cases same : s.alarm = alarm <;> simp [same, own]

theorem own_append : own alarm (signals ++ signals') = own alarm signals ++ own alarm signals' :=
  List.filter_append ..

theorem own_eq_nil (other : ∀ s ∈ signals, s.alarm ≠ alarm) : own alarm signals = [] :=
  List.filter_eq_nil_iff.mpr fun s mem => by simpa using other s mem

theorem mem_own : s ∈ own alarm signals ↔ s ∈ signals ∧ s.alarm = alarm := by
  simp [own]

theorem mem_live : alarm ∈ live signals ↔
    alarm ∈ handed signals ∧ ∀ s ∈ signals, s.alarm = alarm → s.sign = .set := by
  simp [live, mem_own]

theorem shown_concat : shown id (signals ++ [s]) =
    if s.alarm.id = id then (if s.sign = .set then some s.alarm.number else none)
    else shown id signals := by
  rw [shown, List.reverse_append, List.reverse_singleton, List.singleton_append, List.find?_cons]
  by_cases same : s.alarm.id = id <;> simp [same, shown]

theorem shown_eq_some {n : Nat} : shown id signals = some n ↔ ∃ alarm,
    alarm.id = id ∧ alarm.number = n ∧ Undisturbed signals alarm := by
  simp only [shown, Option.bind_eq_some_iff, Option.ite_none_right_eq_some, Option.some.injEq,
    List.find?_eq_some_iff_append]
  constructor
  · rintro ⟨⟨time, sign, alarm⟩, ⟨own, later, before, split, others⟩, rfl, rfl⟩
    refine ⟨alarm, by simpa using own, rfl, before.reverse, time, later.reverse, ?_, ?_⟩
    · rw [← List.reverse_reverse signals, split]
      simp
    · intro s mem
      have other := others s (List.mem_reverse.mp mem)
      simp only [decide_eq_true_eq] at own
      simpa [own] using other
  · rintro ⟨alarm, rfl, rfl, before, time, later, rfl, others⟩
    refine ⟨⟨time, .set, alarm⟩, ⟨by simp, later.reverse, before.reverse, by simp, ?_⟩, rfl, rfl⟩
    intro s mem
    simpa using others s (List.mem_reverse.mp mem)

end Concat

namespace Fate

variable {since : Duration} {alarm : Alarm} {signals : List Signal} {s : Signal}

theorem cancel (fate : Fate since alarm signals) {now : Duration}
    (waiting : signals = [⟨since, .set, alarm⟩] → now ≤ alarm.due)
    (timely : ∀ s ∈ signals, s.time ≤ now) :
    Fate since alarm (signals ++ [⟨now, .cancelled, alarm⟩]) := by
  have spent : ∀ {ended : Duration} {later : List Signal}, ended ≤ now →
      (∀ s ∈ later, s.sign = .cancelled ∧ ended ≤ s.time) →
      ∀ s ∈ later ++ [⟨now, .cancelled, alarm⟩], s.sign = .cancelled ∧ ended ≤ s.time := by
    intro ended later past before s mem
    obtain mem | mem := List.mem_append.mp mem
    · exact before s mem
    · rw [List.mem_singleton.mp mem]
      exact ⟨rfl, past⟩
  cases fate with
  | awaited => exact .cancelled (waiting rfl) nofun
  | rung before => exact .rung (spent (timely ⟨alarm.due, .rung, alarm⟩ (by simp)) before)
  | @cancelled time later early before =>
    exact .cancelled early (spent (timely ⟨time, .cancelled, alarm⟩ (by simp)) before)

theorem head (fate : Fate since alarm signals) :
    ∃ later, signals = ⟨since, .set, alarm⟩ :: later ∧ ∀ s ∈ later, s.sign ≠ .set := by
  cases fate with
  | awaited => exact ⟨[], rfl, nofun⟩
  | rung spent | cancelled early spent =>
    refine ⟨_, rfl, List.forall_mem_cons.mpr ⟨nofun, fun s mem => ?_⟩⟩
    rw [(spent s mem).1]
    exact nofun

theorem goes_on {since' : Duration} {more : List Signal} (fate : Fate since alarm signals)
    (fate' : Fate since' alarm (signals ++ more)) (rung : ∀ s ∈ more, s.sign = .rung) :
    more = [] ∨ signals = [⟨since, .set, alarm⟩] ∧ more = [⟨alarm.due, .rung, alarm⟩] := by
  cases more with
  | nil => exact .inl rfl
  | cons s rest =>
    obtain ⟨now, later⟩ := List.forall_mem_cons.mp rung
    have only : ∀ {ended : Duration} {later : List Signal},
        (∀ r ∈ later, r.sign = .cancelled ∧ ended ≤ r.time) → s ∈ later → False := by
      intro ended later spent mem
      rw [(spent s mem).1] at now
      cases now
    cases fate with
    | awaited =>
      refine .inr ⟨rfl, ?_⟩
      cases fate' with
      | rung spent =>
        have noneLeft : rest = [] := List.eq_nil_iff_forall_not_mem.mpr fun r mem => by
          have twice := later r mem
          rw [(spent r mem).1] at twice
          cases twice
        rw [noneLeft]
      | cancelled early spent => cases now
    | rung spent =>
      cases fate' with
      | rung spent' => exact (only spent' (by simp)).elim
    | cancelled early spent =>
      cases fate' with
      | cancelled early' spent' => exact (only spent' (by simp)).elim

theorem eq_nil_of_set (fate : Fate since alarm (signals ++ [s])) (set : s.sign = .set) :
    signals = [] := by
  obtain ⟨later, split, past⟩ := fate.head
  obtain ⟨nothing, _⟩ | ⟨rest, _, same⟩ := List.append_eq_cons_iff.mp split
  · exact nothing
  · exact absurd set (past s (same ▸ List.mem_append_right _ (List.mem_singleton_self s)))

theorem all_set_iff (fate : Fate since alarm signals) :
    (signals.all (·.sign = .set)) = true ↔ signals = [⟨since, .set, alarm⟩] := by
  cases fate <;> simp

end Fate

end Signal

open Signal

namespace Alarms

def Past (a : Alarms) (number : Nat) : Prop :=
  number < a.next ∧ ∀ alarm ∈ a.armed, alarm.number ≠ number

theorem Past.find?_eq_none {a : Alarms} {number : Nat} (past : a.Past number) :
    a.find? number = none :=
  List.find?_eq_none.mpr fun alarm armed => by simpa using past.2 alarm armed

section Retire

variable {a : Alarms} {alarms : List Alarm} {alarm : Alarm} {id : CorrelationId}

theorem retire_comm (a : Alarms) (alarm other : Alarm) :
    (a.retire alarm).retire other = (a.retire other).retire alarm := by
  simp only [retire, mk.injEq, and_true]
  refine ⟨?_, Table.ext ?_⟩
  · simp only [List.filter_filter, Bool.and_comm]
  · simp only [Table.erase, List.filter_filter, Bool.and_comm]

theorem armed_foldl_retire (a : Alarms) (alarms : List Alarm) :
    (alarms.foldl retire a).armed.Sublist a.armed := by
  induction alarms generalizing a with
  | nil => exact .refl _
  | cons alarm alarms ih => exact (ih (a.retire alarm)).trans List.filter_sublist

theorem mem_armed_foldl_retire : alarm ∈ (alarms.foldl retire a).armed ↔
    alarm ∈ a.armed ∧ ∀ other ∈ alarms, alarm.number ≠ other.number := by
  induction alarms generalizing a with
  | nil => simp
  | cons other alarms ih =>
    rw [List.foldl_cons, ih, mem_armed_retire, List.forall_mem_cons, and_assoc]

theorem next_foldl_retire : (alarms.foldl retire a).next = a.next := by
  induction alarms generalizing a with
  | nil => rfl
  | cons other alarms ih => rw [List.foldl_cons, ih, next_retire]

theorem board_foldl_retire : (alarms.foldl retire a).board.get? id =
    if id ∈ alarms.map Alarm.id then none else a.board.get? id := by
  induction alarms generalizing a with
  | nil => rfl
  | cons other alarms ih =>
    rw [List.foldl_cons, ih, board_retire, Table.get?_erase]
    by_cases own : id = other.id <;> simp [own]

end Retire

/-- The alarms are those that a log leaves behind: they are numbered as they were set, armed as
long as they are live, none of them is overdue, and the board shows for each id the alarm to which
something happened last. -/
structure Kept (a : Alarms) (signals : List Signal) (now : Duration) : Prop where
  timely : ∀ s ∈ signals, s.time ≤ now
  numbered : (handed signals).map Alarm.number = List.range a.next
  known : ∀ s ∈ signals, s.alarm ∈ handed signals
  armed : a.armed = live signals
  fate : ∀ alarm ∈ handed signals, ∃ since, Fate since alarm (own alarm signals)
  early : ∀ alarm ∈ a.armed, now ≤ alarm.due
  board : ∀ id, a.board.get? id = shown id signals

namespace Kept

variable {a : Alarms} {signals : List Signal} {now : Duration} {alarm other : Alarm}

theorem empty : ({} : Alarms).Kept [] now :=
  ⟨nofun, rfl, nofun, rfl, nofun, nofun, fun _ => rfl⟩

theorem getElem?_number (kept : a.Kept signals now) {n : Nat}
    (here : (handed signals)[n]? = some alarm) : alarm.number = n := by
  have numbers := congrArg (·[n]?) kept.numbered
  simp only [List.getElem?_map, here, Option.map_some] at numbers
  obtain ⟨inside, same⟩ := List.getElem?_eq_some_iff.mp numbers.symm
  rw [← same, List.getElem_range]

theorem handed_number (kept : a.Kept signals now) (mem : alarm ∈ handed signals) :
    (handed signals)[alarm.number]? = some alarm := by
  obtain ⟨n, here⟩ := List.mem_iff_getElem?.mp mem
  rw [kept.getElem?_number here, here]

theorem eq_of_number (kept : a.Kept signals now) (mem : alarm ∈ handed signals)
    (mem' : other ∈ handed signals) (same : alarm.number = other.number) : alarm = other := by
  have here := kept.handed_number mem
  rw [same, kept.handed_number mem'] at here
  exact (Option.some.inj here).symm

theorem number_lt (kept : a.Kept signals now) (mem : alarm ∈ handed signals) :
    alarm.number < a.next := by
  have listed : alarm.number ∈ (handed signals).map Alarm.number := List.mem_map_of_mem mem
  rwa [kept.numbered, List.mem_range] at listed

theorem handed_numbers (kept : a.Kept signals now) :
    (handed signals).Pairwise fun alarm other => alarm.number ≠ other.number :=
  List.pairwise_map.mp (kept.numbered ▸ List.nodup_range)

theorem mem_handed_of_armed (kept : a.Kept signals now) (armed : alarm ∈ a.armed) :
    alarm ∈ handed signals :=
  (mem_live.mp (kept.armed ▸ armed)).1

theorem own_next (kept : a.Kept signals now) (id : CorrelationId) (due : Duration) :
    own ⟨a.next, id, due⟩ signals = [] := by
  refine own_eq_nil fun s mem same => ?_
  have known := kept.known s mem
  rw [same] at known
  exact absurd (kept.number_lt known) (Nat.lt_irrefl _)

theorem armed_iff (kept : a.Kept signals now) {since : Duration} (mem : alarm ∈ handed signals)
    (fate : Fate since alarm (own alarm signals)) :
    alarm ∈ a.armed ↔ own alarm signals = [⟨since, .set, alarm⟩] := by
  rw [kept.armed, live, List.mem_filter, fate.all_set_iff, and_iff_right mem]

theorem find?_armed (kept : a.Kept signals now) (armed : alarm ∈ a.armed) :
    a.find? alarm.number = some alarm := by
  cases found : a.find? alarm.number with
  | none =>
    have missed := List.find?_eq_none.mp found alarm armed
    simp at missed
  | some other =>
    have same : other.number = alarm.number := by simpa using List.find?_some found
    have armed' := List.mem_of_find?_eq_some found
    rw [kept.eq_of_number (kept.mem_handed_of_armed armed') (kept.mem_handed_of_armed armed) same]

theorem mem_live_of_undisturbed (kept : a.Kept signals now)
    (undisturbed : Undisturbed signals alarm) : alarm ∈ live signals := by
  obtain ⟨before, time, later, split, others⟩ := undisturbed
  have mem : alarm ∈ handed signals := kept.known ⟨time, .set, alarm⟩ (by simp [split])
  obtain ⟨since, fate⟩ := kept.fate alarm mem
  have own' : own alarm signals = own alarm before ++ [⟨time, .set, alarm⟩] := by
    rw [split, List.append_cons, own_append, own_concat, if_pos rfl,
      own_eq_nil fun s mem same => others s mem (same ▸ rfl), List.append_nil]
  rw [own'] at fate
  rw [live, List.mem_filter, own', fate.eq_nil_of_set rfl]
  exact ⟨mem, rfl⟩

/-- The board has a place for each live alarm that was not disturbed, and no others. -/
theorem count_eq [DecidablePred (Undisturbed signals)] (kept : a.Kept signals now) :
    a.count = ((live signals).filter fun alarm => Undisturbed signals alarm).length := by
  have listed : ∀ place, place ∈ a.board.entries ↔ place ∈
      ((live signals).filter fun alarm => Undisturbed signals alarm).map
        fun alarm => (alarm.id, alarm.number) := by
    rintro ⟨id, number⟩
    simp only [← Table.get?_eq_some_iff, kept.board, shown_eq_some, List.mem_map, List.mem_filter,
      decide_eq_true_eq, Prod.mk.injEq]
    constructor
    · rintro ⟨alarm, own, same, undisturbed⟩
      exact ⟨alarm, ⟨kept.mem_live_of_undisturbed undisturbed, undisturbed⟩, own, same⟩
    · rintro ⟨alarm, ⟨_, undisturbed⟩, own, same⟩
      exact ⟨alarm, own, same, undisturbed⟩
  have places : a.board.entries.Nodup := (List.pairwise_map.mp a.board.keys_nodup).imp
    fun differ same => differ (congrArg Prod.fst same)
  have alarms : (((live signals).filter fun alarm => Undisturbed signals alarm).map
      fun alarm => (alarm.id, alarm.number)).Nodup :=
    List.pairwise_map.mpr (((kept.handed_numbers.filter _).filter _).imp
      fun differ same => differ (congrArg Prod.snd same))
  rw [Alarms.count, Table.size, ((List.perm_ext_iff_of_nodup places alarms).mpr listed).length_eq,
    List.length_map]

theorem pass (kept : a.Kept signals now) {later : Duration} (ahead : now ≤ later)
    (early : ∀ alarm ∈ a.armed, later ≤ alarm.due) : a.Kept signals later :=
  { kept with timely := fun s mem => Nat.le_trans (kept.timely s mem) ahead, early }

theorem timely_concat (kept : a.Kept signals now) (sign : Sign) (alarm : Alarm) :
    ∀ s ∈ signals ++ [⟨now, sign, alarm⟩], s.time ≤ now := by
  intro s mem
  obtain mem | mem := List.mem_append.mp mem
  · exact kept.timely s mem
  · rw [List.mem_singleton.mp mem]
    exact Nat.le_refl _

theorem set (kept : a.Kept signals now) (id : CorrelationId) {due : Duration} (ahead : now ≤ due) :
    (a.arm id due).2.Kept (signals ++ [⟨now, .set, ⟨a.next, id, due⟩⟩]) now := by
  have apart : ∀ alarm ∈ handed signals, ⟨a.next, id, due⟩ ≠ alarm := by
    rintro alarm mem rfl
    exact absurd (kept.number_lt mem) (Nat.lt_irrefl _)
  have grown : handed (signals ++ [⟨now, .set, ⟨a.next, id, due⟩⟩]) =
      handed signals ++ [⟨a.next, id, due⟩] := by
    rw [handed_concat, if_pos rfl]
  have old : ∀ alarm ∈ handed signals,
      own alarm (signals ++ [⟨now, .set, ⟨a.next, id, due⟩⟩]) = own alarm signals := by
    intro alarm mem
    rw [own_concat, if_neg (apart alarm mem)]
  have new : own ⟨a.next, id, due⟩ (signals ++ [⟨now, .set, ⟨a.next, id, due⟩⟩]) =
      [⟨now, .set, ⟨a.next, id, due⟩⟩] := by
    rw [own_concat, if_pos rfl, kept.own_next, List.nil_append]
  refine ⟨kept.timely_concat _ _, ?_, fun s mem => ?_, ?_, fun alarm mem => ?_,
    fun alarm mem => ?_, fun j => ?_⟩
  · rw [grown, List.map_append, kept.numbered, next_arm, List.range_succ]
    rfl
  · rw [grown]
    obtain mem | mem := List.mem_append.mp mem
    · exact List.mem_append_left _ (kept.known s mem)
    · rw [List.mem_singleton.mp mem]
      exact List.mem_append_right _ (List.mem_singleton_self _)
  · rw [live, grown, List.filter_append, List.filter_cons_of_pos (by simp [new]), List.filter_nil,
      armed_arm, kept.armed, live]
    congr 1
    exact List.filter_congr fun alarm mem => by rw [old alarm mem]
  · rw [grown] at mem
    obtain mem | mem := List.mem_append.mp mem
    · rw [old alarm mem]
      exact kept.fate alarm mem
    · rw [List.mem_singleton.mp mem, new]
      exact ⟨now, .awaited⟩
  · obtain mem | mem := List.mem_append.mp mem
    · exact kept.early alarm mem
    · rw [List.mem_singleton.mp mem]
      exact ahead
  · rw [shown_concat, board_arm, Table.get?_insert, kept.board]
    simp only [eq_comm]
    rfl

theorem retire (kept : a.Kept signals now) (mem : alarm ∈ handed signals) {sign : Sign}
    (how : sign = .cancelled ∨ sign = .rung ∧ alarm ∈ a.armed ∧ alarm.due ≤ now) :
    (a.retire alarm).Kept (signals ++ [⟨now, sign, alarm⟩]) now := by
  have past : sign ≠ .set := by rintro rfl; simp at how
  have same : handed (signals ++ [⟨now, sign, alarm⟩]) = handed signals := by
    rw [handed_concat, if_neg past]
  have others : ∀ {other}, alarm ≠ other →
      own other (signals ++ [⟨now, sign, alarm⟩]) = own other signals := by
    intro other differ
    rw [own_concat, if_neg differ]
  have itself : own alarm (signals ++ [⟨now, sign, alarm⟩]) =
      own alarm signals ++ [⟨now, sign, alarm⟩] := by
    rw [own_concat, if_pos rfl]
  refine ⟨kept.timely_concat _ _, ?_, fun s mem' => ?_, ?_, fun other mem' => ?_,
    fun other armed => ?_, fun id => ?_⟩
  · rw [same, next_retire, kept.numbered]
  · rw [same]
    obtain mem' | mem' := List.mem_append.mp mem'
    · exact kept.known s mem'
    · rw [List.mem_singleton.mp mem']
      exact mem
  · rw [live, same, Alarms.retire, kept.armed, live, List.filter_filter]
    refine List.filter_congr fun other mem' => ?_
    by_cases differ : alarm = other
    · subst differ
      rw [itself]
      simp [past]
    · have apart : other.number ≠ alarm.number :=
        fun number => differ (kept.eq_of_number mem mem' number.symm)
      rw [others differ]
      simp [apart]
  · rw [same] at mem'
    obtain ⟨since, fate⟩ := kept.fate other mem'
    by_cases differ : alarm = other
    · subst differ
      refine ⟨since, ?_⟩
      rw [itself]
      obtain rfl | ⟨rfl, armed, due⟩ := how
      · refine fate.cancel (fun waiting => ?_) fun s mem' => kept.timely s (mem_own.mp mem').1
        exact kept.early alarm ((kept.armed_iff mem fate).mpr waiting)
      · have exact' : now = alarm.due :=
          Duration.ext_iff.mpr (Nat.le_antisymm (kept.early alarm armed) due)
        rw [(kept.armed_iff mem fate).mp armed, exact']
        exact .rung (List.forall_mem_nil _)
    · rw [others differ]
      exact ⟨since, fate⟩
  · exact kept.early other (mem_armed_retire.mp armed).1
  · rw [shown_concat, if_neg past, board_retire, Table.get?_erase, kept.board]
    simp only [eq_comm]

theorem retires (kept : a.Kept signals now) {alarms : List Alarm}
    (mem : ∀ alarm ∈ alarms, alarm ∈ handed signals) :
    (alarms.foldl Alarms.retire a).Kept (signals ++ alarms.map (⟨now, .cancelled, ·⟩)) now := by
  induction alarms generalizing a signals with
  | nil => simpa using kept
  | cons alarm alarms ih =>
    have first := kept.retire (mem alarm List.mem_cons_self) (.inl (rfl : Sign.cancelled = _))
    have rest := ih first fun other mem' => by
      rw [handed_concat, if_neg nofun]
      exact mem other (List.mem_cons_of_mem _ mem')
    simpa using rest

end Kept

end Alarms

namespace Ledger

variable {l : Ledger} {v : Event} {now : Duration} {alarm : Alarm} {signals : List Signal}

def charge (l : Ledger) (id : CorrelationId) : Option Alarm := (l.pending.get? id).bind Entry.alarm

def closed (l : Ledger) (v : Event) : List CorrelationId :=
  (l.pending.entries.filter fun p => (p.2.closing? p.1 v).isSome).map Prod.fst

/-- The alarms that an event cancels, since it closes the exchanges they are in charge of. -/
def struck (l : Ledger) (v : Event) : List Alarm := (l.closed v).filterMap l.charge

def sign? (l : Ledger) (v : Event) : Option Signal :=
  match v.act with
  | .arm id span => some ⟨v.time, .set, ⟨l.alarms.next, id, v.time + span⟩⟩
  | .cancelAlarm alarm => some ⟨v.time, .cancelled, alarm⟩
  | .ring alarm => some ⟨v.time, .rung, alarm⟩
  | _ => none

def signalled (l : Ledger) (v : Event) : List Signal :=
  (l.sign? v).toList ++ (l.struck v).map (⟨v.time, .cancelled, ·⟩)

theorem charge_eq_some {id : CorrelationId} : l.charge id = some alarm ↔
    ∃ e, l.pending.get? id = some e ∧ e.alarm = some alarm :=
  Option.bind_eq_some_iff

theorem mem_closed {id : CorrelationId} : id ∈ l.closed v ↔
    ∃ e, l.pending.get? id = some e ∧ (e.closing? id v).isSome := by
  simp [closed, Table.get?_eq_some_iff]

theorem mem_struck : alarm ∈ l.struck v ↔
    ∃ id e, l.pending.get? id = some e ∧ (e.closing? id v).isSome ∧ e.alarm = some alarm := by
  simp only [struck, List.mem_filterMap, mem_closed, charge_eq_some]
  constructor
  · rintro ⟨id, ⟨e, pending, closing⟩, f, pending', charged⟩
    cases pending.symm.trans pending'
    exact ⟨id, e, pending, closing, charged⟩
  · rintro ⟨id, e, pending, closing, charged⟩
    exact ⟨id, ⟨e, pending, closing⟩, e, pending, charged⟩

section Closed

variable {how : Closing} {outcome : CorrelationId → Entry → Response} {id : CorrelationId}

theorem closed_eq_nil (spares : ∀ j e, Entry.closing? e j v = none) : l.closed v = [] := by
  simp [closed, spares]

theorem closed_of_unknown (unknown : l.pending.get? id = none)
    (only : ∀ j e, (Entry.closing? e j v).isSome = decide (id = j)) : l.closed v = [] := by
  refine List.map_eq_nil_iff.mpr (List.filter_eq_nil_iff.mpr fun p mem => ?_)
  rw [only, decide_eq_true_eq]
  rintro rfl
  rw [Table.get?_eq_some_iff.mpr mem] at unknown
  cases unknown

theorem closed_of_pending {e : Entry} (pending : l.pending.get? id = some e)
    (only : ∀ j e, (Entry.closing? e j v).isSome = decide (id = j)) : l.closed v = [id] := by
  have once := countP_key pending
  have same : (l.closed v).length = 1 := by
    rw [closed, List.length_map, ← List.countP_eq_length_filter, ← once]
    refine List.countP_congr fun p _ => ?_
    rw [only, decide_eq_true_eq, beq_iff_eq, eq_comm]
  obtain ⟨j, alone⟩ := List.length_eq_one_iff.mp same
  have mem : id ∈ l.closed v := mem_closed.mpr ⟨e, pending, by rw [only, decide_eq_true rfl]⟩
  rw [alone, List.mem_singleton] at mem
  rw [alone, mem]

theorem alarms_conclude {e : Entry} (pending : l.pending.get? id = some e) :
    ((l.close id e (outcome id e)).tally how).alarms =
      (l.charge id).toList.foldl Alarms.retire l.alarms := by
  have same : ((l.close id e (outcome id e)).tally how).alarms =
      (l.close id e (outcome id e)).alarms := by
    cases how <;> rfl
  rw [same, charge, pending, Option.bind_some, close]
  cases e.alarm <;> rfl

variable (how outcome) in
theorem alarms_each (ids : List CorrelationId) (nodup : ids.Nodup)
    {charges : CorrelationId → Option Alarm} (charged : ∀ id ∈ ids, l.charge id = charges id) :
    (each (conclude how outcome) ids l).2.alarms =
      (ids.filterMap charges).foldl Alarms.retire l.alarms := by
  induction ids generalizing l with
  | nil => rfl
  | cons id rest ih =>
    obtain ⟨fresh, nodup⟩ := List.nodup_cons.mp nodup
    obtain ⟨first, charged⟩ := List.forall_mem_cons.mp charged
    cases pending : l.pending.get? id with
    | none =>
      rw [charge, pending, Option.bind_none] at first
      rw [each, conclude_of_unknown pending, List.filterMap_cons_none first.symm]
      exact ih nodup charged
    | some e =>
      have others : ∀ j ∈ rest,
          ((l.close id e (outcome id e)).tally how).charge j = charges j := by
        intro j mem
        have apart : j ≠ id := fun same => fresh (same ▸ mem)
        rw [← charged j mem, charge, pending_conclude, Table.get?_erase_of_ne _ apart, charge]
      rw [each, conclude_of_pending pending]
      dsimp only
      rw [ih nodup others, alarms_conclude pending, List.filterMap_cons, first]
      cases charges id <;> rfl

variable (how outcome id) in
theorem alarms_attempt (only : ∀ j e, (Entry.closing? e j v).isSome = decide (id = j)) :
    (l.attempt (·.conclude how outcome id)).alarms =
      (l.struck v).foldl Alarms.retire l.alarms := by
  cases pending : l.pending.get? id with
  | none =>
    rw [attempt, conclude_of_unknown pending, struck, closed_of_unknown pending only]
    rfl
  | some e =>
    rw [attempt, conclude_of_pending pending, struck, closed_of_pending pending only]
    dsimp only
    rw [alarms_conclude pending, List.filterMap_cons]
    cases l.charge id <;> rfl

theorem signalled_arm (l : Ledger) (now : Duration) (id : CorrelationId) (span : Duration) :
    l.signalled ⟨now, .arm id span⟩ = [⟨now, .set, (l.arm id (now + span)).1⟩] := by
  rw [signalled, struck, closed_eq_nil fun _ _ => rfl]
  rfl

end Closed

def touched (l : Ledger) (v : Event) : Alarms :=
  match v.act with
  | .arm id span => (l.alarms.arm id (v.time + span)).2
  | .cancelAlarm alarm | .ring alarm => l.alarms.retire alarm
  | _ => l.alarms

theorem alarms_after (l : Ledger) (v : Event) :
    (l.after v).alarms = (l.struck v).foldl Alarms.retire (l.touched v) := by
  obtain ⟨now, act⟩ := v
  cases act with
  | register id sender recipient timeout =>
    rw [struck, closed_eq_nil fun _ _ => rfl]
    by_cases taken : l.pending.contains id = true <;>
      simp [after, attempt, Ledger.act, register, taken, Except.map, touched]
  | arm | cancelAlarm =>
    rw [struck, closed_eq_nil fun _ _ => rfl]
    rfl
  | attach id alarm =>
    rw [struck, closed_eq_nil fun _ _ => rfl]
    cases here : l.pending.get? id <;> simp [after, attempt, Ledger.act, attach?, here, touched]
  | resolve id r =>
    refine alarms_attempt .response (fun _ _ => r) id fun j e => ?_
    by_cases own : id = j <;> simp [Entry.closing?, own]
  | expire id =>
    refine alarms_attempt .timeout (fun id e => e.refusal id .timeout now) id fun j e => ?_
    by_cases own : id = j <;> simp [Entry.closing?, own]
  | cancel id failure =>
    refine alarms_attempt .cancellation (fun id e => e.refusal id failure now) id fun j e => ?_
    by_cases own : id = j <;> simp [Entry.closing?, own]
  | ring alarm =>
    refine alarms_attempt (l := l.cancelAlarm alarm) (v := ⟨now, .ring alarm⟩) .timeout
      (fun id e => e.refusal id .timeout now) alarm.id fun j e => ?_
    by_cases own : alarm.id = j <;> simp [Entry.closing?, own]
  | cleanup c =>
    have same : l.closed ⟨now, .cleanup c⟩ = l.involving c := by
      rw [closed, involving]
      congr 1
      refine List.filter_congr fun p _ => ?_
      by_cases involved : p.2.involves c = true <;> simp [Entry.closing?, involved]
    rw [struck, same]
    exact alarms_each .cancellation (fun id e => e.refusal id .cancelled now) _
      (l.nodup_keys_filter _) fun _ _ => rfl
  | sweep =>
    have same : l.closed ⟨now, .sweep⟩ = l.overdue now := by
      rw [closed, overdue]
      congr 1
      refine List.filter_congr fun p _ => ?_
      by_cases late : p.2.overdue now = true <;> simp [Entry.closing?, late]
    rw [struck, same]
    exact alarms_each .timeout (fun id e => e.refusal id .timeout now) _
      (l.nodup_keys_filter _) fun _ _ => rfl

section Served

theorem Served.attach (served : l.Served) {id : CorrelationId} {e : Entry} (alarm : Option Alarm)
    (here : l.pending.get? id = some e) :
    Served { l with pending := l.pending.insert id { e with alarm } } := by
  refine ⟨fun found => ?_, fun found found' same => ?_⟩
  · obtain ⟨g, pending, own⟩ := waiter_of_attached here found
    exact own ▸ served.waits pending
  · obtain ⟨g, pending, own⟩ := waiter_of_attached here found
    obtain ⟨g', pending', own'⟩ := waiter_of_attached here found'
    exact served.apart pending pending' (by rw [own, own', same])

theorem Served.after (served : l.Served) (v : Event) : (l.after v).Served := by
  obtain ⟨closed, _⟩ | ⟨id, e, alarm, _, here, same⟩ | ⟨id, s, r, t, _, _, same⟩ :=
    after_cases served.apart v
  · exact served.closes closed
  · exact same ▸ served.attach (some alarm) here
  · rw [same]
    exact served.opened rfl (fun j => Table.get?_insert ..) rfl

theorem served_empty : Served {} :=
  ⟨fun found => (nomatch found), fun found => (nomatch found)⟩

end Served

theorem alarms_abandon (l : Ledger) (waiter : Nat) : (l.abandon waiter).2.alarms = l.alarms := by
  unfold abandon
  split <;> rfl

theorem pending_abandon (l : Ledger) (waiter : Nat) :
    (l.abandon waiter).2.pending = l.pending := by
  unfold abandon
  split <;> rfl

def Attached (l : Ledger) (alarms : List Alarm) : Prop :=
  ∀ id e alarm, l.pending.get? id = some e → e.alarm = some alarm → alarm ∈ alarms

/-- What may be done to alarms: they are cancelled through handles that were handed out, and go
off when they are due. -/
def Act.Fair (signals : List Signal) (a : Alarms) (now : Duration) : Act → Prop
  | .cancelAlarm alarm | .attach _ alarm => alarm ∈ Signal.handed signals
  | .ring alarm => alarm ∈ a.armed ∧ alarm.due ≤ now
  | _ => True

instance (signals : List Signal) (a : Alarms) (now : Duration) :
    (act : Act) → Decidable (act.Fair signals a now)
  | .cancelAlarm alarm | .attach _ alarm =>
    inferInstanceAs (Decidable (alarm ∈ Signal.handed signals))
  | .ring alarm => inferInstanceAs (Decidable (alarm ∈ a.armed ∧ alarm.due ≤ now))
  | .register .. | .arm .. | .resolve .. | .expire _ | .cancel .. | .cleanup _ | .sweep =>
    inferInstanceAs (Decidable True)

theorem Attached.mono {alarms alarms' : List Alarm} (attached : l.Attached alarms)
    (more : ∀ alarm ∈ alarms, alarm ∈ alarms') : l.Attached alarms' :=
  fun id e alarm pending charged => more alarm (attached id e alarm pending charged)

theorem Attached.after {alarms : List Alarm} (attached : l.Attached alarms) (apart : l.Apart)
    (given : ∀ id alarm, v.act = .attach id alarm → alarm ∈ alarms) :
    (l.after v).Attached alarms := by
  intro id e alarm pending charged
  obtain ⟨closed, _⟩ | ⟨j, f, other, act, here, same⟩ | ⟨j, s, r, t, _, _, same⟩ :=
    after_cases apart v
  · exact attached id e alarm (closed.get?_iff.mp pending).1 charged
  · rw [same, Table.get?_insert] at pending
    split at pending
    · cases pending
      cases charged
      exact given j alarm act
    · exact attached id e alarm pending charged
  · rw [same, Table.get?_insert] at pending
    split at pending
    · cases pending
      cases charged
    · exact attached id e alarm pending charged

def Unguarded (l : Ledger) : Prop := ∀ id e, l.pending.get? id = some e → e.alarm = none

theorem Unguarded.after (unguarded : l.Unguarded) (apart : l.Apart)
    (loose : ∀ id alarm, v.act ≠ .attach id alarm) : (l.after v).Unguarded := by
  intro id e pending
  obtain ⟨closed, _⟩ | ⟨j, f, other, act, _⟩ | ⟨j, s, r, t, _, _, same⟩ := after_cases apart v
  · exact unguarded id e (closed.get?_iff.mp pending).1
  · exact absurd act (loose j other)
  · rw [same, Table.get?_insert] at pending
    split at pending
    · cases pending
      rfl
    · exact unguarded id e pending

theorem Unguarded.signalled (unguarded : l.Unguarded) : l.signalled v = (l.sign? v).toList := by
  have unstruck : l.struck v = [] := List.eq_nil_iff_forall_not_mem.mpr fun alarm mem => by
    obtain ⟨id, e, pending, _, charged⟩ := mem_struck.mp mem
    rw [unguarded id e pending] at charged
    cases charged
  rw [Ledger.signalled, unstruck, List.map_nil, List.append_nil]

theorem kept_after (kept : l.alarms.Kept signals now) (attached : l.Attached (handed signals))
    {act : Act} (fair : act.Fair signals l.alarms now) :
    (l.after ⟨now, act⟩).alarms.Kept (signals ++ l.signalled ⟨now, act⟩) now := by
  have touched : (l.touched ⟨now, act⟩).Kept (signals ++ (l.sign? ⟨now, act⟩).toList) now ∧
      ∀ alarm ∈ handed signals, alarm ∈ handed (signals ++ (l.sign? ⟨now, act⟩).toList) := by
    cases act with
    | arm id span =>
      refine ⟨kept.set id (Nat.le_add_right _ _), fun alarm mem => ?_⟩
      rw [sign?, Option.toList_some, handed_concat, if_pos rfl]
      exact List.mem_append_left _ mem
    | cancelAlarm alarm =>
      refine ⟨kept.retire fair (.inl rfl), fun other mem => ?_⟩
      rwa [sign?, Option.toList_some, handed_concat, if_neg nofun]
    | ring alarm =>
      refine ⟨kept.retire (kept.mem_handed_of_armed fair.1) (.inr ⟨rfl, fair⟩), fun other mem => ?_⟩
      rwa [sign?, Option.toList_some, handed_concat, if_neg nofun]
    | _ => simpa [touched, sign?] using kept
  rw [alarms_after, Ledger.signalled, ← List.append_assoc]
  refine touched.1.retires fun alarm mem => touched.2 alarm ?_
  obtain ⟨id, e, pending, _, charged⟩ := mem_struck.mp mem
  exact attached id e alarm pending charged

end Ledger

end ComponentHost
