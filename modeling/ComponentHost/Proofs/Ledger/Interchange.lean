import ComponentHost.Proofs.Ledger.Clearing
import Mathlib.Logic.Equiv.Basic

/-! Acts on different exchanges can be interchanged. What becomes of an exchange is settled by its
own entry, and leaves the entries of the others alone, so the order of such acts shows in nothing
but the numbers of the new waiters, which are given out as the exchanges are opened. -/

namespace ComponentHost

open Equiv (Perm)

def Entry.rename (ρ : Perm Nat) (e : Entry) : Entry := { e with waiter := ρ e.waiter }

namespace Ledger

def Act.exchange? : Act → Option CorrelationId
  | .register id .. => some id
  | a => a.wants

/-- What the caller of an act on one exchange is told: whether it took effect, and for a
registration the number of the waiter. -/
abbrev Told := Except ExchangeError (Option Nat)

def Told.rename (ρ : Perm Nat) (told : Told) : Told := told.map (Option.map ρ)

def tells (l : Ledger) (now : Duration) : Act → Told
  | .register id sender recipient timeout =>
    (l.register id sender recipient now timeout).map (some ·.1)
  | a => (l.act now a).map fun _ => none

def batch (now : Duration) (acts : List Act) : List Event := acts.map (⟨now, ·⟩)

def answers (l : Ledger) (now : Duration) : List Act → List (Act × Told)
  | [] => []
  | a :: acts => (a, l.tells now a) :: (l.after ⟨now, a⟩).answers now acts

inductive Deed
  | refuses (error : ExchangeError)
  | opens (sender recipient : ComponentId) (since timeout : Duration)
  | closes (e : Entry) (how : Closing) (r : Response)

def carryOut (l : Ledger) (id : CorrelationId) : Deed → Ledger
  | .refuses _ => l
  | .opens sender recipient since timeout =>
    { l with
      pending := l.pending.insert id ⟨sender, recipient, l.waiters.length, since, timeout, none⟩
      waiters := l.waiters ++ [{}] }
  | .closes e how r => (l.close id e r).tally how

namespace Deed

def told (l : Ledger) : Deed → Told
  | .refuses error => .error error
  | .opens .. => .ok (some l.waiters.length)
  | .closes .. => .ok none

def rename (ρ : Perm Nat) : Deed → Deed
  | .closes e how r => .closes (e.rename ρ) how r
  | d => d

def Suits (found : Option Entry) : Deed → Prop
  | .refuses _ => True
  | .opens .. => found = none
  | .closes e _ _ => found = some e

end Deed

variable {l m n : Ledger} {now : Duration} {id j : CorrelationId} {a b : Act} {d d' : Deed}
  {ρ ρ' : Perm Nat}

section Deeds

/-- What an act comes to is read off the entry under its id, whoever waits for that. -/
structure Act.Comes (now : Duration) (a : Act) (id : CorrelationId)
    (deed : Option Entry → Deed) : Prop where
  suits : ∀ found, (deed found).Suits found
  rename : ∀ (ρ : Perm Nat) found, deed (found.map (·.rename ρ)) = (deed found).rename ρ
  after : ∀ l : Ledger, l.after ⟨now, a⟩ = l.carryOut id (deed (l.pending.get? id))
  tells : ∀ l : Ledger, l.tells now a = (deed (l.pending.get? id)).told l

theorem comes_of_register (now : Duration) (id : CorrelationId) (sender recipient : ComponentId)
    (timeout : Duration) : (Act.register id sender recipient timeout).Comes now id fun
      | none => .opens sender recipient now timeout
      | some _ => .refuses (.duplicate id) where
  suits found := by cases found <;> trivial
  rename ρ found := by cases found <;> rfl
  after l := by
    cases here : l.pending.get? id <;>
      simp [Ledger.after, attempt, act, register, Table.contains, here, carryOut, Except.map]
  tells l := by
    cases here : l.pending.get? id <;>
      simp [Ledger.tells, register, Table.contains, here, Deed.told, Except.map]

theorem comes_of_concludes (how : Closing) (outcome : CorrelationId → Entry → Response)
    (blind : ∀ id e (ρ : Perm Nat), outcome id (e.rename ρ) = outcome id e)
    (acts : ∀ l : Ledger, l.act now a = l.conclude how outcome id)
    (tells : ∀ l : Ledger, l.tells now a = (l.act now a).map fun _ => none) :
    a.Comes now id fun
      | none => .refuses (.unknown id)
      | some e => .closes e how (outcome id e) where
  suits found := by cases found <;> trivial
  rename ρ found := by
    cases found with
    | none => rfl
    | some e => simp only [Option.map_some, Deed.rename, blind]
  after l := by
    rw [Ledger.after, attempt, acts]
    cases here : l.pending.get? id with
    | none => rw [conclude_of_unknown here, carryOut]
    | some e => rw [conclude_of_pending here, carryOut]
  tells l := by
    rw [tells, acts]
    cases here : l.pending.get? id with
    | none =>
      rw [conclude_of_unknown here]
      rfl
    | some e =>
      rw [conclude_of_pending here]
      rfl

theorem exists_comes (now : Duration) (named : a.exchange? = some id) :
    ∃ deed, a.Comes now id deed := by
  cases a with
  | register =>
    cases named
    exact ⟨_, comes_of_register now id _ _ _⟩
  | resolve _ r =>
    cases named
    exact ⟨_, comes_of_concludes .response (fun _ _ => r) (fun _ _ _ => rfl) (fun _ => rfl)
      fun _ => rfl⟩
  | expire =>
    cases named
    exact ⟨_, comes_of_concludes .timeout (fun id e => e.refusal id .timeout now)
      (fun _ _ _ => rfl) (fun _ => rfl) fun _ => rfl⟩
  | cancel _ failure =>
    cases named
    exact ⟨_, comes_of_concludes .cancellation (fun id e => e.refusal id failure now)
      (fun _ _ _ => rfl) (fun _ => rfl) fun _ => rfl⟩
  | _ => cases named

section CarryOut

variable {sender recipient : ComponentId} {since timeout : Duration} {e : Entry} {how : Closing}
  {r : Response}

@[simp] theorem members_carryOut : (l.carryOut id d).members = l.members := by
  cases d with
  | refuses | opens => rfl
  | closes e how r => cases how <;> rfl

@[simp] theorem pending_opens :
    (l.carryOut id (.opens sender recipient since timeout)).pending =
      l.pending.insert id ⟨sender, recipient, l.waiters.length, since, timeout, none⟩ := rfl

@[simp] theorem waiters_opens :
    (l.carryOut id (.opens sender recipient since timeout)).waiters =
      l.waiters ++ [({} : Waiter)] := rfl

@[simp] theorem count_opens :
    (l.carryOut id (.opens sender recipient since timeout)).count = l.count := rfl

@[simp] theorem alarms_opens :
    (l.carryOut id (.opens sender recipient since timeout)).alarms = l.alarms := rfl

@[simp] theorem pending_closes :
    (l.carryOut id (.closes e how r)).pending = l.pending.erase id := by
  cases how <;> rfl

@[simp] theorem waiters_closes :
    (l.carryOut id (.closes e how r)).waiters = l.waiters.modify e.waiter (·.hand r) := by
  cases how <;> rfl

@[simp] theorem count_closes (k : Closing) :
    (l.carryOut id (.closes e how r)).count k = l.count k + if how = k then 1 else 0 := by
  cases how <;> cases k <;> rfl

@[simp] theorem alarms_closes :
    (l.carryOut id (.closes e how r)).alarms = e.alarm.elim l.alarms l.alarms.retire := by
  cases charged : e.alarm <;> cases how <;> simp [carryOut, close, tally, charged]

end CarryOut

theorem get?_carryOut_of_ne (l : Ledger) (d : Deed) (other : j ≠ id) :
    (l.carryOut id d).pending.get? j = l.pending.get? j := by
  cases d with
  | refuses => rfl
  | opens => exact Table.get?_insert_of_ne _ _ other
  | closes => rw [pending_closes, Table.get?_erase_of_ne _ other]

theorem length_le_carryOut : l.waiters.length ≤ (l.carryOut id d).waiters.length := by
  cases d with
  | refuses => exact Nat.le_refl _
  | opens => simp
  | closes => simp

end Deeds

section Renaming

structure Renames (ρ : Perm Nat) (l m : Ledger) : Prop where
  pending : ∀ id, m.pending.get? id = (l.pending.get? id).map (·.rename ρ)
  waiters : ∀ w, m.waiters[ρ w]? = l.waiters[w]?
  unused : ∀ w, l.waiters.length ≤ w → ρ w = w
  count : m.count = l.count
  alarms : m.alarms = l.alarms
  members : m.members = l.members

namespace Renames

theorem refl (l : Ledger) : Renames (.refl Nat) l l where
  pending id := by simp [Entry.rename]
  waiters _ := rfl
  unused _ _ := rfl
  count := rfl
  alarms := rfl
  members := rfl

variable (renames : Renames ρ l m)

include renames

theorem length_eq : m.waiters.length = l.waiters.length := by
  have next := renames.unused l.waiters.length (Nat.le_refl _)
  have upper : m.waiters.length ≤ l.waiters.length := by
    have same := renames.waiters l.waiters.length
    rwa [next, List.getElem?_eq_none (Nat.le_refl _), List.getElem?_eq_none_iff] at same
  refine Nat.le_antisymm upper (Nat.le_of_not_lt fun fewer => ?_)
  -- The first number that `m` has no waiter for is that of no waiter of `l` either.
  have same := renames.waiters (ρ.symm m.waiters.length)
  rw [ρ.apply_symm_apply, List.getElem?_eq_none (Nat.le_refl _)] at same
  have beyond := List.getElem?_eq_none_iff.mp same.symm
  have fixed := renames.unused _ beyond
  rw [ρ.apply_symm_apply] at fixed
  omega

theorem trans (second : Renames ρ' m n) : Renames (ρ.trans ρ') l n where
  pending id := by
    rw [second.pending, renames.pending, Option.map_map]
    rfl
  waiters w := (second.waiters (ρ w)).trans (renames.waiters w)
  unused w beyond := by
    rw [Equiv.trans_apply, renames.unused w beyond]
    exact second.unused w (renames.length_eq ▸ beyond)
  count := second.count.trans renames.count
  alarms := second.alarms.trans renames.alarms
  members := second.members.trans renames.members

theorem symm : Renames ρ.symm m l where
  pending id := by
    rw [renames.pending, Option.map_map]
    simp [Function.comp_def, Entry.rename]
  waiters w := by rw [← renames.waiters, ρ.apply_symm_apply]
  unused w beyond := ρ.symm_apply_eq.mpr (renames.unused w (renames.length_eq ▸ beyond)).symm
  count := renames.count.symm
  alarms := renames.alarms.symm
  members := renames.members.symm

theorem opens (id : CorrelationId) (sender recipient : ComponentId) (since timeout : Duration) :
    Renames ρ (l.carryOut id (.opens sender recipient since timeout))
      (m.carryOut id (.opens sender recipient since timeout)) where
  pending j := by
    simp only [pending_opens, Table.get?_insert]
    split
    · simp [Entry.rename, renames.length_eq, renames.unused]
    · exact renames.pending j
  waiters w := by
    simp only [waiters_opens]
    by_cases old : w < l.waiters.length
    · have known := renames.waiters w
      rw [List.getElem?_eq_getElem old] at known
      rw [List.getElem?_append_left old, List.getElem?_eq_getElem old,
        List.getElem?_append_left (List.getElem?_eq_some_iff.mp known).1, known]
    · have beyond := Nat.le_of_not_lt old
      rw [renames.unused w beyond, List.getElem?_append_right beyond,
        List.getElem?_append_right (renames.length_eq.symm ▸ beyond), renames.length_eq]
  unused w beyond := by
    simp only [waiters_opens, List.length_append] at beyond
    exact renames.unused w (by omega)
  count := renames.count
  alarms := renames.alarms
  members := renames.members

theorem closes (id : CorrelationId) (e : Entry) (how : Closing) (r : Response) :
    Renames ρ (l.carryOut id (.closes e how r)) (m.carryOut id (.closes (e.rename ρ) how r)) where
  pending j := by
    simp only [pending_closes, Table.get?_erase]
    split
    · rfl
    · exact renames.pending j
  waiters w := by
    simp only [waiters_closes, List.getElem?_modify, Entry.rename, ρ.injective.eq_iff,
      renames.waiters]
  unused w beyond := by
    rw [waiters_closes, List.length_modify] at beyond
    exact renames.unused w beyond
  count := funext fun k => by rw [count_closes, count_closes, renames.count]
  alarms := by simp only [alarms_closes, renames.alarms, Entry.rename]
  members := by simp only [members_carryOut, renames.members]

theorem carryOut (id : CorrelationId) (d : Deed) :
    Renames ρ (l.carryOut id d) (m.carryOut id (d.rename ρ)) := by
  cases d with
  | refuses => exact renames
  | opens sender recipient since timeout => exact renames.opens id sender recipient since timeout
  | closes e how r => exact renames.closes id e how r

theorem told (d : Deed) : (d.rename ρ).told m = (d.told l).rename ρ := by
  cases d with
  | refuses | closes => rfl
  | opens =>
    simp [Deed.rename, Deed.told, Told.rename, Except.map, renames.length_eq, renames.unused]

theorem act (comes : ∃ id deed, a.Comes now id deed) :
    Renames ρ (l.after ⟨now, a⟩) (m.after ⟨now, a⟩) ∧
      m.tells now a = (l.tells now a).rename ρ := by
  obtain ⟨id, deed, comes⟩ := comes
  rw [comes.after, comes.after, comes.tells, comes.tells, renames.pending, comes.rename]
  exact ⟨renames.carryOut id _, renames.told _⟩

end Renames

theorem Renames.run (renames : Renames ρ l m) {acts : List Act}
    (named : ∀ a ∈ acts, a.exchange?.isSome) :
    Renames ρ (l.run (batch now acts)) (m.run (batch now acts)) ∧
      m.answers now acts = (l.answers now acts).map fun p => (p.1, p.2.rename ρ) := by
  induction acts generalizing l m with
  | nil => exact ⟨renames, rfl⟩
  | cons a acts ih =>
    obtain ⟨first, others⟩ := List.forall_mem_cons.mp named
    obtain ⟨id, chosen⟩ := Option.isSome_iff_exists.mp first
    obtain ⟨after, told⟩ := renames.act ⟨id, exists_comes now chosen⟩
    obtain ⟨still, answers⟩ := ih after others
    refine ⟨still, ?_⟩
    rw [Ledger.answers, Ledger.answers, told, answers]
    rfl

end Renaming

section Pairs

/-- Whichever of two deeds is done first, the other one comes to the same, and so do both; their
waiters alone may be numbered the other way round. -/
def Interchange (l : Ledger) (id : CorrelationId) (d : Deed) (j : CorrelationId) (d' : Deed) :
    Prop :=
  ∃ ρ : Perm Nat, (∀ w < l.waiters.length, ρ w = w) ∧
    Renames ρ ((l.carryOut id d).carryOut j d') ((l.carryOut j d').carryOut id d) ∧
    d.told (l.carryOut j d') = (d.told l).rename ρ ∧
    d'.told l = (d'.told (l.carryOut id d)).rename ρ

@[simp] theorem Told.rename_refl (told : Told) : told.rename (.refl Nat) = told := by
  cases told <;> simp [Told.rename, Except.map]

@[simp] theorem Told.rename_rename (told : Told) (ρ ρ' : Perm Nat) :
    (told.rename ρ).rename ρ' = told.rename (ρ.trans ρ') := by
  cases told <;> simp [Told.rename, Except.map, Function.comp_def]

theorem Interchange.symm (interchange : l.Interchange id d j d') : l.Interchange j d' id d := by
  obtain ⟨ρ, fixed, renames, told, told'⟩ := interchange
  refine ⟨ρ.symm, fun w old => ρ.symm_apply_eq.mpr (fixed w old).symm, renames.symm, ?_, ?_⟩
  · simp [told']
  · simp [told]

theorem interchange_refuses (l : Ledger) (id j : CorrelationId) (error : ExchangeError)
    (d' : Deed) : l.Interchange id (.refuses error) j d' :=
  ⟨.refl Nat, fun _ _ => rfl, .refl _, rfl, (Told.rename_refl _).symm⟩

theorem Served.lt (served : l.Served) {e : Entry} (pending : l.pending.get? id = some e) :
    e.waiter < l.waiters.length := by
  obtain ⟨w, known, _⟩ := served.waits pending
  exact (List.getElem?_eq_some_iff.mp known).1

theorem interchange_opens (served : l.Served) (other : id ≠ j)
    (sender recipient sender' recipient' : ComponentId) (since timeout since' timeout' : Duration) :
    l.Interchange id (.opens sender recipient since timeout) j
      (.opens sender' recipient' since' timeout') := by
  have fixed : ∀ w, w ≠ l.waiters.length → w ≠ l.waiters.length + 1 →
      Equiv.swap l.waiters.length (l.waiters.length + 1) w = w :=
    fun w => Equiv.swap_apply_of_ne_of_ne
  refine ⟨.swap l.waiters.length (l.waiters.length + 1),
    fun w old => fixed w (by omega) (by omega),
    ⟨fun k => ?_, fun w => ?_, fun w beyond => ?_, rfl, rfl, rfl⟩, ?_, ?_⟩
  · simp only [pending_opens, waiters_opens, Table.get?_insert, List.length_append,
      List.length_singleton]
    by_cases first : k = id
    · simp [first, Entry.rename, other]
    by_cases second : k = j
    · simp [second, Entry.rename, Ne.symm other]
    · rw [if_neg first, if_neg second, if_neg second, if_neg first]
      cases here : l.pending.get? k with
      | none => rfl
      | some e =>
        have old := served.lt here
        rw [Option.map_some, Entry.rename, fixed e.waiter (by omega) (by omega)]
  · simp only [waiters_opens]
    by_cases first : w = l.waiters.length
    · simp [first]
    by_cases second : w = l.waiters.length + 1
    · simp [second]
    · rw [fixed w first second]
  · simp only [waiters_opens, List.length_append, List.length_singleton] at beyond
    exact fixed w (by omega) (by omega)
  · simp [Deed.told, Told.rename, Except.map]
  · simp [Deed.told, Told.rename, Except.map]

theorem renames_refl_iff {m n : Ledger} : Renames (.refl Nat) m n ↔
    n.pending.get? = m.pending.get? ∧ n.waiters = m.waiters ∧ n.count = m.count ∧
      n.alarms = m.alarms ∧ n.members = m.members := by
  have kept : ∀ o : Option Entry, o.map (·.rename (.refl Nat)) = o := fun o => by
    simp [Entry.rename]
  constructor
  · intro renames
    exact ⟨funext fun id => (renames.pending id).trans (kept _), List.ext_getElem? renames.waiters,
      renames.count, renames.alarms, renames.members⟩
  · rintro ⟨pending, waiters, count, alarms, members⟩
    exact ⟨fun id => by rw [pending, kept], fun w => by rw [waiters]; rfl, fun _ _ => rfl, count,
      alarms, members⟩

theorem interchange_closes_opens (served : l.Served) (other : id ≠ j) {e : Entry}
    (pending : l.pending.get? id = some e) (how : Closing) (r : Response)
    (sender recipient : ComponentId) (since timeout : Duration) :
    l.Interchange id (.closes e how r) j (.opens sender recipient since timeout) := by
  have old := served.lt pending
  refine ⟨.refl Nat, fun _ _ => rfl, renames_refl_iff.mpr
    ⟨funext fun k => ?_, List.ext_getElem? fun w => ?_, funext fun k => ?_, ?_, ?_⟩, rfl, ?_⟩
  · simp only [pending_opens, pending_closes, waiters_closes, Table.get?_insert, Table.get?_erase,
      List.length_modify]
    by_cases own : k = id
    · simp [own, other]
    · rw [if_neg own, if_neg own]
  · simp only [waiters_opens, waiters_closes, List.getElem?_modify, List.getElem?_append,
      List.length_modify]
    by_cases own : e.waiter = w
    · rw [if_pos (own ▸ old), if_pos (own ▸ old)]
    · simp [own]
  · simp
  · simp
  · simp
  · simp [Deed.told]

theorem interchange_closes (served : l.Served) (other : id ≠ j) {e e' : Entry}
    (pending : l.pending.get? id = some e) (pending' : l.pending.get? j = some e')
    (how how' : Closing) (r r' : Response) :
    l.Interchange id (.closes e how r) j (.closes e' how' r') := by
  have differ : e.waiter ≠ e'.waiter := fun same => other (served.apart pending pending' same)
  refine ⟨.refl Nat, fun _ _ => rfl, renames_refl_iff.mpr
    ⟨funext fun k => ?_, List.ext_getElem? fun w => ?_, funext fun k => ?_, ?_, ?_⟩, rfl, rfl⟩
  · simp only [pending_closes, Table.get?_erase]
    split <;> split <;> rfl
  · simp only [waiters_closes, List.getElem?_modify]
    by_cases own : e.waiter = w
    · simp [own, own ▸ differ.symm]
    · simp [own]
  · rw [count_closes, count_closes, count_closes, count_closes, Nat.add_right_comm]
  · simp only [alarms_closes]
    cases e.alarm with
    | none => rfl
    | some alarm =>
      cases e'.alarm with
      | none => rfl
      | some alarm' => exact Alarms.retire_comm ..
  · simp

theorem interchange (served : l.Served) (other : id ≠ j) (suits : d.Suits (l.pending.get? id))
    (suits' : d'.Suits (l.pending.get? j)) : l.Interchange id d j d' := by
  cases d with
  | refuses error => exact interchange_refuses l id j error d'
  | opens sender recipient since timeout =>
    cases d' with
    | refuses error => exact (interchange_refuses l j id error _).symm
    | opens => exact interchange_opens served other ..
    | closes e how r => exact (interchange_closes_opens served (Ne.symm other) suits' ..).symm
  | closes e how r =>
    cases d' with
    | refuses error => exact (interchange_refuses l j id error _).symm
    | opens => exact interchange_closes_opens served other suits ..
    | closes => exact interchange_closes served other suits suits' ..

theorem acts_interchange (served : l.Served) {deed deed' : Option Entry → Deed}
    (comes : a.Comes now id deed) (comes' : b.Comes now j deed') (other : id ≠ j) :
    ∃ ρ : Perm Nat, (∀ w < l.waiters.length, ρ w = w) ∧
      Renames ρ ((l.after ⟨now, a⟩).after ⟨now, b⟩) ((l.after ⟨now, b⟩).after ⟨now, a⟩) ∧
      (l.after ⟨now, b⟩).tells now a = (l.tells now a).rename ρ ∧
      l.tells now b = ((l.after ⟨now, a⟩).tells now b).rename ρ := by
  simp only [comes.after, comes'.after, comes.tells, comes'.tells,
    get?_carryOut_of_ne _ _ other, get?_carryOut_of_ne _ _ other.symm]
  exact interchange served other (comes.suits _) (comes'.suits _)

end Pairs

section Batches

variable {acts acts' : List Act}

theorem lt_of_tells {deed : Option Entry → Deed} (comes : a.Comes now id deed) {w : Nat}
    (told : l.tells now a = .ok (some w)) : w < (l.after ⟨now, a⟩).waiters.length := by
  rw [comes.tells] at told
  rw [comes.after]
  cases come : deed (l.pending.get? id) with
  | refuses | closes =>
    rw [come] at told
    cases told
  | opens =>
    rw [come] at told
    cases told
    simp

/-- Acts on different exchanges, performed at one instant, can be put in any other order: each is
told the same, the same exchanges are pending, with the same alarms, the counts are the same, and
every waiter has been handed the same, but the waiters that are new may be numbered otherwise. -/
theorem acts_commute (served : l.Served) (order : acts.Perm acts')
    (named : ∀ a ∈ acts, a.exchange?.isSome) (apart : (acts.map Act.exchange?).Nodup) :
    ∃ ρ : Perm Nat, (∀ w < l.waiters.length, ρ w = w) ∧
      Renames ρ (l.run (batch now acts)) (l.run (batch now acts')) ∧
      (l.answers now acts').Perm ((l.answers now acts).map fun p => (p.1, p.2.rename ρ)) := by
  induction order generalizing l with
  | nil => exact ⟨.refl Nat, fun _ _ => rfl, .refl l, .nil⟩
  | @cons a acts acts' _ ih =>
    obtain ⟨first, others⟩ := List.forall_mem_cons.mp named
    obtain ⟨id, chosen⟩ := Option.isSome_iff_exists.mp first
    obtain ⟨deed, comes⟩ := exists_comes now chosen
    obtain ⟨ρ, fixed, renames, answers⟩ := ih (served.after ⟨now, a⟩) others
      (List.nodup_cons.mp apart).2
    have more : l.waiters.length ≤ (l.after ⟨now, a⟩).waiters.length :=
      comes.after l ▸ length_le_carryOut
    have kept : (l.tells now a).rename ρ = l.tells now a := by
      cases told : l.tells now a with
      | error => rfl
      | ok number =>
        cases number with
        | none => rfl
        | some w => simp [Told.rename, Except.map, fixed w (lt_of_tells comes told)]
    refine ⟨ρ, fun w old => fixed w (Nat.lt_of_lt_of_le old more), renames, ?_⟩
    simp only [Ledger.answers, List.map_cons, kept]
    exact answers.cons _
  | swap a b acts =>
    obtain ⟨nameB, named⟩ := List.forall_mem_cons.mp named
    obtain ⟨nameA, others⟩ := List.forall_mem_cons.mp named
    obtain ⟨j, chosenB⟩ := Option.isSome_iff_exists.mp nameB
    obtain ⟨id, chosenA⟩ := Option.isSome_iff_exists.mp nameA
    obtain ⟨_, comesB⟩ := exists_comes now chosenB
    obtain ⟨_, comesA⟩ := exists_comes now chosenA
    have other : j ≠ id := by
      rintro rfl
      simp [chosenA, chosenB] at apart
    obtain ⟨ρ, fixed, renames, toldB, toldA⟩ := acts_interchange served comesB comesA other
    obtain ⟨still, answers⟩ := renames.run others
    refine ⟨ρ, fixed, still, ?_⟩
    simp only [Ledger.answers, List.map_cons, toldA, toldB, answers]
    exact .swap ..
  | @trans acts mid acts' order _ ih ih' =>
    obtain ⟨ρ, fixed, renames, answers⟩ := ih served named apart
    obtain ⟨ρ', fixed', renames', answers'⟩ := ih' served
      (fun a mem => named a (order.mem_iff.mpr mem)) ((order.map _).nodup_iff.mp apart)
    refine ⟨ρ.trans ρ', fun w old => ?_, renames.trans renames', ?_⟩
    · rw [Equiv.trans_apply, fixed w old, fixed' w old]
    · refine answers'.trans ((answers.map _).trans ?_)
      simp [Function.comp_def]

/-- A response, two registrations and a cancellation that finds nothing, in reverse order: the
waiters of the registrations change their numbers. -/
theorem mixed_acts_commute :
    let id := CorrelationId.issued
    let l : Ledger := run {} [⟨⟨0⟩, .register (id 0) ⟨"a"⟩ ⟨"b"⟩ ⟨5⟩⟩, ⟨⟨0⟩, .arm (id 0) ⟨5⟩⟩,
      ⟨⟨0⟩, .attach (id 0) ⟨0, id 0, ⟨5⟩⟩⟩]
    let acts : List Act := [.resolve (id 0) ⟨id 0, ⟨"b"⟩, ⟨"a"⟩, .ok [1], ⟨1⟩⟩,
      .register (id 1) ⟨"a"⟩ ⟨"b"⟩ ⟨5⟩, .cancel (id 2) .cancelled, .register (id 3) ⟨"b"⟩ ⟨"a"⟩ ⟨5⟩]
    l.alarms.armed ≠ [] ∧
      (l.answers ⟨1⟩ acts).map Prod.snd =
        [.ok none, .ok (some 1), .error (.unknown (id 2)), .ok (some 2)] ∧
      ∃ ρ : Perm Nat, (∀ w < l.waiters.length, ρ w = w) ∧
        Renames ρ (l.run (batch ⟨1⟩ acts)) (l.run (batch ⟨1⟩ acts.reverse)) ∧
        (l.answers ⟨1⟩ acts.reverse).Perm
          ((l.answers ⟨1⟩ acts).map fun p => (p.1, p.2.rename ρ)) := by
  intro id l acts
  refine ⟨by decide, rfl, acts_commute ?_ acts.reverse_perm.symm ?_ ?_⟩
  · exact served_empty.run _
  · decide
  · decide

end Batches

end Ledger

end ComponentHost
